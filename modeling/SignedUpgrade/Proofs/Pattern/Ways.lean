import Mathlib.Data.List.Basic
import Mathlib.Tactic.Lemma
import SignedUpgrade.Pattern.Ways

/-!
# Runs and their ways

A run may be tried in many ways.  Often only one of them leads on, and then the order is of no
importance; where several do, the first one decides.

* `mem_runs` — **the ways are all ways to cut a run off a text;**
* `flatMap_runs` — if nothing goes on inside a run, only its whole leads on;
* `head?_runs_longestFirst`, `head?_flatMap_of_head?` — the first way of all.
-/

namespace SignedUpgrade.Pattern

variable {α β : Type} {order : Order} {set : CharSet} {least : Nat} {c : Char}
  {text taken rest r : List Char} {way : List Char × List Char}

lemma mem_arrange {a : α} {longer shorter : List α} :
    a ∈ order.arrange longer shorter ↔ a ∈ longer ∨ a ∈ shorter := by
  cases order with
  | longestFirst => exact List.mem_append
  | shortestFirst => exact List.mem_append.trans or_comm

lemma mem_runEnds : way ∈ runEnds least text ↔ least = 0 ∧ way = ([], text) := by
  unfold runEnds
  split <;> simp [*]

/-- A run ends in front of a character or goes on behind it, whatever is tried first. -/
lemma mem_runs_cons : way ∈ runs order set least (c :: r)
    ↔ (least = 0 ∧ way = ([], c :: r))
      ∨ set.holds c = true ∧ ∃ later ∈ runs order set (least - 1) r,
        way = (c :: later.1, later.2) := by
  have goesOn : way ∈ (if set.holds c then
        (runs order set (least - 1) r).map fun way => (c :: way.1, way.2) else [])
      ↔ set.holds c = true ∧ ∃ later ∈ runs order set (least - 1) r,
        way = (c :: later.1, later.2) := by
    split
    · rename_i holds
      simp [holds, eq_comm]
    · rename_i other
      simp [other]
  rw [runs, mem_arrange, goesOn, mem_runEnds, or_comm]

/-- **The ways of a run are all ways to cut it off a text.** -/
lemma mem_runs : (taken, rest) ∈ runs order set least text
    ↔ text = taken ++ rest ∧ (∀ c ∈ taken, set.holds c = true) ∧ least ≤ taken.length := by
  induction text generalizing taken least with
  | nil =>
    rw [runs, mem_runEnds]
    constructor
    · rintro ⟨rfl, cut⟩
      cases cut
      exact ⟨rfl, List.forall_mem_nil _, Nat.le_refl _⟩
    · rintro ⟨cut, _, enough⟩
      obtain ⟨rfl, rfl⟩ := List.append_eq_nil_iff.1 cut.symm
      exact ⟨Nat.le_zero.1 enough, rfl⟩
  | cons c r ih =>
    rw [mem_runs_cons]
    constructor
    · rintro (⟨rfl, cut⟩ | ⟨holds, ⟨later, rest⟩, mem, cut⟩)
      · cases cut
        exact ⟨rfl, List.forall_mem_nil _, Nat.le_refl _⟩
      · cases cut
        obtain ⟨rfl, all, enough⟩ := ih.1 mem
        exact ⟨rfl, List.forall_mem_cons.2 ⟨holds, all⟩, Nat.sub_le_iff_le_add.1 enough⟩
    · rintro ⟨cut, all, enough⟩
      cases taken with
      | nil => exact .inl ⟨Nat.le_zero.1 enough, Prod.ext rfl cut.symm⟩
      | cons d taken =>
        obtain ⟨rfl, rfl⟩ := List.cons.inj cut
        obtain ⟨holds, all⟩ := List.forall_mem_cons.1 all
        exact .inr ⟨holds, (taken, rest), ih.2 ⟨rfl, all, Nat.sub_le_iff_le_add.2 enough⟩, rfl⟩

/-- Where a character is missing, there is no run. -/
lemma runs_of_other (other : set.holds c = false) : runs order set (least + 1) (c :: r) = [] := by
  refine List.eq_nil_iff_forall_not_mem.2 fun way mem => ?_
  rcases mem_runs_cons.1 mem with ⟨none, _⟩ | ⟨holds, _⟩
  · cases none
  · rw [other] at holds
    cases holds

/-- The end of a run is one of its ways, and the only one where no other character of the set
follows. -/
lemma runs_of_stop (stop : ∀ c ∈ rest.head?, set.holds c = false) :
    runs order set 0 rest = [([], rest)] := by
  cases rest with
  | nil => rfl
  | cons c r =>
    have other := stop c rfl
    cases order <;> simp [runs, Order.arrange, runEnds, other]

/-- **If nothing goes on inside a run, only its whole leads on.** -/
lemma flatMap_runs {goesOn : List Char × List Char → List β}
    (all : ∀ c ∈ taken, set.holds c = true) (enough : least ≤ taken.length)
    (stop : ∀ c ∈ rest.head?, set.holds c = false)
    (stuck : ∀ taken c r, set.holds c = true → goesOn (taken, c :: r) = []) :
    (runs order set least (taken ++ rest)).flatMap goesOn = goesOn (taken, rest) := by
  induction taken generalizing least goesOn with
  | nil =>
    rw [Nat.le_zero.1 enough, List.nil_append, runs_of_stop stop, List.flatMap_singleton]
  | cons c taken ih =>
    obtain ⟨holds, all⟩ := List.forall_mem_cons.1 all
    have later : ((runs order set (least - 1) (taken ++ rest)).map
        fun way => (c :: way.1, way.2)).flatMap goesOn = goesOn (c :: taken, rest) := by
      rw [List.flatMap_map]
      exact ih all (Nat.sub_le_iff_le_add.2 enough) fun taken d r => stuck (c :: taken) d r
    have here : (runEnds least (c :: (taken ++ rest))).flatMap goesOn = [] := by
      refine List.flatMap_eq_nil_iff.2 fun way mem => ?_
      rw [(mem_runEnds.1 mem).2]
      exact stuck [] c _ holds
    rw [List.cons_append, runs, if_pos holds]
    cases order with
    | longestFirst => rw [Order.arrange, List.flatMap_append, later, here, List.append_nil]
    | shortestFirst => rw [Order.arrange, List.flatMap_append, later, here, List.nil_append]

/-- The longest run is tried first. -/
lemma head?_runs_longestFirst (all : ∀ c ∈ taken, set.holds c = true)
    (enough : least ≤ taken.length) (stop : ∀ c ∈ rest.head?, set.holds c = false) :
    (runs .longestFirst set least (taken ++ rest)).head? = some (taken, rest) := by
  induction taken generalizing least with
  | nil => rw [Nat.le_zero.1 enough, List.nil_append, runs_of_stop stop, List.head?_singleton]
  | cons c taken ih =>
    obtain ⟨holds, all⟩ := List.forall_mem_cons.1 all
    have later := ih all (Nat.sub_le_iff_le_add.2 enough)
    rw [List.cons_append, runs, if_pos holds, Order.arrange, List.head?_append,
      List.head?_map, later]
    rfl

/-- If the first way leads on, it decides. -/
lemma head?_flatMap_of_head? {ways : List α} {goesOn : α → List β} {a : α} {b : β}
    (first : ways.head? = some a) (leads : (goesOn a).head? = some b) :
    (ways.flatMap goesOn).head? = some b := by
  obtain ⟨others, rfl⟩ := List.head?_eq_some_iff.1 first
  rw [List.flatMap_cons, List.head?_append, leads]
  rfl

end SignedUpgrade.Pattern
