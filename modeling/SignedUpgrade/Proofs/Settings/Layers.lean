import SignedUpgrade.Proofs.Settings.Asking

/-!
# Layers of stores

Layers can have layers in them.  Whatever the nesting, asking a tree of stores is one walk along its
leaves, from left to right, which ends behind the first leaf that settles the matter.

* `LayerTree` — trees of layers over leaves, as a store and as the list of their leaves;
* `Recorded`, `LayerTree.queries` — the queries that a tree leads to, taken down at the leaves;
* `Told`, `Walk` — what it means to walk along leaves;
* `scan` — the walk as a function of the leaves;
* `LayerTree.walks` — the main statement: a tree walks along its leaves, and how they are grouped
  changes neither the answer nor the queries.

The leaves may be any stores: asking one may fail, and may change files and the outside.
-/

namespace SignedUpgrade

open Text

/-! ## Findings -/

namespace Finding

/-- Nothing behind a failure, or behind a value that is not blank, is looked at. -/
def settles : Finding → Bool
  | .error _ => true
  | .ok none => false
  | .ok (some value) => !allBlank value

/-- The value that was found. -/
def value? : Finding → Option String
  | .ok value => value
  | .error _ => none

/-- What findings come to behind a blank value, if there is one: the first that settles, or else the
first blank value. -/
def sumUp (blank : Option String) (findings : List Finding) : Finding :=
  (findings.find? settles).getD (.ok (blank <|> findings.findSome? value?))

/-- Where something settles, a blank value does not matter. -/
lemma sumUp_of_settled {blank : Option String} {findings : List Finding}
    (settled : findings.any settles = true) : sumUp blank findings = sumUp none findings := by
  obtain ⟨finding, first⟩ := Option.isSome_iff_exists.1
    ((List.find?_isSome).2 (List.any_eq_true.1 settled))
  simp [sumUp, first]

lemma sumUp_append_of_open {blank : Option String} {findings more : List Finding}
    (unsettled : findings.any settles = false) :
    sumUp blank (findings ++ more) = sumUp (blank <|> findings.findSome? value?) more := by
  have nothing : findings.find? settles = none := by
    simpa [List.find?_eq_none] using unsettled
  simp [sumUp, List.find?_append, nothing, List.findSome?_append, Option.or_assoc]

/-- What findings come to settles if one of them does. -/
lemma settles_sumUp {blank : Option String} {findings : List Finding}
    (settled : findings.any settles = true) : settles (sumUp blank findings) = true := by
  obtain ⟨finding, first⟩ := Option.isSome_iff_exists.1
    ((List.find?_isSome).2 (List.any_eq_true.1 settled))
  simpa [sumUp, first] using List.find?_some first

/-- Where nothing settles, there is only the first blank value. -/
lemma sumUp_of_open {blank : Option String} {findings : List Finding}
    (unsettled : findings.any settles = false) :
    sumUp blank findings = .ok (blank <|> findings.findSome? value?) := by
  have nothing : findings.find? settles = none := by
    simpa [List.find?_eq_none] using unsettled
  simp [sumUp, nothing]

/-- What findings come to does not settle if none of them does. -/
lemma settles_sumUp_of_open {findings : List Finding} (unsettled : findings.any settles = false) :
    settles (sumUp none findings) = false := by
  rw [sumUp_of_open unsettled]
  cases found : findings.findSome? value? with
  | none => rfl
  | some value =>
    obtain ⟨finding, mem, given⟩ := List.exists_of_findSome?_eq_some found
    have here : settles finding = false := by
      simpa using (List.any_eq_false.1 unsettled) finding mem
    cases finding with
    | error f => cases given
    | ok answer =>
      cases given
      exact here

end Finding

/-! ## Trees of layers -/

/-- A tree of layers; an earlier branch goes before a later one. -/
inductive LayerTree (ι : Type) where
  | leaf (i : ι)
  | layers (trees : List (LayerTree ι))

variable {ι σ : Type}

namespace LayerTree

/-- The leaves of a tree from left to right. -/
def leaves : LayerTree ι → List ι
  | .leaf i => [i]
  | .layers trees => trees.flatMap leaves

/-- A tree as one store, with a store for each leaf. -/
def store (leaf : ι → Store σ) : LayerTree ι → Store σ
  | .leaf i => leaf i
  | .layers trees => .layered (trees.map (store leaf))

end LayerTree

/-! ## Queries -/

/-- What one leaf was asked and what it found. -/
structure Query (ι : Type) where
  leaf : ι
  key : String
  finding : Finding

/-- The state of an outside in which queries are taken down. -/
structure Recorded (ι σ : Type) where
  inner : σ
  queries : List (Query ι)

namespace Site

/-- A site with queries that were taken down so far. -/
def recorded (site : Site σ) (queries : List (Query ι)) : Site (Recorded ι σ) where
  files := site.files
  outside := { inner := site.outside, queries }
  log := site.log

/-- A site as the leaves see it. -/
def unrecorded (site : Site (Recorded ι σ)) : Site σ where
  files := site.files
  outside := site.outside.inner
  log := site.log

end Site

/-- Leaves that find what others find, and take every query down. -/
def takingDown (leaf : ι → Store σ) (i : ι) : Store (Recorded ι σ) where
  name := (leaf i).name
  ask key := ExceptT.mk fun site =>
    let (finding, after) := ((leaf i).ask key).run site.unrecorded
    (finding, after.recorded (site.outside.queries ++ [⟨i, key, finding⟩]))

/-- The queries that asking a tree for a key leads to, in order. -/
def LayerTree.queries (tree : LayerTree ι) (leaf : ι → Store σ) (key : String) (site : Site σ) :
    List (Query ι) :=
  (((tree.store (takingDown leaf)).ask key).run (site.recorded [])).2.outside.queries

/-! ## Walking along leaves -/

variable {leaf : ι → Store σ} {key : String}

/-- Queries that are made one after the other: each leaf finds what it finds where the one before
left the site. -/
inductive Told (leaf : ι → Store σ) (key : String) : Site σ → List (Query ι) → Site σ → Prop
  | nothing (site : Site σ) : Told leaf key site [] site
  | next {site after last : Site σ} {i : ι} {finding : Finding} {queries : List (Query ι)}
      (found : ((leaf i).ask key).run site = (finding, after))
      (more : Told leaf key after queries last) :
      Told leaf key site (⟨i, key, finding⟩ :: queries) last

/-- A walk along leaves, up to the first finding that settles, with its result. -/
structure Walk (leaf : ι → Store σ) (key : String) (site : Site σ) (leaves : List ι)
    (queries : List (Query ι)) (result : Finding × Site σ) : Prop where
  /-- The leaves are asked from left to right, and leave the site as it is in the end, but for the
  log. -/
  told : ∃ last, Told leaf key site queries last ∧ last.Logged result.2
  inOrder : queries.map (·.leaf) <+: leaves
  /-- The walk goes on where a finding does not settle. -/
  goesOn : ∀ query ∈ queries.dropLast, query.finding.settles = false
  /-- It ends with a finding that settles, which is the answer; or else with the last leaf, and with
  the first blank value as the answer. -/
  answers :
    (∃ query, queries.getLast? = some query ∧ query.finding.settles = true
      ∧ result.1 = query.finding)
    ∨ (queries.map (·.leaf) = leaves ∧ (∀ query ∈ queries, query.finding.settles = false)
      ∧ result.1 = .ok (queries.findSome? fun query => query.finding.value?))

/-- Asks leaves in order, up to the first finding that settles: the queries, and the site then. -/
def scan (leaf : ι → Store σ) (key : String) : List ι → Site σ → List (Query ι) × Site σ
  | [], site => ([], site)
  | i :: is, site =>
    let (finding, after) := ((leaf i).ask key).run site
    if Finding.settles finding then ([⟨i, key, finding⟩], after)
    else
      let (queries, last) := scan leaf key is after
      (⟨i, key, finding⟩ :: queries, last)

/-- What queries found. -/
def findingsOf (queries : List (Query ι)) : List Finding :=
  queries.map (·.finding)

lemma findingsOf_append (queries more : List (Query ι)) :
    findingsOf (queries ++ more) = findingsOf queries ++ findingsOf more :=
  List.map_append

section Scan

variable {site after : Site σ} {i : ι} {finding : Finding}

lemma scan_of_settles (is : List ι) (found : ((leaf i).ask key).run site = (finding, after))
    (settled : finding.settles = true) :
    scan leaf key (i :: is) site = ([⟨i, key, finding⟩], after) := by
  simp [scan, found, settled]

lemma scan_of_open (is : List ι) (found : ((leaf i).ask key).run site = (finding, after))
    (unsettled : finding.settles = false) :
    scan leaf key (i :: is) site
      = (⟨i, key, finding⟩ :: (scan leaf key is after).1, (scan leaf key is after).2) := by
  simp [scan, found, unsettled]

/-- Behind leaves that settle, no other is asked. -/
lemma scan_append_of_settled {is : List ι} {queries : List (Query ι)} {last : Site σ}
    (walk : scan leaf key is site = (queries, last))
    (settled : (findingsOf queries).any Finding.settles = true) (js : List ι) :
    scan leaf key (is ++ js) site = (queries, last) := by
  fun_induction scan leaf key is site generalizing queries last with
  | case1 =>
    cases walk
    cases settled
  | case2 i is site finding after found settles =>
    rw [List.cons_append, scan_of_settles _ found settles, walk]
  | case3 i is site finding after found unsettled more end_ later ih =>
    cases walk
    have open_ : Finding.settles finding = false := by simpa using unsettled
    have rest : (findingsOf more).any Finding.settles = true := by
      simpa [findingsOf, open_] using settled
    rw [List.cons_append, scan_of_open _ found open_, ih later rest]

/-- Behind leaves that do not settle, the walk goes on. -/
lemma scan_append_of_open {is : List ι} {queries : List (Query ι)} {last : Site σ}
    (walk : scan leaf key is site = (queries, last))
    (unsettled : (findingsOf queries).any Finding.settles = false) (js : List ι) :
    scan leaf key (is ++ js) site
      = (queries ++ (scan leaf key js last).1, (scan leaf key js last).2) := by
  fun_induction scan leaf key is site generalizing queries last with
  | case1 =>
    cases walk
    rfl
  | case2 i is site finding after found settles =>
    cases walk
    simp [findingsOf, settles] at unsettled
  | case3 i is site finding after found goesOn more end_ later ih =>
    cases walk
    have open_ : Finding.settles finding = false := by simpa using goesOn
    have rest : (findingsOf more).any Finding.settles = false := by
      simpa [findingsOf, open_] using unsettled
    rw [List.cons_append, scan_of_open _ found open_, ih later rest]
    rfl

lemma scan_told (is : List ι) (site : Site σ) :
    Told leaf key site (scan leaf key is site).1 (scan leaf key is site).2 := by
  fun_induction scan leaf key is site with
  | case1 site => exact .nothing site
  | case2 i is site finding after found => exact .next found (.nothing after)
  | case3 i is site finding after found _ queries last more ih =>
    rw [more] at ih
    exact .next found ih

/-- The leaves that are asked are the first ones. -/
lemma scan_prefix (is : List ι) (site : Site σ) :
    (scan leaf key is site).1.map (·.leaf) <+: is := by
  fun_induction scan leaf key is site with
  | case1 => exact List.prefix_rfl
  | case2 i is => exact ⟨is, rfl⟩
  | case3 i is site finding after found _ queries last more ih =>
    rw [more] at ih
    exact List.cons_prefix_cons.2 ⟨rfl, ih⟩

/-- Only the last finding can settle, and where none does, all leaves are asked. -/
lemma scan_ends (is : List ι) (site : Site σ) :
    (∃ before query, (scan leaf key is site).1 = before ++ [query]
      ∧ query.finding.settles = true ∧ ∀ q ∈ before, q.finding.settles = false)
    ∨ ((scan leaf key is site).1.map (·.leaf) = is
      ∧ ∀ q ∈ (scan leaf key is site).1, q.finding.settles = false) := by
  fun_induction scan leaf key is site with
  | case1 => exact .inr ⟨rfl, by simp⟩
  | case2 i is site finding after found settles => exact .inl ⟨[], _, rfl, settles, by simp⟩
  | case3 i is site finding after found goesOn queries last more ih =>
    have open_ : Finding.settles finding = false := by simpa using goesOn
    rw [more] at ih
    rcases ih with ⟨before, query, same, settled, unsettled⟩ | ⟨same, unsettled⟩
    · refine .inl ⟨⟨i, key, finding⟩ :: before, query, congrArg _ same, settled, ?_⟩
      exact List.forall_mem_cons.2 ⟨open_, unsettled⟩
    · exact .inr ⟨congrArg (i :: ·) same, List.forall_mem_cons.2 ⟨open_, unsettled⟩⟩

end Scan

/-! ## Stores that scan -/

/-- Asking ends as a scan does: with what its findings come to behind a blank value, and with more
lines in the log only if one of them settles. -/
def EndsLike (blank : Option String) (scanned : List (Query ι) × Site σ)
    (result : Finding × Site σ) : Prop :=
  ∃ lines, result
      = (Finding.sumUp blank (findingsOf scanned.1),
          { scanned.2 with log := scanned.2.log ++ lines })
    ∧ ((findingsOf scanned.1).any Finding.settles = false → lines = [])

/-- A store that ends as a scan of leaves does. -/
def Store.Scans (store : Store σ) (leaf : ι → Store σ) (key : String) (leaves : List ι) : Prop :=
  ∀ site, EndsLike none (scan leaf key leaves site) ((store.ask key).run site)

/-- A leaf scans itself. -/
lemma Store.scans_leaf (i : ι) : (leaf i).Scans leaf key [i] := by
  intro site
  rcases found : ((leaf i).ask key).run site with ⟨finding, after⟩
  refine ⟨[], ?_, fun _ => rfl⟩
  cases settles : Finding.settles finding with
  | true =>
    rw [scan_of_settles _ found settles]
    simp [findingsOf, Finding.sumUp, settles]
  | false =>
    rw [scan_of_open _ found settles]
    cases finding with
    | error f => cases settles
    | ok value => simp [findingsOf, Finding.sumUp, settles, scan, Finding.value?]

/-- A store that settles the matter is the last one that is asked. -/
lemma Store.askInOrder_of_settles {store : Store σ} {site after : Site σ} {finding : Finding}
    (blank : Option String) (stores : List (Store σ))
    (found : (store.ask key).run site = (finding, after)) (settled : finding.settles = true) :
    ∃ lines, (askInOrder key blank (store :: stores)).run site
      = (finding, { after with log := after.log ++ lines }) := by
  rw [askInOrder, Asking.run_bind, found]
  cases finding with
  | error f => exact ⟨[], by simp⟩
  | ok answer =>
    cases answer with
    | none => cases settled
    | some value =>
      have filled : allBlank value = false := by simpa [Finding.settles] using settled
      simp only [filled]
      exact ⟨[_], rfl⟩

/-- After any other store the next ones are asked, with the first blank value so far. -/
lemma Store.askInOrder_of_open {store : Store σ} {site after : Site σ} {finding : Finding}
    (blank : Option String) (stores : List (Store σ))
    (found : (store.ask key).run site = (finding, after)) (unsettled : finding.settles = false) :
    (askInOrder key blank (store :: stores)).run site
      = (askInOrder key (blank <|> finding.value?) stores).run after := by
  rw [askInOrder, Asking.run_bind, found]
  cases finding with
  | error f => cases unsettled
  | ok answer =>
    cases answer with
    | none => simp [Finding.value?]
    | some value =>
      have isBlank : allBlank value = true := by simpa [Finding.settles] using unsettled
      simp [Finding.value?, isBlank]

/-- Stores that scan leaves, asked in order, scan all these leaves. -/
lemma Store.askInOrder_scans {α : Type} {S : α → Store σ} {L : α → List ι} {branches : List α}
    (scans : ∀ b ∈ branches, (S b).Scans leaf key (L b)) (blank : Option String) (site : Site σ) :
    EndsLike blank (scan leaf key (branches.flatMap L) site)
      ((askInOrder key blank (branches.map S)).run site) := by
  induction branches generalizing blank site with
  | nil => exact ⟨[], by simp [findingsOf, scan, Finding.sumUp, askInOrder]; rfl, fun _ => rfl⟩
  | cons b branches ih =>
    obtain ⟨lines, found, quiet⟩ := scans b List.mem_cons_self site
    have later := ih fun b mem => scans b (List.mem_cons_of_mem _ mem)
    rcases walk : scan leaf key (L b) site with ⟨queries, last⟩
    rw [walk] at found quiet
    rw [List.flatMap_cons, List.map_cons]
    cases settled : (findingsOf queries).any Finding.settles with
    | true =>
      obtain ⟨more, ends⟩ := askInOrder_of_settles blank (branches.map S) found
        (Finding.settles_sumUp settled)
      have same : Finding.sumUp blank (findingsOf queries)
          = Finding.sumUp none (findingsOf queries) :=
        Finding.sumUp_of_settled settled
      rw [scan_append_of_settled walk settled, ends, ← same]
      exact ⟨lines ++ more, by rw [← List.append_assoc], by simp [settled]⟩
    | false =>
      rw [quiet settled, List.append_nil] at found
      rw [askInOrder_of_open blank (branches.map S) found (Finding.settles_sumUp_of_open settled),
        Finding.sumUp_of_open settled, scan_append_of_open walk settled]
      obtain ⟨more, ends, quiet'⟩ := later
        (blank <|> (findingsOf queries).findSome? Finding.value?) last
      refine ⟨more, ?_, ?_⟩
      · rw [findingsOf_append, Finding.sumUp_append_of_open settled]
        exact ends
      · rw [findingsOf_append, List.any_append, settled, Bool.false_or]
        exact quiet'

/-- **A tree does what a scan of its leaves does.** -/
lemma LayerTree.store_scans (leaf : ι → Store σ) (key : String) (tree : LayerTree ι) :
    (tree.store leaf).Scans leaf key tree.leaves := by
  induction tree using LayerTree.leaves.induct with
  | case1 i =>
    rw [store, leaves]
    exact Store.scans_leaf i
  | case2 trees ih =>
    rw [store, leaves]
    exact fun site => Store.askInOrder_scans ih none site

/-! ## The queries of a tree -/

/-- Leaves whose queries are taken down are scanned as the leaves themselves. -/
lemma scan_recorded (is : List ι) (site : Site (Recorded ι σ)) :
    scan (takingDown leaf) key is site
      = ((scan leaf key is site.unrecorded).1,
          (scan leaf key is site.unrecorded).2.recorded
            (site.outside.queries ++ (scan leaf key is site.unrecorded).1)) := by
  induction is generalizing site with
  | nil => simp [scan, Site.recorded, Site.unrecorded]
  | cons i is ih =>
    rcases found : ((leaf i).ask key).run site.unrecorded with ⟨finding, after⟩
    have taken : ((takingDown leaf i).ask key).run site
        = (finding, after.recorded (site.outside.queries ++ [⟨i, key, finding⟩])) := by
      simp only [takingDown, ExceptT.run_mk, found]
    cases settles : Finding.settles finding with
    | true => rw [scan_of_settles _ taken settles, scan_of_settles _ found settles]
    | false =>
      rw [scan_of_open _ taken settles, scan_of_open _ found settles, ih]
      simp [Site.recorded, Site.unrecorded]

lemma LayerTree.queries_eq (tree : LayerTree ι) (leaf : ι → Store σ) (key : String)
    (site : Site σ) : tree.queries leaf key site = (scan leaf key tree.leaves site).1 := by
  obtain ⟨lines, ends, _⟩ := tree.store_scans (takingDown leaf) key (site.recorded [])
  rw [queries, ends, scan_recorded]
  simp [Site.recorded, Site.unrecorded]

/-! ## The walk of a tree -/

lemma EndsLike.logged {blank : Option String} {scanned : List (Query ι) × Site σ}
    {result : Finding × Site σ} (h : EndsLike blank scanned result) :
    scanned.2.Logged result.2 := by
  obtain ⟨lines, rfl, _⟩ := h
  exact ⟨lines, rfl⟩

/-- What a scan comes to is its last finding, if that settles, or else the first blank value. -/
lemma scan_walk {site : Site σ} {is : List ι} {result : Finding × Site σ}
    (h : EndsLike none (scan leaf key is site) result) :
    Walk leaf key site is (scan leaf key is site).1 result where
  told := ⟨_, scan_told is site, h.logged⟩
  inOrder := scan_prefix is site
  goesOn := by
    intro query mem
    rcases scan_ends is site with ⟨before, last, same, _, unsettled⟩ | ⟨_, unsettled⟩
    · rw [same, List.dropLast_concat] at mem
      exact unsettled query mem
    · exact unsettled query (List.dropLast_subset _ mem)
  answers := by
    obtain ⟨lines, rfl, _⟩ := h
    rcases scan_ends is site with ⟨before, last, same, settled, unsettled⟩ | ⟨same, unsettled⟩
    · have nothing : (findingsOf before).find? Finding.settles = none := by
        simpa [findingsOf, List.find?_eq_none] using unsettled
      have first : (findingsOf (before ++ [last])).find? Finding.settles = some last.finding := by
        rw [findingsOf_append, List.find?_append, nothing, Option.none_or]
        simp [findingsOf, settled]
      refine .inl ⟨last, by rw [same, List.getLast?_concat], settled, ?_⟩
      rw [same, Finding.sumUp, first, Option.getD_some]
    · have nothing : (findingsOf (scan leaf key is site).1).any Finding.settles = false := by
        simpa [findingsOf] using unsettled
      refine .inr ⟨same, unsettled, ?_⟩
      rw [Finding.sumUp_of_open nothing]
      simp [findingsOf, List.findSome?_map, Function.comp_def]

/-- **A tree of layers walks along its leaves.**  It asks them from left to right, up to and
including the first one that fails or has a value that is not blank, and no leaf behind it.  That
failure or value is the answer.  Where there is no such leaf, all are asked, and the first blank
value is the answer, as it is, or nothing if there is none.

So it does not matter how the leaves are grouped: not for the answer, and not for the queries and
what they do to files and the outside. -/
theorem LayerTree.walks (leaf : ι → Store σ) (key : String) (site : Site σ) :
    (∀ tree : LayerTree ι, Walk leaf key site tree.leaves (tree.queries leaf key site)
      (((tree.store leaf).ask key).run site))
    ∧ ∀ tree other : LayerTree ι, tree.leaves = other.leaves →
      tree.queries leaf key site = other.queries leaf key site
        ∧ (((tree.store leaf).ask key).run site).1 = (((other.store leaf).ask key).run site).1
        ∧ (((tree.store leaf).ask key).run site).2.files
          = (((other.store leaf).ask key).run site).2.files
        ∧ (((tree.store leaf).ask key).run site).2.outside
          = (((other.store leaf).ask key).run site).2.outside := by
  constructor
  · intro tree
    rw [tree.queries_eq]
    exact scan_walk (tree.store_scans leaf key site)
  · intro tree other same
    obtain ⟨lines, ends, _⟩ := tree.store_scans leaf key site
    obtain ⟨lines', ends', _⟩ := other.store_scans leaf key site
    rw [tree.queries_eq, other.queries_eq, ends, ends', same]
    exact ⟨rfl, rfl, rfl, rfl⟩

namespace LayerTree

/-- Three leaves: the first one has a blank value, the second a path, and the third fails. -/
def threeLeaves : Fin 3 → Store Unit
  | 0 => .memory [("install_dir", " ")]
  | 1 => .memory [("install_dir", "/srv/certbot")]
  | 2 => .table [("install_dir", .array)]

/-- The first two leaves in a layer of their own. -/
def leftGrouped : LayerTree (Fin 3) :=
  .layers [.layers [.leaf 0, .leaf 1], .leaf 2]

/-- The last two leaves in a layer of their own, behind an empty layer. -/
def rightGrouped : LayerTree (Fin 3) :=
  .layers [.leaf 0, .layers [.layers [], .layers [.leaf 1, .leaf 2]]]

/-- The blank value does not hide the path, and the leaf that fails is not asked, however the three
are grouped. -/
theorem walks_regrouped :
    let site : Site Unit := { files := { entries := [] }, outside := () }
    leftGrouped.leaves = rightGrouped.leaves
      ∧ leftGrouped.queries threeLeaves "install_dir" site
        = rightGrouped.queries threeLeaves "install_dir" site
      ∧ (((leftGrouped.store threeLeaves).ask "install_dir").run site).1
        = .ok (some "/srv/certbot")
      ∧ (((rightGrouped.store threeLeaves).ask "install_dir").run site).1
        = .ok (some "/srv/certbot") := by
  intro site
  have same : leftGrouped.leaves = rightGrouped.leaves := by
    simp [leftGrouped, rightGrouped, leaves]
  have answer : (((leftGrouped.store threeLeaves).ask "install_dir").run site).1
      = .ok (some "/srv/certbot") := by
    simp only [leftGrouped, store, List.map_cons, List.map_nil]
    rfl
  obtain ⟨_, regrouped⟩ := walks threeLeaves "install_dir" site
  obtain ⟨queries, answers, _⟩ := regrouped _ _ same
  exact ⟨same, queries, answer, answers.symm.trans answer⟩

end LayerTree

end SignedUpgrade
