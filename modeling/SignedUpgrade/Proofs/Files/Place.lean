import Mathlib.Data.List.Infix
import SignedUpgrade.Proofs.Files.Operations

/-!
# Where paths lead

An operation finds the place of a path by walking through the tree.  Whether a walk succeeds depends
on the tree; where it ends does not.  So one place belongs to each path, and what an operation does
can be told apart by places before it is known what stands there.

* `Path.place` — the place that a path leads to;
* `resolve_eq_place` — **a path that is found is found at its place**;
* `components_join`, `components_parent` — the components of a path below, and of the one above;
* `Path.OnWay`, `Path.KeepsOut` — the places on the way of a path, and ways that stay outside of a
  directory.
-/

namespace SignedUpgrade

open Text

/-! ## Pieces and components -/

namespace Path

/-- The components that pieces stand for, in a path that starts at the top or does not. -/
def ofPieces (fromTop : Bool) : List String → List Component
  | [] => []
  | first :: more =>
    (if fromTop then some .root else if first = "." then some .here else component? first).toList
      ++ more.filterMap component?

lemma components_eq (p : Path) : p.components = ofPieces p.isAbsolute p.pieces := by
  unfold components ofPieces
  cases p.pieces <;> rfl

/-- Pieces that come later stand for the same components in every path. -/
lemma ofPieces_append (fromTop : Bool) {ps : List String} (filled : ps ≠ []) (qs : List String) :
    ofPieces fromTop (ps ++ qs) = ofPieces fromTop ps ++ qs.filterMap component? := by
  cases ps with
  | nil => exact absurd rfl filled
  | cons first more => simp [ofPieces]

lemma splitOn_eq (separator : Char) (cs : List Char) :
    splitOn separator cs = cs.splitOn separator := by
  induction cs with
  | nil => rfl
  | cons c cs ih =>
    rw [List.splitOn_cons_eq_if_modifyHead, splitOn, ih]
    by_cases cut : c = separator
    · simp [cut]
    · cases pieces : cs.splitOn separator with
      | nil => exact absurd pieces (List.splitOn_ne_nil _ _)
      | cons piece more => simp [cut]

lemma pieces_eq (p : Path) : p.pieces = (p.text.toList.splitOn '/').map String.ofList := by
  rw [pieces, splitOn_eq]

lemma pieces_ne_nil (p : Path) : p.pieces ≠ [] := by
  simp [pieces_eq]

/-- No piece of a text contains the separator. -/
lemma notMem_of_mem_splitOn {separator : Char} {cs piece : List Char}
    (h : piece ∈ splitOn separator cs) : separator ∉ piece := by
  induction cs generalizing piece with
  | nil => simp_all [splitOn]
  | cons c cs ih =>
    rw [splitOn] at h
    by_cases cut : c = separator
    · rw [if_pos cut, List.mem_cons] at h
      rcases h with rfl | h
      · simp
      · exact ih h
    · rw [if_neg cut] at h
      cases pieces : splitOn separator cs with
      | nil => exact absurd pieces (splitOn_ne_nil separator cs)
      | cons first more =>
        rw [pieces] at h ih
        rcases List.mem_cons.1 h with rfl | h
        · simp [Ne.symm cut, ih List.mem_cons_self]
        · exact ih (List.mem_cons_of_mem _ h)

/-- A path from the top starts with an empty piece. -/
lemma pieces_of_isAbsolute {p : Path} (h : p.isAbsolute = true) :
    ∃ next more, p.pieces = "" :: next :: more := by
  unfold isAbsolute at h
  rw [pieces_eq]
  cases text : p.text.toList with
  | nil => simp [text] at h
  | cons c cs =>
    have slash : c = '/' := by simpa [text] using h
    rw [List.splitOn_cons_eq_if_modifyHead, slash]
    cases pieces : cs.splitOn '/' with
    | nil => exact absurd pieces (List.splitOn_ne_nil _ _)
    | cons next more => exact ⟨String.ofList next, more.map String.ofList, by simp⟩

end Path

/-! ## Places -/

/-- One step from a place. -/
def Component.step (l : Location) : Component → Location
  | .root => []
  | .here => l
  | .above => l.dropLast
  | .name text => l ++ [text]

/-- The place that components lead to from another place. -/
def follow (start : Location) (cs : List Component) : Location :=
  cs.foldl Component.step start

/-- The place that a path leads to, if relative paths start from a given place. -/
def Path.place (p : Path) (start : Location) : Location :=
  follow start p.components

lemma follow_append (start : Location) (cs ds : List Component) :
    follow start (cs ++ ds) = follow (follow start cs) ds :=
  List.foldl_append

/-- A path opens with where it starts, and then goes on piece by piece. -/
lemma Path.components_opening (p : Path) (start : Location) :
    ∃ opening, p.components = opening ++ p.pieces.filterMap component?
      ∧ follow start opening = if p.isAbsolute then [] else start := by
  rw [components_eq]
  cases top : p.isAbsolute with
  | true =>
    obtain ⟨next, more, pieces⟩ := pieces_of_isAbsolute top
    rw [pieces]
    exact ⟨[.root], rfl, rfl⟩
  | false =>
    cases p.pieces with
    | nil => exact ⟨[], rfl, rfl⟩
    | cons first more =>
      by_cases dot : first = "."
      · subst dot
        exact ⟨[.here], rfl, rfl⟩
      · refine ⟨[], ?_, rfl⟩
        rw [List.filterMap_cons]
        simp only [ofPieces, dot, Bool.false_eq_true, if_false]
        cases component? first <;> rfl

/-- Following a path is following its pieces, from the top or from where relative paths start. -/
lemma Path.place_eq (p : Path) (start : Location) :
    p.place start
      = follow (if p.isAbsolute then [] else start) (p.pieces.filterMap component?) := by
  obtain ⟨opening, components, opened⟩ := p.components_opening start
  rw [place, components, follow_append, opened]

namespace FileTree

variable {t t' : FileTree} {p : Path} {l : Location}

/-- A walk ends where the pieces lead to. -/
lemma walk_eq {m : Location} {pieces : List String} (h : t.walk l pieces = .ok m) :
    m = follow l (pieces.filterMap Path.component?) := by
  induction pieces generalizing l with
  | nil =>
    cases h
    rfl
  | cons piece more ih =>
    unfold walk at h
    split at h
    · cases h
    · cases h
    · rw [List.filterMap_cons, Path.component?]
      by_cases skipped : (piece = "" || piece = ".") = true
      · rw [if_pos skipped] at h ⊢
        exact ih h
      · rw [if_neg skipped] at h ⊢
        by_cases up : piece = ".."
        · rw [if_pos up] at h ⊢
          exact ih h
        · rw [if_neg up] at h ⊢
          split at h
          · cases h
          · exact ih h

/-- **A path that is found is found at its place.** -/
theorem resolve_eq_place (h : t.resolve p = .ok l) : l = p.place t.workingDirectory := by
  unfold resolve at h
  split at h
  · cases h
  · split at h
    · cases h
    · split at h
      · cases h
      · rw [Path.place_eq]
        exact walk_eq h

end FileTree

/-! ## Paths of components -/

namespace Path

/-- A component that has a piece of its own. -/
def IsStep (c : Component) : Prop :=
  component? (componentText c) = some c ∧ '/' ∉ (componentText c).toList

/-- Components that a path can have: where it starts, if this is said, and steps from there. -/
def Formed (cs : List Component) : Prop :=
  ∃ start steps, cs = start ++ steps ∧ start ∈ [[], [Component.root], [Component.here]]
    ∧ ∀ c ∈ steps, IsStep c

lemma isStep_of_component? {piece : String} {c : Component} (slash : '/' ∉ piece.toList)
    (h : component? piece = some c) : IsStep c := by
  have read := h
  unfold component? at h
  split at h
  · cases h
  · split at h
    · cases h
      exact ⟨rfl, by decide⟩
    · cases h
      exact ⟨read, slash⟩

/-- The components of a path are such components. -/
lemma formed_components (p : Path) : Formed p.components := by
  have steps : ∀ pieces : List String, (∀ piece ∈ pieces, piece ∈ p.pieces) →
      ∀ c ∈ pieces.filterMap component?, IsStep c := by
    intro pieces sub c mem
    obtain ⟨piece, mem, read⟩ := List.mem_filterMap.1 mem
    refine isStep_of_component? ?_ read
    obtain ⟨cs, cut, rfl⟩ := List.mem_map.1 (sub piece mem)
    simpa using notMem_of_mem_splitOn cut
  rw [components_eq]
  cases pieces : p.pieces with
  | nil => exact ⟨[], [], rfl, by simp, by simp⟩
  | cons first more =>
    have later := steps more fun piece mem => pieces ▸ List.mem_cons_of_mem _ mem
    by_cases top : p.isAbsolute = true
    · exact ⟨[.root], _, by simp [ofPieces, top], by simp, later⟩
    · by_cases dot : first = "."
      · exact ⟨[.here], _, by simp [ofPieces, top, dot], by simp, later⟩
      · refine ⟨[], (first :: more).filterMap component?, ?_, by simp, ?_⟩
        · rw [List.filterMap_cons]
          simp only [ofPieces, top, dot, Bool.false_eq_true, if_false]
          cases component? first <;> rfl
        · exact steps _ fun piece mem => pieces ▸ mem

lemma Formed.dropLast {cs : List Component} (h : Formed cs) : Formed cs.dropLast := by
  obtain ⟨start, steps, rfl, known, all⟩ := h
  cases steps with
  | nil =>
    refine ⟨[], [], ?_, by simp, by simp⟩
    simp only [List.mem_cons, List.not_mem_nil, or_false] at known
    rcases known with rfl | rfl | rfl <;> rfl
  | cons c cs =>
    refine ⟨start, (c :: cs).dropLast, ?_, known, ?_⟩
    · rw [List.dropLast_append_of_ne_nil (by simp)]
    · intro d mem
      exact all d (List.dropLast_subset _ mem)

/-- Steps are read back from their texts. -/
lemma filterMap_componentText {steps : List Component} (h : ∀ c ∈ steps, IsStep c) :
    (steps.map componentText).filterMap component? = steps := by
  induction steps with
  | nil => rfl
  | cons c cs ih =>
    rw [List.map_cons, List.filterMap_cons, (h c List.mem_cons_self).1,
      ih fun d mem => h d (List.mem_cons_of_mem _ mem)]

lemma pieces_intercalate {ps : List String} (filled : ps ≠ []) (free : ∀ p ∈ ps, '/' ∉ p.toList) :
    pieces ⟨"/".intercalate ps⟩ = ps := by
  have slash : "/".toList = ['/'] := rfl
  rw [pieces_eq, String.toList_intercalate, slash, List.splitOn_intercalate]
  · simp
  · simpa using free
  · simpa using filled

lemma isAbsolute_of_pieces {p : Path} {next : String} {more : List String}
    (h : p.pieces = "" :: next :: more) : p.isAbsolute = true := by
  have text : ['/'].intercalate (p.text.toList.splitOn '/') = p.text.toList :=
    List.intercalate_splitOn '/'
  rw [pieces_eq] at h
  cases pieces : p.text.toList.splitOn '/' with
  | nil => simp [pieces] at h
  | cons first others =>
    cases others with
    | nil => simp [pieces] at h
    | cons second others =>
      rw [pieces, List.map_cons] at h
      have empty : first = [] := by
        have same := congrArg String.toList (List.cons.inj h).1
        rwa [String.toList_ofList] at same
      rw [pieces, empty] at text
      rw [isAbsolute, ← text]
      rfl

lemma isAbsolute_iff (p : Path) :
    p.isAbsolute = true ↔ ∃ next more, p.pieces = "" :: next :: more := by
  refine ⟨pieces_of_isAbsolute, ?_⟩
  rintro ⟨next, more, pieces⟩
  exact isAbsolute_of_pieces pieces

lemma ofComponents_eq {cs : List Component} (filled : cs ≠ []) (below : cs ≠ [.root]) :
    ofComponents cs = ⟨"/".intercalate (cs.map componentText)⟩ := by
  unfold ofComponents
  split
  · exact absurd rfl filled
  · exact absurd rfl below
  · rfl

/-- A path that is made of components has these components. -/
lemma components_ofComponents {cs : List Component} (h : Formed cs) :
    (ofComponents cs).components = cs := by
  obtain ⟨start, steps, rfl, known, all⟩ := h
  have free : ∀ piece ∈ steps.map componentText, '/' ∉ piece.toList := by
    intro piece mem
    obtain ⟨c, step, rfl⟩ := List.mem_map.1 mem
    exact (all c step).2
  have read := filterMap_componentText all
  simp only [List.mem_cons, List.not_mem_nil, or_false] at known
  rcases known with rfl | rfl | rfl
  · cases steps with
    | nil => rfl
    | cons c cs =>
      have named := (all c List.mem_cons_self).1
      have below : c :: cs ≠ [.root] := by
        rintro ⟨⟩
        cases named
      rw [List.nil_append, ofComponents_eq (by simp) below, components_eq,
        pieces_intercalate (by simp) free]
      have relative : isAbsolute ⟨"/".intercalate ((c :: cs).map componentText)⟩ = false := by
        rw [Bool.eq_false_iff, ne_eq, isAbsolute_iff, pieces_intercalate (by simp) free]
        rintro ⟨next, more, pieces⟩
        rw [(List.cons.inj pieces).1] at named
        cases named
      have undotted : componentText c ≠ "." := by
        intro dot
        rw [dot] at named
        cases named
      rw [relative, List.map_cons, ofPieces]
      rw [List.map_cons, List.filterMap_cons, named] at read
      simpa [undotted, named] using read
  · cases steps with
    | nil => rfl
    | cons c cs =>
      have pieces : Path.pieces ⟨"/".intercalate ("" :: (c :: cs).map componentText)⟩
          = "" :: (c :: cs).map componentText := by
        refine pieces_intercalate (by simp) ?_
        simpa using free
      rw [List.singleton_append, ofComponents_eq (by simp) (by simp), components_eq,
        List.map_cons, componentText, pieces, isAbsolute_of_pieces pieces, ofPieces, read]
      rfl
  · have pieces : Path.pieces ⟨"/".intercalate ("." :: steps.map componentText)⟩
        = "." :: steps.map componentText := by
      refine pieces_intercalate (by simp) ?_
      simpa using free
    have relative : isAbsolute ⟨"/".intercalate ("." :: steps.map componentText)⟩ = false := by
      rw [Bool.eq_false_iff, ne_eq, isAbsolute_iff, pieces]
      rintro ⟨next, more, same⟩
      exact absurd (List.cons.inj same).1 (by decide)
    rw [List.singleton_append, ofComponents_eq (by simp) (by simp), components_eq, List.map_cons,
      componentText, pieces, relative, ofPieces, read]
    rfl

/-- The path above has all components but the last one. -/
lemma components_parent {p q : Path} (h : p.parent? = some q) :
    q.components = p.components.dropLast := by
  unfold parent? at h
  split at h
  · cases h
  · cases h
  · cases h
    exact components_ofComponents p.formed_components.dropLast

/-! ## Names below a path -/

lemma pieces_append_slash (text more : String) :
    pieces ⟨text ++ "/" ++ more⟩ = pieces ⟨text⟩ ++ pieces ⟨more⟩ := by
  have slash : "/".toList = ['/'] := rfl
  rw [pieces_eq, pieces_eq, pieces_eq, ← List.map_append]
  simp [slash, List.splitOn_append_cons_self]

/-- What comes later does not decide where a path starts. -/
lemma isAbsolute_append {text : String} (filled : text ≠ "") (more : String) :
    isAbsolute ⟨text ++ more⟩ = isAbsolute ⟨text⟩ := by
  have chars : text.toList ≠ [] := by simpa using filled
  rw [isAbsolute, isAbsolute, String.toList_append, List.head?_append]
  cases head : text.toList.head? with
  | none => exact absurd (List.head?_eq_none_iff.1 head) chars
  | some c => rfl

/-- A text that is a single step down. -/
def IsName (name : String) : Prop :=
  IsStep (.name name)

lemma IsName.pieces {name : String} (h : IsName name) : Path.pieces ⟨name⟩ = [name] := by
  have whole : name.toList.splitOn '/' = [name.toList] := List.splitOn_eq_singleton h.2
  rw [pieces_eq, whole]
  simp

lemma IsName.relative {name : String} (h : IsName name) : isAbsolute ⟨name⟩ = false := by
  rw [Bool.eq_false_iff, ne_eq, isAbsolute_iff, h.pieces]
  rintro ⟨_, _, ⟨⟩⟩

lemma IsName.components {name : String} (h : IsName name) :
    Path.components ⟨name⟩ = [.name name] := by
  have undotted : name ≠ "." := by
    rintro rfl
    cases h.1
  have read : component? name = some (.name name) := h.1
  rw [components_eq, h.pieces, h.relative, ofPieces, read]
  simp [undotted]

/-- A slash at the end adds no component. -/
lemma components_append_slash {text : String} (filled : text ≠ "") :
    components ⟨text ++ "/"⟩ = components ⟨text⟩ := by
  have pieces : Path.pieces ⟨text ++ "/"⟩ = Path.pieces ⟨text⟩ ++ [""] := by
    have cut := pieces_append_slash text ""
    rwa [String.append_empty] at cut
  rw [components_eq, components_eq, pieces, ofPieces_append _ (pieces_ne_nil _),
    isAbsolute_append filled]
  exact List.append_nil _

/-- A name behind a slash is one more component. -/
lemma components_append_name {text name : String} (h : IsName name) (filled : text ≠ "") :
    components ⟨text ++ "/" ++ name⟩ = components ⟨text⟩ ++ [.name name] := by
  have read : component? name = some (.name name) := h.1
  rw [components_eq, components_eq, pieces_append_slash, h.pieces,
    ofPieces_append _ (pieces_ne_nil _), String.append_assoc, isAbsolute_append filled,
    List.filterMap_cons, read]
  rfl

/-- A name below a path is one more component. -/
lemma components_join (dir : Path) {name : String} (h : IsName name) :
    (dir.join name).components = dir.components ++ [.name name] := by
  unfold join
  rw [h.relative, Bool.false_or]
  by_cases empty : dir.text = ""
  · have top : dir = ⟨""⟩ := congrArg Path.mk empty
    rw [top]
    exact h.components
  · simp only [empty, decide_false, Bool.false_eq_true, if_false]
    by_cases slash : dir.text.toList.getLast? = some '/'
    · rw [if_pos slash]
      obtain ⟨body, text⟩ := List.getLast?_eq_some_iff.1 slash
      have ended : dir = ⟨String.ofList body ++ "/"⟩ := by
        refine congrArg Path.mk (String.toList_injective ?_)
        simpa using text
      by_cases root : body = []
      · subst root
        rw [ended]
        have read : component? name = some (.name name) := h.1
        have pieces : Path.pieces ⟨String.ofList [] ++ "/" ++ name⟩ = ["", name] := by
          rw [pieces_append_slash, h.pieces]
          rfl
        rw [components_eq, pieces, isAbsolute_of_pieces pieces, ofPieces, List.filterMap_cons, read]
        rfl
      · have filled : String.ofList body ≠ "" := by simpa using root
        rw [ended, components_append_name h filled, components_append_slash filled]
    · rw [if_neg slash]
      exact components_append_name h empty

/-- The place of a name below a path is below its place. -/
lemma place_join (dir : Path) {name : String} (h : IsName name) (start : Location) :
    (dir.join name).place start = dir.place start ++ [name] := by
  rw [place, components_join dir h, follow_append]
  rfl

lemma components_append_slashes (slashes : List Char) (all : ∀ c ∈ slashes, c = '/') :
    ∀ text : String, text ≠ "" →
      components ⟨text ++ String.ofList slashes⟩ = components ⟨text⟩ := by
  induction slashes with
  | nil => simp
  | cons c cs ih =>
    intro text filled
    have slash : c = '/' := all c List.mem_cons_self
    have longer : text ++ "/" ≠ "" := by simp [filled]
    have apart : text ++ String.ofList (c :: cs) = text ++ "/" ++ String.ofList cs := by
      refine String.toList_injective ?_
      have ending : "/".toList = ['/'] := rfl
      simp [slash, ending]
    rw [apart, ih (fun d mem => all d (List.mem_cons_of_mem _ mem)) _ longer,
      components_append_slash filled]

lemma components_withoutLastSlash (p : Path) :
    (FileTree.withoutLastSlash p).components = p.components := by
  unfold FileTree.withoutLastSlash
  split
  · rfl
  · rename_i filled
    have text : p.text = String.ofList
          (p.text.toList.reverse.dropWhile (· = '/')).reverse
        ++ String.ofList (p.text.toList.reverse.takeWhile (· = '/')).reverse := by
      refine String.toList_injective ?_
      rw [String.toList_append, String.toList_ofList, String.toList_ofList, ← List.reverse_append,
        List.takeWhile_append_dropWhile, List.reverse_reverse]
    have whole : p = ⟨String.ofList (p.text.toList.reverse.dropWhile (· = '/')).reverse
        ++ String.ofList (p.text.toList.reverse.takeWhile (· = '/')).reverse⟩ :=
      congrArg Path.mk text
    refine ((congrArg components whole).trans (components_append_slashes _ ?_ _ ?_)).symm
    · intro c mem
      simpa using List.all_eq_true.1 List.all_takeWhile c (List.mem_reverse.1 mem)
    · simpa using filled

end Path

/-! ## Ways -/

/-- A place on the way of a path: some of its first components lead there. -/
def Path.OnWay (p : Path) (start : Location) (l : Location) : Prop :=
  ∃ cs, cs <+: p.components ∧ l = follow start cs

/-- The way of a path stays outside of a directory. -/
def Path.KeepsOut (p : Path) (start directory : Location) : Prop :=
  ∀ l, p.OnWay start l → ¬ directory <+: l

lemma Path.forall_onWay {p : Path} {start : Location} {Q : Location → Prop} :
    (∀ l, p.OnWay start l → Q l) ↔ ∀ cs ∈ p.components.inits, Q (follow start cs) := by
  constructor
  · intro all cs mem
    exact all _ ⟨cs, (List.mem_inits _ _).1 mem, rfl⟩
  · rintro all _ ⟨cs, pre, rfl⟩
    exact all cs ((List.mem_inits _ _).2 pre)

lemma Path.keepsOut_iff {p : Path} {start directory : Location} :
    p.KeepsOut start directory ↔ ∀ cs ∈ p.components.inits, ¬ directory <+: follow start cs :=
  Path.forall_onWay

instance (p : Path) (start directory : Location) : Decidable (p.KeepsOut start directory) :=
  decidable_of_iff _ Path.keepsOut_iff.symm

lemma Path.onWay_place (p : Path) (start : Location) : p.OnWay start (p.place start) :=
  ⟨p.components, List.prefix_rfl, rfl⟩

/-- What is on the way of the path above is on the way of the path. -/
lemma Path.OnWay.of_parent {p q : Path} {start l : Location} (h : q.OnWay start l)
    (parent : p.parent? = some q) : p.OnWay start l := by
  obtain ⟨cs, pre, rfl⟩ := h
  rw [components_parent parent] at pre
  exact ⟨cs, pre.trans (List.dropLast_prefix _), rfl⟩

/-- What is on the way of a path below is on the way of the path, or is the place below. -/
lemma Path.OnWay.of_join {dir : Path} {name : String} {start l : Location} (named : IsName name)
    (h : (dir.join name).OnWay start l) :
    dir.OnWay start l ∨ l = dir.place start ++ [name] := by
  obtain ⟨cs, pre, rfl⟩ := h
  rw [components_join dir named, List.prefix_concat_iff] at pre
  rcases pre with rfl | pre
  · exact .inr (follow_append ..)
  · exact .inl ⟨cs, pre, rfl⟩

end SignedUpgrade
