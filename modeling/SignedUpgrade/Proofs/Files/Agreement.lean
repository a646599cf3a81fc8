import SignedUpgrade.Files.Program
import SignedUpgrade.Proofs.Files.Reach

/-!
# Operations on two trees

What an operation does depends on nothing but the places along the way of its path.  So on two trees
that are the same but at some places, an operation whose path keeps clear of these places does the
same: it fails with the same fault, or leaves trees that are again the same but at these places.

* `Path.Along` — the places along the way of a path, which are those on it and those above them;
* `FileTree.Together` — two operations that fail alike, or leave trees that are the same but at some
  places;
* `createDirectories_together`, `write_together`, `append_together`, `removeFile_together`,
  `removeAll_together` — the operations.
-/

namespace SignedUpgrade

open Text

/-! ## Along the way of a path -/

namespace Path

/-- A place on the way of a path, or above one. -/
def Along (p : Path) (start l : Location) : Prop :=
  ∃ m, p.OnWay start m ∧ l <+: m

variable {p q dir : Path} {start l : Location}

lemma OnWay.along (h : p.OnWay start l) : p.Along start l :=
  ⟨l, h, List.prefix_rfl⟩

lemma along_place (p : Path) (start : Location) : p.Along start (p.place start) :=
  (p.onWay_place start).along

lemma Along.of_parent (h : q.Along start l) (parent : p.parent? = some q) : p.Along start l := by
  obtain ⟨m, way, above⟩ := h
  exact ⟨m, way.of_parent parent, above⟩

/-- What is along the way of a path below is along the way of the path, or is the place below. -/
lemma Along.of_join {name : String} (named : IsName name) (h : (dir.join name).Along start l) :
    dir.Along start l ∨ l = dir.place start ++ [name] := by
  obtain ⟨m, way, above⟩ := h
  rcases way.of_join named with way | rfl
  · exact .inl ⟨m, way, above⟩
  · rcases List.prefix_concat_iff.1 above with same | above
    · exact .inr same
    · exact .inl ⟨_, dir.onWay_place start, above⟩

lemma along_withoutLastSlash :
    (FileTree.withoutLastSlash p).Along start l ↔ p.Along start l := by
  simp only [Along, OnWay, components_withoutLastSlash]

/-- The places that the first pieces of a path lead to are on its way. -/
lemma onWay_follow {cs : List Component} (first : cs <+: p.pieces.filterMap component?) :
    p.OnWay start (follow (if p.isAbsolute then [] else start) cs) := by
  obtain ⟨opening, components, opened⟩ := p.components_opening start
  refine ⟨opening ++ cs, ?_, ?_⟩
  · rw [components]
    exact (List.prefix_append_right_inj opening).2 first
  · rw [follow_append, opened]

end Path

namespace FileTree

/-! ## Following a path -/

variable {t t' : FileTree} {p : Path} {l : Location}

/-- Along the way of a path, two trees are the same. -/
structure SameAlong (p : Path) (t t' : FileTree) : Prop where
  workingDirectory : t'.workingDirectory = t.workingDirectory
  same : ∀ l, p.Along t.workingDirectory l → t'.get? l = t.get? l

/-- A walk looks at the places that the first pieces lead to, and at no others. -/
lemma walk_congr {pieces : List String}
    (same : ∀ cs, cs <+: pieces.filterMap Path.component? →
      t'.get? (follow l cs) = t.get? (follow l cs)) : t'.walk l pieces = t.walk l pieces := by
  induction pieces generalizing l with
  | nil => rfl
  | cons piece more ih =>
    have here : t'.get? l = t.get? l := same [] (List.nil_prefix)
    -- one more piece leads to a place, from where the same is known of the others
    have further : ∀ c m, Path.component? piece = some c → c.step l = m →
        t'.walk m more = t.walk m more := by
      rintro c _ read rfl
      refine ih fun cs first => same (c :: cs) ?_
      rw [List.filterMap_cons, read]
      exact List.prefix_cons_inj c |>.2 first
    unfold walk
    rw [here]
    cases t.get? l with
    | none => rfl
    | some e =>
      cases e with
      | file => rfl
      | directory =>
        simp only
        by_cases skipped : (piece = "" || piece = ".") = true
        · have read : Path.component? piece = none := by rw [Path.component?, if_pos skipped]
          rw [if_pos skipped, if_pos skipped]
          refine ih fun cs first => same cs ?_
          rwa [List.filterMap_cons, read]
        · rw [if_neg skipped, if_neg skipped]
          by_cases up : piece = ".."
          · have read : Path.component? piece = some .above := by
              rw [Path.component?, if_neg skipped, if_pos up]
            rw [if_pos up, if_pos up]
            exact further _ _ read rfl
          · have read : Path.component? piece = some (.name piece) := by
              rw [Path.component?, if_neg skipped, if_neg up]
            rw [if_neg up, if_neg up, further _ (l ++ [piece]) read rfl]

namespace SameAlong

lemma resolve (h : SameAlong p t t') : t'.resolve p = t.resolve p := by
  unfold FileTree.resolve
  rw [h.workingDirectory, walk_congr fun cs first => h.same _ (Path.onWay_follow first).along]

/-- At the end of the way, two trees are the same as well, and so they are directly above it. -/
lemma found (h : SameAlong p t t') (place : t.resolve p = .ok l) :
    t'.get? l = t.get? l ∧ t'.get? l.dropLast = t.get? l.dropLast := by
  cases resolve_eq_place place
  exact ⟨h.same _ (p.along_place _),
    h.same _ ⟨_, p.onWay_place _, List.dropLast_prefix _⟩⟩

lemma at? (h : SameAlong p t t') : t'.at? p = t.at? p := by
  unfold FileTree.at?
  rw [h.resolve]
  cases place : t.resolve p with
  | error fault => rfl
  | ok l => exact (h.found place).1

lemma hasFile (h : SameAlong p t t') : t'.hasFile p = t.hasFile p := by
  rw [FileTree.hasFile, FileTree.hasFile, h.at?]

lemma hasDirectory (h : SameAlong p t t') : t'.hasDirectory p = t.hasDirectory p := by
  rw [FileTree.hasDirectory, FileTree.hasDirectory, h.at?]

lemma withoutLastSlash (h : SameAlong p t t') :
    SameAlong (FileTree.withoutLastSlash p) t t' :=
  ⟨h.workingDirectory, fun l along => h.same l (Path.along_withoutLastSlash.1 along)⟩

lemma placeForNew (h : SameAlong p t t') : t'.placeForNew p = t.placeForNew p := by
  unfold FileTree.placeForNew
  rw [h.resolve]
  cases place : t.resolve p with
  | error fault => rfl
  | ok l => simp only [bind, Except.bind, (h.found place).2]

lemma openForWriting (h : SameAlong p t t') : t'.openForWriting p = t.openForWriting p := by
  unfold FileTree.openForWriting
  rw [h.withoutLastSlash.placeForNew]
  cases place : t.placeForNew (FileTree.withoutLastSlash p) with
  | error fault => rfl
  | ok l =>
    have found := (h.withoutLastSlash.found (placeForNew_ok place).1).1
    simp only [bind, Except.bind, found]

end SameAlong

/-! ## Changing two trees -/

variable {P : Location → Prop}

/-- Two operations fail alike, or leave trees that are the same but at some places. -/
inductive Together (P : Location → Prop) :
    Except IoFault FileTree → Except IoFault FileTree → Prop where
  | ok {t t' : FileTree} (same : SameBut P t t') : Together P (.ok t) (.ok t')
  | error (fault : IoFault) : Together P (.error fault) (.error fault)

namespace SameBut

/-- Trees that are the same but at some places are the same along a way that keeps clear of
these. -/
lemma along (h : SameBut P t t') (clear : ∀ l, p.Along t.workingDirectory l → ¬ P l) :
    SameAlong p t t' :=
  ⟨h.workingDirectory, fun l along => h.same l (clear l along)⟩

lemma put (h : SameBut P t t') (l : Location) (e : Entry) :
    SameBut P (t.put l e) (t'.put l e) := by
  refine ⟨h.workingDirectory, fun m out => ?_, h.pinned⟩
  by_cases here : m = l
  · by_cases top : m = []
    · rw [top, get?_nil, get?_nil]
    · subst here
      rw [get?_put t m e top, get?_put t' m e top, if_pos rfl, if_pos rfl]
  · rw [get?_put_of_ne t e here, get?_put_of_ne t' e here, h.same m out]

lemma erase (h : SameBut P t t') (l : Location) : SameBut P (t.erase l) (t'.erase l) := by
  refine ⟨h.workingDirectory, fun m out => ?_, h.pinned⟩
  by_cases here : m = l
  · by_cases top : m = []
    · rw [top, get?_nil, get?_nil]
    · subst here
      rw [get?_erase_self t top, get?_erase_self t' top]
  · rw [get?_erase_of_ne t here, get?_erase_of_ne t' here, h.same m out]

lemma eraseBelow (h : SameBut P t t') (l : Location) :
    SameBut P (t.eraseBelow l) (t'.eraseBelow l) := by
  refine ⟨h.workingDirectory, fun m out => ?_, h.pinned⟩
  by_cases within : l <+: m
  · by_cases top : m = []
    · rw [top, get?_nil, get?_nil]
    · rw [get?_eraseBelow_of_ne t within top, get?_eraseBelow_of_ne t' within top]
  · have kept : ∀ t : FileTree, (t.eraseBelow l).get? m = t.get? m :=
      fun t => get?_eraseBelow_of_not_prefix t within
    rw [kept t, kept t', h.same m out]

end SameBut

variable (h : SameBut P t t') (clear : ∀ l, p.Along t.workingDirectory l → ¬ P l)
include h clear

lemma createDirectory_together : Together P (t.createDirectory p) (t'.createDirectory p) := by
  have along := (h.along clear).withoutLastSlash
  unfold createDirectory
  rw [along.placeForNew]
  cases place : t.placeForNew (withoutLastSlash p) with
  | error fault => exact .error fault
  | ok l =>
    simp only [bind, Except.bind, (along.found (placeForNew_ok place).1).1]
    cases t.get? l with
    | some e => exact .error _
    | none => exact .ok (h.put l .directory)

/-- The directories above are made first, along the way of the path; the recursion goes up this
way. -/
lemma createDirectoriesFrom_together (fuel : Nat) :
    Together P (t.createDirectoriesFrom p fuel) (t'.createDirectoriesFrom p fuel) := by
  induction fuel generalizing t t' p with
  | zero => exact .error _
  | succ fuel ih =>
    unfold createDirectoriesFrom
    by_cases empty : p.text = ""
    · rw [if_pos empty, if_pos empty]
      exact .ok h
    · rw [if_neg empty, if_neg empty]
      have first := createDirectory_together h clear
      generalize t.createDirectory p = made at first
      generalize t'.createDirectory p = made' at first
      cases first with
      | ok same => exact .ok same
      | error fault =>
        simp only [(h.along clear).hasDirectory]
        split
        · cases parent : p.parent? with
          | none => exact .error _
          | some q =>
            have above := ih h fun l along => clear l (along.of_parent parent)
            have here : ∀ t₁, t.createDirectoriesFrom q fuel = .ok t₁ →
                t₁.workingDirectory = t.workingDirectory :=
              fun _ made => (createDirectoriesFrom_grown made).workingDirectory
            simp only
            generalize t.createDirectoriesFrom q fuel = done at above here
            generalize t'.createDirectoriesFrom q fuel = done' at above
            cases above with
            | error fault => exact .error fault
            | @ok t₁ t₁' same =>
              rw [← here _ rfl] at clear
              have second := createDirectory_together same clear
              simp only [(same.along clear).hasDirectory]
              generalize t₁.createDirectory p = last at second
              generalize t₁'.createDirectory p = last' at second
              cases second with
              | ok same => exact .ok same
              | error fault =>
                simp only
                split
                · exact .ok same
                · exact .error fault
        · split
          · exact .ok h
          · exact .error fault

lemma createDirectories_together :
    Together P (t.createDirectories p) (t'.createDirectories p) :=
  createDirectoriesFrom_together h clear _

lemma write_together (content : Bytes) : Together P (t.write p content) (t'.write p content) := by
  unfold write
  rw [(h.along clear).openForWriting]
  cases t.openForWriting p with
  | error fault => exact .error fault
  | ok opened => exact .ok (h.put _ _)

lemma append_together (added : Bytes) : Together P (t.append p added) (t'.append p added) := by
  unfold append
  rw [(h.along clear).openForWriting]
  cases t.openForWriting p with
  | error fault => exact .error fault
  | ok opened => exact .ok (h.put _ _)

lemma removeFile_together : Together P (t.removeFile p) (t'.removeFile p) := by
  unfold removeFile
  rw [(h.along clear).resolve]
  cases place : t.resolve p with
  | error fault => exact .error fault
  | ok l =>
    simp only [bind, Except.bind, ((h.along clear).found place).1]
    cases t.get? l with
    | none => exact .error _
    | some e =>
      cases e with
      | directory => exact .error _
      | file => exact .ok (h.erase l)

/-- What can be removed depends on the places below as well. -/
lemma removeAll_together (inside : ∀ l, p.place t.workingDirectory <+: l → ¬ P l) :
    Together P (t.removeAll p) (t'.removeAll p) := by
  unfold removeAll
  rw [(h.along clear).resolve]
  cases place : t.resolve p with
  | error fault => exact .error fault
  | ok l =>
    rw [← resolve_eq_place place] at inside
    simp only [bind, Except.bind, ((h.along clear).found place).1]
    cases t.get? l with
    | none => exact .error _
    | some e =>
      cases e with
      | file => exact .error _
      | directory =>
        simp only [h.isPinned inside]
        split
        · exact .error _
        · exact .ok (h.eraseBelow l)

end FileTree

end SignedUpgrade
