import SignedUpgrade.Files.FileTree
import SignedUpgrade.Proofs.Association

/-!
# What file operations do

Each operation on files that succeeds did one thing to the view `FileTree.get?`, at one place.  For
each of them a lemma says which place that was, what stood there and what the tree looks like
afterwards; nothing else has to be known of an operation.

* `write_cases`, `append_cases`, `removeFile_cases`, `removeAll_cases`, `createDirectory_cases` —
  the operations;
* `Made`, `createDirectoriesFrom_made` — a directory that is made after those above it;
* `read_write`, `read_append` — what is read after something was written.
-/

namespace SignedUpgrade.FileTree

open Text

variable {t t' : FileTree} {p : Path} {l m : Location}

/-! ## The view after a change -/

/-- The top of a tree is always a directory. -/
@[simp] lemma get?_nil (t : FileTree) : t.get? [] = some .directory := by
  simp [get?]

lemma get?_put_of_ne (t : FileTree) (e : Entry) (h : m ≠ l) : (t.put l e).get? m = t.get? m := by
  by_cases top : m = []
  · simp [top]
  · have differ : (m == l) = false := by simpa using h
    simp only [get?, put, top, if_false, List.lookup_cons, differ]
    exact lookup_filter_ne h t.entries

/-- Erasing one place leaves all others alone. -/
lemma get?_erase_of_ne (t : FileTree) (h : m ≠ l) : (t.erase l).get? m = t.get? m := by
  by_cases top : m = []
  · simp [top]
  · simp only [get?, erase, top, if_false]
    exact lookup_filter_ne h t.entries

/-- Nothing is left at a place that was erased. -/
lemma get?_erase_self (t : FileTree) (h : l ≠ []) : (t.erase l).get? l = none := by
  have gone := lookup_filter_of_not (fun k => decide (k ≠ l)) (k := l) (by simp) t.entries
  simpa [get?, erase, h] using gone

/-- Erasing a directory leaves everything alone that is not below it. -/
lemma get?_eraseBelow_of_not_prefix (t : FileTree) (h : ¬ l <+: m) :
    (t.eraseBelow l).get? m = t.get? m := by
  by_cases top : m = []
  · simp [top]
  · have outside : l.isPrefixOf m = false := by
      rw [Bool.eq_false_iff, ne_eq, List.isPrefixOf_iff_prefix]
      exact h
    have kept := lookup_filter_of_keep (fun k => !l.isPrefixOf k) (k := m) (by simp [outside])
      t.entries
    simpa [get?, eraseBelow, top] using kept

/-- Nothing is left below a directory that was erased, but for the top of the tree. -/
lemma get?_eraseBelow_of_ne (t : FileTree) (below : l <+: m) (h : m ≠ []) :
    (t.eraseBelow l).get? m = none := by
  have gone := lookup_filter_of_not (fun k => !l.isPrefixOf k) (k := m)
    (by simp [List.isPrefixOf_iff_prefix.2 below]) t.entries
  simpa [get?, eraseBelow, h] using gone

/-- Nothing is left below a directory that was erased, nor the directory itself. -/
lemma get?_eraseBelow_of_prefix (t : FileTree) (below : l <+: m) (h : l ≠ []) :
    (t.eraseBelow l).get? m = none := by
  refine get?_eraseBelow_of_ne t below ?_
  rintro rfl
  exact h (List.prefix_nil.1 below)

/-! ## The operations -/

lemma placeForNew_ok (h : t.placeForNew p = .ok l) :
    t.resolve p = .ok l ∧ t.get? l.dropLast = some .directory := by
  unfold placeForNew at h
  cases found : t.resolve p with
  | error fault => simp [found, bind, Except.bind] at h
  | ok place =>
    simp only [found, bind, Except.bind] at h
    split at h
    · cases h
    · cases h
    · cases h
      exact ⟨rfl, by assumption⟩

/-- A file that is opened for writing is a new one or one that is there. -/
lemma openForWriting_ok {content : Bytes} {executable : Bool}
    (h : t.openForWriting p = .ok (l, content, executable)) :
    t.resolve p = .ok l ∧ (t.get? l = some (.file content executable)
      ∨ t.get? l = none ∧ content = [] ∧ executable = false) := by
  unfold openForWriting at h
  cases place : t.placeForNew (withoutLastSlash p) with
  | error fault => simp [place, bind, Except.bind] at h
  | ok l' =>
    simp only [place, bind, Except.bind] at h
    by_cases slash : withoutLastSlash p = p
    · rw [slash] at place
      simp only [slash, ne_eq, not_true_eq_false, if_false] at h
      split at h
      · cases h
      · cases h
        exact ⟨(placeForNew_ok place).1, .inl (by assumption)⟩
      · cases h
        exact ⟨(placeForNew_ok place).1, .inr ⟨by assumption, rfl, rfl⟩⟩
    · simp [slash] at h

/-- A file is written where no directory stands. -/
lemma write_cases {content : Bytes} (h : t.write p content = .ok t') :
    ∃ l executable, t.resolve p = .ok l ∧ t.get? l ≠ some .directory
      ∧ t' = t.put l (.file content executable) := by
  unfold write at h
  cases opened : t.openForWriting p with
  | error fault => simp [opened, bind, Except.bind] at h
  | ok found =>
    obtain ⟨l, old, executable⟩ := found
    simp only [opened, bind, Except.bind, pure, Except.pure, Except.ok.injEq] at h
    obtain ⟨place, stood⟩ := openForWriting_ok opened
    refine ⟨l, executable, place, ?_, h.symm⟩
    rcases stood with stood | ⟨stood, -, -⟩ <;> simp [stood]

/-- Bytes are added to what a file holds; a new file holds nothing. -/
lemma append_cases {added : Bytes} (h : t.append p added = .ok t') :
    ∃ l content executable, t.resolve p = .ok l
      ∧ (t.get? l = some (.file content executable) ∨ t.get? l = none ∧ content = [])
      ∧ t' = t.put l (.file (content ++ added) executable) := by
  unfold append at h
  cases opened : t.openForWriting p with
  | error fault => simp [opened, bind, Except.bind] at h
  | ok found =>
    obtain ⟨l, content, executable⟩ := found
    simp only [opened, bind, Except.bind, pure, Except.pure, Except.ok.injEq] at h
    obtain ⟨place, stood⟩ := openForWriting_ok opened
    exact ⟨l, content, executable, place, stood.imp_right fun s => ⟨s.1, s.2.1⟩, h.symm⟩

/-- Only a file that is there is removed. -/
lemma removeFile_cases (h : t.removeFile p = .ok t') :
    ∃ l content executable, t.resolve p = .ok l ∧ t.get? l = some (.file content executable)
      ∧ t' = t.erase l := by
  unfold removeFile at h
  cases found : t.resolve p with
  | error fault => simp [found, bind, Except.bind] at h
  | ok l =>
    simp only [found, bind, Except.bind] at h
    split at h
    · cases h
    · cases h
    · cases h
      exact ⟨l, _, _, rfl, by assumption, rfl⟩

/-- Only a directory that is there is removed, with everything below it. -/
lemma removeAll_cases (h : t.removeAll p = .ok t') :
    ∃ l, t.resolve p = .ok l ∧ t.get? l = some .directory ∧ t.isPinned l = false
      ∧ t' = t.eraseBelow l := by
  unfold removeAll at h
  cases found : t.resolve p with
  | error fault => simp [found, bind, Except.bind] at h
  | ok l =>
    simp only [found, bind, Except.bind] at h
    split at h
    · cases h
    · cases h
    · split at h
      · cases h
      · cases h
        exact ⟨l, rfl, by assumption, by simpa using ‹¬ t.isPinned l = true›, rfl⟩

/-- A directory that the system lets go of is removed. -/
lemma removeAll_of_directory (found : t.resolve p = .ok l) (stands : t.get? l = some .directory)
    (free : t.isPinned l = false) : t.removeAll p = .ok (t.eraseBelow l) := by
  simp [removeAll, found, stands, free, bind, Except.bind]

/-- Where removal misses what it should remove, nothing stands. -/
lemma at?_of_removeAll_error {fault : IoFault} (h : t.removeAll p = .error fault)
    (missing : fault.kind = .notFound) : t.at? p = none := by
  unfold removeAll at h
  rw [at?]
  cases found : t.resolve p with
  | error fault => rfl
  | ok l =>
    simp only [found, bind, Except.bind] at h
    split at h
    · assumption
    · cases h
      cases missing
    · split at h
      · cases h
        cases missing
      · cases h

lemma isPinned_eq_false_iff : t.isPinned l = false ↔ ∀ m, l <+: m → m ∉ t.pinned := by
  simp only [isPinned, List.any_eq_false, List.isPrefixOf_iff_prefix]
  exact ⟨fun h m below mem => h m mem below, fun h m mem below => h m below mem⟩

/-- A directory is created where nothing stands, in a directory that is there. -/
lemma createDirectory_cases (h : t.createDirectory p = .ok t') :
    ∃ l, t.resolve (withoutLastSlash p) = .ok l ∧ t.get? l = none
      ∧ t.get? l.dropLast = some .directory ∧ t' = t.put l .directory := by
  unfold createDirectory at h
  cases place : t.placeForNew (withoutLastSlash p) with
  | error fault => simp [place, bind, Except.bind] at h
  | ok l =>
    simp only [place, bind, Except.bind] at h
    split at h
    · cases h
    · cases h
      exact ⟨l, (placeForNew_ok place).1, by assumption, (placeForNew_ok place).2, rfl⟩

/-- How a directory came to stand after the directories above it were made, if they had to be. -/
inductive Made (t : FileTree) (p : Path) (fuel : Nat) : FileTree → Prop
  | nothing (empty : p.text = "") : Made t p fuel t
  | here {t' : FileTree} (made : t.createDirectory p = .ok t') : Made t p fuel t'
  | found {fault : IoFault} (refused : t.createDirectory p = .error fault)
    (present : fault.kind ≠ .notFound) (there : t.hasDirectory p = true) : Made t p fuel t
  | below {q : Path} {above t' : FileTree} {fault : IoFault}
    (refused : t.createDirectory p = .error fault) (missing : fault.kind = .notFound)
    (parent : p.parent? = some q) (upwards : t.createDirectoriesFrom q fuel = .ok above)
    (made : above.createDirectory p = .ok t') : Made t p fuel t'
  | foundBelow {q : Path} {above : FileTree} {fault : IoFault}
    (refused : t.createDirectory p = .error fault) (missing : fault.kind = .notFound)
    (parent : p.parent? = some q) (upwards : t.createDirectoriesFrom q fuel = .ok above)
    (there : above.hasDirectory p = true) : Made t p fuel above

lemma createDirectoriesFrom_made {fuel : Nat} (h : t.createDirectoriesFrom p (fuel + 1) = .ok t') :
    Made t p fuel t' := by
  rw [createDirectoriesFrom] at h
  by_cases empty : p.text = ""
  · rw [if_pos empty] at h
    cases h
    exact .nothing empty
  rw [if_neg empty] at h
  cases first : t.createDirectory p with
  | ok made =>
    rw [first] at h
    cases h
    exact .here first
  | error fault =>
    rw [first] at h
    by_cases missing : fault.kind = .notFound
    · simp only [missing, if_true] at h
      cases parent : p.parent? with
      | none => simp [parent] at h
      | some q =>
        cases upwards : t.createDirectoriesFrom q fuel with
        | error fault => simp [parent, upwards] at h
        | ok above =>
          simp only [parent, upwards] at h
          cases made : above.createDirectory p with
          | ok made' =>
            rw [made] at h
            cases h
            exact .below first missing parent upwards made
          | error fault' =>
            simp only [made] at h
            split at h
            · rename_i there
              cases h
              exact .foundBelow first missing parent upwards there
            · cases h
    · simp only [missing, if_false] at h
      split at h
      · rename_i there
        cases h
        exact .found first missing there
      · cases h

/-! ## Reading what was written -/

/-- A walk passes directories only, so it succeeds wherever these stand. -/
lemma walk_of_directories {from_ : Location} {pieces : List String}
    (kept : ∀ l, t.get? l = some .directory → t'.get? l = some .directory)
    (walked : t.walk from_ pieces = .ok m) : t'.walk from_ pieces = .ok m := by
  induction pieces generalizing from_ with
  | nil => exact walked
  | cons piece more ih =>
    unfold walk at walked ⊢
    cases here : t.get? from_ with
    | none => simp [here] at walked
    | some e =>
      cases e with
      | file => simp [here] at walked
      | directory =>
        rw [kept from_ here]
        simp only [here] at walked ⊢
        split at walked
        · simp_all
        · split at walked
          · simp_all
          · split at walked
            · simp_all
            · simp_all

/-- A path that is found is found wherever all directories are still there. -/
lemma resolve_of_directories (same : t'.workingDirectory = t.workingDirectory)
    (kept : ∀ l, t.get? l = some .directory → t'.get? l = some .directory)
    (found : t.resolve p = .ok m) : t'.resolve p = .ok m := by
  unfold resolve at found ⊢
  rw [same]
  split at found
  · cases found
  · split at found
    · cases found
    · split at found
      · cases found
      · simp_all only [if_false, Bool.false_eq_true]
        exact walk_of_directories kept found

/-- A file that is put where no directory stands takes no directory away. -/
lemma directory_put {content : Bytes} {executable : Bool} (free : t.get? l ≠ some .directory) :
    ∀ m, t.get? m = some .directory →
      (t.put l (.file content executable)).get? m = some .directory := by
  intro m directory
  have apart : m ≠ l := by
    rintro rfl
    exact free directory
  rw [get?_put_of_ne t _ apart, directory]

lemma resolve_put {content : Bytes} {executable : Bool} (found : t.resolve p = .ok m)
    (free : t.get? l ≠ some .directory) :
    (t.put l (.file content executable)).resolve p = .ok m :=
  resolve_of_directories (t := t) rfl (directory_put free) found

lemma read_of_file {content : Bytes} {executable : Bool} (found : t.resolve p = .ok l)
    (stands : t.get? l = some (.file content executable)) : t.read p = .ok content := by
  simp [read, found, stands, bind, Except.bind]

/-- What is read is what the file holds that a path leads to. -/
lemma read_cases {content : Bytes} (h : t.read p = .ok content) :
    ∃ l executable, t.resolve p = .ok l ∧ t.get? l = some (.file content executable) := by
  unfold read at h
  cases found : t.resolve p with
  | error fault => simp [found, bind, Except.bind] at h
  | ok l =>
    simp only [found, bind, Except.bind] at h
    split at h
    · cases h
    · cases h
    · cases h
      exact ⟨l, _, rfl, by assumption⟩

lemma read_put {content : Bytes} {executable : Bool} (found : t.resolve p = .ok l)
    (free : t.get? l ≠ some .directory) :
    (t.put l (.file content executable)).read p = .ok content := by
  have below : l ≠ [] := by
    rintro rfl
    exact free (get?_nil t)
  have stands : (t.put l (.file content executable)).get? l = some (.file content executable) := by
    rw [get?_put t l _ below, if_pos rfl]
  exact read_of_file (resolve_put found free) stands

/-- What was written is read. -/
lemma read_write {content : Bytes} (h : t.write p content = .ok t') : t'.read p = .ok content := by
  obtain ⟨l, executable, found, free, rfl⟩ := write_cases h
  exact read_put found free

/-- What was added is read behind what was there. -/
lemma read_append {content added : Bytes} (before : t.read p = .ok content)
    (h : t.append p added = .ok t') : t'.read p = .ok (content ++ added) := by
  obtain ⟨l, old, executable, found, stood, rfl⟩ := append_cases h
  rcases stood with stood | ⟨stood, -⟩
  · rw [read_of_file found stood] at before
    cases before
    exact read_put found (by simp [stood])
  · simp [read, found, stood, bind, Except.bind] at before

/-! ## Writing piece by piece -/

/-- A file was written and added to, any number of times. -/
inductive Writes (p : Path) : FileTree → FileTree → Prop where
  | nothing (t : FileTree) : Writes p t t
  | write {t t' t'' : FileTree} {content : Bytes} (h : t.write p content = .ok t')
      (more : Writes p t' t'') : Writes p t t''
  | append {t t' t'' : FileTree} {added : Bytes} (h : t.append p added = .ok t')
      (more : Writes p t' t'') : Writes p t t''

end SignedUpgrade.FileTree
