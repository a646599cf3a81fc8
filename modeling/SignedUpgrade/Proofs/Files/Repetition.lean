import SignedUpgrade.Proofs.Files.Creation

/-!
# Making directories again

Directories that were made once need not be made again: the operation succeeds and changes nothing,
however files and directories were added in between.  The same holds of opening a file.

* `FileTree.KeepsEntries` — directories stay directories, and files stay files;
* `Path.withoutLastSlash_parent` — the path to a directory above ends without a slash;
* `FileTree.createDirectories_again` — directories that are there need not be made;
* `FileTree.openForWriting_again` — a file that was opened can be opened;
* `FileTree.append_of_written` — a file that is written in pieces.
-/

namespace SignedUpgrade

open Text

namespace Path

/-! ## Paths without a slash at their end -/

lemma withoutLastSlash_of_getLast {p : Path} (h : p.text.toList.getLast? ≠ some '/') :
    FileTree.withoutLastSlash p = p := by
  have last : p.text.toList.reverse.head? ≠ some '/' := by
    rwa [List.head?_reverse]
  have kept : p.text.toList.reverse.dropWhile (· = '/') = p.text.toList.reverse := by
    cases chars : p.text.toList.reverse with
    | nil => rfl
    | cons c r =>
      rw [chars, List.head?_cons] at last
      exact List.dropWhile_cons_of_neg (by simpa using last)
  unfold FileTree.withoutLastSlash
  rw [kept]
  split
  · rfl
  · rename_i rest
    rw [List.reverse_reverse, String.ofList_toList]

/-- The last component of a path, apart from the top, is written without a slash. -/
lemma exists_last {cs : List Component} (formed : Formed cs) (filled : cs ≠ [])
    (below : cs ≠ [.root]) : ∃ front last, cs = front ++ [last] ∧ componentText last ≠ ""
      ∧ '/' ∉ (componentText last).toList := by
  obtain ⟨start, steps, rfl, known, all⟩ := formed
  rcases List.eq_nil_or_concat steps with rfl | ⟨front, last, rfl⟩
  · simp only [List.append_nil, List.mem_cons, List.not_mem_nil, or_false] at known filled below
    rcases known with rfl | rfl | rfl
    · exact absurd rfl filled
    · exact absurd rfl below
    · exact ⟨[], .here, rfl, by decide, by decide⟩
  · obtain ⟨named, plain⟩ := all last (by simp)
    refine ⟨start ++ front, last, by simp, ?_, plain⟩
    intro empty
    rw [empty] at named
    cases named

lemma withoutLastSlash_ofComponents {cs : List Component} (formed : Formed cs) :
    FileTree.withoutLastSlash (ofComponents cs) = ofComponents cs := by
  by_cases filled : cs = []
  · subst filled
    rfl
  by_cases below : cs = [.root]
  · subst below
    rfl
  apply withoutLastSlash_of_getLast
  rw [ofComponents_eq filled below]
  obtain ⟨front, last, rfl, some_, plain⟩ := exists_last formed filled below
  obtain ⟨before, text⟩ : ∃ before, "/".intercalate ((front ++ [last]).map componentText)
      = before ++ componentText last := by
    cases front with
    | nil => exact ⟨"", by simp [String.intercalate_singleton]⟩
    | cons c front =>
      rw [List.map_append, List.map_singleton,
        String.intercalate_append_of_ne_nil (by simp) (by simp), String.intercalate_singleton]
      exact ⟨_, rfl⟩
  rw [text, String.toList_append, List.getLast?_append_of_ne_nil _ (by simpa using some_)]
  exact fun slash => plain (List.mem_of_getLast? slash)

/-- The path to the directory above ends without a slash. -/
lemma withoutLastSlash_parent {p q : Path} (h : p.parent? = some q) :
    FileTree.withoutLastSlash q = q := by
  unfold parent? at h
  split at h
  · cases h
  · cases h
  · cases h
    exact withoutLastSlash_ofComponents p.formed_components.dropLast

end Path

namespace FileTree

variable {t t' t'' : FileTree} {p : Path} {l : Location}

/-! ## Entries that stay -/

/-- No directory is taken away, and no file gives way to anything else. -/
structure KeepsEntries (t t' : FileTree) : Prop extends KeepsDirectories t t' where
  files : ∀ l content executable, t.get? l = some (.file content executable) →
    ∃ content' executable', t'.get? l = some (.file content' executable')

lemma append_keepsEntries {added : Bytes} (h : t.append p added = .ok t') : KeepsEntries t t' := by
  refine ⟨append_keepsDirectories h, ?_⟩
  intro m content executable stands
  obtain ⟨l, old, flag, _, _, rfl⟩ := append_cases h
  by_cases same : m = l
  · subst same
    have below : m ≠ [] := by
      rintro rfl
      rw [get?_nil] at stands
      cases stands
    exact ⟨_, _, by rw [get?_put t _ _ below, if_pos rfl]⟩
  · exact ⟨content, executable, by rw [get?_put_of_ne t _ same, stands]⟩

/-! ## Directories that are there -/

/-- A directory that is there cannot be made. -/
lemma createDirectory_of_hasDirectory (plain : withoutLastSlash p = p)
    (there : t.hasDirectory p = true) : ∃ fault, t.createDirectory p = .error fault := by
  obtain ⟨l, found, stands⟩ := hasDirectory_iff.1 there
  unfold createDirectory placeForNew
  rw [plain, found]
  cases above : t.get? l.dropLast with
  | none => exact ⟨.missing, by simp [bind, Except.bind, above]⟩
  | some e =>
    cases e with
    | file => exact ⟨.notDirectory, by simp [bind, Except.bind, above]⟩
    | directory => exact ⟨.occupied, by simp [bind, Except.bind, above, stands]⟩

/-- Where a directory is there, making it changes nothing. -/
lemma createDirectoriesFrom_standing {fuel : Nat} (plain : withoutLastSlash p = p)
    (there : t.hasDirectory p = true)
    (above : ∀ fault, t.createDirectory p = .error fault → fault.kind = .notFound →
      ∃ q, p.parent? = some q ∧ t.createDirectoriesFrom q fuel = .ok t) :
    t.createDirectoriesFrom p (fuel + 1) = .ok t := by
  obtain ⟨fault, refused⟩ := createDirectory_of_hasDirectory plain there
  rw [createDirectoriesFrom]
  split
  · rfl
  · rw [refused]
    by_cases missing : fault.kind = .notFound
    · obtain ⟨q, parent, made⟩ := above fault refused missing
      simp [missing, parent, made, refused, there]
    · simp [missing]

/-- A directory that stands in a directory is occupied. -/
lemma createDirectory_occupied (plain : withoutLastSlash p = p) (found : t.resolve p = .ok l)
    (stands : t.get? l = some .directory) (above : t.get? l.dropLast = some .directory) :
    t.createDirectory p = .error .occupied := by
  simp [createDirectory, placeForNew, plain, found, stands, above, bind, Except.bind]

/-- A directory that was made is there, and cannot be made again. -/
lemma createDirectory_again (plain : withoutLastSlash p = p) (h : t.createDirectory p = .ok t')
    (keeps : KeepsEntries t' t'') :
    t''.hasDirectory p = true ∧ t''.createDirectory p = .error .occupied := by
  obtain ⟨l, found, free, above, rfl⟩ := createDirectory_cases h
  rw [plain] at found
  have below : l ≠ [] := by
    rintro rfl
    rw [get?_nil] at free
    cases free
  have made : (t.put l .directory).get? l = some .directory := by
    rw [get?_put t _ _ below, if_pos rfl]
  have put := put_keepsDirectories free
  have found' := keeps.resolve (put.resolve found)
  have stands := keeps.kept l made
  exact ⟨hasDirectory_iff.2 ⟨l, found', stands⟩,
    createDirectory_occupied plain found' stands (keeps.kept _ (put.kept _ above))⟩

/-- A directory that could not be made for another reason than that one above it was missing cannot
be made for such a reason later. -/
lemma createDirectory_notFound (plain : withoutLastSlash p = p) (there : t.hasDirectory p = true)
    (keeps : KeepsEntries t t'') {fault : IoFault} (h : t''.createDirectory p = .error fault)
    (missing : fault.kind = .notFound) :
    ∃ fault, t.createDirectory p = .error fault ∧ fault.kind = .notFound := by
  obtain ⟨l, found, stands⟩ := hasDirectory_iff.1 there
  cases above : t.get? l.dropLast with
  | none =>
    refine ⟨.missing, ?_, rfl⟩
    simp [createDirectory, placeForNew, plain, found, above, bind, Except.bind]
  | some e =>
    exfalso
    have found' := keeps.resolve found
    have stands' := keeps.kept l stands
    cases e with
    | directory =>
      rw [createDirectory_occupied plain found' stands' (keeps.kept _ above)] at h
      cases h
      cases missing
    | file content executable =>
      obtain ⟨content', executable', above'⟩ := keeps.files _ _ _ above
      simp only [createDirectory, placeForNew, plain, found', above', bind, Except.bind] at h
      cases h
      cases missing

/-- **Directories that were made need not be made again.** -/
lemma createDirectoriesFrom_again {fuel : Nat} (plain : withoutLastSlash p = p)
    (h : t.createDirectoriesFrom p fuel = .ok t') (keeps : KeepsEntries t' t'') :
    t''.createDirectoriesFrom p fuel = .ok t'' := by
  induction fuel generalizing p t t' with
  | zero => cases h
  | succ fuel ih =>
    have again : ∀ {t : FileTree}, t.createDirectory p = .ok t' →
        t''.createDirectoriesFrom p (fuel + 1) = .ok t'' := by
      intro t made
      obtain ⟨there, occupied⟩ := createDirectory_again plain made keeps
      refine createDirectoriesFrom_standing plain there fun fault refused missing => ?_
      rw [occupied] at refused
      cases refused
      cases missing
    cases createDirectoriesFrom_made h with
    | nothing empty => rw [createDirectoriesFrom, if_pos empty]
    | here made => exact again made
    | found refused present there =>
      refine createDirectoriesFrom_standing plain (keeps.hasDirectory there)
        fun fault refused' missing => ?_
      obtain ⟨_, same, missing'⟩ := createDirectory_notFound plain there keeps refused' missing
      rw [refused] at same
      cases same
      exact absurd missing' present
    | below _ _ _ _ made => exact again made
    | foundBelow _ _ parent upwards there =>
      refine createDirectoriesFrom_standing plain (keeps.hasDirectory there)
        fun _ _ _ => ⟨_, parent, ?_⟩
      exact ih (Path.withoutLastSlash_parent parent) upwards keeps

lemma createDirectories_again (plain : withoutLastSlash p = p)
    (h : t.createDirectories p = .ok t') (keeps : KeepsEntries t' t'') :
    t''.createDirectories p = .ok t'' :=
  createDirectoriesFrom_again plain h keeps

/-! ## Files that are there -/

/-- A file is opened in a directory, where a file stands or nothing does. -/
lemma openForWriting_eq_ok_iff {content : Bytes} {executable : Bool} :
    t.openForWriting p = .ok (l, content, executable) ↔ withoutLastSlash p = p
      ∧ t.resolve p = .ok l ∧ t.get? l.dropLast = some .directory
      ∧ (t.get? l = some (.file content executable)
        ∨ t.get? l = none ∧ content = [] ∧ executable = false) := by
  constructor
  · intro h
    have stood := openForWriting_ok h
    unfold openForWriting at h
    by_cases plain : withoutLastSlash p = p
    · rw [plain] at h
      cases place : t.placeForNew p with
      | error fault => simp [place, bind, Except.bind] at h
      | ok m =>
        obtain ⟨found, above⟩ := placeForNew_ok place
        rw [stood.1] at found
        cases found
        exact ⟨plain, stood.1, above, stood.2⟩
    · cases place : t.placeForNew (withoutLastSlash p) with
      | error fault => simp [place, bind, Except.bind] at h
      | ok m => simp [place, plain, bind, Except.bind] at h
  · rintro ⟨plain, found, above, stood⟩
    rcases stood with stood | ⟨stood, rfl, rfl⟩
    · simp [openForWriting, placeForNew, plain, found, above, stood, bind, Except.bind]
    · simp [openForWriting, placeForNew, plain, found, above, stood, bind, Except.bind]

/-- A file that was opened is there once it is put in its place, with what was put there. -/
lemma openForWriting_put {old content : Bytes} {executable flag : Bool}
    (opened : t.openForWriting p = .ok (l, old, executable)) :
    (t.put l (.file content flag)).openForWriting p = .ok (l, content, flag) := by
  obtain ⟨plain, found, above, stood⟩ := openForWriting_eq_ok_iff.1 opened
  have free : t.get? l ≠ some .directory := by
    rcases stood with stood | ⟨stood, -⟩ <;> simp [stood]
  have below : l ≠ [] := by
    rintro rfl
    exact free (get?_nil t)
  refine openForWriting_eq_ok_iff.2 ⟨plain, resolve_put found free, directory_put free _ above,
    .inl ?_⟩
  rw [get?_put t _ _ below, if_pos rfl]

/-- **A file that was opened can be opened again,** with what was added to it. -/
lemma openForWriting_again {added : Bytes} (h : t.append p added = .ok t') :
    ∃ opened, t'.openForWriting p = .ok opened := by
  unfold append at h
  cases opened : t.openForWriting p with
  | error fault => simp [opened, bind, Except.bind] at h
  | ok found =>
    simp only [opened, bind, Except.bind, pure, Except.pure, Except.ok.injEq] at h
    subst h
    exact ⟨_, openForWriting_put opened⟩

lemma append_of_opened {opened : Location × Bytes × Bool}
    (h : t.openForWriting p = .ok opened) (added : Bytes) : ∃ t', t.append p added = .ok t' := by
  obtain ⟨l, content, executable⟩ := opened
  refine ⟨t.put l (.file (content ++ added) executable), ?_⟩
  rw [append, h]
  rfl

/-! ## Writing in pieces -/

/-- What stands at a place last is all that counts. -/
lemma put_put (t : FileTree) (l : Location) (e e' : Entry) : (t.put l e).put l e' = t.put l e' := by
  simp [put, List.filter_filter]

/-- Whether a file can be written does not depend on what is written. -/
lemma write_eq (t : FileTree) (p : Path) (content : Bytes) :
    t.write p content = (t.openForWriting p).map fun found =>
      t.put found.1 (.file content found.2.2) := by
  rw [write]
  rcases t.openForWriting p with fault | ⟨l, old, executable⟩
  · rfl
  · rfl

/-- Nothing is written below a directory that is missing. -/
lemma Writes.eq_of_missing (h : Writes p t t')
    (missing : t.get? (p.place t.workingDirectory).dropLast = none) : t' = t := by
  have closed : ∀ opened, t.openForWriting p ≠ .ok opened := by
    rintro ⟨l, content, executable⟩ opened
    obtain ⟨_, found, above, _⟩ := openForWriting_eq_ok_iff.1 opened
    rw [resolve_eq_place found, missing] at above
    cases above
  cases h with
  | nothing => rfl
  | write written _ =>
    rw [write_eq] at written
    cases opened : t.openForWriting p with
    | error fault =>
      rw [opened] at written
      cases written
    | ok found => exact absurd opened (closed found)
  | append added _ =>
    rw [FileTree.append] at added
    cases opened : t.openForWriting p with
    | error fault =>
      rw [opened] at added
      cases added
    | ok found => exact absurd opened (closed found)

/-- **A file that was written and then added to holds what it would hold if all had been written at
once.** -/
lemma append_of_written {content : Bytes} (h : t.write p content = .ok t') (added : Bytes) :
    t'.append p added = t.write p (content ++ added) := by
  rw [write_eq] at h
  rcases opened : t.openForWriting p with fault | ⟨l, old, executable⟩
  · rw [opened] at h
    cases h
  · rw [opened] at h
    obtain rfl : t.put l (.file content executable) = t' := Except.ok.inj h
    rw [append, openForWriting_put opened, write, opened]
    exact congrArg Except.ok (put_put t l _ _)

end FileTree

end SignedUpgrade
