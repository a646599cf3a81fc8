import SignedUpgrade.Proofs.Files.Reach

/-!
# Directories that stay, and one that is made

Most operations take no directory away, so a path that leads to a directory goes on leading there.

Making a directory makes the directories above it as well.  Where the one directly above exists
there is nothing else to make, wherever its path leads before it comes there.

* `FileTree.KeepsDirectories` — no directory is taken away, with a lemma for each operation that
  does so;
* `FileTree.resolve_join` — a name below a directory is found, or refused as a name;
* `FileTree.createDirectories_join` — one directory is made and nothing else is done.
-/

namespace SignedUpgrade

open Text

namespace Path

variable {dir : Path} {name : String}

lemma IsName.ne (h : IsName name) : name ≠ "" ∧ name ≠ "." ∧ name ≠ ".." := by
  refine ⟨?_, ?_, ?_⟩
  all_goals
    rintro rfl
    cases h.1

/-- A path below another one starts where that one starts, and ends with the name. -/
lemma pieces_join (h : IsName name) (filled : dir.text ≠ "") :
    (dir.join name).isAbsolute = dir.isAbsolute
      ∧ ∃ above, (dir.join name).pieces = above ++ [name]
        ∧ (dir.pieces = above ∨ dir.pieces = above ++ [""]) := by
  unfold join
  rw [h.relative, Bool.false_or, decide_eq_false filled, if_neg Bool.false_ne_true]
  by_cases slash : dir.text.toList.getLast? = some '/'
  · rw [if_pos slash]
    obtain ⟨body, text⟩ := List.getLast?_eq_some_iff.1 slash
    have ended : dir = ⟨String.ofList body ++ "/" ++ ""⟩ := by
      refine congrArg Path.mk (String.toList_injective ?_)
      simpa using text
    have ended' : dir.text = String.ofList body ++ "/" := by
      rw [ended, String.append_empty]
    refine ⟨isAbsolute_append filled name, Path.pieces ⟨String.ofList body⟩, ?_, .inr ?_⟩
    · rw [ended', pieces_append_slash, h.pieces]
    · rw [ended, pieces_append_slash]
      rfl
  · rw [if_neg slash]
    refine ⟨?_, dir.pieces, ?_, .inl rfl⟩
    · rw [String.append_assoc]
      exact isAbsolute_append filled _
    · rw [pieces_append_slash, h.pieces]

lemma join_text (dir : Path) (name : String) :
    ∃ before : String, (dir.join name).text = before ++ name := by
  unfold join
  split_ifs
  · exact ⟨"", String.empty_append.symm⟩
  · exact ⟨dir.text, rfl⟩
  · exact ⟨dir.text ++ "/", rfl⟩

lemma join_text_ne (h : IsName name) (dir : Path) : (dir.join name).text ≠ "" := by
  obtain ⟨before, text⟩ := join_text dir name
  rw [text]
  simp [h.ne.1]

/-- A path that ends with a name ends without a slash. -/
lemma withoutLastSlash_join (h : IsName name) (dir : Path) :
    FileTree.withoutLastSlash (dir.join name) = dir.join name := by
  obtain ⟨before, text⟩ := join_text dir name
  obtain ⟨c, last, ended⟩ : ∃ c last, name.toList.reverse = c :: last := by
    refine List.exists_cons_of_ne_nil ?_
    simpa using h.ne.1
  have plain : c ≠ '/' := by
    rintro rfl
    have among : '/' ∈ name.toList.reverse := by
      rw [ended]
      exact List.mem_cons_self
    exact h.2 (List.mem_reverse.1 among)
  have chars : (dir.join name).text.toList.reverse = c :: (last ++ before.toList.reverse) := by
    rw [text, String.toList_append, List.reverse_append, ended, List.cons_append]
  have whole : (c :: (last ++ before.toList.reverse)).reverse = (dir.join name).text.toList := by
    rw [← chars, List.reverse_reverse]
  unfold FileTree.withoutLastSlash
  rw [chars, List.dropWhile_cons_of_neg (by simpa using plain)]
  simp only [whole, String.ofList_toList]

end Path

namespace FileTree

variable {t t' t'' : FileTree} {p dir : Path} {name : String} {l : Location}

lemma hasDirectory_iff :
    t.hasDirectory p = true ↔ ∃ l, t.resolve p = .ok l ∧ t.get? l = some .directory := by
  unfold hasDirectory at?
  cases t.resolve p with
  | error fault => simp
  | ok l => simp

/-! ## Directories that stay -/

/-- No directory is taken away, and the system refuses to remove the same ones. -/
structure KeepsDirectories (t t' : FileTree) : Prop where
  workingDirectory : t'.workingDirectory = t.workingDirectory
  pinned : t'.pinned = t.pinned
  kept : ∀ l, t.get? l = some .directory → t'.get? l = some .directory

namespace KeepsDirectories

lemma refl (t : FileTree) : KeepsDirectories t t :=
  ⟨rfl, rfl, fun _ stands => stands⟩

lemma trans (h : KeepsDirectories t t') (h' : KeepsDirectories t' t'') : KeepsDirectories t t'' :=
  ⟨h'.workingDirectory.trans h.workingDirectory, h'.pinned.trans h.pinned,
    fun l stands => h'.kept l (h.kept l stands)⟩

lemma resolve (h : KeepsDirectories t t') (found : t.resolve p = .ok l) : t'.resolve p = .ok l :=
  resolve_of_directories h.workingDirectory h.kept found

/-- A path that leads to a directory goes on leading there. -/
lemma hasDirectory (h : KeepsDirectories t t') (there : t.hasDirectory p = true) :
    t'.hasDirectory p = true := by
  obtain ⟨l, found, stands⟩ := hasDirectory_iff.1 there
  exact hasDirectory_iff.2 ⟨l, h.resolve found, h.kept l stands⟩

lemma isPinned (h : KeepsDirectories t t') (l : Location) : t'.isPinned l = t.isPinned l := by
  rw [FileTree.isPinned, FileTree.isPinned, h.pinned]

end KeepsDirectories

lemma Grown.keepsDirectories (h : Grown p t t') : KeepsDirectories t t' := by
  refine ⟨h.workingDirectory, h.pinned, fun l stands => ?_⟩
  rcases h.grows l with same | ⟨free, _, _⟩
  · rw [same, stands]
  · rw [stands] at free
    cases free

lemma write_keepsDirectories {content : Bytes} (h : t.write p content = .ok t') :
    KeepsDirectories t t' := by
  obtain ⟨l, _, _, free, rfl⟩ := write_cases h
  exact ⟨rfl, rfl, directory_put free⟩

lemma append_keepsDirectories {added : Bytes} (h : t.append p added = .ok t') :
    KeepsDirectories t t' := by
  obtain ⟨l, _, _, _, stood, rfl⟩ := append_cases h
  refine ⟨rfl, rfl, directory_put ?_⟩
  rcases stood with stood | ⟨stood, _⟩ <;> simp [stood]

lemma Writes.keepsDirectories (h : Writes p t t') : KeepsDirectories t t' := by
  induction h with
  | nothing t => exact .refl t
  | write written _ ih => exact (write_keepsDirectories written).trans ih
  | append added _ ih => exact (append_keepsDirectories added).trans ih

lemma removeFile_keepsDirectories (h : t.removeFile p = .ok t') : KeepsDirectories t t' := by
  obtain ⟨l, _, _, _, stood, rfl⟩ := removeFile_cases h
  refine ⟨rfl, rfl, fun m stands => ?_⟩
  have apart : m ≠ l := by
    rintro rfl
    rw [stands] at stood
    cases stood
  rw [get?_erase_of_ne t apart, stands]

/-- Removing a file takes nothing away from another one. -/
lemma read_removeFile {q : Path} {content : Bytes} (h : t.removeFile q = .ok t')
    (apart : q.place t.workingDirectory ≠ p.place t.workingDirectory)
    (holds : t.read p = .ok content) : t'.read p = .ok content := by
  obtain ⟨l, executable, found, stands⟩ := read_cases holds
  have elsewhere : l ≠ q.place t.workingDirectory := by
    rw [resolve_eq_place found]
    exact apart.symm
  have kept : t'.get? l = some (.file content executable) := by
    rw [(removeFile_sameBut h).same l elsewhere, stands]
  exact read_of_file ((removeFile_keepsDirectories h).resolve found) kept

/-- A directory is put where nothing stands. -/
lemma put_keepsDirectories (free : t.get? l = none) : KeepsDirectories t (t.put l .directory) := by
  refine ⟨rfl, rfl, fun m stands => ?_⟩
  have apart : m ≠ l := by
    rintro rfl
    rw [stands] at free
    cases free
  rw [get?_put_of_ne t _ apart, stands]

/-! ## A name below a directory -/

lemma walk_append (t : FileTree) (l : Location) (ps qs : List String) :
    t.walk l (ps ++ qs) = (t.walk l ps).bind fun m => t.walk m qs := by
  induction ps generalizing l with
  | nil => rfl
  | cons piece more ih =>
    rw [List.cons_append, walk, walk]
    cases t.get? l with
    | none => rfl
    | some e =>
      cases e with
      | file => rfl
      | directory =>
        simp only [ih]
        split_ifs <;> rfl

/-- A path is refused for what it looks like, or it is walked piece by piece. -/
lemma resolve_cases (t : FileTree) (filled : p.text ≠ "") :
    (∃ fault, t.resolve p = .error fault ∧ fault.kind ≠ .notFound)
      ∨ t.resolve p = t.walk (if p.isAbsolute then [] else t.workingDirectory) p.pieces := by
  unfold resolve
  rw [if_neg filled]
  split
  · exact .inl ⟨_, rfl, by decide⟩
  · split
    · exact .inl ⟨_, rfl, by decide⟩
    · exact .inr rfl

/-- A name below a directory that is there is found, or it is refused for what it looks like. -/
lemma resolve_join (named : Path.IsName name) (found : t.resolve dir = .ok l)
    (stands : t.get? l = some .directory) :
    t.resolve (dir.join name) = .ok (l ++ [name])
      ∨ ∃ fault, t.resolve (dir.join name) = .error fault ∧ fault.kind ≠ .notFound := by
  have filled : dir.text ≠ "" := by
    intro empty
    simp [resolve, empty] at found
  obtain ⟨start, above, pieces, same⟩ := Path.pieces_join named filled
  -- the walk to the directory is the first part of the walk to the name
  have walked : t.walk (if dir.isAbsolute then [] else t.workingDirectory) above = .ok l := by
    rcases t.resolve_cases filled with ⟨fault, refused, _⟩ | walk
    · rw [refused] at found
      cases found
    · rw [walk] at found
      rcases same with same | same
      · rwa [same] at found
      · rw [same, walk_append] at found
        cases before : t.walk (if dir.isAbsolute then [] else t.workingDirectory) above with
        | error fault =>
          rw [before] at found
          cases found
        | ok m =>
          simp only [before, Except.bind, FileTree.walk] at found
          cases here : t.get? m with
          | none => simp [here] at found
          | some e =>
            cases e with
            | file => simp [here] at found
            | directory => simpa [here] using found
  have goes : t.walk (if (dir.join name).isAbsolute then [] else t.workingDirectory)
      (dir.join name).pieces
      = if name.utf8ByteSize > longestName then .error .nameTooLong else .ok (l ++ [name]) := by
    obtain ⟨filled, dot, dots⟩ := named.ne
    rw [start, pieces, walk_append, walked]
    simp [Except.bind, walk, stands, filled, dot, dots]
  rcases t.resolve_cases (Path.join_text_ne named dir) with refused | walk
  · exact .inr refused
  · rw [walk, goes]
    split
    · exact .inr ⟨_, rfl, by decide⟩
    · exact .inl rfl

/-- **A directory is made in one that is there, and nothing else is done.** -/
theorem createDirectories_join (named : Path.IsName name) (there : t.hasDirectory dir = true)
    (free : t.get? (dir.place t.workingDirectory ++ [name]) = none)
    (h : t.createDirectories (dir.join name) = .ok t') :
    t' = t.put (dir.place t.workingDirectory ++ [name]) .directory
      ∧ t'.hasDirectory (dir.join name) = true := by
  obtain ⟨l, found, stands⟩ := hasDirectory_iff.1 there
  rw [← resolve_eq_place found] at free ⊢
  have whole := Path.withoutLastSlash_join named dir
  unfold createDirectories createDirectoriesFrom at h
  rw [if_neg (Path.join_text_ne named dir)] at h
  rcases resolve_join named found stands with leads | ⟨fault, refused, kind⟩
  · have made : t.createDirectory (dir.join name) = .ok (t.put (l ++ [name]) .directory) := by
      simp [createDirectory, placeForNew, whole, leads, bind, Except.bind, stands, free]
    rw [made] at h
    cases h
    have below : l ++ [name] ≠ [] := by simp
    refine ⟨rfl, hasDirectory_iff.2 ⟨l ++ [name], (put_keepsDirectories free).resolve leads, ?_⟩⟩
    rw [get?_put t _ _ below, if_pos rfl]
  · have failed : t.createDirectory (dir.join name) = .error fault := by
      simp [createDirectory, placeForNew, whole, refused, bind, Except.bind]
    have nothing : t.hasDirectory (dir.join name) = false := by
      simp [hasDirectory, at?, refused]
    simp [failed, kind, nothing] at h

end FileTree

end SignedUpgrade
