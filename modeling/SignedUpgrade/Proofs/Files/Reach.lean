import SignedUpgrade.Proofs.Files.Place

/-!
# What operations leave alone

An operation changes something at the place of its path, below it or on the way to it, and leaves
everything else alone.

* `FileTree.Grown` — directories were made on the way of a path, and nothing else was done;
* `FileTree.SameBut` — nothing changed but at some places, with a lemma for each operation that says
  which places these are;
* `FileTree.file?` — the view in which directories cannot be seen.
-/

namespace SignedUpgrade.FileTree

open Text

/-! ## Making directories

Making a directory makes the directories above it, and no others.  The path above another one has
fewer components, so all of these places are on the way that the components lead.
-/

variable {t t' t'' : FileTree} {p : Path} {l : Location}

/-- Directories were made on the way of a path, where nothing stood; nothing else was done. -/
structure Grown (p : Path) (t t' : FileTree) : Prop where
  workingDirectory : t'.workingDirectory = t.workingDirectory
  pinned : t'.pinned = t.pinned
  grows : ∀ l, t'.get? l = t.get? l
    ∨ t.get? l = none ∧ t'.get? l = some .directory ∧ p.OnWay t.workingDirectory l

namespace Grown

lemma refl (p : Path) (t : FileTree) : Grown p t t :=
  ⟨rfl, rfl, fun _ => .inl rfl⟩

lemma trans (h : Grown p t t') (h' : Grown p t' t'') : Grown p t t'' := by
  refine ⟨h'.workingDirectory.trans h.workingDirectory, h'.pinned.trans h.pinned, fun l => ?_⟩
  rcases h.grows l with same | ⟨free, made, way⟩
  · rcases h'.grows l with same' | ⟨free, made, way⟩
    · exact .inl (same'.trans same)
    · rw [h.workingDirectory] at way
      exact .inr ⟨same.symm.trans free, made, way⟩
  · rcases h'.grows l with same' | ⟨free', _, _⟩
    · exact .inr ⟨free, same'.trans made, way⟩
    · rw [made] at free'
      cases free'

lemma of_parent {q : Path} (h : Grown q t t') (parent : p.parent? = some q) : Grown p t t' :=
  ⟨h.workingDirectory, h.pinned, fun l => (h.grows l).imp_right fun made =>
    ⟨made.1, made.2.1, made.2.2.of_parent parent⟩⟩

end Grown

lemma createDirectory_grown (h : t.createDirectory p = .ok t') : Grown p t t' := by
  obtain ⟨l, found, free, _, rfl⟩ := createDirectory_cases h
  have below : l ≠ [] := by
    rintro rfl
    rw [get?_nil] at free
    cases free
  have place : l = p.place t.workingDirectory := by
    rw [resolve_eq_place found, Path.place, Path.components_withoutLastSlash]
    rfl
  refine ⟨rfl, rfl, fun m => ?_⟩
  rw [get?_put t m _ below]
  by_cases here : m = l
  · rw [if_pos here, here]
    exact .inr ⟨free, rfl, place ▸ p.onWay_place _⟩
  · rw [if_neg here]
    exact .inl rfl

/-- The directories that are made are on the way of the path; the recursion goes up this way. -/
lemma createDirectoriesFrom_grown {fuel : Nat} (h : t.createDirectoriesFrom p fuel = .ok t') :
    Grown p t t' := by
  induction fuel generalizing t t' p with
  | zero => cases h
  | succ fuel ih =>
    cases createDirectoriesFrom_made h with
    | nothing | found => exact .refl p t
    | here made => exact createDirectory_grown made
    | below _ _ parent upwards made =>
      exact ((ih upwards).of_parent parent).trans (createDirectory_grown made)
    | foundBelow _ _ parent upwards => exact (ih upwards).of_parent parent

lemma createDirectories_grown (h : t.createDirectories p = .ok t') : Grown p t t' :=
  createDirectoriesFrom_grown h

/-! ## Where operations change something -/

/-- Nothing changed but at some places. -/
structure SameBut (P : Location → Prop) (t t' : FileTree) : Prop where
  workingDirectory : t'.workingDirectory = t.workingDirectory
  same : ∀ l, ¬ P l → t'.get? l = t.get? l
  pinned : ∀ l, ¬ P l → (l ∈ t'.pinned ↔ l ∈ t.pinned)

namespace SameBut

variable {P Q : Location → Prop}

lemma refl (P : Location → Prop) (t : FileTree) : SameBut P t t :=
  ⟨rfl, fun _ _ => rfl, fun _ _ => .rfl⟩

lemma symm (h : SameBut P t t') : SameBut P t' t :=
  ⟨h.workingDirectory.symm, fun l out => (h.same l out).symm, fun l out => (h.pinned l out).symm⟩

lemma trans (h : SameBut P t t') (h' : SameBut P t' t'') : SameBut P t t'' :=
  ⟨h'.workingDirectory.trans h.workingDirectory,
    fun l out => (h'.same l out).trans (h.same l out),
    fun l out => (h'.pinned l out).trans (h.pinned l out)⟩

lemma mono (h : SameBut P t t') (sub : ∀ l, P l → Q l) : SameBut Q t t' :=
  ⟨h.workingDirectory, fun l out => h.same l fun at_ => out (sub l at_),
    fun l out => h.pinned l fun at_ => out (sub l at_)⟩

/-- Nothing can be removed below a place that could not be removed before. -/
lemma isPinned (h : SameBut P t t') (clear : ∀ m, l <+: m → ¬ P m) :
    t'.isPinned l = t.isPinned l := by
  have unpinned : t'.isPinned l = false ↔ t.isPinned l = false := by
    rw [isPinned_eq_false_iff, isPinned_eq_false_iff]
    exact forall₂_congr fun m below => not_congr (h.pinned m (clear m below))
  exact Bool.eq_iff_iff.2 (by simpa using not_congr unpinned)

end SameBut

lemma Grown.sameBut (h : Grown p t t') : SameBut (p.OnWay t.workingDirectory) t t' := by
  refine ⟨h.workingDirectory, fun l out => ?_, fun _ _ => by rw [h.pinned]⟩
  rcases h.grows l with same | ⟨_, _, way⟩
  · exact same
  · exact absurd way out

lemma sameBut_put (t : FileTree) (l : Location) (e : Entry) : SameBut (· = l) t (t.put l e) :=
  ⟨rfl, fun _ out => get?_put_of_ne t e out, fun _ _ => .rfl⟩

lemma write_sameBut {content : Bytes} (h : t.write p content = .ok t') :
    SameBut (· = p.place t.workingDirectory) t t' := by
  obtain ⟨l, _, found, _, rfl⟩ := write_cases h
  rw [← resolve_eq_place found]
  exact sameBut_put t l _

lemma append_sameBut {added : Bytes} (h : t.append p added = .ok t') :
    SameBut (· = p.place t.workingDirectory) t t' := by
  obtain ⟨l, _, _, found, _, rfl⟩ := append_cases h
  rw [← resolve_eq_place found]
  exact sameBut_put t l _

lemma Writes.sameBut (h : Writes p t t') : SameBut (· = p.place t.workingDirectory) t t' := by
  induction h with
  | nothing t => exact .refl _ t
  | write written _ ih =>
    have first := write_sameBut written
    rw [first.workingDirectory] at ih
    exact first.trans ih
  | append added _ ih =>
    have first := append_sameBut added
    rw [first.workingDirectory] at ih
    exact first.trans ih

lemma removeFile_sameBut (h : t.removeFile p = .ok t') :
    SameBut (· = p.place t.workingDirectory) t t' := by
  obtain ⟨l, _, _, found, _, rfl⟩ := removeFile_cases h
  rw [← resolve_eq_place found]
  exact ⟨rfl, fun _ out => get?_erase_of_ne t out, fun _ _ => .rfl⟩

lemma removeAll_sameBut (h : t.removeAll p = .ok t') :
    SameBut (p.place t.workingDirectory <+: ·) t t' := by
  obtain ⟨l, found, _, _, rfl⟩ := removeAll_cases h
  rw [← resolve_eq_place found]
  exact ⟨rfl, fun _ out => get?_eraseBelow_of_not_prefix t out, fun _ _ => .rfl⟩

/-! ## Files -/

/-- The file at a place, if there is one: what it holds and whether it can be executed. -/
def file? (t : FileTree) (l : Location) : Option (Bytes × Bool) :=
  match t.get? l with
  | some (.file content executable) => some (content, executable)
  | _ => none

lemma file?_congr (h : t'.get? l = t.get? l) : t'.file? l = t.file? l := by
  rw [file?, file?, h]

/-- Where directories are made no file comes or goes. -/
lemma Grown.file?_eq (h : Grown p t t') (l : Location) : t'.file? l = t.file? l := by
  rcases h.grows l with same | ⟨free, made, _⟩
  · exact file?_congr same
  · rw [file?, file?, free, made]

/-- A file that was removed is gone. -/
lemma removeFile_gone (h : t.removeFile p = .ok t') :
    t'.file? (p.place t.workingDirectory) = none := by
  obtain ⟨l, _, _, found, stood, rfl⟩ := removeFile_cases h
  have below : l ≠ [] := by
    rintro rfl
    rw [get?_nil] at stood
    cases stood
  rw [← resolve_eq_place found, file?, get?_erase_self t below]

end SignedUpgrade.FileTree
