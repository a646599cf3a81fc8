import SignedUpgrade.Files.Addition
import SignedUpgrade.Proofs.Upgrade.Footprint
import SignedUpgrade.Settings.Sinks

/-!
# The audit file

A file that events are kept in grows by one line for each event that it accepts, and the settings
say whether there is such a file.

* `Visit.Appends` — a visit adds bytes at the end of a file and touches no other one;
* `Sink.file_appends` — **an event that a file accepts is appended to it**;
* `Reporter.ofSettings_file`, `Reporter.count_file` — the place of the file among the sinks.
-/

namespace SignedUpgrade

open Text

variable {σ : Type}

/-! ## Lines in a file -/

/-- Bytes were added at the end of the file of a path, and no other file was touched. -/
structure Visit.Appends (path : Path) (added : Bytes) (v : Visit) : Prop where
  only : v.WritesOnly path
  content : v.after.read path
    = .ok (v.before.contentAt (path.place v.before.workingDirectory) ++ added)

/-- The content at a place is a matter of the file there. -/
lemma FileTree.contentAt_congr {t t' : FileTree} {l : Location} (h : t'.file? l = t.file? l) :
    t'.contentAt l = t.contentAt l := by
  have told : ∀ u : FileTree, u.contentAt l = ((u.file? l).map Prod.fst).getD [] := by
    intro u
    unfold contentAt file?
    cases u.get? l with
    | none => rfl
    | some e => cases e <;> rfl
  rw [told, told, h]

/-- What is added is read behind what the file held. -/
lemma FileTree.read_append_contentAt {t t' : FileTree} {p : Path} {added : Bytes}
    (h : t.append p added = .ok t') :
    t'.read p = .ok (t.contentAt (p.place t.workingDirectory) ++ added) := by
  obtain ⟨l, content, executable, found, stood, rfl⟩ := append_cases h
  have held : t.contentAt (p.place t.workingDirectory) = content := by
    rw [← resolve_eq_place found, contentAt]
    rcases stood with stood | ⟨stood, rfl⟩
    · rw [stood]
    · rw [stood]
  rw [held]
  refine read_put found ?_
  rcases stood with stood | ⟨stood, -⟩ <;> simp [stood]

/-- A line that was added stands at the end of the file, after its directory was made. -/
lemma Sink.appendLine_ok {path : Path} {line : String} {site : Site σ}
    (accepted : (appendLine path line site).1 = .ok ()) :
    ∃ t directory, FileTree.Grown directory site.files t
      ∧ t.append path (Utf8.encode line) = .ok (appendLine path line site).2.files := by
  have write : ∀ s : Site σ, (s.tryFiles fun t => t.append path (Utf8.encode line)).1 = .ok () →
      s.files.append path (Utf8.encode line)
        = .ok (s.tryFiles fun t => t.append path (Utf8.encode line)).2.files := by
    intro s
    unfold Site.tryFiles
    cases added : s.files.append path (Utf8.encode line) with
    | ok t => simp [added]
    | error fault => simp [added]
  cases above : directoryOf? path with
  | none =>
    have goes : appendLine path line site
        = site.tryFiles fun t => t.append path (Utf8.encode line) := by
      rw [appendLine, above]
    rw [goes] at accepted ⊢
    exact ⟨site.files, path, .refl _ _, write site accepted⟩
  | some directory =>
    cases made : site.files.createDirectories directory with
    | error fault => simp [appendLine, above, Site.tryFiles, made] at accepted
    | ok t =>
      have goes : appendLine path line site = ({ site with files := t } : Site σ).tryFiles
          fun t => t.append path (Utf8.encode line) := by
        simp [appendLine, above, Site.tryFiles, made]
      rw [goes] at accepted ⊢
      exact ⟨t, directory, FileTree.createDirectories_grown made,
        write { site with files := t } accepted⟩

/-- A file that accepts an event grows by the line of it. -/
lemma Sink.file_appends {path : Path} {event : Event} {site : Site σ}
    (accepted : ((Sink.file path).record event site).1 = .ok ()) :
    (Visit.of ((Sink.file path).record event) (.offer (Sink.file (σ := σ) path).name event)
      site).Appends path (Utf8.encode event.line) := by
  refine ⟨file_writesOnly path event site, ?_⟩
  obtain ⟨t, directory, grown, added⟩ := appendLine_ok accepted
  have held : t.contentAt (path.place t.workingDirectory)
      = site.files.contentAt (path.place site.files.workingDirectory) := by
    rw [grown.workingDirectory]
    exact FileTree.contentAt_congr (grown.file?_eq _)
  have read := FileTree.read_append_contentAt added
  rw [held] at read
  exact read

/-! ## The sinks of settings -/

variable {s : Settings} {runner : Runner σ}

/-- A sink that goes by the name of a file is the audit file. -/
lemma Reporter.ofSettings_file {sink : Sink σ} (mem : sink ∈ Reporter.ofSettings s runner)
    (name : sink.name = "file") : ∃ path, s.auditFile = some path ∧ sink = .file path := by
  rcases List.mem_append.1 mem with mem | mem
  · rw [Option.mem_toList, Option.map_eq_some_iff] at mem
    obtain ⟨path, enabled, rfl⟩ := mem
    exact ⟨path, enabled, rfl⟩
  · split at mem
    · rw [List.mem_singleton.1 mem] at name
      simp [Sink.eventLog] at name
    · cases mem

/-- The audit file has one place among the sinks, if there is one. -/
lemma Reporter.count_file : ((Reporter.ofSettings s runner).map Sink.name).count "file"
    = if s.auditFile.isSome then 1 else 0 := by
  unfold Reporter.ofSettings
  cases s.auditFile <;> cases s.eventLog <;> rfl

end SignedUpgrade
