import Mathlib.Data.List.Nodup
import SignedUpgrade.Proofs.Settings.Sources

/-!
# Settings to fall back on

Where not all settings can be loaded, a store is still asked where that is to be reported.  Two
settings are read then, each in a way of its own and each whatever is wrong with the others.

* `ReadsOr` — what is read, or the default value where nothing can be read;
* `Store.alone`, `Settings.fromAlone` — one finding without the findings under other keys, and
  what loading makes of it;
* `Settings.loadAudit_cases` — what the two settings are read from, and as which values;
* `Settings.loadAudit_agrees` — the main statement: they are read as loading reads them.
-/

namespace SignedUpgrade

open Text

variable {σ : Type} {compile : Pattern.Compiler}

/-! ## Reading or falling back -/

/-- The value that is read from a finding, or the default value where nothing can be read. -/
inductive ReadsOr (compile : Pattern.Compiler) {setting : Setting} (default : setting.Value) :
    Finding → setting.Value → Prop
  | reads {finding : Finding} {value : setting.Value}
    (reads : Reads compile default finding value) : ReadsOr compile default finding value
  | fallsBack {finding : Finding} (refused : ¬ setting.Accepts compile finding) :
    ReadsOr compile default finding default

namespace ReadsOr

variable {setting : Setting} {default value value' : setting.Value} {finding : Finding}

lemma eq_of_reads (h : ReadsOr compile default finding value)
    (reads : Reads compile default finding value') : value = value' := by
  cases h with
  | reads reads' => exact reads'.unique reads
  | fallsBack refused => exact absurd (exists_reads_iff.1 ⟨_, reads⟩) refused

lemma unique (h : ReadsOr compile default finding value)
    (h' : ReadsOr compile default finding value') : value = value' := by
  cases h' with
  | reads reads => exact h.eq_of_reads reads
  | fallsBack refused =>
    cases h with
    | reads reads => exact absurd (exists_reads_iff.1 ⟨_, reads⟩) refused
    | fallsBack => rfl

end ReadsOr

namespace Settings

/-! ## The two ways of reading -/

/-- A path is read as the file that it names, and a blank one as no file. -/
lemma auditFileOf_reads (default : Setting.auditFile.Value) (path : String) :
    Reads compile default (.ok (some path)) (auditFileOf path) := by
  unfold auditFileOf
  cases blank : allBlank path with
  | true =>
    rw [filled_of_blank blank]
    exact .blank blank
  | false =>
    rw [filled_of_filled blank]
    exact .means blank rfl

/-- A blank text is no flag. -/
lemma readFlag_of_blank {flag : String} (blank : allBlank flag = true) (key : String) :
    readFlag key (trimmed flag) = .error (.configuration (.notBoolean key "")) := by
  have noWord : "" ∉ yesWords ∧ "" ∉ noWords := by decide
  rw [trimmed_eq_empty_iff.2 blank, readFlag]
  simp [noWord.1, noWord.2]

/-- A flag is read as loading reads it, although it is trimmed without a look at whether anything
is left. -/
lemma withEventFlag_reads (s : Settings) (flag : String) :
    ∃ enabled, s.withEventFlag flag = s.set .eventLog enabled
      ∧ ReadsOr compile (s.value .eventLog) (.ok (some flag)) enabled := by
  unfold withEventFlag
  cases blank : allBlank flag with
  | true =>
    rw [readFlag_of_blank blank]
    exact ⟨s.eventLog, rfl, .reads (.blank blank)⟩
  | false =>
    rcases readFlag_cases Setting.eventLog.key (trimmed flag) with
      ⟨enabled, read, means⟩ | ⟨refused, never⟩
    · rw [read]
      exact ⟨enabled, rfl, .reads (.means blank means)⟩
    · rw [refused]
      refine ⟨s.eventLog, rfl, .fallsBack ?_⟩
      rintro (blank' | ⟨enabled, means⟩)
      · rw [blank] at blank'
        cases blank'
      · exact never enabled means

/-! ## What is fallen back on -/

/-- What a store has for the audit file, and what it has for the event log after that. -/
def auditFindings (store : Store σ) (site : Site σ) : Finding × Finding :=
  let file := (store.ask Setting.auditFile.key).run site
  (file.1, ((store.ask Setting.eventLog.key).run file.2).1)

/-- A setting that is tried is read from what the store has under its key, or stays as it is. -/
lemma tryLoad_reads (store : Store σ) (setting : Setting) (take : Settings → String → Settings)
    (s : Settings) (taken : ∀ text, ∃ value, take s text = s.set setting value
      ∧ ReadsOr compile (s.value setting) (.ok (some text)) value) (site : Site σ) :
    ∃ value, tryLoad store setting take s site
        = (s.set setting value, ((store.ask setting.key).run site).2)
      ∧ ReadsOr compile (s.value setting) ((store.ask setting.key).run site).1 value := by
  rw [tryLoad, bind_run]
  rcases (store.ask setting.key).run site with ⟨failure | _ | text, next⟩
  · refine ⟨s.value setting, ?_, .fallsBack id⟩
    rw [set_value]
    rfl
  · refine ⟨s.value setting, ?_, .reads .absent⟩
    rw [set_value]
    rfl
  · obtain ⟨value, same, reads⟩ := taken text
    refine ⟨value, ?_, reads⟩
    rw [← same]
    rfl

/-- Each of the two settings is read from its own finding, or falls back on its default; the others
are the defaults. -/
lemma loadAudit_cases (compile : Pattern.Compiler) (defaults : Settings) (store : Store σ)
    (site : Site σ) :
    ReadsOr compile (defaults.value .auditFile) (auditFindings store site).1
      ((loadAudit defaults store site).1.value .auditFile)
    ∧ ReadsOr compile (defaults.value .eventLog) (auditFindings store site).2
      ((loadAudit defaults store site).1.value .eventLog)
    ∧ ∀ other, other ≠ .auditFile → other ≠ .eventLog →
      (loadAudit defaults store site).1.value other = defaults.value other := by
  obtain ⟨file, took, readsFile⟩ := tryLoad_reads store .auditFile withAuditPath defaults
    (fun path => ⟨auditFileOf path, rfl, .reads (auditFileOf_reads _ path)⟩) site
  obtain ⟨enabled, took', readsLog⟩ := tryLoad_reads store .eventLog withEventFlag
    (defaults.set .auditFile file) (withEventFlag_reads _)
    ((store.ask Setting.auditFile.key).run site).2
  have ends : (loadAudit defaults store site).1
      = (defaults.set .auditFile file).set .eventLog enabled := by
    rw [loadAudit, bind_run, took, took']
  rw [ends]
  refine ⟨readsFile, readsLog, fun other notFile notLog => ?_⟩
  rw [value_set_of_ne _ _ notLog, value_set_of_ne _ _ notFile]

end Settings

/-! ## One key alone -/

lemma Setting.key_injective {setting setting' : Setting} (same : setting.key = setting'.key) :
    setting = setting' := by
  have apart : (Setting.all.map Setting.key).Nodup := by decide
  exact List.inj_on_of_nodup_map apart (by cases setting <;> decide) (by cases setting' <;> decide)
    same

/-- A store that has something under the key of one setting, and nothing under any other. -/
def Store.alone (setting : Setting) (found : Finding) : Store σ where
  name := "alone"
  ask key := ExceptT.mk fun site => (if key = setting.key then found else .ok none, site)

/-- The turn of a setting finds what there is alone, or nothing. -/
lemma Store.finding_alone (setting other : Setting) (found : Finding) (site : Site σ) :
    (Store.alone setting found).finding site other
      = if other = setting then found else .ok none := by
  have here : (Store.alone setting found).finding site other
      = if other.key = setting.key then found else .ok none := rfl
  rw [here]
  by_cases same : other = setting
  · rw [if_pos same, if_pos (congrArg Setting.key same)]
  · rw [if_neg same, if_neg fun keys => same (Setting.key_injective keys)]

namespace Settings

/-- What loading assigns to a setting from one finding alone, or the default where it fails. -/
def fromAlone (compile : Pattern.Compiler) (defaults : Settings) (setting : Setting)
    (found : Finding) : setting.Value :=
  let site : Site Unit := { files := {}, outside := () }
  match ((load compile defaults (.alone setting found)).run site).1 with
  | .ok s => s.value setting
  | .error _ => defaults.value setting

/-- Loading fails on one finding alone exactly where that finding cannot be read. -/
lemma fromAlone_reads (defaults : Settings) (setting : Setting) (found : Finding) :
    ReadsOr compile (defaults.value setting) found
      (defaults.fromAlone compile setting found) := by
  unfold fromAlone
  dsimp only
  generalize ({ files := {}, outside := () } : Site Unit) = site
  rcases load_cases compile defaults (.alone setting found) site with
    ⟨s, loaded, reads⟩ | ⟨failure, fails, _, failing, _, _, _, refused⟩
  · have here := reads setting
    rw [Store.finding_alone, if_pos rfl] at here
    rw [loaded]
    exact .reads here
  · rw [Store.finding_alone] at refused
    rw [fails]
    by_cases same : failing = setting
    · subst same
      rw [if_pos rfl] at refused
      exact .fallsBack refused.not_accepts
    · -- nothing is wrong with a setting for which there is nothing
      rw [if_neg same] at refused
      exact absurd trivial refused.not_accepts

/-! ## Agreement -/

/-- A store that answers has the same findings for both ways of asking. -/
lemma auditFindings_of_answers {store : Store σ} {found : String → Finding}
    (answers : store.Answers found) (site : Site σ) :
    auditFindings store site = (found Setting.auditFile.key, found Setting.eventLog.key) := by
  rw [auditFindings, ← answers Setting.auditFile.key site, ← answers Setting.eventLog.key]

/-- **Where events go is read as loading reads it.**  If a store gives the same answers whenever it
is asked and all settings can be loaded from it, the audit file and the event log are the loaded
ones.  From any store, each of the two is what loading would assign from its own finding alone, or
the default where that cannot be read; all other settings are the defaults. -/
theorem loadAudit_agrees (compile : Pattern.Compiler) (defaults : Settings) (store : Store σ)
    (site : Site σ) :
    (∀ found, store.Answers found → ∀ site' s,
      ((load compile defaults store).run site').1 = .ok s →
      (loadAudit defaults store site).1.auditFile = s.auditFile
        ∧ (loadAudit defaults store site).1.eventLog = s.eventLog)
    ∧ (loadAudit defaults store site).1.auditFile
      = defaults.fromAlone compile .auditFile (auditFindings store site).1
    ∧ (loadAudit defaults store site).1.eventLog
      = defaults.fromAlone compile .eventLog (auditFindings store site).2
    ∧ ∀ other, other ≠ .auditFile → other ≠ .eventLog →
      (loadAudit defaults store site).1.value other = defaults.value other := by
  obtain ⟨file, log, others⟩ := loadAudit_cases compile defaults store site
  refine ⟨fun found answers site' s loaded => ?_, file.unique (fromAlone_reads ..),
    log.unique (fromAlone_reads ..), others⟩
  have reads := load_eq_ok_iff.1 loaded
  have asked : ∀ setting, store.finding site' setting = found setting.key :=
    fun setting => answers setting.key _
  rw [auditFindings_of_answers answers, ← asked, ← asked] at file log
  exact ⟨file.eq_of_reads (reads .auditFile), log.eq_of_reads (reads .eventLog)⟩

/-- Settings of a machine that keeps no events. -/
def plain : Settings where
  feedUrl := "https://releases.example.org"
  signingKey := ⟨[1]⟩
  installDirectory := "/opt/certbot"
  versionCommand := "certbot"
  installerPattern := ⟨"", .nothing⟩
  auditFile := none
  eventLog := false
  feedTimeout := 60000
  downloadTimeout := 60000

/-- A store in which everything can be read. -/
def readable : Store Unit :=
  .memory [("feed_timeout_secs", "+5"), ("audit_log_path", " /var/log/updater.log "),
    ("event_log", "\tOn"), ("install_dir", "")]

/-- A compiler that takes every text, as a pattern that selects everything. -/
def takesAll : Pattern.Compiler := fun text => .ok ⟨text, .nothing⟩

/-- The file and the event log that are loaded are also those to fall back on. -/
theorem loadAudit_agrees_readable :
    let site : Site Unit := { files := {}, outside := () }
    let loaded : Settings := { plain with
      auditFile := some "/var/log/updater.log", eventLog := true, feedTimeout := 5000 }
    ((load takesAll plain readable).run site).1 = .ok loaded
      ∧ (loadAudit plain readable site).1.auditFile = some "/var/log/updater.log"
      ∧ (loadAudit plain readable site).1.eventLog = true := by
  intro site loaded
  have loads : ((load takesAll plain readable).run site).1 = .ok loaded := by decide +kernel
  obtain ⟨agree, _⟩ := loadAudit_agrees takesAll plain readable site
  exact ⟨loads, agree _ (fun _ _ => rfl) site loaded loads⟩

end Settings

end SignedUpgrade
