import SignedUpgrade.Proofs.Settings.Layers
import SignedUpgrade.Proofs.Settings.Loading

/-!
# The two sources of settings

A setting comes from its environment variable, or else from the one configuration file that is
looked at.  What the format of that file is, is up to its reader.

* `Environment.settingsFile?`, `Configures` — which file that is, and what it configures;
* `Finding.orFile`, `Store.merged` — the two sources as one store without layers;
* `Store.Answers`, `Settings.load_answers` — what is loaded from a store that has the same under a
  key whenever it is asked;
* `Store.standard_opens` — the file is opened, and what it configures lies under the environment;
* `Settings.loadStandard_run` — then the settings are loaded.
-/

namespace SignedUpgrade

open Text

variable {σ : Type}

/-! ## The configuration file -/

/-- The configuration file that is looked at: the one that was asked for, or the one that a variable
names, or the one at the usual place.  An account without a directory for such files has no usual
place. -/
def Environment.settingsFile? (environment : Environment) (directories : Directories)
    (path : Option Path) : Option Path :=
  match path, environment.value? "CERTBOT_UPDATER_CONFIG", directories.configuration with
  | some path, _, _ => some path
  | none, some text, _ => some ⟨text⟩
  | none, none, some directory => some ((directory.join "certbot-updater").join "config.toml")
  | none, none, none => none

/-- What the configuration file comes to: nothing if there is none, the values in it, or the failure
that names it if it cannot be read as text or is not in its format. -/
inductive Configures (parse : Toml.Reader) (files : FileTree) :
    Option Path → Except Failure (List (String × Toml.Value)) → Prop
  | nowhere : Configures parse files none (.ok [])
  | missing {file : Path} (absent : files.holds file = false) :
    Configures parse files (some file) (.ok [])
  | unreadable {file : Path} {fault : IoFault} (here : files.holds file = true)
    (fails : files.readText file = .error fault) :
    Configures parse files (some file) (.error (.configuration (.unreadable file.text fault.text)))
  | unparsable {file : Path} {text reason : String} (here : files.holds file = true)
    (read : files.readText file = .ok text) (parses : parse text = .error reason) :
    Configures parse files (some file) (.error (.configuration (.unparsable file.text reason)))
  | values {file : Path} {text : String} {values : List (String × Toml.Value)}
    (here : files.holds file = true) (read : files.readText file = .ok text)
    (parses : parse text = .ok values) : Configures parse files (some file) (.ok values)

namespace Environment

variable (environment : Environment) (directories : Directories) (path : Option Path)

lemma settingsFile?_eq :
    environment.settingsFile? directories path = (path <|> environment.configFile directories) := by
  unfold settingsFile? configFile
  split <;> simp [*]

lemma settingsFile?_eq_none_iff : environment.settingsFile? directories path = none
    ↔ path = none ∧ environment.value? "CERTBOT_UPDATER_CONFIG" = none
      ∧ directories.configuration = none := by
  unfold settingsFile?
  split <;> simp_all

end Environment

namespace Store

variable {parse : Toml.Reader}

/-- What opening a configuration file gives, whatever is written to the log. -/
lemma ofFile_run (file : Path) (site : Site σ) :
    ((ofFile parse file : Asking σ (Store σ)).run site).1
      = if site.files.holds file then
          match site.files.readText file with
          | .error fault => .error (.configuration (.unreadable file.text fault.text))
          | .ok text =>
            match parse text with
            | .error reason => .error (.configuration (.unparsable file.text reason))
            | .ok values => .ok (table values)
        else .ok (table []) := by
  have opened : (get : Asking σ (Site σ)).run site = (.ok site, site) := rfl
  rw [ofFile, Asking.run_bind, opened]
  dsimp only
  cases site.files.holds file with
  | false => rfl
  | true =>
    cases site.files.readText file with
    | error fault => rfl
    | ok text =>
      dsimp only
      cases parse text <;> rfl

lemma ofFile_configures (parse : Toml.Reader) (file : Path) (site : Site σ) :
    ∃ result, Configures parse site.files (some file) result
      ∧ ((ofFile parse file).run site).1 = result.map (table (σ := σ)) := by
  rw [ofFile_run]
  cases here : site.files.holds file with
  | false => exact ⟨_, .missing here, rfl⟩
  | true =>
    cases read : site.files.readText file with
    | error fault => exact ⟨_, .unreadable here read, rfl⟩
    | ok text =>
      cases parses : parse text with
      | error reason => exact ⟨_, .unparsable here read parses, by simp [parses]; rfl⟩
      | ok values => exact ⟨_, .values here read parses, by simp [parses]; rfl⟩

/-- The updater's environment variables over the values of the configuration file, if there is
one. -/
def stack (environment : Environment) (file : Option Path) (values : List (String × Toml.Value)) :
    Store σ :=
  .layered (environment.store :: (file.map fun _ => table values).toList)

variable {environment : Environment} {directories : Directories} {path : Option Path}

/-- Without a configuration file, there is nothing but the environment. -/
lemma standard_run_of_none (nowhere : environment.settingsFile? directories path = none)
    (site : Site σ) : ((standard parse directories environment path).run site).1
      = .ok (stack environment none []) := by
  rw [Environment.settingsFile?_eq] at nowhere
  rw [standard, standardLayers, nowhere]
  rfl

lemma standard_run_of_some {file : Path}
    (looked : environment.settingsFile? directories path = some file) (site : Site σ) :
    ((standard parse directories environment path).run site).1
      = ((ofFile parse file).run site).1.map fun s => .layered [environment.store, s] := by
  rw [Environment.settingsFile?_eq] at looked
  rw [standard, standardLayers, looked, Asking.run_bind, Asking.run_bind]
  rcases (ofFile parse file).run site with ⟨_ | _, _⟩
  · rfl
  · rfl

/-- The file is opened, and what it configures lies under the environment. -/
lemma standard_opens (parse : Toml.Reader) (environment : Environment) (directories : Directories)
    (path : Option Path) (site : Site σ) :
    ∃ result, Configures parse site.files (environment.settingsFile? directories path) result
      ∧ ((standard parse directories environment path).run site).1
        = result.map (stack environment (environment.settingsFile? directories path)) := by
  cases looked : environment.settingsFile? directories path with
  | none => exact ⟨_, .nowhere, standard_run_of_none looked site⟩
  | some file =>
    obtain ⟨result, configures, opened⟩ := ofFile_configures parse file site
    refine ⟨result, configures, ?_⟩
    rw [standard_run_of_some looked, opened]
    cases result <;> rfl

/-- No other file is looked at. -/
lemma standard_congr {site other : Site σ}
    (same : ∀ file, environment.settingsFile? directories path = some file →
      other.files.holds file = site.files.holds file
        ∧ other.files.readText file = site.files.readText file) :
    ((standard parse directories environment path).run other).1
      = ((standard parse directories environment path).run site).1 := by
  cases looked : environment.settingsFile? directories path with
  | none => rw [standard_run_of_none looked, standard_run_of_none looked]
  | some file =>
    obtain ⟨holds, reads⟩ := same file looked
    rw [standard_run_of_some looked, standard_run_of_some looked, ofFile_run, ofFile_run, holds,
      reads]

end Store

/-! ## Two sources as one -/

/-- What a variable and a file have under one key, the variable before the file: the value of the
variable, if it is not blank; or else what the file has, if that settles the matter; or else a blank
value, if there is one. -/
def Finding.orFile (value : Option String) (file : Finding) : Finding :=
  if value.any (!allBlank ·) then .ok value
  else if file.settles then file
  else .ok (value <|> file.value?)

lemma Finding.settles_ok (value : Option String) :
    settles (.ok value) = value.any (!allBlank ·) := by
  cases value <;> rfl

namespace Store

/-- What the values of a configuration file say under a key. -/
def inFile (values : List (String × Toml.Value)) (key : String) : Finding :=
  match values.lookup key with
  | none => .ok none
  | some value => (settingText key value).map some

/-- What the variable of a key and the values of a file come to. -/
def eitherWay (environment : Environment) (values : List (String × Toml.Value)) (key : String) :
    Finding :=
  Finding.orFile (environment.value? (variableName variableStart key)) (inFile values key)

/-- Environment variables and the values of a file as one store without layers. -/
def merged (environment : Environment) (values : List (String × Toml.Value)) : Store σ where
  name := "merged"
  ask key := ExceptT.mk fun site => (eitherWay environment values key, site)

/-- A store has the same under a key whenever it is asked. -/
def Answers (store : Store σ) (found : String → Finding) : Prop :=
  ∀ key site, ((store.ask key).run site).1 = found key

lemma merged_answers (environment : Environment) (values : List (String × Toml.Value)) :
    (merged environment values : Store σ).Answers (eitherWay environment values) :=
  fun _ _ => rfl

lemma table_run (values : List (String × Toml.Value)) (key : String) (site : Site σ) :
    ((table values : Store σ).ask key).run site = (inFile values key, site) := by
  unfold table inFile
  dsimp only
  cases values.lookup key with
  | none => rfl
  | some value =>
    dsimp only
    cases settingText key value <;> rfl

/-- The stores below the environment come to what a file has: to that, if it settles the matter, or
else to a blank value, the first one that was found. -/
def ComeTo (below : List (Store σ)) (values : List (String × Toml.Value)) : Prop :=
  ∀ key blank site, ((askInOrder key blank below).run site).1
    = if (inFile values key).settles then inFile values key
      else .ok (blank <|> (inFile values key).value?)

lemma nil_comeTo : ComeTo ([] : List (Store σ)) [] := by
  intro key blank site
  cases blank <;> rfl

lemma table_comeTo (values : List (String × Toml.Value)) :
    ComeTo [(table values : Store σ)] values := by
  intro key blank site
  have theirs := table_run values key site
  cases decides : (inFile values key).settles with
  | true =>
    obtain ⟨lines, ends⟩ := askInOrder_of_settles blank [] theirs decides
    exact congrArg Prod.fst ends
  | false =>
    rw [askInOrder_of_open blank [] theirs decides]
    rfl

/-- The variables go before what lies below them. -/
lemma ComeTo.answers {below : List (Store σ)} {values : List (String × Toml.Value)}
    (h : ComeTo below values) (environment : Environment) :
    (layered (environment.store :: below)).Answers (eitherWay environment values) := by
  intro key site
  have ours : (environment.store.ask key).run site
      = (.ok (environment.value? (variableName variableStart key)), site) := rfl
  rw [layered, eitherWay]
  dsimp only
  generalize environment.value? (variableName variableStart key) = value at ours
  cases settles : Finding.settles (.ok value) with
  | true =>
    obtain ⟨lines, ends⟩ := askInOrder_of_settles none below ours settles
    rw [Finding.settles_ok] at settles
    rw [ends, Finding.orFile, if_pos settles]
  | false =>
    have nothing : (none <|> Finding.value? (.ok value)) = value := by cases value <;> rfl
    rw [askInOrder_of_open none below ours settles, h, nothing, Finding.orFile,
      ← Finding.settles_ok, settles]
    rfl

/-- What is opened has under each key what the variable and the file come to. -/
lemma stack_answers {parse : Toml.Reader} {files : FileTree} {file : Option Path}
    {values : List (String × Toml.Value)} (h : Configures parse files file (.ok values))
    (environment : Environment) :
    (stack environment file values : Store σ).Answers (eitherWay environment values) := by
  cases h with
  | nowhere => exact nil_comeTo.answers environment
  | missing | values => exact (table_comeTo _).answers environment

end Store

/-! ## Loading from a store that answers -/

namespace Settings

variable {compile : Pattern.Compiler}

/-- Settings with what was found for one of them. -/
def step (compile : Pattern.Compiler) (found : String → Finding) (s : Settings)
    (setting : Setting) : Except Failure Settings :=
  found setting.key >>= s.assign compile setting

lemma step_of_ok {found : String → Finding} {setting : Setting} {answer : Option String}
    (s : Settings) (here : found setting.key = .ok answer) :
    step compile found s setting = s.assign compile setting answer := by
  simp only [step, here, bind, Except.bind]

lemma step_of_error {found : String → Finding} {setting : Setting} {failure : Failure}
    (s : Settings) (here : found setting.key = .error failure) :
    step compile found s setting = .error failure := by
  simp only [step, here, bind, Except.bind]

lemma loadFrom_answers {store : Store σ} {found : String → Finding} (h : store.Answers found)
    (settings : List Setting) (s : Settings) (site : Site σ) :
    ((loadFrom compile store settings s).run site).1 = settings.foldlM (step compile found) s := by
  induction settings generalizing s site with
  | nil => rfl
  | cons setting settings ih =>
    have here := h setting.key site
    rw [List.foldlM_cons]
    rcases asked : (store.ask setting.key).run site with ⟨failure | answer, next⟩
    · rw [asked] at here
      rw [run_loadFrom_of_error asked, step_of_error s here.symm]
      rfl
    · rw [asked] at here
      rw [run_loadFrom_of_ok asked, step_of_ok s here.symm]
      cases s.assign compile setting answer with
      | error failure => rfl
      | ok s' => exact ih s' next

/-- What is loaded depends on nothing but what the store has under the keys. -/
lemma load_answers {store : Store σ} {found : String → Finding} (h : store.Answers found)
    (defaults : Settings) (site : Site σ) :
    ((load compile defaults store).run site).1
      = Setting.all.foldlM (step compile found) defaults := by
  rw [load_eq, loadFrom_answers h]

/-- Opens the sources of settings and loads the settings from them. -/
def loadStandard (parse : Toml.Reader) (compile : Pattern.Compiler) (directories : Directories)
    (environment : Environment) (path : Option Path) : Asking σ Settings := do
  load compile directories.defaults (← Store.standard parse directories environment path)

/-- The one file is opened, and the settings are loaded from the two sources. -/
lemma loadStandard_run {parse : Toml.Reader} {environment : Environment}
    {directories : Directories} {path : Option Path} {site : Site σ}
    {result : Except Failure (List (String × Toml.Value))}
    (configures : Configures parse site.files (environment.settingsFile? directories path) result)
    (opened : ((Store.standard parse directories environment path).run site).1
      = result.map (Store.stack environment (environment.settingsFile? directories path))) :
    ((loadStandard parse compile directories environment path).run site).1
      = result.bind fun values =>
        Setting.all.foldlM (step compile (Store.eitherWay environment values))
          directories.defaults := by
  rw [loadStandard, Asking.run_bind]
  rcases opens : (Store.standard parse directories environment path).run site with ⟨outcome, next⟩
  rw [opens] at opened
  dsimp only at opened
  cases result with
  | error failure =>
    cases opened
    rfl
  | ok values =>
    cases opened
    exact load_answers (Store.stack_answers configures environment) _ _

end Settings

end SignedUpgrade
