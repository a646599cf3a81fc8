import SignedUpgrade.Proofs.Settings.Asking
import SignedUpgrade.Proofs.Text.Number
import SignedUpgrade.Proofs.Text.Trimming

/-!
# What settings mean

Each setting has its own values, and its own texts that stand for them.  Which texts stand for a
pattern is up to the compiler.

* `Setting.Value`, `Settings.value` — the values of a setting;
* `Setting.Means` — the texts that stand for a value, `Says` those that stand for a flag;
* `Setting.Refuses` — the failure where a text stands for none;
* `Setting.Accepts`, `Reads` — what can be read from what a store has, and as which value;
* `Setting.FailsWith` — the failure where nothing can be read;
* `Settings.assign_reads` — settings take an answer as these say, each one on its own.
-/

namespace SignedUpgrade

open Text

/-! ## Values -/

/-- The values of a setting. -/
abbrev Setting.Value : Setting → Type
  | .feedUrl => String
  | .signingKey => TrustedKey
  | .installDirectory => Path
  | .versionCommand => String
  | .installerPattern => Pattern
  | .auditFile => Option Path
  | .eventLog => Bool
  | .feedTimeout => Nat
  | .downloadTimeout => Nat

/-- The value of one of the settings. -/
def Settings.value (s : Settings) : (setting : Setting) → setting.Value
  | .feedUrl => s.feedUrl
  | .signingKey => s.signingKey
  | .installDirectory => s.installDirectory
  | .versionCommand => s.versionCommand
  | .installerPattern => s.installerPattern
  | .auditFile => s.auditFile
  | .eventLog => s.eventLog
  | .feedTimeout => s.feedTimeout
  | .downloadTimeout => s.downloadTimeout

/-- Settings with another value of one of them. -/
def Settings.set (s : Settings) : (setting : Setting) → setting.Value → Settings
  | .feedUrl, url => { s with feedUrl := url }
  | .signingKey, key => { s with signingKey := key }
  | .installDirectory, directory => { s with installDirectory := directory }
  | .versionCommand, command => { s with versionCommand := command }
  | .installerPattern, pattern => { s with installerPattern := pattern }
  | .auditFile, file => { s with auditFile := file }
  | .eventLog, flag => { s with eventLog := flag }
  | .feedTimeout, limit => { s with feedTimeout := limit }
  | .downloadTimeout, limit => { s with downloadTimeout := limit }

namespace Settings

@[simp] lemma value_set_self (s : Settings) (setting : Setting) (value : setting.Value) :
    (s.set setting value).value setting = value := by
  cases setting <;> rfl

lemma value_set_of_ne (s : Settings) {setting other : Setting} (value : setting.Value)
    (ne : other ≠ setting) : (s.set setting value).value other = s.value other := by
  cases setting <;> cases other <;> first | rfl | exact absurd rfl ne

@[simp] lemma set_value (s : Settings) (setting : Setting) :
    s.set setting (s.value setting) = s := by
  cases setting <;> rfl

/-- Settings are known by their values. -/
lemma ext_value {s s' : Settings} (same : ∀ setting, s.value setting = s'.value setting) :
    s = s' := by
  cases s
  cases s'
  simp only [Settings.mk.injEq]
  exact ⟨same .feedUrl, same .signingKey, same .installDirectory, same .versionCommand,
    same .installerPattern, same .auditFile, same .eventLog, same .feedTimeout,
    same .downloadTimeout⟩

end Settings

/-! ## Meanings -/

/-- The address of a web server. -/
def IsWeb (text : String) : Prop :=
  "https://".toList <+: text.toList ∨ "http://".toList <+: text.toList

/-- A text is one of some words, but for the case of ASCII letters. -/
def IsWord (words : List String) (text : String) : Prop :=
  ∃ word ∈ words, text.toList.map Char.toLower = word.toList

/-- A text gives a time in whole seconds: a number that is not 0 and fits sixty-four bits, in ASCII
digits, with at most one plus sign before them. -/
def InSeconds (text : String) (milliseconds : Nat) : Prop :=
  ∃ digits, (text.toList = digits ∨ text.toList = '+' :: digits) ∧ digits ≠ []
    ∧ (∀ c ∈ digits, c.isDigit = true) ∧ 0 < Nat.ofDigitChars 10 digits 0
    ∧ Nat.ofDigitChars 10 digits 0 < UInt64.size
    ∧ milliseconds = Nat.ofDigitChars 10 digits 0 * 1000

/-- A text says yes or no in one of the words for it. -/
def Says (text : String) (flag : Bool) : Prop :=
  (flag = true ∧ IsWord ["1", "true", "yes", "on"] text)
    ∨ (flag = false ∧ IsWord ["0", "false", "no", "off"] text)

namespace Setting

/-- A text, without blanks around it and not empty, stands for a value of a setting. -/
def Means (compile : Pattern.Compiler) : (setting : Setting) → String → setting.Value → Prop
  | .feedUrl, text, url => IsWeb text ∧ url = text
  | .signingKey, text, key => TrustedKey.parse text = .ok key
  | .installDirectory, text, directory => directory = ⟨text⟩
  | .versionCommand, text, command => command = text
  | .installerPattern, text, pattern => compile text = .ok pattern
  | .auditFile, text, file => file = some ⟨text⟩
  | .eventLog, text, flag => Says text flag
  | .feedTimeout, text, limit => InSeconds text limit
  | .downloadTimeout, text, limit => InSeconds text limit

/-- The failure where a text stands for no value of a setting. -/
def Refuses (compile : Pattern.Compiler) (setting : Setting) (text : String) (failure : Failure) :
    Prop :=
  match setting with
  | .feedUrl => failure = .configuration (.notHttp setting.key text)
  | .signingKey =>
    TrustedKey.parse text = .error failure ∧ ∃ reason, failure = .invalidPublicKey reason
  | .installerPattern =>
    ∃ reason, compile text = .error reason
      ∧ failure = .configuration (.badPattern setting.key text reason)
  | .eventLog => failure = .configuration (.notBoolean setting.key text)
  | .feedTimeout | .downloadTimeout => failure = .configuration (.notSeconds setting.key text)
  | .installDirectory | .versionCommand | .auditFile => False

/-- The value where a text is blank: nothing changes, but the audit file is turned off. -/
def ofBlank : (setting : Setting) → setting.Value → setting.Value
  | .auditFile, _ => none
  | _, default => default

end Setting

/-! ## Readers -/

namespace Settings

lemma isFeedUrl_iff {text : String} : isFeedUrl text = true ↔ IsWeb text := by
  rw [isFeedUrl, Bool.or_eq_true, List.isPrefixOf_iff_prefix, List.isPrefixOf_iff_prefix, IsWeb]

lemma isWord_iff {words : List String} {text : String} :
    IsWord words text ↔ words.contains (String.ofList (text.toList.map Char.toLower)) = true := by
  rw [List.contains_iff_mem, IsWord]
  constructor
  · rintro ⟨word, mem, same⟩
    rw [same, String.ofList_toList]
    exact mem
  · intro mem
    exact ⟨_, mem, String.toList_ofList.symm⟩

/-- No word is one for yes and one for no. -/
lemma not_isWord_of_isWord {text : String} (yes : IsWord yesWords text) :
    ¬ IsWord noWords text := by
  obtain ⟨word, mem, same⟩ := yes
  rintro ⟨word', mem', same'⟩
  have equal : word = word' := String.toList_inj.1 (same.symm.trans same')
  have apart : ∀ word ∈ yesWords, word ∉ noWords := by decide
  exact apart word mem (equal ▸ mem')

/-- A flag is read from the words for yes and from those for no. -/
lemma readFlag_cases (key text : String) :
    (∃ flag, readFlag key text = .ok flag ∧ Says text flag)
    ∨ (readFlag key text = .error (.configuration (.notBoolean key text))
      ∧ ∀ flag, ¬ Says text flag) := by
  by_cases yes : IsWord yesWords text
  · exact .inl ⟨true, by rw [readFlag, if_pos (isWord_iff.1 yes)], .inl ⟨rfl, yes⟩⟩
  · have notYes := mt isWord_iff.2 yes
    by_cases no : IsWord noWords text
    · exact .inl ⟨false, by rw [readFlag, if_neg notYes, if_pos (isWord_iff.1 no)], .inr ⟨rfl, no⟩⟩
    · refine .inr ⟨by rw [readFlag, if_neg notYes, if_neg (mt isWord_iff.2 no)], ?_⟩
      rintro flag (⟨-, word⟩ | ⟨-, word⟩)
      · exact yes word
      · exact no word

/-- A time in seconds is a number that can be read, and that is not 0. -/
lemma inSeconds_iff {text : String} {limit : Nat} : InSeconds text limit
    ↔ ∃ n, word64? text.toList = some n ∧ n ≠ 0 ∧ limit = n.toNat * 1000 := by
  constructor
  · rintro ⟨digits, written, some, all, positive, fits, rfl⟩
    have same : (Nat.ofDigitChars 10 digits 0).toUInt64.toNat = Nat.ofDigitChars 10 digits 0 :=
      UInt64.toNat_ofNat_of_lt' fits
    refine ⟨(Nat.ofDigitChars 10 digits 0).toUInt64,
      word64?_eq_some_iff.2 ⟨digits, written, some, all, same.symm⟩, ?_, by rw [same]⟩
    intro zero
    rw [← same, zero] at positive
    exact absurd positive (by decide)
  · rintro ⟨n, read, positive, rfl⟩
    obtain ⟨digits, written, some, all, value⟩ := word64?_eq_some_iff.1 read
    refine ⟨digits, written, some, all, ?_, ?_, by rw [value]⟩
    · rw [value]
      exact Nat.pos_of_ne_zero fun zero => positive (UInt64.toNat_inj.1 zero)
    · rw [value]
      exact n.toNat_lt

/-- A time limit is read from a number of seconds. -/
lemma readSeconds_cases (key text : String) :
    (∃ limit, readSeconds key text = .ok limit ∧ InSeconds text limit)
    ∨ (readSeconds key text = .error (.configuration (.notSeconds key text))
      ∧ ∀ limit, ¬ InSeconds text limit) := by
  cases read : word64? text.toList with
  | none =>
    refine .inr ⟨by rw [readSeconds, read], fun limit means => ?_⟩
    obtain ⟨n, read', _⟩ := inSeconds_iff.1 means
    rw [read] at read'
    cases read'
  | some n =>
    by_cases zero : n = 0
    · refine .inr ⟨by simp [readSeconds, read, zero], fun limit means => ?_⟩
      obtain ⟨n', read', positive, _⟩ := inSeconds_iff.1 means
      rw [read] at read'
      cases read'
      exact positive zero
    · exact .inl ⟨n.toNat * 1000, by simp [readSeconds, read, zero],
        inSeconds_iff.2 ⟨n, read, zero, rfl⟩⟩

end Settings

/-- A text that does not stand for a key is refused for what is wrong with it. -/
lemma TrustedKey.refused_of_error {text : String} {failure : Failure}
    (refused : TrustedKey.parse text = .error failure) :
    ∃ reason, failure = .invalidPublicKey reason := by
  unfold TrustedKey.parse at refused
  split at refused <;> cases refused
  · exact ⟨_, rfl⟩
  · exact ⟨_, rfl⟩

variable {compile : Pattern.Compiler}

/-- A text stands for one value of a setting at most. -/
lemma Setting.Means.unique {setting : Setting} {text : String} {value value' : setting.Value}
    (h : setting.Means compile text value) (h' : setting.Means compile text value') :
    value = value' := by
  cases setting with
  | feedUrl => exact h.2.trans h'.2.symm
  | signingKey => exact Except.ok.inj (h.symm.trans h')
  | installDirectory => exact h.trans h'.symm
  | versionCommand => exact h.trans h'.symm
  | installerPattern => exact Except.ok.inj (h.symm.trans h')
  | auditFile => exact h.trans h'.symm
  | eventLog =>
    rcases h with ⟨rfl, yes⟩ | ⟨rfl, no⟩ <;> rcases h' with ⟨rfl, yes'⟩ | ⟨rfl, no'⟩
    · rfl
    · exact absurd no' (Settings.not_isWord_of_isWord yes)
    · exact absurd no (Settings.not_isWord_of_isWord yes')
    · rfl
  | feedTimeout | downloadTimeout =>
    obtain ⟨n, read, _, rfl⟩ := Settings.inSeconds_iff.1 h
    obtain ⟨n', read', _, rfl⟩ := Settings.inSeconds_iff.1 h'
    rw [read] at read'
    cases read'
    rfl

/-! ## Answers -/

/-- What a store has under the key of a setting can be read: it has nothing, a blank text, or a text
that stands for a value once the blanks around it are gone. -/
def Setting.Accepts (compile : Pattern.Compiler) (setting : Setting) : Finding → Prop
  | .error _ => False
  | .ok none => True
  | .ok (some text) => allBlank text = true ∨ ∃ value, setting.Means compile (trimmed text) value

/-- What is read from what a store has under the key of a setting, with a default value where
nothing is set. -/
inductive Reads (compile : Pattern.Compiler) {setting : Setting} (default : setting.Value) :
    Finding → setting.Value → Prop
  | absent : Reads compile default (.ok none) default
  | blank {text : String} (blank : allBlank text = true) :
    Reads compile default (.ok (some text)) (setting.ofBlank default)
  | means {text : String} {value : setting.Value} (filled : allBlank text = false)
    (means : setting.Means compile (trimmed text) value) :
    Reads compile default (.ok (some text)) value

/-- The failure where what a store has cannot be read: its own, or the one that refuses a text. -/
inductive Setting.FailsWith (compile : Pattern.Compiler) (setting : Setting) :
    Finding → Failure → Prop
  | failed (failure : Failure) : FailsWith compile setting (.error failure) failure
  | refused {text : String} {failure : Failure} (filled : allBlank text = false)
    (meaningless : ∀ value, ¬ setting.Means compile (trimmed text) value)
    (refuses : setting.Refuses compile (trimmed text) failure) :
    FailsWith compile setting (.ok (some text)) failure

section Reads

variable {setting : Setting} {default value value' : setting.Value} {finding : Finding}

/-- One value is read at most. -/
lemma Reads.unique (h : Reads compile default finding value)
    (h' : Reads compile default finding value') : value = value' := by
  cases h with
  | absent =>
    cases h'
    rfl
  | blank blank =>
    cases h' with
    | blank => rfl
    | means filled =>
      rw [blank] at filled
      cases filled
  | means filled means =>
    cases h' with
    | blank blank =>
      rw [blank] at filled
      cases filled
    | means _ means' => exact means.unique means'

/-- Something is read where it can be, and nowhere else. -/
lemma exists_reads_iff :
    (∃ value, Reads compile default finding value) ↔ setting.Accepts compile finding := by
  constructor
  · rintro ⟨_, _ | blank | ⟨_, means⟩⟩
    · exact trivial
    · exact .inl blank
    · exact .inr ⟨_, means⟩
  · intro accepts
    rcases finding with _ | _ | text
    · exact accepts.elim
    · exact ⟨default, .absent⟩
    · cases blank : allBlank text with
      | true => exact ⟨_, .blank blank⟩
      | false =>
        rcases accepts with blank' | ⟨value, means⟩
        · rw [blank] at blank'
          cases blank'
        · exact ⟨value, .means blank means⟩

lemma Setting.FailsWith.not_accepts {failure : Failure}
    (h : setting.FailsWith compile finding failure) : ¬ setting.Accepts compile finding := by
  cases h with
  | failed => exact id
  | refused filled meaningless =>
    rintro (blank | ⟨value, means⟩)
    · rw [blank] at filled
      cases filled
    · exact meaningless value means

end Reads

namespace Settings

/-- A text becomes a value of the setting that it is given for, or it stands for none and is
refused. -/
lemma withValue_cases (compile : Pattern.Compiler) (s : Settings) (setting : Setting)
    (text : String) :
    (∃ value, s.withValue compile setting text = .ok (s.set setting value)
      ∧ setting.Means compile text value)
    ∨ (∃ failure, s.withValue compile setting text = .error failure
      ∧ (∀ value, ¬ setting.Means compile text value) ∧ setting.Refuses compile text failure) := by
  cases setting with
  | feedUrl =>
    by_cases web : IsWeb text
    · exact .inl ⟨text, by rw [withValue, if_pos (isFeedUrl_iff.2 web)]; rfl, web, rfl⟩
    · refine .inr ⟨_, by rw [withValue, if_neg (mt isFeedUrl_iff.1 web)], ?_, rfl⟩
      rintro _ ⟨web', _⟩
      exact web web'
  | signingKey =>
    cases parsed : TrustedKey.parse text with
    | ok key => exact .inl ⟨key, by rw [withValue, parsed]; rfl, parsed⟩
    | error failure =>
      refine .inr ⟨failure, by rw [withValue, parsed]; rfl, fun key means => ?_, parsed,
        TrustedKey.refused_of_error parsed⟩
      cases parsed.symm.trans means
  | installDirectory => exact .inl ⟨⟨text⟩, rfl, rfl⟩
  | versionCommand => exact .inl ⟨text, rfl, rfl⟩
  | installerPattern =>
    cases read : compile text with
    | ok pattern => exact .inl ⟨pattern, by rw [withValue, read]; rfl, read⟩
    | error reason =>
      refine .inr ⟨_, by rw [withValue, read], fun pattern means => ?_, reason, read, rfl⟩
      cases read.symm.trans means
  | auditFile => exact .inl ⟨some ⟨text⟩, rfl, rfl⟩
  | eventLog =>
    rcases readFlag_cases Setting.eventLog.key text with ⟨flag, read, means⟩ | ⟨read, never⟩
    · exact .inl ⟨flag, by rw [withValue, read]; rfl, means⟩
    · exact .inr ⟨_, by rw [withValue, read]; rfl, never, rfl⟩
  | feedTimeout =>
    rcases readSeconds_cases Setting.feedTimeout.key text with ⟨limit, read, means⟩ | ⟨read, never⟩
    · exact .inl ⟨limit, by rw [withValue, read]; rfl, means⟩
    · exact .inr ⟨_, by rw [withValue, read]; rfl, never, rfl⟩
  | downloadTimeout =>
    rcases readSeconds_cases Setting.downloadTimeout.key text with
      ⟨limit, read, means⟩ | ⟨read, never⟩
    · exact .inl ⟨limit, by rw [withValue, read]; rfl, means⟩
    · exact .inr ⟨_, by rw [withValue, read]; rfl, never, rfl⟩

lemma filled_of_blank {text : String} (blank : allBlank text = true) :
    filled (some text) = none := by
  simp [filled, trimmed_eq_empty_iff.2 blank]

lemma filled_of_filled {text : String} (some_ : allBlank text = false) :
    filled (some text) = some (trimmed text) := by
  have left : trimmed text ≠ "" := by
    intro empty
    rw [trimmed_eq_empty_iff.1 empty] at some_
    cases some_
  simp [filled, left]

/-- **Settings take an answer as it reads.**  It becomes the value of the setting that was asked for
and leaves the others as they are, or it is refused. -/
lemma assign_reads (compile : Pattern.Compiler) (s : Settings) (setting : Setting)
    (answer : Option String) :
    (∃ value, s.assign compile setting answer = .ok (s.set setting value)
      ∧ Reads compile (s.value setting) (.ok answer) value)
    ∨ (∃ failure, s.assign compile setting answer = .error failure
      ∧ setting.FailsWith compile (.ok answer) failure) := by
  cases answer with
  | none => exact .inl ⟨s.value setting, by simp [assign, filled], .absent⟩
  | some text =>
    cases blank : allBlank text with
    | true =>
      refine .inl ⟨setting.ofBlank (s.value setting), ?_, .blank blank⟩
      rw [assign, filled_of_blank blank]
      cases setting <;> rfl
    | false =>
      rw [assign, filled_of_filled blank]
      rcases s.withValue_cases compile setting (trimmed text) with
        ⟨value, taken, means⟩ | ⟨failure, refused, never, refuses⟩
      · exact .inl ⟨value, taken, .means blank means⟩
      · exact .inr ⟨failure, refused, .refused blank never refuses⟩

end Settings

end SignedUpgrade
