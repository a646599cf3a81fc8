import Mathlib.Tactic.Lemma
import SignedUpgrade.Json.Letter

/-!
# The grammar of documents

Which texts are values of a document, told without the readers.  There may be blanks around every
part, texts may be written with any escapes, and numbers may have any size.

* `Spells` — the ways to write a text that is kept;
* `IsNumeral` — the ways to write a number;
* `Enclosed` — items between brackets, each but the first one behind a comma;
* `Member` — a member of an object, as it is written;
* `IsValue` — the texts that are values;
* `Ends` — what may stand behind a value.

A text that nobody keeps may hold escapes that stand for no character, so it need not spell any.
-/

namespace SignedUpgrade.Json

/-- Blanks between the parts of a document. -/
def Gap (cs : List Char) : Prop :=
  ∀ c ∈ cs, isGap c = true

lemma Gap.nil : Gap [] := by
  simp [Gap]

/-! ## Texts -/

/-- A character that may stand for itself in a text. -/
def StandsForItself (c : Char) : Prop :=
  c ≠ '"' ∧ c ≠ '\\' ∧ 0x20 ≤ c.toNat

/-- The number that is written with four hexadecimal digits. -/
def codeOf? (a b c d : Char) : Option Nat := do
  return (((← hexValue? a) * 16 + (← hexValue? b)) * 16 + (← hexValue? c)) * 16 + (← hexValue? d)

/-- The first half of a pair of escapes. -/
def IsHigh (v : Nat) : Prop :=
  0xD800 ≤ v ∧ v ≤ 0xDBFF

/-- The second half of a pair of escapes. -/
def IsLow (v : Nat) : Prop :=
  0xDC00 ≤ v ∧ v ≤ 0xDFFF

/-- The character that a pair of escapes stands for. -/
def paired (high low : Nat) : Char :=
  Char.ofNat (0x10000 + (high - 0xD800) * 0x400 + (low - 0xDC00))

/-- What stands between the quotes of a text that is kept, with the characters that it spells. -/
inductive Spells : List Char → List Char → Prop where
  | nil : Spells [] []
  | plain {c : Char} {body cs : List Char} (itself : StandsForItself c) (rest : Spells body cs) :
      Spells (c :: body) (c :: cs)
  | short {letter c : Char} {body cs : List Char} (escape : escaped? letter = some c)
      (rest : Spells body cs) : Spells ('\\' :: letter :: body) (c :: cs)
  | code {a b c d : Char} {v : Nat} {body cs : List Char} (number : codeOf? a b c d = some v)
      (alone : ¬ IsHigh v ∧ ¬ IsLow v) (rest : Spells body cs) :
      Spells ('\\' :: 'u' :: a :: b :: c :: d :: body) (Char.ofNat v :: cs)
  | pair {a b c d a' b' c' d' : Char} {v v' : Nat} {body cs : List Char}
      (first : codeOf? a b c d = some v) (second : codeOf? a' b' c' d' = some v')
      (high : IsHigh v) (low : IsLow v') (rest : Spells body cs) :
      Spells ('\\' :: 'u' :: a :: b :: c :: d :: '\\' :: 'u' :: a' :: b' :: c' :: d' :: body)
        (paired v v' :: cs)

/-- What may stand between the quotes of a text that is not kept. -/
inductive IsBody : List Char → Prop where
  | nil : IsBody []
  | plain {c : Char} {body : List Char} (itself : StandsForItself c) (rest : IsBody body) :
      IsBody (c :: body)
  | short {letter : Char} {body : List Char} (escape : (escaped? letter).isSome = true)
      (rest : IsBody body) : IsBody ('\\' :: letter :: body)
  | code {a b c d : Char} {body : List Char} (number : (codeOf? a b c d).isSome = true)
      (rest : IsBody body) : IsBody ('\\' :: 'u' :: a :: b :: c :: d :: body)

/-- What spells a text stands between quotes. -/
lemma Spells.isBody {body cs : List Char} (h : Spells body cs) : IsBody body := by
  induction h with
  | nil => exact .nil
  | plain itself _ ih => exact .plain itself ih
  | short escape _ ih => exact .short (by rw [escape]; rfl) ih
  | code number _ _ ih => exact .code (by rw [number]; rfl) ih
  | pair first second _ _ _ ih =>
    exact .code (by rw [first]; rfl) (.code (by rw [second]; rfl) ih)

/-- The ways to write a text. -/
def TextOf (s : String) (text : List Char) : Prop :=
  ∃ body, Spells body s.toList ∧ text = '"' :: (body ++ ['"'])

/-! ## Numbers -/

/-- Digits, one at least. -/
def IsDigits (ds : List Char) : Prop :=
  ds ≠ [] ∧ ∀ d ∈ ds, d.isDigit = true

/-- The whole part of a number, which starts with zero only if it is zero. -/
inductive IsWhole : List Char → Prop where
  | zero : IsWhole ['0']
  | digits {d : Char} {ds : List Char} (first : d.isDigit = true) (other : d ≠ '0')
      (rest : ∀ d ∈ ds, d.isDigit = true) : IsWhole (d :: ds)

/-- The decimals of a number, which may be missing. -/
inductive IsFraction : List Char → Prop where
  | missing : IsFraction []
  | digits {ds : List Char} (digits : IsDigits ds) : IsFraction ('.' :: ds)

/-- The exponent of a number, which may be missing. -/
inductive IsExponent : List Char → Prop where
  | missing : IsExponent []
  | digits {e : Char} {sign ds : List Char} (mark : e = 'e' ∨ e = 'E')
      (signed : sign = [] ∨ sign = ['+'] ∨ sign = ['-']) (digits : IsDigits ds) :
      IsExponent (e :: (sign ++ ds))

/-- The ways to write a number. -/
def IsNumeral (text : List Char) : Prop :=
  ∃ sign whole fraction exponent, (sign = [] ∨ sign = ['-']) ∧ IsWhole whole
    ∧ IsFraction fraction ∧ IsExponent exponent
    ∧ text = sign ++ (whole ++ (fraction ++ exponent))

/-! ## Lists and objects -/

/-- Items behind another one, each of them behind a comma, with blanks around the commas and at the
end. -/
inductive Further : List (List Char) → List Char → Prop where
  | none {gap : List Char} (blanks : Gap gap) : Further [] gap
  | more {item before after text : List Char} {items : List (List Char)} (before_ : Gap before)
      (after_ : Gap after) (rest : Further items text) :
      Further (item :: items) (before ++ ',' :: (after ++ (item ++ text)))

/-- Items between brackets, which may stand close together if there are none. -/
inductive Enclosed (opening closing : Char) : List (List Char) → List Char → Prop where
  | empty {gap : List Char} (blanks : Gap gap) :
      Enclosed opening closing [] (opening :: (gap ++ [closing]))
  | filled {item before text : List Char} {items : List (List Char)} (blanks : Gap before)
      (further : Further items text) :
      Enclosed opening closing (item :: items)
        (opening :: (before ++ (item ++ (text ++ [closing]))))

lemma Enclosed.start {opening closing : Char} {items : List (List Char)} {text : List Char}
    (h : Enclosed opening closing items text) : ∃ cs, text = opening :: cs := by
  cases h with
  | empty | filled => exact ⟨_, rfl⟩

/-- A member of an object: its name, what stands between the quotes of the name, the blanks around
the colon, and its value. -/
structure Member where
  name : String
  body : List Char
  beforeColon : List Char := []
  afterColon : List Char := []
  value : List Char

/-- A member as it is written. -/
def Member.text (m : Member) : List Char :=
  '"' :: (m.body ++ '"' :: (m.beforeColon ++ ':' :: (m.afterColon ++ m.value)))

/-- The words that are values, each with its first character apart. -/
def words : List (Char × List Char) :=
  [('n', ['u', 'l', 'l']), ('t', ['r', 'u', 'e']), ('f', ['a', 'l', 's', 'e'])]

/-- The texts that are values, nested to any depth.  What the names of members are does not matter
for this. -/
inductive IsValue : List Char → Prop where
  | word {c : Char} {rest : List Char} (known : (c, rest) ∈ words) : IsValue (c :: rest)
  | number {text : List Char} (numeral : IsNumeral text) : IsValue text
  | text {body : List Char} (isBody : IsBody body) : IsValue ('"' :: (body ++ ['"']))
  | list {items : List (List Char)} {text : List Char} (enclosed : Enclosed '[' ']' items text)
      (values : ∀ item ∈ items, IsValue item) : IsValue text
  | object {ms : List Member} {text : List Char}
      (enclosed : Enclosed '\x7b' '\x7d' (ms.map Member.text) text)
      (bodies : ∀ m ∈ ms, IsBody m.body) (before : ∀ m ∈ ms, Gap m.beforeColon)
      (after : ∀ m ∈ ms, Gap m.afterColon) (values : ∀ m ∈ ms, IsValue m.value) : IsValue text

/-- A list of values. -/
def IsList (items : List (List Char)) (text : List Char) : Prop :=
  Enclosed '[' ']' items text ∧ ∀ item ∈ items, IsValue item

/-- A member whose name can be kept, and which has a value. -/
structure Member.IsSound (m : Member) : Prop where
  spells : Spells m.body m.name.toList
  before : Gap m.beforeColon
  after : Gap m.afterColon
  value : IsValue m.value

/-- An object of members whose names can be kept. -/
def IsObject (ms : List Member) (text : List Char) : Prop :=
  Enclosed '\x7b' '\x7d' (ms.map Member.text) text ∧ ∀ m ∈ ms, m.IsSound

lemma TextOf.isValue {s : String} {text : List Char} (h : TextOf s text) : IsValue text := by
  obtain ⟨body, spells, rfl⟩ := h
  exact .text spells.isBody

lemma IsList.isValue {items : List (List Char)} {text : List Char} (h : IsList items text) :
    IsValue text :=
  .list h.1 h.2

lemma IsObject.isValue {ms : List Member} {text : List Char} (h : IsObject ms text) :
    IsValue text :=
  .object h.1 (fun m mem => (h.2 m mem).spells.isBody) (fun m mem => (h.2 m mem).before)
    (fun m mem => (h.2 m mem).after) (fun m mem => (h.2 m mem).value)

/-! ## What may stand behind a value -/

/-- A character that ends a number in front of it. -/
def isEnd (c : Char) : Bool :=
  isGap c || c == ',' || c == ']' || c == '\x7d'

/-- What may stand behind a value: nothing, or letters the first of which ends it. -/
def Ends (rest : Letters) : Prop :=
  ∀ letter, rest.head? = some letter → ∃ c, letter = some c ∧ isEnd c = true

lemma Ends.nil : Ends [] := by
  simp [Ends]

lemma Ends.cons {c : Char} (isEnd : isEnd c = true) (rest : Letters) : Ends (some c :: rest) := by
  rintro _ ⟨⟩
  exact ⟨c, rfl, isEnd⟩

/-- Blanks may stand behind a value, in front of whatever may. -/
lemma Ends.gap {gap : List Char} (blanks : Gap gap) {rest : Letters} (ends : Ends rest) :
    Ends (gap.map some ++ rest) := by
  cases gap with
  | nil => exact ends
  | cons c gap => exact .cons (by simp [isEnd, blanks c List.mem_cons_self]) _

lemma Further.ends {items : List (List Char)} {text : List Char} (h : Further items text) {c : Char}
    (closing : isEnd c = true) (r : Letters) : Ends (text.map some ++ some c :: r) := by
  cases h with
  | none blanks => exact .gap blanks (.cons closing r)
  | more before_ _ _ =>
    rw [List.map_append, List.append_assoc]
    exact .gap before_ (.cons rfl _)

/-- The first character of a value. -/
def isStart (c : Char) : Bool :=
  c == '"' || c == '[' || c == '\x7b' || c == 'n' || c == 't' || c == 'f' || c == '-' || c.isDigit

lemma isGap_of_isStart {c : Char} (h : isStart c = true) : isGap c = false := by
  rw [← Bool.not_eq_true]
  intro gap
  simp only [isGap, Bool.or_eq_true, beq_iff_eq] at gap
  rcases gap with ((rfl | rfl) | rfl) | rfl <;> cases h

/-- Every value has a first character. -/
lemma IsValue.start {text : List Char} (h : IsValue text) :
    ∃ c cs, text = c :: cs ∧ isStart c = true := by
  cases h with
  | word known =>
    refine ⟨_, _, rfl, ?_⟩
    simp only [words, List.mem_cons, Prod.mk.injEq, List.not_mem_nil, or_false] at known
    rcases known with ⟨rfl, -⟩ | ⟨rfl, -⟩ | ⟨rfl, -⟩ <;> rfl
  | text => exact ⟨_, _, rfl, rfl⟩
  | list enclosed | object enclosed =>
    obtain ⟨cs, rfl⟩ := enclosed.start
    exact ⟨_, _, rfl, rfl⟩
  | number numeral =>
    obtain ⟨sign, whole, fraction, exponent, signed, isWhole, _, _, rfl⟩ := numeral
    rcases signed with rfl | rfl
    · cases isWhole with
      | zero => exact ⟨_, _, rfl, rfl⟩
      | digits first => exact ⟨_, _, rfl, by simp [isStart, first]⟩
    · exact ⟨_, _, rfl, rfl⟩

end SignedUpgrade.Json
