import Mathlib.Data.List.Forall2
import SignedUpgrade.Pattern.Reader
import SignedUpgrade.Proofs.Pattern.Anchored
import SignedUpgrade.Proofs.Pattern.Ways
import SignedUpgrade.Proofs.Text.Lines
import SignedUpgrade.Settings.Registry

/-!
# What registry answers say

The lines of an answer are read by a pattern with many ways to match.  Still a line that shows a
value has its parts at fixed places, and the first way that is tried reads these.

* `ShownValue` — the parts of a line that shows a value;
* `mem_valueWays` — the ways to match a line;
* `valueLine?_eq_some_iff` — **a line is read as what it shows;**
* `read_writtenPattern`, `isIn_lineForm` — the ways are those of the pattern as it is written;
* `valueIn?_first` — **an answer gives the data of the first line that shows the value.**
-/

namespace SignedUpgrade.Registry

open Pattern Text

/-! ## Lines that show values -/

/-- The name of a type: a fixed beginning, and capital letters of ASCII or underscores behind it. -/
def IsTypeName (cs : List Char) : Prop :=
  ∃ letters, cs = ['R', 'E', 'G', '_'] ++ letters ∧ letters ≠ []
    ∧ ∀ c ∈ letters, ('A' ≤ c ∧ c ≤ 'Z') ∨ c = '_'

/-- The parts of a line that shows a value.  The name and the type are whole words, and there is a
blank behind the type, even if there is nothing else. -/
structure ShownValue (line : List Char) where
  margin : List Char
  name : List Char
  gap : List Char
  type : List Char
  rest : List Char
  whole : line = margin ++ (name ++ (gap ++ (type ++ rest)))
  margin_blank : ∀ c ∈ margin, isBlank c = true
  name_filled : name ≠ []
  name_dense : ∀ c ∈ name, isBlank c = false
  gap_filled : gap ≠ []
  gap_blank : ∀ c ∈ gap, isBlank c = true
  type_isTypeName : IsTypeName type
  rest_blank : ∃ c ∈ rest.head?, isBlank c = true

/-- The data of a value are all that stands behind the type, trimmed. -/
def ShownValue.data {line : List Char} (v : ShownValue line) : List Char :=
  trim v.rest

variable {line text name data rest type : List Char} {c : Char}

/-! ## The letters of types -/

lemma holds_typeLetters : typeLetters.holds c = true ↔ ('A' ≤ c ∧ c ≤ 'Z') ∨ c = '_' := by
  have capital : ('A' ≤ c ∧ c ≤ 'Z') ↔ 65 ≤ c.toNat ∧ c.toNat ≤ 90 := Iff.rfl
  have underscore : c = '_' ↔ c.toNat = 95 := Char.toNat_inj.symm
  rw [capital, underscore, typeLetters, CharSet.holds, Bool.or_eq_true_iff, CharSet.holds,
    Bool.and_eq_true_iff, decide_eq_true_eq, decide_eq_true_eq, Form.holds_only, underscore]

lemma dense_of_typeLetters (h : typeLetters.holds c = true) : isBlank c = false := by
  have place : (65 ≤ c.toNat ∧ c.toNat ≤ 90) ∨ c.toNat = 95 := by
    rcases holds_typeLetters.1 h with ⟨low, high⟩ | rfl
    · exact .inl ⟨low, high⟩
    · exact .inr rfl
  simp only [isBlank, Bool.or_eq_false_iff, Bool.and_eq_false_iff, decide_eq_false_iff_not,
    beq_eq_false_iff_ne]
  omega

/-! ## Data -/

lemma blank_not_holds (dense : isBlank c = false) : CharSet.blank.holds c = false :=
  dense

/-- A text is cut behind the blanks at its start. -/
lemma blanks_append_trimStart (text : List Char) :
    text.takeWhile isBlank ++ trimStart text = text :=
  List.takeWhile_append_dropWhile

lemma blank_of_mem_blanks (mem : c ∈ text.takeWhile isBlank) : CharSet.blank.holds c = true :=
  List.mem_takeWhile_imp mem

lemma dense_of_head?_trimStart (first : c ∈ (trimStart text).head?) :
    CharSet.blank.holds c = false := by
  have dense := List.head?_dropWhile_not isBlank text
  rw [← trimStart, Option.mem_def.1 first] at dense
  exact dense

/-- Blanks at the end of a line are passed over. -/
lemma flatMap_blanks (text data : List Char) :
    ((runs .longestFirst .blank 0 text).flatMap fun way => if way.2.isEmpty then [data] else [])
      = if text.all isBlank then [data] else [] := by
  conv_lhs => rw [← blanks_append_trimStart text]
  rw [flatMap_runs (fun c mem => blank_of_mem_blanks mem) (Nat.zero_le _)
    (fun c first => dense_of_head?_trimStart first) fun _ _ _ _ => rfl]
  refine if_congr ?_ rfl rfl
  rw [List.isEmpty_iff, trimStart, List.dropWhile_eq_nil_iff, List.all_eq_true]

lemma mem_dataWays : data ∈ dataWays text
    ↔ ∃ tail, text = data ++ tail ∧ '\n' ∉ data ∧ ∀ c ∈ tail, isBlank c = true := by
  unfold dataWays
  simp only [flatMap_blanks, List.mem_flatMap, Prod.exists, mem_runs, Nat.zero_le, and_true,
    Form.holds_complement_only, List.mem_ite_nil_right, List.mem_singleton, List.all_eq_true]
  constructor
  · rintro ⟨_, tail, ⟨cut, inside⟩, blank, rfl⟩
    exact ⟨tail, cut, fun mem => inside _ mem rfl, blank⟩
  · rintro ⟨tail, cut, inside, blank⟩
    exact ⟨data, tail, ⟨cut, fun c mem feed => inside (feed ▸ mem)⟩, blank, rfl⟩

/-- The data end in front of a character, or there is one character more of them. -/
lemma dataWays_cons (other : c ≠ '\n') (r : List Char) : dataWays (c :: r)
    = (if (c :: r).all isBlank then [[]] else []) ++ (dataWays r).map (c :: ·) := by
  unfold dataWays
  simp only [flatMap_blanks]
  rw [runs, if_pos (Form.holds_complement_only.2 other), Order.arrange, runEnds, if_pos rfl,
    List.flatMap_append, List.flatMap_singleton, List.flatMap_map, List.map_flatMap]
  refine congrArg _ (List.flatMap_congr fun way _ => ?_)
  split <;> rfl

lemma trimEnd_cons (c : Char) (r : List Char) :
    trimEnd (c :: r) = if (c :: r).all isBlank then [] else c :: trimEnd r := by
  rw [trimEnd, List.reverse_cons, List.dropWhile_append, trimEnd]
  by_cases blank : ∀ d ∈ r, isBlank d = true
  · have nothing : r.reverse.dropWhile isBlank = [] := by simpa using blank
    cases first : isBlank c with
    | false => simp [nothing, first]
    | true => simpa [nothing, first] using blank
  · have left : r.reverse.dropWhile isBlank ≠ [] := by simpa using blank
    simp [left, blank]

/-- The data that are read first have no blank at their end. -/
lemma head?_dataWays (inside : '\n' ∉ text) : (dataWays text).head? = some (trimEnd text) := by
  induction text with
  | nil => rfl
  | cons c r ih =>
    obtain ⟨other, inside⟩ := List.ne_and_not_mem_of_not_mem_cons inside
    rw [dataWays_cons other.symm, trimEnd_cons, List.head?_append, List.head?_map, ih inside]
    split <;> rfl

/-! ## Types -/

lemma typedWays_append (r : List Char) : typedWays (['R', 'E', 'G', '_'] ++ r)
    = (runs .longestFirst typeLetters 1 r).flatMap fun way =>
        (runs .longestFirst .blank 1 way.2).flatMap fun way => dataWays way.2 :=
  rfl

lemma mem_typedWays : data ∈ typedWays text ↔ ∃ type gap rest, text = type ++ (gap ++ rest)
    ∧ IsTypeName type ∧ gap ≠ [] ∧ (∀ c ∈ gap, isBlank c = true) ∧ data ∈ dataWays rest := by
  constructor
  · intro mem
    unfold typedWays at mem
    split at mem
    · rename_i r
      simp only [List.mem_flatMap, Prod.exists, mem_runs] at mem
      obtain ⟨letters, _, ⟨rfl, named, filled⟩, gap, rest, ⟨rfl, blank, enough⟩, mem⟩ := mem
      exact ⟨_, gap, rest, rfl, ⟨letters, rfl, List.length_pos_iff.1 filled,
        fun c mem => holds_typeLetters.1 (named c mem)⟩, List.length_pos_iff.1 enough, blank, mem⟩
    · cases mem
  · rintro ⟨_, gap, rest, rfl, ⟨letters, rfl, filled, named⟩, enough, blank, mem⟩
    rw [List.append_assoc, typedWays_append]
    simp only [List.mem_flatMap, Prod.exists, mem_runs]
    exact ⟨letters, _, ⟨rfl, fun c mem => holds_typeLetters.2 (named c mem),
      List.length_pos_iff.2 filled⟩, gap, rest, ⟨rfl, blank, List.length_pos_iff.2 enough⟩, mem⟩

/-- Behind a type, all blanks are passed over before the data begin. -/
lemma head?_flatMap_dataWays (gap : ∃ c ∈ text.head?, isBlank c = true) (inside : '\n' ∉ text) :
    ((runs .longestFirst .blank 1 text).flatMap fun way => dataWays way.2).head?
      = some (trim text) := by
  obtain ⟨c, first, blank⟩ := gap
  obtain ⟨r, rfl⟩ := List.head?_eq_some_iff.1 first
  have enough : 1 ≤ ((c :: r).takeWhile isBlank).length := by
    rw [List.takeWhile_cons_of_pos blank]
    exact Nat.succ_pos _
  have inside' : '\n' ∉ trimStart (c :: r) := fun mem =>
    inside ((List.dropWhile_suffix _).subset mem)
  have cut : (runs .longestFirst .blank 1 (c :: r)).head?
      = some ((c :: r).takeWhile isBlank, trimStart (c :: r)) := by
    conv_lhs => rw [← blanks_append_trimStart (c :: r)]
    exact head?_runs_longestFirst (fun d mem => blank_of_mem_blanks mem) enough
      fun d first => dense_of_head?_trimStart first
  exact head?_flatMap_of_head? cut (head?_dataWays inside')

lemma head?_typedWays (named : IsTypeName type) (gap : ∃ c ∈ rest.head?, isBlank c = true)
    (inside : '\n' ∉ rest) : (typedWays (type ++ rest)).head? = some (trim rest) := by
  obtain ⟨letters, rfl, filled, named⟩ := named
  have stop : ∀ d ∈ rest.head?, typeLetters.holds d = false := fun d first => by
    obtain ⟨c, first', blank⟩ := gap
    obtain rfl := Option.mem_unique first first'
    refine Bool.eq_false_iff.2 fun letter => ?_
    rw [dense_of_typeLetters letter] at blank
    cases blank
  have stuck : ∀ (taken : List Char) (d : Char) (r : List Char), typeLetters.holds d = true →
      ((runs .longestFirst .blank 1 (taken, d :: r).2).flatMap fun way => dataWays way.2) = [] :=
    fun taken d r letter => by
      rw [runs_of_other (blank_not_holds (dense_of_typeLetters letter)), List.flatMap_nil]
  rw [List.append_assoc, typedWays_append,
    flatMap_runs (fun d mem => holds_typeLetters.2 (named d mem)) (List.length_pos_iff.2 filled)
      stop stuck]
  exact head?_flatMap_dataWays gap inside

/-! ## Lines -/

lemma holds_dense : (CharSet.complement .blank).holds c = true ↔ isBlank c = false :=
  iff_of_eq (Bool.not_eq_true' _)

lemma not_dense_of_blank (blank : isBlank c = true) :
    (CharSet.complement .blank).holds c = false := by
  rw [CharSet.holds, CharSet.holds, blank]
  rfl

lemma typedWays_of_blank (blank : isBlank c = true) (r : List Char) : typedWays (c :: r) = [] := by
  unfold typedWays
  split
  · rename_i same
    rw [(List.cons.inj same).1] at blank
    exact absurd blank (by decide)
  · rfl

lemma mem_valueWays : (name, data) ∈ valueWays line ↔ ∃ margin gap rest,
    line = margin ++ (name ++ (gap ++ rest)) ∧ (∀ c ∈ margin, isBlank c = true)
      ∧ name ≠ [] ∧ (∀ c ∈ name, isBlank c = false)
      ∧ gap ≠ [] ∧ (∀ c ∈ gap, isBlank c = true) ∧ data ∈ typedWays rest := by
  unfold valueWays
  simp only [List.mem_flatMap, List.mem_map, Prod.exists, mem_runs, holds_dense, Nat.zero_le,
    Prod.mk.injEq]
  constructor
  · rintro ⟨margin, _, ⟨rfl, blank, _⟩, _, _, ⟨rfl, dense, filled⟩, gap, rest, ⟨rfl, blank', wide⟩,
      _, mem, rfl, rfl⟩
    exact ⟨margin, gap, rest, rfl, blank, List.length_pos_iff.1 filled, dense,
      List.length_pos_iff.1 wide, blank', mem⟩
  · rintro ⟨margin, gap, rest, rfl, blank, filled, dense, wide, blank', mem⟩
    exact ⟨margin, _, ⟨rfl, blank, trivial⟩, name, _, ⟨rfl, dense, List.length_pos_iff.2 filled⟩,
      gap, rest, ⟨rfl, blank', List.length_pos_iff.2 wide⟩, data, mem, rfl, rfl⟩

/-- If there is a way to read a line, it shows a value. -/
lemma nonempty_shownValue (ways : valueWays line ≠ []) : Nonempty (ShownValue line) := by
  obtain ⟨⟨name, data⟩, mem⟩ := List.exists_mem_of_ne_nil _ ways
  obtain ⟨margin, gap, _, rfl, margin_blank, filled, dense, wide, gap_blank, mem⟩ :=
    mem_valueWays.1 mem
  obtain ⟨type, gap', rest, rfl, named, wide', blank, _⟩ := mem_typedWays.1 mem
  obtain ⟨c, cs, rfl⟩ := List.exists_cons_of_ne_nil wide'
  exact ⟨⟨margin, name, gap, type, c :: cs ++ rest, rfl, margin_blank, filled, dense, wide,
    gap_blank, named, c, rfl, blank c List.mem_cons_self⟩⟩

/-- What holds of all characters of a word holds of the first one of a text that begins with it. -/
lemma forall_head?_append {p : Char → Prop} (filled : text ≠ []) (all : ∀ c ∈ text, p c)
    (rest : List Char) : ∀ c ∈ (text ++ rest).head?, p c := by
  obtain ⟨c, cs, rfl⟩ := List.exists_cons_of_ne_nil filled
  rintro _ ⟨⟩
  exact all c List.mem_cons_self

/-- Margin, name and gap of a line that shows a value are found in one way only, since nothing goes
on from a place inside of them. -/
lemma ShownValue.valueWays_eq (v : ShownValue line) :
    valueWays line = (typedWays (v.type ++ v.rest)).map fun data => (v.name, data) := by
  have name_first : ∀ c ∈ (v.name ++ (v.gap ++ (v.type ++ v.rest))).head?,
      CharSet.blank.holds c = false := forall_head?_append v.name_filled v.name_dense _
  have gap_first : ∀ c ∈ (v.gap ++ (v.type ++ v.rest)).head?,
      (CharSet.complement .blank).holds c = false :=
    forall_head?_append v.gap_filled (fun c mem => not_dense_of_blank (v.gap_blank c mem)) _
  have type_first : ∀ c ∈ (v.type ++ v.rest).head?, CharSet.blank.holds c = false := by
    obtain ⟨letters, typed, _⟩ := v.type_isTypeName
    rw [typed]
    rintro _ ⟨⟩
    rfl
  conv_lhs => rw [v.whole, valueWays]
  rw [flatMap_runs v.margin_blank (Nat.zero_le _) name_first]
  · dsimp only
    rw [flatMap_runs (fun c mem => holds_dense.2 (v.name_dense c mem))
      (List.length_pos_iff.2 v.name_filled) gap_first]
    · dsimp only
      rw [flatMap_runs v.gap_blank (List.length_pos_iff.2 v.gap_filled) type_first]
      exact fun taken c r blank => by rw [typedWays_of_blank blank, List.map_nil]
    · intro taken c r dense
      dsimp only
      rw [runs_of_other (blank_not_holds (holds_dense.1 dense)), List.flatMap_nil]
  · intro taken c r blank
    dsimp only
    rw [runs_of_other (not_dense_of_blank blank), List.flatMap_nil]

/-- **The first way to read a line reads what it shows.** -/
lemma ShownValue.valueLine?_eq (v : ShownValue line) (inside : '\n' ∉ line) :
    valueLine? line = some (v.name, v.data) := by
  have others : '\n' ∉ v.rest := fun mem => inside (by rw [v.whole]; simp [mem])
  rw [valueLine?, v.valueWays_eq, List.head?_map,
    head?_typedWays v.type_isTypeName v.rest_blank others]
  rfl

/-- **A line is read as what it shows,** and not read at all if it does not show a value. -/
lemma valueLine?_eq_some_iff (inside : '\n' ∉ line) :
    valueLine? line = some (name, data) ↔ ∃ v : ShownValue line, v.name = name ∧ v.data = data := by
  constructor
  · intro read
    have ways : valueWays line ≠ [] := fun none => by
      rw [valueLine?, none] at read
      cases read
    obtain ⟨v⟩ := nonempty_shownValue ways
    have same := (v.valueLine?_eq inside).symm.trans read
    cases same
    exact ⟨v, rfl, rfl⟩
  · rintro ⟨v, rfl, rfl⟩
    exact v.valueLine?_eq inside

/-! ## The written pattern -/

/-- The pattern as it is written. -/
def writtenPattern : String := "^\\s*(\\S+)\\s+(REG_[A-Z_]+)\\s+(.*?)\\s*$"

/-- The letters of types as the pattern has them. -/
def writtenLetters : CharSet :=
  .union (.union .empty (.range 0x41 0x5A)) (.only '_')

/-- The form of lines that the pattern asks for. -/
def lineForm : Form :=
  .andThen (.look .textStart) <| .andThen (.run .blank 0) <|
    .andThen (.run (.complement .blank) 1) <| .andThen (.run .blank 1) <|
    .andThen (.word "REG_".toList (.run writtenLetters 1)) <| .andThen (.run .blank 1) <|
    .andThen (.run (.complement (.only '\n')) 0) <| .andThen (.run .blank 0) (.look .textEnd)

lemma read_writtenPattern : read? writtenPattern = some ⟨writtenPattern, lineForm⟩ := by
  decide +kernel

lemma holds_writtenLetters : writtenLetters.holds c = typeLetters.holds c := by
  simp [writtenLetters, typeLetters, CharSet.holds]

/-- **There is a way to read a line exactly if the written pattern selects it.** -/
lemma isIn_lineForm : lineForm.isIn line = true ↔ ∃ name data, (name, data) ∈ valueWays line := by
  rw [lineForm, Form.isIn_anchored (by decide +kernel)]
  simp only [Form.starts_run, Form.starts_word_andThen, Form.starts_word, Form.starts_end,
    holds_writtenLetters, holds_typeLetters, holds_dense, Form.holds_complement_only, mem_valueWays,
    mem_typedWays, mem_dataWays]
  constructor
  · rintro ⟨margin, _, rfl, margin_blank, _, name, _, rfl, dense, filled, gap, _, rfl, gap_blank,
      wide, _, rfl, letters, _, rfl, named, lettered, gap', _, rfl, blank, wide', data, _, rfl,
      inLine, _, tail, _, rfl, tail_blank, _, rfl⟩
    have typed : IsTypeName ("REG_".toList ++ letters) :=
      ⟨letters, rfl, List.length_pos_iff.1 lettered, named⟩
    refine ⟨name, data, margin, gap, _, rfl, margin_blank, List.length_pos_iff.1 filled, dense,
      List.length_pos_iff.1 wide, gap_blank, _, gap', _, ?_, typed, List.length_pos_iff.1 wide',
      blank, tail, rfl, fun mem => inLine _ mem rfl, tail_blank⟩
    rw [List.append_nil, List.append_assoc]
  · rintro ⟨name, data, margin, gap, _, rfl, margin_blank, filled, dense, wide, gap_blank, _, gap',
      _, rfl, ⟨letters, rfl, lettered, named⟩, wide', blank, tail, rfl, inLine, tail_blank⟩
    exact ⟨margin, _, rfl, margin_blank, Nat.zero_le _, name, _, rfl, dense,
      List.length_pos_iff.2 filled, gap, _, rfl, gap_blank, List.length_pos_iff.2 wide, _,
      List.append_assoc _ _ _, letters, _, rfl, named, List.length_pos_iff.2 lettered, gap', _, rfl,
      blank, List.length_pos_iff.2 wide', data, tail, rfl, fun c mem feed => inLine (feed ▸ mem),
      Nat.zero_le _, tail, [], (List.append_nil _).symm, tail_blank, Nat.zero_le _, rfl⟩

/-! ## Answers -/

/-- Two characters are the same, or the two cases of one ASCII letter. -/
def SameLetter (c d : Char) : Prop :=
  c = d ∨ (('A' ≤ c ∧ c ≤ 'Z') ∧ d.toNat = c.toNat + 32)
    ∨ (('A' ≤ d ∧ d ≤ 'Z') ∧ c.toNat = d.toNat + 32)

lemma toNat_toLower (c : Char) :
    c.toLower.toNat = if 'A' ≤ c ∧ c ≤ 'Z' then c.toNat + 32 else c.toNat := by
  have capital : ('A' ≤ c ∧ c ≤ 'Z') ↔ c.val ≥ 'A'.val ∧ c.val ≤ 'Z'.val := Iff.rfl
  simp only [capital]
  unfold Char.toLower
  split
  · rename_i bounds
    have high : c.toNat ≤ 90 := bounds.2
    change (c.val + 32).toNat = c.toNat + 32
    rw [UInt32.toNat_add]
    exact Nat.mod_eq_of_lt (by change c.toNat + 32 < _; omega)
  · rfl

lemma toLower_eq_iff {c d : Char} : c.toLower = d.toLower ↔ SameLetter c d := by
  have capital : ∀ c : Char, ('A' ≤ c ∧ c ≤ 'Z') ↔ 65 ≤ c.toNat ∧ c.toNat ≤ 90 := fun _ => Iff.rfl
  rw [SameLetter, ← Char.toNat_inj, ← Char.toNat_inj, toNat_toLower, toNat_toLower]
  simp only [capital]
  split <;> split <;> omega

lemma sameName_iff {a b : List Char} : sameName a b = true ↔ List.Forall₂ SameLetter a b := by
  rw [sameName, beq_iff_eq, ← List.forall₂_eq_eq_eq, List.forall₂_map_left_iff,
    List.forall₂_map_right_iff]
  simp only [toLower_eq_iff]

/-- A line shows the value with a name, in which the case of ASCII letters is of no importance. -/
def Shows (line : List Char) (name : String) (data : String) : Prop :=
  ∃ v : ShownValue line, List.Forall₂ SameLetter v.name name.toList ∧ data.toList = v.data

lemma told?_eq_some_iff {value shown : String} (inside : '\n' ∉ line) :
    told? value line = some shown ↔ Shows line value shown := by
  constructor
  · intro read
    unfold told? at read
    split at read
    · rename_i found data here
      obtain ⟨v, rfl, rfl⟩ := (valueLine?_eq_some_iff inside).1 here
      split at read
      · rename_i same
        exact ⟨v, sameName_iff.1 same, by rw [← Option.some.inj read, String.toList_ofList]⟩
      · cases read
    · cases read
  · rintro ⟨v, same, shown⟩
    rw [told?, v.valueLine?_eq inside]
    dsimp only
    rw [if_pos (sameName_iff.2 same), ← shown, String.ofList_toList]

/-- **An answer gives the data of the first line that shows the value,** and nothing exactly if no
line shows it. -/
theorem valueIn?_first (answer name : String) :
    ∃ ls, IsLines answer.toList ls
      ∧ (∀ data, valueIn? answer name = some data ↔
          ∃ front line back, ls = front ++ line :: back ∧ Shows line name data
            ∧ ∀ other ∈ front, ∀ data', ¬ Shows other name data')
      ∧ (valueIn? answer name = none ↔ ∀ line ∈ ls, ∀ data, ¬ Shows line name data) := by
  have told_iff : ∀ line ∈ lines answer.toList, ∀ data,
      told? name line = some data ↔ Shows line name data :=
    fun line mem _ => told?_eq_some_iff ((isLines_lines _).notMem mem)
  have silent : ∀ line ∈ lines answer.toList,
      told? name line = none ↔ ∀ data, ¬ Shows line name data := fun line mem => by
    rw [Option.eq_none_iff_forall_ne_some]
    exact forall_congr' fun data => not_congr (told_iff line mem data)
  refine ⟨lines answer.toList, isLines_lines _, fun data => ?_, ?_⟩
  · rw [valueIn?, List.findSome?_eq_some_iff]
    refine exists_congr fun front => exists_congr fun line => exists_congr fun back =>
      and_congr_right fun cut => ?_
    rw [told_iff line (by simp [cut])]
    exact and_congr_right fun _ => forall₂_congr fun other mem => silent other (by simp [cut, mem])
  · rw [valueIn?, List.findSome?_eq_none_iff]
    exact forall₂_congr silent

/-- In the first line, the carriage return belongs to the line end, and there is no blank behind the
type. -/
example : valueIn? "  A  REG_SZ\r\n\t A REG_SZ  x REG_SZ  y \r" "a" = some "x REG_SZ  y" := by
  decide +kernel

end SignedUpgrade.Registry
