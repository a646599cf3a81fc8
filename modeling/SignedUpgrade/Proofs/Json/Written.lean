import Mathlib.Tactic.SplitIfs
import SignedUpgrade.Json.Write
import SignedUpgrade.Proofs.Json.Objects

/-!
# Reading what was written

What is written is a document: texts are spelled as they are, and records are objects.  So they are
read back, whatever follows them in the document.  A line feed stands nowhere in them.

* `textOf_quoted`, `enclosed_object`, `enclosed_list` — texts, objects and lists are written as
  such;
* `wantText_quoted`, `wantVariant_quoted` — texts, and names that stand for values;
* `decode_object` — the record that an object is read as;
* `lineFeed_notMem_quoted`, `lineFeed_notMem_object` — what is written stays on one line.
-/

namespace SignedUpgrade.Json

open Text

/-! ## Texts -/

lemma hexValue_digit {n : Nat} (small : n < 16) : hexValue? (Hex.digit n) = some n := by
  have all : ∀ n : Fin 16, hexValue? (Hex.digit n) = some n.val := by decide
  exact all ⟨n, small⟩

/-- A control character is written by its number. -/
lemma codeOf_control {c : Char} (control : c.toNat < 0x20) :
    codeOf? '0' '0' (Hex.digit (c.toNat / 16)) (Hex.digit (c.toNat % 16)) = some c.toNat := by
  have zero : hexValue? '0' = some 0 := by decide
  have high := hexValue_digit (n := c.toNat / 16) (by omega)
  have low := hexValue_digit (n := c.toNat % 16) (by omega)
  simp [codeOf?, zero, high, low]
  omega

/-- A character spells itself as it is written. -/
lemma spells_escapeChar (c : Char) {body cs : List Char} (rest : Spells body cs) :
    Spells (escapeChar c ++ body) (c :: cs) := by
  unfold escapeChar
  split_ifs with _ _ _ _ _ _ _ control
  · subst c
    exact .short (by decide) rest
  · subst c
    exact .short (by decide) rest
  · subst c
    exact .short (by decide) rest
  · subst c
    exact .short (by decide) rest
  · subst c
    exact .short (by decide) rest
  · subst c
    exact .short (by decide) rest
  · subst c
    exact .short (by decide) rest
  · have spells := Spells.code (codeOf_control control) (by simp only [IsHigh, IsLow]; omega) rest
    rwa [Char.ofNat_toNat] at spells
  · exact .plain ⟨by assumption, by assumption, Nat.not_lt.1 control⟩ rest

/-- A text is spelled as it is written. -/
lemma spells_written (cs : List Char) : Spells (cs.flatMap escapeChar) cs := by
  induction cs with
  | nil => exact .nil
  | cons c cs ih => exact spells_escapeChar c ih

lemma textOf_quoted (s : String) : TextOf s (quoted s).toList :=
  ⟨s.toList.flatMap escapeChar, spells_written s.toList, by simp [quoted, quotedChars]⟩

lemma lettersOf_quoted (s : String) : lettersOf (quoted s)
    = some '"' :: ((s.toList.flatMap escapeChar).map some ++ [some '"']) := by
  simp [lettersOf, quoted, quotedChars]

/-- A text between quotes is read back. -/
lemma wantText_quoted (wanted s : String) (r : Letters) :
    wantText wanted (lettersOf (quoted s) ++ r) = .ok (s, r) := by
  have read := wantText_quote wanted Gap.nil
    ((s.toList.flatMap escapeChar).map some ++ some '"' :: r)
  rw [lettersOf_quoted, List.cons_append, List.append_assoc]
  exact read.trans (readText_spells (spells_written s.toList) r)

/-- A name between quotes is read as the value that it stands for. -/
lemma wantVariant_quoted {α : Type} {names : List (String × α)} {name : String} {a : α}
    (named : names.lookup name = some a) (r : Letters) :
    wantVariant names (lettersOf (quoted name) ++ r) = .ok (a, r) := by
  have read : wantName names (lettersOf (quoted name) ++ r) = .ok (a, r) := by
    rw [wantName, wantText_quoted]
    simp only [bind, Except.bind, named]
    rfl
  have start : skipBlanks (lettersOf (quoted name) ++ r) = lettersOf (quoted name) ++ r := by
    rw [lettersOf_quoted]
    rfl
  rw [wantVariant, start]
  rw [lettersOf_quoted] at read ⊢
  exact read

/-! ## Lists and objects -/

/-- Texts behind another one, each of them behind a comma. -/
lemma further_intercalate (first : String) (more : List String) : ∃ text,
    Further (more.map String.toList) text
      ∧ (",".intercalate (first :: more)).toList = first.toList ++ text := by
  induction more generalizing first with
  | nil => exact ⟨[], .none .nil, by simp [String.intercalate_singleton]⟩
  | cons next more ih =>
    obtain ⟨text, further, same⟩ := ih next
    refine ⟨',' :: (next.toList ++ text), .more .nil .nil further, ?_⟩
    rw [String.intercalate_cons_cons, String.toList_append, String.toList_append, same]
    simp

/-- Texts with commas between them stand between brackets. -/
lemma enclosed_intercalate (opening closing : Char) (texts : List String) :
    Enclosed opening closing (texts.map String.toList)
      (opening :: ((",".intercalate texts).toList ++ [closing])) := by
  cases texts with
  | nil => exact .empty .nil
  | cons first more =>
    obtain ⟨text, further, same⟩ := further_intercalate first more
    rw [same, List.append_assoc]
    exact .filled .nil further

lemma enclosed_list (elements : List String) :
    Enclosed '[' ']' (elements.map String.toList) (list elements).toList := by
  simpa [list] using enclosed_intercalate '[' ']' elements

/-- A member as it is written, without blanks. -/
def Member.written (m : String × String) : Member where
  name := m.1
  body := m.1.toList.flatMap escapeChar
  value := m.2.toList

lemma Member.written_text (m : String × String) :
    (written m).text = (quoted m.1 ++ ":" ++ m.2).toList := by
  simp [Member.text, written, quoted, quotedChars]

lemma Member.written_isNamed (m : String × String) : (written m).IsNamed :=
  readText_spells (spells_written m.1.toList)

lemma enclosed_object (ms : List (String × String)) :
    Enclosed '\x7b' '\x7d' ((ms.map Member.written).map Member.text) (object ms).toList := by
  have enclosed := enclosed_intercalate '\x7b' '\x7d' (ms.map fun m => quoted m.1 ++ ":" ++ m.2)
  rw [List.map_map] at enclosed ⊢
  simpa [object, Function.comp_def, Member.written_text] using enclosed

lemma isObject_object (ms : List (String × String)) (values : ∀ m ∈ ms, IsValue m.2.toList) :
    IsObject (ms.map Member.written) (object ms).toList := by
  refine ⟨enclosed_object ms, ?_⟩
  rw [List.forall_mem_map]
  exact fun m mem => ⟨spells_written m.1.toList, .nil, .nil, values m mem⟩

/-- A field that is written is read back into its record. -/
lemma Shape.Fills.written {α : Type} {s : Shape α} {record next : α} {field : Field α}
    {name value : String} {ms : List Member} {o : Option α}
    (known : s.field? name = some field) (new : field.isSet record = false)
    (read : ∀ r, field.want record (lettersOf value ++ r) = .ok (next, r))
    (rest : s.Fills next ms o) : s.Fills record (Member.written (name, value) :: ms) o :=
  .member (.known (Member.written_isNamed _) known new fun _ _ => congrArg _ (read _)) rest

/-- **A record is read back from the object that its members were written as.** -/
lemma decode_object {α : Type} {s : Shape α} {ms : List (String × String)} {result : α}
    (fills : s.Fills s.start (ms.map Member.written) (some result)) :
    decode (wantRecord s) (lettersOf (object ms)) = .ok result := by
  have gaps : ∀ m ∈ ms.map Member.written, Gap m.beforeColon ∧ Gap m.afterColon := by
    rw [List.forall_mem_map]
    exact fun _ _ => ⟨Gap.nil, Gap.nil⟩
  have reads := wantRecord_reads Gap.nil (enclosed_object ms) gaps fills
  simpa [lettersOf] using eq_ok_of_toOption (decode_reads reads Gap.nil)

/-! ## Lines -/

/-- A line feed is written as an escape. -/
lemma lineFeed_notMem_quoted (s : String) : '\n' ∉ (quoted s).toList := by
  have digits : ∀ n, n < 16 → '\n' ≠ Hex.digit n := by decide
  have escapes : ∀ c, '\n' ∉ escapeChar c := by
    intro c
    unfold escapeChar
    split_ifs with _ _ feed _ _ _ _ control
    · decide
    · decide
    · decide
    · decide
    · decide
    · decide
    · decide
    · have high := digits (c.toNat / 16) (by omega)
      have low := digits (c.toNat % 16) (by omega)
      simp [high, low]
    · exact fun mem => feed (List.mem_singleton.1 mem).symm
  simp [quoted, quotedChars, escapes]

lemma lineFeed_notMem_intercalate {texts : List String}
    (each : ∀ text ∈ texts, '\n' ∉ text.toList) : '\n' ∉ (",".intercalate texts).toList := by
  induction texts with
  | nil => decide
  | cons first more ih =>
    obtain ⟨here, others⟩ := List.forall_mem_cons.1 each
    cases more with
    | nil => simpa [String.intercalate_singleton] using here
    | cons next more =>
      rw [String.intercalate_cons_cons, String.toList_append, String.toList_append]
      simp only [List.mem_append, not_or]
      exact ⟨⟨here, by decide⟩, ih others⟩

lemma lineFeed_notMem_object {ms : List (String × String)}
    (values : ∀ m ∈ ms, '\n' ∉ m.2.toList) : '\n' ∉ (object ms).toList := by
  have body : '\n' ∉ (",".intercalate (ms.map fun m => quoted m.1 ++ ":" ++ m.2)).toList := by
    apply lineFeed_notMem_intercalate
    rw [List.forall_mem_map]
    intro m mem
    simp [lineFeed_notMem_quoted, values m mem]
  rw [object, String.toList_append, String.toList_append]
  simpa using body

end SignedUpgrade.Json
