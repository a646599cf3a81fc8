import Mathlib.Tactic.Lemma
import Mathlib.Tactic.SplitIfs
import SignedUpgrade.Text.Utf8

/-!
# Reading bytes as text

The bytes of a text are read as that text, whatever stands behind them.

* `decodeFrom_utf8EncodeChar` — one character, byte by byte;
* `decode_encodeChars` — the characters of a text;
* `decodeFrom_append_ascii` — what an ASCII byte ends is read on its own;
* `decodeLossy_append_encode` — a text behind bytes that are empty or end with a line feed.
-/

namespace SignedUpgrade.Text.Utf8

/-! ## Byte by byte -/

variable {b : UInt8} {bits low high more : Nat} {r : Bytes}

lemma decodeFrom_ascii (small : b.toNat < 0x80) :
    decodeFrom .between (b :: r) = some (Char.ofNat b.toNat) :: decodeFrom .between r := by
  simp [decodeFrom, step, start, small]

lemma decodeFrom_lead {l : Lead} (large : 0x80 ≤ b.toNat) (lead : lead? b = some l) :
    decodeFrom .between (b :: r) = decodeFrom (.inside l.bits l.low l.high l.more) r := by
  simp [decodeFrom, step, start, Nat.not_lt.2 large, lead]

lemma decodeFrom_next (next : within low high b = true) :
    decodeFrom (.inside bits low high (more + 1)) (b :: r)
      = decodeFrom (.inside (bits * 64 + (b.toNat - 0x80)) 0x80 0xBF more) r := by
  simp [decodeFrom, step, next]

lemma decodeFrom_last (last : within low high b = true) :
    decodeFrom (.inside bits low high 0) (b :: r)
      = some (Char.ofNat (bits * 64 + (b.toNat - 0x80))) :: decodeFrom .between r := by
  simp [decodeFrom, step, last]

/-! ## First bytes -/

lemma toNat_ofNat {n : Nat} (small : n < 256) : (UInt8.ofNat n).toNat = n := by
  rw [UInt8.toNat_ofNat']
  omega

lemma within_ofNat {n : Nat} (small : n < 256) (from_ : low ≤ n) (upTo : n ≤ high) :
    within low high (UInt8.ofNat n) = true := by
  simp [within, toNat_ofNat small, from_, upTo]

/-- A byte between two others in the middle of a character. -/
lemma within_rest (n : Nat) : within 0x80 0xBF (UInt8.ofNat (n % 0x40 + 0x80)) = true :=
  within_ofNat (by omega) (by omega) (by omega)

/-- The first byte of a character of two bytes. -/
lemma lead_two {v : Nat} (large : 0x80 ≤ v) (small : v < 0x800) :
    lead? (UInt8.ofNat (v / 64 % 0x20 + 0xC0)) = some ⟨v / 64, 0x80, 0xBF, 0⟩ := by
  have number : (UInt8.ofNat (v / 64 % 0x20 + 0xC0)).toNat = v / 64 + 0xC0 := by
    rw [toNat_ofNat] <;> omega
  have first : 2 ≤ v / 64 ∧ v / 64 < 0x20 := by omega
  generalize UInt8.ofNat (v / 64 % 0x20 + 0xC0) = b at number ⊢
  simp [lead?, within, number]
  omega

/-- The first byte of a character of three bytes, and what it says about the second one. -/
lemma lead_three {v : Nat} (large : 0x800 ≤ v) (small : v < 0x10000)
    (scalar : v < 0xD800 ∨ 0xE000 ≤ v) : ∃ low high,
      lead? (UInt8.ofNat (v / 4096 % 0x10 + 0xE0)) = some ⟨v / 4096, low, high, 1⟩
        ∧ within low high (UInt8.ofNat (v / 64 % 0x40 + 0x80)) = true := by
  have number : (UInt8.ofNat (v / 4096 % 0x10 + 0xE0)).toNat = v / 4096 + 0xE0 := by
    rw [toNat_ofNat] <;> omega
  have few : v / 4096 < 0x10 := by omega
  generalize UInt8.ofNat (v / 4096 % 0x10 + 0xE0) = b at number ⊢
  by_cases first : v / 4096 = 0
  · refine ⟨0xA0, 0xBF, ?_, within_ofNat (by omega) (by omega) (by omega)⟩
    simp [lead?, within, number, first]
  · by_cases surrogates : v / 4096 = 0xD
    · refine ⟨0x80, 0x9F, ?_, within_ofNat (by omega) (by omega) (by omega)⟩
      simp [lead?, within, number, surrogates]
    · refine ⟨0x80, 0xBF, ?_, within_rest _⟩
      simp [lead?, within, number, first, surrogates]
      omega

/-- The first byte of a character of four bytes, and what it says about the second one. -/
lemma lead_four {v : Nat} (large : 0x10000 ≤ v) (small : v < 0x110000) : ∃ low high,
      lead? (UInt8.ofNat (v / 262144 % 0x08 + 0xF0)) = some ⟨v / 262144, low, high, 2⟩
        ∧ within low high (UInt8.ofNat (v / 4096 % 0x40 + 0x80)) = true := by
  have number : (UInt8.ofNat (v / 262144 % 0x08 + 0xF0)).toNat = v / 262144 + 0xF0 := by
    rw [toNat_ofNat] <;> omega
  have few : v / 262144 < 5 := by omega
  generalize UInt8.ofNat (v / 262144 % 0x08 + 0xF0) = b at number ⊢
  by_cases first : v / 262144 = 0
  · refine ⟨0x90, 0xBF, ?_, within_ofNat (by omega) (by omega) (by omega)⟩
    simp [lead?, within, number, first]
  · by_cases last : v / 262144 = 4
    · refine ⟨0x80, 0x8F, ?_, within_ofNat (by omega) (by omega) (by omega)⟩
      simp [lead?, within, number, last]
    · refine ⟨0x80, 0xBF, ?_, within_rest _⟩
      simp [lead?, within, number, first, last]
      omega

/-! ## Characters -/

/-- A byte in the middle of a character adds six bits. -/
lemma bits_rest (before n : Nat) :
    before * 64 + ((UInt8.ofNat (n % 0x40 + 0x80)).toNat - 0x80) = before * 64 + n % 0x40 := by
  rw [toNat_ofNat (by omega)]
  omega

/-- The bytes of a character are read as the character, whatever follows them. -/
lemma decodeFrom_utf8EncodeChar (c : Char) (r : Bytes) :
    decodeFrom .between (String.utf8EncodeChar c ++ r) = some c :: decodeFrom .between r := by
  have scalar : c.val.toNat < 0xD800 ∨ 0xDFFF < c.val.toNat ∧ c.val.toNat < 0x110000 := c.valid
  have same : Char.ofNat c.val.toNat = c := Char.ofNat_toNat c
  unfold String.utf8EncodeChar
  generalize c.val.toNat = v at scalar same
  by_cases one : v ≤ 0x7F
  · have number : (UInt8.ofNat v).toNat = v := toNat_ofNat (by omega)
    simp only [one, if_true, List.cons_append, List.nil_append]
    rw [decodeFrom_ascii (by omega), number, same]
  by_cases two : v ≤ 0x7FF
  · simp only [one, two, if_true, if_false, List.cons_append, List.nil_append]
    rw [decodeFrom_lead (by rw [toNat_ofNat] <;> omega) (lead_two (by omega) (by omega)),
      decodeFrom_last (within_rest v), bits_rest]
    have value : v / 64 * 64 + v % 0x40 = v := by omega
    rw [value, same]
  by_cases three : v ≤ 0xFFFF
  · simp only [one, two, three, if_true, if_false, List.cons_append, List.nil_append]
    obtain ⟨low, high, lead, second⟩ := lead_three (v := v) (by omega) (by omega) (by omega)
    rw [decodeFrom_lead (by rw [toNat_ofNat] <;> omega) lead, decodeFrom_next second,
      decodeFrom_last (within_rest v), bits_rest, bits_rest]
    have value : (v / 4096 * 64 + v / 64 % 0x40) * 64 + v % 0x40 = v := by omega
    rw [value, same]
  · simp only [one, two, three, if_false, List.cons_append, List.nil_append]
    obtain ⟨low, high, lead, second⟩ := lead_four (v := v) (by omega) (by omega)
    rw [decodeFrom_lead (by rw [toNat_ofNat] <;> omega) lead, decodeFrom_next second,
      decodeFrom_next (within_rest (v / 64)), decodeFrom_last (within_rest v), bits_rest,
      bits_rest, bits_rest]
    have value : ((v / 262144 * 64 + v / 4096 % 0x40) * 64 + v / 64 % 0x40) * 64 + v % 0x40 = v := by
      omega
    rw [value, same]

/-- The bytes of a text are read as the text, whatever follows them. -/
lemma decodeFrom_encodeChars (cs : List Char) (r : Bytes) :
    decodeFrom .between (encodeChars cs ++ r) = cs.map some ++ decodeFrom .between r := by
  induction cs with
  | nil => rfl
  | cons c cs ih =>
    have first : encodeChars (c :: cs) = String.utf8EncodeChar c ++ encodeChars cs :=
      List.flatMap_cons
    rw [first, List.append_assoc, decodeFrom_utf8EncodeChar, ih]
    rfl

lemma decode_encodeChars (cs : List Char) : decode (encodeChars cs) = cs.map some := by
  have read := decodeFrom_encodeChars cs []
  rwa [List.append_nil, decodeFrom, List.append_nil] at read

lemma encode_append (s s' : String) : encode (s ++ s') = encode s ++ encode s' := by
  rw [encode, encodeChars, String.toList_append, List.flatMap_append]
  rfl

/-! ## Behind an ASCII byte -/

/-- No ASCII byte goes on with a character. -/
def State.IsSound : State → Prop
  | .between => True
  | .inside _ low _ _ => 0x80 ≤ low

lemma isSound_between : State.between.IsSound := trivial

lemma le_of_lead {l : Lead} (lead : lead? b = some l) : 0x80 ≤ l.low := by
  unfold lead? at lead
  grind

lemma isSound_start (b : UInt8) : (start b).1.IsSound := by
  unfold start
  split
  · trivial
  · split
    · exact le_of_lead (by assumption)
    · trivial

lemma isSound_step {state : State} (sound : state.IsSound) (b : UInt8) :
    (step state b).1.IsSound := by
  cases state with
  | between => exact isSound_start b
  | inside bits low high more =>
    cases next : within low high b with
    | true => cases more <;> simp [step, next, State.IsSound]
    | false => simpa [step, next] using isSound_start b

lemma decodeFrom_cons (state : State) (b : UInt8) (r : Bytes) :
    decodeFrom state (b :: r) = (step state b).2 ++ decodeFrom (step state b).1 r := by
  cases state <;> rfl

/-- An ASCII byte ends whatever stood before it. -/
lemma step_ascii {state : State} (sound : state.IsSound) (small : b.toNat < 0x80) :
    (step state b).1 = .between := by
  cases state with
  | between => simp [step, start, small]
  | inside bits low high more =>
    have low : ¬ low ≤ b.toNat := by
      have : 0x80 ≤ low := sound
      omega
    simp [step, within, low, start, small]

/-- What stands behind an ASCII byte is read on its own. -/
lemma decodeFrom_append_ascii {state : State} (sound : state.IsSound) (small : b.toNat < 0x80)
    (bytes r : Bytes) : decodeFrom state (bytes ++ [b] ++ r)
      = decodeFrom state (bytes ++ [b]) ++ decodeFrom .between r := by
  induction bytes generalizing state with
  | nil =>
    simp only [List.nil_append, List.cons_append, decodeFrom_cons, step_ascii sound small]
    rw [decodeFrom, List.append_nil]
  | cons first bytes ih =>
    have rest := ih (isSound_step sound first)
    rw [List.cons_append, List.cons_append, decodeFrom_cons, decodeFrom_cons, rest,
      List.append_assoc]

/-- What ends with an ASCII byte is read as a text that ends with the character. -/
lemma decodeFrom_concat_ascii {state : State} (sound : state.IsSound) (small : b.toNat < 0x80)
    (bytes : Bytes) : ∃ front,
      decodeFrom state (bytes ++ [b]) = front ++ [some (Char.ofNat b.toNat)] := by
  induction bytes generalizing state with
  | nil =>
    rw [List.nil_append, decodeFrom_cons, step_ascii sound small, decodeFrom, List.append_nil]
    cases state with
    | between => exact ⟨[], by simp [step, start, small]⟩
    | inside bits low high more =>
      have other : within low high b = false := by
        have : 0x80 ≤ low := sound
        simp [within]
        omega
      exact ⟨[none], by simp [step, other, start, small]⟩
  | cons first bytes ih =>
    obtain ⟨front, read⟩ := ih (isSound_step sound first)
    exact ⟨(step state first).2 ++ front, by
      rw [List.cons_append, decodeFrom_cons, read, List.append_assoc]⟩

/-- Bytes that end with a line feed are a text that does. -/
lemma getLast_decodeLossy {bytes : Bytes} (last : bytes.getLast? = some 10) :
    (decodeLossy bytes).toList.getLast? = some '\n' := by
  obtain ⟨front, rfl⟩ := List.getLast?_eq_some_iff.1 last
  obtain ⟨before, read⟩ := decodeFrom_concat_ascii isSound_between (b := 10)
    (by decide) front
  rw [decodeLossy, decode, read, String.toList_ofList, List.map_append]
  simp

/-- **A text behind bytes is read behind them,** if they are none or end with a line feed. -/
lemma decodeLossy_append_encode {bytes : Bytes} (ended : bytes = [] ∨ bytes.getLast? = some 10)
    (s : String) : decodeLossy (bytes ++ encode s) = decodeLossy bytes ++ s := by
  have read : decode (bytes ++ encode s) = decode bytes ++ s.toList.map some := by
    rw [← decode_encodeChars, ← encode]
    rcases ended with rfl | last
    · rfl
    · obtain ⟨front, rfl⟩ := List.getLast?_eq_some_iff.1 last
      exact decodeFrom_append_ascii isSound_between (by decide) front (encode s)
  rw [decodeLossy, read, List.map_append, String.ofList_append, decodeLossy, List.map_map]
  congr 1
  have shown : ((·.getD '\uFFFD') ∘ some : Char → Char) = id := rfl
  rw [shown, List.map_id, String.ofList_toList]

end SignedUpgrade.Text.Utf8
