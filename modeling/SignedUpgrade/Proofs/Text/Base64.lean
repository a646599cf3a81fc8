import Mathlib.Data.List.Basic
import Mathlib.Tactic.Lemma
import Mathlib.Tactic.SplitIfs
import SignedUpgrade.Text.Base64
import SignedUpgrade.Text.Octets

/-!
# Base64 is exact

Reading base64 undoes writing it, and nothing else is read: padding that is missing or too long,
bits in the last symbol that belong to no byte, and signs outside the alphabet are all refused.

* `sextets` — the values of the symbols that whole groups are written with;
* `LastGroup.of` — the last group, as the values of its symbols and the length of its padding;
* `decode_eq_ok_iff` — a text is read as some bytes exactly if they are written so;
* `decode_encodeChars_eq_ok_iff` — the same for the characters of a text.

A text is read in two parts, so both directions are told for whole groups first, then for the last
group, and put together at the offset where the last group starts.
-/

namespace SignedUpgrade.Text.Base64

/-! ## Symbols -/

lemma toNat_toUInt8 {n : Nat} (h : n < 256) : n.toUInt8.toNat = n := by
  rw [Nat.toUInt8_eq, UInt8.toNat_ofNat']
  omega

lemma toUInt8_toNat (b : UInt8) : b.toNat.toUInt8 = b := by
  rw [Nat.toUInt8_eq, UInt8.ofNat_toNat]

/-- Sixty-four symbols, each of which is read as its value. -/
lemma value?_symbol {v : Nat} (h : v < 64) : value? (symbol v) = some v := by
  have all : ∀ v : Fin 64, value? (symbol v) = some v.val := by decide
  exact all ⟨v, h⟩

lemma symbol_of_value? {b : UInt8} {v : Nat} (h : value? b = some v) : v < 64 ∧ symbol v = b := by
  have same : ∀ n : Nat, n = b.toNat → n.toUInt8 = b := by
    rintro _ rfl
    exact toUInt8_toNat b
  simp only [value?] at h
  unfold symbol
  split_ifs at h with upper lower digit plus slash <;> cases h
  · rw [if_pos (by omega)]
    exact ⟨by omega, same _ (by omega)⟩
  · rw [if_neg (by omega), if_pos (by omega)]
    exact ⟨by omega, same _ (by omega)⟩
  · rw [if_neg (by omega), if_neg (by omega), if_pos (by omega)]
    exact ⟨by omega, same _ (by omega)⟩
  · exact ⟨by omega, same 0x2B plus.symm⟩
  · exact ⟨by omega, same 0x2F slash.symm⟩

lemma symbol_ne_pad {v : Nat} (h : v < 64) : symbol v ≠ pad := by
  intro same
  have read := value?_symbol h
  rw [same] at read
  cases read

/-! ## Whole groups -/

/-- A text is read symbol by symbol. -/
lemma values_eq_ok_iff {offset : Nat} {text : Bytes} {vs : List Nat} :
    values offset text = .ok vs ↔ text = vs.map symbol ∧ ∀ v ∈ vs, v < 64 := by
  induction text generalizing offset vs with
  | nil =>
    cases vs with
    | nil => simp [values]
    | cons v vs => simp [values]
  | cons b r ih =>
    unfold values
    cases read : value? b with
    | none =>
      constructor
      · rintro ⟨⟩
      · rintro ⟨text, small⟩
        cases vs with
        | nil => cases text
        | cons v vs =>
          obtain ⟨rfl, _⟩ := List.cons.inj text
          rw [value?_symbol (small v List.mem_cons_self)] at read
          cases read
    | some v =>
      obtain ⟨small, rfl⟩ := symbol_of_value? read
      constructor
      · intro h
        cases rest : values (offset + 1) r with
        | error fault => simp [rest, bind, Except.bind] at h
        | ok ws =>
          simp only [rest, bind, Except.bind, pure, Except.pure, Except.ok.injEq] at h
          obtain ⟨text, smaller⟩ := ih.1 rest
          rw [← h, text]
          exact ⟨rfl, List.forall_mem_cons.2 ⟨small, smaller⟩⟩
      · rintro ⟨text, all⟩
        cases vs with
        | nil => cases text
        | cons w ws =>
          obtain ⟨same, rest⟩ := List.cons.inj text
          have value : v = w := by
            have read' := value?_symbol (all w List.mem_cons_self)
            rw [← same, read] at read'
            exact Option.some.inj read'
          rw [ih.2 ⟨rest, fun x mem => all x (List.mem_cons_of_mem _ mem)⟩, value]
          rfl

/-- The values of the symbols that whole groups of three bytes are written with. -/
def sextets : Bytes → List Nat
  | a :: b :: c :: r =>
    a.toNat / 4 :: (a.toNat % 4 * 16 + b.toNat / 16) :: (b.toNat % 16 * 4 + c.toNat / 64)
      :: c.toNat % 64 :: sextets r
  | _ => []

/-- Three bytes are four values. -/
lemma three_bytes (a b c : UInt8) :
    a.toNat / 4 < 64 ∧ a.toNat % 4 * 16 + b.toNat / 16 < 64 ∧ b.toNat % 16 * 4 + c.toNat / 64 < 64
      ∧ c.toNat % 64 < 64 := by
  have := a.toNat_lt
  have := b.toNat_lt
  have := c.toNat_lt
  omega

lemma sextets_small (bytes : Bytes) : ∀ v ∈ sextets bytes, v < 64 := by
  fun_induction sextets bytes with
  | case1 a b c r ih =>
    obtain ⟨first, second, third, fourth⟩ := three_bytes a b c
    intro v mem
    simp only [List.mem_cons] at mem
    rcases mem with rfl | rfl | rfl | rfl | mem
    · exact first
    · exact second
    · exact third
    · exact fourth
    · exact ih v mem
  | case2 => simp

/-- Whole groups are written as the symbols of their values. -/
lemma encode_eq_sextets {bytes : Bytes} (whole : bytes.length % 3 = 0) :
    encode bytes = (sextets bytes).map symbol := by
  fun_induction sextets bytes with
  | case1 a b c r ih =>
    have rest : r.length % 3 = 0 := by
      simp only [List.length_cons] at whole
      omega
    rw [encode, ih rest]
    rfl
  | case2 bytes short =>
    match bytes with
    | [] => rfl
    | [_] => simp at whole
    | [_, _] => simp at whole
    | a :: b :: c :: r => exact absurd rfl (short a b c r)

/-- The values of whole groups are put together again. -/
lemma join_sextets {bytes : Bytes} (whole : bytes.length % 3 = 0) :
    join (sextets bytes) = bytes := by
  fun_induction sextets bytes with
  | case1 a b c r ih =>
    have rest : r.length % 3 = 0 := by
      simp only [List.length_cons] at whole
      omega
    have := a.toNat_lt
    have := b.toNat_lt
    have := c.toNat_lt
    have first : a.toNat / 4 * 4 + (a.toNat % 4 * 16 + b.toNat / 16) / 16 = a.toNat := by omega
    have second : (a.toNat % 4 * 16 + b.toNat / 16) % 16 * 16
        + (b.toNat % 16 * 4 + c.toNat / 64) / 4 = b.toNat := by omega
    have third : (b.toNat % 16 * 4 + c.toNat / 64) % 4 * 64 + c.toNat % 64 = c.toNat := by omega
    rw [join, ih rest, first, second, third, toUInt8_toNat, toUInt8_toNat, toUInt8_toNat]
  | case2 bytes short =>
    match bytes with
    | [] => rfl
    | [_] => simp at whole
    | [_, _] => simp at whole
    | a :: b :: c :: r => exact absurd rfl (short a b c r)

/-- Groups of four values are those of the bytes that they are put together to. -/
lemma sextets_join {vs : List Nat} (whole : vs.length % 4 = 0) (small : ∀ v ∈ vs, v < 64) :
    sextets (join vs) = vs ∧ (join vs).length % 3 = 0 := by
  fun_induction join vs with
  | case1 a b c d r ih =>
    simp only [List.mem_cons, forall_eq_or_imp] at small
    obtain ⟨ha, hb, hc, hd, small⟩ := small
    have rest : r.length % 4 = 0 := by
      simp only [List.length_cons] at whole
      omega
    obtain ⟨values, length⟩ := ih rest small
    have first := toNat_toUInt8 (n := a * 4 + b / 16) (by omega)
    have second := toNat_toUInt8 (n := b % 16 * 16 + c / 4) (by omega)
    have third := toNat_toUInt8 (n := c % 4 * 64 + d) (by omega)
    refine ⟨?_, ?_⟩
    · rw [sextets, first, second, third, values]
      congr 1
      · omega
      · congr 1
        · omega
        · congr 1
          · omega
          · congr 1
            omega
    · simp only [List.length_cons]
      omega
  | case2 vs short =>
    match vs with
    | [] => simp [sextets]
    | [_] => simp at whole
    | [_, _] => simp at whole
    | [_, _, _] => simp at whole
    | a :: b :: c :: d :: r => exact absurd rfl (short a b c d r)

/-- Whole groups are written independently of what follows them. -/
lemma encode_append {bytes : Bytes} (whole : bytes.length % 3 = 0) (more : Bytes) :
    encode (bytes ++ more) = encode bytes ++ encode more := by
  fun_induction encode bytes with
  | case1 => rfl
  | case2 => simp at whole
  | case3 => simp at whole
  | case4 a b c r ih =>
    have rest : r.length % 3 = 0 := by
      simp only [List.length_cons] at whole
      omega
    simp only [List.cons_append, encode, ih rest]

/-! ## The last group -/

/-- The last group that consists of the symbols of values and then padding. -/
def LastGroup.of (vs : List Nat) (padding : Nat) : LastGroup where
  symbols := vs.map fun v => (symbol v, v)
  padding

/-- A group that is read consists of symbols and then padding. -/
lemma lastGroup_ok {offset padding : Nat} {text : Bytes} {vs : List Nat} {last : LastGroup}
    (h : lastGroup offset (.of vs padding) text = .ok last) :
    ∃ more padding', last = .of (vs ++ more) (padding + padding')
      ∧ text = more.map symbol ++ List.replicate padding' pad ∧ (∀ v ∈ more, v < 64)
      ∧ (padding ≠ 0 → more = []) := by
  induction text generalizing vs padding with
  | nil =>
    cases h
    exact ⟨[], 0, by simp, rfl, by simp, fun _ => rfl⟩
  | cons b r ih =>
    simp only [lastGroup] at h
    by_cases padded : b = pad
    · rw [if_pos padded] at h
      split at h
      · cases h
      · have next : { LastGroup.of vs padding with
              padding := (LastGroup.of vs padding).padding + 1 }
            = LastGroup.of vs (padding + 1) := rfl
        rw [next] at h
        obtain ⟨more, padding', rfl, text, _, none⟩ := ih h
        have nothing : more = [] := none (by simp)
        refine ⟨[], padding' + 1, ?_, ?_, by simp, fun _ => rfl⟩
        · rw [nothing, Nat.add_assoc, Nat.add_comm 1]
        · rw [text, padded, nothing]
          rfl
    · rw [if_neg padded] at h
      split at h
      · cases h
      · rename_i unpadded
        split at h
        · cases h
        · rename_i v read
          obtain ⟨small, rfl⟩ := symbol_of_value? read
          have next : { LastGroup.of vs padding with
                symbols := (LastGroup.of vs padding).symbols ++ [(symbol v, v)] }
              = LastGroup.of (vs ++ [v]) padding := by simp [LastGroup.of]
          rw [next] at h
          obtain ⟨more, padding', rfl, text, all, _⟩ := ih h
          refine ⟨v :: more, padding', by simp, by simp [text], ?_, fun h => absurd h unpadded⟩
          exact List.forall_mem_cons.2 ⟨small, all⟩

/-- Padding that follows at least two symbols is read. -/
lemma lastGroup_pads (offset padding : Nat) {vs : List Nat} (two : 2 ≤ vs.length) (more : Nat) :
    lastGroup offset (.of vs padding) (List.replicate more pad)
      = .ok (.of vs (padding + more)) := by
  induction more generalizing padding with
  | zero => rfl
  | succ more ih =>
    have late : ¬ offset + vs.length + padding < offset + 2 := by omega
    have next : { LastGroup.of vs padding with padding := (LastGroup.of vs padding).padding + 1 }
        = LastGroup.of vs (padding + 1) := rfl
    rw [List.replicate_succ, lastGroup, if_pos rfl, if_neg (by simpa [LastGroup.of] using late),
      next, ih (padding + 1), Nat.add_assoc, Nat.add_comm 1]

/-- Symbols and the padding after them are read. -/
lemma lastGroup_of (offset : Nat) {vs more : List Nat} (small : ∀ v ∈ more, v < 64) (padding : Nat)
    (two : 2 ≤ (vs ++ more).length) :
    lastGroup offset (.of vs 0) (more.map symbol ++ List.replicate padding pad)
      = .ok (.of (vs ++ more) padding) := by
  induction more generalizing vs with
  | nil => simpa using lastGroup_pads offset 0 (by simpa using two) padding
  | cons v more ih =>
    obtain ⟨first, others⟩ := List.forall_mem_cons.1 small
    have next : { LastGroup.of vs 0 with
          symbols := (LastGroup.of vs 0).symbols ++ [(symbol v, v)] }
        = LastGroup.of (vs ++ [v]) 0 := by simp [LastGroup.of]
    rw [List.map_cons, List.cons_append, lastGroup, if_neg (symbol_ne_pad first),
      if_neg (by simp [LastGroup.of]), value?_symbol first]
    simp only [next]
    rw [ih others (by simpa using two)]
    simp

/-- The last group of a text is read as the bytes that it is written for. -/
lemma finish_ok {offset padding : Nat} {vs : List Nat} {bytes : Bytes} (small : ∀ v ∈ vs, v < 64)
    (few : vs.length + padding ≤ 4) (h : finish offset (.of vs padding) = .ok bytes) :
    vs.map symbol ++ List.replicate padding pad = encode bytes := by
  have length : (LastGroup.of vs padding).symbols.length = vs.length := by simp [LastGroup.of]
  simp only [finish, length] at h
  split at h
  · cases h
  · rename_i two
    split at h
    · cases h
    · rename_i full
      have four : vs.length + padding = 4 := by
        simp only [LastGroup.of] at full
        omega
      match vs with
      | [] | [_] => simp at two
      | [a, b] =>
        simp only [List.mem_cons, List.not_mem_nil, or_false, forall_eq_or_imp, forall_eq] at small
        have two : padding = 2 := by
          simp only [List.length_cons, List.length_nil] at four
          omega
        simp only [LastGroup.of, List.map_cons, List.map_nil] at h
        split at h
        · cases h
        · cases h
          have byte := toNat_toUInt8 (n := a * 4 + b / 16) (by omega)
          have high : (a * 4 + b / 16) / 4 = a := by omega
          have low : (a * 4 + b / 16) % 4 * 16 = b := by omega
          rw [encode, byte, high, low, two]
          rfl
      | [a, b, c] =>
        simp only [List.mem_cons, List.not_mem_nil, or_false, forall_eq_or_imp, forall_eq] at small
        have one : padding = 1 := by
          simp only [List.length_cons, List.length_nil] at four
          omega
        simp only [LastGroup.of, List.map_cons, List.map_nil] at h
        split at h
        · cases h
        · cases h
          have first := toNat_toUInt8 (n := a * 4 + b / 16) (by omega)
          have second := toNat_toUInt8 (n := b % 16 * 16 + c / 4) (by omega)
          have high : (a * 4 + b / 16) / 4 = a := by omega
          have middle : (a * 4 + b / 16) % 4 * 16 + (b % 16 * 16 + c / 4) / 16 = b := by omega
          have low : (b % 16 * 16 + c / 4) % 16 * 4 = c := by omega
          rw [encode, first, second, high, middle, low, one]
          rfl
      | [a, b, c, d] =>
        have none : padding = 0 := by
          simp only [List.length_cons, List.length_nil] at four
          omega
        cases h
        obtain ⟨values, whole⟩ := @sextets_join [a, b, c, d] (by simp) small
        rw [none]
        exact (congrArg (·.map symbol) values).symm.trans (encode_eq_sextets whole).symm
      | _ :: _ :: _ :: _ :: _ :: _ =>
        simp only [List.length_cons] at few
        omega

/-- One to three bytes are read back from the last group that they are written as. -/
lemma finish_encode (offset : Nat) {bytes : Bytes} (filled : bytes ≠ []) (few : bytes.length ≤ 3) :
    ∃ vs padding, encode bytes = vs.map symbol ++ List.replicate padding pad
      ∧ (∀ v ∈ vs, v < 64) ∧ 2 ≤ vs.length ∧ finish offset (.of vs padding) = .ok bytes := by
  match bytes with
  | [] => exact absurd rfl filled
  | [a] =>
    have := a.toNat_lt
    have low : a.toNat % 4 * 16 % 16 = 0 := by omega
    have byte : a.toNat / 4 * 4 + a.toNat % 4 * 16 / 16 = a.toNat := by omega
    have ends : ∀ x y, finish offset (.of [x, y] 2)
        = if y % 16 ≠ 0 then .error (.lastSymbol (symbol y) (offset + 1))
          else .ok [(x * 4 + y / 16).toUInt8] := by simp [finish, LastGroup.of]
    refine ⟨[a.toNat / 4, a.toNat % 4 * 16], 2, rfl, ?_, by simp, ?_⟩
    · simp only [List.mem_cons, List.not_mem_nil, or_false, forall_eq_or_imp, forall_eq]
      omega
    · rw [ends, if_neg (by omega), byte, toUInt8_toNat]
  | [a, b] =>
    have := a.toNat_lt
    have := b.toNat_lt
    have low : b.toNat % 16 * 4 % 4 = 0 := by omega
    have first : a.toNat / 4 * 4 + (a.toNat % 4 * 16 + b.toNat / 16) / 16 = a.toNat := by omega
    have second : (a.toNat % 4 * 16 + b.toNat / 16) % 16 * 16 + b.toNat % 16 * 4 / 4 = b.toNat := by
      omega
    have ends : ∀ x y z, finish offset (.of [x, y, z] 1)
        = if z % 4 ≠ 0 then .error (.lastSymbol (symbol z) (offset + 2))
          else .ok [(x * 4 + y / 16).toUInt8, (y % 16 * 16 + z / 4).toUInt8] := by
      simp [finish, LastGroup.of]
    refine ⟨[a.toNat / 4, a.toNat % 4 * 16 + b.toNat / 16, b.toNat % 16 * 4], 1, rfl, ?_, by simp,
      ?_⟩
    · simp only [List.mem_cons, List.not_mem_nil, or_false, forall_eq_or_imp, forall_eq]
      omega
    · rw [ends, if_neg (by omega), first, second, toUInt8_toNat, toUInt8_toNat]
  | [a, b, c] =>
    have whole : [a, b, c].length % 3 = 0 := by simp
    refine ⟨sextets [a, b, c], 0, by simp [encode_eq_sextets whole], sextets_small _,
      by simp [sextets], ?_⟩
    have read := join_sextets whole
    simp only [sextets] at read ⊢
    simp [finish, LastGroup.of, read]
  | _ :: _ :: _ :: _ :: _ =>
    simp only [List.length_cons] at few
    omega

/-! ## Whole texts -/

/-- A text is read if no stray byte stands at its end, all groups but the last one are symbols, and
the last one is a group. -/
lemma decode_of_filled {text bytes : Bytes} (filled : text ≠ []) :
    decode text = .ok bytes ↔ strayLast? text = none ∧ ∃ vs last tail,
      values 0 (text.take (bodyLength text.length)) = .ok vs
      ∧ lastGroup (bodyLength text.length) {} (text.drop (bodyLength text.length)) = .ok last
      ∧ finish (bodyLength text.length) last = .ok tail ∧ bytes = join vs ++ tail := by
  obtain ⟨b, r, rfl⟩ := List.exists_cons_of_ne_nil filled
  cases stray : strayLast? (b :: r) with
  | some s => simp [decode, stray]
  | none =>
    simp only [decode, stray, true_and, bind, Except.bind]
    generalize bodyLength (b :: r).length = offset
    cases values 0 ((b :: r).take offset) with
    | error fault => simp
    | ok vs =>
      cases lastGroup offset {} ((b :: r).drop offset) with
      | error fault => simp
      | ok last =>
        cases ending : finish offset last with
        | error fault => simp [ending]
        | ok tail => simp [ending, pure, Except.pure, eq_comm]

/-- What is read is what the text was written for. -/
lemma eq_encode_of_decode {text bytes : Bytes} (h : decode text = .ok bytes) :
    text = encode bytes := by
  by_cases empty : text = []
  · subst empty
    cases h
    rfl
  · obtain ⟨_, vs, last, tail, body, group, ending, rfl⟩ := (decode_of_filled empty).1 h
    have offset : bodyLength text.length % 4 = 0 ∧ bodyLength text.length ≤ text.length
        ∧ text.length ≤ bodyLength text.length + 4 := by
      unfold bodyLength
      omega
    obtain ⟨symbols, small⟩ := values_eq_ok_iff.1 body
    obtain ⟨more, padding, rfl, rest, smaller, _⟩ := @lastGroup_ok _ 0 _ [] _ group
    have length : vs.length = bodyLength text.length := by
      have same := congrArg List.length symbols
      simp only [List.length_take, List.length_map] at same
      omega
    obtain ⟨sixes, whole⟩ := sextets_join (by omega) small
    have few : more.length + padding ≤ 4 := by
      have same := congrArg List.length rest
      simp only [List.length_drop, List.length_append, List.length_map, List.length_replicate]
        at same
      omega
    rw [List.nil_append, Nat.zero_add] at ending
    have written := finish_ok smaller few ending
    calc text = text.take (bodyLength text.length) ++ text.drop (bodyLength text.length) :=
          (List.take_append_drop _ _).symm
      _ = encode (join vs) ++ encode tail := by
          rw [symbols, rest, written, encode_eq_sextets whole, sixes]
      _ = encode (join vs ++ tail) := (encode_append whole tail).symm

/-- Three bytes take four symbols, and so do fewer bytes at the end. -/
lemma length_encode (bytes : Bytes) : (encode bytes).length = (bytes.length + 2) / 3 * 4 := by
  fun_induction encode bytes with
  | case1 | case2 | case3 => simp
  | case4 a b c r ih =>
    simp only [List.length_cons, ih]
    omega

/-- What is written is read back. -/
lemma decode_encode (bytes : Bytes) : decode (encode bytes) = .ok bytes := by
  by_cases empty : bytes = []
  · subst empty
    rfl
  · -- the last group is written for one to three bytes, even if there are whole groups only
    obtain ⟨body, tail, rfl, whole, filled, few⟩ : ∃ body tail, bytes = body ++ tail
        ∧ body.length % 3 = 0 ∧ tail ≠ [] ∧ tail.length ≤ 3 := by
      have some_ := List.length_pos_iff.2 empty
      refine ⟨bytes.take ((bytes.length - 1) / 3 * 3), bytes.drop ((bytes.length - 1) / 3 * 3),
        (List.take_append_drop _ _).symm, ?_, ?_, ?_⟩
      · rw [List.length_take]
        omega
      · rw [ne_eq, List.drop_eq_nil_iff]
        omega
      · rw [List.length_drop]
        omega
    have groups : (encode (body ++ tail)).length = (encode body).length + 4 := by
      rw [encode_append whole, List.length_append, length_encode tail]
      have := List.length_pos_iff.2 filled
      omega
    have offset : bodyLength (encode (body ++ tail)).length = (encode body).length := by
      have := length_encode body
      unfold bodyLength
      omega
    have cut : (encode (body ++ tail)).take (encode body).length = encode body
        ∧ (encode (body ++ tail)).drop (encode body).length = encode tail := by
      rw [encode_append whole]
      exact ⟨List.take_left, List.drop_left⟩
    obtain ⟨vs, padding, written, small, two, ending⟩ :=
      finish_encode (encode body).length filled few
    refine (decode_of_filled ?_).2 ⟨?_, sextets body, .of vs padding, tail, ?_, ?_, ?_, ?_⟩
    · intro empty
      rw [empty] at groups
      simp at groups
    · have := length_encode body
      rw [strayLast?, if_neg (by omega)]
    · rw [offset, cut.1]
      exact values_eq_ok_iff.2 ⟨encode_eq_sextets whole, sextets_small body⟩
    · rw [offset, cut.2, written]
      exact @lastGroup_of _ [] _ small padding two
    · rw [offset]
      exact ending
    · rw [join_sextets whole]

/-- **A text is read as some bytes exactly if these are written as this text.** -/
theorem decode_eq_ok_iff {text bytes : Bytes} : decode text = .ok bytes ↔ text = encode bytes := by
  constructor
  · exact eq_encode_of_decode
  · rintro rfl
    exact decode_encode bytes

/-- Bytes that are written alike are the same. -/
lemma encode_injective {bytes other : Bytes} (h : encode bytes = encode other) : bytes = other := by
  have read := decode_encode bytes
  rw [h, decode_encode other] at read
  exact (Except.ok.inj read).symm

/-! ## Texts as characters -/

lemma utf8EncodeChar_ascii {c : Char} (h : c.toNat < 0x80) :
    String.utf8EncodeChar c = [c.toNat.toUInt8] := by
  have small : c.val.toNat ≤ 0x7F := Nat.le_of_lt_succ h
  rw [String.utf8EncodeChar, if_pos small]
  rfl

/-- No byte of a character outside ASCII is the byte of an ASCII character. -/
lemma le_of_mem_utf8EncodeChar {c : Char} (h : 0x80 ≤ c.toNat) {b : UInt8}
    (mem : b ∈ String.utf8EncodeChar c) : 0x80 ≤ b.toNat := by
  have large : ¬ c.val.toNat ≤ 0x7F := Nat.not_le_of_lt h
  rw [String.utf8EncodeChar, if_neg large] at mem
  split_ifs at mem
  all_goals
    simp only [List.mem_cons, List.not_mem_nil, or_false] at mem
    rcases mem with rfl | rfl | rfl | rfl
    all_goals
      rw [UInt8.toNat_ofNat']
      omega

lemma utf8EncodeChar_ne_nil (c : Char) : String.utf8EncodeChar c ≠ [] := by
  intro empty
  have length := congrArg List.length empty
  rw [String.length_utf8EncodeChar, List.length_nil] at length
  exact absurd length (Nat.ne_of_gt c.utf8Size_pos)

/-- Only one text has some given ASCII bytes. -/
lemma encodeChars_eq_iff {cs : List Char} {bytes : Bytes} (ascii : ∀ b ∈ bytes, b.toNat < 0x80) :
    Utf8.encodeChars cs = bytes ↔ cs = bytes.map fun b => Char.ofNat b.toNat := by
  constructor
  · rintro rfl
    have all : ∀ c ∈ cs, c.toNat < 0x80 := by
      intro c mem
      obtain ⟨b, first⟩ := List.exists_mem_of_ne_nil _ (utf8EncodeChar_ne_nil c)
      have small := ascii b (List.mem_flatMap.2 ⟨c, mem, first⟩)
      refine Nat.lt_of_not_le fun large => ?_
      have := le_of_mem_utf8EncodeChar large first
      omega
    rw [Utf8.encodeChars, List.map_flatMap]
    symm
    calc cs.flatMap (fun c => (String.utf8EncodeChar c).map fun b => Char.ofNat b.toNat)
        = cs.flatMap (fun c => [c]) := by
          refine List.flatMap_congr fun c mem => ?_
          have small := all c mem
          rw [utf8EncodeChar_ascii small, List.map_singleton, toNat_toUInt8 (by omega),
            Char.ofNat_toNat]
      _ = cs := List.flatMap_singleton' cs
  · rintro rfl
    rw [Utf8.encodeChars, List.flatMap_map]
    calc bytes.flatMap (fun b => String.utf8EncodeChar (Char.ofNat b.toNat))
        = bytes.flatMap (fun b => [b]) := by
          refine List.flatMap_congr fun b mem => ?_
          have number := Octets.toNat_ofNat_toNat b
          rw [utf8EncodeChar_ascii (by rw [number]; exact ascii b mem), number,
            toUInt8_toNat]
      _ = bytes := List.flatMap_singleton' bytes

/-- A property of padding and of the sixty-four symbols is one of all that is written. -/
lemma forall_mem_encode {p : UInt8 → Prop} (padding : p pad) (symbols : ∀ v : Fin 64, p (symbol v))
    (bytes : Bytes) : ∀ b ∈ encode bytes, p b := by
  have all : ∀ v, p (symbol v) := by
    intro v
    by_cases small : v < 64
    · exact symbols ⟨v, small⟩
    · have last : symbol v = symbol (63 : Fin 64) := by
        unfold symbol
        rw [if_neg (by omega), if_neg (by omega), if_neg (by omega), if_neg (by omega)]
        rfl
      rw [last]
      exact symbols 63
  fun_induction encode bytes with
  | case1 => simp
  | case2 | case3 => simp [all, padding]
  | case4 a b c r ih => simpa [all] using ih

/-- **The bytes of a text are read as base64 exactly if the text is the written form.** -/
theorem decode_encodeChars_eq_ok_iff {cs : List Char} {bytes : Bytes} :
    decode (Utf8.encodeChars cs) = .ok bytes ↔ cs = (encodeString bytes).toList := by
  have ascii : ∀ b ∈ encode bytes, b.toNat < 0x80 := forall_mem_encode (by decide) (by decide) bytes
  rw [decode_eq_ok_iff, encodeChars_eq_iff ascii, encodeString,
    String.toList_ofList]

end SignedUpgrade.Text.Base64
