import Mathlib.Data.List.Basic
import Mathlib.Tactic.Lemma
import SignedUpgrade.Text.Sha256

/-!
# Digests of contents in pieces

A content that arrives in pieces is mixed in block by block, wherever it was cut.  Beside the state
only the bytes of the last block are kept, so what was mixed in so far is found from the content
alone.

* `mixBytes_append` — full blocks are mixed in before the bytes behind them;
* `Progress.Holds` — what is kept of the content so far;
* `Progress.Holds.add`, `Progress.Holds.foldl` — one more piece, and any number of them;
* `Progress.Holds.digest_eq` — **the digest is that of the content**;
* `Hex.encode_lower`, `Hex.decode_encode` — bytes are shown in lower case, and can be read back.
-/

namespace SignedUpgrade.Text.Sha256

/-! ## Blocks -/

lemma length_words (bytes : Bytes) : (words bytes).length = bytes.length / 4 := by
  induction bytes using words.induct with
  | case1 a b c d r ih =>
    rw [words, List.length_cons, ih]
    simp only [List.length_cons]
    omega
  | case2 bytes short =>
    have few : bytes.length < 4 := by
      match bytes with
      | [] | [_] | [_, _] | [_, _, _] => simp
      | a :: b :: c :: d :: r => exact absurd rfl (short a b c d r)
    rw [words, List.length_nil, Nat.div_eq_of_lt few]
    exact short

/-- Words that are full are read before the bytes behind them. -/
lemma words_append {first : Bytes} (full : 4 ∣ first.length) (more : Bytes) :
    words (first ++ more) = words first ++ words more := by
  induction first using words.induct with
  | case1 a b c d r ih =>
    have rest : 4 ∣ r.length := by
      simp only [List.length_cons] at full
      omega
    simp only [List.cons_append, words, ih rest]
  | case2 first short =>
    have empty : first = [] := by
      match first with
      | [] => rfl
      | [_] | [_, _] | [_, _, _] => simp at full
      | a :: b :: c :: d :: r => exact absurd rfl (short a b c d r)
    subst empty
    rfl

/-- The words of full blocks are mixed in before the words behind them. -/
lemma mixAll_append (s : State) {count : Nat} {ws : List UInt32} (full : ws.length = 16 * count)
    (more : Nat) (vs : List UInt32) :
    mixAll s (count + more) (ws ++ vs) = mixAll (mixAll s count ws) more vs := by
  induction count generalizing s ws with
  | zero =>
    have empty : ws = [] := List.length_eq_zero_iff.1 full
    rw [empty, Nat.zero_add, List.nil_append, mixAll]
  | succ count ih =>
    have block : 16 ≤ ws.length := by omega
    have rest : (ws.drop 16).length = 16 * count := by
      rw [List.length_drop]
      omega
    rw [Nat.add_right_comm, mixAll, mixAll, List.take_append_of_le_length block,
      List.drop_append_of_le_length block, ih _ rest]

/-- Bytes of full blocks are mixed in before the bytes behind them. -/
lemma mixBytes_append (s : State) {first : Bytes} (full : 64 ∣ first.length) (more : Bytes) :
    mixBytes s (first ++ more) = mixBytes (mixBytes s first) more := by
  have blocks : (first ++ more).length / 64 = first.length / 64 + more.length / 64 := by
    rw [List.length_append]
    omega
  have filled : (words first).length = 16 * (first.length / 64) := by
    rw [length_words]
    omega
  have whole : 4 ∣ first.length := Nat.dvd_trans (by decide) full
  rw [mixBytes, blocks, words_append whole, mixAll_append s filled]
  rfl

/-! ## Progress -/

namespace Progress

/-- The number of bytes of a content that fill blocks. -/
def filled (content : Bytes) : Nat :=
  content.length / 64 * 64

/-- What is kept of a content: the state after its full blocks, the bytes behind these, and its
length. -/
structure Holds (p : Progress) (content : Bytes) : Prop where
  state : p.state = mixBytes start (content.take (filled content))
  pending : p.pending = content.drop (filled content)
  length : p.length = content.length

lemma filled_le (content : Bytes) : filled content ≤ content.length :=
  Nat.div_mul_le_self _ _

lemma length_take_filled (content : Bytes) :
    (content.take (filled content)).length = filled content := by
  rw [List.length_take, Nat.min_eq_left (filled_le content)]

/-- At the beginning nothing has arrived. -/
lemma holds_nil : Holds {} [] := ⟨rfl, rfl, rfl⟩

namespace Holds

variable {p : Progress} {content : Bytes}

/-- One more piece is kept as if it had come with the content before. -/
lemma add (h : p.Holds content) (piece : Bytes) : (p.add piece).Holds (content ++ piece) := by
  have enough := filled_le content
  have pending : p.pending ++ piece = (content ++ piece).drop (filled content) := by
    rw [h.pending, List.drop_append_of_le_length enough]
  have more : (p.pending ++ piece).length / 64 * 64 + filled content
      = filled (content ++ piece) := by
    rw [pending, List.length_drop, filled, filled, List.length_append]
    omega
  refine ⟨?_, ?_, ?_⟩
  · -- the blocks that are full now are those that were full before and the new ones
    have blocks : (content ++ piece).take (filled (content ++ piece))
        = content.take (filled content)
          ++ (p.pending ++ piece).take ((p.pending ++ piece).length / 64 * 64) := by
      rw [← more, Nat.add_comm, List.take_add, List.take_append_of_le_length enough, ← pending]
    have full : 64 ∣ (content.take (filled content)).length := by
      rw [length_take_filled]
      exact Nat.dvd_mul_left _ _
    rw [blocks, mixBytes_append start full, ← h.state]
    rfl
  · calc (p.add piece).pending
        = (p.pending ++ piece).drop ((p.pending ++ piece).length / 64 * 64) := rfl
      _ = (content ++ piece).drop (filled content + (p.pending ++ piece).length / 64 * 64) := by
        rw [← List.drop_drop, ← pending]
      _ = (content ++ piece).drop (filled (content ++ piece)) := by rw [Nat.add_comm, more]
  · calc (p.add piece).length = p.length + piece.length := rfl
      _ = (content ++ piece).length := by rw [h.length, List.length_append]

/-- Any number of pieces are kept as if they had come as one. -/
lemma foldl (h : p.Holds content) (pieces : List Bytes) :
    (pieces.foldl Progress.add p).Holds (content ++ pieces.flatten) := by
  induction pieces generalizing p content with
  | nil => simpa using h
  | cons piece pieces ih => simpa using ih (h.add piece)

/-- **The digest of a content in pieces is the digest of the content.** -/
lemma digest_eq (h : p.Holds content) : p.digest = Sha256.digest content := by
  have full : 64 ∣ (content.take (filled content)).length := by
    rw [length_take_filled]
    exact Nat.dvd_mul_left _ _
  have blocks : padded content = content.take (filled content)
      ++ (content.drop (filled content) ++ padding content.length) := by
    rw [padded, ← List.append_assoc, List.take_append_drop]
  rw [Sha256.digest, blocks, mixBytes_append start full, ← h.state, ← h.pending, ← h.length]
  rfl

end Holds

end Progress

/-- The digest of the text `abc`, as the standard gives it. -/
example : hexDigest [0x61, 0x62, 0x63]
    = "ba7816bf8f01cfea414140de5dae2223b00361a396177a9cb410ff61f20015ad" := by
  decide +kernel

end SignedUpgrade.Text.Sha256

/-! ## Digests as they are shown -/

namespace SignedUpgrade.Text.Hex

/-- Digits are lower case, and each has its value. -/
lemma digit_spec {n : Nat} (small : n < 16) :
    digit n ∈ "0123456789abcdef".toList ∧ value? (digit n) = some n := by
  have all : ∀ n : Fin 16, digit n ∈ "0123456789abcdef".toList
      ∧ value? (digit n) = some n.val := by decide
  exact all ⟨n, small⟩

/-- A text of bytes has lower-case digits only. -/
lemma encode_lower (bytes : Bytes) :
    ∀ c ∈ (encode bytes).toList, c ∈ "0123456789abcdef".toList := by
  intro c mem
  rw [encode, String.toList_ofList, List.mem_flatMap] at mem
  obtain ⟨b, _, mem⟩ := mem
  have small := b.toNat_lt
  rcases List.mem_cons.1 mem with rfl | mem
  · exact (digit_spec (by omega)).1
  · rw [List.mem_singleton.1 mem]
    exact (digit_spec (Nat.mod_lt _ (by decide))).1

/-- The bytes can be read back from their text. -/
lemma decode_encode (bytes : Bytes) : decode (encode bytes) = some bytes := by
  rw [decode, encode, String.toList_ofList]
  induction bytes with
  | nil => rfl
  | cons b bytes ih =>
    have small := b.toNat_lt
    have high := (digit_spec (n := b.toNat / 16) (by omega)).2
    have low := (digit_spec (Nat.mod_lt b.toNat (by decide : 0 < 16))).2
    have whole : b.toNat / 16 * 16 + b.toNat % 16 = b.toNat := by omega
    simp only [List.flatMap_cons, List.cons_append, List.nil_append, decodeChars, high, low,
      ih, whole, Option.bind_eq_bind, Option.bind_some, Option.pure_def]
    simp

end SignedUpgrade.Text.Hex
