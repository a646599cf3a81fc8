import Mathlib.Data.List.Basic
import Mathlib.Tactic.Lemma
import Mathlib.Tactic.NthRewrite
import SignedUpgrade.Proofs.Text.Base64
import SignedUpgrade.Proofs.Text.Trimming
import SignedUpgrade.Signature.TrustedKey

/-!
# The text of a key

A key is supplied as base64, bare or in armour, broken over lines and indented as its author likes.
All of this is layout; what is left without it must be the base64 text of the key and nothing else.

* `TrustedKey.held` — what one line holds of a key's text;
* `TrustedKey.Holds` — the ways in which a line may hold a piece of a key's text;
* `TrustedKey.Lays` — the ways in which a text may be laid out over lines;
* `TrustedKey.parse_exact` — the main statement: a text is read as a key exactly if it is a layout
  of the key's base64 text, and the key is not empty.
-/

namespace SignedUpgrade

open Text

namespace TrustedKey

/-! ## What lines hold -/

/-- What a line holds of a key's text. -/
def held (line : List Char) : List Char :=
  if isArmour (trim line) then [] else trim line

/-- What is left of a text is what its lines hold, where a last line may be empty. -/
lemma body_eq_held (cs : List Char) :
    body cs = (segments cs).1.flatMap held ++ held (segments cs).2 := by
  have kept : ∀ ls : List (List Char),
      ((ls.map trim).filter (!isArmour ·)).flatten = ls.flatMap held := by
    intro ls
    induction ls with
    | nil => rfl
    | cons line ls ih =>
      rw [List.map_cons, List.flatMap_cons, ← ih, held, List.filter_cons]
      cases isArmour (trim line) <;> simp
  have ends : ∀ ls : List (List Char),
      (ls.map dropCarriageReturn).flatMap held = ls.flatMap held := by
    intro ls
    rw [List.flatMap_map]
    exact List.flatMap_congr fun line _ => by rw [held, held, trim_dropCarriageReturn]
  rw [body, kept, lines]
  split
  · rename_i ended cut
    rw [cut, ends]
    simp [held, trim, trimStart, trimEnd, isArmour]
  · rename_i ended rest _ cut
    rw [cut, List.flatMap_append, ends]
    simp

lemma body_of_notMem {line : List Char} (h : '\n' ∉ line) : body line = held line := by
  rw [body_eq_held, segments_of_notMem h]
  rfl

lemma body_append {line : List Char} (h : '\n' ∉ line) (rest : List Char) :
    body (line ++ '\n' :: rest) = held line ++ body rest := by
  rw [body_eq_held, body_eq_held, segments_append h]
  simp

/-! ## Layouts -/

/-- How a line may hold a piece of a key's text: as armour, which holds none, or as the piece
itself.  Both may be indented, and blanks may follow, among them the carriage return of a line
end. -/
inductive Holds : List Char → List Char → Prop where
  | armour {indent : List Char} (blank : ∀ c ∈ indent, isBlank c = true) (label : List Char) :
    Holds (indent ++ ['-', '-', '-', '-', '-'] ++ label) []
  | piece {indent piece rest : List Char} (blank : ∀ c ∈ indent, isBlank c = true)
    (dense : ∀ c ∈ piece, isBlank c = false ∧ c ≠ '-') (blank' : ∀ c ∈ rest, isBlank c = true) :
    Holds (indent ++ piece ++ rest) piece

/-- How a text may be laid out: broken over lines anywhere, with armour wherever a line may
stand. -/
inductive Lays : List Char → List Char → Prop where
  | last {line piece : List Char} (whole : '\n' ∉ line) (holds : Holds line piece) : Lays line piece
  | line {line piece text content : List Char} (whole : '\n' ∉ line) (holds : Holds line piece)
    (rest : Lays text content) : Lays (line ++ '\n' :: text) (piece ++ content)

lemma Holds.held_eq {line piece : List Char} (h : Holds line piece) : held line = piece := by
  cases h with
  | armour blank label =>
    have hyphen : isBlank '-' = false := by decide
    have hyphens : isArmour (trim (['-', '-', '-', '-', '-'] ++ label)) = true :=
      List.isPrefixOf_iff_prefix.2 (prefix_trim (by simp [hyphen]) label)
    have same := trim_between blank (List.forall_mem_nil _) (['-', '-', '-', '-', '-'] ++ label)
    rw [List.append_nil, ← List.append_assoc] at same
    rw [held, same, if_pos hyphens]
  | piece blank dense blank' =>
    have plain : isArmour piece ≠ true := by
      intro armour
      obtain ⟨label, rfl⟩ := List.isPrefixOf_iff_prefix.1 armour
      exact absurd rfl (dense '-' (by simp)).2
    rw [held, trim_between blank blank', trim_of_dense fun c mem => (dense c mem).1,
      if_neg plain]

lemma Lays.body_eq {text content : List Char} (h : Lays text content) : body text = content := by
  induction h with
  | last whole holds => rw [body_of_notMem whole, holds.held_eq]
  | line whole holds rest ih => rw [body_append whole, holds.held_eq, ih]

/-- A line holds what is left of it, unless that has blanks or hyphens in it. -/
lemma holds_held {line : List Char} (dense : ∀ c ∈ held line, isBlank c = false ∧ c ≠ '-') :
    Holds line (held line) := by
  obtain ⟨front, back, cut, hf, hb⟩ := eq_between_trim line
  unfold held at dense ⊢
  split
  · rename_i armour
    obtain ⟨label, hyphens⟩ := List.isPrefixOf_iff_prefix.1 armour
    rw [cut, ← hyphens, List.append_assoc front, List.append_assoc _ label, ← List.append_assoc]
    exact .armour hf (label ++ back)
  · rename_i plain
    rw [if_neg plain] at dense
    nth_rewrite 1 [cut]
    exact .piece hf dense hb

/-- Every text is a layout of what is left of it, unless that has blanks or hyphens in it. -/
lemma lays_body (text : List Char) (dense : ∀ c ∈ body text, isBlank c = false ∧ c ≠ '-') :
    Lays text (body text) := by
  by_cases whole : '\n' ∈ text
  · obtain ⟨line, rest, rfl, before⟩ := List.eq_append_cons_of_mem whole
    rw [body_append before] at dense ⊢
    obtain ⟨first, others⟩ := List.forall_mem_append.1 dense
    exact .line before (holds_held first) (lays_body rest others)
  · rw [body_of_notMem whole] at dense ⊢
    exact .last whole (holds_held dense)
termination_by text.length
decreasing_by
  subst_vars
  simp only [List.length_append, List.length_cons]
  omega

/-- A text without blanks and hyphens is what is left of its layouts and of nothing else. -/
lemma body_eq_iff_lays {text content : List Char}
    (dense : ∀ c ∈ content, isBlank c = false ∧ c ≠ '-') :
    body text = content ↔ Lays text content := by
  constructor
  · rintro rfl
    exact lays_body text dense
  · exact Lays.body_eq

/-- The base64 text of a key has no blanks and no hyphens. -/
lemma toBase64_dense (key : TrustedKey) :
    ∀ c ∈ key.toBase64.toList, isBlank c = false ∧ c ≠ '-' := by
  rw [toBase64, Base64.encodeString, String.toList_ofList, List.forall_mem_map]
  exact Base64.forall_mem_encode (by decide) (by decide) key.bytes

/-! ## Reading a key -/

lemma parse_eq_ok_iff {text : String} {key : TrustedKey} :
    parse text = .ok key ↔ key.bytes ≠ [] ∧ body text.toList = key.toBase64.toList := by
  rw [toBase64, ← Base64.decode_encodeChars_eq_ok_iff, parse]
  cases Base64.decode (Utf8.encodeChars (body text.toList)) with
  | error fault => simp
  | ok bytes =>
    cases bytes with
    | nil => simp [eq_comm]
    | cons b bytes =>
      obtain ⟨key⟩ := key
      simp only [Except.ok.injEq, mk.injEq]
      constructor
      · rintro rfl
        exact ⟨List.cons_ne_nil b bytes, rfl⟩
      · exact fun same => same.2

/-- **A text is read as a key exactly if what its lines hold is the key's base64 text.** -/
theorem parse_exact :
    (∀ (text : String) (key : TrustedKey), parse text = .ok key
      ↔ key.bytes ≠ [] ∧ body text.toList = key.toBase64.toList)
    ∧ (∀ (text : String) (key : TrustedKey), parse text = .ok key
      ↔ key.bytes ≠ [] ∧ Lays text.toList key.toBase64.toList)
    ∧ ∀ (text other : String) (key : TrustedKey), parse text = .ok key → parse other = .ok key →
      body text.toList = body other.toList := by
  refine ⟨fun _ _ => parse_eq_ok_iff, fun text key => ?_, fun text other key one two => ?_⟩
  · rw [parse_eq_ok_iff, body_eq_iff_lays key.toBase64_dense]
  · exact (parse_eq_ok_iff.1 one).2.trans (parse_eq_ok_iff.1 two).2.symm

/-- A key in armour, over two lines that end in a carriage return and a line feed, and the same key
bare. -/
theorem parse_armoured_and_bare :
    let armoured := "-----BEGIN RSA PUBLIC KEY-----\r\n  AQID\r\n  BAU=\r\n-----END-----\r\n"
    let bare := "AQIDBAU="
    parse armoured = .ok ⟨[1, 2, 3, 4, 5]⟩ ∧ parse bare = .ok ⟨[1, 2, 3, 4, 5]⟩
      ∧ body armoured.toList = body bare.toList := by
  intro armoured bare
  have one := (parse_exact.1 armoured ⟨[1, 2, 3, 4, 5]⟩).2 ⟨by decide, by decide⟩
  have two := (parse_exact.1 bare ⟨[1, 2, 3, 4, 5]⟩).2 ⟨by decide, by decide⟩
  exact ⟨one, two, parse_exact.2.2 _ _ _ one two⟩

end TrustedKey

end SignedUpgrade
