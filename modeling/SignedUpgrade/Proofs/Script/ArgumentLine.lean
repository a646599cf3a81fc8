import Mathlib.Data.List.Basic
import Mathlib.Tactic.Lemma

/-!
# Arguments in one line

Windows gives a program its arguments in one line, and the line is cut at blanks.  Between quotation
marks a blank belongs to an argument.  A backslash stands for itself, unless it is one of several in
front of a quotation mark: then two of them stand for one, and one that is left over makes the mark
stand for itself.

* `cut`, `argumentsOf` — how a line is cut;
* `argumentsOf_words` — words without marks, backslashes and blanks are arguments of their own;
* `cut_marked` — **a text between marks is one argument, as it is written,** with its blanks and
  backslashes.
-/

namespace SignedUpgrade.Text.ArgumentLine

/-- The quotation mark. -/
def mark : Char := '"'

/-- The backslash. -/
def backslash : Char := '\\'

/-- The blanks at which a line is cut. -/
def isGap (c : Char) : Bool :=
  c == ' ' || c == '\t'

/-- Where in a line a reader is. -/
inductive Spot where
  /-- Outside of quotation marks. -/
  | outside
  /-- Between quotation marks. -/
  | inside
  /-- Directly behind the second mark, where one more mark stands for itself. -/
  | closed
  deriving DecidableEq, Repr

/-- Where a reader is behind a character that is no mark. -/
def Spot.left : Spot → Spot
  | .inside => .inside
  | _ => .outside

/-- The argument so far, if one has begun, with the backslashes behind it. -/
def withSlashes (word : Option (List Char)) (slashes : Nat) : Option (List Char) :=
  if slashes = 0 then word else some (word.getD [] ++ List.replicate slashes backslash)

/-- The arguments in the rest of a line.  `word` is the argument so far, and `slashes` is the number
of backslashes behind it, which depend on what follows them. -/
def cut (spot : Spot) (word : Option (List Char)) (slashes : Nat) :
    List Char → List (List Char)
  | [] => (withSlashes word slashes).toList
  | c :: r =>
    if c = backslash then cut spot.left word (slashes + 1) r
    else if c = mark then
      let halved := word.getD [] ++ List.replicate (slashes / 2) backslash
      if slashes % 2 = 1 then cut spot (some (halved ++ [mark])) 0 r
      else match spot with
        | .outside => cut .inside (some halved) 0 r
        | .inside => cut .closed (some halved) 0 r
        | .closed => cut .outside (some (halved ++ [mark])) 0 r
    else if spot.left = .outside ∧ isGap c = true then
      (withSlashes word slashes).toList ++ cut .outside none 0 r
    else cut spot.left (some ((withSlashes word slashes).getD [] ++ [c])) 0 r

/-- The arguments of a line that is not empty.  The first of them names the program; marks and
backslashes in it do not escape anything. -/
def argumentsOf (line : List Char) : List (List Char) :=
  if line.head? = some mark then
    line.tail.takeWhile (· ≠ mark)
      :: cut .outside none 0 ((line.tail.dropWhile (· ≠ mark)).drop 1)
  else line.takeWhile (!isGap ·) :: cut .outside none 0 (line.dropWhile (!isGap ·))

/-! ## Words and marked texts -/

variable {spot : Spot} {word : List Char} {c : Char} {cs rest : List Char}

lemma getD_withSlashes (word : List Char) (slashes : Nat) :
    (withSlashes (some word) slashes).getD [] = word ++ List.replicate slashes backslash := by
  by_cases none : slashes = 0
  · simp [withSlashes, none]
  · simp [withSlashes, none]

/-- Between marks, a character that is neither a mark nor a backslash belongs to the argument, and
so do the backslashes in front of it. -/
lemma cut_inside_plain (plain : c ≠ backslash) (unmarked : c ≠ mark) (slashes : Nat) :
    cut .inside (some word) slashes (c :: rest)
      = cut .inside (some (word ++ List.replicate slashes backslash ++ [c])) 0 rest := by
  rw [cut, if_neg plain, if_neg unmarked, Spot.left, if_neg (by simp), getD_withSlashes]

/-- Between marks, a text up to such a character belongs to the argument as it is written. -/
lemma cut_inside (unmarked : mark ∉ cs) (plain : c ≠ backslash) (unmarked' : c ≠ mark)
    (slashes : Nat) : cut .inside (some word) slashes (cs ++ c :: rest)
      = cut .inside (some (word ++ List.replicate slashes backslash ++ (cs ++ [c]))) 0 rest := by
  induction cs generalizing word slashes with
  | nil => exact cut_inside_plain plain unmarked' slashes
  | cons d cs ih =>
    obtain ⟨first, others⟩ := List.ne_and_not_mem_of_not_mem_cons unmarked
    by_cases slash : d = backslash
    · subst slash
      rw [List.cons_append, cut, if_pos rfl, Spot.left, ih others, List.replicate_succ']
      simp only [List.append_assoc, List.cons_append, List.nil_append]
    · rw [List.cons_append, cut_inside_plain slash first.symm, ih others]
      simp only [List.append_assoc, List.cons_append, List.nil_append, List.replicate_zero]

/-- **A text between marks is one argument, as it is written,** if it holds no mark and does not end
with a backslash. -/
lemma cut_marked (unmarked : mark ∉ cs) (plain : c ≠ backslash) (unmarked' : c ≠ mark) :
    cut .outside none 0 (mark :: (cs ++ c :: [mark])) = [cs ++ [c]] := by
  rw [cut, if_neg (by decide), if_pos rfl, if_neg (by decide)]
  dsimp only
  rw [cut_inside unmarked plain unmarked']
  simp [cut, withSlashes, mark, backslash]

/-- A word without marks, backslashes and blanks. -/
def IsPlainWord (cs : List Char) : Prop :=
  cs ≠ [] ∧ ∀ c ∈ cs, c ≠ backslash ∧ c ≠ mark ∧ isGap c = false

-- only the characters of the word are tried
instance (cs : List Char) : Decidable (IsPlainWord cs) :=
  @instDecidableAnd _ _ inferInstance (List.decidableBAll _ cs)

/-- A word is an argument of its own, or the rest of one that has begun. -/
lemma cut_word (begun : Option (List Char))
    (plain : ∀ c ∈ cs, c ≠ backslash ∧ c ≠ mark ∧ isGap c = false) (filled : cs ≠ []) :
    cut .outside begun 0 (cs ++ ' ' :: rest)
      = (begun.getD [] ++ cs) :: cut .outside none 0 rest := by
  induction cs generalizing begun with
  | nil => exact absurd rfl filled
  | cons c cs ih =>
    obtain ⟨slash, unmarked, dense⟩ := plain c List.mem_cons_self
    have step : cut .outside begun 0 (c :: (cs ++ ' ' :: rest))
        = cut .outside (some (begun.getD [] ++ [c])) 0 (cs ++ ' ' :: rest) := by
      rw [cut, if_neg slash, if_neg unmarked, if_neg (by simp [dense])]
      rfl
    rw [List.cons_append, step]
    by_cases last : cs = []
    · subst last
      simp [cut, withSlashes, Spot.left, mark, backslash, isGap]
    · rw [ih _ (fun d mem => plain d (List.mem_cons_of_mem _ mem)) last]
      simp

/-- Words with a blank behind each of them are arguments of their own. -/
lemma cut_words {words : List (List Char)} (plain : ∀ w ∈ words, IsPlainWord w) :
    cut .outside none 0 (words.flatMap (· ++ [' ']) ++ rest)
      = words ++ cut .outside none 0 rest := by
  induction words with
  | nil => rfl
  | cons w words ih =>
    obtain ⟨filled, dense⟩ := plain w List.mem_cons_self
    rw [List.flatMap_cons, List.append_assoc, List.append_assoc, List.singleton_append,
      cut_word none dense filled, ih fun v mem => plain v (List.mem_cons_of_mem _ mem)]
    rfl

/-- The same holds of a line that begins with words: the first one names the program. -/
lemma argumentsOf_words {w : List Char} {words : List (List Char)}
    (plain : ∀ v ∈ w :: words, IsPlainWord v) :
    argumentsOf ((w :: words).flatMap (· ++ [' ']) ++ rest)
      = w :: words ++ cut .outside none 0 rest := by
  obtain ⟨filled, dense⟩ := plain w List.mem_cons_self
  have more : cut .outside none 0 (words.flatMap (· ++ [' ']) ++ rest)
      = words ++ cut .outside none 0 rest :=
    cut_words fun v mem => plain v (List.mem_cons_of_mem _ mem)
  have first : ∀ c ∈ w, (!isGap c) = true := fun c mem => by rw [(dense c mem).2.2]; rfl
  obtain ⟨c, cs, rfl⟩ := List.exists_cons_of_ne_nil filled
  have unmarked : c ≠ mark := (dense c List.mem_cons_self).2.1
  rw [List.flatMap_cons, List.append_assoc, List.append_assoc, List.singleton_append, argumentsOf,
    if_neg (by simpa using unmarked), List.takeWhile_append_of_pos first,
    List.dropWhile_append_of_pos first, List.takeWhile_cons_of_neg (by decide),
    List.dropWhile_cons_of_neg (by decide), List.append_nil, List.cons_append, ← more]
  -- the blank behind the name of the program is passed over
  rfl

end SignedUpgrade.Text.ArgumentLine
