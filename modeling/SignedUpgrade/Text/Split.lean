/-!
# Cutting a text at a separator

`splitOn` cuts a text at every occurrence of one character.  The pieces are one more than the
separators, and putting them together again gives the text.
-/

namespace SignedUpgrade.Text

/-- The pieces of a text between the occurrences of a separator. -/
def splitOn (separator : Char) : List Char → List (List Char)
  | [] => [[]]
  | c :: r =>
    if c = separator then [] :: splitOn separator r
    else match splitOn separator r with
      | [] => [[c]]
      | piece :: more => (c :: piece) :: more

/-- Pieces put together with a separator between them. -/
def joinWith (separator : Char) : List (List Char) → List Char
  | [] => []
  | [piece] => piece
  | piece :: more => piece ++ separator :: joinWith separator more

/-- A text has at least one piece. -/
theorem splitOn_ne_nil (separator : Char) (cs : List Char) : splitOn separator cs ≠ [] := by
  induction cs with
  | nil => simp [splitOn]
  | cons c r ih =>
    by_cases h : c = separator
    · simp [splitOn, h]
    · cases hr : splitOn separator r with
      | nil => exact absurd hr ih
      | cons piece more => simp [splitOn, h, hr]

/-- The pieces of a text give the text back. -/
theorem joinWith_splitOn (separator : Char) (cs : List Char) :
    joinWith separator (splitOn separator cs) = cs := by
  induction cs with
  | nil => rfl
  | cons c r ih =>
    cases hr : splitOn separator r with
    | nil => exact absurd hr (splitOn_ne_nil separator r)
    | cons piece more =>
      rw [hr] at ih
      by_cases h : c = separator
      · simp [splitOn, h, hr, joinWith, ih]
      · cases more with
        | nil => simp_all [splitOn, joinWith]
        | cons next rest => simp_all [splitOn, joinWith]

end SignedUpgrade.Text
