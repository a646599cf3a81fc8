import SignedUpgrade.Proofs.Text.Trimming

/-!
# Lines of a text

A line feed ends a line, together with the carriage return in front of it, if there is one.  What
stands behind the last line feed is a line if there is anything, and a carriage return in it is
kept.

* `IsLines` — which texts are the lines of a text;
* `lines_eq_iff` — these are the lines that are read.
-/

namespace SignedUpgrade.Text

variable {cs line rest : List Char} {ls : List (List Char)}

/-- The lines of a text, one after the other. -/
inductive IsLines : List Char → List (List Char) → Prop where
  | none : IsLines [] []
  | unfinished {line : List Char} (filled : line ≠ []) (inside : '\n' ∉ line) : IsLines line [line]
  | ended {line rest : List Char} {ls : List (List Char)} (inside : '\n' ∉ line)
      (bare : line.getLast? ≠ some '\r') (others : IsLines rest ls) :
      IsLines (line ++ '\n' :: rest) (line :: ls)
  | endedByTwo {line rest : List Char} {ls : List (List Char)} (inside : '\n' ∉ line)
      (others : IsLines rest ls) : IsLines (line ++ '\r' :: '\n' :: rest) (line :: ls)

lemma dropCarriageReturn_of_bare (bare : line.getLast? ≠ some '\r') :
    dropCarriageReturn line = line :=
  if_neg bare

lemma dropCarriageReturn_append (line : List Char) :
    dropCarriageReturn (line ++ ['\r']) = line := by
  simp [dropCarriageReturn]

/-- The first line feed ends the first line. -/
lemma lines_append (inside : '\n' ∉ line) (rest : List Char) :
    lines (line ++ '\n' :: rest) = dropCarriageReturn line :: lines rest := by
  unfold lines
  rw [segments_append inside]
  rcases segments rest with ⟨ended, _ | ⟨c, last⟩⟩ <;> rfl

lemma lines_of_notMem (filled : line ≠ []) (inside : '\n' ∉ line) : lines line = [line] := by
  obtain ⟨c, cs, rfl⟩ := List.exists_cons_of_ne_nil filled
  rw [lines, segments_of_notMem inside]
  rfl

lemma IsLines.lines_eq (h : IsLines cs ls) : lines cs = ls := by
  induction h with
  | none => rfl
  | unfinished filled inside => exact lines_of_notMem filled inside
  | ended inside bare _ ih => rw [lines_append inside, dropCarriageReturn_of_bare bare, ih]
  | @endedByTwo line rest ls inside _ ih =>
    have inside' : '\n' ∉ line ++ ['\r'] := by simpa using inside
    have cut := lines_append inside' rest
    rw [dropCarriageReturn_append, ih, List.append_assoc] at cut
    exact cut

/-- A text has lines: those behind its first line feed, and the one in front of it. -/
lemma isLines_lines (cs : List Char) : IsLines cs (lines cs) := by
  by_cases feed : '\n' ∈ cs
  · obtain ⟨line, rest, cut, inside⟩ := List.eq_append_cons_of_mem feed
    have shorter : rest.length < cs.length := by
      rw [cut, List.length_append, List.length_cons]
      omega
    have others := isLines_lines rest
    rw [cut, lines_append inside]
    by_cases last : line.getLast? = some '\r'
    · obtain ⟨line, rfl⟩ := List.getLast?_eq_some_iff.1 last
      rw [dropCarriageReturn_append, List.append_assoc]
      exact .endedByTwo (fun mem => inside (List.mem_append_left _ mem)) others
    · rw [dropCarriageReturn_of_bare last]
      exact .ended inside last others
  · by_cases filled : cs = []
    · rw [filled]
      exact .none
    · rw [lines_of_notMem filled feed]
      exact .unfinished filled feed
termination_by cs.length

/-- **The lines that are read are the lines of the text.** -/
lemma lines_eq_iff : lines cs = ls ↔ IsLines cs ls :=
  ⟨fun same => same ▸ isLines_lines cs, IsLines.lines_eq⟩

/-- No line feed stands in a line. -/
lemma IsLines.notMem (h : IsLines cs ls) (mem : line ∈ ls) : '\n' ∉ line := by
  induction h with
  | none => cases mem
  | unfinished _ inside => rwa [List.mem_singleton.1 mem]
  | ended inside _ _ ih =>
    rcases List.mem_cons.1 mem with rfl | mem
    · exact inside
    · exact ih mem
  | endedByTwo inside _ ih =>
    rcases List.mem_cons.1 mem with rfl | mem
    · exact inside
    · exact ih mem

end SignedUpgrade.Text
