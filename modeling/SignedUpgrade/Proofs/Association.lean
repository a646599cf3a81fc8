import Mathlib.Data.List.Basic
import Mathlib.Tactic.Lemma

/-!
# Looking up in a filtered list

Files and environment variables are lists of keys with what stands under them.  Taking keys away
hides what stands under these, and nothing else.
-/

namespace SignedUpgrade

variable {α β : Type} [BEq α] [LawfulBEq α] {k : α}

/-- Looking up a key that is left out finds nothing. -/
lemma lookup_filter_of_not (keep : α → Bool) (h : keep k = false) (entries : List (α × β)) :
    (entries.filter fun e => keep e.1).lookup k = none := by
  refine List.lookup_eq_none_iff.2 fun e mem => ?_
  obtain ⟨_, kept⟩ := List.mem_filter.1 mem
  rw [bne_iff_ne]
  rintro rfl
  rw [h] at kept
  cases kept

/-- Looking up a key that is kept finds what is there. -/
lemma lookup_filter_of_keep (keep : α → Bool) (h : keep k = true) (entries : List (α × β)) :
    (entries.filter fun e => keep e.1).lookup k = entries.lookup k := by
  induction entries with
  | nil => rfl
  | cons e entries ih =>
    obtain ⟨k', x⟩ := e
    by_cases kept : keep k' = true
    · rw [List.filter_cons_of_pos (by simpa using kept), List.lookup_cons, List.lookup_cons, ih]
    · have differ : (k == k') = false := by
        rw [beq_eq_false_iff_ne]
        rintro rfl
        exact kept h
      rw [List.filter_cons_of_neg (by simpa using kept), ih, List.lookup_cons, differ]

end SignedUpgrade
