import Mathlib.Data.List.Basic
import Mathlib.Tactic.Lemma
import SignedUpgrade.Failure.Advice

/-!
# What is told of a failure with contexts

Contexts say what was being done when a failure arose.  They stand in front of the failure, the last
one first, and change nothing else: a person is given the same details and the same suggestion as
for the bare failure.  The wording of a failure of input or output ends with the system's error, and
that error is one more link below it.  So it is told a second time.

* `Failure.cause?` — the system's error below a failure;
* `Problem.afterwards` — a failure to which contexts were added, one after the other;
* `Problem.advice_eq` — the message is the chain, be it of one link or of many;
* `Problem.links_afterwards` — the links of the chain;
* `Problem.advice_tells_once_iff` — **each thing is told once, except below failures of input or
  output.**
-/

namespace SignedUpgrade

/-- The system's error below a failure.  Only failures of input or output have one. -/
def Failure.cause? : Failure → Option IoFault
  | .io fault => some fault
  | _ => none

/-- The texts of a failure: its own wording, and the system's error below it. -/
lemma ProblemRoot.links_failure (f : Failure) :
    (ProblemRoot.failure f).links = f.message :: (f.cause?.map IoFault.text).toList := by
  cases f <;> rfl

namespace Problem

variable {f : Failure} {p : Problem} {contexts : List String}

/-- A failure to which contexts were added, one after the other. -/
def afterwards (f : Failure) (contexts : List String) : Problem :=
  contexts.foldl within (ofFailure f)

/-- Contexts are added in front, and the last one comes first. -/
lemma foldl_within (p : Problem) (contexts : List String) :
    contexts.foldl within p = { p with contexts := contexts.reverse ++ p.contexts } := by
  induction contexts generalizing p with
  | nil => rfl
  | cons c contexts ih =>
    rw [List.foldl_cons, ih, within]
    simp

lemma afterwards_eq (f : Failure) (contexts : List String) :
    afterwards f contexts = { contexts := contexts.reverse, root := .failure f } := by
  rw [afterwards, foldl_within, ofFailure, List.append_nil]

/-- The links of the chain: the contexts, the failure, and the system's error below it. -/
lemma links_afterwards (f : Failure) (contexts : List String) : (afterwards f contexts).links
    = contexts.reverse ++ f.message :: (f.cause?.map IoFault.text).toList := by
  rw [afterwards_eq, links, ProblemRoot.links_failure]

/-- The message is the chain.  Where there is one link, the chain is that link. -/
lemma advice_eq (root : p.root = .failure f) : p.advice = { f.advice with message := p.chain } := by
  rw [advice, root]
  dsimp only
  split
  · rfl
  · rename_i single
    have links : p.links
        = p.contexts ++ f.message :: (f.cause?.map IoFault.text).toList := by
      rw [links, root, ProblemRoot.links_failure]
    have alone : p.links = [f.message] := by
      rw [links] at single ⊢
      simp only [List.length_append, List.length_cons] at single
      rw [List.eq_nil_of_length_eq_zero (by omega : p.contexts.length = 0),
        List.eq_nil_of_length_eq_zero
          (by omega : (f.cause?.map IoFault.text).toList.length = 0)]
      rfl
    rw [chain, alone, String.intercalate_singleton]
    rfl

lemma advice_afterwards (f : Failure) (contexts : List String) : (afterwards f contexts).advice
    = { f.advice with message := (afterwards f contexts).chain } :=
  advice_eq (congrArg root (afterwards_eq f contexts))

lemma message_afterwards (f : Failure) (contexts : List String) :
    (afterwards f contexts).advice.message = ": ".intercalate
      (contexts.reverse ++ f.message :: (f.cause?.map IoFault.text).toList) := by
  rw [advice_afterwards, ← links_afterwards]
  rfl

/-- Of two chains that differ by one more link at the end, the longer one is longer as a text. -/
lemma intercalate_append_ne (links : List String) (message cause : String) :
    ": ".intercalate (links ++ [message, cause]) ≠ ": ".intercalate (links ++ [message]) := by
  intro same
  have longer : links ++ [message, cause] = (links ++ [message]) ++ [cause] := by simp
  rw [longer, String.intercalate_append_of_ne_nil (by simp) (by simp)] at same
  have lengths := congrArg String.length same
  simp only [String.length_append] at lengths
  have separator : ": ".length = 2 := rfl
  omega

/-- **Contexts keep the advice, and each thing is told once, except below failures of input or
output.**  Whatever contexts are added to a failure, its category, details and suggestion stay those
of the bare failure.  The message is the contexts, the last one first, and the wording of the
failure, exactly if the failure is none of input or output; otherwise the system's error, with which
the wording ends, follows once more. -/
theorem advice_tells_once_iff (f : Failure) (contexts : List String) :
    (afterwards f contexts).advice.category = some f.category
      ∧ (afterwards f contexts).advice.details = (ofFailure f).advice.details
      ∧ (afterwards f contexts).advice.suggestion = (ofFailure f).advice.suggestion
      ∧ ((afterwards f contexts).advice.message
          = ": ".intercalate (contexts.reverse ++ [f.message]) ↔ ∀ fault, f ≠ .io fault)
      ∧ ∀ fault : IoFault, (Failure.io fault).message = "IO error: " ++ fault.text
          ∧ (afterwards (.io fault) contexts).advice.message
            = ": ".intercalate (contexts.reverse ++ [(Failure.io fault).message, fault.text]) := by
  have bare : (ofFailure f).advice = { f.advice with message := (ofFailure f).chain } :=
    advice_eq rfl
  refine ⟨?_, ?_, ?_, ?_, fun fault => ⟨rfl, message_afterwards _ _⟩⟩
  · rw [advice_afterwards]
    rfl
  · rw [advice_afterwards, bare]
  · rw [advice_afterwards, bare]
  · rw [message_afterwards]
    cases cause : f.cause? with
    | none =>
      refine iff_of_true rfl ?_
      rintro fault rfl
      cases cause
    | some fault =>
      refine iff_of_false (intercalate_append_ne _ _ _) fun other => ?_
      cases f with
      | io fault => exact other fault rfl
      | _ => cases cause

/-- A failure of input or output without any context says its error twice. -/
theorem advice_repeats_cause : ¬ ∀ (f : Failure) (contexts : List String),
    (afterwards f contexts).advice.message
      = ": ".intercalate (contexts.reverse ++ [f.message]) := by
  intro once
  have told := once (.io ⟨.notFound, "gone"⟩) []
  have repeated : (afterwards (.io ⟨.notFound, "gone"⟩) []).advice.message
      = "IO error: gone: gone" := by decide
  rw [repeated] at told
  exact absurd told (by decide)

end Problem

end SignedUpgrade
