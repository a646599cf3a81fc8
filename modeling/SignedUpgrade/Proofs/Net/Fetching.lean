import SignedUpgrade.Net.Client
import Mathlib.Tactic.Lemma

/-!
# What a fetch comes to

One request is enough to tell what a fetch does next: give up, hand out the response, or make
another request at the place that the response names.  There is one lemma for each of these.
-/

namespace SignedUpgrade.Net

variable {σ : Type} {n : Network σ} {accept : String} {redirects : Nat} {url next : Url}
  {site after : Site σ} {r : Response}

/-- Nothing is asked where requests cannot be made. -/
lemma fetchFrom_of_not_canAsk (ask : canAsk url = false) :
    fetchFrom n accept redirects url site = (.error (located notBuilt url), site) := by
  unfold fetchFrom
  simp [ask]

lemma fetchFrom_of_refused (ask : canAsk url = true)
    (answer : n { url := url.text, accept } site = (.refused, after)) :
    fetchFrom n accept redirects url site = (.error (notSent url), after) := by
  unfold fetchFrom
  simp [ask, answer]

lemma fetchFrom_of_silent (ask : canAsk url = true)
    (answer : n { url := url.text, accept } site = (.silent, after)) :
    fetchFrom n accept redirects url site
      = (.error ("request timed out (" ++ notSent url ++ ")"), after) := by
  unfold fetchFrom
  simp [ask, answer]

/-- A response that does not send the client on is the result. -/
lemma fetchFrom_of_last (ask : canAsk url = true)
    (answer : n { url := url.text, accept } site = (.response r, after))
    (last : nextUrl? url r = none) :
    fetchFrom n accept redirects url site = (.ok r, after) := by
  unfold fetchFrom
  simp [ask, answer, last]

/-- After the last redirection that is allowed, another one is a failure. -/
lemma fetchFrom_of_exhausted (ask : canAsk url = true)
    (answer : n { url := url.text, accept } site = (.response r, after))
    (more : nextUrl? url r = some next) :
    fetchFrom n accept 0 url site = (.error (located "error following redirect" url), after) := by
  unfold fetchFrom
  simp [ask, answer, more]

/-- A redirection is followed as long as one is allowed. -/
lemma fetchFrom_of_redirected (ask : canAsk url = true)
    (answer : n { url := url.text, accept } site = (.response r, after))
    (more : nextUrl? url r = some next) :
    fetchFrom n accept (redirects + 1) url site
      = fetchFrom n accept redirects next.withoutUser after := by
  rw [fetchFrom]
  simp [ask, answer, more]

end SignedUpgrade.Net
