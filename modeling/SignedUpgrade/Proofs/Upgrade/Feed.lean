import SignedUpgrade.Proofs.Release.Documents
import SignedUpgrade.Upgrade.Resolver

/-!
# The release that the feed tells

The latest release is the one that the body of the feed's response tells, however its members are
ordered and whatever stands among them.  A body in which a member is missing or repeated is refused
as malformed.

* `Resolver.Receives` — the body of the response that the feed gives;
* `Resolver.latestRelease_decodes` — **the latest release is read from any document that tells it**.
-/

namespace SignedUpgrade

open Json Net Text

variable {σ : Type}

namespace Resolver

/-- What comes of asking the feed for the latest release. -/
def answer (r : Resolver σ) (w : World σ) : Except String Response :=
  (fetchSuccess r.network accept r.feedUrl
    (w.toSite.logged { level := .debug, text := "Fetching latest release from " ++ r.feedUrl })).1

/-- The feed gives a response of success with some body when it is asked for the latest release. -/
def Receives (r : Resolver σ) (w : World σ) (body : Bytes) : Prop :=
  ∃ response, r.answer w = .ok response ∧ response.body.content? = some body

variable {r : Resolver σ} {w : World σ} {body : Bytes}

/-- The latest release is what the feed's answer tells. -/
lemma latestRelease_outcome (r : Resolver σ) (w : World σ) :
    (r.latestRelease.outcome w).1 = r.releaseOf (r.answer w) := by
  have told : ∀ (result : Except Failure Release) (w : World σ), ((do
      let release ← result
      Attempt.debug ("Latest release is " ++ release.tag ++ " with "
        ++ toString release.assets.length ++ " assets")
      return release : Attempt σ Release).run w).1 = result := by
    intro result w
    cases result <;> rfl
  exact told _ _

lemma Receives.releaseOf_answer (h : r.Receives w body) : r.releaseOf (r.answer w)
    = (Release.ofBody body).mapError fun fault =>
        .feedMalformed r.feedUrl (r.wording (Utf8.decode body) fault) := by
  obtain ⟨response, received, content⟩ := h
  simp only [received, releaseOf, content]
  cases Release.ofBody body <;> rfl

/-- **The latest release is read from any document that tells it.**  The members of the release and
of its assets may come in any order and be written in any way, and other members with any values may
stand among them; if the assets are left out, there are none.  If the tag is missing, or the name or
the address of an asset, or one of these members or the assets are repeated, the feed is malformed.
The written form of a release is such a document. -/
theorem latestRelease_decodes (h : r.Receives w body) :
    (∀ release, IsDocument release.IsTold body → (r.latestRelease.outcome w).1 = .ok release)
    ∧ (∀ tag, IsDocument (Release.IsTaggedOnly tag) body →
      (r.latestRelease.outcome w).1 = .ok ⟨tag, []⟩)
    ∧ (IsDocument Release.IsSpoilt body →
      ∃ reason, (r.latestRelease.outcome w).1 = .error (.feedMalformed r.feedUrl reason))
    ∧ ∀ release : Release, IsDocument release.IsTold (Utf8.encode release.json) := by
  rw [latestRelease_outcome, h.releaseOf_answer]
  refine ⟨fun release told => ?_, fun tag told => ?_, fun spoilt => ?_, fun release => ?_⟩
  · rw [Release.ofBody_told told, Except.mapError]
  · rw [Release.ofBody_taggedOnly told, Except.mapError]
  · obtain ⟨fault, refused⟩ := Release.ofBody_spoilt spoilt
    exact ⟨r.wording (Utf8.decode body) fault, by rw [refused, Except.mapError]⟩
  · exact isDocument_encode release.json_isTold

/-! ## A feed with any body -/

/-- A resolver whose feed gives a response of success with a body. -/
def fed (body : Bytes) : Resolver Unit where
  runner := {
    run _ _ _ site := (.ok {}, site)
    runWithTail _ _ _ _ site := (.ok {}, site) }
  network := fun _ site => (.response { status := 200, body := { chunks := [body] } }, site)
  reporter := []
  command := "certbot"
  feedUrl := "http://localhost/latest"
  pattern := default
  wording := fun _ _ => "no release"

lemma fed_receives (body : Bytes) (w : World Unit) : (fed body).Receives w body := by
  have askable : (Url.read? "http://localhost/latest").map (fun address =>
      canAsk address.withoutUser) = some true := by decide +kernel
  obtain ⟨address, read, ask⟩ := Option.map_eq_some_iff.1 askable
  refine ⟨{ status := 200, body := { chunks := [body] } }, ?_, by simp [Body.content?]⟩
  simp [answer, fetchSuccess, fetch, fed, read, fetchFrom, ask, nextUrl?, isRedirect,
    Response.success, isSuccess]

/-- The world in which this resolver is asked. -/
def fedWorld : World Unit where
  files := { entries := [] }
  outside := ()
  names := fun _ => "1"

end Resolver

/-- An asset with its members in another order, behind one more. -/
def Asset.mixed (a : Asset) : String :=
  object [("size", "42"), ("browser_download_url", quoted a.url), ("name", quoted a.name)]

/-- A release with its members in another order, between two more of one name. -/
def Release.mixed (r : Release) : String :=
  object [("draft", "null"), ("assets", list (r.assets.map Asset.mixed)),
    ("tag_name", quoted r.tag), ("draft", "[]")]

lemma Asset.mixed_isTold (a : Asset) : a.IsTold a.mixed.toList := by
  have whole : IsWhole ['4', '2'] := .digits rfl (by decide) (List.forall_mem_singleton.2 rfl)
  have number : IsValue "42".toList :=
    .number ⟨[], _, [], [], .inl rfl, whole, .missing, .missing, rfl⟩
  refine isTold_object ?_ (by simpa using .swap _ _ _)
  simp only [List.forall_mem_cons]
  exact ⟨number, (textOf_quoted _).isValue, (textOf_quoted _).isValue, by simp⟩

lemma Release.mixed_isTold (r : Release) : r.IsTold r.mixed.toList := by
  have assets := listOf_list Asset.mixed_isTold r.assets
  refine isTold_object ?_ assets (by simpa using .swap _ _ _)
  simp only [List.forall_mem_cons]
  exact ⟨.word (by decide), assets.isValue, (textOf_quoted _).isValue,
    .list (.empty .nil) (by simp), by simp⟩

/-- A release is read with its members in another order and others among them, and without the
member for its assets; nothing is read of an object without members. -/
theorem Resolver.latestRelease_decodes_fed :
    ((fed (Utf8.encode (Release.mixed ⟨"v2.0.0", [⟨"setup.exe", "http://localhost/setup.exe"⟩]⟩))
        ).latestRelease.outcome fedWorld).1
      = .ok ⟨"v2.0.0", [⟨"setup.exe", "http://localhost/setup.exe"⟩]⟩
    ∧ ((fed (Utf8.encode (object [("tag_name", quoted "v2.0.0")]))
        ).latestRelease.outcome fedWorld).1 = .ok ⟨"v2.0.0", []⟩
    ∧ ∃ reason, ((fed (Utf8.encode (object []))).latestRelease.outcome fedWorld).1
      = .error (.feedMalformed "http://localhost/latest" reason) := by
  refine ⟨?_, ?_, ?_⟩
  · refine (latestRelease_decodes (fed_receives _ _)).1 _ ?_
    exact isDocument_encode (Release.mixed_isTold _)
  · refine (latestRelease_decodes (fed_receives _ _)).2.1 _ (isDocument_encode ?_)
    have isObject := isObject_object [("tag_name", quoted "v2.0.0")]
      (by simp [(textOf_quoted _).isValue])
    refine ⟨_, .written ("tag_name", quoted "v2.0.0"), isObject, ?_,
      Member.written_holds (textOf_quoted _)⟩
    simp [Member.written]
  · refine (latestRelease_decodes (fed_receives _ _)).2.2.1 (isDocument_encode ?_)
    exact ⟨_, isObject_object [] (by simp), .inl (by simp)⟩

end SignedUpgrade
