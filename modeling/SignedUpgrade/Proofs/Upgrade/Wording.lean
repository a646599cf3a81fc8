import SignedUpgrade.Proofs.Release.VersionText
import SignedUpgrade.Proofs.Tracing.Upgrade

/-!
# The wording of reports

Whoever reads an audit trail looks for one line: that a version of Certbot is installed.  No report
that is made at another place reads like this, whatever the feed, the settings or a program put
into it.

* `IsInstalledText` — the wording of the last report of an installation;
* `not_installed_of_start`, `not_installed_of_certbot` — the two ways in which other reports differ
  from it: they start with another word, or go on in another way after the first one.
-/

namespace SignedUpgrade

variable {σ : Type}

/-- The text of a report says that some version is installed. -/
def IsInstalledText (message : String) : Prop :=
  ∃ v, message = Executor.installedText v

/-- The report of an installation names the version that is installed. -/
lemma installedText_injective {v w : Version}
    (h : Executor.installedText v = Executor.installedText w) : v = w := by
  have lists := congrArg String.toList h
  simp only [Executor.installedText, String.toList_append, List.append_cancel_left_eq,
    List.append_cancel_right_eq] at lists
  exact Version.text_injective (String.toList_inj.1 lists)

/-- A report that starts in another way. -/
lemma not_installed_of_start {message rest : String} (start : String)
    (h : message = start ++ rest) (length : 8 ≤ start.toList.length)
    (differs : start.toList.take 8 ≠ "Certbot ".toList) : ¬ IsInstalledText message := by
  rintro ⟨v, rfl⟩
  have eight : (Executor.installedText v).toList.take 8 = "Certbot ".toList := by
    simp [Executor.installedText]
  rw [h, String.toList_append, List.take_append_of_le_length length] at eight
  exact differs eight

/-- A report that starts in the same way, but says something else after the next word. -/
lemma not_installed_of_certbot {message : String} {word rest : List Char}
    (h : message.toList = "Certbot ".toList ++ (word ++ ' ' :: rest)) (blank : ' ' ∉ word)
    (differs : rest ≠ "is installed.".toList) : ¬ IsInstalledText message := by
  rintro ⟨v, rfl⟩
  have same : v.text.toList ++ ' ' :: "is installed.".toList = word ++ ' ' :: rest := by
    simpa [Executor.installedText] using h
  exact differs (append_separator_inj v.blank_notMem_text blank same).2.symm

/-! ## Reports before an installation -/

lemma not_installed_untold (f : Failure) : ¬ IsInstalledText (Resolver.untoldText f) :=
  not_installed_of_start "Could not determine the installed Certbot version, assuming 0.0.0: "
    rfl (by simp) (by simp)

lemma not_installed_untagged (release : Release) :
    ¬ IsInstalledText (Resolver.untaggedText release) := by
  unfold Resolver.untaggedText
  rw [String.append_assoc]
  exact not_installed_of_start "Release tag '" rfl (by simp) (by simp)

lemma not_installed_starting : ¬ IsInstalledText Updater.startingText :=
  not_installed_of_start "Starting Certbot auto-upgrade..." String.append_empty.symm (by simp)
    (by simp)

lemma not_installed_upToDate (current latest : Version) :
    ¬ IsInstalledText (Updater.upToDateText current latest) := by
  have reads : (Updater.upToDateText current latest).toList
      = "Certbot ".toList ++ (current.text.toList ++ ' '
        :: ("is up to date (latest release is ".toList ++ (latest.text.toList
          ++ "), nothing to do.".toList))) := by
    unfold Updater.upToDateText
    simp
  exact not_installed_of_certbot reads current.blank_notMem_text (by simp)

lemma not_installed_upgrading (current version : Version) :
    ¬ IsInstalledText (Updater.upgradingText current version) := by
  unfold Updater.upgradingText
  rw [String.append_assoc, String.append_assoc, String.append_assoc]
  exact not_installed_of_start "Upgrading Certbot from " rfl (by simp) (by simp)

lemma not_installed_decision (decision : Decision) : ¬ IsInstalledText decision.text := by
  cases decision with
  | noActionNeeded current latest =>
    have reads : (Decision.noActionNeeded current latest).text.toList
        = "Certbot ".toList ++ (current.text.toList ++ ' '
          :: ("is up to date (latest is ".toList ++ (latest.text.toList ++ ")".toList))) := by
      unfold Decision.text
      simp
    exact not_installed_of_certbot reads current.blank_notMem_text (by simp)
  | upgradeTo current version installer =>
    have reads : (Decision.upgradeTo current version installer).text.toList
        = "Certbot ".toList ++ (current.text.toList ++ ' '
          :: ("can be upgraded to ".toList ++ (version.text.toList ++ (" using ".toList
            ++ installer.name.toList)))) := by
      unfold Decision.text
      simp
    exact not_installed_of_certbot reads current.blank_notMem_text (by simp)

/-- The report of a failure goes on with a word that is no version. -/
lemma not_installed_abort (f : StepFailure) : ¬ IsInstalledText (Updater.abortMessage f) := by
  have reads : (Updater.abortMessage f).toList
      = "Certbot ".toList ++ ("auto-upgrade".toList ++ ' '
        :: ("aborted while ".toList ++ (f.state.text.toList ++ (": ".toList
          ++ f.failure.message.toList)))) := by
    unfold Updater.abortMessage
    simp
  exact not_installed_of_certbot reads (by simp) (by simp)

/-! ## Reports during an installation -/

lemma not_installed_fetching (version : Version) (asset : Asset) :
    ¬ IsInstalledText (Executor.fetchingText version asset) := by
  unfold Executor.fetchingText
  rw [String.append_assoc, String.append_assoc]
  exact not_installed_of_start "Downloading Certbot " rfl (by simp) (by simp)

/-- The name of an asset stands behind a word of its own, so it cannot make this report another
one. -/
lemma not_installed_fetched (asset : Asset) (file : Downloaded) :
    ¬ IsInstalledText (Executor.fetchedText asset file) := by
  unfold Executor.fetchedText
  simp only [String.append_assoc]
  exact not_installed_of_start "Downloaded " rfl (by simp) (by simp)

lemma not_installed_accepted : ¬ IsInstalledText Executor.acceptedText :=
  not_installed_of_start "Installer signature is valid and matches the trusted publisher key."
    String.append_empty.symm (by simp) (by simp)

lemma not_installed_uninstalling : ¬ IsInstalledText Executor.uninstallingText :=
  not_installed_of_start "Uninstalling the previous Certbot version..."
    String.append_empty.symm (by simp) (by simp)

lemma not_installed_nothingInstalled (e : Executor σ) :
    ¬ IsInstalledText e.nothingInstalledText := by
  unfold Executor.nothingInstalledText
  rw [String.append_assoc]
  exact not_installed_of_start "No previous installation found in " rfl (by simp) (by simp)

lemma not_installed_installing (version : Version) :
    ¬ IsInstalledText (Executor.installingText version) := by
  unfold Executor.installingText
  rw [String.append_assoc]
  exact not_installed_of_start "Installing Certbot " rfl (by simp) (by simp)

end SignedUpgrade
