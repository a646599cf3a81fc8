import SignedUpgrade.Failure.Basic
import SignedUpgrade.Text.Blank

/-!
# What a person is told about a failure

When the updater is run by hand, a failure is shown with what it means and what can be done about
it.

* `Advice` — a message with its category, details and suggestion;
* `Failure.advice` — the advice on a bare failure;
* `Problem` — a failure as it reaches the top: a root with the contexts that were added on its way;
* `Problem.advice` — what is shown for it.
-/

namespace SignedUpgrade

open Text

/-- A message with what may help to understand and to solve the problem. -/
structure Advice where
  message : String
  category : Option FailureCategory := none
  details : Option String := none
  suggestion : Option String := none
  deriving DecidableEq, Repr, Inhabited

namespace Advice

/-- An advice as one text, with details and suggestion on lines of their own. -/
def text (a : Advice) : String :=
  a.message ++ (match a.details with | some d => "\nDetails: " ++ d | none => "")
    ++ (match a.suggestion with | some s => "\nSuggestion: " ++ s | none => "")

/-- The lines in which an advice is printed. -/
def lines (a : Advice) : List String :=
  ["error: " ++ a.message]
    ++ (match a.details with | some d => ["details: " ++ d] | none => [])
    ++ (match a.suggestion with | some s => ["suggestion: " ++ s] | none => [])

end Advice

namespace Failure

/-- What a failure means for the installation, where that is worth saying. -/
def details : Failure → Option String
  | feedUnreachable .. | feedMalformed .. =>
    some "The latest release could not be determined, so nothing was changed"
  | downloadFailed .. => some "The installed version was left untouched"
  | signatureMissing .. | signatureInvalid .. | signerKeyMismatch .. =>
    some "The installer was rejected and never executed"
  | platformNotSupported .. => some "This operation relies on Windows PowerShell"
  | processFailed _ _ stderr => if allBlank stderr then none else some (trimmed stderr)
  | _ => none

/-- What can be done about a failure. -/
def suggestion : Failure → Option String
  | feedUnreachable .. | feedMalformed .. =>
    some "Check network connectivity or override the feed with the upgrade_api_url setting"
  | downloadFailed .. => some "The next scheduled run will retry the download"
  | noInstallerAsset .. | ambiguousInstallerAsset .. =>
    some "Check the installer_pattern setting against the asset names of the release"
  | signatureMissing .. | signatureInvalid .. | signerKeyMismatch .. =>
    some "Do not install this file manually; report the release to the Certbot maintainers"
  | configuration .. | invalidPublicKey .. =>
    some "Fix the value in the configuration file, environment or HKLM\\Software\\Certbot"
  | taskNotFound .. =>
    some "Create it using the following command: 'certbot-updater task create'"
  | adminRightsRequired => some "Start PowerShell with 'Run as administrator'"
  | _ => none

/-- The advice on a failure without contexts. -/
def advice (f : Failure) : Advice where
  message := f.message
  category := some f.category
  details := f.details
  suggestion := f.suggestion

end Failure

/-! ## Failures with contexts

On its way to the top a failure may be given contexts, each of which says what was being done.  A
failure of input or output carries the system's own error as one more link below it. -/

/-- What stands at the root of a problem. -/
inductive ProblemRoot where
  | failure (f : Failure)
  | io (fault : IoFault)
  | advice (a : Advice)
  | plain (message : String)
  deriving Repr

/-- The texts of a root and of what it stems from. -/
def ProblemRoot.links : ProblemRoot → List String
  | .failure (.io fault) => [(Failure.io fault).message, fault.text]
  | .failure f => [f.message]
  | .io fault => [fault.text]
  | .advice a => [a.text]
  | .plain message => [message]

/-- A root with the contexts added to it, the last one first. -/
structure Problem where
  contexts : List String := []
  root : ProblemRoot
  deriving Repr

namespace Problem

/-- A failure to which no context was added. -/
def ofFailure (f : Failure) : Problem :=
  { root := .failure f }

/-- A problem with one more context around it. -/
def within (p : Problem) (context : String) : Problem :=
  { p with contexts := context :: p.contexts }

/-- All texts of a problem, from the outermost context to the innermost cause. -/
def links (p : Problem) : List String :=
  p.contexts ++ p.root.links

/-- All texts of a problem in one line. -/
def chain (p : Problem) : String :=
  ": ".intercalate p.links

/-- What is shown for a problem: the advice on the failure at its root, with the whole chain as its
message where there is more than one link. -/
def advice (p : Problem) : Advice :=
  match p.root with
  | .failure f => if p.links.length > 1 then { f.advice with message := p.chain } else f.advice
  | .io fault =>
    if fault.kind = .permissionDenied then
      { message := p.chain
        suggestion := some
          "Run the updater from an elevated (Administrator) shell or as the SYSTEM account" }
    else { message := p.chain }
  | _ => { message := p.chain }

end Problem

end SignedUpgrade
