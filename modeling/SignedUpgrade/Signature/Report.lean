import SignedUpgrade.Files.Path
import SignedUpgrade.Signature.TrustedKey

/-!
# Signature reports

What the platform says about the signature inside a file, and whether that is enough.

* `SignatureStatus` — the platform's verdict;
* `SignatureReport` — the verdict with its explanation and the signer;
* `SignatureReport.verify` — accepts a report only if the verdict is good and the signer's key is
  the trusted one.  The two are independent: a good verdict on another key is refused, and so is a
  bad verdict on the trusted key.
-/

namespace SignedUpgrade

open Text

/-- The platform's verdict on a signature. -/
inductive SignatureStatus where
  /-- The signature is intact and its certificate is trusted. -/
  | valid
  /-- The file has no signature. -/
  | notSigned
  /-- The file was changed after it was signed. -/
  | hashMismatch
  /-- The certificate is not trusted. -/
  | notTrusted
  /-- Files of this kind cannot be signed. -/
  | notSupportedFileFormat
  /-- The certificates do not fit together. -/
  | incompatible
  /-- The platform could not tell. -/
  | unknownError
  /-- A verdict that is not known here. -/
  | other (name : String)
  deriving DecidableEq, Repr

namespace SignatureStatus

/-- The name of a verdict. -/
def name : SignatureStatus → String
  | .valid => "Valid"
  | .notSigned => "NotSigned"
  | .hashMismatch => "HashMismatch"
  | .notTrusted => "NotTrusted"
  | .notSupportedFileFormat => "NotSupportedFileFormat"
  | .incompatible => "Incompatible"
  | .unknownError => "UnknownError"
  | .other name => name

/-- The verdicts that are known here. -/
def known : List SignatureStatus :=
  [.valid, .notSigned, .hashMismatch, .notTrusted, .notSupportedFileFormat, .incompatible,
   .unknownError]

/-- The verdict with a name. -/
def ofName (name : String) : SignatureStatus :=
  (known.find? (·.name = name)).getD (.other name)

/-- Whether a verdict is one of those that are known here. -/
def isKnown : SignatureStatus → Bool
  | .other _ => false
  | _ => true

/-- The verdict with the name of a verdict has that name. -/
theorem name_ofName (name : String) : (ofName name).name = name := by
  unfold ofName
  cases h : known.find? (·.name = name) with
  | none => rfl
  | some s => simpa using List.find?_some h

end SignatureStatus

/-- What the platform says about the signature of a file. -/
structure SignatureReport where
  status : SignatureStatus
  message : String
  subject : Option String
  signerKey : Option Bytes
  deriving DecidableEq, Repr

namespace SignatureReport

/-- Accepts a report on the file at a path, or tells why not. -/
def verify (r : SignatureReport) (trusted : TrustedKey) (path : Path) : Except Failure Unit :=
  match r.status with
  | .valid =>
    match r.signerKey with
    | some key => if trusted.accepts key then .ok () else .error (.signerKeyMismatch path.text)
    | none => .error (.signerKeyMismatch path.text)
  | .notSigned => .error (.signatureMissing path.text)
  | status => .error (.signatureInvalid path.text status.name r.message)

/-- What the log says about an accepted report. -/
def acknowledgement (r : SignatureReport) : String :=
  "Installer signed by trusted publisher"
    ++ (match r.subject with | some subject => " " ++ subject | none => "")

end SignatureReport

end SignedUpgrade
