import SignedUpgrade.Json.Decode
import SignedUpgrade.Process.PowerShell
import SignedUpgrade.Signature.Report

/-!
# Looking at signatures

The signature of an installer is looked at by an `Inspector`.

* `Inspector.authenticode` — asks the platform by a script, which prints its report as one object;
* `Inspector.unsupported` — the inspector of platforms without such signatures, which never accepts;
* `Inspector.verified` — inspects a file and accepts it or not.
-/

namespace SignedUpgrade

open Json Text

/-- A party that reports on the signature of a file. -/
abbrev Inspector (σ : Type) := Path → Site σ → Except Failure SignatureReport × Site σ

namespace SignatureReport

/-- A printed report as far as it is read. -/
structure Printed where
  status : Option String := none
  message : Option (Option String) := none
  subject : Option (Option String) := none
  signerKey : Option (Option String) := none

/-- The fields of a printed report. -/
def printedShape : Shape Printed where
  name := "RawReport"
  start := {}
  fields := [
    { name := "Status"
      isSet := (·.status.isSome)
      want := fun record letters =>
        (wantString letters).map fun (s, r) => ({ record with status := some s }, r) },
    { name := "StatusMessage"
      optional := true
      isSet := (·.message.isSome)
      want := fun record letters =>
        (wantOptional wantString letters).map fun (m, r) => ({ record with message := some m }, r) },
    { name := "Subject"
      optional := true
      isSet := (·.subject.isSome)
      want := fun record letters =>
        (wantOptional wantString letters).map fun (s, r) => ({ record with subject := some s }, r) },
    { name := "SignerPublicKey"
      optional := true
      isSet := (·.signerKey.isSome)
      want := fun record letters =>
        (wantOptional wantString letters).map fun (k, r) =>
          ({ record with signerKey := some k }, r) }]

/-- The signer's key as it was printed: an empty text stands for no key. -/
def keyOfPrinted (printed : Option String) : Except Base64.Fault (Option Bytes) :=
  match printed with
  | none => .ok none
  | some text => if text = "" then .ok none else (Base64.decode (Utf8.encode text)).map some

/-- The report that a script printed about the file at a path. -/
def ofPrinted (wording : Wording) (path : Path) (printed : String) :
    Except Failure SignatureReport :=
  let letters := lettersOf (trimmed printed)
  match decode (wantRecord printedShape) letters with
  | .error fault =>
    .error (.signatureInspectionFailed path.text
      ("unexpected PowerShell output: " ++ wording letters fault))
  | .ok record =>
    match keyOfPrinted (record.signerKey.getD none) with
    | .error fault =>
      .error (.signatureInspectionFailed path.text
        ("signer public key is not base64: " ++ fault.message))
    | .ok signerKey =>
      .ok {
        status := .ofName (record.status.getD "")
        message := (record.message.getD none).getD ""
        subject := record.subject.getD none
        signerKey }

end SignatureReport

namespace Inspector

variable {σ : Type}

/-- The script that prints the report on the file at a path. -/
def script (path : Path) : String :=
  "$ErrorActionPreference = 'Stop'; $sig = Get-AuthenticodeSignature -LiteralPath "
    ++ Quoted.quote path.text
    ++ "; $cert = $sig.SignerCertificate; [pscustomobject]@\x7b Status = $sig.Status.ToString(); StatusMessage = $sig.StatusMessage; Subject = $(if ($cert) \x7b $cert.Subject \x7d else \x7b $null \x7d); SignerPublicKey = $(if ($cert) \x7b [Convert]::ToBase64String($cert.GetPublicKey()) \x7d else \x7b $null \x7d) \x7d | ConvertTo-Json -Compress"

/-- Asks the platform by a script. -/
def authenticode (wording : Wording) (runner : Runner σ) : Inspector σ := fun path site =>
  let site := site.debug ("Inspecting Authenticode signature of " ++ path.text)
  match PowerShell.run runner (script path) site with
  | (.error failure, site) => (.error failure, site)
  | (.ok output, site) =>
    if output.succeeded then (SignatureReport.ofPrinted wording path output.stdout, site)
    else (.error (.signatureInspectionFailed path.text (trimmed output.stderr)), site)

/-- Refuses every file. -/
def unsupported : Inspector σ := fun _ site =>
  (.error (.platformNotSupported "Authenticode signature verification"), site)

/-- The inspector of the platform that the updater runs on. -/
def ofPlatform (_ : Runner σ) : Inspector σ :=
  unsupported

/-- Inspects a file and accepts it only if its signature is good and made with the trusted key. -/
def verified (inspector : Inspector σ) (trusted : TrustedKey) : Path → Site σ →
    Except Failure Unit × Site σ := fun path site =>
  match inspector path site with
  | (.error failure, site) => (.error failure, site)
  | (.ok report, site) =>
    match report.verify trusted path with
    | .ok () => (.ok (), site.logged { level := .info, text := report.acknowledgement })
    | .error failure => (.error failure, site)

end Inspector

end SignedUpgrade
