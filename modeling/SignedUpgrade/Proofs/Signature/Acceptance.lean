import Mathlib.Tactic.Lemma
import SignedUpgrade.Proofs.Json.Records
import SignedUpgrade.Proofs.Text.Base64
import SignedUpgrade.Signature.Inspector

/-!
# Which answers are accepted

The platform is asked about a signature by a script, and whatever the script's process answers is
either accepted or refused.  This file says which answer leads to what, for all answers.

* `SignatureReport.printedRecord` — the record that a printed text decodes as;
* `Inspector.Acceptable` — the answers that show a good signature made with the trusted key;
* `Inspector.Refusal` — the failure that every other answer ends in, with the conditions in the
  order in which they are looked at;
* `Inspector.verified_authenticode` — the main statement: an installer is accepted exactly on an
  acceptable answer, and refused with exactly the failure of the answer otherwise.
-/

namespace SignedUpgrade

open Json Text

namespace SignatureReport

/-! ## Printed reports -/

/-- The record that a printed text decodes as. -/
def printedRecord (printed : String) : Except Json.Fault Printed :=
  decode (wantRecord printedShape) (lettersOf (trimmed printed))

/-- The message of a report; a text that is null or missing is empty. -/
def Printed.shownMessage (record : Printed) : String :=
  (record.message.getD none).getD ""

/-- A report prints a key as a text that is not empty. -/
def Printed.HasKey (record : Printed) (text : String) : Prop :=
  record.signerKey = some (some text) ∧ text ≠ ""

lemma steady_printedShape : printedShape.Steady where
  sets := by
    intro f record result letters rest mem h
    simp only [printedShape, List.mem_cons, List.not_mem_nil, or_false] at mem
    rcases mem with rfl | rfl | rfl | rfl
    all_goals
      obtain ⟨_, _, same⟩ := of_map_eq_ok h
      cases same
      rfl
  keeps := by
    intro f g record result letters rest mem mem' h set
    simp only [printedShape, List.mem_cons, List.not_mem_nil, or_false] at mem mem'
    rcases mem with rfl | rfl | rfl | rfl
    all_goals
      obtain ⟨_, _, same⟩ := of_map_eq_ok h
      cases same
      rcases mem' with rfl | rfl | rfl | rfl
      all_goals first | rfl | exact set

/-- A record that was read has a status. -/
lemma status_of_printedRecord {printed : String} {record : Printed}
    (h : printedRecord printed = .ok record) : ∃ status, record.status = some status := by
  obtain ⟨⟨record', rest⟩, decoded, h⟩ := of_bind_eq_ok h
  have whole : record' = record := by
    dsimp only at h
    split at h
    · exact Except.ok.inj h
    · cases h
  have complete := wantRecord_complete steady_printedShape decoded _ List.mem_cons_self rfl
  rw [whole] at complete
  exact Option.isSome_iff_exists.1 complete

/-- A printed key is read as some bytes exactly if it is their base64 text. -/
lemma decode_key_eq_ok_iff {text : String} {key : Bytes} :
    Base64.decode (Utf8.encode text) = .ok key ↔ text = Base64.encodeString key := by
  rw [Utf8.encode, Base64.decode_encodeChars_eq_ok_iff, String.toList_inj]

/-- A printed key is read as no bytes exactly if it is no base64 text. -/
lemma decode_key_ne_ok_iff {text : String} :
    (∃ fault, Base64.decode (Utf8.encode text) = .error fault)
      ↔ ∀ key, text ≠ Base64.encodeString key := by
  constructor
  · rintro ⟨fault, bad⟩ key same
    rw [decode_key_eq_ok_iff.2 same] at bad
    cases bad
  · intro foreign
    cases read : Base64.decode (Utf8.encode text) with
    | error fault => exact ⟨fault, rfl⟩
    | ok key => exact absurd (decode_key_eq_ok_iff.1 read) (foreign key)

lemma encodeString_eq_empty_iff {key : Bytes} : Base64.encodeString key = "" ↔ key = [] := by
  constructor
  · intro empty
    have read := decode_key_eq_ok_iff.2 empty.symm
    exact (Except.ok.inj read).symm
  · rintro rfl
    rfl

/-- A printed key is decoded, unless it is null, missing or empty. -/
lemma keyOfPrinted_cases (record : Printed) :
    (keyOfPrinted (record.signerKey.getD none) = .ok none ∧ ∀ text, ¬ record.HasKey text)
      ∨ ∃ text, record.HasKey text ∧ keyOfPrinted (record.signerKey.getD none)
        = (Base64.decode (Utf8.encode text)).map some := by
  unfold Printed.HasKey
  cases record.signerKey with
  | none => exact .inl ⟨rfl, by simp⟩
  | some printed =>
    cases printed with
    | none => exact .inl ⟨rfl, by simp⟩
    | some text =>
      by_cases empty : text = ""
      · subst empty
        exact .inl ⟨rfl, by simp⟩
      · exact .inr ⟨text, ⟨rfl, empty⟩, by simp [keyOfPrinted, empty]⟩

lemma Printed.HasKey.unique {record : Printed} {text text' : String} (h : record.HasKey text)
    (h' : record.HasKey text') : text = text' := by
  have same := h.1.symm.trans h'.1
  exact Option.some.inj (Option.some.inj same)

/-- The name of a verdict that is neither good nor "not signed" goes into the failure. -/
lemma verify_of_ne {r : SignatureReport} (trusted : TrustedKey) (path : Path)
    (good : r.status ≠ .valid) (signed : r.status ≠ .notSigned) :
    r.verify trusted path = .error (.signatureInvalid path.text r.status.name r.message) := by
  unfold verify
  split
  · rename_i same
    exact absurd same good
  · rename_i same
    exact absurd same signed
  · rfl

end SignatureReport

namespace Inspector

open SignatureReport

variable {wording : Json.Wording}

/-! ## Verdicts on answers -/

/-- What is made of the answer of the script's process. -/
def verdict (wording : Json.Wording) (trusted : TrustedKey) (path : Path)
    (answer : Except Failure Output) : Except Failure Unit := do
  let output ← answer
  if output.succeeded then
    let report ← ofPrinted wording path output.stdout
    report.verify trusted path
  else .error (.signatureInspectionFailed path.text (trimmed output.stderr))

/-- Nothing but the answer of the script's process counts. -/
lemma verified_eq_verdict {σ : Type} (runner : Runner σ) (trusted : TrustedKey) (path : Path)
    (site : Site σ) :
    (verified (authenticode wording runner) trusted path site).1
      = verdict wording trusted path (PowerShell.run runner (script path)
          (site.debug ("Inspecting Authenticode signature of " ++ path.text))).1 := by
  unfold verified authenticode verdict
  dsimp only
  generalize PowerShell.run runner (script path)
    (site.debug ("Inspecting Authenticode signature of " ++ path.text)) = run
  obtain ⟨answer, site'⟩ := run
  cases answer with
  | error failure => rfl
  | ok output =>
    cases success : output.succeeded with
    | false => simp [success, bind, Except.bind]
    | true =>
      cases printed : ofPrinted wording path output.stdout with
      | error failure => simp [success, printed, bind, Except.bind]
      | ok report =>
        cases accepted : report.verify trusted path <;>
          simp [success, printed, accepted, bind, Except.bind]

/-- An answer that shows a good signature made with the trusted key. -/
def Acceptable (trusted : TrustedKey) (answer : Except Failure Output) : Prop :=
  ∃ output record, answer = .ok output ∧ output.code = some 0
    ∧ printedRecord output.stdout = .ok record
    ∧ record.status = some "Valid" ∧ record.signerKey = some (some trusted.toBase64)
    ∧ trusted.bytes ≠ []

/-- A record that a successful process printed, in which the key, if there is one, is base64. -/
structure Legible (answer : Except Failure Output) (record : Printed) : Prop where
  printed : ∃ output, answer = .ok output ∧ output.code = some 0
    ∧ printedRecord output.stdout = .ok record
  key : ∀ text, record.HasKey text → ∃ key, text = Base64.encodeString key

/-- The failure that an answer ends in.  A process without success is looked at first, then what it
printed, then the key in it, then the status, and whose key it is comes last. -/
inductive Refusal (wording : Json.Wording) (trusted : TrustedKey) (path : Path) :
    Except Failure Output → Failure → Prop where
  | unanswered (failure : Failure) : Refusal wording trusted path (.error failure) failure
  | unsuccessful {output : Output} (code : output.code ≠ some 0) :
    Refusal wording trusted path (.ok output)
      (.signatureInspectionFailed path.text (trimmed output.stderr))
  | undecodable {output : Output} {fault : Json.Fault} (code : output.code = some 0)
    (bad : printedRecord output.stdout = .error fault) :
    Refusal wording trusted path (.ok output)
      (.signatureInspectionFailed path.text ("unexpected PowerShell output: "
        ++ wording (Json.lettersOf (trimmed output.stdout)) fault))
  | unreadableKey {output : Output} {record : Printed} {text : String} {fault : Base64.Fault}
    (code : output.code = some 0) (printed : printedRecord output.stdout = .ok record)
    (key : record.HasKey text) (foreign : ∀ key, text ≠ Base64.encodeString key)
    (bad : Base64.decode (Utf8.encode text) = .error fault) :
    Refusal wording trusted path (.ok output)
      (.signatureInspectionFailed path.text ("signer public key is not base64: " ++ fault.message))
  | missing {answer : Except Failure Output} {record : Printed} (legible : Legible answer record)
    (status : record.status = some "NotSigned") :
    Refusal wording trusted path answer (.signatureMissing path.text)
  | invalid {answer : Except Failure Output} {record : Printed} {status : String}
    (legible : Legible answer record) (named : record.status = some status)
    (signed : status ≠ "NotSigned") (bad : status ≠ "Valid") :
    Refusal wording trusted path answer (.signatureInvalid path.text status record.shownMessage)
  | mismatch {answer : Except Failure Output} {record : Printed} (legible : Legible answer record)
    (good : record.status = some "Valid")
    (other : ∀ text, record.HasKey text → text ≠ trusted.toBase64) :
    Refusal wording trusted path answer (.signerKeyMismatch path.text)

/-- A legible record is judged by its status, its message and its key. -/
lemma Legible.verdict_eq {answer : Except Failure Output} {record : Printed} {status : String}
    (h : Legible answer record) (named : record.status = some status) (trusted : TrustedKey)
    (path : Path) :
    ∃ r : SignatureReport, verdict wording trusted path answer = r.verify trusted path
      ∧ r.status = .ofName status ∧ r.message = record.shownMessage
      ∧ ∀ key, r.signerKey = some key ↔ record.HasKey (Base64.encodeString key) := by
  obtain ⟨output, rfl, code, printed⟩ := h.printed
  obtain ⟨signerKey, decoded, keys⟩ : ∃ signerKey,
      keyOfPrinted (record.signerKey.getD none) = .ok signerKey
      ∧ ∀ key, signerKey = some key ↔ record.HasKey (Base64.encodeString key) := by
    rcases keyOfPrinted_cases record with ⟨decoded, none⟩ | ⟨text, has, decoded⟩
    · exact ⟨_, decoded, fun key => by simp [none]⟩
    · obtain ⟨key, rfl⟩ := h.key text has
      rw [decode_key_eq_ok_iff.2 rfl] at decoded
      refine ⟨_, decoded, fun key' => ?_⟩
      rw [Option.some.injEq]
      constructor
      · rintro rfl
        exact has
      · intro has'
        have read := decode_key_eq_ok_iff.2 (has.unique has')
        rw [decode_key_eq_ok_iff.2 rfl] at read
        exact Except.ok.inj read
  unfold printedRecord at printed
  refine ⟨{
      status := .ofName status
      message := record.shownMessage
      subject := record.subject.getD none
      signerKey }, ?_, rfl, rfl, keys⟩
  simp [verdict, Output.succeeded, code, ofPrinted, printed, decoded, named, bind, Except.bind,
    Printed.shownMessage]

lemma verdict_of_acceptable {trusted : TrustedKey} (path : Path) {answer : Except Failure Output}
    (h : Acceptable trusted answer) : verdict wording trusted path answer = .ok () := by
  obtain ⟨output, record, rfl, code, printed, good, key, filled⟩ := h
  have has : record.HasKey trusted.toBase64 :=
    ⟨key, fun empty => filled (encodeString_eq_empty_iff.1 empty)⟩
  have legible : Legible (.ok output) record :=
    ⟨⟨output, rfl, code, printed⟩, fun text has' => ⟨trusted.bytes, has'.unique has⟩⟩
  obtain ⟨r, judged, status, -, keys⟩ := legible.verdict_eq good trusted path
  have valid : r.status = .valid := status
  have signer : r.signerKey = some trusted.bytes := (keys trusted.bytes).2 has
  rw [judged, verify, valid, signer]
  simp [TrustedKey.accepts]

lemma verdict_of_refusal {trusted : TrustedKey} {path : Path} {answer : Except Failure Output}
    {failure : Failure} (h : Refusal wording trusted path answer failure) :
    verdict wording trusted path answer = .error failure := by
  cases h with
  | unanswered => rfl
  | unsuccessful code => simp [verdict, Output.succeeded, code, bind, Except.bind]
  | undecodable code bad =>
    unfold printedRecord at bad
    simp [verdict, Output.succeeded, code, ofPrinted, bad, bind, Except.bind]
  | @unreadableKey output record text fault code printed key foreign bad =>
    have decoded : keyOfPrinted (record.signerKey.getD none) = .error fault := by
      rcases keyOfPrinted_cases record with ⟨_, none⟩ | ⟨text', has, decoded⟩
      · exact absurd key (none text)
      · rw [has.unique key, bad] at decoded
        exact decoded
    unfold printedRecord at printed
    simp [verdict, Output.succeeded, code, ofPrinted, printed, decoded, bind, Except.bind]
  | missing legible named =>
    obtain ⟨r, judged, status, -, -⟩ := legible.verdict_eq named trusted path
    have unsigned : r.status = .notSigned := status
    rw [judged, verify, unsigned]
  | @invalid _ record name legible named signed bad =>
    obtain ⟨r, judged, status, message, -⟩ := legible.verdict_eq named trusted path
    have shown : r.status.name = name := by rw [status, SignatureStatus.name_ofName]
    have good : r.status ≠ .valid := by
      intro valid
      rw [valid] at shown
      exact bad shown.symm
    have unsigned : r.status ≠ .notSigned := by
      intro unsigned
      rw [unsigned] at shown
      exact signed shown.symm
    rw [judged, verify_of_ne trusted path good unsigned, shown, message]
  | mismatch legible good other =>
    obtain ⟨r, judged, status, -, keys⟩ := legible.verdict_eq good trusted path
    have valid : r.status = .valid := status
    rw [judged, verify, valid]
    cases signer : r.signerKey with
    | none => rfl
    | some key =>
      have different : ¬ trusted.bytes = key := by
        rintro rfl
        exact other _ ((keys _).1 signer) rfl
      simp [TrustedKey.accepts, different]

/-- Every answer is acceptable or ends in a failure. -/
lemma acceptable_or_refusal (wording : Json.Wording) (trusted : TrustedKey) (path : Path)
    (answer : Except Failure Output) :
    Acceptable trusted answer ∨ ∃ failure, Refusal wording trusted path answer failure := by
  cases answer with
  | error failure => exact .inr ⟨_, .unanswered failure⟩
  | ok output =>
    by_cases code : output.code = some 0
    · cases printed : printedRecord output.stdout with
      | error fault => exact .inr ⟨_, .undecodable code printed⟩
      | ok record =>
        obtain ⟨status, named⟩ := status_of_printedRecord printed
        by_cases readable : ∀ text, record.HasKey text → ∃ key, text = Base64.encodeString key
        · have legible : Legible (.ok output) record := ⟨⟨output, rfl, code, printed⟩, readable⟩
          by_cases unsigned : status = "NotSigned"
          · exact .inr ⟨_, .missing legible (unsigned ▸ named)⟩
          · by_cases valid : status = "Valid"
            · subst valid
              by_cases has : record.HasKey trusted.toBase64
              · exact .inl ⟨output, record, rfl, code, printed, named, has.1,
                  fun empty => has.2 (encodeString_eq_empty_iff.2 empty)⟩
              · exact .inr ⟨_, .mismatch legible named fun text has' same => has (same ▸ has')⟩
            · exact .inr ⟨_, .invalid legible named unsigned valid⟩
        · simp only [not_forall, not_exists] at readable
          obtain ⟨text, has, foreign⟩ := readable
          obtain ⟨fault, bad⟩ := decode_key_ne_ok_iff.2 foreign
          exact .inr ⟨_, .unreadableKey code printed has foreign bad⟩
    · exact .inr ⟨_, .unsuccessful code⟩

/-- **An installer is accepted exactly on an acceptable answer, and refused with exactly the failure
of the answer otherwise.**  With an empty trusted key nothing is accepted. -/
theorem verified_authenticode {σ : Type} (wording : Json.Wording) (runner : Runner σ) (path : Path)
    (site : Site σ) :
    let answer := (PowerShell.run runner (script path)
      (site.debug ("Inspecting Authenticode signature of " ++ path.text))).1
    (∀ trusted, (verified (authenticode wording runner) trusted path site).1 = .ok ()
      ↔ Acceptable trusted answer)
    ∧ (∀ trusted failure, (verified (authenticode wording runner) trusted path site).1 = .error failure
      ↔ Refusal wording trusted path answer failure)
    ∧ (verified (authenticode wording runner) ⟨[]⟩ path site).1 ≠ .ok () := by
  intro answer
  have accepted : ∀ trusted, (verified (authenticode wording runner) trusted path site).1 = .ok ()
      ↔ Acceptable trusted answer := by
    intro trusted
    rw [verified_eq_verdict]
    constructor
    · intro ok
      rcases acceptable_or_refusal wording trusted path answer with acceptable | ⟨failure, refusal⟩
      · exact acceptable
      · rw [verdict_of_refusal refusal] at ok
        cases ok
    · exact verdict_of_acceptable path
  refine ⟨accepted, fun trusted failure => ?_, fun ok => ?_⟩
  · rw [verified_eq_verdict]
    constructor
    · intro refused
      rcases acceptable_or_refusal wording trusted path answer with acceptable | ⟨failure', refusal⟩
      · rw [verdict_of_acceptable path acceptable] at refused
        cases refused
      · rw [verdict_of_refusal refusal] at refused
        cases refused
        exact refusal
    · exact verdict_of_refusal
  · obtain ⟨_, _, _, _, _, _, _, filled⟩ := (accepted ⟨[]⟩).1 ok
    exact filled rfl

end Inspector

end SignedUpgrade
