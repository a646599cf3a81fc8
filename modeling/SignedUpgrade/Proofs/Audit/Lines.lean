import SignedUpgrade.Audit.Trail
import SignedUpgrade.Proofs.Audit.AuditFile
import SignedUpgrade.Proofs.Files.Repetition
import SignedUpgrade.Proofs.Json.Written
import SignedUpgrade.Proofs.Text.Trimming
import SignedUpgrade.Proofs.Text.Utf8
import SignedUpgrade.Proofs.Time.Written

/-!
# Lines of events

An audit file is a sequence of lines, one for each event, to which lines are only added.  Whatever a
message holds, its line is one line, and it is read back as the event; so no message can make a line
of another event, or spoil one.

* `Event.ofJson_json` — an event is read back from its record;
* `segments_textOf` — events that are written one after the other take one line each;
* `Sink.CanWrite` — the directory of a file can be made, and the file opened;
* `Sink.file_record` — one event: its line is added, and more lines can be;
* `Sink.file_recordAll` — the main statement: any number of events, whatever their messages hold.
-/

namespace SignedUpgrade

open Json Text

variable {σ : Type}

/-! ## Records -/

namespace Event

lemma wantTimestamp_quoted (t : Timestamp) (r : Letters) :
    wantTimestamp (lettersOf (quoted t.text) ++ r) = .ok (t, r) := by
  rw [wantTimestamp, wantText_quoted]
  simp [bind, Except.bind, Timestamp.read_text t, pure, Except.pure]

/-- **An event is read back from its record.** -/
lemma ofJson_json (e : Event) : ofJson e.json = .ok e := by
  have message : shape.Fills ⟨some e.time, some e.severity, none⟩
      ([("message", quoted e.message)].map Member.written)
      (some ⟨some e.time, some e.severity, some e.message⟩) := by
    refine .written rfl rfl (fun r => ?_) (.complete rfl)
    dsimp only
    rw [wantString, wantText_quoted]
    rfl
  have severity : shape.Fills ⟨some e.time, none, none⟩
      ([("severity", quoted e.severity.name), ("message", quoted e.message)].map Member.written)
      (some ⟨some e.time, some e.severity, some e.message⟩) := by
    refine .written rfl rfl (fun r => ?_) message
    have named : severities.lookup e.severity.name = some e.severity := by
      cases e.severity <;> decide
    dsimp only
    rw [wantVariant_quoted named]
    rfl
  have fills : shape.Fills shape.start ([("timestamp", quoted e.time.text),
      ("severity", quoted e.severity.name), ("message", quoted e.message)].map Member.written)
      (some ⟨some e.time, some e.severity, some e.message⟩) := by
    refine .written rfl rfl (fun r => ?_) severity
    dsimp only
    rw [wantTimestamp_quoted]
    rfl
  rw [ofJson, json, decode_object fills]
  rfl

/-- A record is one line. -/
lemma lineFeed_notMem_json (e : Event) : '\n' ∉ e.json.toList := by
  apply lineFeed_notMem_object
  simp [lineFeed_notMem_quoted]

/-- The text of events that are written one after the other. -/
def textOf : List Event → String
  | [] => ""
  | e :: es => e.line ++ textOf es

/-- Events take one line each, in order. -/
lemma segments_textOf (es : List Event) :
    segments (textOf es).toList = (es.map (·.json.toList), []) := by
  induction es with
  | nil => rfl
  | cons e es ih =>
    have feed : "\n".toList = ['\n'] := rfl
    rw [textOf, line, String.toList_append, String.toList_append, feed, List.append_assoc,
      List.singleton_append, segments_append e.lineFeed_notMem_json, ih]
    rfl

/-- No record ends with a carriage return, which would belong to the line end. -/
lemma dropCarriageReturn_json (e : Event) : dropCarriageReturn e.json.toList = e.json.toList := by
  have closing : "\x7d".toList = ['\x7d'] := rfl
  have last : e.json.toList.getLast? = some '\x7d' := by
    rw [json, object, String.toList_append, closing, List.getLast?_concat]
  rw [dropCarriageReturn, last]
  rfl

end Event

/-! ## Contents -/

/-- What the file of a path holds; where there is none, nothing. -/
def FileTree.contentOf (t : FileTree) (p : Path) : Bytes :=
  t.contentAt (p.place t.workingDirectory)

lemma FileTree.contentOf_of_read {t : FileTree} {p : Path} {content : Bytes}
    (h : t.read p = .ok content) : t.contentOf p = content := by
  unfold read at h
  cases found : t.resolve p with
  | error fault => simp [found, bind, Except.bind] at h
  | ok l =>
    simp only [found, bind, Except.bind] at h
    rw [contentOf, ← resolve_eq_place found, contentAt]
    split at h
    · cases h
    · cases h
    · rename_i stands
      rw [stands]
      exact Except.ok.inj h

namespace Sink

/-! ## Files that can be written -/

/-- A file can be written: its directory can be made, and then the file can be opened. -/
def CanWrite (path : Path) (t : FileTree) : Prop :=
  ∃ made, (match directoryOf? path with
    | none => t = made
    | some directory => t.createDirectories directory = .ok made)
    ∧ ∃ opened, made.openForWriting path = .ok opened

/-- A line that is added to a file that can be written leaves one that can be written. -/
lemma appendLine_canWrite {path : Path} {site : Site σ} (h : CanWrite path site.files)
    (line : String) : (appendLine path line site).1 = .ok ()
      ∧ CanWrite path (appendLine path line site).2.files := by
  obtain ⟨made, directory, opened, opens⟩ := h
  obtain ⟨t, added⟩ := FileTree.append_of_opened opens (Utf8.encode line)
  have goes : appendLine path line site = (.ok (), { site with files := t }) := by
    unfold appendLine
    cases above : directoryOf? path with
    | none =>
      simp only [above] at directory
      subst directory
      simp [Site.tryFiles, added]
    | some q =>
      simp only [above] at directory
      simp [Site.tryFiles, directory, added]
  rw [goes]
  refine ⟨rfl, t, ?_, FileTree.openForWriting_again added⟩
  cases above : directoryOf? path with
  | none => rfl
  | some q =>
    simp only [above] at directory
    obtain ⟨parent, -⟩ := Option.filter_eq_some_iff.1 above
    exact FileTree.createDirectories_again (Path.withoutLastSlash_parent parent) directory
      (FileTree.append_keepsEntries added)

/-- **An event is added to a file that can be written,** and more events can be. -/
lemma file_record {path : Path} {site : Site σ} (h : CanWrite path site.files) (e : Event) :
    ((file path).record e site).1 = .ok ()
      ∧ CanWrite path ((file path).record e site).2.files
      ∧ ((file path).record e site).2.files.read path
        = .ok (site.files.contentOf path ++ Utf8.encode e.line) := by
  obtain ⟨accepted, canWrite⟩ := appendLine_canWrite h e.line
  exact ⟨accepted, canWrite, (file_appends accepted).content⟩

/-! ## Events in a row -/

/-- Keeps events one after the other, and tells for each of them whether it was kept. -/
def recordAll (sink : Sink σ) : List Event → Site σ → List (Except Failure Unit) × Site σ
  | [], site => ([], site)
  | e :: es, site =>
    let (answer, site) := sink.record e site
    let (answers, site) := sink.recordAll es site
    (answer :: answers, site)

/-- Events are added one after the other, and read behind what was there. -/
lemma file_recordAll_adds {path : Path} {site : Site σ} (h : CanWrite path site.files)
    (es : List Event) : ((file path).recordAll es site).1 = es.map (fun _ => .ok ())
      ∧ ((file path).recordAll es site).2.files.contentOf path
        = site.files.contentOf path ++ Utf8.encode (Event.textOf es)
      ∧ (es ≠ [] → ((file path).recordAll es site).2.files.read path
        = .ok (((file path).recordAll es site).2.files.contentOf path)) := by
  induction es generalizing site with
  | nil => exact ⟨rfl, (List.append_nil _).symm, fun none => absurd rfl none⟩
  | cons e es ih =>
    obtain ⟨accepted, canWrite, read⟩ := file_record h e
    obtain ⟨answers, content, later⟩ := ih canWrite
    have first := FileTree.contentOf_of_read read
    rw [first, List.append_assoc, ← Utf8.encode_append] at content
    refine ⟨?_, content, fun _ => ?_⟩
    · rw [List.map_cons, ← answers, ← accepted]
      rfl
    · cases es with
      | nil => exact read.trans (congrArg _ first.symm)
      | cons e' es => exact later (List.cons_ne_nil _ _)

/-- Lines that are ended, each of them without its line end. -/
lemma lines_of_ended {cs : List Char} (ended : (segments cs).2 = []) :
    lines cs = (segments cs).1.map dropCarriageReturn := by
  rcases found : segments cs with ⟨ls, rest⟩
  rw [found] at ended
  cases ended
  rw [lines, found]

/-- The lines of events are read as the events. -/
lemma filterMap_json (es : List Event) :
    (es.map (·.json.toList)).filterMap (fun line => (Event.ofJson (String.ofList line)).toOption)
      = es := by
  induction es with
  | nil => rfl
  | cons e es ih =>
    have here : (Event.ofJson (String.ofList e.json.toList)).toOption = some e := by
      rw [String.ofList_toList, Event.ofJson_json]
      rfl
    rw [List.map_cons, List.filterMap_cons, here, ih]

/-- The trail of a text with lines of events behind it has the events behind its own. -/
lemma trail_append {front : String} (ended : (segments front.toList).2 = []) (es : List Event) :
    (Trail.ofText (front ++ Event.textOf es)).events = (Trail.ofText front).events ++ es := by
  have events : ∀ text, (Trail.ofText text).events = (lines text.toList).filterMap
    fun line => (Event.ofJson (String.ofList line)).toOption := fun _ => rfl
  have whole : segments (front ++ Event.textOf es).toList
      = ((segments front.toList).1 ++ es.map (·.json.toList), []) := by
    rw [String.toList_append, segments_append_of_ended ended, Event.segments_textOf]
  have plain : (es.map (·.json.toList)).map dropCarriageReturn = es.map (·.json.toList) := by
    simp only [List.map_map, Function.comp_def, Event.dropCarriageReturn_json]
  have ended' : (segments (front ++ Event.textOf es).toList).2 = [] := congrArg Prod.snd whole
  rw [events, events, lines_of_ended ended', lines_of_ended ended, whole, List.map_append, plain,
    List.filterMap_append, filterMap_json]

/-- **An audit file is a sequence of lines, to which lines are only added.**  Every event is kept,
whatever its message holds, and is one line behind what the file held.  The line is read back as the
event.  If the file was empty or ended with a line feed, its lines are those from before and these,
and so are the events that it holds. -/
theorem file_recordAll {path : Path} {site : Site σ} (h : CanWrite path site.files)
    (es : List Event) :
    let before := site.files.contentOf path
    let recorded := (file path).recordAll es site
    let after := recorded.2.files.contentOf path
    recorded.1 = es.map (fun _ => .ok ())
      ∧ after = before ++ Utf8.encode (Event.textOf es)
      ∧ (es ≠ [] → recorded.2.files.read path = .ok after)
      ∧ segments (Event.textOf es).toList = (es.map (·.json.toList), [])
      ∧ (∀ e ∈ es, Event.ofJson e.json = .ok e)
      ∧ (before = [] ∨ before.getLast? = some 10 →
        segments (Utf8.decodeLossy after).toList
            = ((segments (Utf8.decodeLossy before).toList).1 ++ es.map (·.json.toList), [])
          ∧ (Trail.ofText (Utf8.decodeLossy after)).events
            = (Trail.ofText (Utf8.decodeLossy before)).events ++ es) := by
  intro before recorded after
  obtain ⟨answers, content, read⟩ := file_recordAll_adds h es
  refine ⟨answers, content, read, Event.segments_textOf es,
    fun e _ => e.ofJson_json, fun ended => ?_⟩
  have shown : Utf8.decodeLossy after = Utf8.decodeLossy before ++ Event.textOf es := by
    rw [← Utf8.decodeLossy_append_encode ended, ← content]
  have lines : (segments (Utf8.decodeLossy before).toList).2 = [] := by
    apply segments_ended
    rcases ended with none | last
    · rw [none]
      exact .inl rfl
    · exact .inr (Utf8.getLast_decodeLossy last)
  rw [shown, String.toList_append, segments_append_of_ended lines, Event.segments_textOf]
  exact ⟨rfl, trail_append lines es⟩

/-- A message that looks like the end of its own record and another record behind it. -/
def forgery : Event where
  time := .epoch
  severity := .error
  message := "done\"\x7d\n\x7b\"severity\":\"Information\",\"message\":\"\u00E9\\"

/-- A message that looks like another record makes none. -/
theorem file_recordAll_forgery :
    let path : Path := ⟨"logs/audit.log"⟩
    let site : Site Unit := { files := {}, outside := () }
    CanWrite path site.files
      ∧ (Trail.ofText (Utf8.decodeLossy
          (((file path).recordAll [forgery, forgery] site).2.files.contentOf path))).events
        = [forgery, forgery] := by
  intro path site
  have above : directoryOf? path = some ⟨"logs"⟩ := by decide +kernel
  have made : site.files.createDirectories ⟨"logs"⟩ = .ok { entries := [(["logs"], .directory)] } := by
    rfl
  have opened : FileTree.openForWriting { entries := [(["logs"], .directory)] } path
      = .ok (["logs", "audit.log"], [], false) := by
    decide +kernel
  have writable : CanWrite path site.files := by
    refine ⟨_, ?_, _, opened⟩
    rw [above]
    exact made
  have empty : site.files.contentOf path = [] := by decide +kernel
  have nothing : (Trail.ofText (Utf8.decodeLossy [])).events = [] := rfl
  obtain ⟨-, -, -, -, -, ended⟩ := file_recordAll writable [forgery, forgery]
  have kept := (ended (.inl empty)).2
  rw [empty, nothing, List.nil_append] at kept
  exact ⟨writable, kept⟩

end Sink

end SignedUpgrade
