import SignedUpgrade.Audit.Sink
import SignedUpgrade.Proofs.Script.Tokens
import SignedUpgrade.Schedule.Task
import SignedUpgrade.Signature.Inspector

/-!
# Injection into scripts

The texts that are written into scripts are not trusted: messages of events tell tags, names and
addresses from the feed, and paths are named after assets.  A text is safe in a script as long as
the apostrophe is its only quote.  The four typographic quotes are not doubled, and a single one of
them ends the literal that it stands in.

* `Carries` — when a script has a text as the value of a token, and when all its other tokens are
  what they should be;
* `quoting_iff` — **the scripts of the updater carry exactly the straight texts**.
-/

namespace SignedUpgrade

open Text Quoted

/-! ## Carrying -/

/-- A script has the text that belongs to a value in one literal, among tokens that are always the
same.  This is so for exactly the straight values, and for exactly the settled ones the other
tokens are still the same. -/
def Carries (script text : String → String) : Prop :=
  ∃ pre post, ∀ value : String,
    (HasTokens (script value) (pre ++ .literal (text value).toList :: post)
        ↔ Straight value.toList)
      ∧ ((∃ read, HasTokens (script value) (pre ++ .literal read :: post)) ↔ Settled value.toList)

@[simp] lemma toList_quote (s : String) : (quote s).toList = quoteChars s.toList := by
  simp [quote]

/-- A script with one literal, between whole parts, carries the value of the literal. -/
lemma carries_of_literal {script text : String → String} {before after : List Char}
    (spelled : ∀ value,
      (script value).toList = before ++ (quoteChars (text value).toList ++ after))
    (first : Whole before) (last : Whole after) (unquoted : Unquoted after)
    (straight : ∀ value, Straight (text value).toList ↔ Straight value.toList)
    (settled : ∀ value, Settled (text value).toList ↔ Settled value.toList) :
    Carries script text := by
  obtain ⟨pre, post, slot⟩ := Slot.of_whole first last unquoted
  refine ⟨pre, post, fun value => ?_⟩
  simp only [HasTokens, spelled]
  rw [← straight, ← settled]
  exact ⟨slot.value_iff, slot.place_iff⟩

/-! ## Texts in texts

The command of the task's shell is a script of its own, with the path of the updater in it, and is
written into the script that registers the task.  So the path is quoted twice.
-/

/-- A text without quotes. -/
def Plain (cs : List Char) : Prop :=
  ∀ c ∈ cs, isQuote c = false

instance (cs : List Char) : Decidable (Plain cs) :=
  List.decidableBAll _ cs

lemma straight_append {cs ds : List Char} :
    Straight (cs ++ ds) ↔ Straight cs ∧ Straight ds := by
  simp only [Straight, List.mem_append]
  constructor
  · intro h
    exact ⟨fun c mem => h c (.inl mem), fun c mem => h c (.inr mem)⟩
  · rintro ⟨first, last⟩ c (mem | mem)
    · exact first c mem
    · exact last c mem

lemma mem_double {c : Char} {cs : List Char} : c ∈ double cs ↔ c ∈ cs := by
  induction cs with
  | nil => rfl
  | cons d ds ih =>
    by_cases same : d = apostrophe
    · rw [same, double_apostrophe]
      simp [ih]
    · rw [double_other same]
      simp [ih]

lemma straight_double {cs : List Char} : Straight (double cs) ↔ Straight cs := by
  simp only [Straight, mem_double]

/-- A text without quotes settles if no quote waits. -/
lemma settles_plain {waiting : Bool} {cs : List Char} (plain : Plain cs) :
    settles waiting cs = !waiting := by
  induction cs generalizing waiting with
  | nil => rfl
  | cons c cs ih =>
    have head := plain c List.mem_cons_self
    have other : c ≠ apostrophe := by
      rintro rfl
      cases head
    rw [settles, if_neg other, head, if_neg (by simp),
      ih fun d mem => plain d (List.mem_cons_of_mem _ mem)]
    simp

/-- A text without quotes in front of a text decides nothing, if no quote waits. -/
lemma settles_plain_append {cs : List Char} (plain : Plain cs) (ds : List Char) :
    settles false (cs ++ ds) = settles false ds := by
  induction cs with
  | nil => rfl
  | cons c cs ih =>
    have head := plain c List.mem_cons_self
    have other : c ≠ apostrophe := by
      rintro rfl
      cases head
    rw [List.cons_append, settles, if_neg other, head, if_neg (by simp),
      ih fun d mem => plain d (List.mem_cons_of_mem _ mem)]
    simp

lemma settles_apostrophe (waiting : Bool) (cs : List Char) :
    settles waiting (apostrophe :: cs) = settles waiting cs := by
  rw [settles, if_pos rfl]

/-- Neither does one behind it, and apostrophes may stand in between or be doubled. -/
lemma settles_double_append {waiting : Bool} {cs ds : List Char} (plain : Plain ds) :
    settles waiting (double cs ++ apostrophe :: ds) = settles waiting cs := by
  induction cs generalizing waiting with
  | nil =>
    rw [double, List.nil_append, settles_apostrophe, settles_plain plain]
    rfl
  | cons c cs ih =>
    by_cases same : c = apostrophe
    · rw [same, double_apostrophe, List.cons_append, List.cons_append, settles_apostrophe,
        settles_apostrophe, settles_apostrophe, ih]
    · rw [double_other same, List.cons_append, settles, if_neg same, ih, ih, settles, if_neg same]

lemma straight_of_plain {cs : List Char} (plain : Plain cs) : Straight cs := by
  intro c mem quote
  rw [plain c mem] at quote
  cases quote

/-- A text with one quoted text, and no other quotes, is as straight as that text, and settles if
that text does. -/
lemma quoted_iff {s : String} {before value after : List Char}
    (spelled : s.toList = before ++ (quoteChars value ++ after)) (first : Plain before)
    (last : Plain after) :
    (Straight s.toList ↔ Straight value) ∧ (Settled s.toList ↔ Settled value) := by
  have shape : quoteChars value = [apostrophe] ++ (double value ++ [apostrophe]) := rfl
  rw [spelled, shape]
  constructor
  · have apostrophes : Straight [apostrophe] := by decide
    simp only [straight_append, straight_double, straight_of_plain first, straight_of_plain last,
      apostrophes, true_and, and_true]
  · rw [Settled, settles_plain_append first, List.append_assoc, List.append_assoc,
      List.singleton_append, List.singleton_append, settles_apostrophe, settles_double_append last,
      Settled]

/-! ## The scripts

The characters of a script are those of its literals and of the texts between them.  Each text is
spelled out in the script, so its characters can be told one by one, and the walk through them be
computed.
-/

-- a walk goes as deep as a text is long
set_option maxRecDepth 4000

section Spelling

variable {s t text : String} {before after cs ds : List Char}

lemma toList_append_eq (h : s.toList = cs) (h' : t.toList = ds) : (s ++ t).toList = cs ++ ds := by
  rw [String.toList_append, h, h']

lemma toList_quote_eq (h : s.toList = cs) : (quote s).toList = quoteChars cs := by
  rw [toList_quote, h]

lemma toList_around (first : s.toList = before) (last : t.toList = after) :
    (s ++ quote text ++ t).toList = before ++ (quoteChars text.toList ++ after) := by
  rw [String.toList_append, String.toList_append, toList_quote, first, last, List.append_assoc]

/-- A text in which a literal stands within a longer text. -/
lemma toList_within {u : String} (start : u.toList = cs)
    (middle : s.toList = before ++ (quoteChars text.toList ++ after)) (ending : t.toList = ds) :
    (u ++ s ++ t).toList = (cs ++ before) ++ (quoteChars text.toList ++ (after ++ ds)) := by
  rw [String.toList_append, String.toList_append, start, middle, ending]
  simp only [List.append_assoc]

/-- What holds of characters holds of the text that is spelled with them. -/
lemma holds_of_chars {P : List Char → Prop} (chars : s.toList = cs) (holds : P cs) :
    P s.toList := by
  rwa [chars]

/-- A script that is a literal between two texts carries the value of the literal. -/
lemma carries_around {script : String → String}
    (shape : ∀ value, script value = s ++ quote value ++ t) (starts : s.toList = before)
    (ends : t.toList = after) (first : Whole before) (last : Whole after)
    (unquoted : Unquoted after) : Carries script id := by
  refine carries_of_literal (fun value => ?_) first last unquoted (fun _ => Iff.rfl)
    fun _ => Iff.rfl
  rw [shape]
  exact toList_around starts ends

end Spelling

/-- The script of an event carries its message. -/
lemma carries_eventScript (severity : Severity) : Carries (Sink.eventScript severity) id := by
  have nothing : Whole [] := rfl
  refine carries_of_literal (fun message => toList_append_eq rfl ?_) ?_ nothing (by decide)
    (fun _ => Iff.rfl) fun _ => Iff.rfl
  · rw [List.append_nil]
    exact toList_quote message
  · cases severity
    all_goals
      apply holds_of_chars
      case chars =>
        repeat' first
          | with_reducible apply toList_append_eq
          | with_reducible apply toList_quote_eq
          | exact String.toList_ofList
      case holds => decide

/-- The script of an inspection carries the path of the file. -/
lemma carries_signatureScript : Carries (fun path => Inspector.script path) id :=
  carries_around (fun _ => rfl) String.toList_ofList String.toList_ofList (by decide) (by decide)
    (by decide)

section Tasks

open ScheduledTask

variable (updater : Path) (wording : Json.Wording)

lemma carries_statusScript : Carries (fun name => statusScript { name, updater, wording }) id :=
  carries_around (fun _ => rfl) String.toList_ofList String.toList_ofList (by decide) (by decide)
    (by decide)

lemma carries_deleteScript : Carries (fun name => deleteScript { name, updater, wording }) id :=
  carries_around (fun _ => rfl) String.toList_ofList String.toList_ofList (by decide) (by decide)
    (by decide)

lemma carries_enableScript : Carries (fun name => enableScript { name, updater, wording }) id :=
  carries_around (fun _ => rfl) String.toList_ofList String.toList_ofList (by decide) (by decide)
    (by decide)

lemma carries_disableScript : Carries (fun name => disableScript { name, updater, wording }) id :=
  carries_around (fun _ => rfl) String.toList_ofList String.toList_ofList (by decide) (by decide)
    (by decide)

/-- What the task's shell is told is a script that carries the path of the updater. -/
lemma carries_innerCommand : Carries (fun path => innerCommand { updater := path, wording }) id :=
  carries_around (fun _ => rfl) String.toList_ofList String.toList_ofList (by decide) (by decide)
    (by decide)

/-- The command line of the task's shell has no other quotes than those of the path. -/
lemma argument_iff (path : String) :
    (Straight (argument { updater := path, wording }).toList ↔ Straight path.toList)
      ∧ (Settled (argument { updater := path, wording }).toList ↔ Settled path.toList) :=
  quoted_iff (toList_within String.toList_ofList
    (toList_around String.toList_ofList String.toList_ofList) String.toList_ofList)
    (by decide) (by decide)

/-- What stands behind the first literal of a script. -/
lemma regroup (before literal plain name next description last : String) :
    before ++ literal ++ plain ++ name ++ next ++ description ++ last
      = before ++ literal ++ (plain ++ name ++ next ++ description ++ last) := by
  simp only [String.append_assoc]

/-- The script that registers the task carries the command line of the task's shell. -/
lemma carries_createScript :
    Carries (fun path => createScript { updater := path, wording })
      (fun path => argument { updater := path, wording }) := by
  apply carries_of_literal
  case spelled =>
    intro path
    unfold createScript
    dsimp only
    rw [regroup]
    exact toList_around String.toList_ofList rfl
  case first => decide
  case straight => exact fun path => (argument_iff wording path).1
  case settled => exact fun path => (argument_iff wording path).2
  all_goals
    apply holds_of_chars
    case chars =>
      repeat' first
        | with_reducible apply toList_append_eq
        | with_reducible apply toList_quote_eq
        | exact String.toList_ofList
    case holds => decide

end Tasks

/-! ## What quoting is good for -/

/-- **The updater's scripts carry exactly the straight texts.**  A literal is read as the text that
it was written for if and only if the apostrophe is the only quote of that text, and it ends where
it was closed if and only if the other quotes of that text come in pairs.  For each script, the
first is what makes its literal the text that was given, and the second is what keeps its other
tokens from depending on that text: messages of events, paths of inspected files, and paths and
names of the scheduled task. -/
theorem quoting_iff (value : String) {rest : List Char} (unquoted : Unquoted rest)
    (severity : Severity) (updater : Path) (wording : Json.Wording) :
    (readLiteral ((quote value).toList ++ rest) = some (value.toList, rest) ↔ Straight value.toList)
      ∧ ((∃ read, readLiteral ((quote value).toList ++ rest) = some (read, rest))
          ↔ Settled value.toList)
      ∧ Carries (Sink.eventScript severity) id
      ∧ Carries (fun path => Inspector.script path) id
      ∧ Carries (fun path => ScheduledTask.createScript { updater := path, wording })
          (fun path => ScheduledTask.argument { updater := path, wording })
      ∧ Carries (fun path => ScheduledTask.innerCommand { updater := path, wording }) id
      ∧ Carries (fun name => ScheduledTask.statusScript { name, updater, wording }) id
      ∧ Carries (fun name => ScheduledTask.deleteScript { name, updater, wording }) id
      ∧ Carries (fun name => ScheduledTask.enableScript { name, updater, wording }) id
      ∧ Carries (fun name => ScheduledTask.disableScript { name, updater, wording }) id := by
  rw [toList_quote]
  exact ⟨readLiteral_quoteChars_iff unquoted, readLiteral_ends_iff unquoted,
    carries_eventScript severity, carries_signatureScript, carries_createScript wording,
    carries_innerCommand wording, carries_statusScript updater wording,
    carries_deleteScript updater wording, carries_enableScript updater wording,
    carries_disableScript updater wording⟩

/-- Apostrophes are read as they were written, in front of a pipe. -/
theorem quoting_apostrophes :
    Unquoted [' ', '|'] ∧ readLiteral ((quote "it's").toList ++ [' ', '|'])
      = some ("it's".toList, [' ', '|']) := by
  have unquoted : Unquoted [' ', '|'] := by decide
  have straight : Straight "it's".toList := by decide +kernel
  exact ⟨unquoted, (quoting_iff "it's" unquoted .information ⟨"updater.exe"⟩
    fun _ _ => "no status").1.2 straight⟩

/-- A typographic quote is not doubled: a text with one can end its literal, and what follows is
read as a command. -/
theorem quote_not_faithful :
    ¬ ∀ (value : String) (rest : List Char), Unquoted rest →
      readLiteral ((quote value).toList ++ rest) = some (value.toList, rest) := by
  intro faithful
  have read := faithful "\u2019; calc; \u2019" [] (by decide)
  have escaped : readLiteral ((quote "\u2019; calc; \u2019").toList ++ [])
      = some ([], "; calc; \u2019'".toList) := by
    decide
  rw [escaped] at read
  cases (Prod.mk.inj (Option.some.inj read)).2

end SignedUpgrade
