import SignedUpgrade.Proofs.CommandLine.Scanning

/-!
# Which words are orders

A command is read part by part: the options at a place, the name of the part behind them, and then
the words that follow.  Each place is checked for itself, and the options of all places are put
together afterwards.

* `Opens` — the options at a place fit together, and a part is named behind them;
* `readLast_eq_ok_iff`, `readTask_eq_ok_iff`, `readBehind_eq_ok_iff` — what is read behind the parts;
* `ofArguments_eq_ok_iff` — **words that write a command are accepted exactly if the options at each
  place fit together**;
* `writes_of_ofArguments` — **no other words are accepted.**
-/

namespace SignedUpgrade.CommandLine

variable {place : Place} {words front rest : List String} {given : List Given} {part : String}
  {o later : Options} {order : Order} {places : List (List Given)}

/-! ## One part after the other -/

/-- The options at a place fit together, and behind them a part of the command is named. -/
def Opens (place : Place) (words : List String) (o : Options) (part : String)
    (rest : List String) : Prop :=
  ∃ seen, Seen.scan place {} words = .ok (seen, some (part, rest)) ∧ seen.checked = .ok o

/-- Where a part is named behind options, the place opens exactly if these fit together. -/
lemma opens_iff (gives : GivesAll front given) (known : place.names.contains part = true)
    (other : part ≠ Place.helpWord) {part' : String} {rest' : List String} :
    Opens place (front ++ part :: rest) o part' rest'
      ↔ (part = part' ∧ rest = rest') ∧ Fits given ∧ Options.ofGiven given = o := by
  have taken := @Seen.scan_givesAll place {} given front (part :: rest) _ (some (part', rest')) o
    gives (.name known other rest) rfl rfl
  rw [← Options.fits_iff]
  constructor
  · rintro ⟨seen, scanned, checked⟩
    obtain ⟨settled, exclusive⟩ := Seen.checked_eq_ok_iff.1 checked
    obtain ⟨same, all⟩ := taken.1 ⟨seen, scanned, settled⟩
    exact ⟨by simpa using same, all, exclusive⟩
  · rintro ⟨⟨rfl, rfl⟩, all, exclusive⟩
    obtain ⟨seen, scanned, settled⟩ := taken.2 ⟨rfl, all⟩
    exact ⟨seen, scanned, Seen.checked_eq_ok_iff.2 ⟨settled, exclusive⟩⟩

/-- A place opens only with words that give options and name a part. -/
lemma Opens.parted (opens : Opens place words o part rest) :
    ∃ front given, words = front ++ part :: rest ∧ GivesAll front given
      ∧ place.names.contains part = true ∧ part ≠ Place.helpWord := by
  obtain ⟨seen, scanned, checked⟩ := opens
  have settled : seen.settled? ≠ none := by
    rw [(Seen.checked_eq_ok_iff.1 checked).1]
    exact nofun
  obtain ⟨front, given, _, rfl, gives, ends⟩ := (Seen.parted_of_scan scanned settled rfl).1 rfl
  cases ends with
  | name known other words => exact ⟨front, given, rfl, gives, known, other⟩

/-! ## Behind the last part -/

lemma ends_last {named : Option (String × List String)} (ends : Seen.Ends .last rest named) :
    named = none ∧ (rest = [] ∨ rest = ["--"]) := by
  cases ends with
  | nil => exact ⟨rfl, .inl rfl⟩
  | dashes => exact ⟨rfl, .inr rfl⟩
  | name known => cases known

lemma writes_nil_iff : Writes [] places words ↔ ∃ front given rest,
    words = front ++ rest ∧ places = [given] ∧ GivesAll front given ∧ Seen.Ends .last rest none := by
  constructor
  · intro writes
    cases writes with
    | last gives => exact ⟨_, _, [], (List.append_nil _).symm, rfl, gives, .nil⟩
    | dashed gives => exact ⟨_, _, _, rfl, rfl, gives, .dashes⟩
  · rintro ⟨front, given, rest, rfl, rfl, gives, ends⟩
    obtain ⟨-, rfl | rfl⟩ := ends_last ends
    · rw [List.append_nil]
      exact .last gives
    · exact .dashed gives

lemma readLast_eq_ok : readLast words = .ok o ↔ ∃ seen named,
    Seen.scan .last {} words = .ok (seen, named) ∧ seen.settled? = some o
      ∧ ¬ (o.verbose ∧ o.quiet) := by
  rw [readLast, bind_eq_ok_iff]
  simp only [Seen.checked_eq_ok_iff, Prod.exists]

/-- Behind the last part, options are read exactly if they fit together. -/
lemma readLast_eq_ok_iff (writes : Writes [] places words) :
    readLast words = .ok o
      ↔ (∀ given ∈ places, Fits given) ∧ Options.ofGiven places.flatten = o := by
  obtain ⟨front, given, rest, rfl, rfl, gives, ends⟩ := writes_nil_iff.1 writes
  have taken (named) := @Seen.scan_givesAll .last {} given front rest none named o gives ends rfl rfl
  rw [List.forall_mem_singleton, List.flatten_singleton, ← Options.fits_iff, readLast_eq_ok]
  constructor
  · rintro ⟨seen, named, scanned, settled, exclusive⟩
    exact ⟨((taken named).1 ⟨seen, scanned, settled⟩).2, exclusive⟩
  · rintro ⟨all, exclusive⟩
    obtain ⟨seen, scanned, settled⟩ := (taken none).2 ⟨rfl, all⟩
    exact ⟨seen, none, scanned, settled, exclusive⟩

lemma writes_of_readLast (ok : readLast words = .ok o) : ∃ places, Writes [] places words := by
  obtain ⟨seen, named, scanned, settled, -⟩ := readLast_eq_ok.1 ok
  have some : seen.settled? ≠ none := by
    rw [settled]
    exact nofun
  obtain ⟨front, given, rest, rfl, gives, ends⟩ := (Seen.parted_of_scan scanned some rfl).1 rfl
  obtain ⟨rfl, -⟩ := ends_last ends
  exact ⟨[given], writes_nil_iff.2 ⟨front, given, rest, rfl, rfl, gives, ends⟩⟩

/-! ## Behind `task` -/

lemma ofName?_eq_some_iff {name : String} {action : TaskAction} :
    TaskAction.ofName? name = some action ↔ name = action.name := by
  constructor
  · intro known
    unfold TaskAction.ofName? at known
    split at known <;> cases known <;> rfl
  · rintro rfl
    cases action <;> rfl

lemma name_injective {action action' : TaskAction} (same : action.name = action'.name) :
    action = action' :=
  Option.some.inj ((ofName?_eq_some_iff.2 rfl).symm.trans (ofName?_eq_some_iff.2 same))

lemma name_known (action : TaskAction) :
    Place.task.names.contains action.name = true ∧ action.name ≠ Place.helpWord := by
  cases action <;> decide

/-- After `task`, an action is named behind options that fit together, and options that do follow
it. -/
lemma readTask_eq_ok : readTask words = .ok order ↔ ∃ o action rest later,
    Opens .task words o action.name rest ∧ readLast rest = .ok later
      ∧ { command := .task action, options := o.followedBy later } = order := by
  rw [readTask, bind_eq_ok_iff]
  constructor
  · rintro ⟨⟨seen, named⟩, scanned, ok⟩
    dsimp only at ok
    split at ok
    · obtain ⟨o, missing, -⟩ := bind_eq_ok_iff.1 ok
      exact absurd missing Seen.missing_ne_ok
    · rename_i action rest found
      obtain ⟨⟨name, _⟩, rfl, found⟩ := Option.bind_eq_some_iff.1 found
      obtain ⟨_, known, ⟨⟩⟩ := Option.map_eq_some_iff.1 found
      obtain rfl := ofName?_eq_some_iff.1 known
      obtain ⟨later, last, ok⟩ := bind_eq_ok_iff.1 ok
      obtain ⟨o, checked, ok⟩ := bind_eq_ok_iff.1 ok
      exact ⟨o, action, _, later, ⟨seen, scanned, checked⟩, last, Except.ok.inj ok⟩
  · rintro ⟨o, action, rest, later, ⟨seen, scanned, checked⟩, last, rfl⟩
    refine ⟨_, scanned, ?_⟩
    dsimp only
    rw [Option.bind_some, ofName?_eq_some_iff.2 rfl, Option.map_some]
    dsimp only
    rw [last, checked]
    rfl

/-- The words behind `task` write an action exactly if the options at each place fit together. -/
lemma readTask_eq_ok_iff {action : TaskAction} (writes : Writes [action.name] places words) :
    readTask words = .ok order ↔ (∀ given ∈ places, Fits given)
      ∧ { command := .task action, options := .ofGiven places.flatten } = order := by
  cases writes with
  | @part _ _ front rest given places gives writes =>
    obtain ⟨known, other⟩ := name_known action
    rw [readTask_eq_ok, List.forall_mem_cons, List.flatten_cons, Options.ofGiven_append]
    constructor
    · rintro ⟨o, action', rest', later, opens, last, rfl⟩
      obtain ⟨⟨same, rfl⟩, fits, rfl⟩ := (opens_iff gives known other).1 opens
      obtain ⟨all, rfl⟩ := (readLast_eq_ok_iff writes).1 last
      exact ⟨⟨fits, all⟩, by rw [name_injective same]⟩
    · rintro ⟨⟨fits, all⟩, rfl⟩
      exact ⟨_, action, rest, _, (opens_iff gives known other).2 ⟨⟨rfl, rfl⟩, fits, rfl⟩,
        (readLast_eq_ok_iff writes).2 ⟨all, rfl⟩, rfl⟩

lemma writes_of_readTask (ok : readTask words = .ok order) :
    ∃ action places, order.command = .task action ∧ Writes [action.name] places words := by
  obtain ⟨o, action, rest, later, opens, last, rfl⟩ := readTask_eq_ok.1 ok
  obtain ⟨front, given, rfl, gives, -⟩ := opens.parted
  obtain ⟨places, writes⟩ := writes_of_readLast last
  exact ⟨action, given :: places, rfl, .part gives writes⟩

/-! ## Orders -/

/-- The order that is named by a part at the top, and by the words behind it. -/
def readBehind (part : String) (words : List String) : Except Refusal Order :=
  if part = "run" then do return { command := .run, options := ← readLast words }
  else if part = "check" then do return { command := .check, options := ← readLast words }
  else readTask words

/-- Whatever part is named at the top, the options before it are looked at last. -/
lemma ofArguments_eq : Order.ofArguments words = do
    let (seen, named) ← Seen.scan .top {} words
    match named with
    | none => return { command := .run, options := ← seen.missing }
    | some (part, rest) =>
      let inner ← readBehind part rest
      return { inner with options := (← seen.checked).followedBy inner.options } := by
  rw [Order.ofArguments]
  congr 1
  funext ⟨seen, named⟩
  rcases named with _ | ⟨part, rest⟩
  · rfl
  · dsimp only
    rw [readBehind]
    split
    · rename_i same
      cases same
      rw [if_pos rfl]
      cases readLast rest <;> rfl
    · rename_i same
      cases same
      rw [if_neg (by decide), if_pos rfl]
      cases readLast rest <;> rfl
    · rename_i run check same
      cases same
      rw [if_neg run, if_neg check]
    · rename_i same
      cases same

lemma ofArguments_eq_ok : Order.ofArguments words = .ok order ↔ ∃ o part rest inner,
    Opens .top words o part rest ∧ readBehind part rest = .ok inner
      ∧ { inner with options := o.followedBy inner.options } = order := by
  rw [ofArguments_eq, bind_eq_ok_iff]
  constructor
  · rintro ⟨⟨seen, _ | ⟨part, rest⟩⟩, scanned, ok⟩
    · obtain ⟨o, missing, -⟩ := bind_eq_ok_iff.1 ok
      exact absurd missing Seen.missing_ne_ok
    · obtain ⟨inner, behind, ok⟩ := bind_eq_ok_iff.1 ok
      obtain ⟨o, checked, ok⟩ := bind_eq_ok_iff.1 ok
      exact ⟨o, part, rest, inner, ⟨seen, scanned, checked⟩, behind, Except.ok.inj ok⟩
  · rintro ⟨o, part, rest, inner, ⟨seen, scanned, checked⟩, behind, rfl⟩
    refine ⟨_, scanned, ?_⟩
    dsimp only
    rw [behind, checked]
    rfl

lemma readLast_order_eq_ok_iff {command : Command} (writes : Writes [] places words) :
    (do return { command, options := ← readLast words } : Except Refusal Order) = .ok order
      ↔ (∀ given ∈ places, Fits given)
        ∧ { command, options := .ofGiven places.flatten } = order := by
  rw [bind_eq_ok_iff]
  constructor
  · rintro ⟨later, last, ok⟩
    obtain ⟨all, rfl⟩ := (readLast_eq_ok_iff writes).1 last
    exact ⟨all, Except.ok.inj ok⟩
  · rintro ⟨all, rfl⟩
    exact ⟨_, (readLast_eq_ok_iff writes).2 ⟨all, rfl⟩, rfl⟩

lemma parts_eq_cons (command : Command) : ∃ part parts, command.parts = part :: parts
    ∧ Place.top.names.contains part = true ∧ part ≠ Place.helpWord := by
  cases command <;> exact ⟨_, _, rfl, by decide, by decide⟩

/-- The words behind the first part write the rest of a command exactly if the options at each place
fit together. -/
lemma readBehind_eq_ok_iff {command : Command} {parts : List String}
    (named : command.parts = part :: parts) (writes : Writes parts places words) :
    readBehind part words = .ok order ↔ (∀ given ∈ places, Fits given)
      ∧ { command, options := .ofGiven places.flatten } = order := by
  cases command with
  | run =>
    cases named
    rw [readBehind, if_pos rfl, readLast_order_eq_ok_iff writes]
  | check =>
    cases named
    rw [readBehind, if_neg (by decide), if_pos rfl, readLast_order_eq_ok_iff writes]
  | task action =>
    cases named
    rw [readBehind, if_neg (by decide), if_neg (by decide), readTask_eq_ok_iff writes]

/-- Words that write a command are accepted exactly if the options at each place fit together. -/
lemma ofArguments_eq_ok_iff {command : Command} (writes : Writes command.parts places words) :
    Order.ofArguments words = .ok order ↔ (∀ given ∈ places, Fits given)
      ∧ { command, options := .ofGiven places.flatten } = order := by
  obtain ⟨part, parts, named, known, other⟩ := parts_eq_cons command
  rw [named] at writes
  cases writes with
  | @part _ _ front rest given places gives writes =>
    rw [ofArguments_eq_ok, List.forall_mem_cons, List.flatten_cons, Options.ofGiven_append]
    constructor
    · rintro ⟨o, part', rest', inner, opens, read, rfl⟩
      obtain ⟨⟨rfl, rfl⟩, fits, rfl⟩ := (opens_iff gives known other).1 opens
      obtain ⟨all, rfl⟩ := (readBehind_eq_ok_iff named writes).1 read
      exact ⟨⟨fits, all⟩, rfl⟩
    · rintro ⟨⟨fits, all⟩, rfl⟩
      exact ⟨_, part, rest, _, (opens_iff gives known other).2 ⟨⟨rfl, rfl⟩, fits, rfl⟩,
        (readBehind_eq_ok_iff named writes).2 ⟨all, rfl⟩, rfl⟩

lemma writes_of_readBehind (ok : readBehind part words = .ok order)
    (known : Place.top.names.contains part = true) (other : part ≠ Place.helpWord) :
    ∃ parts places, order.command.parts = part :: parts ∧ Writes parts places words := by
  have cases : part = "run" ∨ part = "check" ∨ part = "task" := by
    simpa [Place.names, other] using known
  rcases cases with rfl | rfl | rfl
  · obtain ⟨o, last, ⟨⟩⟩ := bind_eq_ok_iff.1 ok
    obtain ⟨places, writes⟩ := writes_of_readLast last
    exact ⟨[], places, rfl, writes⟩
  · obtain ⟨o, last, ⟨⟩⟩ := bind_eq_ok_iff.1 ok
    obtain ⟨places, writes⟩ := writes_of_readLast last
    exact ⟨[], places, rfl, writes⟩
  · obtain ⟨action, places, command, writes⟩ := writes_of_readTask ok
    exact ⟨_, places, by rw [command]; rfl, writes⟩

/-- Only words that write a command are accepted. -/
lemma writes_of_ofArguments (ok : Order.ofArguments words = .ok order) :
    ∃ places, Writes order.command.parts places words := by
  obtain ⟨o, part, rest, inner, opens, behind, rfl⟩ := ofArguments_eq_ok.1 ok
  obtain ⟨front, given, rfl, gives, known, other⟩ := opens.parted
  obtain ⟨parts, places, named, writes⟩ := writes_of_readBehind behind known other
  exact ⟨given :: places, named ▸ .part gives writes⟩

end SignedUpgrade.CommandLine
