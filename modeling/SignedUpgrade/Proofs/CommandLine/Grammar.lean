import Mathlib.Data.List.Nodup
import Mathlib.Tactic.Lemma
import SignedUpgrade.CommandLine.Arguments

/-!
# How arguments are written

Which words write which command with which options, told without the reader.  An option may be
written out, or as a letter that shares its word with others, and it may stand before each part of
the command and behind the last one.

* `Given` — an option as it is given;
* `Letters`, `Gives`, `GivesAll` — what letters, a word, and the words at one place give;
* `Writes` — the words that write the parts of a command, with options at each place;
* `Fits` — the options that fit together at one place;
* `Options.ofGiven`, `Options.takeAll?_eq_some_iff` — the options that are given, taken one by one.
-/

namespace SignedUpgrade.CommandLine

/-! ## What words give -/

/-- An option as it is given. -/
inductive Given where
  | verbose
  | quiet
  | config (value : String)
  deriving DecidableEq, Repr

namespace Given

/-- The letter of an option. -/
def letter : Given → Char
  | verbose => 'v'
  | quiet => 'q'
  | config _ => 'c'

/-- The value of an option that has one. -/
def value? : Given → Option String
  | config value => some value
  | _ => none

end Given

/-- Letters, the options that they give, and whether the value of the last one is yet to come. -/
inductive Letters : List Char → List Given → Bool → Prop
  | nil : Letters [] [] false
  | verbose {cs : List Char} {given : List Given} {waits : Bool} (more : Letters cs given waits) :
      Letters ('v' :: cs) (.verbose :: given) waits
  | quiet {cs : List Char} {given : List Given} {waits : Bool} (more : Letters cs given waits) :
      Letters ('q' :: cs) (.quiet :: given) waits
  | config : Letters ['c'] [] true
  | configValue {c : Char} (other : c ≠ '=') (cs : List Char) :
      Letters ('c' :: c :: cs) [.config (String.ofList (c :: cs))] false
  | configEquals (cs : List Char) :
      Letters ('c' :: '=' :: cs) [.config (String.ofList cs)] false

/-- A word, the options that it gives, and whether the value of the last one is yet to come. -/
inductive Gives : String → List Given → Bool → Prop
  | verbose : Gives "--verbose" [.verbose] false
  | quiet : Gives "--quiet" [.quiet] false
  | config : Gives "--config" [] true
  | configValue (value : String) : Gives ("--config=" ++ value) [.config value] false
  | letters {c : Char} {cs : List Char} {given : List Given} {waits : Bool}
      (letters : Letters (c :: cs) given waits) :
      Gives (String.ofList ('-' :: c :: cs)) given waits

/-- Whether a word can be the value of the option before it: it does not begin like an option. -/
def isValue (word : String) : Bool :=
  match word.toList with
  | '-' :: _ :: _ => false
  | _ => true

/-- The words at one place, and the options that they give. -/
inductive GivesAll : List String → List Given → Prop
  | nil : GivesAll [] []
  | word {word : String} {words : List String} {given more : List Given}
      (gives : Gives word given false) (rest : GivesAll words more) :
      GivesAll (word :: words) (given ++ more)
  | valued {word value : String} {words : List String} {given more : List Given}
      (gives : Gives word given true) (plain : isValue value = true)
      (rest : GivesAll words more) :
      GivesAll (word :: value :: words) (given ++ .config value :: more)

/-! ## What lines of words write -/

/-- The name of an action. -/
def TaskAction.name : TaskAction → String
  | status => "status"
  | create => "create"
  | delete => "delete"
  | enable => "enable"
  | disable => "disable"

/-- The parts of a command. -/
def Command.parts : Command → List String
  | run => ["run"]
  | check => ["check"]
  | task action => ["task", action.name]

/-- The words that write parts, with the options at each place: one place before each part, and one
behind the last part, where a double dash may end the options. -/
inductive Writes : List String → List (List Given) → List String → Prop
  | last {words : List String} {given : List Given} (gives : GivesAll words given) :
      Writes [] [given] words
  | dashed {words : List String} {given : List Given} (gives : GivesAll words given) :
      Writes [] [given] (words ++ ["--"])
  | part {part : String} {parts words rest : List String} {given : List Given}
      {places : List (List Given)} (gives : GivesAll words given)
      (writes : Writes parts places rest) :
      Writes (part :: parts) (given :: places) (words ++ part :: rest)

/-! ## What fits together -/

/-- Options that fit together at one place: none is given twice, all values are there, and verbose
and quiet exclude each other. -/
structure Fits (given : List Given) : Prop where
  once : (given.map Given.letter).Nodup
  valued : .config "" ∉ given
  exclusive : ¬ (.verbose ∈ given ∧ .quiet ∈ given)

namespace Options

/-- The options that are given; of several values the last one counts. -/
def ofGiven (given : List Given) : Options where
  verbose := decide (.verbose ∈ given)
  quiet := decide (.quiet ∈ given)
  config := (given.filterMap Given.value?).getLast?

/-- Whether an option is there. -/
def has (o : Options) : Given → Bool
  | .verbose => o.verbose
  | .quiet => o.quiet
  | .config _ => o.config.isSome

/-- Options with one more, unless it is there already or its value is missing. -/
def take? (o : Options) (g : Given) : Option Options :=
  if o.has g || g = .config "" then none else some (o.followedBy (ofGiven [g]))

/-- Options with more, taken one by one. -/
def takeAll? (o : Options) (given : List Given) : Option Options :=
  given.foldlM take? o

lemma ofGiven_nil : ofGiven [] = {} := rfl

lemma followedBy_nil (o : Options) : o.followedBy {} = o := by
  simp [followedBy]

lemma nil_followedBy (o : Options) : ({} : Options).followedBy o = o := by
  simp [followedBy]

lemma ofGiven_append (a b : List Given) :
    ofGiven (a ++ b) = (ofGiven a).followedBy (ofGiven b) := by
  simp [ofGiven, followedBy, List.getLast?_append]

lemma followedBy_assoc (a b c : Options) :
    (a.followedBy b).followedBy c = a.followedBy (b.followedBy c) := by
  simp [followedBy, Bool.or_assoc, Option.or_assoc]

lemma has_followedBy (a b : Options) (g : Given) :
    (a.followedBy b).has g = (a.has g || b.has g) := by
  cases g <;> simp [has, followedBy, Bool.or_comm]

lemma has_ofGiven_singleton (g h : Given) :
    (ofGiven [g]).has h = decide (h.letter = g.letter) := by
  cases g <;> cases h <;> simp [has, ofGiven, Given.letter, Given.value?]

lemma take?_eq_some_iff {o o' : Options} {g : Given} : o.take? g = some o'
    ↔ o.has g = false ∧ g ≠ .config "" ∧ o.followedBy (ofGiven [g]) = o' := by
  rw [take?]
  by_cases refused : o.has g = true ∨ g = .config ""
  · rw [if_pos (by simpa using refused)]
    refine iff_of_false nofun fun ⟨absent, valued, _⟩ => ?_
    exact refused.elim (by simp [absent]) valued
  · rw [if_neg (by simpa using refused)]
    obtain ⟨absent, valued⟩ := not_or.1 refused
    simp [absent, valued]

lemma takeAll?_cons (o : Options) (g : Given) (given : List Given) :
    o.takeAll? (g :: given) = (o.take? g).bind (·.takeAll? given) := rfl

lemma takeAll?_append (o : Options) (a b : List Given) :
    o.takeAll? (a ++ b) = (o.takeAll? a).bind (·.takeAll? b) :=
  List.foldlM_append

/-- Options can be taken one by one if none of them is there before, or given twice, and all values
are there. -/
lemma takeAll?_eq_some_iff {o o' : Options} {given : List Given} :
    o.takeAll? given = some o' ↔ (∀ g ∈ given, o.has g = false)
      ∧ (given.map Given.letter).Nodup ∧ .config "" ∉ given
      ∧ o.followedBy (ofGiven given) = o' := by
  induction given generalizing o with
  | nil =>
    rw [takeAll?, List.foldlM_nil, ofGiven_nil, followedBy_nil]
    simp
  | cons g given ih =>
    have shown : o.followedBy (ofGiven (g :: given))
        = (o.followedBy (ofGiven [g])).followedBy (ofGiven given) := by
      rw [followedBy_assoc, ← ofGiven_append, List.singleton_append]
    have others : (∀ h ∈ given, (o.followedBy (ofGiven [g])).has h = false)
        ↔ (∀ h ∈ given, o.has h = false) ∧ g.letter ∉ given.map Given.letter := by
      simp only [has_followedBy, has_ofGiven_singleton, Bool.or_eq_false_iff,
        decide_eq_false_iff_not, forall_and, List.mem_map, not_exists, not_and]
    rw [takeAll?_cons, Option.bind_eq_some_iff, shown, List.forall_mem_cons, List.map_cons,
      List.nodup_cons, List.mem_cons]
    constructor
    · rintro ⟨_, taken, rest⟩
      obtain ⟨absent, valued, rfl⟩ := take?_eq_some_iff.1 taken
      obtain ⟨new, once, full, same⟩ := ih.1 rest
      obtain ⟨free, single⟩ := others.1 new
      exact ⟨⟨absent, free⟩, ⟨single, once⟩, not_or.2 ⟨Ne.symm valued, full⟩, same⟩
    · rintro ⟨⟨absent, free⟩, ⟨single, once⟩, full, same⟩
      obtain ⟨valued, full⟩ := not_or.1 full
      exact ⟨_, take?_eq_some_iff.2 ⟨absent, Ne.symm valued, rfl⟩,
        ih.2 ⟨others.2 ⟨free, single⟩, once, full, same⟩⟩

/-- Options fit together at one place if they can be taken one by one, and are not both verbose and
quiet. -/
lemma fits_iff {o : Options} {given : List Given} :
    (({} : Options).takeAll? given = some o ∧ ¬ (o.verbose ∧ o.quiet))
      ↔ Fits given ∧ ofGiven given = o := by
  have absent : ∀ g ∈ given, ({} : Options).has g = false := by
    rintro (_ | _ | _) - <;> rfl
  rw [takeAll?_eq_some_iff, nil_followedBy]
  constructor
  · rintro ⟨⟨-, once, valued, rfl⟩, exclusive⟩
    exact ⟨⟨once, valued, by simpa [ofGiven] using exclusive⟩, rfl⟩
  · rintro ⟨⟨once, valued, exclusive⟩, rfl⟩
    exact ⟨⟨absent, once, valued, rfl⟩, by simpa [ofGiven] using exclusive⟩

end Options

end SignedUpgrade.CommandLine
