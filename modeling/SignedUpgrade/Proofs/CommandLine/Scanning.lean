import SignedUpgrade.Proofs.CommandLine.Grammar

/-!
# Reading the words at one place

The reader goes through the words at a place one by one, and keeps the value of an option back until
it sees what follows.  Here its steps are set against the grammar: it takes the options that words
give, in their order, and reads no other words.

* `Seen.settled?`, `Seen.Takes` — the options that were read, and further ones that are taken;
* `Seen.takeShort_of_letters`, `Seen.letters_of_takeShort` — letters are read as what they give;
* `Seen.scan_gives`, `Seen.gives_of_scan` — so are words;
* `Seen.scan_givesAll` — **words that give options are read exactly if these can be taken**;
* `Seen.parted_of_scan` — **only words that give options are read.**
-/

namespace SignedUpgrade.CommandLine

/-- Two steps succeed if both of them do. -/
lemma bind_eq_ok_iff {ε α β : Type} {x : Except ε α} {f : α → Except ε β} {b : β} :
    x >>= f = .ok b ↔ ∃ a, x = .ok a ∧ f a = .ok b := by
  cases x with
  | error e => simp [bind, Except.bind]
  | ok a => simp [bind, Except.bind]

/-- What is refused under a condition is fine if this does not hold. -/
lemma guarded_eq_ok_iff {α : Type} {a b : α} {bad : Prop} [Decidable bad] {refusal : Refusal} :
    (do if bad then throw refusal
        return a : Except Refusal α) = .ok b ↔ ¬ bad ∧ a = b := by
  by_cases h : bad
  · rw [if_pos h]
    exact iff_of_false nofun fun fine => fine.1 h
  · rw [if_neg h]
    simp [h, pure, Except.pure]

namespace Seen

variable {place : Place} {s t : Seen} {given : List Given} {waits : Bool}

/-! ## Options one by one -/

/-- The options that were read, with the value that is pending, if it can be taken. -/
def settled? (s : Seen) : Option Options :=
  match s.pending with
  | none => some s.options
  | some none => none
  | some (some value) => s.options.take? (.config value)

/-- Options are taken behind those that were read, and the value of the last one may be awaited. -/
def Takes (s : Seen) (given : List Given) (waits : Bool) (t : Seen) : Prop :=
  ∃ o, s.settled?.bind (·.takeAll? given) = some o
    ∧ { options := o, pending := if waits then some none else none, ended := s.ended } = t

lemma withConfig_eq_ok_iff {value : String} : s.withConfig value = .ok t
    ↔ ∃ o, s.options.take? (.config value) = some o ∧ { s with options := o } = t := by
  rw [withConfig, Options.take?, Options.has]
  by_cases there : s.options.config.isSome = true
  · simp [there]
  · by_cases empty : value = ""
    · simp [there, empty]
    · simp [there, empty, Options.followedBy, Options.ofGiven, Given.value?]

lemma settle_eq_ok_iff : s.settle = .ok t
    ↔ ∃ o, s.settled? = some o ∧ { options := o, ended := s.ended } = t := by
  obtain ⟨options, pending, ended⟩ := s
  rcases pending with _ | _ | value
  · simp [settle, settled?]
  · simp [settle, settled?]
  · simp [settle, settled?, withConfig_eq_ok_iff]

/-- Whatever is done with settled options is done with those. -/
lemma settle_bind_eq_ok_iff {α : Type} {f : Seen → Except Refusal α} {r : α} :
    s.settle >>= f = .ok r
      ↔ ∃ o, s.settled? = some o ∧ f { options := o, ended := s.ended } = .ok r := by
  rw [bind_eq_ok_iff]
  constructor
  · rintro ⟨_, settled, ends⟩
    obtain ⟨o, options, rfl⟩ := settle_eq_ok_iff.1 settled
    exact ⟨o, options, ends⟩
  · rintro ⟨o, options, ends⟩
    exact ⟨_, settle_eq_ok_iff.2 ⟨o, options, rfl⟩, ends⟩

lemma takes_nil : s.Takes [] waits t ↔ ∃ o, s.settled? = some o
    ∧ { options := o, pending := if waits then some none else none, ended := s.ended } = t := by
  simp [Takes, Options.takeAll?]

lemma takes_singleton {g : Given} : s.Takes [g] false t ↔ ∃ o, s.settled? = some o
    ∧ ∃ o', o.take? g = some o' ∧ { options := o', ended := s.ended } = t := by
  simp only [Takes, Options.takeAll?_cons, Option.bind_eq_some_iff]
  grind [Options.takeAll?]

lemma takeVerbose_eq_ok_iff : s.takeVerbose = .ok t ↔ s.Takes [.verbose] false t := by
  rw [takeVerbose, settle_bind_eq_ok_iff, takes_singleton]
  refine exists_congr fun o => and_congr_right fun _ => ?_
  rw [guarded_eq_ok_iff]
  simp [Options.take?_eq_some_iff, Options.has, Options.followedBy, Options.ofGiven, Given.value?]

lemma takeQuiet_eq_ok_iff : s.takeQuiet = .ok t ↔ s.Takes [.quiet] false t := by
  rw [takeQuiet, settle_bind_eq_ok_iff, takes_singleton]
  refine exists_congr fun o => and_congr_right fun _ => ?_
  rw [guarded_eq_ok_iff]
  simp [Options.take?_eq_some_iff, Options.has, Options.followedBy, Options.ofGiven, Given.value?]

lemma takeConfig_eq_ok_iff {value : String} :
    s.takeConfig value = .ok t ↔ s.Takes [.config value] false t := by
  rw [takeConfig, settle_bind_eq_ok_iff, takes_singleton]
  refine exists_congr fun o => and_congr_right fun _ => ?_
  rw [withConfig_eq_ok_iff]

lemma awaitConfig_eq_ok_iff : s.awaitConfig = .ok t ↔ s.Takes [] true t := by
  rw [awaitConfig, settle_bind_eq_ok_iff, takes_nil]
  simp [pure, Except.pure]

lemma refuse_ne_ok {refusal : Refusal} : s.refuse refusal ≠ .ok t := by
  rw [refuse, ne_eq, settle_bind_eq_ok_iff]
  rintro ⟨_, _, ⟨⟩⟩

lemma settled?_bind_append {more : List Given} : s.settled?.bind (·.takeAll? (given ++ more))
    = (s.settled?.bind (·.takeAll? given)).bind (·.takeAll? more) := by
  simp only [Options.takeAll?_append, Option.bind_assoc]

lemma takes_append {more : List Given} : s.Takes (given ++ more) waits t
    ↔ ∃ s', s.Takes given false s' ∧ s'.Takes more waits t := by
  rw [Takes, settled?_bind_append]
  constructor
  · rintro ⟨o, taken, rfl⟩
    obtain ⟨o', first, second⟩ := Option.bind_eq_some_iff.1 taken
    exact ⟨_, ⟨o', first, rfl⟩, o, second, rfl⟩
  · rintro ⟨_, ⟨o', first, rfl⟩, o, second, rfl⟩
    exact ⟨o, by rw [first]; exact second, rfl⟩

/-- An option is taken, and then others, while nothing is pending. -/
lemma bind_eq_ok_iff_takes {g : Given} {x : Except Refusal Seen}
    {f : Seen → Except Refusal Seen} (first : ∀ {s'}, x = .ok s' ↔ s.Takes [g] false s')
    (others : ∀ s', s'.pending = none → (f s' = .ok t ↔ s'.Takes given waits t)) :
    x >>= f = .ok t ↔ s.Takes (g :: given) waits t := by
  rw [bind_eq_ok_iff, ← List.singleton_append, takes_append]
  refine exists_congr fun s' => ?_
  rw [first]
  refine and_congr_right fun ⟨_, _, same⟩ => others s' ?_
  rw [← same]
  rfl

lemma checked_eq_ok_iff {o : Options} :
    s.checked = .ok o ↔ s.settled? = some o ∧ ¬ (o.verbose ∧ o.quiet) := by
  rw [checked, settle_bind_eq_ok_iff]
  constructor
  · rintro ⟨_, settled, fine⟩
    obtain ⟨exclusive, rfl⟩ := guarded_eq_ok_iff.1 fine
    exact ⟨settled, exclusive⟩
  · rintro ⟨settled, exclusive⟩
    exact ⟨o, settled, guarded_eq_ok_iff.2 ⟨exclusive, rfl⟩⟩

lemma missing_ne_ok {o : Options} : s.missing ≠ .ok o := by
  rw [missing, ne_eq, settle_bind_eq_ok_iff]
  rintro ⟨o, _, h⟩
  split at h <;> cases h

/-! ## Words -/

lemma takeShort_of_letters {cs : List Char} (letters : Letters cs given waits)
    (settled : cs ≠ [] ∨ s.pending = none) :
    s.takeShort place cs = .ok t ↔ s.Takes given waits t := by
  induction letters generalizing s with
  | nil =>
    obtain ⟨options, pending, ended⟩ := s
    obtain rfl : pending = none := by simpa using settled
    rw [takes_nil, takeShort]
    simp [settled?]
  | @verbose cs given waits more ih =>
    rw [takeShort]
    exact bind_eq_ok_iff_takes takeVerbose_eq_ok_iff fun s' ready => ih (.inr ready)
  | @quiet cs given waits more ih =>
    rw [takeShort]
    exact bind_eq_ok_iff_takes takeQuiet_eq_ok_iff fun s' ready => ih (.inr ready)
  | config => exact awaitConfig_eq_ok_iff
  | configValue other cs =>
    rw [← takeConfig_eq_ok_iff, takeShort]
    · exact nofun
    · exact fun value same => other (List.cons.inj same).1
  | configEquals cs => exact takeConfig_eq_ok_iff

lemma letters_of_takeShort {cs : List Char} (ok : s.takeShort place cs = .ok t) :
    ∃ given waits, Letters cs given waits := by
  fun_induction takeShort s place cs with
  | case1 s => exact ⟨_, _, .nil⟩
  | case2 s more ih =>
    obtain ⟨s', -, ok⟩ := bind_eq_ok_iff.1 ok
    obtain ⟨given, waits, letters⟩ := ih s' ok
    exact ⟨_, _, .verbose letters⟩
  | case3 s more ih =>
    obtain ⟨s', -, ok⟩ := bind_eq_ok_iff.1 ok
    obtain ⟨given, waits, letters⟩ := ih s' ok
    exact ⟨_, _, .quiet letters⟩
  | case4 s => exact ⟨_, _, .config⟩
  | case5 s value => exact ⟨_, _, .configEquals value⟩
  | case6 s value filled other =>
    obtain ⟨c, cs, rfl⟩ := List.exists_cons_of_ne_nil filled
    exact ⟨_, _, .configValue (fun same => other cs (by rw [same])) cs⟩
  | case7 s more => exact absurd ok refuse_ne_ok
  | case8 s more top => exact absurd ok refuse_ne_ok
  | case9 s more other => cases ok
  | case10 => cases ok

/-- No name of a part begins like an option. -/
lemma not_contains_names {word : String} {cs : List Char} (dash : word.toList = '-' :: cs) :
    place.names.contains word = false := by
  have letters : ∀ name ∈ place.names, name.toList.head? ≠ some '-' := by
    cases place <;> decide
  rw [← Bool.not_eq_true, List.contains_iff_mem]
  exact fun mem => letters word mem (by rw [dash]; rfl)

/-- The value behind the name of an option that is written out. -/
def valueBehind? : List Char → Option String
  | _ :: value => some (String.ofList value)
  | [] => none

section

variable {word : String} {name behind cs : List Char} {c : Char} {words : List String}
  {r : Seen × Option (String × List String)}

/-- A word that is an option written out.  Its name goes up to an equals sign. -/
lemma scan_long (opened : s.ended = false) (spelled : word.toList = '-' :: '-' :: (name ++ behind))
    (filled : name ++ behind ≠ []) (plain : '=' ∉ name) (cut : ∀ c ∈ behind.head?, c = '=') :
    s.scan place (word :: words) = .ok r
      ↔ ∃ t, s.takeLong place (String.ofList name) (valueBehind? behind) = .ok t
          ∧ t.scan place words = .ok r := by
  have all : ∀ c ∈ name, decide (c ≠ '=') = true := by
    intro c mem
    simpa using fun same : c = '=' => plain (same ▸ mem)
  have stop : behind.takeWhile (fun c => decide (c ≠ '=')) = [] := by
    cases behind with
    | nil => rfl
    | cons c cs => exact List.takeWhile_cons_of_neg (by simp [cut c rfl])
  have whole : (name ++ behind).takeWhile (fun c => decide (c ≠ '=')) = name := by
    rw [List.takeWhile_append_of_pos all, stop, List.append_nil]
  have rest : (name ++ behind).drop name.length = behind := List.drop_left
  obtain ⟨c, cs, letters⟩ := List.exists_cons_of_ne_nil filled
  rw [letters] at spelled whole rest
  rw [scan, opened, not_contains_names spelled, spelled, ← bind_eq_ok_iff]
  simp only [Bool.and_false, Bool.false_eq_true, if_false, whole, rest]
  rfl

/-- A word that is the name of an option and nothing else. -/
lemma scan_bare {name : String} (opened : s.ended = false) (filled : name.toList ≠ [])
    (plain : '=' ∉ name.toList) : s.scan place (("--" ++ name) :: words) = .ok r
      ↔ ∃ t, s.takeLong place name none = .ok t ∧ t.scan place words = .ok r := by
  have spelled : ("--" ++ name).toList = '-' :: '-' :: (name.toList ++ []) := by
    rw [String.toList_append, List.append_nil]
    rfl
  rw [scan_long opened spelled (by simpa using filled) plain (by simp), String.ofList_toList]
  rfl

/-- A word that holds options of one letter each. -/
lemma scan_short (opened : s.ended = false) (spelled : word.toList = '-' :: c :: cs)
    (other : c ≠ '-') : s.scan place (word :: words) = .ok r
      ↔ ∃ t, s.takeShort place (c :: cs) = .ok t ∧ t.scan place words = .ok r := by
  rw [scan, opened, not_contains_names spelled, spelled, ← bind_eq_ok_iff]
  simp only [Bool.and_false, Bool.false_eq_true, if_false]
  split <;> simp_all

/-- A double dash ends the options. -/
lemma scan_dashes (opened : s.ended = false) :
    s.scan place ("--" :: words) = { s with ended := true }.scan place words := by
  have spelled : "--".toList = ['-', '-'] := by decide
  rw [scan, opened, not_contains_names spelled, spelled]
  simp only [Bool.and_false, Bool.false_eq_true, if_false]

/-- A word that names a part ends the reading. -/
lemma scan_name (opened : s.ended = false) (ready : s.awaitsValue = false)
    (known : place.names.contains word = true) (other : word ≠ Place.helpWord) :
    s.scan place (word :: words) = .ok (s, some (word, words)) := by
  rw [scan, opened, ready, known]
  simp [other]

/-- A word is the value that is awaited. -/
lemma scan_value (opened : s.ended = false) (waiting : s.awaitsValue = true)
    (plain : isValue word = true) :
    s.scan place (word :: words) = { s with pending := some (some word) }.scan place words := by
  rw [scan, opened, waiting]
  simp only [Bool.not_true, Bool.false_and, Bool.false_eq_true, if_false, if_true]
  rw [isValue] at plain
  split <;> simp_all

/-- No other word may stand where no value is awaited. -/
lemma scan_misplaced (opened : s.ended = false) (ready : s.awaitsValue = false)
    (plain : isValue word = true)
    (unknown : ¬ (place.names.contains word = true ∧ word ≠ Place.helpWord)) :
    s.scan place (word :: words) ≠ .ok r := by
  rw [scan, opened, ready]
  by_cases known : place.names.contains word = true
  · have help : word = Place.helpWord := not_not.1 fun other => unknown ⟨known, other⟩
    rw [known, help]
    simp
  · rw [Bool.not_eq_true] at known
    rw [known]
    simp only [Bool.and_false, Bool.false_eq_true, if_false]
    rw [isValue] at plain
    split <;> simp_all

/-! ## Words that give options -/

/-- The options that a word gives are taken one by one. -/
lemma scan_gives (gives : Gives word given waits) (opened : s.ended = false) :
    s.scan place (word :: words) = .ok r
      ↔ ∃ t, s.Takes given waits t ∧ t.scan place words = .ok r := by
  cases gives with
  | verbose =>
    have spelled : "--verbose" = "--" ++ "verbose" := rfl
    rw [spelled, scan_bare opened (by decide) (by decide)]
    exact exists_congr fun t => and_congr_left fun _ => takeVerbose_eq_ok_iff
  | quiet =>
    have spelled : "--quiet" = "--" ++ "quiet" := rfl
    rw [spelled, scan_bare opened (by decide) (by decide)]
    exact exists_congr fun t => and_congr_left fun _ => takeQuiet_eq_ok_iff
  | config =>
    have spelled : "--config" = "--" ++ "config" := rfl
    rw [spelled, scan_bare opened (by decide) (by decide)]
    exact exists_congr fun t => and_congr_left fun _ => awaitConfig_eq_ok_iff
  | configValue value =>
    have spelled : ("--config=" ++ value).toList
        = '-' :: '-' :: ("config".toList ++ '=' :: value.toList) := by
      rw [String.toList_append]
      rfl
    rw [scan_long opened spelled (by simp) (by decide) (by simp), String.ofList_toList,
      valueBehind?, String.ofList_toList]
    exact exists_congr fun t => and_congr_left fun _ => takeConfig_eq_ok_iff
  | @letters c cs _ _ letters =>
    have other : c ≠ '-' := by
      cases letters <;> decide
    rw [scan_short opened String.toList_ofList other]
    exact exists_congr fun t => and_congr_left fun _ => takeShort_of_letters letters (.inl nofun)

/-- The options that are written out. -/
lemma written_of_takeLong {name : String} {value : Option String}
    (ok : s.takeLong place name value = .ok t) :
    name = "config" ∨ value = none ∧ (name = "verbose" ∨ name = "quiet") := by
  unfold takeLong at ok
  split at ok
  · exact .inl rfl
  · exact .inl rfl
  · exact .inr ⟨rfl, .inl rfl⟩
  · exact .inr ⟨rfl, .inr rfl⟩
  · exact absurd ok refuse_ne_ok
  · split at ok
    · exact absurd ok refuse_ne_ok
    · cases ok
  all_goals cases ok

/-- A word that is read as options gives some. -/
lemma gives_of_scan (opened : s.ended = false) (spelled : word.toList = '-' :: c :: cs)
    (other : word ≠ "--") (ok : s.scan place (word :: words) = .ok r) :
    ∃ given waits, Gives word given waits := by
  by_cases long : c = '-'
  · subst long
    obtain ⟨name, behind, rfl, plain, cut⟩ : ∃ name behind, cs = name ++ behind ∧ '=' ∉ name
        ∧ ∀ c ∈ behind.head?, c = '=' := by
      by_cases equals : '=' ∈ cs
      · obtain ⟨name, value, rfl, plain⟩ := List.eq_append_cons_of_mem equals
        exact ⟨name, '=' :: value, rfl, plain, by simp⟩
      · exact ⟨cs, [], (List.append_nil _).symm, equals, by simp⟩
    have filled : name ++ behind ≠ [] := by
      intro empty
      rw [empty] at spelled
      exact other (String.toList_inj.1 spelled)
    obtain ⟨t, taken, -⟩ := (scan_long opened spelled filled plain cut).1 ok
    rcases written_of_takeLong taken with config | ⟨valueless, flag⟩
    · obtain rfl : name = "config".toList := by rw [← config, String.toList_ofList]
      cases behind with
      | nil =>
        obtain rfl : word = "--config" := String.toList_inj.1 spelled
        exact ⟨_, _, .config⟩
      | cons c value =>
        obtain rfl := cut c rfl
        obtain rfl : word = "--config=" ++ String.ofList value := by
          have tail : (String.ofList value).toList = value := String.toList_ofList
          rw [← String.toList_inj, String.toList_append, tail]
          exact spelled
        exact ⟨_, _, .configValue _⟩
    · obtain rfl : behind = [] := by
        cases behind with
        | nil => rfl
        | cons c value => cases valueless
      rw [List.append_nil] at spelled
      rcases flag with verbose | quiet
      · obtain rfl : name = "verbose".toList := by rw [← verbose, String.toList_ofList]
        obtain rfl : word = "--verbose" := String.toList_inj.1 spelled
        exact ⟨_, _, .verbose⟩
      · obtain rfl : name = "quiet".toList := by rw [← quiet, String.toList_ofList]
        obtain rfl : word = "--quiet" := String.toList_inj.1 spelled
        exact ⟨_, _, .quiet⟩
  · obtain ⟨t, taken, -⟩ := (scan_short opened spelled long).1 ok
    obtain ⟨given, waits, letters⟩ := letters_of_takeShort taken
    have same : String.ofList ('-' :: c :: cs) = word := by
      rw [← spelled, String.ofList_toList]
    exact ⟨given, waits, same ▸ .letters letters⟩

end

/-! ## Places -/

/-- What stands behind the options at a place: nothing, the end of all options, or a part of the
command with the words behind it. -/
inductive Ends (place : Place) : List String → Option (String × List String) → Prop
  | nil : Ends place [] none
  | dashes : Ends place ["--"] none
  | name {word : String} (known : place.names.contains word = true)
      (other : word ≠ Place.helpWord) (words : List String) :
      Ends place (word :: words) (some (word, words))

/-- Words that give options, with what stands behind these. -/
def Parted (place : Place) (words : List String) (named : Option (String × List String)) : Prop :=
  ∃ front given rest, words = front ++ rest ∧ GivesAll front given ∧ Ends place rest named

variable {front rest words : List String} {named named' : Option (String × List String)}
  {o : Options}

/-- All options that the words at a place give are taken. -/
lemma scan_givesAll (gives : GivesAll front given) (ends : Ends place rest named)
    (opened : s.ended = false) (ready : s.awaitsValue = false) :
    (∃ t, s.scan place (front ++ rest) = .ok (t, named') ∧ t.settled? = some o)
      ↔ named = named' ∧ s.settled?.bind (·.takeAll? given) = some o := by
  induction gives generalizing s with
  | nil =>
    have taken : s.settled?.bind (·.takeAll? []) = s.settled? := by
      cases s.settled? <;> rfl
    rw [List.nil_append, taken]
    cases ends with
    | nil => simp [scan]
    | dashes =>
      rw [scan_dashes opened, scan]
      simp [settled?]
    | name known other words => simp [scan_name opened ready known other]
  | @word word words given more gives _ ih =>
    -- the states that the word leads to have nothing pending
    have next (o' : Options) := ih (s := { options := o', ended := s.ended }) opened rfl
    rw [List.cons_append, settled?_bind_append]
    simp only [scan_gives gives opened]
    constructor
    · rintro ⟨t, ⟨_, ⟨o', first, rfl⟩, ok⟩, settled⟩
      obtain ⟨same, second⟩ := (next o').1 ⟨t, ok, settled⟩
      exact ⟨same, by rw [first]; exact second⟩
    · rintro ⟨same, taken⟩
      obtain ⟨o', first, second⟩ := Option.bind_eq_some_iff.1 taken
      obtain ⟨t, ok, settled⟩ := (next o').2 ⟨same, second⟩
      exact ⟨t, ⟨_, ⟨o', first, rfl⟩, ok⟩, settled⟩
  | @valued word value words given more gives plain _ ih =>
    -- the next word is the value that those states wait for, and then it is pending
    have awaited (o' : Options) :
        scan place { options := o', pending := some none, ended := s.ended }
            (value :: (words ++ rest))
          = scan place { options := o', pending := some (some value), ended := s.ended }
            (words ++ rest) :=
      scan_value opened rfl plain
    have next (o' : Options) := ih
      (s := { options := o', pending := some (some value), ended := s.ended }) opened rfl
    rw [List.cons_append, List.cons_append, settled?_bind_append]
    simp only [scan_gives gives opened]
    constructor
    · rintro ⟨t, ⟨_, ⟨o', first, rfl⟩, ok⟩, settled⟩
      obtain ⟨same, second⟩ := (next o').1 ⟨t, (awaited o').symm.trans ok, settled⟩
      exact ⟨same, by rw [first]; exact second⟩
    · rintro ⟨same, taken⟩
      obtain ⟨o', first, second⟩ := Option.bind_eq_some_iff.1 taken
      obtain ⟨t, ok, settled⟩ := (next o').2 ⟨same, second⟩
      exact ⟨t, ⟨_, ⟨o', first, rfl⟩, (awaited o').trans ok⟩, settled⟩

lemma isValue_or_dashed (word : String) :
    isValue word = true ∨ ∃ c cs, word.toList = '-' :: c :: cs := by
  rw [isValue]
  split
  · exact .inr ⟨_, _, ‹_›⟩
  · exact .inl rfl

/-- Behind the end of all options nothing may stand. -/
lemma eq_nil_of_scan_ended {t : Seen} (ended : s.ended = true)
    (ok : s.scan place words = .ok (t, named)) : words = [] ∧ named = none ∧ t = s := by
  cases words with
  | nil =>
    cases ok
    exact ⟨rfl, rfl, rfl⟩
  | cons word words =>
    rw [scan, ended] at ok
    cases ok

/-- Words that are read at a place give options, up to where they end.  Where the value of an option
is awaited, it comes first. -/
lemma parted_of_scan {t : Seen} (ok : s.scan place words = .ok (t, named))
    (settled : t.settled? ≠ none) (opened : s.ended = false) :
    (s.awaitsValue = false → Parted place words named)
      ∧ (s.awaitsValue = true → ∃ value words', words = value :: words' ∧ isValue value = true
        ∧ Parted place words' named) := by
  induction words generalizing s with
  | nil =>
    cases ok
    refine ⟨fun _ => ⟨[], [], [], rfl, .nil, .nil⟩, fun waiting => absurd ?_ settled⟩
    rw [settled?, of_decide_eq_true waiting]
  | cons word words ih =>
    by_cases dashes : word = "--"
    · subst dashes
      rw [scan_dashes opened] at ok
      obtain ⟨rfl, rfl, rfl⟩ := eq_nil_of_scan_ended rfl ok
      refine ⟨fun _ => ⟨[], [], ["--"], rfl, .nil, .dashes⟩, fun waiting => absurd ?_ settled⟩
      rw [settled?, of_decide_eq_true waiting]
    · rcases isValue_or_dashed word with plain | ⟨c, cs, spelled⟩
      · cases waiting : s.awaitsValue with
        | true =>
          rw [scan_value opened waiting plain] at ok
          exact ⟨nofun, fun _ => ⟨word, words, rfl, plain, (ih ok opened).1 rfl⟩⟩
        | false =>
          refine ⟨fun _ => ?_, nofun⟩
          by_cases known : place.names.contains word = true ∧ word ≠ Place.helpWord
          · obtain ⟨known, other⟩ := known
            rw [scan_name opened waiting known other] at ok
            cases ok
            exact ⟨[], [], _, rfl, .nil, .name known other words⟩
          · exact absurd ok (scan_misplaced opened waiting plain known)
      · obtain ⟨given, waits, gives⟩ := gives_of_scan opened spelled dashes ok
        obtain ⟨_, ⟨o, taken, rfl⟩, ok⟩ := (scan_gives gives opened).1 ok
        refine ⟨fun _ => ?_, fun waiting => ?_⟩
        · obtain ⟨ready, awaited⟩ := ih ok opened
          cases waits with
          | false =>
            obtain ⟨front, more, rest, rfl, all, ends⟩ := ready rfl
            exact ⟨word :: front, _, rest, rfl, .word gives all, ends⟩
          | true =>
            obtain ⟨value, _, rfl, plain, front, more, rest, rfl, all, ends⟩ := awaited rfl
            exact ⟨word :: value :: front, _, rest, rfl, .valued gives plain all, ends⟩
        · rw [settled?, of_decide_eq_true waiting] at taken
          cases taken

end Seen

end SignedUpgrade.CommandLine
