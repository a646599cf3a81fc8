import Mathlib.Data.List.Pairwise
import SignedUpgrade.CommandLine.LogFilter
import SignedUpgrade.Proofs.CommandLine.Orders

/-!
# Verbose and quiet

The two flags exclude each other, and say between them which lines are told.  But they exclude each
other at one place only: a verbose flag before a command and a quiet one behind it are both
accepted, and then the verbose one counts.

* `Governs` — options that exclude each other, and the level that they ask for;
* `Agree` — two places that do not contradict each other;
* `governed_iff_agree` — **which words are accepted, at which level, and when this is as the options
  ask for it.**
-/

namespace SignedUpgrade.CommandLine

variable {places : List (List Given)}

/-! ## Levels -/

/-- Options govern a level: verbose and quiet are not both given, the one asks for all lines and the
other one for errors only, and without either of them there is something between. -/
structure Governs (given : List Given) (level : Option LogLevel) : Prop where
  exclusive : ¬ (.verbose ∈ given ∧ .quiet ∈ given)
  debug : level = some .debug ↔ .verbose ∈ given
  errors : level = none ↔ .quiet ∈ given
  info : level = some .info ↔ .verbose ∉ given ∧ .quiet ∉ given

/-- The options of two places do not contradict each other. -/
def Agree (a b : List Given) : Prop :=
  ¬ (.verbose ∈ a ∧ .quiet ∈ b) ∧ ¬ (.quiet ∈ a ∧ .verbose ∈ b)

instance : DecidableRel Agree := fun a b =>
  inferInstanceAs (Decidable (¬ (.verbose ∈ a ∧ .quiet ∈ b) ∧ ¬ (.quiet ∈ a ∧ .verbose ∈ b)))

instance : Std.Symm Agree where
  symm _ _ agree := ⟨agree.2 ∘ And.symm, agree.1 ∘ And.symm⟩

section

variable (given : List Given)

lemma level_eq_debug_iff : (Options.ofGiven given).level = some .debug ↔ .verbose ∈ given := by
  by_cases verbose : .verbose ∈ given
  · simp [Options.level, Options.ofGiven, verbose]
  · by_cases quiet : .quiet ∈ given <;> simp [Options.level, Options.ofGiven, verbose, quiet]

lemma level_eq_none_iff :
    (Options.ofGiven given).level = none ↔ .verbose ∉ given ∧ .quiet ∈ given := by
  by_cases verbose : .verbose ∈ given
  · simp [Options.level, Options.ofGiven, verbose]
  · by_cases quiet : .quiet ∈ given <;> simp [Options.level, Options.ofGiven, verbose, quiet]

lemma level_eq_info_iff :
    (Options.ofGiven given).level = some .info ↔ .verbose ∉ given ∧ .quiet ∉ given := by
  by_cases verbose : .verbose ∈ given
  · simp [Options.level, Options.ofGiven, verbose]
  · by_cases quiet : .quiet ∈ given <;> simp [Options.level, Options.ofGiven, verbose, quiet]

/-- Options govern the level exactly if verbose and quiet are not both among them. -/
lemma governs_level_iff :
    Governs given (Options.ofGiven given).level ↔ ¬ (.verbose ∈ given ∧ .quiet ∈ given) := by
  refine ⟨Governs.exclusive, fun exclusive => ⟨exclusive, level_eq_debug_iff given, ?_,
    level_eq_info_iff given⟩⟩
  rw [level_eq_none_iff]
  exact and_iff_right_of_imp fun quiet verbose => exclusive ⟨verbose, quiet⟩

end

/-- Where verbose and quiet exclude each other at each place, they do so everywhere exactly if no two
places contradict each other. -/
lemma pairwise_agree_iff
    (exclusive : ∀ given ∈ places, ¬ (.verbose ∈ given ∧ .quiet ∈ given)) :
    places.Pairwise Agree ↔ ¬ (.verbose ∈ places.flatten ∧ .quiet ∈ places.flatten) := by
  simp only [List.mem_flatten]
  constructor
  · rintro agree ⟨⟨a, inPlaces, verbose⟩, b, inPlaces', quiet⟩
    have all := agree.forall_of_forall
      fun given mem => ⟨exclusive given mem, exclusive given mem ∘ And.symm⟩
    exact (all inPlaces inPlaces').1 ⟨verbose, quiet⟩
  · intro apart
    refine List.pairwise_of_forall_mem_list fun a mem b mem' => ⟨?_, ?_⟩
    · exact fun ⟨verbose, quiet⟩ => apart ⟨⟨a, mem, verbose⟩, b, mem', quiet⟩
    · exact fun ⟨quiet, verbose⟩ => apart ⟨⟨b, mem', verbose⟩, a, mem, quiet⟩

/-- **Verbose and quiet exclude each other place by place.**  Words are accepted exactly if they
write a command and the options at each place fit together, which verbose and quiet never do.  The
level is that of all options together: all lines if a verbose flag stands anywhere, only errors if
none does and a quiet one stands anywhere, and otherwise what lies between.  So the options govern
the level as they are meant to, exactly if no place has a verbose flag while another one has a quiet
flag; between different places this is not looked at. -/
theorem governed_iff_agree (words : List String) (order : Order) :
    (Order.ofArguments words = .ok order ↔ ∃ places, Writes order.command.parts places words
        ∧ (∀ given ∈ places, Fits given) ∧ .ofGiven places.flatten = order.options)
      ∧ (Order.ofArguments words = .ok order →
          ∀ (command : Command) (places : List (List Given)),
            Writes command.parts places words →
              (∀ given ∈ places, ¬ (.verbose ∈ given ∧ .quiet ∈ given))
              ∧ (order.options.level = some .debug ↔ .verbose ∈ places.flatten)
              ∧ (order.options.level = none
                ↔ .verbose ∉ places.flatten ∧ .quiet ∈ places.flatten)
              ∧ (order.options.level = some .info
                ↔ .verbose ∉ places.flatten ∧ .quiet ∉ places.flatten)
              ∧ (Governs places.flatten order.options.level ↔ places.Pairwise Agree)) := by
  constructor
  · constructor
    · intro accepted
      obtain ⟨places, writes⟩ := writes_of_ofArguments accepted
      obtain ⟨fits, same⟩ := (ofArguments_eq_ok_iff writes).1 accepted
      exact ⟨places, writes, fits, congrArg Order.options same⟩
    · rintro ⟨places, writes, fits, same⟩
      exact (ofArguments_eq_ok_iff writes).2 ⟨fits, by rw [same]⟩
  · intro accepted command places writes
    obtain ⟨fits, rfl⟩ := (ofArguments_eq_ok_iff writes).1 accepted
    have exclusive : ∀ given ∈ places, ¬ (.verbose ∈ given ∧ .quiet ∈ given) :=
      fun given mem => (fits given mem).exclusive
    refine ⟨exclusive, level_eq_debug_iff _, level_eq_none_iff _, level_eq_info_iff _, ?_⟩
    rw [governs_level_iff, pairwise_agree_iff exclusive]

/-- The flags of a line stand at two places, and they agree: one of them shares its word with an
option whose value follows, and another one stands behind the action. -/
theorem governed_at_both_ends :
    Order.ofArguments ["-vc", "a.toml", "task", "status", "--verbose"]
        = .ok { command := .task .status, options := { verbose := true, config := some "a.toml" } }
      ∧ Writes (Command.task .status).parts [[.verbose, .config "a.toml"], [], [.verbose]]
        ["-vc", "a.toml", "task", "status", "--verbose"]
      ∧ Governs [.verbose, .config "a.toml", .verbose] (some .debug) := by
  have accepted : Order.ofArguments ["-vc", "a.toml", "task", "status", "--verbose"] = .ok
      { command := .task .status, options := { verbose := true, config := some "a.toml" } } := by
    decide +kernel
  have writes : Writes (Command.task .status).parts [[.verbose, .config "a.toml"], [], [.verbose]]
      ["-vc", "a.toml", "task", "status", "--verbose"] :=
    .part (.valued (.letters (.verbose .config)) rfl .nil)
      (.part .nil (.last (.word .verbose .nil)))
  have agree : [[.verbose, .config "a.toml"], [], [.verbose]].Pairwise Agree := by decide
  exact ⟨accepted, writes, ((governed_iff_agree _ _).2 accepted _ _ writes).2.2.2.2.2 agree⟩

/-- At one place the two flags are refused, also where they share a word. -/
example : Order.ofArguments ["run", "-vq"] = .error .conflict := by decide +kernel

/-- A quiet flag behind a command does not exclude a verbose one before it. -/
theorem not_governed_across : ¬ ∀ (words : List String) (order : Order)
    (places : List (List Given)), Order.ofArguments words = .ok order →
      Writes order.command.parts places words → Governs places.flatten order.options.level := by
  intro governed
  have writes : Writes Command.run.parts [[.verbose], [.quiet]] ["-v", "run", "-q"] :=
    .part (.word (.letters (.verbose .nil)) .nil) (.last (.word (.letters (.quiet .nil)) .nil))
  have governs := governed ["-v", "run", "-q"]
    { command := .run, options := { verbose := true, quiet := true } } _ (by decide +kernel) writes
  exact governs.exclusive ⟨by decide, by decide⟩

end SignedUpgrade.CommandLine
