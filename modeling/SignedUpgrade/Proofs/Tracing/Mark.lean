import SignedUpgrade.Proofs.Watching.Parties

/-!
# Traces of steps

The steps of a watched updater leave a **trace**: the marks of everything that matters for what is
said about them, in the order in which it happened.  A trace tells how the world moves on, as far
as a `Scene` shows it.

* `Mark`, `Scene` — what a trace is made of, and what it moves;
* `Leads` — a trace leads from one scene to another;
* `Work.Runs`, `Steps.Runs` — steps leave, in every world, a trace of some language that leads to
  the world after them; the language may depend on the result.

The rules at the end are how languages are found: the trace of a sequence of steps is the traces of
the steps one behind the other.
-/

namespace SignedUpgrade

variable {σ : Type}

/-- One thing that happens in a watched world. -/
inductive Mark where
  /-- An entry was added to the journal. -/
  | note (n : Note)
  /-- The updater went on to a state. -/
  | enter (state : UpdateState)
  /-- A party was visited. -/
  | visit (v : Visit)
  /-- The updater itself changed files. -/
  | change (before after : FileTree)
  /-- The updater looked at the files. -/
  | look (files : FileTree)
  /-- A fresh name was handed out. -/
  | draw (name : String)

/-- What a trace moves. -/
structure Scene where
  files : FileTree
  history : List Visit
  journal : List Note
  state : UpdateState
  names : Nat → String
  namesUsed : Nat

/-- What there is to see of a watched world. -/
def World.scene (w : World (Watched σ)) : Scene where
  files := w.files
  history := w.history
  journal := w.journal
  state := w.state
  names := w.names
  namesUsed := w.namesUsed

/-- A mark moves one scene to another. -/
def Mark.Moves : Mark → Scene → Scene → Prop
  | note n, s, s' => s' = { s with journal := s.journal ++ [n] }
  | enter state, s, s' => s' = { s with state }
  | visit v, s, s' =>
    v.before = s.files ∧ s' = { s with files := v.after, history := s.history ++ [v] }
  | change before after, s, s' => before = s.files ∧ s' = { s with files := after }
  | look files, s, s' => files = s.files ∧ s' = s
  | draw name, s, s' =>
    name = s.names s.namesUsed ∧ s' = { s with namesUsed := s.namesUsed + 1 }

/-- Only visits and changes touch the files. -/
lemma Mark.Moves.files_eq {m : Mark} {s s' : Scene} (move : m.Moves s s')
    (visit : ∀ v, m ≠ .visit v) (change : ∀ t t', m ≠ .change t t') : s'.files = s.files := by
  cases m with
  | visit v => exact absurd rfl (visit v)
  | change t t' => exact absurd rfl (change t t')
  | note | enter =>
    have moved : s' = _ := move
    rw [moved]
  | look | draw => rw [move.2]

/-- A trace leads from one scene to another. -/
inductive Leads : Scene → List Mark → Scene → Prop where
  | nil (s : Scene) : Leads s [] s
  | cons {s s' s'' : Scene} {m : Mark} {ms : List Mark} (move : m.Moves s s')
      (rest : Leads s' ms s'') : Leads s (m :: ms) s''

namespace Leads

lemma one {s s' : Scene} {m : Mark} (move : m.Moves s s') : Leads s [m] s' :=
  .cons move (.nil _)

lemma append {s s' s'' : Scene} {ms ns : List Mark} (h : Leads s ms s') (h' : Leads s' ns s'') :
    Leads s (ms ++ ns) s'' := by
  induction h with
  | nil => exact h'
  | cons move _ ih => exact .cons move (ih h')

/-- A trace in two parts leads over a scene between them. -/
lemma split {s s'' : Scene} {ms ns : List Mark} (h : Leads s (ms ++ ns) s'') :
    ∃ s', Leads s ms s' ∧ Leads s' ns s'' := by
  induction ms generalizing s with
  | nil => exact ⟨s, .nil s, h⟩
  | cons m ms ih =>
    cases h with
    | cons move rest =>
      obtain ⟨s', first, last⟩ := ih rest
      exact ⟨s', .cons move first, last⟩

/-- A trace moves on by its first mark. -/
lemma uncons {s s'' : Scene} {m : Mark} {ms : List Mark} (h : Leads s (m :: ms) s'') :
    ∃ s', m.Moves s s' ∧ Leads s' ms s'' := by
  cases h with
  | cons move rest => exact ⟨_, move, rest⟩

/-- A trace ends with the move of its last mark. -/
lemma last {s s'' : Scene} {m : Mark} {ms : List Mark} (h : Leads s (ms ++ [m]) s'') :
    ∃ s', m.Moves s' s'' := by
  obtain ⟨s', _, end_⟩ := h.split
  obtain ⟨t, move, rest⟩ := end_.uncons
  cases rest
  exact ⟨s', move⟩

end Leads

/-! ## What is left of a trace -/

/-- The visit that a mark shows. -/
@[simp]
def Mark.visit? : Mark → Option Visit
  | visit v => some v
  | _ => none

/-- The entry of the journal that a mark shows. -/
@[simp]
def Mark.note? : Mark → Option Note
  | note n => some n
  | _ => none

/-- The state that a mark shows. -/
@[simp]
def Mark.state? : Mark → Option UpdateState
  | enter s => some s
  | _ => none

/-- The fresh name that a mark shows. -/
@[simp]
def Mark.name? : Mark → Option String
  | draw name => some name
  | _ => none

/-- The visits of a trace. -/
def visitsOf (ms : List Mark) : List Visit :=
  ms.filterMap Mark.visit?

/-- The journal of a trace. -/
def notesOf (ms : List Mark) : List Note :=
  ms.filterMap Mark.note?

/-- The states that a trace goes through. -/
def statesOf (ms : List Mark) : List UpdateState :=
  ms.filterMap Mark.state?

/-- The fresh names that a trace draws. -/
def namesOf (ms : List Mark) : List String :=
  ms.filterMap Mark.name?

@[simp] lemma visitsOf_nil : visitsOf [] = [] := rfl

@[simp] lemma notesOf_nil : notesOf [] = [] := rfl

@[simp] lemma statesOf_nil : statesOf [] = [] := rfl

@[simp] lemma namesOf_nil : namesOf [] = [] := rfl

@[simp] lemma visitsOf_cons (m : Mark) (ms : List Mark) :
    visitsOf (m :: ms) = m.visit?.toList ++ visitsOf ms := by
  cases m <;> rfl

@[simp] lemma notesOf_cons (m : Mark) (ms : List Mark) :
    notesOf (m :: ms) = m.note?.toList ++ notesOf ms := by
  cases m <;> rfl

@[simp] lemma statesOf_cons (m : Mark) (ms : List Mark) :
    statesOf (m :: ms) = m.state?.toList ++ statesOf ms := by
  cases m <;> rfl

@[simp] lemma namesOf_cons (m : Mark) (ms : List Mark) :
    namesOf (m :: ms) = m.name?.toList ++ namesOf ms := by
  cases m <;> rfl

@[simp] lemma visitsOf_append (ms ns : List Mark) :
    visitsOf (ms ++ ns) = visitsOf ms ++ visitsOf ns := by
  simp [visitsOf]

@[simp] lemma notesOf_append (ms ns : List Mark) :
    notesOf (ms ++ ns) = notesOf ms ++ notesOf ns := by
  simp [notesOf]

@[simp] lemma statesOf_append (ms ns : List Mark) :
    statesOf (ms ++ ns) = statesOf ms ++ statesOf ns := by
  simp [statesOf]

@[simp] lemma namesOf_append (ms ns : List Mark) :
    namesOf (ms ++ ns) = namesOf ms ++ namesOf ns := by
  simp [namesOf]

@[simp] lemma visitsOf_map_visit (vs : List Visit) : visitsOf (vs.map .visit) = vs := by
  induction vs <;> simp_all

@[simp] lemma notesOf_map_visit (vs : List Visit) : notesOf (vs.map .visit) = [] := by
  induction vs <;> simp_all

@[simp] lemma statesOf_map_visit (vs : List Visit) : statesOf (vs.map .visit) = [] := by
  induction vs <;> simp_all

namespace Leads

variable {s s' : Scene} {ms : List Mark}

lemma history_eq (h : Leads s ms s') : s'.history = s.history ++ visitsOf ms := by
  induction h with
  | nil => simp
  | @cons s t s'' m ms move _ ih =>
    cases m <;> simp_all [Mark.Moves]

lemma journal_eq (h : Leads s ms s') : s'.journal = s.journal ++ notesOf ms := by
  induction h with
  | nil => simp
  | @cons s t s'' m ms move _ ih =>
    cases m <;> simp_all [Mark.Moves]

/-- The state after a trace is the last one that it goes through. -/
lemma state_eq (h : Leads s ms s') : s'.state = (statesOf ms).getLastD s.state := by
  induction h with
  | nil => simp
  | @cons s t s'' m ms move _ ih =>
    cases m with
    | enter state =>
      have entered : t.state = state := by rw [(move : t = _)]
      rw [ih, entered]
      exact (List.getLastD_cons ..).symm
    | _ => simp_all [Mark.Moves]

/-- Each name that is drawn is one more that is used. -/
lemma namesUsed_eq (h : Leads s ms s') : s'.namesUsed = s.namesUsed + (namesOf ms).length := by
  induction h with
  | nil => rfl
  | @cons s t s'' m ms move _ ih =>
    cases m with
    | draw name =>
      obtain ⟨_, rfl⟩ := move
      rw [ih]
      simp only [namesOf_cons, Mark.name?, Option.toList_some, List.singleton_append,
        List.length_cons]
      omega
    | _ => simp_all [Mark.Moves]

lemma names_eq (h : Leads s ms s') : s'.names = s.names := by
  induction h with
  | nil => rfl
  | @cons s t s'' m ms move _ ih =>
    cases m <;> simp_all [Mark.Moves]

end Leads

/-! ## The traces of steps -/

/-- Steps leave a trace of a language. -/
def Work.Runs {β : Type} (m : Work (Watched σ) β) (T : β → List Mark → Prop) : Prop :=
  ∀ w, ∃ ms, Leads w.scene ms (m w).2.scene ∧ T (m w).1 ms

/-- Steps that may fail leave a trace of a language. -/
def Steps.Runs {ε α : Type} (x : ExceptT ε (StateM (World (Watched σ))) α)
    (T : Except ε α → List Mark → Prop) : Prop :=
  Work.Runs x.run T

namespace Work.Runs

variable {α β : Type} {T : α → List Mark → Prop} {V : β → List Mark → Prop}

lemma mono {m : Work (Watched σ) α} {T' : α → List Mark → Prop} (h : Runs m T)
    (sub : ∀ a ms, T a ms → T' a ms) : Runs m T' := by
  intro w
  obtain ⟨ms, leads, t⟩ := h w
  exact ⟨ms, leads, sub _ _ t⟩

lemma pure {b : β} (h : V b []) : Runs (σ := σ) (Pure.pure b) V :=
  fun _ => ⟨[], .nil _, h⟩

/-- The trace of the first steps stands before the trace of the others. -/
lemma bind {m : Work (Watched σ) α} {f : α → Work (Watched σ) β} (h : Runs m T)
    (rest : ∀ a ms, T a ms → Runs (f a) fun b ns => V b (ms ++ ns)) : Runs (m >>= f) V := by
  intro w
  obtain ⟨ms, leads, t⟩ := h w
  obtain ⟨ns, leads', v⟩ := rest _ ms t (m w).2
  exact ⟨ms ++ ns, leads.append leads', v⟩

/-- Steps that can be seen in no scene. -/
lemma silent {m : Work (Watched σ) α} (same : ∀ w, (m w).2.scene = w.scene)
    (h : ∀ w, T (m w).1 []) : Runs m T := by
  intro w
  refine ⟨[], ?_, h w⟩
  rw [same w]
  exact .nil _

/-- Steps that leave one mark. -/
lemma mark {m : Work (Watched σ) α} (k : Mark)
    (moves : ∀ w, k.Moves w.scene (m w).2.scene) (h : ∀ w, T (m w).1 [k]) : Runs m T :=
  fun w => ⟨[k], .one (moves w), h w⟩

lemma log (line : LogLine) : Runs (σ := σ) (Work.log line) fun _ ms => ms = [] :=
  silent (fun _ => rfl) fun _ => rfl

lemma debug (text : String) : Runs (σ := σ) (Work.debug text) fun _ ms => ms = [] :=
  log _

lemma now : Runs (σ := σ) Work.now fun _ ms => ms = [] :=
  silent (fun _ => rfl) fun _ => rfl

lemma note (n : Note) : Runs (σ := σ) (Work.note n) fun _ ms => ms = [.note n] :=
  mark (.note n) (fun _ => rfl) fun _ => rfl

lemma enter (s : UpdateState) : Runs (σ := σ) (Work.enter s) fun _ ms => ms = [.enter s] :=
  mark (.enter s) (fun _ => rfl) fun _ => rfl

lemma files : Runs (σ := σ) Work.files fun t ms => ms = [.look t] :=
  fun w => ⟨[.look w.files], .one ⟨rfl, rfl⟩, rfl⟩

lemma freshName : Runs (σ := σ) Work.freshName fun name ms => ms = [.draw name] :=
  fun w => ⟨[.draw (w.names w.namesUsed)], .one ⟨rfl, rfl⟩, rfl⟩

end Work.Runs

namespace Steps.Runs

variable {ε α β : Type} {T : Except ε α → List Mark → Prop} {V : Except ε β → List Mark → Prop}

lemma pure {b : β} (h : V (.ok b) []) :
    Runs (σ := σ) (Pure.pure b : ExceptT ε (StateM (World (Watched σ))) β) V :=
  fun _ => ⟨[], .nil _, h⟩

lemma throw {e : ε} (h : V (.error e) []) :
    Runs (throw e : ExceptT ε (StateM (World (Watched σ))) β) V :=
  fun _ => ⟨[], .nil _, h⟩

/-- Steps that only pass a result on. -/
lemma ofExcept {V : Except Failure β → List Mark → Prop} {r : Except Failure β} (h : V r []) :
    Runs (liftM r : Attempt (Watched σ) β) V :=
  fun _ => ⟨[], .nil _, h⟩

/-- The trace of the first steps stands before the trace of the others, or is the whole trace if
they fail. -/
lemma bind {x : ExceptT ε (StateM (World (Watched σ))) α}
    {f : α → ExceptT ε (StateM (World (Watched σ))) β} (h : Runs x T)
    (rest : ∀ a ms, T (.ok a) ms → Runs (f a) fun r ns => V r (ms ++ ns))
    (failed : ∀ e ms, T (.error e) ms → V (.error e) ms) : Runs (x >>= f) V := by
  refine Work.Runs.bind (f := ExceptT.bindCont f) h fun r ms t => ?_
  cases r with
  | ok a => exact rest a ms t
  | error e => exact .pure (by simpa using failed e ms t)

/-- Steps that cannot fail among steps that can. -/
lemma lift {m : Work (Watched σ) α} {T : α → List Mark → Prop} (h : Work.Runs m T) :
    Runs (ε := ε) (ExceptT.lift m) fun r ms => ∃ a, r = .ok a ∧ T a ms :=
  Work.Runs.bind h fun a _ t => .pure ⟨a, rfl, by simpa using t⟩

/-- A sequence that starts with steps that cannot fail. -/
lemma liftBind {m : Work (Watched σ) α} {T : α → List Mark → Prop}
    {f : α → ExceptT ε (StateM (World (Watched σ))) β} (h : Work.Runs m T)
    (rest : ∀ a ms, T a ms → Runs (f a) fun r ns => V r (ms ++ ns)) :
    Runs (ExceptT.lift m >>= f) V := by
  refine bind (lift h) ?_ ?_
  · rintro a ms ⟨_, ⟨⟩, t⟩
    exact rest a ms t
  · rintro e ms ⟨_, ⟨⟩, _⟩

end Steps.Runs

end SignedUpgrade
