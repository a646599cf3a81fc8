import SignedUpgrade.Proofs.Json.Reading
import SignedUpgrade.Proofs.Json.Skipping

/-!
# What records are read as

A record that is written as an object is read member by member.  Members with the names of fields
may come in any order, each of them once, and all others are left out.

* `Shape.Takes` — what becomes of a record with one member;
* `Shape.Fills` — what becomes of it with all of them;
* `wantRecord_reads` — the record that an object is read as;
* `wantRecord_settles` — whatever value a record is read from, it is read up to its end or not at
  all;
* `Shape.Apart` — reading one field leaves the others as they are;
* `Shape.Fills.count_le`, `Shape.Fills.count_eq` — a record that is read has each field once at
  most, and exactly once if it is not optional.
-/

namespace SignedUpgrade.Json

variable {α : Type}

/-- The name of a member is read, whatever follows it. -/
def Member.IsNamed (m : Member) : Prop :=
  ∀ r, readText (m.body.map some ++ some '"' :: r) = .ok (m.name, r)

lemma Member.IsSound.isNamed {m : Member} (h : m.IsSound) : m.IsNamed :=
  fun r => readText_spells h.spells r

namespace Shape

/-- The field of a name. -/
def field? (s : Shape α) (name : String) : Option (Field α) :=
  s.fields.find? (·.name = name)

/-- What becomes of a record when a member is read; if nothing does, reading the member fails. -/
inductive Takes (s : Shape α) (record : α) (m : Member) : Option α → Prop where
  | unnamed (fails : ∀ r, (readText (m.body.map some ++ some '"' :: r)).toOption = none) :
      Takes s record m none
  | other (named : m.IsNamed) (unknown : s.field? m.name = none) (value : IsValue m.value) :
      Takes s record m (some record)
  | repeated {field : Field α} (named : m.IsNamed) (known : s.field? m.name = some field)
      (met : field.isSet record = true) : Takes s record m none
  | known {field : Field α} {o : Option α} (named : m.IsNamed)
      (known : s.field? m.name = some field) (new : field.isSet record = false)
      (reads : Reads (field.want record) (m.afterColon ++ m.value) o) : Takes s record m o

/-- What becomes of a record when members are read up to the end of the object. -/
inductive Fills (s : Shape α) : α → List Member → Option α → Prop where
  | complete {record : α} (complete : s.missing? record = none) : Fills s record [] (some record)
  | lacking {record : α} {field : Field α} (lacking : s.missing? record = some field) :
      Fills s record [] none
  | faulty {record : α} {m : Member} {ms : List Member} (takes : s.Takes record m none) :
      Fills s record (m :: ms) none
  | member {record next : α} {m : Member} {ms : List Member} {o : Option α}
      (takes : s.Takes record m (some next)) (rest : Fills s next ms o) : Fills s record (m :: ms) o

variable {s : Shape α} {record : α} {m : Member} {ms : List Member} {gap text : List Char}
  {rest : Letters} {o : Option α}

/-! ## Members -/

lemma nextMember_first (blanks : Gap gap) (r : Letters) :
    nextMember true (gap.map some ++ some '"' :: r) = .ok (true, r) := by
  rw [nextMember, skipBlanks_gap_some blanks rfl]
  rfl

lemma nextMember_later {before after : List Char} (before_ : Gap before) (after_ : Gap after)
    (r : Letters) : nextMember false (before.map some ++ some ',' :: (after.map some
      ++ some '"' :: r)) = .ok (true, r) := by
  rw [nextMember, skipBlanks_gap_some before_ rfl]
  simp only [Bool.false_eq_true, if_false]
  rw [skipBlanks_gap_some after_ rfl]
  rfl

lemma nextMember_end (first : Bool) (blanks : Gap gap) (r : Letters) :
    nextMember first (gap.map some ++ some '\x7d' :: r) = .ok (false, some '\x7d' :: r) := by
  rw [nextMember, skipBlanks_gap_some blanks rfl]
  rfl

lemma afterColon_gap (blanks : Gap gap) (r : Letters) :
    afterColon (gap.map some ++ some ':' :: r) = .ok r := by
  rw [afterColon, skipBlanks_gap_some blanks rfl]
  rfl

lemma endObject_gap (blanks : Gap gap) (r : Letters) :
    endObject (gap.map some ++ some '\x7d' :: r) = .ok r := by
  rw [endObject, skipBlanks_gap_some blanks rfl]
  rfl

/-- The letters of a member behind the quote that opens its name. -/
def lettersOfMember (m : Member) (rest : Letters) : Letters :=
  m.body.map some ++ some '"' :: (m.beforeColon.map some ++ some ':' ::
    (m.afterColon.map some ++ (m.value.map some ++ rest)))

lemma map_text (m : Member) (rest : Letters) :
    m.text.map some ++ rest = some '"' :: lettersOfMember m rest := by
  simp [Member.text, lettersOfMember]

/-- One member is read, and then those behind it. -/
lemma members_step (h : s.Takes record m o) (before : Gap m.beforeColon) (after : Gap m.afterColon)
    (ends : Ends rest) {first : Bool} {letters : Letters}
    (start : nextMember first letters = .ok (true, lettersOfMember m rest)) (fuel : Nat) :
    (s.members (fuel + 1) first record letters).toOption
      = o.bind fun next => (s.members fuel false next rest).toOption := by
  have colon := afterColon_gap before (m.afterColon.map some ++ (m.value.map some ++ rest))
  rw [members, start]
  simp only [toOption_bind, toOption_ok, Option.bind_some, if_true, lettersOfMember]
  cases h with
  | unnamed fails =>
    rw [fails]
    rfl
  | other named unknown value =>
    have left : skip (m.afterColon.map some ++ (m.value.map some ++ rest)) = .ok rest := by
      simpa using skip_value after value ends
    rw [field?] at unknown
    simp [named _, member, unknown, colon, left]
  | repeated named known met =>
    rw [field?] at known
    simp [named _, member, known, met]
  | @known field _ named known new reads =>
    have read := reads ends
    rw [List.map_append, List.append_assoc] at read
    rw [field?] at known
    cases o <;> simp [named _, member, known, new, colon, read]

lemma members_end (h : s.Fills record [] o) (blanks : Gap gap) (first : Bool) (fuel : Nat)
    (r : Letters) : (s.members (fuel + 1) first record (gap.map some ++ some '\x7d' :: r)).toOption
      = o.map (·, some '\x7d' :: r) := by
  rw [members, nextMember_end first blanks]
  cases h with
  | complete complete => simp [complete]
  | lacking lacking => simp [lacking]

/-- A member and those behind it are read up to the end of the object. -/
lemma members_from {items : List (List Char)} (further : Further items text)
    (written : ms.map Member.text = items) (h : s.Fills record (m :: ms) o)
    (gaps : ∀ m' ∈ m :: ms, Gap m'.beforeColon ∧ Gap m'.afterColon) {first : Bool}
    {letters r : Letters} (start : nextMember first letters
      = .ok (true, lettersOfMember m (text.map some ++ some '\x7d' :: r)))
    {fuel : Nat} (enough : ms.length < fuel) :
    (s.members (fuel + 1) first record letters).toOption = o.map (·, some '\x7d' :: r) := by
  induction further generalizing m ms record first letters fuel with
  | none blanks =>
    obtain rfl := List.map_eq_nil_iff.1 written
    have here := gaps m List.mem_cons_self
    obtain ⟨fuel, rfl⟩ := Nat.exists_eq_succ_of_ne_zero (Nat.ne_of_gt enough)
    cases h with
    | faulty takes =>
      rw [members_step takes here.1 here.2 (.gap blanks (.cons rfl r)) start]
      rfl
    | member takes rest =>
      rw [members_step takes here.1 here.2 (.gap blanks (.cons rfl r)) start]
      exact members_end rest blanks false fuel r
  | @more item before after text items before_ after_ further ih =>
    obtain ⟨m', ms, rfl, rfl, more⟩ := List.map_eq_cons_iff.1 written
    obtain ⟨here, others⟩ := List.forall_mem_cons.1 gaps
    have ends : Ends ((before ++ ',' :: (after ++ (m'.text ++ text))).map some
        ++ some '\x7d' :: r) := (Further.more before_ after_ further).ends rfl r
    obtain ⟨fuel, rfl⟩ := Nat.exists_eq_succ_of_ne_zero (Nat.ne_of_gt (Nat.zero_lt_of_lt enough))
    cases h with
    | faulty takes =>
      rw [members_step takes here.1 here.2 ends start]
      rfl
    | member takes rest =>
      have next := nextMember_later before_ after_
        (lettersOfMember m' (text.map some ++ some '\x7d' :: r))
      rw [members_step takes here.1 here.2 ends start, Option.bind_some]
      simp only [List.map_append, List.map_cons, List.append_assoc, List.cons_append]
      rw [map_text]
      exact ih more rest others next (Nat.lt_of_succ_lt_succ enough)

end Shape

open Shape

variable {s : Shape α} {gap text : List Char} {o : Option α}

/-- A record is read from an object as its members fill it. -/
lemma wantRecord_reads {ms : List Member} (blanks : Gap gap)
    (enclosed : Enclosed '\x7b' '\x7d' (ms.map Member.text) text)
    (gaps : ∀ m ∈ ms, Gap m.beforeColon ∧ Gap m.afterColon) (h : s.Fills s.start ms o) :
    Reads (wantRecord s) (gap ++ text) o := by
  intro rest _
  have ended : endObject (some '\x7d' :: rest) = .ok rest := endObject_gap .nil rest
  rw [List.map_append, List.append_assoc, wantRecord]
  generalize written : ms.map Member.text = items at enclosed
  cases enclosed with
  | empty inner =>
    obtain rfl := List.map_eq_nil_iff.1 written
    simp only [List.map_cons, List.map_append, List.map_nil, List.cons_append, List.append_assoc,
      List.nil_append]
    rw [skipBlanks_gap_some blanks rfl]
    simp only [toOption_bind]
    rw [members_end h inner]
    cases o <;> simp [ended]
  | @filled item before text items inner further =>
    obtain ⟨m, ms, rfl, rfl, more⟩ := List.map_eq_cons_iff.1 written
    have start := nextMember_first inner (lettersOfMember m (text.map some ++ some '\x7d' :: rest))
    have enough : ms.length ≤ text.length := by
      simpa [← more] using further.length_le
    simp only [List.map_cons, List.map_append, List.map_nil, List.cons_append, List.append_assoc,
      List.nil_append]
    rw [skipBlanks_gap_some blanks rfl]
    simp only [toOption_bind, map_text]
    rw [members_from further more h gaps start]
    · cases o <;> simp [ended]
    · simp [lettersOfMember]
      omega

/-! ## Lists of fields -/

namespace Shape

/-- What is read up to the end of a list. -/
def closed (result : Except Fault (α × Letters)) : Option (α × Letters) :=
  result.toOption.bind fun (a, r) => (endList r).toOption.map (a, ·)

/-- Fields that are left when the list ends. -/
lemma inOrder_end (fields : List (Field α)) (record : α) (count : Nat) (blanks : Gap gap) :
    ∃ o : Option α, ∀ r, closed (s.inOrder count fields record (gap.map some ++ some ']' :: r))
      = o.map (·, r) := by
  induction fields generalizing gap with
  | nil => exact ⟨some record, fun r => by simp [closed, inOrder, endList_gap blanks]⟩
  | cons field fields ih =>
    cases optional : field.optional with
    | true =>
      obtain ⟨o, ends⟩ := ih .nil
      refine ⟨o, fun r => ?_⟩
      rw [inOrder, nextElement_end _ blanks]
      simpa [optional, bind, Except.bind] using ends r
    | false =>
      refine ⟨none, fun r => ?_⟩
      rw [inOrder, nextElement_end _ blanks]
      simp [closed, optional, bind, Except.bind]

/-- A field is read from an item, and then those behind it. -/
lemma inOrder_item {field : Field α} (fields : List (Field α)) {record : α} (count : Nat)
    {item : List Char} {o : Option α} (reads : Reads (field.want record) item o) {rest : Letters}
    (ends : Ends rest) {letters : Letters}
    (next : nextElement (count = 0) letters = .ok (true, item.map some ++ rest)) :
    closed (s.inOrder count (field :: fields) record letters)
      = o.bind fun record => closed (s.inOrder (count + 1) fields record rest) := by
  rw [inOrder, next]
  simp only [closed, toOption_bind, toOption_ok, Option.bind_some, if_true, reads ends]
  cases o <;> rfl

/-- Items that are left when all fields are read. -/
lemma closed_nil {c : Char} (record : α) (count : Nat) (blanks : Gap gap) (other : isGap c = false)
    (open_ : c ≠ ']') (r : Letters) :
    closed (s.inOrder count [] record (gap.map some ++ some c :: r)) = none := by
  have fault : (endList (gap.map some ++ some c :: r)).toOption = none := by
    rw [endList, skipBlanks_gap_some blanks other]
    split <;> simp_all
  simp [closed, inOrder, fault]

/-- The fields behind another one are read up to the end of the list. -/
lemma inOrder_further {items : List (List Char)} (h : Further items text)
    (values : ∀ item ∈ items, IsValue item) {fields : List (Field α)}
    (settles : ∀ f ∈ fields, ∀ record, Settles (f.want record)) (record : α) (count : Nat) :
    ∃ o : Option α, ∀ r,
      closed (s.inOrder (count + 1) fields record (text.map some ++ some ']' :: r))
        = o.map (·, r) := by
  induction h generalizing fields record count with
  | none blanks => exact inOrder_end fields record _ blanks
  | @more item before after text items before_ after_ further ih =>
    simp only [List.map_append, List.map_cons, List.append_assoc, List.cons_append]
    cases fields with
    | nil => exact ⟨none, fun r => closed_nil record _ before_ rfl (by decide) _⟩
    | cons field fields =>
      obtain ⟨value, more⟩ := List.forall_mem_cons.1 values
      obtain ⟨here, others⟩ := List.forall_mem_cons.1 settles
      obtain ⟨o, reads⟩ := here record Gap.nil value
      obtain ⟨c, cs, rfl, start⟩ := value.start
      have next := fun r => nextElement_later before_ after_ start
        (cs.map some ++ (text.map some ++ some ']' :: r))
      have step := fun r => inOrder_item (s := s) fields (count + 1) reads
        (further.ends rfl r) (next r)
      cases o with
      | none => exact ⟨none, step⟩
      | some record =>
        obtain ⟨o, ends⟩ := ih more others record (count + 1)
        exact ⟨o, fun r => (step r).trans (ends r)⟩

end Shape

/-- A record is read from a list up to its end, or reading it fails. -/
lemma wantRecord_list {items : List (List Char)} (blanks : Gap gap) (h : IsList items text)
    (settles : ∀ f ∈ s.fields, ∀ record, Settles (f.want record)) :
    ∃ o, Reads (wantRecord s) (gap ++ text) o := by
  obtain ⟨enclosed, values⟩ := h
  -- what is read behind the opening bracket, which stands behind blanks
  have opened : ∀ r, (wantRecord s (gap.map some ++ some '[' :: r)).toOption
      = closed (s.inOrder 0 s.fields s.start r) := by
    intro r
    rw [wantRecord, skipBlanks_gap_some blanks rfl]
    simp only [toOption_bind, toOption_pure, closed, Option.map_eq_bind]
    rfl
  cases enclosed with
  | empty inner =>
    obtain ⟨o, ends⟩ := inOrder_end s.fields s.start 0 inner
    exact ⟨o, fun rest _ => by simpa [opened] using ends rest⟩
  | @filled item before text items inner further =>
    obtain ⟨value, more⟩ := List.forall_mem_cons.1 values
    obtain ⟨c, cs, rfl, start⟩ := value.start
    generalize s.fields = fields at settles opened
    cases fields with
    | nil =>
      refine ⟨none, fun rest _ => ?_⟩
      have open_ : c ≠ ']' := by
        rintro rfl
        cases start
      simpa [opened] using closed_nil s.start 0 inner (isGap_of_isStart start) open_ _
    | cons field fields =>
      obtain ⟨here, others⟩ := List.forall_mem_cons.1 settles
      obtain ⟨o, reads⟩ := here s.start Gap.nil value
      have step := fun r => inOrder_item (s := s) fields 0 reads
        (further.ends rfl r) (nextElement_first inner start
          (cs.map some ++ (text.map some ++ some ']' :: r)))
      cases o with
      | none => exact ⟨none, fun rest _ => by simpa [opened] using step rest⟩
      | some record =>
        obtain ⟨o, ends⟩ := inOrder_further further more others record 0
        exact ⟨o, fun rest _ => by simpa [opened] using (step rest).trans (ends rest)⟩

/-! ## Any value -/

namespace Shape

/-- A member is read, or reading it fails. -/
lemma takes_settles (settles : ∀ f ∈ s.fields, ∀ record, Settles (f.want record)) {m : Member}
    (named : m.IsNamed) (after : Gap m.afterColon) (value : IsValue m.value) (record : α) :
    ∃ o, s.Takes record m o := by
  cases known : s.field? m.name with
  | none => exact ⟨_, .other named known value⟩
  | some field =>
    cases met : field.isSet record with
    | true => exact ⟨_, .repeated named known met⟩
    | false =>
      obtain ⟨o, reads⟩ := settles field (List.mem_of_find?_eq_some known) record after value
      exact ⟨o, .known named known met reads⟩

/-- Members are read, or reading them fails. -/
lemma fills_settles {ms : List Member} (takes : ∀ m ∈ ms, ∀ record, ∃ o, s.Takes record m o)
    (record : α) : ∃ o, s.Fills record ms o := by
  induction ms generalizing record with
  | nil =>
    cases missing : s.missing? record with
    | none => exact ⟨_, .complete missing⟩
    | some field => exact ⟨_, .lacking missing⟩
  | cons m ms ih =>
    obtain ⟨here, others⟩ := List.forall_mem_cons.1 takes
    obtain ⟨_ | next, first⟩ := here record
    · exact ⟨_, .faulty first⟩
    · obtain ⟨o, rest⟩ := ih others next
      exact ⟨o, .member first rest⟩

/-- A member with a name that nobody has read yet is read under the name that is read, or not at
all. -/
lemma exists_named (settles : ∀ f ∈ s.fields, ∀ record, Settles (f.want record)) {m : Member}
    (body : IsBody m.body) (after : Gap m.afterColon) (value : IsValue m.value) :
    ∃ name, ∀ record, ∃ o, s.Takes record { m with name } o := by
  obtain ⟨_ | name, reads⟩ := readText_settles body
  · exact ⟨m.name, fun record => ⟨_, .unnamed reads⟩⟩
  · exact ⟨name, takes_settles settles (fun r => eq_ok_of_toOption (reads r)) after value⟩

end Shape

/-- Whatever value a record is read from, it is read up to its end, or reading it fails. -/
lemma wantRecord_settles (settles : ∀ f ∈ s.fields, ∀ record, Settles (f.want record)) :
    Settles (wantRecord s) := by
  intro gap text blanks value
  obtain ⟨c, cs, rfl, start⟩ := value.start
  by_cases bracket : c = '['
  · obtain ⟨items, isList⟩ := value.opened.2.1 bracket
    exact wantRecord_list blanks isList settles
  by_cases brace : c = '\x7b'
  · obtain ⟨ms, enclosed, parts⟩ := value.opened.2.2 brace
    -- the names do not matter for the text, so each member can have the one that is read
    obtain ⟨ms', same, parts'⟩ : ∃ ms' : List Member, ms'.map Member.text = ms.map Member.text
        ∧ ∀ m ∈ ms', (Gap m.beforeColon ∧ Gap m.afterColon)
          ∧ ∀ record, ∃ o, s.Takes record m o := by
      clear enclosed
      induction ms with
      | nil => exact ⟨[], rfl, by simp⟩
      | cons m ms ih =>
        obtain ⟨⟨body, before, after, value⟩, others⟩ := List.forall_mem_cons.1 parts
        obtain ⟨ms', same, parts'⟩ := ih others
        obtain ⟨name, takes⟩ := exists_named settles body after value
        refine ⟨{ m with name } :: ms', by rw [List.map_cons, same]; rfl, ?_⟩
        exact List.forall_mem_cons.2 ⟨⟨⟨before, after⟩, takes⟩, parts'⟩
    obtain ⟨o, fills⟩ := fills_settles (fun m mem => (parts' m mem).2) s.start
    rw [← same] at enclosed
    subst brace
    exact ⟨o, wantRecord_reads blanks enclosed (fun m mem => (parts' m mem).1) fills⟩
  · refine ⟨none, fun rest _ => ?_⟩
    rw [List.map_append, List.append_assoc, List.map_cons, List.cons_append, wantRecord,
      skipBlanks_gap_some blanks (isGap_of_isStart start)]
    split
    · simp_all
    · simp_all
    · exact refuse_fails _ _

/-- An object with members whose names can be kept is read as its members fill a record. -/
lemma IsObject.reads_filled {ms : List Member} (h : IsObject ms text) (blanks : Gap gap)
    (fills : s.Fills s.start ms o) : Reads (wantRecord s) (gap ++ text) o :=
  wantRecord_reads blanks h.1 (fun m mem => ⟨(h.2 m mem).before, (h.2 m mem).after⟩) fills

lemma IsObject.reads (settles : ∀ f ∈ s.fields, ∀ record, Settles (f.want record))
    {ms : List Member} (h : IsObject ms text) (blanks : Gap gap) :
    ∃ o, s.Fills s.start ms o ∧ Reads (wantRecord s) (gap ++ text) o := by
  obtain ⟨o, fills⟩ := fills_settles (fun m mem => takes_settles settles (h.2 m mem).isNamed
    (h.2 m mem).after (h.2 m mem).value) s.start
  exact ⟨o, fills, h.reads_filled blanks fills⟩

/-! ## Which records are read -/

namespace Shape

/-- Reading a field sets it, and leaves the others as they are. -/
def Apart (s : Shape α) : Prop :=
  ∀ {f g : Field α} {record result : α} {letters rest : Letters}, f ∈ s.fields → g ∈ s.fields →
    f.want record letters = .ok (result, rest) →
    g.isSet result = (g.isSet record || decide (f.name = g.name))

variable {record next result : α} {m : Member} {ms : List Member} {g : Field α} {name : String}

lemma field?_eq_some (h : s.field? name = some g) : g ∈ s.fields ∧ g.name = name :=
  ⟨List.mem_of_find?_eq_some h, by simpa using List.find?_some h⟩

/-- A member sets the field of its name, which was not set, and no other. -/
lemma Takes.isSet (apart : s.Apart) (h : s.Takes record m (some next))
    (known : s.field? name = some g) :
    g.isSet next = (g.isSet record || decide (m.name = name))
      ∧ (m.name = name → g.isSet record = false) := by
  obtain ⟨ours, rfl⟩ := field?_eq_some known
  cases h with
  | other named unknown value =>
    have different : m.name ≠ g.name := by
      intro same
      rw [same, known] at unknown
      cases unknown
    simp [different]
  | @known f _ named known' new reads =>
    obtain ⟨ours', same⟩ := field?_eq_some known'
    refine ⟨?_, fun same' => ?_⟩
    · rw [← same]
      exact apart ours' ours (eq_ok_of_toOption (reads .nil))
    · rw [same', known] at known'
      cases known'
      exact new

/-- A record that is read has the field of each name once at most. -/
lemma Fills.count_le (apart : s.Apart) (h : s.Fills record ms (some result))
    (known : s.field? name = some g) :
    (ms.map (·.name)).count name + (g.isSet record).toNat ≤ 1 := by
  generalize filled : some result = o at h
  induction h with
  | complete => simp [Bool.toNat_le]
  | lacking | faulty => cases filled
  | @member record next m ms o takes rest ih =>
    obtain ⟨sets, new⟩ := takes.isSet apart known
    have once := ih filled
    rw [sets] at once
    by_cases same : m.name = name
    · simp only [same, decide_true, Bool.or_true, Bool.toNat_true] at once
      simp only [List.map_cons, same, List.count_cons_self, new same, Bool.toNat_false]
      omega
    · simpa [same] using once

/-- A record that is read does not lack a field that is not optional. -/
lemma Fills.isSet (apart : s.Apart) (h : s.Fills record ms (some result))
    (known : s.field? name = some g) (required : g.optional = false) :
    g.isSet record = true ∨ name ∈ ms.map (·.name) := by
  generalize filled : some result = o at h
  induction h with
  | @complete record complete =>
    have met := List.find?_eq_none.1 complete g (field?_eq_some known).1
    exact .inl (by simpa [required] using met)
  | lacking | faulty => cases filled
  | @member record next m ms o takes rest ih =>
    rcases ih filled with met | later
    · rw [(takes.isSet apart known).1] at met
      rcases Bool.or_eq_true_iff.1 met with met | same
      · exact .inl met
      · exact .inr (by simp [(of_decide_eq_true same : m.name = name)])
    · exact .inr (List.mem_cons_of_mem _ later)

/-- A record that is read has the field of a name exactly once, unless the field is optional. -/
lemma Fills.count_eq (apart : s.Apart) (h : s.Fills record ms (some result))
    (known : s.field? name = some g) (new : g.isSet record = false)
    (required : g.optional = false) : (ms.map (·.name)).count name = 1 := by
  have once := h.count_le apart known
  have there := List.count_pos_iff.2 ((h.isSet apart known required).resolve_left (by simp [new]))
  omega

/-- The values of fields are read. -/
lemma Fills.value (h : s.Fills record ms (some result)) {m : Member} (mem : m ∈ ms)
    (known : s.field? m.name = some g) :
    ∃ record next, Reads (g.want record) (m.afterColon ++ m.value) (some next) := by
  generalize filled : some result = o at h
  induction h with
  | complete => cases mem
  | lacking | faulty => cases filled
  | @member record next m' ms o takes rest ih =>
    rcases List.mem_cons.1 mem with rfl | mem
    · cases takes with
      | other named unknown => rw [known] at unknown; cases unknown
      | known named known' new reads =>
        rw [known] at known'
        cases known'
        exact ⟨_, _, reads⟩
    · exact ih mem filled

/-- Members with other names can be left out. -/
lemma Fills.of_known (sound : ∀ m ∈ ms, m.IsNamed ∧ IsValue m.value) {o : Option α}
    (h : s.Fills record (ms.filter fun m => (s.field? m.name).isSome) o) : s.Fills record ms o := by
  induction ms generalizing record with
  | nil => exact h
  | cons m ms ih =>
    obtain ⟨⟨named, value⟩, others⟩ := List.forall_mem_cons.1 sound
    cases known : s.field? m.name with
    | none =>
      rw [List.filter_cons_of_neg (by simp [known])] at h
      exact .member (.other named known value) (ih others h)
    | some field =>
      rw [List.filter_cons_of_pos (by simp [known])] at h
      cases h with
      | faulty takes => exact .faulty takes
      | member takes rest => exact .member takes (ih others rest)

end Shape

end SignedUpgrade.Json
