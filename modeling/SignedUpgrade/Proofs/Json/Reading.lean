import Mathlib.Data.List.Forall2
import SignedUpgrade.Json.Decode
import SignedUpgrade.Proofs.Json.Records
import SignedUpgrade.Proofs.Json.Texts

/-!
# What values are read as

Whatever value a reader meets, it reads something of it and stops right behind it, or it fails; what
stands behind the value does not matter for this.

* `Reads` — what a reader reads of a text, or that it fails on it;
* `Settles` — a reader does one of the two on every value;
* `wantText_reads`, `wantText_settles` — texts;
* `wantList_reads`, `wantList_gives`, `wantList_fails`, `wantList_settles` — lists, which are read
  item by item;
* `decode_reads` — a whole document.
-/

namespace SignedUpgrade.Json

variable {α β : Type} {want : Reader α} {gap text : List Char} {rest : Letters}

/-- What is read of a text in front of whatever may stand behind a value; if nothing is, reading
fails there. -/
def Reads (want : Reader α) (text : List Char) (o : Option α) : Prop :=
  ∀ ⦃rest⦄, Ends rest → (want (text.map some ++ rest)).toOption = o.map (·, rest)

/-- Every value is read as something, or reading it fails. -/
def Settles (want : Reader α) : Prop :=
  ∀ ⦃gap text⦄, Gap gap → IsValue text → ∃ o, Reads want (gap ++ text) o

lemma Reads.unique {o o' : Option α} (h : Reads want text o) (h' : Reads want text o') :
    o = o' := by
  have same : o.map (·, ([] : Letters)) = o'.map (·, []) := (h .nil).symm.trans (h' .nil)
  cases o <;> cases o' <;> simp_all

lemma Reads.map {o : Option α} (h : Reads want text o) (f : α → β) :
    Reads (fun letters => (want letters).map fun (a, r) => (f a, r)) text (o.map f) := by
  intro rest ends
  rw [toOption_map, h ends, Option.map_map, Option.map_map]
  rfl

lemma Settles.map (h : Settles want) (f : α → β) :
    Settles (fun letters => (want letters).map fun (a, r) => (f a, r)) := by
  intro gap text blanks value
  obtain ⟨o, reads⟩ := h blanks value
  exact ⟨o.map f, reads.map f⟩

/-! ## Where a value starts -/

lemma skipBlanks_gap (blanks : Gap gap) (r : Letters) :
    skipBlanks (gap.map some ++ r) = skipBlanks r := by
  induction gap with
  | nil => rfl
  | cons c gap ih =>
    obtain ⟨here, later⟩ := List.forall_mem_cons.1 blanks
    rw [List.map_cons, List.cons_append, skipBlanks, if_pos here, ih later]

lemma skipBlanks_some {c : Char} (other : isGap c = false) (r : Letters) :
    skipBlanks (some c :: r) = some c :: r := by
  rw [skipBlanks, other]
  rfl

/-- The letters from a character on that is no blank. -/
lemma skipBlanks_gap_some (blanks : Gap gap) {c : Char} (other : isGap c = false) (r : Letters) :
    skipBlanks (gap.map some ++ some c :: r) = some c :: r := by
  rw [skipBlanks_gap blanks, skipBlanks_some other]

lemma refuse_fails (wanted : String) (letters : Letters) :
    (refuse wanted letters : Except Fault (α × Letters)).toOption = none := by
  cases h : (refuse wanted letters : Except Fault (α × Letters)) with
  | error => rfl
  | ok result => exact absurd h (refuse_ne_ok wanted letters result)

lemma digit_ne {d : Char} (digit : d.isDigit = true) : d ≠ '"' ∧ d ≠ '[' ∧ d ≠ '\x7b' := by
  refine ⟨?_, ?_, ?_⟩ <;>
    (rintro rfl; cases digit)

/-- What starts with a quote is a text, what starts with a bracket is a list, and what starts with a
brace is an object. -/
lemma IsValue.opened {c : Char} {cs : List Char} (h : IsValue (c :: cs)) :
    (c = '"' → ∃ body, IsBody body ∧ cs = body ++ ['"'])
      ∧ (c = '[' → ∃ items, IsList items (c :: cs))
      ∧ (c = '\x7b' → ∃ ms : List Member, Enclosed '\x7b' '\x7d' (ms.map Member.text) (c :: cs)
        ∧ ∀ m ∈ ms, IsBody m.body ∧ Gap m.beforeColon ∧ Gap m.afterColon ∧ IsValue m.value) := by
  generalize same : c :: cs = text at h
  cases h with
  | word known =>
    cases same
    simp only [words, List.mem_cons, Prod.mk.injEq, List.not_mem_nil, or_false] at known
    rcases known with ⟨rfl, -⟩ | ⟨rfl, -⟩ | ⟨rfl, -⟩ <;> simp
  | number numeral =>
    obtain ⟨sign, whole, fraction, exponent, signed, isWhole, _, _, rfl⟩ := numeral
    rcases signed with rfl | rfl
    · cases isWhole with
      | zero =>
        cases same
        simp
      | digits first =>
        cases same
        simp [digit_ne first]
    · cases same
      simp
  | text isBody =>
    cases same
    simpa using isBody
  | list enclosed values =>
    obtain ⟨cs', rfl⟩ := enclosed.start
    cases same
    simpa using ⟨_, enclosed, values⟩
  | object enclosed bodies before after values =>
    obtain ⟨cs', rfl⟩ := enclosed.start
    cases same
    simpa using ⟨_, enclosed, fun m mem => ⟨bodies m mem, before m mem, after m mem, values m mem⟩⟩

/-! ## Texts -/

lemma wantText_quote (wanted : String) (blanks : Gap gap) (r : Letters) :
    wantText wanted (gap.map some ++ some '"' :: r) = readText r := by
  rw [wantText, skipBlanks_gap_some blanks rfl]
  rfl

/-- A text is read as what it spells. -/
lemma wantText_reads (wanted : String) {s : String} (blanks : Gap gap) (h : TextOf s text) :
    Reads (wantText wanted) (gap ++ text) (some s) := by
  obtain ⟨body, spells, rfl⟩ := h
  intro rest _
  simp only [List.map_append, List.map_cons, List.append_assoc, List.cons_append, List.map_nil,
    List.nil_append]
  rw [wantText_quote wanted blanks, readText_spells spells]
  rfl

lemma wantText_settles (wanted : String) : Settles (wantText wanted) := by
  intro gap text blanks value
  obtain ⟨c, cs, rfl, start⟩ := value.start
  by_cases quote : c = '"'
  · obtain ⟨body, isBody, rfl⟩ := value.opened.1 quote
    obtain ⟨o, settles⟩ := readText_settles isBody
    refine ⟨o, fun rest _ => ?_⟩
    simp only [quote, List.map_append, List.map_cons, List.append_assoc, List.cons_append,
      List.map_nil, List.nil_append]
    rw [wantText_quote wanted blanks, settles]
  · refine ⟨none, fun rest _ => ?_⟩
    rw [List.map_append, List.append_assoc, List.map_cons, List.cons_append, wantText,
      skipBlanks_gap_some blanks (isGap_of_isStart start)]
    split
    · simp_all
    · exact refuse_fails _ _

/-! ## Lists -/

lemma nextElement_first {c : Char} (blanks : Gap gap) (start : isStart c = true) (r : Letters) :
    nextElement true (gap.map some ++ some c :: r) = .ok (true, some c :: r) := by
  rw [nextElement, skipBlanks_gap_some blanks (isGap_of_isStart start)]
  split
  · simp_all [isStart]
  · simp_all [isStart]
  · simp_all
  · simp

lemma nextElement_later {before after : List Char} {c : Char} (before_ : Gap before)
    (after_ : Gap after) (start : isStart c = true) (r : Letters) :
    nextElement false (before.map some ++ some ',' :: (after.map some ++ some c :: r))
      = .ok (true, some c :: r) := by
  rw [nextElement, skipBlanks_gap_some before_ rfl]
  simp only [Bool.false_eq_true, if_false]
  rw [skipBlanks_gap_some after_ (isGap_of_isStart start)]
  split
  · simp_all [isStart]
  · simp_all
  · rfl

lemma nextElement_end (first : Bool) (blanks : Gap gap) (r : Letters) :
    nextElement first (gap.map some ++ some ']' :: r) = .ok (false, some ']' :: r) := by
  rw [nextElement, skipBlanks_gap_some blanks rfl]
  rfl

lemma endList_gap (blanks : Gap gap) (r : Letters) :
    endList (gap.map some ++ some ']' :: r) = .ok r := by
  rw [endList, skipBlanks_gap_some blanks rfl]
  rfl

/-- One item is read, and then those behind it. -/
lemma elements_item {item : List Char} {o : Option α} (reads : Reads want item o)
    (ends : Ends rest) {first : Bool} {letters : Letters}
    (next : nextElement first letters = .ok (true, item.map some ++ rest)) (fuel : Nat) :
    (elements want (fuel + 1) first letters).toOption = o.bind fun a =>
      (elements want fuel false rest).toOption.map fun (as, r) => (a :: as, r) := by
  rw [elements, next]
  simp only [toOption_bind, toOption_ok, Option.bind_some, if_true, reads ends, Option.bind_map]
  cases o with
  | none => rfl
  | some a =>
    simp [Function.comp_def, Option.map_eq_bind]

/-- The items behind another one are read up to the closing bracket. -/
lemma elements_further {items : List (List Char)} (h : Further items text)
    (values : ∀ item ∈ items, IsValue item) {os : List (Option α)}
    (reads : List.Forall₂ (Reads want) items os) {fuel : Nat} (enough : items.length < fuel)
    (r : Letters) :
    (elements want fuel false (text.map some ++ some ']' :: r)).toOption
      = (os.mapM id).map (·, some ']' :: r) := by
  obtain ⟨fuel, rfl⟩ := Nat.exists_eq_succ_of_ne_zero (Nat.ne_of_gt (Nat.zero_lt_of_lt enough))
  induction h generalizing os fuel with
  | none blanks =>
    cases reads
    rw [elements, nextElement_end false blanks]
    rfl
  | @more item before after text items before_ after_ further ih =>
    obtain ⟨fuel, rfl⟩ : ∃ n, fuel = n + 1 :=
      Nat.exists_eq_succ_of_ne_zero (by rw [List.length_cons] at enough; omega)
    obtain ⟨value, more⟩ := List.forall_mem_cons.1 values
    cases reads with
    | cons here others =>
      obtain ⟨c, cs, rfl, start⟩ := value.start
      have next := nextElement_later before_ after_ start
        (cs.map some ++ (text.map some ++ some ']' :: r))
      simp only [List.map_append, List.map_cons, List.append_assoc, List.cons_append]
      rw [elements_item here (further.ends rfl r) next,
        ih more others fuel (by rw [List.length_cons] at enough; omega)]
      simp [Option.map_eq_bind, Option.bind_assoc]

lemma Further.length_le {items : List (List Char)} (h : Further items text) :
    items.length ≤ text.length := by
  induction h with
  | none => simp
  | more _ _ _ ih => simp; omega

/-- A list is read item by item. -/
lemma wantList_reads {items : List (List Char)} (blanks : Gap gap) (h : IsList items text)
    {os : List (Option α)} (reads : List.Forall₂ (Reads want) items os) :
    Reads (wantList want) (gap ++ text) (os.mapM id) := by
  obtain ⟨enclosed, values⟩ := h
  intro rest _
  have ended : endList (some ']' :: rest) = .ok rest := endList_gap .nil rest
  rw [List.map_append, List.append_assoc, wantList]
  cases enclosed with
  | empty inner =>
    cases reads
    simp only [List.map_cons, List.map_append, List.map_nil, List.cons_append, List.append_assoc,
      List.nil_append]
    rw [skipBlanks_gap_some blanks rfl]
    simp [elements, nextElement_end true inner, ended]
  | @filled item before text items inner further =>
    obtain ⟨value, more⟩ := List.forall_mem_cons.1 values
    cases reads with
    | cons here others =>
      obtain ⟨c, cs, rfl, start⟩ := value.start
      have next := nextElement_first inner start
        (cs.map some ++ (text.map some ++ some ']' :: rest))
      have enough := further.length_le
      simp only [List.map_cons, List.map_append, List.map_nil, List.cons_append, List.append_assoc,
        List.nil_append]
      rw [skipBlanks_gap_some blanks rfl]
      simp only [toOption_bind]
      rw [elements_item here (further.ends rfl rest) next, elements_further further more others]
      · simp [Option.map_eq_bind, Option.bind_assoc, ended]
      · simp
        omega

/-- Whatever else stands there is no list. -/
lemma wantList_other {c : Char} (blanks : Gap gap) (start : isStart c = true) (other : c ≠ '[')
    (r : Letters) : (wantList want (gap.map some ++ some c :: r)).toOption = none := by
  rw [wantList, skipBlanks_gap_some blanks (isGap_of_isStart start)]
  split
  · simp_all
  · exact refuse_fails _ _

lemma exists_forall₂ {R : α → β → Prop} {as : List α} (h : ∀ a ∈ as, ∃ b, R a b) :
    ∃ bs, List.Forall₂ R as bs := by
  induction as with
  | nil => exact ⟨[], .nil⟩
  | cons a as ih =>
    obtain ⟨⟨b, here⟩, later⟩ := List.forall_mem_cons.1 h
    obtain ⟨bs, others⟩ := ih later
    exact ⟨b :: bs, .cons here others⟩

lemma exists_of_forall₂ {R : α → β → Prop} {as : List α} {bs : List β} (h : List.Forall₂ R as bs)
    {a : α} (mem : a ∈ as) : ∃ b ∈ bs, R a b := by
  induction h with
  | nil => cases mem
  | cons here _ ih =>
    rcases List.mem_cons.1 mem with rfl | mem
    · exact ⟨_, List.mem_cons_self, here⟩
    · obtain ⟨b, later, there⟩ := ih mem
      exact ⟨b, List.mem_cons_of_mem _ later, there⟩

lemma mapM_id_some (as : List α) : (as.map some).mapM id = some as := by
  induction as with
  | nil => rfl
  | cons a as ih => simp [ih]

lemma mapM_id_none {os : List (Option α)} (h : none ∈ os) : os.mapM id = none := by
  induction os with
  | nil => cases h
  | cons o os ih =>
    rcases List.mem_cons.1 h with rfl | mem
    · rfl
    · cases o <;> simp [ih mem]

/-- A list of which every item is read is read as the values of its items. -/
lemma wantList_gives {items : List (List Char)} (blanks : Gap gap) (h : IsList items text)
    {as : List α} (reads : List.Forall₂ (fun a item => Reads want item (some a)) as items) :
    Reads (wantList want) (gap ++ text) (some as) := by
  rw [← mapM_id_some as]
  refine wantList_reads blanks h ?_
  rw [List.forall₂_map_right_iff]
  exact List.Forall₂.flip reads

/-- A list is not read if one of its items is not. -/
lemma wantList_fails {items : List (List Char)} (blanks : Gap gap) (h : IsList items text)
    (settles : Settles want) {item : List Char} (mem : item ∈ items)
    (fails : Reads want item none) : Reads (wantList want) (gap ++ text) none := by
  obtain ⟨os, reads⟩ := exists_forall₂ fun item mem => settles Gap.nil (h.2 item mem)
  obtain ⟨o, fault, read⟩ := exists_of_forall₂ reads mem
  obtain rfl := read.unique fails
  rw [← mapM_id_none fault]
  exact wantList_reads blanks h reads

lemma wantList_settles (h : Settles want) : Settles (wantList want) := by
  intro gap text blanks value
  obtain ⟨c, cs, rfl, start⟩ := value.start
  by_cases bracket : c = '['
  · obtain ⟨items, isList⟩ := value.opened.2.1 bracket
    obtain ⟨os, reads⟩ := exists_forall₂ fun item mem => h Gap.nil (isList.2 item mem)
    exact ⟨_, wantList_reads blanks isList reads⟩
  · refine ⟨none, fun rest _ => ?_⟩
    rw [List.map_append, List.append_assoc]
    exact wantList_other blanks start bracket _

/-! ## Documents -/

/-- A document is read as the value that it consists of, with blanks around it. -/
lemma decode_reads {o : Option α} (h : Reads want text o) {after : List Char} (blanks : Gap after) :
    (decode want ((text ++ after).map some)).toOption = o := by
  have ends : Ends (after.map some) := by
    simpa using Ends.gap blanks .nil
  have end_ : skipBlanks (after.map some) = [] := by
    simpa [skipBlanks] using skipBlanks_gap blanks []
  rw [List.map_append, decode, toOption_bind, h ends]
  cases o <;> simp [end_]

end SignedUpgrade.Json
