import SignedUpgrade.Proofs.Json.Grammar

/-!
# Values that are left out

Whoever leaves a value out finds its end, whatever the value is and however deep it is nested.

* `resume` — what follows a value inside of what is open around it;
* `Skips` — a text is left out as a whole, wherever it stands;
* `IsValue.skips` — every value is;
* `skip_value` — a value that stands alone is left out, and nothing else.
-/

namespace SignedUpgrade.Json

variable {frames frames' : List Frame} {place : Place} {c : Char} {rest : Letters}

/-- How reading goes on behind a value inside of some frames. -/
def resume : List Frame → Letters → Except Fault Letters
  | [], rest => .ok rest
  | frame :: frames, rest => skipFrom .after (frame :: frames) rest

/-! ## Steps -/

lemma skipFrom_on (next : Place) (inside : List Frame)
    (step : advance frames place c = .on next inside) (r : Letters) :
    skipFrom place frames (some c :: r) = skipFrom next inside r := by
  rw [skipFrom, step]

lemma skipFrom_ended (step : advance frames place c = ended frames') (r : Letters) :
    skipFrom place frames (some c :: r) = resume frames' r := by
  rw [skipFrom, step]
  cases frames' <;> rfl

/-- Characters that lead nowhere else are passed over. -/
lemma skipFrom_stays {cs : List Char} (stays : ∀ c ∈ cs, advance frames place c = .on place frames)
    (r : Letters) : skipFrom place frames (cs.map some ++ r) = skipFrom place frames r := by
  induction cs with
  | nil => rfl
  | cons c cs ih =>
    obtain ⟨here, later⟩ := List.forall_mem_cons.1 stays
    rw [List.map_cons, List.cons_append, skipFrom_on place frames here, ih later]

/-- The places at which blanks may stand. -/
def Place.IsOpen (frames : List Frame) : Place → Prop
  | .value | .firstElement | .key | .firstKey | .colon => True
  | .after => frames ≠ []
  | _ => False

lemma skipFrom_gap {gap : List Char} (place : Place) (open_ : place.IsOpen frames)
    (blanks : Gap gap) (r : Letters) :
    skipFrom place frames (gap.map some ++ r) = skipFrom place frames r := by
  refine skipFrom_stays (fun c mem => ?_) r
  have blank := blanks c mem
  cases place with
  | value | firstElement | key | firstKey | colon => simp [advance, blank]
  | after =>
    obtain _ | ⟨frame, frames⟩ := frames
    · exact absurd rfl open_
    · cases frame <;> simp [advance, afterStep, blank]
  | _ => exact open_.elim

/-! ## Words -/

lemma skipFrom_word {c : Char} (word : List Char) (r : Letters) :
    skipFrom (.word (c :: word)) frames ((c :: word).map some ++ r) = resume frames r := by
  induction word generalizing c with
  | nil => exact skipFrom_ended (by simp [advance]) r
  | cons d word ih =>
    rw [List.map_cons, List.cons_append, skipFrom_on (.word (d :: word)) frames (by simp [advance])]
    exact ih

/-! ## Texts -/

lemma hexValue_of_codeOf {a b c d : Char} (h : (codeOf? a b c d).isSome = true) :
    (hexValue? a).isSome = true ∧ (hexValue? b).isSome = true ∧ (hexValue? c).isSome = true
      ∧ (hexValue? d).isSome = true := by
  revert h
  rw [codeOf?]
  cases hexValue? a <;> cases hexValue? b <;> cases hexValue? c <;> cases hexValue? d <;> simp

/-- A digit of an escape, which may be the last one. -/
lemma advance_hex {c : Char} (digit : (hexValue? c).isSome = true) (ofKey : Bool) :
    advance frames (.hex 0 ofKey) c = .on (.text ofKey) frames ∧ ∀ missing,
      advance frames (.hex (missing + 1) ofKey) c = .on (.hex missing ofKey) frames := by
  have hexadecimal : (hexValue? c).isNone = false := by simpa using digit
  simp [advance, hexadecimal]

/-- What stands between the quotes of a text is passed over. -/
lemma skipFrom_body {body : List Char} (h : IsBody body) (ofKey : Bool) (r : Letters) :
    skipFrom (.text ofKey) frames (body.map some ++ r) = skipFrom (.text ofKey) frames r := by
  have escapes : advance frames (.text ofKey) '\\' = .on (.escape ofKey) frames := by
    simp [advance]
  induction h with
  | nil => rfl
  | plain itself _ ih =>
    obtain ⟨quote, backslash, control⟩ := itself
    rw [List.map_cons, List.cons_append, skipFrom_on (.text ofKey) frames, ih]
    simp [advance, quote, backslash, Nat.not_lt.2 control]
  | @short letter _ escape _ ih =>
    have other : letter ≠ 'u' := by
      rintro rfl
      cases escape
    rw [List.map_cons, List.map_cons, List.cons_append, List.cons_append,
      skipFrom_on _ _ escapes, skipFrom_on (.text ofKey) frames, ih]
    simp [advance, other, escape]
  | @code a b c d _ number _ ih =>
    obtain ⟨first, second, third, fourth⟩ := hexValue_of_codeOf number
    simp only [List.map_cons, List.cons_append]
    rw [skipFrom_on _ _ escapes, skipFrom_on (.hex 3 ofKey) frames (by simp [advance]),
      skipFrom_on _ _ ((advance_hex first ofKey).2 2),
      skipFrom_on _ _ ((advance_hex second ofKey).2 1),
      skipFrom_on _ _ ((advance_hex third ofKey).2 0),
      skipFrom_on _ _ (advance_hex fourth ofKey).1, ih]

/-! ## Numbers -/

/-- The places at which a number may end. -/
inductive Place.IsNumberEnd : Place → Prop where
  | zero : IsNumberEnd .zero
  | whole : IsNumberEnd .whole
  | decimals : IsNumberEnd .decimals
  | exponent : IsNumberEnd .exponent

/-- A number ends in front of a letter that ends it, or with the document. -/
lemma skipFrom_numberEnd (h : place.IsNumberEnd) (ends : Ends rest) :
    skipFrom place frames rest = resume frames rest := by
  cases rest with
  | nil => cases h <;> cases frames <;> rfl
  | cons letter r =>
    obtain ⟨c, rfl, isEnd⟩ := ends letter rfl
    have step : advance frames place c = afterStep c frames := by
      simp only [Json.isEnd, isGap, Bool.or_eq_true, beq_iff_eq] at isEnd
      rcases isEnd with ((((((rfl | rfl) | rfl) | rfl) | rfl) | rfl) | rfl) <;> cases h <;>
        simp [advance, Char.isDigit]
    rw [skipFrom, step]
    cases frames with
    | nil => rfl
    | cons frame frames =>
      rw [resume, skipFrom]
      rfl

/-- Digits lead to a place at which more of them may follow. -/
lemma skipFrom_digits {ds : List Char} (digits : IsDigits ds) (first next : Place)
    (starts : ∀ d, d.isDigit = true → advance frames first d = .on next frames)
    (goesOn : ∀ d, d.isDigit = true → advance frames next d = .on next frames) (r : Letters) :
    skipFrom first frames (ds.map some ++ r) = skipFrom next frames r := by
  obtain ⟨some_, digits⟩ := digits
  cases ds with
  | nil => exact absurd rfl some_
  | cons d ds =>
    obtain ⟨here, later⟩ := List.forall_mem_cons.1 digits
    rw [List.map_cons, List.cons_append, skipFrom_on next frames (starts d here)]
    exact skipFrom_stays (fun d mem => goesOn d (later d mem)) r

/-- A number goes on behind its whole part or its decimals with the exponent, and ends. -/
lemma skipFrom_exponent {exponent : List Char} (h : IsExponent exponent)
    (behind : place = .zero ∨ place = .whole ∨ place = .decimals) (ends : Ends rest) :
    skipFrom place frames (exponent.map some ++ rest) = resume frames rest := by
  have digits : ∀ {ds}, IsDigits ds → ∀ place, place = .exponentMark ∨ place = .exponentSign →
      skipFrom place frames (ds.map some ++ rest) = resume frames rest := by
    intro ds digits place from_
    rw [skipFrom_digits digits place .exponent ?_ (by simp +contextual [advance])]
    · exact skipFrom_numberEnd .exponent ends
    · intro d digit
      rcases from_ with rfl | rfl <;> simp [advance, digit]
  cases h with
  | missing =>
    rcases behind with rfl | rfl | rfl
    · exact skipFrom_numberEnd .zero ends
    · exact skipFrom_numberEnd .whole ends
    · exact skipFrom_numberEnd .decimals ends
  | @digits e sign ds mark signed isDigits =>
    have marked : advance frames place e = .on .exponentMark frames := by
      rcases mark with rfl | rfl <;> rcases behind with rfl | rfl | rfl <;> rfl
    rw [List.map_cons, List.cons_append, skipFrom_on _ _ marked]
    rcases signed with rfl | rfl | rfl
    · exact digits isDigits _ (.inl rfl)
    · exact (skipFrom_on .exponentSign frames rfl _).trans (digits isDigits _ (.inr rfl))
    · exact (skipFrom_on .exponentSign frames rfl _).trans (digits isDigits _ (.inr rfl))

/-- A number goes on behind its whole part. -/
lemma skipFrom_fraction {fraction exponent : List Char} (isFraction : IsFraction fraction)
    (isExponent : IsExponent exponent) (behind : place = .zero ∨ place = .whole)
    (ends : Ends rest) :
    skipFrom place frames ((fraction ++ exponent).map some ++ rest) = resume frames rest := by
  cases isFraction with
  | missing =>
    refine skipFrom_exponent isExponent ?_ ends
    rcases behind with rfl | rfl <;> simp
  | digits digits =>
    have point : advance frames place '.' = .on .point frames := by
      rcases behind with rfl | rfl <;> rfl
    rw [List.cons_append, List.map_cons, List.cons_append, skipFrom_on _ _ point, List.map_append,
      List.append_assoc, skipFrom_digits digits .point .decimals (by simp +contextual [advance])
        (by simp +contextual [advance])]
    exact skipFrom_exponent isExponent (.inr (.inr rfl)) ends

/-- A number is followed to its end, with its sign in front of it or behind its sign. -/
lemma skipFrom_whole {whole fraction exponent : List Char} (isWhole : IsWhole whole)
    (isFraction : IsFraction fraction) (isExponent : IsExponent exponent)
    (start : place = .value ∨ place = .minus) (ends : Ends rest) :
    skipFrom place frames ((whole ++ (fraction ++ exponent)).map some ++ rest)
      = resume frames rest := by
  rw [List.map_append, List.append_assoc]
  cases isWhole with
  | zero =>
    have zero : advance frames place '0' = .on .zero frames := by
      rcases start with rfl | rfl <;> rfl
    exact (skipFrom_on _ _ zero _).trans (skipFrom_fraction isFraction isExponent (.inl rfl) ends)
  | @digits d ds first other more =>
    have noDigit : ∀ c, c.isDigit = false → d ≠ c := by
      rintro _ no rfl
      rw [first] at no
      cases no
    have digit : advance frames place d = .on .whole frames := by
      rcases start with rfl | rfl <;>
        simp (disch := decide) [advance, startStep, isGap, first, other, noDigit]
    rw [List.map_cons, List.cons_append, skipFrom_on _ _ digit, skipFrom_stays]
    · exact skipFrom_fraction isFraction isExponent (.inr rfl) ends
    · intro d mem
      simp [advance, more d mem]

lemma skipFrom_numeral {text : List Char} (h : IsNumeral text) (ends : Ends rest) :
    skipFrom .value frames (text.map some ++ rest) = resume frames rest := by
  obtain ⟨sign, whole, fraction, exponent, signed, isWhole, isFraction, isExponent, rfl⟩ := h
  rcases signed with rfl | rfl
  · rw [List.nil_append]
    exact skipFrom_whole isWhole isFraction isExponent (.inl rfl) ends
  · rw [List.singleton_append, List.map_cons, List.cons_append, skipFrom_on .minus frames rfl]
    exact skipFrom_whole isWhole isFraction isExponent (.inr rfl) ends

/-! ## Lists and objects -/

namespace Frame

/-- The bracket with which a list or an object starts. -/
def opening : Frame → Char
  | .list => '['
  | .object => '\x7b'

/-- The bracket with which it ends. -/
def closing : Frame → Char
  | .list => ']'
  | .object => '\x7d'

/-- The place behind the opening bracket. -/
def first : Frame → Place
  | .list => .firstElement
  | .object => .firstKey

/-- The place behind a comma. -/
def later : Frame → Place
  | .list => .value
  | .object => .key

variable (frame : Frame)

lemma isEnd_closing : isEnd frame.closing = true := by
  cases frame <;> rfl

lemma advance_opening :
    advance frames .value frame.opening = .on frame.first (frame :: frames) := by
  cases frame <;> rfl

lemma advance_comma : advance (frame :: frames) .after ',' = .on frame.later (frame :: frames) := by
  cases frame <;> rfl

lemma advance_closing (place : Place) (h : place = .after ∨ place = frame.first) :
    advance (frame :: frames) place frame.closing = ended frames := by
  rcases h with rfl | rfl <;> cases frame <;> rfl

lemma isOpen_first : frame.first.IsOpen frames := by
  cases frame <;> trivial

lemma isOpen_later : frame.later.IsOpen frames := by
  cases frame <;> trivial

/-- An item may stand behind the opening bracket as it may behind a comma, and is followed to its
end. -/
structure Passes (frames : List Frame) (item : List Char) : Prop where
  starts : ∃ c cs, item = c :: cs
    ∧ advance (frame :: frames) frame.first c = advance (frame :: frames) frame.later c
  ends : ∀ {rest}, Ends rest →
    skipFrom frame.later (frame :: frames) (item.map some ++ rest) = resume (frame :: frames) rest

variable {frame}

lemma Passes.first {item : List Char} (h : frame.Passes frames item) (r : Letters) :
    skipFrom frame.first (frame :: frames) (item.map some ++ r)
      = skipFrom frame.later (frame :: frames) (item.map some ++ r) := by
  obtain ⟨c, cs, rfl, same⟩ := h.starts
  rw [List.map_cons, List.cons_append, skipFrom, same, skipFrom]

/-- Items behind another one are followed one after the other, up to the closing bracket. -/
lemma skipFrom_further {items : List (List Char)} {text : List Char} (h : Further items text)
    (passes : ∀ item ∈ items, frame.Passes frames item) (r : Letters) :
    skipFrom .after (frame :: frames) (text.map some ++ some frame.closing :: r)
      = resume frames r := by
  have open_ : Place.after.IsOpen (frame :: frames) := by
    simp [Place.IsOpen]
  induction h with
  | none blanks =>
    rw [skipFrom_gap _ open_ blanks, skipFrom_ended (frame.advance_closing .after (.inl rfl))]
  | @more item before after text items before_ after_ further ih =>
    obtain ⟨here, others⟩ := List.forall_mem_cons.1 passes
    simp only [List.map_append, List.map_cons, List.append_assoc, List.cons_append]
    rw [skipFrom_gap _ open_ before_, skipFrom_on _ _ frame.advance_comma,
      skipFrom_gap _ frame.isOpen_later after_, here.ends (further.ends frame.isEnd_closing r)]
    exact ih others

/-- A list or an object is followed from its opening bracket to its closing one. -/
lemma skipFrom_enclosed (frame : Frame) {items : List (List Char)} {text : List Char}
    (h : Enclosed frame.opening frame.closing items text)
    (passes : ∀ item ∈ items, frame.Passes frames item) (r : Letters) :
    skipFrom .value frames (text.map some ++ r) = resume frames r := by
  cases h with
  | empty blanks =>
    simp only [List.map_cons, List.map_append, List.cons_append, List.append_assoc, List.map_nil,
      List.nil_append]
    rw [skipFrom_on _ _ frame.advance_opening, skipFrom_gap _ frame.isOpen_first blanks,
      skipFrom_ended (frame.advance_closing _ (.inr rfl))]
  | filled blanks further =>
    obtain ⟨here, others⟩ := List.forall_mem_cons.1 passes
    simp only [List.map_cons, List.map_append, List.cons_append, List.append_assoc, List.map_nil,
      List.nil_append]
    rw [skipFrom_on _ _ frame.advance_opening, skipFrom_gap _ frame.isOpen_first blanks, here.first,
      here.ends (further.ends frame.isEnd_closing r)]
    exact skipFrom_further further others r

end Frame

/-! ## Values -/

/-- A text is left out as a whole, wherever it stands. -/
def Skips (text : List Char) : Prop :=
  ∀ (frames : List Frame) {rest : Letters}, Ends rest →
    skipFrom .value frames (text.map some ++ rest) = resume frames rest

/-- What starts a value is no closing bracket. -/
lemma advance_firstElement (start : isStart c = true) :
    advance frames .firstElement c = advance frames .value c := by
  have open_ : c ≠ ']' := by
    rintro rfl
    cases start
  simp [advance, open_, isGap_of_isStart start]

/-- A member is followed from its name to the end of its value. -/
lemma Member.passes {m : Member} (body : IsBody m.body) (before : Gap m.beforeColon)
    (after : Gap m.afterColon) (value : Skips m.value) : Frame.object.Passes frames m.text where
  starts := ⟨_, _, rfl, rfl⟩
  ends := by
    intro rest ends
    simp only [Member.text, List.map_cons, List.map_append, List.cons_append, List.append_assoc]
    rw [skipFrom_on (.text true) (.object :: frames) rfl, skipFrom_body body,
      skipFrom_on .colon (.object :: frames) rfl, skipFrom_gap .colon trivial before,
      skipFrom_on .value (.object :: frames) rfl, skipFrom_gap .value trivial after]
    exact value _ ends

/-- **Every value is left out as a whole,** however deep it is nested. -/
theorem IsValue.skips {text : List Char} (h : IsValue text) : Skips text := by
  induction h with
  | word known =>
    intro frames rest _
    simp only [words, List.mem_cons, Prod.mk.injEq, List.not_mem_nil, or_false] at known
    rcases known with ⟨rfl, rfl⟩ | ⟨rfl, rfl⟩ | ⟨rfl, rfl⟩ <;>
      exact (skipFrom_on (.word _) frames rfl _).trans (skipFrom_word _ rest)
  | number numeral =>
    intro frames rest ends
    exact skipFrom_numeral numeral ends
  | text isBody =>
    intro frames rest _
    simp only [List.map_cons, List.map_append, List.cons_append, List.append_assoc, List.map_nil,
      List.nil_append]
    rw [skipFrom_on (.text false) frames rfl, skipFrom_body isBody, skipFrom_ended (by rfl)]
  | list enclosed values ih =>
    intro frames rest _
    refine Frame.skipFrom_enclosed .list enclosed (fun item mem => ⟨?_, ?_⟩) rest
    · obtain ⟨c, cs, rfl, start⟩ := (values item mem).start
      exact ⟨c, cs, rfl, advance_firstElement start⟩
    · exact ih item mem _
  | object enclosed bodies before after values ih =>
    intro frames rest _
    refine Frame.skipFrom_enclosed .object enclosed ?_ rest
    rw [List.forall_mem_map]
    exact fun m mem => Member.passes (bodies m mem) (before m mem) (after m mem) (ih m mem)

/-- A value is left out with the blanks in front of it, and nothing else is. -/
lemma skip_value {gap text : List Char} (blanks : Gap gap) (h : IsValue text) (ends : Ends rest) :
    skip ((gap ++ text).map some ++ rest) = .ok rest := by
  rw [skip, List.map_append, List.append_assoc, skipFrom_gap .value trivial blanks, h.skips [] ends,
    resume]

end SignedUpgrade.Json
