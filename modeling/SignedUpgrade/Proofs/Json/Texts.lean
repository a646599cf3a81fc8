import SignedUpgrade.Proofs.Json.Grammar

/-!
# Texts that are kept

A text is read as what it spells, whatever follows its closing quote.  Where a text spells nothing,
because half of a pair of escapes stands alone, reading it fails, whatever follows.

* `readText_spells` — what a text is read as;
* `readText_settles` — reading a text ends at its closing quote or fails.
-/

namespace SignedUpgrade.Json

/-! ## Results without their faults -/

@[simp] lemma toOption_bind {ε α β : Type} (x : Except ε α) (f : α → Except ε β) :
    (x >>= f).toOption = x.toOption.bind fun a => (f a).toOption := by
  cases x <;> rfl

@[simp] lemma toOption_map {ε α β : Type} (x : Except ε α) (f : α → β) :
    (x.map f).toOption = x.toOption.map f := by
  cases x <;> rfl

@[simp] lemma toOption_ok {ε α : Type} (a : α) : (.ok a : Except ε α).toOption = some a := rfl

@[simp] lemma toOption_pure {ε α : Type} (a : α) : (pure a : Except ε α).toOption = some a := rfl

@[simp] lemma toOption_error {ε α : Type} (e : ε) :
    (.error e : Except ε α).toOption = none := rfl

lemma eq_ok_of_toOption {ε α : Type} {x : Except ε α} {a : α} (h : x.toOption = some a) :
    x = .ok a := by
  cases x with
  | error => cases h
  | ok => rw [Option.some.inj h]

lemma eq_error_of_toOption {ε α : Type} {x : Except ε α} (h : x.toOption = none) :
    ∃ e, x = .error e := by
  cases x with
  | error e => exact ⟨e, rfl⟩
  | ok => cases h

/-! ## Steps -/

/-- A text that goes on with some characters. -/
def prepend (read : List Char) (result : Except Fault (List Char × Letters)) :
    Except Fault (List Char × Letters) :=
  result.map fun (more, rest) => (read ++ more, rest)

@[simp] lemma prepend_ok (read more : List Char) (rest : Letters) :
    prepend read (.ok (more, rest)) = .ok (read ++ more, rest) := rfl

@[simp] lemma prepend_nil (result : Except Fault (List Char × Letters)) :
    prepend [] result = result := by
  cases result <;> rfl

lemma prepend_prepend (read read' : List Char) (result : Except Fault (List Char × Letters)) :
    prepend read (prepend read' result) = prepend (read ++ read') result := by
  cases result <;> simp [prepend, Except.map]

variable {state : TextState} {c : Char}

lemma readTextFrom_cons (next : TextState) (read : List Char)
    (step : textStep state c = some (.next next read)) (r : Letters) :
    readTextFrom state (some c :: r) = prepend read (readTextFrom next r) := by
  rw [readTextFrom, step]
  dsimp only
  rcases readTextFrom next r with fault | ⟨more, rest⟩
  · rfl
  · rfl

lemma readTextFrom_fault (step : textStep state c = none) (r : Letters) :
    readTextFrom state (some c :: r) = .error .malformed := by
  rw [readTextFrom, step]

lemma StandsForItself.textStep (h : StandsForItself c) :
    textStep .plain c = some (.next .plain [c]) := by
  obtain ⟨quote, backslash, control⟩ := h
  simp [Json.textStep, quote, backslash, Nat.not_lt.2 control]

lemma ne_u_of_escaped? {letter : Char} (h : (escaped? letter).isSome = true) : letter ≠ 'u' := by
  rintro rfl
  cases h

lemma readTextFrom_escaped {letter : Char} (h : escaped? letter = some c) (r : Letters) :
    readTextFrom .plain (some '\\' :: some letter :: r) = prepend [c] (readTextFrom .plain r) := by
  have other : letter ≠ 'u' := ne_u_of_escaped? (by rw [h]; rfl)
  rw [readTextFrom_cons .escape [] (by decide), prepend_nil, readTextFrom_cons .plain [c]]
  simp [textStep, other, h]

lemma readTextFrom_numbered (r : Letters) :
    readTextFrom .plain (some '\\' :: some 'u' :: r) = readTextFrom (.digits 3 0 none) r := by
  rw [readTextFrom_cons .escape [] (by decide), readTextFrom_cons (.digits 3 0 none) [] (by decide),
    prepend_nil, prepend_nil]

lemma readTextFrom_second (high : Nat) (r : Letters) :
    readTextFrom (.second high) (some '\\' :: some 'u' :: r)
      = readTextFrom (.digits 3 0 (some high)) r := by
  rw [readTextFrom_cons (.secondEscape high) [] rfl,
    readTextFrom_cons (.digits 3 0 (some high)) [] rfl, prepend_nil, prepend_nil]

/-- The first three digits of an escape are gathered, and the last one tells its number. -/
lemma readTextFrom_code {a b c d : Char} {v : Nat} (number : codeOf? a b c d = some v)
    (high : Option Nat) : ∃ gathered, textStep (.digits 0 gathered high) d = codeStep v high
      ∧ ∀ r, readTextFrom (.digits 3 0 high) (some a :: some b :: some c :: r)
        = readTextFrom (.digits 0 gathered high) r := by
  simp only [codeOf?, Option.bind_eq_bind, Option.bind_eq_some_iff, Option.pure_def,
    Option.some.injEq] at number
  obtain ⟨first, a_, second, b_, third, c_, fourth, d_, rfl⟩ := number
  refine ⟨(first * 16 + second) * 16 + third, by simp [textStep, d_], fun r => ?_⟩
  rw [readTextFrom_cons (.digits 2 first high) [] (by simp [textStep, a_]),
    readTextFrom_cons (.digits 1 (first * 16 + second) high) [] (by simp [textStep, b_]),
    readTextFrom_cons (.digits 0 ((first * 16 + second) * 16 + third) high) []
      (by simp [textStep, c_])]
  simp only [prepend_nil]

/-- An escape with four digits that goes on. -/
lemma readTextFrom_code_cons {a b c d : Char} {v : Nat} (number : codeOf? a b c d = some v)
    {high : Option Nat} {next : TextState} {read : List Char}
    (step : codeStep v high = some (.next next read)) (r : Letters) :
    readTextFrom (.digits 3 0 high) (some a :: some b :: some c :: some d :: r)
      = prepend read (readTextFrom next r) := by
  obtain ⟨gathered, last, goesOn⟩ := readTextFrom_code number high
  rw [goesOn, readTextFrom_cons next read (last.trans step)]

/-- An escape with four digits that stands for nothing. -/
lemma readTextFrom_code_fault {a b c d : Char} {v : Nat} (number : codeOf? a b c d = some v)
    {high : Option Nat} (step : codeStep v high = none) (r : Letters) :
    readTextFrom (.digits 3 0 high) (some a :: some b :: some c :: some d :: r)
      = .error .malformed := by
  obtain ⟨gathered, last, goesOn⟩ := readTextFrom_code number high
  rw [goesOn, readTextFrom_fault (last.trans step)]

/-! ## What a text spells -/

lemma codeStep_alone {v : Nat} (noHigh : ¬ IsHigh v) (noLow : ¬ IsLow v) :
    codeStep v none = some (.next .plain [Char.ofNat v]) := by
  rw [IsHigh] at noHigh
  rw [IsLow] at noLow
  simp only [codeStep, noHigh, noLow, if_false]

lemma codeStep_high {v : Nat} (high : IsHigh v) :
    codeStep v none = some (.next (.second v) []) := by
  rw [IsHigh] at high
  have noLow : ¬ (0xDC00 ≤ v ∧ v ≤ 0xDFFF) := by omega
  simp only [codeStep, noLow, high, and_self, if_true, if_false]

lemma codeStep_low {high v : Nat} (low : IsLow v) :
    codeStep v (some high) = some (.next .plain [paired high v]) := by
  rw [IsLow] at low
  simp only [codeStep, low, and_self, if_true, paired]

/-- What spells a text is read as it. -/
lemma readTextFrom_spells {body cs : List Char} (h : Spells body cs) (r : Letters) :
    readTextFrom .plain (body.map some ++ r) = prepend cs (readTextFrom .plain r) := by
  induction h with
  | nil => simp
  | plain itself _ ih =>
    rw [List.map_cons, List.cons_append, readTextFrom_cons _ _ itself.textStep, ih,
      prepend_prepend, List.singleton_append]
  | short escape _ ih =>
    simp only [List.map_cons, List.cons_append]
    rw [readTextFrom_escaped escape, ih, prepend_prepend, List.singleton_append]
  | code number alone _ ih =>
    simp only [List.map_cons, List.cons_append]
    rw [readTextFrom_numbered, readTextFrom_code_cons number (codeStep_alone alone.1 alone.2), ih,
      prepend_prepend, List.singleton_append]
  | pair first second high low _ ih =>
    simp only [List.map_cons, List.cons_append]
    rw [readTextFrom_numbered, readTextFrom_code_cons first (codeStep_high high), prepend_nil,
      readTextFrom_second, readTextFrom_code_cons second (codeStep_low low), ih, prepend_prepend,
      List.singleton_append]

/-- A text is read as what it spells, up to its closing quote. -/
lemma readText_spells {body : List Char} {s : String} (h : Spells body s.toList) (r : Letters) :
    readText (body.map some ++ some '"' :: r) = .ok (s, r) := by
  have closed : readTextFrom .plain (some '"' :: r) = .ok ([], r) := rfl
  rw [readText, readTextFrom_spells h, closed]
  simp [Except.map]

/-! ## Texts that may spell nothing -/

/-- The places of a text between two characters, or between the two halves of one. -/
def TextState.IsBetween (state : TextState) : Prop :=
  state = .plain ∨ ∃ high, state = .second high

lemma codeStep_cases (v : Nat) (high : Option Nat) : codeStep v high = none
    ∨ ∃ next read, codeStep v high = some (.next next read) ∧ next.IsBetween := by
  unfold codeStep
  split
  · split
    · exact .inl rfl
    · split
      · exact .inr ⟨_, _, rfl, .inr ⟨_, rfl⟩⟩
      · exact .inr ⟨_, _, rfl, .inl rfl⟩
  · split
    · exact .inr ⟨_, _, rfl, .inl rfl⟩
    · exact .inl rfl

/-- What stands between quotes is read up to the closing one, or reading it fails; what follows does
not matter for this. -/
lemma readTextFrom_settles {body : List Char} (h : IsBody body) (between : state.IsBetween) :
    ∃ o : Option (List Char), ∀ r,
      (readTextFrom state (body.map some ++ some '"' :: r)).toOption = o.map (·, r) := by
  have going : ∀ {read : List Char} {letters : Letters → Letters} {next : TextState},
      (∃ o : Option (List Char), ∀ r,
        (readTextFrom next (letters r)).toOption = o.map (·, r)) →
      ∃ o : Option (List Char), ∀ r,
        (prepend read (readTextFrom next (letters r))).toOption = o.map (·, r) := by
    rintro read letters next ⟨o, settles⟩
    refine ⟨o.map (read ++ ·), fun r => ?_⟩
    rw [prepend, toOption_map, settles, Option.map_map, Option.map_map]
    rfl
  -- the digits of an escape, of which the first half of a pair may stand in front
  have code : ∀ {a b c d : Char} {body : List Char} (high : Option Nat),
      (codeOf? a b c d).isSome = true →
      (∀ {state : TextState}, state.IsBetween → ∃ o : Option (List Char), ∀ r,
        (readTextFrom state (body.map some ++ some '"' :: r)).toOption = o.map (·, r)) →
      ∃ o : Option (List Char), ∀ r, (readTextFrom (.digits 3 0 high) (some a :: some b :: some c
        :: some d :: (body.map some ++ some '"' :: r))).toOption = o.map (·, r) := by
    intro a b c d body high number ih
    obtain ⟨v, number⟩ := Option.isSome_iff_exists.1 number
    rcases codeStep_cases v high with fault | ⟨next, read, step, between⟩
    · exact ⟨none, fun r => by rw [readTextFrom_code_fault number fault]; rfl⟩
    · simp only [readTextFrom_code_cons number step]
      exact going (ih between)
  induction h generalizing state with
  | nil =>
    rcases between with rfl | ⟨high, rfl⟩
    · exact ⟨some [], fun r => rfl⟩
    · exact ⟨none, fun r => rfl⟩
  | plain itself _ ih =>
    simp only [List.map_cons, List.cons_append]
    rcases between with rfl | ⟨high, rfl⟩
    · simp only [readTextFrom_cons _ _ itself.textStep]
      exact going (ih (.inl rfl))
    · refine ⟨none, fun r => ?_⟩
      rw [readTextFrom_fault (by simp [textStep, itself.2.1])]
      rfl
  | short escape _ ih =>
    simp only [List.map_cons, List.cons_append]
    rcases between with rfl | ⟨high, rfl⟩
    · obtain ⟨c, escape⟩ := Option.isSome_iff_exists.1 escape
      simp only [readTextFrom_escaped escape]
      exact going (ih (.inl rfl))
    · refine ⟨none, fun r => ?_⟩
      rw [readTextFrom_cons (.secondEscape high) [] rfl,
        readTextFrom_fault (by simp [textStep, ne_u_of_escaped? escape])]
      rfl
  | code number _ ih =>
    simp only [List.map_cons, List.cons_append]
    rcases between with rfl | ⟨high, rfl⟩
    · simp only [readTextFrom_numbered]
      exact code none number ih
    · simp only [readTextFrom_second]
      exact code (some high) number ih

/-- A text is read up to its closing quote, or reading it fails; what follows does not matter for
this. -/
lemma readText_settles {body : List Char} (h : IsBody body) : ∃ o : Option String, ∀ r,
    (readText (body.map some ++ some '"' :: r)).toOption = o.map (·, r) := by
  obtain ⟨o, settles⟩ := readTextFrom_settles h (.inl rfl)
  refine ⟨o.map String.ofList, fun r => ?_⟩
  rw [readText, toOption_map, settles, Option.map_map, Option.map_map]
  rfl

end SignedUpgrade.Json
