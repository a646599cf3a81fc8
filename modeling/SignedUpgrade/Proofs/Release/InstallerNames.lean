import SignedUpgrade.Proofs.Pattern.Anchored
import SignedUpgrade.Proofs.Release.Installers
import SignedUpgrade.Settings.Basic

/-!
# Names of installers

Where no other pattern is set, the installer is the asset whose name begins with one word, ends with
another one, and has one line between them.

* `IsInstallerName` — the names that are meant;
* `selects_standardPattern` — the standard pattern selects these names;
* `StandardSelection`, `standardPattern_exact` — **it selects no other name,** however close, and so
  a newer release is installed exactly if one of its assets has such a name.
-/

namespace SignedUpgrade

open Pattern Form

/-- The name of an installer for some version: one line between two words. -/
def IsInstallerName (name : String) : Prop :=
  ∃ middle, '\n' ∉ middle ∧ name.toList = "certbot-".toList ++ middle ++ "-win32.exe".toList

/-! ## The standard pattern -/

/-- The form of the standard pattern. -/
def standardForm : Form :=
  .andThen (.look .textStart) <| .word "certbot-".toList <|
    .andThen (.run (.complement (.only '\n')) 0) <| .word "-win32.exe".toList (.look .textEnd)

/-- The standard pattern is written well. -/
lemma read_standardPattern : Pattern.read? Settings.standardPatternText
    = some ⟨Settings.standardPatternText, standardForm⟩ := by
  decide +kernel

lemma standardPattern_form : Settings.standardPattern.form = standardForm := by
  rw [Settings.standardPattern, read_standardPattern]
  rfl

/-- The point stands for everything but a line feed. -/
lemma forall_holds_iff {cs : List Char} :
    (∀ c ∈ cs, (CharSet.complement (.only '\n')).holds c = true) ↔ '\n' ∉ cs := by
  simp only [holds_complement_only]
  constructor
  · exact fun other mem => other _ mem rfl
  · rintro none c mem rfl
    exact none mem

/-- **The standard pattern selects the names of installers.** -/
lemma selects_standardPattern {name : String} :
    Settings.standardPattern.selects name = true ↔ IsInstallerName name := by
  rw [selects, standardPattern_form, standardForm, isIn_anchored (by decide +kernel), starts_word]
  simp only [starts_run, starts_word, starts_end, forall_holds_iff, Nat.zero_le, true_and]
  constructor
  · rintro ⟨_, whole, middle, _, rfl, line, _, rfl, rfl⟩
    exact ⟨middle, line, by rw [whole, List.append_nil, List.append_assoc]⟩
  · rintro ⟨middle, line, whole⟩
    refine ⟨_, ?_, middle, _, rfl, line, [], rfl, rfl⟩
    rw [whole, List.append_nil, List.append_assoc]

/-! ## Names that come close -/

namespace IsInstallerName

variable {name more : String} {front middle back : List Char} {c : Char}

/-- The two words are compared letter by letter. -/
lemma letters_iff (first : front.length = 8) (last : back.length = 10) :
    IsInstallerName (String.ofList (front ++ middle ++ back))
      ↔ front = "certbot-".toList ∧ '\n' ∉ middle ∧ back = "-win32.exe".toList := by
  rw [IsInstallerName, String.toList_ofList]
  constructor
  · rintro ⟨middle', line, same⟩
    rw [List.append_assoc, List.append_assoc] at same
    obtain ⟨rfl, rest⟩ := List.append_inj same first
    obtain ⟨rfl, rfl⟩ := List.append_inj' rest last
    exact ⟨rfl, line, rfl⟩
  · rintro ⟨rfl, line, rfl⟩
    exact ⟨middle, line, rfl⟩

/-- The two words stand side by side and share no character. -/
lemma length_ge (h : IsInstallerName name) : 18 ≤ name.toList.length := by
  obtain ⟨middle, _, whole⟩ := h
  have words : "certbot-".toList.length = 8 ∧ "-win32.exe".toList.length = 10 := by decide
  rw [whole, List.length_append, List.length_append, words.1, words.2]
  omega

/-- Nothing stands in front of the first word. -/
lemma not_cons (h : IsInstallerName name) :
    ¬ IsInstallerName (String.ofList (c :: name.toList)) := by
  rintro ⟨middle', _, same⟩
  obtain ⟨middle, _, whole⟩ := h
  rw [String.toList_ofList, whole] at same
  have second := (List.cons.inj (List.cons.inj same).2).1
  exact absurd second (by decide)

/-- The last word has its only hyphen at its start, so it does not overlap with itself. -/
lemma lastWord_overlap {overlap rest : List Char} (start : "-win32.exe".toList = overlap ++ rest)
    (ending : overlap <:+ "-win32.exe".toList) : overlap = [] ∨ rest = [] := by
  have whole : "-win32.exe".toList = '-' :: "win32.exe".toList := by decide +kernel
  obtain ⟨skipped, cut⟩ := ending
  cases overlap with
  | nil => exact .inl rfl
  | cons d overlap =>
    cases skipped with
    | nil => exact .inr (List.append_right_eq_self.1 (start.symm.trans cut.symm))
    | cons e skipped =>
      rw [whole] at start cut
      have hyphen : '-' = d := (List.cons.inj start).1
      have inside : '-' ∈ "win32.exe".toList := by
        rw [← (List.cons.inj cut).2, hyphen]
        simp
      exact absurd inside (by decide +kernel)

/-- Nothing stands behind the last word, unless it ends with that word once more. -/
lemma not_append (h : IsInstallerName name) (filled : more ≠ "")
    (other : ¬ "-win32.exe".toList <:+ more.toList) : ¬ IsInstallerName (name ++ more) := by
  rintro ⟨middle', _, same⟩
  obtain ⟨middle, _, whole⟩ := h
  rw [String.toList_append] at same
  have last : "-win32.exe".toList <:+ name.toList := ⟨_, whole.symm⟩
  have last' : "-win32.exe".toList <:+ name.toList ++ more.toList := ⟨_, same.symm⟩
  rcases List.suffix_or_suffix_of_suffix last' (List.suffix_append _ _) with inside | inside
  · exact other inside
  · obtain ⟨overlap, start⟩ := inside
    -- the part of the last word that is not in `more` ends the name, where the last word stands
    have ending : overlap <:+ name.toList := by
      rw [← start, ← List.append_assoc] at same
      exact ⟨_, (List.append_cancel_right same).symm⟩
    have short : overlap.length ≤ "-win32.exe".toList.length := by
      rw [← start, List.length_append]
      exact Nat.le_add_right _ _
    rcases lastWord_overlap start.symm (List.suffix_of_suffix_length_le ending last short)
      with none | none
    · rw [none, List.nil_append] at start
      exact other (start ▸ List.suffix_rfl)
    · exact filled (String.toList_eq_nil_iff.1 none)

end IsInstallerName

/-! ## Decisions with the standard pattern -/

namespace Release

variable {r : Release} {pattern : Pattern} {current : Version}

/-- A release is installed exactly if it is newer and one of its assets is selected. -/
lemma decide_upgradeTo_iff {c l : Version} {a : Asset} :
    r.decide pattern current = .ok (.upgradeTo c l a)
      ↔ c = current ∧ l = Version.extractOrUnknown r.tag
        ∧ current.numbers < (Version.extractOrUnknown r.tag).numbers
        ∧ r.matching pattern = [a] := by
  constructor
  · intro decided
    obtain ⟨rfl, rfl, newer⟩ := decide_upgradeTo decided
    rw [decide_of_newer newer] at decided
    refine ⟨rfl, rfl, newer, ?_⟩
    split at decided
    · rename_i only
      cases decided
      exact only
    · cases decided
    · cases decided
  · rintro ⟨rfl, rfl, newer, only⟩
    rw [decide_of_newer newer, only]

/-- One asset, at one position, has the name of an installer. -/
def OnlyInstaller (r : Release) (a : Asset) : Prop :=
  ∃ i : Fin r.assets.length,
    (∀ j : Fin r.assets.length, IsInstallerName (r.assets.get j).name ↔ j = i)
      ∧ a = r.assets.get i

lemma matching_standardPattern {a : Asset} :
    r.matching Settings.standardPattern = [a] ↔ r.OnlyInstaller a := by
  have named : ∀ j, j ∈ positionsOf (Settings.standardPattern.selects ·.name) r.assets
      ↔ IsInstallerName (r.assets.get j).name := fun j => by
    rw [mem_positionsOf, selects_standardPattern]
    rfl
  rw [matching, filter_eq_singleton_iff]
  refine exists_congr fun i => and_congr_left fun _ => ?_
  rw [Finset.ext_iff]
  exact forall_congr' fun j => by rw [named, Finset.mem_singleton]

lemma exists_onlyInstaller : (∃ a, r.OnlyInstaller a)
    ↔ ∃! i : Fin r.assets.length, IsInstallerName (r.assets.get i).name := by
  constructor
  · rintro ⟨a, i, only, _⟩
    exact ⟨i, (only i).2 rfl, fun j named => (only j).1 named⟩
  · rintro ⟨i, named, only⟩
    exact ⟨_, i, fun j => ⟨only j, fun same => same ▸ named⟩, rfl⟩

end Release

/-- A pattern selects the names of installers and no others, and it selects them for decisions. -/
structure StandardSelection (pattern : Pattern) : Prop where
  /-- The names of installers are selected, and no other names. -/
  selects : ∀ name, pattern.selects name = true ↔ IsInstallerName name
  /-- So are the assets with these names. -/
  matching : ∀ (r : Release) (a : Asset),
    a ∈ r.matching pattern ↔ a ∈ r.assets ∧ IsInstallerName a.name
  /-- The words at the two ends are compared letter by letter, and so is their case. -/
  letters : ∀ front middle back : List Char, front.length = 8 → back.length = 10 →
    (pattern.selects (String.ofList (front ++ middle ++ back)) = true
      ↔ front = "certbot-".toList ∧ '\n' ∉ middle ∧ back = "-win32.exe".toList)
  /-- The hyphens of the two words are two characters. -/
  hyphens : pattern.selects "certbot-win32.exe" = false
  /-- Nothing may stand in front of a name. -/
  leading : ∀ (c : Char) (name : String), pattern.selects name = true →
    pattern.selects (String.ofList (c :: name.toList)) = false
  /-- Nothing may stand behind a name, not even a line feed; but what ends like a name makes a
  longer name. -/
  trailing : ∀ name more : String, pattern.selects name = true → more ≠ "" →
    ¬ "-win32.exe".toList <:+ more.toList → pattern.selects (name ++ more) = false
  /-- A newer release is installed from the one asset with such a name. -/
  upgrade : ∀ (r : Release) (current c l : Version) (a : Asset),
    r.decide pattern current = .ok (.upgradeTo c l a)
      ↔ c = current ∧ l = Version.extractOrUnknown r.tag
        ∧ current.numbers < (Version.extractOrUnknown r.tag).numbers ∧ r.OnlyInstaller a
  /-- It is installed exactly if there is one such asset. -/
  upgrades : ∀ (r : Release) (current : Version),
    current.numbers < (Version.extractOrUnknown r.tag).numbers →
    ((∃ c l a, r.decide pattern current = .ok (.upgradeTo c l a))
      ↔ ∃! i : Fin r.assets.length, IsInstallerName (r.assets.get i).name)

/-- **Where no other pattern is set, exactly the names of installers are selected,** and a newer
release is installed exactly if one of its assets has such a name. -/
theorem standardPattern_exact (auditFile : Option Path) :
    StandardSelection (Settings.withDefaults auditFile).installerPattern := by
  change StandardSelection Settings.standardPattern
  have refused : ∀ {name}, ¬ IsInstallerName name → Settings.standardPattern.selects name = false :=
    fun other => Bool.eq_false_iff.2 (mt selects_standardPattern.1 other)
  have upgrade : ∀ (r : Release) (current c l : Version) (a : Asset),
      r.decide Settings.standardPattern current = .ok (.upgradeTo c l a)
        ↔ c = current ∧ l = Version.extractOrUnknown r.tag
          ∧ current.numbers < (Version.extractOrUnknown r.tag).numbers
          ∧ r.OnlyInstaller a := fun r current c l a => by
    rw [Release.decide_upgradeTo_iff, Release.matching_standardPattern]
  refine ⟨fun _ => selects_standardPattern, fun r a => ?_, fun front middle back first last => ?_,
    refused fun h => ?_, fun c name h => refused ?_, fun name more h filled other => refused ?_,
    upgrade, fun r current newer => ?_⟩
  · rw [Release.matching, List.mem_filter, selects_standardPattern]
  · rw [selects_standardPattern, IsInstallerName.letters_iff first last]
  · exact absurd h.length_ge (by decide)
  · exact (selects_standardPattern.1 h).not_cons
  · exact (selects_standardPattern.1 h).not_append filled other
  · rw [← Release.exists_onlyInstaller]
    constructor
    · rintro ⟨c, l, a, decided⟩
      exact ⟨a, ((upgrade r current c l a).1 decided).2.2.2⟩
    · rintro ⟨a, only⟩
      exact ⟨_, _, a, (upgrade r current _ _ a).2 ⟨rfl, rfl, newer, only⟩⟩

end SignedUpgrade
