import Mathlib.Data.List.Permutation
import SignedUpgrade.Proofs.Json.Written
import SignedUpgrade.Proofs.Text.Utf8
import SignedUpgrade.Release.Basic

/-!
# Documents of releases

A release is told by an object with its tag and its assets, and each asset by an object with its
name and its address.  In both, the members may come in any order, and others may stand anywhere
among them.

* `ListOf` — a list that tells values one by one;
* `Asset.IsTold`, `Release.IsTold`, `Release.IsTaggedOnly` — the texts that tell an asset, a
  release, and a tag without assets;
* `Asset.IsSpoilt`, `Release.IsSpoilt` — texts in which a member is missing or repeated;
* `IsDocument` — the bytes of a text with blanks around it;
* `Release.ofBody_told`, `Release.ofBody_spoilt` — what is read of these documents.
-/

namespace SignedUpgrade

open Json Text

/-- A member has a name, and a value of some kind. -/
def Json.Member.Holds (m : Member) (name : String) (kind : List Char → Prop) : Prop :=
  m.name = name ∧ kind m.value

lemma Json.Member.written_holds {name value : String} {kind : List Char → Prop}
    (h : kind value.toList) : (written (name, value)).Holds name kind :=
  ⟨rfl, h⟩

lemma Json.filter_written {ms : List (String × String)} {names : List String}
    {m m' : String × String} (known : (ms.filter (·.1 ∈ names)).Perm [m, m']) :
    ((ms.map Member.written).filter (·.name ∈ names)).Perm [.written m, .written m'] := by
  rw [List.filter_map]
  exact known.map Member.written

/-- A list whose items tell values, in order. -/
def Json.ListOf {α : Type} (kind : α → List Char → Prop) (as : List α) (text : List Char) : Prop :=
  ∃ items, IsList items text ∧ List.Forall₂ kind as items

lemma Json.ListOf.isValue {α : Type} {kind : α → List Char → Prop} {as : List α} {text : List Char}
    (h : ListOf kind as text) : IsValue text := by
  obtain ⟨items, isList, _⟩ := h
  exact isList.isValue

/-- The bytes of a text of some kind, with blanks around it. -/
def Json.IsDocument (kind : List Char → Prop) (bytes : Bytes) : Prop :=
  ∃ before text after, Gap before ∧ Gap after ∧ kind text
    ∧ bytes = Utf8.encodeChars ((before ++ text) ++ after)

lemma Json.isDocument_encode {kind : List Char → Prop} {s : String} (h : kind s.toList) :
    IsDocument kind (Utf8.encode s) :=
  ⟨[], _, [], .nil, .nil, h, by simp [Utf8.encode]⟩

namespace Asset

/-- A text tells an asset: it is an object with the name and the address, in any order and each of
them once, among any members with other names. -/
def IsTold (a : Asset) (text : List Char) : Prop :=
  ∃ ms name url, IsObject ms text
    ∧ (ms.filter (·.name ∈ ["name", "browser_download_url"])).Perm [name, url]
    ∧ name.Holds "name" (TextOf a.name) ∧ url.Holds "browser_download_url" (TextOf a.url)

/-- A text is an object in which the name or the address is missing or repeated. -/
def IsSpoilt (text : List Char) : Prop :=
  ∃ ms, IsObject ms text ∧ ∃ name ∈ ["name", "browser_download_url"],
    (ms.map (·.name)).count name ≠ 1

end Asset

namespace Release

/-- A text tells a release: it is an object with the tag and the assets, in any order and each of
them once, among any members with other names. -/
def IsTold (r : Release) (text : List Char) : Prop :=
  ∃ ms tag assets, IsObject ms text
    ∧ (ms.filter (·.name ∈ ["tag_name", "assets"])).Perm [tag, assets]
    ∧ tag.Holds "tag_name" (TextOf r.tag) ∧ assets.Holds "assets" (ListOf Asset.IsTold r.assets)

/-- A text tells a tag and leaves the assets out. -/
def IsTaggedOnly (tag : String) (text : List Char) : Prop :=
  ∃ ms m, IsObject ms text ∧ ms.filter (·.name ∈ ["tag_name", "assets"]) = [m]
    ∧ m.Holds "tag_name" (TextOf tag)

/-- A text is an object in which the tag is missing, or the tag or the assets are repeated, or an
asset is spoilt. -/
def IsSpoilt (text : List Char) : Prop :=
  ∃ ms, IsObject ms text ∧ ((ms.map (·.name)).count "tag_name" ≠ 1
    ∨ 1 < (ms.map (·.name)).count "assets"
    ∨ ∃ m ∈ ms, ∃ items, m.Holds "assets" (IsList items) ∧ ∃ item ∈ items, Asset.IsSpoilt item)

end Release

variable {gap text : List Char} {bytes : Bytes}

/-! ## Fields -/

/-- A member with the name of a field fills it with what is read of its value. -/
lemma Json.Shape.Takes.of_holds {α : Type} {s : Shape α} {record next : α} {field : Field α}
    {m : Member} {name : String} {kind : List Char → Prop} (sound : m.IsSound)
    (holds : m.Holds name kind) (known : s.field? name = some field)
    (new : field.isSet record = false)
    (reads : Reads (field.want record) (m.afterColon ++ m.value) (some next)) :
    s.Takes record m (some next) :=
  .known sound.isNamed (holds.1 ▸ known) new reads

/-- The members of a record that matter are filled in, and all others are left out. -/
lemma Json.Shape.Fills.of_names {α : Type} {s : Shape α} {record : α} (names : List String)
    (fields : s.fields.map (·.name) = names) {ms : List Member} (sound : ∀ m ∈ ms, m.IsSound)
    {o : Option α} (h : s.Fills record (ms.filter (·.name ∈ names)) o) : s.Fills record ms o := by
  have same : ∀ m : Member, (s.field? m.name).isSome = decide (m.name ∈ names) := by
    intro m
    rw [← fields, Bool.eq_iff_iff]
    simp [field?]
  refine .of_known (fun m mem => ⟨(sound m mem).isNamed, (sound m mem).value⟩) ?_
  simpa only [same] using h

/-- Two members that matter are filled in, whichever of them comes first. -/
lemma Json.Shape.Fills.of_pair {α : Type} {s : Shape α} {record : α} (names : List String)
    (fields : s.fields.map (·.name) = names) {ms : List Member} (sound : ∀ m ∈ ms, m.IsSound)
    {m m' : Member} (known : (ms.filter (·.name ∈ names)).Perm [m, m']) {o : Option α}
    (fills : m.IsSound → m'.IsSound → s.Fills record [m, m'] o ∧ s.Fills record [m', m] o) :
    s.Fills record ms o := by
  have ours : ∀ x ∈ [m, m'], x.IsSound := fun x mem =>
    sound x (List.mem_of_mem_filter (known.mem_iff.2 mem))
  obtain ⟨first, second⟩ := fills (ours m (by simp)) (ours m' (by simp))
  refine .of_names names fields sound ?_
  rcases List.perm_pair.1 known with same | same <;> rw [same]
  · exact first
  · exact second

/-! ## Assets -/

namespace Asset

lemma shape_settles : ∀ f ∈ shape.fields, ∀ record, Settles (f.want record) := by
  simp only [shape, List.forall_mem_cons]
  refine ⟨fun record => ?_, fun record => ?_, by simp⟩
  · exact (wantText_settles _).map fun n => { record with name := some n }
  · exact (wantText_settles _).map fun u => { record with url := some u }

lemma shape_apart : shape.Apart := by
  intro f g record result letters rest ours ours' read
  simp only [shape, List.mem_cons, List.not_mem_nil, or_false] at ours ours'
  rcases ours with rfl | rfl
  all_goals
    obtain ⟨_, _, same⟩ := of_map_eq_ok read
    cases same
    rcases ours' with rfl | rfl <;> simp

/-- The asset that is made of what was read. -/
def whole (record : Partial) : Asset :=
  ⟨record.name.getD "", record.url.getD ""⟩

lemma want_reads {o : Option Partial} (h : Reads (wantRecord shape) text o) :
    Reads want text (o.map whole) :=
  h.map whole

lemma want_settles : Settles want :=
  (wantRecord_settles shape_settles).map whole

lemma takes_name {record : Partial} {m : Member} {name : String} (sound : m.IsSound)
    (holds : m.Holds "name" (TextOf name)) (new : record.name = none) :
    shape.Takes record m (some { record with name := some name }) :=
  .of_holds sound holds rfl (by simp [new])
    ((wantText_reads _ sound.after holds.2).map fun n => { record with name := some n })

lemma takes_url {record : Partial} {m : Member} {url : String} (sound : m.IsSound)
    (holds : m.Holds "browser_download_url" (TextOf url)) (new : record.url = none) :
    shape.Takes record m (some { record with url := some url }) :=
  .of_holds sound holds rfl (by simp [new])
    ((wantText_reads _ sound.after holds.2).map fun u => { record with url := some u })

/-- An asset is read from any text that tells it. -/
lemma IsTold.reads {a : Asset} (h : a.IsTold text) (blanks : Gap gap) :
    Reads want (gap ++ text) (some a) := by
  obtain ⟨ms, name, url, isObject, known, isName, isUrl⟩ := h
  have fills : shape.Fills shape.start ms (some ⟨some a.name, some a.url⟩) := by
    refine .of_pair ["name", "browser_download_url"] rfl isObject.2 known fun name_ url_ => ?_
    constructor
    · exact .member (takes_name name_ isName rfl)
        (.member (takes_url url_ isUrl rfl) (.complete rfl))
    · exact .member (takes_url url_ isUrl rfl)
        (.member (takes_name name_ isName rfl) (.complete rfl))
  exact want_reads (isObject.reads_filled blanks fills)

/-- No asset is read from a text that is spoilt. -/
lemma IsSpoilt.fails (h : IsSpoilt text) (blanks : Gap gap) : Reads want (gap ++ text) none := by
  obtain ⟨ms, isObject, name, known, spoilt⟩ := h
  obtain ⟨_ | result, fills, reads⟩ := isObject.reads shape_settles blanks
  · exact want_reads reads
  · refine absurd ?_ spoilt
    simp only [List.mem_cons, List.not_mem_nil, or_false] at known
    rcases known with rfl | rfl
    · exact fills.count_eq shape_apart rfl rfl rfl
    · exact fills.count_eq shape_apart rfl rfl rfl

lemma IsTold.isValue {a : Asset} (h : a.IsTold text) : IsValue text := by
  obtain ⟨_, _, _, isObject, _⟩ := h
  exact isObject.isValue

/-- An asset is told by an object in which its two members are written among any others. -/
lemma isTold_object {a : Asset} {ms : List (String × String)}
    (values : ∀ m ∈ ms, IsValue m.2.toList)
    (known : (ms.filter (·.1 ∈ ["name", "browser_download_url"])).Perm
      [("name", quoted a.name), ("browser_download_url", quoted a.url)]) :
    a.IsTold (object ms).toList :=
  ⟨_, _, _, isObject_object ms values, filter_written known,
    Member.written_holds (textOf_quoted _), Member.written_holds (textOf_quoted _)⟩

/-- The written form of an asset tells it. -/
lemma json_isTold (a : Asset) : a.IsTold a.json.toList :=
  isTold_object (by simp [(textOf_quoted _).isValue]) (by simp)

end Asset

/-! ## Releases -/

namespace Release

lemma shape_settles : ∀ f ∈ shape.fields, ∀ record, Settles (f.want record) := by
  simp only [shape, List.forall_mem_cons]
  refine ⟨fun record => ?_, fun record => ?_, by simp⟩
  · exact (wantText_settles _).map fun t => { record with tag := some t }
  · exact (wantList_settles Asset.want_settles).map fun as => { record with assets := some as }

lemma shape_apart : shape.Apart := by
  intro f g record result letters rest ours ours' read
  simp only [shape, List.mem_cons, List.not_mem_nil, or_false] at ours ours'
  rcases ours with rfl | rfl
  all_goals
    obtain ⟨_, _, same⟩ := of_map_eq_ok read
    cases same
    rcases ours' with rfl | rfl <;> simp

/-- Assets are read one by one. -/
lemma reads_assets {as : List Asset} (blanks : Gap gap) (h : ListOf Asset.IsTold as text) :
    Reads (wantList Asset.want) (gap ++ text) (some as) := by
  obtain ⟨items, isList, told⟩ := h
  exact wantList_gives blanks isList
    (told.imp fun a item told => Asset.IsTold.reads told Gap.nil)

/-- The release that is made of what was read. -/
def whole (record : Partial) : Release :=
  ⟨record.tag.getD "", record.assets.getD []⟩

lemma want_reads {o : Option Partial} (h : Reads (wantRecord shape) text o) :
    Reads want text (o.map whole) :=
  h.map whole

lemma takes_tag {record : Partial} {m : Member} {tag : String} (sound : m.IsSound)
    (holds : m.Holds "tag_name" (TextOf tag)) (new : record.tag = none) :
    shape.Takes record m (some { record with tag := some tag }) :=
  .of_holds sound holds rfl (by simp [new])
    ((wantText_reads _ sound.after holds.2).map fun t => { record with tag := some t })

lemma takes_assets {record : Partial} {m : Member} {as : List Asset} (sound : m.IsSound)
    (holds : m.Holds "assets" (ListOf Asset.IsTold as)) (new : record.assets = none) :
    shape.Takes record m (some { record with assets := some as }) :=
  .of_holds sound holds rfl (by simp [new])
    ((reads_assets sound.after holds.2).map fun as => { record with assets := some as })

/-- A release is read from any text that tells it. -/
lemma IsTold.reads {r : Release} (h : r.IsTold text) (blanks : Gap gap) :
    Reads want (gap ++ text) (some r) := by
  obtain ⟨ms, tag, assets, isObject, known, isTag, areAssets⟩ := h
  have fills : shape.Fills shape.start ms (some ⟨some r.tag, some r.assets⟩) := by
    refine .of_pair ["tag_name", "assets"] rfl isObject.2 known fun tag_ assets_ => ?_
    constructor
    · exact .member (takes_tag tag_ isTag rfl)
        (.member (takes_assets assets_ areAssets rfl) (.complete rfl))
    · exact .member (takes_assets assets_ areAssets rfl)
        (.member (takes_tag tag_ isTag rfl) (.complete rfl))
  exact want_reads (isObject.reads_filled blanks fills)

/-- A release without assets is read from a text that leaves them out. -/
lemma IsTaggedOnly.reads {tag : String} (h : IsTaggedOnly tag text) (blanks : Gap gap) :
    Reads want (gap ++ text) (some ⟨tag, []⟩) := by
  obtain ⟨ms, m, isObject, known, isTag⟩ := h
  have sound := isObject.2 m (List.mem_of_mem_filter (known ▸ List.mem_singleton_self m))
  have fills : shape.Fills shape.start ms (some ⟨some tag, none⟩) := by
    refine .of_names ["tag_name", "assets"] rfl isObject.2 ?_
    rw [known]
    exact .member (takes_tag sound isTag rfl) (.complete rfl)
  exact want_reads (isObject.reads_filled blanks fills)

/-- No release is read from a text that is spoilt. -/
lemma IsSpoilt.fails (h : IsSpoilt text) (blanks : Gap gap) : Reads want (gap ++ text) none := by
  obtain ⟨ms, isObject, spoilt⟩ := h
  obtain ⟨_ | result, fills, reads⟩ := isObject.reads shape_settles blanks
  · exact want_reads reads
  rcases spoilt with tag | assets | ⟨m, mem, items, ⟨named, isList⟩, item, mem', spoilt⟩
  · exact absurd (fills.count_eq shape_apart rfl rfl rfl) tag
  · exact absurd (fills.count_le shape_apart (rfl : shape.field? "assets" = some _))
      (Nat.not_le.2 (Nat.lt_add_right _ assets))
  · obtain ⟨record, next, read⟩ := fills.value mem (by rw [named]; rfl)
    have fails := wantList_fails (isObject.2 m mem).after isList Asset.want_settles mem'
      (spoilt.fails Gap.nil)
    cases read.unique (fails.map fun as => { record with assets := some as })

/-- Assets are told by the list of texts that tell them. -/
lemma listOf_list {write : Asset → String} (told : ∀ a : Asset, a.IsTold (write a).toList)
    (as : List Asset) : ListOf Asset.IsTold as (list (as.map write)).toList := by
  refine ⟨(as.map write).map String.toList, ⟨enclosed_list _, ?_⟩, ?_⟩
  · simp only [List.forall_mem_map]
    exact fun a _ => (told a).isValue
  · rw [List.map_map, List.forall₂_map_right_iff]
    exact List.forall₂_same.2 fun a _ => told a

/-- A release is told by an object in which its two members are written among any others. -/
lemma isTold_object {r : Release} {ms : List (String × String)}
    (values : ∀ m ∈ ms, IsValue m.2.toList) {assets : String}
    (told : ListOf Asset.IsTold r.assets assets.toList)
    (known : (ms.filter (·.1 ∈ ["tag_name", "assets"])).Perm
      [("tag_name", quoted r.tag), ("assets", assets)]) : r.IsTold (object ms).toList :=
  ⟨_, _, _, isObject_object ms values, filter_written known,
    Member.written_holds (textOf_quoted _), Member.written_holds told⟩

/-- The written form of a release tells it. -/
lemma json_isTold (r : Release) : r.IsTold r.json.toList := by
  have assets := listOf_list Asset.json_isTold r.assets
  exact isTold_object (by simp [(textOf_quoted _).isValue, assets.isValue]) assets (by simp)

/-! ## Bodies -/

/-- What is read of a document is read of the text in it. -/
lemma ofBody_reads {kind : List Char → Prop} (document : IsDocument kind bytes) {o : Option Release}
    (reads : ∀ gap text, Gap gap → kind text → Reads want (gap ++ text) o) :
    (ofBody bytes).toOption = o := by
  obtain ⟨before, text, after, before_, after_, isKind, rfl⟩ := document
  rw [ofBody, ofLetters, Utf8.decode_encodeChars]
  exact decode_reads (reads before text before_ isKind) after_

theorem ofBody_told {r : Release} (h : IsDocument r.IsTold bytes) : ofBody bytes = .ok r :=
  eq_ok_of_toOption (ofBody_reads h fun _ _ blanks told => told.reads blanks)

theorem ofBody_taggedOnly {tag : String} (h : IsDocument (IsTaggedOnly tag) bytes) :
    ofBody bytes = .ok ⟨tag, []⟩ :=
  eq_ok_of_toOption (ofBody_reads h fun _ _ blanks told => told.reads blanks)

theorem ofBody_spoilt (h : IsDocument IsSpoilt bytes) : ∃ fault, ofBody bytes = .error fault :=
  eq_error_of_toOption (ofBody_reads h fun _ _ blanks spoilt => spoilt.fails blanks)

end Release

end SignedUpgrade
