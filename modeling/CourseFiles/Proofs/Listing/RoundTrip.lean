import CourseFiles.Listing.Item
import CourseFiles.Proofs.Json.Keeping
import CourseFiles.Proofs.Json.Proper

namespace CourseFiles

open Json.Members

variable {i : Item} {ms : Json.Members}

-- What the decoders of the fields accept.

theorem ItemId.decoded (decoded : ItemId.decoder.ofJson j = .ok d) : j = d.encode := by
  simp only [ItemId.decoder, Decoder.untagged] at decoded
  split at decoded
  · rename_i accepted
    cases decoded
    unfold ItemId.ofJson? at accepted
    split at accepted
    · split at accepted <;> cases accepted
      rfl
    · cases accepted
      rfl
    · cases accepted
  · cases decoded

theorem Decoder.option_ok {x : Decoder α} (decoded : x.option.ofJson j = .ok o) :
    j = .null ∧ o = none ∨ ∃ a, o = some a ∧ x.ofJson j = .ok a := by
  cases j with
  | null =>
    cases decoded
    exact .inl ⟨rfl, rfl⟩
  | _ =>
    obtain ⟨a, read, rfl⟩ := map_ok.mp decoded
    exact .inr ⟨a, rfl, read⟩

theorem Decoder.unit_ok (decoded : unit.ofJson j = .ok u) : j = .null := by
  cases j <;> cases decoded
  rfl

theorem Decoder.variant_ok {names : List (String × α)} (decoded : (variant names).ofJson j = .ok a) :
    ∃ name, (name, a) ∈ names ∧ (j = .text name ∨ j = .object [(name, .null)]) := by
  have named {s : String} (here : names.lookup s = some a) : (s, a) ∈ names := by
    obtain ⟨before, after, split, _⟩ := List.lookup_eq_some_iff.mp here
    rw [split]
    simp
  cases j with
  | text s =>
    simp only [variant] at decoded
    split at decoded <;> cases decoded
    exact ⟨s, named ‹_›, .inl rfl⟩
  | object ms =>
    cases ms with
    | nil => cases decoded
    | cons m rest =>
      cases rest with
      | nil =>
        obtain ⟨_, found, rest⟩ := bind_ok.mp decoded
        obtain ⟨_, unit, same⟩ := bind_ok.mp rest
        cases same
        dsimp only at found
        split at found <;> cases found
        exact ⟨m.1, named ‹_›, .inr (by rw [← unit_ok unit])⟩
      | cons _ _ => cases decoded
  | _ => cases decoded

theorem ItemKind.decoded (decoded : ItemKind.decoder.ofJson j = .ok k) :
    j = .text k.name ∨ j = .object [(k.name, .null)] := by
  obtain ⟨name, here, forms⟩ := Decoder.variant_ok decoded
  simp only [List.mem_cons, List.not_mem_nil, or_false, Prod.mk.injEq] at here
  rcases here with ⟨rfl, rfl⟩ | ⟨rfl, rfl⟩ <;> exact forms

theorem Record.lacking_none {r : Record α} (none : r.lacking seen = none) (here : m ∈ r.members)
    (required : m.presence = .required) : m.name ∈ seen := by
  have unfound := List.find?_eq_none.mp (Option.map_eq_none_iff.mp none) m here
  simpa [required] using unfound

namespace FolderContents

theorem path_field : record.Field "path" .text FolderContents.path := by
  refine Record.Field.of (fun _ rest => by cases rest) rfl (fun _ _ => rfl) ?_
  intro m here other
  cases List.mem_singleton.mp here
  exact absurd rfl other

theorem decoded (decoded : decoder.ofJson j = .ok c) (proper : j.Proper) :
    j = .list [.text c.path] ∨ j.member? "path" = some (.text c.path) := by
  cases j with
  | object ms =>
    cases proper with
    | object ordered =>
    obtain ⟨filled, fill, complete⟩ := bind_ok.mp decoded
    unfold Record.complete at complete
    split at complete
    · cases complete
    · rename_i lacks
      cases complete
      have laid := Record.fill_laid path_field ordered.apart fill
      cases found : Json.Members.find? "path" ms with
      | some k =>
        rw [found] at laid
        exact .inr (found.trans (congrArg some (text_ok.mp laid)))
      | none =>
        have here : "path" ∈ ms.map (·.1) := Record.lacking_none lacks List.mem_cons_self rfl
        obtain ⟨k, there⟩ := Json.Members.find?_present here
        cases found.symm.trans there
  | list js =>
    cases js with
    | nil => cases decoded
    | cons k rest =>
      obtain ⟨change, first, decoded⟩ := bind_ok.mp decoded
      obtain ⟨s, read, rfl⟩ := map_ok.mp first
      cases text_ok.mp read
      cases rest <;> cases decoded
      exact .inl rfl
  | _ => cases decoded

end FolderContents

namespace Item

theorem field {name : String} {x : Decoder β} {get : Item → β}
    (mine : record.find? name = some (.of name presence x put)) (kept : ∀ v i, get (put v i) = v)
    (kind : name ≠ "type" → ∀ k i, get { i with kind := k } = get i)
    (id : name ≠ "id" → ∀ d i, get { i with id := d } = get i)
    (displayName : name ≠ "display_name" → ∀ s i, get { i with displayName := s } = get i)
    (updatedAt : name ≠ "updated_at" → ∀ s i, get { i with updatedAt := s } = get i)
    (contents : name ≠ "contents" → ∀ c i, get { i with contents := c } = get i)
    (extras : ∀ ms i, get { i with extras := ms } = get i) : record.Field name x get := by
  refine Record.Field.of ?_ mine kept ?_
  · intro put rest other j i
    cases rest
    exact extras _ i
  · intro m here other j change decoded i
    simp only [record, List.mem_cons, List.not_mem_nil, or_false] at here
    rcases here with rfl | rfl | rfl | rfl | rfl
    all_goals obtain ⟨v, -, rfl⟩ := map_ok.mp decoded
    · exact kind (Ne.symm other) v i
    · exact id (Ne.symm other) v i
    · exact displayName (Ne.symm other) v i
    · exact updatedAt (Ne.symm other) v i
    · exact contents (Ne.symm other) v i

theorem kind_field : record.Field "type" ItemKind.decoder Item.kind := by
  apply field rfl <;> simp

theorem id_field : record.Field "id" ItemId.decoder Item.id := by
  apply field rfl <;> simp

theorem displayName_field : record.Field "display_name" .text Item.displayName := by
  apply field rfl <;> simp

theorem updatedAt_field : record.Field "updated_at" (.option .text) Item.updatedAt := by
  apply field rfl <;> simp

theorem contents_field : record.Field "contents" (.option FolderContents.decoder) Item.contents := by
  apply field rfl <;> simp

-- A member that has no field is kept among the others under its name.
theorem apply_extras {name : String} (applied : record.apply i name j = .ok i') :
    i'.extras = if record.find? name = none then insert name j i.extras else i.extras := by
  cases found : record.find? name with
  | none =>
    cases (Record.apply_kept rfl found).symm.trans applied
    rfl
  | some m =>
    obtain ⟨change, decoded, rfl⟩ := (Record.apply_found found).mp applied
    have here : m ∈ record.members := List.mem_of_find?_eq_some found
    simp only [record, List.mem_cons, List.not_mem_nil, or_false] at here
    rcases here with rfl | rfl | rfl | rfl | rfl
    all_goals
      obtain ⟨v, -, rfl⟩ := map_ok.mp decoded
      rfl

theorem extra_field {name : String} (unknown : record.find? name = none) :
    record.Field name (Decoder.json.map some) fun i => find? name i.extras := by
  constructor
  · intro j i i' applied
    rw [apply_extras applied, if_pos unknown, find?_insert, if_pos rfl]
    rfl
  · intro other j i i' different applied
    rw [apply_extras applied]
    split
    · rw [find?_insert, if_neg different]
    · rfl

-- The others are in order, and none of them has a field.
structure Sound (i : Item) : Prop where
  ordered : Ordered i.extras
  extra : ∀ name, record.find? name ≠ none → find? name i.extras = none

theorem keeps_sound : record.Keeps Sound := by
  refine ⟨⟨.nil, fun _ _ => rfl⟩, ?_, ?_⟩
  · intro m here change given i sound
    have extras : (change i).extras = i.extras := by
      simp only [record, List.mem_cons, List.not_mem_nil, or_false] at here
      rcases here with rfl | rfl | rfl | rfl | rfl
      all_goals
        obtain ⟨v, -, rfl⟩ := Decoder.gives_map.mp given
        rfl
    exact ⟨extras ▸ sound.ordered, extras ▸ sound.extra⟩
  · intro put kept name j i unknown sound
    cases kept
    refine ⟨insert_ordered sound.ordered, ?_⟩
    intro other known
    rw [find?_insert, if_neg, sound.extra other known]
    rintro rfl
    exact known unknown

-- The members that an item has fields for.
def own (i : Item) : Json.Members :=
  [("type", .text i.kind.name), ("id", i.id.encode), ("display_name", .text i.displayName)]
    ++ (i.updatedAt.map fun s => ("updated_at", Json.text s)).toList
    ++ (i.contents.map fun c => ("contents", c.encode)).toList

theorem own_apart (i : Item) : (i.own.map (·.1)).Nodup := by
  unfold own
  cases i.updatedAt <;> cases i.contents <;> simp

theorem Sound.encode_member? (sound : i.Sound) :
    i.encode.member? name = (find? name i.extras).or (find? name i.own) := by
  have whole : find? name i.members.reverse = (find? name i.extras).or (find? name i.own) := by
    rw [show i.members = i.own ++ i.extras from rfl, List.reverse_append, find?_append,
      find?_reverse sound.ordered.apart, find?_reverse i.own_apart]
  rw [← whole]
  exact find?_ofMembers rfl

theorem known_cases {name : String} (known : record.find? name ≠ none) :
    name = "type" ∨ name = "id" ∨ name = "display_name" ∨ name = "updated_at" ∨ name = "contents" := by
  obtain ⟨m, found⟩ := Option.ne_none_iff_exists'.mp known
  have named : m.name = name := Record.found_name found
  have here : m ∈ record.members := List.mem_of_find?_eq_some found
  subst named
  simp only [record, List.mem_cons, List.not_mem_nil, or_false] at here
  rcases here with rfl | rfl | rfl | rfl | rfl <;> simp [Member.of]

theorem own_known (here : find? name i.own = some j) : record.find? name ≠ none := by
  have named : i.own.map (·.1) ⊆ record.members.map (·.name) := by
    unfold own
    cases i.updatedAt <;> cases i.contents <;> simp [record, Member.of]
  obtain ⟨m, member, same⟩ := List.mem_map.mp (named (List.mem_map.mpr ⟨_, mem_of_find? here, rfl⟩))
  intro unknown
  exact List.find?_eq_none.mp unknown m member (by simpa using same)

-- A name is that of a field or of another member, never of both.

theorem Sound.known {name : String} (sound : i.Sound) (known : record.find? name ≠ none) :
    i.encode.member? name = find? name i.own := by
  rw [sound.encode_member?, sound.extra name known]
  rfl

theorem Sound.unknown {name : String} (sound : i.Sound) (unknown : record.find? name = none) :
    i.encode.member? name = find? name i.extras := by
  have absent : find? name i.own = none := by
    apply Option.eq_none_iff_forall_ne_some.mpr
    intro j here
    exact own_known here unknown
  rw [sound.encode_member?, absent, Option.or_none]

theorem own_updatedAt (i : Item) : find? "updated_at" i.own = i.updatedAt.map .text := by
  unfold own
  cases i.updatedAt <;> cases i.contents <;> rfl

theorem own_contents (i : Item) : find? "contents" i.own = i.contents.map FolderContents.encode := by
  unfold own
  cases i.updatedAt <;> cases i.contents <;> rfl

-- How an entry stands to the members of the object that it was decoded from.
structure Filled (ms : Json.Members) (i : Item) : Prop where
  kind : Record.Laid ItemKind.decoder .file i.kind (find? "type" ms)
  id : Record.Laid ItemId.decoder (.text "") i.id (find? "id" ms)
  displayName : Record.Laid .text "" i.displayName (find? "display_name" ms)
  updatedAt : Record.Laid (.option .text) none i.updatedAt (find? "updated_at" ms)
  contents : Record.Laid (.option FolderContents.decoder) none i.contents (find? "contents" ms)
  extras : ∀ name, record.find? name = none → find? name i.extras = find? name ms
  sound : i.Sound

theorem laid_json (laid : Record.Laid (Decoder.json.map some) none o given) : o = given := by
  cases given <;> cases o <;> cases laid <;> rfl

theorem members_optional : ∀ m ∈ record.members, m.presence = .optional := by simp [record, Member.of]

theorem decoded_filled (ordered : Ordered ms) (decoded : decoder.ofJson (.object ms) = .ok i) : Filled ms i := by
  have filled := (Record.ofMembers_fill members_optional).mp decoded
  constructor
  · exact Record.fill_laid kind_field ordered.apart filled
  · exact Record.fill_laid id_field ordered.apart filled
  · exact Record.fill_laid displayName_field ordered.apart filled
  · exact Record.fill_laid updatedAt_field ordered.apart filled
  · exact Record.fill_laid contents_field ordered.apart filled
  · intro name unknown
    exact laid_json (Record.fill_laid (extra_field unknown) ordered.apart filled)
  · exact keeps_sound.fill keeps_sound.blank filled

theorem Filled.unknown {name : String} (filled : Filled ms i) (unknown : record.find? name = none) :
    i.encode.member? name = find? name ms := by
  rw [filled.sound.unknown unknown, filled.extras name unknown]

-- What comes back of a value when the entry that it stands for is encoded.
structure ComesBack (v w : Json) : Prop where
  given : ∀ name j, v.member? name = some j → name ≠ "type" → name ≠ "contents" →
    (name = "updated_at" → j ≠ .null) → w.member? name = some j
  kind : ∀ j, v.member? "type" = some j →
    ∃ name, w.member? "type" = some (.text name) ∧ (j = .text name ∨ j = .object [(name, .null)])
  contents : ∀ j, v.member? "contents" = some j → j ≠ .null →
    ∃ c path, w.member? "contents" = some c ∧ c.member? "path" = some (.text path) ∧
      (j = .list [.text path] ∨
        j.member? "path" = some (.text path) ∧ ((∀ name, j.member? name ≠ none → name = "path") → c = j))
  added : ∀ name j, v.member? name = none → w.member? name = some j →
    (name, j) ∈ [("type", .text "File"), ("id", .text ""), ("display_name", .text "")]
  omitted : ∀ name j, v.member? name = some j → w.member? name = none →
    j = .null ∧ (name = "updated_at" ∨ name = "contents")

variable {name : String} {j : Json}

theorem Filled.given (filled : Filled ms i) (here : find? name ms = some j) (kind : name ≠ "type")
    (contents : name ≠ "contents") (dated : name = "updated_at" → j ≠ .null) : i.encode.member? name = some j := by
  by_cases unknown : record.find? name = none
  · exact (filled.unknown unknown).trans here
  · rw [filled.sound.known unknown]
    rcases known_cases unknown with rfl | rfl | rfl | rfl | rfl
    · exact absurd rfl kind
    · have decoded := filled.id
      rw [here] at decoded
      exact congrArg some (ItemId.decoded decoded).symm
    · have decoded := filled.displayName
      rw [here] at decoded
      exact congrArg some (text_ok.mp decoded).symm
    · have decoded := filled.updatedAt
      rw [here] at decoded
      rcases Decoder.option_ok decoded with ⟨rfl, _⟩ | ⟨s, updated, read⟩
      · exact absurd rfl (dated rfl)
      · rw [own_updatedAt, updated, text_ok.mp read]
        rfl
    · exact absurd rfl contents

theorem Filled.kindBack (filled : Filled ms i) (here : find? "type" ms = some j) :
    i.encode.member? "type" = some (.text i.kind.name) ∧
      (j = .text i.kind.name ∨ j = .object [(i.kind.name, .null)]) := by
  have decoded := filled.kind
  rw [here] at decoded
  exact ⟨filled.sound.known (by decide), ItemKind.decoded decoded⟩

theorem Filled.contentsBack (filled : Filled ms i) (proper : j.Proper) (here : find? "contents" ms = some j)
    (given : j ≠ .null) : ∃ c, i.encode.member? "contents" = some (FolderContents.encode c) ∧
      (j = .list [.text c.path] ∨ j.member? "path" = some (.text c.path)) := by
  have decoded := filled.contents
  rw [here] at decoded
  rcases Decoder.option_ok decoded with ⟨rfl, _⟩ | ⟨c, inside, read⟩
  · exact absurd rfl given
  · refine ⟨c, ?_, FolderContents.decoded read proper⟩
    rw [filled.sound.known (by decide), own_contents, inside]
    rfl

theorem Filled.added (filled : Filled ms i) (absent : find? name ms = none) (here : i.encode.member? name = some j) :
    (name, j) ∈ [("type", .text "File"), ("id", .text ""), ("display_name", .text "")] := by
  by_cases unknown : record.find? name = none
  · cases absent.symm.trans ((filled.unknown unknown).symm.trans here)
  · rw [filled.sound.known unknown] at here
    rcases known_cases unknown with rfl | rfl | rfl | rfl | rfl
    · have same := filled.kind
      rw [absent] at same
      have here : some (.text i.kind.name) = some j := here
      cases here
      rw [show i.kind = .file from same]
      simp [ItemKind.name]
    · have same := filled.id
      rw [absent] at same
      have here : some i.id.encode = some j := here
      cases here
      rw [show i.id = .text "" from same]
      simp [ItemId.encode]
    · have same := filled.displayName
      rw [absent] at same
      have here : some (.text i.displayName) = some j := here
      cases here
      rw [show i.displayName = "" from same]
      simp
    · have same := filled.updatedAt
      rw [absent] at same
      rw [own_updatedAt, show i.updatedAt = none from same] at here
      cases here
    · have same := filled.contents
      rw [absent] at same
      rw [own_contents, show i.contents = none from same] at here
      cases here

theorem Filled.omitted (filled : Filled ms i) (here : find? name ms = some j) (gone : i.encode.member? name = none) :
    j = .null ∧ (name = "updated_at" ∨ name = "contents") := by
  by_cases unknown : record.find? name = none
  · cases here.symm.trans ((filled.unknown unknown).symm.trans gone)
  · rw [filled.sound.known unknown] at gone
    rcases known_cases unknown with rfl | rfl | rfl | rfl | rfl
    · cases gone
    · cases gone
    · cases gone
    · have decoded := filled.updatedAt
      rw [here] at decoded
      rw [own_updatedAt, Option.map_eq_none_iff] at gone
      rcases Decoder.option_ok decoded with ⟨null, _⟩ | ⟨s, updated, _⟩
      · exact ⟨null, .inl rfl⟩
      · cases gone.symm.trans updated
    · have decoded := filled.contents
      rw [here] at decoded
      rw [own_contents, Option.map_eq_none_iff] at gone
      rcases Decoder.option_ok decoded with ⟨null, _⟩ | ⟨c, inside, _⟩
      · exact ⟨null, .inr rfl⟩
      · cases gone.symm.trans inside

theorem path_alone {path : String} (proper : j.Proper) (here : j.member? "path" = some (.text path))
    (alone : ∀ name, j.member? name ≠ none → name = "path") : j = .object [("path", .text path)] := by
  cases proper with
  | @object ms ordered =>
    cases ms with
    | nil => cases here
    | cons m rest =>
      have named (k : String × Json) (member : k ∈ m :: rest) : k.1 = "path" := by
        apply alone
        rw [show (Json.object (m :: rest)).member? k.1 = some k.2 from find?_mem ordered.apart member]
        simp
      cases rest with
      | nil =>
        obtain ⟨name, k⟩ := m
        cases named _ List.mem_cons_self
        cases here
        rfl
      | cons k rest =>
        have twice : m.1 = k.1 := (named m List.mem_cons_self).trans (named k (by simp)).symm
        exact absurd twice (ne_of_lt (List.rel_of_pairwise_cons ordered List.mem_cons_self))
  | _ => cases here

-- Every proper object that stands for an entry comes back when the entry is encoded, member by member. Only a kind that
-- was written as an object comes back as its name, and contents that were written as a list come back as an object;
-- nothing but the three members that every entry has is added, and nothing but null is left out.
theorem decoded_comes_back (proper : v.Proper) (decoded : decoder.ofJson v = .ok i) : ComesBack v i.encode := by
  cases proper with
  | @object ms ordered all =>
    have filled := decoded_filled ordered decoded
    have proper : Json.Proper (.object ms) := .object ordered all
    constructor
    · intro name j
      exact filled.given
    · intro j here
      exact ⟨_, filled.kindBack here⟩
    · intro j here given
      have proper := proper.member here
      obtain ⟨c, back, forms⟩ := filled.contentsBack proper here given
      refine ⟨c.encode, c.path, back, rfl, forms.imp_right fun path => ⟨path, fun alone => ?_⟩⟩
      exact (path_alone proper path alone).symm
    · intro name j
      exact filled.added
    · intro name j
      exact filled.omitted
  | _ => cases decoded

-- A folder as a service lists it, with something to say that is its own.
def weekListed : Json :=
  .object [("contents", .object [("path", .text "/files/week")]), ("id", .whole 7), ("locked", .bool true),
    ("type", .text "Folder")]

def week : Item := ⟨.folder, .number 7, "", none, some ⟨"/files/week"⟩, [("locked", .bool true)]⟩

theorem weekListed_comes_back : weekListed.Proper ∧ decoder.ofJson weekListed = .ok week ∧
    week.encode.member? "locked" = some (.bool true) ∧ week.encode.member? "id" = some (.whole 7) := by
  have contents : Json.Proper (.object [("path", .text "/files/week")]) :=
    .object (List.pairwise_singleton _ _) (by simpa using .text)
  have proper : weekListed.Proper := by
    refine .object ?_ ?_
    · simp only [Ordered]
      decide
    · simp only [List.forall_mem_cons]
      exact ⟨contents, .number, .bool, .text, by simp⟩
  have decoded : decoder.ofJson weekListed = .ok week := rfl
  have back := decoded_comes_back proper decoded
  exact ⟨proper, decoded, back.given "locked" _ rfl (by decide) (by decide) (by simp),
    back.given "id" _ rfl (by decide) (by decide) (by simp)⟩

-- A kind may be written as an object, and comes back as a text.
theorem kind_changes_form : ¬ ∀ v i, v.Proper → decoder.ofJson v = .ok i → ∀ name j, v.member? name = some j →
    j ≠ .null → i.encode.member? name = some j := by
  intro all
  have kind : Json.Proper (.object [("Folder", .null)]) := .object (List.pairwise_singleton _ _) (by simpa using .null)
  have proper : Json.Proper (.object [("type", .object [("Folder", .null)])]) :=
    .object (List.pairwise_singleton _ _) (by simpa using kind)
  have back := all _ { blank with kind := .folder } proper rfl "type" _ rfl (by simp)
  cases back

end Item

end CourseFiles
