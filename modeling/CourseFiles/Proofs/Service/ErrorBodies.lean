import CourseFiles.Proofs.Json.Overlay
import CourseFiles.Listing.Failure

namespace CourseFiles
namespace ErrorBody

open Reader

variable {b b' : ErrorBody}

-- What a body says of each of its members.
structure Tells (b : ErrorBody) (message details code : Json) : Prop where
  message : message = b.message.elim .null .text
  details : details = b.details.getD .null
  given : b.details ≠ some .null
  code : code = b.code.elim .null .text

theorem optionText_ok : (Decoder.option .text).ofJson j = .ok s ↔ j = s.elim .null .text := by
  constructor
  · intro decoded
    cases j with
    | null => cases decoded; rfl
    | text t => cases decoded; rfl
    | _ => cases decoded
  · rintro rfl
    cases s <;> rfl

theorem optionJson_ok : (Decoder.option .json).ofJson j = .ok d ↔ j = d.getD .null ∧ d ≠ some .null := by
  constructor
  · intro decoded
    cases j <;> cases decoded <;> simp
  · rintro ⟨rfl, given⟩
    cases d with
    | none => rfl
    | some j => cases j <;> first | rfl | exact absurd rfl given

theorem plain : record.Plain := by
  refine ⟨rfl, ?_⟩
  intro m here
  have text : (Decoder.option .text).Faithful := Decoder.textOf_faithful.option
  simp only [record, List.mem_cons, List.not_mem_nil, or_false] at here
  rcases here with rfl | rfl | rfl
  · exact text.map _
  · exact Decoder.json_faithful.option.map _
  · exact text.map _

theorem field {name : String} {x : Decoder β} {get : ErrorBody → β}
    (mine : record.find? name = some (.of name presence x put)) (kept : ∀ v b, get (put v b) = v)
    (message : name ≠ "message" → ∀ s b, get { b with message := s } = get b)
    (details : name ≠ "details" → ∀ j b, get { b with details := j } = get b)
    (code : name ≠ "error_code" → ∀ s b, get { b with code := s } = get b) : record.Field name x get := by
  refine Record.Field.of (fun _ rest => by cases rest) mine kept ?_
  intro m here other j change decoded b
  simp only [record, List.mem_cons, List.not_mem_nil, or_false] at here
  rcases here with rfl | rfl | rfl
  · obtain ⟨v, -, rfl⟩ := map_ok.mp decoded
    exact message (Ne.symm other) v b
  · obtain ⟨v, -, rfl⟩ := map_ok.mp decoded
    exact details (Ne.symm other) v b
  · obtain ⟨v, -, rfl⟩ := map_ok.mp decoded
    exact code (Ne.symm other) v b

theorem message_field : record.Field "message" (.option .text) ErrorBody.message :=
  field rfl (fun _ _ => rfl) (fun other => absurd rfl other) (fun _ _ _ => rfl) fun _ _ _ => rfl

theorem details_field : record.Field "details" (.option .json) ErrorBody.details :=
  field rfl (fun _ _ => rfl) (fun _ _ _ => rfl) (fun other => absurd rfl other) fun _ _ _ => rfl

theorem code_field : record.Field "error_code" (.option .text) ErrorBody.code :=
  field rfl (fun _ _ => rfl) (fun _ _ _ => rfl) (fun _ _ _ => rfl) fun other => absurd rfl other

-- What a member of an object is told to be; one that is not there is null.
def told (ms : Json.Members) (name : String) : Json := (Json.Members.find? name ms).getD .null

theorem laid_option {x : Decoder α} :
    Record.Laid x.option none v given ↔ x.option.ofJson (given.getD .null) = .ok v := by
  cases given with
  | none =>
    constructor
    · intro same
      cases same
      rfl
    · intro decoded
      cases decoded
      rfl
  | some j => rfl

theorem told_mem {ms : Json.Members} (apart : (ms.map (·.1)).Nodup) (here : (name, j) ∈ ms) : told ms name = j := by
  rw [told, Json.Members.find?_mem apart here]
  rfl

theorem Tells.unique (one : Tells b i j k) (other : Tells b' i j k) : b = b' := by
  have messages := (optionText_ok.mpr one.message).symm.trans (optionText_ok.mpr other.message)
  have detailed := (optionJson_ok.mpr ⟨one.details, one.given⟩).symm.trans
    (optionJson_ok.mpr ⟨other.details, other.given⟩)
  have codes := (optionText_ok.mpr one.code).symm.trans (optionText_ok.mpr other.code)
  cases b
  cases b'
  cases messages
  cases detailed
  cases codes
  rfl

theorem Tells.fits {ms : Json.Members} (apart : (ms.map (·.1)).Nodup)
    (tells : Tells b (told ms "message") (told ms "details") (told ms "error_code")) : ∀ m ∈ ms, record.Fits m := by
  intro m here k found
  have named : k.name = m.1 := Record.found_name found
  have mine := List.mem_of_find?_eq_some (show record.members.find? _ = some k from found)
  have said := told_mem apart here
  rw [← named] at said
  simp only [record, List.mem_cons, List.not_mem_nil, or_false] at mine
  rcases mine with rfl | rfl | rfl
  · have decoded := optionText_ok.mpr (said.symm.trans tells.message)
    exact ⟨_, map_ok.mpr ⟨_, decoded, rfl⟩⟩
  · have decoded := optionJson_ok.mpr ⟨said.symm.trans tells.details, tells.given⟩
    exact ⟨_, map_ok.mpr ⟨_, decoded, rfl⟩⟩
  · have decoded := optionText_ok.mpr (said.symm.trans tells.code)
    exact ⟨_, map_ok.mpr ⟨_, decoded, rfl⟩⟩

theorem ofMembers_tells {ms : Json.Members} (apart : (ms.map (·.1)).Nodup) :
    record.ofMembers ms = .ok b ↔ b.Tells (told ms "message") (told ms "details") (told ms "error_code") := by
  have tells {b : ErrorBody} (filled : record.fill ms record.blank = .ok b) :
      b.Tells (told ms "message") (told ms "details") (told ms "error_code") := by
    have message := optionText_ok.mp (laid_option.mp (Record.fill_laid message_field apart filled))
    have details := optionJson_ok.mp (laid_option.mp (Record.fill_laid details_field apart filled))
    have code := optionText_ok.mp (laid_option.mp (Record.fill_laid code_field apart filled))
    exact ⟨message, details.1, details.2, code⟩
  rw [Record.ofMembers_fill (by simp [record, Member.of])]
  constructor
  · exact tells
  · intro told
    obtain ⟨b', filled⟩ := Record.fill_fits (told.fits apart)
    cases told.unique (tells filled)
    exact filled

theorem tells_iff : b.Tells i j k ↔ (Decoder.option .text).ofJson i = .ok b.message ∧
    (Decoder.option .json).ofJson j = .ok b.details ∧ (Decoder.option .text).ofJson k = .ok b.code := by
  rw [optionText_ok, optionJson_ok, optionText_ok]
  constructor
  · intro tells
    exact ⟨tells.message, ⟨tells.details, tells.given⟩, tells.code⟩
  · intro decoded
    exact ⟨decoded.1, decoded.2.1.1, decoded.2.1.2, decoded.2.2⟩

theorem option_null {x : Decoder α} : x.option.ofJson .null = .ok none := rfl

-- A list tells of the members in their order, as far as it goes.
theorem ofItems_tells : record.ofJson (.list js) = .ok b ↔
    js.length ≤ 3 ∧ b.Tells (js.getD 0 .null) (js.getD 1 .null) (js.getD 2 .null) := by
  have taken : record.ofJson (.list js) = Record.ofItems record.listExpected 0 record.members js record.blank := rfl
  rw [taken, tells_iff]
  obtain ⟨s, d, c⟩ := b
  rcases js with _ | ⟨i, _ | ⟨j, _ | ⟨k, _ | ⟨l, rest⟩⟩⟩⟩
  · simp [record, Record.ofItems, Member.of, option_null]
  · simp [record, Record.ofItems, Member.of, option_null, bind_ok, Decoder.map]
  · simp [record, Record.ofItems, Member.of, option_null, bind_ok, Decoder.map]
  · simp [record, Record.ofItems, Member.of, bind_ok, Decoder.map]
  · simp [record, Record.ofItems, Member.of, bind_ok, Decoder.map]

-- The bytes of an error body, in either of its forms.
def Spelled (bytes : List UInt8) (b : ErrorBody) : Prop :=
  (∃ ms, run (record.named deepest) bytes = .ok ms ∧ (ms.map (·.1)).Nodup ∧
    b.Tells (told ms "message") (told ms "details") (told ms "error_code")) ∨
  ∃ js, Json.read bytes = .ok (.list js) ∧ js.length ≤ 3 ∧
    b.Tells (js.getD 0 .null) (js.getD 1 .null) (js.getD 2 .null)

theorem readText_spelled : decoder.readText bytes = .ok b ↔ Spelled bytes b :=
  plain.readText_means (fun _ => ofMembers_tells) fun _ => ofItems_tells

-- Where the bytes are JSON, an error body has the members of the object.
theorem Spelled.object (spelled : Spelled bytes b) (read : Json.read bytes = .ok (.object os)) :
    b.Tells (told os "message") (told os "details") (told os "error_code") := by
  rcases spelled with ⟨ms, named, apart, tells⟩ | ⟨js, listed, -⟩
  · obtain ⟨all, same, named'⟩ := Record.named_of_json (r := record) read
    cases named.symm.trans named'
    have known {name : String} (mine : (record.find? name).isSome = true) :
        told (all.filter record.knows) name = told os name := by
      have kept : ∀ j, record.knows (name, j) = true := fun _ => mine
      rw [told, told, Json.Members.find?_ofMembers same, ← Json.Members.find?_reverse apart, ← List.filter_reverse,
        Json.Members.find?_filter kept]
    rwa [known rfl, known rfl, known rfl] at tells
  · cases listed.symm.trans read

end ErrorBody
end CourseFiles
