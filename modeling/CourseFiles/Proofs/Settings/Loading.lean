import CourseFiles.Proofs.Json.Proper
import CourseFiles.Settings.Basic
import Mathlib.Data.List.Forall2

namespace CourseFiles
namespace Settings

open Reader Json.Members

variable {s t : Settings} {ms : Json.Members} {j i : Json} {d : Datum}

-- What a datum can be.
inductive Kind
  | word64
  | word32
  | text
deriving DecidableEq

def Kind.Has : Kind → Json → Prop
  | .word64, j => ∃ n : Nat, n < Nat.pow 2 64 ∧ j = .whole n
  | .word32, j => ∃ n : Nat, n < Nat.pow 2 32 ∧ j = .whole n
  | .text, j => ∃ t, j = .text t

-- A datum as a file has it: its name there, and what it is of some settings.
structure Datum where
  name : String
  kind : Kind
  get : Settings → Json

def data : List Datum :=
  [ ⟨"rpcTimeoutMs", .word64, fun s => .whole s.callTimeout⟩,
    ⟨"authTimeoutMs", .word64, fun s => .whole s.sessionTimeout⟩,
    ⟨"closePollIntervalMs", .word64, fun s => .whole s.pollInterval⟩,
    ⟨"popupWidth", .word32, fun s => .whole s.popupWidth⟩,
    ⟨"popupHeight", .word32, fun s => .whole s.popupHeight⟩,
    ⟨"lmsName", .text, fun s => .text s.lmsName⟩,
    ⟨"missingFilesHelpLink", .text, fun s => .text s.helpLink⟩,
    ⟨"logFileStem", .text, fun s => .text s.logStem⟩ ]

-- Settings are what their data are.
theorem data_ext (same : ∀ d ∈ data, d.get s = d.get t) : s = t := by
  cases s
  cases t
  simpa [data, Json.whole, Int.natCast_inj] using same

-- The data that some members give, and the standard for the others.
def Overlay (ms : Json.Members) (s : Settings) : Prop :=
  ∀ d ∈ data,
    match find? d.name ms with
    | some j => d.kind.Has j ∧ d.get s = j
    | none => d.get s = d.get standard

-- Every datum that is given is one that can be.
def Typed (ms : Json.Members) : Prop := ∀ d ∈ data, ∀ j, find? d.name ms = some j → d.kind.Has j

def InRange (s : Settings) : Prop := ∀ d ∈ data, d.kind.Has (d.get s)

def Kind.form : Kind → Decoder Json
  | .word64 => Decoder.word64.map fun n => .whole (Int.ofNat n)
  | .word32 => Decoder.word32.map fun n => .whole (Int.ofNat n)
  | .text => Decoder.text.map .text

theorem form_ok {k : Kind} : k.form.ofJson j = .ok i ↔ k.Has j ∧ i = j := by
  have word {bound : Nat} {expected : String} :
      ((Decoder.natural bound expected).map fun n => Json.whole (Int.ofNat n)).ofJson j = .ok i ↔
        (∃ n : Nat, n < bound ∧ j = .whole n) ∧ i = j := by
    simp only [Decoder.map, map_ok, natural_ok]
    constructor
    · intro decoded
      obtain ⟨n, ⟨below, rfl⟩, rfl⟩ := decoded
      exact ⟨⟨n, below, rfl⟩, rfl⟩
    · intro has
      obtain ⟨⟨n, below, rfl⟩, rfl⟩ := has
      exact ⟨n, ⟨below, rfl⟩, rfl⟩
  cases k with
  | word64 => exact word
  | word32 => exact word
  | text =>
    simp only [Kind.form, Kind.Has, Decoder.map, map_ok, text_ok]
    constructor
    · intro decoded
      obtain ⟨s, rfl, rfl⟩ := decoded
      exact ⟨⟨s, rfl⟩, rfl⟩
    · intro has
      obtain ⟨⟨s, rfl⟩, rfl⟩ := has
      exact ⟨s, rfl, rfl⟩

-- To read a member is to set its datum and no other.
structure Sets (m : Member Settings) (d : Datum) : Prop where
  name : m.name = d.name
  optional : m.presence = .optional
  faithful : m.form.Faithful
  accepts : ∀ j, d.kind.Has j → ∃ change, m.form.ofJson j = .ok change
  own : ∀ j change, m.form.ofJson j = .ok change → ∀ s, d.kind.Has j ∧ d.get (change s) = j
  others : ∀ j change, m.form.ofJson j = .ok change → ∀ d' ∈ data, d'.name ≠ d.name → ∀ s, d'.get (change s) = d'.get s

theorem sets {name : String} {k : Kind} {get : Settings → Json} {x : Decoder β} {write : β → Json}
    {put : β → Settings → Settings} (same : k.form = x.map write) (faithful : x.Faithful)
    (own : ∀ v s, get (put v s) = write v)
    (others : ∀ d ∈ data, d.name ≠ name → ∀ v s, d.get (put v s) = d.get s) :
    Sets (.of name .optional x put) ⟨name, k, get⟩ where
  name := rfl
  optional := rfl
  faithful := faithful.map put
  accepts := by
    intro j has
    have decoded := form_ok.mpr ⟨has, rfl⟩
    rw [same] at decoded
    obtain ⟨v, decoded, -⟩ := map_ok.mp decoded
    exact ⟨put v, map_ok.mpr ⟨v, decoded, rfl⟩⟩
  own := by
    intro j change decoded s
    obtain ⟨v, read, rfl⟩ := map_ok.mp decoded
    have formed : k.form.ofJson j = .ok (write v) := same ▸ map_ok.mpr ⟨v, read, rfl⟩
    obtain ⟨has, written⟩ := form_ok.mp formed
    exact ⟨has, (own v s).trans written⟩
  others := by
    intro j change decoded d' here other s
    obtain ⟨v, -, rfl⟩ := map_ok.mp decoded
    exact others d' here other v s

-- Each datum has its member, at the same place of both lists. Only here are they gone through one by one.
theorem members_set : List.Forall₂ Sets record.members data := by
  have word64 : Decoder.word64.Faithful := Decoder.natural_faithful
  have word32 : Decoder.word32.Faithful := Decoder.natural_faithful
  have text : Decoder.text.Faithful := Decoder.textOf_faithful
  unfold record data
  refine .cons (sets rfl word64 (fun _ _ => rfl) ?_) (.cons (sets rfl word64 (fun _ _ => rfl) ?_)
    (.cons (sets rfl word64 (fun _ _ => rfl) ?_) (.cons (sets rfl word32 (fun _ _ => rfl) ?_)
    (.cons (sets rfl word32 (fun _ _ => rfl) ?_) (.cons (sets rfl text (fun _ _ => rfl) ?_)
    (.cons (sets rfl text (fun _ _ => rfl) ?_) (.cons (sets rfl text (fun _ _ => rfl) ?_) .nil)))))))
  all_goals simp [data]

theorem member_sets (here : m ∈ record.members) : ∃ d ∈ data, Sets m d := by
  obtain ⟨n, bound, rfl⟩ := List.mem_iff_getElem.mp here
  have bound' : n < data.length := members_set.length_eq ▸ bound
  exact ⟨data[n], List.getElem_mem bound', members_set.get bound bound'⟩

theorem datum_set (here : d ∈ data) : ∃ m ∈ record.members, Sets m d := by
  obtain ⟨n, bound, rfl⟩ := List.mem_iff_getElem.mp here
  have bound' : n < record.members.length := members_set.length_eq ▸ bound
  exact ⟨record.members[n], List.getElem_mem bound', members_set.get bound' bound⟩

def names : List String := data.map (·.name)

theorem names_apart : names.Nodup := by decide

theorem found_sets {name : String} (found : record.find? name = some m) : ∃ d ∈ data, d.name = name ∧ Sets m d := by
  obtain ⟨d, here, sets⟩ := member_sets (List.mem_of_find?_eq_some found)
  exact ⟨d, here, sets.name.symm.trans (Record.found_name found), sets⟩

theorem member_found : ∀ m ∈ record.members, record.find? m.name = some m := by
  intro m here
  simp only [record, List.mem_cons, List.not_mem_nil, or_false] at here
  rcases here with rfl | rfl | rfl | rfl | rfl | rfl | rfl | rfl <;> rfl

theorem datum_field (here : d ∈ data) : record.Field d.name d.kind.form d.get := by
  obtain ⟨m, mine, sets⟩ := datum_set here
  constructor
  · intro j a b applied
    have found : record.find? d.name = some m := sets.name ▸ member_found m mine
    obtain ⟨change, decoded, rfl⟩ := (Record.apply_found found).mp applied
    obtain ⟨has, same⟩ := sets.own j change decoded a
    exact form_ok.mpr ⟨has, same⟩
  · intro other j a b different applied
    cases found : record.find? other with
    | some m' =>
      obtain ⟨change, decoded, rfl⟩ := (Record.apply_found found).mp applied
      obtain ⟨d', -, named, sets'⟩ := found_sets found
      exact sets'.others j change decoded d here (fun same => different (named.symm.trans same.symm)) a
    | none =>
      simp only [Record.apply, found] at applied
      cases applied
      rfl

theorem filled_overlay (apart : (ms.map (·.1)).Nodup) (filled : record.fill ms standard = .ok s) : Overlay ms s := by
  intro d here
  have laid := Record.fill_laid (datum_field here) apart filled
  cases given : find? d.name ms with
  | some j =>
    rw [given] at laid
    exact form_ok.mp laid
  | none =>
    rw [given] at laid
    exact laid

theorem Overlay.unique (one : Overlay ms s) (other : Overlay ms t) : s = t := by
  refine data_ext fun d here => ?_
  have first := one d here
  have second := other d here
  cases given : find? d.name ms with
  | some j =>
    rw [given] at first second
    exact first.2.trans second.2.symm
  | none =>
    rw [given] at first second
    exact Eq.trans first (Eq.symm second)

theorem Overlay.typed (overlay : Overlay ms s) : Typed ms := by
  intro d here j given
  have laid := overlay d here
  rw [given] at laid
  exact laid.1

theorem Typed.filled (typed : Typed ms) (apart : (ms.map (·.1)).Nodup) : ∃ s, record.fill ms standard = .ok s := by
  refine Record.fill_fits fun m here k found => ?_
  obtain ⟨d, mine, named, sets⟩ := found_sets found
  exact sets.accepts m.2 (typed d mine m.2 (named ▸ find?_mem apart here))

theorem fill_overlay (apart : (ms.map (·.1)).Nodup) : record.fill ms standard = .ok s ↔ Overlay ms s := by
  constructor
  · exact filled_overlay apart
  · intro overlay
    obtain ⟨t, filled⟩ := overlay.typed.filled apart
    cases overlay.unique (filled_overlay apart filled)
    exact filled

theorem members_optional : ∀ m ∈ record.members, m.presence = .optional := by
  intro m here
  obtain ⟨d, -, sets⟩ := member_sets here
  exact sets.optional

theorem ofMembers_overlay (apart : (ms.map (·.1)).Nodup) : record.ofMembers ms = .ok s ↔ Overlay ms s :=
  (Record.ofMembers_fill members_optional).trans (fill_overlay apart)

-- Members of the right types have an overlay, and it is all that keeps them from having one.
theorem typed_overlay (apart : (ms.map (·.1)).Nodup) : (∃ s, Overlay ms s) ↔ Typed ms := by
  constructor
  · intro overlay
    obtain ⟨s, overlay⟩ := overlay
    exact overlay.typed
  · intro typed
    obtain ⟨s, filled⟩ := typed.filled apart
    exact ⟨s, filled_overlay apart filled⟩

-- The items of a list under the names of the data.
def listed (js : List Json) : Json.Members := names.zip js

theorem listed_apart (js : List Json) : ((listed js).map (·.1)).Nodup := by
  rw [listed, List.zip_eq_zip_take_min, List.map_fst_zip (by simp)]
  exact names_apart.sublist (List.take_sublist _ _)

theorem ofItems_overlay {js : List Json} : record.ofJson (.list js) = .ok s ↔
    js.length ≤ data.length ∧ Overlay (listed js) s := by
  have taken : record.ofJson (.list js) = Record.ofItems record.listExpected 0 record.members js standard := rfl
  rw [taken, Record.ofItems_fill member_found members_optional, ← fill_overlay (listed_apart js)]
  rfl

theorem plain : record.Plain := by
  refine ⟨rfl, fun m here => ?_⟩
  obtain ⟨d, -, sets⟩ := member_sets here
  exact sets.faithful

-- The bytes of settings, in either of their forms.
def Spelled (bytes : List UInt8) (s : Settings) : Prop :=
  (∃ ms, run (record.named deepest) bytes = .ok ms ∧ (ms.map (·.1)).Nodup ∧ Overlay ms s) ∨
  ∃ js, Json.read bytes = .ok (.list js) ∧ js.length ≤ data.length ∧ Overlay (listed js) s

theorem readText_spelled {bytes : List UInt8} : decoder.readText bytes = .ok s ↔ Spelled bytes s :=
  plain.readText_means (fun _ => ofMembers_overlay) fun _ => ofItems_overlay

theorem load_spelled {bytes : List UInt8} : load (.content bytes) = .ok s ↔ Spelled bytes s := by
  rw [load, ← readText_spelled]
  cases decoder.readText bytes <;> simp [Except.mapError]

theorem load_ok {source : Source} : load source = .ok s ↔
    source = .absent ∧ s = standard ∨ ∃ bytes, source = .content bytes ∧ Spelled bytes s := by
  cases source with
  | absent => simp [load, eq_comm]
  | unreadable reason => simp [load]
  | content bytes => simp [load_spelled]

theorem known_overlay : Overlay (ms.filter record.knows) s ↔ Overlay ms s := by
  have same {d : Datum} (here : d ∈ data) : find? d.name (ms.filter record.knows) = find? d.name ms := by
    obtain ⟨m, mine, sets⟩ := datum_set here
    refine find?_filter fun j => ?_
    rw [Record.knows, ← sets.name, member_found m mine]
    rfl
  refine forall₂_congr fun d here => ?_
  rw [same here]

-- A text that is an object is settings as the object is, but it may name each datum only once.
theorem load_object {bytes : List UInt8} (read : run (Record.written deepest) bytes = .ok ms) :
    load (.content bytes) = .ok s ↔ ((ms.filter record.knows).map (·.1)).Nodup ∧ Overlay ms s := by
  rw [load_spelled, ← known_overlay]
  have named : run (record.named deepest) bytes = _ := Record.named_of_written read
  constructor
  · intro spelled
    rcases spelled with ⟨ms', named', apart, overlay⟩ | ⟨js, listed, -⟩
    · cases named.symm.trans named'
      exact ⟨apart, overlay⟩
    · cases listed.symm.trans (Record.read_written.mpr ⟨ms, read, rfl⟩)
  · intro overlay
    exact .inl ⟨_, named, overlay.1, overlay.2⟩

theorem load_list {bytes : List UInt8} {js : List Json} (read : Json.read bytes = .ok (.list js)) :
    load (.content bytes) = .ok s ↔ js.length ≤ data.length ∧ Overlay (listed js) s := by
  rw [load_spelled]
  constructor
  · intro spelled
    rcases spelled with ⟨ms, named, -⟩ | ⟨js', listed, overlay⟩
    · obtain ⟨d, named, -⟩ := run_ok.mp named
      obtain ⟨e, read, -⟩ := run_ok.mp read
      obtain ⟨b, here, begins⟩ := read.begins
      cases here.symm.trans (Record.reads_named.mp named).1
      cases begins
    · cases read.symm.trans listed
      exact overlay
  · intro overlay
    exact .inr ⟨js, read, overlay⟩

theorem standard_inRange : standard.InRange := by
  intro d here
  simp only [data, List.mem_cons, List.not_mem_nil, or_false] at here
  rcases here with rfl | rfl | rfl | rfl | rfl | rfl | rfl | rfl
  all_goals first | exact ⟨_, by decide, rfl⟩ | exact ⟨_, rfl⟩

theorem Overlay.inRange (overlay : Overlay ms s) : s.InRange := by
  intro d here
  have laid := overlay d here
  split at laid
  · exact laid.2 ▸ laid.1
  · exact laid ▸ standard_inRange d here

theorem load_inRange {source : Source} (loaded : load source = .ok s) : s.InRange := by
  rcases load_ok.mp loaded with ⟨-, rfl⟩ | ⟨bytes, -, ⟨ms, -, -, overlay⟩ | ⟨js, -, -, overlay⟩⟩
  · exact standard_inRange
  · exact overlay.inRange
  · exact overlay.inRange

theorem decoder_encode (inRange : s.InRange) : decoder.ofJson s.encode = .ok s := by
  let given : Json.Members := data.map fun d => (d.name, d.get s)
  have apart : (given.map (·.1)).Nodup := names_apart
  obtain ⟨os, same⟩ : ∃ os, Json.ofMembers given = .object os := ⟨_, rfl⟩
  have encoded : s.encode = .object os := same
  rw [encoded]
  refine (ofMembers_overlay (Json.ofMembers_ordered same).apart).mpr fun d here => ?_
  have found : find? d.name os = some (d.get s) := by
    rw [find?_ofMembers same, find?_reverse apart]
    exact find?_mem apart (List.mem_map.mpr ⟨d, here, rfl⟩)
  rw [found]
  exact ⟨inRange d here, rfl⟩

-- Settings are laid over the standard ones, whatever else there is and in whatever order: from an object, from a list,
-- from a text. They go round, and what is no good is no settings at all.
structure LaidOverStandard : Prop where
  object : ∀ (ms : Json.Members) (s : Settings), (ms.map (·.1)).Nodup →
    (decoder.ofJson (.object ms) = .ok s ↔ Overlay ms s)
  typed : ∀ ms : Json.Members, (ms.map (·.1)).Nodup → ((∃ s, decoder.ofJson (.object ms) = .ok s) ↔ Typed ms)
  items : ∀ (js : List Json) (s : Settings),
    decoder.ofJson (.list js) = .ok s ↔ js.length ≤ 8 ∧ Overlay (names.zip js) s
  objectText : ∀ (bytes : List UInt8) (os : Json.Members), Json.read bytes = .ok (.object os) →
    ∃ ms, run (Record.written deepest) bytes = .ok ms ∧ Json.ofMembers ms = .object os ∧
      ∀ s, load (.content bytes) = .ok s ↔ ((ms.filter record.knows).map (·.1)).Nodup ∧ Overlay ms s
  listText : ∀ (bytes : List UInt8) (js : List Json), Json.read bytes = .ok (.list js) →
    ∀ s, load (.content bytes) = .ok s ↔ js.length ≤ 8 ∧ Overlay (names.zip js) s
  around : ∀ s : Settings, s.InRange → decoder.ofJson s.encode = .ok s
  loads : ∀ (source : Source) (s : Settings), load source = .ok s ↔
    source = .absent ∧ s = standard ∨ ∃ bytes, source = .content bytes ∧ Spelled bytes s
  inRange : ∀ (source : Source) (s : Settings), load source = .ok s → s.InRange

theorem laid_over_standard : LaidOverStandard where
  object ms s := ofMembers_overlay
  typed ms apart := by
    rw [← typed_overlay apart]
    exact exists_congr fun s => ofMembers_overlay apart
  items js s := ofItems_overlay
  objectText bytes os read := by
    obtain ⟨ms, written, same⟩ := Record.read_written.mp read
    exact ⟨ms, written, same, fun s => load_object written⟩
  listText bytes js read _ := load_list read
  around s := decoder_encode
  loads source s := load_ok
  inRange source s := load_inRange

def narrow : Settings := { standard with popupWidth := 9 }

def narrowMembers : Json.Members := [("motto", .null), ("popupWidth", .whole 9)]

def narrowText : List UInt8 := Utf8.encode "\x7b\"motto\":null,\"popupWidth\":9\x7d".toList

def hasty : Settings := { standard with callTimeout := 5 }

theorem narrow_is_laid_over_standard :
    (narrowMembers.map (·.1)).Nodup ∧ decoder.ofJson (.object narrowMembers) = .ok narrow ∧
      Overlay narrowMembers narrow ∧ Typed narrowMembers ∧ narrow.InRange ∧ decoder.ofJson narrow.encode = .ok narrow ∧
      ∃ os ms, Json.read narrowText = .ok (.object os) ∧ Json.ofMembers ms = .object os ∧
        load (.content narrowText) = .ok narrow ∧ Overlay ms narrow ∧
      Json.read (Utf8.encode ['[', '5', ']']) = .ok (.list [.whole 5]) ∧ Overlay (names.zip [.whole 5]) hasty := by
  have laid := laid_over_standard
  have apart : (narrowMembers.map (·.1)).Nodup := by decide
  have decoded : decoder.ofJson (.object narrowMembers) = .ok narrow := rfl
  have loaded : (load (.content narrowText)).toOption = some narrow := by decide +kernel
  rw [toOption_ok] at loaded
  have inRange : narrow.InRange := laid.inRange _ _ loaded
  obtain ⟨os, read⟩ : ∃ os, Json.read narrowText = .ok (.object os) := by
    obtain ⟨ms, read⟩ : ∃ ms, (run (Record.written deepest) narrowText).toOption = some ms :=
      Option.isSome_iff_exists.mp (by decide +kernel)
    exact ⟨_, Record.read_written.mpr ⟨ms, toOption_ok.mp read, rfl⟩⟩
  obtain ⟨ms, -, same, loads⟩ := laid.objectText narrowText os read
  have five : Json.read (Utf8.encode ['[', '5', ']']) = .ok (.list [.whole 5]) := rfl
  have short : (load (.content (Utf8.encode ['[', '5', ']']))).toOption = some hasty := by decide +kernel
  rw [toOption_ok] at short
  exact ⟨apart, decoded, (laid.object _ _ apart).mp decoded, (laid.typed _ apart).mp ⟨_, decoded⟩, inRange,
    laid.around _ inRange, os, ms, read, same, loaded, ((loads _).mp loaded).2, five,
    ((laid.listText _ _ five _).mp short).2⟩

def twice : List UInt8 := Utf8.encode "\x7b\"lmsName\":\"A\",\"lmsName\":\"B\"\x7d".toList

-- It is not enough that each member is of the right type: no datum may be named again.
theorem named_twice_is_refused : ¬ ∀ bytes ms, run (Record.written deepest) bytes = .ok ms →
    (∀ d ∈ data, ∀ j, (d.name, j) ∈ ms → d.kind.Has j) → ∃ s, load (.content bytes) = .ok s := by
  intro always
  have texts : (run (Record.written deepest) twice).toOption.map (·.map fun m => (m.1, m.2.text?)) =
      some [("lmsName", some "A"), ("lmsName", some "B")] := by decide +kernel
  have refused : (load (.content twice)).toOption = none := by decide +kernel
  cases read : run (Record.written deepest) twice with
  | error fault =>
    rw [read] at texts
    cases texts
  | ok ms =>
    rw [read] at texts
    have texts := Option.some.inj texts
    have typed : ∀ d ∈ data, ∀ j, (d.name, j) ∈ ms → d.kind.Has j := by
      intro d here j given
      have kinds : ∀ d ∈ data, d.name = "lmsName" → d.kind = .text := by simp [data]
      have there : (d.name, j.text?) ∈ ms.map fun m => (m.1, m.2.text?) := List.mem_map.mpr ⟨_, given, rfl⟩
      simp only [texts, List.mem_cons, List.not_mem_nil, or_false, Prod.mk.injEq] at there
      have named : d.name = "lmsName" := there.elim (·.1) (·.1)
      rw [kinds d here named]
      cases j with
      | text t => exact ⟨t, rfl⟩
      | _ => simp [Json.text?] at there
    obtain ⟨s, loaded⟩ := always twice ms read typed
    rw [loaded] at refused
    cases refused

end Settings
end CourseFiles
