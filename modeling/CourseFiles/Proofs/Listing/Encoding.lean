import CourseFiles.Proofs.Listing.RoundTrip
import CourseFiles.Proofs.Service.Judgement

namespace CourseFiles

open Json.Members

-- A number that fits 64 bits with a sign, or any text.
def ItemId.Fits : ItemId → Prop
  | .number n => -Int.pow 2 63 ≤ n ∧ n < Int.pow 2 63
  | .text _ => True

theorem ItemId.decoder_encode {d : ItemId} (fits : d.Fits) : ItemId.decoder.ofJson d.encode = .ok d := by
  cases d with
  | number n =>
    have accepted : ItemId.ofJson? (.whole n) = some (.number n) := if_pos fits
    simp only [ItemId.decoder, Decoder.untagged, ItemId.encode, accepted]
  | text s => rfl

theorem ItemId.gives_fits (given : ItemId.decoder.Gives d) : d.Fits := by
  have accepted {j : Json} (accepted : ItemId.ofJson? j = some d) : d.Fits := by
    unfold ItemId.ofJson? at accepted
    split at accepted
    · split at accepted <;> cases accepted
      assumption
    · cases accepted
      trivial
    · cases accepted
  rcases given with ⟨j, decoded⟩ | ⟨levels, c, e, read⟩
  · simp only [ItemId.decoder, Decoder.untagged] at decoded
    split at decoded <;> cases decoded
    exact accepted ‹_›
  · obtain ⟨j, f, -, read⟩ := Reader.reads_bind.mp read
    split at read
    · rename_i picked
      obtain ⟨rfl, -⟩ := Reader.reads_pure.mp read
      dsimp only at picked
      split at picked <;> cases picked
      exact accepted ‹_›
    · exact absurd read Reader.reads_mismatch

theorem ItemKind.decoder_name (k : ItemKind) : ItemKind.decoder.ofJson (.text k.name) = .ok k := by
  cases k <;> rfl

namespace Item

-- The entries that there are: those that were decoded, and those that are put together of an id that fits, and of
-- other members that have no field.
inductive Made (i : Item) : Prop
  | decoded (given : decoder.Gives i)
  | built (id : ItemId.Fits i.id) (ordered : Ordered i.extras)
      (apart : ∀ m ∈ i.extras, m.1 ∉ ["type", "id", "display_name", "updated_at", "contents"])

variable {i j : Item} {ms : Json.Members}

theorem keeps_fits : record.Keeps fun i => i.id.Fits := by
  refine ⟨trivial, ?_, ?_⟩
  · intro m here change given i fits
    simp only [record, List.mem_cons, List.not_mem_nil, or_false] at here
    rcases here with rfl | rfl | rfl | rfl | rfl
    all_goals obtain ⟨v, possible, rfl⟩ := Decoder.gives_map.mp given
    · exact fits
    · exact ItemId.gives_fits possible
    · exact fits
    · exact fits
    · exact fits
  · intro put kept name j i _ fits
    cases kept
    exact fits

theorem Made.sound (made : Made i) : i.Sound := by
  cases made with
  | decoded given => exact keeps_sound.gives given
  | built id ordered apart =>
    refine ⟨ordered, ?_⟩
    intro name known
    apply find?_absent
    intro here
    obtain ⟨m, there, rfl⟩ := List.mem_map.mp here
    exact apart m there (by simpa using known_cases known)

theorem Made.fits (made : Made i) : i.id.Fits := by
  cases made with
  | decoded given => exact keeps_fits.gives given
  | built id ordered apart => exact id

-- One object fills no two entries.
theorem Filled.unique (one : Filled ms i) (other : Filled ms j) : i = j := by
  have extras : i.extras = j.extras := by
    apply one.sound.ordered.ext other.sound.ordered
    intro name
    by_cases unknown : record.find? name = none
    · rw [one.extras name unknown, other.extras name unknown]
    · rw [one.sound.extra name unknown, other.sound.extra name unknown]
  have kind := Record.laid_unique one.kind other.kind
  have id := Record.laid_unique one.id other.id
  have displayName := Record.laid_unique one.displayName other.displayName
  have updatedAt := Record.laid_unique one.updatedAt other.updatedAt
  have contents := Record.laid_unique one.contents other.contents
  cases i
  cases j
  simp_all

-- An object that fills an entry is decoded to it.
theorem Filled.fits (filled : Filled ms i) (apart : (ms.map (·.1)).Nodup) : ∀ m ∈ ms, record.Fits m := by
  rintro ⟨name, j⟩ here k found
  have named : k.name = name := Record.found_name found
  have mine := List.mem_of_find?_eq_some (show record.members.find? _ = some k from found)
  subst named
  simp only [record, List.mem_cons, List.not_mem_nil, or_false] at mine
  rcases mine with rfl | rfl | rfl | rfl | rfl
  · exact Record.laid_accepted filled.kind apart here
  · exact Record.laid_accepted filled.id apart here
  · exact Record.laid_accepted filled.displayName apart here
  · exact Record.laid_accepted filled.updatedAt apart here
  · exact Record.laid_accepted filled.contents apart here

theorem decoded_iff (ordered : Ordered ms) : decoder.ofJson (.object ms) = .ok i ↔ Filled ms i := by
  refine ⟨decoded_filled ordered, ?_⟩
  intro filled
  obtain ⟨j, fill⟩ := Record.fill_fits (a := record.blank) (filled.fits ordered.apart)
  have decoded : decoder.ofJson (.object ms) = .ok j := (Record.ofMembers_fill members_optional).mpr fill
  rw [decoded, filled.unique (decoded_filled ordered decoded)]

-- What is written of an entry fills that entry.
theorem Sound.encode_filled (sound : i.Sound) (fits : i.id.Fits) (same : i.encode = .object ms) : Filled ms i := by
  have known {name : String} (known : record.find? name ≠ none) : find? name ms = find? name i.own := by
    rw [← sound.known known, same]
    rfl
  constructor
  · rw [known (by decide)]
    exact ItemKind.decoder_name i.kind
  · rw [known (by decide)]
    exact ItemId.decoder_encode fits
  · rw [known (by decide)]
    exact text_ok.mpr rfl
  · rw [known (by decide), own_updatedAt]
    cases i.updatedAt <;> rfl
  · rw [known (by decide), own_contents]
    cases i.contents <;> rfl
  · intro name unknown
    rw [← sound.unknown unknown, same]
    rfl
  · exact sound

theorem Made.decoded_encode (made : Made i) : decoder.ofJson i.encode = .ok i := by
  obtain ⟨ms, same⟩ : ∃ ms, i.encode = .object ms := ⟨_, rfl⟩
  have ordered : Ordered ms := Json.ofMembers_ordered same
  rw [same]
  exact (decoded_iff ordered).mpr (made.sound.encode_filled made.fits same)

end Item

theorem Listing.decoder_encode {l : Listing} (made : ∀ i ∈ l, Item.Made i) :
    Listing.decoder.ofJson l.encode = .ok l := by
  apply Service.mapM_ok.mpr
  rw [List.forall₂_map_left_iff, List.forall₂_same]
  intro i here
  exact (made i here).decoded_encode

-- A list that was decoded, from a value or from a text, is one of such entries.
theorem Listing.gives_made (given : Listing.decoder.Gives l) : ∀ i ∈ l, Item.Made i := by
  rcases given with ⟨v, decoded⟩ | ⟨levels, c, d, read⟩
  · cases v with
    | list js =>
      have items : List.Forall₂ (fun j i => Item.decoder.ofJson j = .ok i) js l := Service.mapM_ok.mp decoded
      induction items with
      | nil => simp
      | cons first _ ih => exact List.forall_mem_cons.mpr ⟨.decoded (.inl ⟨_, first⟩), ih (Service.mapM_ok.mpr ‹_›)⟩
    | _ => cases decoded
  · simp only [Listing.decoder, Decoder.list, Reader.reads_blanks] at read
    split at read
    · exact absurd read Reader.reads_failNext
    · obtain ⟨deeper, -, read⟩ := Record.reads_nested.mp read
      obtain ⟨e, read, -⟩ := Reader.reads_list.mp read
      exact Reader.Reads.allItems (fun one => .decoded (.inr ⟨_, _, _, one⟩)) read
    · exact absurd read Reader.reads_wrongKind

namespace Item

-- Every entry, and every list of entries, comes back from what is written of it; so to decode what was written changes
-- nothing of it when it is written again.
theorem encoded_comes_back :
    (∀ i, Made i → decoder.ofJson i.encode = .ok i) ∧
    (∀ l : Listing, (∀ i ∈ l, Made i) → Listing.decoder.ofJson l.encode = .ok l) ∧
    (∀ v w, encode <$> decoder.ofJson v = .ok w → encode <$> decoder.ofJson w = .ok w) ∧
    (∀ v w, Listing.encode <$> Listing.decoder.ofJson v = .ok w →
      Listing.encode <$> Listing.decoder.ofJson w = .ok w) := by
  refine ⟨fun _ made => made.decoded_encode, fun _ made => Listing.decoder_encode made, ?_, ?_⟩
  · intro v w written
    obtain ⟨i, decoded, rfl⟩ := map_ok.mp written
    exact map_ok.mpr ⟨i, Made.decoded_encode (.decoded (.inl ⟨v, decoded⟩)), rfl⟩
  · intro v w written
    obtain ⟨l, decoded, rfl⟩ := map_ok.mp written
    exact map_ok.mpr ⟨l, Listing.decoder_encode (Listing.gives_made (.inl ⟨v, decoded⟩)), rfl⟩

-- An entry whose text id spells a number, listed after one that is numbered.
def numberedQuiz : Item := ⟨.file, .number 42, "Quiz", none, none, [("points", .whole 10)]⟩

def namedQuiz : Item := ⟨.folder, .text "42", "Quiz", some "2019-05-09", some ⟨"/quizzes"⟩, [("locked", .null)]⟩

theorem quizzes_stay_apart : Made numberedQuiz ∧ Made namedQuiz ∧
    Listing.decoder.ofJson (Listing.encode [numberedQuiz, namedQuiz]) = .ok [numberedQuiz, namedQuiz] := by
  have numbered : Made numberedQuiz :=
    .built ⟨by decide, by decide⟩ (List.pairwise_singleton _ _) (by simp [numberedQuiz])
  have named : Made namedQuiz := .built trivial (List.pairwise_singleton _ _) (by simp [namedQuiz])
  exact ⟨numbered, named, encoded_comes_back.2.1 _ (by simp [numbered, named])⟩

end Item
end CourseFiles
