import CourseFiles.Proofs.Picker.Agreement
import CourseFiles.Proofs.Sitting.Within

namespace CourseFiles

def Pending.launch? : Pending → Option Launch
  | .listing l _ _ _ => some l
  | _ => none

namespace Sitting

def inFlight (s : Sitting) : List Launch := s.calls.filterMap (·.2.launch?)

-- What nothing has superseded.
def current (s : Sitting) : List Launch := s.inFlight.filter (·.generation == s.picker.generation)

def Lists (s : Sitting) (n : Nat) (l : Launch) : Prop :=
  ∃ arrival result after, s.calls.lookup n = some (.listing l arrival result after)

-- A call that is there and waits for no listing.
def Unlisted (s : Sitting) (n : Nat) : Prop := ∃ p, s.calls.lookup n = some p ∧ p.launch? = none

-- No two calls have the same number, and none has one that is still to be given.
structure Numbered (s : Sitting) : Prop where
  apart : (s.calls.map (·.1)).Nodup
  known : ∀ c ∈ s.calls, c.1 < s.nextCall

variable {w : Surroundings} {setup : Setup} {s s' : Sitting} {v : Option Task} {t : Task} {n m : Nat} {l : Launch}

theorem Numbered.fewer (numbered : s.Numbered) (calls : (s'.calls.map (·.1)).Sublist (s.calls.map (·.1)))
    (next : s'.nextCall = s.nextCall) : s'.Numbered := by
  refine ⟨numbered.apart.sublist calls, ?_⟩
  intro c here
  obtain ⟨d, there, same⟩ := List.mem_map.mp (calls.subset (List.mem_map.mpr ⟨c, here, rfl⟩))
  rw [next, ← same]
  exact numbered.known d there

theorem setCall_numbers : (s.setCall n p).calls.map (·.1) = s.calls.map (·.1) := by
  simp only [setCall, List.map_map]
  apply List.map_congr_left
  intro c _
  by_cases same : c.1 = n <;> simp [same]

theorem removeCall_numbers : ((s.removeCall n).calls.map (·.1)).Sublist (s.calls.map (·.1)) :=
  List.filter_sublist.map _

theorem Numbered.start (numbered : s.Numbered) : (s.start op).Numbered := by
  have fresh : s.nextCall ∉ s.calls.map (·.1) := by
    intro here
    obtain ⟨c, there, same⟩ := List.mem_map.mp here
    have before := numbered.known c there
    omega
  constructor
  · rw [show (s.start op).calls = s.calls ++ [(s.nextCall, .queued op)] from rfl, List.map_append]
    refine List.nodup_append.mpr ⟨numbered.apart, by simp, ?_⟩
    rintro k here j new rfl
    have same : k = s.nextCall := List.mem_singleton.mp new
    exact fresh (same ▸ here)
  · intro c here
    rcases List.mem_append.mp here with old | new
    · exact Nat.lt_succ_of_lt (numbered.known c old)
    · rw [List.mem_singleton.mp new]
      exact Nat.lt_succ_self _

theorem Move.numbered (move : Move w setup v s s') (numbered : s.Numbered) : s'.Numbered := by
  have beside (beside : Beside s s') : s'.Numbered := numbered.fewer (by rw [beside.calls]) beside.nextCall
  have ended {n : Nat} {r : CallResult} {s₁ : Sitting} (calls : s₁.calls = s.calls)
      (next : s₁.nextCall = s.nextCall) : (s₁.endCall n r).Numbered := by
    refine numbered.fewer ?_ next
    rw [← calls]
    exact removeCall_numbers
  have set {n : Nat} {p : Pending} {s₁ : Sitting} (calls : s₁.calls = s.calls)
      (next : s₁.nextCall = s.nextCall) : (s₁.setCall n p).Numbered := by
    refine numbered.fewer ?_ next
    rw [setCall_numbers, calls]
  cases move with
  | @conclude _ t a o on ends retry own =>
    cases t with
    | call n => exact ended rfl rfl
    | popup i => exact numbered.fewer (.refl _) rfl
  | begin => exact beside beginSession_beside
  | complete => exact beside completeSession_beside
  | cancel => exact beside cancelSession_beside
  | await | join | attend | launch => exact set rfl rfl
  | fail | list | arrive | done => exact ended rfl rfl
  | drop => exact numbered.fewer removeCall_numbers rfl
  | start => exact numbered.start
  | _ => exact numbered.fewer (.refl _) rfl

theorem initial_numbered : Numbered .initial := ⟨.nil, fun _ here => absurd here List.not_mem_nil⟩

theorem Reached.numbered (path : Reached w setup .initial s) : s.Numbered :=
  path.keeps initial_tuned initial_numbered (fun _ _ _ move => move.numbered) fun _ _ numbered =>
    numbered.fewer (.refl _) rfl

-- Only the arrival of its listing ends a call that waits for one.

theorem Stirs.unlisted (stirs : s.Stirs n) : s.Unlisted n := by
  obtain ⟨p, here, stirs⟩ := stirs
  cases p <;> first | exact ⟨_, here, rfl⟩ | cases stirs

theorem Plain.unlisted (plain : s.Plain setup n r) : s.Unlisted n := by
  rcases plain.stirs with stirs | ⟨_, _, waiting, _⟩
  · exact stirs.unlisted
  · exact ⟨_, waiting, rfl⟩

theorem Lists.other (lists : s.Lists m l) (unlisted : s.Unlisted n) : m ≠ n := by
  rintro rfl
  obtain ⟨_, _, _, waiting⟩ := lists
  obtain ⟨_, mine, idle⟩ := unlisted
  cases waiting.symm.trans mine
  cases idle

theorem Lists.removeCall (lists : s.Lists m l) (other : m ≠ n) : (s.removeCall n).Lists m l := by
  obtain ⟨arrival, result, after, waiting⟩ := lists
  exact ⟨arrival, result, after, (removed_other other).trans waiting⟩

theorem Lists.setCall (lists : s.Lists m l) (other : m ≠ n) : (s.setCall n p).Lists m l := by
  obtain ⟨arrival, result, after, waiting⟩ := lists
  exact ⟨arrival, result, after, (set_other other).trans waiting⟩

-- Once there was a launch, a dialog that waits has a call that will fill it.
def Awaited (s : Sitting) : Prop :=
  s.picker.closed = false → s.launches ≠ [] → s.picker.dialog = .fetching →
    ∃ m l, s.Lists m l ∧ l.generation = s.picker.generation

theorem Awaited.kept (awaited : s.Awaited) (picker : s'.picker = s.picker) (launches : s'.launches = s.launches)
    (lists : ∀ m l, s.Lists m l → l.generation = s.picker.generation → s'.Lists m l) : s'.Awaited := by
  intro opened launched fetching
  rw [picker] at opened fetching
  rw [launches] at launched
  obtain ⟨m, l, waiting, current⟩ := awaited opened launched fetching
  exact ⟨m, l, lists m l waiting current, picker ▸ current⟩

theorem Awaited.ended (awaited : s.Awaited) (unlisted : s.Unlisted n) (picker : s'.picker = s.picker)
    (launches : s'.launches = s.launches) (calls : s'.calls = (s.removeCall n).calls) : s'.Awaited := by
  refine awaited.kept picker launches fun m l lists _ => ?_
  rw [Lists, calls]
  exact lists.removeCall (lists.other unlisted)

theorem Awaited.filled {d : Dialog} (filled : s.picker.dialog = d) (other : d ≠ .fetching) : s.Awaited :=
  fun _ _ fetching => absurd (filled.symm.trans fetching) other

theorem dialogOf_filled (result : Except ListingError Listing) : Picker.dialogOf result ≠ .fetching := by
  cases result with
  | ok files => simp [Picker.dialogOf]
  | error e =>
    simp only [Picker.dialogOf]
    split <;> simp

theorem arrive_filled {p : Picker} (current : p.generation = l.generation) :
    (p.arrive l result).dialog = Picker.dialogOf result := by
  rw [Picker.arrive, if_pos current]
  rfl

theorem Awaited.failed (awaited : s.Awaited) (unlisted : s.Unlisted n) :
    (endCall n r { s with picker := s.picker.failed generation }).Awaited := by
  unfold Picker.failed
  split
  · exact awaited.ended unlisted rfl rfl rfl
  · exact Awaited.filled (d := .authorizing) rfl (by simp)

theorem Awaited.arrive (awaited : s.Awaited)
    (waiting : s.calls.lookup n = some (.listing l arrival result after)) :
    (endCall n after { s with picker := s.picker.arrive l result }).Awaited := by
  by_cases current : s.picker.generation = l.generation
  · exact Awaited.filled (arrive_filled current) (dialogOf_filled result)
  · rw [Picker.arrive, if_neg current]
    refine awaited.kept rfl rfl ?_
    intro m k lists fits
    apply lists.removeCall
    rintro rfl
    obtain ⟨_, _, _, here⟩ := lists
    cases here.symm.trans waiting
    exact current fits.symm

theorem Move.awaited (move : Move w setup (some t) s s') (awaited : s.Awaited) : s'.Awaited := by
  have beside (beside : Beside s s') : s'.Awaited := by
    refine awaited.kept beside.picker beside.launches fun m l lists _ => ?_
    rwa [Lists, beside.calls]
  have set {n : Nat} {p : Pending} (unlisted : s.Unlisted n) : (s.setCall n p).Awaited :=
    awaited.kept rfl rfl fun _ _ lists _ => lists.setCall (lists.other unlisted)
  cases move with
  | conclude on ends retry own =>
    cases t with
    | call n => exact awaited.ended (own n rfl).stirs.unlisted rfl rfl rfl
    | popup i => exact awaited.kept rfl rfl fun _ _ lists _ => lists
  | begin => exact beside beginSession_beside
  | complete => exact beside completeSession_beside
  | cancel => exact beside cancelSession_beside
  | await on own => exact set own.stirs.unlisted
  | join live asked | attend live asking asked => exact set ⟨_, asked, rfl⟩
  | authorize => exact Awaited.filled (d := .authorizing) rfl (by simp)
  | fail why => exact awaited.failed why.stirs.unlisted
  | @launch p l delay result n _ after f change asked reply slow =>
    have launches := Picker.relist_launches change.keeps asked
    obtain ⟨q, mine, _⟩ := change.stirs
    intro _ _ _
    refine ⟨n, l, ⟨s.now + delay, result, after, ?_⟩, launches.own⟩
    rw [set_lookup]
    exact congrArg (Option.map fun _ => Pending.listing l (s.now + delay) result after) mine
  | list change asked reply =>
    have launches := Picker.relist_launches change.keeps asked
    exact Awaited.filled (arrive_filled launches.own.symm) (dialogOf_filled _)
  | arrive waiting time => exact awaited.arrive waiting
  | done plain => exact awaited.ended plain.unlisted rfl rfl rfl
  | _ => exact awaited.kept rfl rfl fun _ _ lists _ => lists

-- No call is taken away before it has ended.
def Undropped (_ : Sitting) (a : Act) : Prop := ∀ n, a ≠ .abort n

theorem Outside.awaited (outside : Outside s a s') (fits : s.Undropped a) (awaited : s.Awaited) : s'.Awaited := by
  cases outside with
  | aside aside =>
    refine awaited.kept aside.picker aside.launches fun m l lists _ => ?_
    rwa [Lists, aside.calls]
  | @start op =>
    refine awaited.kept rfl rfl ?_
    rintro m l ⟨arrival, result, after, waiting⟩ _
    exact ⟨arrival, result, after, started_other waiting⟩
  | drop => exact absurd rfl (fits _)
  | select =>
    unfold Sitting.select Picker.select
    split <;> exact awaited
  | close aside =>
    intro opened
    rw [aside.picker] at opened
    cases opened

theorem Within.awaited (path : Within Undropped w setup .initial s) : s.Awaited := by
  refine path.keeps initial_tuned (fun _ launched => absurd rfl launched) ?_ ?_
  · intro t s₁ s₂ _ _ moves
    exact Moves.keeps moves fun _ _ move => move.awaited
  · intro a s₁ s₂ _ fits outside
    exact outside.awaited fits

theorem mem_inFlight : l ∈ s.inFlight ↔ ∃ n arrival result after, (n, .listing l arrival result after) ∈ s.calls := by
  rw [inFlight, List.mem_filterMap]
  constructor
  · intro flying
    obtain ⟨⟨n, p⟩, here, lists⟩ := flying
    cases p with
    | listing k arrival result after =>
      cases lists
      exact ⟨n, arrival, result, after, here⟩
    | _ => cases lists
  · intro waiting
    obtain ⟨n, arrival, result, after, here⟩ := waiting
    exact ⟨_, here, rfl⟩

theorem Lists.inFlight (lists : s.Lists n l) : l ∈ s.inFlight := by
  obtain ⟨arrival, result, after, waiting⟩ := lists
  exact mem_inFlight.mpr ⟨n, arrival, result, after, Lookup.mem waiting⟩

theorem mem_current : l ∈ s.current ↔
    (∃ n arrival result after, (n, .listing l arrival result after) ∈ s.calls) ∧
      l.generation = s.picker.generation := by
  simp only [current, List.mem_filter, mem_inFlight, beq_iff_eq]

-- No two listings on their way have the same generation.
theorem inFlight_apart (agrees : Agrees w setup s) (numbered : s.Numbered) :
    s.inFlight.Pairwise (·.generation ≠ ·.generation) := by
  have apart : s.calls.Pairwise fun c d => c.1 ≠ d.1 := List.pairwise_map.mp numbered.apart
  refine List.pairwise_filterMap.mpr (apart.imp_of_mem ?_)
  rintro ⟨n, p⟩ ⟨m, q⟩ here there other l lists k lists' same
  cases p <;> cases lists
  cases q <;> cases lists'
  exact other (agrees.alone _ _ _ _ _ _ _ _ _ _ here there same)

theorem current_cases (agrees : Agrees w setup s) (numbered : s.Numbered) :
    s.current = [] ∨ ∃ l, s.current = [l] := by
  have apart : s.current.Pairwise (·.generation ≠ ·.generation) := (inFlight_apart agrees numbered).filter _
  cases listed : s.current with
  | nil => exact .inl rfl
  | cons l rest =>
    cases rest with
    | nil => exact .inr ⟨l, rfl⟩
    | cons k rest =>
      rw [listed] at apart
      have fits : l.generation = s.picker.generation := (mem_current.mp (by rw [listed]; simp)).2
      have fits' : k.generation = s.picker.generation := (mem_current.mp (by rw [listed]; simp)).2
      exact absurd (fits.trans fits'.symm) (List.rel_of_pairwise_cons apart List.mem_cons_self)

theorem current_fetching (agrees : Agrees w setup s) (listed : l ∈ s.current) : s.picker.dialog = .fetching := by
  obtain ⟨⟨n, arrival, result, after, here⟩, fits⟩ := mem_current.mp listed
  exact agrees.fetching _ _ _ _ _ here fits

-- While the picker is open, and once it has listed, the dialog waits exactly as long as one listing on its way is
-- current; otherwise none is. All that was ever launched differs in its generation, so nothing is shown twice, and when
-- nothing is on its way the dialog shows something.
theorem waits_for_one_listing (path : Within Undropped w setup .initial s) (opened : s.picker.closed = false)
    (launched : s.launches ≠ []) :
    (s.picker.dialog = .fetching ↔ ∃ l, s.current = [l]) ∧
    (s.picker.dialog ≠ .fetching → s.current = []) ∧
    s.launches.Pairwise (·.generation ≠ ·.generation) ∧
    (∀ l ∈ s.inFlight, l ∈ s.launches) ∧
    (s.inFlight = [] → (∃ files, s.picker.dialog = .fetched files) ∨ s.picker.dialog = .authorizing ∨
      ∃ e, s.picker.dialog = .error e) := by
  have agrees := path.reached.agrees
  have awaited := path.awaited opened launched
  have single := current_cases agrees path.reached.numbered
  have filled (other : s.picker.dialog ≠ .fetching) : s.current = [] := by
    apply List.eq_nil_iff_forall_not_mem.mpr
    intro l listed
    exact other (current_fetching agrees listed)
  have waits (fetching : s.picker.dialog = .fetching) : ∃ l, l ∈ s.current := by
    obtain ⟨n, l, ⟨arrival, result, after, waiting⟩, fits⟩ := awaited fetching
    exact ⟨l, mem_current.mpr ⟨⟨n, arrival, result, after, Lookup.mem waiting⟩, fits⟩⟩
  refine ⟨⟨?_, ?_⟩, filled, agrees.ordered.imp Nat.ne_of_lt, ?_, ?_⟩
  · intro fetching
    obtain ⟨l, listed⟩ := waits fetching
    rcases single with none | one
    · rw [none] at listed
      cases listed
    · exact one
  · rintro ⟨l, one⟩
    exact current_fetching agrees (l := l) (by rw [one]; exact List.mem_cons_self)
  · intro l here
    obtain ⟨⟨n, p⟩, there, lists⟩ := List.mem_filterMap.mp here
    cases p <;> cases lists
    obtain ⟨earlier, later, split, _⟩ := agrees.pending _ _ _ _ _ there
    rw [split]
    simp
  · intro none
    cases shown : s.picker.dialog with
    | fetching =>
      obtain ⟨l, listed⟩ := waits shown
      rw [current, none] at listed
      cases listed
    | authorizing => exact .inr (.inl rfl)
    | fetched files => exact .inl ⟨files, rfl⟩
    | error e => exact .inr (.inr ⟨e, rfl⟩)

-- Two listings are on their way, both of the root; the first was superseded.
def listedTwice : Sitting :=
  acts { Surroundings.calm with listing := fun _ _ => (5, .ok []) } .plain
    [.start .start, .turn (.call 0), .start .reload, .turn (.call 1)] .initial

theorem listedTwice_waits_for_second : listedTwice.inFlight = [⟨1, "/files"⟩, ⟨2, "/files"⟩] ∧
    (∃ l, listedTwice.current = [l]) ∧ listedTwice.picker.dialog = .fetching := by
  have path : Within Undropped _ .plain .initial listedTwice :=
    acts_always _ (by simp [Undropped])
  have waits := (waits_for_one_listing path rfl (by decide)).1
  exact ⟨rfl, waits.mp rfl, rfl⟩

end Sitting
end CourseFiles
