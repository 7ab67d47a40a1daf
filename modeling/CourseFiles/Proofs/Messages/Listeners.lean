import CourseFiles.Proofs.Messages.Delivery
import CourseFiles.Proofs.Messages.Replies
import CourseFiles.Proofs.Picker.InFlight
import Mathlib.Data.List.Sigma

namespace CourseFiles

open History

-- A request is posted right after its listener was subscribed.
def Preceded : Nat × Happening → History → Prop
  | (now, .posted t message origin _), h => ∃ a older, h = (now, .listened t a) :: older ∧ a.origin = origin ∧
      ∃ r : Request, r.id = a.id ∧ message = r.encode
  | _, _ => True

namespace Bus

variable {b : Bus} {k l : Nat}

def numbers (b : Bus) : List Nat := b.listeners.map (·.1)

@[simp] theorem numbers_subscribe : b.subscribe.2.numbers = b.numbers ++ [b.next] := by simp [numbers, subscribe]

@[simp] theorem numbers_dispatch : (b.dispatch m).numbers = b.numbers := by
  simp [numbers, dispatch, Function.comp_def]

@[simp] theorem numbers_setQueue : (b.setQueue k queue).numbers = b.numbers := by
  simp only [numbers, setQueue, List.map_map]
  apply List.map_congr_left
  intro entry _
  simp only [Function.comp_apply]
  split <;> simp_all

@[simp] theorem numbers_receive : (b.receive k).2.numbers = b.numbers := by
  unfold receive
  split
  · exact numbers_setQueue
  · rfl

@[simp] theorem mem_drop : l ∈ (b.drop k).numbers ↔ l ∈ b.numbers ∧ l ≠ k := by
  simp only [numbers, drop, List.mem_map, List.mem_filter, bne_iff_ne]
  constructor
  · intro there
    obtain ⟨entry, ⟨here, other⟩, rfl⟩ := there
    exact ⟨⟨entry, here, rfl⟩, other⟩
  · intro there
    obtain ⟨⟨entry, here, rfl⟩, other⟩ := there
    exact ⟨entry, ⟨here, other⟩, rfl⟩

theorem drop_numbers : (b.drop k).numbers.Sublist b.numbers := List.filter_sublist.map _

theorem mem_numbers : l ∈ b.numbers ↔ b.queue? l ≠ none := by
  rw [numbers, ← queue?_isSome, Option.isSome_iff_ne_none]

end Bus

namespace Wire

-- The listeners are those of the others and one for each attempt that is awaited. An attempt that is not has ended.
structure Counted (others : List Nat) (x : Wire) : Prop where
  nodup : x.bus.numbers.Nodup
  apart : ∀ time t a, (time, .listened t a) ∈ x.history → a.listener ∉ others
  known : ∀ l ∈ others, l < x.bus.next
  listens : ∀ l, l ∈ x.bus.numbers ↔ l ∈ others ∨ ∃ t a, awaited t x.history = some a ∧ a.listener = l
  ended : ∀ newer time t a older, x.history = newer ++ (time, .listened t a) :: older →
    awaited t x.history = some a ∨ Ended t a newer
  preceded : Every Preceded x.history

variable {x y : Wire} {b c : Bus} {h k : History} {now : Nat} {t : Task} {a : Attempt} {others : List Nat} {l : Nat}

theorem ends_unposted {e : Happening} (ends : e.ends t = true) : Preceded (now, e) h := by
  cases e <;> first | exact trivial | cases ends

theorem listened_before {e : Happening} (other : ∀ t a, e ≠ .listened t a)
    (split : (now, e) :: h = newer ++ (time, .listened t a) :: older) :
    ∃ later, newer = (now, e) :: later ∧ h = later ++ (time, .listened t a) :: older := by
  rcases List.cons_eq_append_iff.mp split with ⟨_, same⟩ | ⟨later, grown, rest⟩
  · cases same
    exact absurd rfl (other t a)
  · exact ⟨later, grown, rest⟩

-- The bus is the same but for the queues, and what was recorded is no concern of those who wait.
theorem Counted.skip (counted : Counted others ⟨b, h⟩) (numbers : c.numbers = b.numbers) (next : c.next = b.next)
    {e : Happening} (other : ∀ t, e.concerns t = false) : Counted others ⟨c, (now, e) :: h⟩ := by
  have unheard (t : Task) (a : Attempt) : e ≠ .listened t a := by
    intro same
    subst same
    simpa [Happening.concerns] using other t
  have awaits (t : Task) : awaited t ((now, e) :: h) = awaited t h := awaited_skip (other t)
  constructor
  · exact numbers ▸ counted.nodup
  · intro time t a here
    exact counted.apart time t a (listened_cons unheard time t a here)
  · intro l here
    exact next ▸ counted.known l here
  · intro l
    simp only [numbers, awaits]
    exact counted.listens l
  · intro newer time t a older split
    obtain ⟨later, rfl, before⟩ := listened_before unheard split
    rw [awaits]
    exact (counted.ended later time t a older before).imp id Ended.later
  · refine ⟨?_, counted.preceded⟩
    cases e with
    | posted t => simpa [Happening.concerns] using other t
    | _ => trivial

theorem Counted.queues (counted : Counted others ⟨b, h⟩) (numbers : c.numbers = b.numbers) (next : c.next = b.next) :
    Counted others ⟨c, h⟩ where
  nodup := numbers ▸ counted.nodup
  apart := counted.apart
  known l here := next ▸ counted.known l here
  listens l := numbers ▸ counted.listens l
  ended := counted.ended
  preceded := counted.preceded

theorem Counted.ask (counted : Counted others ⟨b, h⟩) (wired : Wired ⟨b, h⟩) (free : awaited t h = none) {r : Request} :
    Counted others ⟨b.subscribe.2,
      (now, .posted t r.encode origin reason) :: (now, .listened t ⟨b.next, origin, r.id, now + timeout⟩) :: h⟩ := by
  have absent : b.next ∉ b.numbers := by
    intro there
    exact Bus.mem_numbers.mp there (wired.unborn b.next (Nat.le_refl _))
  have other {u : Task} {c : Attempt} (on : awaited u h = some c) : t ≠ u := by
    rintro rfl
    cases free.symm.trans on
  constructor
  case nodup =>
    show b.subscribe.2.numbers.Nodup
    rw [Bus.numbers_subscribe, ← List.concat_eq_append]
    exact List.Nodup.concat absent counted.nodup
  case apart =>
    intro time u c here
    rcases List.mem_cons.mp (listened_cons (by simp) time u c here) with new | old
    · cases new
      intro taken
      exact Nat.lt_irrefl _ (counted.known _ taken)
    · exact counted.apart time u c old
  case known => exact fun l here => Nat.lt_succ_of_lt (counted.known l here)
  case listens =>
    intro l
    show l ∈ b.subscribe.2.numbers ↔ _
    rw [Bus.numbers_subscribe, List.mem_append, counted.listens l, List.mem_singleton]
    constructor
    · intro there
      rcases there with (theirs | ⟨u, c, on, rfl⟩) | rfl
      · exact .inl theirs
      · exact .inr ⟨u, c, (asked_apart (other on)).1.trans on, rfl⟩
      · exact .inr ⟨t, _, asked_own, rfl⟩
    · intro there
      rcases there with theirs | ⟨u, c, on, rfl⟩
      · exact .inl (.inl theirs)
      · by_cases same : t = u
        · subst same
          cases asked_own.symm.trans on
          exact .inr rfl
        · rw [(asked_apart same).1] at on
          exact .inl (.inr ⟨u, c, on, rfl⟩)
  case ended =>
    intro newer time u c older split
    obtain ⟨later, rfl, first⟩ := listened_before (by simp) split
    rcases List.cons_eq_append_iff.mp first with ⟨_, same⟩ | ⟨rest, rfl, before⟩
    · cases same
      exact .inl asked_own
    · rcases counted.ended rest time u c older before with on | ended
      · exact .inl ((asked_apart (other on)).1.trans on)
      · exact .inr ended.later.later
  case preceded => exact ⟨⟨_, _, rfl, rfl, r, rfl, rfl⟩, trivial, counted.preceded⟩

-- A task is done with its attempt, and its listener is gone with it; those of the others stay.
theorem Counted.done (counted : Counted others ⟨b, h⟩) (wired : Wired ⟨b, h⟩) (held : Option Attempt) {e : Happening}
    (ends : e.ends t = true) (all : ∀ a, awaited t h = some a → held = some a)
    (own : ∀ a, held = some a → ∃ time, (time, .listened t a) ∈ h)
    (ended : ∀ a newer, awaited t h = some a → Ended t a ((now, e) :: newer)) :
    Counted others ⟨held.elim b fun a => b.drop a.listener, (now, e) :: h⟩ := by
  have unheard (u : Task) (c : Attempt) : e ≠ .listened u c := by
    intro same
    subst same
    cases ends
  have next : (held.elim b fun a => b.drop a.listener).next = b.next := by cases held <;> rfl
  have numbers (l : Nat) : l ∈ (held.elim b fun a => b.drop a.listener).numbers ↔
      l ∈ b.numbers ∧ ∀ a, held = some a → l ≠ a.listener := by
    cases held <;> simp
  have awaits (u : Task) (other : t ≠ u) : awaited u ((now, e) :: h) = awaited u h :=
    awaited_skip (Happening.ends_apart ends other)
  constructor
  case nodup =>
    cases held with
    | none => exact counted.nodup
    | some a => exact counted.nodup.sublist Bus.drop_numbers
  case apart => exact fun time u c here => counted.apart time u c (listened_cons unheard time u c here)
  case known => exact fun l here => next ▸ counted.known l here
  case listens =>
    intro l
    rw [numbers, counted.listens l]
    constructor
    · intro there
      obtain ⟨theirs | ⟨u, c, on, rfl⟩, kept⟩ := there
      · exact .inl theirs
      · refine .inr ⟨u, c, ?_, rfl⟩
        have other : t ≠ u := by
          intro same
          subst same
          exact kept c (all c on) rfl
        rw [awaits u other]
        exact on
    · intro there
      rcases there with theirs | ⟨u, c, on, rfl⟩
      · refine ⟨.inl theirs, ?_⟩
        intro a mine same
        obtain ⟨time, here⟩ := own a mine
        exact counted.apart time t a here (same ▸ theirs)
      · obtain ⟨other, on⟩ := awaited_before ends on
        refine ⟨.inr ⟨u, c, on, rfl⟩, ?_⟩
        intro a mine
        exact wired.listener (own a mine) on other
  case ended =>
    intro newer time u c older split
    obtain ⟨later, rfl, earlier⟩ := listened_before unheard split
    rcases counted.ended later time u c older earlier with on | before
    · by_cases same : t = u
      · subst same
        exact .inr (ended c later on)
      · rw [awaits u same]
        exact .inl on
    · exact .inr before.later
  case preceded => exact ⟨ends_unposted ends, counted.preceded⟩

theorem Counted.conclude (counted : Counted others ⟨b, h⟩) (wired : Wired ⟨b, h⟩) (on : awaited t h = some a) :
    Counted others ⟨b.drop a.listener, reported now t o ((now, .concluded t a o) :: h)⟩ := by
  have concluded : Counted others ⟨b.drop a.listener, (now, .concluded t a o) :: h⟩ := by
    refine counted.done wired (some a) (t := t) (by simp [Happening.ends]) ?_ ?_ ?_
    · intro c mine
      exact on.symm.trans mine
    · intro c mine
      cases mine
      exact awaited_listened on
    · intro c newer mine
      cases on.symm.trans mine
      exact ⟨now, .inl ⟨o, List.mem_cons_self⟩⟩
  cases t with
  | call n => exact concluded.skip rfl rfl fun _ => rfl
  | popup i => exact concluded

-- What ends an attempt but is not its own conclusion is the end of what it was made for.
theorem ends_ended {e : Happening} (ends : e.ends t = true) (unsaid : ∀ u a o, e ≠ .concluded u a o) :
    Ended t a ((now, e) :: h) := by
  cases e with
  | concluded u a o => exact absurd rfl (unsaid u a o)
  | settled i o =>
    have mine : .popup i = t := by simpa [Happening.ends] using ends
    exact ⟨now, .inr (.inl ⟨i, o, mine.symm, List.mem_cons_self⟩)⟩
  | aborted n =>
    have mine : .call n = t := by simpa [Happening.ends] using ends
    exact ⟨now, .inr (.inr ⟨n, mine.symm, List.mem_cons_self⟩)⟩
  | _ => cases ends

theorem Signal.counted (signal : Signal now x y) (wired : Wired x) (counted : Counted others x) : Counted others y := by
  cases signal with
  | mute silent => exact counted.skip rfl rfl (mute_skips silent).1
  | skip => exact counted.skip Bus.numbers_setQueue rfl fun _ => rfl
  | resume => exact counted.skip rfl rfl fun _ => rfl
  | deliver => exact counted.skip Bus.numbers_dispatch rfl fun _ => rfl
  | ask free => exact counted.ask wired free
  | refused on | answered on | lapsed on => exact counted.conclude wired on
  | hangUp ends unsaid all own => exact counted.done wired _ ends all own fun a newer _ => ends_ended ends unsaid

theorem initial_counted : Counted [] Sitting.initial.wire := by
  refine ⟨.nil, by simp, by simp, ?_, ?_, trivial⟩
  · simp [Sitting.wire, Sitting.initial, Bus.numbers, Bus.empty, awaited]
  · intro newer time t a older split
    cases newer <;> cases split

-- The others use the bus; whoever awaits a reply finds its queue as it was.
theorem Wired.foreign (wired : Wired ⟨b, h⟩) (next : b.next ≤ c.next) (unborn : ∀ l, c.next ≤ l → c.queue? l = none)
    (queue : ∀ t a, awaited t h = some a → c.queue? a.listener = b.queue? a.listener) : Wired ⟨c, h⟩ where
  fresh time t a here := Nat.lt_of_lt_of_le (wired.fresh time t a here) next
  own := wired.own
  unborn := unborn
  queue t a on := queue t a on ▸ wired.queue t a on
  unread t a on := by
    rw [Attempt.unread, queue t a on]
    exact wired.unread t a on
  refused := wired.refused

theorem Wired.subscribed (wired : Wired ⟨b, h⟩) : Wired ⟨b.subscribe.2, h⟩ := by
  apply wired.foreign (Nat.le_succ _)
  · intro l beyond
    have beyond : b.next + 1 ≤ l := beyond
    rw [Bus.queue?_subscribe, wired.unborn l (Nat.le_of_succ_le beyond), if_neg (by omega)]
    rfl
  · intro t a on
    obtain ⟨queue, here, _⟩ := wired.queue t a on
    have here : b.queue? a.listener = some queue := here
    rw [Bus.queue?_subscribe, here]
    rfl

theorem Counted.other (counted : Counted others ⟨b, h⟩) (own : l ∈ others) (t : Task) (a : Attempt)
    (on : awaited t h = some a) : a.listener ≠ l := by
  intro same
  obtain ⟨time, here⟩ := awaited_listened on
  exact counted.apart time t a here (same ▸ own)

theorem Wired.received (wired : Wired ⟨b, h⟩) (counted : Counted others ⟨b, h⟩) (own : l ∈ others) :
    Wired ⟨(b.receive l).2, h⟩ := by
  apply wired.foreign (Nat.le_of_eq Bus.next_receive.symm)
  · intro k beyond
    rw [Bus.next_receive] at beyond
    rw [Bus.queue?_receive, wired.unborn k beyond]
    split <;> rfl
  · intro t a on
    rw [Bus.queue?_receive, if_neg (counted.other own t a on)]

theorem Wired.dropped (wired : Wired ⟨b, h⟩) (counted : Counted others ⟨b, h⟩) (own : l ∈ others) :
    Wired ⟨b.drop l, h⟩ := by
  apply wired.foreign (c := b.drop l) (Nat.le_refl _)
  · intro k beyond
    rw [Bus.queue?_drop, wired.unborn k beyond]
    split <;> rfl
  · intro t a on
    rw [Bus.queue?_drop, if_neg (counted.other own t a on)]

theorem Counted.unborn (counted : Counted others ⟨b, h⟩) (wired : Wired ⟨b, h⟩) :
    b.next ∉ b.numbers ∧ b.next ∉ others := by
  constructor
  · intro there
    exact Bus.mem_numbers.mp there (wired.unborn b.next (Nat.le_refl _))
  · intro there
    exact Nat.lt_irrefl _ (counted.known _ there)

theorem Counted.subscribed (counted : Counted others ⟨b, h⟩) (wired : Wired ⟨b, h⟩) :
    Counted (others ++ [b.next]) ⟨b.subscribe.2, h⟩ := by
  constructor
  · show b.subscribe.2.numbers.Nodup
    rw [Bus.numbers_subscribe, ← List.concat_eq_append]
    exact List.Nodup.concat (counted.unborn wired).1 counted.nodup
  · intro time t a here
    have before : a.listener < b.next := wired.fresh time t a here
    simp only [List.mem_append, List.mem_singleton, not_or]
    exact ⟨counted.apart time t a here, Nat.ne_of_lt before⟩
  · intro l here
    rcases List.mem_append.mp here with old | new
    · exact Nat.lt_succ_of_lt (counted.known l old)
    · rw [List.mem_singleton.mp new]
      exact Nat.lt_succ_self _
  · intro l
    show l ∈ b.subscribe.2.numbers ↔ _
    rw [Bus.numbers_subscribe, List.mem_append, List.mem_append, counted.listens l]
    exact or_right_comm
  · exact counted.ended
  · exact counted.preceded

theorem Counted.dropped (counted : Counted others ⟨b, h⟩) (own : l ∈ others) :
    Counted (others.filter (· != l)) ⟨b.drop l, h⟩ := by
  have fewer {k : Nat} : k ∈ others.filter (· != l) ↔ k ∈ others ∧ k ≠ l := by simp
  constructor
  · exact counted.nodup.sublist Bus.drop_numbers
  · intro time t a here there
    exact counted.apart time t a here (fewer.mp there).1
  · intro k here
    exact counted.known k (fewer.mp here).1
  · intro k
    show k ∈ (b.drop l).numbers ↔ _
    rw [Bus.mem_drop, counted.listens k, fewer]
    constructor
    · intro there
      obtain ⟨theirs | on, other⟩ := there
      · exact .inl ⟨theirs, other⟩
      · exact .inr on
    · intro there
      rcases there with theirs | ⟨t, a, on, rfl⟩
      · exact ⟨.inl theirs.1, theirs.2⟩
      · exact ⟨.inr ⟨t, a, on, rfl⟩, counted.other own t a on⟩
  · exact counted.ended
  · exact counted.preceded

end Wire

namespace Sitting

-- A run on a bus that is not this session's alone, with the listeners that others have on it. Sessions and pickers of
-- any kind take turns; the others subscribe, receive, and drop what is theirs.
inductive Shared : Sitting → List Nat → Prop where
  | initial : Shared .initial []
  | act (run : Shared s others) (w : Surroundings) (setup : Setup) (a : Act) : Shared (act w setup a s) others
  | elsewhere (run : Shared s others) (session : Session) (picker : Picker) (held : Bool) :
      Shared { s with session, picker, held } others
  | subscribed (run : Shared s others) : Shared { s with bus := s.bus.subscribe.2 } (others ++ [s.bus.next])
  | received (run : Shared s others) (own : l ∈ others) : Shared { s with bus := (s.bus.receive l).2 } others
  | dropped (run : Shared s others) (own : l ∈ others) :
      Shared { s with bus := s.bus.drop l } (others.filter (· != l))

structure Shares (others : List Nat) (s : Sitting) : Prop where
  mere : s.Mere
  numbered : s.Numbered
  wired : s.wire.Wired
  counted : s.wire.Counted others
  nodup : others.Nodup
  tuned : ∀ t, s.Tuned t

variable {w : Surroundings} {setup : Setup} {s : Sitting} {t : Task} {a : Attempt} {others : List Nat} {l : Nat}

theorem Shares.act (shares : s.Shares others) (w : Surroundings) (setup : Setup) (a : Act) :
    Shares others (act w setup a s) := by
  have step : Reached w setup s (Sitting.act w setup a s) := .step .refl a
  have kept : Mere (Sitting.act w setup a s) ∧ Numbered (Sitting.act w setup a s) ∧
      (Sitting.act w setup a s).wire.Wired ∧ (Sitting.act w setup a s).wire.Counted others := by
    refine step.keeps (P := fun s : Sitting => s.Mere ∧ s.Numbered ∧ s.wire.Wired ∧ s.wire.Counted others) shares.tuned
      ⟨shares.mere, shares.numbered, shares.wired, shares.counted⟩ ?_ ?_
    · intro v s₁ s₂ move before
      obtain ⟨mere, numbered, wired, counted⟩ := before
      refine ⟨move.mere mere, move.numbered numbered, ?_⟩
      refine move.wire mere (P := fun x : Wire => x.Wired ∧ x.Counted others) ?_ ⟨wired, counted⟩
      intro x y signal before
      exact ⟨signal.wired before.1, signal.counted before.1 before.2⟩
    · intro s₁ ms before
      exact ⟨before.1, ⟨before.2.1.apart, before.2.1.known⟩, before.2.2⟩
  exact ⟨kept.1, kept.2.1, kept.2.2.1, kept.2.2.2, shares.nodup, act_tuned a shares.tuned⟩

theorem Shares.elsewhere (shares : s.Shares others) (session : Session) (picker : Picker) (held : Bool) :
    Shares others { s with session, picker, held } where
  mere := shares.mere
  numbered := ⟨shares.numbered.apart, shares.numbered.known⟩
  wired := shares.wired
  counted := shares.counted
  nodup := shares.nodup
  tuned t := ⟨(shares.tuned t).awaits, (shares.tuned t).accepted⟩

-- Nothing but the bus changes.
theorem Shares.bus (shares : s.Shares others) {b : Bus} {theirs : List Nat} (wired : Wire.Wired ⟨b, s.history⟩)
    (counted : Wire.Counted theirs ⟨b, s.history⟩) (nodup : theirs.Nodup) : Shares theirs { s with bus := b } where
  mere := shares.mere
  numbered := ⟨shares.numbered.apart, shares.numbered.known⟩
  wired := wired
  counted := counted
  nodup := nodup
  tuned t := ⟨(shares.tuned t).awaits, (shares.tuned t).accepted⟩

theorem initial_shares : Shares [] .initial where
  mere _ _ _ _ _ here := absurd here List.not_mem_nil
  numbered := initial_numbered
  wired := initial_wired
  counted := Wire.initial_counted
  nodup := .nil
  tuned := initial_tuned

theorem Shared.shares (run : Shared s others) : s.Shares others := by
  induction run with
  | initial => exact initial_shares
  | act run w setup a ih => exact ih.act w setup a
  | elsewhere run session picker held ih => exact ih.elsewhere session picker held
  | subscribed run ih =>
    apply ih.bus (Wire.Wired.subscribed ih.wired) (Wire.Counted.subscribed ih.counted ih.wired)
    rw [← List.concat_eq_append]
    exact List.Nodup.concat (Wire.Counted.unborn ih.counted ih.wired).2 ih.nodup
  | received run own ih =>
    apply ih.bus (Wire.Wired.received ih.wired ih.counted own) _ ih.nodup
    exact Wire.Counted.queues ih.counted Bus.numbers_receive Bus.next_receive
  | dropped run own ih =>
    exact ih.bus (Wire.Wired.dropped ih.wired ih.counted own) (Wire.Counted.dropped ih.counted own) (ih.nodup.filter _)

theorem lookup_own {entries : List (Nat × Pending)} (apart : (entries.map (·.1)).Nodup) (here : (n, p) ∈ entries) :
    entries.lookup n = some p := by
  induction entries with
  | nil => cases here
  | cons entry rest ih =>
    obtain ⟨m, q⟩ := entry
    obtain ⟨new, apart⟩ := List.nodup_cons.mp apart
    rw [Lookup.head]
    rcases List.mem_cons.mp here with same | later
    · cases same
      exact if_pos rfl
    · rw [if_neg, ih apart later]
      intro same
      exact new (List.mem_map.mpr ⟨_, later, same⟩)

theorem listening_holds (numbered : s.Numbered) (here : t ∈ s.listening) : ∃ a, s.attempt? t = some a := by
  rcases List.mem_append.mp here with call | popup
  · obtain ⟨⟨n, p⟩, listens, rfl⟩ := List.mem_map.mp call
    obtain ⟨there, holds⟩ := List.mem_filter.mp listens
    obtain ⟨a, holds⟩ := Option.isSome_iff_exists.mp holds
    refine ⟨a, ?_⟩
    rw [attempt?, lookup_own numbered.apart there]
    exact holds
  · obtain ⟨⟨p, i⟩, listens, rfl⟩ := List.mem_map.mp popup
    obtain ⟨there, holds⟩ := List.mem_filter.mp listens
    obtain ⟨a, holds⟩ := Option.isSome_iff_exists.mp holds
    refine ⟨a, ?_⟩
    rw [attempt?, List.mk_mem_zipIdx_iff_getElem?.mp there]
    exact holds

theorem listening_nodup (numbered : s.Numbered) : s.listening.Nodup := by
  have calls : (s.calls.filter fun c => c.2.attempt?.isSome).map (·.1) |>.Nodup :=
    numbered.apart.sublist (List.filter_sublist.map _)
  have popups : (s.popups.zipIdx.filter fun p => p.1.stage.attempt?.isSome).map (·.2) |>.Nodup :=
    (List.nodup_zipIdx_map_snd s.popups).sublist (List.filter_sublist.map _)
  have first := calls.map (f := Task.call) fun n m same => Task.call.inj same
  have second := popups.map (f := Task.popup) fun i j same => Task.popup.inj same
  rw [List.map_map] at first second
  apply first.append second
  intro t call popup
  obtain ⟨c, _, rfl⟩ := List.mem_map.mp call
  obtain ⟨p, _, same⟩ := List.mem_map.mp popup
  cases same

-- The listeners of those who wait, each with its own.
def numbers (s : Sitting) : List Nat := s.listening.filterMap fun t => (s.attempt? t).map (·.listener)

theorem Shares.mem_numbers (shares : s.Shares others) :
    l ∈ s.numbers ↔ ∃ t a, s.attempt? t = some a ∧ a.listener = l := by
  rw [numbers, List.mem_filterMap]
  constructor
  · intro there
    obtain ⟨t, _, mine⟩ := there
    obtain ⟨a, holds, same⟩ := Option.map_eq_some_iff.mp mine
    exact ⟨t, a, holds, same⟩
  · intro there
    obtain ⟨t, a, holds, rfl⟩ := there
    refine ⟨t, listening_woken (shares.tuned t) ((shares.tuned t).awaits.trans holds), ?_⟩
    rw [holds]
    rfl

theorem Shares.numbers_nodup (shares : s.Shares others) : s.numbers.Nodup := by
  apply (listening_nodup shares.numbered).filterMap
  intro t u l mine theirs
  obtain ⟨a, holds, rfl⟩ := Option.map_eq_some_iff.mp mine
  obtain ⟨c, holds', same⟩ := Option.map_eq_some_iff.mp theirs
  by_contra other
  apply shares.wired.listener (awaited_listened ((shares.tuned t).awaits.trans holds)) _ other same
  exact (shares.tuned u).awaits.trans holds'

theorem Shares.numbers_length (shares : s.Shares others) : s.numbers.length = s.listening.length := by
  apply List.filterMap_length_eq_length.mpr
  intro t here
  obtain ⟨a, holds⟩ := listening_holds shares.numbered here
  rw [holds]
  rfl

theorem Shares.listens (shares : s.Shares others) :
    l ∈ s.bus.numbers ↔ l ∈ others ∨ ∃ t a, s.attempt? t = some a ∧ a.listener = l := by
  have same (t : Task) : awaited t s.wire.history = s.attempt? t := (shares.tuned t).awaits
  simp only [← same]
  exact shares.counted.listens l

theorem Shares.count (shares : s.Shares others) : s.bus.count = s.listening.length + others.length := by
  have apart : (others ++ s.numbers).Nodup := by
    apply shares.nodup.append shares.numbers_nodup
    intro l theirs ours
    obtain ⟨t, a, holds, rfl⟩ := shares.mem_numbers.mp ours
    obtain ⟨time, here⟩ := awaited_listened ((shares.tuned t).awaits.trans holds)
    exact shares.counted.apart time t a here theirs
  have same : s.bus.numbers.Perm (others ++ s.numbers) := by
    apply (List.perm_ext_iff_of_nodup shares.counted.nodup apart).mpr
    intro l
    rw [List.mem_append, shares.mem_numbers]
    exact shares.listens
  calc s.bus.count = s.bus.numbers.length := (List.length_map _).symm
    _ = (others ++ s.numbers).length := same.length_eq
    _ = s.listening.length + others.length := by rw [List.length_append, shares.numbers_length, Nat.add_comm]

theorem Shares.gone (shares : s.Shares others) (here : (time, .listened t a) ∈ s.history)
    (free : s.attempt? t ≠ some a) :
    s.bus.queue? a.listener = none := by
  by_contra there
  rcases shares.listens.mp (Bus.mem_numbers.mpr there) with theirs | ⟨u, c, holds, same⟩
  · exact shares.counted.apart time t a here theirs
  · obtain ⟨time', there⟩ := awaited_listened ((shares.tuned u).awaits.trans holds)
    obtain ⟨rfl, rfl⟩ := shares.wired.own _ _ _ _ _ _ there here same
    exact free holds

-- There are as many listeners as requests that are awaited and subscriptions of others. Each request had its listener
-- before it was posted, and from then on it either is awaited and has it still, or it has ended and the listener is
-- gone: it was concluded, whatever came of it, or the session or the call it was made for is over. No session that has
-- ended leaves one behind.
theorem listens_while_waiting (run : Shared s others) :
    s.bus.count = s.listening.length + others.length ∧
    (∀ l, s.bus.queue? l ≠ none ↔ l ∈ others ∨ ∃ t a, s.attempt? t = some a ∧ a.listener = l) ∧
    (∀ newer e older, s.history = newer ++ e :: older → Preceded e older) ∧
    (∀ newer time t a older, s.history = newer ++ (time, .listened t a) :: older →
      s.attempt? t = some a ∧ s.bus.queue? a.listener ≠ none ∨
        s.attempt? t ≠ some a ∧ s.bus.queue? a.listener = none ∧ Ended t a newer) ∧
    ((∀ p ∈ s.popups, p.stage.outcome?.isSome) → (∀ t ∈ s.listening, ∃ n, t = .call n) ∧
      ∀ time i a, (time, .listened (.popup i) a) ∈ s.history → s.bus.queue? a.listener = none) := by
  have shares := run.shares
  have silent (settled : ∀ p ∈ s.popups, p.stage.outcome?.isSome) (i : Nat) : s.attempt? (.popup i) = none := by
    cases there : s.popups[i]? with
    | none => simp [attempt?, there]
    | some p =>
      obtain ⟨o, ended⟩ := Option.isSome_iff_exists.mp (settled p (List.mem_of_getElem? there))
      rw [attempt?, there]
      cases stage : p.stage with
      | settled => simp [stage, Stage.attempt?]
      | opened | waiting => simp [stage, Stage.outcome?] at ended
  refine ⟨shares.count, ?_, ?_, ?_, ?_⟩
  · intro l
    rw [← Bus.mem_numbers]
    exact shares.listens
  · intro newer e older split
    exact shares.counted.preceded.at split
  · intro newer time t a older split
    by_cases holds : s.attempt? t = some a
    · exact .inl ⟨holds, Bus.mem_numbers.mp (shares.listens.mpr (.inr ⟨t, a, holds, rfl⟩))⟩
    · have here : (time, .listened t a) ∈ s.history := by rw [split]; simp
      refine .inr ⟨holds, shares.gone here holds, ?_⟩
      apply (shares.counted.ended newer time t a older split).resolve_left
      intro on
      exact holds ((shares.tuned t).awaits.symm.trans on)
  · intro settled
    constructor
    · intro t here
      obtain ⟨a, holds⟩ := listening_holds shares.numbered here
      cases t with
      | call n => exact ⟨n, rfl⟩
      | popup i => cases (silent settled i).symm.trans holds
    · intro time i a here
      exact shares.gone here (by simp [silent settled i])

theorem acts_shared (run : Shared s others) (as : List Act) : Shared (acts w setup as s) others := by
  induction as generalizing s with
  | nil => exact run
  | cons a rest ih => exact ih (.act run w setup a)

-- Someone listens besides; a popup is asked, and a call is taken away while it waits for its reply.
def overheard : Sitting :=
  acts .calm .plain [.start .session, .turn (.call 0), .turn (.popup 0),
    .start (.request "lms" "m" [] none 10 fun _ => .sends []), .turn (.call 1), .abort 1]
    { Sitting.initial with bus := Sitting.initial.bus.subscribe.2 }

theorem overheard_has_two_listeners : overheard.listening = [.popup 0] ∧ overheard.bus.count = 2 := by
  have run : Shared overheard [0] := acts_shared (.subscribed .initial) _
  have waits : overheard.listening = [.popup 0] := rfl
  have count := (listens_while_waiting run).1
  rw [waits] at count
  exact ⟨waits, count⟩

end Sitting
end CourseFiles
