import CourseFiles.Proofs.Messages.Queues

namespace CourseFiles
namespace Bus

inductive Use
  | subscribe
  | dispatch (m : Message)
  | receive (listener : Nat)
  | drop (listener : Nat)

-- A use and what came of it.
inductive Deed
  | subscribed (listener : Nat)
  | dispatched (m : Message) (reached : Nat)
  | received (listener : Nat) (m : Option Message)
  | dropped (listener : Nat)

def use (b : Bus) : Use → Deed × Bus
  | .subscribe => (.subscribed b.subscribe.1, b.subscribe.2)
  | .dispatch m => (.dispatched m (b.announce m).1, (b.announce m).2)
  | .receive l => (.received l (b.receive l).1, (b.receive l).2)
  | .drop l => (.dropped l, b.drop l)

-- The deeds come with the newest first, on top of those that were done before.
def uses : List Use → List Deed → Bus → List Deed × Bus
  | [], log, b => (log, b)
  | u :: us, log, b => uses us ((b.use u).1 :: log) (b.use u).2

namespace Deed

-- The listeners that are there, in the order of their subscription.
def alive : List Deed → List Nat
  | [] => []
  | .subscribed l :: log => alive log ++ [l]
  | .dropped l :: log => (alive log).filter (· != l)
  | _ :: log => alive log

-- What was dispatched while a listener was there.
def meant (l : Nat) : List Deed → List Message
  | [] => []
  | .dispatched m _ :: log => if l ∈ alive log then meant l log ++ [m] else meant l log
  | _ :: log => meant l log

def got (l : Nat) : List Deed → List Message
  | [] => []
  | .received k (some m) :: log => if k = l then got l log ++ [m] else got l log
  | _ :: log => got l log

-- What a deed has to be, given those before it. A number is given once, and whoever receives is given the first
-- message that it has not had.
def Fits : Deed → List Deed → Prop
  | .subscribed l, log => .subscribed l ∉ log
  | .dispatched _ reached, log => reached = (alive log).length
  | .received l m, log => m = if l ∈ alive log then (meant l log)[(got l log).length]? else none
  | .dropped _, _ => True

end Deed

open Deed

structure Exact (log : List Deed) (b : Bus) : Prop where
  listeners : b.listeners.map (·.1) = alive log
  nodup : (alive log).Nodup
  fresh : ∀ l, .subscribed l ∈ log → l < b.next
  known : ∀ l ∈ alive log, .subscribed l ∈ log
  unborn : ∀ l, b.next ≤ l → meant l log = [] ∧ got l log = []
  queue : ∀ l queue, b.queue? l = some queue → meant l log = got l log ++ queue
  received : ∀ l, got l log <+: meant l log
  fits : ∀ newer d older, log = newer ++ d :: older → d.Fits older

variable {b : Bus} {log : List Deed} {l k : Nat} {queue : List Message} {m : Message}

theorem initial_exact : Exact [] .empty := by
  refine ⟨rfl, .nil, by simp, by simp [alive], by simp [meant, got], ?_, by simp [meant, got], by simp⟩
  intro l queue here
  cases here

-- A listener that is there has a queue, and no other has one.
theorem queue?_isSome : (b.queue? l).isSome ↔ l ∈ b.listeners.map (·.1) := by
  constructor
  · intro there
    obtain ⟨queue, here⟩ := Option.isSome_iff_exists.mp there
    exact List.mem_map.mpr ⟨_, Lookup.mem here, rfl⟩
  · intro there
    by_contra missing
    simp only [Bool.not_eq_true, Option.isSome_eq_false_iff, Option.isNone_iff_eq_none, queue?,
      List.lookup_eq_none_iff] at missing
    obtain ⟨entry, here, rfl⟩ := List.mem_map.mp there
    simpa using missing entry here

theorem Exact.alive_iff (exact : Exact log b) : l ∈ alive log ↔ ∃ queue, b.queue? l = some queue := by
  rw [← exact.listeners, ← queue?_isSome, Option.isSome_iff_exists]

theorem Exact.count (exact : Exact log b) : b.count = (alive log).length := by
  rw [← exact.listeners, List.length_map, Bus.count]

theorem fits_cons {d : Deed} (now : d.Fits log) (before : ∀ newer d older, log = newer ++ d :: older → d.Fits older) :
    ∀ newer e older, d :: log = newer ++ e :: older → e.Fits older := by
  intro newer e older split
  rcases List.cons_eq_append_iff.mp split with ⟨_, same⟩ | ⟨newer, _, rest⟩
  · cases same
    exact now
  · exact before newer e older rest

theorem Exact.subscribe (exact : Exact log b) : Exact (.subscribed b.next :: log) b.subscribe.2 := by
  have new : b.next ∉ alive log := fun there => Nat.lt_irrefl _ (exact.fresh _ (exact.known _ there))
  constructor
  · simp [Bus.subscribe, alive, exact.listeners]
  · simp only [alive, List.nodup_append]
    refine ⟨exact.nodup, by simp, ?_⟩
    intro l here k there same
    cases List.mem_singleton.mp there
    exact new (same ▸ here)
  · intro l here
    rcases List.mem_cons.mp here with same | old
    · cases same
      exact Nat.lt_succ_self _
    · exact Nat.lt_succ_of_lt (exact.fresh l old)
  · intro l here
    rcases List.mem_append.mp here with old | same
    · exact List.mem_cons_of_mem _ (exact.known l old)
    · cases List.mem_singleton.mp same
      exact List.mem_cons_self
  · intro l beyond
    exact exact.unborn l (Nat.le_of_succ_le beyond)
  · intro l queue here
    rw [queue?_subscribe, Option.or_eq_some_iff] at here
    rcases here with old | ⟨_, mine⟩
    · exact exact.queue l queue old
    · split at mine
      · rename_i same
        cases mine
        obtain ⟨unmeant, ungot⟩ := exact.unborn l (Nat.le_of_eq same.symm)
        simp [meant, got, unmeant, ungot]
      · cases mine
  · exact exact.received
  · apply fits_cons _ exact.fits
    intro here
    exact Nat.lt_irrefl _ (exact.fresh _ here)

theorem Exact.dispatch (exact : Exact log b) : Exact (.dispatched m b.count :: log) (b.dispatch m) := by
  constructor
  · simpa [Bus.dispatch, alive, Function.comp_def] using exact.listeners
  · exact exact.nodup
  · intro l here
    simp only [List.mem_cons, reduceCtorEq, false_or] at here
    exact exact.fresh l here
  · intro l here
    exact List.mem_cons_of_mem _ (exact.known l here)
  · intro l beyond
    have absent : l ∉ alive log := fun there => Nat.not_lt.mpr beyond (exact.fresh l (exact.known l there))
    simpa [meant, got, absent] using exact.unborn l beyond
  · intro l queue here
    rw [queue?_dispatch, Option.map_eq_some_iff] at here
    obtain ⟨older, there, rfl⟩ := here
    have present : l ∈ alive log := exact.alive_iff.mpr ⟨older, there⟩
    simp [meant, got, present, exact.queue l older there]
  · intro l
    simp only [meant, got]
    split
    · exact (exact.received l).trans (List.prefix_append _ _)
    · exact exact.received l
  · exact fits_cons exact.count exact.fits

-- Whoever receives has the first of what was left, and the others have what they had.
theorem Exact.receive (exact : Exact log b) (here : b.queue? l = some (m :: queue)) :
    Exact (.received l (some m) :: log) (b.setQueue l queue) := by
  have due := exact.queue l _ here
  constructor
  · show (b.setQueue l queue).listeners.map (·.1) = alive log
    rw [← exact.listeners, Bus.setQueue, List.map_map]
    apply List.map_congr_left
    intro entry _
    simp only [Function.comp_apply]
    split <;> simp_all
  · exact exact.nodup
  · intro k there
    simp only [List.mem_cons, reduceCtorEq, false_or] at there
    exact exact.fresh k there
  · intro k there
    exact List.mem_cons_of_mem _ (exact.known k there)
  · intro k beyond
    have other : l ≠ k := by
      intro same
      have unmeant := (exact.unborn k beyond).1
      rw [← same, due] at unmeant
      simp at unmeant
    simpa [meant, got, other] using exact.unborn k beyond
  · intro k older there
    rw [queue?_setQueue] at there
    split at there
    · rename_i same
      subst same
      rw [here] at there
      cases there
      simp [meant, got, due]
    · rename_i other
      simpa [meant, got, Ne.symm other] using exact.queue k older there
  · intro k
    simp only [meant, got]
    split
    · rename_i same
      subst same
      rw [due]
      simp
    · exact exact.received k
  · apply fits_cons _ exact.fits
    have present : l ∈ alive log := exact.alive_iff.mpr ⟨_, here⟩
    simp [Fits, present, due]

-- Nothing is received when nothing is left.
theorem Exact.idle (exact : Exact log b) (empty : ∀ m queue, b.queue? l ≠ some (m :: queue)) :
    Exact (.received l none :: log) b := by
  refine { exact with fresh := ?_, known := ?_, fits := ?_ }
  · intro k there
    simp only [List.mem_cons, reduceCtorEq, false_or] at there
    exact exact.fresh k there
  · intro k there
    exact List.mem_cons_of_mem _ (exact.known k there)
  · apply fits_cons _ exact.fits
    simp only [Fits]
    split
    · rename_i present
      obtain ⟨queue, here⟩ := exact.alive_iff.mp present
      cases queue with
      | nil => simp [exact.queue l [] here]
      | cons m rest => exact absurd here (empty m rest)
    · rfl

theorem Exact.drop (exact : Exact log b) : Exact (.dropped l :: log) (b.drop l) := by
  constructor
  · rw [alive, ← exact.listeners, Bus.drop, List.filter_map]
    rfl
  · exact exact.nodup.filter _
  · intro k there
    simp only [List.mem_cons, reduceCtorEq, false_or] at there
    exact exact.fresh k there
  · intro k there
    exact List.mem_cons_of_mem _ (exact.known k (List.mem_of_mem_filter there))
  · exact exact.unborn
  · intro k older there
    rw [queue?_drop] at there
    split at there
    · cases there
    · exact exact.queue k older there
  · exact exact.received
  · exact fits_cons trivial exact.fits

theorem Exact.use (exact : Exact log b) (u : Use) : Exact ((b.use u).1 :: log) (b.use u).2 := by
  cases u with
  | subscribe => exact exact.subscribe
  | dispatch m => exact exact.dispatch
  | receive l =>
    simp only [Bus.use, Bus.receive]
    split
    · rename_i m queue here
      exact exact.receive here
    · rename_i empty
      apply exact.idle
      intro m queue here
      exact empty m queue here
  | drop l => exact exact.drop

theorem Exact.uses (exact : Exact log b) (us : List Use) : Exact (Bus.uses us log b).1 (Bus.uses us log b).2 := by
  induction us generalizing log b with
  | nil => exact exact
  | cons u us ih => exact ih (exact.use u)

-- Two buses that differ in one listener at most, and what the others have had from them.
structure Alike (l : Nat) (x y : List Deed × Bus) : Prop where
  next : x.2.next = y.2.next
  queue : ∀ k, k ≠ l → x.2.queue? k = y.2.queue? k
  got : ∀ k, k ≠ l → got k x.1 = got k y.1

theorem dropped_alike : Alike l (.dropped l :: log, b.drop l) (log, b) := by
  refine ⟨rfl, ?_, fun k _ => rfl⟩
  intro k other
  exact queue?_drop.trans (if_neg other)

theorem queue?_receive : (b.receive k).2.queue? l = if l = k then (b.queue? l).map List.tail else b.queue? l := by
  unfold Bus.receive
  split
  · rename_i m rest here
    rw [queue?_setQueue]
    split
    · rename_i same
      subst same
      rw [here]
      rfl
    · rfl
  · rename_i empty
    split
    · rename_i same
      subst same
      cases there : b.queue? l with
      | none => rfl
      | some queue =>
        cases queue with
        | nil => rfl
        | cons m rest => exact absurd there (empty m rest)
    · rfl

theorem next_receive : (b.receive k).2.next = b.next := by
  unfold Bus.receive
  split <;> rfl

theorem receive_fst : (b.receive k).1 = (b.queue? k).bind List.head? := by
  unfold Bus.receive
  split
  · rename_i here
    rw [here]
    rfl
  · rename_i empty
    cases there : b.queue? k with
    | none => rfl
    | some queue =>
      cases queue with
      | nil => rfl
      | cons m rest => exact absurd there (empty m rest)

theorem got_received {o : Option Message} :
    got l (.received k o :: log) = got l log ++ if k = l then o.toList else [] := by
  cases o with
  | none => simp [got]
  | some m => by_cases mine : k = l <;> simp [got, mine]

theorem Alike.use {x y : List Deed × Bus} (alike : Alike l x y) (u : Use) :
    Alike l ((x.2.use u).1 :: x.1, (x.2.use u).2) ((y.2.use u).1 :: y.1, (y.2.use u).2) := by
  cases u with
  | subscribe =>
    refine ⟨congrArg (· + 1) alike.next, ?_, alike.got⟩
    intro k other
    simp only [Bus.use, queue?_subscribe, alike.next, alike.queue k other]
  | dispatch m =>
    refine ⟨alike.next, ?_, alike.got⟩
    intro k other
    simp only [Bus.use, announce, queue?_dispatch, alike.queue k other]
  | receive j =>
    refine ⟨?_, ?_, ?_⟩
    · simp only [Bus.use, next_receive, alike.next]
    · intro k other
      simp only [Bus.use, queue?_receive, alike.queue k other]
    · intro k other
      simp only [Bus.use, got_received, receive_fst, alike.got k other]
      split
      · rename_i same
        rw [same, alike.queue k other]
      · rfl
  | drop j =>
    refine ⟨alike.next, ?_, alike.got⟩
    intro k other
    simp only [Bus.use, queue?_drop, alike.queue k other]

theorem Alike.uses {x y : List Deed × Bus} (alike : Alike l x y) (us : List Use) :
    Alike l (Bus.uses us x.1 x.2) (Bus.uses us y.1 y.2) := by
  induction us generalizing x y with
  | nil => exact alike
  | cons u us ih => exact ih (alike.use u)

-- The listeners are those that have subscribed and are still there. What was dispatched while one of them was there
-- is what it has received and, after that, what is left for it; one that is gone has received the first part. Whoever
-- receives gets the first message that is left, and a dispatch tells how many listeners there are. It makes no
-- difference to the others, then or later, that one of them goes.
structure Delivers (log : List Deed) (b : Bus) : Prop where
  listeners : b.listeners.map (·.1) = alive log
  distinct : (alive log).Nodup
  count : b.count = (alive log).length
  present : ∀ l, l ∈ alive log → ∃ queue, b.queue? l = some queue ∧ meant l log = got l log ++ queue
  gone : ∀ l, l ∉ alive log → b.queue? l = none ∧ got l log <+: meant l log
  fits : ∀ newer d older, log = newer ++ d :: older → d.Fits older
  apart : ∀ l k later, k ≠ l →
    got k (uses later (.dropped l :: log) (b.drop l)).1 = got k (uses later log b).1 ∧
    (uses later (.dropped l :: log) (b.drop l)).2.queue? k = (uses later log b).2.queue? k

theorem delivery_is_exact (us : List Use) : ∃ log b, uses us [] .empty = (log, b) ∧ Delivers log b := by
  have exact : Exact (uses us [] .empty).1 (uses us [] .empty).2 := initial_exact.uses us
  generalize uses us [] .empty = reached at exact
  obtain ⟨log, b⟩ := reached
  refine ⟨log, b, rfl, exact.listeners, exact.nodup, exact.count, ?present, ?gone, exact.fits, ?apart⟩
  case present =>
    intro l present
    obtain ⟨queue, here⟩ := exact.alive_iff.mp present
    exact ⟨queue, here, exact.queue l queue here⟩
  case gone =>
    intro l absent
    refine ⟨?_, exact.received l⟩
    apply Option.eq_none_iff_forall_ne_some.mpr
    intro queue here
    exact absent (exact.alive_iff.mpr ⟨queue, here⟩)
  case apart =>
    intro l k later other
    have alike : Alike l (uses later (.dropped l :: log) (b.drop l)) (uses later log b) := dropped_alike.uses later
    exact ⟨alike.got k other, alike.queue k other⟩

end Bus
end CourseFiles
