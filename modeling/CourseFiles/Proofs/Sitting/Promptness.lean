import CourseFiles.Proofs.Sitting.Runs
import CourseFiles.Proofs.Sitting.Wire

namespace CourseFiles

open History

namespace History

structure Punctual (now : Nat) (t : Task) (h : History) : Prop where
  early : ∀ a, awaited t h = some a → now ≤ a.deadline
  fresh : ∀ a, awaited t h = some a → ∀ time o, heard t h = some (time, o) → time = now
  refused : ∀ a, awaited t h = some a → refusal t h ≠ none → sent t h = now

variable {now : Nat} {t u : Task} {h : History}

theorem Punctual.skip (punctual : Punctual now t h) {e : Happening} (other : e.concerns t = false)
    (undelivered : e.isDelivered = false) : Punctual now t ((now, e) :: h) := by
  refine ⟨?_, ?_, ?_⟩
  · intro a on
    rw [awaited_skip other] at on
    exact punctual.early a on
  · intro a on time o
    rw [awaited_skip other] at on
    rw [heard_skip other undelivered]
    exact punctual.fresh a on time o
  · intro a on refused
    rw [awaited_skip other] at on
    rw [refusal_skip other] at refused
    rw [sent_skip other]
    exact punctual.refused a on refused

theorem Punctual.free (free : awaited t h = none) : Punctual now t h where
  early a on := by cases free.symm.trans on
  fresh a on := by cases free.symm.trans on
  refused a on := by cases free.symm.trans on

theorem Punctual.ended (punctual : Punctual now t h) {e : Happening} (ends : e.ends u = true) :
    Punctual now t ((now, e) :: h) := by
  by_cases mine : u = t
  · subst mine
    exact .free (awaited_end ends)
  · exact punctual.skip (Happening.ends_apart ends mine) (Happening.ends_undelivered ends)

theorem Punctual.deliver (punctual : Punctual now t h) : Punctual now t ((now, .delivered m) :: h) := by
  refine ⟨fun a on => punctual.early a on, ?_, fun a on => punctual.refused a on⟩
  intro a on time o there
  have on : awaited t h = some a := on
  simp only [heard] at there
  split at there
  · rw [on] at there
    obtain ⟨_, _, same⟩ := Option.map_eq_some_iff.mp there
    exact (Prod.mk.inj same).1.symm
  · exact punctual.fresh a on time o there

theorem Punctual.ask (punctual : Punctual now t h) {r : Request} {listener : Nat} : Punctual now t
    ((now, .posted u r.encode origin reason) :: (now, .listened u ⟨listener, origin, r.id, now + timeout⟩) :: h) := by
  by_cases mine : u = t
  · subst mine
    refine ⟨?_, ?_, ?_⟩
    · intro a on
      have on : some (Attempt.mk listener origin r.id (now + timeout)) = some a := by
        simpa [awaited, Happening.ends] using on
      cases on
      exact Nat.le_add_right _ _
    · intro a on time o there
      simp [heard] at there
    · intro a on refused
      simp [sent]
  · have listened := punctual.skip (e := .listened u ⟨listener, origin, r.id, now + timeout⟩)
      (by simpa [Happening.concerns] using mine) rfl
    exact listened.skip (by simpa [Happening.concerns] using mine) rfl

theorem Punctual.conclude (punctual : Punctual now t h) :
    Punctual now t (Wire.reported now u o ((now, .concluded u a o) :: h)) := by
  have ended : Punctual now t ((now, .concluded u a o) :: h) := punctual.ended (u := u) (by simp [Happening.ends])
  cases u with
  | call n => exact ended.skip rfl rfl
  | popup i => exact ended

end History

theorem Wire.Signal.punctual {x y : Wire} (signal : Signal now x y) (punctual : Punctual now t x.history) :
    Punctual now t y.history := by
  cases signal with
  | mute silent => exact punctual.skip ((mute_skips silent).1 t) (mute_skips silent).2.1
  | deliver => exact punctual.deliver
  | ask free => exact punctual.ask
  | skip | resume => exact punctual.skip rfl rfl
  | refused | answered | lapsed => exact punctual.conclude
  | hangUp ends unsaid all own => exact punctual.ended ends

namespace Wire

-- A reply that has come now, when there was room for it, is received in the same turn.
def Near (now : Nat) (t : Task) (x : Wire) : Prop :=
  ∀ a o, awaited t x.history = some a → heard t x.history = some (now, o) → ahead t x.history < Sitting.allowance →
    ∃ k, k + spent t now x.history < Sitting.allowance ∧ a.reply? ((a.unread x.bus).take (k + 1)) = some o

variable {x y : Wire} {b c : Bus} {h k : History} {now : Nat} {t u : Task} {a : Attempt}

theorem Near.free (free : awaited t x.history = none) : Near now t x := by
  intro a o on
  cases free.symm.trans on

theorem Near.same (near : Near now t ⟨b, h⟩) (awaits : awaited t k = awaited t h) (hears : heard t k = heard t h)
    (same : ahead t k = ahead t h) (spends : spent t now k = spent t now h)
    (unread : ∀ a, awaited t h = some a → a.unread c = a.unread b) : Near now t ⟨c, k⟩ := by
  intro a o on there room
  have on : awaited t h = some a := awaits.symm.trans on
  obtain ⟨n, less, found⟩ := near a o on (hears.symm.trans there) (same ▸ room)
  refine ⟨n, spends.symm ▸ less, ?_⟩
  rw [show a.unread _ = _ from unread a on]
  exact found

theorem Near.idle (near : Near now t ⟨b, h⟩) {e : Happening} (other : e.concerns t = false)
    (undelivered : e.isDelivered = false) (free : e.cost t = 0)
    (unread : ∀ a, awaited t h = some a → a.unread c = a.unread b) : Near now t ⟨c, (now, e) :: h⟩ :=
  near.same (awaited_skip other) (heard_skip other undelivered) (ahead_skip undelivered) (spent_skip free) unread

theorem Near.deliver (near : Near now t ⟨b, h⟩) (wired : Wired ⟨b, h⟩) :
    Near now t ⟨b.dispatch m, (now, .delivered m) :: h⟩ := by
  intro a o on there room
  have on : awaited t h = some a := on
  obtain ⟨queue, here, _⟩ := wired.queue t a on
  have here : b.queue? a.listener = some queue := here
  have unread : a.unread (b.dispatch m) = a.unread b ++ [m] := by
    rw [Attempt.unread, Attempt.unread, Bus.queue?_dispatch, here]
    rfl
  have spends : spent t now ((now, .delivered m) :: h) = spent t now h := spent_skip rfl
  show ∃ k, k + spent t now ((now, .delivered m) :: h) < _ ∧ a.reply? ((a.unread (b.dispatch m)).take (k + 1)) = some o
  rw [unread, spends]
  cases before : heard t h with
  | none =>
    simp only [heard, before, Option.isNone_none, true_and] at there
    split at there
    · rename_i accepted
      have mine : m.reply? a.origin a.id = some o := by simpa [on] using there
      have silent : a.reply? (a.unread b) = none := by rw [wired.found on accepted, before]; rfl
      refine ⟨backlog t h, ?_, ?_⟩
      · have waiting : ahead t ((now, .delivered m) :: h) = spent t now h + backlog t h := by simp [ahead, before]
        rw [waiting] at room
        omega
      · rw [← wired.unread t a on, List.take_of_length_le (by simp), Attempt.reply?_append_singleton, silent]
        exact mine
    · cases there
  | some r =>
    have there : heard t h = some (now, o) := by
      have same : heard t ((now, .delivered m) :: h) = heard t h := by simp [heard, before]
      exact same.symm.trans there
    have room : ahead t h < Sitting.allowance := by
      have same : ahead t ((now, .delivered m) :: h) = ahead t h := by simp [ahead, before]
      exact same ▸ room
    obtain ⟨n, less, found⟩ := near a o on there room
    exact ⟨n, less, Attempt.reply?_grown found⟩

-- What a task receives in vain, it need not receive again.
theorem Near.skip (near : Near now t ⟨b, h⟩) (wired : Wired ⟨b, h⟩) (on : awaited t h = some a)
    (silent : a.reply? ((a.unread b).take n) = none) :
    Near now t ⟨b.setQueue a.listener ((a.unread b).drop n), (now, .skipped t n) :: h⟩ := by
  intro c o on' there room
  rw [awaited_skip rfl] at on'
  cases on.symm.trans on'
  rw [heard_skip rfl rfl] at there
  rw [ahead_skip rfl] at room
  obtain ⟨k, less, found⟩ := near a o on there room
  obtain ⟨further, behind⟩ := Attempt.reply?_behind silent found
  obtain ⟨queue, here, _⟩ := wired.queue t a on
  refine ⟨k - n, ?_, ?_⟩
  · have spends : spent t now ((now, .skipped t n) :: h) = n + spent t now h := by simp [spent, Happening.cost]
    show k - n + spent t now ((now, .skipped t n) :: h) < _
    have less : k + spent t now h < Sitting.allowance := less
    omega
  · show a.reply? ((a.unread (b.setQueue a.listener _)).take _) = some o
    rw [Attempt.unread_setQueue here]
    exact behind

theorem Near.ended (near : Near now t ⟨b, h⟩) (wired : Wired ⟨b, h⟩) (held : Option Attempt)
    (own : ∀ a, held = some a → ∃ time, (time, .listened u a) ∈ h) {e : Happening} (ends : e.ends u = true) :
    Near now t ⟨held.elim b fun a => b.drop a.listener, (now, e) :: h⟩ := by
  by_cases mine : u = t
  · subst mine
    exact .free (awaited_end ends)
  · refine near.idle (Happening.ends_apart ends mine) (Happening.ends_undelivered ends)
      (Happening.cost_apart ends mine) ?_
    intro c on
    cases held with
    | none => rfl
    | some a =>
      have other : c.listener ≠ a.listener := wired.listener (own a rfl) on mine
      rw [Attempt.unread, Attempt.unread, show Option.elim _ _ _ = b.drop a.listener from rfl, Bus.queue?_drop,
        if_neg other]

theorem Near.conclude (near : Near now t ⟨b, h⟩) (wired : Wired ⟨b, h⟩) (on : awaited u h = some a) :
    Near now t ⟨b.drop a.listener, reported now u o ((now, .concluded u a o) :: h)⟩ := by
  have concluded : Near now t ⟨b.drop a.listener, (now, .concluded u a o) :: h⟩ := by
    refine near.ended wired (u := u) (some a) ?_ (by simp [Happening.ends])
    intro c mine
    cases mine
    exact awaited_listened on
  cases u with
  | call n => exact concluded.idle rfl rfl rfl fun _ _ => rfl
  | popup i => exact concluded

theorem Near.ask (near : Near now t ⟨b, h⟩) (wired : Wired ⟨b, h⟩) {r : Request} : Near now t ⟨b.subscribe.2,
    (now, .posted u r.encode origin reason) :: (now, .listened u ⟨b.next, origin, r.id, now + timeout⟩) :: h⟩ := by
  by_cases mine : u = t
  · subst mine
    intro a o _ there
    simp [heard] at there
  · refine near.same (asked_apart mine).1 (asked_apart mine).2.2.1 rfl (by simp [spent, Happening.cost]) ?_
    intro a on
    obtain ⟨queue, here, _⟩ := wired.queue t a on
    have here : b.queue? a.listener = some queue := here
    rw [Attempt.unread, Attempt.unread, Bus.queue?_subscribe, here]
    rfl

theorem Signal.near (signal : Signal now x y) (wired : Wired x) (near : Near now t x) : Near now t y := by
  cases signal with
  | mute silent => exact near.idle ((mute_skips silent).1 t) (mute_skips silent).2.1 (mute_free silent) fun _ _ => rfl
  | deliver => exact near.deliver wired
  | ask free => exact near.ask wired
  | @skip u _ a _ _ on silent =>
    by_cases mine : u = t
    · subst mine
      exact near.skip wired on silent
    · refine near.idle rfl rfl (if_neg mine) ?_
      intro c on'
      have other : c.listener ≠ a.listener := wired.listener (awaited_listened on) on' mine
      rw [Attempt.unread, Bus.queue?_setQueue, if_neg other]
      rfl
  | @resume i h _ free =>
    by_cases mine : .popup i = t
    · subst mine
      exact .free ((awaited_skip rfl).trans free)
    · exact near.idle rfl rfl (if_neg mine) fun _ _ => rfl
  | refused on | answered on | lapsed on => exact near.conclude wired on
  | hangUp ends unsaid all own => exact near.ended wired _ own ends

-- A task that is through with what came for it has heard nothing, if there was room for what it could have heard.
theorem Near.unheard (near : Near now t ⟨b, h⟩) (on : awaited t h = some a)
    (through : a.unread b = [] ∨ Sitting.allowance ≤ spent t now h) (room : ahead t h < Sitting.allowance) :
    heard t h ≠ some (now, o) := by
  intro there
  obtain ⟨k, less, found⟩ := near a o on there room
  rcases through with received | full
  · rw [show a.unread _ = [] from received] at found
    cases found
  · have less : k + spent t now h < Sitting.allowance := less
    omega

end Wire

namespace Sitting

variable {w : Surroundings} {setup : Setup} {s s' : Sitting} {t u : Task} {v : Option Task}

theorem Move.now (move : Move w setup v s s') : s'.now = s.now := by
  cases move with
  | conclude => exact report_now
  | complete => exact completeSession_beside.now
  | cancel => exact cancelSession_beside.now
  | begin => exact beginSession_beside.now
  | _ => rfl

-- A task's listener keeps its queue when another stops listening.
theorem hangUp_queue {gone : Option Attempt} (wired : s.wire.Wired)
    (own : ∀ b, gone = some b → ∃ time, (time, .listened u b) ∈ s.history) (other : u ≠ t) (on : s.awaits t = some a) :
    (s.hangUp gone).bus.queue? a.listener = s.bus.queue? a.listener := by
  cases gone with
  | none => rfl
  | some b => exact Bus.queue?_drop.trans (if_neg (wired.listener (own b rfl) on other))

theorem listening_woken (tuned : s.Tuned t) (on : s.awaits t = some a) : t ∈ s.listening := by
  have holds : s.attempt? t = some a := tuned.awaits.symm.trans on
  cases t with
  | call n =>
    obtain ⟨p, here, attempt⟩ := Option.bind_eq_some_iff.mp holds
    refine List.mem_append_left _ (List.mem_map.mpr ⟨(n, p), List.mem_filter.mpr ⟨Lookup.mem here, ?_⟩, rfl⟩)
    rw [attempt]
    rfl
  | popup i =>
    obtain ⟨p, here, attempt⟩ := Option.bind_eq_some_iff.mp holds
    refine List.mem_append_right _ (List.mem_map.mpr ⟨(p, i), List.mem_filter.mpr ⟨?_, ?_⟩, rfl⟩)
    · exact List.mk_mem_zipIdx_iff_getElem?.mpr here
    · rw [attempt]
      rfl

theorem endSession_bus : (endSession h mark phase s).bus = s.bus := by
  unfold endSession
  split <;> rfl

theorem beginSession_bus : (beginSession w setup s).2.bus = s.bus := by
  unfold beginSession
  split
  · rfl
  · dsimp only
    split <;> rfl

theorem settle_queue (wired : s.wire.Wired) (here : s.popups[i]? = some p)
    (own : ∀ b, p.stage.attempt? = some b → ∃ time, (time, .listened (.popup i) b) ∈ s.history)
    (other : .popup i ≠ t) (on : s.awaits t = some a) :
    (settle i o s).bus.queue? a.listener = s.bus.queue? a.listener := by
  have held : s.popups[i]?.bind (·.stage.attempt?) = p.stage.attempt? := by rw [here]; rfl
  exact hangUp_queue wired (fun b mine => own b (held.symm.trans mine)) other on

theorem answer_queue (wired : s.wire.Wired) (here : s.popups[i]? = some p) (there : s.awaits (.popup i) = some b)
    (old : ∀ b, p.stage.attempt? = some b → ∃ time, (time, .listened (.popup i) b) ∈ s.history)
    (other : .popup i ≠ t) (on : s.awaits t = some a) :
    (settle i o' (conclude (.popup i) b o s)).bus.queue? a.listener = s.bus.queue? a.listener := by
  let s₁ := conclude (.popup i) b o s
  have wired₁ : s₁.wire.Wired := Wire.Wired.conclude (t := .popup i) wired there
  have own (c : Attempt) (held : p.stage.attempt? = some c) : ∃ time, (time, .listened (.popup i) c) ∈ s₁.history :=
    happened_later (old c held)
  have own₁ (c : Attempt) (same : some b = some c) : ∃ time, (time, .listened (.popup i) c) ∈ s.history := by
    cases same
    exact awaited_listened there
  have hungUp : s₁.bus.queue? a.listener = s.bus.queue? a.listener := hangUp_queue wired own₁ other on
  exact (settle_queue wired₁ here own other ((apart_conclude other).awaits.trans on)).trans hungUp

theorem drop_queue (wired : s.wire.Wired) (held : s.awaits (.call n) = p.attempt?) (on : s.awaits t = some a)
    (on' : (s.dropCall n p).awaits t = some a) : (s.dropCall n p).bus.queue? a.listener = s.bus.queue? a.listener := by
  refine hangUp_queue wired (fun b mine => awaited_listened (held.trans mine)) ?_ on
  intro same
  subst same
  cases dropped_awaits.symm.trans on'

-- What another task awaits stays in its queue, and nothing comes but what is delivered.
theorem Move.inbox (move : Move w setup v s s') (wired : s.wire.Wired) (other : v ≠ some t)
    (on : s.awaits t = some a) (on' : s'.awaits t = some a) :
    (∃ m, s' = s.deliver m) ∨ s'.bus.queue? a.listener = s.bus.queue? a.listener := by
  have elsewhere {u : Task} (actor : v = some u) : u ≠ t := fun same => other (same ▸ actor)
  cases move with
  | deliver => exact .inl ⟨_, rfl⟩
  | ask asks free =>
    have fresh : a.listener < s.bus.next := by
      obtain ⟨time, here⟩ := awaited_listened on
      exact wired.fresh _ _ _ here
    refine .inr (Bus.queue?_subscribe.trans ?_)
    rw [if_neg (Nat.ne_of_lt fresh), Option.or_none]
  | skip there silent =>
    refine .inr (Bus.queue?_setQueue.trans (if_neg ?_))
    exact wired.listener (awaited_listened there) on (elsewhere rfl)
  | conclude there ends retry =>
    rw [report_bus]
    refine .inr (hangUp_queue wired ?_ (elsewhere rfl) on)
    intro b same
    cases same
    exact awaited_listened there
  | gone here going stage early time absent held =>
    have own := waiting_listened stage held
    exact .inr (settle_queue (s := s) (o := .error .windowClosed) wired here own (elsewhere rfl) on)
  | settle here unsettled held cause =>
    exact .inr (settle_queue wired here (fun b mine => awaited_listened (held.trans mine)) (elsewhere rfl) on)
  | answer here going there old ends answer => exact .inr (answer_queue wired here there old (elsewhere rfl) on)
  | begin => exact .inr (by rw [beginSession_bus])
  | complete => exact .inr (by rw [show s.completeSession.bus = s.bus from endSession_bus])
  | cancel => exact .inr (by rw [show s.cancelSession.bus = s.bus from endSession_bus])
  | drop here held => exact .inr (drop_queue wired held on on')
  | _ => exact .inr rfl

-- It is woken by what comes.
theorem Move.queue (move : Move w setup v s s') (wired : s.wire.Wired) (other : v ≠ some t) (tuned : s.Tuned t)
    (on : s.awaits t = some a) (on' : s'.awaits t = some a) :
    t ∈ s'.ready ∨ s'.bus.queue? a.listener = s.bus.queue? a.listener := by
  rcases move.inbox wired other on on' with ⟨m, rfl⟩ | same
  · exact .inl (mem_wakeAll _ (.inr (listening_woken tuned on)))
  · exact .inr same

-- How an idle task is left idle.
theorem Apart.idle (apart : Apart t s s') (progress : s'.progress? t = s.progress? t) (idle : s.Idle t)
    (rests : ∀ a, s'.awaits t = some a → a.Rests s'.now s'.bus) : s'.Idle t := by
  refine ⟨rests, ?_⟩
  intro i q same there unsettled
  subst same
  obtain ⟨p, here, stage, cancelled, finished⟩ := progress_same progress there
  obtain ⟨going, deadline, nextLook, talk, waiting, early, unlooked⟩ := idle.2 i p rfl here (stage ▸ unsettled)
  rw [apart.now, stage]
  exact ⟨⟨cancelled.trans going.1, finished.trans going.2, unsettled⟩, deadline, nextLook, talk, waiting, early,
    unlooked⟩

theorem Move.heeds (move : Move w setup v s s') (wired : s.wire.Wired) (other : v ≠ some t) (tuned : s.Tuned t)
    (heeds : t ∈ s.ready ∨ s.Idle t) : t ∈ s'.ready ∨ s'.Idle t := by
  rcases move.apart other with apart | ⟨n, p, rfl, rfl⟩
  · rcases heeds with ready | idle
    · exact .inl (apart.ready ready)
    · rcases apart.progress with woken | progress
      · exact .inl woken
      · by_cases woken : t ∈ s'.ready
        · exact .inl woken
        · refine .inr (apart.idle progress idle ?_)
          intro a on'
          have on := apart.awaits.symm.trans on'
          have queue := (move.queue wired other tuned on on').resolve_left woken
          obtain ⟨received, early⟩ := idle.1 a on
          refine ⟨?_, apart.now ▸ early⟩
          rw [Attempt.unread, queue]
          exact received
  · refine .inr ⟨?_, (by simp)⟩
    intro a on
    cases dropped_awaits.symm.trans on

-- When a task has something to do, unless it is woken before.
def Deadline (s : Sitting) (t : Task) (d : Nat) : Prop :=
  match t with
  | .call n => ∃ p, s.calls.lookup n = some p ∧ p.deadline? = some d
  | .popup i => ∃ p, s.popups[i]? = some p ∧ d ∈ p.stage.deadlines

theorem deadline_known (here : s.Deadline t d) : d ∈ s.deadlines := by
  cases t with
  | call n =>
    obtain ⟨p, found, deadline⟩ := here
    exact List.mem_append_left _ (List.mem_filterMap.mpr ⟨(n, p), Lookup.mem found, deadline⟩)
  | popup i =>
    obtain ⟨p, found, deadline⟩ := here
    exact List.mem_append_right _ (List.mem_flatMap.mpr ⟨p, List.mem_of_getElem? found, deadline⟩)

theorem deadline_due (here : s.Deadline t d) (late : d ≤ s.now) : t ∈ s.due := by
  cases t with
  | call n =>
    obtain ⟨p, found, deadline⟩ := here
    refine List.mem_append_left _ (List.mem_map.mpr ⟨(n, p), List.mem_filter.mpr ⟨Lookup.mem found, ?_⟩, rfl⟩)
    simp [deadline, late]
  | popup i =>
    obtain ⟨p, found, deadline⟩ := here
    refine List.mem_append_right _ (List.mem_map.mpr ⟨(p, i), List.mem_filter.mpr ⟨?_, ?_⟩, rfl⟩)
    · exact List.mk_mem_zipIdx_iff_getElem?.mpr found
    · exact List.any_eq_true.mpr ⟨d, deadline, decide_eq_true late⟩

theorem attempt_deadline (holds : s.attempt? t = some a) : s.Deadline t a.deadline := by
  cases t with
  | call n =>
    obtain ⟨p, found, attempt⟩ := Option.bind_eq_some_iff.mp holds
    cases p with
    | replying b =>
      cases attempt
      exact ⟨_, found, rfl⟩
    | _ => cases attempt
  | popup i =>
    obtain ⟨p, found, attempt⟩ := Option.bind_eq_some_iff.mp holds
    refine ⟨p, found, ?_⟩
    cases stage : p.stage with
    | waiting deadline nextLook talk =>
      rw [stage] at attempt
      cases talk with
      | awaiting b =>
        cases attempt
        simp [Stage.deadlines, Talk.deadline]
      | pausing time => cases attempt
    | _ =>
      rw [stage] at attempt
      cases attempt

-- What holds even in the middle of a turn.
structure Steady (s : Sitting) : Prop where
  mere : s.Mere
  wired : s.wire.Wired
  punctual : ∀ t, Punctual s.now t s.history
  near : ∀ t, s.wire.Near s.now t

structure Orderly (s : Sitting) : Prop extends Steady s where
  tuned : ∀ t, s.Tuned t
  heeds : ∀ t, t ∈ s.ready ∨ s.Idle t

theorem Move.steady (move : Move w setup v s s') (steady : s.Steady) : s'.Steady := by
  refine ⟨move.mere steady.mere, move.wired steady.mere steady.wired, ?_, ?_⟩
  · intro t
    rw [move.now]
    exact move.wire steady.mere (fun _ _ signal => signal.punctual) (steady.punctual t)
  · intro t
    rw [move.now]
    refine (move.wire steady.mere (P := fun x => x.Wired ∧ x.Near s.now t) ?_ ⟨steady.wired, steady.near t⟩).2
    intro x y signal ⟨wired, near⟩
    exact ⟨signal.wired wired, signal.near wired near⟩

theorem Steady.heard (steady : s.Steady) (on : s.awaits t = some a) (ends : s.Ends t a o) (answer : Answer o) :
    heard t s.history = some (s.now, o) := by
  cases ends with
  | refused | lapsed => exact answer.elim
  | answered accepted found =>
    obtain ⟨time, there⟩ := steady.wired.answered on accepted found
    cases (steady.punctual t).fresh a on time o there
    exact there

theorem Orderly.heard (orderly : s.Orderly) (idle : s.Idle t) (on : s.awaits t = some a) :
    heard t s.history = none ∧ s.now < a.deadline :=
  ⟨orderly.wired.unheard on (idle.1 a on).received, (idle.1 a on).early⟩

theorem elapse_heeds (resting : s.ready = []) (heeds : t ∈ s.ready ∨ s.Idle t) (tuned : s.Tuned t) :
    t ∈ (s.elapse ms).ready ∨ (s.elapse ms).Idle t := by
  have idle : s.Idle t := heeds.resolve_left (by rw [resting]; exact List.not_mem_nil)
  by_cases late : ∃ d, s.Deadline t d ∧ d ≤ s.now + ms
  · obtain ⟨d, here, late⟩ := late
    have due : t ∈ due { s with now := s.now + ms } := by
      refine deadline_due ?_ late
      cases t <;> exact here
    exact .inl (mem_wakeAll _ (.inr due))
  · have early (d : Nat) (here : s.Deadline t d) : s.now + ms < d := by
      by_contra missed
      exact late ⟨d, here, Nat.le_of_not_lt missed⟩
    refine .inr ⟨?_, ?_⟩
    · intro a on
      have on : s.awaits t = some a := on
      exact ⟨(idle.1 a on).received, early _ (attempt_deadline (tuned.awaits.symm.trans on))⟩
    · intro i p same here unsettled
      subst same
      obtain ⟨going, deadline, nextLook, talk, stage, _, _⟩ := idle.2 i p rfl here unsettled
      refine ⟨going, deadline, nextLook, talk, stage, early _ ⟨p, here, ?_⟩, early _ ⟨p, here, ?_⟩⟩
      all_goals
        rw [stage]
        simp [Stage.deadlines]

theorem Orderly.idle (orderly : s.Orderly) (resting : s.ready = []) (t : Task) : s.Idle t :=
  (orderly.heeds t).resolve_left (by rw [resting]; exact List.not_mem_nil)

theorem Orderly.elapse (orderly : s.Orderly) (prompt : s.Prompt (.elapse ms)) : Orderly (s.elapse ms) := by
  obtain ⟨resting, short⟩ := prompt
  refine ⟨⟨orderly.mere, orderly.wired, ?_, ?_⟩, fun t => ⟨(orderly.tuned t).1, (orderly.tuned t).2⟩,
    fun t => elapse_heeds resting (orderly.heeds t) (orderly.tuned t)⟩
  · intro t
    have idle := orderly.idle resting t
    have accepted : History.refusal t s.history = none := (orderly.tuned t).accepted
    refine ⟨?_, ?_, fun a on refused => absurd accepted refused⟩
    · intro a on
      have holds := (orderly.tuned t).awaits.symm.trans on
      exact short _ (deadline_known (attempt_deadline holds)) (orderly.heard idle on).2
    · intro a on time o there
      cases (orderly.heard idle on).1.symm.trans there
  · intro t a o on there
    cases (orderly.heard (orderly.idle resting t) on).1.symm.trans there

theorem Orderly.moves (orderly : s.Orderly) (moves : Moves w setup v s s') :
    s'.Steady ∧ ∀ t, v ≠ some t → s'.Tuned t ∧ (t ∈ s'.ready ∨ s'.Idle t) := by
  induction moves with
  | refl => exact ⟨orderly.toSteady, fun t _ => ⟨orderly.tuned t, orderly.heeds t⟩⟩
  | tail _ move ih =>
    obtain ⟨steady, others⟩ := ih
    refine ⟨move.steady steady, ?_⟩
    intro t other
    obtain ⟨tuned, heeds⟩ := others t other
    exact ⟨move.tuned other tuned, move.heeds steady.wired other tuned heeds⟩

theorem Orderly.act (orderly : s.Orderly) (a : Act) (prompt : s.Prompt a) : Orderly (act w setup a s) := by
  have acted : Acted w setup s a (Sitting.act w setup a s) := acted a orderly.tuned
  generalize Sitting.act w setup a s = s' at acted
  cases acted with
  | elapsed => exact orderly.elapse prompt
  | @turned u _ turned =>
    obtain ⟨steady, others⟩ := orderly.moves turned.moves
    refine ⟨steady, ?_, ?_⟩
    · intro t
      by_cases same : u = t
      · exact same ▸ turned.tuned
      · exact (others t fun here => same (Option.some.inj here)).1
    · intro t
      by_cases same : u = t
      · exact same ▸ turned.heeded
      · exact (others t fun here => same (Option.some.inj here)).2
  | moved moves =>
    obtain ⟨steady, others⟩ := orderly.moves moves
    exact ⟨steady, fun t => (others t (by simp)).1, fun t => (others t (by simp)).2⟩

theorem initial_orderly : Orderly .initial where
  tuned := initial_tuned
  mere _ _ _ _ _ here := absurd here List.not_mem_nil
  wired := initial_wired
  punctual _ := .free rfl
  near _ := .free rfl
  heeds t := by
    refine .inr ⟨?_, ?_⟩
    · intro a on
      cases on
    · intro i p _ here
      cases here

theorem Reached.wired (path : Reached w setup .initial s) : s.wire.Wired := by
  have both : s.Mere ∧ s.wire.Wired := by
    refine path.keeps (P := fun s => s.Mere ∧ s.wire.Wired) initial_tuned ?_ ?_ fun _ _ => id
    · exact ⟨initial_orderly.mere, initial_wired⟩
    · intro v s₁ s₂ move here
      exact ⟨move.mere here.1, move.wired here.1 here.2⟩
  exact both.2

theorem Timely.orderly (run : Timely w setup s) : Orderly s := by
  induction run with
  | initial => exact initial_orderly
  | step _ a prompt ih => exact ih.act a prompt

-- What every move keeps, and the passing of time while all tasks wait, holds in every state of a timely run.
theorem Timely.upholds {P : Sitting → Prop} (run : Timely w setup s) (begin : P .initial)
    (moved : ∀ v s s', Move w setup v s s' → s.Steady → P s → P s')
    (elapsed : ∀ s ms, s.Orderly → s.Prompt (.elapse ms) → P s → P (s.elapse ms)) : P s := by
  have all (v : Option Task) (s s' : Sitting) (moves : Moves w setup v s s') (steady : s.Steady) (here : P s) :
      P s' := by
    have both : s'.Steady ∧ P s' := by
      induction moves with
      | refl => exact ⟨steady, here⟩
      | tail _ move ih => exact ⟨move.steady ih.1, moved v _ _ move ih.1 ih.2⟩
    exact both.2
  induction run with
  | initial => exact begin
  | @step s₁ earlier a prompt ih =>
    have orderly := earlier.orderly
    have acted : Acted w setup s₁ a (Sitting.act w setup a s₁) := acted a orderly.tuned
    generalize Sitting.act w setup a s₁ = s' at acted
    cases acted with
    | elapsed => exact elapsed s₁ _ orderly prompt ih
    | turned turned => exact all _ _ _ turned.moves orderly.toSteady ih
    | moved moves => exact all _ _ _ moves orderly.toSteady ih

-- What every signal keeps holds as well.
theorem Timely.keeps {P : Wire → Prop} (run : Timely w setup s) (begin : P Sitting.initial.wire)
    (kept : ∀ now x y, Wire.Signal now x y → x.Wired → (∀ t, Punctual now t x.history) → (∀ t, x.Near now t) →
      P x → P y) : P s.wire := by
  refine run.upholds (P := fun s => P s.wire) begin ?_ fun s ms _ _ here => here
  intro v s s' move steady here
  refine (move.wire (P := fun x => x.Wired ∧ (∀ t, Punctual s.now t x.history) ∧ (∀ t, x.Near s.now t) ∧ P x)
    steady.mere ?_ ⟨steady.wired, steady.punctual, steady.near, here⟩).2.2.2
  intro x y signal ⟨wired, punctual, near, here⟩
  exact ⟨signal.wired wired, fun t => signal.punctual (punctual t), fun t => signal.near wired (near t),
    kept s.now x y signal wired punctual near here⟩

end Sitting
end CourseFiles
