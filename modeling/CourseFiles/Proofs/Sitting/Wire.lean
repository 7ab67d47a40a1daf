import CourseFiles.Proofs.Sitting.Apart

namespace CourseFiles

open History

namespace Happening

-- What the wire is not concerned with.
def mute : Happening → Bool
  | .listened .. => false
  | .skipped .. => false
  | .posted .. => false
  | .concluded .. => false
  | .resumed _ => false
  | .delivered _ => false
  | .settled .. => false
  | .aborted _ => false
  | .finished _ (.reply _) => false
  | _ => true

end Happening

structure Wire where
  bus : Bus
  history : History

namespace Wire

-- A call gives what its request came to.
def reported (now : Nat) (t : Task) (o : CallOutcome) (h : History) : History :=
  match t with
  | .call n => (now, .finished n (.reply o)) :: h
  | .popup _ => h

inductive Signal (now : Nat) : Wire → Wire → Prop where
  | mute (silent : e.mute = true) : Signal now ⟨b, h⟩ ⟨b, (now, e) :: h⟩
  | deliver : Signal now ⟨b, h⟩ ⟨b.dispatch m, (now, .delivered m) :: h⟩
  | ask {r : Request} (free : awaited t h = none) : Signal now ⟨b, h⟩ ⟨b.subscribe.2,
      (now, .posted t r.encode origin reason) :: (now, .listened t ⟨b.next, origin, r.id, now + timeout⟩) :: h⟩
  | skip (on : awaited t h = some a) (silent : a.reply? ((a.unread b).take n) = none) :
      Signal now ⟨b, h⟩ ⟨b.setQueue a.listener ((a.unread b).drop n), (now, .skipped t n) :: h⟩
  | resume (free : awaited (.popup i) h = none) : Signal now ⟨b, h⟩ ⟨b, (now, .resumed i) :: h⟩
  | refused (on : awaited t h = some a) (refused : refusal t h = some reason) : Signal now ⟨b, h⟩
      ⟨b.drop a.listener, reported now t (.error (.post reason)) ((now, .concluded t a (.error (.post reason))) :: h)⟩
  | answered (on : awaited t h = some a) (accepted : refusal t h = none) (found : a.reply? (a.unread b) = some o) :
      Signal now ⟨b, h⟩ ⟨b.drop a.listener, reported now t o ((now, .concluded t a o) :: h)⟩
  | lapsed (on : awaited t h = some a) (accepted : refusal t h = none) (late : a.deadline ≤ now)
      (through : a.unread b = [] ∨ Sitting.allowance ≤ spent t now h) :
      Signal now ⟨b, h⟩ ⟨b.drop a.listener,
        reported now t (.error (.timeout a.origin)) ((now, .concluded t a (.error (.timeout a.origin))) :: h)⟩
  -- An answer ends a popup's session; nothing is reported yet.
  | hangUp (ends : e.ends t = true) (unsaid : ∀ u a o, e ≠ .concluded u a o)
      (all : ∀ a, awaited t h = some a → held = some a) (own : ∀ a, held = some a → ∃ time, (time, .listened t a) ∈ h) :
      Signal now ⟨b, h⟩ ⟨held.elim b fun a => b.drop a.listener, (now, e) :: h⟩

variable {x y : Wire} {b : Bus} {h : History} {now : Nat} {t : Task} {a : Attempt}

structure Wired (x : Wire) : Prop where
  fresh : ∀ time t a, (time, .listened t a) ∈ x.history → a.listener < x.bus.next
  own : ∀ time t a time' u c, (time, .listened t a) ∈ x.history → (time', .listened u c) ∈ x.history →
    a.listener = c.listener → t = u ∧ a = c
  unborn : ∀ l, x.bus.next ≤ l → x.bus.queue? l = none
  queue : ∀ t a, awaited t x.history = some a → ∃ queue, x.bus.queue? a.listener = some queue ∧
    (refusal t x.history = none → (heard t x.history).map Prod.snd = a.reply? queue)
  unread : ∀ t a, awaited t x.history = some a → (a.unread x.bus).length = backlog t x.history
  refused : ∀ t a, awaited t x.history = some a → refusal t x.history ≠ none → heard t x.history = none

-- What was listened for is all that counts, and nothing new is.
theorem Wired.same (wired : Wired ⟨b, h⟩) {c : Bus} (next : c.next = b.next)
    (unborn : ∀ l, b.next ≤ l → c.queue? l = none)
    (listened : ∀ time t a, (time, .listened t a) ∈ k → (time, .listened t a) ∈ h)
    (queue : ∀ t a, awaited t k = some a → ∃ queue, c.queue? a.listener = some queue ∧
      (refusal t k = none → (heard t k).map Prod.snd = a.reply? queue))
    (unread : ∀ t a, awaited t k = some a → (a.unread c).length = backlog t k)
    (refused : ∀ t a, awaited t k = some a → refusal t k ≠ none → heard t k = none) : Wired ⟨c, k⟩ where
  fresh time t a here := next ▸ wired.fresh time t a (listened time t a here)
  own time t a time' u c here there := wired.own time t a time' u c (listened _ _ _ here) (listened _ _ _ there)
  unborn l beyond := unborn l (next ▸ beyond)
  queue := queue
  unread := unread
  refused := refused

theorem listened_cons {e : Happening} (other : ∀ t a, e ≠ .listened t a) (time : Nat) (t : Task) (a : Attempt)
    (here : (time, .listened t a) ∈ (now, e) :: h) : (time, .listened t a) ∈ h := by
  rcases List.mem_cons.mp here with new | old
  · exact absurd (Prod.mk.inj new).2.symm (other t a)
  · exact old

theorem Wired.idle (wired : Wired ⟨b, h⟩) {e : Happening} (other : ∀ t, e.concerns t = false)
    (undelivered : e.isDelivered = false) (unskipped : ∀ t n, e ≠ .skipped t n) : Wired ⟨b, (now, e) :: h⟩ := by
  refine wired.same rfl wired.unborn (listened_cons ?_) ?_ ?_ ?_
  · intro t a same
    subst same
    simpa [Happening.concerns] using other t
  · intro t a on
    rw [awaited_skip (other t)] at on
    rw [refusal_skip (other t), heard_skip (other t) undelivered]
    exact wired.queue t a on
  · intro t a on
    rw [awaited_skip (other t)] at on
    rw [backlog_skip (other t) undelivered (unskipped t)]
    exact wired.unread t a on
  · intro t a on
    rw [awaited_skip (other t)] at on
    rw [refusal_skip (other t), heard_skip (other t) undelivered]
    exact wired.refused t a on

theorem Wired.deliver (wired : Wired ⟨b, h⟩) : Wired ⟨b.dispatch m, (now, .delivered m) :: h⟩ := by
  refine wired.same rfl ?_ (listened_cons (by simp)) ?_ ?_ ?_
  · intro l beyond
    rw [Bus.queue?_dispatch, wired.unborn l beyond]
    rfl
  · intro t a on
    rw [awaited_skip rfl] at on
    obtain ⟨queue, here, same⟩ := wired.queue t a on
    refine ⟨queue ++ [m], by rw [Bus.queue?_dispatch, here]; rfl, ?_⟩
    intro accepted
    rw [refusal_skip rfl] at accepted
    have same := same accepted
    rw [Attempt.reply?_append_singleton, ← same]
    have on : awaited t h = some a := on
    have accepted : refusal t h = none := accepted
    simp only [heard, on, accepted]
    cases heard t h with
    | some answer => simp
    | none => cases answer : m.reply? a.origin a.id <;> simp [answer]
  · intro t a on
    rw [awaited_skip rfl] at on
    obtain ⟨queue, here, _⟩ := wired.queue t a on
    have same := wired.unread t a on
    have here : b.queue? a.listener = some queue := here
    rw [Attempt.unread, here] at same
    rw [Attempt.unread, Bus.queue?_dispatch, here]
    simpa [backlog] using same
  · intro t a on refused
    rw [awaited_skip rfl] at on
    rw [refusal_skip rfl] at refused
    have silent := wired.refused t a on refused
    have refused : refusal t h ≠ none := refused
    have silent : heard t h = none := silent
    simp [heard, refused, silent]

theorem asked_own {message : Json} :
    awaited t ((now, .posted t message origin reason) :: (now, .listened t a) :: h) = some a := by
  simp [awaited, Happening.ends]

-- A request is no concern of another task.
theorem asked_apart {message : Json} (other : t ≠ u) :
    let k := (now, .posted t message origin reason) :: (now, .listened t a) :: h
    awaited u k = awaited u h ∧ refusal u k = refusal u h ∧ heard u k = heard u h ∧ backlog u k = backlog u h := by
  have posted : Happening.concerns u (.posted t message origin reason) = false := by
    simpa [Happening.concerns] using other
  have listened : Happening.concerns u (.listened t a) = false := by simpa [Happening.concerns] using other
  refine ⟨?_, ?_, ?_, ?_⟩
  · rw [awaited_skip posted, awaited_skip listened]
  · rw [refusal_skip posted, refusal_skip listened]
  · rw [heard_skip posted rfl, heard_skip listened rfl]
  · simp [backlog, other]

theorem Wired.ask (wired : Wired ⟨b, h⟩) {r : Request} : Wired ⟨b.subscribe.2,
    (now, .posted t r.encode origin reason) :: (now, .listened t ⟨b.next, origin, r.id, now + timeout⟩) :: h⟩ := by
  have older {time : Nat} {u : Task} {c : Attempt} (here : (time, .listened u c) ∈
      (now, Happening.posted t r.encode origin reason) ::
        (now, .listened t ⟨b.next, origin, r.id, now + timeout⟩) :: h) :
      (u = t ∧ c = ⟨b.next, origin, r.id, now + timeout⟩) ∨ (time, .listened u c) ∈ h := by
    rcases List.mem_cons.mp (listened_cons (by simp) time u c here) with new | old
    · cases new
      exact .inl ⟨rfl, rfl⟩
    · exact .inr old
  have empty : b.subscribe.2.queue? b.next = some [] := by
    rw [Bus.queue?_subscribe, wired.unborn b.next (Nat.le_refl _), if_pos rfl]
    rfl
  constructor
  case fresh =>
    intro time u c here
    rcases older here with ⟨_, rfl⟩ | old
    · exact Nat.lt_succ_self _
    · exact Nat.lt_succ_of_lt (wired.fresh time u c old)
  case own =>
    intro time u c time' v d here there same
    rcases older here with ⟨rfl, rfl⟩ | old <;> rcases older there with ⟨rfl, rfl⟩ | old'
    · exact ⟨rfl, rfl⟩
    · exact absurd same.symm (Nat.ne_of_lt (wired.fresh _ _ _ old'))
    · exact absurd same (Nat.ne_of_lt (wired.fresh _ _ _ old))
    · exact wired.own _ _ _ _ _ _ old old' same
  case unborn =>
    intro l beyond
    have beyond : b.next + 1 ≤ l := beyond
    rw [Bus.queue?_subscribe, wired.unborn l (Nat.le_of_succ_le beyond), if_neg (by omega)]
    rfl
  case queue =>
    intro u c on
    by_cases mine : t = u
    · subst mine
      cases asked_own.symm.trans on
      exact ⟨[], empty, fun _ => by simp [heard, Attempt.reply?_nil]⟩
    · obtain ⟨awaits, refuses, hears, _⟩ := asked_apart mine
      rw [awaits] at on
      rw [refuses, hears]
      obtain ⟨queue, here, same⟩ := wired.queue u c on
      have here : b.queue? c.listener = some queue := here
      exact ⟨queue, by rw [Bus.queue?_subscribe, here]; rfl, same⟩
  case unread =>
    intro u c on
    by_cases mine : t = u
    · subst mine
      cases asked_own.symm.trans on
      rw [Attempt.unread, empty]
      simp [backlog]
    · obtain ⟨awaits, _, _, waiting⟩ := asked_apart mine
      rw [awaits] at on
      rw [waiting, ← wired.unread u c on]
      obtain ⟨queue, here, _⟩ := wired.queue u c on
      have here : b.queue? c.listener = some queue := here
      rw [Attempt.unread, Attempt.unread, Bus.queue?_subscribe, here]
      rfl
  case refused =>
    intro u c on refused
    by_cases mine : t = u
    · subst mine
      simp [heard]
    · obtain ⟨awaits, refuses, hears, _⟩ := asked_apart mine
      rw [awaits] at on
      rw [refuses] at refused
      rw [hears]
      exact wired.refused u c on refused

-- Two tasks never listen with the same number.
theorem Wired.listener (wired : Wired ⟨b, h⟩) (here : ∃ time, (time, .listened t a) ∈ h) (on : awaited u h = some c)
    (other : t ≠ u) : c.listener ≠ a.listener := by
  intro same
  obtain ⟨time, here⟩ := here
  obtain ⟨time', there⟩ := awaited_listened on
  exact other (wired.own _ _ _ _ _ _ here there same.symm).1

-- What is found among what was not received is what has been heard.
theorem Wired.found (wired : Wired ⟨b, h⟩) (on : awaited t h = some a) (accepted : refusal t h = none) :
    a.reply? (a.unread b) = (heard t h).map Prod.snd := by
  obtain ⟨queue, here, same⟩ := wired.queue t a on
  have here : b.queue? a.listener = some queue := here
  rw [Attempt.unread, here]
  exact (same accepted).symm

theorem Wired.answered (wired : Wired ⟨b, h⟩) (on : awaited t h = some a) (accepted : refusal t h = none)
    (found : a.reply? (a.unread b) = some o) : ∃ time, heard t h = some (time, o) := by
  obtain ⟨⟨time, o'⟩, there, rfl⟩ := Option.map_eq_some_iff.mp ((wired.found on accepted).symm.trans found)
  exact ⟨time, there⟩

theorem Wired.unheard (wired : Wired ⟨b, h⟩) (on : awaited t h = some a) (received : a.unread b = []) :
    heard t h = none := by
  by_cases accepted : refusal t h = none
  · exact Option.map_eq_none_iff.mp ((wired.found on accepted).symm.trans (by rw [received]; rfl))
  · exact wired.refused t a on accepted

theorem Wired.skip (wired : Wired ⟨b, h⟩) (on : awaited t h = some a)
    (silent : a.reply? ((a.unread b).take n) = none) :
    Wired ⟨b.setQueue a.listener ((a.unread b).drop n), (now, .skipped t n) :: h⟩ := by
  have others {u : Task} {c : Attempt} (on' : awaited u h = some c) (mine : t ≠ u) :
      (b.setQueue a.listener ((a.unread b).drop n)).queue? c.listener = b.queue? c.listener :=
    Bus.queue?_setQueue.trans (if_neg (wired.listener (awaited_listened on) on' mine))
  obtain ⟨mine, here, same⟩ := wired.queue t a on
  have here : b.queue? a.listener = some mine := here
  have unread : a.unread b = mine := by rw [Attempt.unread, here]; rfl
  refine wired.same rfl ?_ (listened_cons (by simp)) ?_ ?_ ?_
  · intro l beyond
    rw [Bus.queue?_setQueue, wired.unborn l beyond]
    split <;> rfl
  · intro u c on'
    rw [awaited_skip rfl] at on'
    rw [refusal_skip rfl, heard_skip rfl rfl]
    by_cases own : t = u
    · subst own
      cases on.symm.trans on'
      refine ⟨(a.unread b).drop n, by rw [Bus.queue?_setQueue, if_pos rfl, here]; rfl, ?_⟩
      intro accepted
      rw [Attempt.reply?_drop silent, unread]
      exact same accepted
    · rw [others on' own]
      exact wired.queue u c on'
  · intro u c on'
    rw [awaited_skip rfl] at on'
    have before := wired.unread u c on'
    by_cases own : t = u
    · subst own
      cases on.symm.trans on'
      rw [Attempt.unread_setQueue here, List.length_drop, before]
      simp [backlog]
    · rw [Attempt.unread, others on' own]
      simpa [backlog, own, Attempt.unread] using before
  · intro u c on'
    rw [awaited_skip rfl] at on'
    rw [refusal_skip rfl, heard_skip rfl rfl]
    exact wired.refused u c on'

-- A task is done with its attempt; what the others await is as it was.
theorem Wired.ended (wired : Wired ⟨b, h⟩) (held : Option Attempt)
    (own : ∀ a, held = some a → ∃ time, (time, .listened t a) ∈ h) {e : Happening} (ends : e.ends t = true) :
    Wired ⟨held.elim b fun a => b.drop a.listener, (now, e) :: h⟩ := by
  have others (u : Task) (other : t ≠ u) : e.concerns u = false := Happening.ends_apart ends other
  have undelivered : e.isDelivered = false := Happening.ends_undelivered ends
  have unheard (u : Task) (c : Attempt) : e ≠ .listened u c := by
    rintro rfl
    cases ends
  have queue (l : Nat) (free : ∀ a, held = some a → l ≠ a.listener) :
      (held.elim b fun a => b.drop a.listener).queue? l = b.queue? l := by
    cases held with
    | none => rfl
    | some a => exact Bus.queue?_drop.trans (if_neg (free a rfl))
  refine wired.same ?_ ?_ (listened_cons unheard) ?_ ?_ ?_
  · cases held <;> rfl
  · intro l beyond
    rw [queue l fun a mine => ?_, wired.unborn l beyond]
    obtain ⟨time, here⟩ := own a mine
    have fresh := wired.fresh time t a here
    have beyond : b.next ≤ l := beyond
    have fresh : a.listener < b.next := fresh
    omega
  · intro u c on
    obtain ⟨other, on⟩ := awaited_before ends on
    rw [refusal_skip (others u other), heard_skip (others u other) undelivered]
    rw [queue c.listener fun a held => wired.listener (own a held) on other]
    exact wired.queue u c on
  · intro u c on
    obtain ⟨other, on⟩ := awaited_before ends on
    rw [Attempt.unread, queue c.listener fun a held => wired.listener (own a held) on other,
      backlog_skip (others u other) undelivered fun n same => by rw [same] at ends; cases ends]
    exact wired.unread u c on
  · intro u c on refused
    obtain ⟨other, on⟩ := awaited_before ends on
    rw [refusal_skip (others u other)] at refused
    rw [heard_skip (others u other) undelivered]
    exact wired.refused u c on refused

theorem mute_skips {e : Happening} (silent : e.mute = true) :
    (∀ t, e.concerns t = false) ∧ e.isDelivered = false ∧ ∀ t n, e ≠ .skipped t n := by
  refine ⟨?_, ?_, ?_⟩
  · cases e <;> first | exact fun _ => rfl | cases silent
  · cases e <;> first | rfl | cases silent
  · rintro t n rfl
    cases silent

theorem mute_free {e : Happening} (silent : e.mute = true) : e.cost t = 0 := by
  cases e <;> first | rfl | cases silent

theorem Wired.reported (wired : Wired ⟨b, h⟩) : Wired ⟨b, reported now t o h⟩ := by
  cases t with
  | call n => exact wired.idle (fun _ => rfl) rfl (by simp)
  | popup i => exact wired

theorem Wired.conclude (wired : Wired ⟨b, h⟩) (on : awaited t h = some a) :
    Wired ⟨b.drop a.listener, Wire.reported now t o ((now, .concluded t a o) :: h)⟩ := by
  refine (wired.ended (t := t) (some a) ?_ (by simp [Happening.ends])).reported
  intro c mine
  cases mine
  exact awaited_listened on

theorem Signal.wired (signal : Signal now x y) (wired : Wired x) : Wired y := by
  cases signal with
  | mute silent => exact wired.idle (mute_skips silent).1 (mute_skips silent).2.1 (mute_skips silent).2.2
  | deliver => exact wired.deliver
  | ask free => exact wired.ask
  | skip on silent => exact wired.skip on silent
  | resume free => exact wired.idle (fun _ => rfl) rfl (by simp)
  | refused on | answered on | lapsed on => exact wired.conclude on
  | hangUp ends unsaid all own => exact wired.ended _ own ends

end Wire

namespace Sitting

def wire (s : Sitting) : Wire := ⟨s.bus, s.history⟩

variable {w : Surroundings} {setup : Setup} {s s' : Sitting} {t : Task} {v : Option Task}

abbrev Signals (now : Nat) : Wire → Wire → Prop := Relation.ReflTransGen (Wire.Signal now)

-- The calls that list a folder give neither a reply nor a choice.
def Mere (s : Sitting) : Prop :=
  ∀ n l arrival result after, (n, .listing l arrival result after) ∈ s.calls → after = .done ∨ after = .chosen none

theorem settle_signals (here : s.popups[i]? = some p)
    (all : ∀ a, s.awaits (.popup i) = some a → p.stage.attempt? = some a)
    (own : ∀ a, p.stage.attempt? = some a → ∃ time, (time, .listened (.popup i) a) ∈ s.history) :
    Signals s.now s.wire (settle i o s).wire := by
  have held : s.popups[i]?.bind (·.stage.attempt?) = p.stage.attempt? := by rw [here]; rfl
  have closed : Wire.Signal s.now s.wire
      ⟨s.bus, (s.now, .closed i ((s.hangUp p.stage.attempt?).popups[i]?.any (!·.closed))) :: s.history⟩ := .mute rfl
  refine .tail (.single closed) ?_
  simp only [wire, settle, held]
  refine .hangUp (t := .popup i) (by simp [Happening.ends]) (by simp) (fun a on => all a ?_) ?_
  · simpa [awaits, awaited, Happening.ends] using on
  · intro a mine
    exact happened_later (own a mine)

theorem endSession_signals (mute : ∀ i, (h i).mute = true) : Signals s.now s.wire (endSession h mark phase s).wire := by
  unfold endSession
  split
  · exact .refl
  · exact .tail (.single (.mute (mute _))) (.mute rfl)

theorem beginSession_signals : Signals s.now s.wire (beginSession w setup s).2.wire := by
  unfold beginSession
  split
  · exact .single (.mute rfl)
  · dsimp only
    split <;> exact .single (.mute rfl)

theorem mere_mute (mere : r = .done ∨ r = .chosen none) : (Happening.finished n r).mute = true := by
  rcases mere with rfl | rfl <;> rfl

theorem Change.mere (change : Change s n after f) : after = .done ∨ after = .chosen none := by
  cases change with
  | enter => exact .inr rfl
  | _ => exact .inl rfl

theorem Plain.mute (plain : Plain setup s n r) : (Happening.finished n r).mute = true := by
  cases plain with
  | refused change => exact mere_mute change.mere
  | _ => rfl

theorem concluded_signal (on : s.awaits t = some a) (ends : s.Ends t a o) :
    Wire.Signal s.now s.wire
      ⟨s.bus.drop a.listener, Wire.reported s.now t o ((s.now, .concluded t a o) :: s.history)⟩ := by
  cases ends with
  | refused refused => exact .refused on refused
  | answered accepted found => exact .answered on accepted found
  | lapsed accepted late through => exact .lapsed on accepted late through

theorem reported_wire : (report t o (conclude t a o s)).wire =
    ⟨s.bus.drop a.listener, Wire.reported s.now t o ((s.now, .concluded t a o) :: s.history)⟩ := by
  cases t <;> rfl

theorem answer_signals (here : s.popups[i]? = some p) (on : s.awaits (.popup i) = some a)
    (old : ∀ b, p.stage.attempt? = some b → ∃ time, (time, .listened (.popup i) b) ∈ s.history)
    (ends : s.Ends (.popup i) a o) : Signals s.now s.wire (settle i (closing o) (conclude (.popup i) a o s)).wire := by
  refine .head (concluded_signal on ends)
    (settle_signals (s := conclude (.popup i) a o s) here ?_ ?_)
  · intro b again
    cases concluded_holds.awaits.symm.trans again
  · intro b mine
    exact happened_later (old b mine)

theorem waiting_listened {p : Popup} {talk : Talk} (stage : p.stage = .waiting deadline nextLook talk)
    (held : s.awaits t = talk.attempt?) (b : Attempt) (mine : p.stage.attempt? = some b) :
    ∃ time, (time, .listened t b) ∈ s.history := by
  rw [stage] at mine
  exact awaited_listened (held.trans mine)

theorem gone_signals (here : s.popups[i]? = some p) (stage : p.stage = .waiting deadline nextLook talk)
    (held : s.awaits (.popup i) = talk.attempt?) : Signals s.now s.wire (settle i o (s.record (.looked i))).wire := by
  have looked : Wire.Signal s.now s.wire (s.record (.looked i)).wire := .mute rfl
  have same : p.stage.attempt? = s.awaits (.popup i) := by rw [stage, held]; rfl
  refine .head looked
    (settle_signals (s := s.record (.looked i)) here (fun a on => same.trans on) ?_)
  intro a mine
  exact happened_later (waiting_listened stage held a mine)

theorem drop_signals (held : s.awaits (.call n) = p.attempt?) : Signals s.now s.wire (s.dropCall n p).wire := by
  refine .single (.hangUp (t := .call n) (by simp [Happening.ends]) (by simp) ?_ ?_)
  · intro a on
    exact held.symm.trans on
  · intro a mine
    exact awaited_listened (held.trans mine)

theorem Move.signals (move : Move w setup v s s') (mere : s.Mere) : Signals s.now s.wire s'.wire := by
  cases move with
  | deliver => exact .single .deliver
  | ask asks free => exact .single (.ask free)
  | skip on silent => exact .single (.skip on silent)
  | resume free => exact .single (.resume free)
  | conclude on ends retry =>
    rw [reported_wire]
    exact .single (concluded_signal on ends)
  | gone here going stage early time absent held => exact gone_signals here stage held
  | settle here unsettled held cause =>
    exact settle_signals here (fun a on => held ▸ on) fun a mine => awaited_listened (held.trans mine)
  | answer here going on old ends answer => exact answer_signals here on old ends
  | begin => exact beginSession_signals
  | complete | cancel => exact endSession_signals fun _ => rfl
  | list change asked reply => exact .tail (.single (.mute rfl)) (.mute (mere_mute change.mere))
  | arrive waiting time => exact .single (.mute (mere_mute (mere _ _ _ _ _ (Lookup.mem waiting))))
  | done plain => exact .single (.mute plain.mute)
  | drop here held => exact drop_signals held
  | look | fail | launch | leave => exact .single (.mute rfl)
  | _ => exact .refl

theorem Mere.kept (mere : s.Mere) (calls : ∀ n l arrival result after,
    (n, .listing l arrival result after) ∈ s'.calls → (n, .listing l arrival result after) ∈ s.calls) : s'.Mere :=
  fun n l arrival result after here => mere n l arrival result after (calls n l arrival result after here)

theorem Move.mere (move : Move w setup v s s') (mere : s.Mere) : s'.Mere := by
  have ended {n : Nat} {r : CallResult} {s₁ : Sitting} (calls : s₁.calls = s.calls) : (s₁.endCall n r).Mere :=
    mere.kept fun _ _ _ _ _ here => calls ▸ (mem_removeCall here).1
  have set {n : Nat} {q : Pending} {s₁ : Sitting} (calls : s₁.calls = s.calls)
      (plain : ∀ l arrival result after, q = .listing l arrival result after → after = .done ∨ after = .chosen none) :
      (s₁.setCall n q).Mere := by
    intro m l arrival result after here
    rcases mem_setCall here with new | ⟨old, _⟩
    · exact plain l arrival result after (Prod.mk.inj new).2.symm
    · exact mere m l arrival result after (calls ▸ old)
  have beside (beside : Beside s s') : s'.Mere := by
    apply mere.kept
    intro n l arrival result after here
    rwa [← beside.calls]
  cases move with
  | conclude =>
    apply mere.kept
    intro _ _ _ _ _ here
    exact report_calls (s := Sitting.conclude _ _ _ s) here
  | begin => exact beside beginSession_beside
  | complete => exact beside completeSession_beside
  | cancel => exact beside cancelSession_beside
  | await | join | attend => exact set rfl fun _ _ _ _ same => by cases same
  | fail | list | arrive | done => exact ended rfl
  | launch change asked reply slow =>
    apply set rfl
    intro l arrival result after same
    cases same
    exact change.mere
  | start =>
    apply mere.kept
    intro m l arrival result after here
    rcases List.mem_append.mp here with old | new
    · exact old
    · cases List.mem_singleton.mp new
  | drop => exact mere.kept fun _ _ _ _ _ here => (mem_removeCall here).1
  | _ => exact mere

-- What every signal keeps is kept by every move.
theorem Move.wire (move : Move w setup v s s') (mere : s.Mere) {P : Wire → Prop}
    (kept : ∀ x y, Wire.Signal s.now x y → P x → P y) (here : P s.wire) : P s'.wire := by
  have all (y : Wire) (signals : Signals s.now s.wire y) : P y := by
    induction signals with
    | refl => exact here
    | tail _ signal ih => exact kept _ _ signal ih
  exact all _ (move.signals mere)

theorem Move.wired (move : Move w setup v s s') (mere : s.Mere) (wired : s.wire.Wired) : s'.wire.Wired :=
  move.wire mere (fun _ _ signal => signal.wired) wired

theorem initial_wired : Sitting.initial.wire.Wired where
  fresh _ _ _ here := absurd here List.not_mem_nil
  own _ _ _ _ _ _ here := absurd here List.not_mem_nil
  unborn _ _ := rfl
  queue _ _ on := by cases on
  unread _ _ on := by cases on
  refused _ _ on := by cases on

end Sitting
end CourseFiles
