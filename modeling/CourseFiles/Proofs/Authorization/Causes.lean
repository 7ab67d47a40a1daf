import CourseFiles.Proofs.Sitting.Promptness

namespace CourseFiles

open History

-- Each with the time it first happened; a reply is one as long as its request is not given up. The window may be gone
-- from the beginning; it was looked at that often while it was there.
structure Causes where
  opened : Nat
  cancelled : Option Nat
  completed : Option Nat
  reply : Option (Nat × CallOutcome)
  gone : Option Nat
  looks : Nat

namespace Happening

def opening? (i : Nat) : Happening → Option Bool
  | .opened j absent _ _ _ => if j = i then some absent else none
  | _ => none

-- Whether the causes have to do with it.
def bears (i : Nat) : Happening → Bool
  | .opened j .. => j = i
  | .cancelled j => j = i
  | .completed j => j = i
  | .left j => j = i
  | .looked j => j = i
  | .delivered _ => true
  | .concluded t _ (.error (.timeout _)) => t = .popup i
  | _ => false

end Happening

namespace History

-- What a message says to what a task awaits when it comes.
def answered (t : Task) (now : Nat) (m : Message) (h : History) : Option (Nat × CallOutcome) :=
  if refusal t h = none then (awaited t h).bind fun a => (m.reply? a.origin a.id).map (now, ·) else none

end History

namespace Causes

def note (i now : Nat) (h : History) (e : Happening) (c : Causes) : Causes :=
  match e with
  | .cancelled j => if j = i then { c with cancelled := c.cancelled.or (some now) } else c
  | .completed j => if j = i then { c with completed := c.completed.or (some now) } else c
  | .left j => if j = i then { c with gone := c.gone.or (some now) } else c
  | .looked j => if j = i ∧ c.gone = none then { c with looks := c.looks + 1 } else c
  | .delivered m => { c with reply := c.reply.or (answered (.popup i) now m h) }
  | .concluded t _ (.error (.timeout _)) => if t = .popup i then { c with reply := none } else c
  | _ => c

-- The first look at which a window that is gone can be noticed, given which is the first to come.
def noticed (setup : Setup) (first : Nat) (c : Causes) : Option Nat :=
  c.gone.map fun time =>
    let pause := setup.settings.pollPause
    c.opened + max first ((time - c.opened + (pause - 1)) / pause) * pause

def all (setup : Setup) (first : Nat) (c : Causes) : List (Nat × SessionOutcome) :=
  (c.cancelled.map (·, .error .cancelled)).toList ++ ((c.completed.map (·, .ok ())).toList ++
    ((c.reply.map fun r => (r.1, Sitting.closing r.2)).toList ++
      (c.opened + setup.settings.sessionTimeout, .error .timedOut) ::
        ((c.noticed setup first).map (·, .error .windowClosed)).toList))

def earliest : List (Nat × SessionOutcome) → Option (Nat × SessionOutcome)
  | [] => none
  | cause :: rest =>
    match earliest rest with
    | none => some cause
    | some other => if other.1 < cause.1 then some other else some cause

def decision (setup : Setup) (first : Nat) (c : Causes) : Option (Nat × SessionOutcome) := earliest (c.all setup first)

-- The window was gone after the last look at it, and before the next was due.
def Watched (setup : Setup) (c : Causes) : Prop :=
  ∀ time, c.gone = some time → c.opened + (c.looks - 1) * setup.settings.pollPause ≤ time ∧
    time ≤ c.opened + c.looks * setup.settings.pollPause

end Causes

namespace History

def causes (i : Nat) : History → Option Causes
  | [] => none
  | (now, e) :: h =>
    match e.opening? i with
    | some closed => some ⟨now, none, none, none, if closed then some now else none, 0⟩
    | none => (causes i h).map (·.note i now h e)

variable {t : Task} {i now : Nat} {h : History} {m : Message} {c : Causes}

theorem heard_delivered : heard t ((now, .delivered m) :: h) = (heard t h).or (answered t now m h) := by
  simp only [heard, answered]
  cases heard t h <;> simp

theorem causes_skip {e : Happening} (other : e.bears i = false) : causes i ((now, e) :: h) = causes i h := by
  have unopened : e.opening? i = none := by
    cases e <;> simp_all [Happening.opening?, Happening.bears]
  have same (c : Causes) : c.note i now h e = c := by
    cases e with
    | concluded t a o =>
      rcases o with (sender | _ | _ | _) | _
      · have other : ¬ t = .popup i := by simpa [Happening.bears] using other
        simp [Causes.note, other]
      all_goals rfl
    | _ => simp_all [Causes.note, Happening.bears]
  simp only [causes, unopened, same, Option.map_id']

-- An answer and a post that failed are no lapse of time.
theorem concluded_unborne (other : t ≠ .popup i ∨ ∀ sender, o ≠ .error (.timeout sender)) :
    (Happening.concluded t a o).bears i = false := by
  rcases o with (sender | _ | _ | _) | _
  · simpa [Happening.bears] using other
  all_goals rfl

end History

namespace Causes

variable {setup : Setup} {first time : Nat} {c : Causes} {o : SessionOutcome}
  {l front back : List (Nat × SessionOutcome)}

theorem earliest_none (nothing : earliest l = none) : l = [] := by
  cases l with
  | nil => rfl
  | cons x l =>
    unfold earliest at nothing
    split at nothing
    · cases nothing
    · split at nothing <;> cases nothing

theorem earliest_least (found : earliest l = some d) : d ∈ l ∧ ∀ x ∈ l, d.1 ≤ x.1 := by
  induction l generalizing d with
  | nil => cases found
  | cons x l ih =>
    unfold earliest at found
    split at found
    · rename_i nothing
      cases found
      simp [earliest_none nothing]
    · rename_i y rest
      obtain ⟨there, least⟩ := ih rest
      split at found <;> rename_i order <;> cases found
      · refine ⟨List.mem_cons_of_mem _ there, ?_⟩
        intro z here
        rcases List.mem_cons.mp here with rfl | here
        · exact Nat.le_of_lt order
        · exact least z here
      · refine ⟨List.mem_cons_self, ?_⟩
        intro z here
        rcases List.mem_cons.mp here with rfl | here
        · exact Nat.le_refl _
        · exact Nat.le_trans (Nat.le_of_not_lt order) (least z here)

-- It decides when all that is named before comes later, and nothing that is named after it comes earlier.
theorem earliest_of (before : ∀ d ∈ front, time < d.1) (after : ∀ d ∈ back, time ≤ d.1) :
    earliest (front ++ (time, o) :: back) = some (time, o) := by
  induction front with
  | nil =>
    simp only [List.nil_append, earliest]
    split
    · rfl
    · rename_i d found
      rw [if_neg (Nat.not_lt.mpr (after d (earliest_least found).1))]
  | cons x front ih =>
    have rest := ih fun d here => before d (List.mem_cons_of_mem _ here)
    simp only [List.cons_append, earliest, rest]
    rw [if_pos (before x List.mem_cons_self)]

theorem earliest_split (decided : earliest l = some (time, o)) : ∃ front back, l = front ++ (time, o) :: back ∧
    (∀ d ∈ front, time < d.1) ∧ ∀ d ∈ back, time ≤ d.1 := by
  induction l with
  | nil => cases decided
  | cons x l ih =>
    have least := (earliest_least decided).2
    unfold earliest at decided
    split at decided
    · rename_i nothing
      cases decided
      exact ⟨[], l, rfl, by simp, by simp [earliest_none nothing]⟩
    · rename_i y found
      split at decided <;> rename_i order <;> cases decided
      · obtain ⟨front, back, rfl, before, after⟩ := ih found
        exact ⟨x :: front, back, rfl, List.forall_mem_cons.mpr ⟨order, before⟩, after⟩
      · exact ⟨[], l, rfl, by simp, fun d here => least d (List.mem_cons_of_mem _ here)⟩

-- What decides in favour of the session is not late in any respect.
theorem decision_ok (decided : c.decision setup first = some (time, .ok ())) :
    (c.completed = some time ∨ ∃ j, c.reply = some (time, .ok j)) ∧ time ≤ c.opened + setup.settings.sessionTimeout ∧
      (∀ cancelled, c.cancelled = some cancelled → time < cancelled) ∧
      ∀ look, c.noticed setup first = some look → time ≤ look := by
  obtain ⟨here, least⟩ := earliest_least decided
  refine ⟨?_, least (c.opened + setup.settings.sessionTimeout, .error .timedOut) (by simp [all]), ?_, ?_⟩
  · simp only [all, List.mem_append, List.mem_cons, Option.mem_toList, Option.map_eq_some_iff] at here
    rcases here with ⟨_, _, same⟩ | ⟨_, there, same⟩ | ⟨⟨_, o⟩, there, same⟩ | same | ⟨_, _, same⟩
    · cases same
    · cases same
      exact .inl there
    · cases o with
      | ok j =>
        cases same
        exact .inr ⟨j, there⟩
      | error e => cases same
    · cases same
    · cases same
  · intro cancelled marked
    obtain ⟨front, back, split, before, _⟩ := earliest_split decided
    rw [all, marked] at split
    cases front with
    | nil => cases split
    | cons x front =>
      cases (List.cons.inj split).1
      exact before _ List.mem_cons_self
  · intro look there
    exact least (look, .error .windowClosed) (by simp [all, there])

-- Only a look that was made at the very instant at which the window went, before it did, is not made again.
theorem Watched.fresh (watched : c.Watched setup)
    (apart : ∀ left, c.gone = some left → 0 < c.looks → left ≠ c.opened + (c.looks - 1) * setup.settings.pollPause) :
    c.decision setup c.looks = c.decision setup 0 := by
  have noticed : c.noticed setup c.looks = c.noticed setup 0 := by
    unfold Causes.noticed
    cases gone : c.gone with
    | none => rfl
    | some left =>
      have positive : 0 < setup.settings.pollPause := Nat.lt_of_lt_of_le Nat.zero_lt_one (Nat.le_max_right _ _)
      have enough : c.looks ≤ (left - c.opened + (setup.settings.pollPause - 1)) / setup.settings.pollPause := by
        rw [Nat.le_div_iff_mul_le positive]
        have after := (watched left gone).1
        have other := apart left gone
        cases looks : c.looks with
        | zero => simp
        | succ k =>
          rw [looks] at after other
          have other := other (Nat.succ_pos k)
          rw [Nat.succ_mul]
          simp only [Nat.add_sub_cancel] at after other
          omega
      simp [Nat.max_eq_right enough]
  rw [decision, decision, all, all, noticed]

end Causes

-- What is known of the causes while a session goes on: each that has come is as old as now, since no time passes
-- until the session has seen it, and what is still to come was not missed.
structure Reckons (setup : Setup) (now : Nat) (h : History) (i : Nat) (p : Popup) (c : Causes) : Prop where
  cancelled : c.cancelled = if p.cancelled then some now else none
  completed : c.completed = if p.finished then some now else none
  waiting : ∀ a, awaited (.popup i) h = some a → c.reply = heard (.popup i) h
  free : awaited (.popup i) h = none → c.reply = none
  gone : p.Going → (p.closed = true ↔ c.gone ≠ none)
  opened : p.stage = .opened → c.opened = now ∧ c.looks = 0
  waits : ∀ deadline nextLook talk, p.stage = .waiting deadline nextLook talk →
    deadline = c.opened + setup.settings.sessionTimeout ∧ nextLook = c.opened + c.looks * setup.settings.pollPause ∧
      now ≤ deadline ∧ now ≤ nextLook
  looked : c.opened + (c.looks - 1) * setup.settings.pollPause ≤ now
  watched : c.Watched setup

namespace Reckons

variable {setup : Setup} {now i : Nat} {h : History} {p q : Popup} {c : Causes}

-- A popup that has just been opened.
theorem begin {absent : Bool} (free : awaited (.popup i) h = none) (unmarked : p.Going) (opened : p.stage = .opened)
    (closed : p.closed = absent) : Reckons setup now h i p
      ⟨now, none, none, none, if absent then some now else none, 0⟩ where
  cancelled := by simp [unmarked.notCancelled]
  completed := by simp [unmarked.notFinished]
  waiting a on := by cases free.symm.trans on
  free _ := rfl
  gone _ := by cases absent <;> simp [closed]
  opened _ := ⟨rfl, rfl⟩
  waits _ _ _ stage := by cases opened.symm.trans stage
  looked := by simp
  watched time gone := by
    cases absent <;> cases gone
    simp

-- Neither the end of the session nor the next look was missed.
theorem bounds (reckons : Reckons setup now h i p c) (unsettled : p.stage.outcome? = none) :
    now ≤ c.opened + setup.settings.sessionTimeout ∧ now ≤ c.opened + c.looks * setup.settings.pollPause := by
  cases stage : p.stage with
  | opened =>
    obtain ⟨same, _⟩ := reckons.opened stage
    omega
  | waiting deadline nextLook talk =>
    obtain ⟨rfl, rfl, intime, unlooked⟩ := reckons.waits _ _ _ stage
    exact ⟨intime, unlooked⟩
  | settled o =>
    rw [stage] at unsettled
    cases unsettled

theorem noticed (reckons : Reckons setup now h i p c) (unsettled : p.stage.outcome? = none)
    (there : c.noticed setup c.looks = some time) : now ≤ time := by
  obtain ⟨gone, _, rfl⟩ := Option.map_eq_some_iff.mp there
  refine Nat.le_trans (reckons.bounds unsettled).2 (Nat.add_le_add_left ?_ _)
  exact Nat.mul_le_mul_right _ (Nat.le_max_left _ _)

theorem replied (reckons : Reckons setup now h i p c) (punctual : Punctual now (.popup i) h)
    (there : c.reply = some (time, o)) : time = now := by
  cases on : awaited (.popup i) h with
  | none => cases (reckons.free on).symm.trans there
  | some a => exact punctual.fresh a on time o ((reckons.waiting a on).symm.trans there)

-- What has come bears on what is done now.
theorem skip (reckons : Reckons setup now h i p c) {e : Happening} (unheard : e.isDelivered = false)
    (other : e.concerns (.popup i) = false) : Reckons setup now ((now, e) :: h) i p c := by
  refine { reckons with waiting := ?_, free := ?_ }
  · intro a on
    rw [awaited_skip other] at on
    rw [heard_skip other unheard]
    exact reckons.waiting a on
  · intro free
    rw [awaited_skip other] at free
    exact reckons.free free

theorem deliver (reckons : Reckons setup now h i p c) :
    Reckons setup now ((now, .delivered m) :: h) i p (c.note i now h (.delivered m)) := by
  refine { reckons with waiting := ?_, free := ?_ }
  · intro a on
    have on : awaited (.popup i) h = some a := on
    rw [heard_delivered, ← reckons.waiting a on]
    rfl
  · intro free
    have free : awaited (.popup i) h = none := free
    simp [Causes.note, answered, free, reckons.free free]

-- A request goes off once there is nothing left to wait for.
theorem ask (reckons : Reckons setup now h i p c) (free : awaited (.popup i) h = none) : Reckons setup now
    ((now, .posted (.popup i) message origin reason) :: (now, .listened (.popup i) a) :: h) i p c := by
  refine { reckons with waiting := ?_, free := ?_ }
  · intro b on
    rw [reckons.free free]
    simp [heard]
  · intro still
    simp [awaited, Happening.ends] at still

-- A request that is given up because it lapsed, whatever has come for it.
theorem lapse (reckons : Reckons setup now h i p c) (a : Attempt) (sender : String) :
    Reckons setup now ((now, .concluded (.popup i) a (.error (.timeout sender))) :: h) i p
      (c.note i now h (.concluded (.popup i) a (.error (.timeout sender)))) := by
  have ended : awaited (.popup i) ((now, .concluded (.popup i) a (.error (.timeout sender))) :: h) = none :=
    awaited_end (by simp [Happening.ends])
  have noted : c.note i now h (.concluded (.popup i) a (.error (.timeout sender))) = { c with reply := none } := by
    simp [Causes.note]
  rw [noted]
  refine { reckons with waiting := ?_, free := fun _ => rfl }
  intro b on
  cases ended.symm.trans on

-- A post that failed.
theorem refuse (reckons : Reckons setup now h i p c) (on : awaited (.popup i) h = some a)
    (unheard : heard (.popup i) h = none) : Reckons setup now ((now, .concluded (.popup i) a o) :: h) i p c := by
  have ended : awaited (.popup i) ((now, .concluded (.popup i) a o) :: h) = none :=
    awaited_end (by simp [Happening.ends])
  refine { reckons with waiting := ?_, free := fun _ => (reckons.waiting a on).trans unheard }
  intro b on
  cases ended.symm.trans on

-- The popup may change where that makes no difference to the causes.
theorem same (reckons : Reckons setup now h i p c) (cancelled : q.cancelled = p.cancelled)
    (finished : q.finished = p.finished) (closed : q.Going → q.closed = p.closed) (stage : q.stage = p.stage) :
    Reckons setup now h i q c := by
  have going (still : q.Going) : p.Going := ⟨cancelled ▸ still.1, finished ▸ still.2, stage ▸ still.3⟩
  refine { reckons with
    cancelled := cancelled ▸ reckons.cancelled, completed := finished ▸ reckons.completed, gone := ?_,
    opened := stage ▸ reckons.opened, waits := stage ▸ reckons.waits }
  intro still
  rw [closed still]
  exact reckons.gone (going still)

theorem leave (reckons : Reckons setup now h i p c) (unsettled : p.stage.outcome? = none) :
    Reckons setup now ((now, .left i) :: h) i { p with closed := true } (c.note i now h (.left i)) := by
  have skipped := reckons.skip (e := .left i) rfl rfl
  have noted : c.note i now h (.left i) = { c with gone := c.gone.or (some now) } := by simp [Causes.note]
  rw [noted]
  refine { skipped with gone := ?_, watched := ?_ }
  · intro _
    simp
  · intro time first
    rcases Option.or_eq_some_iff.mp first with old | ⟨_, new⟩
    · exact reckons.watched time old
    · cases new
      exact ⟨reckons.looked, (reckons.bounds unsettled).2⟩

theorem cancel (reckons : Reckons setup now h i p c) (going : p.Going) :
    Reckons setup now ((now, .cancelled i) :: h) i { p with cancelled := true, closed := true }
      (c.note i now h (.cancelled i)) := by
  have skipped := reckons.skip (e := .cancelled i) rfl rfl
  have unmarked : c.cancelled = none := by simpa [going.notCancelled] using reckons.cancelled
  have noted : c.note i now h (.cancelled i) = { c with cancelled := some now } := by simp [Causes.note, unmarked]
  rw [noted]
  refine { skipped with cancelled := rfl, gone := ?_ }
  intro still
  cases still.notCancelled

theorem complete (reckons : Reckons setup now h i p c) (going : p.Going) :
    Reckons setup now ((now, .completed i) :: h) i { p with finished := true, closed := true }
      (c.note i now h (.completed i)) := by
  have skipped := reckons.skip (e := .completed i) rfl rfl
  have unmarked : c.completed = none := by simpa [going.notFinished] using reckons.completed
  have noted : c.note i now h (.completed i) = { c with completed := some now } := by simp [Causes.note, unmarked]
  rw [noted]
  refine { skipped with completed := rfl, gone := ?_ }
  intro still
  cases still.notFinished

theorem wait (reckons : Reckons setup now h i p c) (going : p.Going)
    (stage : p.stage = .opened ∧ deadline = now + setup.settings.sessionTimeout ∧ nextLook = now ∨
      ∃ talk', p.stage = .waiting deadline nextLook talk') :
    Reckons setup now h i { p with stage := .waiting deadline nextLook talk } c := by
  refine { reckons with gone := fun _ => reckons.gone going, opened := by simp, waits := ?_ }
  intro _ _ _ same
  cases same
  rcases stage with ⟨stage, rfl, rfl⟩ | ⟨talk', stage⟩
  · obtain ⟨same, unlooked⟩ := reckons.opened stage
    rw [same, unlooked]
    omega
  · exact reckons.waits _ _ _ stage

-- A look comes exactly when it is due, and the next one a pause later.
theorem look (reckons : Reckons setup now h i p c) (going : p.Going) (stage : p.stage = .waiting deadline nextLook talk)
    (time : nextLook ≤ now) (present : p.closed = false) (once : 1 ≤ n)
    (few : n ≤ Sitting.looks now setup.settings.pollPause nextLook) : Reckons setup now ((now, .looked i) :: h) i
      { p with stage := .waiting deadline (nextLook + n * setup.settings.pollPause) talk }
      (c.note i now h (.looked i)) := by
  have skipped := reckons.skip (e := .looked i) rfl rfl
  have there : c.gone = none := by
    by_contra gone
    cases present.symm.trans ((reckons.gone going).mpr gone)
  have noted : c.note i now h (.looked i) = { c with looks := c.looks + 1 } := by simp [Causes.note, there]
  obtain ⟨rfl, due, intime, unlooked⟩ := reckons.waits _ _ _ stage
  cases Nat.le_antisymm time unlooked
  obtain rfl : n = 1 := by
    simp only [Sitting.looks, Nat.sub_self, Nat.zero_div] at few
    omega
  rw [noted]
  refine { skipped with
    gone := fun _ => reckons.gone going, opened := by simp, waits := ?_, looked := ?_,
    watched := fun _ gone => by cases there.symm.trans gone }
  · intro _ _ _ same
    cases same
    refine ⟨rfl, ?_, intime, Nat.le_add_right _ _⟩
    rw [due, Nat.one_mul, Nat.succ_mul, Nat.add_assoc]
  · exact Nat.le_of_eq due.symm

theorem elapse (reckons : Reckons setup now h i p c) (going : p.Going)
    (stage : p.stage = .waiting deadline nextLook talk) (intime : later ≤ deadline) (unlooked : later ≤ nextLook)
    (onward : now ≤ later) : Reckons setup later h i p c := by
  refine { reckons with
    cancelled := ?_, completed := ?_, opened := ?_, waits := ?_, looked := Nat.le_trans reckons.looked onward }
  · simpa [going.notCancelled] using reckons.cancelled
  · simpa [going.notFinished] using reckons.completed
  · intro opened
    cases stage.symm.trans opened
  · intro _ _ _ same
    obtain ⟨lapsed, look, _, _⟩ := reckons.waits _ _ _ same
    cases stage.symm.trans same
    exact ⟨lapsed, look, intime, unlooked⟩

-- While all tasks wait, every cause is still to come.
theorem ahead (reckons : Reckons setup now h i p c) (going : p.Going)
    (stage : p.stage = .waiting deadline nextLook talk) (early : now < deadline) (unlooked : now < nextLook)
    (silent : c.reply = none) (d : Nat × SessionOutcome) (here : d ∈ c.all setup c.looks) : now < d.1 := by
  obtain ⟨rfl, rfl, _, _⟩ := reckons.waits _ _ _ stage
  have cancelled : c.cancelled = none := by simpa [going.notCancelled] using reckons.cancelled
  have completed : c.completed = none := by simpa [going.notFinished] using reckons.completed
  simp only [Causes.all, cancelled, completed, silent, Option.map_none, Option.toList_none, List.nil_append,
    List.mem_cons, Option.mem_toList, Option.map_eq_some_iff] at here
  rcases here with rfl | ⟨time, there, rfl⟩
  · exact early
  · obtain ⟨left, _, rfl⟩ := Option.map_eq_some_iff.mp there
    refine Nat.lt_of_lt_of_le unlooked (Nat.add_le_add_left ?_ _)
    exact Nat.mul_le_mul_right _ (Nat.le_max_left _ _)

-- No cause was passed over.
theorem due (reckons : Reckons setup now h i p c) (unsettled : p.stage.outcome? = none)
    (punctual : Punctual now (.popup i) h) (d : Nat × SessionOutcome) (here : d ∈ c.all setup c.looks) :
    now ≤ d.1 := by
  simp only [Causes.all, List.mem_append, List.mem_cons, Option.mem_toList, Option.map_eq_some_iff] at here
  rcases here with ⟨time, there, rfl⟩ | ⟨time, there, rfl⟩ | ⟨⟨time, o⟩, there, rfl⟩ | rfl | ⟨time, there, rfl⟩
  · rw [reckons.cancelled] at there
    split at there <;> cases there
    exact Nat.le_refl _
  · rw [reckons.completed] at there
    split at there <;> cases there
    exact Nat.le_refl _
  · exact Nat.le_of_eq (reckons.replied punctual there).symm
  · exact (reckons.bounds unsettled).1
  · exact reckons.noticed unsettled there

theorem decides (reckons : Reckons setup now h i p c) (unsettled : p.stage.outcome? = none)
    (punctual : Punctual now (.popup i) h) (front : List (Nat × SessionOutcome)) (before : ∀ d ∈ front, now < d.1)
    (split : ∃ back, c.all setup c.looks = front ++ (now, o) :: back) : c.decision setup c.looks = some (now, o) := by
  obtain ⟨back, split⟩ := split
  rw [Causes.decision, split]
  refine Causes.earliest_of before fun d here => reckons.due unsettled punctual d ?_
  rw [split]
  exact List.mem_append_right _ (List.mem_cons_of_mem _ here)

theorem cancelled_decides (reckons : Reckons setup now h i p c) (unsettled : p.stage.outcome? = none)
    (punctual : Punctual now (.popup i) h) (marked : p.cancelled = true) :
    c.decision setup c.looks = some (now, .error .cancelled) := by
  have cause : c.cancelled = some now := by simpa [marked] using reckons.cancelled
  exact reckons.decides unsettled punctual [] (by simp) ⟨_, by rw [Causes.all, cause]; rfl⟩

theorem completed_decides (reckons : Reckons setup now h i p c) (unsettled : p.stage.outcome? = none)
    (punctual : Punctual now (.popup i) h) (notCancelled : p.cancelled = false) (marked : p.finished = true) :
    c.decision setup c.looks = some (now, .ok ()) := by
  have none_before : c.cancelled = none := by simpa [notCancelled] using reckons.cancelled
  have cause : c.completed = some now := by simpa [marked] using reckons.completed
  exact reckons.decides unsettled punctual [] (by simp) ⟨_, by rw [Causes.all, none_before, cause]; rfl⟩

-- Without a mark, an answer comes first.
theorem unmarked (reckons : Reckons setup now h i p c) (going : p.Going) :
    c.cancelled = none ∧ c.completed = none := by
  constructor
  · simpa [going.notCancelled] using reckons.cancelled
  · simpa [going.notFinished] using reckons.completed

theorem reply_decides (reckons : Reckons setup now h i p c) (going : p.Going)
    (punctual : Punctual now (.popup i) h) (cause : c.reply = some (now, o)) :
    c.decision setup c.looks = some (now, Sitting.closing o) := by
  obtain ⟨notCancelled, notCompleted⟩ := reckons.unmarked going
  exact reckons.decides going.unsettled punctual [] (by simp)
    ⟨_, by rw [Causes.all, notCancelled, notCompleted, cause]; rfl⟩

-- The end of the time comes first when no reply counts.
theorem time_decides (reckons : Reckons setup now h i p c) (going : p.Going)
    (stage : p.stage = .waiting deadline nextLook talk) (late : deadline ≤ now) :
    ({ c with reply := none } : Causes).decision setup c.looks = some (now, .error .timedOut) := by
  obtain ⟨notCancelled, notCompleted⟩ := reckons.unmarked going
  obtain ⟨rfl, _, intime, _⟩ := reckons.waits _ _ _ stage
  have lapsed := Nat.le_antisymm late intime
  have before (d : Nat × SessionOutcome) (here : d ∈ []) : now < d.1 := by cases here
  have after (d : Nat × SessionOutcome)
      (here : d ∈ ((c.noticed setup c.looks).map (·, Except.error .windowClosed)).toList) : now ≤ d.1 := by
    obtain ⟨time, there, rfl⟩ := Option.map_eq_some_iff.mp (Option.mem_toList.mp here)
    exact reckons.noticed going.unsettled there
  rw [Causes.decision, Causes.all, notCancelled, notCompleted, lapsed]
  exact Causes.earliest_of before after

theorem gone_decides (reckons : Reckons setup now h i p c) (going : p.Going)
    (punctual : Punctual now (.popup i) h) (silent : c.reply = none) (stage : p.stage = .waiting deadline nextLook talk)
    (early : now < deadline) (time : nextLook ≤ now) (absent : p.closed = true) :
    c.decision setup c.looks = some (now, .error .windowClosed) := by
  obtain ⟨notCancelled, notCompleted⟩ := reckons.unmarked going
  obtain ⟨rfl, due, _, unlooked⟩ := reckons.waits _ _ _ stage
  have now_due : now = c.opened + c.looks * setup.settings.pollPause := (Nat.le_antisymm time unlooked).symm.trans due
  obtain ⟨left, gone⟩ := Option.ne_none_iff_exists'.mp ((reckons.gone going).mp absent)
  have noticed : c.noticed setup c.looks = some now := by
    have positive : 0 < setup.settings.pollPause := Nat.lt_of_lt_of_le Nat.zero_lt_one (Nat.le_max_right _ _)
    have enough : (left - c.opened + (setup.settings.pollPause - 1)) / setup.settings.pollPause ≤ c.looks := by
      have before := (reckons.watched left gone).2
      rw [Nat.div_le_iff_le_mul_add_pred positive]
      rw [Nat.mul_comm]
      omega
    simp only [Causes.noticed, gone, Option.map_some, Nat.max_eq_left enough, ← now_due]
  exact reckons.decides going.unsettled punctual
    [(c.opened + setup.settings.sessionTimeout, .error .timedOut)] (by simpa using early)
    ⟨_, by rw [Causes.all, notCancelled, notCompleted, silent, noticed]; rfl⟩

end Reckons
end CourseFiles
