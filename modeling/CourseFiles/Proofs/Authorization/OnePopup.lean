import CourseFiles.Proofs.Sitting.Runs

namespace CourseFiles

open History

namespace Happening

-- Whether it opens, closes or touches a window.
def handles : Happening → Bool
  | .opened .. => true
  | .notOpened .. => true
  | .posted (.popup _) .. => true
  | .focused _ => true
  | .closed .. => true
  | _ => false

-- Whether the opener was called.
def opens : Happening → Bool
  | .opened .. => true
  | .notOpened .. => true
  | _ => false

end Happening

namespace History

def Opened (i : Nat) (h : History) : Prop :=
  ∃ time closed url name features, (time, .opened i closed url name features) ∈ h

-- The session has called for it to close, whether or not it was closed before.
def Closed (i : Nat) (h : History) : Prop := ∃ time wasOpen, (time, .closed i wasOpen) ∈ h

-- A window is opened when all before it have been closed; only one that is open and was not closed is touched.
def Proper (e : Nat × Happening) (h : History) : Prop :=
  match e.2 with
  | .opened i .. => ¬ Opened i h ∧ ∀ j, Opened j h → Closed j h
  | .notOpened .. => ∀ j, Opened j h → Closed j h
  | .posted (.popup i) .. => Opened i h ∧ ¬ Closed i h
  | .focused i => Opened i h ∧ ¬ Closed i h
  | _ => True

theorem opened_append (other : ∀ e ∈ newer, e.2.handles = false) : Opened i (newer ++ h) ↔ Opened i h := by
  constructor
  · rintro ⟨time, closed, url, name, features, here⟩
    rcases List.mem_append.mp here with new | old
    · cases other _ new
    · exact ⟨time, closed, url, name, features, old⟩
  · rintro ⟨time, closed, url, name, features, here⟩
    exact ⟨time, closed, url, name, features, List.mem_append_right _ here⟩

theorem closed_append (other : ∀ e ∈ newer, e.2.handles = false) : Closed i (newer ++ h) ↔ Closed i h := by
  constructor
  · rintro ⟨time, wasOpen, here⟩
    rcases List.mem_append.mp here with new | old
    · cases other _ new
    · exact ⟨time, wasOpen, old⟩
  · rintro ⟨time, wasOpen, here⟩
    exact ⟨time, wasOpen, List.mem_append_right _ here⟩

theorem proper_unhandled {e : Nat × Happening} (other : e.2.handles = false) : Proper e h := by
  obtain ⟨time, e⟩ := e
  cases e with
  | posted t message origin reason =>
    cases t with
    | call n => trivial
    | popup i => cases other
  | opened | notOpened | focused | closed => cases other
  | _ => trivial

theorem Closed.before (still : ¬ Closed i (e :: h)) : ¬ Closed i h := by
  rintro ⟨time, wasOpen, here⟩
  exact still ⟨time, wasOpen, List.mem_cons_of_mem _ here⟩

theorem opened_cons : Opened i ((time, e) :: h) ↔
    (∃ closed url name features, e = .opened i closed url name features) ∨ Opened i h := by
  constructor
  · rintro ⟨_, closed, url, name, features, here⟩
    rcases List.mem_cons.mp here with new | old
    · exact .inl ⟨closed, url, name, features, (Prod.mk.inj new).2.symm⟩
    · exact .inr ⟨_, closed, url, name, features, old⟩
  · rintro (⟨closed, url, name, features, same⟩ | ⟨_, closed, url, name, features, here⟩)
    · exact ⟨time, closed, url, name, features, by rw [same]; exact List.mem_cons_self⟩
    · exact ⟨_, closed, url, name, features, List.mem_cons_of_mem _ here⟩

theorem closed_cons : Closed j ((time, .closed i wasOpen) :: h) ↔ j = i ∨ Closed j h := by
  constructor
  · rintro ⟨_, _, here⟩
    rcases List.mem_cons.mp here with new | old
    · cases new
      exact .inl rfl
    · exact .inr ⟨_, _, old⟩
  · rintro (rfl | ⟨_, _, here⟩)
    · exact ⟨_, _, List.mem_cons_self⟩
    · exact ⟨_, _, List.mem_cons_of_mem _ here⟩

theorem closed_other (unclosed : ∀ i wasOpen, e ≠ .closed i wasOpen) : Closed i ((time, e) :: h) ↔ Closed i h := by
  constructor
  · rintro ⟨_, _, here⟩
    rcases List.mem_cons.mp here with new | old
    · exact absurd (Prod.mk.inj new).2.symm (unclosed _ _)
    · exact ⟨_, _, old⟩
  · rintro ⟨_, _, here⟩
    exact ⟨_, _, List.mem_cons_of_mem _ here⟩

-- At most one popup is open and not closed, at any moment of the past.
theorem Every.single (every : Every Proper h) (here : Opened i h) (still : ¬ Closed i h) (there : Opened j h)
    (still' : ¬ Closed j h) : i = j := by
  induction h with
  | nil =>
    obtain ⟨_, _, _, _, _, here⟩ := here
    cases here
  | cons e h ih =>
    obtain ⟨time, e⟩ := e
    have before := Closed.before still
    have before' := Closed.before still'
    rcases opened_cons.mp here with ⟨closed, url, name, features, same⟩ | old <;>
      rcases opened_cons.mp there with ⟨closed', url', name', features', same'⟩ | old'
    · cases same
      cases same'
      rfl
    · cases same
      exact absurd (every.1.2 j old') before'
    · cases same'
      exact absurd (every.1.2 i old) before
    · exact ih every.2 old before old' before'

end History

namespace Sitting

structure Owned (s : Sitting) : Prop where
  phase : s.session.phase = .waiting ↔ s.session.live.isSome
  goes : ∀ i, s.session.live = some i ↔ s.Goes i
  stays : ∀ i, s.session.live = some i → ¬ Closed i s.history
  gone : ∀ i < s.popups.length, s.session.live ≠ some i → Closed i s.history
  numbered : ∀ i, Opened i s.history ↔ i < s.popups.length
  known : ∀ i, Closed i s.history → i < s.popups.length
  proper : Every Proper s.history

variable {w : Surroundings} {setup : Setup} {s s' : Sitting} {v : Option Task} {n i : Nat}

theorem initial_owned : Owned .initial := by
  have none (i : Nat) : ¬ Sitting.initial.Goes i := by
    rintro ⟨p, here, _⟩
    simp [initial] at here
  refine ⟨by decide, fun i => ⟨?_, fun goes => absurd goes (none i)⟩, ?_, ?_, fun i => ⟨?_, ?_⟩, ?_, trivial⟩
  · intro live
    cases live
  · intro i live
    cases live
  · intro i there
    cases there
  · rintro ⟨_, _, _, _, _, here⟩
    cases here
  · intro there
    cases there
  · rintro i ⟨_, _, here⟩
    cases here

theorem Owned.same (owned : Owned s) (phase : s'.session.phase = .waiting ↔ s'.session.live.isSome)
    (live : s'.session.live = s.session.live) (length : s'.popups.length = s.popups.length)
    (goes : ∀ i, s'.Goes i ↔ s.Goes i) (opened : ∀ i, Opened i s'.history ↔ Opened i s.history)
    (closed : ∀ i, Closed i s'.history ↔ Closed i s.history) (proper : Every Proper s'.history) : Owned s' := by
  refine ⟨phase, ?_, ?_, ?_, ?_, ?_, proper⟩
  · intro i
    rw [live, goes]
    exact owned.goes i
  · intro i here
    rw [closed]
    exact owned.stays i (live ▸ here)
  · intro i there dead
    rw [closed]
    exact owned.gone i (length ▸ there) (live ▸ dead)
  · intro i
    rw [opened, length]
    exact owned.numbered i
  · intro i past
    rw [length]
    exact owned.known i ((closed i).mp past)

-- What leaves the slot and the popups alone and touches no window.
theorem Owned.frame (owned : Owned s) (newer : History) (session : s'.session = s.session)
    (length : s'.popups.length = s.popups.length) (goes : ∀ i, s'.Goes i ↔ s.Goes i)
    (grown : s'.history = newer ++ s.history)
    (other : ∀ e ∈ newer, e.2.handles = false) : Owned s' := by
  refine owned.same (session ▸ owned.phase) (congrArg _ session) length goes ?_ ?_ ?_
  · intro i
    rw [grown, opened_append other]
  · intro i
    rw [grown, closed_append other]
  · rw [grown]
    exact owned.proper.append fun e here h => proper_unhandled (other e here)

-- A window is touched, or could not be opened.
theorem Owned.touch (owned : Owned s) (phase : s'.session.phase = .waiting ↔ s'.session.live.isSome)
    (live : s'.session.live = s.session.live) (popups : s'.popups = s.popups)
    (grown : s'.history = (time, e) :: s.history) (proper : Proper (time, e) s.history)
    (unopened : ∀ i closed url name features, e ≠ .opened i closed url name features)
    (unclosed : ∀ i wasOpen, e ≠ .closed i wasOpen) : Owned s' := by
  refine owned.same phase live (congrArg _ popups) ?_ ?_ ?_ ?_
  · intro i
    rw [Goes, popups, Goes]
  · intro i
    rw [grown, opened_cons]
    apply or_iff_right
    rintro ⟨_, _, _, _, same⟩
    exact unopened _ _ _ _ _ same
  · intro i
    rw [grown, closed_other unclosed]
  · rw [grown]
    exact ⟨proper, owned.proper⟩

-- A session ends, by itself or from outside: its popup is closed, and the slot is free if it was there.
structure Closes (i : Nat) (s s₁ : Sitting) : Prop where
  there : i < s.popups.length
  length : s₁.popups.length = s.popups.length
  phase : s₁.session.phase = .waiting ↔ s₁.session.live.isSome
  live : ∀ j, s₁.session.live = some j ↔ s.session.live = some j ∧ j ≠ i
  goes : ∀ j, s₁.Goes j ↔ s.Goes j ∧ j ≠ i
  grown : ∃ newer between time wasOpen, s₁.history = newer ++ (time, .closed i wasOpen) :: (between ++ s.history) ∧
    (∀ e ∈ newer, e.2.handles = false) ∧ ∀ e ∈ between, e.2.handles = false

theorem Owned.closes (owned : Owned s) (closes : Closes i s s') : Owned s' := by
  obtain ⟨newer, between, time, wasOpen, grown, late, early⟩ := closes.grown
  have closed (j : Nat) : Closed j s'.history ↔ j = i ∨ Closed j s.history := by
    rw [grown, closed_append late, closed_cons, closed_append early]
  have opened (j : Nat) : Opened j s'.history ↔ Opened j s.history := by
    rw [grown, opened_append late, opened_cons, opened_append early]
    apply or_iff_right
    rintro ⟨_, _, _, _, same⟩
    cases same
  constructor
  · exact closes.phase
  · intro j
    rw [closes.live, closes.goes, owned.goes]
  · intro j live again
    obtain ⟨before, other⟩ := (closes.live j).mp live
    rcases (closed j).mp again with same | old
    · exact other same
    · exact owned.stays j before old
  · intro j there dead
    by_cases same : j = i
    · exact (closed j).mpr (.inl same)
    · have before : s.session.live ≠ some j := fun live => dead ((closes.live j).mpr ⟨live, same⟩)
      exact (closed j).mpr (.inr (owned.gone j (closes.length ▸ there) before))
  · intro j
    rw [opened, closes.length]
    exact owned.numbered j
  · intro j past
    rw [closes.length]
    rcases (closed j).mp past with same | old
    · exact same ▸ closes.there
    · exact owned.known j old
  · rw [grown]
    refine .append (fun e here h => proper_unhandled (late e here)) ⟨trivial, ?_⟩
    exact .append (fun e here h => proper_unhandled (early e here)) owned.proper

theorem updated_length : (s.updatePopup i f).popups.length = s.popups.length := by
  rw [updatePopup, List.length_modify]

theorem staged_length : (s.setStage i stage).popups.length = s.popups.length := updated_length

theorem going_same {p q : Popup} (cancelled : q.cancelled = p.cancelled) (finished : q.finished = p.finished)
    (stage : q.stage = p.stage) : q.Going ↔ p.Going := by
  constructor
  · intro going
    exact ⟨cancelled ▸ going.1, finished ▸ going.2, stage ▸ going.3⟩
  · intro going
    exact ⟨cancelled ▸ going.1, finished ▸ going.2, stage ▸ going.3⟩

theorem goes_updated (s : Sitting) (f : Popup → Popup) (keeps : ∀ p, (f p).Going ↔ p.Going) (j : Nat) :
    (s.updatePopup i f).Goes j ↔ s.Goes j := by
  simp only [Goes, updatePopup, List.getElem?_modify]
  by_cases same : i = j
  · cases s.popups[j]? with
    | none => simp
    | some p => simp [same, keeps]
  · simp [same]

theorem goes_ended (s : Sitting) (f : Popup → Popup) (ends : ∀ p, ¬ (f p).Going) (j : Nat) :
    (s.updatePopup i f).Goes j ↔ s.Goes j ∧ j ≠ i := by
  simp only [Goes, updatePopup, List.getElem?_modify]
  by_cases same : i = j
  · subst same
    cases s.popups[i]? with
    | none => simp
    | some p => simp [ends]
  · have other : j ≠ i := fun back => same back.symm
    simp [same, other]

theorem ofOutcome_over (o : SessionOutcome) : Phase.ofOutcome o ≠ .waiting := by
  rcases o with e | _
  · cases e <;> simp [Phase.ofOutcome]
  · simp [Phase.ofOutcome]

theorem Owned.settles (owned : Owned s) (here : s.popups[i]? = some p) : Owned (settle i o s) := by
  have there : i < s.popups.length := (List.getElem?_eq_some_iff.mp here).1
  refine owned.closes ⟨there, ?_, ?_, ?_, ?_, [_], [], _, _, rfl, ?_, by simp⟩
  · simp [settle, wakeAll, record, setStage, updatePopup, closePopup, hangUp]
  · rw [settle_session]
    split
    · simp [ofOutcome_over]
    · exact owned.phase
  · intro j
    rw [settle_session]
    split
    · rename_i live
      constructor
      · intro same
        cases same
      · rintro ⟨same, other⟩
        exact absurd (Option.some.inj (live.symm.trans same)).symm other
    · rename_i other
      exact ⟨fun live => ⟨live, fun same => other (same ▸ live)⟩, And.left⟩
  · intro j
    have staged := goes_ended (i := i) (closePopup i s) (fun p => { p with stage := .settled o })
      (fun p going => by cases going.unsettled) j
    exact staged.trans (and_congr_left' (goes_updated s (fun p => { p with closed := true })
      (fun _ => going_same rfl rfl rfl) j))
  · simp [Happening.handles]

theorem Owned.ends {phase : Phase} (owned : Owned s) (unhandled : ∀ i, (h i).handles = false)
    (ended : phase ≠ .waiting) (ends : ∀ p, ¬ (mark p).Going) : Owned (endSession h mark phase s) := by
  unfold endSession
  split
  · exact owned
  · rename_i i live
    obtain ⟨p, here, going⟩ := (owned.goes i).mp live
    have there : i < s.popups.length := (List.getElem?_eq_some_iff.mp here).1
    refine owned.closes ⟨there, ?_, ?_, ?_, ?_, [], [_], _, _, rfl, by simp, ?_⟩
    · simp [wake, record, updatePopup, closePopup]
    · simp [ended]
    · intro j
      simp only [live]
      constructor
      · intro same
        cases same
      · rintro ⟨same, other⟩
        exact absurd (Option.some.inj same).symm other
    · intro j
      have closed := goes_updated (i := i) (s.updatePopup i mark) (fun p => { p with closed := true })
        (fun _ => going_same rfl rfl rfl) j
      exact closed.trans (goes_ended s mark ends j)
    · simp [unhandled]

theorem Owned.opened (owned : Owned s) (here : s.Goes i) : Opened i s.history ∧ ¬ Closed i s.history := by
  have live := (owned.goes i).mpr here
  obtain ⟨p, there, _⟩ := here
  exact ⟨(owned.numbered i).mpr (List.getElem?_eq_some_iff.mp there).1, owned.stays i live⟩

-- Nothing is live: all that was opened has been closed.
theorem Owned.all_closed (owned : Owned s) (free : s.session.live = none) (j : Nat) (past : Opened j s.history) :
    Closed j s.history :=
  owned.gone j ((owned.numbered j).mp past) (by rw [free]; simp)

theorem Owned.begins (owned : Owned s) : Owned (beginSession w setup s).2 := by
  unfold beginSession
  split
  · rename_i i live
    exact owned.touch owned.phase rfl rfl rfl (owned.opened ((owned.goes i).mp live)) (by simp) (by simp)
  · rename_i free
    dsimp only
    split
    · refine owned.touch (by simp [record]) free.symm rfl rfl ?_ (by simp) (by simp)
      exact fun j past => owned.all_closed free j past
    · have none (j : Nat) : ¬ s.Goes j := fun goes => by cases free.symm.trans ((owned.goes j).mpr goes)
      have fresh : ¬ Closed s.popups.length s.history := fun past => absurd (owned.known _ past) (Nat.lt_irrefl _)
      refine ⟨by simp [wake, record], ?_, ?_, ?_, ?_, ?_, ⟨?_, owned.all_closed free⟩, owned.proper⟩
      · intro j
        simp only [wake, record, Goes]
        by_cases same : j = s.popups.length
        · subst same
          rw [List.getElem?_concat_length]
          exact ⟨fun _ => ⟨_, rfl, rfl, rfl, rfl⟩, fun _ => rfl⟩
        · rw [popups_append same]
          exact ⟨fun live => absurd (Option.some.inj live).symm same, fun goes => absurd goes (none j)⟩
      · intro j live
        cases live
        exact fun past => fresh ((closed_other (by simp)).mp past)
      · intro j there dead
        have before : j < s.popups.length := by
          have : j < (s.popups ++ [_]).length := there
          have : s.popups.length ≠ j := fun same => dead (congrArg some same)
          rw [List.length_append, List.length_singleton] at *
          omega
        exact (closed_other (by simp)).mpr (owned.gone j before (by rw [free]; simp))
      · intro j
        apply opened_cons.trans
        rw [owned.numbered, show (wake _ _).popups = s.popups ++ [_] from rfl, List.length_append,
          List.length_singleton]
        constructor
        · rintro (⟨_, _, _, _, same⟩ | before)
          · have same : s.popups.length = j := (Happening.opened.inj same).1
            omega
          · omega
        · intro there
          by_cases same : s.popups.length = j
          · exact .inl ⟨_, _, _, _, by rw [same]⟩
          · exact .inr (by omega)
      · intro j past
        have before := owned.known j ((closed_other (by simp)).mp past)
        rw [show (wake _ _).popups = s.popups ++ [_] from rfl, List.length_append]
        omega
      · intro again
        exact absurd ((owned.numbered _).mp again) (Nat.lt_irrefl _)

theorem goes_staged (here : s.popups[i]? = some p) (going : p.Going) (j : Nat) :
    (s.setStage i (.waiting deadline nextLook talk)).Goes j ↔ s.Goes j := by
  simp only [Goes, setStage, updatePopup, List.getElem?_modify]
  by_cases same : i = j
  · subst same
    simp only [here, if_true]
    exact ⟨fun _ => ⟨p, rfl, going⟩, fun _ => ⟨_, rfl, going.1, going.2, rfl⟩⟩
  · simp [same]

theorem Owned.asks (owned : Owned s) (asks : s.Asks setup t origin r timeout) :
    Owned (s.sendOff t origin r timeout reason) := by
  let s₁ := (listen t origin r.id timeout s).2
  have listened : Owned s₁ := owned.frame [_] rfl rfl (fun _ => .rfl) rfl (by simp [Happening.handles])
  cases t with
  | call n => exact listened.frame [_] rfl rfl (fun _ => .rfl) rfl (by simp [Happening.handles])
  | popup i =>
    have here : s₁.Goes i := asks.1
    exact listened.touch listened.phase rfl rfl rfl (listened.opened here) (by simp) (by simp)

theorem Owned.reports (owned : Owned s) : Owned (report t o s) := by
  unfold report
  split
  · exact owned.frame [_] rfl rfl (fun _ => .rfl) rfl (by simp [Happening.handles])
  · exact owned

theorem Move.owned (move : Move w setup v s s') (owned : Owned s) : Owned s' := by
  cases move with
  | ask asks free => exact owned.asks asks
  | conclude on ends retry =>
    refine Owned.reports (owned.frame [_] rfl rfl (fun _ => .rfl) rfl ?_)
    simp [Happening.handles]
  | count =>
    refine owned.frame [] rfl updated_length (goes_updated s _ ?_) rfl (by simp)
    exact fun _ => going_same rfl rfl rfl
  | wait here going held stage => exact owned.frame [] rfl staged_length (goes_staged here going) rfl (by simp)
  | look here going stage time present =>
    exact owned.frame [_] rfl staged_length (goes_staged here going) rfl (by simp [Happening.handles])
  | gone here =>
    refine Owned.settles (owned.frame [_] rfl rfl (fun _ => .rfl) rfl ?_) here
    simp [Happening.handles]
  | settle here => exact owned.settles here
  | answer here =>
    refine Owned.settles (owned.frame [_] rfl rfl (fun _ => .rfl) rfl ?_) here
    simp [Happening.handles]
  | begin => exact owned.begins
  | complete => exact owned.ends (fun _ => rfl) (by simp) fun p going => by cases going.notFinished
  | cancel => exact owned.ends (fun _ => rfl) (by simp) fun p going => by cases going.notCancelled
  | leave =>
    refine owned.frame [_] rfl updated_length (goes_updated s _ ?_) rfl (by simp [Happening.handles])
    exact fun _ => going_same rfl rfl rfl
  | list => exact owned.frame [_, _] rfl rfl (fun _ => .rfl) rfl (by simp [Happening.handles])
  | deliver | skip | resume | fail | launch | arrive | done | drop =>
    exact owned.frame [_] rfl rfl (fun _ => .rfl) rfl (by simp [Happening.handles])
  | _ => exact owned.frame [] rfl rfl (fun _ => .rfl) rfl (by simp)

theorem Reached.owned (path : Reached w setup .initial s) : Owned s :=
  path.keeps initial_tuned initial_owned (fun _ _ _ move => move.owned) fun _ _ owned =>
    owned.frame [] rfl rfl (fun _ => .rfl) rfl (by simp)

-- What starting a session does first.
def Starts (live : Option Nat) (e : Happening) : Prop :=
  match live with
  | some i => e = .focused i
  | none => e.opens = true

theorem beginSession_starts : ∃ e, (beginSession w setup s).2.history = (s.now, e) :: s.history ∧
    Starts s.session.live e := by
  unfold beginSession
  split
  · rename_i i live
    exact ⟨.focused i, rfl, by rw [live]; rfl⟩
  · rename_i free
    dsimp only
    split <;> exact ⟨_, rfl, by rw [free]; rfl⟩

-- The phase tells whether a session is live. Every popup but the live one has been closed by the session, and from
-- then on it is let alone. A popup is opened only when no other is left, and at no moment there were two.
theorem one_popup_owned (path : Reached w setup .initial s) :
    (s.session.phase = .waiting ↔ s.session.live.isSome) ∧
    (∀ i, s.session.live = some i → Opened i s.history ∧ ¬ Closed i s.history) ∧
    (∀ i, Opened i s.history → s.session.live ≠ some i → Closed i s.history) ∧
    (∀ newer time i wasOpen older, s.history = newer ++ (time, .closed i wasOpen) :: older →
      ∀ e ∈ newer, e.2 ≠ .focused i ∧ ∀ message origin reason, e.2 ≠ .posted (.popup i) message origin reason) ∧
    (∃ e, (beginSession w setup s).2.history = (s.now, e) :: s.history ∧ Starts s.session.live e) ∧
    (∀ newer time e older, s.history = newer ++ (time, e) :: older → e.opens →
      ∀ i, Opened i older → Closed i older) ∧
    ∀ newer older, s.history = newer ++ older → ∀ i j, Opened i older → ¬ Closed i older → Opened j older →
      ¬ Closed j older → i = j := by
  have owned := path.owned
  refine ⟨owned.phase, fun i live => owned.opened ((owned.goes i).mp live),
    fun i past dead => owned.gone i ((owned.numbered i).mp past) dead, ?_, beginSession_starts, ?_, ?_⟩
  · intro newer time i wasOpen older split e here
    obtain ⟨latest, between, rfl⟩ := List.append_of_mem here
    have proper : Proper e (between ++ (time, .closed i wasOpen) :: older) := owned.proper.at (by simpa using split)
    have past : Closed i (between ++ (time, .closed i wasOpen) :: older) := ⟨time, wasOpen, by simp⟩
    obtain ⟨_, e⟩ := e
    constructor
    · rintro rfl
      exact proper.2 past
    · rintro message origin reason rfl
      exact proper.2 past
  · intro newer time e older split opens i past
    have proper := owned.proper.at split
    cases e with
    | opened => exact proper.2 i past
    | notOpened => exact proper i past
    | _ => cases opens
  · intro newer older split i j here still there still'
    have proper : Every Proper older := Every.suffix (split ▸ owned.proper)
    exact proper.single here still there still'

-- The session was cancelled, and another popup is open now.
def reopened : Sitting :=
  acts .calm .plain [.start .session, .turn (.call 0), .turn (.popup 0), .dismiss, .turn (.popup 0),
    .start .session, .turn (.call 1)] .initial

theorem reopened_first_closed : reopened.session.live = some 1 ∧ Closed 0 reopened.history :=
  have path : Reached .calm .plain .initial reopened := acts_reached _
  have opened : Opened 0 reopened.history := (path.owned.numbered 0).mpr (show 0 < 2 by decide)
  ⟨rfl, (one_popup_owned path).2.2.1 0 opened (by decide)⟩

end Sitting
end CourseFiles
