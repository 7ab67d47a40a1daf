import CourseFiles.Proofs.Authorization.Endings
import CourseFiles.Proofs.Authorization.Progress

namespace CourseFiles

open History

namespace Sitting

-- A session is told that it was cancelled by nothing but that.
def Marked (s : Sitting) : Prop :=
  ∀ (i : Nat) (p : Popup), s.popups[i]? = some p → p.cancelled = true → ∃ time, (time, .cancelled i) ∈ s.history

variable {w : Surroundings} {setup : Setup} {s s' : Sitting} {v : Option Task} {i : Nat} {p : Popup}
  {o : SessionOutcome}

theorem Marked.next (marked : s.Marked) (grown : ∃ newer, s'.history = newer ++ s.history)
    (known : ∀ (i : Nat) q, s'.popups[i]? = some q → q.cancelled = true →
      (∃ p, s.popups[i]? = some p ∧ p.cancelled = true) ∨ ∃ time, (time, .cancelled i) ∈ s'.history) : s'.Marked := by
  intro i q there cancelled
  rcases known i q there cancelled with ⟨p, here, before⟩ | new
  · obtain ⟨time, recorded⟩ := marked i p here before
    exact ⟨time, recorded_still grown recorded⟩
  · exact new

theorem updated_cancelled {k : Nat} {f : Popup → Popup} (kept : ∀ p, (f p).cancelled = p.cancelled) (i : Nat)
    (q : Popup) (there : (s.updatePopup k f).popups[i]? = some q) (cancelled : q.cancelled = true) :
    ∃ p, s.popups[i]? = some p ∧ p.cancelled = true := by
  by_cases same : i = k
  · subst same
    rw [updated_own] at there
    obtain ⟨p, here, rfl⟩ := Option.map_eq_some_iff.mp there
    exact ⟨p, here, (kept p).symm.trans cancelled⟩
  · rw [updated_other f same] at there
    exact ⟨q, there, cancelled⟩

theorem settled_cancelled (i : Nat) (q : Popup) (there : (settle k o s).popups[i]? = some q)
    (cancelled : q.cancelled = true) : ∃ p, s.popups[i]? = some p ∧ p.cancelled = true := by
  obtain ⟨p, here, before⟩ :=
    updated_cancelled (s := s.closePopup k) (f := fun p => { p with stage := .settled o }) (fun _ => rfl) i q there
      cancelled
  exact updated_cancelled (f := fun p => { p with closed := true }) (fun _ => rfl) i p here before

theorem beginSession_cancelled (i : Nat) (q : Popup) (there : (beginSession w setup s).2.popups[i]? = some q)
    (cancelled : q.cancelled = true) : ∃ p, s.popups[i]? = some p ∧ p.cancelled = true := by
  unfold beginSession at there
  split at there
  · exact ⟨q, there, cancelled⟩
  · dsimp only at there
    split at there
    · exact ⟨q, there, cancelled⟩
    · by_cases new : i = s.popups.length
      · subst new
        simp only [wake, record, List.getElem?_concat_length] at there
        cases there
        cases cancelled
      · exact ⟨q, (popups_append new).symm.trans there, cancelled⟩

theorem endSession_cancelled {h : Nat → Happening} {mark : Popup → Popup} {phase : Phase} (i : Nat) (q : Popup)
    (there : (endSession h mark phase s).popups[i]? = some q) (cancelled : q.cancelled = true) :
    (∃ p, s.popups[i]? = some p ∧ p.cancelled = true) ∨
      s.session.live = some i ∧ ∃ p, s.popups[i]? = some p ∧ (mark p).cancelled = true := by
  unfold endSession at there
  split at there
  · exact .inl ⟨q, there, cancelled⟩
  · rename_i k live
    let marked := updatePopup k mark (record (h k) s)
    obtain ⟨p, here, before⟩ := updated_cancelled (s := wake (.popup k) marked)
      (f := fun p => { p with closed := true }) (fun _ => rfl) i q there cancelled
    have here : (s.updatePopup k mark).popups[i]? = some p := here
    by_cases same : i = k
    · subst same
      rw [updated_own] at here
      obtain ⟨r, found, rfl⟩ := Option.map_eq_some_iff.mp here
      exact .inr ⟨live, r, found, before⟩
    · rw [updated_other mark same] at here
      exact .inl ⟨p, here, before⟩

theorem Move.marked (move : Move w setup v s s') (marked : s.Marked) : s'.Marked := by
  have next := marked.next move.grows
  have kept (same : ∀ (i : Nat) q, s'.popups[i]? = some q → q.cancelled = true →
      ∃ p, s.popups[i]? = some p ∧ p.cancelled = true) : s'.Marked :=
    next fun i q there cancelled => .inl (same i q there cancelled)
  cases move with
  | @conclude _ t => cases t <;> exact kept fun _ q there cancelled => ⟨q, there, cancelled⟩
  | count => exact kept (updated_cancelled fun _ => rfl)
  | wait => exact kept (updated_cancelled fun _ => rfl)
  | look => exact kept (updated_cancelled (s := s.record (.looked _)) fun _ => rfl)
  | gone => exact kept (settled_cancelled (s := s.record (.looked _)))
  | settle => exact kept settled_cancelled
  | answer => exact kept (settled_cancelled (s := Sitting.conclude _ _ _ s))
  | begin => exact kept beginSession_cancelled
  | complete =>
    apply kept
    intro i q there cancelled
    rcases endSession_cancelled i q there cancelled with before | ⟨_, p, here, before⟩
    · exact before
    · exact ⟨p, here, before⟩
  | cancel =>
    apply next
    intro i q there cancelled
    rcases endSession_cancelled i q there cancelled with before | ⟨live, _⟩
    · exact .inl before
    · obtain ⟨wasOpen, grown⟩ := endSession_history .cancelled (fun p => { p with cancelled := true }) .closed live
      exact .inr ⟨s.now, by rw [cancelSession, grown]; simp⟩
  | leave => exact kept (updated_cancelled fun _ => rfl)
  | _ => exact kept fun _ q there cancelled => ⟨q, there, cancelled⟩

-- What holds even in the middle of a turn, however late it is.
structure Upright (s : Sitting) : Prop where
  mere : s.Mere
  wired : s.wire.Wired
  owned : s.Owned
  marked : s.Marked
  past : ∀ time t a, (time, .listened t a) ∈ s.history → time ≤ s.now

theorem Move.past (move : Move w setup v s s') (past : ∀ time t a, (time, .listened t a) ∈ s.history → time ≤ s.now)
    (time : Nat) (t : Task) (a : Attempt) (here : (time, .listened t a) ∈ s'.history) : time ≤ s'.now := by
  obtain ⟨newer, grown, utters⟩ := move.utters
  rw [move.now]
  rw [grown] at here
  rcases List.mem_append.mp here with new | old
  · rcases utters with quiet | ⟨_, _, _, _, _, _, _, rfl⟩
    · cases quiet _ new
    · rcases List.mem_pair.mp new with same | same
      · cases same
      · cases same
        exact Nat.le_refl _
  · exact past time t a old

theorem Move.upright (move : Move w setup v s s') (upright : s.Upright) : s'.Upright where
  mere := move.mere upright.mere
  wired := move.wired upright.mere upright.wired
  owned := move.owned upright.owned
  marked := move.marked upright.marked
  past := move.past upright.past

theorem Reached.upright (path : Reached w setup .initial s) : s.Upright := by
  refine path.keeps (P := Upright) initial_tuned ⟨initial_orderly.mere, initial_wired, initial_owned, ?_, ?_⟩
    (fun _ _ _ move => move.upright) ?_
  · intro i p here
    cases here
  · intro time t a here
    cases here
  · intro s ms upright
    refine ⟨upright.mere, upright.wired, ?_, upright.marked, ?_⟩
    · exact upright.owned.frame [] rfl rfl (fun _ => .rfl) rfl (by simp)
    · intro time t a here
      exact Nat.le_trans (upright.past time t a here) (Nat.le_add_right _ _)

theorem Upright.uncancelled (upright : s.Upright) (never : ∀ time, (time, .cancelled i) ∉ s.history) (p : Popup)
    (here : s.popups[i]? = some p) : p.cancelled = false := by
  apply Bool.eq_false_iff.mpr
  intro cancelled
  obtain ⟨time, recorded⟩ := upright.marked i p here cancelled
  exact never time recorded

theorem ask_listens (w : Surroundings) (setup : Setup) (i : Nat) (s : Sitting) :
    ∃ a, (s.now, .listened (.popup i) a) ∈ (ask w setup i s).2.history := by
  let counterpart := (s.popups[i]?.map (counterpart w)).getD fun _ => .sends []
  let s₁ := (draw w s).2.updatePopup i fun p => { p with posts := p.posts + 1 }
  obtain ⟨attempted, s₂, newer, refusal, a, begun, grown, _⟩ :=
    attempt_posts (.popup i) counterpart setup.authUrl.origin.text
      (Request.of Session.method [.text setup.token] (draw w s).1) setup.settings.callTimeout s₁
  have listened : (s.now, .listened (.popup i) a) ∈ s₂.history := by
    rw [grown]
    exact List.mem_append_right _ (List.mem_cons_of_mem _ List.mem_cons_self)
  refine ⟨a, ?_⟩
  simp only [ask, Setup.terms, SessionOptions.ofSettings]
  rw [show attempt _ _ _ _ _ ((draw w s).2.updatePopup i _) = _ from begun]
  cases attempted <;> exact listened

-- The first turn of a session asks its popup.
theorem opened_turn (w : Surroundings) (setup : Setup) (tuned : s.Tuned (.popup i)) (here : s.popups[i]? = some p)
    (going : p.Going) (opened : p.stage = .opened) :
    ∃ a, (s.now, .listened (.popup i) a) ∈ (act w setup (.turn (.popup i)) s).history := by
  let s₁ := { s with ready := s.ready.erase (.popup i) }
  have free : s₁.awaits (.popup i) = none := by
    refine tuned.awaits.trans ?_
    rw [attempt?, here]
    simp [opened, Stage.attempt?]
  obtain ⟨a, listened⟩ := ask_listens w setup i s₁
  obtain ⟨talk, s₂, asked, now, here', held, _⟩ := ask_facts w setup (s := s₁) ⟨p.posts, here⟩ going free
  have turned : Turned w setup (.popup i) s₂
      (proceed w setup i (s₂.now + setup.settings.sessionTimeout) s₂.now talk s₂) :=
    proceed_turned here' going held (fun b there => by rw [opened] at there; cases there)
      (.inl ⟨opened, rfl, rfl⟩)
  refine ⟨a, ?_⟩
  simp only [act, turn, popupTurn, here, opened, going.notCancelled, going.notFinished]
  rw [asked] at listened
  rw [show ask w setup i _ = (talk, s₂) from asked]
  have recorded : (s.now, .listened (.popup i) a) ∈
      (proceed w setup i (s₂.now + setup.settings.sessionTimeout) s₂.now talk s₂).history :=
    recorded_still (Moves.grows turned.moves) listened
  exact recorded

-- The time of a session that goes on runs from when its popup was asked.
def Clocked (setup : Setup) (s : Sitting) (i : Nat) : Prop :=
  ∀ deadline nextLook talk, s.stage? i = some (.waiting deadline nextLook talk) →
    ∃ time a, (time, .listened (.popup i) a) ∈ s.history ∧ deadline = time + setup.settings.sessionTimeout

theorem Clocked.kept (clocked : s.Clocked setup i) (grown : ∃ newer, s'.history = newer ++ s.history)
    (same : ∀ deadline nextLook talk, s'.stage? i = some (.waiting deadline nextLook talk) →
      ∃ nextLook' talk', s.stage? i = some (.waiting deadline nextLook' talk')) : s'.Clocked setup i := by
  intro deadline nextLook talk there
  obtain ⟨nextLook', talk', here⟩ := same deadline nextLook talk there
  obtain ⟨time, a, listened, due⟩ := clocked deadline nextLook' talk' here
  exact ⟨time, a, recorded_still grown listened, due⟩

theorem Moves.clocked (moves : Moves w setup v s s') (other : v ≠ some (.popup i)) (clocked : s.Clocked setup i) :
    s'.Clocked setup i := by
  apply Moves.keeps moves _ clocked
  intro s₁ s₂ move before
  apply before.kept move.grows
  intro deadline nextLook talk there
  rcases move.staged other with same | ⟨_, opened⟩
  · exact ⟨nextLook, talk, same.symm.trans there⟩
  · cases opened.symm.trans there

theorem expiry_unsettled (expires : s.expiry? setup i = some d) : s.outcome? i = none := by
  obtain ⟨stage, there, goes⟩ := Option.bind_eq_some_iff.mp expires
  obtain ⟨p, here, rfl⟩ := Option.map_eq_some_iff.mp there
  rw [outcome?, here]
  cases stage : p.stage with
  | opened | waiting => simp [stage, Stage.outcome?]
  | settled =>
    rw [stage] at goes
    cases goes

theorem waiting_expiry (stage : s.stage? i = some (.waiting deadline nextLook talk)) :
    s.expiry? setup i = some deadline := by
  rw [expiry?, stage]
  rfl

theorem Clocked.turn (clocked : s.Clocked setup i) (path : Reached w setup .initial s) :
    Clocked setup (act w setup (.turn (.popup i)) s) i := by
  have turned : Turned w setup (.popup i) s (act w setup (.turn (.popup i)) s) := act_turned (path.tuned _)
  intro deadline nextLook talk there
  have expiry : (act w setup (.turn (.popup i)) s).expiry? setup i = some deadline := waiting_expiry there
  have unsettled := expiry_unsettled expiry
  have same {d : Nat} (here : s.expiry? setup i = some d) : deadline = d := by
    rcases Moves.expires turned.moves path.owned here with kept | ⟨o, ended⟩
    · exact Option.some.inj (expiry.symm.trans kept)
    · cases unsettled.symm.trans ended
  cases here : s.popups[i]? with
  | none =>
    have missing : s.stage? i = none := by rw [stage?, here]; rfl
    have still : (act w setup (.turn (.popup i)) s).stage? i = none := by
      rw [stage_none] at missing ⊢
      rwa [turned.moves.remains.1]
    cases still.symm.trans there
  | some p =>
    have staged : s.stage? i = some p.stage := by rw [stage?, here]; rfl
    cases stage : p.stage with
    | settled o =>
      have ended : s.outcome? i = some o := by rw [outcome?, here]; simp [stage, Stage.outcome?]
      cases unsettled.symm.trans ((path.abides (.step .refl (.turn (.popup i)))).outcome ended)
    | opened =>
      have due : deadline = s.now + setup.settings.sessionTimeout := same (by rw [expiry?, staged, stage]; rfl)
      by_cases going : p.Going
      · obtain ⟨a, listened⟩ := opened_turn w setup (path.tuned _) here going stage
        exact ⟨s.now, a, listened, due⟩
      · obtain ⟨o, decided⟩ := Popup.decided_ungoing going
        rw [marked_turn here (by rw [stage]; rfl) decided] at unsettled
        cases unsettled.symm.trans (settled_outcome (s := { s with ready := _ }) here)
    | waiting deadline' nextLook' talk' =>
      rw [stage] at staged
      obtain ⟨time, a, listened, due⟩ := clocked _ _ _ staged
      have still := recorded_still (Moves.grows turned.moves) listened
      exact ⟨time, a, still, (same (waiting_expiry staged)).trans due⟩

theorem Reached.clocked (path : Reached w setup .initial s) (i : Nat) : s.Clocked setup i := by
  induction path with
  | refl =>
    intro deadline nextLook talk there
    cases there
  | step path a ih =>
    rcases act_apart a path.tuned (.popup i) with rfl | ⟨ms, rfl⟩ | ⟨v, other, moves⟩
    · exact ih.turn path
    · exact ih
    · exact Moves.clocked moves other ih

end Sitting
end CourseFiles
