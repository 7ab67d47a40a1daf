import CourseFiles.Proofs.Messages.Replies
import CourseFiles.Proofs.Authorization.Waiting

namespace CourseFiles

open History

namespace Happening

-- Who posted a request.
def poster? : Happening → Option Task
  | .posted t _ _ _ => some t
  | _ => none

end Happening

-- How long nothing is posted after a request.
def Settings.respite (settings : Settings) (refusal : Option String) : Nat :=
  if refusal.isSome then settings.pollPause else settings.callTimeout

namespace History

-- When the last request of a popup is over.
def lapses (setup : Setup) (i : Nat) : History → Nat
  | [] => 0
  | (now, .posted (.popup j) _ _ refusal) :: h =>
    if j = i then now + setup.settings.respite refusal else lapses setup i h
  | _ :: h => lapses setup i h

-- A popup is asked once its last request is over.
def Paced (setup : Setup) : Nat × Happening → History → Prop
  | (now, .posted (.popup i) _ _ _), h => lapses setup i h ≤ now
  | _, _ => True

variable {setup : Setup} {i : Nat} {h newer : History} {refusal : Option String}

theorem lapses_skip {e : Happening} (other : e.poster? ≠ some (.popup i)) :
    lapses setup i ((now, e) :: h) = lapses setup i h := by
  cases e with
  | posted t =>
    cases t with
    | call n => rfl
    | popup j =>
      have other : j ≠ i := fun same => other (congrArg (fun k => some (Task.popup k)) same)
      simp [lapses, other]
  | _ => rfl

theorem lapses_apart (others : ∀ e ∈ newer, e.2.poster? ≠ some (.popup i)) :
    lapses setup i (newer ++ h) = lapses setup i h := by
  induction newer with
  | nil => rfl
  | cons e newer ih =>
    refine (lapses_skip (others e List.mem_cons_self)).trans (ih ?_)
    intro e here
    exact others e (List.mem_cons_of_mem _ here)

theorem paced_unposted {e : Nat × Happening} (unposted : ∀ i, e.2.poster? ≠ some (.popup i)) : Paced setup e h := by
  obtain ⟨now, e⟩ := e
  cases e with
  | posted t =>
    cases t with
    | call n => trivial
    | popup i => exact absurd rfl (unposted i)
  | _ => trivial

theorem paced_append (unposted : ∀ e ∈ newer, ∀ i, e.2.poster? ≠ some (.popup i)) (every : Every (Paced setup) h) :
    Every (Paced setup) (newer ++ h) :=
  every.append fun e here _ => paced_unposted (unposted e here)

-- Whatever was posted before is over as well.
theorem lapses_later (every : Every (Paced setup) (newer ++ (time, .posted (.popup i) message origin refusal) :: h)) :
    time + setup.settings.respite refusal ≤
      lapses setup i (newer ++ (time, .posted (.popup i) message origin refusal) :: h) := by
  induction newer with
  | nil => simp [lapses]
  | cons e newer ih =>
    obtain ⟨now, e⟩ := e
    have before := ih every.2
    by_cases mine : e.poster? = some (.popup i)
    · cases e with
      | posted t =>
        cases mine
        have elapsed : lapses setup i (newer ++ (time, .posted (.popup i) message origin refusal) :: h) ≤ now := every.1
        simp only [List.cons_append, lapses, if_pos]
        omega
      | _ => cases mine
    · rw [List.cons_append, lapses_skip mine]
      exact before

end History

namespace Sitting

def stage? (s : Sitting) (i : Nat) : Option Stage := s.popups[i]?.map (·.stage)

-- What is known of the last request from how far the session is.
def Timed (setup : Setup) (s : Sitting) (i : Nat) : Prop :=
  match s.stage? i with
  | some (.waiting _ _ talk) => lapses setup i s.history ≤ talk.deadline
  | some (.settled _) => True
  | _ => lapses setup i s.history = 0

variable {w : Surroundings} {setup : Setup} {s s' s'' : Sitting} {v : Option Task} {t : Task} {i j : Nat}

-- Only what the mover asks for is posted.
theorem Move.posts (move : Move w setup v s s') :
    ∃ newer, s'.history = newer ++ s.history ∧ ∀ e ∈ newer, ∀ t, e.2.poster? = some t → v = some t := by
  obtain ⟨newer, grown, silent | ⟨t, _, _, _, _, mover, _, rfl⟩⟩ := move.utters
  · refine ⟨newer, grown, ?_⟩
    intro ⟨time, e⟩ here t posted
    have quiet : e.converses = false := silent _ here
    cases e with
    | posted => cases quiet
    | _ => cases posted
  · exact ⟨_, grown, by simp [Happening.poster?, mover]⟩

theorem Moves.posts (moves : Moves w setup v s s') :
    ∃ newer, s'.history = newer ++ s.history ∧ ∀ e ∈ newer, ∀ t, e.2.poster? = some t → v = some t := by
  induction moves with
  | refl => exact ⟨[], rfl, by simp⟩
  | tail _ move ih =>
    obtain ⟨older, before, firstOnly⟩ := ih
    obtain ⟨newer, after, only⟩ := move.posts
    refine ⟨newer ++ older, by rw [after, before, List.append_assoc], ?_⟩
    intro e here
    rcases List.mem_append.mp here with new | old
    · exact only e new
    · exact firstOnly e old

theorem updated_stage {f : Popup → Popup} (kept : ∀ p, (f p).stage = p.stage) :
    (s.updatePopup j f).stage? i = s.stage? i := by
  by_cases same : i = j
  · subst same
    rw [stage?, updated_own, Option.map_map, stage?]
    congr 1
    funext p
    exact kept p
  · rw [stage?, updated_other f same, stage?]

theorem beginSession_stage : (beginSession w setup s).2.stage? i = s.stage? i ∨
    s.stage? i = none ∧ (beginSession w setup s).2.stage? i = some .opened := by
  unfold beginSession
  split
  · exact .inl rfl
  · dsimp only
    split
    · exact .inl rfl
    · by_cases new : i = s.popups.length
      · subst new
        exact .inr ⟨by simp [stage?], by simp [stage?, wake, record]⟩
      · exact .inl (congrArg (Option.map Popup.stage) (popups_append new))

theorem endSession_stage (staged : ∀ p, (mark p).stage = p.stage) :
    (endSession h mark phase s).stage? i = s.stage? i := by
  unfold endSession
  split
  · rfl
  · rename_i k _
    have marked : (updatePopup k mark (record (h k) s)).stage? i = s.stage? i := updated_stage staged
    refine .trans ?_ marked
    exact updated_stage (s := wake (.popup k) (updatePopup k mark (record (h k) s)))
      (f := fun p => { p with closed := true }) fun _ => rfl

-- How far a session is changes in its own turns, once its popup is there.
theorem Move.staged (move : Move w setup v s s') (other : v ≠ some (.popup i)) :
    s'.stage? i = s.stage? i ∨ s.stage? i = none ∧ s'.stage? i = some .opened := by
  have elsewhere {j : Nat} (mover : v = some (.popup j)) : i ≠ j := fun same => other (same ▸ mover)
  have set {j : Nat} {stage : Stage} {s₁ : Sitting} (mover : v = some (.popup j)) (popups : s₁.popups = s.popups) :
      (s₁.setStage j stage).stage? i = s.stage? i := by
    rw [stage?, setStage, updated_other _ (elsewhere mover), popups, stage?]
  have settled {j : Nat} {o : SessionOutcome} {s₁ : Sitting} (mover : v = some (.popup j))
      (popups : s₁.popups = s.popups) :
      (Sitting.settle j o s₁).stage? i = s.stage? i := by
    rw [stage?, settled_other (elsewhere mover), popups, stage?]
  cases move with
  | @conclude _ t => cases t <;> exact .inl rfl
  | count => exact .inl (updated_stage fun _ => rfl)
  | wait => exact .inl (set rfl rfl)
  | look => exact .inl (set rfl rfl)
  | gone | settle | answer => exact .inl (settled rfl rfl)
  | begin => exact beginSession_stage
  | complete | cancel => exact .inl (endSession_stage fun _ => rfl)
  | leave => exact .inl (updated_stage fun _ => rfl)
  | _ => exact .inl rfl

theorem Moves.timed (moves : Moves w setup v s s') (other : v ≠ some (.popup i)) (timed : s.Timed setup i) :
    s'.Timed setup i := by
  apply Moves.keeps moves _ timed
  intro s₁ s₂ move before
  obtain ⟨newer, grown, only⟩ := move.posts
  have same : lapses setup i s₂.history = lapses setup i s₁.history := by
    rw [grown]
    apply lapses_apart
    intro e here posted
    exact other (only e here _ posted)
  unfold Timed at before ⊢
  rw [same]
  rcases move.staged other with stage | ⟨absent, opened⟩
  · rw [stage]
    exact before
  · rw [absent] at before
    rw [opened]
    exact before

theorem Moves.paced (moves : Moves w setup v s s') (other : ∀ i, v ≠ some (.popup i))
    (every : Every (Paced setup) s.history) :
    Every (Paced setup) s'.history := by
  obtain ⟨newer, grown, only⟩ := moves.posts
  rw [grown]
  apply paced_append _ every
  intro e here i posted
  exact other i (only e here _ posted)

-- What an attempt posts, and how long that keeps its task from posting again.
theorem attempt_posts (t : Task) (counterpart : Counterpart) (origin : String) (r : Request) (timeout : Nat)
    (s : Sitting) :
    ∃ attempted s' newer refusal a, attempt t counterpart origin r timeout s = (attempted, s') ∧
      s'.history = newer ++ (s.now, .posted t r.encode origin refusal) :: (s.now, .listened t a) :: s.history ∧
      (∀ e ∈ newer, e.2.poster? = none) ∧ s'.now = s.now ∧ s'.popups = s.popups ∧ a.deadline = s.now + timeout ∧
      (attempted = .ok a ∧ refusal = none ∨ ∃ reason, attempted = .error reason ∧ refusal = some reason) := by
  generalize reaction : counterpart (s.posted ++ [r.id]) = answer
  obtain ⟨messages, refusal⟩ := answer
  have sent := delivered (s := s.sendOff t origin r timeout refusal) messages
  have moves : Moves .calm .plain none _ (messages.foldl deliver (s.sendOff t origin r timeout refusal)) :=
    deliver_moves messages (by simp [Fresh])
  obtain ⟨newer, grown, only⟩ := moves.posts
  have unposted (e : Nat × Happening) (here : e ∈ newer) : e.2.poster? = none := by
    cases posted : e.2.poster? with
    | none => rfl
    | some t => cases only e here t posted
  simp only [attempt, post_sendOff, reaction]
  cases refusal with
  | none => exact ⟨_, _, newer, none, _, rfl, grown, unposted, sent.now, sent.popups, rfl, .inl ⟨rfl, rfl⟩⟩
  | some reason =>
    refine ⟨_, _, _ :: newer, some reason, _, rfl, congrArg (_ :: ·) grown, ?_, sent.now, sent.popups, rfl,
      .inr ⟨reason, rfl, rfl⟩⟩
    intro e here
    rcases List.mem_cons.mp here with rfl | old
    · rfl
    · exact unposted e old

-- In the middle of a turn: all that was posted was due, and the last request is over when the talk goes on.
structure Spoken (setup : Setup) (s : Sitting) (i : Nat) (talk : Talk) (s' : Sitting) : Prop where
  now : s'.now = s.now
  stage : s'.stage? i = s.stage? i
  paced : Every (Paced setup) s'.history
  elapsed : lapses setup i s'.history ≤ talk.deadline

theorem ask_spoken (every : Every (Paced setup) s.history) (elapsed : lapses setup i s.history ≤ s.now) :
    Spoken setup s i (ask w setup i s).1 (ask w setup i s).2 ∧
      (0 < setup.settings.callTimeout → s.now < (ask w setup i s).1.deadline) := by
  let counterpart := (s.popups[i]?.map (counterpart w)).getD fun _ => .sends []
  let s₁ := (draw w s).2.updatePopup i fun p => { p with posts := p.posts + 1 }
  have stage : s₁.stage? i = s.stage? i := updated_stage (s := (draw w s).2) fun _ => rfl
  obtain ⟨attempted, s₂, newer, refusal, a, begun, grown, unposted, now, popups, deadline, cases⟩ :=
    attempt_posts (.popup i) counterpart setup.authUrl.origin.text
      (Request.of Session.method [.text setup.token] (draw w s).1) setup.settings.callTimeout s₁
  have others : ∀ e ∈ newer, ∀ j, e.2.poster? ≠ some (.popup j) := by
    intro e here j posted
    cases (unposted e here).symm.trans posted
  have paced : Every (Paced setup) s₂.history := by
    rw [grown]
    exact paced_append others ⟨elapsed, trivial, every⟩
  have last : lapses setup i s₂.history = s.now + setup.settings.respite refusal := by
    rw [grown, lapses_apart fun e here => others e here i]
    exact if_pos rfl
  have staged : s₂.stage? i = s.stage? i := by
    rw [← stage, stage?, popups, stage?]
  have pause : 0 < setup.settings.pollPause := Nat.lt_of_lt_of_le Nat.zero_lt_one (Nat.le_max_right _ _)
  rcases cases with ⟨rfl, rfl⟩ | ⟨reason, rfl, rfl⟩
  · have asked : ask w setup i s = (.awaiting a, s₂) := by
      simp only [ask, Setup.terms, SessionOptions.ofSettings]
      rw [show attempt _ _ _ _ _ ((draw w s).2.updatePopup i _) = _ from begun]
    have same : a.deadline = s.now + setup.settings.callTimeout := deadline
    rw [asked]
    refine ⟨⟨now, staged, paced, ?_⟩, ?_⟩
    · simp [last, Talk.deadline, same, Settings.respite]
    · intro positive
      simp only [Talk.deadline]
      omega
  · have asked : ask w setup i s = (.pausing (s₂.now + setup.settings.pollPause), s₂) := by
      simp only [ask, Setup.terms, SessionOptions.ofSettings]
      rw [show attempt _ _ _ _ _ ((draw w s).2.updatePopup i _) = _ from begun]
    have now : s₂.now = s.now := now
    rw [asked]
    refine ⟨⟨now, staged, paced, ?_⟩, ?_⟩
    · simp [last, Talk.deadline, now, Settings.respite]
    · intro _
      simp only [Talk.deadline]
      omega

-- Talking that goes on has nothing to do at once, unless a request is given no time.
structure Talked (setup : Setup) (s : Sitting) (i : Nat) (r : Except SessionOutcome (Nat × Talk) × Sitting) : Prop where
  now : r.2.now = s.now
  stage : r.2.stage? i = s.stage? i
  paced : Every (Paced setup) r.2.history
  goesOn : ∀ left talk, r.1 = .ok (left, talk) → lapses setup i r.2.history ≤ talk.deadline ∧
    (0 < setup.settings.callTimeout → s.now < talk.deadline)

theorem Talked.after (now : s'.now = s.now) (stage : s'.stage? i = s.stage? i) (rest : Talked setup s' i r) :
    Talked setup s i r :=
  ⟨rest.now.trans now, rest.stage.trans stage, rest.paced, fun left talk goes => now ▸ rest.goesOn left talk goes⟩

theorem concluded_paced (every : Every (Paced setup) s.history) : Every (Paced setup) (conclude t a o s).history :=
  ⟨trivial, every⟩

-- What is received in vain is no post.
structure Received (setup : Setup) (i : Nat) (s s' : Sitting) : Prop where
  now : s'.now = s.now
  stage : s'.stage? i = s.stage? i
  paced : Every (Paced setup) s.history → Every (Paced setup) s'.history
  elapsed : lapses setup i s'.history = lapses setup i s.history

theorem Looks.received (looks : Looks t a s n s') : Received setup i s s' := by
  cases looks with
  | idle => exact ⟨rfl, rfl, id, rfl⟩
  | skip => exact ⟨rfl, rfl, fun every => ⟨trivial, every⟩, rfl⟩

theorem converse_talked (every : Every (Paced setup) s.history) (elapsed : lapses setup i s.history ≤ talk.deadline)
    (enough : 0 < setup.settings.callTimeout → 0 < left ∧ 2 ≤ rounds ∨ s.now < talk.deadline) :
    Talked setup s i (converse w setup i rounds left talk s) := by
  induction rounds generalizing s talk left with
  | zero =>
    refine ⟨rfl, rfl, every, ?_⟩
    intro _ _ same
    cases same
    refine ⟨elapsed, ?_⟩
    intro positive
    exact (enough positive).resolve_left (by omega)
  | succ rounds ih =>
    -- Right after a request there is time, whatever the task may still do.
    have again (left : Nat) (s' : Sitting) (every : Every (Paced setup) s'.history)
        (free : lapses setup i s'.history ≤ s'.now) :
        Talked setup s' i (converse w setup i rounds left (ask w setup i s').1 (ask w setup i s').2) := by
      obtain ⟨spoken, fresh⟩ := ask_spoken (w := w) every free
      refine .after spoken.now spoken.stage (ih spoken.paced spoken.elapsed ?_)
      intro positive
      rw [spoken.now]
      exact .inr (fresh positive)
    cases talk with
    | pausing t =>
      simp only [converse]
      split
      · rename_i stays
        refine ⟨rfl, rfl, every, ?_⟩
        intro _ _ same
        cases same
        refine ⟨elapsed, fun positive => ?_⟩
        rcases enough positive with some | early
        · exact stays.resolve_left (by omega)
        · exact early
      · rename_i goes
        have late : t ≤ s.now := by omega
        let s₁ := s.record (.resumed i)
        exact .after (show s₁.now = s.now from rfl) rfl (again _ s₁ ⟨trivial, every⟩ (Nat.le_trans elapsed late))
    | awaiting a =>
      obtain ⟨n, s₁, later, looks, ⟨polled, _, early⟩ | ⟨o, polled, ending⟩⟩ := poll_looks (.popup i) a left s
      all_goals
        have received : Received setup i s s₁ := looks.received
        simp only [converse, polled]
      · refine ⟨received.now, received.stage, received.paced every, ?_⟩
        intro _ _ same
        cases same
        refine ⟨received.elapsed ▸ elapsed, fun positive => ?_⟩
        rcases enough positive with some | fresh
        · exact early some.1
        · exact fresh
      · have ended (o' : SessionOutcome) : Talked setup s i (.error o', conclude (.popup i) a o s₁) :=
          ⟨received.now, received.stage, concluded_paced (received.paced every), fun _ _ same => by cases same⟩
        rcases o with (origin | _ | payload | reason) | j
        · have late : a.deadline ≤ s.now := ending.resolve_left id
          let s₂ := conclude (.popup i) a (.error (.timeout origin)) s₁
          have paced : Every (Paced setup) s₂.history := concluded_paced (received.paced every)
          refine .after (show s₂.now = s.now from received.now) received.stage (again later s₂ paced ?_)
          show lapses setup i s₁.history ≤ s₁.now
          rw [received.elapsed, received.now]
          exact Nat.le_trans elapsed late
        all_goals exact ended _

-- After a turn of its task: unless the session has ended, the task waits for its request to lapse.
structure Spaced (setup : Setup) (s : Sitting) (i : Nat) : Prop where
  paced : Every (Paced setup) s.history
  timed : s.Timed setup i
  waits : 0 < setup.settings.callTimeout → ∀ stage, s.stage? i = some stage → stage.outcome? = none →
    ∃ deadline nextLook talk, stage = .waiting deadline nextLook talk ∧ s.now < talk.deadline

theorem settled_stage (there : s.stage? i ≠ none) : (settle i o s).stage? i = some (.settled o) := by
  obtain ⟨stage, here⟩ := Option.ne_none_iff_exists'.mp there
  obtain ⟨p, here, _⟩ := Option.map_eq_some_iff.mp here
  rw [stage?, settled_popup here]
  rfl

theorem settled_spaced (every : Every (Paced setup) s.history) (there : s.stage? i ≠ none) :
    Spaced setup (settle i o s) i where
  paced := ⟨trivial, trivial, every⟩
  timed := by
    unfold Timed
    rw [settled_stage there]
    trivial
  waits _ stage here unsettled := by
    cases (settled_stage there).symm.trans here
    cases unsettled

theorem waiting_spaced (stage : s.stage? i = some (.waiting deadline nextLook talk))
    (every : Every (Paced setup) s.history)
    (elapsed : lapses setup i s.history ≤ talk.deadline)
    (fresh : 0 < setup.settings.callTimeout → s.now < talk.deadline) :
    Spaced setup s i where
  paced := every
  timed := by
    unfold Timed
    rw [stage]
    exact elapsed
  waits positive stage' here _ := by
    cases stage.symm.trans here
    exact ⟨deadline, nextLook, talk, rfl, fresh positive⟩

theorem Spaced.woken (spaced : Spaced setup s i) : Spaced setup (s.wake t) i :=
  ⟨spaced.paced, spaced.timed, spaced.waits⟩

theorem set_stage (there : s.stage? i ≠ none) (stage : Stage) : (s.setStage i stage).stage? i = some stage := by
  obtain ⟨old, here⟩ := Option.ne_none_iff_exists'.mp there
  obtain ⟨p, here, _⟩ := Option.map_eq_some_iff.mp here
  rw [stage?, staged_popup here]
  rfl

theorem watch_spaced (there : s.stage? i ≠ none) (every : Every (Paced setup) s.history)
    (elapsed : lapses setup i s.history ≤ talk.deadline)
    (fresh : 0 < setup.settings.callTimeout → s.now < talk.deadline) :
    Spaced setup (watch setup i deadline nextLook left talk s) i := by
  have set := set_stage there (.waiting deadline nextLook talk)
  have still : (s.setStage i (.waiting deadline nextLook talk)).stage? i ≠ none := by rw [set]; simp
  have waiting := waiting_spaced set every elapsed fresh
  have positive : setup.terms.options.pause ≠ 0 := Nat.ne_of_gt (Nat.le_max_right _ _)
  simp only [watch, if_neg positive]
  split
  · exact settled_spaced every still
  split
  · exact waiting.woken
  split
  · exact waiting
  let s₁ := (s.setStage i (.waiting deadline nextLook talk)).record (.looked i)
  split
  · exact settled_spaced (s := s₁) ⟨trivial, every⟩ still
  · have looked (n : Nat) : Spaced setup
        (s₁.setStage i (.waiting deadline (nextLook + n * setup.terms.options.pause) talk)) i :=
      waiting_spaced (set_stage (s := s₁) still _) ⟨trivial, every⟩ elapsed fresh
    split
    · exact (looked _).woken
    · exact looked _

theorem proceed_spaced (there : s.stage? i ≠ none) (every : Every (Paced setup) s.history)
    (elapsed : lapses setup i s.history ≤ talk.deadline) :
    Spaced setup (proceed w setup i deadline nextLook talk s) i := by
  have talked : Talked setup s i (converse w setup i allowance allowance talk s) :=
    converse_talked every elapsed fun _ => .inl (by simp [allowance])
  unfold proceed
  generalize converse w setup i allowance allowance talk s = result at talked
  obtain ⟨o | ⟨left, talk⟩, s'⟩ := result
  · apply settled_spaced talked.paced
    rw [talked.stage]
    exact there
  · obtain ⟨elapsed, fresh⟩ := talked.goesOn _ _ rfl
    apply watch_spaced _ talked.paced elapsed
    · intro positive
      rw [talked.now]
      exact fresh positive
    · rw [talked.stage]
      exact there

theorem popupTurn_spaced (every : Every (Paced setup) s.history) (timed : s.Timed setup i) :
    Spaced setup (popupTurn w setup i s) i := by
  unfold popupTurn
  split
  · rename_i missing
    refine ⟨every, timed, ?_⟩
    intro _ stage here
    rw [stage?, missing] at here
    cases here
  · rename_i p here
    have staged : s.stage? i = some p.stage := by rw [stage?, here]; rfl
    have there : s.stage? i ≠ none := by rw [staged]; simp
    split
    · rename_i o settled
      refine ⟨every, timed, ?_⟩
      intro _ stage here unsettled
      rw [staged, settled] at here
      cases here
      cases unsettled
    · rename_i opened
      have unasked : lapses setup i s.history = 0 := by
        unfold Timed at timed
        rw [staged, opened] at timed
        exact timed
      split
      · exact settled_spaced every there
      · split
        · exact settled_spaced every there
        · obtain ⟨spoken, _⟩ := ask_spoken (w := w) every (by rw [unasked]; exact Nat.zero_le _)
          apply proceed_spaced _ spoken.paced spoken.elapsed
          rw [spoken.stage]
          exact there
    · rename_i deadline nextLook talk waiting
      have elapsed : lapses setup i s.history ≤ talk.deadline := by
        unfold Timed at timed
        rw [staged, waiting] at timed
        exact timed
      split
      · exact settled_spaced every there
      · split
        · exact settled_spaced every there
        · exact proceed_spaced there every elapsed

-- What holds of every popup between the turns.
structure Regulated (setup : Setup) (s : Sitting) : Prop where
  paced : Every (Paced setup) s.history
  timed : ∀ i, s.Timed setup i

theorem Regulated.turn (regulated : s.Regulated setup) (tuned : ∀ t, s.Tuned t) (i : Nat) :
    Spaced setup (act w setup (.turn (.popup i)) s) i ∧ Regulated setup (act w setup (.turn (.popup i)) s) := by
  have spaced : Spaced setup (act w setup (.turn (.popup i)) s) i :=
    popupTurn_spaced (s := { s with ready := s.ready.erase (.popup i) }) regulated.paced (regulated.timed i)
  refine ⟨spaced, spaced.paced, ?_⟩
  intro j
  by_cases same : i = j
  · exact same ▸ spaced.timed
  · apply Moves.timed (act_turned (tuned _)).moves _ (regulated.timed j)
    simpa using same

theorem Regulated.act (regulated : s.Regulated setup) (tuned : ∀ t, s.Tuned t) (a : Act) :
    Regulated setup (act w setup a s) := by
  have acted : Acted w setup s a (Sitting.act w setup a s) := acted a tuned
  by_cases popup : ∃ i, a = .turn (.popup i)
  · obtain ⟨i, rfl⟩ := popup
    exact (regulated.turn tuned i).2
  generalize Sitting.act w setup a s = s' at acted
  cases acted with
  | elapsed => exact ⟨regulated.paced, regulated.timed⟩
  | @turned t _ turned =>
    cases t with
    | popup i => exact absurd ⟨i, rfl⟩ popup
    | call n =>
      exact ⟨turned.moves.paced (by simp) regulated.paced,
        fun i => turned.moves.timed (by simp) (regulated.timed i)⟩
  | moved moves =>
    exact ⟨Moves.paced moves (by simp) regulated.paced,
      fun i => Moves.timed moves (by simp) (regulated.timed i)⟩

theorem initial_regulated : Regulated setup .initial := ⟨trivial, fun _ => rfl⟩

theorem Reached.regulated (path : Reached w setup .initial s) : s.Regulated setup := by
  induction path with
  | refl => exact initial_regulated
  | step path a ih => exact ih.act path.tuned a

-- Any two requests of one popup are that far apart.
theorem Regulated.apart (regulated : s.Regulated setup)
    (split : s.history = newer ++ (later, .posted (.popup i) message origin reason) ::
      (between ++ (time, .posted (.popup i) message' origin' reason') :: older)) :
    time + setup.settings.respite reason' ≤ later := by
  have every : Every (Paced setup) (newer ++ (later, .posted (.popup i) message origin reason) ::
      (between ++ (time, .posted (.popup i) message' origin' reason') :: older)) := split ▸ regulated.paced
  obtain ⟨elapsed, before⟩ := every.suffix
  exact Nat.le_trans (lapses_later before) elapsed

end Sitting
end CourseFiles
