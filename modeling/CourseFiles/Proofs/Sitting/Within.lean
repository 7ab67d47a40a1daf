import CourseFiles.Proofs.Sitting.Runs

namespace CourseFiles

namespace Happening

-- Whether it neither asks for a window nor lists nor gives a choice.
def inert : Happening → Bool
  | .opened .. => false
  | .notOpened .. => false
  | .listed .. => false
  | .finished _ (.chosen (some _)) => false
  | _ => true

end Happening

namespace Sitting

inductive Within (allowed : Sitting → Act → Prop) (w : Surroundings) (terms : Terms) : Sitting → Sitting → Prop where
  | refl : Within allowed w terms s s
  | step (path : Within allowed w terms s s₁) (a : Act) (fits : allowed s₁ a) :
      Within allowed w terms s (act w terms a s₁)

-- Every act of a list is allowed when its turn comes.
def Fits (allowed : Sitting → Act → Prop) (w : Surroundings) (terms : Terms) : List Act → Sitting → Prop
  | [], _ => True
  | a :: rest, s => allowed s a ∧ Fits allowed w terms rest (act w terms a s)

-- What neither the picker nor a call learns of.
structure Aside (s s₁ : Sitting) : Prop where
  calls : s₁.calls = s.calls
  picker : s₁.picker = s.picker
  launches : s₁.launches = s.launches
  dead : s.session.live = none → s₁.session.live = none
  grown : ∃ newer, s₁.history = newer ++ s.history ∧ ∀ e ∈ newer, e.2.inert = true

-- What an act comes to that is no turn: a call is started or taken away, an entry is selected, the picker is
-- closed, or nothing that matters to it is done.
inductive Outside (s : Sitting) : Act → Sitting → Prop where
  | aside (aside : Aside s s') : Outside s a s'
  | start : Outside s (.start op) (s.start op)
  | drop (aside : Aside (s.dropCall n p) s') : Outside s (.abort n) s'
  | select : Outside s (.select item) (s.select item)
  | close (aside : Aside { s with picker := s.picker.close } s') : Outside s .cancel s'

variable {w : Surroundings} {terms : Terms} {setup : Setup} {allowed : Sitting → Act → Prop} {s s' s'' : Sitting}
  {n : Nat}

theorem Within.reached (path : Within allowed w terms s s') : Reached w terms s s' := by
  induction path with
  | refl => exact .refl
  | step _ a _ ih => exact .step ih a

theorem Reached.within (path : Reached w terms s s') : Within (fun _ _ => True) w terms s s' := by
  induction path with
  | refl => exact .refl
  | step _ a ih => exact .step ih a trivial

theorem Within.trans (first : Within allowed w terms s s') (rest : Within allowed w terms s' s'') :
    Within allowed w terms s s'' := by
  induction rest with
  | refl => exact first
  | step _ a fits ih => exact .step ih a fits

theorem acts_within (as : List Act) (fits : Fits allowed w terms as s) :
    Within allowed w terms s (acts w terms as s) := by
  induction as generalizing s with
  | nil => exact .refl
  | cons a rest ih =>
    apply Within.trans (.step .refl a fits.1)
    exact ih fits.2

-- What is always allowed is so whenever its turn comes.
theorem acts_always (as : List Act) (always : ∀ a ∈ as, ∀ s, allowed s a) :
    Within allowed w terms s (acts w terms as s) := by
  apply acts_within
  induction as generalizing s with
  | nil => trivial
  | cons a rest ih =>
    obtain ⟨now, later⟩ := List.forall_mem_cons.mp always
    exact ⟨now s, ih later⟩

theorem Aside.refl : Aside s s := ⟨rfl, rfl, rfl, id, [], rfl, by simp⟩

theorem aside_endSession {h : Nat → Happening} (inert : ∀ i, (h i).inert = true) :
    Aside s (endSession h mark phase s) := by
  unfold endSession
  split
  · exact .refl
  · rename_i i _
    have closed : Happening.inert (.closed i (s.popups[i]?.any (!·.closed))) = true := rfl
    refine ⟨rfl, rfl, rfl, fun _ => rfl, [(s.now, .closed i _), (s.now, h i)], rfl, ?_⟩
    intro e here
    rcases List.mem_pair.mp here with rfl | rfl
    · exact closed
    · exact inert i

theorem aside_cancelSession : Aside s s.cancelSession := aside_endSession fun _ => rfl

theorem aside_release : Aside s s.release := by
  unfold release
  split
  · exact aside_cancelSession
  · exact .refl

theorem started_other (here : s.calls.lookup n = some p) : (s.start op).calls.lookup n = some p := by
  rw [show (s.start op).calls = s.calls ++ [(s.nextCall, .queued op)] from rfl, List.lookup_append, here]
  rfl

theorem outside (w : Surroundings) (terms : Terms) (s : Sitting) (a : Act) (idle : ∀ t, a ≠ .turn t) :
    Outside s a (act w terms a s) := by
  cases a with
  | turn t => exact absurd rfl (idle t)
  | start op => exact .start
  | abort n =>
    simp only [act, abort]
    split
    · exact .aside .refl
    · exact .drop aside_release
  | select item => exact .select
  | cancel => exact .close aside_cancelSession
  | complete => exact .aside (aside_endSession fun _ => rfl)
  | dismiss => exact .aside aside_cancelSession
  | leave i => exact .aside ⟨rfl, rfl, rfl, id, [_], rfl, by simp [Happening.inert]⟩
  | letGo =>
    have released : Aside { s with held := false } s.letGo := aside_release
    exact .aside ⟨released.calls, released.picker, released.launches, released.dead, released.grown⟩
  | deliver m => exact .aside ⟨rfl, rfl, rfl, id, [_], rfl, by simp [Happening.inert]⟩
  | elapse ms => exact .aside ⟨rfl, rfl, rfl, id, [], rfl, by simp⟩

theorem Outside.grows (outside : Outside s a s') : ∃ newer, s'.history = newer ++ s.history := by
  cases outside with
  | aside aside => exact aside.grown.imp fun _ => And.left
  | start | select => exact ⟨[], rfl⟩
  | @drop n p _ aside =>
    obtain ⟨newer, grown, _⟩ := aside.grown
    exact ⟨newer ++ [_], grown.trans (List.append_cons newer _ _)⟩
  | close aside => exact aside.grown.imp fun _ => And.left

-- A turn is a sequence of moves; all else is done from outside.
theorem act_cases (w : Surroundings) (setup : Setup) (a : Act) (tuned : ∀ t, s.Tuned t) :
    (∃ t, a = .turn t ∧ Moves w setup (some t) s (act w setup a s)) ∨ Outside s a (act w setup a s) := by
  by_cases turn : ∃ t, a = .turn t
  · obtain ⟨t, rfl⟩ := turn
    exact .inl ⟨t, rfl, (act_turned (tuned t)).moves⟩
  · exact .inr (outside w setup s a fun t same => turn ⟨t, same⟩)

-- What the moves of every turn that is allowed keep, and all that is done from outside, holds in every state of a run.
theorem Within.keeps {P : Sitting → Prop} (path : Within allowed w setup s s') (tuned : ∀ t, s.Tuned t) (begin : P s)
    (turned : ∀ t s₁ s₂, Reached w setup s s₁ → allowed s₁ (.turn t) → Moves w setup (some t) s₁ s₂ → P s₁ → P s₂)
    (done : ∀ a s₁ s₂, Reached w setup s s₁ → allowed s₁ a → Outside s₁ a s₂ → P s₁ → P s₂) : P s' := by
  have both : P s' ∧ ∀ t, s'.Tuned t := by
    induction path with
    | refl => exact ⟨begin, tuned⟩
    | step path a fits ih =>
      refine ⟨?_, act_tuned a ih.2⟩
      rcases act_cases w setup a ih.2 with ⟨t, rfl, moves⟩ | outside
      · exact turned t _ _ path.reached fits moves ih.1
      · exact done a _ _ path.reached fits outside ih.1
  exact both.1

end Sitting
end CourseFiles
