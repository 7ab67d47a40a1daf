import CourseFiles.Proofs.Picker.Transitions

namespace CourseFiles
namespace Picker

-- What an operation, the reply to a launch or the outcome of a session does to the picker at once.
inductive Stroke (default : String) (p : Picker) : Picker → Prop where
  | launch (keeps : ∀ p q, f p = some q → ∃ trail, q = { p with trail }) (asked : relist? default f p = some (q, l)) :
      Stroke default p q
  | arrive : Stroke default p (p.arrive l result)
  | authorize (may : p.mayAuthorize = true) : Stroke default p p.authorize
  | failed (last : Nat) : Stroke default p (p.failed last)
  | select : Stroke default p (p.select item)
  | close : Stroke default p p.close

-- Observers hold what there is to see; they were told once, or there was nothing new.
structure Tells (p q : Picker) : Prop where
  held : q.held = q.snapshot
  once : q.published = q.snapshot :: p.published ∨ q.published = p.published ∧ q.snapshot = p.snapshot

-- One section after the other, and after each the observers hold what there is to see.
inductive Passes (default : String) : Picker → List Picker → Picker → Prop where
  | nil : Passes default p [] p
  | cons (stroke : Stroke default p q) (tells : p.Tells q) (rest : Passes default q stages r) :
      Passes default p (q :: stages) r

variable {default : String} {p q r : Picker} {stages later : List Picker}

theorem Regular.held (regular : p.Regular) : p.held = p.snapshot := by
  obtain ⟨older, shown⟩ := regular.abreast
  have newest : p.shown.head? = some p.held := by
    unfold Picker.shown Picker.held
    cases p.published <;> rfl
  rw [shown] at newest
  exact (Option.some.inj newest).symm

theorem Stroke.once (stroke : Stroke default p q) :
    q.published = q.snapshot :: p.published ∨ q.published = p.published ∧ q.snapshot = p.snapshot := by
  cases stroke with
  | launch keeps asked => exact .inl (relist_launches keeps asked).published
  | arrive =>
    unfold Picker.arrive
    split
    · exact .inl rfl
    · exact .inr ⟨rfl, rfl⟩
  | authorize => exact .inl rfl
  | failed =>
    unfold Picker.failed
    split
    · exact .inr ⟨rfl, rfl⟩
    · exact .inl rfl
  | select =>
    unfold Picker.select
    split
    · exact .inr ⟨rfl, rfl⟩
    · exact .inl rfl
  | close => exact .inr ⟨rfl, rfl⟩

theorem Stroke.tells (stroke : Stroke default p q) (abreast : p.held = p.snapshot) : p.Tells q := by
  refine ⟨?_, stroke.once⟩
  rcases stroke.once with published | ⟨silent, same⟩
  · rw [held, published]
    rfl
  · rw [held, silent, same]
    exact abreast

theorem Stroke.passes (stroke : Stroke default p q) (abreast : p.held = p.snapshot) : Passes default p [q] q :=
  .cons stroke (stroke.tells abreast) .nil

theorem Passes.trans (first : Passes default p stages q) (rest : Passes default q later r) :
    Passes default p (stages ++ later) r := by
  induction first with
  | nil => exact rest
  | cons stroke tells _ ih => exact .cons stroke tells (ih rest)

theorem Passes.held (passes : Passes default p stages q) (abreast : p.held = p.snapshot) : q.held = q.snapshot := by
  induction passes with
  | nil => exact abreast
  | cons _ tells _ ih => exact ih tells.held

-- Only whole stages are published.
theorem Passes.published (passes : Passes default p stages q) :
    ∃ newer, q.published = newer ++ p.published ∧ ∀ x ∈ newer, ∃ stage ∈ stages, x = stage.snapshot := by
  induction passes with
  | nil => exact ⟨[], rfl, by simp⟩
  | @cons p q stages r _ tells _ ih =>
    obtain ⟨newer, grown, whole⟩ := ih
    have kept : ∀ x ∈ newer, ∃ stage ∈ q :: stages, x = stage.snapshot := by
      intro x here
      obtain ⟨stage, there, same⟩ := whole x here
      exact ⟨stage, List.mem_cons_of_mem _ there, same⟩
    rcases tells.once with told | ⟨silent, _⟩
    · refine ⟨newer ++ [q.snapshot], by rw [grown, told, List.append_assoc]; rfl, ?_⟩
      intro x here
      rcases List.mem_append.mp here with new | last
      · exact kept x new
      · exact ⟨q, List.mem_cons_self, List.mem_singleton.mp last⟩
    · exact ⟨newer, by rw [grown, silent], kept⟩

end Picker

namespace Sitting

open Picker

variable {w : Surroundings} {setup : Setup} {s s' : Sitting} {v : Option Task}

-- A listing that takes no time is two sections; every other change of the picker is one.
theorem Move.passes (move : Move w setup v s s') (abreast : s.picker.held = s.picker.snapshot) :
    ∃ stages, Passes setup.path s.picker stages s'.picker := by
  have beside (beside : Beside s s') : ∃ stages, Passes setup.path s.picker stages s'.picker :=
    ⟨[], beside.picker ▸ .nil⟩
  have single {q : Picker} (stroke : Stroke setup.path s.picker q) : ∃ stages, Passes setup.path s.picker stages q :=
    ⟨[q], stroke.passes abreast⟩
  cases move with
  | @conclude _ t =>
    cases t <;> exact ⟨[], .nil⟩
  | begin => exact beside beginSession_beside
  | complete => exact beside completeSession_beside
  | cancel => exact beside cancelSession_beside
  | authorize may => exact single (.authorize may)
  | fail => exact single (.failed _)
  | launch change asked => exact single (.launch change.keeps asked)
  | list change asked =>
    have launch := (Stroke.launch change.keeps asked).passes abreast
    exact ⟨_, launch.trans (Stroke.arrive.passes (launch.held abreast))⟩
  | arrive => exact single .arrive
  | select => exact single .select
  | close => exact single .close
  | _ => exact ⟨[], .nil⟩

theorem Reached.passes (path : Reached w setup .initial s) (later : Reached w setup s s') :
    ∃ stages, Passes setup.path s.picker stages s'.picker := by
  have abreast := path.regular.held
  refine later.keeps (P := fun s' => ∃ stages, Passes setup.path s.picker stages s'.picker) path.tuned ⟨[], .nil⟩ ?_ ?_
  · rintro v s₁ s₂ move ⟨stages, passes⟩
    obtain ⟨more, rest⟩ := move.passes (passes.held abreast)
    exact ⟨_, passes.trans rest⟩
  · exact fun _ _ passed => passed

-- Between any two critical sections observers hold the snapshot of the picker. On the way from one state to a later
-- one, which may be but one act away, the picker passes through whole sections: each publishes its snapshot at once,
-- or leaves what can be seen as it was, and nothing is published besides.
theorem observers_abreast (path : Reached w setup .initial s) :
    s.picker.held = s.picker.snapshot ∧ ∀ s', Reached w setup s s' →
      ∃ stages newer, Passes setup.path s.picker stages s'.picker ∧
        s'.picker.published = newer ++ s.picker.published ∧ ∀ x ∈ newer, ∃ stage ∈ stages, x = stage.snapshot := by
  refine ⟨path.regular.held, ?_⟩
  intro s' later
  obtain ⟨stages, passes⟩ := path.passes later
  obtain ⟨newer, grown, whole⟩ := passes.published
  exact ⟨stages, newer, passes, grown, whole⟩

-- No window can be opened; the call that asks for access has not had its turn.
def beforeRefusal : Sitting := acts .barred .plain [.start .start, .turn (.call 0), .start .authorize] .initial

-- One turn of the call has two sections, and observers are told of both.
theorem refusal_is_told : beforeRefusal.picker.held = beforeRefusal.picker.snapshot ∧
    ∃ stages newer, Passes Setup.plain.path beforeRefusal.picker stages refusedAtOnce.picker ∧
      refusedAtOnce.picker.published = newer ++ beforeRefusal.picker.published ∧ newer.length = 2 ∧
      ∀ x ∈ newer, ∃ stage ∈ stages, x = stage.snapshot := by
  have path : Reached .barred .plain .initial beforeRefusal := acts_reached _
  have abreast := observers_abreast path
  obtain ⟨stages, newer, passes, grown, whole⟩ := abreast.2 refusedAtOnce (.step .refl (.turn (.call 1)))
  have counted := congrArg List.length grown
  rw [List.length_append] at counted
  exact ⟨abreast.1, stages, newer, passes, grown, Nat.add_right_cancel counted.symm, whole⟩

end Sitting
end CourseFiles
