import CourseFiles.Proofs.Sitting.Apart

namespace CourseFiles

open History

inductive Act
  | turn (t : Task)
  | start (op : Operation)
  | abort (n : Nat)
  | select (item : Option Item)
  | cancel
  | complete
  | dismiss
  | leave (i : Nat)
  | letGo
  | deliver (m : Message)
  | elapse (ms : Nat)

namespace Sitting

def act (w : Surroundings) (terms : Terms) (a : Act) (s : Sitting) : Sitting :=
  match a with
  | .turn t => turn w terms t { s with ready := s.ready.erase t }
  | .start op => s.start op
  | .abort n => s.abort n
  | .select item => s.select item
  | .cancel => s.cancel
  | .complete => s.completeSession
  | .dismiss => s.cancelSession
  | .leave i => s.closeByUser i
  | .letGo => s.letGo
  | .deliver m => s.deliver m
  | .elapse ms => s.elapse ms

inductive Reached (w : Surroundings) (terms : Terms) : Sitting → Sitting → Prop where
  | refl : Reached w terms s s
  | step (path : Reached w terms s s₁) (a : Act) : Reached w terms s (act w terms a s₁)

def Prompt (s : Sitting) : Act → Prop
  | .elapse ms => s.ready = [] ∧ ∀ d ∈ s.deadlines, s.now < d → s.now + ms ≤ d
  | _ => True

inductive Timely (w : Surroundings) (terms : Terms) : Sitting → Prop where
  | initial : Timely w terms .initial
  | step (run : Timely w terms s) (a : Act) (prompt : s.Prompt a) : Timely w terms (act w terms a s)

-- What an act is: time passes, a task takes its turn, or something is done from outside.
inductive Acted (w : Surroundings) (setup : Setup) (s : Sitting) : Act → Sitting → Prop where
  | elapsed : Acted w setup s (.elapse ms) (s.elapse ms)
  | turned (turned : Turned w setup t s s₁) : Acted w setup s (.turn t) s₁
  | moved (moves : Moves w setup none s s₁) : Acted w setup s a s₁

variable {w : Surroundings} {terms : Terms} {setup : Setup} {s s' s'' : Sitting} {t u : Task} {v : Option Task}
  {n : Nat}

theorem Reached.trans (first : Reached w terms s s') (rest : Reached w terms s' s'') : Reached w terms s s'' := by
  induction rest with
  | refl => exact first
  | step _ a path => exact .step path a

theorem release_moves (moves : Moves w setup v s s') : Moves w setup v s s'.release := by
  unfold release
  split
  · exact moves.tail .cancel
  · exact moves

theorem act_turned (tuned : s.Tuned t) : Turned w setup t s (act w setup (.turn t) s) := by
  have taken : Tuned { s with ready := s.ready.erase t } t := ⟨tuned.1, tuned.2⟩
  exact .after (.single .take) rfl (turn_turned taken)

theorem acted (a : Act) (tuned : ∀ t, s.Tuned t) : Acted w setup s a (act w setup a s) := by
  cases a with
  | turn t => exact .turned (act_turned (tuned t))
  | start op => exact .moved (.single .start)
  | abort n =>
    simp only [act, abort]
    split
    · exact .moved .refl
    · rename_i p here
      refine .moved (release_moves (.single (.drop here ?_)))
      rw [(tuned (.call n)).awaits, attempt?, here]
      rfl
  | select item => exact .moved (.single .select)
  | cancel => exact .moved (.tail (.single .close) .cancel)
  | complete => exact .moved (.single (.complete (by simp)))
  | dismiss => exact .moved (.single .cancel)
  | leave i => exact .moved (.single .leave)
  | letGo => exact .moved (release_moves (.single .letGo))
  | deliver m => exact .moved (.single (.deliver (by simp [Fresh])))
  | elapse ms => exact .elapsed

-- An act is a task's own turn, or time passes, or others move.
theorem act_apart (a : Act) (tuned : ∀ t, s.Tuned t) (t : Task) :
    a = .turn t ∨ (∃ ms, a = .elapse ms) ∨ ∃ v, v ≠ some t ∧ Moves w setup v s (act w setup a s) := by
  by_cases own : a = .turn t
  · exact .inl own
  by_cases elapses : ∃ ms, a = .elapse ms
  · exact .inr (.inl elapses)
  refine .inr (.inr ?_)
  have acted : Acted w setup s a (act w setup a s) := acted a tuned
  generalize act w setup a s = s' at acted
  cases acted with
  | elapsed => exact absurd ⟨_, rfl⟩ elapses
  | @turned u _ turned =>
    refine ⟨some u, ?_, turned.moves⟩
    rintro ⟨⟩
    exact own rfl
  | moved moves => exact ⟨none, by simp, moves⟩

theorem Moves.tuned (moves : Moves w setup v s s') (other : v ≠ some t) (tuned : s.Tuned t) : s'.Tuned t := by
  induction moves with
  | refl => exact tuned
  | tail _ move ih => exact move.tuned other ih

theorem act_tuned (a : Act) (tuned : ∀ t, s.Tuned t) (t : Task) : (act w setup a s).Tuned t := by
  have acted : Acted w setup s a (act w setup a s) := acted a tuned
  generalize act w setup a s = s' at acted
  cases acted with
  | elapsed => exact ⟨(tuned t).1, (tuned t).2⟩
  | @turned u _ turned =>
    by_cases same : u = t
    · exact same ▸ turned.tuned
    · exact Moves.tuned turned.moves (fun here => same (Option.some.inj here)) (tuned t)
  | moved moves => exact Moves.tuned moves (by simp) (tuned t)

theorem initial_tuned (t : Task) : Sitting.initial.Tuned t := by
  cases t <;> exact ⟨rfl, rfl⟩

theorem Reached.tuned (path : Reached w setup .initial s) : ∀ t, s.Tuned t := by
  induction path with
  | refl => exact initial_tuned
  | step _ a ih => exact act_tuned a ih

theorem Moves.keeps {P : Sitting → Prop} (moves : Moves w setup v s s')
    (moved : ∀ s s', Move w setup v s s' → P s → P s') (begin : P s) : P s' := by
  induction moves with
  | refl => exact begin
  | tail _ move ih => exact moved _ _ move ih

-- What every move keeps, and the passing of time, holds in every state of a run.
theorem Reached.keeps {P : Sitting → Prop} (path : Reached w setup s s') (tuned : ∀ t, s.Tuned t) (begin : P s)
    (moved : ∀ v s s', Move w setup v s s' → P s → P s') (elapsed : ∀ s ms, P s → P (s.elapse ms)) : P s' := by
  have both : P s' ∧ ∀ t, s'.Tuned t := by
    induction path with
    | refl => exact ⟨begin, tuned⟩
    | @step s₁ _ a ih =>
      refine ⟨?_, act_tuned a ih.2⟩
      have acted : Acted w setup s₁ a (act w setup a s₁) := acted a ih.2
      generalize act w setup a s₁ = s' at acted
      cases acted with
      | elapsed => exact elapsed s₁ _ ih.1
      | turned turned => exact Moves.keeps turned.moves (moved _) ih.1
      | moved moves => exact Moves.keeps moves (moved _) ih.1
  exact both.1

theorem Reached.grows (path : Reached w setup s s') (tuned : ∀ t, s.Tuned t) :
    ∃ newer, s'.history = newer ++ s.history :=
  path.keeps (P := fun s' => ∃ newer, s'.history = newer ++ s.history) tuned ⟨[], rfl⟩
    (fun _ _ _ move before => grows_trans before move.grows) fun _ _ => id

def acts (w : Surroundings) (terms : Terms) (as : List Act) (s : Sitting) : Sitting :=
  as.foldl (fun s a => act w terms a s) s

theorem acts_reached (as : List Act) : Reached w terms s (acts w terms as s) := by
  induction as generalizing s with
  | nil => exact .refl
  | cons a rest ih => exact .trans (.step .refl a) ih

-- Time passes as it does in a timely run.
def Prompts (w : Surroundings) (terms : Terms) : List Act → Sitting → Prop
  | [], _ => True
  | a :: rest, s => s.Prompt a ∧ Prompts w terms rest (act w terms a s)

theorem acts_timely (run : Timely w terms s) (as : List Act) (prompts : Prompts w terms as s) :
    Timely w terms (acts w terms as s) := by
  induction as generalizing s with
  | nil => exact run
  | cons a rest ih => exact ih (.step run a prompts.1) prompts.2

theorem prompts_still (as : List Act) (still : ∀ a ∈ as, ∀ ms, a ≠ .elapse ms) : Prompts w terms as s := by
  induction as generalizing s with
  | nil => trivial
  | cons a rest ih =>
    obtain ⟨now, later⟩ := List.forall_mem_cons.mp still
    refine ⟨?_, ih later⟩
    cases a with
    | elapse ms => exact absurd rfl (now ms)
    | _ => trivial

end Sitting

-- A world to try runs in: windows open and take what is posted, and only the first listing takes some time.
def Surroundings.calm : Surroundings where
  window _ := .opened false fun _ _ => .sends []
  listing earlier _ := (if earlier = [] then 5 else 0, .ok [])
  id n := toString n
  windowName n := toString n

-- The same, but every listing says at once that access has to be granted first.
def Surroundings.guarded : Surroundings :=
  { Surroundings.calm with listing := fun _ _ => (0, .error (.api ⟨some 400, none, none, none⟩)) }

-- Besides, no window can be opened.
def Surroundings.barred : Surroundings := { Surroundings.guarded with window := fun _ => .refused "blocked" }

-- What is said by others, and concerns nobody.
def noise : Message := ⟨"elsewhere", .null⟩

def Setup.plain : Setup where
  token := "token"
  authUrl := ⟨"https".toList, some ⟨[], none, some (.name "lms".toList), none⟩, .segments [[]], none, none⟩
  path := "/files"
  settings := .standard

abbrev Terms.plain : Terms := Setup.plain.terms

end CourseFiles
