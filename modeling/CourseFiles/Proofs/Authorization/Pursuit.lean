import CourseFiles.Proofs.Authorization.Settlement
import CourseFiles.Proofs.Sitting.Promptness

namespace CourseFiles

open History

namespace History

-- A request is awaited still, and what has been heard of it came since.
structure Pursues (i : Nat) (a : Attempt) (since h : History) : Prop where
  awaits : awaited (.popup i) h = some a
  accepted : refusal (.popup i) h = none
  came : ∀ time o, heard (.popup i) h = some (time, o) →
    ∃ m, (time, .delivered m) ∈ since ∧ m.reply? a.origin a.id = some o

-- The session has ended since, or the request was given up because it had lapsed.
def Over (i : Nat) (a : Attempt) (since : History) : Prop :=
  (∃ time o, (time, .settled i o) ∈ since) ∨
    ∃ time, a.deadline ≤ time ∧ (time, .concluded (.popup i) a (.error (.timeout a.origin))) ∈ since

-- What becomes of each request that a popup took.
def Tracked (setup : Setup) (i : Nat) (h : History) : Prop :=
  ∀ since time message origin older, h = since ++ (time, .posted (.popup i) message origin none) :: older →
    ∃ a rest, older = (time, .listened (.popup i) a) :: rest ∧
      message = (Request.of Session.method [.text setup.token] a.id).encode ∧
      origin = setup.authUrl.origin.text ∧ a.origin = origin ∧ a.deadline = time + setup.settings.callTimeout ∧
      (Over i a since ∨ Pursues i a since h)

variable {setup : Setup} {i now : Nat} {a : Attempt} {h newer since older : History} {e : Happening} {t : Task}

-- Where an entry stands in what was recorded since and before.
theorem recorded_cases {x : Nat × Happening} (split : newer ++ h = since ++ x :: older) :
    (∃ later, since = newer ++ later ∧ h = later ++ x :: older) ∨
      ∃ rest, newer = since ++ x :: rest ∧ older = rest ++ h := by
  rcases List.append_eq_append_iff.mp split with ⟨later, grown, before⟩ | ⟨rest, grown, before⟩
  · exact .inl ⟨later, grown, before⟩
  · rcases List.cons_eq_append_iff.mp before with ⟨rfl, same⟩ | ⟨rest, rfl, same⟩
    · exact .inl ⟨[], by rw [grown, List.append_nil, List.append_nil], same⟩
    · exact .inr ⟨rest, grown, same⟩

theorem heard_grown (silent : ∀ e ∈ newer, e.2.isDelivered = false) (unasked : ∀ e ∈ newer, ∀ a, e.2 ≠ .listened t a) :
    heard t (newer ++ h) = heard t h := by
  induction newer with
  | nil => rfl
  | cons e newer ih =>
    obtain ⟨now, e⟩ := e
    have rest := ih (fun e here => silent e (List.mem_cons_of_mem _ here))
      fun e here => unasked e (List.mem_cons_of_mem _ here)
    rw [List.cons_append, ← rest]
    cases e with
    | delivered m => cases silent _ List.mem_cons_self
    | listened u a =>
      have other : u ≠ t := by
        rintro rfl
        exact unasked _ List.mem_cons_self a rfl
      simp only [heard, if_neg other]
    | _ => rfl

theorem Over.later (ended : Over i a since) : Over i a (newer ++ since) := by
  rcases ended with ⟨time, o, here⟩ | ⟨time, late, here⟩
  · exact .inl ⟨time, o, List.mem_append_right _ here⟩
  · exact .inr ⟨time, late, List.mem_append_right _ here⟩

theorem Over.earlier (ended : Over i a newer) : Over i a (newer ++ since) := by
  rcases ended with ⟨time, o, here⟩ | ⟨time, late, here⟩
  · exact .inl ⟨time, o, List.mem_append_left _ here⟩
  · exact .inr ⟨time, late, List.mem_append_left _ here⟩

theorem Pursues.grow (pursues : Pursues i a since h) (newer : History)
    (awaits : awaited (.popup i) (newer ++ h) = awaited (.popup i) h)
    (refuses : refusal (.popup i) (newer ++ h) = refusal (.popup i) h)
    (hears : heard (.popup i) (newer ++ h) = heard (.popup i) h) : Pursues i a (newer ++ since) (newer ++ h) where
  awaits := awaits.trans pursues.awaits
  accepted := refuses.trans pursues.accepted
  came time o there := by
    obtain ⟨m, here, answers⟩ := pursues.came time o (hears ▸ there)
    exact ⟨m, List.mem_append_right _ here, answers⟩

theorem Pursues.skip (pursues : Pursues i a since h) (other : e.concerns (.popup i) = false)
    (silent : e.isDelivered = false) : Pursues i a ((now, e) :: since) ((now, e) :: h) :=
  pursues.grow [(now, e)] (awaited_skip other) (refusal_skip other) (heard_skip other silent)

theorem Pursues.deliver (pursues : Pursues i a since h) :
    Pursues i a ((now, .delivered m) :: since) ((now, .delivered m) :: h) where
  awaits := pursues.awaits
  accepted := pursues.accepted
  came time o there := by
    simp only [heard] at there
    split at there
    · rw [pursues.awaits] at there
      obtain ⟨o', answers, same⟩ := Option.map_eq_some_iff.mp there
      cases same
      exact ⟨m, List.mem_cons_self, answers⟩
    · obtain ⟨m', here, answers⟩ := pursues.came time o there
      exact ⟨m', List.mem_cons_of_mem _ here, answers⟩

end History

namespace Sitting

variable {w : Surroundings} {setup : Setup} {s s' : Sitting} {v : Option Task} {i : Nat} {a : Attempt}
  {h since : History}

-- A request is pursued until it lapses or its session ends.
theorem Move.pursues (move : Move w setup v s s') (pursues : Pursues i a since s.history) :
    ∃ newer, s'.history = newer ++ s.history ∧ (Over i a newer ∨ Pursues i a (newer ++ since) s'.history) := by
  by_cases mine : v = some (.popup i)
  · subst mine
    have on : s.awaits (.popup i) = some a := pursues.awaits
    cases move with
    | deliver => exact ⟨[_], rfl, .inr pursues.deliver⟩
    | ask asks free => cases free.symm.trans on
    | @conclude _ _ b o there ends retry =>
      cases there.symm.trans on
      cases ends with
      | refused refused => cases refused.symm.trans pursues.accepted
      | answered _ found => exact absurd (Attempt.reply?_answer found) (retry i rfl)
      | lapsed _ late => exact ⟨[_], rfl, .inl (.inr ⟨s.now, late, List.mem_cons_self⟩)⟩
    | skip | resume | look => exact ⟨[_], rfl, .inr (pursues.skip rfl rfl)⟩
    | gone | answer => exact ⟨[_, _, _], rfl, .inl (.inl ⟨_, _, List.mem_cons_self⟩)⟩
    | settle => exact ⟨[_, _], rfl, .inl (.inl ⟨_, _, List.mem_cons_self⟩)⟩
    | complete asked =>
      obtain ⟨n, other, _⟩ := asked _ rfl
      cases other
    | cancel =>
      cases live : s.session.live with
      | none =>
        rw [cancelSession, endSession_dead live]
        exact ⟨[], rfl, .inr pursues⟩
      | some j =>
        obtain ⟨wasOpen, grown⟩ := endSession_history .cancelled (fun p => { p with cancelled := true }) .closed live
        rw [cancelSession, grown]
        exact ⟨[_, _], rfl, .inr ((pursues.skip rfl rfl).skip rfl rfl)⟩
    | _ => exact ⟨[], rfl, .inr pursues⟩
  · have apart : Apart (.popup i) s s' := (move.apart mine).resolve_right (by simp)
    rcases move.speaks with ⟨m, rfl, _⟩ | ⟨newer, grown, silent, utters⟩
    · exact ⟨[_], rfl, .inr pursues.deliver⟩
    · have unasked : ∀ e ∈ newer, ∀ b, e.2 ≠ .listened (.popup i) b := by
        intro e here b same
        rcases utters with quiet | ⟨t, _, _, _, _, mover, _, rfl⟩
        · have quiet : e.2.converses = false := quiet e here
          rw [same] at quiet
          cases quiet
        · rcases List.mem_pair.mp here with rfl | rfl
          · cases same
          · cases same
            exact mine mover
      refine ⟨newer, grown, .inr ?_⟩
      rw [grown]
      apply pursues.grow newer _ _ (heard_grown silent unasked)
      · rw [← grown]
        exact apart.awaits
      · rw [← grown]
        exact apart.refusal

theorem Move.tracked (move : Move w setup v s s') (tracked : Tracked setup i s.history) :
    Tracked setup i s'.history := by
  intro since time message origin older split
  obtain ⟨newer, grown, utters⟩ := move.utters
  rcases recorded_cases (grown.symm.trans split) with ⟨later, rfl, before⟩ | ⟨rest, recorded, rfl⟩
  · obtain ⟨a, rest, listened, asked, home, same, deadline, kept⟩ := tracked later time message origin older before
    refine ⟨a, rest, listened, asked, home, same, deadline, ?_⟩
    rcases kept with ended | pursues
    · exact .inl ended.later
    · obtain ⟨newer', grown', kept⟩ := move.pursues pursues
      cases List.append_cancel_right (grown.symm.trans grown')
      exact kept.imp_left Over.earlier
  · rcases utters with quiet | ⟨t, origin', r, timeout, reason, rfl, asks, new⟩
    · have quiet : Happening.converses (.posted (.popup i) message origin none) = false :=
        quiet (time, .posted (.popup i) message origin none) (by rw [recorded]; simp)
      cases quiet
    · rw [new] at recorded
      rcases since with _ | ⟨_, _ | ⟨_, since⟩⟩
      · cases recorded
        obtain ⟨_, home, request, timed⟩ := asks
        refine ⟨_, s.history, rfl, ?_, home, rfl, by rw [timed], .inr ?_⟩
        · rw [request]
          rfl
        · rw [grown, new]
          constructor
          · simp [History.awaited, Happening.ends]
          · simp [History.refusal, Happening.ends]
          · intro time o there
            simp [heard] at there
      · cases recorded
      · simp at recorded

-- At every message that comes it is known what has become of the requests before it.
def Overseen (setup : Setup) (i : Nat) (h : History) : Prop :=
  Tracked setup i h ∧ Every (fun e h => ∀ m, e.2 = .delivered m → Tracked setup i h) h

theorem Move.overseen (move : Move w setup v s s') (overseen : Overseen setup i s.history) :
    Overseen setup i s'.history := by
  obtain ⟨tracked, every⟩ := overseen
  refine ⟨move.tracked tracked, ?_⟩
  rcases move.speaks with ⟨m, rfl, _⟩ | ⟨newer, grown, silent, _⟩
  · exact ⟨fun _ _ => tracked, every⟩
  · rw [grown]
    apply every.append
    intro e here h m same
    have silent : e.2.isDelivered = false := silent e here
    rw [same] at silent
    cases silent

theorem initial_overseen : Overseen setup i Sitting.initial.history := by
  refine ⟨?_, trivial⟩
  intro since time message origin older split
  simp [initial] at split

theorem Reached.overseen (path : Reached w setup .initial s) (i : Nat) : Overseen setup i s.history :=
  path.keeps (P := fun s => Overseen setup i s.history) initial_tuned initial_overseen
    (fun _ _ _ move overseen => move.overseen overseen) fun _ _ => id

-- The message came before the move, or the move is its delivery.
theorem Move.arrival (move : Move w setup v s s') (split : s'.history = newer ++ (time, .delivered m) :: h) :
    (∃ later, s.history = later ++ (time, .delivered m) :: h) ∨
      s.Fresh setup v ∧ h = s.history ∧ time = s.now ∧ s' = s.deliver m := by
  rcases move.speaks with ⟨m', rfl, fresh⟩ | ⟨newer', grown, silent, _⟩
  · rcases List.cons_eq_append_iff.mp split with ⟨_, same⟩ | ⟨later, _, before⟩
    · cases same
      exact .inr ⟨fresh, rfl, rfl, rfl⟩
    · exact .inl ⟨later, before⟩
  · rcases recorded_cases (grown.symm.trans split) with ⟨later, _, before⟩ | ⟨rest, recorded, _⟩
    · exact .inl ⟨later, before⟩
    · cases silent (time, .delivered m) (by rw [recorded]; simp)

end Sitting
end CourseFiles
