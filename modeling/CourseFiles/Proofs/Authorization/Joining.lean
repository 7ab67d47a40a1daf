import CourseFiles.Proofs.Authorization.Access
import CourseFiles.Proofs.Authorization.Waiting

namespace CourseFiles

open History

namespace Picker

-- The generation never falls back, and closing begins a new one.
structure Onward (p q : Picker) : Prop where
  generation : p.generation ≤ q.generation
  closed : q.closed = true → p.closed = true ∨ p.generation < q.generation

variable {p q r : Picker}

theorem Onward.refl : p.Onward p := ⟨Nat.le_refl _, .inl⟩

theorem Onward.trans (first : p.Onward q) (rest : q.Onward r) : p.Onward r := by
  refine ⟨Nat.le_trans first.generation rest.generation, ?_⟩
  intro closed
  rcases rest.closed closed with before | later
  · exact (first.closed before).imp_right fun later => Nat.lt_of_lt_of_le later rest.generation
  · exact .inr (Nat.lt_of_le_of_lt first.generation later)

theorem Continues.onward (continues : p.Continues q) : p.Onward q :=
  ⟨Nat.le_of_eq continues.generation.symm, fun closed => .inl (continues.closed ▸ closed)⟩

theorem Launches.onward {default : String} (launches : Launches default p q l) : p.Onward q := by
  refine ⟨launches.later ▸ Nat.le_succ _, ?_⟩
  intro closed
  cases closed.symm.trans launches.stays

theorem authorize_onward : p.Onward p.authorize := ⟨Nat.le_succ _, .inl⟩

theorem close_onward : p.Onward p.close := ⟨Nat.le_succ _, fun _ => .inr (Nat.lt_succ_self _)⟩

end Picker

namespace Sitting

-- Nothing that a picker has, shows or has asked for is changed.
structure Untouched (s s' : Sitting) : Prop where
  picker : s'.picker = s.picker
  launches : s'.launches = s.launches
  grown : ∃ newer, s'.history = newer ++ s.history ∧ ∀ e ∈ newer, e.2.inert = true

-- What a call that is current does when it learns the outcome: with access it lists the root, once; a failure is noted
-- where access was asked for; that the session was cancelled changes nothing.
def Heeds (setup : Setup) (s s' : Sitting) : SessionOutcome → Prop
  | .ok () => s'.picker.trail = .root ∧ s'.launches = s.launches ++ [⟨s.picker.generation + 1, setup.path⟩] ∧
      ∃ newer, s'.history = newer ++ (s.now, .listed setup.path setup.token) :: s.history ∧
        ∀ e ∈ newer, e.2.inert = true
  | .error .cancelled => Untouched s s'
  | .error _ => s.picker.dialog = .authorizing ∧
      s'.picker = Picker.turnTo { s.picker with attempted := true } .authorizing ∧ s'.launches = s.launches ∧
      ∃ newer, s'.history = newer ++ s.history ∧ ∀ e ∈ newer, e.2.inert = true

-- No two calls wait with the same generation, and when the picker is closed none of them is current.
structure Ranked (s : Sitting) : Prop where
  apart : ∀ n m generation i j, s.calls.lookup n = some (.authorizing generation i) →
    s.calls.lookup m = some (.authorizing generation j) → n = m
  closed : s.picker.closed = true → ∀ n generation i, s.calls.lookup n = some (.authorizing generation i) →
    generation < s.picker.generation

variable {w : Surroundings} {setup : Setup} {s s' s₀ : Sitting} {v : Option Task} {n m generation i j : Nat}
  {o : SessionOutcome}

theorem Move.onward (move : Move w setup v s s') : s.picker.Onward s'.picker := by
  have beside (beside : Beside s s') : s.picker.Onward s'.picker := beside.picker ▸ .refl
  cases move with
  | @conclude _ t => cases t <;> exact .refl
  | begin => exact beside beginSession_beside
  | complete => exact beside completeSession_beside
  | cancel => exact beside cancelSession_beside
  | authorize => exact Picker.authorize_onward
  | fail => exact Picker.failed_continues.onward
  | launch change asked => exact (Picker.relist_launches change.keeps asked).onward
  | list change asked =>
    have launches := Picker.relist_launches change.keeps asked
    exact launches.onward.trans Picker.arrive_continues.onward
  | arrive => exact Picker.arrive_continues.onward
  | select => exact Picker.select_continues.onward
  | close => exact Picker.close_onward
  | _ => exact .refl

theorem Reached.onward (path : Reached w setup s s') (tuned : ∀ t, s.Tuned t) : s.picker.Onward s'.picker :=
  path.keeps (P := fun s' => s.picker.Onward s'.picker) tuned .refl (fun _ _ _ move here => here.trans move.onward)
    fun _ _ => id

-- What becomes of a call that asks for access and has to wait for it.
structure Applies (s s' : Sitting) (n generation i : Nat) : Prop where
  asked : s.calls.lookup n = some (.queued .authorize)
  later : generation = s.picker.generation + 1
  current : s'.picker.generation = generation
  opened : s'.picker.closed = false
  live : s'.session.live = some i

theorem authorize_applies (asked : s.calls.lookup n = some (.queued .authorize))
    (waits : (authorize w setup n s).calls.lookup n = some (.authorizing generation i)) :
    Applies s (authorize w setup n s) n generation i := by
  unfold authorize at waits ⊢
  split at waits
  · rename_i may
    rw [if_pos may]
    have opened : s.picker.closed = false := by
      unfold Picker.mayAuthorize at may
      simpa using (Bool.and_eq_true_iff.mp may).1
    obtain ⟨s', beside, ⟨j, begun, live⟩ | ⟨reason, refused, _⟩⟩ :=
      beginSession_cases w setup { s with picker := s.picker.authorize }
    · obtain ⟨ready, joined⟩ := join_sets (s := s') (n := n) (i := j)
        (p := .authorizing s.picker.authorize.generation j)
      simp only [begun, joined] at waits ⊢
      rw [set_lookup, beside.calls, asked] at waits
      cases waits
      exact ⟨asked, rfl, congrArg _ beside.picker, (congrArg _ beside.picker).trans opened, live⟩
    · simp only [refused] at waits
      exact absurd (authorizing_waits waits) finished_unwaiting
  · exact absurd (authorizing_waits waits) finished_unwaiting

theorem Move.attends (move : Move w setup (some (.call n)) s s')
    (waits : s'.calls.lookup n = some (.authorizing generation i)) :
    s.calls.lookup n = some (.authorizing generation i) ∨ s.calls.lookup n = some (.queued .authorize) := by
  have set {s₁ : Sitting} {q : Pending} (other : q ≠ .authorizing generation i)
      (waits : (s₁.setCall n q).calls.lookup n = some (.authorizing generation i)) :
      s.calls.lookup n = some (.authorizing generation i) ∨ s.calls.lookup n = some (.queued .authorize) := by
    rw [set_lookup] at waits
    obtain ⟨_, _, same⟩ := Option.map_eq_some_iff.mp waits
    exact absurd same other
  cases move with
  | conclude => exact .inl (removed_here (s := Sitting.conclude _ _ _ s) waits)
  | begin => exact .inl (beginSession_beside.calls ▸ waits)
  | complete => exact .inl (completeSession_beside.calls ▸ waits)
  | cancel => exact .inl (cancelSession_beside.calls ▸ waits)
  | attend _ _ asked => exact .inr asked
  | await | join | launch => exact set (by simp) waits
  | fail | arrive => exact .inl (removed_here (s := { s with picker := _ }) waits)
  | list => exact .inl (removed_here (s := { s.launched setup _ _ with picker := _ }) waits)
  | done => exact .inl (removed_here waits)
  | _ => exact .inl waits

theorem Moves.unwaited (moves : Moves w setup v s s') (other : v ≠ some (.call n))
    (waits : s'.calls.lookup n = some (.authorizing generation i)) :
    s.calls.lookup n = some (.authorizing generation i) := by
  induction moves with
  | refl => exact waits
  | tail _ move ih =>
    rcases move.others other waits with before | ⟨_, op, same⟩
    · exact ih before
    · cases same

-- Whoever waits after an act waited before, or has just asked.
theorem act_waits (tuned : ∀ t, s.Tuned t) (a : Act)
    (waits : (act w setup a s).calls.lookup n = some (.authorizing generation i)) :
    s.calls.lookup n = some (.authorizing generation i) ∨
      a = .turn (.call n) ∧ Applies s (act w setup a s) n generation i := by
  by_cases mine : a = .turn (.call n)
  · subst mine
    have turned : Turned w setup (.call n) s (act w setup (.turn (.call n)) s) := act_turned (tuned _)
    have kept := Moves.keeps (P := fun s' => (s'.calls.lookup n = some (.authorizing generation i) →
        s.calls.lookup n = some (.authorizing generation i) ∨ s.calls.lookup n = some (.queued .authorize)) ∧
        (s'.calls.lookup n = some (.queued .authorize) → s.calls.lookup n = some (.queued .authorize))) turned.moves
      (fun s₁ s₂ move here => ⟨fun waits => (move.attends waits).elim here.1 fun asked => .inr (here.2 asked),
        fun asked => here.2 (move.queued asked)⟩) ⟨.inl, id⟩
    rcases kept.1 waits with before | asked
    · exact .inl before
    · let s₁ := { s with ready := s.ready.erase (.call n) }
      have same : act w setup (.turn (.call n)) s = authorize w setup n s₁ := by
        simp only [act, turn, callTurn, asked, beginCall, s₁]
      rw [same] at waits ⊢
      have applies : Applies s₁ (authorize w setup n s₁) n generation i := authorize_applies asked waits
      exact .inr ⟨rfl, asked, applies.later, applies.current, applies.opened, applies.live⟩
  · refine .inl ?_
    have acted : Acted w setup s a (act w setup a s) := acted a tuned
    generalize act w setup a s = s' at acted waits
    cases acted with
    | elapsed => exact waits
    | turned turned =>
      refine Moves.unwaited turned.moves ?_ waits
      intro same
      exact mine (congrArg Act.turn (Option.some.inj same))
    | moved moves => exact Moves.unwaited moves (by simp) waits

theorem act_onward (tuned : ∀ t, s.Tuned t) (a : Act) : s.picker.Onward (act w setup a s).picker :=
  (Reached.step .refl a).onward tuned

theorem Ranked.act (ranked : s.Ranked) (agrees : Agrees w setup s) (tuned : ∀ t, s.Tuned t) (a : Act) :
    (act w setup a s).Ranked := by
  have older {n generation i : Nat} (waits : s.calls.lookup n = some (.authorizing generation i)) :
      generation ≤ s.picker.generation := (agrees.asking _ _ _ (Lookup.mem waits)).1
  have onward : s.picker.Onward (Sitting.act w setup a s).picker := act_onward tuned a
  constructor
  · intro n m generation i j here there
    rcases act_waits tuned a here with before | ⟨mine, applies⟩ <;>
      rcases act_waits tuned a there with before' | ⟨mine', applies'⟩
    · exact ranked.apart n m generation i j before before'
    · have bound := older before
      have later := applies'.later
      omega
    · have bound := older before'
      have later := applies.later
      omega
    · cases mine.symm.trans mine'
      rfl
  · intro closed n generation i waits
    rcases act_waits tuned a waits with before | ⟨rfl, applies⟩
    · rcases onward.closed closed with already | later
      · exact Nat.lt_of_lt_of_le (ranked.closed already n generation i before) onward.generation
      · exact Nat.lt_of_le_of_lt (older before) later
    · cases closed.symm.trans applies.opened

theorem Reached.ranked (path : Reached w setup .initial s) : s.Ranked := by
  induction path with
  | refl =>
    constructor
    · intro n m generation i j here
      cases here
    · intro closed
      cases closed
  | step path a ih => exact ih.act path.agrees path.tuned a

-- A call that waits has waited as it does now, or has asked since then and supersedes all that was before.
theorem Reached.waited (path : Reached w setup .initial s) (later : Reached w setup s s')
    (waits : s'.calls.lookup n = some (.authorizing generation i)) :
    s.calls.lookup n = some (.authorizing generation i) ∨ s.picker.generation < generation := by
  induction later with
  | refl => exact .inl waits
  | step between a ih =>
    rcases act_waits (path.trans between).tuned a waits with before | ⟨_, applies⟩
    · exact ih before
    · have onward := between.onward path.tuned
      exact .inr (applies.later ▸ Nat.lt_succ_of_le onward.generation)

-- Nobody joins a session that has ended.
theorem Reached.joined (path : Reached w setup .initial s) (ended : s.outcome? i = some o)
    (later : Reached w setup s s') (waits : s'.calls.lookup n = some (.authorizing generation i)) :
    s.calls.lookup n = some (.authorizing generation i) := by
  induction later with
  | refl => exact waits
  | @step s₁ between a ih =>
    have reached : Reached w setup .initial s₁ := path.trans between
    rcases act_waits reached.tuned a waits with before | ⟨_, applies⟩
    · exact ih before
    · have still := (path.abides (between.step a)).outcome ended
      cases ((reached.step a).owned.unsettled applies.live).symm.trans still

theorem finish_inert : ∃ newer, (finish n .done s).history = newer ++ s.history ∧ ∀ e ∈ newer, e.2.inert = true := by
  obtain ⟨newer, grown, inert⟩ := (aside_release (s := s.endCall n .done)).grown
  refine ⟨newer ++ [(s.now, .finished n .done)], ?_, ?_⟩
  · rw [finish, grown]
    exact List.append_cons newer _ _
  · intro e here
    rcases List.mem_append.mp here with late | ended
    · exact inert e late
    · cases List.mem_singleton.mp ended
      rfl

theorem finish_untouched : Untouched s (finish n .done s) := ⟨finish_picker, finish_launches, finish_inert⟩

-- A call that was superseded touches nothing, whatever the outcome.
theorem authorized_untouched (stale : generation ≠ s.picker.generation) :
    Untouched s (authorized w setup n generation o s) := by
  unfold authorized
  split
  · have refused : s.picker.relist? setup.terms.path (Picker.fromRootAt generation) = none := by
      simp [Picker.relist?, Picker.fromRootAt, stale.symm]
    simp only [relist, refused]
    exact finish_untouched
  · exact finish_untouched
  · have same : s.picker.failed generation = s.picker := by
      simp [Picker.failed, stale.symm]
    rw [same]
    exact finish_untouched

theorem arrive_trail {p : Picker} : (p.arrive l result).trail = p.trail := by
  unfold Picker.arrive
  split <;> rfl

theorem authorized_heeds (opened : s.picker.closed = false) (asking : s.picker.dialog = .authorizing) :
    Heeds setup s (authorized w setup n s.picker.generation o s) o := by
  unfold authorized
  split
  · let p := (Picker.launch setup.path { s.picker with trail := .root }).1
    have asked : s.picker.relist? setup.terms.path (Picker.fromRootAt s.picker.generation) =
        some (p, ⟨s.picker.generation + 1, setup.path⟩) := by
      rw [Picker.relist?, opened, Picker.fromRootAt, if_pos rfl]
      rfl
    simp only [relist, asked, list]
    generalize w.listing (s.launches.map (·.path)) setup.path = answer
    obtain ⟨delay, result⟩ := answer
    split
    · refine ⟨?_, finish_launches, finish_inert⟩
      rw [finish_picker]
      exact arrive_trail
    · exact ⟨rfl, rfl, [], rfl, by simp⟩
  · exact finish_untouched
  · rename_i e other
    have noted : s.picker.failed s.picker.generation =
        Picker.turnTo { s.picker with attempted := true } .authorizing := by
      simp [Picker.failed, opened]
    have heeds : s.picker.dialog = .authorizing ∧
        (finish n .done { s with picker := s.picker.failed s.picker.generation }).picker =
          Picker.turnTo { s.picker with attempted := true } .authorizing ∧
        (finish n .done { s with picker := s.picker.failed s.picker.generation }).launches = s.launches ∧
        ∃ newer,
          (finish n .done { s with picker := s.picker.failed s.picker.generation }).history = newer ++ s.history ∧
            ∀ e ∈ newer, e.2.inert = true :=
      ⟨asking, finish_picker.trans noted, finish_launches, finish_inert⟩
    cases e with
    | cancelled => exact absurd rfl other
    | _ => exact heeds

theorem superseded_untouched (waits : s.calls.lookup n = some (.authorizing generation i))
    (ended : s.outcome? i = some o) (stale : generation ≠ s.picker.generation) :
    Untouched s (act w setup (.turn (.call n)) s) := by
  let s₁ := { s with ready := s.ready.erase (.call n) }
  have untouched : Untouched s₁ (authorized w setup n generation o s₁) := authorized_untouched stale
  rw [authorizing_turn waits ended]
  exact ⟨untouched.picker, untouched.launches, untouched.grown⟩

theorem Reached.heeds (path : Reached w setup .initial s)
    (waits : s.calls.lookup n = some (.authorizing s.picker.generation i)) (ended : s.outcome? i = some o) :
    Heeds setup s (act w setup (.turn (.call n)) s) o := by
  have asking : s.picker.dialog = .authorizing := (path.agrees.asking _ _ _ (Lookup.mem waits)).2 rfl
  have opened : s.picker.closed = false := by
    apply Bool.eq_false_iff.mpr
    intro closed
    exact absurd (path.ranked.closed closed n _ i waits) (Nat.lt_irrefl _)
  have heeds : Heeds setup { s with ready := s.ready.erase (.call n) } (act w setup (.turn (.call n)) s) o := by
    rw [authorizing_turn waits ended]
    exact authorized_heeds (s := { s with ready := _ }) opened asking
  rcases o with e | ⟨⟩
  · cases e with
    | cancelled => exact ⟨heeds.picker, heeds.launches, heeds.grown⟩
    | _ => exact heeds
  · exact heeds

-- A call that is current asked later than any other that has ever waited.
theorem Reached.last (path : Reached w setup .initial s₀) (later : Reached w setup s₀ s)
    (waits : s.calls.lookup n = some (.authorizing s.picker.generation i))
    (waited : s₀.calls.lookup m = some (.authorizing generation j)) (other : m ≠ n) :
    generation < s.picker.generation := by
  have bound : generation ≤ s₀.picker.generation := (path.agrees.asking _ _ _ (Lookup.mem waited)).1
  have onward := later.onward path.tuned
  rcases path.waited later waits with before | after
  · refine Nat.lt_of_le_of_ne (Nat.le_trans bound onward.generation) ?_
    intro same
    subst same
    exact other (path.ranked.apart m n _ j i waited before)
  · exact Nat.lt_of_le_of_lt bound after

-- A call that asks while a popup is open supersedes all that wait. When the session has ended each of them is ready;
-- one that was superseded touches nothing, and one that is current does what the outcome demands. If any of them acts,
-- no other that has ever waited asked later, and none that still waits for this popup acts any more.
theorem joined_calls_act_once (path : Reached w setup .initial s) :
    (∀ n generation i, s.calls.lookup n = some (.queued .authorize) →
      (act w setup (.turn (.call n)) s).calls.lookup n = some (.authorizing generation i) →
      generation = (act w setup (.turn (.call n)) s).picker.generation ∧
        ∀ m earlier j, s.calls.lookup m = some (.authorizing earlier j) → earlier < generation) ∧
    ∀ n generation i o, s.calls.lookup n = some (.authorizing generation i) → s.outcome? i = some o →
      .call n ∈ s.ready ∧
      (generation ≠ s.picker.generation → Untouched s (act w setup (.turn (.call n)) s)) ∧
      (generation = s.picker.generation → Heeds setup s (act w setup (.turn (.call n)) s) o) ∧
      (¬ Untouched s (act w setup (.turn (.call n)) s) →
        (∀ s₀ m earlier j, Reached w setup .initial s₀ → Reached w setup s₀ s →
          s₀.calls.lookup m = some (.authorizing earlier j) → m ≠ n → earlier < generation) ∧
        ∀ s₁ m earlier, Reached w setup (act w setup (.turn (.call n)) s) s₁ →
          s₁.calls.lookup m = some (.authorizing earlier i) → Untouched s₁ (act w setup (.turn (.call m)) s₁)) := by
  refine ⟨?_, ?_⟩
  · intro n generation i asked waits
    rcases act_waits path.tuned _ waits with before | ⟨_, applies⟩
    · cases asked.symm.trans before
    · refine ⟨applies.current.symm, ?_⟩
      intro m earlier j waiting
      have bound := (path.agrees.asking _ _ _ (Lookup.mem waiting)).1
      exact applies.later ▸ Nat.lt_succ_of_le bound
  · intro n generation i o waits ended
    refine ⟨path.roused.calls n i o (by simp) (authorizing_waits waits) ended, superseded_untouched waits ended, ?_, ?_⟩
    · intro current
      subst current
      exact path.heeds waits ended
    · intro acts
      have current : generation = s.picker.generation := by
        by_contra stale
        exact acts (superseded_untouched waits ended stale)
      subst current
      refine ⟨fun s₀ m earlier j first later waited => first.last later waits waited, ?_⟩
      intro s₁ m earlier later waiting
      have next : Reached w setup s (act w setup (.turn (.call n)) s) := .step .refl _
      have still := (path.abides (next.trans later)).outcome ended
      have other : m ≠ n := by
        rintro rfl
        have again := (path.trans next).joined ((path.abides next).outcome ended) later waiting
        exact told_unwaiting (authorizing_waits waits) ended (authorizing_waits again)
      have before := path.joined ended (next.trans later) waiting
      have onward := (next.trans later).onward path.tuned
      have overtaken : earlier < s.picker.generation := path.last .refl waits before other
      exact superseded_untouched waiting still (Nat.ne_of_lt (Nat.lt_of_lt_of_le overtaken onward.generation))

-- Two calls wait for one popup, which has just ended well.
def joinedTwice : Sitting :=
  acts .guarded .plain [.turn (.call 1), .start .authorize, .turn (.call 2), .turn (.popup 0), .deliver consent,
    .turn (.popup 0)] lacking

theorem joinedTwice_lists_once :
    Untouched joinedTwice (act .guarded .plain (.turn (.call 1)) joinedTwice) ∧
    Heeds .plain joinedTwice (act .guarded .plain (.turn (.call 2)) joinedTwice) (.ok ()) := by
  have path : Reached .guarded .plain .initial joinedTwice := (acts_reached _).trans (acts_reached _)
  have waiting := (joined_calls_act_once path).2
  exact ⟨(waiting 1 2 0 (.ok ()) rfl rfl).2.1 (by decide), (waiting 2 3 0 (.ok ()) rfl rfl).2.2.1 rfl⟩

end Sitting
end CourseFiles
