import CourseFiles.Proofs.Authorization.Settlement
import CourseFiles.Proofs.Picker.Agreement
import CourseFiles.Proofs.Sitting.Within

namespace CourseFiles

open History

namespace Happening

-- Whether access was granted: to the popup itself, or as was learned elsewhere.
def grants (i : Nat) : Happening → Bool
  | .completed j => j = i
  | .settled j (.ok ()) => j = i
  | _ => false

theorem grants_rules {e : Happening} (grants : e.grants i = true) : e.rules i = some (.ok ()) := by
  cases e with
  | completed j => simpa [rules, Happening.grants] using grants
  | settled j o =>
    rcases o with e | ⟨⟩
    · cases grants
    · simpa [rules, Happening.grants] using grants
  | _ => cases grants

theorem unruled_grants {e : Happening} (silent : e.rules i = none) : e.grants i = false := by
  refine Bool.eq_false_iff.mpr ?_
  intro grants
  cases silent.symm.trans (grants_rules grants)

end Happening

namespace History

def Granted (i : Nat) (h : History) : Prop := ∃ e ∈ h, e.2.grants i = true

-- Access was granted since then, and after that something was listed.
def Relisted (i : Nat) (h₀ h : History) : Prop :=
  ∃ after e between time path token, h = after ++ e :: (between ++ h₀) ∧ e.2.grants i = true ∧
    (time, .listed path token) ∈ after

variable {i : Nat} {h h₀ newer : History}

theorem ungranted (quiet : ∀ e ∈ h, e.2.grants i = false) : ¬ Granted i h := by
  rintro ⟨e, here, grants⟩
  cases (quiet e here).symm.trans grants

theorem granted_append (newer : History) (quiet : ∀ e ∈ newer, e.2.grants i = false)
    (granted : Granted i (newer ++ h)) : Granted i h := by
  obtain ⟨e, here, grants⟩ := granted
  rcases List.mem_append.mp here with new | old
  · cases (quiet e new).symm.trans grants
  · exact ⟨e, old, grants⟩

theorem Granted.grow (granted : Granted i h) (grown : h' = newer ++ h) : Granted i h' := by
  obtain ⟨e, here, grants⟩ := granted
  exact ⟨e, grown ▸ List.mem_append_right _ here, grants⟩

theorem Relisted.grow (relisted : Relisted i h₀ h) : Relisted i h₀ (newer ++ h) := by
  obtain ⟨after, e, between, time, path, token, rfl, grants, listed⟩ := relisted
  refine ⟨newer ++ after, e, between, time, path, token, ?_, grants, List.mem_append_right _ listed⟩
  rw [List.append_assoc]

theorem relisted_now (grown : h = newer ++ h₀) (granted : Granted i h) (fresh : ¬ Granted i h₀) :
    Relisted i h₀ ((time, .listed path token) :: h) := by
  subst grown
  obtain ⟨e, here, grants⟩ := granted
  rcases List.mem_append.mp here with new | old
  · obtain ⟨after, between, rfl⟩ := List.append_of_mem new
    refine ⟨(time, .listed path token) :: after, e, between, time, path, token, ?_, grants, List.mem_cons_self⟩
    rw [List.append_assoc, List.cons_append, List.cons_append]
  · exact absurd ⟨e, old, grants⟩ fresh

theorem Relisted.listed (newer : History) (relisted : Relisted i h₀ (newer ++ h₀)) :
    ∃ time path token, (time, .listed path token) ∈ newer := by
  obtain ⟨after, e, between, time, path, token, same, _, listed⟩ := relisted
  rw [← List.cons_append, ← List.append_assoc] at same
  have same : newer = after ++ e :: between := List.append_cancel_right same
  exact ⟨time, path, token, by rw [same]; exact List.mem_append_left _ listed⟩

end History

namespace Picker

-- Nothing is superseded.
structure Continues (p q : Picker) : Prop where
  closed : q.closed = p.closed
  generation : q.generation = p.generation

variable {p : Picker}

theorem Continues.refl : p.Continues p := ⟨rfl, rfl⟩

theorem failed_continues : p.Continues (p.failed last) := by
  unfold failed
  split <;> exact ⟨rfl, rfl⟩

theorem arrive_continues : p.Continues (p.arrive l result) := by
  unfold arrive
  split <;> exact ⟨rfl, rfl⟩

theorem select_continues : p.Continues (p.select item) := by
  unfold select
  split <;> exact ⟨rfl, rfl⟩

end Picker

namespace Sitting

-- Whoever asked last for the popup waits for its outcome, and nothing has superseded that call.
def Owed (s : Sitting) (i : Nat) : Prop :=
  s.picker.closed = false ∧ ∃ n, s.calls.lookup n = some (.authorizing s.picker.generation i)

-- As long as nothing was listed the access is owed to the one who asked for it.
structure Pledged (i : Nat) (h₀ : History) (s : Sitting) : Prop where
  grown : ∃ newer, s.history = newer ++ h₀
  kept : s.Owed i ∨ Relisted i h₀ s.history

-- Access was granted, or still may be in the turn of this task. Of the calls only one that says so grants it.
def MayGrant (s : Sitting) (i : Nat) (t : Task) : Prop :=
  History.Granted i s.history ∨ ∀ n, t = .call n → s.calls.lookup n = some (.queued .authorizationComplete)

variable {w : Surroundings} {setup : Setup} {s s' : Sitting} {v : Option Task} {t : Task} {n m i j generation : Nat}
  {h₀ : History}

-- What is owed stays so while the picker goes on and whoever is owed it waits.
theorem Owed.kept (owed : s.Owed i) (continues : s.picker.Continues s'.picker)
    (calls : ∀ m, s.calls.lookup m = some (.authorizing s.picker.generation i) →
      s'.calls.lookup m = some (.authorizing s.picker.generation i)) : s'.Owed i := by
  obtain ⟨opened, m, waits⟩ := owed
  refine ⟨continues.closed.trans opened, m, ?_⟩
  rw [continues.generation]
  exact calls m waits

theorem Owed.ended (owed : s.Owed i) (other : s.calls.lookup n ≠ some (.authorizing s.picker.generation i))
    (continues : s.picker.Continues s'.picker) (calls : s'.calls = (s.removeCall n).calls) : s'.Owed i := by
  apply owed.kept continues
  intro m waits
  have apart : m ≠ n := fun same => other (same ▸ waits)
  rw [calls, removed_other apart, waits]

theorem Owed.set (owed : s.Owed i) (other : s.calls.lookup n ≠ some (.authorizing s.picker.generation i)) :
    (s.setCall n p).Owed i := by
  refine owed.kept .refl ?_
  intro m waits
  have apart : m ≠ n := fun same => other (same ▸ waits)
  rw [set_other apart, waits]

theorem Talks.unowed (talks : s.Talks n) : s.calls.lookup n ≠ some (.authorizing generation i) := by
  rcases talks with ⟨_, _, _, _, _, _, asked⟩ | ⟨_, waiting⟩
  · simp [asked]
  · simp [waiting]

theorem Uses.unowed (uses : s.Uses n item) : s.calls.lookup n ≠ some (.authorizing generation i) := by
  rcases uses with asked | ⟨asked, _⟩ <;> simp [asked]

-- Access that was granted is not taken back.
theorem Honoured.unfailed (honoured : s.Honoured) (granted : History.Granted i s.history) :
    ¬ ∃ e, s.outcome? i = some (.error e) := by
  rintro ⟨e, failed⟩
  obtain ⟨entry, here, grants⟩ := granted
  have decided : s.Decided i (.ok ()) := honoured entry here i _ (Happening.grants_rules grants)
  cases decided.unique (outcome_decided failed)

-- A call that is owed access ends without a listing only if its session failed; no listing is refused to it.

theorem Fails.failed (fails : s.Fails n generation) (mine : s.calls.lookup n = some (.authorizing last i)) :
    ∃ e, s.outcome? i = some (.error e) := by
  cases fails with
  | session waiting failed =>
    cases mine.symm.trans waiting
    exact ⟨_, failed⟩
  | opening _ _ asked => cases mine.symm.trans asked

theorem Plain.failed (plain : s.Plain setup n r) (opened : s.picker.closed = false)
    (mine : s.calls.lookup n = some (.authorizing s.picker.generation i)) : ∃ e, s.outcome? i = some (.error e) := by
  cases plain with
  | refused change stays =>
    cases change with
    | fromRootAt waiting =>
      cases mine.symm.trans waiting
      simp [Picker.relist?, opened, Picker.fromRootAt, Picker.fromRoot] at stays
    | enter uses => exact absurd mine uses.unowed
    | again asked | unlessAuthorizing asked | fromRoot asked | into asked => cases mine.symm.trans asked
  | cancelled waiting ended =>
    cases mine.symm.trans waiting
    exact ⟨_, ended⟩
  | nothing uses | chosen uses => exact absurd mine uses.unowed
  | barred asked | late asked | notOpened _ asked | session asked => cases mine.symm.trans asked

-- A call begins once.
theorem Move.queued (move : Move w setup (some (.call n)) s s') (asked : s'.calls.lookup n = some (.queued op)) :
    s.calls.lookup n = some (.queued op) := by
  have set {s₁ : Sitting} {p : Pending} (begun : ∀ op, p ≠ .queued op)
      (asked : (s₁.setCall n p).calls.lookup n = some (.queued op)) : s.calls.lookup n = some (.queued op) := by
    rw [set_lookup] at asked
    obtain ⟨_, _, same⟩ := Option.map_eq_some_iff.mp asked
    exact absurd same (begun op)
  have ended {s₁ : Sitting} {r : CallResult} (asked : (s₁.endCall n r).calls.lookup n = some (.queued op)) :
      s.calls.lookup n = some (.queued op) := by
    cases removed_lookup.symm.trans asked
  cases move with
  | begin => rwa [beginSession_beside.calls] at asked
  | complete => rwa [completeSession_beside.calls] at asked
  | cancel => rwa [cancelSession_beside.calls] at asked
  | await | join | attend | launch => exact set (by simp) asked
  | conclude | fail | list | arrive | done => exact ended asked
  | _ => exact asked

theorem cancelSession_quiet : ∃ newer, s.cancelSession.history = newer ++ s.history ∧
    ∀ e ∈ newer, e.2.grants i = false := by
  unfold cancelSession endSession
  split
  · exact ⟨[], rfl, by simp⟩
  · exact ⟨[_, _], rfl, by simp [Happening.grants]⟩

-- Of the calls only one that says so learns elsewhere that access was granted.
theorem Move.ungranting (move : Move w setup (some (.call n)) s s')
    (unasked : s.calls.lookup n ≠ some (.queued .authorizationComplete)) (granted : History.Granted i s'.history) :
    History.Granted i s.history := by
  have back (newer : History) (grown : s'.history = newer ++ s.history)
      (quiet : ∀ e ∈ newer, e.2.grants i = false) : History.Granted i s.history :=
    granted_append newer quiet (grown ▸ granted)
  cases move with
  | complete asked =>
    obtain ⟨_, same, mine⟩ := asked _ rfl
    cases same
    exact absurd mine unasked
  | begin =>
    obtain ⟨e, grown, silent⟩ := beginSession_rules w setup s
    exact back [_] grown (by simpa using Happening.unruled_grants (silent i))
  | cancel =>
    obtain ⟨newer, grown, quiet⟩ := cancelSession_quiet (s := s) (i := i)
    exact back newer grown quiet
  | ask | conclude | list => exact back [_, _] rfl (by simp [Happening.grants])
  | deliver | skip | fail | launch | arrive | done => exact back [_] rfl (by simp [Happening.grants])
  | _ => exact back [] rfl (by simp)

theorem Move.mayGrant (move : Move w setup (some t) s s') (may : s'.MayGrant i t) : s.MayGrant i t := by
  cases t with
  | popup j => exact .inr fun n same => by cases same
  | call n =>
    by_cases asked : s.calls.lookup n = some (.queued .authorizationComplete)
    · refine .inr fun m same => ?_
      cases same
      exact asked
    · rcases may with granted | asks
      · exact .inl (move.ungranting asked granted)
      · exact absurd (move.queued (asks n rfl)) asked

theorem MayGrant.granted (may : s.MayGrant i (.call n))
    (unasked : s.calls.lookup n ≠ some (.queued .authorizationComplete)) : History.Granted i s.history :=
  may.resolve_right fun asks => unasked (asks n rfl)

-- What holds between the moves of a turn. A turn in which access is not granted may list what it likes.
structure Underway (i : Nat) (h₀ : History) (t : Task) (s : Sitting) : Prop where
  owned : s.Owned
  honoured : s.Honoured
  unauthorizing : ∀ n, t = .call n → s.calls.lookup n ≠ some (.queued .authorize)
  grown : ∃ newer, s.history = newer ++ h₀
  kept : s.MayGrant i t → s.Owed i ∨ Relisted i h₀ s.history

-- A listing that comes after access was granted.
theorem Underway.relists (underway : Underway i h₀ t s) (fresh : ¬ History.Granted i h₀)
    (granted : History.Granted i s.history) (newer : History)
    (grown : s'.history = newer ++ (s.now, .listed path token) :: s.history) :
    s'.Owed i ∨ Relisted i h₀ s'.history := by
  obtain ⟨_, before⟩ := underway.grown
  rw [grown]
  exact .inr (relisted_now before granted fresh).grow

theorem Move.owed (move : Move w setup (some t) s s') (underway : Underway i h₀ t s) (fresh : ¬ History.Granted i h₀)
    (owed : s.Owed i) (still : s'.MayGrant i t) : s'.Owed i ∨ Relisted i h₀ s'.history := by
  have may := move.mayGrant still
  have beside (beside : Beside s s') : s'.Owed i :=
    owed.kept (beside.picker ▸ .refl) fun _ waits => by rw [beside.calls, waits]
  have unfailed {n last : Nat} (call : t = .call n) (mine : s.calls.lookup n = some (.authorizing last i)) :
      ¬ ∃ e, s.outcome? i = some (.error e) := by
    subst call
    exact underway.honoured.unfailed (may.granted (by simp [mine]))
  cases move with
  | conclude _ _ _ own =>
    cases t with
    | call n => exact .inl (owed.ended (own n rfl).unowed .refl rfl)
    | popup j => exact .inl (owed.kept .refl fun _ => id)
  | begin => exact .inl (beside beginSession_beside)
  | complete => exact .inl (beside completeSession_beside)
  | cancel => exact .inl (beside cancelSession_beside)
  | await _ own => exact .inl (owed.set own.unowed)
  | join _ asked | attend _ _ asked => exact .inl (owed.set (by simp [asked]))
  | authorize may asked => exact absurd asked (underway.unauthorizing _ rfl)
  | fail why =>
    exact .inl (owed.ended (fun mine => unfailed rfl mine (why.failed mine)) Picker.failed_continues rfl)
  | @launch p l delay result n _ after f =>
    have waits := set_lookup (s.launched setup p l) (.listing l (s.now + delay) result after) (n := n)
    have granted : History.Granted i (s.launched setup p l).history := still.granted <| by
      rw [waits]
      simp
    have granted : History.Granted i s.history := granted_append [_] (by simp [Happening.grants]) granted
    exact underway.relists fresh granted [] rfl
  | list =>
    have granted := still.granted (by rw [endCall, record, removed_lookup]; simp)
    have granted : History.Granted i s.history := granted_append [_, _] (by simp [Happening.grants]) granted
    exact underway.relists fresh granted [_] rfl
  | arrive waiting => exact .inl (owed.ended (by simp [waiting]) Picker.arrive_continues rfl)
  | done plain => exact .inl (owed.ended (fun mine => unfailed rfl mine (plain.failed owed.1 mine)) .refl rfl)
  | _ => exact .inl (owed.kept .refl fun _ => id)

theorem Move.underway (move : Move w setup (some t) s s') (fresh : ¬ History.Granted i h₀)
    (underway : Underway i h₀ t s) : Underway i h₀ t s' := by
  obtain ⟨newer, grown⟩ := move.grows
  constructor
  · exact move.owned underway.owned
  · exact move.honoured underway.owned underway.honoured
  · rintro n rfl asked
    exact underway.unauthorizing n rfl (move.queued asked)
  · exact grows_trans underway.grown ⟨newer, grown⟩
  · intro still
    rcases underway.kept (move.mayGrant still) with owed | relisted
    · exact move.owed underway fresh owed still
    · exact .inr (grown ▸ relisted.grow)

theorem Pledged.grow (pledged : Pledged i h₀ s) (grown : s'.history = newer ++ s.history)
    (owed : s.Owed i → s'.Owed i ∨ Relisted i h₀ s'.history) : Pledged i h₀ s' := by
  refine ⟨grows_trans pledged.grown ⟨newer, grown⟩, ?_⟩
  rcases pledged.kept with still | relisted
  · exact owed still
  · exact .inr (grown ▸ relisted.grow)

theorem Moves.pledged (moves : Moves w setup (some t) s s') (owned : s.Owned) (honoured : s.Honoured)
    (patient : ∀ n, t = .call n → s.calls.lookup n = some (.queued .authorize) → ¬ s.Owed i)
    (fresh : ¬ History.Granted i h₀) (granted : History.Granted i s'.history) (pledged : Pledged i h₀ s) :
    Pledged i h₀ s' := by
  obtain ⟨newer, grown⟩ := Moves.grows moves
  refine pledged.grow grown fun owed => ?_
  have begun : Underway i h₀ t s :=
    ⟨owned, honoured, fun n mine asked => patient n mine asked owed, pledged.grown, fun _ => .inl owed⟩
  have ended : Underway i h₀ t s' := Moves.keeps moves (fun _ _ move => move.underway fresh) begun
  exact ended.kept (.inl granted)

-- Neither the picker is cancelled nor is a call dropped.
def Undisturbed (_ : Sitting) (a : Act) : Prop := a ≠ .cancel ∧ ∀ n, a ≠ .abort n

theorem Outside.owed (outside : Outside s a s') (undisturbed : s.Undisturbed a) (owed : s.Owed i) : s'.Owed i := by
  cases outside with
  | aside aside => exact owed.kept (aside.picker ▸ .refl) fun _ waits => by rw [aside.calls, waits]
  | start => exact owed.kept .refl fun _ => started_other
  | drop => exact absurd rfl (undisturbed.2 _)
  | select => exact owed.kept Picker.select_continues fun _ => id
  | close => exact absurd rfl undisturbed.1

-- Besides, nobody asks for access anew before those who wait for the popup have learned what came of it.
def Patient (i : Nat) (s : Sitting) (a : Act) : Prop :=
  s.Undisturbed a ∧ ∀ n, a = .turn (.call n) → s.calls.lookup n = some (.queued .authorize) →
    ∀ m generation, s.calls.lookup m ≠ some (.authorizing generation i)

theorem Patient.unowed (patient : Patient i s (.turn t)) (n : Nat) (mine : t = .call n)
    (asked : s.calls.lookup n = some (.queued .authorize)) : ¬ s.Owed i := by
  rintro ⟨_, m, waits⟩
  exact patient.2 n (by rw [mine]) asked m _ waits

theorem Outside.pledged (outside : Outside s a s') (patient : Patient i s a) (pledged : Pledged i h₀ s) :
    Pledged i h₀ s' := by
  obtain ⟨newer, grown⟩ := outside.grows
  exact pledged.grow grown fun owed => .inl (outside.owed patient.1 owed)

theorem Within.pledged (path : Reached w setup .initial s) (later : Within (Patient i) w setup s s')
    (fresh : ¬ History.Granted i h₀) (granted : History.Granted i s.history) (pledged : Pledged i h₀ s) :
    Pledged i h₀ s' := by
  have both : History.Granted i s'.history ∧ Pledged i h₀ s' := by
    refine later.keeps (P := fun s => History.Granted i s.history ∧ Pledged i h₀ s) path.tuned ⟨granted, pledged⟩ ?_ ?_
    · rintro t s₁ s₂ between patient moves ⟨granted, pledged⟩
      obtain ⟨newer, grown⟩ := Moves.grows moves
      have reached := path.trans between
      have granted := granted.grow grown
      exact ⟨granted, Moves.pledged moves reached.owned reached.honoured patient.unowed fresh granted pledged⟩
    · rintro a s₁ s₂ _ patient outside ⟨granted, pledged⟩
      obtain ⟨newer, grown⟩ := outside.grows
      exact ⟨granted.grow grown, outside.pledged patient pledged⟩
  exact both.2

-- Access is granted while the call that asked last for the popup waits, and nothing has been listed since it asked. If
-- nobody asks anew before all who wait for this popup have returned, something is listed after that.
theorem granted_access_is_used (path : Reached w setup .initial s) (opened : s.picker.closed = false)
    (waits : s.calls.lookup n = some (.authorizing s.picker.generation i)) (fresh : ¬ History.Granted i s.history)
    (patient : Patient i s a) (granted : History.Granted i (act w setup a s).history)
    (later : Within (Patient i) w setup (act w setup a s) s')
    (returned : ∀ m generation, s'.calls.lookup m ≠ some (.authorizing generation i)) :
    Relisted i s.history s'.history := by
  have begun : Pledged i s.history s := ⟨⟨[], rfl⟩, .inl ⟨opened, n, waits⟩⟩
  have done : Pledged i s.history (act w setup a s) := by
    rcases act_cases w setup a path.tuned with ⟨t, rfl, moves⟩ | outside
    · exact Moves.pledged moves path.owned path.honoured patient.unowed fresh granted begun
    · exact outside.pledged patient begun
  rcases (later.pledged (path.step a) fresh granted done).kept with ⟨_, m, waiting⟩ | relisted
  · exact absurd waiting (returned m _)
  · exact relisted

-- What a popup answers when the user has granted access.
def consent : Message :=
  ⟨"https://lms", .object [("id", .text "0"), ("jsonrpc", .text "2.0"), ("result", .null)]⟩

-- Access is lacking, and a call is about to ask for it.
def lacking : Sitting := acts .guarded .plain [.start .start, .turn (.call 0), .start .authorize] .initial

-- The popup has been opened and asked, and has answered.
def consented : Sitting := acts .guarded .plain [.turn (.call 1), .turn (.popup 0), .deliver consent] lacking

theorem consented_relists :
    Relisted 0 consented.history (acts .guarded .plain [.turn (.popup 0), .turn (.call 1)] consented).history := by
  have path : Reached .guarded .plain .initial consented := (acts_reached _).trans (acts_reached _)
  have fresh : ¬ History.Granted 0 consented.history := ungranted (by decide)
  have granted : History.Granted 0 (act .guarded .plain (.turn (.popup 0)) consented).history :=
    ⟨(0, .settled 0 (.ok ())), List.mem_cons_self, rfl⟩
  have patient : Patient 0 consented (.turn (.popup 0)) := ⟨⟨by simp, by simp⟩, by simp⟩
  have later : Within (Patient 0) .guarded .plain (act .guarded .plain (.turn (.popup 0)) consented)
      (acts .guarded .plain [.turn (.popup 0), .turn (.call 1)] consented) := by
    refine acts_within [.turn (.call 1)] ⟨⟨⟨by simp, by simp⟩, ?_⟩, trivial⟩
    intro n same asked
    cases same
    cases asked
  refine granted_access_is_used path rfl (n := 1) rfl fresh patient granted later ?_
  intro m last waits
  cases waits

-- While the popup was open the picker has begun anew and found out once more that access is lacking.
def begunAnew : Sitting :=
  acts .guarded .plain [.turn (.call 1), .turn (.popup 0), .start .start, .turn (.call 2), .deliver consent] lacking

-- Then nobody makes use of the access that is granted, though no call is left.
theorem second_start_loses_access :
    ¬ ∀ w (setup : Setup) s n i s₁ a s', Within Undisturbed w setup .initial s →
      s.calls.lookup n = some (.queued .authorize) → s.session.live = none →
      (act w setup (.turn (.call n)) s).session.live = some i →
      Within Undisturbed w setup (act w setup (.turn (.call n)) s) s₁ → ¬ History.Granted i s₁.history →
      Undisturbed s₁ a → History.Granted i (act w setup a s₁).history →
      Within Undisturbed w setup (act w setup a s₁) s' → s'.calls = [] → Relisted i s₁.history s'.history := by
  intro all
  have fresh : ¬ History.Granted 0 begunAnew.history := ungranted (by decide)
  have granted : History.Granted 0 (act .guarded .plain (.turn (.popup 0)) begunAnew).history :=
    ⟨(0, .settled 0 (.ok ())), List.mem_cons_self, rfl⟩
  have before : Within Undisturbed .guarded .plain .initial lacking := acts_always _ (by simp [Undisturbed])
  have between : Within Undisturbed .guarded .plain (act .guarded .plain (.turn (.call 1)) lacking) begunAnew :=
    acts_always [.turn (.popup 0), .start .start, .turn (.call 2), .deliver consent] (by simp [Undisturbed])
  have after : Within Undisturbed .guarded .plain (act .guarded .plain (.turn (.popup 0)) begunAnew)
      (acts .guarded .plain [.turn (.popup 0), .turn (.call 1)] begunAnew) :=
    acts_always [.turn (.call 1)] (by simp [Undisturbed])
  have lost := all _ _ _ 1 0 _ _ _ before rfl rfl rfl between fresh (by simp [Undisturbed]) granted after rfl
  obtain ⟨time, path, token, listed⟩ := Relisted.listed [(0, .finished 1 .done), (0, .settled 0 (.ok ())),
    (0, .closed 0 true), (0, .concluded (.popup 0) ⟨0, "https://lms", "0", 2000⟩ (.ok .null))] lost
  simp at listed

end Sitting
end CourseFiles
