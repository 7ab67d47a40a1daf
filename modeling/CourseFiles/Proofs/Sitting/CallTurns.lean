import CourseFiles.Proofs.Sitting.PopupTurns

namespace CourseFiles

open History

namespace Sitting

variable {w : Surroundings} {setup : Setup} {s s' s'' : Sitting} {t u : Task} {v : Option Task} {n m : Nat}

-- What happens to the session leaves the clock, the calls and the picker alone.
structure Beside (s s₁ : Sitting) : Prop where
  now : s₁.now = s.now
  calls : s₁.calls = s.calls
  picker : s₁.picker = s.picker
  launches : s₁.launches = s.launches
  nextCall : s₁.nextCall = s.nextCall
  holds : ∀ n, s.Holds (.call n) none → s₁.Holds (.call n) none

theorem endSession_beside {h : Nat → Happening} (unheard : ∀ i, h i = .completed i ∨ h i = .cancelled i) :
    Beside s (endSession h mark phase s) := by
  unfold endSession
  split
  · exact ⟨rfl, rfl, rfl, rfl, rfl, fun _ free => ⟨free.1, free.2⟩⟩
  · rename_i i _
    refine ⟨rfl, rfl, rfl, rfl, rfl, fun n free => ⟨free.1.symm.trans ?_ |>.symm, free.2.symm.trans ?_ |>.symm⟩⟩
    all_goals
      rcases unheard i with same | same <;>
        simp [awaits, Sitting.refusal, closePopup, wake, updatePopup, record, awaited, History.refusal, same,
          Happening.ends]

theorem completeSession_beside : Beside s s.completeSession := endSession_beside fun _ => .inl rfl

theorem cancelSession_beside : Beside s s.cancelSession := endSession_beside fun _ => .inr rfl

theorem release_beside : Beside s s.release := by
  unfold release
  split
  · exact cancelSession_beside
  · exact ⟨rfl, rfl, rfl, rfl, rfl, fun _ free => ⟨free.1, free.2⟩⟩

theorem finish_picker : (finish n r s).picker = s.picker := release_beside.picker

theorem finish_launches : (finish n r s).launches = s.launches := release_beside.launches

theorem beginSession_cases (w : Surroundings) (setup : Setup) (s : Sitting) : ∃ s', Beside s s' ∧
    ((∃ i, beginSession w setup s = (.ok i, s') ∧ s'.session.live = some i) ∨
      ∃ reason, beginSession w setup s = (.error (.notOpened reason), s') ∧ s'.OpeningFailed) := by
  unfold beginSession
  split
  · rename_i i live
    refine ⟨_, ?_, .inl ⟨i, rfl, live⟩⟩
    exact ⟨rfl, rfl, rfl, rfl, rfl, fun _ free => ⟨free.1, free.2⟩⟩
  · dsimp only
    split
    · rename_i reason _
      refine ⟨_, ?_, .inr ⟨reason, rfl, _, _, _, _, rfl⟩⟩
      exact ⟨rfl, rfl, rfl, rfl, rfl, fun _ free => ⟨free.1, free.2⟩⟩
    · refine ⟨_, ?_, .inl ⟨_, rfl, rfl⟩⟩
      exact ⟨rfl, rfl, rfl, rfl, rfl, fun _ free => ⟨free.1, free.2⟩⟩

theorem beginSession_beside : Beside s (beginSession w setup s).2 := by
  obtain ⟨s', beside, ⟨i, begun, _⟩ | ⟨reason, begun, _⟩⟩ := beginSession_cases w setup s
  all_goals
    rw [begun]
    exact beside

theorem removed_lookup : (s.removeCall n).calls.lookup n = none := by
  simp [removeCall, Lookup.without]

theorem removed_other (other : m ≠ n) : (s.removeCall n).calls.lookup m = s.calls.lookup m := by
  rw [removeCall, Lookup.without, if_neg other]

theorem mem_setCall {c : Nat × Pending} (here : c ∈ (s.setCall n p).calls) : c = (n, p) ∨ c ∈ s.calls ∧ c.1 ≠ n := by
  obtain ⟨d, there, same⟩ := List.mem_map.mp here
  split at same
  · exact .inl same.symm
  · rename_i other
    exact .inr ⟨same ▸ there, same ▸ other⟩

theorem mem_removeCall {c : Nat × Pending} (here : c ∈ (s.removeCall n).calls) : c ∈ s.calls ∧ c.1 ≠ n := by
  obtain ⟨there, other⟩ := List.mem_filter.mp here
  exact ⟨there, by simpa using other⟩

theorem report_now : (report t o s).now = s.now := by
  cases t <;> rfl

theorem report_bus : (report t o s).bus = s.bus := by
  cases t <;> rfl

theorem report_calls {c : Nat × Pending} (here : c ∈ (report t o s).calls) : c ∈ s.calls := by
  cases t with
  | call n => exact (mem_removeCall here).1
  | popup i => exact here

theorem free_turned (moves : Moves w setup (some (.call n)) s s') (now : s'.now = s.now)
    (free : s'.Holds (.call n) none) (holdsNone : s'.attempt? (.call n) = none) :
    Turned w setup (.call n) s s' := by
  refine ⟨moves, now, ?_, .inr ⟨?_, ?_⟩⟩
  · rw [Tuned, holdsNone]
    exact free
  · intro a awaited
    cases free.awaits.symm.trans awaited
  · intro i p same
    cases same

-- A call that ends lets go of the picker.
theorem finish_turned (moves : Moves w setup (some (.call n)) s (s'.endCall n r)) (now : s'.now = s.now)
    (free : s'.Holds (.call n) none) : Turned w setup (.call n) s (finish n r s') := by
  have beside := release_beside (s := s'.endCall n r)
  refine free_turned ?_ (beside.now.trans now) (beside.holds n ⟨free.1, free.2⟩) ?_
  · unfold finish release
    split
    · exact moves.tail .cancel
    · exact moves
  · rw [attempt?, finish, beside.calls]
    exact congrArg (·.bind Pending.attempt?) removed_lookup

theorem set_lookup (s : Sitting) (p : Pending) :
    (s.setCall n p).calls.lookup n = (s.calls.lookup n).map fun _ => p := by
  rw [setCall, Lookup.replaced, if_pos rfl]

theorem set_other (other : m ≠ n) : (s.setCall n p).calls.lookup m = s.calls.lookup m := by
  rw [setCall, Lookup.replaced, if_neg other]

-- A call that waits for something else than a reply.
theorem set_turned (moves : Moves w setup (some (.call n)) s (s'.setCall n p)) (now : s'.now = s.now)
    (free : s'.Holds (.call n) none) (holdsNone : p.attempt? = none) :
    Turned w setup (.call n) s (s'.setCall n p) := by
  refine free_turned moves now ⟨free.1, free.2⟩ ?_
  rw [attempt?, set_lookup]
  cases s'.calls.lookup n with
  | none => rfl
  | some _ => exact holdsNone

-- Whether or not it is woken besides, a call that joins waits.
theorem join_sets : ∃ ready, s.join n i p = { s.setCall n p with ready } := by
  unfold join
  split <;> exact ⟨_, rfl⟩

-- A call that waits for a session may have to learn at once what became of it.
theorem join_turned (moves : Moves w setup (some (.call n)) s (s'.setCall n p)) (now : s'.now = s.now)
    (free : s'.Holds (.call n) none) (holdsNone : p.attempt? = none) :
    Turned w setup (.call n) s (s'.join n i p) := by
  have turned := set_turned moves now free holdsNone
  unfold join
  split
  · exact ⟨moves.tail .wake, now, ⟨turned.tuned.1, turned.tuned.2⟩, .inl mem_enqueue⟩
  · exact turned

theorem done_turned (moves : Moves w setup (some (.call n)) s s') (now : s'.now = s.now)
    (free : s'.Holds (.call n) none) (plain : s'.Plain setup n r) : Turned w setup (.call n) s (finish n r s') :=
  finish_turned (moves.tail (.done plain)) now free

theorem relist_turned (change : s.Change n after f) (free : s.Holds (.call n) none) :
    Turned w setup (.call n) s (relist w setup n after f s) := by
  unfold relist
  split
  · rename_i stays
    exact done_turned .refl rfl free (.refused change stays)
  · rename_i p l asked
    generalize reply : w.listing (s.launches.map (·.path)) l.path = answer
    obtain ⟨delay, result⟩ := answer
    simp only [list, reply]
    split
    · rename_i now
      subst now
      exact finish_turned (.single (.list change asked reply)) rfl ⟨free.1, free.2⟩
    · rename_i slow
      exact set_turned (.single (.launch change asked reply slow)) rfl ⟨free.1, free.2⟩ rfl

theorem authorized_turned (waiting : s.calls.lookup n = some (.authorizing generation i))
    (settled : s.outcome? i = some o) (free : s.Holds (.call n) none) :
    Turned w setup (.call n) s (authorized w setup n generation o s) := by
  unfold authorized
  split
  · exact relist_turned (.fromRootAt waiting settled) free
  · exact done_turned .refl rfl free (.cancelled waiting settled)
  · rename_i e other
    refine finish_turned (.single (.fail (.session waiting settled ?_))) rfl ⟨free.1, free.2⟩
    rintro rfl
    exact other rfl

theorem authorize_turned (asked : s.calls.lookup n = some (.queued .authorize)) (free : s.Holds (.call n) none) :
    Turned w setup (.call n) s (authorize w setup n s) := by
  unfold authorize
  split
  · rename_i may
    have started : Moves w setup (some (.call n)) s { s with picker := s.picker.authorize } :=
      .single (.authorize may asked)
    have opened : s.picker.closed = false := by
      unfold Picker.mayAuthorize at may
      simpa using (Bool.and_eq_true_iff.mp may).1
    have begun := started.tail (.begin (.inr ⟨asked, rfl, opened⟩))
    obtain ⟨s', beside, ⟨i, opened, live⟩ | ⟨reason, refused, failed⟩⟩ :=
      beginSession_cases w setup { s with picker := s.picker.authorize }
    · rw [opened] at begun
      simp only [opened]
      have asking : s'.picker.isAuthorizing = true := by rw [beside.picker]; rfl
      refine join_turned (begun.tail ?_) beside.now (beside.holds n ⟨free.1, free.2⟩) rfl
      have attend : Move w setup (some (.call n)) s' _ := .attend live asking (by rw [beside.calls]; exact asked)
      rwa [beside.picker] at attend
    · rw [refused] at begun
      simp only [refused]
      have asking : s'.picker.isAuthorizing = true := by rw [beside.picker]; rfl
      have free := beside.holds n ⟨free.1, free.2⟩
      have fails : s'.Fails n s.picker.authorize.generation :=
        .opening asking failed (by rw [beside.calls]; exact asked) (by rw [beside.picker])
      exact finish_turned (begun.tail (.fail fails)) beside.now ⟨free.1, free.2⟩
  · rename_i barred
    exact done_turned .refl rfl free (.barred asked (Bool.eq_false_iff.mpr barred))

theorem use_turned (uses : s.Uses n item) (free : s.Holds (.call n) none) :
    Turned w setup (.call n) s (use w setup n item s) := by
  unfold use
  split
  · exact done_turned .refl rfl free (.nothing uses)
  · split
    · rename_i folder
      exact relist_turned (.enter uses folder) free
    · rename_i file
      exact done_turned .refl rfl free (.chosen uses file)

theorem Talks.present (talks : s.Talks n) : ∃ p, s.calls.lookup n = some p := by
  rcases talks with ⟨_, _, _, _, _, _, asked⟩ | ⟨_, waiting⟩
  · exact ⟨_, asked⟩
  · exact ⟨_, waiting⟩

theorem Talks.own (talks : s.Talks n) (m : Nat) (same : Task.call n = .call m) : s.Talks m := by
  cases same
  exact talks

theorem replying_turned (moves : Moves w setup (some (.call n)) s s') (now : s'.now = s.now)
    (held : s'.Holds (.call n) (some a)) (talks : s'.Talks n)
    (heeded : .call n ∈ s'.ready ∨ a.Rests s'.now s'.bus) :
    Turned w setup (.call n) s (s'.setCall n (.replying a)) := by
  refine ⟨moves.tail (.await held.awaits talks), now, ?_, ?_⟩
  · obtain ⟨p, here⟩ := talks.present
    have holds : (s'.setCall n (.replying a)).attempt? (.call n) = some a := by
      rw [attempt?, set_lookup, here]
      rfl
    rw [Tuned, holds]
    exact ⟨held.1, held.2⟩
  · refine heeded.imp id fun rests => ⟨?_, ?_⟩
    · intro b awaited
      cases held.awaits.symm.trans awaited
      exact rests
    · intro i p same
      cases same

-- What looking after its attempt comes to for a call. One that has received all it may wants another turn.
inductive Replying (n : Nat) (a : Attempt) (s : Sitting) : Sitting → Prop where
  | ends (looks : Looks (.call n) a s k s₁) : Replying n a s (finish n (.reply o) (conclude (.call n) a o s₁))
  | waits (looks : Looks (.call n) a s k s₁) : Replying n a s (s₁.setCall n (.replying a))
  | again (looks : Looks (.call n) a s k s₁) (some : 0 < k) :
    Replying n a s ((s₁.setCall n (.replying a)).wake (.call n))

theorem awaitReply_cases (n : Nat) (a : Attempt) (s : Sitting) : Replying n a s (awaitReply n a s) := by
  obtain ⟨k, s₁, later, looks, ⟨polled, all, _⟩ | ⟨o, polled, _⟩⟩ := poll_looks (.call n) a allowance s
  all_goals simp only [awaitReply, polled]
  · have all : 128 ≤ later + k := all
    cases later with
    | zero => exact .again looks (by omega)
    | succ => exact .waits looks
  · exact .ends looks

theorem awaitReply_turned (moves : Moves w setup (some (.call n)) s s') (now : s'.now = s.now)
    (held : s'.Holds (.call n) (some a)) (talks : s'.Talks n) :
    Turned w setup (.call n) s (awaitReply n a s') := by
  have polled : Polled w setup (.call n) a allowance s' (poll (.call n) a allowance s') :=
    poll_cases held (Nat.le_add_right _ _)
  simp only [awaitReply]
  generalize poll (.call n) a allowance s' = result at polled
  cases polled with
  | answered found =>
    have concluded := moves.tail (.conclude held.awaits (.answered held.accepted found) (by simp) talks.own)
    exact finish_turned concluded now concluded_holds
  | @lapsed _ s₁ _ skips late through =>
    have talks : s₁.Talks n := by
      rw [Talks, skips.calls]
      exact talks
    have lapsed := (moves.trans skips.moves).tail (.conclude skips.holds.awaits
      (.lapsed skips.holds.accepted (skips.now ▸ late) through) (by simp) talks.own)
    exact finish_turned lapsed (skips.now.trans now) concluded_holds
  | @waits _ s₁ later skips rests =>
    have talks : s₁.Talks n := by
      rw [Talks, skips.calls]
      exact talks
    have received := moves.trans skips.moves
    have now := skips.now.trans now
    cases later with
    | succ later => exact replying_turned received now skips.holds talks (.inr (rests (Nat.succ_pos _)))
    | zero =>
      have woken : Moves w setup (some (.call n)) s (s₁.wake (.call n)) := received.tail .wake
      exact replying_turned woken now ⟨skips.holds.1, skips.holds.2⟩ talks (.inl mem_enqueue)

theorem request_turned {given : Option String} (free : s.Holds (.call n) none)
    (asked : s.calls.lookup n = some (.queued (.request origin method params given timeout answers))) :
    Turned w setup (.call n) s (request w n origin method params given timeout answers s) := by
  have sent (s' : Sitting) (id : String) (moves : Moves w setup (some (.call n)) s s') (now : s'.now = s.now)
      (calls : s'.calls = s.calls) (free : s'.awaits (.call n) = none) :
      Turned w setup (.call n) s
        (requested n (attempt (.call n) answers origin (Request.of method params id) timeout s')) := by
    obtain ⟨a, s₂, same, _, still, on, _, more, ⟨accepted, begins⟩ | ⟨reason, refused, begins⟩⟩ :=
      attempt_cases w setup answers origin (Request.of method params id) timeout (t := .call n) trivial free
    all_goals
      rw [begins]
      have talks : s₂.Talks n := by
        rw [Talks, still, calls]
        exact .inl ⟨_, _, _, _, _, _, asked⟩
    · exact awaitReply_turned (moves.trans more) (same.trans now) ⟨on, accepted⟩ talks
    · have concluded := (moves.trans more).tail (.conclude on (.refused refused) (by simp) talks.own)
      exact finish_turned concluded (same.trans now) concluded_holds
  unfold request
  cases given with
  | some id => exact sent s id .refl rfl rfl free.awaits
  | none => exact sent _ _ (.single .draw) rfl rfl free.awaits

theorem beginCall_turned (asked : s.calls.lookup n = some (.queued op)) (free : s.Holds (.call n) none) :
    Turned w setup (.call n) s (beginCall w setup n op s) := by
  cases op with
  | request => exact request_turned free asked
  | session =>
    simp only [beginCall]
    have begun : Moves w setup (some (.call n)) s _ := .single (.begin (.inl asked))
    obtain ⟨s', beside, ⟨i, opened, live⟩ | ⟨reason, refused, failed⟩⟩ := beginSession_cases w setup s
    · rw [opened] at begun
      simp only [opened]
      have still : s'.calls.lookup n = some (.queued .session) := by rw [beside.calls]; exact asked
      exact join_turned (begun.tail (.join live still)) beside.now (beside.holds n ⟨free.1, free.2⟩) rfl
    · rw [refused] at begun
      simp only [refused]
      have still : s'.calls.lookup n = some (.queued .session) := by rw [beside.calls]; exact asked
      exact done_turned begun beside.now (beside.holds n ⟨free.1, free.2⟩) (.notOpened failed still)
  | start => exact relist_turned (.again asked) free
  | reload => exact relist_turned (.unlessAuthorizing asked) free
  | authorize => exact authorize_turned asked free
  | authorizationComplete =>
    simp only [beginCall]
    split
    · rename_i closed
      exact done_turned .refl rfl free (.late asked closed)
    · have beside := completeSession_beside (s := s)
      have still : s.completeSession.calls.lookup n = some (.queued .authorizationComplete) := by
        rw [beside.calls]; exact asked
      have completes : Move w setup (some (.call n)) s s.completeSession :=
        .complete fun _ same => ⟨n, (Option.some.inj same).symm, asked⟩
      exact .after (.single completes) beside.now (relist_turned (.fromRoot still) (beside.holds n ⟨free.1, free.2⟩))
  | goTo c => exact relist_turned (.into asked) free
  | use item => exact use_turned (.inl asked) free
  | useSelected => exact use_turned (.inr ⟨asked, rfl⟩) free

theorem callTurn_turned (tuned : s.Tuned (.call n)) : Turned w setup (.call n) s (callTurn w setup n s) := by
  have holds (p : Pending) (here : s.calls.lookup n = some p) : s.Holds (.call n) p.attempt? := by
    refine ⟨?_, tuned.accepted⟩
    rw [tuned.awaits, attempt?, here]
    rfl
  have stays (holdsNone : s.attempt? (.call n) = none) : Turned w setup (.call n) s s :=
    free_turned .refl rfl ⟨tuned.awaits.trans holdsNone, tuned.accepted⟩ holdsNone
  unfold callTurn
  split
  · rename_i missing
    exact stays (by rw [attempt?, missing]; rfl)
  · rename_i op queued
    exact beginCall_turned queued (holds _ queued)
  · rename_i a replying
    exact awaitReply_turned .refl rfl (holds _ replying) (.inr ⟨a, replying⟩)
  · rename_i i joined
    split
    · rename_i o settled
      exact done_turned .refl rfl (holds _ joined) (.session joined settled)
    · exact stays (by rw [attempt?, joined]; rfl)
  · rename_i l due result after listing
    have free := holds _ listing
    split
    · rename_i time
      exact finish_turned (.single (.arrive listing time)) rfl ⟨free.1, free.2⟩
    · exact stays (by rw [attempt?, listing]; rfl)
  · rename_i generation i authorizing
    split
    · rename_i o settled
      exact authorized_turned authorizing settled (holds _ authorizing)
    · exact stays (by rw [attempt?, authorizing]; rfl)

theorem turn_turned (tuned : s.Tuned t) : Turned w setup t s (turn w setup t s) := by
  cases t with
  | call n => exact callTurn_turned tuned
  | popup i => exact popupTurn_turned tuned

end Sitting
end CourseFiles
