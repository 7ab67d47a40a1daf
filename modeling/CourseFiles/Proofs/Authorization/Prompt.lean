import CourseFiles.Proofs.Authorization.Joining
import CourseFiles.Proofs.Picker.Transitions
import Mathlib.Data.List.Induction

namespace CourseFiles

-- What there is to learn about the access: an attempt to gain it failed, a listing required it, or it was granted.
inductive Lesson
  | failed
  | required
  | granted
deriving DecidableEq

namespace Lesson

def ofOutcome : SessionOutcome → List Lesson
  | .ok () => [.granted]
  | .error .cancelled => []
  | .error _ => [.failed]

def ofListing (result : Except ListingError Listing) : List Lesson :=
  if Picker.needsAuthorization result then [.required] else []

-- An attempt has failed, and no listing has required access since.
def FailedSince (lessons : List Lesson) : Prop :=
  ∃ before after, lessons = before ++ .failed :: after ∧ .required ∉ after

-- What the latest lessons come to, given whether an attempt had failed before.
def heed (failed : Bool) : Lesson → Bool
  | .failed => true
  | .required => false
  | .granted => failed

variable {lessons : List Lesson} {l : Lesson}

theorem failedSince_append (other : l ≠ .failed) :
    FailedSince (lessons ++ [l]) ↔ FailedSince lessons ∧ l ≠ .required := by
  constructor
  · rintro ⟨before, after, split, unrequired⟩
    rcases List.eq_nil_or_concat after with rfl | ⟨earlier, last, rfl⟩
    · obtain ⟨_, same⟩ := List.append_inj' split rfl
      cases same
      exact absurd rfl other
    · rw [List.concat_eq_append, ← List.cons_append, ← List.append_assoc] at split
      obtain ⟨rest, same⟩ := List.append_inj' split rfl
      cases same
      rw [List.concat_eq_append] at unrequired
      refine ⟨⟨before, earlier, rest, fun here => unrequired (List.mem_append_left _ here)⟩, ?_⟩
      rintro rfl
      exact unrequired (by simp)
  · rintro ⟨⟨before, after, rfl, unrequired⟩, unlike⟩
    refine ⟨before, after ++ [l], by simp, ?_⟩
    intro here
    rcases List.mem_append.mp here with old | new
    · exact unrequired old
    · exact unlike (List.mem_singleton.mp new).symm

theorem heed_failedSince : lessons.foldl heed false = true ↔ FailedSince lessons := by
  induction lessons using List.reverseRecOn with
  | nil =>
    constructor
    · intro failed
      cases failed
    · rintro ⟨before, after, split, _⟩
      cases before <;> cases split
  | append_singleton lessons l ih =>
    rw [List.foldl_append, List.foldl_cons, List.foldl_nil]
    cases l with
    | failed => exact ⟨fun _ => ⟨lessons, [], rfl, by simp⟩, fun _ => rfl⟩
    | required =>
      rw [failedSince_append (by simp)]
      simp [heed]
    | granted =>
      rw [failedSince_append (by simp), ← ih]
      simp [heed]

theorem ofListing_heed {failed : Bool} :
    (ofListing result).foldl heed failed = (failed && !Picker.needsAuthorization result) := by
  unfold ofListing
  cases Picker.needsAuthorization result <;> simp [heed]

end Lesson

namespace Sitting

-- A window would have to be opened, and would not open.
def barsWindow (w : Surroundings) (s : Sitting) : Bool :=
  match s.session.live, w.window s.requests with
  | none, .refused _ => true
  | _, _ => false

-- What a call finds out in its turn. Only a call that is current acts on an outcome or a listing.
def finds (w : Surroundings) (s : Sitting) : Pending → List Lesson
  | .queued .authorize => if s.picker.mayAuthorize && s.barsWindow w then [.failed] else []
  | .queued .authorizationComplete => if s.picker.closed then [] else [.granted]
  | .authorizing generation i =>
    if s.picker.generation = generation then (s.outcome? i).elim [] Lesson.ofOutcome else []
  | .listing l due result _ =>
    if due ≤ s.now ∧ s.picker.generation = l.generation then Lesson.ofListing result else []
  | _ => []

-- A listing that takes no time is there in the turn in which it was asked for.
def findsAtOnce (w : Surroundings) (s s' : Sitting) : List Lesson :=
  match s'.launches.drop s.launches.length with
  | [l] =>
    match w.listing (s.launches.map (·.path)) l.path with
    | (0, result) => Lesson.ofListing result
    | _ => []
  | _ => []

def lessons (w : Surroundings) (setup : Setup) (a : Act) (s : Sitting) : List Lesson :=
  match a with
  | .turn (.call n) => (s.calls.lookup n).elim [] (s.finds w) ++ findsAtOnce w s (act w setup a s)
  | _ => []

-- All that a run teaches, in order.
def tale (w : Surroundings) (setup : Setup) : List Act → Sitting → List Lesson
  | [], _ => []
  | a :: rest, s => lessons w setup a s ++ tale w setup rest (act w setup a s)

variable {w : Surroundings} {setup : Setup} {s s' s₁ : Sitting} {v : Option Task} {t : Task} {n generation i : Nat}
  {o : SessionOutcome}

-- What was noted before and what was found out tally with what is noted now.
def Tallies (w : Surroundings) (s s' : Sitting) (found : List Lesson) : Prop :=
  s'.picker.attempted = (found ++ findsAtOnce w s s').foldl Lesson.heed s.picker.attempted

theorem findsAtOnce_none (same : s'.launches = s.launches) : findsAtOnce w s s' = [] := by
  simp [findsAtOnce, same]

-- Neither the picker nor what it has asked for is changed.
structure Unmoved (s s' : Sitting) : Prop where
  picker : s'.picker = s.picker
  launches : s'.launches = s.launches

theorem Unmoved.finish (unmoved : Unmoved s s') : Unmoved s (finish n r s') :=
  ⟨finish_picker.trans unmoved.picker, finish_launches.trans unmoved.launches⟩

theorem tallies_unlaunched {found : List Lesson} (launches : s'.launches = s.launches)
    (noted : s'.picker.attempted = found.foldl Lesson.heed s.picker.attempted) : Tallies w s s' found := by
  rw [Tallies, findsAtOnce_none launches, List.append_nil]
  exact noted

theorem Unmoved.tallies (unmoved : Unmoved s s') : Tallies w s s' [] :=
  tallies_unlaunched unmoved.launches (congrArg Picker.attempted unmoved.picker)

theorem findsAtOnce_launched (grown : s'.launches = s.launches ++ [l])
    (reply : w.listing (s.launches.map (·.path)) l.path = (delay, result)) :
    findsAtOnce w s s' = if delay = 0 then Lesson.ofListing result else [] := by
  simp only [findsAtOnce, grown, List.drop_left, reply]
  cases delay <;> rfl

theorem arrive_attempted {p : Picker} (current : p.generation = l.generation) :
    (p.arrive l result).attempted = (Lesson.ofListing result).foldl Lesson.heed p.attempted := by
  rw [Picker.arrive, if_pos current, Lesson.ofListing_heed]
  rfl

theorem relist_tallies (change : s.Change n after f) : Tallies w s (relist w setup n after f s) [] := by
  unfold relist
  split
  · exact (Unmoved.finish ⟨rfl, rfl⟩).tallies
  · rename_i p l asked
    have launches := Picker.relist_launches change.keeps asked
    rcases reply : w.listing (s.launches.map (·.path)) l.path with ⟨delay, result⟩
    simp only [list, reply, Tallies, List.nil_append]
    split
    · rename_i now
      rw [findsAtOnce_launched finish_launches reply, if_pos now, finish_picker, ← launches.attempted]
      exact arrive_attempted launches.own.symm
    · rename_i slow
      rw [findsAtOnce_launched rfl reply, if_neg slow]
      exact launches.attempted

theorem attempt_unmoved (unmoved : Unmoved s s') : Unmoved s (attempt t answers origin r timeout s').2 := by
  simp only [attempt, post]
  split
  all_goals
    rename_i posted
    obtain ⟨_, rfl⟩ := Prod.mk.inj posted
    exact ⟨(delivered _).picker.trans unmoved.picker, (delivered _).launches.trans unmoved.launches⟩

theorem awaitReply_unmoved (unmoved : Unmoved s s') : Unmoved s (awaitReply n a s') := by
  have looked {k : Nat} {s₁ : Sitting} (looks : Looks (.call n) a s' k s₁) : Unmoved s s₁ := by
    cases looks <;> exact ⟨unmoved.picker, unmoved.launches⟩
  have replying : Replying n a s' (awaitReply n a s') := awaitReply_cases n a s'
  generalize awaitReply n a s' = s'' at replying
  cases replying with
  | ends looks => exact Unmoved.finish ⟨(looked looks).picker, (looked looks).launches⟩
  | waits looks | again looks => exact ⟨(looked looks).picker, (looked looks).launches⟩

theorem Unmoved.join (unmoved : Unmoved s s') : Unmoved s (s'.join n i p) := by
  obtain ⟨ready, joined⟩ := join_sets (s := s') (n := n) (i := i) (p := p)
  rw [joined]
  exact ⟨unmoved.picker, unmoved.launches⟩

theorem requested_unmoved {result : Except String Attempt × Sitting} (unmoved : Unmoved s result.2) :
    Unmoved s (requested n result) := by
  obtain ⟨reason | a, s'⟩ := result
  · exact unmoved.finish
  · exact awaitReply_unmoved unmoved

theorem request_unmoved {given : Option String} :
    Unmoved s (request w n origin method params given timeout answers s) := by
  unfold request
  cases given with
  | some id => exact requested_unmoved (attempt_unmoved ⟨rfl, rfl⟩)
  | none => exact requested_unmoved (attempt_unmoved ⟨rfl, rfl⟩)

theorem beside_tallies (beside : Beside s s₁) (tallies : Tallies w s₁ s' found) : Tallies w s s' found := by
  rw [Tallies, findsAtOnce, beside.picker, beside.launches] at tallies
  exact tallies

theorem granted_tallies (tallies : Tallies w s s' []) : Tallies w s s' [.granted] := tallies

-- A failure is noted by a call that is current.
theorem failed_tallies (launches : s₁.launches = s.launches) (opened : s₁.picker.closed = false)
    (current : s₁.picker.generation = generation) :
    Tallies w s (finish n .done { s₁ with picker := s₁.picker.failed generation }) [.failed] := by
  refine tallies_unlaunched (finish_launches.trans launches) ?_
  rw [finish_picker]
  simp [Picker.failed, opened, current, Picker.turnTo, Picker.publish, Lesson.heed]

theorem barsWindow_fails (session : s₁.session = s.session) (requests : s₁.requests = s.requests) :
    s.barsWindow w = true ↔ ∃ e, (beginSession w setup s₁).1 = .error e := by
  rw [barsWindow, ← session, ← requests, beginSession]
  cases s₁.session.live with
  | some i => simp
  | none => cases opening : w.window s₁.requests <;> simp [opening]

theorem authorize_tallies : Tallies w s (authorize w setup n s) (s.finds w (.queued .authorize)) := by
  unfold authorize
  split
  · rename_i may
    have opened : s.picker.closed = false := by
      unfold Picker.mayAuthorize at may
      simpa using (Bool.and_eq_true_iff.mp may).1
    have bars : s.barsWindow w = true ↔
        ∃ e, (beginSession w setup { s with picker := s.picker.authorize }).1 = .error e := barsWindow_fails rfl rfl
    obtain ⟨s', beside, ⟨i, begun, _⟩ | ⟨reason, refused, _⟩⟩ :=
      beginSession_cases w setup { s with picker := s.picker.authorize }
    · rw [begun] at bars
      have opens : s.barsWindow w = false := by simpa using bars
      simp only [begun, finds, may, opens]
      have noted : s'.picker.attempted = s.picker.authorize.attempted := congrArg Picker.attempted beside.picker
      obtain ⟨ready, joined⟩ := join_sets (s := s') (n := n) (i := i)
        (p := .authorizing s.picker.authorize.generation i)
      rw [joined]
      exact tallies_unlaunched beside.launches noted
    · have bars : s.barsWindow w = true := bars.mpr ⟨_, congrArg Prod.fst refused⟩
      simp only [refused, finds, may, bars]
      refine failed_tallies beside.launches ?_ ?_
      · rw [beside.picker]
        exact opened
      · rw [beside.picker]
  · rename_i barred
    simp only [finds, barred, Bool.false_and]
    exact (Unmoved.finish ⟨rfl, rfl⟩).tallies

theorem authorized_tallies (waiting : s.calls.lookup n = some (.authorizing generation i))
    (ended : s.outcome? i = some o) (opened : s.picker.generation = generation → s.picker.closed = false) :
    Tallies w s (authorized w setup n generation o s) (s.finds w (.authorizing generation i)) := by
  by_cases current : s.picker.generation = generation
  · simp only [finds, if_pos current, ended, Option.elim]
    unfold authorized
    split
    · exact granted_tallies (relist_tallies (.fromRootAt waiting ended))
    · exact (Unmoved.finish ⟨rfl, rfl⟩).tallies
    · rename_i e other
      have tallies := failed_tallies (w := w) (n := n) rfl (opened current) current
      cases e with
      | cancelled => exact absurd rfl other
      | _ => exact tallies
  · have untouched : Untouched s (authorized w setup n generation o s) := authorized_untouched (Ne.symm current)
    simp only [finds, if_neg current]
    exact Unmoved.tallies ⟨untouched.picker, untouched.launches⟩

theorem beginCall_tallies (asked : s.calls.lookup n = some (.queued op)) :
    Tallies w s (beginCall w setup n op s) (s.finds w (.queued op)) := by
  have use {item : Option Item} (uses : s.Uses n item) : Tallies w s (Sitting.use w setup n item s) [] := by
    unfold Sitting.use
    split
    · exact (Unmoved.finish ⟨rfl, rfl⟩).tallies
    · split
      · rename_i folder
        exact relist_tallies (.enter uses folder)
      · exact (Unmoved.finish ⟨rfl, rfl⟩).tallies
  cases op with
  | request => exact request_unmoved.tallies
  | session =>
    obtain ⟨s', beside, ⟨i, begun, _⟩ | ⟨reason, refused, _⟩⟩ := beginSession_cases w setup s
    · simp only [beginCall, begun]
      exact (Unmoved.join ⟨beside.picker, beside.launches⟩).tallies
    · simp only [beginCall, refused]
      exact (Unmoved.finish ⟨beside.picker, beside.launches⟩).tallies
  | start => exact relist_tallies (.again asked)
  | reload => exact relist_tallies (.unlessAuthorizing asked)
  | authorize => exact authorize_tallies
  | authorizationComplete =>
    simp only [beginCall, finds]
    split
    · exact (Unmoved.finish ⟨rfl, rfl⟩).tallies
    · have beside := completeSession_beside (s := s)
      have still : s.completeSession.calls.lookup n = some (.queued .authorizationComplete) := beside.calls ▸ asked
      exact granted_tallies (beside_tallies beside (relist_tallies (.fromRoot still)))
  | goTo c => exact relist_tallies (.into asked)
  | use item => exact use (.inl asked)
  | useSelected => exact use (.inr ⟨asked, rfl⟩)

theorem callTurn_tallies (ranked : s.Ranked) :
    Tallies w s (callTurn w setup n s) ((s.calls.lookup n).elim [] (s.finds w)) := by
  have stays : Tallies w s s [] := Unmoved.tallies ⟨rfl, rfl⟩
  unfold callTurn
  split
  · rename_i missing
    rw [missing]
    exact stays
  · rename_i op queued
    rw [queued]
    exact beginCall_tallies queued
  · rename_i a replying
    rw [replying]
    exact (awaitReply_unmoved ⟨rfl, rfl⟩).tallies
  · rename_i i joined
    rw [joined]
    split
    · exact (Unmoved.finish ⟨rfl, rfl⟩).tallies
    · exact stays
  · rename_i l due result after listing
    simp only [listing, Option.elim, finds]
    split
    · rename_i time
      refine tallies_unlaunched finish_launches ?_
      rw [finish_picker]
      by_cases current : s.picker.generation = l.generation
      · rw [if_pos ⟨time, current⟩]
        exact arrive_attempted current
      · rw [if_neg fun both => current both.2, Picker.arrive, if_neg current]
        rfl
    · rename_i early
      rw [if_neg fun both => early both.1]
      exact stays
  · rename_i generation i authorizing
    rw [authorizing]
    split
    · rename_i o ended
      refine authorized_tallies authorizing ended ?_
      intro current
      apply Bool.eq_false_iff.mpr
      intro closed
      exact absurd (ranked.closed closed n _ i authorizing) (by rw [current]; exact Nat.lt_irrefl _)
    · rename_i unsettled
      simpa [finds, unsettled] using stays

theorem Move.spared (move : Move w setup (some (.popup i)) s s') : s'.picker = s.picker := by
  cases move with
  | complete => exact completeSession_beside.picker
  | cancel => exact cancelSession_beside.picker
  | _ => rfl

theorem Outside.attempted (outside : Outside s a s') : s'.picker.attempted = s.picker.attempted := by
  cases outside with
  | aside aside | drop aside => exact congrArg Picker.attempted aside.picker
  | close aside =>
    have same : s'.picker = s.picker.close := aside.picker
    rw [same]
    rfl
  | start => rfl
  | select =>
    unfold Sitting.select Picker.select
    split <;> rfl

theorem act_attempted (path : Reached w setup .initial s) (a : Act) :
    (act w setup a s).picker.attempted = (lessons w setup a s).foldl Lesson.heed s.picker.attempted := by
  cases a with
  | turn t =>
    cases t with
    | call n =>
      have ranked : Ranked { s with ready := s.ready.erase (.call n) } := ⟨path.ranked.apart, path.ranked.closed⟩
      exact callTurn_tallies ranked
    | popup i =>
      have turned : Turned w setup (.popup i) s (act w setup (.turn (.popup i)) s) := act_turned (path.tuned _)
      refine Moves.keeps (P := fun s' => s'.picker.attempted = s.picker.attempted) turned.moves ?_ rfl
      intro s₁ s₂ move here
      rw [move.spared, here]
  | _ => exact (outside w setup s _ (by simp)).attempted

theorem acts_attempted (path : Reached w setup .initial s) (as : List Act) :
    (acts w setup as s).picker.attempted = (tale w setup as s).foldl Lesson.heed s.picker.attempted := by
  induction as generalizing s with
  | nil => rfl
  | cons a rest ih =>
    rw [tale, List.foldl_append, ← act_attempted path a]
    exact ih (path.step a)

-- While access is asked for, the dialog tells of a failure exactly if an attempt that the picker acted on has failed
-- since a listing last required access, if one ever did; otherwise it gives the instructions.
theorem failure_is_told (as : List Act) (run : acts w setup as .initial = s) (asking : s.picker.dialog = .authorizing) :
    (s.picker.attempted = true ↔ Lesson.FailedSince (tale w setup as .initial)) ∧
    ∀ settings : Settings,
      ((View.ofSnapshot s.picker.snapshot settings).notice = some (View.notAuthorized settings.lmsName) ∧
        (View.ofSnapshot s.picker.snapshot settings).buttons = [⟨.tryAgain, false⟩] ↔
          Lesson.FailedSince (tale w setup as .initial)) ∧
      ((View.ofSnapshot s.picker.snapshot settings).notice = some (View.notYetAuthorized settings.lmsName) ∧
        (View.ofSnapshot s.picker.snapshot settings).buttons = [⟨.authorize, false⟩] ↔
          ¬ Lesson.FailedSince (tale w setup as .initial)) := by
  subst run
  have noted : (acts w setup as .initial).picker.attempted = true ↔ Lesson.FailedSince (tale w setup as .initial) := by
    rw [acts_attempted .refl as]
    exact Lesson.heed_failedSince
  refine ⟨noted, fun settings => ?_⟩
  have shown : (acts w setup as .initial).picker.snapshot.dialog = .authorizing := asking
  have flag : (acts w setup as .initial).picker.snapshot.authorizationAttempted =
      (acts w setup as .initial).picker.attempted := rfl
  simp only [← noted, View.ofSnapshot, shown, flag]
  cases (acts w setup as .initial).picker.attempted <;> simp [View.notAuthorized, View.notYetAuthorized]

-- The window that was asked for could not be opened.
theorem refusedAtOnce_is_told : refusedAtOnce.picker.dialog = .authorizing ∧ refusedAtOnce.picker.attempted = true := by
  have learned : Lesson.FailedSince (tale .barred .plain
      [.start .start, .turn (.call 0), .start .authorize, .turn (.call 1)] .initial) := ⟨[.required], [], rfl, by simp⟩
  exact ⟨rfl, (failure_is_told _ rfl rfl).1.mpr learned⟩

end Sitting

-- Access is lacking at first; later the service fails.
def Surroundings.failing : Surroundings :=
  { Surroundings.calm with
    listing := fun earlier _ =>
      (0, .error (.api (if earlier = [] then ⟨some 400, none, none, none⟩ else ⟨some 500, some "Down", none, none⟩))) }

namespace Sitting

-- What the popup answers to its second request, when the user has granted access after all.
def lateConsent : Message :=
  ⟨"https://lms", .object [("id", .text "1"), ("jsonrpc", .text "2.0"), ("result", .null)]⟩

def denial : Message :=
  ⟨"https://lms", .object [("error", .text "denied"), ("id", .text "0"), ("jsonrpc", .text "2.0")]⟩

-- A failure is still told of when access was granted since and has to be asked for once more after an error.
def askedOnceMore : List Act :=
  [.start .start, .turn (.call 0), .start .authorize, .turn (.call 1), .turn (.popup 0), .deliver denial,
    .turn (.popup 0), .turn (.call 1), .start .authorize, .turn (.call 2), .turn (.popup 1), .deliver lateConsent,
    .turn (.popup 1), .turn (.call 2), .start .authorize, .turn (.call 3)]

theorem old_failure_is_still_told :
    ¬ ∀ w (setup : Setup) as, (acts w setup as .initial).picker.dialog = .authorizing →
      ((acts w setup as .initial).picker.attempted = true ↔
        ∃ before after,
          tale w setup as .initial = before ++ .failed :: after ∧ .required ∉ after ∧ .granted ∉ after) := by
  intro all
  have learned : tale .failing .plain askedOnceMore .initial = [.required, .failed, .granted] := rfl
  have told : (acts .failing .plain askedOnceMore .initial).picker.attempted = true := rfl
  obtain ⟨before, after, split, _, ungranted⟩ := (all .failing .plain askedOnceMore rfl).mp told
  rw [learned] at split
  rcases before with _ | ⟨_, _ | ⟨_, _ | ⟨_, before⟩⟩⟩ <;> simp at split
  obtain ⟨_, rfl⟩ := split
  exact ungranted List.mem_cons_self

end Sitting
end CourseFiles
