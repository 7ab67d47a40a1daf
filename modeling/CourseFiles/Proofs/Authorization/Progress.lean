import CourseFiles.Proofs.Authorization.Outcome
import CourseFiles.Proofs.Authorization.Settlement
import CourseFiles.Proofs.Sitting.Rest
import Mathlib.Data.Prod.Lex
import Mathlib.Order.OrderIsoNat

namespace CourseFiles

open History

-- When a session is over at the latest.
def Stage.expiry? (setup : Setup) (now : Nat) : Stage → Option Nat
  | .opened => some (now + setup.settings.sessionTimeout)
  | .waiting deadline _ _ => some deadline
  | .settled _ => none

namespace Sitting

def expiry? (setup : Setup) (s : Sitting) (i : Nat) : Option Nat := (s.stage? i).bind (Stage.expiry? setup s.now)

-- How the tasks go on by themselves: one that is ready takes its turn, or some time passes while all of them wait.
inductive Proceeds (w : Surroundings) (setup : Setup) : Sitting → Sitting → Prop where
  | turn (ready : t ∈ s.ready) : Proceeds w setup s (act w setup (.turn t) s)
  | elapse (positive : 0 < ms) (prompt : s.Prompt (.elapse ms)) : Proceeds w setup s (s.elapse ms)

variable {w : Surroundings} {setup : Setup} {s s' : Sitting} {v : Option Task} {t : Task} {i d : Nat}
  {f : Nat → Sitting}

theorem Timely.reached (run : Timely w setup s) : Reached w setup .initial s := by
  induction run with
  | initial => exact .refl
  | step _ a _ ih => exact .step ih a

theorem Proceeds.timely (proceeds : Proceeds w setup s s') (run : Timely w setup s) : Timely w setup s' := by
  cases proceeds with
  | turn => exact .step run _ trivial
  | @elapse ms _ _ prompt => exact .step run (.elapse ms) prompt

-- There is always a way to go on.
theorem proceeds_somehow (w : Surroundings) (setup : Setup) (s : Sitting) : ∃ s', Proceeds w setup s s' := by
  cases ready : s.ready with
  | nil =>
    refine ⟨s.elapse 1, .elapse Nat.zero_lt_one ⟨ready, ?_⟩⟩
    intro d _ later
    exact later
  | cons t rest => exact ⟨_, .turn (t := t) (by rw [ready]; exact List.mem_cons_self)⟩

theorem Proceeds.onward (proceeds : Proceeds w setup s s') (run : Timely w setup s) : s.now ≤ s'.now := by
  cases proceeds with
  | turn => exact Nat.le_of_eq (act_turned (run.orderly.tuned _)).now.symm
  | elapse => exact Nat.le_add_right _ _

theorem goes_timely (run : Timely w setup s) (begins : f 0 = s) (goes : ∀ k, Proceeds w setup (f k) (f (k + 1)))
    (k : Nat) :
    Timely w setup (f k) := by
  induction k with
  | zero => exact begins ▸ run
  | succ k ih => exact (goes k).timely ih

-- What the tasks have to do at one instant; they cannot go on without having less.
def load (s : Sitting) : ℕ ×ₗ ℕ ×ₗ ℕ := toLex (s.weight, toLex (s.arrears, s.ready.length))

theorem Proceeds.load (proceeds : Proceeds w setup s s') (run : Timely w setup s)
    (timed : 0 < setup.settings.callTimeout) : s.now < s'.now ∨ s'.load < s.load := by
  cases proceeds with
  | elapse positive => exact .inl (Nat.lt_add_of_pos_right positive)
  | @turn t _ ready =>
    right
    have shorter : (s.ready.erase t).length < s.ready.length := by
      have some := List.length_pos_of_mem ready
      rw [List.length_erase_of_mem ready]
      omega
    have eased : Eased { s with ready := s.ready.erase t } (act w setup (.turn t) s) := run.reached.eased timed t
    generalize act w setup (.turn t) s = s' at eased
    rw [Sitting.load, Sitting.load, Prod.Lex.toLex_lt_toLex, Prod.Lex.toLex_lt_toLex]
    rcases eased with less | ⟨less, fewer | ⟨fewer, same⟩⟩
    · exact .inl less
    · exact (Nat.lt_or_eq_of_le less).imp id fun equal => ⟨equal, .inl fewer⟩
    · refine (Nat.lt_or_eq_of_le less).imp id fun equal => ⟨equal, ?_⟩
      refine (Nat.lt_or_eq_of_le fewer).imp id fun equal => ⟨equal, ?_⟩
      rw [same]
      exact shorter

theorem time_goes_on (run : Timely w setup s) (timed : 0 < setup.settings.callTimeout) (begins : f 0 = s)
    (goes : ∀ k, Proceeds w setup (f k) (f (k + 1))) (k : Nat) : ∃ m, k < m ∧ (f k).now < (f m).now := by
  by_contra stays
  simp only [not_exists, not_and, Nat.not_lt] at stays
  have later (m : Nat) : Timely w setup (f m) := goes_timely run begins goes m
  have same (m : Nat) : (f (k + m)).now = (f k).now := by
    induction m with
    | zero => rfl
    | succ m ih =>
      have onward := (goes (k + m)).onward (later _)
      have bound := stays (k + (m + 1)) (by omega)
      have step : f (k + m + 1) = f (k + (m + 1)) := rfl
      rw [step] at onward
      omega
  apply not_strictAnti_of_wellFoundedLT fun m => (f (k + m)).load
  apply strictAnti_nat_of_succ_lt
  intro m
  apply ((goes (k + m)).load (later _) timed).resolve_left
  have now := same m
  have next : (f (k + m + 1)).now = (f k).now := same (m + 1)
  omega

theorem expiry_same (now : s'.now = s.now) (stage : s'.stage? i = s.stage? i) :
    s'.expiry? setup i = s.expiry? setup i := by
  rw [expiry?, now, stage, expiry?]

theorem outcome_stage (stage : s.stage? i = some (.settled o)) : s.outcome? i = some o := by
  obtain ⟨p, here, settled⟩ := Option.map_eq_some_iff.mp stage
  rw [outcome?, here]
  exact congrArg Stage.outcome? settled

theorem found_expiry (here : s.popups[i]? = some p) : s.expiry? setup i = p.stage.expiry? setup s.now := by
  rw [expiry?, stage?, here]
  rfl

-- A session keeps the time at which it is over until it has ended.
theorem Move.expires (move : Move w setup v s s') (here : s.expiry? setup i = some d) :
    s'.expiry? setup i = some d ∨ ∃ o, s'.outcome? i = some o := by
  have there : s.stage? i ≠ none := by
    intro absent
    rw [expiry?, absent] at here
    cases here
  have kept {s' : Sitting} (now : s'.now = s.now) (stage : s'.stage? i = s.stage? i) : s'.expiry? setup i = some d :=
    (expiry_same now stage).trans here
  have ended {o : SessionOutcome} {s₁ : Sitting} (popups : s₁.popups = s.popups) :
      ∃ o', (Sitting.settle i o s₁).outcome? i = some o' := by
    refine ⟨o, outcome_stage (settled_stage ?_)⟩
    rw [stage?, popups]
    exact there
  have staged {stage : Stage} (s₁ : Sitting) (now : s₁.now = s.now) (there : s₁.stage? i ≠ none)
      (same : stage.expiry? setup s.now = some d) : (s₁.setStage i stage).expiry? setup i = some d := by
    rw [expiry?, set_stage there, ← same, ← now]
    rfl
  by_cases mine : v = some (.popup i)
  · subst mine
    cases move with
    | count => exact .inl (kept rfl (updated_stage fun _ => rfl))
    | wait found going held stage =>
      refine .inl (staged s rfl there ?_)
      have same := (found_expiry found).symm.trans here
      rcases stage with ⟨opened, rfl, rfl⟩ | ⟨talk', waiting⟩
      · rw [opened] at same
        exact same
      · rw [waiting] at same
        exact same
    | look found going stage =>
      have same := (found_expiry found).symm.trans here
      rw [stage] at same
      exact .inl (staged (s.record (.looked i)) rfl there same)
    | gone | settle | answer => exact .inr (ended rfl)
    | complete asked =>
      obtain ⟨n, other, _⟩ := asked _ rfl
      cases other
    | cancel => exact .inl (kept cancelSession_beside.now (endSession_stage fun _ => rfl))
    | conclude => exact .inl (kept rfl rfl)
    | _ => exact .inl (kept rfl rfl)
  · rcases move.staged mine with stage | ⟨absent, _⟩
    · exact .inl (kept move.now stage)
    · exact absurd absent there

theorem Moves.expires (moves : Moves w setup v s s') (owned : s.Owned) (here : s.expiry? setup i = some d) :
    s'.expiry? setup i = some d ∨ ∃ o, s'.outcome? i = some o := by
  have kept := Moves.keeps
    (P := fun s₁ : Sitting => s₁.Owned ∧ (s₁.expiry? setup i = some d ∨ ∃ o, s₁.outcome? i = some o))
    moves ?_ ⟨owned, .inl here⟩
  · exact kept.2
  · intro s₁ s₂ move before
    obtain ⟨owned, goes | ⟨o, ended⟩⟩ := before
    · exact ⟨move.owned owned, move.expires goes⟩
    · exact ⟨move.owned owned, .inr ⟨o, (move.abides owned).outcome ended⟩⟩

theorem Proceeds.expires (proceeds : Proceeds w setup s s') (run : Timely w setup s)
    (here : s.expiry? setup i = some d) :
    s'.expiry? setup i = some d ∨ s'.now = s.now ∧ ∃ o, s'.outcome? i = some o := by
  cases proceeds with
  | @turn t =>
    have turned : Turned w setup t s (act w setup (.turn t) s) := act_turned (run.orderly.tuned t)
    exact (Moves.expires turned.moves run.reached.owned here).imp_right fun ended => ⟨turned.now, ended⟩
  | @elapse ms _ positive prompt =>
    obtain ⟨stage, there, expires⟩ := Option.bind_eq_some_iff.mp here
    obtain ⟨p, found, rfl⟩ := Option.map_eq_some_iff.mp there
    have later : (s.elapse ms).expiry? setup i = p.stage.expiry? setup (s.elapse ms).now :=
      found_expiry (s := s.elapse ms) found
    have idle := (run.orderly.idle prompt.1 (.popup i)).2 i p rfl found
    cases stage : p.stage with
    | settled o =>
      rw [stage] at expires
      cases expires
    | opened =>
      obtain ⟨_, _, _, _, waiting, _⟩ := idle (by rw [stage]; rfl)
      cases stage.symm.trans waiting
    | waiting =>
      rw [later]
      rw [stage] at expires ⊢
      exact .inl expires

-- No time passes beyond that.
theorem Timely.intime (run : Timely w setup s) (here : s.expiry? setup i = some d) : s.now ≤ d := by
  obtain ⟨stage, there, expires⟩ := Option.bind_eq_some_iff.mp here
  obtain ⟨p, found, rfl⟩ := Option.map_eq_some_iff.mp there
  cases stage : p.stage with
  | settled o =>
    rw [stage] at expires
    cases expires
  | opened =>
    rw [stage] at expires
    cases expires
    exact Nat.le_add_right _ _
  | waiting deadline nextLook talk =>
    rw [stage] at expires
    cases expires
    obtain ⟨c, _, reckons⟩ := run.accounts.reckons found (by rw [stage]; rfl)
    exact (reckons.waits _ _ _ stage).2.2.1

theorem session_ends_in_time (run : Timely w setup s) (timed : 0 < setup.settings.callTimeout) (begins : f 0 = s)
    (goes : ∀ k, Proceeds w setup (f k) (f (k + 1))) (here : s.expiry? setup i = some d) :
    ∃ k o, (f k).outcome? i = some o ∧ (f k).now ≤ d := by
  by_contra never
  have waits (k : Nat) : (f k).expiry? setup i = some d := by
    induction k with
    | zero => exact begins ▸ here
    | succ k ih =>
      have run := goes_timely run begins goes k
      apply ((goes k).expires run ih).resolve_right
      intro ended
      obtain ⟨now, o, ended⟩ := ended
      exact never ⟨k + 1, o, ended, now ▸ run.intime ih⟩
  have beyond (b : Nat) : ∃ k, b ≤ (f k).now := by
    induction b with
    | zero => exact ⟨0, Nat.zero_le _⟩
    | succ b ih =>
      obtain ⟨k, reached⟩ := ih
      obtain ⟨m, _, later⟩ := time_goes_on run timed begins goes k
      exact ⟨m, by omega⟩
  obtain ⟨k, late⟩ := beyond (d + 1)
  have intime := (goes_timely run begins goes k).intime (waits k)
  omega

-- Where requests are given some time, a popup is asked at most once at any instant, and again only when its request has
-- lapsed or the pause after a post that failed is over. The tasks can always go on; however they do, time passes, and
-- every session ends, at the latest when its time is over.
theorem requests_are_paced (timed : 0 < setup.settings.callTimeout) :
    (∀ s, Reached w setup .initial s →
      ∀ newer later i message origin reason between time message' origin' reason' older,
      s.history = newer ++ (later, .posted (.popup i) message origin reason) ::
        (between ++ (time, .posted (.popup i) message' origin' reason') :: older) →
      time < later ∧ time + setup.settings.respite reason' ≤ later) ∧
    ∀ s, Timely w setup s → (∃ s', Proceeds w setup s s') ∧
      ∀ f : Nat → Sitting, f 0 = s → (∀ k, Proceeds w setup (f k) (f (k + 1))) →
        (∀ k, ∃ m, k < m ∧ (f k).now < (f m).now) ∧
        ∀ i d, s.expiry? setup i = some d → ∃ k o, (f k).outcome? i = some o ∧ (f k).now ≤ d := by
  constructor
  · intro s path newer later i message origin reason between time message' origin' reason' older split
    have apart := path.regulated.apart split
    have pause : 0 < setup.settings.pollPause := Nat.lt_of_lt_of_le Nat.zero_lt_one (Nat.le_max_right _ _)
    have respite : 0 < setup.settings.respite reason' := by
      unfold Settings.respite
      split
      · exact pause
      · exact timed
    exact ⟨by omega, apart⟩
  · intro s run
    refine ⟨proceeds_somehow w setup s, ?_⟩
    intro f begins goes
    constructor
    · exact time_goes_on run timed begins goes
    · intro i d here
      exact session_ends_in_time run timed begins goes here

-- A popup that never answers is asked again when its request has lapsed.
def hasty : Setup := { Setup.plain with settings := { Settings.standard with callTimeout := 100 } }

def askedAgain : Sitting :=
  acts .calm hasty [.start .session, .turn (.call 0), .turn (.popup 0), .elapse 100, .turn (.popup 0)] .initial

theorem askedAgain_timely : Timely .calm hasty askedAgain :=
  acts_timely .initial _ ⟨trivial, trivial, trivial, ⟨rfl, by decide⟩, trivial, trivial⟩

theorem silent_session_ends_in_time :
    (∃ message message' between older, askedAgain.history = (100, .posted (.popup 0) message "https://lms" none) ::
      (between ++ (0, .posted (.popup 0) message' "https://lms" none) :: older) ∧
      0 + hasty.settings.respite none ≤ 100) ∧
    ∀ f : Nat → Sitting, f 0 = askedAgain → (∀ k, Proceeds .calm hasty (f k) (f (k + 1))) →
      ∃ k o, (f k).outcome? 0 = some o ∧ (f k).now ≤ 600000 := by
  have paced := @requests_are_paced .calm hasty (by decide)
  constructor
  · exact ⟨_, _, [_, _, _], _, rfl, (paced.1 askedAgain (acts_reached _) [] 100 0 _ _ _ [_, _, _] 0 _ _ none _ rfl).2⟩
  · intro f begins goes
    exact ((paced.2 askedAgain askedAgain_timely).2 f begins goes).2 0 600000 rfl

-- With no time given, it is asked again at once.
def restless : Setup := { Setup.plain with settings := { Settings.standard with callTimeout := 0 } }

-- A popup that takes notice of the second request only.
def sleepy : Surroundings :=
  { Surroundings.calm with
    window := fun _ => .opened false fun earlier ids =>
      if earlier = 0 then .sends []
      else .sends [⟨"https://lms",
        .object [("id", .text (ids.getLast?.getD "")), ("jsonrpc", .text "2.0"), ("result", .null)]⟩] }

def askedAtOnce : Sitting :=
  acts sleepy restless [.start .session, .turn (.call 0), .turn (.popup 0)] .initial

theorem untimed_request_is_repeated_at_once :
    Settings.decoder.ofJson (.ofMembers [("rpcTimeoutMs", .whole 0)]) = .ok restless.settings ∧
    Timely sleepy restless askedAtOnce ∧
    ∃ newer message message' between older, askedAtOnce.history =
      newer ++ (0, .posted (.popup 0) message "https://lms" none) ::
        (between ++ (0, .posted (.popup 0) message' "https://lms" none) :: older) := by
  refine ⟨rfl, acts_timely .initial _ ⟨trivial, trivial, trivial, trivial⟩, ?_⟩
  exact ⟨[_, _, _, _], _, _, [_, _], _, rfl⟩

end Sitting
end CourseFiles
