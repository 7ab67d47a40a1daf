import CourseFiles.Proofs.Picker.InFlight
import CourseFiles.Proofs.Service.Judgement

namespace CourseFiles

-- What a dialog shows of a reply.
structure Dialog.Shows (d : Dialog) (reply : Except ListingError Listing) : Prop where
  fetched : ∀ items, d = .fetched items ↔ reply = .ok items
  authorizing : d = .authorizing ↔ ∃ e, reply = .error (.api e) ∧ e.Silent
  failed : ∀ f, d = .error f ↔ reply = .error f ∧ ∀ e, f = .api e → ¬ e.Silent
  filled : d ≠ .fetching

theorem Picker.dialogOf_shows (reply : Except ListingError Listing) : (Picker.dialogOf reply).Shows reply := by
  cases reply with
  | ok items => constructor <;> simp [dialogOf]
  | error f =>
    cases f with
    | transport reason => constructor <;> simp [dialogOf, ListingError.requiresAuthorization]
    | api e =>
      by_cases silent : e.Silent
      · have asks := ListingError.requires_silent.mpr silent
        constructor <;> simp [dialogOf, asks, silent]
      · have shown := mt ListingError.requires_silent.mp silent
        constructor <;> simp [dialogOf, shown, silent]

namespace Sitting

variable {w : Surroundings} {setup : Setup} {s s' : Sitting} {v : Option Task} {t : Task} {n m : Nat} {l : Launch}

-- Nobody takes away the call that waits for this listing.
def Kept (l : Launch) (s : Sitting) (a : Act) : Prop := ∀ n, a = .abort n → ¬ s.Lists n l

-- While a listing is the last that was launched and nothing has superseded it, it is waited for or shown.
def Answered (w : Surroundings) (l : Launch) (s : Sitting) : Prop :=
  ∀ earlier, s.launches = earlier ++ [l] → l.generation = s.picker.generation →
    (∃ n, s.Lists n l) ∨ s.picker.dialog = Picker.dialogOf (replyTo w earlier l)

theorem Answered.kept (answered : s.Answered w l) (generation : s'.picker.generation = s.picker.generation)
    (dialog : s'.picker.dialog = s.picker.dialog) (launches : s'.launches = s.launches)
    (lists : ∀ n, s.Lists n l → s'.Lists n l) : s'.Answered w l := by
  intro earlier listed current
  rw [launches] at listed
  rw [generation] at current
  rcases answered earlier listed current with ⟨n, waits⟩ | shown
  · exact .inl ⟨n, lists n waits⟩
  · exact .inr (dialog.trans shown)

-- A new generation supersedes every listing.
theorem Agrees.superseding (agrees : Agrees w setup s) (launches : s'.launches = s.launches)
    (later : s'.picker.generation = s.picker.generation + 1) : s'.Answered w l := by
  intro earlier listed current
  rw [launches] at listed
  have older := agrees.bounded l (by rw [listed]; simp)
  omega

theorem Answered.ended (answered : s.Answered w l) (unlisted : s.Unlisted n) (picker : s'.picker = s.picker)
    (launches : s'.launches = s.launches) (calls : s'.calls = (s.removeCall n).calls) : s'.Answered w l := by
  refine answered.kept (by rw [picker]) (by rw [picker]) launches fun m lists => ?_
  rw [Lists, calls]
  exact lists.removeCall (lists.other unlisted)

-- Who fails finds the dialog as it leaves it.
theorem Answered.failed (answered : s.Answered w l) (agrees : Agrees w setup s) (why : s.Fails n generation) :
    (endCall n .done { s with picker := s.picker.failed generation }).Answered w l := by
  unfold Picker.failed
  split
  · exact answered.ended why.stirs.unlisted rfl rfl rfl
  · rename_i current
    have current : s.picker.closed = false ∧ s.picker.generation = generation := by simpa using current
    have asking := agrees.fails why current.2.symm
    exact answered.kept rfl asking.symm rfl fun _ lists => lists.removeCall (lists.other why.stirs.unlisted)

-- A reply arrives: it is the one to the listing that counts, or the dialog stays.
theorem Answered.arrive (answered : s.Answered w l) (agrees : Agrees w setup s)
    (waiting : s.calls.lookup n = some (.listing k arrival result after)) :
    (endCall n after { s with picker := s.picker.arrive k result }).Answered w l := by
  obtain ⟨before, later, here, reply⟩ := agrees.pending _ _ _ _ _ (Lookup.mem waiting)
  by_cases current : s.picker.generation = k.generation
  · intro earlier listed _
    cases agrees.last here current.symm
    obtain ⟨rfl, same⟩ := List.append_inj' (here.symm.trans listed) rfl
    cases same
    exact .inr ((arrive_filled current).trans (congrArg Picker.dialogOf reply))
  · rw [Picker.arrive, if_neg current]
    intro earlier listed fits
    rcases answered earlier listed fits with ⟨m, lists⟩ | shown
    · refine .inl ⟨m, lists.removeCall ?_⟩
      intro same
      obtain ⟨_, _, _, there⟩ := lists
      subst same
      cases there.symm.trans waiting
      exact current fits.symm
    · exact .inr shown

theorem Move.answered (move : Move w setup (some t) s s') (agrees : Agrees w setup s) (answered : s.Answered w l) :
    s'.Answered w l := by
  have beside (beside : Beside s s') : s'.Answered w l := by
    refine answered.kept (by rw [beside.picker]) (by rw [beside.picker]) beside.launches fun n lists => ?_
    rwa [Lists, beside.calls]
  have set {n : Nat} {p : Pending} (unlisted : s.Unlisted n) : (s.setCall n p).Answered w l :=
    answered.kept rfl rfl rfl fun _ lists => lists.setCall (lists.other unlisted)
  cases move with
  | conclude on ends retry own =>
    cases t with
    | call n => exact answered.ended (own n rfl).stirs.unlisted rfl rfl rfl
    | popup i => exact answered.kept rfl rfl rfl fun _ lists => lists
  | begin => exact beside beginSession_beside
  | complete => exact beside completeSession_beside
  | cancel => exact beside cancelSession_beside
  | await on own => exact set own.stirs.unlisted
  | join live asked | attend live asking asked => exact set ⟨_, asked, rfl⟩
  | authorize => exact agrees.superseding rfl rfl
  | fail why => exact answered.failed agrees why
  | @launch p k delay result n _ after f change asked reply slow =>
    intro earlier listed _
    obtain ⟨_, same⟩ := List.append_inj' (listed : s.launches ++ [k] = earlier ++ [l]) rfl
    cases same
    obtain ⟨q, mine, _⟩ := change.stirs
    refine .inl ⟨n, s.now + delay, result, after, ?_⟩
    rw [set_lookup]
    exact congrArg (Option.map fun _ => Pending.listing l (s.now + delay) result after) mine
  | @list p k result n _ after f change asked reply =>
    intro earlier listed _
    obtain ⟨rfl, same⟩ := List.append_inj' (listed : s.launches ++ [k] = earlier ++ [l]) rfl
    cases same
    have launches := Picker.relist_launches change.keeps asked
    refine .inr ((arrive_filled launches.own.symm).trans ?_)
    rw [replyTo, reply]
  | arrive waiting time => exact answered.arrive agrees waiting
  | done plain => exact answered.ended plain.unlisted rfl rfl rfl
  | _ => exact answered.kept rfl rfl rfl fun _ lists => lists

theorem Outside.answered (outside : Outside s a s') (agrees : Agrees w setup s) (fits : Kept l s a)
    (answered : s.Answered w l) : s'.Answered w l := by
  cases outside with
  | aside aside =>
    refine answered.kept (by rw [aside.picker]) (by rw [aside.picker]) aside.launches fun n lists => ?_
    rwa [Lists, aside.calls]
  | start =>
    refine answered.kept rfl rfl rfl fun n lists => ?_
    obtain ⟨arrival, result, after, waiting⟩ := lists
    exact ⟨arrival, result, after, started_other waiting⟩
  | @drop k p _ aside =>
    refine answered.kept (by rw [aside.picker]; rfl) (by rw [aside.picker]; rfl) aside.launches fun n lists => ?_
    rw [Lists, aside.calls]
    apply lists.removeCall
    intro same
    exact fits k rfl (same ▸ lists)
  | select =>
    unfold Sitting.select Picker.select
    split
    · exact answered
    · exact answered.kept rfl rfl rfl fun _ lists => lists
  | close aside =>
    have superseded : Answered w l { s with picker := s.picker.close } := agrees.superseding rfl rfl
    refine superseded.kept (by rw [aside.picker]) (by rw [aside.picker]) aside.launches fun n lists => ?_
    rwa [Lists, aside.calls]

theorem Within.answered (path : Within (Kept l) w setup .initial s) : s.Answered w l := by
  refine path.keeps initial_tuned ?_ ?_ ?_
  · intro earlier listed
    cases earlier <;> cases listed
  · intro t s₁ s₂ reached _ moves answered
    have both : Agrees w setup s₂ ∧ s₂.Answered w l := by
      refine Moves.keeps (P := fun s => Agrees w setup s ∧ s.Answered w l) moves ?_ ⟨reached.agrees, answered⟩
      intro s s' move both
      exact ⟨move.agrees both.1, move.answered both.1 both.2⟩
    exact both.2
  · intro a s₁ s₂ reached fits outside
    exact outside.answered reached.agrees fits

-- What a listing gives is decided by its reply alone, and while it is current that decides the dialog: it waits as long
-- as the listing is on its way, and shows what came from then on.
theorem reply_decides_dialog {base : Url} {server : List String → ServiceRequest → ServerAnswer}
    (serves : ∀ before target, (w.listing before target).2 =
      Service.listFiles base (server before) setup.token target [])
    (path : Within (Kept l) w setup .initial s) (listed : s.launches = earlier ++ l :: later) :
    Service.Decides (Service.Replied base (server (earlier.map (·.path))) ⟨setup.token, l.path, [], none⟩)
      (replyTo w earlier l) ∧
    (l.generation = s.picker.generation → l ∈ s.inFlight → s.picker.dialog = .fetching) ∧
    (l.generation = s.picker.generation → l ∉ s.inFlight → s.picker.dialog.Shows (replyTo w earlier l)) := by
  have agrees := path.reached.agrees
  refine ⟨?_, ?_, ?_⟩
  · rw [replyTo, serves]
    exact Service.reply_decides
  · intro current flying
    obtain ⟨n, arrival, result, after, here⟩ := mem_inFlight.mp flying
    exact agrees.fetching _ _ _ _ _ here current
  · intro current landed
    cases agrees.last listed current
    rcases path.answered earlier listed current with ⟨n, lists⟩ | shown
    · exact absurd lists.inFlight landed
    · rw [shown]
      exact Picker.dialogOf_shows _

-- A service that refuses whatever it is asked for, and has nothing to say.
def refusing : ServiceRequest → ServerAnswer := fun _ => .reply 403 (Utf8.encode ['\x7b', '\x7d']) true

def turnedAwayFrom : Surroundings where
  __ := Surroundings.calm
  listing _ target := (5, Service.listFiles Setup.plain.authUrl refusing "token" target [])

def turnedAway : Sitting :=
  acts turnedAwayFrom .plain [.start .start, .turn (.call 0), .elapse 5, .turn (.call 0)] .initial

theorem turnedAway_asks_for_access : turnedAway.launches = [⟨1, "/files"⟩] ∧ turnedAway.inFlight = [] ∧
    replyTo turnedAwayFrom [] ⟨1, "/files"⟩ = .error (.api ⟨some 403, none, none, none⟩) ∧
    turnedAway.picker.dialog = .authorizing := by
  have path : Within (Kept ⟨1, "/files"⟩) turnedAwayFrom .plain .initial turnedAway := acts_always _ (by simp [Kept])
  have serves (before : List String) (target : String) : (turnedAwayFrom.listing before target).2 =
      Service.listFiles Setup.plain.authUrl refusing Setup.plain.token target [] := rfl
  have listed : turnedAway.launches = [] ++ ⟨1, "/files"⟩ :: [] := rfl
  obtain ⟨decides, _, shows⟩ := reply_decides_dialog serves path listed
  have made : (Service.request Setup.plain.authUrl ⟨"token", "/files", [], none⟩).isOk = true := by decide +kernel
  obtain ⟨r, sent⟩ := Service.isOk_iff.mp made
  have spelled : ErrorBody.Spelled (Utf8.encode ['\x7b', '\x7d']) ⟨none, none, none⟩ :=
    ErrorBody.readText_spelled.mp rfl
  have refused := (decides.refused ⟨some 403, none, none, none⟩).mpr
    ⟨403, _, ⟨r, sent, rfl⟩, by decide, rfl, spelled⟩
  have silent : ApiError.Silent ⟨some 403, none, none, none⟩ := by
    intro s told
    cases told
  have none : turnedAway.inFlight = [] := rfl
  have landed : ⟨1, "/files"⟩ ∉ turnedAway.inFlight := by simp [none]
  exact ⟨listed, none, refused, (shows rfl landed).authorizing.mpr ⟨_, refused, silent⟩⟩

end Sitting
end CourseFiles
