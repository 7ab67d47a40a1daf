import CourseFiles.Proofs.Messages.Answers
import CourseFiles.Proofs.Sitting.Runs
import CourseFiles.Proofs.Url.Origins
import CourseFiles.Service.Endpoint

namespace CourseFiles

namespace Sitting

variable {w : Surroundings} {setup : Setup} {s s' : Sitting} {v : Option Task}

-- A popup's session begins to listen to nothing but the origin of the authorization URL.
def Homeward (setup : Setup) (e : Nat × Happening) : Prop :=
  ∀ i a, e.2 = .listened (.popup i) a → a.origin = setup.authUrl.origin.text

theorem Move.homeward (move : Move w setup v s s') :
    ∃ newer, s'.history = newer ++ s.history ∧ ∀ e ∈ newer, Homeward setup e := by
  obtain ⟨newer, grown, silent | ⟨t, _, _, _, _, _, asks, rfl⟩⟩ := move.utters
  · refine ⟨newer, grown, ?_⟩
    intro e here i a listened
    have quiet : e.2.converses = false := silent e here
    rw [listened] at quiet
    cases quiet
  · refine ⟨_, grown, ?_⟩
    intro e here i a listened
    rcases List.mem_pair.mp here with rfl | rfl <;> cases listened
    exact asks.2.1

theorem Reached.homeward (path : Reached w setup .initial s) : ∀ e ∈ s.history, Homeward setup e := by
  refine path.keeps initial_tuned (P := fun s => ∀ e ∈ s.history, Homeward setup e) ?_ ?_ ?_
  · intro e here
    cases here
  · intro v s s' move homeward e here
    obtain ⟨newer, grown, fresh⟩ := move.homeward
    rw [grown] at here
    exact (List.mem_append.mp here).elim (fresh e) (homeward e)
  · intro s ms homeward
    exact homeward

-- A page whose messages carry the name of the origin that a session listens to, and so are among those that may answer
-- it, is of the scheme, host and port of the configured URL, or else neither of them is of any that others could have.
theorem only_own_origin_answers {path text other : String} {u : Url}
    (configured : Endpoint.of path text = .ok ⟨path, setup.authUrl⟩) (sent : Url.read other = .ok u) :
    (setup.authUrl.origin.text = u.origin.text ↔ setup.authUrl.SameOrigin u) ∧
    (String.ofList setup.authUrl.scheme ≠ "blob" → String.ofList u.scheme ≠ "blob" →
      (setup.authUrl.SameOrigin u ↔ (∃ scheme host port, setup.authUrl.At scheme host port ∧ u.At scheme host port) ∨
        (∀ scheme host port, ¬ setup.authUrl.At scheme host port) ∧ ∀ scheme host port, ¬ u.At scheme host port)) ∧
    ∀ s, Reached w setup .initial s → ∀ time i a, (time, .listened (.popup i) a) ∈ s.history →
      ∀ (m : Message) o, m.origin = u.origin.text → m.reply? a.origin a.id = some o → setup.authUrl.SameOrigin u := by
  have read : Url.read text = .ok setup.authUrl := by
    unfold Endpoint.of at configured
    cases accepted : Url.read text with
    | error e =>
      rw [accepted] at configured
      cases configured
    | ok url =>
      rw [accepted] at configured
      cases configured
      rfl
  have alike : setup.authUrl.origin.text = u.origin.text ↔ setup.authUrl.SameOrigin u := by
    rw [← Url.origin_same]
    exact ⟨Origin.text_injective (Origin.read_proper read) (Origin.read_proper sent), congrArg Origin.text⟩
  refine ⟨alike, ?_, ?_⟩
  · intro ordinary ordinary'
    simp only [Url.SameOrigin, Url.Shares, Url.Alone, Url.belongs_ordinary ordinary, Url.belongs_ordinary ordinary']
  · intro s path time i a listened m o stamped replied
    have asked : a.origin = setup.authUrl.origin.text := path.homeward _ listened i a rfl
    have answered : m.origin = a.origin := (Message.reply?_eq_some.mp replied).1
    exact alike.mp (asked.symm.trans (answered.symm.trans stamped))

-- The popup has been asked, and waits for an answer.
def asked (setup : Setup) : Sitting := acts .calm setup [.start .session, .turn (.call 0), .turn (.popup 0)] .initial

def grantFrom (origin : String) : Message :=
  ⟨origin, .object [("id", .text "0"), ("jsonrpc", .text "2.0"), ("result", .null)]⟩

-- The page that answers, with the scheme's own port written out.
def grantedUrl : Url := { Setup.plain.authUrl with path := .segments ["granted".toList] }

theorem page_of_own_origin_answers :
    Endpoint.of "/files" "https://lms/" = .ok ⟨"/files", Setup.plain.authUrl⟩ ∧
    Url.read "https://lms:443/granted" = .ok grantedUrl ∧
    (grantFrom grantedUrl.origin.text).reply? "https://lms" "0" = some (.ok .null) ∧
    Setup.plain.authUrl.SameOrigin grantedUrl := by
  have configured : Endpoint.of "/files" "https://lms/" = .ok ⟨"/files", Setup.plain.authUrl⟩ := by decide +kernel
  have sent : Url.read "https://lms:443/granted" = .ok grantedUrl := by decide +kernel
  have answered : (grantFrom grantedUrl.origin.text).reply? "https://lms" "0" = some (.ok .null) := rfl
  have listened : (0, .listened (.popup 0) ⟨0, "https://lms", "0", Setup.plain.settings.callTimeout⟩) ∈
      (asked .plain).history := .tail _ (.tail _ (.head _))
  refine ⟨configured, sent, answered, ?_⟩
  exact (only_own_origin_answers configured sent).2.2 (asked .plain) (acts_reached _) 0 0 _ listened _ _ rfl answered

-- A file and a page that is written out in its own URL.

def fileSetup : Setup :=
  { Setup.plain with
    authUrl := ⟨Url.fileScheme, some Url.noAuthority, .segments ["authorize".toList], none, none⟩ }

def dataUrl : Url := ⟨"data".toList, none, .plain "text/html,granted".toList, none, none⟩

def dataAnswered : Sitting :=
  acts .calm fileSetup [.deliver (grantFrom dataUrl.origin.text), .turn (.popup 0)] (asked fileSetup)

-- Neither has an origin that another shares, and yet the one grants what the other is asked for.
theorem unshared_origin_answers :
    Endpoint.of "/files" "file:///authorize" = .ok ⟨"/files", fileSetup.authUrl⟩ ∧
    Url.read "data:text/html,granted" = .ok dataUrl ∧
    fileSetup.authUrl.origin.text = dataUrl.origin.text ∧ ¬ fileSetup.authUrl.Shares dataUrl ∧
    Reached .calm fileSetup .initial dataAnswered ∧ dataAnswered.outcome? 0 = some (.ok ()) := by
  refine ⟨by decide +kernel, by decide +kernel, rfl, ?_, (acts_reached _).trans (acts_reached _), rfl⟩
  rintro ⟨scheme, host, port, one, two⟩
  exact Url.origin_alone.mp (show dataUrl.origin = .alone from rfl) scheme host port two

end Sitting
end CourseFiles
