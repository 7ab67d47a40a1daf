import CourseFiles.Picker.View
import CourseFiles.Proofs.Picker.Closing
import CourseFiles.Proofs.Picker.Invocation

namespace CourseFiles

def ButtonAction.operation : ButtonAction → Operation
  | .authorize => .authorize
  | .tryAgain => .authorize
  | .select => .useSelected
  | .reload => .reload

namespace Snapshot

-- When there is something for a button to do.
def Ready (x : Snapshot) : ButtonAction → Prop
  | .authorize => x.dialog = .authorizing
  | .tryAgain => x.dialog = .authorizing ∨ ∃ e, x.dialog = .error e
  | .reload => x.dialog = .fetched []
  | .select => ∃ file rest item, x.dialog = .fetched (file :: rest) ∧ x.selected = some item

end Snapshot

namespace View

variable {x : Snapshot} {settings : Settings} {b : Button}

theorem enabled_ready (here : b ∈ (ofSnapshot x settings).buttons) (enabled : b.disabled = false) :
    x.Ready b.action := by
  unfold ofSnapshot at here
  cases dialog : x.dialog with
  | fetching =>
    simp only [dialog, List.mem_singleton] at here
    subst here
    cases enabled
  | authorizing =>
    simp only [dialog] at here
    split at here
    · cases List.mem_singleton.mp here
      exact .inl dialog
    · cases List.mem_singleton.mp here
      exact dialog
  | error e =>
    simp only [dialog, List.mem_singleton] at here
    subst here
    exact .inr ⟨e, dialog⟩
  | fetched files =>
    cases files with
    | nil =>
      simp only [dialog, List.mem_singleton] at here
      subst here
      exact dialog
    | cons file rest =>
      simp only [dialog, List.mem_singleton] at here
      subst here
      have enabled : x.selected.isNone = false := enabled
      obtain ⟨item, chosen⟩ := Option.isSome_iff_exists.mp (Option.isNone_eq_false_iff.mp enabled)
      exact ⟨file, rest, item, dialog, chosen⟩

-- While nothing is fetched there is a button to press, or there are files to select from.
theorem offers_way (filled : x.dialog ≠ .fetching) : (∃ b ∈ (ofSnapshot x settings).buttons, b.disabled = false) ∨
    ∃ l, (ofSnapshot x settings).fileList = some l ∧ l.rows ≠ [] := by
  unfold ofSnapshot
  cases dialog : x.dialog with
  | fetching => exact absurd dialog filled
  | authorizing => exact .inl ⟨_, List.mem_singleton_self _, rfl⟩
  | error e => exact .inl ⟨_, List.mem_singleton_self _, rfl⟩
  | fetched files =>
    cases files with
    | nil => exact .inl ⟨_, List.mem_singleton_self _, rfl⟩
    | cons file rest => exact .inr ⟨_, rfl, by simp⟩

end View

namespace Sitting

-- What asking for a session comes to: the popup that is open comes to the front, or one is opened, or none can be.
inductive Approaches (setup : Setup) (s : Sitting) : Except SessionError Nat → Sitting → Prop where
  | joins (live : s.session.live = some i) (focused : s'.history = (s.now, .focused i) :: s.history) :
      Approaches setup s (.ok i) s'
  | opens (free : s.session.live = none) (live : s'.session.live = some i)
      (opened : s'.history = (s.now,
        .opened i closed (Session.popupUrl setup.authUrl setup.token) name setup.settings.features) :: s.history) :
      Approaches setup s (.ok i) s'
  | fails (free : s.session.live = none) (dead : s'.session.live = none)
      (refused : s'.history = (s.now,
        .notOpened (Session.popupUrl setup.authUrl setup.token) name setup.settings.features) :: s.history) :
      Approaches setup s (.error (.notOpened reason)) s'

-- The dialog asks for access, and the call waits for the session. When there is none the call is over, and the dialog
-- is told of that.
structure SeeksAccess (setup : Setup) (s : Sitting) (n : Nat) (s' : Sitting) : Prop where
  authorizing : s'.picker.dialog = .authorizing
  shown : s'.picker.published.head? = some s'.picker.snapshot
  begun : ∃ r s₁, Approaches setup s r s₁ ∧ match r with
    | .ok i => s'.history = s₁.history ∧ s'.calls.lookup n = some (.authorizing s'.picker.generation i)
    | .error _ => s'.history = (s.now, .finished n .done) :: s₁.history ∧ s'.picker.attempted = true

-- What a button does when it is not ignored.
def Serves (w : Surroundings) (setup : Setup) (s : Sitting) (n : Nat) (s' : Sitting) : ButtonAction → Prop
  | .authorize => s.SeeksAccess setup n s'
  | .tryAgain => s.SeeksAccess setup n s'
  | .reload => s.Fetches w setup s.picker.trail s'
  | .select => ∃ item, s.picker.selected = some item ∧
    match Crumb.ofItem? item with
    | some c => s.Fetches w setup (s.picker.trail.push c) s'
    | none => ∃ newer, s'.history = newer ++ (s.now, .finished n (.chosen (some item))) :: s.history

variable {w : Surroundings} {setup : Setup} {s s₁ : Sitting} {n : Nat}

theorem beginSession_approaches : Approaches setup s (beginSession w setup s).1 (beginSession w setup s).2 := by
  unfold beginSession
  split
  · rename_i live
    exact .joins live rfl
  · rename_i free
    dsimp only
    split
    · exact .fails free rfl rfl
    · exact .opens free rfl rfl

-- What it comes to rests on the clock, the session and what happened before.
theorem Approaches.alike (begun : Approaches setup s₁ r s') (session : s₁.session = s.session) (now : s₁.now = s.now)
    (history : s₁.history = s.history) : Approaches setup s r s' := by
  cases begun with
  | joins live focused => exact .joins (session ▸ live) (now ▸ history ▸ focused)
  | opens free live opened => exact .opens (session ▸ free) live (now ▸ history ▸ opened)
  | fails free dead refused => exact .fails (session ▸ free) dead (now ▸ history ▸ refused)

theorem Approaches.notOpened (begun : Approaches setup s (.error e) s') :
    ∃ reason, e = .notOpened reason ∧ s'.session.live = none := by
  cases begun with
  | fails _ dead => exact ⟨_, rfl, dead⟩

theorem failed_authorize {p : Picker} (opened : p.closed = false) : p.authorize.failed p.authorize.generation =
    Picker.turnTo { p.authorize with attempted := true } .authorizing := by
  rw [Picker.failed, if_neg]
  simp [Picker.authorize, Picker.turnTo, Picker.publish, opened]

-- A picker that is not closed asks for access where it is lacking, and after an error.
theorem Poised.seeksAccess (poised : s.Poised n .authorize s₁) (opened : s.picker.closed = false)
    (lacking : s.picker.isAuthorizing = true ∨ s.picker.dialog.error?.isSome = true) :
    s.SeeksAccess setup n (authorize w setup n s₁) := by
  have accepted : s₁.picker.mayAuthorize = true := by
    rw [poised.picker, Picker.mayAuthorize, opened]
    exact Bool.or_eq_true_iff.mpr lacking
  have beside : Beside _ (beginSession w setup { s₁ with picker := s₁.picker.authorize }).2 := beginSession_beside
  have begun : Approaches setup s (beginSession w setup { s₁ with picker := s₁.picker.authorize }).1 _ :=
    beginSession_approaches.alike poised.session poised.now poised.history
  rw [authorize, if_pos accepted]
  dsimp only
  generalize beginSession w setup { s₁ with picker := s₁.picker.authorize } = result at beside begun
  obtain ⟨r, s₂⟩ := result
  cases r with
  | ok i =>
    dsimp only
    obtain ⟨ready, joined⟩ := join_sets (s := s₂) (n := n) (i := i)
      (p := .authorizing s₁.picker.authorize.generation i)
    rw [joined]
    refine ⟨congrArg Picker.dialog beside.picker, ?_, .ok i, s₂, begun, rfl, ?_⟩
    · show s₂.picker.published.head? = some s₂.picker.snapshot
      rw [beside.picker]
      rfl
    · dsimp only
      rw [set_lookup, beside.calls, poised.asked]
      exact congrArg (fun p : Picker => some (Pending.authorizing p.generation i)) beside.picker.symm
  | error e =>
    obtain ⟨reason, rfl, dead⟩ := begun.notOpened
    have told : s₂.picker.failed s₁.picker.authorize.generation =
        Picker.turnTo { s₁.picker.authorize with attempted := true } .authorizing := by
      rw [show s₂.picker = s₁.picker.authorize from beside.picker]
      exact failed_authorize (by rw [poised.picker, opened])
    have history := finish_dead (n := n) (r := .done)
      (s := { s₂ with picker := s₂.picker.failed s₁.picker.authorize.generation }) dead
    simp only [authorized]
    refine ⟨?_, ?_, _, s₂, begun, ?_, ?_⟩
    · rw [finish_picker, told]; rfl
    · rw [finish_picker, told]; rfl
    · rw [history, beside.now, poised.now]
    · rw [finish_picker, told]; rfl

-- Nothing is listed while the dialog asks for access, and else the folder is listed again.
theorem Poised.reloads (poised : s.Poised n .reload s₁) (opened : s.picker.closed = false)
    (free : s.picker.isAuthorizing = false) :
    s.Fetches w setup s.picker.trail (relist w setup n .done Picker.unlessAuthorizing s₁) := by
  apply poised.fetches opened (.unlessAuthorizing poised.asked)
  rw [Picker.unlessAuthorizing, free]
  rfl

-- A folder that is selected is gone into; a file is given back.
theorem Poised.chooses (poised : s.Poised n .useSelected s₁) (opened : s.picker.closed = false)
    (free : s.picker.isAuthorizing = false) (chosen : s.picker.selected = some item) :
    s.Serves w setup n (use w setup n s₁.picker.selected s₁) .select := by
  have chosen₁ : s₁.picker.selected = some item := poised.picker ▸ chosen
  have opened₁ : s₁.picker.closed = false := poised.picker ▸ opened
  refine ⟨item, chosen, ?_⟩
  rw [chosen₁, use]
  cases folder : Crumb.ofItem? item with
  | some c =>
    apply poised.fetches opened (.enter (.inr ⟨poised.asked, chosen₁⟩) folder)
    rw [Picker.into, Picker.unlessAuthorizing, free]
    rfl
  | none =>
    obtain ⟨newer, grown⟩ := finish_history (n := n) (r := .chosen (some item)) (s := s₁)
    rw [poised.now, poised.history] at grown
    rw [opened₁]
    exact ⟨newer, grown⟩

-- No button is dead. While the picker is open, whoever presses a button that can be pressed is heard: access is sought,
-- the folder is listed again, or what is selected is gone into or given back. And unless the dialog waits for a listing
-- there always is such a button, or a file to select.
theorem enabled_buttons_serve (path : Reached w setup .initial s) (opened : s.picker.closed = false)
    (settings : Settings) :
    (∀ b ∈ (View.ofSnapshot s.picker.snapshot settings).buttons, b.disabled = false →
      s.Serves w setup s.nextCall (s.invoke w setup b.action.operation) b.action) ∧
    (s.picker.dialog ≠ .fetching →
      (∃ b ∈ (View.ofSnapshot s.picker.snapshot settings).buttons, b.disabled = false) ∨
      ∃ l, (View.ofSnapshot s.picker.snapshot settings).fileList = some l ∧ l.rows ≠ []) := by
  refine ⟨?_, fun filled => View.offers_way filled⟩
  intro b here enabled
  have ready := View.enabled_ready here enabled
  obtain ⟨s₁, invoked, poised⟩ := path.numbered.invoke w setup b.action.operation
  rw [invoked]
  generalize b.action = action at ready poised
  have asking (dialog : s.picker.dialog = .authorizing) : s.picker.isAuthorizing = true := by
    rw [Picker.isAuthorizing, dialog]
  have free {files : Listing} (dialog : s.picker.dialog = .fetched files) : s.picker.isAuthorizing = false := by
    rw [Picker.isAuthorizing, dialog]
  cases action with
  | authorize => exact poised.seeksAccess opened (.inl (asking ready))
  | tryAgain =>
    apply poised.seeksAccess opened
    rcases ready with lacking | ⟨e, failed⟩
    · exact .inl (asking lacking)
    · exact .inr (by rw [show s.picker.dialog = .error e from failed]; rfl)
  | reload => exact poised.reloads opened (free ready)
  | select =>
    obtain ⟨_, _, _, files, chosen⟩ := ready
    exact poised.chooses opened (free files) chosen

def folderSelected : Sitting :=
  acts oneFolder .plain [.start .start, .turn (.call 0), .select (some homework)] .initial

theorem folderSelected_is_gone_into : folderSelected.picker.closed = false ∧
    ⟨.select, false⟩ ∈ (View.ofSnapshot folderSelected.picker.snapshot .standard).buttons ∧
    folderSelected.Fetches oneFolder .plain (Trail.root.push ⟨"3", "Homework", some "/files/homework"⟩)
      (folderSelected.invoke oneFolder .plain .useSelected) := by
  have opened : folderSelected.picker.closed = false := rfl
  have here : ⟨.select, false⟩ ∈ (View.ofSnapshot folderSelected.picker.snapshot .standard).buttons :=
    List.mem_singleton_self _
  obtain ⟨item, chosen, fetches⟩ := (enabled_buttons_serve (acts_reached _) opened .standard).1 _ here rfl
  cases chosen
  exact ⟨opened, here, fetches⟩

end Sitting
end CourseFiles
