import CourseFiles.Proofs.Service.ErrorBodies
import CourseFiles.Service.Client
import Mathlib.Data.List.Forall2
import Mathlib.Data.List.TakeWhile

namespace CourseFiles

-- No message, or a blank one.
def ApiError.Silent (e : ApiError) : Prop := ∀ s, e.message = some s → ∀ c ∈ s.toList, Text.isBlank c = true

theorem Text.dropped_blank {l : List Char} : (∀ c ∈ l.dropWhile p, p c = true) ↔ ∀ c ∈ l, p c = true := by
  constructor
  · intro blank
    apply List.dropWhile_eq_nil_iff.mp
    cases rest : l.dropWhile p with
    | nil => rfl
    | cons c cs =>
      have some : 0 < (l.dropWhile p).length := by simp [rest]
      exact absurd (blank _ (List.get_mem _ ⟨0, some⟩)) (List.dropWhile_get_zero_not p l some)
  · intro blank c here
    exact blank c ((List.dropWhile_sublist p).subset here)

theorem Text.trimmed_empty {s : String} : (Text.trimmed s).isEmpty = true ↔ ∀ c ∈ s.toList, Text.isBlank c = true := by
  rw [← dropped_blank, trimmed]
  simp [String.isEmpty_iff]

theorem ListingError.requires_silent {e : ApiError} :
    (ListingError.api e).requiresAuthorization = true ↔ e.Silent := by
  rw [requiresAuthorization, ApiError.serverMessage, ApiError.Silent]
  cases e.message with
  | none => simp
  | some s => simp [← Text.trimmed_empty]

namespace Service

variable {base : Url} {server : ServiceRequest → ServerAnswer} {c : ServiceCall}

-- What a reply hands over of its body.
def received (status : Nat) (body : List UInt8) : List UInt8 := if hasBody status then body else []

-- The request of a call was sent and answered, and the reply came whole.
def Replied (base : Url) (server : ServiceRequest → ServerAnswer) (c : ServiceCall) (status : Nat)
    (body : List UInt8) : Prop :=
  ∃ r, request base c = .ok r ∧ server r = .reply status body true

theorem Replied.unique (one : Replied base server c status body) (other : Replied base server c status' body') :
    status = status' ∧ body = body' := by
  obtain ⟨r, sent, replied⟩ := one
  obtain ⟨r', sent', replied'⟩ := other
  cases sent.symm.trans sent'
  cases replied.symm.trans replied'
  exact ⟨rfl, rfl⟩

-- A failure on the way, as opposed to an error of the service.
def Lost : Except ListingError α → Prop
  | .error (.transport _) => True
  | _ => False

theorem resolve_lost (failed : resolve base path params = .error e) : ∃ reason, e = .transport reason := by
  unfold resolve at failed
  split at failed
  · cases failed
    exact ⟨_, rfl⟩
  · cases failed

theorem request_lost (failed : request base c = .error e) : ∃ reason, e = .transport reason := by
  unfold request at failed
  cases resolved : resolve base c.path c.params with
  | error e' =>
    rw [resolved] at failed
    cases failed
    exact resolve_lost resolved
  | ok full =>
    rw [resolved] at failed
    simp only [Bind.bind, Except.bind] at failed
    split at failed
    · cases failed
      exact ⟨_, rfl⟩
    · split at failed
      · cases failed
        exact ⟨_, rfl⟩
      · cases failed

theorem judge_reply : judge r (.reply status body true) =
    if isSuccess status then (Json.read (received status body)).mapError fun _ => undecodable
    else
      match ErrorBody.decoder.readText (received status body) with
      | .ok b => .error (.api (b.toError status))
      | .error _ => .error undecodable := rfl

-- Only a reply that came whole gives a value or an error of the service.
theorem judge_whole (judged : ¬ Lost (judge r answer)) : ∃ status body, answer = .reply status body true := by
  cases answer with
  | unreachable => exact absurd trivial judged
  | dropped => exact absurd trivial judged
  | reply status body complete =>
    cases complete with
    | false => exact absurd trivial judged
    | true => exact ⟨status, body, rfl⟩

theorem mapError_ok {x : Except ε α} {f : ε → ε'} : x.mapError f = .ok a ↔ x = .ok a := by
  cases x <;> simp [Except.mapError]

theorem isOk_iff {x : Except ε α} : x.isOk = true ↔ ∃ a, x = .ok a := by
  cases x <;> simp [Except.isOk, Except.toBool]

theorem judge_ok : judge r answer = .ok j ↔ ∃ status body, answer = .reply status body true ∧
    isSuccess status = true ∧ Json.read (received status body) = .ok j := by
  constructor
  · intro judged
    obtain ⟨status, body, rfl⟩ := judge_whole (by rw [judged]; exact id)
    refine ⟨status, body, rfl, ?_⟩
    rw [judge_reply] at judged
    split at judged
    · rename_i success
      exact ⟨success, mapError_ok.mp judged⟩
    · split at judged <;> cases judged
  · intro replied
    obtain ⟨status, body, rfl, success, read⟩ := replied
    rw [judge_reply, if_pos success]
    exact mapError_ok.mpr read

theorem judge_api : judge r answer = .error (.api e) ↔ ∃ status body, answer = .reply status body true ∧
    isSuccess status = false ∧ e.status = some status ∧
    ErrorBody.Spelled (received status body) ⟨e.message, e.details, e.code⟩ := by
  constructor
  · intro judged
    obtain ⟨status, body, rfl⟩ := judge_whole (by rw [judged]; exact id)
    refine ⟨status, body, rfl, ?_⟩
    rw [judge_reply] at judged
    split at judged
    · cases read : Json.read (received status body) <;> rw [read] at judged <;> cases judged
    · rename_i failure
      split at judged
      · rename_i b read
        cases judged
        exact ⟨Bool.eq_false_iff.mpr failure, rfl, ErrorBody.readText_spelled.mp read⟩
      · cases judged
  · intro replied
    obtain ⟨status, body, rfl, failure, own, spelled⟩ := replied
    rw [judge_reply, failure, ErrorBody.readText_spelled.mpr spelled]
    obtain ⟨status', message, code, details⟩ := e
    cases own
    rfl

theorem mapM_ok {f : α → Except ε β} : as.mapM f = .ok bs ↔ List.Forall₂ (fun a b => f a = .ok b) as bs := by
  induction as generalizing bs with
  | nil =>
    rw [List.forall₂_nil_left_iff]
    exact ⟨fun same => (Except.ok.inj same).symm, fun same => congrArg Except.ok same.symm⟩
  | cons a as ih =>
    rw [List.mapM_cons, bind_ok, List.forall₂_cons_left_iff]
    constructor
    · intro mapped
      obtain ⟨b, first, mapped⟩ := mapped
      obtain ⟨rest, others, same⟩ := bind_ok.mp mapped
      cases same
      exact ⟨b, rest, first, ih.mp others, rfl⟩
    · intro related
      obtain ⟨b, rest, first, related, rfl⟩ := related
      exact ⟨b, first, bind_ok.mpr ⟨rest, ih.mpr related, rfl⟩⟩

theorem listing_ok : listing j = .ok items ↔
    ∃ js, j = .list js ∧ List.Forall₂ (fun j i => Item.decoder.ofJson j = .ok i) js items := by
  unfold listing
  rw [mapError_ok]
  constructor
  · intro decoded
    cases j with
    | list js => exact ⟨js, rfl, mapM_ok.mp decoded⟩
    | _ => cases decoded
  · intro listed
    obtain ⟨js, rfl, items⟩ := listed
    exact mapM_ok.mpr items

theorem listing_lost (failed : listing j = .error e) : ∃ reason, e = .transport reason := by
  unfold listing at failed
  cases decoded : Listing.decoder.ofJson j <;> rw [decoded] at failed <;> cases failed
  exact ⟨_, rfl⟩

theorem listFiles_ok : listFiles base server token path params = .ok items ↔
    ∃ status body js, Replied base server ⟨token, path, params, none⟩ status body ∧ isSuccess status = true ∧
      Json.read (received status body) = .ok (.list js) ∧
      List.Forall₂ (fun j i => Item.decoder.ofJson j = .ok i) js items := by
  simp only [listFiles, call, bind_ok, judge_ok, listing_ok]
  constructor
  · intro listed
    obtain ⟨_, ⟨r, sent, status, body, replied, success, read⟩, js, rfl, items⟩ := listed
    exact ⟨status, body, js, ⟨r, sent, replied⟩, success, read, items⟩
  · intro listed
    obtain ⟨status, body, js, ⟨r, sent, replied⟩, success, read, items⟩ := listed
    exact ⟨_, ⟨r, sent, status, body, replied, success, read⟩, js, rfl, items⟩

theorem bind_failed {x : Except ε α} {f : α → Except ε β} :
    x >>= f = .error e ↔ x = .error e ∨ ∃ a, x = .ok a ∧ f a = .error e := by
  cases x <;> simp [Bind.bind, Except.bind]

theorem listFiles_api : listFiles base server token path params = .error (.api e) ↔
    ∃ status body, Replied base server ⟨token, path, params, none⟩ status body ∧ isSuccess status = false ∧
      e.status = some status ∧ ErrorBody.Spelled (received status body) ⟨e.message, e.details, e.code⟩ := by
  simp only [listFiles, call, bind_failed, judge_api]
  constructor
  · intro failed
    rcases failed with (unsent | ⟨r, sent, status, body, replied, failure, spelled⟩) | ⟨_, _, undecoded⟩
    · obtain ⟨_, same⟩ := request_lost unsent
      cases same
    · exact ⟨status, body, ⟨r, sent, replied⟩, failure, spelled⟩
    · obtain ⟨_, same⟩ := listing_lost undecoded
      cases same
  · intro replied
    obtain ⟨status, body, ⟨r, sent, replied⟩, failure, spelled⟩ := replied
    exact .inl (.inr ⟨r, sent, status, body, replied, failure, spelled⟩)

theorem isSuccess_iff {status : Nat} : isSuccess status = true ↔ 200 ≤ status ∧ status < 300 := by
  simp [isSuccess]

-- What a listing gives, told from the replies that its request can have got.
structure Decides (replied : Nat → List UInt8 → Prop) (result : Except ListingError Listing) : Prop where
  listed : ∀ items, result = .ok items ↔ ∃ status body js, replied status body ∧ (200 ≤ status ∧ status < 300) ∧
    Json.read (received status body) = .ok (.list js) ∧
    List.Forall₂ (fun j i => Item.decoder.ofJson j = .ok i) js items
  refused : ∀ e, result = .error (.api e) ↔ ∃ status body, replied status body ∧ ¬ (200 ≤ status ∧ status < 300) ∧
    e.status = some status ∧ ErrorBody.Spelled (received status body) ⟨e.message, e.details, e.code⟩
  told : ∀ e status body os, result = .error (.api e) → replied status body →
    Json.read (received status body) = .ok (.object os) → ErrorBody.Tells ⟨e.message, e.details, e.code⟩
      (ErrorBody.told os "message") (ErrorBody.told os "details") (ErrorBody.told os "error_code")
  lost : (∀ items, result ≠ .ok items) → (∀ e, result ≠ .error (.api e)) → ∃ reason, result = .error (.transport reason)

theorem reply_decides :
    Decides (Replied base server ⟨token, path, params, none⟩) (listFiles base server token path params) := by
  constructor
  · intro items
    simp only [listFiles_ok, isSuccess_iff]
  · intro e
    simp only [listFiles_api, ← isSuccess_iff, Bool.not_eq_true]
  · intro e status body os failed replied read
    obtain ⟨status', body', replied', _, _, spelled⟩ := listFiles_api.mp failed
    obtain ⟨rfl, rfl⟩ := replied.unique replied'
    exact spelled.object read
  · intro notListed notRefused
    cases result : listFiles base server token path params with
    | ok items => exact absurd result (notListed items)
    | error e =>
      cases e with
      | api e => exact absurd result (notRefused e)
      | transport reason => exact ⟨reason, rfl⟩

end Service
end CourseFiles
