import CourseFiles.Json.Record
import CourseFiles.Json.Compact
import CourseFiles.Text.Blank

namespace CourseFiles

structure ApiError where
  status : Option Nat
  message : Option String
  code : Option String
  details : Option Json

namespace ApiError

-- The service's message without the blanks around it, unless nothing is left.
def serverMessage (e : ApiError) : Option String :=
  (e.message.map Text.trimmed).filter fun s => !s.isEmpty

def shown (e : ApiError) : String := e.serverMessage.getD "API call failed"

def sameDetails : Option Json → Option Json → Bool
  | none, none => true
  | some a, some b => a.same b
  | _, _ => false

def same (a b : ApiError) : Bool :=
  a.status == b.status && a.message == b.message && a.code == b.code
    && sameDetails a.details b.details

instance : BEq ApiError := ⟨same⟩

end ApiError

inductive ListingError
  | api (e : ApiError)
  | transport (reason : String)

namespace ListingError

def shown : ListingError → String
  | .api e => e.shown
  | .transport reason => reason

def requiresAuthorization : ListingError → Bool
  | .api e => e.serverMessage.isNone
  | .transport _ => false

def detailsShown : Option Json → String
  | none => ""
  | some .null => ""
  | some j => ": " ++ j.compactText

-- The longer text, with the code and the details.
def detail : ListingError → String
  | .api e =>
    e.shown ++ (e.code.elim "" fun c => " (" ++ c ++ ")") ++ detailsShown e.details
  | .transport reason => reason

end ListingError

structure ErrorBody where
  message : Option String
  details : Option Json
  code : Option String

namespace ErrorBody

def record : Record ErrorBody :=
  { name := "ErrorBody"
    blank := ⟨none, none, none⟩
    members :=
      [ .of "message" .optional (.option .text) fun s b => { b with message := s },
        .of "details" .optional (.option .json) fun j b => { b with details := j },
        .of "error_code" .optional (.option .text) fun s b => { b with code := s } ] }

def decoder : Decoder ErrorBody := record.decoder

def toError (b : ErrorBody) (status : Nat) : ApiError := ⟨some status, b.message, b.code, b.details⟩

end ErrorBody
end CourseFiles
