import CourseFiles.Json.Basic
import CourseFiles.Text.Quoted

namespace CourseFiles

inductive Found
  | null
  | bool (b : Bool)
  | whole (n : Int)
  | float (x : Binary64)
  | text (s : String)
  | list
  | object
deriving DecidableEq

def Found.ofNumber : Number → Found
  | .whole n => .whole n
  | .float x => .float x

def Found.ofJson : Json → Found
  | .null => .null
  | .bool b => .bool b
  | .number n => .ofNumber n
  | .text s => .text s
  | .list _ => .list
  | .object _ => .object

def Found.wording : Found → String
  | .null => "null"
  | .bool b => "boolean `" ++ (if b then "true" else "false") ++ "`"
  | .whole n => "integer `" ++ toString n ++ "`"
  | .float x => "floating point `" ++ String.ofList x.text ++ "`"
  | .text s => "string " ++ Text.quoted s
  | .list => "sequence"
  | .object => "map"

inductive Mismatch
  | wrongKind (found : Found) (expected : String)
  | wrongValue (found : Found) (expected : String)
  | wrongLength (length : Nat) (expected : String)
  | unknownVariant (name : String) (variants : List String)
  | missingMember (name : String)
  | repeatedMember (name : String)
  | noVariant (type : String)
  | refused (reason : String)
deriving DecidableEq

-- One name alone, two joined by "or", more after "one of".
def alternatives : List String → String
  | [] => "there are no variants"
  | [a] => "expected `" ++ a ++ "`"
  | [a, b] => "expected `" ++ a ++ "` or `" ++ b ++ "`"
  | names => "expected one of " ++ ", ".intercalate (names.map fun n => "`" ++ n ++ "`")

def Mismatch.message : Mismatch → String
  | .wrongKind found expected => "invalid type: " ++ found.wording ++ ", expected " ++ expected
  | .wrongValue found expected => "invalid value: " ++ found.wording ++ ", expected " ++ expected
  | .wrongLength n expected => "invalid length " ++ toString n ++ ", expected " ++ expected
  | .unknownVariant name variants => "unknown variant `" ++ name ++ "`, " ++ alternatives variants
  | .missingMember name => "missing field `" ++ name ++ "`"
  | .repeatedMember name => "duplicate field `" ++ name ++ "`"
  | .noVariant type => "data did not match any variant of untagged enum " ++ type
  | .refused reason => reason

end CourseFiles
