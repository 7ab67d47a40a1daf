import CourseFiles.Listing.Item
import CourseFiles.Listing.Failure
import CourseFiles.Url.Reading

namespace CourseFiles

structure ServiceCall where
  token : String
  path : String
  params : List (String × String)
  data : Option Json

structure ServiceRequest where
  method : String
  url : Url
  authorization : List String
  contentType : Option String
  body : List UInt8

-- What becomes of a request. A reply that was cut off is not complete.
inductive ServerAnswer
  | unreachable
  | dropped
  | reply (status : Nat) (body : List UInt8) (complete : Bool)

namespace Service

def resolve (base : Url) (path : String) (params : List (String × String)) : Except ListingError Url :=
  match Url.resolve (some base) path with
  | .error e => .error (.transport ("Invalid API path " ++ path ++ ": " ++ e.shown))
  | .ok u => .ok (if params.isEmpty then u else u.appendPairs params)

-- What a header may hold: no control characters, but tabs.
def isHeaderChar (c : Char) : Bool := c = '\t' || (32 ≤ c.toNat && c.toNat ≠ 127)

def decoded (s : List Char) : Option (List Char) := Utf8.decode? (Percent.decode (Utf8.encode s))

-- The user and the password that a URL holds, in plain text.
def credentials? (u : Url) : Option (List Char × Option (List Char)) := do
  let a ← u.authority
  let user ← decoded a.username
  let password := a.password.bind decoded
  if user.isEmpty && password.isNone then none else some (user, password)

-- Credentials go into a header and not into the URL.
def withoutCredentials (u : Url) : Url :=
  if (credentials? u).isSome then
    { u with authority := u.authority.map fun a => { a with username := [], password := none } }
  else u

def base64Digit (n : Nat) : Char :=
  if n < 26 then Char.ofNat (65 + n)
  else if n < 52 then Char.ofNat (71 + n)
  else if n < 62 then Char.ofNat (n - 4)
  else if n = 62 then '+'
  else '/'

def base64 : List UInt8 → List Char
  | [] => []
  | [a] => [base64Digit (a.toNat / 4), base64Digit (a.toNat % 4 * 16), '=', '=']
  | [a, b] =>
    [base64Digit (a.toNat / 4), base64Digit (a.toNat % 4 * 16 + b.toNat / 16),
      base64Digit (b.toNat % 16 * 4), '=']
  | a :: b :: c :: rest =>
    base64Digit (a.toNat / 4) :: base64Digit (a.toNat % 4 * 16 + b.toNat / 16)
      :: base64Digit (b.toNat % 16 * 4 + c.toNat / 64) :: base64Digit (c.toNat % 64) :: base64 rest

def basic (user : List Char) (password : Option (List Char)) : String :=
  "Basic " ++ String.ofList (base64 (Utf8.encode (user ++ ':' :: password.getD [])))

def forUrl (u : Url) (reason : String) : ListingError := .transport (reason ++ " for url (" ++ u.text ++ ")")

def longestUrl : Nat := 65534

def isForbiddenHost (c : Char) : Bool := c = '"' || c.toNat = 96 || c = '\x7b' || c = '\x7d'

def isReachable (u : Url) : Bool :=
  let host := ((u.authority.bind (·.host)).map Host.text).getD []
  ["http", "https"].contains (String.ofList u.scheme) && u.chars.length ≤ longestUrl
    && !host.any isForbiddenHost

def contentType : String := "application/json; charset=UTF-8"

-- The request of a call; one with data sends them.
def request (base : Url) (call : ServiceCall) : Except ListingError ServiceRequest := do
  let full ← resolve base call.path call.params
  let url := withoutCredentials full
  if !call.token.toList.all isHeaderChar then throw (.transport "builder error")
  if !isReachable url then throw (forUrl url "builder error")
  return {
    method := if call.data.isSome then "POST" else "GET"
    url
    authorization := ((credentials? full).map fun c => basic c.1 c.2).toList ++ [call.token]
    contentType := call.data.map fun _ => contentType
    body := (call.data.map fun j => Utf8.encode j.compact).getD [] }

def undecodable : ListingError := .transport "error decoding response body"

def isSuccess (status : Nat) : Bool := 200 ≤ status && status < 300

-- Replies that have no body, whatever was announced.
def hasBody (status : Nat) : Bool := status ≠ 204 && status ≠ 304

-- What an answer means: a value, the service's error, or a failure on the way.
def judge (r : ServiceRequest) : ServerAnswer → Except ListingError Json
  | .unreachable => .error (forUrl r.url "error sending request")
  | .dropped => .error (forUrl r.url "error sending request")
  | .reply _ _ false => .error undecodable
  | .reply status body true =>
    let body := if hasBody status then body else []
    if isSuccess status then (Json.read body).mapError fun _ => undecodable
    else
      match ErrorBody.decoder.readText body with
      | .ok b => .error (.api (b.toError status))
      | .error _ => .error undecodable

def call (base : Url) (server : ServiceRequest → ServerAnswer) (c : ServiceCall) :
    Except ListingError Json := do
  let r ← request base c
  judge r (server r)

def listing (j : Json) : Except ListingError Listing :=
  (Listing.decoder.ofJson j).mapError fun m => .transport ("Unexpected listing response: " ++ m.message)

def listFiles (base : Url) (server : ServiceRequest → ServerAnswer) (token path : String)
    (params : List (String × String)) : Except ListingError Listing :=
  call base server ⟨token, path, params, none⟩ >>= listing

end Service
end CourseFiles
