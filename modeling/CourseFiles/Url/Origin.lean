import CourseFiles.Url.Reading

namespace CourseFiles

inductive Origin
  | tuple (scheme : List Char) (host : Host) (port : Nat)
  | alone
deriving DecidableEq

namespace Origin

-- The scheme's own port is not written, and an origin that is not shared has no name.
def text : Origin → String
  | .tuple scheme host port =>
    String.ofList (scheme ++ "://".toList ++ host.text
      ++ (if Url.defaultPort? scheme = some port then [] else ':' :: Nat.toDigits 10 port))
  | .alone => "null"

def ofAuthority (u : Url) : Origin :=
  match Url.defaultPort? u.scheme, u.authority with
  | some port, some a =>
    match a.host with
    | some host => .tuple u.scheme host (a.port.getD port)
    | none => .alone
  | _, _ => .alone

-- The path of a blob is the URL of the page that made it, which may be a blob again.
def ofNested : Nat → Url → Origin
  | 0, _ => .alone
  | levels + 1, u =>
    if String.ofList u.scheme = "blob" then
      match Url.read (String.ofList (Url.pathText u.path)) with
      | .ok inner => ofNested levels inner
      | .error _ => .alone
    else ofAuthority u

end Origin

def Url.origin (u : Url) : Origin := Origin.ofNested u.chars.length u

end CourseFiles
