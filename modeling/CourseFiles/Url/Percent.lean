import CourseFiles.Text.Utf8

namespace CourseFiles
namespace Percent

def digit (n : Nat) : Char := if n < 10 then Char.ofNat (48 + n) else Char.ofNat (55 + n)

def escape (b : UInt8) : List Char := ['%', digit (b.toNat / 16), digit (b.toNat % 16)]

def value? (b : UInt8) : Option UInt8 :=
  if 48 ≤ b && b ≤ 57 then some (b - 48)
  else if 65 ≤ b && b ≤ 70 then some (b - 55)
  else if 97 ≤ b && b ≤ 102 then some (b - 87)
  else none

def encodeChar (escaped : Char → Bool) (c : Char) : List Char :=
  if c.toNat < 128 && !escaped c then [c] else (Utf8.encode [c]).flatMap escape

def encode (escaped : Char → Bool) (s : List Char) : List Char := s.flatMap (encodeChar escaped)

-- An escape that is cut off or has other digits stands for itself.
def decode : List UInt8 → List UInt8
  | [] => []
  | 37 :: a :: b :: rest =>
    match value? a, value? b with
    | some x, some y => (x * 16 + y) :: decode rest
    | _, _ => 37 :: decode (a :: b :: rest)
  | b :: rest => b :: decode rest
termination_by s => s.length

def inControls (c : Char) : Bool := c.toNat < 32 || c.toNat = 127

def inFragment (c : Char) : Bool := inControls c || c = ' ' || c = '"' || c = '<' || c = '>' || c.toNat = 96

def inQuery (c : Char) : Bool := inControls c || c = ' ' || c = '"' || c = '#' || c = '<' || c = '>'

def inSpecialQuery (c : Char) : Bool := inQuery c || c = '\''

def inPath (c : Char) : Bool := inFragment c || c = '#' || c = '?' || c = '\x7b' || c = '\x7d'

def inUserInfo (c : Char) : Bool :=
  inPath c || c = '/' || c = ':' || c = ';' || c = '=' || c = '@' || c = '[' || c = '\\' || c = ']'
    || c = '^' || c = '|'

end Percent
end CourseFiles
