namespace CourseFiles
namespace Utf8

def encode (cs : List Char) : List UInt8 := cs.flatMap String.utf8EncodeChar

def bytes (s : String) : List UInt8 := encode s.toList

-- The bits that a continuation byte carries.
def tailBits (b : UInt8) : Nat := b.toNat - 0x80

-- How many bytes follow a first byte, the bits it carries, and the range of the second byte.
structure Lead where
  tails : Nat
  bits : Nat
  low : UInt8
  high : UInt8

def lead? (b : UInt8) : Option Lead :=
  if b < 0x80 then some ⟨0, b.toNat, 0x80, 0xBF⟩
  else if 0xC2 ≤ b && b ≤ 0xDF then some ⟨1, b.toNat - 0xC0, 0x80, 0xBF⟩
  else if b == 0xE0 then some ⟨2, 0, 0xA0, 0xBF⟩
  else if b == 0xED then some ⟨2, 0xD, 0x80, 0x9F⟩
  else if 0xE1 ≤ b && b ≤ 0xEF then some ⟨2, b.toNat - 0xE0, 0x80, 0xBF⟩
  else if b == 0xF0 then some ⟨3, 0, 0x90, 0xBF⟩
  else if 0xF1 ≤ b && b ≤ 0xF3 then some ⟨3, b.toNat - 0xF0, 0x80, 0xBF⟩
  else if b == 0xF4 then some ⟨3, 4, 0x80, 0x8F⟩
  else none

-- Takes the tails of a character: the code point, or none, with what is left. An ill-formed part ends
-- before the byte that does not fit.
def takeTails : Nat → Nat → UInt8 → UInt8 → List UInt8 → Option Nat × List UInt8
  | 0, bits, _, _, rest => (some bits, rest)
  | _ + 1, _, _, _, [] => (none, [])
  | n + 1, bits, low, high, b :: rest =>
    if low ≤ b && b ≤ high then takeTails n (bits * 64 + tailBits b) 0x80 0xBF rest
    else (none, b :: rest)

theorem takeTails_length (n bits : Nat) (low high : UInt8) (rest : List UInt8) :
    (takeTails n bits low high rest).2.length ≤ rest.length := by
  fun_induction takeTails n bits low high rest with
  | case1 | case2 | case4 => simp
  | case3 _ _ _ _ _ rest _ ih => exact Nat.le_succ_of_le ih

-- The first character of some bytes, none when they start ill-formed, and the bytes after it.
def next (b : UInt8) (rest : List UInt8) : Option Char × List UInt8 :=
  match lead? b with
  | none => (none, rest)
  | some l =>
    let taken := takeTails l.tails l.bits l.low l.high rest
    (taken.1.map Char.ofNat, taken.2)

theorem next_length (b : UInt8) (rest : List UInt8) : (next b rest).2.length ≤ rest.length := by
  unfold next
  split
  · simp
  · exact takeTails_length _ _ _ _ _

-- The text of some bytes, none when any part is ill-formed.
def decode? : List UInt8 → Option (List Char)
  | [] => some []
  | b :: rest =>
    match _taken : next b rest with
    | (none, _) => none
    | (some c, left) => (decode? left).map (c :: ·)
termination_by bs => bs.length
decreasing_by
  have shorter := next_length b rest
  rw [_taken] at shorter
  exact Nat.lt_succ_of_le shorter

def replacement : Char := '\uFFFD'

-- The text of some bytes, each ill-formed part as one replacement character.
def decodeLossy : List UInt8 → List Char
  | [] => []
  | b :: rest => (next b rest).1.getD replacement :: decodeLossy (next b rest).2
termination_by bs => bs.length
decreasing_by exact Nat.lt_succ_of_le (next_length b rest)

def text? (bs : List UInt8) : Option String := (decode? bs).map String.ofList

end Utf8
end CourseFiles
