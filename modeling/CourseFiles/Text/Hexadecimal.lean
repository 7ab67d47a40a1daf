namespace CourseFiles
namespace Text

def hexDigits (b : UInt8) : List Char :=
  let digit (n : Nat) : Char := if n < 10 then Char.ofNat (48 + n) else Char.ofNat (87 + n)
  [digit (b.toNat / 16), digit (b.toNat % 16)]

-- The text of some bytes; ids are made of random ones.
def hexText (bytes : List UInt8) : String := String.ofList (bytes.flatMap hexDigits)

end Text
end CourseFiles
