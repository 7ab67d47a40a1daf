import CourseFiles.Url.Form

namespace CourseFiles
namespace Address

def digitBelow (base : Nat) (c : Char) : Option Nat :=
  let v :=
    if c.isDigit then c.toNat - 48
    else if 'a' ≤ c && c ≤ 'f' then c.toNat - 87
    else if 'A' ≤ c && c ≤ 'F' then c.toNat - 55
    else base
  if v < base then some v else none

-- The number that the digits write, none if one of them is no digit of the base.
def digits? (base : Nat) (s : List Char) : Option Nat :=
  s.foldlM (fun n c => (digitBelow base c).map fun d => n * base + d) 0

-- A part of a four byte address: hexadecimal, octal or decimal.
def part? : List Char → Option Nat
  | [] => none
  | '0' :: 'x' :: rest => digits? 16 rest
  | '0' :: 'X' :: rest => digits? 16 rest
  | '0' :: c :: rest => digits? 8 (c :: rest)
  | s => digits? 10 s

-- A dot at the end does not start another part.
def parts (s : List Char) : List (List Char) :=
  let all := Form.split '.' s
  if all.getLast? = some [] && 1 < all.length then all.dropLast else all

-- Whether a name has to be read as an address: its last part is a number.
def endsInNumber (s : List Char) : Bool :=
  match (parts s).getLast? with
  | none => false
  | some last => (!last.isEmpty && last.all Char.isDigit) || (part? last).isSome

-- The last part stands for all the bytes that the others leave.
def version4? (s : List Char) : Option Nat := do
  let numbers ← (parts s).mapM part?
  let last ← numbers.getLast?
  let bytes := numbers.dropLast
  if 3 < bytes.length then none
  else if bytes.any (255 < ·) then none
  else
    let room := 4 - bytes.length
    if Nat.pow 256 room ≤ last then none
    else some (bytes.foldl (fun n b => n * 256 + b) 0 * Nat.pow 256 room + last)

def version4Text (n : Nat) : List Char :=
  let byte (i : Nat) : List Char := Nat.toDigits 10 (n / Nat.pow 256 i % 256)
  byte 3 ++ '.' :: byte 2 ++ '.' :: byte 1 ++ '.' :: byte 0

-- A byte at the end of an address of eight groups: no leading zero.
def tailByte? : List Char → Option Nat
  | [] => none
  | '0' :: _ :: _ => none
  | s => (digits? 10 s).filter (· ≤ 255)

-- Four bytes that fill the last two groups.
def tail? (s : List Char) : Option (List Nat) := do
  match ← (Form.split '.' s).mapM tailByte? with
  | [a, b, c, d] => some [a * 256 + b, c * 256 + d]
  | _ => none

-- Groups between colons; the last may be written as four bytes.
def groups? : List (List Char) → Option (List Nat)
  | [] => some []
  | [last] =>
    if last.contains '.' then tail? last
    else if last.isEmpty || 4 < last.length then none
    else (digits? 16 last).map fun n => [n]
  | s :: rest => do
    if s.isEmpty || 4 < s.length then none
    else
      let n ← digits? 16 s
      (n :: ·) <$> groups? rest

-- Splits at the first double colon.
def gap? : List Char → Option (List Char × List Char)
  | ':' :: ':' :: rest => some ([], rest)
  | c :: rest => (gap? rest).map fun (before, after) => (c :: before, after)
  | [] => none

def side? (s : List Char) : Option (List Nat) := if s.isEmpty then some [] else groups? (Form.split ':' s)

-- The eight groups. The double colon stands for at least one of them, and only the last group of all may
-- be written as bytes.
def version6? (s : List Char) : Option (List Nat) :=
  match gap? s with
  | none => (side? s).filter (·.length = 8)
  | some (before, after) => do
    let front ← if before.contains '.' then none else side? before
    let back ← side? after
    if front.length + back.length < 8 then
      some (front ++ List.replicate (8 - front.length - back.length) 0 ++ back)
    else none

-- Where the first of the longest runs of at least two zero groups starts, and how long it is.
def longestGap (groups : List Nat) : Option (Nat × Nat) :=
  let run (i : Nat) : Nat := ((groups.drop i).takeWhile (· == 0)).length
  let best := (List.range groups.length).foldl (fun best i => if run best < run i then i else best) 0
  if 2 ≤ run best then some (best, run best) else none

def joinGroups (groups : List Nat) : List Char := [':'].intercalate (groups.map (Nat.toDigits 16))

def version6Text (groups : List Nat) : List Char :=
  match longestGap groups with
  | none => joinGroups groups
  | some (start, count) =>
    joinGroups (groups.take start) ++ ':' :: ':' :: joinGroups (groups.drop (start + count))

end Address
end CourseFiles
