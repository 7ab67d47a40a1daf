import CourseFiles.Json.Reader
import CourseFiles.Text.Utf8

namespace CourseFiles
namespace Reader

def hexValue? (b : UInt8) : Option Nat :=
  if 48 ≤ b && b ≤ 57 then some (b.toNat - 48)
  else if 97 ≤ b && b ≤ 102 then some (b.toNat - 87)
  else if 65 ≤ b && b ≤ 70 then some (b.toNat - 55)
  else none

def hexEscape : Reader Nat := do
  match (← place).rest with
  | a :: b :: c :: d :: _ =>
    advance 4
    match hexValue? a, hexValue? b, hexValue? c, hexValue? d with
    | some w, some x, some y, some z => return ((w * 16 + x) * 16 + y) * 16 + z
    | _, _, _, _ => fail .badEscape
  | rest =>
    advance rest.length
    fail .endInText

def isHighSurrogate (n : Nat) : Bool := 0xD800 ≤ n && n ≤ 0xDBFF
def isLowSurrogate (n : Nat) : Bool := 0xDC00 ≤ n && n ≤ 0xDFFF

def codePointBytes (n : Nat) : List UInt8 := String.utf8EncodeChar (Char.ofNat n)

-- What has to follow the first half of a surrogate pair.
def pairMark (c : Char) : Reader Unit := do
  match ← peek with
  | none => fail .endInText
  | some d =>
    advance
    if d = c then return () else fail .cutEscape

def numericEscape : Reader (List UInt8) := do
  let n ← hexEscape
  if isLowSurrogate n then fail .loneSurrogate
  else if isHighSurrogate n then do
    pairMark '\\'
    pairMark 'u'
    let m ← hexEscape
    if isLowSurrogate m then return codePointBytes ((n - 0xD800) * 0x400 + (m - 0xDC00) + 0x10000)
    else fail .loneSurrogate
  else return codePointBytes n

-- The byte that a one-letter escape stands for.
def plainEscape? : Char → Option UInt8
  | '"' => some 34
  | '\\' => some 92
  | '/' => some 47
  | 'b' => some 8
  | 'f' => some 12
  | 'n' => some 10
  | 'r' => some 13
  | 't' => some 9
  | _ => none

def escape : Reader (List UInt8) := do
  match ← next with
  | none => fail .endInText
  | some 'u' => numericEscape
  | some c =>
    match plainEscape? c with
    | some b => return [b]
    | none => fail .badEscape

def isPlain (b : UInt8) : Bool := 32 ≤ b && b != 34 && b != 92

-- `read` holds what was read so far, last byte first; every round takes at least one byte.
def quotedBytes : Nat → List UInt8 → Reader (List UInt8)
  | 0, _ => fail .endInText
  | rounds + 1, read => do
    let run := (← place).rest.takeWhile isPlain
    advance run.length
    let read := run.reverse ++ read
    match ← peek with
    | none => fail .endInText
    | some '"' => return read.reverse
    | some '\\' => do
      advance
      let bytes ← escape
      quotedBytes rounds (bytes.reverse ++ read)
    | some _ => do
      advance
      fail .controlCharacter

-- The text after an opening quotation mark, and its closing mark.
def quotation : Reader String := do
  let bytes ← quotedBytes ((← place).rest.length + 1) []
  match Utf8.text? bytes with
  | some s =>
    advance
    return s
  | none => fail .badEncoding

def skipEscape : Reader Unit := do
  match ← next with
  | none => fail .endInText
  | some 'u' => do
    let _ ← hexEscape
    return ()
  | some c => if (plainEscape? c).isSome then return () else fail .badEscape

def skipQuoted : Nat → Reader Unit
  | 0 => fail .endInText
  | rounds + 1 => do
    let run := (← place).rest.takeWhile isPlain
    advance run.length
    match ← peek with
    | none => fail .endInText
    | some '"' => advance
    | some '\\' => do
      advance
      skipEscape
      skipQuoted rounds
    | some _ => fail .controlCharacter

def skipQuotation : Reader Unit := do skipQuoted ((← place).rest.length + 1)

end Reader
end CourseFiles
