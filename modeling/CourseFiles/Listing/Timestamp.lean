namespace CourseFiles

structure Timestamp where
  year : Nat
  month : Nat
  day : Nat
  hour : Nat
  minute : Nat
  second : Nat
  nanos : Nat
  -- seconds east of Greenwich
  offset : Int
deriving DecidableEq

namespace Timestamp

def isLeapYear (y : Nat) : Bool := y % 4 == 0 && (y % 100 != 0 || y % 400 == 0)

def daysInMonth (y m : Nat) : Nat :=
  if m = 2 then (if isLeapYear y then 29 else 28)
  else if m = 4 || m = 6 || m = 9 || m = 11 then 30
  else 31

-- The leap years among the years before the given one, year 0 being one of them.
def leapYearsBefore (y : Nat) : Nat := (y + 3) / 4 - (y + 99) / 100 + (y + 399) / 400

-- Days from the first day of year 0.
def dayNumber (y m d : Nat) : Nat :=
  y * 365 + leapYearsBefore y + (List.range (m - 1)).foldl (fun n i => n + daysInMonth y (i + 1)) 0 + (d - 1)

-- Seconds since the first instant of 1970 in UTC; a leap second shares the second before it.
def unixSeconds (t : Timestamp) : Int :=
  (dayNumber t.year t.month t.day - dayNumber 1970 1 1 : Int) * 86400
    + (t.hour * 3600 + t.minute * 60 + t.second : Nat) - t.offset

def padded (width n : Nat) : List Char :=
  let digits := Nat.toDigits 10 n
  List.replicate (width - digits.length) '0' ++ digits

-- The date in the timestamp's own offset.
def dateText (t : Timestamp) : String :=
  String.ofList (padded 4 t.year ++ '-' :: padded 2 t.month ++ '-' :: padded 2 t.day)

-- The readers below take a part off the front of a text.

def digit? (c : Char) : Option Nat := if c.isDigit then some (c.toNat - 48) else none

def fixedNumber : Nat → Nat → List Char → Option (Nat × List Char)
  | 0, n, rest => some (n, rest)
  | _ + 1, _, [] => none
  | k + 1, n, c :: rest => (digit? c).bind fun d => fixedNumber k (n * 10 + d) rest

def number? (width : Nat) (s : List Char) : Option (Nat × List Char) := fixedNumber width 0 s

def mark? (accepted : Char → Bool) : List Char → Option (List Char)
  | [] => none
  | c :: rest => if accepted c then some rest else none

-- Nine digits count, more are passed over.
def fraction? (s : List Char) : Option (Nat × List Char) :=
  let run := s.takeWhile Char.isDigit
  let kept := (run.take 9).filterMap digit?
  if run.isEmpty then none
  else some (kept.foldl (fun n d => n * 10 + d) 0 * Nat.pow 10 (9 - kept.length), s.drop run.length)

def isSeparator (c : Char) : Bool := c = 'T' || c = 't' || c = ' '

-- The offset in seconds, less than a day.
def offset? : List Char → Option (Int × List Char)
  | [] => none
  | c :: rest =>
    if c = 'Z' || c = 'z' then some (0, rest)
    else if c = '+' || c = '-' || c = '\u2212' then do
      let (hours, rest) ← number? 2 rest
      let rest ← mark? (· = ':') rest
      let (minutes, rest) ← number? 2 rest
      if minutes < 60 ∧ hours < 24 then
        let seconds : Int := hours * 3600 + minutes * 60
        some (if c = '+' then seconds else -seconds, rest)
      else none
    else none

def ofChars? (s : List Char) : Option Timestamp := do
  let (year, s) ← number? 4 s
  let s ← mark? (· = '-') s
  let (month, s) ← number? 2 s
  let s ← mark? (· = '-') s
  let (day, s) ← number? 2 s
  let s ← mark? isSeparator s
  let (hour, s) ← number? 2 s
  let s ← mark? (· = ':') s
  let (minute, s) ← number? 2 s
  let s ← mark? (· = ':') s
  let (second, s) ← number? 2 s
  let (nanos, s) ←
    match s with
    | '.' :: rest => fraction? rest
    | _ => some (0, s)
  let (offset, s) ← offset? s
  if s.isEmpty ∧ 1 ≤ month ∧ month ≤ 12 ∧ 1 ≤ day ∧ day ≤ daysInMonth year month ∧ hour < 24
      ∧ minute < 60 ∧ second ≤ 60 then
    let leap := second = 60
    some { year, month, day, hour, minute, offset
           second := if leap then 59 else second
           nanos := if leap then nanos + 1000000000 else nanos }
  else none

def ofText? (s : String) : Option Timestamp := ofChars? s.toList

end Timestamp
end CourseFiles
