import PromptBook.Text.Blank
import PromptBook.Text.Digits

/-!
# Timestamps

A timestamp is a moment in universal time, kept as its calendar fields.  It is written as RFC 3339
asks, with the fewest of 0, 3, 6 or 9 digits of a second that are exact.

Reading is more lenient than writing: fields may have fewer digits, spaces may stand between them,
the date and the time may be parted by a space, and the offset may be missing its colon or its
minutes.
-/

namespace PromptBook

/-- A moment in universal time.  A second of 60 is a leap second. -/
structure Timestamp where
  year : Int
  month : Nat
  day : Nat
  hour : Nat
  minute : Nat
  second : Nat
  nanosecond : Nat
  deriving DecidableEq, Inhabited

namespace Timestamp

/-- The beginning of the year 1970. -/
def epoch : Timestamp := ⟨1970, 1, 1, 0, 0, 0, 0⟩

section Writing

/-- A number with zeros before it up to a number of places. -/
def padded (places n : Nat) : List Char :=
  let ds := Nat.toDigits 10 n
  List.replicate (places - ds.length) '0' ++ ds

/-- A year: four places, and a sign if it is before the year 0 or after 9999. -/
def writeYear (year : Int) : List Char :=
  if 0 ≤ year ∧ year ≤ 9999 then padded 4 year.toNat
  else (if year < 0 then '-' else '+') :: padded 4 year.natAbs

/-- The fraction of a second. -/
def writeFraction (n : Nat) : List Char :=
  if n = 0 then []
  else if n % 1000000 = 0 then '.' :: padded 3 (n / 1000000)
  else if n % 1000 = 0 then '.' :: padded 6 (n / 1000)
  else '.' :: padded 9 n

/-- The date in digits alone. -/
def date (t : Timestamp) : List Char :=
  writeYear t.year ++ padded 2 t.month ++ padded 2 t.day

/-- The time of day in digits alone, to the second. -/
def clock (t : Timestamp) : List Char :=
  padded 2 t.hour ++ padded 2 t.minute ++ padded 2 t.second

/-- The written form. -/
def write (t : Timestamp) : String :=
  String.ofList (writeYear t.year ++ '-' :: padded 2 t.month ++ '-' :: padded 2 t.day
    ++ 'T' :: padded 2 t.hour ++ ':' :: padded 2 t.minute ++ ':' :: padded 2 t.second
    ++ writeFraction t.nanosecond ++ ['Z'])

end Writing

section Calendar

/-- Whether a year has 366 days. -/
def isLeap (year : Int) : Bool :=
  year % 4 == 0 && (year % 100 != 0 || year % 400 == 0)

/-- The number of days of a month. -/
def daysIn (year : Int) (month : Nat) : Nat :=
  if month = 2 then (if isLeap year then 29 else 28)
  else if month = 4 ∨ month = 6 ∨ month = 9 ∨ month = 11 then 30
  else 31

/-- The first and the last year of the calendar. -/
def firstYear : Int := -262143

/-- The last year of the calendar. -/
def lastYear : Int := 262142

/-- The beginning of a day that comes a number of days after the first of January 1970.  Counted from
the first of March of a year that 400 divides, 400 years have 146097 days, 4 years of them 1461, and
five months from March on 153. -/
def ofDays (days : Int) : Timestamp :=
  let shifted := days + 719468
  let cycle := shifted / 146097
  let day := (shifted % 146097).toNat
  let year := (day - day / 1460 + day / 36524 - day / 146096) / 365
  let day := day - (365 * year + year / 4 - year / 100)
  let month := (5 * day + 2) / 153
  let first : Timestamp := {
    epoch with
    year := cycle * 400 + year
    day := day - (153 * month + 2) / 5 + 1 }
  if month < 10 then { first with month := month + 3 }
  else { first with year := first.year + 1, month := month - 9 }

/-- The moment that comes a number of seconds after the beginning of the year 1970. -/
def ofSeconds (seconds : Int) : Timestamp :=
  let clock := (seconds % 86400).toNat
  { ofDays (seconds / 86400) with
    hour := clock / 3600
    minute := clock / 60 % 60
    second := clock % 60 }

/-- The day after a day. -/
def nextDay (t : Timestamp) : Timestamp :=
  if t.day < daysIn t.year t.month then { t with day := t.day + 1 }
  else if t.month < 12 then { t with month := t.month + 1, day := 1 }
  else { t with year := t.year + 1, month := 1, day := 1 }

/-- The day before a day. -/
def previousDay (t : Timestamp) : Timestamp :=
  if 1 < t.day then { t with day := t.day - 1 }
  else if 1 < t.month then { t with month := t.month - 1, day := daysIn t.year (t.month - 1) }
  else { t with year := t.year - 1, month := 12, day := 31 }

/-- The moment that a local time at an offset of some minutes stands for. -/
def universal (t : Timestamp) (offset : Int) : Timestamp :=
  let minutes : Int := t.hour * 60 + t.minute - offset
  let clock := (minutes % 1440).toNat
  let moved := { t with hour := clock / 60, minute := clock % 60 }
  if minutes < 0 then moved.previousDay
  else if 1440 ≤ minutes then moved.nextDay
  else moved

end Calendar

section Reading

/-- Why a text is no timestamp. -/
inductive Error
  | outOfRange
  | impossible
  | invalid
  | tooShort
  | tooLong
  deriving DecidableEq

namespace Error

/-- The cause in words. -/
def message : Error → String
  | outOfRange => "input is out of range"
  | impossible => "no possible date and time matching input"
  | invalid => "input contains invalid characters"
  | tooShort => "premature end of input"
  | tooLong => "trailing input"

end Error

/-- A number of one digit up to a number of them. -/
def readNumber (most : Nat) (cs : List Char) : Except Error (Nat × List Char) :=
  match (cs.take most).takeWhile Char.isDigit with
  | [] => .error (if cs.isEmpty then .tooShort else .invalid)
  | digits =>
    if Text.decimal digits < Nat.pow 2 63 then .ok (Text.decimal digits, cs.drop digits.length)
    else .error .outOfRange

/-- A field of two digits between bounds, after white space. -/
def readField (least most : Nat) (cs : List Char) : Except Error (Nat × List Char) := do
  let (n, rest) ← readNumber 2 (cs.dropWhile Text.isBlank)
  if least ≤ n ∧ n ≤ most then .ok (n, rest) else .error .outOfRange

/-- A year, after white space: four digits, or a sign and any number of them. -/
def readYear (cs : List Char) : Except Error (Int × List Char) := do
  let (year, rest) ← match cs.dropWhile Text.isBlank with
    | '-' :: rest => (readNumber rest.length rest).map fun (n, rest) => (-(n : Int), rest)
    | '+' :: rest => (readNumber rest.length rest).map fun (n, rest) => ((n : Int), rest)
    | rest => (readNumber 4 rest).map fun (n, rest) => ((n : Int), rest)
  if -2147483648 ≤ year ∧ year ≤ 2147483647 then .ok (year, rest) else .error .outOfRange

/-- A mark, after white space. -/
def readMark (mark : Char) (cs : List Char) : Except Error (List Char) :=
  match cs.dropWhile Text.isBlank with
  | [] => .error .tooShort
  | c :: rest => if c = mark then .ok rest else .error .invalid

/-- The fraction of a second; digits after the ninth are passed over. -/
def readFraction : List Char → Except Error (Nat × List Char)
  | '.' :: cs => do
    let (n, rest) ← readNumber 9 cs
    .ok (n * Nat.pow 10 (9 - (cs.length - rest.length)), rest.dropWhile Char.isDigit)
  | cs => .ok (0, cs)

/-- One character where two digits were expected: the second may be missing, unless the first could
not be a digit in any case. -/
def lastAlone (c : Char) : Error :=
  if c.toNat < 0x80 then .tooShort else .invalid

/-- The minutes of an offset, after its hours.  They may be missing. -/
def readOffsetMinutes : List Char → Except Error (Nat × List Char)
  | a :: b :: rest =>
    if a.isDigit ∧ b.isDigit then
      if a ≤ '5' then .ok (Text.decimal [a, b], rest) else .error .outOfRange
    else .error .invalid
  | [] => .ok (0, [])
  | [c] => .error (lastAlone c)

/-- The hours and minutes of an offset, after its sign. -/
def readOffsetFields (cs : List Char) : Except Error (Nat × List Char) :=
  match cs with
  | a :: b :: rest =>
    if a.isDigit ∧ b.isDigit then do
      let (minutes, rest) ←
        readOffsetMinutes (rest.dropWhile fun c => c == ':' || Text.isBlank c)
      .ok (Text.decimal [a, b] * 60 + minutes, rest)
    else .error .invalid
  | [c] => .error (lastAlone c)
  | [] => .error .tooShort

/-- The minutes by which a local time is ahead. -/
def readOffset (cs : List Char) : Except Error (Int × List Char) :=
  match cs with
  | [] => .error .tooShort
  | c :: rest =>
    if Text.asciiLower (cs.take 3) = ['u', 't', 'c'] then .ok (0, cs.drop 3)
    else if c = 'Z' ∨ c = 'z' then .ok (0, rest)
    else if c = '+' then (readOffsetFields rest).map fun (n, rest) => ((n : Int), rest)
    else if c = '-' ∨ c = Char.ofNat 0x2212 then
      (readOffsetFields rest).map fun (n, rest) => (-(n : Int), rest)
    else .error .invalid

/-- The timestamp of its fields, if they name a moment of the calendar. -/
def ofFields (t : Timestamp) (offset : Int) : Except Error Timestamp :=
  if t.year < firstYear ∨ lastYear < t.year ∨ daysIn t.year t.month < t.day then .error .outOfRange
  else if 1440 ≤ offset.natAbs then .error .outOfRange
  else
    let moment := t.universal offset
    if moment.year < firstYear ∨ lastYear < moment.year then .error .impossible
    else .ok moment

/-- The timestamp that a whole text holds. -/
def read (s : String) : Except Error Timestamp := do
  let (year, cs) ← readYear s.toList
  let cs ← readMark '-' cs
  let (month, cs) ← readField 1 12 cs
  let cs ← readMark '-' cs
  let (day, cs) ← readField 1 31 cs
  let cs ← match cs with
    | [] => .error .tooShort
    | c :: cs => if c = 't' ∨ c = 'T' ∨ c = ' ' then .ok cs else .error .invalid
  let (hour, cs) ← readField 0 23 cs
  let cs ← readMark ':' cs
  let (minute, cs) ← readField 0 59 cs
  let cs ← readMark ':' cs
  let (second, cs) ← readField 0 60 cs
  let (nanosecond, cs) ← readFraction cs
  let (offset, cs) ← readOffset (cs.dropWhile Text.isBlank)
  if (cs.dropWhile Text.isBlank).isEmpty then
    ofFields ⟨year, month, day, hour, minute, second, nanosecond⟩ offset
  else .error .tooLong

end Reading

end Timestamp
end PromptBook
