import ResourceBroker.Text.Blank
import ResourceBroker.Text.Numeral

/-!
Instants in universal time, to the nanosecond, with their calendar dates and their text after RFC
3339. Reading is lenient about blanks between the parts and about the offset; writing has one form
for each instant.
-/

namespace ResourceBroker

/-- Days since 1970-01-01, the second of that day, and nanoseconds. A leap second is the last second
of a minute with `10 ^ 9` nanoseconds or more. -/
structure Timestamp where
  day : Int
  second : Nat
  nanosecond : Nat
deriving DecidableEq, Repr

structure CalendarDate where
  year : Int
  month : Nat
  day : Nat
deriving DecidableEq, Repr

namespace CalendarDate

def isLeap (year : Int) : Bool := (year % 4 == 0 && year % 100 != 0) || year % 400 == 0

def daysInMonth (year : Int) : Nat → Nat
  | 2 => if isLeap year then 29 else 28
  | 4 | 6 | 9 | 11 => 30
  | _ => 31

def inRange (year : Int) : Bool := -262143 ≤ year && year ≤ 262142

def isValid (date : CalendarDate) : Bool :=
  inRange date.year && 1 ≤ date.month && date.month ≤ 12 &&
    1 ≤ date.day && date.day ≤ daysInMonth date.year date.month

/-- Days since 1970-01-01. Years are taken from March on, so that the leap day comes last, and
gathered in eras of 400. -/
def toDays (date : CalendarDate) : Int :=
  let year := if date.month ≤ 2 then date.year - 1 else date.year
  let era := year / 400
  let yearOfEra := year % 400
  let dayOfYear : Int := (153 * ((date.month + 9) % 12) + 2) / 5 + date.day - 1
  era * 146097 + (yearOfEra * 365 + yearOfEra / 4 - yearOfEra / 100 + dayOfYear) - 719468

def ofDays (days : Int) : CalendarDate :=
  let z := days + 719468
  let era := z / 146097
  let dayOfEra := (z % 146097).toNat
  let yearOfEra := (dayOfEra - dayOfEra / 1460 + dayOfEra / 36524 - dayOfEra / 146096) / 365
  let dayOfYear := dayOfEra - (365 * yearOfEra + yearOfEra / 4 - yearOfEra / 100)
  let shifted := (5 * dayOfYear + 2) / 153
  let month := if shifted < 10 then shifted + 3 else shifted - 9
  let year : Int := yearOfEra + era * 400
  ⟨if month ≤ 2 then year + 1 else year, month, dayOfYear - (153 * shifted + 2) / 5 + 1⟩

end CalendarDate

namespace Timestamp

def ofNanoseconds (n : Int) : Timestamp :=
  ⟨n / 1000000000 / 86400, (n / 1000000000 % 86400).toNat, (n % 1000000000).toNat⟩

/-- Years of four digits stand bare, all others with a sign. -/
def renderYear (year : Int) : List Char :=
  let digits := Text.padZero 4 (Text.decimal year.natAbs)
  if 0 ≤ year ∧ year ≤ 9999 then digits
  else (if year < 0 then '-' else '+') :: digits

/-- No decimals, or as many groups of three as are needed. -/
def renderFraction (nanosecond : Nat) : List Char :=
  if nanosecond = 0 then []
  else if nanosecond % 1000000 = 0 then
    '.' :: Text.padZero 3 (Text.decimal (nanosecond / 1000000))
  else if nanosecond % 1000 = 0 then
    '.' :: Text.padZero 6 (Text.decimal (nanosecond / 1000))
  else '.' :: Text.padZero 9 (Text.decimal nanosecond)

def render (t : Timestamp) : String :=
  let date := CalendarDate.ofDays t.day
  let two (n : Nat) := Text.padZero 2 (Text.decimal n)
  let leap := t.nanosecond / 1000000000
  String.ofList (renderYear date.year ++ ['-'] ++ two date.month ++ ['-'] ++ two date.day ++ ['T'] ++
    two (t.second / 3600) ++ [':'] ++ two (t.second / 60 % 60) ++ [':'] ++
    two (t.second % 60 + leap) ++ renderFraction (t.nanosecond % 1000000000) ++ ['Z'])

def readNumber (most : Nat) (s : List Char) : Option (Nat × List Char) :=
  let s := Text.trimStart s
  let digits := (s.take most).takeWhile Text.isDigit
  (Text.natural? digits).map (·, s.drop digits.length)

def readYear (s : List Char) : Option (Int × List Char) :=
  match Text.trimStart s with
  | '-' :: rest => (readSigned rest).map fun (n, rest) => (-(n : Int), rest)
  | '+' :: rest => (readSigned rest).map fun (n, rest) => ((n : Int), rest)
  | s => (readNumber 4 s).map fun (n, rest) => ((n : Int), rest)
where
  readSigned (s : List Char) : Option (Nat × List Char) :=
    (Text.natural? (s.takeWhile Text.isDigit)).map (·, s.dropWhile Text.isDigit)

def readMark (mark : Char) (s : List Char) : Option (List Char) :=
  match Text.trimStart s with
  | c :: rest => if c = mark then some rest else none
  | [] => none

def readDate (s : List Char) : Option (CalendarDate × List Char) := do
  let (year, s) ← readYear s
  let s ← readMark '-' s
  let (month, s) ← readNumber 2 s
  let s ← readMark '-' s
  let (day, s) ← readNumber 2 s
  let date : CalendarDate := ⟨year, month, day⟩
  if date.isValid then pure (date, s) else none

/-- Digits past the ninth are dropped. -/
def readFraction : List Char → Option (Nat × List Char)
  | '.' :: rest => do
    let digits := rest.takeWhile Text.isDigit
    let n ← Text.natural? (digits.take 9)
    pure (n * Nat.pow 10 (9 - digits.length), rest.dropWhile Text.isDigit)
  | s => some (0, s)

/-- The second of the day and nanoseconds; a sixtieth second is a leap second. -/
def readTime (s : List Char) : Option ((Nat × Nat) × List Char) := do
  let (hour, s) ← readNumber 2 s
  let s ← readMark ':' s
  let (minute, s) ← readNumber 2 s
  let s ← readMark ':' s
  let (second, s) ← readNumber 2 s
  let (nanosecond, s) ← readFraction s
  if hour ≤ 23 ∧ minute ≤ 59 ∧ second ≤ 60 then
    let leap := second / 60
    pure ((hour * 3600 + minute * 60 + (second - leap), nanosecond + leap * 1000000000), s)
  else none

def readTwoDigits (s : List Char) : Option (Nat × List Char) :=
  match s with
  | a :: b :: rest => do
    pure ((← Text.digit? a) * 10 + (← Text.digit? b), rest)
  | _ => none

def readOffset (s : List Char) : Option (Nat × List Char) := do
  let (hours, s) ← readTwoDigits s
  let (minutes, s) ← readTwoDigits (s.dropWhile fun c => c = ':' || Text.isBlank c)
  if minutes ≤ 59 then pure (hours * 3600 + minutes * 60, s) else none

def readZone (s : List Char) : Option (Int × List Char) :=
  match Text.trimStart s with
  | [] => none
  | c :: rest =>
    let s := c :: rest
    if (s.take 3).map Char.toUpper = ['U', 'T', 'C'] then some (0, s.drop 3)
    else if c = 'Z' ∨ c = 'z' then some (0, rest)
    else if c = '+' then (readOffset rest).map fun (n, rest) => ((n : Int), rest)
    else if c = '-' ∨ c.toNat = 0x2212 then
      (readOffset rest).map fun (n, rest) => (-(n : Int), rest)
    else none

def isDateEnd (c : Char) : Bool := c = 'T' || c = 't' || c = ' '

def ofText? (s : String) : Option Timestamp := do
  let (date, s) ← readDate s.toList
  let s ← match s with
    | c :: rest => if isDateEnd c then some rest else none
    | [] => none
  let ((second, nanosecond), s) ← readTime s
  let (offset, s) ← readZone s
  if (Text.trimStart s).isEmpty ∧ offset.natAbs < 86400 then
    let total := date.toDays * 86400 + second - offset
    let day := total / 86400
    if CalendarDate.inRange (CalendarDate.ofDays day).year then
      pure ⟨day, (total % 86400).toNat, nanosecond⟩
    else none
  else none

end Timestamp
end ResourceBroker
