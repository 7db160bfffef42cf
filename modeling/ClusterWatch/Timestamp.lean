import ClusterWatch.Text.Numeral

/-!
# Timestamps

A point in time, and its written form: a date of the Gregorian calendar, a time of day, and how far
that is from universal time. Any offset is understood when a timestamp is read; written ones are
always in universal time, to as many decimal places as are asked for.
-/

namespace ClusterWatch

/-- A point in time. -/
structure Timestamp where
  /-- The nanoseconds since the beginning of 1970 in universal time. -/
  nanoseconds : Int
  deriving DecidableEq, Repr

namespace Timestamp

/-- A date of the Gregorian calendar. -/
structure Date where
  /-- The year. -/
  year : Int
  /-- The month, from 1 on. -/
  month : Int
  /-- The day of the month, from 1 on. -/
  day : Int
  deriving DecidableEq, Repr

/-- The days between the beginning of March in the year 0 and the beginning of 1970. -/
def epochShift : Int := 719468

/-- The days in 400 years. -/
def daysOfEra : Int := 146097

namespace Date

/-- The days since the beginning of 1970. Years are counted from March on, so that a leap day is the
last day of its year. -/
def toDays (date : Date) : Int :=
  let year := if date.month ≤ 2 then date.year - 1 else date.year
  let era := year / 400
  let yearOfEra := year % 400
  let dayOfYear := (153 * ((date.month + 9) % 12) + 2) / 5 + date.day - 1
  era * daysOfEra + yearOfEra * 365 + yearOfEra / 4 - yearOfEra / 100 + dayOfYear - epochShift

/-- The date so many days after the beginning of 1970. -/
def ofDays (days : Int) : Date :=
  let era := (days + epochShift) / daysOfEra
  let dayOfEra := (days + epochShift) % daysOfEra
  let yearOfEra := (dayOfEra - dayOfEra / 1460 + dayOfEra / 36524 - dayOfEra / 146096) / 365
  let dayOfYear := dayOfEra - (365 * yearOfEra + yearOfEra / 4 - yearOfEra / 100)
  let shifted := (5 * dayOfYear + 2) / 153
  let month := if shifted < 10 then shifted + 3 else shifted - 9
  ⟨yearOfEra + era * 400 + (if month ≤ 2 then 1 else 0), month,
    dayOfYear - (153 * shifted + 2) / 5 + 1⟩

/-- Whether there is such a date. -/
def isValid (date : Date) : Bool :=
  1 ≤ date.month && date.month ≤ 12 && ofDays date.toDays = date

end Date

/-- A number of exactly that many digits, and the rest. -/
def readDigits? (count : Nat) (cs : List Char) : Option (Int × List Char) :=
  let digits := cs.take count
  if digits.length = count then
    (Text.readDigits? digits).map fun n => ((n : Int), cs.drop count)
  else none

/-- The rest after a separator: it must be there in the extended form and must not be in
the basic form. -/
def readSeparator? (extended : Bool) (c : Char) (cs : List Char) : Option (List Char) :=
  match extended, cs with
  | true, d :: rest => if d = c then some rest else none
  | true, [] => none
  | false, _ => some cs

/-- A year: four digits, or a sign and six digits. -/
def readYear? : List Char → Option (Int × List Char)
  | '+' :: rest => readDigits? 6 rest
  | '-' :: rest =>
    (readDigits? 6 rest).bind fun (year, rest) => if year = 0 then none else some (-year, rest)
  | cs => readDigits? 4 cs

/-- A date. -/
def readDate? (cs : List Char) : Option (Date × List Char) := do
  let (year, cs) ← readYear? cs
  let extended := cs.head? = some '-'
  let (month, cs) ← readDigits? 2 (← readSeparator? extended '-' cs)
  let (day, cs) ← readDigits? 2 (← readSeparator? extended '-' cs)
  let date : Date := ⟨year, month, day⟩
  if date.isValid then some (date, cs) else none

/-- The nanoseconds of a decimal fraction of a second in one to nine digits, zero where
there is none. -/
def readFraction? : List Char → Option (Int × List Char)
  | c :: rest =>
    if c = '.' || c = ',' then
      let digits := rest.takeWhile Text.isDigit
      if digits.isEmpty || 9 < digits.length then none
      else
        some ((Text.digitsValue (digits ++ List.replicate (9 - digits.length) '0') : Int),
          rest.dropWhile Text.isDigit)
    else some (0, c :: rest)
  | [] => some (0, [])

/-- A further pair of digits after hours or minutes, zero where there is none. -/
def readPair? (extended : Bool) (cs : List Char) : Option (Option Int × List Char) :=
  match cs with
  | c :: _ =>
    if c = ':' || (!extended && Text.isDigit c) then do
      let (n, rest) ← readDigits? 2 (← readSeparator? extended ':' cs)
      return (some n, rest)
    else some (none, cs)
  | [] => some (none, [])

/-- Hours, minutes and seconds with a fraction, in nanoseconds; of these only the hours
must be there. -/
def readClock? (maxHour maxSecond : Int) (cs : List Char) : Option (Int × List Char) := do
  let (hour, cs) ← readDigits? 2 cs
  let extended := cs.head? = some ':'
  let (minute, cs) ← readPair? extended cs
  let (second, cs) ← if minute.isSome then readPair? extended cs else some (none, cs)
  let (fraction, cs) ← if second.isSome then readFraction? cs else some (0, cs)
  let minute := minute.getD 0
  let second := second.getD 0
  if hour ≤ maxHour && minute ≤ 59 && second ≤ maxSecond then
    some (((hour * 60 + minute) * 60 + min second 59) * 1000000000 + fraction, cs)
  else none

/-- An offset from universal time in nanoseconds. -/
def readOffset? : List Char → Option (Int × List Char)
  | 'Z' :: rest => some (0, rest)
  | 'z' :: rest => some (0, rest)
  | '+' :: rest => readClock? 25 59 rest
  | '-' :: rest => (readClock? 25 59 rest).map fun (offset, rest) => (-offset, rest)
  | _ => none

/-- The nanoseconds in a day. -/
def nanosecondsOfDay : Int := 86400000000000

/-- The point in time that begins with a second since the beginning of 1970. -/
def ofSecond (second : Int) : Timestamp := ⟨second * 1000000000⟩

/-- The earliest point in time: a little over a day after the beginning of the year -9999, so that
it has a year of four digits at any offset. -/
def earliest : Timestamp := ofSecond (-377705023201)

/-- The first point in time that is too late: a little over a day before the end of
the year 9999. -/
def tooLate : Timestamp := ofSecond 253402207201

/-- Whether a point in time is neither too early nor too late. -/
def isInRange (timestamp : Timestamp) : Bool :=
  earliest.nanoseconds ≤ timestamp.nanoseconds && timestamp.nanoseconds < tooLate.nanoseconds

/-- The point in time that a text denotes. A leap second counts as the second before it. -/
def ofText? (text : String) : Option Timestamp := do
  let (date, cs) ← readDate? text.toList
  let separator :: cs := cs | none
  if separator = 'T' || separator = 't' || separator = ' ' then
    let (clock, cs) ← readClock? 23 60 cs
    let (offset, cs) ← readOffset? cs
    let timestamp : Timestamp := ⟨date.toDays * nanosecondsOfDay + clock - offset⟩
    if cs.isEmpty && timestamp.isInRange then some timestamp else none
  else none

/-- A number in at least that many digits. -/
def padded (width : Nat) (n : Nat) : String :=
  let digits := Nat.toDigits 10 n
  String.ofList (List.replicate (width - digits.length) '0' ++ digits)

/-- A year: four digits, or a sign and six digits where it has no four. -/
def yearText (year : Int) : String :=
  if 0 ≤ year && year ≤ 9999 then padded 4 year.toNat
  else if year < 0 then "-" ++ padded 6 year.natAbs
  else "+" ++ padded 6 year.natAbs

/-- The text of a point in time, with so many decimal places of a second; what is beyond
them is dropped. -/
def text (places : Nat) (timestamp : Timestamp) : String :=
  let date := Date.ofDays (timestamp.nanoseconds / nanosecondsOfDay)
  let clock := (timestamp.nanoseconds % nanosecondsOfDay).toNat
  let second := clock / 1000000000
  let fraction :=
    if places = 0 then "" else "." ++
      String.ofList ((padded 9 (clock % 1000000000)).toList.take places)
  yearText date.year ++ "-" ++ padded 2 date.month.toNat ++ "-" ++ padded 2 date.day.toNat ++ "T" ++
    padded 2 (second / 3600) ++ ":" ++ padded 2 (second / 60 % 60) ++ ":" ++
      padded 2 (second % 60) ++
    fraction ++ "Z"

end Timestamp

end ClusterWatch
