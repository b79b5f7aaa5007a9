import ResourceTemplate.Text.Blank

/-!
# Timestamps

A timestamp names a date, a time of day and the distance from universal time.  Reading is lenient:
blanks may stand between the parts, the date and the time may be separated by a blank or by the
letter `t`, the year may have a sign and then any number of digits, and universal time may be
spelled out. Writing gives whole seconds of universal time.

A sixtieth second is kept as it is; the parts of a second are dropped.
-/

namespace ResourceTemplate.Timestamp

/-- What is wrong with a written timestamp. -/
inductive Fault where
  | invalid
  | tooShort
  | tooLong
  | outOfRange
  | impossible
deriving DecidableEq

/-- The wording of a fault. -/
def Fault.message : Fault → String
  | invalid => "input contains invalid characters"
  | tooShort => "premature end of input"
  | tooLong => "trailing input"
  | outOfRange => "input is out of range"
  | impossible => "no possible date and time matching input"

/-- Read a number of at least one and at most so many digits. -/
def scanNumber (max : Nat) (text : List Char) : Except Fault (Nat × List Char) :=
  let digits := (text.take max).takeWhile Char.isDigit
  match text, digits with
  | [], _ => .error .tooShort
  | _, [] => .error .invalid
  | _, _ =>
      .ok (digits.foldl (fun n c => n * 10 + (c.toNat - '0'.toNat)) 0, text.drop digits.length)

/-- Read a number of two digits that lies in a range. -/
def scanField (low high : Nat) (text : List Char) : Except Fault (Nat × List Char) := do
  let (n, rest) ← scanNumber 2 (Text.trimStart text)
  if low ≤ n ∧ n ≤ high then .ok (n, rest) else .error .outOfRange

/-- Skip blanks and then one given character. -/
def scanSeparator (separator : Char) (text : List Char) : Except Fault (List Char) :=
  match Text.trimStart text with
  | [] => .error .tooShort
  | c :: rest => if c = separator then .ok rest else .error .invalid

/-- The greatest number of digits that a text can have. -/
def anyDigits (text : List Char) : Nat := text.length + 1

/-- Read a year; a sign lifts the limit of four digits. -/
def scanYear (text : List Char) : Except Fault (Int × List Char) := do
  let text := Text.trimStart text
  let (year, rest) ← match text with
    | '-' :: rest => (scanNumber (anyDigits rest) rest).map fun r => (-(r.1 : Int), r.2)
    | '+' :: rest => (scanNumber (anyDigits rest) rest).map fun r => ((r.1 : Int), r.2)
    | _ => (scanNumber 4 text).map fun r => ((r.1 : Int), r.2)
  if -Int.pow 2 31 ≤ year ∧ year < Int.pow 2 31 then .ok (year, rest) else .error .outOfRange

/-- Skip the parts of a second. -/
def skipFraction (text : List Char) : Except Fault (List Char) :=
  match text with
  | '.' :: rest => (scanNumber 9 rest).map fun r => r.2.dropWhile Char.isDigit
  | _ => .ok text

/-- The two digits at the start of a text. -/
def scanPair (text : List Char) : Except Fault (Char × Char) :=
  match text with
  | [] => .error .tooShort
  | [c] => if c.utf8Size < 2 then .error .tooShort else .error .invalid
  | a :: b :: _ => .ok (a, b)

/-- The number of two digits. -/
def pairValue (p : Char × Char) : Nat :=
  (p.1.toNat - '0'.toNat) * 10 + (p.2.toNat - '0'.toNat)

/-- Read the hours and minutes of a distance from universal time, in minutes. -/
def scanDistance (text : List Char) : Except Fault (Nat × List Char) := do
  let hours ← scanPair text
  if !(hours.1.isDigit && hours.2.isDigit) then .error .invalid
  else
    let text := (text.drop 2).dropWhile fun c => c = ':' || Text.isBlank c
    let minutes ← scanPair text
    if !(minutes.1.isDigit && minutes.2.isDigit) then .error .invalid
    else if 60 ≤ pairValue minutes then .error .outOfRange
    else .ok (pairValue hours * 60 + pairValue minutes, text.drop 2)

/-- Whether a text spells out universal time, in letters of any case. -/
def spellsUniversal (text : List Char) : Bool :=
  (text.take 3).map Char.toUpper = ['U', 'T', 'C']

/-- Read the distance from universal time, in minutes. -/
def scanOffset (text : List Char) : Except Fault (Int × List Char) :=
  let text := Text.trimStart text
  if spellsUniversal text then .ok (0, text.drop 3)
  else
    match text with
    | [] => .error .tooShort
    | 'Z' :: rest => .ok (0, rest)
    | 'z' :: rest => .ok (0, rest)
    | '+' :: rest => (scanDistance rest).map fun r => ((r.1 : Int), r.2)
    | c :: rest =>
        if c = '-' ∨ c = '−' then (scanDistance rest).map fun r => (-(r.1 : Int), r.2)
        else .error .invalid

/-- A date and a time of day. -/
structure Civil where
  year : Int
  month : Nat
  day : Nat
  hour : Nat
  minute : Nat
  second : Nat
deriving DecidableEq

/-- Whether a year has a leap day. -/
def isLeapYear (year : Int) : Bool :=
  year % 4 = 0 && (year % 100 ≠ 0 || year % 400 = 0)

/-- The number of days of a month. -/
def monthDays (year : Int) (month : Nat) : Nat :=
  if month = 2 then (if isLeapYear year then 29 else 28)
  else if month = 4 ∨ month = 6 ∨ month = 9 ∨ month = 11 then 30
  else 31

/-- The first and the last year that a date may have. -/
def yearRange : Int × Int := (-262143, 262142)

/-- Whether a year may be the year of a date. -/
def isYear (year : Int) : Bool :=
  yearRange.1 ≤ year && year ≤ yearRange.2

/-- The day before a date, or none when the year before it may not be used. -/
def Civil.previousDay (c : Civil) : Civil :=
  if 1 < c.day then { c with day := c.day - 1 }
  else if 1 < c.month then { c with month := c.month - 1, day := monthDays c.year (c.month - 1) }
  else { c with year := c.year - 1, month := 12, day := 31 }

/-- The day after a date. -/
def Civil.nextDay (c : Civil) : Civil :=
  if c.day < monthDays c.year c.month then { c with day := c.day + 1 }
  else if c.month < 12 then { c with month := c.month + 1, day := 1 }
  else { c with year := c.year + 1, month := 1, day := 1 }

/-- Move a time of day by minutes, less than a day. -/
def Civil.moveMinutes (c : Civil) (minutes : Int) : Civil :=
  let total : Int := (c.hour * 60 + c.minute : Nat) + minutes
  let clock : Int := total % 1440
  let moved := if total < 0 then c.previousDay else if 1440 ≤ total then c.nextDay else c
  { moved with hour := (clock / 60).toNat, minute := (clock % 60).toNat }

/-- The moment in universal time, if the written date exists. -/
def toUniversal (written : Civil) (offset : Int) : Except Fault Civil :=
  if !isYear written.year || monthDays written.year written.month < written.day then
    .error .outOfRange
  else if offset ≤ -1440 ∨ 1440 ≤ offset then .error .outOfRange
  else
    let universal := written.moveMinutes (-offset)
    if isYear universal.year then .ok universal else .error .impossible

/-- Skip what divides the date from the time of day. -/
def scanDivider (text : List Char) : Except Fault (List Char) :=
  match text with
  | [] => .error .tooShort
  | c :: rest => if c = 't' ∨ c = 'T' ∨ c = ' ' then .ok rest else .error .invalid

/-- Read a timestamp into universal time. -/
def read (text : String) : Except Fault Civil := do
  let (year, rest) ← scanYear text.toList
  let rest ← scanSeparator '-' rest
  let (month, rest) ← scanField 1 12 rest
  let rest ← scanSeparator '-' rest
  let (day, rest) ← scanField 1 31 rest
  let rest ← scanDivider rest
  let (hour, rest) ← scanField 0 23 rest
  let rest ← scanSeparator ':' rest
  let (minute, rest) ← scanField 0 59 rest
  let rest ← scanSeparator ':' rest
  let (second, rest) ← scanField 0 60 rest
  let rest ← skipFraction rest
  let (offset, rest) ← scanOffset rest
  if !(Text.trimStart rest).isEmpty then .error .tooLong
  else toUniversal ⟨year, month, day, hour, minute, second⟩ offset

/-- A number with zeros before it, up to a width. -/
def padded (width n : Nat) : String :=
  let digits := Nat.toDigits 10 n
  String.ofList (List.replicate (width - digits.length) '0' ++ digits)

/-- A year: four digits, with a sign when it needs one or has more digits. -/
def yearText (year : Int) : String :=
  if 0 ≤ year ∧ year ≤ 9999 then padded 4 year.toNat
  else if year < 0 then "-" ++ padded 4 (-year).toNat
  else "+" ++ padded 4 year.toNat

/-- The written form of a moment in universal time. -/
def Civil.text (c : Civil) : String :=
  yearText c.year ++ "-" ++ padded 2 c.month ++ "-" ++ padded 2 c.day ++ "T" ++
    padded 2 c.hour ++ ":" ++ padded 2 c.minute ++ ":" ++ padded 2 c.second ++ "Z"

end ResourceTemplate.Timestamp
