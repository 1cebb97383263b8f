set_option autoImplicit false

/-! Dates and times of TOML. -/

namespace DesignExport.Toml

structure Date where
  year : Nat
  month : Nat
  day : Nat
deriving DecidableEq

structure Time where
  hour : Nat
  minute : Nat
  second : Nat
  nanosecond : Nat
deriving DecidableEq

inductive Offset where
  | utc
  | minutes (backward : Bool) (amount : Nat)
deriving DecidableEq

/-- A date, a time, or both. Only both together can have an offset. -/
inductive Moment where
  | date (date : Date)
  | time (time : Time)
  | dateTime (date : Date) (time : Time) (offset : Option Offset)
deriving DecidableEq

def valueOfDigits (digits : List Char) : Nat :=
  digits.foldl (fun value digit => 10 * value + (digit.toNat - '0'.toNat)) 0

/-- A number of a certain count of digits. -/
def takeNumber? (count : Nat) (chars : List Char) : Option (Nat × List Char) :=
  let digits := chars.take count
  if digits.length = count && digits.all Char.isDigit then
    some (valueOfDigits digits, chars.drop count)
  else none

/-- A number of two digits within bounds. -/
def takeField? (least most : Nat) (chars : List Char) : Option (Nat × List Char) :=
  match takeNumber? 2 chars with
  | some (value, rest) => if least ≤ value && value ≤ most then some (value, rest) else none
  | none => none

def takeChar? (expected : Char) : List Char → Option (List Char)
  | char :: rest => if char = expected then some rest else none
  | [] => none

def isLeapYear (year : Nat) : Bool :=
  year % 4 = 0 && (year % 100 ≠ 0 || year % 400 = 0)

def daysIn (year month : Nat) : Nat :=
  if month = 2 then (if isLeapYear year then 29 else 28)
  else if [4, 6, 9, 11].contains month then 30
  else 31

def takeDate? (chars : List Char) : Option (Date × List Char) := do
  let (year, rest) ← takeNumber? 4 chars
  let (month, rest) ← takeField? 1 12 (← takeChar? '-' rest)
  let (day, rest) ← takeField? 1 31 (← takeChar? '-' rest)
  if day ≤ daysIn year month then some (⟨year, month, day⟩, rest) else none

/-- Fractions of a second to nine places; further places are dropped. -/
def takeNanoseconds? : List Char → Option (Nat × List Char)
  | '.' :: rest =>
      let digits := rest.takeWhile Char.isDigit
      if digits.isEmpty then none
      else
        let places := digits.take 9
        some (valueOfDigits places * Nat.pow 10 (9 - places.length), rest.dropWhile Char.isDigit)
  | rest => some (0, rest)

def takeTime? (chars : List Char) : Option (Time × List Char) := do
  let (hour, rest) ← takeField? 0 23 chars
  let (minute, rest) ← takeField? 0 59 (← takeChar? ':' rest)
  let (second, rest) ← takeField? 0 60 (← takeChar? ':' rest)
  let (nanosecond, rest) ← takeNanoseconds? rest
  some (⟨hour, minute, second, nanosecond⟩, rest)

def takeOffset? : List Char → Option (Option Offset × List Char)
  | [] => some (none, [])
  | sign :: rest =>
      if sign = 'Z' || sign = 'z' then some (some .utc, rest)
      else if sign = '+' || sign = '-' then do
        let (hour, afterHour) ← takeField? 0 23 rest
        let (minute, afterMinute) ← takeField? 0 59 (← takeChar? ':' afterHour)
        some (some (.minutes (sign = '-') (60 * hour + minute)), afterMinute)
      else some (none, sign :: rest)

def isTimeMark (char : Char) : Bool :=
  char = 'T' || char = 't' || char = ' '

/-- A time behind a date. -/
def takeTimeBehind? : List Char → Option (Time × Option Offset × List Char)
  | [] => none
  | mark :: rest =>
      if isTimeMark mark then do
        let (time, rest) ← takeTime? rest
        let (offset, rest) ← takeOffset? rest
        some (time, offset, rest)
      else none

def takeMoment? (chars : List Char) : Option (Moment × List Char) :=
  match takeDate? chars with
  | some (date, rest) =>
      match takeTimeBehind? rest with
      | some (time, offset, last) => some (.dateTime date time offset, last)
      | none => some (.date date, rest)
  | none => (takeTime? chars).map (fun (time, rest) => (.time time, rest))

/-- A moment that makes up a whole text. -/
def Moment.ofText? (source : String) : Option Moment :=
  match takeMoment? source.toList with
  | some (moment, []) => some moment
  | _ => none

/-- A number with leading zeros. -/
def padded (places value : Nat) : String :=
  let digits := Nat.toDigits 10 value
  String.ofList (List.replicate (places - digits.length) '0' ++ digits)

def Date.write (date : Date) : String :=
  padded 4 date.year ++ "-" ++ padded 2 date.month ++ "-" ++ padded 2 date.day

/-- Zeros at the end of a fraction are left out. -/
def writeNanoseconds (nanosecond : Nat) : String :=
  if nanosecond = 0 then ""
  else
    let digits := (padded 9 nanosecond).toList
    "." ++ String.ofList (digits.reverse.dropWhile (· = '0')).reverse

def Time.write (time : Time) : String :=
  padded 2 time.hour ++ ":" ++ padded 2 time.minute ++ ":" ++ padded 2 time.second ++
    writeNanoseconds time.nanosecond

def Offset.write : Offset → String
  | .utc => "Z"
  | .minutes backward amount =>
      (if backward && amount ≠ 0 then "-" else "+") ++ padded 2 (amount / 60) ++ ":" ++
        padded 2 (amount % 60)

def Moment.write : Moment → String
  | .date day => day.write
  | .time clock => clock.write
  | .dateTime day clock offset =>
      day.write ++ "T" ++ clock.write ++ ((offset.map Offset.write).getD "")

end DesignExport.Toml
