import LayeredConfig.Numeral.Whole

/-!
A moment is a date of the calendar, a time of day, or both with an optional offset from
universal time. It is read strictly and has one text.
-/

namespace LayeredConfig.Document.Toml

open Numeral (isDigit naturalOfDigits)

structure Date where
  year : Nat
  month : Nat
  day : Nat
  deriving DecidableEq, Repr

structure Time where
  hour : Nat
  minute : Nat
  second : Nat
  nanosecond : Nat
  deriving DecidableEq, Repr

/-- The distance of a local time from universal time. -/
inductive Offset where
  | universal
  | minutes (count : Int)
  deriving DecidableEq, Repr

inductive Moment where
  | date (date : Date)
  | time (time : Time)
  | dateTime (date : Date) (time : Time) (offset : Option Offset)
  deriving DecidableEq, Repr

/-- The number of exactly `count` digits, and what follows them. -/
def readDigits (count : Nat) (text : List Char) : Option (Nat × List Char) :=
  let digits := text.take count
  if digits.length = count ∧ digits.all isDigit then
    some (naturalOfDigits 10 digits, text.drop count)
  else none

/-- The number of two digits between two bounds, and what follows them. -/
def readPair (least greatest : Nat) (text : List Char) : Option (Nat × List Char) :=
  (readDigits 2 text).filter fun (n, _) => least ≤ n ∧ n ≤ greatest

/-- The text after a character that has to stand there. -/
def expect (c : Char) : List Char → Option (List Char)
  | [] => none
  | other :: rest => if other = c then some rest else none

def isLeapYear (year : Nat) : Bool :=
  year % 4 == 0 && (year % 100 != 0 || year % 400 == 0)

def daysInMonth (year month : Nat) : Nat :=
  if month = 2 then if isLeapYear year then 29 else 28
  else if month ∈ [4, 6, 9, 11] then 30
  else 31

def Date.read (text : List Char) : Option (Date × List Char) := do
  let (year, rest) ← readDigits 4 text
  let (month, rest) ← readPair 1 12 (← expect '-' rest)
  let (day, rest) ← readPair 1 (daysInMonth year month) (← expect '-' rest)
  return (⟨year, month, day⟩, rest)

def fractionDigits : Nat := 9

/-- The nanoseconds of an optional fraction, and what follows it. Digits beyond the ninth are
cut off. -/
def readNanoseconds : List Char → Option (Nat × List Char)
  | '.' :: rest =>
    let digits := rest.takeWhile isDigit
    if digits.isEmpty then none
    else
      let kept := digits.take fractionDigits
      some (naturalOfDigits 10 kept * Nat.pow 10 (fractionDigits - kept.length),
        rest.dropWhile isDigit)
  | text => some (0, text)

/-- A time of day, and what follows it. A minute may have a leap second. -/
def Time.read (text : List Char) : Option (Time × List Char) := do
  let (hour, rest) ← readPair 0 23 text
  let (minute, rest) ← readPair 0 59 (← expect ':' rest)
  let (second, rest) ← readPair 0 60 (← expect ':' rest)
  let (nanosecond, rest) ← readNanoseconds rest
  return (⟨hour, minute, second, nanosecond⟩, rest)

/-- The minutes of an offset after its sign. -/
def readOffsetMinutes (text : List Char) : Option Int := do
  let (hours, rest) ← readPair 0 23 text
  let (minutes, rest) ← readPair 0 59 (← expect ':' rest)
  if rest.isEmpty then some (hours * 60 + minutes) else none

/-- An offset that is the whole text. -/
def Offset.read : List Char → Option Offset
  | ['Z'] => some .universal
  | ['z'] => some .universal
  | '+' :: rest => (readOffsetMinutes rest).map .minutes
  | '-' :: rest => (readOffsetMinutes rest).map fun count => .minutes (-count)
  | _ => none

/-- The time and the offset after a date. -/
def Moment.readAfter (day : Date) (text : List Char) : Option Moment := do
  let (clock, rest) ← Time.read text
  if rest.isEmpty then return .dateTime day clock none
  return .dateTime day clock (some (← Offset.read rest))

def Moment.read (text : List Char) : Option Moment :=
  match Date.read text with
  | some (day, []) => some (.date day)
  | some (day, 'T' :: rest) => readAfter day rest
  | some (day, 't' :: rest) => readAfter day rest
  | some (day, ' ' :: rest) => readAfter day rest
  | some _ => none
  | none =>
    match Time.read text with
    | some (clock, []) => some (.time clock)
    | _ => none

def padded (width n : Nat) : String :=
  let digits := Nat.toDigits 10 n
  String.ofList (List.replicate (width - digits.length) '0' ++ digits)

def Date.render (date : Date) : String :=
  padded 4 date.year ++ "-" ++ padded 2 date.month ++ "-" ++ padded 2 date.day

/-- The text of the fraction of a second, without zeros at its end. -/
def renderNanoseconds (count : Nat) : String :=
  if count = 0 then ""
  else
    let digits := (padded fractionDigits count).toList
    String.ofList ('.' :: (digits.reverse.dropWhile (· == '0')).reverse)

def Time.render (time : Time) : String :=
  padded 2 time.hour ++ ":" ++ padded 2 time.minute ++ ":" ++ padded 2 time.second ++
    renderNanoseconds time.nanosecond

def Offset.render : Offset → String
  | universal => "Z"
  | minutes count =>
    (if count < 0 then "-" else "+") ++
      padded 2 (count.natAbs / 60) ++ ":" ++ padded 2 (count.natAbs % 60)

def Moment.render : Moment → String
  | date day => day.render
  | time clock => clock.render
  | dateTime day clock offset =>
    day.render ++ "T" ++ clock.render ++ (offset.map Offset.render).getD ""

end LayeredConfig.Document.Toml
