import SignalNet.Decimal.Reader

/-!
Contract: dates and times of a configuration.

A moment is a date, a time, or a date with a time that may have an offset. It can be
written in more than one way: a blank, `T` or `t` divides a date from its time, and
a fraction of a second may have any number of digits. It is shown in one way.

Owns: reading and showing moments. A fraction is cut off behind nine digits.
-/

set_option autoImplicit false

namespace SignalNet

/-- A day of the calendar. -/
structure CalendarDate where
  year : Nat
  month : Nat
  day : Nat
deriving DecidableEq, Repr, Inhabited

/-- A time of the day. The second may be a leap second. -/
structure ClockTime where
  hour : Nat
  minute : Nat
  second : Nat
  nanosecond : Nat
deriving DecidableEq, Repr, Inhabited

/-- How far a clock is ahead of universal time. -/
inductive ClockOffset where
  /-- Universal time itself. -/
  | zulu
  | minutes (count : Int)
deriving DecidableEq, Repr, Inhabited

/-- A date, a time, or both. -/
inductive Moment where
  | onlyDate (date : CalendarDate)
  | onlyTime (time : ClockTime)
  | both (date : CalendarDate) (time : ClockTime) (offset : Option ClockOffset)
deriving DecidableEq, Repr, Inhabited

namespace Moment

open SignalNet.Decimal

/-- Read a number of exactly `count` digits in a range. -/
def readField? (count low high : Nat) (digits : List Char) : Option Nat :=
  let value := digitsValue digits
  if digits.length = count ∧ digits.all Char.isDigit ∧ low ≤ value ∧ value ≤ high then some value
  else none

def padded (width n : Nat) : List Char :=
  let digits := Nat.toDigits 10 n
  List.replicate (width - digits.length) '0' ++ digits

end Moment

namespace CalendarDate

open Moment

def daysOf (year month : Nat) : Nat :=
  if month = 2 then
    if year % 400 = 0 ∨ (year % 4 = 0 ∧ year % 100 ≠ 0) then 29 else 28
  else if month = 4 ∨ month = 6 ∨ month = 9 ∨ month = 11 then 30
  else 31

/-- Read a date `yyyy-mm-dd` of the calendar. -/
def read? (text : List Char) : Option CalendarDate :=
  match text with
  | [y₁, y₂, y₃, y₄, '-', m₁, m₂, '-', d₁, d₂] => do
      let year ← readField? 4 0 9999 [y₁, y₂, y₃, y₄]
      let month ← readField? 2 1 12 [m₁, m₂]
      let day ← readField? 2 1 (daysOf year month) [d₁, d₂]
      return ⟨year, month, day⟩
  | _ => none

/-- The date as `yyyy-mm-dd`. -/
def digits (date : CalendarDate) : List Char :=
  padded 4 date.year ++ '-' :: padded 2 date.month ++ '-' :: padded 2 date.day

end CalendarDate

namespace ClockTime

open Moment

/-- Read hours and minutes `hh:mm`. -/
def readHourMinute? (text : List Char) : Option (Nat × Nat) :=
  match text with
  | [h₁, h₂, ':', m₁, m₂] => do
      let hour ← readField? 2 0 23 [h₁, h₂]
      let minute ← readField? 2 0 59 [m₁, m₂]
      return (hour, minute)
  | _ => none

/-- Read what may stand behind the seconds: a fraction, as nanoseconds. -/
def readFraction? : List Char → Option Nat
  | [] => some 0
  | '.' :: digits =>
      if digits ≠ [] ∧ digits.all Char.isDigit then
        some (Decimal.digitsValue ((digits ++ List.replicate 9 '0').take 9))
      else none
  | _ => none

/-- Read a time `hh:mm:ss` with an optional fraction. -/
def read? (text : List Char) : Option ClockTime :=
  match text.drop 5 with
  | ':' :: s₁ :: s₂ :: rest => do
      let (hour, minute) ← readHourMinute? (text.take 5)
      let second ← readField? 2 0 60 [s₁, s₂]
      let nanosecond ← readFraction? rest
      return ⟨hour, minute, second, nanosecond⟩
  | _ => none

/-- The fraction of a second with as few digits as it needs; zero is not shown. -/
def fractionDigits (nanosecond : Nat) : List Char :=
  if nanosecond = 0 then []
  else '.' :: ((padded 9 nanosecond).reverse.dropWhile (· == '0')).reverse

/-- Hours and minutes as `hh:mm`. -/
def hourMinuteDigits (hour minute : Nat) : List Char := padded 2 hour ++ ':' :: padded 2 minute

/-- The time as `hh:mm:ss`, with the fraction behind it. -/
def digits (time : ClockTime) : List Char :=
  hourMinuteDigits time.hour time.minute ++ ':' :: padded 2 time.second ++
    fractionDigits time.nanosecond

end ClockTime

namespace ClockOffset

/-- Read the offset of a clock that is ahead or behind. -/
def readMinutes? (text : List Char) : Option ClockOffset :=
  match text with
  | '+' :: rest =>
      (ClockTime.readHourMinute? rest).map fun (hour, minute) =>
        .minutes (60 * hour + minute : Nat)
  | '-' :: rest =>
      (ClockTime.readHourMinute? rest).map fun (hour, minute) =>
        .minutes (-(60 * hour + minute : Nat))
  | _ => none

/-- The offset as `Z`, `+hh:mm` or `-hh:mm`. No offset in minutes is shown with a plus. -/
def digits : ClockOffset → List Char
  | zulu => ['Z']
  | minutes count =>
      (if count < 0 then '-' else '+') ::
        ClockTime.hourMinuteDigits (count.natAbs / 60) (count.natAbs % 60)

end ClockOffset

namespace Moment

def readOffsetTime? (text : List Char) : Option (ClockTime × Option ClockOffset) :=
  match ClockTime.read? text, text.getLast? with
  | some time, _ => some (time, none)
  | none, some 'Z' => (ClockTime.read? text.dropLast).map fun time => (time, some .zulu)
  | none, some 'z' => (ClockTime.read? text.dropLast).map fun time => (time, some .zulu)
  | none, _ => do
      let offset ← ClockOffset.readMinutes? (text.drop (text.length - 6))
      let time ← ClockTime.read? (text.take (text.length - 6))
      return (time, some offset)

/-- Whether a character divides a date from its time. -/
def divides (c : Char) : Bool := c == 'T' || c == 't' || c == ' '

/-- Read a date and a time with a divider between them. -/
def readBoth? (text : List Char) : Option Moment :=
  match text.drop 10 with
  | divider :: rest =>
      if divides divider then do
        let date ← CalendarDate.read? (text.take 10)
        let (time, offset) ← readOffsetTime? rest
        return .both date time offset
      else none
  | [] => none

def read? (text : List Char) : Option Moment :=
  ((CalendarDate.read? text).map onlyDate).or
    (((ClockTime.read? text).map onlyTime).or (readBoth? text))

/-- The moment as it is shown, with `T` between the date and the time. -/
def text : Moment → String
  | onlyDate date => String.ofList date.digits
  | onlyTime time => String.ofList time.digits
  | both date time offset =>
      String.ofList (date.digits ++ 'T' :: time.digits ++ (offset.map ClockOffset.digits).getD [])

end Moment

end SignalNet
