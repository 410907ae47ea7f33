import SignalNet.Decimal.Reader
import SignalNet.Toml.Tree

/-!
Contract: scalars that are written without quotes.

Switches, integers, floating-point numbers, dates and times. A scalar is
recognized from its whole text, and every text is one kind of scalar at most.
-/

set_option autoImplicit false

namespace SignalNet.Toml.Scalar

open SignalNet.Decimal

/-- Digits of some class, with single underscores between digits only. The flag says
whether the character before was a digit. -/
def groupedFrom (isDigit : Char → Bool) : Bool → List Char → Bool
  | afterDigit, [] => afterDigit
  | afterDigit, c :: rest =>
      if c = '_' then afterDigit && groupedFrom isDigit false rest
      else isDigit c && groupedFrom isDigit true rest

def grouped (isDigit : Char → Bool) (text : List Char) : Bool := groupedFrom isDigit false text

/-- A whole number without a sign: no zero stands before other digits. -/
def isWhole (text : List Char) : Bool :=
  grouped Char.isDigit text && (text.length == 1 || text.head? != some '0')

def digitOf? (base : Nat) (c : Char) : Option Nat :=
  let value? :=
    if c.isDigit then some (c.toNat - '0'.toNat)
    else if 'a' ≤ c ∧ c ≤ 'f' then some (c.toNat - 'a'.toNat + 10)
    else if 'A' ≤ c ∧ c ≤ 'F' then some (c.toNat - 'A'.toNat + 10)
    else none
  value?.filter (· < base)

def inBase (base : Nat) (digits : List Char) : Nat :=
  digits.foldl (fun value c => base * value + (digitOf? base c).getD 0) 0

def plainDigits (text : List Char) : List Char := text.filter (· != '_')

/-- An integer of 64 bits. -/
def ofInt? (n : Int) : Option Toml :=
  if Int64.minValue.toInt ≤ n ∧ n ≤ Int64.maxValue.toInt then some (.integer (Int64.ofInt n))
  else none

/-- Digits of a base behind its mark. -/
def readBase? (base : Nat) (digits : List Char) : Option Toml :=
  if grouped (fun c => (digitOf? base c).isSome) digits then
    ofInt? (inBase base (plainDigits digits))
  else none

/-- An integer: decimal with an optional sign, or in another base without one. -/
def readInteger? (text : List Char) : Option Toml :=
  match text with
  | '0' :: 'x' :: digits => readBase? 16 digits
  | '0' :: 'o' :: digits => readBase? 8 digits
  | '0' :: 'b' :: digits => readBase? 2 digits
  | _ =>
      let (negative, digits) := splitSign text
      if isWhole digits then
        let value : Int := digitsValue (plainDigits digits)
        ofInt? (if negative then -value else value)
      else none

def isExponent (text : List Char) : Bool := grouped Char.isDigit (splitSign text).2

/-- What may stand behind the digits before the point. -/
def isFraction : List Char → Bool
  | '.' :: rest =>
      let isMark := fun c => c == 'e' || c == 'E'
      let digits := rest.takeWhile fun c => !isMark c
      grouped Char.isDigit digits &&
        (match rest.dropWhile fun c => !isMark c with
          | [] => true
          | _ :: exponent => isExponent exponent)
  | mark :: exponent => (mark == 'e' || mark == 'E') && isExponent exponent
  | [] => false

/-- A floating-point number. A number too large for double precision is refused
unless it is negative. -/
def readFloat? (text : List Char) : Option Toml :=
  let (negative, body) := splitSign text
  let number? :=
    if body = ['i', 'n', 'f'] then some (1.0 / 0.0)
    else if body = ['n', 'a', 'n'] then some (0.0 / 0.0)
    else
      let isDigit := fun c : Char => c.isDigit || c == '_'
      if isWhole (body.takeWhile isDigit) && isFraction (body.dropWhile isDigit) then
        (readUnsigned? (plainDigits body)).filter fun x => negative || x != 1.0 / 0.0
      else none
  number?.map fun x => .float (withSign negative x)

/-- Recognize a scalar. -/
def read? (text : List Char) : Option Toml :=
  if text = ['t', 'r', 'u', 'e'] then some (.boolean true)
  else if text = ['f', 'a', 'l', 's', 'e'] then some (.boolean false)
  else ((Moment.read? text).map .datetime).or ((readInteger? text).or (readFloat? text))

end SignalNet.Toml.Scalar
