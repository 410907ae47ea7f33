import SignalNet.Toml.Scalar

/-!
Contract: quoted texts of a configuration.

Texts between double quotes know escapes, texts between single quotes do not.
Either kind may stand between three quotes and then spans lines. Readers take the
characters behind the opening quotes, and answer with the text and what follows
it.
-/

set_option autoImplicit false

namespace SignalNet.Toml.Text

/-- Characters that may stand in comments and in texts. -/
def isPrintable (c : Char) : Bool := c == '\t' || (0x20 ≤ c.toNat && c.toNat != 0x7f)

def isBlank (c : Char) : Bool := c == ' ' || c == '\t'

/-- What follows a line end, if the text starts with one. -/
def afterNewline? : List Char → Option (List Char)
  | '\n' :: rest => some rest
  | '\r' :: '\n' :: rest => some rest
  | _ => none

/-- The character of a code point in hexadecimal digits. -/
def ofCodePoint? (digits : List Char) : Option Char :=
  if digits.all fun c => (Scalar.digitOf? 16 c).isSome then
    let code := Scalar.inBase 16 digits
    if code.isValidChar then some (Char.ofNat code) else none
  else none

/-- The character of an escape, and what follows it. -/
def readEscape? : List Char → Option (Char × List Char)
  | 'b' :: rest => some (Char.ofNat 8, rest)
  | 't' :: rest => some ('\t', rest)
  | 'n' :: rest => some ('\n', rest)
  | 'f' :: rest => some (Char.ofNat 12, rest)
  | 'r' :: rest => some ('\r', rest)
  | '"' :: rest => some ('"', rest)
  | '\\' :: rest => some ('\\', rest)
  | 'u' :: rest =>
      if 4 ≤ rest.length then (ofCodePoint? (rest.take 4)).map fun c => (c, rest.drop 4) else none
  | 'U' :: rest =>
      if 8 ≤ rest.length then (ofCodePoint? (rest.take 8)).map fun c => (c, rest.drop 8) else none
  | _ => none

/-- Whether a backslash is followed by nothing but blanks up to a line end. -/
def endsLine (text : List Char) : Bool := (afterNewline? (text.dropWhile isBlank)).isSome

def skipSpace : List Char → List Char
  | '\r' :: '\n' :: rest => skipSpace rest
  | '\n' :: rest => skipSpace rest
  | ' ' :: rest => skipSpace rest
  | '\t' :: rest => skipSpace rest
  | rest => rest

/-- The answer of a reader that has collected its characters in reverse. -/
def finish (collected : List Char) (rest : List Char) : Option (String × List Char) :=
  some (String.ofList collected.reverse, rest)

/-- Read a text on one line up to its closing double quote. -/
def readBasic? : Nat → List Char → List Char → Option (String × List Char)
  | 0, _, _ => none
  | _ + 1, _, [] => none
  | steps + 1, collected, c :: rest =>
      if c = '"' then finish collected rest
      else if c = '\\' then
        match readEscape? rest with
        | some (escaped, after) => readBasic? steps (escaped :: collected) after
        | none => none
      else if isPrintable c then readBasic? steps (c :: collected) rest
      else none

/-- Read a text on one line up to its closing single quote. -/
def readLiteral? : List Char → List Char → Option (String × List Char)
  | _, [] => none
  | collected, c :: rest =>
      if c = '\'' then finish collected rest
      else if isPrintable c then readLiteral? (c :: collected) rest
      else none

/-- What a run of quotes inside a text over several lines means: fewer than three
belong to the text, three end it, and one or two more still belong to it. -/
def closing? (quote : Char) (text : List Char) : Option (List Char × List Char) :=
  let run := (text.takeWhile (· == quote)).length
  if run < 3 then none
  else
    let kept := min (run - 3) 2
    some (List.replicate kept quote, text.drop (kept + 3))

/-- Read a text over several lines. Line ends become a line feed, and with escapes a
backslash at the end of a line joins it to the next text. -/
def readMultiline? (quote : Char) (escapes : Bool) :
    Nat → List Char → List Char → Option (String × List Char)
  | 0, _, _ => none
  | _ + 1, _, [] => none
  | steps + 1, collected, c :: rest =>
      if c = quote then
        match closing? quote (c :: rest) with
        | some (kept, after) => finish (kept ++ collected) after
        | none => readMultiline? quote escapes steps (c :: collected) rest
      else if escapes && c == '\\' then
        if endsLine rest then readMultiline? quote escapes steps collected (skipSpace rest)
        else match readEscape? rest with
          | some (escaped, after) =>
              readMultiline? quote escapes steps (escaped :: collected) after
          | none => none
      else match afterNewline? (c :: rest) with
        | some after => readMultiline? quote escapes steps ('\n' :: collected) after
        | none =>
            if isPrintable c then readMultiline? quote escapes steps (c :: collected) rest
            else none

/-- Read a text over several lines, without a line end right behind its opening. -/
def readOpened? (quote : Char) (escapes : Bool) (text : List Char) :
    Option (String × List Char) :=
  let body := (afterNewline? text).getD text
  readMultiline? quote escapes (body.length + 1) [] body

/-- Read a text of any kind, if there is one. -/
def read? (text : List Char) : Option (String × List Char) :=
  match text with
  | '"' :: '"' :: '"' :: rest => readOpened? '"' true rest
  | '\'' :: '\'' :: '\'' :: rest => readOpened? '\'' false rest
  | '"' :: rest => readBasic? (rest.length + 1) [] rest
  | '\'' :: rest => readLiteral? [] rest
  | _ => none

end SignalNet.Toml.Text
