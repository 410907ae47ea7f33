import SignalNet.Toml.Document
import SignalNet.Toml.Text

/-!
Contract: reading configuration texts.

Readers take a list of characters and answer with what they read and the rest.
Every reader of a nested value carries a number of steps; each step uses up a
character or enters a value, so twice the length of the text is enough.

Owns: keys, values, lines and headers. A text that is no configuration has no
tree; nothing is said about the reason.
-/

set_option autoImplicit false

namespace SignalNet.Toml.Reader

open SignalNet.Toml.Text

/-- Values nest less deep than this, and keys have fewer parts. -/
def depthLimit : Nat := 80

def skipBlanks (text : List Char) : List Char := text.dropWhile isBlank

/-- Skip blanks, line ends and comments. The flag says that a comment is open. -/
def skipGaps : Bool → List Char → List Char
  | _, '\n' :: rest => skipGaps false rest
  | _, '\r' :: '\n' :: rest => skipGaps false rest
  | true, c :: rest => if isPrintable c then skipGaps true rest else c :: rest
  | false, '#' :: rest => skipGaps true rest
  | false, c :: rest => if isBlank c then skipGaps false rest else c :: rest
  | _, [] => []

/-- Skip the rest of a line: blanks, a comment and the line end. None if there is
anything else. -/
def skipLineEnd? (text : List Char) : Option (List Char) :=
  let rest := match skipBlanks text with
    | '#' :: comment => comment.dropWhile isPrintable
    | rest => rest
  if rest.isEmpty then some [] else afterNewline? rest

def isBare (c : Char) : Bool := c.isAlphanum || c == '_' || c == '-'

def readKeyPart? (text : List Char) : Option (String × List Char) :=
  match text with
  | '"' :: rest => readBasic? (rest.length + 1) [] rest
  | '\'' :: rest => readLiteral? [] rest
  | _ =>
      let bare := text.takeWhile isBare
      if bare.isEmpty then none else some (String.ofList bare, text.dropWhile isBare)

/-- Read the parts of a key, with blanks around them, in reverse. -/
def readKeyParts? : Nat → List String → List Char → Option (List String × List Char)
  | 0, _, _ => none
  | steps + 1, parts, text =>
      match readKeyPart? (skipBlanks text) with
      | none => none
      | some (part, rest) =>
          match skipBlanks rest with
          | '.' :: rest => readKeyParts? steps (part :: parts) rest
          | rest => some (part :: parts, rest)

/-- Read a key: the parts before the last, and the last. -/
def readKey? (text : List Char) : Option ((List String × String) × List Char) :=
  match readKeyParts? (depthLimit - 1) [] text with
  | some (last :: before, rest) => some ((before.reverse, last), rest)
  | _ => none

/-- Characters that end a scalar. -/
def endsScalar (c : Char) : Bool :=
  isBlank c || c == '\n' || c == '\r' || c == ',' || c == ']' || c == '#' || c == Char.ofNat 0x7d

/-- Read a scalar. A time may follow its date behind one blank. -/
def readScalar? (text : List Char) : Option (Toml × List Char) :=
  let word := text.takeWhile (!endsScalar ·)
  let rest := text.dropWhile (!endsScalar ·)
  let joined? := match rest with
    | ' ' :: after =>
        let time := after.takeWhile (!endsScalar ·)
        (Moment.read? (word ++ ' ' :: time)).map fun moment =>
          (Toml.datetime moment, after.dropWhile (!endsScalar ·))
    | _ => none
  joined?.orElse fun _ => (Scalar.read? word).map fun value => (value, rest)

mutual

/-- Read a value at some depth of nesting. -/
def readValue? : Nat → Nat → List Char → Option (Toml × List Char)
  | 0, _, _ => none
  | steps + 1, depth, text =>
      match text with
      | '[' :: rest =>
          if depthLimit ≤ depth + 1 then none
          else (readItems? steps (depth + 1) [] rest).map fun (items, rest) =>
            (.array items.reverse, rest)
      | '\x7b' :: rest =>
          if depthLimit ≤ depth + 1 then none
          else match readLines? steps (depth + 1) rest with
            | some (lines, rest) => (ofLines? lines).map fun table => (table, rest)
            | none => none
      | '"' :: _ => (Text.read? text).map fun (content, rest) => (.string content, rest)
      | '\'' :: _ => (Text.read? text).map fun (content, rest) => (.string content, rest)
      | _ => readScalar? text

/-- Read the items of an array up to its closing bracket, in reverse. -/
def readItems? : Nat → Nat → List Toml → List Char → Option (List Toml × List Char)
  | 0, _, _, _ => none
  | steps + 1, depth, items, text =>
      match skipGaps false text with
      | ']' :: rest => some (items, rest)
      | start =>
          match readValue? steps depth start with
          | none => none
          | some (item, rest) =>
              match skipGaps false rest with
              | ',' :: rest => readItems? steps depth (item :: items) rest
              | ']' :: rest => some (item :: items, rest)
              | _ => none

/-- Read the lines of a table between braces, all of them on one line. -/
def readLines? : Nat → Nat → List Char → Option (List Line × List Char)
  | 0, _, _ => none
  | steps + 1, depth, text =>
      match skipBlanks text with
      | '\x7d' :: rest => some ([], rest)
      | start => readMoreLines? steps depth [] start

/-- Read at least one more line of a table between braces. -/
def readMoreLines? : Nat → Nat → List Line → List Char → Option (List Line × List Char)
  | 0, _, _, _ => none
  | steps + 1, depth, lines, text =>
      match readKey? text with
      | some ((path, key), '=' :: rest) =>
          match readValue? steps depth (skipBlanks rest) with
          | none => none
          | some (value, rest) =>
              match skipBlanks rest with
              | ',' :: rest => readMoreLines? steps depth (⟨path, key, value⟩ :: lines) rest
              | '\x7d' :: rest => some ((⟨path, key, value⟩ :: lines).reverse, rest)
              | _ => none
      | _ => none

end

/-- Read a line `key = value` with its line end. -/
def readLine? (text : List Char) : Option (Line × List Char) :=
  match readKey? text with
  | some ((path, key), '=' :: rest) =>
      match readValue? (2 * text.length + 2) 0 (skipBlanks rest) with
      | none => none
      | some (value, rest) => (skipLineEnd? rest).map fun rest => (⟨path, key, value⟩, rest)
  | _ => none

/-- Read a header with its line end, behind the first bracket. -/
def readHeader? (text : List Char) : Option (Header × List Char) :=
  match text with
  | '[' :: rest =>
      match readKey? rest with
      | some ((path, key), ']' :: ']' :: rest) =>
          (skipLineEnd? rest).map fun rest => (⟨path, key, true⟩, rest)
      | _ => none
  | _ =>
      match readKey? text with
      | some ((path, key), ']' :: rest) =>
          (skipLineEnd? rest).map fun rest => (⟨path, key, false⟩, rest)
      | _ => none

/-- A document so far: its first lines and its sections, all in reverse. -/
structure Progress where
  lines : List Line
  sections : List Section

def Progress.addLine (progress : Progress) (line : Line) : Progress :=
  match progress.sections with
  | [] => { progress with lines := line :: progress.lines }
  | part :: rest => { progress with sections := { part with lines := line :: part.lines } :: rest }

def Progress.addHeader (progress : Progress) (header : Header) : Progress :=
  { progress with sections := ⟨header, []⟩ :: progress.sections }

/-- Read lines and headers to the end of the text. Each of them uses up a character. -/
def readDocument? : Nat → Progress → List Char → Option Progress
  | 0, _, _ => none
  | steps + 1, progress, text =>
      match skipGaps false text with
      | [] => some progress
      | '[' :: rest =>
          match readHeader? rest with
          | some (header, rest) => readDocument? steps (progress.addHeader header) rest
          | none => none
      | start =>
          match readLine? start with
          | some (line, rest) => readDocument? steps (progress.addLine line) rest
          | none => none

def skipMark : List Char → List Char
  | '\uFEFF' :: rest => rest
  | text => text

end Reader

/-- Read a configuration text. -/
def parse? (text : String) : Option (List (String × Toml)) :=
  let characters := Reader.skipMark text.toList
  (Reader.readDocument? (characters.length + 1) ⟨[], []⟩ characters).bind fun progress =>
    ofSections? progress.lines.reverse
      (progress.sections.reverse.map fun part => { part with lines := part.lines.reverse })

end SignalNet.Toml
