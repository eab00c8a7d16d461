/-!
# Scanning a document

A scanner takes something off the front of a text, or finds that it is not there.
Where a text can be read in two ways the alternatives are tried in order, each
from the same place.

This module also holds what lies between the values of a document: blanks, the
ends of lines, and comments. A line ends with a line feed, alone or behind a
carriage return; a carriage return on its own ends nothing and is not allowed.
-/

namespace PeerTelemetry.Toml

/-- **A scanner** takes a value off the front of a text and leaves the rest. -/
abbrev Scanner := StateT (List Char) Option

namespace Scanner

/-- Whether a text begins with another, and what follows it if so. -/
def dropPrefix? : List Char → List Char → Option (List Char)
  | [], s => some s
  | _ :: _, [] => none
  | c :: expected, d :: s => if c = d then dropPrefix? expected s else none

/-- A given text. -/
def exactly (text : String) : Scanner Unit := fun s =>
  (dropPrefix? text.toList s).map ((), ·)

/-- A given character. -/
def char (c : Char) : Scanner Unit := fun
  | [] => none
  | d :: s => if d = c then some ((), s) else none

/-- The next character, if it satisfies a condition. -/
def charWhere (p : Char → Bool) : Scanner Char := fun
  | [] => none
  | c :: s => if p c then some (c, s) else none

/-- The characters up to the first that does not satisfy a condition. -/
def takeWhile (p : Char → Bool) : Scanner (List Char) := fun s =>
  some (s.takeWhile p, s.dropWhile p)

/-- The same, but at least one. -/
def takeWhile1 (p : Char → Bool) : Scanner (List Char) := do
  let first ← charWhere p
  return first :: (← takeWhile p)

/-- What a scanner finds, or nothing where it finds nothing. -/
def attempt {α : Type} (x : Scanner α) : Scanner (Option α) := fun s =>
  match x s with
  | some (a, rest) => some (some a, rest)
  | none => some (none, s)

/-- The text that a scanner took, in place of what it made of it. -/
def takenBy {α : Type} (x : Scanner α) : Scanner (List Char) := fun s =>
  (x s).map fun (_, rest) => (s.take (s.length - rest.length), rest)

/-- The next character, left where it is. -/
def peek? : Scanner (Option Char) := fun s => some (s.head?, s)

end Scanner

open Scanner

/-! ## Between the values -/

/-- A blank within a line. -/
def isBlank (c : Char) : Bool := c = ' ' || c = '\t'

/-- A character that text may hold as it is: no control character but the tab. -/
def isTextChar (c : Char) : Bool := c = '\t' || ' ' ≤ c && c ≠ '\x7f'

/-- Blanks, as many as there are. -/
def blanks : Scanner Unit := do
  let _ ← takeWhile isBlank

/-- The end of a line. -/
def newline : Scanner Unit := char '\n' <|> exactly "\r\n"

/-- The end of the text. -/
def endOfText : Scanner Unit := fun
  | [] => some ((), [])
  | _ :: _ => none

/-- A comment, up to the end of its line. -/
def comment : Scanner Unit := do
  char '#'
  let _ ← takeWhile isTextChar

/-- **What may follow on the line of a statement**: blanks, a comment, and the end. -/
def endOfStatement : Scanner Unit := do
  blanks
  let _ ← attempt comment
  newline <|> endOfText

mutual

/-- **Skips blanks, ends of lines and comments**, wherever a value may span lines. -/
def skipFiller : List Char → List Char
  | ' ' :: s => skipFiller s
  | '\t' :: s => skipFiller s
  | '\n' :: s => skipFiller s
  | '\r' :: '\n' :: s => skipFiller s
  | '#' :: s => skipComment s
  | s => s

/-- Skips the rest of a comment and goes on behind its line. At a character that no
comment may hold it stops, and nothing can be read there. -/
def skipComment : List Char → List Char
  | [] => []
  | '\n' :: s => skipFiller s
  | '\r' :: '\n' :: s => skipFiller s
  | c :: s => if isTextChar c then skipComment s else c :: s

end

/-- Blanks, ends of lines and comments. -/
def filler : Scanner Unit := fun s => some ((), skipFiller s)

end PeerTelemetry.Toml
