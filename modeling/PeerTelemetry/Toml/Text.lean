import PeerTelemetry.Number.Numeral
import PeerTelemetry.Toml.Scanner

/-!
# Strings

TOML has four kinds of strings. A *literal* string stands for itself, between
apostrophes; a *basic* string knows escapes, between quotation marks. Tripled
delimiters let either kind span lines: then a line end right behind the opening
delimiter is dropped, every other is one line feed, a backslash at the end of a
line drops all white space up to the next character, and up to two delimiter
characters may stand right in front of the closing delimiter.
-/

namespace PeerTelemetry.Toml

open Scanner

/-- The character a one-letter escape stands for. -/
def simpleEscape? : Char → Option Char
  | 'b' => some '\x08'
  | 't' => some '\t'
  | 'n' => some '\n'
  | 'f' => some '\x0c'
  | 'r' => some '\r'
  | '"' => some '"'
  | '\\' => some '\\'
  | _ => none

/-- The character with the number that hexadecimal digits denote, if there is one. -/
def codePoint? (digits : List Char) : Option Char :=
  let n := ofHexadecimal digits
  if digits.all isHexDigit && Nat.isValidChar n then some (Char.ofNat n) else none

/-- Puts a character in front of a string that was read. -/
def consChar (c : Char) (read : Option (List Char × List Char)) :
    Option (List Char × List Char) :=
  read.map fun (text, rest) => (c :: text, rest)

/-- **The rest of a basic string**, behind its opening quotation mark. -/
def basicRest : List Char → Option (List Char × List Char)
  | [] => none
  | '"' :: s => some ([], s)
  | '\\' :: 'u' :: a :: b :: c :: d :: s => do
    consChar (← codePoint? [a, b, c, d]) (basicRest s)
  | '\\' :: 'U' :: a :: b :: c :: d :: e :: f :: g :: h :: s => do
    consChar (← codePoint? [a, b, c, d, e, f, g, h]) (basicRest s)
  | '\\' :: e :: s => do consChar (← simpleEscape? e) (basicRest s)
  | c :: s => if isTextChar c && c ≠ '\\' then consChar c (basicRest s) else none

/-- Where the reading of a string that spans lines stands. -/
inductive LineState
  /-- Within the text. -/
  | text
  /-- Behind a backslash that has to be the last of its line. -/
  | brokenLine
  /-- In white space that a backslash drops. -/
  | dropping

/-- **The rest of a basic string that spans lines**, behind its opening delimiter. -/
def multilineBasicRest : LineState → List Char → Option (List Char × List Char)
  | _, [] => none
  | .brokenLine, ' ' :: s => multilineBasicRest .brokenLine s
  | .brokenLine, '\t' :: s => multilineBasicRest .brokenLine s
  | .brokenLine, '\n' :: s => multilineBasicRest .dropping s
  | .brokenLine, '\r' :: '\n' :: s => multilineBasicRest .dropping s
  | .brokenLine, _ :: _ => none
  | .dropping, ' ' :: s => multilineBasicRest .dropping s
  | .dropping, '\t' :: s => multilineBasicRest .dropping s
  | .dropping, '\n' :: s => multilineBasicRest .dropping s
  | .dropping, '\r' :: '\n' :: s => multilineBasicRest .dropping s
  | _, '"' :: '"' :: '"' :: '"' :: '"' :: s => some (['"', '"'], s)
  | _, '"' :: '"' :: '"' :: '"' :: s => some (['"'], s)
  | _, '"' :: '"' :: '"' :: s => some ([], s)
  | _, '"' :: s => consChar '"' (multilineBasicRest .text s)
  | _, '\r' :: '\n' :: s => consChar '\n' (multilineBasicRest .text s)
  | _, '\n' :: s => consChar '\n' (multilineBasicRest .text s)
  | _, '\\' :: ' ' :: s => multilineBasicRest .brokenLine s
  | _, '\\' :: '\t' :: s => multilineBasicRest .brokenLine s
  | _, '\\' :: '\n' :: s => multilineBasicRest .dropping s
  | _, '\\' :: '\r' :: '\n' :: s => multilineBasicRest .dropping s
  | _, '\\' :: 'u' :: a :: b :: c :: d :: s => do
    consChar (← codePoint? [a, b, c, d]) (multilineBasicRest .text s)
  | _, '\\' :: 'U' :: a :: b :: c :: d :: e :: f :: g :: h :: s => do
    consChar (← codePoint? [a, b, c, d, e, f, g, h]) (multilineBasicRest .text s)
  | _, '\\' :: e :: s => do consChar (← simpleEscape? e) (multilineBasicRest .text s)
  | _, c :: s =>
    if isTextChar c && c ≠ '\\' then consChar c (multilineBasicRest .text s) else none

/-- **The rest of a literal string**, behind its opening apostrophe. -/
def literalRest : List Char → Option (List Char × List Char)
  | [] => none
  | '\'' :: s => some ([], s)
  | c :: s => if isTextChar c then consChar c (literalRest s) else none

/-- **The rest of a literal string that spans lines**, behind its opening delimiter. -/
def multilineLiteralRest : List Char → Option (List Char × List Char)
  | [] => none
  | '\'' :: '\'' :: '\'' :: '\'' :: '\'' :: s => some (['\'', '\''], s)
  | '\'' :: '\'' :: '\'' :: '\'' :: s => some (['\''], s)
  | '\'' :: '\'' :: '\'' :: s => some ([], s)
  | '\r' :: '\n' :: s => consChar '\n' (multilineLiteralRest s)
  | '\n' :: s => consChar '\n' (multilineLiteralRest s)
  | c :: s => if isTextChar c then consChar c (multilineLiteralRest s) else none

/-- A string of one line, of either kind. -/
def lineString : Scanner String := fun
  | '"' :: s => (basicRest s).map fun (text, rest) => (String.ofList text, rest)
  | '\'' :: s => (literalRest s).map fun (text, rest) => (String.ofList text, rest)
  | _ => none

/-- What follows an opening delimiter, without the line end right behind it. -/
def dropFirstNewline : List Char → List Char
  | '\n' :: s => s
  | '\r' :: '\n' :: s => s
  | s => s

/-- **A string of any kind.** -/
def anyString : Scanner String := fun
  | '"' :: '"' :: '"' :: s =>
    (multilineBasicRest .text (dropFirstNewline s)).map fun (text, rest) =>
      (String.ofList text, rest)
  | '\'' :: '\'' :: '\'' :: s =>
    (multilineLiteralRest (dropFirstNewline s)).map fun (text, rest) =>
      (String.ofList text, rest)
  | s => lineString s

end PeerTelemetry.Toml
