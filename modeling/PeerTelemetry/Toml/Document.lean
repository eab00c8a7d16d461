import PeerTelemetry.Toml.Date
import PeerTelemetry.Toml.Number
import PeerTelemetry.Toml.Table
import PeerTelemetry.Toml.Text

/-!
# Documents

A document is a list of statements, one a line: assignments, and headings that say where
the assignments below them go. `Document.parse?` reads the text of a document into
its table.

Values nest in brackets and braces, and their scanners call each other. They run on
a budget that is larger than any document could use up: every two calls take at
least one character. How deep values may nest is limited besides, and so is the
number of dots in a key.
-/

namespace PeerTelemetry.Toml

open Scanner

/-- How many levels of brackets and braces a value may have, and how many parts a key. -/
def maxDepth : Nat := 79

/-! ## Keys -/

/-- A character of a key that needs no quotes. -/
def isKeyChar (c : Char) : Bool :=
  'a' ≤ c && c ≤ 'z' || 'A' ≤ c && c ≤ 'Z' || c.isDigit || c = '-' || c = '_'

/-- One part of a key. -/
def simpleKey : Scanner String :=
  lineString <|> (do return String.ofList (← takeWhile1 isKeyChar))

/-- The further parts of a key, each behind a dot; blanks may stand around a part. The
budget is a bound on their number. -/
def moreKeys : Nat → Scanner (List String)
  | 0 => failure
  | budget + 1 => do
    match ← attempt (char '.') with
    | none => return []
    | some () =>
      blanks
      let key ← simpleKey
      blanks
      return key :: (← moreKeys budget)

/-- **A key**, in its parts: those in front of the last dot, and the last. -/
def key : Scanner (List String × String) := do
  blanks
  let first ← simpleKey
  blanks
  let more ← moreKeys maxDepth
  let parts := first :: more
  return (parts.dropLast, parts.getLast?.getD first)

/-! ## Values -/

/-- A truth value. -/
def boolean : Scanner Value :=
  (do exactly "true"
      return .boolean true) <|>
  (do exactly "false"
      return .boolean false)

/-- A value without brackets or braces. What begins like a date is tried as one first,
and a number as a floating-point number before it is taken for an integer. -/
def plainValue : Scanner Value :=
  (do return .string (← anyString)) <|> boolean <|> datetime <|> float <|> integer

mutual

/-- **A value**, with so many levels of nesting left. -/
def value : (budget depth : Nat) → Scanner Value
  | 0, _ => failure
  | budget + 1, depth => do
    match ← peek?, depth with
    | some '[', depth + 1 =>
      char '['
      return .array .inline (← items budget depth)
    | some '[', 0 => failure
    | some '{', depth + 1 =>
      char '{'
      blanks
      match ← attempt (char '}') with
      | some () => return .table .inline []
      | none =>
        match addAssignments .inline [] (← assignments budget depth) with
        | some entries => return .table .inline entries
        | none => failure
    | some '{', 0 => failure
    | _, _ => plainValue

/-- The items of an array and its closing bracket. A comma may follow the last item. -/
def items : (budget depth : Nat) → Scanner (List Value)
  | 0, _ => failure
  | budget + 1, depth => do
    filler
    match ← attempt (char ']') with
    | some () => return []
    | none =>
      let item ← value budget depth
      filler
      match ← attempt (char ',') with
      | some () => return item :: (← items budget depth)
      | none =>
        char ']'
        return [item]

/-- The assignments between braces and the closing brace, at least one. All of it
stands on one line, and no comma follows the last. -/
def assignments : (budget depth : Nat) → Scanner (List Assignment)
  | 0, _ => failure
  | budget + 1, depth => do
    let (path, key) ← key
    char '='
    blanks
    let v ← value budget depth
    blanks
    match ← attempt (char ',') with
    | some () => return ⟨path, key, v⟩ :: (← assignments budget depth)
    | none =>
      char '}'
      return [⟨path, key, v⟩]

end

/-! ## Statements -/

/-- An assignment on a line of its own. -/
def assignment (budget : Nat) : Scanner Assignment := do
  let (path, key) ← key
  char '='
  blanks
  let v ← value budget maxDepth
  endOfStatement
  return ⟨path, key, v⟩

/-- A heading. -/
def heading : Scanner Heading :=
  (do exactly "[["
      let (path, key) ← key
      exactly "]]"
      endOfStatement
      return ⟨path, key, true⟩) <|>
  (do char '['
      let (path, key) ← key
      char ']'
      endOfStatement
      return ⟨path, key, false⟩)

/-- A line without a statement. -/
def emptyLine : Scanner Unit := do
  blanks
  let _ ← attempt comment
  newline

/-- The assignments up to the next heading or the end, with a bound on the number of
lines. -/
def block (budget : Nat) : Nat → Scanner (List Assignment)
  | 0 => failure
  | lines + 1 => do
    match ← attempt emptyLine with
    | some () => block budget lines
    | none =>
      blanks
      match ← peek? with
      | none => return []
      | some '[' => return []
      | some '#' =>
        comment
        endOfText
        return []
      | some _ => return (← assignment budget) :: (← block budget lines)

/-- The sections up to the end of the text, with a bound on their number. -/
def sections (budget : Nat) : Nat → Scanner (List Section)
  | 0 => failure
  | count + 1 => do
    match ← peek? with
    | none => return []
    | some _ =>
      let heading ← heading
      let assignments ← block budget budget
      return ⟨heading, assignments⟩ :: (← sections budget count)

/-- The statements of a whole document. A byte order mark may stand in front of them. -/
def statements (budget : Nat) : Scanner (List Assignment × List Section) := do
  let _ ← attempt (char '\uFEFF')
  let top ← block budget budget
  return (top, ← sections budget budget)

/-- The statements that a text is made of, if it is made of statements. -/
def statements? (text : List Char) : Option (List Assignment × List Section) :=
  match statements (2 * text.length + 2) text with
  | some (found, []) => some found
  | _ => none

/-- **Reads a document** into the entries of its table, if it is made of statements and defines
nothing twice. -/
def read : Reader := fun text =>
  match statements? text.toList with
  | none => .error ⟨"not a document"⟩
  | some (top, sections) =>
    match tableOf top sections with
    | none => .error ⟨"a key is defined twice"⟩
    | some entries => .ok entries

end PeerTelemetry.Toml
