import PeerTelemetry.Number.Numeral
import PeerTelemetry.Text.Classes

/-!
# Patterns

The value of a field can be asked to match a *pattern*, a regular expression. No notice of
this program has a field with a value of its own, so nothing is ever matched; what counts is only
whether a text **is** a pattern, because a filter with a text that is none is no filter.

The pattern is read from left to right, and a `Reading` holds all that the rest depends on: the
flags, the groups that are open with the flags to go back to behind them, and the place in
the brackets of a class. The automaton behind the patterns is built without tables of other
scripts. So in any script the cases of letters, the classes named by a letter, and the edges of
words are not known; and for bytes nothing may be asked that could split a character.

A pattern may be nested only so far. What is nested is its syntax: a group, a class, and what is
repeated lie one level above what is in them, and so does a row of parts above its parts. So the
reading keeps of all that is still open how deep its parts are, and of all that is closed one
number, its depth.
-/

namespace PeerTelemetry.Pattern

/-! ## Flags -/

/-- **The flags under which a part of a pattern is read.** The other flags make no difference
to what is a pattern. -/
structure Flags where
  /-- Whether characters are those of any script, and not bytes. -/
  unicode : Bool := true
  /-- Whether the cases of letters are alike. -/
  ignoreCase : Bool := false
  /-- Whether blanks and comments do not count. -/
  verbose : Bool := false
  deriving DecidableEq, Repr

namespace Flags

/-- The flags behind a text that changes them: letters to be set and, behind a dash, letters to
be cleared, none of them twice. -/
def changed? (f : Flags) (text : List Char) : Option Flags :=
  if text.all (· ∈ "imsURux-".toList) ∧ text.Nodup ∧ text.getLast? ≠ some '-' then
    let change (letter : Char) (current : Bool) : Bool :=
      if letter ∈ text.takeWhile (· ≠ '-') then true
      else if letter ∈ text then false
      else current
    some ⟨change 'u' f.unicode, change 'i' f.ignoreCase, change 'x' f.verbose⟩
  else none

/-- What follows blanks and comments. A comment goes to the end of its line. -/
def skipFiller (inComment : Bool) : List Char → List Char
  | [] => []
  | c :: s =>
    if inComment then skipFiller (c ≠ '\n') s
    else if c = '#' then skipFiller true s
    else if isWhiteSpace c then skipFiller false s
    else c :: s

/-- What follows all that does not count. -/
def skip (f : Flags) (s : List Char) : List Char := if f.verbose then skipFiller false s else s

/-- The next character that is no blank, behind the sign of a comment if there is one, where
blanks do not count; where they do, the next character. -/
def peek? (f : Flags) (s : List Char) : Option Char :=
  if f.verbose then
    match trimmedStart s with
    | '#' :: s => (trimmedStart s).head?
    | s => s.head?
  else s.head?

end Flags

/-! ## Atoms -/

/-- **What stands for one place of a text.** -/
inductive Atom
  /-- A character. -/
  | char (c : Char)
  /-- A byte, by its number. -/
  | byte (n : Nat)
  /-- The digits, the blanks, or what words are made of, or all but these. -/
  | shorthand (complement : Bool)
  /-- An ASCII class by its name, or all but it. -/
  | named (complement : Bool)
  /-- An end of the text. -/
  | edge
  /-- An end of a word. -/
  | wordEdge
  deriving DecidableEq, Repr

namespace Atom

/-- Whether an atom is known under the flags. -/
def isKnown (f : Flags) : Atom → Bool
  | char _ => !(f.unicode && f.ignoreCase)
  | byte n => if f.unicode then !f.ignoreCase else n < 0x80
  | shorthand complement => !f.unicode && !complement
  | named complement => if f.unicode then !f.ignoreCase else !complement
  | edge => true
  | wordEdge => !f.unicode

/-- Whether an atom is known in the brackets of a class. -/
def isKnownInClass (f : Flags) : Atom → Bool
  | edge | wordEdge => false
  | char c => (char c).isKnown f && (f.unicode || c.toNat < 0x80)
  | a => a.isKnown f

/-- The place of an atom in the order of the characters, if it is one character. -/
def place? : Atom → Option Nat
  | char c => some c.toNat
  | byte n => some n
  | _ => none

end Atom

/-- The number of a fixed count of hexadecimal digits, behind a number already read. -/
def readHexadecimal (f : Flags) : Nat → Nat → List Char → Option (Nat × List Char)
  | 0, n, s => some (n, s)
  | count + 1, n, s =>
    match f.skip s with
    | [] => none
    | c :: s => do readHexadecimal f count (16 * n + (← hexValue? c)) s

/-- A character by a fixed count of hexadecimal digits. -/
def readScalar (f : Flags) (count : Nat) (s : List Char) : Option (Atom × List Char) := do
  let (n, s) ← readHexadecimal f count 0 s
  if n.isValidChar then some (.char (Char.ofNat n), s) else none

/-- The letters that stand for control characters. -/
def controlLetters : List (Char × Char) :=
  [('a', '\x07'), ('f', '\x0c'), ('n', '\n'), ('r', '\r'), ('t', '\t'), ('v', '\x0b')]

/-- An atom behind a backslash. All of ASCII but letters and digits can stand there for itself. -/
def readEscape (f : Flags) : List Char → Option (Atom × List Char)
  | [] => none
  | 'x' :: s => do
    let (n, s) ← readHexadecimal f 2 0 s
    return (.byte n, s)
  | 'u' :: s => readScalar f 4 s
  | 'U' :: s => readScalar f 8 s
  | c :: s =>
    if c ∈ ['d', 's', 'w'] then some (.shorthand false, s)
    else if c ∈ ['D', 'S', 'W'] then some (.shorthand true, s)
    else if c ∈ ['b', 'B', '<', '>'] then some (.wordEdge, s)
    else if c ∈ ['A', 'z'] then some (.edge, s)
    else match controlLetters.lookup c with
      | some control => some (.char control, s)
      | none => if c ≤ '\x7f' ∧ c.isAlphanum = false then some (.char c, s) else none

/-- An atom that is no class in brackets. -/
def readAtom (f : Flags) : List Char → Option (Atom × List Char)
  | [] => none
  | '\\' :: s => readEscape f s
  | c :: s => some (.char c, s)

/-! ## Classes in brackets -/

/-- The names of the ASCII classes. -/
def classNames : List String :=
  ["alnum", "alpha", "ascii", "blank", "cntrl", "digit", "graph", "lower", "print", "punct",
    "space", "upper", "word", "xdigit"]

/-- An ASCII class by its name between colons, behind its bracket. -/
def readNamed? : List Char → Option (Atom × List Char)
  | ':' :: s =>
    let complement := s.head? = some '^'
    let s := if complement then s.drop 1 else s
    let name := s.takeWhile (· ≠ ':')
    match s.drop name.length with
    | ':' :: ']' :: s =>
      if String.ofList name ∈ classNames then some (.named complement, s) else none
    | _ => none
  | _ => none

/-- An atom of a class, or a range of characters. A dash in front of a bracket or of a second
dash makes no range. -/
def readRange (f : Flags) (s : List Char) : Option (List Char) := do
  let (first, s) ← readAtom f s
  guard (first.isKnownInClass f)
  match f.skip s with
  | '-' :: rest =>
    if f.peek? rest ∈ [some ']', some '-'] then return '-' :: rest
    else
      let (last, s) ← readAtom f (f.skip rest)
      guard (last.isKnownInClass f)
      guard ((← first.place?) ≤ (← last.place?))
      return s
  | s => return s

/-! ## How deep a pattern is -/

/-- **What has been read of a group or of a class**, as far as its depth depends on it. -/
structure Parts where
  /-- The depths of the parts that stand in a row, the last first. -/
  row : List Nat := []
  /-- The depth of what stands in front of the row, on the other side of a sign. -/
  front : Option Nat := none
  deriving DecidableEq, Repr

namespace Parts

/-- One part more, at the end of the row. -/
def push (p : Parts) (depth : Nat) : Parts := { p with row := depth :: p.row }

/-- The last part, repeated. -/
def repeated (p : Parts) : Parts := { p with row := p.row.modifyHead (· + 1) }

/-- The depth of the row. A row of a single part is that part. -/
def rowDepth (p : Parts) : Nat :=
  match p.row with
  | [] => 0
  | [depth] => depth
  | row => row.foldr max 0 + 1

/-- **The depth of all that has been read.** -/
def depth (p : Parts) : Nat :=
  match p.front with
  | none => p.rowDepth
  | some front => max front p.rowDepth + 1

/-- A new alternative. All alternatives of a group lie side by side. -/
def alternative (p : Parts) : Parts := { front := some (max (p.front.getD 0) p.rowDepth) }

/-- A new operand of a class. All that stands in front of the sign is the other one. -/
def operand (p : Parts) : Parts := { front := some p.depth }

end Parts

/-- How deep a pattern may be. -/
def depthLimit : Nat := 250

/-! ## Reading a pattern -/

/-- **A place in a pattern.** In a class, it holds the parts of the class and of those around
it, innermost first. -/
inductive Place
  /-- Outside of all classes, and whether something is there to be repeated. -/
  | outside (repeatable : Bool)
  /-- Behind the opening bracket of a class, and dashes if there are any. -/
  | opening (parts : Parts) (around : List Parts)
  /-- Further on in a class. -/
  | within (parts : Parts) (around : List Parts)
  deriving DecidableEq, Repr

/-- **How far a pattern has been read.** -/
structure Reading where
  flags : Flags := {}
  /-- The parts of the innermost group, or of the pattern. -/
  parts : Parts := {}
  /-- For each open group, innermost first, the flags and the parts around it. -/
  groups : List (Flags × Parts) := []
  /-- The names of groups. -/
  names : List (List Char) := []
  place : Place := .outside false
  deriving DecidableEq, Repr

namespace Reading

/-- Behind a part outside of all classes. -/
def behind (r : Reading) (depth : Nat) : Reading :=
  { r with parts := r.parts.push depth, place := .outside true }

/-- A group that begins. -/
def inGroup (r : Reading) (flags : Flags) : Reading :=
  { r with flags, parts := {}, groups := (r.flags, r.parts) :: r.groups, place := .outside false }

/-- Whether a text names a group. -/
def isName : List Char → Bool
  | [] => false
  | c :: s =>
    (c = '_' || isAlphabetic c) && s.all fun c => c ∈ ['_', '.', '[', ']'] || isAlphanumeric c

/-- A group with a name, which no other group has. -/
def openNamed (r : Reading) (s : List Char) : Option (Reading × List Char) :=
  let name := s.takeWhile (· ≠ '>')
  match s.drop name.length with
  | [] => none
  | _ :: s =>
    if isName name ∧ name ∉ r.names then
      some ({ r.inGroup r.flags with names := name :: r.names }, s)
    else none

/-- What an opening parenthesis begins: a group, or a change of the flags in the group around
it, which is a part that cannot be repeated. -/
def openGroup (r : Reading) : List Char → Option (Reading × List Char)
  | '?' :: 'P' :: '<' :: s => r.openNamed s
  | '?' :: '<' :: s => r.openNamed s
  | '?' :: s => do
    let text := s.takeWhile fun c => c ≠ ':' && c ≠ ')'
    let flags ← r.flags.changed? text
    match s.drop text.length with
    | ':' :: s => some (r.inGroup flags, s)
    | ')' :: s =>
      if text = [] then none
      else some ({ r with flags, parts := r.parts.push 0, place := .outside false }, s)
    | _ => none
  | s => some (r.inGroup r.flags, s)

/-- What an opening bracket begins. The complement of a class of bytes could split a
character. -/
def openClass (r : Reading) (around : List Parts) (s : List Char) :
    Option (Reading × List Char) :=
  let opened := { r with place := .opening {} around }
  match r.flags.skip s with
  | '^' :: s => if r.flags.unicode then some (opened, s) else none
  | s => some (opened, s)

/-- Behind a class, which is a part of the class around it, if there is one. -/
def behindClass (r : Reading) (parts : Parts) : List Parts → Reading
  | [] => r.behind (parts.depth + 1)
  | p :: around => { r with place := .within (p.push (parts.depth + 1)) around }

/-- What follows a sign of repetition. A question mark right behind it belongs to the sign. -/
def behindRepetition : List Char → List Char
  | '?' :: s => s
  | s => s

/-- Reads on outside of all classes. -/
def stepOutside (r : Reading) (repeatable : Bool) : List Char → Option (Reading × List Char)
  | '(' :: s => r.openGroup (r.flags.skip s)
  | ')' :: s =>
    match r.groups with
    | [] => none
    | (flags, parts) :: groups =>
      some ({ r with flags, parts, groups }.behind (r.parts.depth + 1), s)
  | '|' :: s => some ({ r with parts := r.parts.alternative, place := .outside false }, s)
  | '[' :: s => r.openClass [] s
  | '?' :: s | '*' :: s | '+' :: s =>
    if repeatable then some ({ r with parts := r.parts.repeated }, behindRepetition s) else none
  | '{' :: _ => none
  | '^' :: s | '$' :: s => some (r.behind 0, s)
  | '.' :: s => if r.flags.unicode then some (r.behind 0, s) else none
  | s => do
    let (a, s) ← readAtom r.flags s
    guard (a.isKnown r.flags)
    return (r.behind 0, s)

/-- Reads on in a class. -/
def stepWithin (r : Reading) (parts : Parts) (around : List Parts) :
    List Char → Option (Reading × List Char)
  | '[' :: s =>
    match readNamed? s with
    | some (a, s) =>
      if a.isKnownInClass r.flags then some ({ r with place := .within (parts.push 0) around }, s)
      else none
    | none => r.openClass (parts :: around) s
  | ']' :: s => some (r.behindClass parts around, s)
  | '&' :: '&' :: s | '-' :: '-' :: s | '~' :: '~' :: s =>
    some ({ r with place := .within parts.operand around }, s)
  | s => do return ({ r with place := .within (parts.push 0) around }, ← readRange r.flags s)

/-- **Reads on.** Behind an opening bracket, dashes stand for themselves, and so does a
closing bracket that comes first. -/
def step (r : Reading) (s : List Char) : Option (Reading × List Char) :=
  match r.place, s with
  | .outside repeatable, s => r.stepOutside repeatable s
  | .opening parts around, '-' :: s =>
    if (Atom.char '-').isKnownInClass r.flags then
      some ({ r with place := .opening (parts.push 0) around }, s)
    else none
  | .opening parts around, ']' :: s =>
    if parts.row ≠ [] then r.stepWithin parts around (']' :: s)
    else if (Atom.char ']').isKnownInClass r.flags then
      some ({ r with place := .within (parts.push 0) around }, s)
    else none
  | .opening parts around, s => r.stepWithin parts around s
  | .within parts around, s => r.stepWithin parts around s

/-- Whether nothing is open, and nothing too deep. -/
def isComplete (r : Reading) : Bool :=
  match r.place with
  | .outside _ => r.groups.isEmpty && r.parts.depth ≤ depthLimit
  | _ => false

/-- Whether a text can be read to its end in so many steps. -/
def reachesEnd : Nat → Reading → List Char → Bool
  | 0, _, _ => false
  | fuel + 1, r, s =>
    match r.flags.skip s with
    | [] => r.isComplete
    | s =>
      match r.step s with
      | none => false
      | some (r, s) => r.reachesEnd fuel s

end Reading

/-- **Whether a text is a pattern.** Each step takes a character at least. -/
def isPattern (text : List Char) : Bool := Reading.reachesEnd (text.length + 1) {} text

end PeerTelemetry.Pattern
