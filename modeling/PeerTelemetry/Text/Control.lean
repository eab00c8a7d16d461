import PeerTelemetry.Number.Numeral

/-!
# Control sequences

A terminal takes some characters of a text as orders: the control characters, and the *control
sequences* that an escape character opens. This module knows two ways to write a text in which
there are none.

* `withoutControls` drops the orders. What stays is the plain form of a styled text, whose
  blanks and ends of lines are kept.
* `escapedControls` keeps the orders of the text visible as escapes, except those
  that only move on within the text.

How far a control sequence reaches is decided character by character, by the ASCII characters in
it; others are lost in it without effect. A sequence that never ends takes the rest of the text
with it. One rule looks below the characters: what a string carries is bytes to the terminal, and
the byte `0x9c` ends it, which other characters may hold in their encoding.
-/

namespace PeerTelemetry

/-! ## Dropping the orders -/

/-- **What the next character of a text belongs to.** -/
inductive ControlState
  /-- The text itself. -/
  | ground
  /-- A sequence that has only been opened. -/
  | escape
  /-- A sequence of a few characters, of which the last is still missing. -/
  | intermediate
  /-- A sequence with parameters, which a letter ends. -/
  | parameters
  /-- A command to the terminal's system, which a bell ends. -/
  | command
  /-- The header of a string to the terminal's device, which has only been opened. -/
  | header
  /-- The parameters in such a header. -/
  | headerParameters
  /-- What stands in such a header behind the parameters. -/
  | headerIntermediate
  /-- A string of any characters, which the byte `0x9c` or another order ends. -/
  | string
  deriving DecidableEq, Repr

namespace ControlState

/-- A blank or an end of a line or page, which is part of the text although it is a control
character. -/
def isLayout (c : Char) : Bool := c = '\t' || c = '\n' || c = '\x0c' || c = '\r'

/-- A character of the text itself that is shown. Outside of ASCII there are no orders. -/
def isShown (c : Char) : Bool := isLayout c || ' ' ≤ c && c ≠ '\x7f'

/-- The state behind a character that follows the escape character. -/
def opened (c : Char) : ControlState :=
  if c = '[' then parameters
  else if c = ']' then command
  else if c = 'P' then header
  else if c ∈ ['X', '^', '_'] then string
  else if ' ' ≤ c ∧ c ≤ '/' then intermediate
  else if '0' ≤ c ∧ c ≤ '~' then ground
  else escape

/-- The state behind a character in the header of a string. A letter ends the header, and so does
a sign that is out of place in it. -/
def inHeader (state : ControlState) (c : Char) : ControlState :=
  if ' ' ≤ c ∧ c ≤ '/' then headerIntermediate
  else if '0' ≤ c ∧ c ≤ '~' then
    match state with
    | header => if c ≤ '?' then headerParameters else string
    | headerParameters => if c ≤ ';' then headerParameters else string
    | _ => string
  else state

/-- Whether a string ends in the encoding of a character. -/
def endsString (c : Char) : Bool := 0x9c ∈ String.utf8EncodeChar c

/-- **The state behind a character, and whether the character is shown.** The escape character
opens a sequence anywhere, and two control characters cancel one. In a short sequence, and in one
with parameters, layout is text again; what is not ASCII is nothing there. -/
def step (state : ControlState) (c : Char) : ControlState × Bool :=
  if c = '\x1b' then (escape, false)
  else if c = '\x18' ∨ c = '\x1a' then (ground, false)
  else match state with
    | ground => (ground, isShown c)
    | escape => if isLayout c then (ground, true) else (opened c, false)
    | intermediate =>
      if isLayout c then (ground, true)
      else (if '0' ≤ c ∧ c ≤ '~' then ground else intermediate, false)
    | parameters =>
      if isLayout c then (ground, true)
      else (if '@' ≤ c ∧ c ≤ '~' then ground else parameters, false)
    | command => (if c = '\x07' then ground else command, false)
    | string => (if endsString c then ground else string, false)
    | header | headerParameters | headerIntermediate => (state.inHeader c, false)

/-- The text behind a state, without orders. -/
def plain : ControlState → List Char → List Char
  | _, [] => []
  | state, c :: text =>
    let (next, shown) := state.step c
    if shown then c :: plain next text else plain next text

end ControlState

/-- **A text without its orders.** -/
def withoutControls (text : List Char) : List Char := ControlState.ground.plain text

/-! ## Showing the orders -/

/-- A control character as it is shown. Those that neither ring, nor erase, nor open a sequence,
nor begin a page are left to the terminal. -/
def escapedControl (c : Char) : List Char :=
  match c with
  | '\x07' => "\\x07".toList
  | '\x08' => "\\x08".toList
  | '\x0c' => "\\x0c".toList
  | '\x1b' => "\\x1b".toList
  | '\x7f' => "\\x7f".toList
  | c =>
    if '\x80' ≤ c ∧ c ≤ '\u009f' then
      "\\u\x7b".toList ++ hexadecimal c.toNat ++ "\x7d".toList
    else [c]

/-- **A text with its orders shown as escapes.** -/
def escapedControls (text : List Char) : List Char := text.flatMap escapedControl

end PeerTelemetry
