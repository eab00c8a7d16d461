import PeerTelemetry.Log.Notice
import PeerTelemetry.Log.Pattern
import PeerTelemetry.Number.FloatLiteral
import PeerTelemetry.Number.Integer

/-!
# Directives on what is logged

A directive names the least severity to be logged, and the notices that it is for: those whose
source begins with its *target*, those that have a *field*, or all. Its text is

    target[span{field=value}]=severity

and most of it can be left out. A text without brackets and equals sign is a severity, if it is
one, and a target otherwise; without a severity everything is logged.

A directive may wait for a *span*, or for a field that has a value. This program opens no spans
and its notices have no fields with values, so such a directive is read, and lets nothing
through.

Blanks around a directive do not count when it is taken apart, and they count when its parts are
cut out: a part is what stands at the *same place of the whole text* at which the trimmed text has
it. So a blank in front of a severity makes a target of it, which begins with that blank.
-/

namespace PeerTelemetry

/-! ## Parts of a text by their bytes

A place in a text can be given by the number of bytes in front of it, in UTF-8. Not every number is
a place: a cut has to lie between two characters. -/

/-- The number of bytes of a text. -/
def byteLength : List Char → Nat
  | [] => 0
  | c :: text => c.utf8Size + byteLength text

/-- **What a text begins with**, up to a number of bytes. -/
def takeBytes? : Nat → List Char → Option (List Char)
  | 0, _ => some []
  | _ + 1, [] => none
  | n + 1, c :: text =>
    if c.utf8Size ≤ n + 1 then (takeBytes? (n + 1 - c.utf8Size) text).map (c :: ·) else none

/-- **What is left of a text** behind a number of bytes. -/
def dropBytes? : Nat → List Char → Option (List Char)
  | 0, text => some text
  | _ + 1, [] => none
  | n + 1, c :: text =>
    if c.utf8Size ≤ n + 1 then dropBytes? (n + 1 - c.utf8Size) text else none

/-- The part of a text between two places. -/
def slice? (first last : Nat) (text : List Char) : Option (List Char) := do
  takeBytes? (last - first) (← dropBytes? first text)

/-- **A directive.** -/
structure Directive where
  /-- What the names of its sources begin with, if it is not for all. -/
  target : Option (List Char) := none
  /-- The field that its notices have, if it asks for one. -/
  field : Option (List Char) := none
  /-- Whether it waits for a span or for the value of a field. -/
  waits : Bool := false
  /-- The rank up to which it lets notices through; zero for none. -/
  rank : Nat := Severity.trace.rank
  deriving DecidableEq, Repr

namespace Directive

/-! ## The parts of a directive -/

/-- **The rank that a text stands for**: a number, or a name in any case. -/
def rank? (text : List Char) : Option Nat :=
  match readNat Severity.trace.rank text with
  | .ok n => some n
  | .error _ =>
    ["off", "error", "warn", "info", "debug", "trace"].findIdx?
      (·.toList = text.map Char.toLower)

/-- The rank behind an equals sign; everything, if there is none. -/
def rankOrAll? (text : List Char) : Option Nat :=
  if text = [] then some Severity.trace.rank else rank? text

/-- Whether a text is a value that a field can be asked for. -/
def isValue (text : List Char) : Bool :=
  (FloatLiteral.read text).isSome || Pattern.isPattern text

/-- The name of a field, and whether it is asked for a value. What follows a second equals sign
does not count. -/
def field? (text : List Char) : Option (List Char × Bool) :=
  match text.splitOn '=' with
  | name :: value :: _ => if isValue value then some (name, true) else none
  | [name] => some (name, false)
  | [] => none

/-- A character with which a target may begin. -/
def isTargetStart (c : Char) : Bool := c ∈ ['-', ':', '_'] || isAlphanumeric c

/-! ## Reading a directive -/

/-- The place of the end of a text that has been reached. -/
def placeOf (body rest : List Char) : Nat := byteLength body - byteLength rest

/-- Reads what follows a target, or the brackets: nothing, or a severity. -/
def readRank? (text body : List Char) : List Char → Option Nat
  | [] => some Severity.trace.rank
  | '=' :: rest => do rankOrAll? (← dropBytes? (placeOf body rest) text)
  | _ => none

/-- Reads the brackets, behind the first: whether a span or a value is waited for, the field, and
what follows. A field may stand without a span, and then there has to be one. -/
def readSpan? (text body s : List Char) : Option (Bool × Option (List Char) × List Char) :=
  let span := s.takeWhile fun c => c ≠ ']' && c ≠ '{'
  match s.drop span.length with
  | ']' :: rest => some (true, none, rest)
  | '{' :: s => do
    let s' := s.dropWhile (· ≠ '}')
    let inside ← slice? (placeOf body s) (placeOf body s') text
    let (field, hasValue) ← field? inside
    match inside, s' with
    | _ :: _, '}' :: ']' :: rest => some (span ≠ [] || hasValue, some field, rest)
    | _, _ => none
  | _ => none

/-- **Reads a directive.** -/
def read? (text : List Char) : Option Directive := do
  let body := trimmed text
  guard ((← body.head?) = '[' || isTargetStart (← body.head?))
  let name := body.takeWhile fun c => c ≠ '=' && c ≠ '['
  match body.drop name.length with
  | [] =>
    match rank? text with
    | some rank => return { rank }
    | none => return { target := some text }
  | behind =>
    let target ← if name = [] then some none else (takeBytes? (byteLength name) text).map some
    match behind with
    | '[' :: s =>
      let (waits, field, rest) ← readSpan? text body s
      return { target, field, waits, rank := ← readRank? text body rest }
    | rest => return { target, rank := ← readRank? text body rest }

/-! ## What a directive is for -/

/-- The one field of a notice, which is its wording. -/
def noticeField : List Char := "message".toList

/-- **Whether a directive is for the notices of a source.** -/
def isFor (d : Directive) (source : List Char) : Bool :=
  !d.waits && d.target.all (·.isPrefixOf source) && d.field.all (· = noticeField)

/-- **How much a directive says of its notices**: first by its target, then by its field. -/
def weight (d : Directive) : Nat :=
  2 * (d.target.map fun target => target.length + 1).getD 0 + if d.field.isSome then 1 else 0

end Directive

end PeerTelemetry
