import PeerTelemetry.Address.Basic
import PeerTelemetry.Number.Numeral

/-!
# Reading addresses

Readers for the textual forms of addresses. Each takes its form off the front of
a text and gives back what follows, and the `?` readers at the end take a whole
text. An IPv4 address has no leading zeros. An IPv6 address may leave out one run of
at least one zero group with `::`, and may end in an IPv4 address, which is not
allowed in front of the `::`. A port may have leading zeros, and so may a scope.
-/

namespace PeerTelemetry.AddressText

/-- **One byte of an IPv4 address**: up to three digits, without leading zeros,
below 256. -/
def readByte (s : List Char) : Option (UInt8 × List Char) :=
  let digits := s.takeWhile Char.isDigit
  let n := ofDecimal digits
  if digits = [] ∨ 3 < digits.length ∨ (digits.head? = some '0' ∧ 1 < digits.length) ∨ 255 < n
  then none
  else some (UInt8.ofNat n, s.dropWhile Char.isDigit)

/-- A character that has to come next. -/
def expect (c : Char) : List Char → Option (List Char)
  | [] => none
  | d :: s => if d = c then some s else none

/-- **An IPv4 address.** -/
def readV4 (s : List Char) : Option (Ipv4 × List Char) := do
  let (a, s) ← readByte s
  let (b, s) ← readByte (← expect '.' s)
  let (c, s) ← readByte (← expect '.' s)
  let (d, s) ← readByte (← expect '.' s)
  return (⟨a, b, c, d⟩, s)

/-- **One group of an IPv6 address**: up to four hexadecimal digits. -/
def readGroup (s : List Char) : Option (UInt16 × List Char) :=
  let digits := s.takeWhile isHexDigit
  if digits = [] ∨ 4 < digits.length then none
  else some (UInt16.ofNat (ofHexadecimal digits), s.dropWhile isHexDigit)

/-- The text in which the next group stands: behind a colon, unless it is the
first. -/
def separated (first : Bool) (s : List Char) : Option (List Char) :=
  if first then some s else expect ':' s

/-- Groups read off a text. -/
structure Groups where
  groups : List UInt16
  /-- Whether the last two of them stood there as an IPv4 address. -/
  endsInV4 : Bool
  rest : List Char

/-- **A run of groups**, as many as there are but no more than `room`. Where there is
room for two, an IPv4 address is tried first, and it ends the run. -/
def readGroups : (room : Nat) → (first : Bool) → List Char → Groups
  | 0, _, s => ⟨[], false, s⟩
  | room + 1, first, s =>
    match if room = 0 then none else (separated first s).bind readV4 with
    | some (ip, rest) => ⟨[groupOfBytes ip.a ip.b, groupOfBytes ip.c ip.d], true, rest⟩
    | none =>
      match (separated first s).bind readGroup with
      | none => ⟨[], false, s⟩
      | some (group, rest) =>
        let more := readGroups room false rest
        ⟨group :: more.groups, more.endsInV4, more.rest⟩

/-- **An IPv6 address**: eight groups, or fewer in front of and behind a `::` that
stands for the rest. -/
def readV6 (s : List Char) : Option (Ipv6 × List Char) :=
  let head := readGroups 8 true s
  match Ipv6.ofGroups? head.groups with
  | some ip => some (ip, head.rest)
  | none =>
    if head.endsInV4 then none
    else match head.rest with
      | ':' :: ':' :: s =>
        let tail := readGroups (7 - head.groups.length) true s
        let zeros := List.replicate (8 - head.groups.length - tail.groups.length) 0
        (Ipv6.ofGroups? (head.groups ++ zeros ++ tail.groups)).map (·, tail.rest)
      | _ => none

/-- A decimal number up to a bound, leading zeros allowed. -/
def readNumber (bound : Nat) (s : List Char) : Option (Nat × List Char) :=
  let digits := s.takeWhile Char.isDigit
  if digits = [] ∨ bound < ofDecimal digits then none
  else some (ofDecimal digits, s.dropWhile Char.isDigit)

/-- The port of a socket address, behind its colon, at the end of the text. -/
def readPort (s : List Char) : Option UInt16 := do
  let (port, rest) ← readNumber 65535 (← expect ':' s)
  if rest = [] then return UInt16.ofNat port else none

/-- An optional scope, behind a percent sign. -/
def readScope : List Char → Option (UInt32 × List Char)
  | '%' :: s => (readNumber 4294967295 s).map fun (scope, rest) => (UInt32.ofNat scope, rest)
  | s => some (0, s)

/-- A bracketed IPv6 address with its port. -/
def readBracketed (s : List Char) : Option SocketAddress := do
  let (ip, s) ← readV6 (← expect '[' s)
  let (scope, s) ← readScope s
  let port ← readPort (← expect ']' s)
  return ⟨.v6 ip, port, scope⟩

/-- An IPv4 address with its port. -/
def readDotted (s : List Char) : Option SocketAddress := do
  let (ip, s) ← readV4 s
  let port ← readPort s
  return ⟨.v4 ip, port, 0⟩

end AddressText

open AddressText

/-- What a reader made of a whole text, nothing left behind. -/
def wholeText {α : Type} : Option (α × List Char) → Option α
  | some (a, []) => some a
  | _ => none

/-- **Reads an IP address.** -/
def IpAddress.parse? (s : List Char) : Option IpAddress :=
  ((wholeText (readV4 s)).map .v4).or ((wholeText (readV6 s)).map .v6)

/-- **Reads a socket address.** -/
def SocketAddress.parse? (s : List Char) : Option SocketAddress :=
  (readDotted s).or (readBracketed s)

/-- The wording for a text that is no socket address. -/
def SocketAddress.syntaxMessage : String := "invalid socket address syntax"

end PeerTelemetry
