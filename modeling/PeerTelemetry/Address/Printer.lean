import PeerTelemetry.Address.Basic
import PeerTelemetry.Number.Numeral

/-!
# The text of an address

IPv4 addresses are four decimal numbers. IPv6 addresses are written in their
recommended short form: groups in lower-case hexadecimal without leading zeros,
the longest run of at least two zero groups left out (the first of them, where
several are equally long), and the last two groups as an IPv4 address only for
the addresses that map one.
-/

namespace PeerTelemetry

/-- The text of an IPv4 address. -/
def Ipv4.text (ip : Ipv4) : List Char :=
  decimal ip.a.toNat ++ '.' :: decimal ip.b.toNat ++ '.' :: decimal ip.c.toNat ++
    '.' :: decimal ip.d.toNat

namespace Ipv6

/-- The text of one group. -/
def groupText (group : UInt16) : List Char := hexadecimal group.toNat

/-- The text of groups with a colon between each two. -/
def groupsText (groups : List UInt16) : List Char :=
  [':'].intercalate (groups.map groupText)

/-- The number of zero groups from a position on, up to the first other. -/
def zerosFrom (groups : List UInt16) (start : Nat) : Nat :=
  ((groups.drop start).takeWhile (· = 0)).length

/-- **The longest run of zero groups**: where it starts, and its length. Of runs
of equal length it is the first. -/
def longestZeroRun (groups : List UInt16) : Nat × Nat :=
  (List.range groups.length).foldl
    (fun best start =>
      if best.2 < zerosFrom groups start then (start, zerosFrom groups start) else best)
    (0, 0)

/-- The IPv4 address that an IPv6 address maps, if it maps one. -/
def mapped? (ip : Ipv6) : Option Ipv4 :=
  match ip.groups with
  | [0, 0, 0, 0, 0, 0xFFFF, high, low] =>
    let (a, b) := bytesOfGroup high
    let (c, d) := bytesOfGroup low
    some ⟨a, b, c, d⟩
  | _ => none

/-- The text of an IPv6 address. -/
def text (ip : Ipv6) : List Char :=
  match ip.mapped? with
  | some inner => "::ffff:".toList ++ inner.text
  | none =>
    let (start, length) := longestZeroRun ip.groups
    if 1 < length then
      groupsText (ip.groups.take start) ++ "::".toList ++
        groupsText (ip.groups.drop (start + length))
    else groupsText ip.groups

end Ipv6

/-- **The text of an IP address.** -/
def IpAddress.text : IpAddress → List Char
  | v4 ip => ip.text
  | v6 ip => ip.text

/-- **The text of a socket address.** An IPv6 address stands in brackets, with
its scope if it has one, so that its colons are not taken for that of the port. -/
def SocketAddress.text (a : SocketAddress) : List Char :=
  match a.ip with
  | .v4 ip => ip.text ++ ':' :: decimal a.port.toNat
  | .v6 ip =>
    let scope := if a.scope = 0 then [] else '%' :: decimal a.scope.toNat
    '[' :: ip.text ++ scope ++ "]:".toList ++ decimal a.port.toNat

instance : ToString SocketAddress := ⟨fun a => String.ofList a.text⟩

instance : ToString IpAddress := ⟨fun ip => String.ofList ip.text⟩

end PeerTelemetry
