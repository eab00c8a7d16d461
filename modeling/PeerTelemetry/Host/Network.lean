import PeerTelemetry.Address.Basic
import PeerTelemetry.Host.Failure

/-!
# The network of a host

What the program asks of the network, for the one socket that it has: the socket itself, what
prepares it, an address, and that a datagram be sent. Every request may be refused, and what the
host answers may depend on all that was asked before.

A `Dialogue` is a row of requests, each of which may depend on the answers so far. It is a value
of its own, which says what is asked without saying who answers: a `Network` that is given, or the
sockets of the machine. To hold it with a network gives the requests that were made next to the
result.

`Network.isolated` is the network of a host with no interface up. Any IPv4 address can be
taken there, for nothing says that it is not one's own; of the IPv6 addresses only the
unspecified one, those that stand for IPv4, and those of groups of hosts. Nothing can
be reached, the host itself not either. The ports below 1024 are not for the program.
-/

namespace PeerTelemetry

/-! ## Requests -/

/-- **What the program asks of the network.** -/
inductive Request
  /-- A socket for datagrams, of one family or the other. -/
  | socket (v6 : Bool)
  /-- That an IPv6 socket receives what is sent over IPv4, too. -/
  | receiveIpv4
  /-- A receive buffer of so many bytes. -/
  | receiveBuffer (size : Nat)
  /-- An address for the socket. -/
  | bind (address : SocketAddress)
  /-- That no call of the socket blocks. -/
  | nonblocking
  /-- That the socket can be waited for. -/
  | register
  /-- The address of the socket. -/
  | localAddress
  /-- That a datagram is sent. -/
  | send (target : SocketAddress) (payload : List UInt8)
  deriving DecidableEq, Repr

namespace Request

/-- What a request that is granted is answered with: the address that is asked for, or the number
of bytes that were sent. -/
abbrev Answer : Request → Type
  | localAddress => SocketAddress
  | send _ _ => Nat
  | socket _ | receiveIpv4 | receiveBuffer _ | bind _ | nonblocking | register => Unit

/-- The datagram that is to be sent, and where to. -/
def datagram? : Request → Option (SocketAddress × List UInt8)
  | send target payload => some (target, payload)
  | _ => none

end Request

/-- **The network of a host**, which answers a request in view of those that were made before. -/
structure Network where
  answer : List Request → (r : Request) → Except OsError r.Answer

/-- **A network that grants requests** which are made one after the other, behind those that were
made before. -/
def Network.Grants (network : Network) : List Request → List Request → Prop
  | _, [] => True
  | before, r :: rest =>
    (∃ a, network.answer before r = .ok a) ∧ network.Grants (before ++ [r]) rest

/-! ## Dialogues -/

/-- **A dialogue with the network**: it is over, or something is asked, and it goes on from the
answer. -/
inductive Dialogue (α : Type)
  | ended (result : α)
  | ask (r : Request) (next : Except OsError r.Answer → Dialogue α)

namespace Dialogue

variable {α β ε : Type}

/-- A dialogue that another one follows. -/
protected def bind : Dialogue α → (α → Dialogue β) → Dialogue β
  | ended a, f => f a
  | ask r next, f => ask r fun answer => (next answer).bind f

instance : Monad Dialogue where
  pure := ended
  bind := Dialogue.bind

/-- **Holds a dialogue with a network** behind the requests that were made before: what it
results in, and what is asked in it. -/
def hold (network : Network) : List Request → Dialogue α → α × List Request
  | _, ended a => (a, [])
  | before, ask r next =>
    let (a, rest) := hold network (before ++ [r]) (next (network.answer before r))
    (a, r :: rest)

/-- Asks for what cannot be done without. -/
def demand (r : Request) (failure : OsError → ε) : ExceptT ε Dialogue r.Answer :=
  ask r fun answer => ended (answer.mapError failure)

/-- **Asks for one thing after the other**, none of which can be done without. -/
def demandAll (failure : Request → OsError → ε) : List Request → ExceptT ε Dialogue Unit
  | [] => pure ()
  | r :: rest => do
    let _ ← demand r (failure r)
    demandAll failure rest

end Dialogue

/-! ## No interface up -/

namespace Network

/-- Whether a port is reserved to the system. -/
def isReserved (port : UInt16) : Bool := 0 < port && port < 1024

/-- The address with a port chosen by the host, if it asked for that. -/
def withPort (chosen : UInt16) (a : SocketAddress) : SocketAddress :=
  if a.port = 0 then { a with port := chosen } else a

/-- Whether two addresses cannot both be taken. -/
def conflicts (a b : SocketAddress) : Bool :=
  a.port = b.port &&
    (a.ip = b.ip || a.ip = a.ip.unspecifiedLike || b.ip = b.ip.unspecifiedLike)

/-- Whether an IPv6 address stands for an IPv4 address. -/
def isMapped (ip : Ipv6) : Bool := ip.groups.take 6 = [0, 0, 0, 0, 0, 0xFFFF]

/-- Whether an IPv6 address is one of a group of hosts. -/
def isMulticast (ip : Ipv6) : Bool := ip.groups.headD 0 / 256 = 0xFF

/-- Whether an IPv6 address belongs to one link, or one interface, and means nothing without
it. -/
def needsLink (ip : Ipv6) : Bool :=
  let first := ip.groups.headD 0
  0xFE80 ≤ first && first < 0xFEC0 || isMulticast ip && (first % 16 = 1 || first % 16 = 2)

/-- What stands against an address as one's own where no interface is up. -/
def objection? : IpAddress → Option OsError
  | .v4 _ => none
  | .v6 ip =>
    if needsLink ip then some .invalidArgument
    else if ip = Ipv6.unspecified ∨ isMapped ip ∨ isMulticast ip then none
    else some .addressNotAvailable

/-- Takes an address where no interface is up, besides those that are taken. -/
def bindIsolated (taken : List SocketAddress) (a : SocketAddress) : Except OsError Unit :=
  if isReserved a.port then .error .permissionDenied
  else match objection? a.ip with
    | some e => .error e
    | none => if taken.any (conflicts a) then .error .addressInUse else .ok ()

/-- Sends where no interface is up. What goes to no address in particular is taken, and
lost. -/
def sendIsolated (target : SocketAddress) (payload : List UInt8) : Except OsError Nat :=
  if target.port = 0 then .error .invalidArgument
  else match target.ip with
    | .v4 ip =>
      if ip = Ipv4.unspecified then .ok payload.length else .error .networkUnreachable
    | .v6 ip =>
      if isMapped ip then .error .networkUnreachable else .error .addressNotAvailable

/-- The address that was asked for last. -/
def boundAddress (before : List Request) : SocketAddress :=
  let bound := before.reverse.findSome? fun
    | .bind a => some a
    | _ => none
  bound.getD { ip := .v4 Ipv4.unspecified, port := 0 }

/-- **The network of a host with no interface up**, where some addresses are taken, and which
hands out one port. -/
def isolated (chosen : UInt16) (taken : List SocketAddress) : Network where
  answer before
    | .bind a => bindIsolated taken a
    | .localAddress => .ok (withPort chosen (boundAddress before))
    | .send target payload => sendIsolated target payload
    | .socket _ | .receiveIpv4 | .receiveBuffer _ | .nonblocking | .register => .ok ()

end Network

end PeerTelemetry
