/-!
# Addresses

Where a report comes from and where it is sent: an IP address of either family,
and a socket address, which adds a port. The two families stay apart: an IPv6
address that carries an IPv4 address inside is not that IPv4 address.
-/

namespace PeerTelemetry

/-- **An IPv4 address**, in four bytes. -/
structure Ipv4 where
  a : UInt8
  b : UInt8
  c : UInt8
  d : UInt8
  deriving DecidableEq, Repr

/-- **An IPv6 address**, in eight groups of 16 bits. -/
structure Ipv6 where
  groups : List UInt16
  length_groups : groups.length = 8
  deriving DecidableEq, Repr

namespace Ipv6

/-- The address with the given groups, if they are eight. -/
def ofGroups? (groups : List UInt16) : Option Ipv6 :=
  if h : groups.length = 8 then some ⟨groups, h⟩ else none

@[simp] theorem ofGroups?_groups (ip : Ipv6) : ofGroups? ip.groups = some ip := by
  simp [ofGroups?, ip.length_groups]

/-- Any other number of groups is no address. -/
theorem ofGroups?_eq_none {groups : List UInt16} (h : groups.length ≠ 8) :
    ofGroups? groups = none :=
  dif_neg h

/-- The address of no interface in particular. -/
def unspecified : Ipv6 := ⟨List.replicate 8 0, rfl⟩

end Ipv6

/-- The IPv4 address of no interface in particular. -/
def Ipv4.unspecified : Ipv4 := ⟨0, 0, 0, 0⟩

/-- Two bytes as one group, the first in the high half. -/
def groupOfBytes (high low : UInt8) : UInt16 := UInt16.ofNat (256 * high.toNat + low.toNat)

/-- The two bytes of a group, high half first. -/
def bytesOfGroup (group : UInt16) : UInt8 × UInt8 :=
  (UInt8.ofNat (group.toNat / 256), UInt8.ofNat group.toNat)

/-- The two bytes of a group are the group. -/
theorem groupOfBytes_bytesOfGroup (group : UInt16) :
    groupOfBytes (bytesOfGroup group).1 (bytesOfGroup group).2 = group := by
  have hlt := group.toNat_lt
  have hhigh : (UInt8.ofNat (group.toNat / 256)).toNat = group.toNat / 256 := by
    rw [UInt8.toNat_ofNat', Nat.mod_eq_of_lt (by omega)]
  have hlow : (UInt8.ofNat group.toNat).toNat = group.toNat % 256 := UInt8.toNat_ofNat'
  rw [groupOfBytes, bytesOfGroup, hhigh, hlow, Nat.div_add_mod, UInt16.ofNat_toNat]

/-- **An IP address** of either family. -/
inductive IpAddress
  | v4 (ip : Ipv4)
  | v6 (ip : Ipv6)
  deriving DecidableEq, Repr

namespace IpAddress

/-- Whether the address is an IPv6 address. -/
def isV6 : IpAddress → Bool
  | v4 _ => false
  | v6 _ => true

/-- The address of no interface in particular, of the same family. -/
def unspecifiedLike : IpAddress → IpAddress
  | v4 _ => v4 Ipv4.unspecified
  | v6 _ => v6 Ipv6.unspecified

end IpAddress

/-- **A socket address**: an IP address and a port. The scope tells interfaces
apart that share an IPv6 address, and is zero otherwise. -/
structure SocketAddress where
  ip : IpAddress
  port : UInt16
  scope : UInt32 := 0
  deriving DecidableEq, Repr

end PeerTelemetry
