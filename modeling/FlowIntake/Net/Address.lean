/-
# Internet addresses

* `Address`: an IPv4 or IPv6 address, as its octets;
* `Address.canonical`: an IPv4 address that was mapped into IPv6 is taken out again;
* `SocketAddress`: an address and a port.
-/
import FlowIntake.Wire.Bytes

namespace FlowIntake

/-- An IP address. -/
inductive Address where
  | v4 (octets : Octets 4)
  | v6 (octets : Octets 16)
deriving DecidableEq

namespace Address

/-- The first twelve octets of an IPv4 address mapped into IPv6. -/
def mappedPrefix : Bytes := [0, 0, 0, 0, 0, 0, 0, 0, 0, 0, 0xFF, 0xFF]

/-- The IPv4 address that an IPv6 address maps, if it maps one. -/
def mapped? (o : Octets 16) : Option (Octets 4) :=
  if o.toBytes.take 12 = mappedPrefix then some (Octets.ofBytes 4 (o.toBytes.drop 12)) else none

/-- The address an exporter is known by: a mapped IPv4 address is the IPv4 address. -/
def canonical : Address → Address
  | v4 o => v4 o
  | v6 o =>
    match mapped? o with
    | some q => v4 q
    | none => v6 o

theorem canonical_canonical (a : Address) : a.canonical.canonical = a.canonical := by
  cases a with
  | v4 o => rfl
  | v6 o =>
    cases h : mapped? o with
    | none => simp [canonical, h]
    | some q => simp [canonical, h]

/-- The IPv6 address that maps an IPv4 address. -/
def mapping (o : Octets 4) : Octets 16 :=
  ⟨mappedPrefix ++ o.toBytes, by simp [mappedPrefix, o.size]⟩

@[simp] theorem canonical_mapping (o : Octets 4) : (v6 (mapping o)).canonical = v4 o := by
  simp [canonical, mapped?, mapping, mappedPrefix]

/-- The address that stands for every interface. -/
def isUnspecified : Address → Bool
  | v4 o => o.toBytes.all (· = 0)
  | v6 o => o.toBytes.all (· = 0)

end Address

/-- An address and a port.  An IPv6 address may name the zone it is valid in. -/
structure SocketAddress where
  address : Address
  port : UInt16
  zone : UInt32 := 0
deriving DecidableEq

end FlowIntake
