/-
# The network a collector runs in

* `Network`: which sockets can be bound, and what can be sent;
* `Network.deliver`: datagrams sent one after another;
* `Network.down`: a machine none of whose interfaces is up.
-/
import FlowIntake.Net.Address
import FlowIntake.Net.Fault

namespace FlowIntake

/-- What arrives at a socket, and from whom. -/
structure Datagram where
  peer : SocketAddress
  payload : Bytes
deriving DecidableEq

/-- Which sockets can be bound, and what can be sent. -/
structure Network where
  /-- Why a socket cannot be bound to an address. -/
  bindFault? : SocketAddress → Option IoFault
  /-- Why a datagram from one address cannot be sent to another. -/
  sendFault? : (source destination : SocketAddress) → Option IoFault

namespace Network

/-- Sends datagrams to an address one after another: all of them arrive, or the first that its
sender cannot send ends the matter. -/
def deliver (n : Network) (destination : SocketAddress) :
    List Datagram → Except IoFault (List Datagram)
  | [] => .ok []
  | d :: ds =>
    match n.bindFault? { d.peer with port := 0 } with
    | some f => .error f
    | none =>
      match n.sendFault? d.peer destination with
      | some f => .error f
      | none => (n.deliver destination ds).map (d :: ·)

/-- A machine where every address is at home and everything arrives. -/
def up : Network := ⟨fun _ => none, fun _ _ => none⟩

/-- Whether an address can be bound when no interface has addresses: every IPv4 address can, and of
the IPv6 addresses those that map one and the one that stands for every interface. -/
def bindableWhenDown (a : Address) : Bool :=
  match a.canonical with
  | .v4 _ => true
  | .v6 _ => a.isUnspecified

/-- A machine none of whose interfaces is up: there is no way to any destination. -/
def down : Network where
  bindFault? a := if bindableWhenDown a.address then none else some .addressNotAvailable
  sendFault? _ _ := some .networkUnreachable

/-- The network when a port is held by another socket. -/
def withPortTaken (n : Network) : Network :=
  { n with bindFault? := fun a => (n.bindFault? a).or (some .addressInUse) }

end Network

end FlowIntake
