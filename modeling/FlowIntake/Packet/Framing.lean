/-
# The framing of a packet

A packet is a header of sixteen octets and the sets that fill the length the header declares.
Each set is an identifier and a length of two octets each, and a body.

* `Header.parse`: reads and checks the header;
* `splitSets`: cuts the rest into sets before any of them is looked into;
* `RawSet.bytes`, `Header.bytes`: the octets of a set and of a header.
-/
import FlowIntake.Packet.Error

namespace FlowIntake

/-! ## 1. The header -/

/-- The header of a packet. -/
structure Header where
  version : UInt16
  length : UInt16
  exportTime : UInt32
  sequence : UInt32
  domain : UInt32
deriving DecidableEq

namespace Header

/-- How many octets a header has. -/
def size : Nat := 16

/-- The version of the protocol. -/
def protocolVersion : UInt16 := 10

/-- The octets of a header. -/
def bytes (h : Header) : Bytes :=
  Bytes.ofNat 2 h.version.toNat ++ Bytes.ofNat 2 h.length.toNat ++
    Bytes.ofNat 4 h.exportTime.toNat ++ Bytes.ofNat 4 h.sequence.toNat ++
    Bytes.ofNat 4 h.domain.toNat

/-- The number in `n` octets after the first `offset`. -/
def number (bs : Bytes) (offset n : Nat) : Nat := Bytes.value ((bs.drop offset).take n)

/-- The header at the start of a packet.  The declared length must hold the header and must be
there. -/
def parse (bs : Bytes) : Except PacketError Header :=
  if bs.atLeast size then
    let version := UInt16.ofNat (number bs 0 2)
    let length := UInt16.ofNat (number bs 2 2)
    if version ≠ protocolVersion then .error (.unsupportedVersion version)
    else if length.toNat < size ∨ ¬bs.atLeast length.toNat then
      .error (.invalidMessageLength length.toNat bs.length)
    else
      .ok ⟨version, length, UInt32.ofNat (number bs 4 4), UInt32.ofNat (number bs 8 4),
        UInt32.ofNat (number bs 12 4)⟩
  else .error (.truncatedHeader bs.length)

end Header

/-! ## 2. Sets -/

/-- What a set holds. -/
inductive SetKind where
  | template (kind : TemplateKind)
  | data
  | reserved
deriving DecidableEq

/-- The kind of the sets with an identifier. -/
def SetKind.ofId (id : UInt16) : SetKind :=
  if id = TemplateKind.data.setId then .template .data
  else if id = TemplateKind.options.setId then .template .options
  else if minDataSetId ≤ id then .data
  else .reserved

/-- A set without its header. -/
structure RawSet where
  id : UInt16
  body : Bytes
deriving DecidableEq

namespace RawSet

/-- How many octets stand before the body. -/
def headerSize : Nat := 4

/-- What the set holds. -/
def kind (s : RawSet) : SetKind := SetKind.ofId s.id

/-- The octets of a set: its identifier, its length with the four octets of both, its body. -/
def bytes (s : RawSet) : Bytes :=
  Bytes.ofNat 2 s.id.toNat ++ Bytes.ofNat 2 (headerSize + s.body.length) ++ s.body

end RawSet

/-- Cuts octets into sets, all of them or none. -/
def splitBody (bs : Bytes) : Except PacketError (List RawSet) :=
  match bs with
  | [] => .ok []
  | a :: b :: c :: d :: rest =>
    let id := UInt16.ofNat (Bytes.value [a, b])
    let length := Bytes.value [c, d]
    let size := length - RawSet.headerSize
    if length < RawSet.headerSize then .error (.invalidSetLength id length)
    else if Bytes.atLeast size rest then
      (splitBody (rest.drop size)).map (⟨id, rest.take size⟩ :: ·)
    else .error (.setOverrun id length bs.length)
  | short => .error (.truncatedSetHeader short.length)
termination_by bs.length
decreasing_by simp only [List.length_cons, List.length_drop]; omega

/-- The octets between a header and the end it declares; what follows is ignored. -/
def Header.body (h : Header) (bs : Bytes) : Bytes :=
  if size ≤ h.length.toNat ∧ bs.atLeast h.length.toNat then (bs.take h.length.toNat).drop size
  else []

/-- The sets of the packet that a header begins. -/
def splitSets (h : Header) (bs : Bytes) : Except PacketError (List RawSet) :=
  splitBody (h.body bs)

end FlowIntake
