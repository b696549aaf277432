/-
# Information elements

An element gives a field its name and data type.  It is known by an enterprise number and an
identifier; the elements of enterprise 0 are public.  A `Registry` holds the declared ones, and
`Registry.resolve` answers for every other pair too.

* `Registry.resolve_of_get?`: a declared element is itself;
* `Registry.key_resolve`: the element resolved for a pair carries that pair.
-/
import FlowIntake.Field.DataType
import FlowIntake.Keyed

namespace FlowIntake

/-- What a field of a record holds. -/
structure Element where
  enterprise : UInt32
  id : UInt16
  name : String
  type : DataType
deriving DecidableEq

namespace Element

/-- What an element is known by. -/
def key (e : Element) : UInt32 × UInt16 := (e.enterprise, e.id)

/-- The enterprise number of the public elements. -/
def publicEnterprise : UInt32 := 0

/-- The enterprise number under which a public identifier means the reverse direction. -/
def reverseEnterprise : UInt32 := 29305

/-- The name of an element of which nothing is known. -/
def undeclaredName (enterprise : UInt32) (id : UInt16) : String :=
  if enterprise = publicEnterprise then s!"unknown_{id.toNat}"
  else s!"enterprise_{enterprise.toNat}_{id.toNat}"

/-- An element of which nothing is known.  Its octets are kept as they are. -/
def undeclared (enterprise : UInt32) (id : UInt16) : Element :=
  ⟨enterprise, id, undeclaredName enterprise id, .octetArray⟩

/-- The name of an element in the reverse direction: the first letter of the forward name becomes
a capital after `reverse`. -/
def reverseName (forward : String) : String :=
  match forward.toList with
  | [] => "reverse"
  | c :: cs => "reverse" ++ String.ofList (c.toUpper :: cs)

end Element

/-- The declared elements. -/
abbrev Registry := Keyed Element Element.key

namespace Registry

/-- The element of an enterprise number and an identifier: the declared one, else the reverse of a
public one, else one of which nothing is known. -/
def resolve (r : Registry) (enterprise : UInt32) (id : UInt16) : Element :=
  match r.get? (enterprise, id) with
  | some e => e
  | none =>
    if enterprise = Element.reverseEnterprise then
      match r.get? (Element.publicEnterprise, id) with
      | some forward => ⟨enterprise, id, Element.reverseName forward.name, forward.type⟩
      | none => Element.undeclared enterprise id
    else Element.undeclared enterprise id

theorem resolve_of_get? {r : Registry} {enterprise : UInt32} {id : UInt16} {e : Element}
    (h : r.get? (enterprise, id) = some e) : r.resolve enterprise id = e := by
  simp [resolve, h]

theorem key_resolve (r : Registry) (enterprise : UInt32) (id : UInt16) :
    (r.resolve enterprise id).key = (enterprise, id) := by
  unfold resolve
  split
  · rename_i e h; exact Keyed.key_of_get? h
  · split
    · split <;> rfl
    · rfl

end Registry

end FlowIntake
