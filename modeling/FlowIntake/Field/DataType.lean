/-
# Abstract data types of fields

A data type says in how many octets a field of it may be written.  Numbers may be written in
fewer octets than their own width; a double in eight or in four.

* `DataType.minLength`, `DataType.maxLength`, `DataType.Accepts`: the lengths of a type;
* `DataType.name`: its name.
-/

namespace FlowIntake

/-- The longest field: lengths have two octets. -/
def maxFieldLength : Nat := 65535

/-- How the octets of a field are to be understood. -/
inductive DataType where
  | unsigned8 | unsigned16 | unsigned32 | unsigned64
  | signed8 | signed16 | signed32 | signed64
  | float32 | float64
  | boolean
  | macAddress
  | octetArray
  | string
  | dateTimeSeconds | dateTimeMilliseconds | dateTimeMicroseconds | dateTimeNanoseconds
  | ipv4Address | ipv6Address
  | basicList | subTemplateList | subTemplateMultiList
deriving DecidableEq, Repr

namespace DataType

/-- Every data type. -/
def all : List DataType :=
  [unsigned8, unsigned16, unsigned32, unsigned64, signed8, signed16, signed32, signed64, float32,
    float64, boolean, macAddress, octetArray, string, dateTimeSeconds, dateTimeMilliseconds,
    dateTimeMicroseconds, dateTimeNanoseconds, ipv4Address, ipv6Address, basicList,
    subTemplateList, subTemplateMultiList]

theorem mem_all (t : DataType) : t ∈ all := by cases t <;> decide

/-- The name of a data type. -/
def name : DataType → String
  | unsigned8 => "unsigned8"
  | unsigned16 => "unsigned16"
  | unsigned32 => "unsigned32"
  | unsigned64 => "unsigned64"
  | signed8 => "signed8"
  | signed16 => "signed16"
  | signed32 => "signed32"
  | signed64 => "signed64"
  | float32 => "float32"
  | float64 => "float64"
  | boolean => "boolean"
  | macAddress => "macAddress"
  | octetArray => "octetArray"
  | string => "string"
  | dateTimeSeconds => "dateTimeSeconds"
  | dateTimeMilliseconds => "dateTimeMilliseconds"
  | dateTimeMicroseconds => "dateTimeMicroseconds"
  | dateTimeNanoseconds => "dateTimeNanoseconds"
  | ipv4Address => "ipv4Address"
  | ipv6Address => "ipv6Address"
  | basicList => "basicList"
  | subTemplateList => "subTemplateList"
  | subTemplateMultiList => "subTemplateMultiList"

/-- The data type of a name. -/
def ofName? (s : String) : Option DataType := all.find? fun t => t.name = s

/-- The fewest octets of a field. -/
def minLength : DataType → Nat
  | unsigned8 | unsigned16 | unsigned32 | unsigned64 => 1
  | signed8 | signed16 | signed32 | signed64 => 1
  | boolean => 1
  | float32 | float64 => 4
  | macAddress => 6
  | dateTimeSeconds | ipv4Address => 4
  | dateTimeMilliseconds | dateTimeMicroseconds | dateTimeNanoseconds => 8
  | ipv6Address => 16
  | octetArray | string | basicList | subTemplateList | subTemplateMultiList => 0

/-- The most octets of a field. -/
def maxLength : DataType → Nat
  | unsigned8 | signed8 | boolean => 1
  | unsigned16 | signed16 => 2
  | unsigned32 | signed32 | float32 => 4
  | unsigned64 | signed64 | float64 => 8
  | macAddress => 6
  | dateTimeSeconds | ipv4Address => 4
  | dateTimeMilliseconds | dateTimeMicroseconds | dateTimeNanoseconds => 8
  | ipv6Address => 16
  | octetArray | string | basicList | subTemplateList | subTemplateMultiList => maxFieldLength

/-- The lengths a field may have: between the fewest and the most octets, and for a double
nothing between the single's four and its own eight. -/
def Accepts (t : DataType) (length : Nat) : Prop :=
  t.minLength ≤ length ∧ length ≤ t.maxLength ∧ (t = float64 → length = 4 ∨ length = 8)

instance (t : DataType) (length : Nat) : Decidable (t.Accepts length) := by
  unfold Accepts; infer_instance

theorem minLength_le_maxLength (t : DataType) : t.minLength ≤ t.maxLength := by
  cases t <;> decide

theorem accepts_maxLength (t : DataType) : t.Accepts t.maxLength := by
  cases t <;> decide

end DataType

end FlowIntake
