/-
# TOML values

* `Toml`: a value, with the members of a table in the order in which they were first named.
-/

namespace FlowIntake

/-- A TOML value.  Of a number with a fraction and of a date only the kind is kept. -/
inductive Toml where
  | string (s : String)
  | integer (i : Int)
  | float
  | boolean (b : Bool)
  | dateTime
  | array (items : List Toml)
  | table (members : List (String × Toml))

end FlowIntake
