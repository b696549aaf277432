/-
# JSON in compact form

* `Json`: a JSON value, with whole numbers and doubles apart; members keep their order;
* `Json.text`: the value without any blank.
-/
import FlowIntake.Text.Quoted
import FlowIntake.Decimal.Shortest

namespace FlowIntake

/-- A JSON value. -/
inductive Json where
  | null
  | bool (b : Bool)
  | int (i : Int)
  /-- A double, by its bits. -/
  | double (bits : UInt64)
  | string (s : String)
  | array (items : List Json)
  | object (members : List (String × Json))

namespace Json

/-- Doubles keep a point, are written out from 0.00001 up to below 10^16, and have no text when
they are no number; the even one of two equally near decimals is taken. -/
def numberStyle : Decimal.Style where
  plain := some (-5, 15)
  pointZero := true
  tieToEven := true
  nan := "null"
  infinite := fun _ => "null"

mutual

/-- The compact text of a value. -/
def text : Json → String
  | null => "null"
  | bool b => if b then "true" else "false"
  | int i => toString i
  | double bits => numberStyle.text bits
  | string s => Quoted.encode s
  | array items => "[" ++ ",".intercalate (itemTexts items) ++ "]"
  | object members => "\x7b" ++ ",".intercalate (memberTexts members) ++ "\x7d"

/-- The text of each item. -/
def itemTexts : List Json → List String
  | [] => []
  | j :: js => text j :: itemTexts js

/-- The text of each member: the quoted name, a colon and the value. -/
def memberTexts : List (String × Json) → List String
  | [] => []
  | (k, j) :: ms => (Quoted.encode k ++ ":" ++ text j) :: memberTexts ms

end

example : text (object [("a", int (-1)), ("b", array [null, string "\n"])])
    = "\x7b\"a\":-1,\"b\":[null,\"\\n\"]\x7d" := by decide +kernel

end Json

end FlowIntake
