/-
# Reading JSON

A reader of the JSON grammar (RFC 8259), written without regard to how this library writes JSON:
blanks may stand between any two signs, every escape of a string is known, and a text with
anything left at its end is none.  Each production takes what it needs from the front of the
characters and returns what follows it.

* `Json.Reading`: what a JSON text says; a number is kept as its text;
* `Json.read?`: what a whole text says, if it is JSON;
* `Json.isNumber`: the grammar of numbers.
-/
import FlowIntake.Text.Hex

namespace FlowIntake.Json

/-- What a JSON text says. -/
inductive Reading where
  | null
  | bool (b : Bool)
  /-- A number, by its text. -/
  | number (text : String)
  | string (s : String)
  | array (items : List Reading)
  | object (members : List (String × Reading))
deriving Inhabited

/-! ## 1. Numbers -/

/-- Digits, at least one, and nothing else. -/
def isDigits (cs : List Char) : Bool := !cs.isEmpty && cs.all Char.isDigit

/-- Digits of which the first is no zero, unless it is the only one. -/
def isWhole (cs : List Char) : Bool := isDigits cs && (cs.head? != some '0' || cs.length == 1)

/-- Nothing, or `e`, a sign that may be left out, and digits. -/
def isExponent : List Char → Bool
  | [] => true
  | e :: '+' :: cs => (e == 'e' || e == 'E') && isDigits cs
  | e :: '-' :: cs => (e == 'e' || e == 'E') && isDigits cs
  | e :: cs => (e == 'e' || e == 'E') && isDigits cs

/-- What may follow the whole part: a point with digits, and an exponent. -/
def isFraction : List Char → Bool
  | '.' :: cs => isDigits (cs.takeWhile Char.isDigit) && isExponent (cs.dropWhile Char.isDigit)
  | cs => isExponent cs

/-- A number without its sign. -/
def isUnsigned (cs : List Char) : Bool :=
  isWhole (cs.takeWhile Char.isDigit) && isFraction (cs.dropWhile Char.isDigit)

/-- A number. -/
def isNumber : List Char → Bool
  | '-' :: cs => isUnsigned cs
  | cs => isUnsigned cs

/-! ## 2. Words -/

/-- The characters that numbers and names are made of. -/
def isWord (c : Char) : Bool := c.isAlphanum || c == '-' || c == '+' || c == '.'

/-- The value that a word is. -/
def word? (w : List Char) : Option Reading :=
  if w = "null".toList then some .null
  else if w = "true".toList then some (.bool true)
  else if w = "false".toList then some (.bool false)
  else if isNumber w then some (.number (String.ofList w))
  else none

/-! ## 3. Strings -/

/-- The value of four hexadecimal digits, and what follows them. -/
def fourDigits? : List Char → Option (Nat × List Char)
  | a :: b :: c :: d :: cs => do
    let a ← Hex.digitValue? a
    let b ← Hex.digitValue? b
    let c ← Hex.digitValue? c
    let d ← Hex.digitValue? d
    return (((a * 16 + b) * 16 + c) * 16 + d, cs)
  | _ => none

/-- The character of a code unit, or of a pair of surrogates.  A surrogate alone is none. -/
def unit? (cs : List Char) : Option (Char × List Char) := do
  let (high, cs) ← fourDigits? cs
  if high < 0xD800 ∨ 0xDFFF < high then return (Char.ofNat high, cs)
  if 0xDBFF < high then none
  match cs with
  | '\\' :: 'u' :: cs =>
    let (low, cs) ← fourDigits? cs
    if low < 0xDC00 ∨ 0xDFFF < low then none
    return (Char.ofNat (0x10000 + (high - 0xD800) * 0x400 + (low - 0xDC00)), cs)
  | _ => none

/-- The character that one after a backslash stands for. -/
def escaped? (c : Char) : Option Char :=
  if c = '"' ∨ c = '\\' ∨ c = '/' then some c
  else if c = 'b' then some '\x08'
  else if c = 'f' then some '\x0c'
  else if c = 'n' then some '\n'
  else if c = 'r' then some '\r'
  else if c = 't' then some '\t'
  else none

/-- One character between the quotes, and what follows it.  Control characters may not stand
there, nor may a quote. -/
def character? : List Char → Option (Char × List Char)
  | [] => none
  | c :: cs =>
    if c = '"' ∨ c < ' ' then none
    else if c = '\\' then
      match cs with
      | [] => none
      | d :: cs => if d = 'u' then unit? cs else (escaped? d).map (·, cs)
    else some (c, cs)

/-- The characters up to the closing quote, and what follows it. -/
def characters? : (fuel : Nat) → List Char → Option (List Char × List Char)
  | 0, _ => none
  | fuel + 1, cs =>
    if cs.head? = some '"' then some ([], cs.tail)
    else do
      let (c, cs) ← character? cs
      let (text, cs) ← characters? fuel cs
      return (c :: text, cs)

/-! ## 4. Values -/

/-- The blanks that may stand between signs. -/
def isBlank (c : Char) : Bool := c == ' ' || c == '\t' || c == '\n' || c == '\r'

/-- What follows the blanks. -/
def skip (cs : List Char) : List Char := cs.dropWhile isBlank

/-- What follows a sign. -/
def sign? (c : Char) (cs : List Char) : Option (List Char) :=
  match skip cs with
  | d :: rest => if c = d then some rest else none
  | [] => none

/-- A string in quotes, and what follows it. -/
def string? (fuel : Nat) (cs : List Char) : Option (String × List Char) := do
  let cs ← sign? '"' cs
  let (text, cs) ← characters? fuel cs
  return (String.ofList text, cs)

mutual

/-- A value, and what follows it. -/
def value? : (fuel : Nat) → List Char → Option (Reading × List Char)
  | 0, _ => none
  | fuel + 1, cs =>
    match skip cs with
    | '"' :: _ => (string? fuel cs).map fun (s, cs) => (.string s, cs)
    | '[' :: cs =>
      match sign? ']' cs with
      | some cs => some (.array [], cs)
      | none => (items? fuel cs).map fun (items, cs) => (.array items, cs)
    | '\x7b' :: cs =>
      match sign? '\x7d' cs with
      | some cs => some (.object [], cs)
      | none => (members? fuel cs).map fun (members, cs) => (.object members, cs)
    | cs => (word? (cs.takeWhile isWord)).map fun v => (v, cs.dropWhile isWord)

/-- Values with commas between them up to a closing bracket, and what follows it. -/
def items? : (fuel : Nat) → List Char → Option (List Reading × List Char)
  | 0, _ => none
  | fuel + 1, cs => do
    let (item, cs) ← value? fuel cs
    match sign? ']' cs with
    | some cs => return ([item], cs)
    | none =>
      let (items, cs) ← items? fuel (← sign? ',' cs)
      return (item :: items, cs)

/-- Names with their values, commas between them, up to a closing brace, and what follows it. -/
def members? : (fuel : Nat) → List Char → Option (List (String × Reading) × List Char)
  | 0, _ => none
  | fuel + 1, cs => do
    let (name, cs) ← string? fuel cs
    let (value, cs) ← value? fuel (← sign? ':' cs)
    match sign? '\x7d' cs with
    | some cs => return ([(name, value)], cs)
    | none =>
      let (members, cs) ← members? fuel (← sign? ',' cs)
      return ((name, value) :: members, cs)

end

/-- What a text says, if it is JSON.  Each production takes a character for each unit of fuel. -/
def read? (s : String) : Option Reading :=
  match value? s.length s.toList with
  | some (v, rest) => if skip rest = [] then some v else none
  | none => none

end FlowIntake.Json
