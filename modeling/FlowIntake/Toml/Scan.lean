/-
# The parts of a TOML document

Blanks and comments, keys, strings, and the values that are written without quotes.  Every scanner
takes characters from the front and gives what follows, or nothing when they do not fit.

* `lineEnd?`: the end of a line, with its comment;
* `keyPath?`: a key, possibly of several parts;
* `text?`: a string of any of the four kinds;
* `Atom.ofText?`: a number, a truth value or a date.
-/
import FlowIntake.Text.Hex
import FlowIntake.Toml.Value

namespace FlowIntake.Toml

/-- Takes characters from the front. -/
abbrev Scan (α : Type) := List Char → Option (α × List Char)

/-! ## 1. Blanks, comments and ends of lines -/

/-- A blank within a line. -/
def isBlank (c : Char) : Bool := c = ' ' || c = '\t'

/-- What follows the blanks. -/
def skipBlanks (cs : List Char) : List Char := cs.dropWhile isBlank

/-- A character that a comment may hold. -/
def inComment (c : Char) : Bool := c = '\t' || ('\x20' ≤ c && c ≠ '\x7f')

/-- What follows the end of a line. -/
def newline? : List Char → Option (List Char)
  | '\n' :: cs => some cs
  | '\r' :: '\n' :: cs => some cs
  | _ => none

/-- What follows a comment, if one is there. -/
def skipComment : List Char → List Char
  | '#' :: cs => cs.dropWhile inComment
  | cs => cs

/-- What follows blanks, a comment and the end of the line or of the document. -/
def lineEnd? (cs : List Char) : Option (List Char) :=
  match skipComment (skipBlanks cs) with
  | [] => some []
  | cs => newline? cs

/-- What follows blanks, comments and ends of lines. -/
def skipLines : (fuel : Nat) → List Char → List Char
  | 0, cs => cs
  | fuel + 1, cs =>
    let cs := skipComment (skipBlanks cs)
    match newline? cs with
    | some cs => skipLines fuel cs
    | none => cs

/-! ## 2. Strings -/

/-- A character that a string between quotes `q` holds as it is. -/
def inString (q c : Char) : Bool := c = '\t' || ('\x20' ≤ c && c ≠ '\x7f' && c ≠ q)

/-- The character with the number that exactly `n` hexadecimal digits write. -/
def codePoint? (n : Nat) (cs : List Char) : Option (Char × List Char) := do
  let ds := cs.take n
  let values ← ds.mapM Hex.digitValue?
  let code := values.foldl (fun v d => v * 16 + d) 0
  if ds.length = n ∧ code.isValidChar then some (Char.ofNat code, cs.drop n) else none

/-- The character that an escape writes, after its backslash. -/
def escaped? : List Char → Option (Char × List Char)
  | 'b' :: cs => some ('\x08', cs)
  | 't' :: cs => some ('\t', cs)
  | 'n' :: cs => some ('\n', cs)
  | 'f' :: cs => some ('\x0c', cs)
  | 'r' :: cs => some ('\r', cs)
  | 'e' :: cs => some ('\x1b', cs)
  | '"' :: cs => some ('"', cs)
  | '\\' :: cs => some ('\\', cs)
  | 'x' :: cs => codePoint? 2 cs
  | 'u' :: cs => codePoint? 4 cs
  | 'U' :: cs => codePoint? 8 cs
  | _ => none

/-- The rest of a string in one line, after the characters already read, last one first. -/
def basic? : (fuel : Nat) → List Char → Scan (List Char)
  | 0, _, _ => none
  | _, _, [] => none
  | fuel + 1, read, c :: cs =>
    if c = '"' then some (read.reverse, cs)
    else if c = '\\' then do
      let (e, cs) ← escaped? cs
      basic? fuel (e :: read) cs
    else if inString '"' c then basic? fuel (c :: read) cs
    else none

/-- The rest of a string without escapes in one line. -/
def literal? (cs : List Char) : Option (List Char × List Char) :=
  let text := cs.takeWhile (inString '\'')
  match cs.drop text.length with
  | '\'' :: cs => some (text, cs)
  | _ => none

/-- What follows blanks and ends of lines. -/
def skipSpace (cs : List Char) : List Char :=
  cs.dropWhile fun c => isBlank c || c = '\n' || c = '\r'

/-- What follows a backslash that ends its line: blanks, the end of the line, and all blanks and
ends of lines that come then. -/
def continued? (cs : List Char) : Option (List Char) := (newline? (skipBlanks cs)).map skipSpace

/-- The rest of a string between three quotes `q`, with escapes when `escapes`.  Up to two quotes
may stand before the three that end it. -/
def multiline? (q : Char) (escapes : Bool) : (fuel : Nat) → List Char → Scan (List Char)
  | 0, _, _ => none
  | _, _, [] => none
  | fuel + 1, read, c :: cs =>
    if c = q then
      let quotes := (c :: cs).takeWhile (· = q)
      let rest := (c :: cs).drop quotes.length
      if quotes.length < 3 then multiline? q escapes fuel (quotes ++ read) rest
      else if quotes.length ≤ 5 then some ((quotes.drop 3 ++ read).reverse, rest)
      else none
    else if c = '\\' ∧ escapes then
      match continued? cs with
      | some cs => multiline? q escapes fuel read cs
      | none => do
        let (e, cs) ← escaped? cs
        multiline? q escapes fuel (e :: read) cs
    else if c = '\r' then
      match cs with
      | '\n' :: cs => multiline? q escapes fuel ('\n' :: '\r' :: read) cs
      | _ => none
    else if c = '\n' ∨ inString q c then multiline? q escapes fuel (c :: read) cs
    else none

/-- The first end of a line in a string of several lines is no part of it. -/
def dropNewline (cs : List Char) : List Char := (newline? cs).getD cs

/-- A string of any kind. -/
def text? (cs : List Char) : Option (String × List Char) :=
  let scanned := match cs with
    | '"' :: '"' :: '"' :: cs => multiline? '"' true (cs.length + 1) [] (dropNewline cs)
    | '\'' :: '\'' :: '\'' :: cs => multiline? '\'' false (cs.length + 1) [] (dropNewline cs)
    | '"' :: cs => basic? (cs.length + 1) [] cs
    | '\'' :: cs => literal? cs
    | _ => none
  scanned.map fun (s, cs) => (String.ofList s, cs)

/-! ## 3. Keys -/

/-- A character of a key without quotes. -/
def isBare (c : Char) : Bool := c.isAlphanum || c = '_' || c = '-'

/-- One part of a key. -/
def key? (cs : List Char) : Option (String × List Char) :=
  match cs with
  | '"' :: rest => (basic? cs.length [] rest).map fun (s, cs) => (String.ofList s, cs)
  | '\'' :: rest => (literal? rest).map fun (s, cs) => (String.ofList s, cs)
  | _ =>
    let bare := cs.takeWhile isBare
    if bare = [] then none else some (String.ofList bare, cs.drop bare.length)

/-- The parts of a key, with points between them, and blanks around. -/
def keyPath? : (fuel : Nat) → Scan (List String)
  | 0, _ => none
  | fuel + 1, cs => do
    let (k, cs) ← key? (skipBlanks cs)
    match skipBlanks cs with
    | '.' :: cs =>
      let (ks, cs) ← keyPath? fuel cs
      some (k :: ks, cs)
    | cs => some ([k], cs)

/-! ## 4. Values without quotes -/

/-- The digits of a number in the given radix, single underscores between them. -/
def digits? (radix : Nat) : List Char → Option (List Nat)
  | [] => none
  | c :: cs => do
    let d ← (Hex.digitValue? c).filter (· < radix)
    match cs with
    | [] => some [d]
    | '_' :: cs => some (d :: (← digits? radix cs))
    | cs => some (d :: (← digits? radix cs))

/-- The number that digits write. -/
def number (radix : Nat) (ds : List Nat) : Nat := ds.foldl (fun v d => v * radix + d) 0

/-- The digits of a whole decimal number, which begins with no zero unless it is zero. -/
def decimal? (cs : List Char) : Option (List Nat) := do
  let ds ← digits? 10 cs
  if ds.head? = some 0 ∧ 1 < ds.length then none else some ds

/-- A sign, positive when there is none, and what follows it. -/
def signed (cs : List Char) : Bool × List Char :=
  match cs with
  | '+' :: cs => (false, cs)
  | '-' :: cs => (true, cs)
  | cs => (false, cs)

/-- A whole number. -/
def integer? (cs : List Char) : Option Int :=
  match cs with
  | '0' :: 'x' :: cs => (digits? 16 cs).map fun ds => (number 16 ds : Int)
  | '0' :: 'o' :: cs => (digits? 8 cs).map fun ds => (number 8 ds : Int)
  | '0' :: 'b' :: cs => (digits? 2 cs).map fun ds => (number 2 ds : Int)
  | cs =>
    let (negative, cs) := signed cs
    (decimal? cs).map fun ds => if negative then -(number 10 ds : Int) else number 10 ds

/-- Whether the text is a number with a fraction or an exponent, or an infinity or a NaN. -/
def isFloat (cs : List Char) : Bool :=
  let (_, cs) := signed cs
  if cs = ['i', 'n', 'f'] ∨ cs = ['n', 'a', 'n'] then true
  else
    let whole := cs.takeWhile fun c => c.isDigit || c = '_'
    let cs := cs.drop whole.length
    let exponent (cs : List Char) : Bool := (digits? 10 (signed cs).2).isSome
    (decimal? whole).isSome &&
      match cs with
      | '.' :: cs =>
        let fraction := cs.takeWhile fun c => c.isDigit || c = '_'
        let cs := cs.drop fraction.length
        (digits? 10 fraction).isSome &&
          match cs with
          | [] => true
          | e :: cs => (e = 'e' || e = 'E') && exponent cs
      | e :: cs => (e = 'e' || e = 'E') && exponent cs
      | [] => false

/-- The number that exactly `n` decimal digits write. -/
def fixed? (n : Nat) (cs : List Char) : Option (Nat × List Char) :=
  let ds := cs.take n
  if ds.length = n ∧ ds.all Char.isDigit then
    some (number 10 (ds.map fun c => c.toNat - '0'.toNat), cs.drop n)
  else none

/-- How many days a month has. -/
def daysIn (year month : Nat) : Nat :=
  if month = 2 then
    if year % 4 = 0 ∧ (year % 100 ≠ 0 ∨ year % 400 = 0) then 29 else 28
  else if month = 4 ∨ month = 6 ∨ month = 9 ∨ month = 11 then 30
  else 31

/-- What follows the given character. -/
def mark? (c : Char) : List Char → Option (List Char)
  | d :: cs => if c = d then some cs else none
  | [] => none

/-- What follows a date. -/
def date? (cs : List Char) : Option (List Char) := do
  let (year, cs) ← fixed? 4 cs
  let (month, cs) ← fixed? 2 (← mark? '-' cs)
  let (day, cs) ← fixed? 2 (← mark? '-' cs)
  if 1 ≤ month ∧ month ≤ 12 ∧ 1 ≤ day ∧ day ≤ daysIn year month then some cs else none

/-- What follows a fraction of a second, if one is there. -/
def fraction? (cs : List Char) : Option (List Char) :=
  match cs with
  | '.' :: cs =>
    let ds := cs.takeWhile Char.isDigit
    if ds = [] then none else some (cs.drop ds.length)
  | cs => some cs

/-- What follows a time of day, whose seconds may be missing. -/
def time? (cs : List Char) : Option (List Char) := do
  let (hour, cs) ← fixed? 2 cs
  let (minute, cs) ← fixed? 2 (← mark? ':' cs)
  if hour ≤ 23 ∧ minute ≤ 59 then
    match mark? ':' cs with
    | none => some cs
    | some cs =>
      let (second, cs) ← fixed? 2 cs
      if second ≤ 60 then fraction? cs else none
  else none

/-- Whether the text is a distance from UTC, or nothing. -/
def isOffset (cs : List Char) : Bool :=
  match cs with
  | [] | ['Z'] | ['z'] => true
  | s :: cs =>
    (s = '+' || s = '-') &&
      (do
        let (hour, cs) ← fixed? 2 cs
        let (minute, cs) ← fixed? 2 (← mark? ':' cs)
        return hour ≤ 23 && minute ≤ 59 && cs.isEmpty).getD false

/-- Whether the text is a date, a time of day or both. -/
def isDateTime (cs : List Char) : Bool :=
  match date? cs with
  | some [] => true
  | some (t :: cs) =>
    (t = 'T' || t = 't' || t = ' ') && ((time? cs).map isOffset).getD false
  | none => time? cs = some []

/-- The value that a text without quotes writes. -/
def ofText? (cs : List Char) : Option Toml :=
  if cs = "true".toList then some (.boolean true)
  else if cs = "false".toList then some (.boolean false)
  else
    match integer? cs with
    | some i => some (.integer i)
    | none =>
      if isFloat cs then some .float
      else if isDateTime cs then some .dateTime
      else none

/-- A character of a value without quotes. -/
def inAtom (c : Char) : Bool := c.isAlphanum || c = '_' || c = '+' || c = '-' || c = '.' || c = ':'

/-- A value without quotes.  A blank may stand between a date and a time. -/
def atom? (cs : List Char) : Option (Toml × List Char) :=
  let first := cs.takeWhile inAtom
  let rest := cs.drop first.length
  let second := match rest with
    | ' ' :: rest => rest.takeWhile inAtom
    | _ => []
  if date? first = some [] ∧ (second.head?.map Char.isDigit).getD false then
    (ofText? (first ++ ' ' :: second)).map fun v => (v, rest.drop (second.length + 1))
  else (ofText? first).map fun v => (v, rest)

end FlowIntake.Toml
