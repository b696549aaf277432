/-
# TOML documents

A document is read line by line into tables that remember how they came about, since that decides
what may still be added to them.

* `Origin`: how a table came about;
* `within?`: changes the table that a path leads to, making the tables on the way;
* `value?`: a value of any kind;
* `read?`: the table that a document writes, if it is well formed and names nothing twice.
-/
import FlowIntake.Toml.Scan

namespace FlowIntake.Toml

/-! ## 1. Tables in the making -/

/-- How a table came about: by a header of its own, on the way to a header, or by a key of several
parts. -/
inductive Origin where
  | header
  | implied
  | dotted
deriving DecidableEq

/-- A member of a table in the making. -/
inductive Node where
  | leaf (v : Toml)
  | table (origin : Origin) (members : List (String × Node))
  /-- Tables that each had a header of their own, the latest first. -/
  | tables (latest : List (String × Node)) (earlier : List (List (String × Node)))

/-- The members of a table in the making. -/
abbrev Members := List (String × Node)

/-- Puts a member in the place of the one with its name, or at the end. -/
def put (k : String) (n : Node) : Members → Members
  | [] => [(k, n)]
  | (k', n') :: ms => if k = k' then (k, n) :: ms else (k', n') :: put k n ms

/-- Changes the table that a path leads to.  Tables on the way are made when they are missing; of
tables in a list the latest is meant.  A key of several parts (`dotted`) does not lead into a table
with a header of its own.  Nothing leads into a value. -/
def within? (dotted : Bool) (f : Origin → Members → Option Members) :
    List String → Origin → Members → Option Members
  | [], origin, ms => f origin ms
  | k :: ks, _, ms =>
    match ms.lookup k with
    | none => do
      let origin := if dotted then Origin.dotted else Origin.implied
      let sub ← within? dotted f ks origin []
      some (put k (.table origin sub) ms)
    | some (.leaf _) => none
    | some (.table origin sub) =>
      if dotted ∧ origin = .header then none
      else do
        let sub ← within? dotted f ks origin sub
        some (put k (.table origin sub) ms)
    | some (.tables latest earlier) => do
      let latest ← within? dotted f ks .header latest
      some (put k (.tables latest earlier) ms)

/-- Adds a value under a new name. -/
def addLeaf? (k : String) (v : Toml) (ms : Members) : Option Members :=
  match ms.lookup k with
  | none => some (put k (.leaf v) ms)
  | some _ => none

/-- Adds the table of a header.  One that was only made on the way to another may still get its own
header. -/
def addTable? (k : String) (ms : Members) : Option Members :=
  match ms.lookup k with
  | none => some (put k (.table .header []) ms)
  | some (.table .implied sub) => some (put k (.table .header sub) ms)
  | some _ => none

/-- Adds a table to a list of tables. -/
def addItem? (k : String) (ms : Members) : Option Members :=
  match ms.lookup k with
  | none => some (put k (.tables [] []) ms)
  | some (.tables latest earlier) => some (put k (.tables [] (latest :: earlier)) ms)
  | some _ => none

/-- The last part of a path and those before it. -/
def splitLast : List String → Option (List String × String)
  | [] => none
  | [k] => some ([], k)
  | k :: ks => (splitLast ks).map fun (before, last) => (k :: before, last)

/-- Adds the value of a key to the table that a header opened.  Only a table that keys of several
parts made can be added to by one. -/
def assign? (header key : List String) (v : Toml) (root : Members) : Option Members := do
  let (before, last) ← splitLast key
  let dotted := before ≠ []
  let add (origin : Origin) (ms : Members) : Option Members :=
    if dotted = (origin = .dotted) then addLeaf? last v ms else none
  within? false (fun origin ms => within? dotted add before origin ms) header .header root

/-- Opens the table of a header. -/
def openTable? (header : List String) (root : Members) : Option Members := do
  let (before, last) ← splitLast header
  within? false (fun _ ms => addTable? last ms) before .header root

/-- Opens a table in a list of tables. -/
def openItem? (header : List String) (root : Members) : Option Members := do
  let (before, last) ← splitLast header
  within? false (fun _ ms => addItem? last ms) before .header root

mutual

/-- The value of a member. -/
def Node.toToml : Node → Toml
  | .leaf v => v
  | .table _ ms => .table (tomlMembers ms)
  | .tables latest earlier =>
    .array ((tomlTables earlier).reverse ++ [.table (tomlMembers latest)])

/-- The members of a table. -/
def tomlMembers : List (String × Node) → List (String × Toml)
  | [] => []
  | (k, n) :: ms => (k, n.toToml) :: tomlMembers ms

/-- The tables of a list. -/
def tomlTables : List (List (String × Node)) → List Toml
  | [] => []
  | ms :: mss => .table (tomlMembers ms) :: tomlTables mss

end

/-! ## 2. Values -/

mutual

/-- A value.  Every step takes a character, so that the length of the text is fuel enough. -/
def value? : (fuel : Nat) → Scan Toml
  | 0, _ => none
  | fuel + 1, cs =>
    match cs with
    | '[' :: cs => items? fuel [] cs
    | '\x7b' :: cs => inline? fuel [] cs
    | '"' :: _ => (text? cs).map fun (s, cs) => (.string s, cs)
    | '\'' :: _ => (text? cs).map fun (s, cs) => (.string s, cs)
    | cs => atom? cs

/-- The rest of an array, after the items already read, last one first. -/
def items? : (fuel : Nat) → List Toml → Scan Toml
  | 0, _, _ => none
  | fuel + 1, read, cs =>
    match skipLines cs.length cs with
    | ']' :: cs => some (.array read.reverse, cs)
    | cs => do
      let (v, cs) ← value? fuel cs
      match skipLines cs.length cs with
      | ',' :: cs => items? fuel (v :: read) cs
      | ']' :: cs => some (.array (v :: read).reverse, cs)
      | _ => none

/-- The rest of a table in a value, after the members already read. -/
def inline? : (fuel : Nat) → Members → Scan Toml
  | 0, _, _ => none
  | fuel + 1, ms, cs =>
    match skipLines cs.length cs with
    | '\x7d' :: cs => some (.table (tomlMembers ms), cs)
    | cs => do
      let (key, cs) ← keyPath? cs.length cs
      let cs ← mark? '=' cs
      let (v, cs) ← value? fuel (skipBlanks cs)
      let ms ← assign? [] key v ms
      match skipLines cs.length cs with
      | ',' :: cs => inline? fuel ms cs
      | '\x7d' :: cs => some (.table (tomlMembers ms), cs)
      | _ => none

end

/-! ## 3. Lines -/

/-- Reads line by line, from the members read so far and the header they stand under. -/
def lines? : (fuel : Nat) → (header : List String) → Members → List Char → Option Members
  | 0, _, _, _ => none
  | fuel + 1, header, root, cs =>
    match lineEnd? cs with
    | some [] => some root
    | some cs => lines? fuel header root cs
    | none =>
      match skipBlanks cs with
      | '[' :: '[' :: cs => do
        let (path, cs) ← keyPath? cs.length cs
        let cs ← lineEnd? (← mark? ']' (← mark? ']' cs))
        lines? fuel path (← openItem? path root) cs
      | '[' :: cs => do
        let (path, cs) ← keyPath? cs.length cs
        let cs ← lineEnd? (← mark? ']' cs)
        lines? fuel path (← openTable? path root) cs
      | cs => do
        let (key, cs) ← keyPath? cs.length cs
        let cs ← mark? '=' cs
        let (v, cs) ← value? (cs.length + 1) (skipBlanks cs)
        let cs ← lineEnd? cs
        lines? fuel header (← assign? header key v root) cs

/-- The members of the table that a document writes.  A byte order mark may stand first. -/
def read? (s : String) : Option (List (String × Toml)) :=
  let cs := match s.toList with
    | '\uFEFF' :: cs => cs
    | cs => cs
  (lines? (cs.length + 1) [] [] cs).map tomlMembers

end FlowIntake.Toml
