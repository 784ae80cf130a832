import GpuCluster.Text.Json

/-!
# TOML documents

A document is a tree of tables that its lines build up: a header opens a table, a line `key = value`
adds to the open one, and no line may define anything twice.

* `Toml` : values and tables, each table with the way it came about;
* `Toml.assign`, `Toml.openTable`, `Toml.openItem` : what a line does to the tree;
* `Toml.ofLines?` : the tree of a document;
* `Toml.toJson` : the data of a document.
-/

namespace GpuCluster

/-- How a table came about, which decides what may still be added to it. -/
inductive Toml.Origin where
  /-- By a header of its own. -/
  | header
  /-- On the way to the table of a header. -/
  | path
  /-- By a dotted key. -/
  | dotted
  /-- In braces, complete at once. -/
  | inline
  deriving DecidableEq, Repr

/-- A value of a document. -/
inductive Toml where
  | str (s : String)
  | int (i : Int)
  | float (n : Numeral)
  | bool (b : Bool)
  /-- A date or a time, as written. -/
  | time (text : String)
  | arr (elements : List Toml)
  | table (origin : Toml.Origin) (entries : List (String × Toml))
  /-- The tables of repeated headers in double brackets. -/
  | tables (items : List (List (String × Toml)))
  deriving Inhabited

namespace Toml

/-- The keys of a table with their values. -/
abbrev Entries := List (String × Toml)

/-- The value of a key. -/
def lookup (es : Entries) (key : String) : Option Toml := (es.find? (·.1 == key)).map (·.2)

/-- Bind a key, in its place if it is bound already. -/
def put (key : String) (v : Toml) : Entries → Entries
  | [] => [(key, v)]
  | e :: rest => if e.1 == key then (key, v) :: rest else e :: put key v rest

def changeLast (change : Entries → Option Entries) : List Entries → Option (List Entries)
  | [] => none
  | [item] => (change item).map fun item => [item]
  | item :: rest => (changeLast change rest).map (item :: ·)

/-- Change the table under a key, where a header may lead. Of repeated tables the last one is
meant; a missing table is made on the way. -/
def descend (key : String) (change : Entries → Option Entries) (es : Entries) : Option Entries :=
  match lookup es key with
  | none => (change []).map fun sub => put key (.table .path sub) es
  | some (.table .inline _) => none
  | some (.table origin sub) => (change sub).map fun sub => put key (.table origin sub) es
  | some (.tables items) => (changeLast change items).map fun items => put key (.tables items) es
  | some _ => none

/-- Bind a key in the table that a dotted key leads to. A table that a header opened is closed to
dotted keys, and one that lies on the path of a header takes no values from them. -/
def assign (key : String) (v : Toml) : List String → Entries → Option Entries
  | [], es => if (lookup es key).isSome then none else some (es ++ [(key, v)])
  | p :: ps, es =>
    match lookup es p with
    | none => (assign key v ps []).map fun sub => put p (.table .dotted sub) es
    | some (.table .dotted sub) =>
      (assign key v ps sub).map fun sub => put p (.table .dotted sub) es
    | some (.table .path sub) =>
      if ps = [] then none
      else (assign key v ps sub).map fun sub => put p (.table .path sub) es
    | some (.tables items) =>
      if ps = [] then none
      else (changeLast (assign key v ps) items).map fun items => put p (.tables items) es
    | some _ => none

/-- Open the table of a header. Only a table on the path of a header may be there already. -/
def openTable : List String → Entries → Option Entries
  | [], _ => none
  | [key], es =>
    match lookup es key with
    | none => some (put key (.table .header []) es)
    | some (.table .path sub) => some (put key (.table .header sub) es)
    | some _ => none
  | p :: q :: ps, es => descend p (openTable (q :: ps)) es

/-- Open one more of the tables of a header in double brackets. -/
def openItem : List String → Entries → Option Entries
  | [], _ => none
  | [key], es =>
    match lookup es key with
    | none => some (put key (.tables [[]]) es)
    | some (.tables items) => some (put key (.tables (items ++ [[]])) es)
    | some _ => none
  | p :: q :: ps, es => descend p (openItem (q :: ps)) es

/-- Change the table at a path. -/
def changeAt (change : Entries → Option Entries) : List String → Entries → Option Entries
  | [], es => change es
  | p :: ps, es => descend p (changeAt change ps) es

/-- A line with content. Keys are dotted keys, part by part. -/
inductive Line where
  | header (key : List String)
  | item (key : List String)
  | binding (key : List String) (v : Toml)

/-- A document in the making: the tree and the path of the open table. -/
structure Draft where
  entries : Entries
  openPath : List String

def bind? (key : List String) (v : Toml) (es : Entries) : Option Entries :=
  match key.getLast? with
  | none => none
  | some last => assign last v key.dropLast es

def Draft.add (d : Draft) : Line → Option Draft
  | .header key => (openTable key d.entries).map fun es => ⟨es, key⟩
  | .item key => (openItem key d.entries).map fun es => ⟨es, key⟩
  | .binding key v => (changeAt (bind? key v) d.openPath d.entries).map fun es => ⟨es, d.openPath⟩

/-- The tree of the lines of a document. -/
def ofLines? (lines : List Line) : Option Toml :=
  (lines.foldlM Draft.add ⟨[], []⟩).map fun d => .table .header d.entries

/-- A table in braces. -/
def ofPairs? (pairs : List (List String × Toml)) : Option Toml :=
  (pairs.foldlM (fun es (key, v) => bind? key v es) []).map (.table .inline)

/-! ## Data -/

/-- The member that stands for a date or a time, which is no data of its own. -/
def timeMember : String := "date-time"

mutual
def toJson : Toml → Json
  | str s => .str s
  | int i => .ofInt i
  | float n => .num n
  | bool b => .bool b
  | time text => .obj [(timeMember, .str text)]
  | arr xs => .arr (elementsToJson xs)
  | table _ es => .obj (entriesToJson es)
  | tables items => .arr (itemsToJson items)

def elementsToJson : List Toml → List Json
  | [] => []
  | x :: xs => x.toJson :: elementsToJson xs

def entriesToJson : List (String × Toml) → List (String × Json)
  | [] => []
  | (key, x) :: es => (key, x.toJson) :: entriesToJson es

def itemsToJson : List (List (String × Toml)) → List Json
  | [] => []
  | es :: items => .obj (entriesToJson es) :: itemsToJson items
end

end Toml

end GpuCluster
