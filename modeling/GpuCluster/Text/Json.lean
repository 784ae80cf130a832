import GpuCluster.Text.Bindings
import GpuCluster.Text.Decimal

/-!
# JSON values

* `Json` : a value, with numbers as written and members in order of appearance;
* `Json.depth`, `Json.readable` : what a value must satisfy to be taken as data;
* `Json.member?`, `Json.text?`, `Json.int?`, ... : reading one value;
* `Json.render` : the text of a value, without blanks.
-/

namespace GpuCluster

/-- A JSON value. Members keep their order and may repeat a name. -/
inductive Json where
  | null
  | bool (b : Bool)
  | num (n : Numeral)
  | str (s : String)
  /-- A string that names half of a surrogate pair, so that it is no text. -/
  | unpaired
  | arr (elements : List Json)
  | obj (members : List (String × Json))
  deriving Inhabited

namespace Json

/-! ## What counts as data -/

mutual
/-- How many arrays and objects lie around the innermost value. -/
def depth : Json → Nat
  | arr xs => elementsDepth xs + 1
  | obj ms => membersDepth ms + 1
  | _ => 0

def elementsDepth : List Json → Nat
  | [] => 0
  | x :: xs => max x.depth (elementsDepth xs)

def membersDepth : List (String × Json) → Nat
  | [] => 0
  | (_, x) :: ms => max x.depth (membersDepth ms)
end

mutual
/-- Every number is a finite double and every string is a text. -/
def scalarsReadable : Json → Bool
  | num n => n.isFinite
  | unpaired => false
  | arr xs => elementsReadable xs
  | obj ms => membersReadable ms
  | _ => true

def elementsReadable : List Json → Bool
  | [] => true
  | x :: xs => x.scalarsReadable && elementsReadable xs

def membersReadable : List (String × Json) → Bool
  | [] => true
  | (_, x) :: ms => x.scalarsReadable && membersReadable ms
end

/-- The deepest nesting of data, counted from the root of a text. -/
def depthLimit : Nat := 127

/-- The value can be taken as data below `outer` enclosing arrays and objects. -/
def readable (outer : Nat) (j : Json) : Bool :=
  outer + j.depth ≤ depthLimit && j.scalarsReadable

/-! ## Reading one value -/

/-- The last member of this name. -/
def member? (j : Json) (name : String) : Option Json :=
  match j with
  | obj ms => (ms.reverse.find? (·.1 == name)).map (·.2)
  | _ => none

/-- The object with each name once, the last member of a name standing for all. -/
def withLastMembers : Json → Json
  | obj ms => obj (go ms)
  | j => j
where
  go : List (String × Json) → List (String × Json)
    | [] => []
    | m :: rest => if rest.any (·.1 == m.1) then go rest else m :: go rest

/-- A member that is absent counts as null. -/
def memberOrNull (j : Json) (name : String) : Json := (j.member? name).getD null

def isNull : Json → Bool
  | null => true
  | _ => false

def text? : Json → Option String
  | str s => some s
  | _ => none

def bool? : Json → Option Bool
  | bool b => some b
  | _ => none

def int? : Json → Option Int
  | num n => n.toInt?
  | _ => none

/-- An integer from `lo` to `hi`. -/
def intWithin? (lo hi : Int) (j : Json) : Option Int :=
  j.int?.filter fun i => lo ≤ i && i ≤ hi

def u32? (j : Json) : Option UInt32 :=
  (j.intWithin? 0 (UInt32.size - 1 : Nat)).map fun i => UInt32.ofNat i.toNat

def u64? (j : Json) : Option UInt64 :=
  (j.intWithin? 0 (UInt64.size - 1 : Nat)).map fun i => UInt64.ofNat i.toNat

def i32? (j : Json) : Option Int32 :=
  (j.intWithin? Int32.minValue.toInt Int32.maxValue.toInt).map Int32.ofInt

def i64? (j : Json) : Option Int64 :=
  (j.intWithin? Int64.minValue.toInt Int64.maxValue.toInt).map Int64.ofInt

/-- A number; an integer counts as one. -/
def float? : Json → Option Float
  | num n => some n.toFloat
  | _ => none

def list? : Json → Option (List Json)
  | arr xs => some xs
  | _ => none

/-- A list of values of one kind. -/
def listOf? {α : Type} (item : Json → Option α) (j : Json) : Option (List α) :=
  j.list?.bind (·.mapM item)

/-- Null, or a value of this kind. -/
def nullOr? {α : Type} (item : Json → Option α) (j : Json) : Option (Option α) :=
  match j with
  | null => some none
  | j => (item j).map some

/-- Members of one kind; of a repeated name the last one counts. -/
def mapOf? {α : Type} (item : Json → Option α) (j : Json) : Option (Bindings α) :=
  match j with
  | obj ms => (entries? ms).map Bindings.ofList
  | _ => none
where
  entries? : List (String × Json) → Option (List (String × α))
    | [] => some []
    | (name, x) :: rest => do return (name, ← item x) :: (← entries? rest)

/-! ## Building values -/

def ofInt (i : Int) : Json := num (.ofInt i)

def ofNat (n : Nat) : Json := ofInt n

/-- Null for no value. -/
def ofOption {α : Type} (item : α → Json) : Option α → Json
  | none => null
  | some a => item a

def ofList {α : Type} (item : α → Json) (xs : List α) : Json := arr (xs.map item)

def ofStrings (xs : List String) : Json := ofList str xs

/-- One member per bound name. -/
def ofBindings (b : Bindings String) : Json := obj (b.entries.map fun e => (e.1, str e.2))

/-- A 64-bit word as sixteen hexadecimal digits. -/
def hexWord (w : UInt64) : String :=
  let digits := Nat.toDigits 16 w.toNat
  String.ofList (List.replicate (16 - digits.length) '0' ++ digits)

/-- A double is written by its bits, so that nothing is lost; every undefined value is one. -/
def ofFloat (x : Float) : Json :=
  str ("f64:" ++ if x.isNaN then "nan" else hexWord x.toBits)

/-! ## Text -/

/-- A control character below the blank as `\u` and four hexadecimal digits. -/
def escapeControl (c : Char) : List Char :=
  let digits := Nat.toDigits 16 c.toNat
  '\\' :: 'u' :: (List.replicate (4 - digits.length) '0' ++ digits)

/-- One character inside a string. -/
def escapeChar (c : Char) : List Char :=
  if c = '\x22' then ['\\', '\x22']
  else if c = '\\' then ['\\', '\\']
  else if c = '\n' then ['\\', 'n']
  else if c = '\r' then ['\\', 'r']
  else if c = '\t' then ['\\', 't']
  else if c.toNat < 32 then escapeControl c
  else [c]

def renderText (s : String) : String :=
  "\"" ++ String.ofList (s.toList.flatMap escapeChar) ++ "\""

/-- A numeral; its exponent is written out as zeros or as an exponent part. -/
def renderNumeral (n : Numeral) : String :=
  (if n.negative then "-" else "") ++ toString n.digits ++
    (if n.whole then "" else "e" ++ toString n.exponent)

mutual
def render : Json → String
  | null => "null"
  | bool b => if b then "true" else "false"
  | num n => renderNumeral n
  | str s => renderText s
  | unpaired => "\"\\ud800\""
  | arr xs => "[" ++ ",".intercalate (renderElements xs) ++ "]"
  | obj ms => "\x7b" ++ ",".intercalate (renderMembers ms) ++ "\x7d"

def renderElements : List Json → List String
  | [] => []
  | x :: xs => x.render :: renderElements xs

/-- The texts of the members, each with its name. -/
def renderMembers : List (String × Json) → List String
  | [] => []
  | (name, x) :: ms => (renderText name ++ ":" ++ x.render) :: renderMembers ms
end

end Json

end GpuCluster
