import GpuCluster.Text.Json

/-!
# Reading JSON

`Json.parse? s` reads exactly one value with blanks around it, by the strict grammar: no
comments, no trailing commas, no leading zeros, no control characters inside strings.

* `skipBlanks`, `readNumeral`, `readString` : the tokens;
* `StringUnit`, `joinUnits` : escapes may name halves of surrogate pairs, which are joined here;
* `value`, `elements`, `members` : the grammar, on fuel that bounds the nesting and the lengths.
-/

namespace GpuCluster.Json

/-! ## Tokens -/

/-- The four characters that may stand between tokens. -/
def isBlank (c : Char) : Bool := c = ' ' || c = '\n' || c = '\r' || c = '\t'

def skipBlanks (s : List Char) : List Char := s.dropWhile isBlank

/-- The fraction after a numeral's whole part: its value, its length and the rest. -/
def readFraction : List Char → Option (Nat × Nat × List Char)
  | '.' :: rest => match Decimal.readDigits rest with
    | (_, 0, _) => none
    | found => some found
  | rest => some (0, 0, rest)

/-- The exponent part, zero if there is none. -/
def readPower (s : List Char) : Option (Option Int × List Char) :=
  match s with
  | 'e' :: _ | 'E' :: _ => (Decimal.readExponent s).map fun (e, rest) => (some e, rest)
  | rest => some (none, rest)

/-- A numeral: an optional minus sign, a whole part without leading zeros, an optional fraction
and an optional exponent. -/
def readNumeral (s : List Char) : Option (Numeral × List Char) := do
  let (negative, s) := match s with
    | '-' :: r => (true, r)
    | r => (false, r)
  let (whole, count, rest) := Decimal.readDigits s
  if count = 0 then none
  if 1 < count ∧ s.head? = some '0' then none
  let (fraction, places, rest) ← readFraction rest
  let (power, rest) ← readPower rest
  some (⟨negative, whole * Nat.pow 10 places + fraction, power.getD 0 - places,
    places = 0 && power.isNone⟩, rest)

/-- What one escape or character of a string stands for. -/
inductive StringUnit where
  | char (c : Char)
  /-- A half of a surrogate pair, `0xD800` to `0xDFFF`. -/
  | half (code : Nat)

def hexDigit? (c : Char) : Option Nat :=
  if c.isDigit then some (c.toNat - '0'.toNat)
  else if 'a' ≤ c ∧ c ≤ 'f' then some (c.toNat - 'a'.toNat + 10)
  else if 'A' ≤ c ∧ c ≤ 'F' then some (c.toNat - 'A'.toNat + 10)
  else none

def hexCode? (a b c d : Char) : Option Nat := do
  return (((← hexDigit? a) * 16 + (← hexDigit? b)) * 16 + (← hexDigit? c)) * 16 + (← hexDigit? d)

/-- The character a short escape stands for. -/
def shortEscape? : Char → Option Char
  | '\x22' => some '\x22'
  | '\\' => some '\\'
  | '/' => some '/'
  | 'b' => some '\x08'
  | 'f' => some '\x0c'
  | 'n' => some '\n'
  | 'r' => some '\r'
  | 't' => some '\t'
  | _ => none

/-- The unit of a code. -/
def unitOf (code : Nat) : StringUnit :=
  if 0xD800 ≤ code ∧ code ≤ 0xDFFF then .half code else .char (Char.ofNat code)

/-- The units of a string after its opening quote, and what follows the closing quote. -/
def readUnits : List Char → Option (List StringUnit × List Char)
  | [] => none
  | '\x22' :: rest => some ([], rest)
  | '\\' :: 'u' :: a :: b :: c :: d :: rest =>
    match hexCode? a b c d, readUnits rest with
    | some code, some (units, rest) => some (unitOf code :: units, rest)
    | _, _ => none
  | '\\' :: e :: rest =>
    match shortEscape? e, readUnits rest with
    | some c, some (units, rest) => some (.char c :: units, rest)
    | _, _ => none
  | c :: rest =>
    if c.toNat < 32 then none
    else (readUnits rest).map fun (units, rest) => (.char c :: units, rest)

/-- The text of units: a high half joins the low half right after it, any other half has no
text. -/
def joinUnits : List StringUnit → Option (List Char)
  | [] => some []
  | .char c :: rest => (joinUnits rest).map (c :: ·)
  | .half high :: .half low :: rest =>
    if high < 0xDC00 ∧ 0xDC00 ≤ low then
      (joinUnits rest).map (Char.ofNat (0x10000 + (high - 0xD800) * 0x400 + (low - 0xDC00)) :: ·)
    else none
  | .half _ :: _ => none

/-- A string after its opening quote: its text, if it has one, and what follows. -/
def readString (s : List Char) : Option (Option String × List Char) :=
  (readUnits s).map fun (units, rest) => ((joinUnits units).map String.ofList, rest)

/-! ## Values -/

mutual
/-- One value and what follows it. -/
def value : Nat → List Char → Option (Json × List Char)
  | 0, _ => none
  | fuel + 1, s => match skipBlanks s with
    | 'n' :: 'u' :: 'l' :: 'l' :: rest => some (null, rest)
    | 't' :: 'r' :: 'u' :: 'e' :: rest => some (bool true, rest)
    | 'f' :: 'a' :: 'l' :: 's' :: 'e' :: rest => some (bool false, rest)
    | '\x22' :: rest => (readString rest).map fun (text, rest) =>
        (match text with | some t => str t | none => unpaired, rest)
    | '[' :: rest => match skipBlanks rest with
      | ']' :: rest => some (arr [], rest)
      | rest => (elements fuel rest).map fun (xs, rest) => (arr xs, rest)
    | '\x7b' :: rest => match skipBlanks rest with
      | '\x7d' :: rest => some (obj [], rest)
      | rest => (members fuel rest).map fun (ms, rest) => (obj ms, rest)
    | rest => (readNumeral rest).map fun (n, rest) => (num n, rest)

/-- One or more elements up to the closing bracket. -/
def elements : Nat → List Char → Option (List Json × List Char)
  | 0, _ => none
  | fuel + 1, s => match value fuel s with
    | none => none
    | some (x, rest) => match skipBlanks rest with
      | ',' :: rest => (elements fuel rest).map fun (xs, rest) => (x :: xs, rest)
      | ']' :: rest => some ([x], rest)
      | _ => none

/-- One or more members up to the closing brace. -/
def members : Nat → List Char → Option (List (String × Json) × List Char)
  | 0, _ => none
  | fuel + 1, s => match skipBlanks s with
    | '\x22' :: rest => match readString rest with
      | some (some name, rest) => match skipBlanks rest with
        | ':' :: rest => match value fuel rest with
          | none => none
          | some (x, rest) => match skipBlanks rest with
            | ',' :: rest => (members fuel rest).map fun (ms, rest) => ((name, x) :: ms, rest)
            | '\x7d' :: rest => some ([(name, x)], rest)
            | _ => none
        | _ => none
      | _ => none
    | _ => none
end

/-- The value that a text holds, with blanks around it. -/
def parse? (text : String) : Option Json :=
  let s := text.toList
  match value (2 * s.length + 2) s with
  | some (j, rest) => if skipBlanks rest = [] then some j else none
  | none => none

end GpuCluster.Json
