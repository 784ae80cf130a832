/-!
# Decimal numerals

* `Numeral` : a decimal numeral as written, `± digits · 10 ^ exponent`;
* `Numeral.toFloat` : the nearest double, infinite beyond the largest one;
* `readDigits` : the longest run of decimal digits at the start of a text;
* `parseFloat` : the text form of a floating-point value, which also knows infinity and NaN;
* `parseInteger` : an optional sign and decimal digits.
-/

namespace GpuCluster

/-- A decimal numeral as written: `± digits · 10 ^ exponent`. -/
structure Numeral where
  negative : Bool
  digits : Nat
  exponent : Int
  /-- Written with neither a fraction nor an exponent. -/
  whole : Bool
  deriving DecidableEq, Repr, Inhabited

namespace Numeral

/-- The nearest double to the absolute value. -/
def magnitude (n : Numeral) : Float :=
  Float.ofScientific n.digits (n.exponent < 0) n.exponent.natAbs

/-- The nearest double; a negative zero keeps its sign. -/
def toFloat (n : Numeral) : Float := if n.negative then -n.magnitude else n.magnitude

/-- The integer that a whole numeral names. Minus zero names none: it is a float. -/
def toInt? (n : Numeral) : Option Int :=
  if !n.whole then none
  else if n.negative then (if n.digits = 0 then none else some (-(n.digits : Int)))
  else some n.digits

/-- The nearest double is finite. -/
def isFinite (n : Numeral) : Bool := n.toFloat.isFinite

def ofInt (i : Int) : Numeral := ⟨i < 0, i.natAbs, 0, true⟩

end Numeral

namespace Decimal

def digitValue (c : Char) : Nat := c.toNat - '0'.toNat

/-- The longest run of decimal digits at the start: its value, its length and the rest. -/
def readDigits : List Char → Nat × Nat × List Char :=
  go 0 0
where
  go (value count : Nat) : List Char → Nat × Nat × List Char
    | [] => (value, count, [])
    | c :: rest =>
      if c.isDigit then go (value * 10 + digitValue c) (count + 1) rest
      else (value, count, c :: rest)

/-- An exponent part: `e` or `E`, an optional sign and at least one digit. -/
def readExponent : List Char → Option (Int × List Char)
  | [] => none
  | e :: rest =>
    if e = 'e' ∨ e = 'E' then
      let (negative, rest) := match rest with
        | '-' :: r => (true, r)
        | '+' :: r => (false, r)
        | r => (false, r)
      match readDigits rest with
      | (_, 0, _) => none
      | (value, _, rest) => some (if negative then -(value : Int) else value, rest)
    else none

/-- Why a text is no floating-point value. -/
inductive FloatError where
  | empty
  | invalid
  deriving DecidableEq, Repr

def FloatError.message : FloatError → String
  | .empty => "cannot parse float from empty string"
  | .invalid => "invalid float literal"

/-- Digits with an optional point and an optional exponent, at least one digit in all. -/
def parseUnsigned (negative : Bool) (s : List Char) : Option Numeral :=
  let (whole, wholeCount, rest) := readDigits s
  let (digits, fractionCount, rest) := match rest with
    | '.' :: r =>
      let (value, count, r) := readDigits r
      (whole * Nat.pow 10 count + value, count, r)
    | r => (whole, 0, r)
  if wholeCount + fractionCount = 0 then none
  else match rest with
    | [] => some ⟨negative, digits, -(fractionCount : Int), false⟩
    | rest => match readExponent rest with
      | some (e, []) => some ⟨negative, digits, e - fractionCount, false⟩
      | _ => none

/-- The words for infinity and for an undefined value, in any case. -/
def parseWord (s : List Char) : Option Float :=
  let word := s.map Char.toLower
  if word = "inf".toList ∨ word = "infinity".toList then some (Float.ofBits 0x7ff0000000000000)
  else if word = "nan".toList then some (Float.ofBits 0x7ff8000000000000)
  else none

/-- Read a floating-point value: an optional sign, then a word or digits with an optional point
and exponent. The whole text counts, blanks included. -/
def parseFloat (text : String) : Except FloatError Float :=
  match text.toList with
  | [] => .error .empty
  | s@(c :: rest) =>
    let (negative, s) :=
      if c = '-' then (true, rest) else if c = '+' then (false, rest) else (false, s)
    match parseWord s with
    | some x => .ok (if negative then -x else x)
    | none => match parseUnsigned negative s with
      | some n => .ok n.toFloat
      | none => .error .invalid

/-- Read an integer: an optional sign and at least one digit, nothing else. -/
def parseInteger (text : String) : Option Int :=
  let (negative, s) := match text.toList with
    | '-' :: r => (true, r)
    | '+' :: r => (false, r)
    | r => (false, r)
  match readDigits s with
  | (value, _ + 1, []) => some (if negative then -(value : Int) else value)
  | _ => none

/-- Read a 32-bit quantity: an optional plus sign and digits, not above the largest quantity. -/
def parseU32 (text : String) : Option UInt32 :=
  match text.toList, parseInteger text with
  | '-' :: _, _ => none
  | _, some i => if i.toNat < UInt32.size then some (UInt32.ofNat i.toNat) else none
  | _, none => none

/-- Read a 64-bit quantity: an optional plus sign and digits, not above the largest quantity. -/
def parseU64 (text : String) : Option UInt64 :=
  match text.toList, parseInteger text with
  | '-' :: _, _ => none
  | _, some i => if i.toNat < UInt64.size then some (UInt64.ofNat i.toNat) else none
  | _, none => none

/-- Read a signed 32-bit word. -/
def parseI32 (text : String) : Option Int32 :=
  (parseInteger text).bind fun i =>
    if Int32.minValue.toInt ≤ i ∧ i ≤ Int32.maxValue.toInt then some (Int32.ofInt i) else none

end Decimal

end GpuCluster
