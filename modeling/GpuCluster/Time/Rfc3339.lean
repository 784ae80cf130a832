import GpuCluster.Text.Blank
import GpuCluster.Text.Decimal
import GpuCluster.Time.Instant

/-!
# Timestamps

The text form of an instant, `2024-02-29T12:00:00.120Z`.

* `Instant.toText` : always in universal time, with the fewest fraction digits out of 0, 3, 6
  and 9 that are exact;
* `Instant.parse?` : any offset, `T`, `t` or a blank between date and time, blanks around parts.
-/

namespace GpuCluster

namespace Instant

/-! ## Writing -/

/-- A number with leading zeros up to a width. -/
def padded (width n : Nat) : String :=
  let digits := Nat.toDigits 10 n
  String.ofList (List.replicate (width - digits.length) '0' ++ digits)

/-- A year: four digits, or a sign and at least four outside of those. -/
def yearText (y : Int) : String :=
  if 0 ≤ y ∧ y ≤ 9999 then padded 4 y.toNat
  else (if y < 0 then "-" else "+") ++ padded 4 y.natAbs

/-- A fraction of a second with the fewest digits that are exact. -/
def fractionText (nanos : Nat) : String :=
  if nanos = 0 then ""
  else if nanos % 1000000 = 0 then "." ++ padded 3 (nanos / 1000000)
  else if nanos % 1000 = 0 then "." ++ padded 6 (nanos / 1000)
  else "." ++ padded 9 nanos

/-- The text of an instant in universal time. -/
def toText (t : Instant) : String :=
  let date := Date.ofDays (t.seconds.fdiv 86400)
  let ofDay := (t.seconds.fmod 86400).toNat
  let second := ofDay % 60 + t.nanos / 1000000000
  yearText date.year ++ "-" ++ padded 2 date.month ++ "-" ++ padded 2 date.day ++ "T" ++
    padded 2 (ofDay / 3600) ++ ":" ++ padded 2 (ofDay / 60 % 60) ++ ":" ++ padded 2 second ++
    fractionText (t.nanos % 1000000000) ++ "Z"

def toJson (t : Instant) : Json := .str t.toText

/-! ## Reading -/

/-- At least one and at most `width` digits, after blanks. -/
def readNumber (width : Nat) (s : List Char) : Option (Nat × List Char) :=
  let s := Blank.trimStart s
  let digits := (s.take width).takeWhile Char.isDigit
  if digits = [] then none
  else some ((Decimal.readDigits digits).1, s.drop digits.length)

/-- A year: up to four digits, or a sign and any number of digits. -/
def readYear (s : List Char) : Option (Int × List Char) :=
  match Blank.trimStart s with
  | '-' :: r => (signed r).map fun (y, rest) => (-(y : Int), rest)
  | '+' :: r => (signed r).map fun (y, rest) => ((y : Int), rest)
  | s => (readNumber 4 s).map fun (y, rest) => ((y : Int), rest)
where
  signed (s : List Char) : Option (Nat × List Char) :=
    match Decimal.readDigits s with
    | (_, 0, _) => none
    | (y, _, rest) => some (y, rest)

def expect (c : Char) (s : List Char) : Option (List Char) :=
  match Blank.trimStart s with
  | d :: rest => if c = d then some rest else none
  | [] => none

/-- A fraction of a second in nanoseconds; digits after the ninth are dropped. -/
def readFraction (s : List Char) : Option (Nat × List Char) :=
  match s with
  | '.' :: rest =>
    let digits := rest.takeWhile Char.isDigit
    if digits = [] then none
    else
      let kept := digits.take 9
      some ((Decimal.readDigits kept).1 * Nat.pow 10 (9 - kept.length), rest.drop digits.length)
  | rest => some (0, rest)

def twoDigits : List Char → Option (Nat × List Char)
  | a :: b :: rest =>
    if a.isDigit && b.isDigit then
      some (Decimal.digitValue a * 10 + Decimal.digitValue b, rest)
    else none
  | _ => none

/-- A sign and hours and minutes east of universal time, in seconds. -/
def readSignedOffset (s : List Char) : Option (Int × List Char) := do
  let (negative, s) ← match s with
    | '+' :: r => some (false, r)
    | '-' :: r => some (true, r)
    | '\u2212' :: r => some (true, r)
    | _ => none
  let (hours, s) ← twoDigits s
  let (minutes, s) ← twoDigits (s.dropWhile fun c => c = ':' || Blank.isBlank c)
  if 59 < minutes then none
  let seconds : Int := hours * 3600 + minutes * 60
  if 86400 ≤ seconds then none
  some (if negative then -seconds else seconds, s)

/-- An offset: a word for universal time, or hours and minutes. -/
def readOffset (s : List Char) : Option (Int × List Char) :=
  match Blank.trimStart s with
  | 'Z' :: rest | 'z' :: rest => some (0, rest)
  | a :: b :: c :: rest =>
    if [a, b, c].map Char.toUpper = ['U', 'T', 'C'] then some (0, rest)
    else readSignedOffset (a :: b :: c :: rest)
  | s => readSignedOffset s

def parse? (text : String) : Option Instant := do
  let (year, s) ← readYear text.toList
  let (month, s) ← readNumber 2 (← expect '-' s)
  let (day, s) ← readNumber 2 (← expect '-' s)
  let s ← match s with
    | 'T' :: r | 't' :: r | ' ' :: r => some r
    | _ => none
  let (hour, s) ← readNumber 2 s
  let (minute, s) ← readNumber 2 (← expect ':' s)
  let (second, s) ← readNumber 2 (← expect ':' s)
  let (nanos, s) ← readFraction s
  let (offset, s) ← readOffset s
  if Blank.trimStart s ≠ [] then none
  let date : Date := ⟨year, month, day⟩
  if !date.isValid || 23 < hour || 59 < minute || 60 < second then none
  let (second, nanos) := if second = 60 then (59, nanos + 1000000000) else (second, nanos)
  let t : Instant := ⟨date.toDays * 86400 + hour * 3600 + minute * 60 + second - offset, nanos⟩
  if t.isKept then some t else none

end Instant

def Json.instant? (j : Json) : Option Instant := j.text?.bind Instant.parse?

end GpuCluster
