import GpuCluster.Text.Toml
import GpuCluster.Text.Json.Parse
import GpuCluster.Time.Date

/-!
# Scalars of TOML

* `isWhite`, `isFreeChar` : blanks, and the characters that comments and strings may hold;
* `readString` : the four kinds of strings;
* `word?` : a number, a truth value, a date or a time, from the characters it is made of.
-/

namespace GpuCluster.Toml

/-! ## Characters -/

/-- A blank within a line. -/
def isWhite (c : Char) : Bool := c = ' ' || c = '\t'

/-- Any character but the controls; the tab is one of them. -/
def isFreeChar (c : Char) : Bool := c = '\t' || (0x20 ≤ c.toNat && c.toNat ≠ 0x7f)

def skipWhite (s : List Char) : List Char := s.dropWhile isWhite

/-- The text starts with the end of a line. -/
def startsWithNewline : List Char → Bool
  | '\n' :: _ => true
  | '\r' :: '\n' :: _ => true
  | _ => false

/-- Drop the end of a line at the start. -/
def skipNewline : List Char → List Char
  | '\n' :: rest => rest
  | '\r' :: '\n' :: rest => rest
  | rest => rest

/-! ## Strings -/

def shortEscape? : Char → Option Char
  | 'b' => some '\x08'
  | 't' => some '\t'
  | 'n' => some '\n'
  | 'f' => some '\x0c'
  | 'r' => some '\r'
  | '\x22' => some '\x22'
  | '\\' => some '\\'
  | _ => none

/-- The character of a code in hexadecimal digits; halves of surrogate pairs are none. -/
def codePoint? (digits : List Char) : Option Char :=
  (digits.mapM Json.hexDigit?).bind fun ds =>
    let code := ds.foldl (fun n d => n * 16 + d) 0
    if h : code.isValidChar then some (Char.ofNatAux code h) else none

/-- Put a character in front of what was read. -/
def push (c : Char) (read : Option (List Char × List Char)) : Option (List Char × List Char) :=
  read.map fun (text, rest) => (c :: text, rest)

/-- The text of a string on one line, after its quote. -/
def readBasic : List Char → Option (List Char × List Char)
  | [] => none
  | '\x22' :: rest => some ([], rest)
  | '\\' :: 'u' :: a :: b :: c :: d :: rest =>
    (codePoint? [a, b, c, d]).bind fun x => push x (readBasic rest)
  | '\\' :: 'U' :: a :: b :: c :: d :: e :: f :: g :: h :: rest =>
    (codePoint? [a, b, c, d, e, f, g, h]).bind fun x => push x (readBasic rest)
  | '\\' :: e :: rest => (shortEscape? e).bind fun x => push x (readBasic rest)
  | c :: rest => if isFreeChar c && c ≠ '\\' then push c (readBasic rest) else none

/-- A string without escapes on one line, after its quote. -/
def readLiteral : List Char → Option (List Char × List Char)
  | [] => none
  | '\x27' :: rest => some ([], rest)
  | c :: rest => if isFreeChar c then push c (readLiteral rest) else none

/-- Up to two quotes right after the closing ones belong to the text. -/
def closing (quote : Char) : List Char → List Char × List Char
  | a :: b :: rest =>
    if a = quote ∧ b = quote then ([a, b], rest)
    else if a = quote then ([a], b :: rest) else ([], a :: b :: rest)
  | [a] => if a = quote then ([a], []) else ([], [a])
  | [] => ([], [])

/-- After a backslash: nothing but blanks up to the end of the line. -/
def endsLine (s : List Char) : Bool := startsWithNewline (skipWhite s)

/-- The text of a string over several lines, after its quotes. After a backslash at the end of a
line, blanks and line ends are skipped. -/
def readLong : Bool → List Char → Option (List Char × List Char)
  | _, [] => none
  | _, '\x22' :: '\x22' :: '\x22' :: rest => some (closing '\x22' rest)
  | skip, '\r' :: '\n' :: rest =>
    if skip then readLong true rest else push '\n' (readLong false rest)
  | _, '\\' :: 'u' :: a :: b :: c :: d :: rest =>
    (codePoint? [a, b, c, d]).bind fun x => push x (readLong false rest)
  | _, '\\' :: 'U' :: a :: b :: c :: d :: e :: f :: g :: h :: rest =>
    (codePoint? [a, b, c, d, e, f, g, h]).bind fun x => push x (readLong false rest)
  | _, '\\' :: e :: rest =>
    match shortEscape? e with
    | some x => push x (readLong false rest)
    | none => if endsLine (e :: rest) then readLong true (e :: rest) else none
  | skip, c :: rest =>
    if skip && (isWhite c || c = '\n') then readLong true rest
    else if (isFreeChar c && c ≠ '\\') || c = '\n' then push c (readLong false rest)
    else none

/-- A string without escapes over several lines, after its quotes. -/
def readLongLiteral : List Char → Option (List Char × List Char)
  | [] => none
  | '\x27' :: '\x27' :: '\x27' :: rest => some (closing '\x27' rest)
  | '\r' :: '\n' :: rest => push '\n' (readLongLiteral rest)
  | c :: rest => if isFreeChar c || c = '\n' then push c (readLongLiteral rest) else none

def readString (s : List Char) : Option (String × List Char) :=
  let found := match s with
    | '\x22' :: '\x22' :: '\x22' :: rest => readLong false (skipNewline rest)
    | '\x22' :: rest => readBasic rest
    | '\x27' :: '\x27' :: '\x27' :: rest => readLongLiteral (skipNewline rest)
    | '\x27' :: rest => readLiteral rest
    | _ => none
  found.map fun (text, rest) => (String.ofList text, rest)

/-! ## Numbers -/

/-- Digits with single underscores between them, without those. -/
def digits? (isDigit : Char → Bool) : List Char → Option (List Char)
  | [] => none
  | [c] => if isDigit c then some [c] else none
  | c :: '_' :: rest => if isDigit c then (digits? isDigit rest).map (c :: ·) else none
  | c :: rest => if isDigit c then (digits? isDigit rest).map (c :: ·) else none

/-- The value of digits in a base. -/
def digitsValue (base : Nat) (digits : List Char) : Nat :=
  digits.foldl (fun n c => n * base + (Json.hexDigit? c).getD 0) 0

/-- Decimal digits without leading zeros. -/
def wholePart? (s : List Char) : Option (List Char) :=
  match s with
  | '0' :: _ :: _ => none
  | s => digits? Char.isDigit s

/-- An optional sign: the number is negative, and what follows. -/
def splitSign : List Char → Bool × List Char
  | '-' :: rest => (true, rest)
  | '+' :: rest => (false, rest)
  | rest => (false, rest)

/-- An integer that fits a signed 64-bit word. -/
def boundedInt (i : Int) : Option Toml :=
  if Int64.minValue.toInt ≤ i ∧ i ≤ Int64.maxValue.toInt then some (.int i) else none

/-- An integer: hexadecimal, octal or binary without a sign, or decimal. -/
def integer? (s : List Char) : Option Toml :=
  match s with
  | '0' :: 'x' :: rest => (digits? (fun c => (Json.hexDigit? c).isSome) rest).bind fun ds =>
      boundedInt (digitsValue 16 ds)
  | '0' :: 'o' :: rest => (digits? (fun c => '0' ≤ c && c ≤ '7') rest).bind fun ds =>
      boundedInt (digitsValue 8 ds)
  | '0' :: 'b' :: rest => (digits? (fun c => c = '0' || c = '1') rest).bind fun ds =>
      boundedInt (digitsValue 2 ds)
  | s =>
    let (negative, s) := splitSign s
    (wholePart? s).bind fun ds =>
      let n : Int := digitsValue 10 ds
      boundedInt (if negative then -n else n)

def exponent? (s : List Char) : Option Int :=
  let (negative, s) := splitSign s
  (digits? Char.isDigit s).map fun ds =>
    let n : Int := digitsValue 10 ds
    if negative then -n else n

/-- The letter that an exponent follows. -/
def isExponentMark (c : Char) : Bool := c = 'e' || c = 'E'

/-- An exponent part, or nothing. -/
def power? : List Char → Option Int
  | [] => some 0
  | c :: rest => if isExponentMark c then exponent? rest else none

/-- A whole part and a fraction, an exponent, or both. -/
def decimal? (negative : Bool) (s : List Char) : Option Numeral := do
  let whole ← wholePart? (s.takeWhile fun c => c.isDigit || c = '_')
  let rest := s.dropWhile fun c => c.isDigit || c = '_'
  match rest with
  | '.' :: rest => do
    let fraction ← digits? Char.isDigit (rest.takeWhile fun c => c.isDigit || c = '_')
    let power ← power? (rest.dropWhile fun c => c.isDigit || c = '_')
    some ⟨negative, digitsValue 10 (whole ++ fraction), power - fraction.length, false⟩
  | c :: rest => do
    if !isExponentMark c then none
    some ⟨negative, digitsValue 10 whole, ← exponent? rest, false⟩
  | [] => none

/-- A numeral beyond all doubles. -/
def infinite (negative : Bool) : Numeral := ⟨negative, 1, 400, false⟩

/-- A floating-point number. One that is too large is refused; data knows no undefined number, and
an infinite one stands for it. -/
def float? (s : List Char) : Option Toml :=
  let (negative, body) := splitSign s
  if body = "inf".toList ∨ body = "nan".toList then some (.float (infinite negative))
  else (decimal? negative body).bind fun n =>
    if n.isFinite || negative then some (.float n) else none

/-! ## Dates and times -/

/-- A number of exactly so many digits that passes a test, and what follows. -/
def field? (width : Nat) (test : Nat → Bool) (s : List Char) : Option (Nat × List Char) :=
  let digits := s.take width
  let value := digitsValue 10 digits
  if digits.length = width && digits.all Char.isDigit && test value then some (value, s.drop width)
  else none

/-- One character, and what follows. -/
def expect (c : Char) : List Char → Option (List Char)
  | d :: rest => if c = d then some rest else none
  | [] => none

def readDate (s : List Char) : Option (List Char) := do
  let (year, s) ← field? 4 (fun _ => true) s
  let (month, s) ← field? 2 (fun n => 1 ≤ n && n ≤ 12) (← expect '-' s)
  let (_, s) ← field? 2 (fun n => Date.isValid ⟨year, month, n⟩) (← expect '-' s)
  return s

/-- Digits after a point, or nothing. -/
def readPlaces : List Char → Option (List Char)
  | '.' :: rest =>
    if (rest.takeWhile Char.isDigit).isEmpty then none else some (rest.dropWhile Char.isDigit)
  | rest => some rest

def readHourMinute (s : List Char) : Option (List Char) := do
  let (_, s) ← field? 2 (· ≤ 23) s
  let (_, s) ← field? 2 (· ≤ 59) (← expect ':' s)
  return s

def readTime (s : List Char) : Option (List Char) := do
  let (_, s) ← field? 2 (· ≤ 60) (← expect ':' (← readHourMinute s))
  readPlaces s

/-- An offset from universal time, or nothing. -/
def readOffset : List Char → Option (List Char)
  | 'Z' :: rest | 'z' :: rest => some rest
  | '+' :: rest | '-' :: rest => readHourMinute rest
  | rest => some rest

/-- A date, a time, or both with an optional offset. -/
def isDateTime (s : List Char) : Bool :=
  readTime s = some [] || match readDate s with
    | some [] => true
    | some (c :: rest) =>
      (c = 'T' || c = 't' || c = ' ') && (readTime rest).bind readOffset = some []
    | none => false

/-! ## Words -/

/-- The characters that numbers, truth values, dates and times are made of. -/
def isWordChar (c : Char) : Bool :=
  c.isAlphanum || c = '+' || c = '-' || c = '_' || c = '.' || c = ':'

/-- A date is followed by a blank and a digit, so that a time may follow. -/
def timeFollows (word rest : List Char) : Bool :=
  readDate word = some [] && match rest with
    | ' ' :: c :: _ => c.isDigit
    | _ => false

/-- The characters of a word, and what follows. -/
def readWord (s : List Char) : List Char × List Char :=
  let word := s.takeWhile isWordChar
  let rest := s.dropWhile isWordChar
  if timeFollows word rest then
    let rest := rest.drop 1
    (word ++ ' ' :: rest.takeWhile isWordChar, rest.dropWhile isWordChar)
  else (word, rest)

def word? (s : List Char) : Option Toml :=
  if s = "true".toList then some (.bool true)
  else if s = "false".toList then some (.bool false)
  else if isDateTime s then some (.time (String.ofList s))
  else (integer? s).or (float? s)

end GpuCluster.Toml
