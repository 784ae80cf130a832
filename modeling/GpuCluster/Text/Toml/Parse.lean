import GpuCluster.Text.Toml.Scalar

/-!
# Reading TOML

* `readKey` : a dotted key;
* `value`, `elements`, `pairs` : values, with arrays and tables in braces;
* `readLine` : a line with content;
* `parse?` : a document.
-/

namespace GpuCluster.Toml

/-! ## Between the parts -/

def skipComment : List Char → List Char
  | '#' :: rest => rest.dropWhile isFreeChar
  | rest => rest

/-- The end of a line or of the text. -/
def readEnd : List Char → Option (List Char)
  | [] => some []
  | s => if startsWithNewline s then some (skipNewline s) else none

/-- What may follow on a line: blanks and a comment. -/
def readRest (s : List Char) : Option (List Char) := readEnd (skipComment (skipWhite s))

/-- Drop blanks, comments and line ends, as they may stand in an array. -/
def skipFiller : Bool → List Char → List Char
  | _, [] => []
  | _, '\n' :: rest => skipFiller false rest
  | _, '\r' :: '\n' :: rest => skipFiller false rest
  | true, c :: rest => if isFreeChar c then skipFiller true rest else c :: rest
  | false, c :: rest =>
    if isWhite c then skipFiller false rest
    else if c = '#' then skipFiller true rest
    else c :: rest

/-! ## Keys -/

/-- A character of a key without quotes. -/
def isKeyChar (c : Char) : Bool := c.isAlphanum || c = '-' || c = '_'

def readPart (s : List Char) : Option (String × List Char) :=
  match s with
  | '\x22' :: rest => (readBasic rest).map fun (text, rest) => (String.ofList text, rest)
  | '\x27' :: rest => (readLiteral rest).map fun (text, rest) => (String.ofList text, rest)
  | s =>
    let key := s.takeWhile isKeyChar
    if key.isEmpty then none else some (String.ofList key, s.dropWhile isKeyChar)

/-- The parts of a key, with points between them and blanks around. -/
def readParts : Nat → List Char → Option (List String × List Char)
  | 0, _ => none
  | fuel + 1, s =>
    match readPart (skipWhite s) with
    | none => none
    | some (key, rest) => match skipWhite rest with
      | '.' :: rest => (readParts fuel rest).map fun (keys, rest) => (key :: keys, rest)
      | rest => some ([key], rest)

/-- Keys and values nest less deeply than this. -/
def nestingLimit : Nat := 80

def readKey (s : List Char) : Option (List String × List Char) :=
  (readParts (s.length + 1) s).filter fun (keys, _) => keys.length < nestingLimit

/-! ## Values -/

mutual
/-- A value within `depth` arrays and tables. -/
def value : Nat → Nat → List Char → Option (Toml × List Char)
  | 0, _, _ => none
  | fuel + 1, depth, s =>
    match s with
    | '\x22' :: _ | '\x27' :: _ => (readString s).map fun (text, rest) => (.str text, rest)
    | '[' :: rest =>
      if depth + 1 < nestingLimit then
        (elements fuel (depth + 1) (skipFiller false rest)).map fun (xs, rest) => (.arr xs, rest)
      else none
    | '\x7b' :: rest =>
      if depth + 1 < nestingLimit then
        match skipWhite rest with
        | '\x7d' :: rest => some (.table .inline [], rest)
        | rest => (pairs fuel (depth + 1) rest).bind fun (ps, rest) =>
            (ofPairs? ps).map fun t => (t, rest)
      else none
    | s =>
      let (word, rest) := readWord s
      (word? word).map fun v => (v, rest)

/-- The elements of an array up to its bracket; a comma may stand before it. -/
def elements : Nat → Nat → List Char → Option (List Toml × List Char)
  | 0, _, _ => none
  | fuel + 1, depth, s =>
    match s with
    | ']' :: rest => some ([], rest)
    | s => match value fuel depth s with
      | none => none
      | some (x, rest) => match skipFiller false rest with
        | ',' :: rest => (elements fuel depth (skipFiller false rest)).map fun (xs, rest) =>
            (x :: xs, rest)
        | ']' :: rest => some ([x], rest)
        | _ => none

/-- One or more pairs of a key and a value up to the brace. -/
def pairs : Nat → Nat → List Char → Option (List (List String × Toml) × List Char)
  | 0, _, _ => none
  | fuel + 1, depth, s =>
    match readKey s with
    | some (key, '=' :: rest) => match value fuel depth (skipWhite rest) with
      | none => none
      | some (x, rest) => match skipWhite rest with
        | ',' :: rest => (pairs fuel depth rest).map fun (ps, rest) => ((key, x) :: ps, rest)
        | '\x7d' :: rest => some ([(key, x)], rest)
        | _ => none
    | _ => none
end

/-- A value at the start of a text. -/
def readValue (s : List Char) : Option (Toml × List Char) := value (2 * s.length + 2) 0 s

/-! ## Lines -/

def readLine (s : List Char) : Option (Line × List Char) :=
  match s with
  | '[' :: '[' :: rest => match readKey rest with
    | some (key, ']' :: ']' :: rest) => some (.item key, rest)
    | _ => none
  | '[' :: rest => match readKey rest with
    | some (key, ']' :: rest) => some (.header key, rest)
    | _ => none
  | s => match readKey s with
    | some (key, '=' :: rest) => (readValue (skipWhite rest)).map fun (v, rest) =>
        (.binding key v, rest)
    | _ => none

/-- The lines with content of a text. -/
def readLines : Nat → List Char → Option (List Line)
  | 0, _ => none
  | fuel + 1, s =>
    match skipWhite s with
    | [] => some []
    | c :: rest =>
      if c = '#' || startsWithNewline (c :: rest) then
        (readRest (c :: rest)).bind (readLines fuel)
      else match readLine (c :: rest) with
        | none => none
        | some (line, rest) => match readRest rest with
          | none => none
          | some rest => (readLines fuel rest).map (line :: ·)

/-- The mark that a text may begin with. -/
def byteOrderMark : Char := '\ufeff'

def parse? (text : String) : Option Toml :=
  let s := match text.toList with
    | c :: rest => if c = byteOrderMark then rest else c :: rest
    | [] => []
  (readLines (s.length + 1) s).bind ofLines?

end GpuCluster.Toml
