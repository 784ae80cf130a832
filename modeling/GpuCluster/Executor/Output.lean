/-!
# Captured output

A stream of bytes is read line by line: the line end, `\n` or `\r\n`, is dropped, and a last line
need not have one.

* `Output.lines` : the lines of a stream;
* `Output.textOf?` : the text of a line, if it is one.
-/

namespace GpuCluster.Output

/-- The lines of a stream without their ends; an unfinished last line counts, an empty one not. -/
def lines (bytes : List UInt8) : List (List UInt8) :=
  go [] bytes
where
  /-- `line` holds the bytes of the present line, the last one first. -/
  go (line : List UInt8) : List UInt8 → List (List UInt8)
    | [] => if line = [] then [] else [line.reverse]
    | b :: rest =>
      if b = 10 then (dropReturn line).reverse :: go [] rest
      else go (b :: line) rest
  /-- Drop one carriage return at the end of a finished line. -/
  dropReturn : List UInt8 → List UInt8
    | 13 :: line => line
    | line => line

/-- The text of bytes, if they are one. -/
def textOf? (bytes : List UInt8) : Option String := String.fromUTF8? ⟨bytes.toArray⟩

end GpuCluster.Output
