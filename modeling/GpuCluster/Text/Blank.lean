/-!
# White space

`Blank.isBlank` is the white space of the character standard, wider than that of ASCII;
`Blank.trim` drops it at both ends.
-/

namespace GpuCluster.Blank

/-- White space: the controls from tab to return, the blank, and the separators beyond ASCII. -/
def isBlank (c : Char) : Bool :=
  let n := c.toNat
  (9 ≤ n && n ≤ 13) || n = 0x20 || n = 0x85 || n = 0xa0 || n = 0x1680 ||
    (0x2000 ≤ n && n ≤ 0x200a) || n = 0x2028 || n = 0x2029 || n = 0x202f || n = 0x205f || n = 0x3000

/-- Drop the white space at the start. -/
def trimStart (s : List Char) : List Char := s.dropWhile isBlank

/-- Drop the white space at both ends. -/
def trim (s : String) : String :=
  String.ofList (trimStart (trimStart s.toList).reverse).reverse

end GpuCluster.Blank
