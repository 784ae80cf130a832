import GpuCluster.Text.Printable

/-!
# Quoted text

`Quoted.quote s` shows a text between double quotes on one line: quotes and backslashes are
escaped, a few controls have short names, and every other character that does not show stands as
its code point in braces.
-/

namespace GpuCluster.Quoted

/-- A code point in hexadecimal between braces. -/
def escapeCode (c : Char) : List Char :=
  '\\' :: 'u' :: '\x7b' :: (Nat.toDigits 16 c.toNat ++ ['\x7d'])

def escape (c : Char) : List Char :=
  if c = '\x00' then ['\\', '0']
  else if c = '\t' then ['\\', 't']
  else if c = '\r' then ['\\', 'r']
  else if c = '\n' then ['\\', 'n']
  else if c = '\x22' then ['\\', '\x22']
  else if c = '\\' then ['\\', '\\']
  else if Printable.shows c then [c]
  else escapeCode c

def quote (s : String) : String :=
  String.ofList ('\x22' :: (s.toList.flatMap escape ++ ['\x22']))

end GpuCluster.Quoted
