import GpuCluster.Text.Json.Parse

/-!
# Job identities

`JobId` is a universally unique identifier of 128 bits.

* `JobId.toText` : 32 lower-case hexadecimal digits in groups of 8, 4, 4, 4 and 12;
* `JobId.parse?` : the grouped form, also in braces or after `urn:uuid:`, or the bare digits.
-/

namespace GpuCluster

structure JobId where
  bits : BitVec 128
  deriving DecidableEq, Hashable, Repr, Inhabited

namespace JobId

def hexDigits (id : JobId) : List Char :=
  let digits := Nat.toDigits 16 id.bits.toNat
  List.replicate (32 - digits.length) '0' ++ digits

/-- The grouped form. -/
def toText (id : JobId) : String :=
  let d := id.hexDigits
  String.ofList (d.take 8 ++ '-' :: (d.drop 8).take 4 ++ '-' :: (d.drop 12).take 4 ++
    '-' :: (d.drop 16).take 4 ++ '-' :: d.drop 20)

instance : ToString JobId := ⟨toText⟩

def toJson (id : JobId) : Json := .str id.toText

/-- The identity of exactly 32 hexadecimal digits. -/
def ofHex? (digits : List Char) : Option JobId :=
  if digits.length = 32 then
    (digits.mapM Json.hexDigit?).map fun ds =>
      ⟨BitVec.ofNat 128 (ds.foldl (fun n d => n * 16 + d) 0)⟩
  else none

def ofGroups? (s : List Char) : Option JobId :=
  if s.length = 36 ∧ s[8]? = some '-' ∧ s[13]? = some '-' ∧ s[18]? = some '-' ∧ s[23]? = some '-'
  then ofHex? (s.take 8 ++ (s.drop 9).take 4 ++ (s.drop 14).take 4 ++ (s.drop 19).take 4 ++
    s.drop 24)
  else none

def parse? (text : String) : Option JobId :=
  let s := text.toList
  match s with
  | 'u' :: 'r' :: 'n' :: ':' :: 'u' :: 'u' :: 'i' :: 'd' :: ':' :: rest => ofGroups? rest
  | '\x7b' :: rest => if rest.getLast? = some '\x7d' then ofGroups? rest.dropLast else none
  | s => (ofHex? s).or (ofGroups? s)

end JobId

def Json.jobId? (j : Json) : Option JobId := j.text?.bind JobId.parse?

end GpuCluster
