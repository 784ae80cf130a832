/-!
# Indexes

`Index κ ν` files one value under each of finitely many keys, in ascending order of the keys.

* `get?` : the value under a key;
* `set` : file a value, in place of the one before;
* `keys`, `values` : both in the order of the keys.

`get?_set` says that filing a value changes what is under its key and nothing else.
-/

namespace GpuCluster

/-- Values filed under keys, the smallest key first. -/
structure Index (κ ν : Type) where
  entries : List (κ × ν)
  deriving Repr

namespace Index

variable {κ ν : Type} [LT κ] [DecidableLT κ]

def empty : Index κ ν := ⟨[]⟩

def get? (i : Index κ ν) (key : κ) : Option ν :=
  go i.entries
where
  go : List (κ × ν) → Option ν
    | [] => none
    | (k, v) :: rest => if key < k then none else if k < key then go rest else some v

def set (i : Index κ ν) (key : κ) (value : ν) : Index κ ν :=
  ⟨go i.entries⟩
where
  go : List (κ × ν) → List (κ × ν)
    | [] => [(key, value)]
    | (k, v) :: rest =>
      if key < k then (key, value) :: (k, v) :: rest
      else if k < key then (k, v) :: go rest
      else (key, value) :: rest

theorem get?_set [LE κ] [Std.IsLinearOrder κ] [Std.LawfulOrderLT κ] [DecidableEq κ]
    (i : Index κ ν) (key other : κ) (value : ν) :
    (i.set key value).get? other = if key = other then some value else i.get? other := by
  obtain ⟨entries⟩ := i
  simp only [set, get?]
  induction entries with
  | nil => grind [set.go, get?.go]
  | cons e rest ih => grind [set.go, get?.go]

def keys (i : Index κ ν) : List κ := i.entries.map (·.1)

def values (i : Index κ ν) : List ν := i.entries.map (·.2)

end Index

end GpuCluster
