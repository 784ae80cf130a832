import GpuCluster.Text.Json

/-!
# Records

A record is read from an object or from an array that lists the fields in order.

* `Record.open?` : the fields of a value; an object may hold more members, but names no field
  twice, and an array is never longer than the record;
* `Record.require`, `Record.optional`, `Record.orDefault` : one field; an optional one may be
  absent from an object, one with a default from an array too;
* `Json.variant?` : a name, alone or as the only member of an object with a null.
-/

namespace GpuCluster

/-- The fields of a record, each present or absent. -/
structure Record where
  /-- The record was given as an array. -/
  positional : Bool
  fields : List (String × Option Json)

namespace Record

/-- The members of this name. -/
def occurrences (name : String) (ms : List (String × Json)) : List Json :=
  (ms.filter (·.1 == name)).map (·.2)

/-- Fields in order, with absent ones at the end of a short array. -/
def byPosition : List String → List Json → List (String × Option Json)
  | [], _ => []
  | n :: names, [] => (n, none) :: byPosition names []
  | n :: names, x :: xs => (n, some x) :: byPosition names xs

/-- The fields of a value that has the form of a record. -/
def open? (names : List String) : Json → Option Record
  | .obj ms =>
    if names.any fun n => 1 < (occurrences n ms).length then none
    else some ⟨false, names.map fun n => (n, (occurrences n ms).head?)⟩
  | .arr xs =>
    if names.length < xs.length then none
    else some ⟨true, byPosition names xs⟩
  | _ => none

/-- The value of a field, if it is present. -/
def field? (r : Record) (name : String) : Option Json :=
  (r.fields.find? (·.1 == name)).bind (·.2)

variable {α : Type}

/-- A field that must be there. -/
def require (r : Record) (name : String) (item : Json → Option α) : Option α :=
  (r.field? name).bind item

/-- A field that may be null, or absent from an object. -/
def optional (r : Record) (name : String) (item : Json → Option α) : Option (Option α) :=
  match r.field? name with
  | some j => j.nullOr? item
  | none => if r.positional then none else some none

/-- A field with a value for the case that it is absent. -/
def orDefault (r : Record) (name : String) (default : α) (item : Json → Option α) : Option α :=
  match r.field? name with
  | some j => item j
  | none => some default

end Record

/-- A name without content: a text, or an object with a null under the name alone. -/
def Json.variant? {α : Type} (name? : String → Option α) : Json → Option α
  | .str s => name? s
  | .obj [(s, .null)] => name? s
  | _ => none

end GpuCluster
