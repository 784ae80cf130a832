/-!
# Bindings

`Bindings α` binds each of finitely many names to one value: `get?` reads a name, `set` binds it
(once more or for the first time), `ofList` lets later entries win, `layer` puts one set of
bindings over another. `get?_set` and `get?_setAll` say what a name is bound to afterwards,
`set_set` and `set_of_get?` that a binding can be undone.
-/

namespace GpuCluster

structure Bindings (α : Type) where
  entries : List (String × α)
  deriving Repr, DecidableEq

namespace Bindings

variable {α : Type}

def empty : Bindings α := ⟨[]⟩

instance : EmptyCollection (Bindings α) := ⟨empty⟩

instance : Inhabited (Bindings α) := ⟨empty⟩

def get? (b : Bindings α) (name : String) : Option α :=
  (b.entries.find? (·.1 == name)).map (·.2)

/-- Bind a name, in its place if it is bound already. -/
def set (b : Bindings α) (name : String) (value : α) : Bindings α :=
  ⟨go b.entries⟩
where
  go : List (String × α) → List (String × α)
    | [] => [(name, value)]
    | e :: rest => if e.1 == name then (name, value) :: rest else e :: go rest

/-- Bind one entry after the other. -/
def setAll (b : Bindings α) (entries : List (String × α)) : Bindings α :=
  entries.foldl (fun b e => b.set e.1 e.2) b

/-- The bindings of a list; of a repeated name the last one counts. -/
def ofList (entries : List (String × α)) : Bindings α := empty.setAll entries

/-- The bindings of `upper`, and those of `lower` for all other names. -/
def layer (upper lower : Bindings α) : Bindings α := lower.setAll upper.entries

def names (b : Bindings α) : List String := b.entries.map (·.1)

@[simp] theorem get?_empty (name : String) : (empty : Bindings α).get? name = none := rfl

theorem get?_set (b : Bindings α) (name other : String) (value : α) :
    (b.set name value).get? other = if name = other then some value else b.get? other := by
  obtain ⟨entries⟩ := b
  simp only [set, get?]
  induction entries with
  | nil => by_cases h : name = other <;> simp [set.go, h]
  | cons e rest ih =>
    by_cases he : e.1 = name
    · by_cases h : name = other <;> simp [set.go, he, h]
    · by_cases ho : e.1 = other
      · have h : ¬name = other := fun hn => he (ho.trans hn.symm)
        simp [set.go, ho, h, Ne.symm h]
      · simpa [set.go, he, ho] using ih

/-- A name is bound in its place, so the last value it is bound to is all that counts. -/
theorem set_set (b : Bindings α) (name : String) (v w : α) :
    (b.set name v).set name w = b.set name w := by
  obtain ⟨entries⟩ := b
  refine congrArg Bindings.mk ?_
  show set.go name w (set.go name v entries) = set.go name w entries
  induction entries with
  | nil => simp [set.go]
  | cons e rest ih =>
    by_cases he : e.1 = name
    · simp [set.go, he]
    · simp [set.go, he, ih]

theorem set_of_get? {b : Bindings α} {name : String} {value : α} (h : b.get? name = some value) :
    b.set name value = b := by
  obtain ⟨entries⟩ := b
  refine congrArg Bindings.mk ?_
  unfold get? at h
  induction entries with
  | nil => cases h
  | cons e rest ih =>
    by_cases he : e.1 = name
    · have hvalue : e.2 = value := by simpa [he] using h
      have hentry : e = (name, value) := Prod.ext he hvalue
      simp [set.go, hentry]
    · have hrest := ih (by simpa [he] using h)
      simp [set.go, he, hrest]

theorem get?_setAll (b : Bindings α) (entries : List (String × α)) (name : String) :
    (b.setAll entries).get? name =
      ((entries.reverse.find? (·.1 == name)).map (·.2)).or (b.get? name) := by
  induction entries generalizing b with
  | nil => simp [setAll]
  | cons e rest ih =>
    have := ih (b.set e.1 e.2)
    simp only [setAll, List.foldl_cons] at this ⊢
    rw [this, get?_set, List.reverse_cons, List.find?_append]
    by_cases h : e.1 = name <;> cases rest.reverse.find? (·.1 == name) <;> simp [h]

end Bindings

end GpuCluster
