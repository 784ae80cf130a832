import GpuCluster.Text.Bindings

/-!
# Bindings that bind each name once

* `Bindings.Distinct` : every name is bound once; all that `set` and `ofList` build is so;
* `mem_names_iff` : the names are those that are bound;
* `get?_ofList` : of a repeated name the last entry counts, `mem_names_ofList` : and none is lost;
* `Distinct.get?_eq_some_iff` : to be bound is to be an entry;
* `Distinct.get?_layer` : the upper bindings count, and the lower ones for all other names;
* `ofList_of_nodup` : a list of distinct names is kept as it stands.
-/

namespace GpuCluster.Bindings

variable {α : Type} {b upper : Bindings α} {name : String} {value : α}

/-- Every name is bound once. -/
def Distinct (b : Bindings α) : Prop := b.names.Nodup

instance (b : Bindings α) : Decidable b.Distinct := inferInstanceAs (Decidable (List.Nodup _))

/-! ## Names -/

/-- A new name comes last. -/
theorem set_of_not_mem (h : name ∉ b.names) (value : α) :
    b.set name value = ⟨b.entries ++ [(name, value)]⟩ := by
  obtain ⟨entries⟩ := b
  refine congrArg Bindings.mk ?_
  induction entries with
  | nil => rfl
  | cons e rest ih =>
    simp only [names, List.map_cons, List.mem_cons, not_or] at h
    have hrest : set.go name value rest = rest ++ [(name, value)] := ih h.2
    simp [set.go, Ne.symm h.1, hrest]

/-- A bound name keeps its place. -/
theorem names_set_of_mem (h : name ∈ b.names) (value : α) : (b.set name value).names = b.names := by
  obtain ⟨entries⟩ := b
  simp only [names, set] at h ⊢
  induction entries with
  | nil => cases h
  | cons e rest ih =>
    by_cases he : e.1 = name
    · simp [set.go, he]
    · have hrest : name ∈ rest.map (·.1) := by simpa [Ne.symm he] using h
      simp [set.go, he, ih hrest]

theorem mem_names_iff : name ∈ b.names ↔ ∃ value, b.get? name = some value := by
  unfold names get?
  rw [List.mem_map]
  constructor
  · rintro ⟨e, he, rfl⟩
    cases hf : b.entries.find? (·.1 == e.1) with
    | none => exact absurd (beq_self_eq_true e.1) (List.find?_eq_none.1 hf e he)
    | some f => exact ⟨f.2, rfl⟩
  · rintro ⟨value, h⟩
    obtain ⟨e, he, -⟩ := Option.map_eq_some_iff.1 h
    exact ⟨e, List.mem_of_find?_eq_some he, by simpa using List.find?_some he⟩

theorem get?_ofList (entries : List (String × α)) (name : String) :
    (ofList entries).get? name = (entries.reverse.find? (·.1 == name)).map (·.2) := by
  rw [ofList, get?_setAll, get?_empty, Option.or_none]

theorem mem_names_ofList {entries : List (String × α)} :
    name ∈ (ofList entries).names ↔ name ∈ entries.map (·.1) := by
  have hreverse : (⟨entries.reverse⟩ : Bindings α).names = (entries.map (·.1)).reverse :=
    List.map_reverse
  rw [mem_names_iff, ← List.mem_reverse, ← hreverse, mem_names_iff]
  simp only [get?_ofList]
  rfl

theorem distinct_empty : (∅ : Bindings α).Distinct := List.nodup_nil

theorem Distinct.set (h : b.Distinct) (name : String) (value : α) : (b.set name value).Distinct := by
  unfold Distinct at h ⊢
  by_cases hn : name ∈ b.names
  · rwa [names_set_of_mem hn]
  · rw [set_of_not_mem hn, names, List.map_append, List.nodup_append]
    refine ⟨h, by simp, ?_⟩
    intro x hx y hy heq
    obtain rfl : y = name := by simpa using hy
    exact hn (heq ▸ hx)

theorem Distinct.setAll (h : b.Distinct) (entries : List (String × α)) :
    (b.setAll entries).Distinct := by
  induction entries generalizing b with
  | nil => exact h
  | cons e rest ih => exact ih (h.set e.1 e.2)

theorem distinct_ofList (entries : List (String × α)) : (ofList entries).Distinct :=
  distinct_empty.setAll entries

/-- New names come last, in order. -/
theorem setAll_of_nodup {entries : List (String × α)}
    (h : (b.names ++ entries.map (·.1)).Nodup) : b.setAll entries = ⟨b.entries ++ entries⟩ := by
  induction entries generalizing b with
  | nil => simp [setAll]
  | cons e rest ih =>
    have hnew : e.1 ∉ b.names := by
      intro hmem
      exact (List.nodup_append.1 h).2.2 e.1 hmem e.1 (by simp) rfl
    have hset : b.set e.1 e.2 = ⟨b.entries ++ [e]⟩ := set_of_not_mem hnew e.2
    have hrest := ih (b := b.set e.1 e.2) (by simpa [hset, names] using h)
    rw [hset, List.append_assoc] at hrest
    rw [← hset] at hrest
    exact hrest

theorem ofList_of_nodup {entries : List (String × α)} (h : (entries.map (·.1)).Nodup) :
    ofList entries = ⟨entries⟩ :=
  setAll_of_nodup (b := empty) h

/-! ## Values -/

theorem Distinct.get?_eq_some_iff (h : b.Distinct) :
    b.get? name = some value ↔ (name, value) ∈ b.entries := by
  obtain ⟨entries⟩ := b
  unfold Distinct names at h
  unfold get?
  induction entries with
  | nil => simp
  | cons e rest ih =>
    obtain ⟨hfresh, hrest⟩ := List.nodup_cons.1 h
    by_cases he : e.1 = name
    · -- the name is not bound again, so the entry is this one
      have hnot : (name, value) ∉ rest :=
        fun hmem => hfresh (List.mem_map.2 ⟨(name, value), hmem, he.symm⟩)
      simp [he, hnot, Prod.ext_iff, eq_comm]
    · have hne : (name, value) ≠ e := fun heq => he (heq ▸ rfl)
      simpa [he, hne] using ih hrest

/-- Read from the end, distinct entries are the same. -/
theorem Distinct.find?_reverse (h : b.Distinct) (name : String) :
    (b.entries.reverse.find? (·.1 == name)).map (·.2) = b.get? name := by
  have hreverse : (⟨b.entries.reverse⟩ : Bindings α).Distinct := by
    unfold Distinct names at h ⊢
    rwa [List.map_reverse, (List.reverse_perm _).nodup_iff]
  apply Option.ext
  intro value
  rw [h.get?_eq_some_iff, ← List.mem_reverse]
  exact hreverse.get?_eq_some_iff

theorem Distinct.get?_layer (h : upper.Distinct) (lower : Bindings α) (name : String) :
    (upper.layer lower).get? name = (upper.get? name).or (lower.get? name) := by
  rw [layer, get?_setAll, h.find?_reverse]

end GpuCluster.Bindings
