import Mathlib.Data.List.Nodup
import GpuCluster.Proofs.Text.Bindings
import GpuCluster.Text.Json.Record

/-!
# Fields of records

* `Json.distinct` : every object inside names each member once;
* `Json.HasForm` : an object, or an array that is not longer than the record;
* `Json.Field` : a field of a record, the member of its name or the element at its place;
* `Json.OptionalField` : a field that may be absent or null;
* `Record.require_eq_some_iff`, `Record.orDefault_nullOr?_iff` : what is read of a field;
* `Json.mapOf?_text_eq_some_iff` : an object of texts is read as it stands.
-/

namespace GpuCluster

namespace Json

variable {j x y : Json} {xs : List Json} {ms : List (String × Json)} {names : List String}
  {name : String} {outer : Nat}

/-! ## Distinct names -/

mutual
/-- Every object inside names each member once. -/
def distinct : Json → Bool
  | arr xs => elementsDistinct xs
  | obj ms => decide (ms.map (·.1)).Nodup && membersDistinct ms
  | _ => true

def elementsDistinct : List Json → Bool
  | [] => true
  | x :: xs => x.distinct && elementsDistinct xs

def membersDistinct : List (String × Json) → Bool
  | [] => true
  | (_, x) :: ms => x.distinct && membersDistinct ms
end

theorem elementsDistinct_iff : elementsDistinct xs = true ↔ ∀ x ∈ xs, x.distinct = true := by
  induction xs with
  | nil => simp [elementsDistinct]
  | cons x xs ih => simp [elementsDistinct, ih]

theorem membersDistinct_iff : membersDistinct ms = true ↔ ∀ m ∈ ms, m.2.distinct = true := by
  induction ms with
  | nil => simp [membersDistinct]
  | cons m ms ih => simp [membersDistinct, ih]

theorem distinct_obj_iff : (obj ms).distinct = true ↔
    (ms.map (·.1)).Nodup ∧ ∀ m ∈ ms, m.2.distinct = true := by
  rw [distinct, Bool.and_eq_true, decide_eq_true_eq, membersDistinct_iff]

theorem distinct_arr_iff : (arr xs).distinct = true ↔ ∀ x ∈ xs, x.distinct = true := by
  rw [distinct, elementsDistinct_iff]

/-- With distinct names the last member of a name is the only one. -/
theorem withLastMembers_of_distinct (h : j.distinct = true) : j.withLastMembers = j := by
  cases j with
  | obj ms =>
    have hnodup := (distinct_obj_iff.1 h).1
    refine congrArg obj ?_
    clear h
    induction ms with
    | nil => rfl
    | cons m rest ih =>
      obtain ⟨hm, hrest⟩ := List.nodup_cons.1 hnodup
      have hfresh : ¬ rest.any (fun e => e.1 == m.1) = true := by
        rw [List.any_eq_true]
        rintro ⟨e, he, heq⟩
        exact hm (List.mem_map.2 ⟨e, he, by simpa using heq⟩)
      rw [withLastMembers.go, if_neg hfresh, ih hrest]
  | null | bool _ | num _ | str _ | unpaired | arr _ => rfl

/-! ## What lies inside -/

theorem depth_le_elementsDepth (h : x ∈ xs) : x.depth ≤ elementsDepth xs := by
  induction xs with
  | nil => cases h
  | cons y ys ih =>
    rw [elementsDepth]
    rcases List.mem_cons.1 h with rfl | h
    · exact Nat.le_max_left ..
    · exact Nat.le_trans (ih h) (Nat.le_max_right ..)

theorem depth_le_membersDepth (h : (name, x) ∈ ms) : x.depth ≤ membersDepth ms := by
  induction ms with
  | nil => cases h
  | cons m ms ih =>
    rw [membersDepth]
    rcases List.mem_cons.1 h with rfl | h
    · exact Nat.le_max_left ..
    · exact Nat.le_trans (ih h) (Nat.le_max_right ..)

theorem elementsReadable_iff : elementsReadable xs = true ↔
    ∀ x ∈ xs, x.scalarsReadable = true := by
  induction xs with
  | nil => simp [elementsReadable]
  | cons x xs ih => simp [elementsReadable, ih]

theorem membersReadable_iff : membersReadable ms = true ↔
    ∀ m ∈ ms, m.2.scalarsReadable = true := by
  induction ms with
  | nil => simp [membersReadable]
  | cons m ms ih => simp [membersReadable, ih]

theorem readable_iff : j.readable outer = true ↔
    outer + j.depth ≤ depthLimit ∧ j.scalarsReadable = true := by
  rw [readable, Bool.and_eq_true, decide_eq_true_eq]

theorem readable_of_mem_arr (h : (arr xs).readable outer = true) (hx : x ∈ xs) :
    x.readable (outer + 1) = true := by
  rw [readable_iff, depth, scalarsReadable, elementsReadable_iff] at h
  rw [readable_iff]
  have hdepth := depth_le_elementsDepth hx
  exact ⟨by omega, h.2 x hx⟩

theorem readable_of_mem_obj (h : (obj ms).readable outer = true) (hx : (name, x) ∈ ms) :
    x.readable (outer + 1) = true := by
  rw [readable_iff, depth, scalarsReadable, membersReadable_iff] at h
  rw [readable_iff]
  have hdepth := depth_le_membersDepth hx
  exact ⟨by omega, h.2 _ hx⟩

/-! ## Fields -/

/-- The value has the form of a record: an object, or an array that is not longer than it. -/
def HasForm (names : List String) : Json → Prop
  | obj _ => True
  | arr xs => xs.length ≤ names.length
  | _ => False

/-- A field of a record: the member of its name, or the element at its place. -/
inductive Field (names : List String) (name : String) : Json → Json → Prop
  | member {ms : List (String × Json)} {x : Json} (h : (name, x) ∈ ms) :
      Field names name (obj ms) x
  | element {xs : List Json} {x : Json} {i : Nat} (hname : names[i]? = some name)
      (hx : xs[i]? = some x) : Field names name (arr xs) x

/-- A field that may be absent or null, and is read as `p` says otherwise. -/
inductive OptionalField {α : Type} (names : List String) (name : String) (p : Json → α → Prop)
    (j : Json) : Option α → Prop
  | absent (h : ∀ x, ¬ j.Field names name x) : OptionalField names name p j none
  | null (h : j.Field names name .null) : OptionalField names name p j none
  | present {x : Json} {a : α} (h : j.Field names name x) (hp : p x a) :
      OptionalField names name p j (some a)

theorem Field.distinct (h : Field names name j x) (hd : j.distinct = true) :
    x.distinct = true := by
  cases h with
  | member h => exact (distinct_obj_iff.1 hd).2 _ h
  | element _ hx => exact distinct_arr_iff.1 hd x (List.mem_of_getElem? hx)

theorem Field.readable (h : Field names name j x) (hr : j.readable outer = true) :
    x.readable (outer + 1) = true := by
  cases h with
  | member h => exact readable_of_mem_obj hr h
  | element _ hx => exact readable_of_mem_arr hr (List.mem_of_getElem? hx)

end Json

namespace Record

variable {names : List String} {name : String} {j x : Json} {r : Record} {α : Type} {a : α}
  {item : Json → Option α} {ms : List (String × Json)} {xs : List Json}

theorem length_occurrences (h : (ms.map (·.1)).Nodup) (name : String) :
    (occurrences name ms).length ≤ 1 := by
  have hcount := List.nodup_iff_count_le_one.1 h name
  rw [List.count_eq_countP, List.countP_map, List.countP_eq_length_filter] at hcount
  rwa [occurrences, List.length_map]

theorem head?_occurrences (h : (ms.map (·.1)).Nodup) :
    (occurrences name ms).head? = some x ↔ (name, x) ∈ ms := by
  have hdistinct : (⟨ms⟩ : Bindings Json).Distinct := h
  rw [occurrences, List.head?_map, List.head?_filter]
  exact hdistinct.get?_eq_some_iff

theorem open?_obj (h : (ms.map (·.1)).Nodup) (names : List String) :
    open? names (.obj ms) = some ⟨false, names.map fun n => (n, (occurrences n ms).head?)⟩ := by
  have hno : ¬ (names.any fun n => 1 < (occurrences n ms).length) = true := by
    simp only [List.any_eq_true, decide_eq_true_eq, not_exists, not_and]
    intro n _
    have := length_occurrences h n
    omega
  rw [open?, if_neg hno]

/-- A value with distinct names is a record exactly if it has the form of one. -/
theorem exists_open?_iff (hd : j.distinct = true) :
    (∃ r, open? names j = some r) ↔ j.HasForm names := by
  cases j with
  | obj ms => exact iff_of_true ⟨_, open?_obj (Json.distinct_obj_iff.1 hd).1 names⟩ trivial
  | arr xs =>
    rw [open?]
    show _ ↔ xs.length ≤ names.length
    split
    next h => simpa using h
    next h => simpa using h
  | null | bool _ | num _ | str _ | unpaired => exact iff_of_false nofun id

/-- The field of a name is the element at its place. -/
theorem find?_byPosition (hnames : names.Nodup) :
    ((byPosition names xs).find? (·.1 == name)).bind (·.2) = some x ↔
      ∃ i : Nat, names[i]? = some name ∧ xs[i]? = some x := by
  induction names generalizing xs with
  | nil => simp [byPosition]
  | cons n names ih =>
    obtain ⟨hn, hrest⟩ := List.nodup_cons.1 hnames
    have hcons : byPosition (n :: names) xs = (n, xs.head?) :: byPosition names xs.tail := by
      cases xs with
      | nil =>
        have hempty : byPosition names ([] : List Json).tail = byPosition names [] := rfl
        rw [hempty]
        rfl
      | cons y ys => rfl
    rw [hcons]
    by_cases heq : n = name
    · -- the name does not come again, so its place is the first one
      subst heq
      rw [List.find?_cons_of_pos (by simp)]
      refine ⟨fun h => ⟨0, rfl, by rwa [List.head?_eq_getElem?] at h⟩, ?_⟩
      rintro ⟨i, hi, hx⟩
      cases i with
      | zero =>
        rw [← List.head?_eq_getElem?] at hx
        exact hx
      | succ i => exact absurd (List.mem_of_getElem? (l := names) hi) hn
    · rw [List.find?_cons_of_neg (by simpa using heq), ih hrest]
      constructor
      · rintro ⟨i, hi, hx⟩
        exact ⟨i + 1, hi, by rwa [List.getElem?_tail] at hx⟩
      · rintro ⟨i, hi, hx⟩
        cases i with
        | zero => exact absurd (Option.some.inj hi) heq
        | succ i => exact ⟨i, hi, by rwa [List.getElem?_tail]⟩

theorem find?_map_pair {β : Type} (hname : name ∈ names) (f : String → β) :
    (names.map fun n => (n, f n)).find? (·.1 == name) = some (name, f name) := by
  induction names with
  | nil => cases hname
  | cons n names ih =>
    rw [List.map_cons]
    by_cases heq : n = name
    · subst heq
      exact List.find?_cons_of_pos (by simp)
    · rw [List.find?_cons_of_neg (by simpa using heq)]
      exact ih ((List.mem_cons.1 hname).resolve_left (Ne.symm heq))

/-- What a record has under a name is the field of this name. -/
theorem field?_eq_some_iff (hd : j.distinct = true) (hnames : names.Nodup) (hname : name ∈ names)
    (h : open? names j = some r) : r.field? name = some x ↔ j.Field names name x := by
  cases j with
  | obj ms =>
    have hnodup := (Json.distinct_obj_iff.1 hd).1
    rw [open?_obj hnodup] at h
    cases h
    rw [field?, find?_map_pair hname, Option.bind_some, head?_occurrences hnodup]
    exact ⟨.member, fun h => by cases h; assumption⟩
  | arr xs =>
    rw [open?] at h
    split at h
    next => cases h
    next =>
      cases h
      rw [field?, find?_byPosition hnames]
      constructor
      · rintro ⟨i, hi, hx⟩
        exact .element hi hx
      · intro hfield
        cases hfield with
        | element hi hx => exact ⟨_, hi, hx⟩
  | null | bool _ | num _ | str _ | unpaired => cases h

theorem require_eq_some_iff (hd : j.distinct = true) (hnames : names.Nodup) (hname : name ∈ names)
    (h : open? names j = some r) :
    r.require name item = some a ↔ ∃ x, j.Field names name x ∧ item x = some a := by
  rw [require, Option.bind_eq_some_iff]
  simp only [field?_eq_some_iff hd hnames hname h]

/-- An absent field stands for the default. -/
theorem orDefault_eq_some_iff (hd : j.distinct = true) (hnames : names.Nodup)
    (hname : name ∈ names) (h : open? names j = some r) {default : α} :
    r.orDefault name default item = some a ↔
      (∃ x, j.Field names name x ∧ item x = some a) ∨
        ((∀ x, ¬ j.Field names name x) ∧ a = default) := by
  have hfield (x : Json) := field?_eq_some_iff (x := x) hd hnames hname h
  rw [orDefault]
  simp only [← hfield]
  cases r.field? name with
  | none => simp [eq_comm]
  | some x => simp

end Record

namespace Json

variable {x : Json} {α : Type} {a : α} {o : Option α} {item : Json → Option α} {text : String}
  {labels : Bindings String}

theorem text?_eq_some_iff : x.text? = some text ↔ x = .str text := by
  cases x with
  | str s => simp [text?]
  | null | bool _ | num _ | unpaired | arr _ | obj _ => simp [text?]

theorem nullOr?_eq_some_iff (hitem : item null = none) :
    x.nullOr? item = some o ↔ (x = null ∧ o = none) ∨ ∃ a, item x = some a ∧ o = some a := by
  cases x with
  | null => simp [nullOr?, hitem, eq_comm]
  | bool _ | num _ | str _ | unpaired | arr _ | obj _ =>
    simp only [nullOr?, Option.map_eq_some_iff, reduceCtorEq, false_and, false_or, @eq_comm _ o]

theorem entries?_text_eq_some_iff {ms : List (String × Json)} {entries : List (String × String)} :
    mapOf?.entries? text? ms = some entries ↔ ms = entries.map fun e => (e.1, .str e.2) := by
  induction ms generalizing entries with
  | nil => cases entries <;> simp [mapOf?.entries?]
  | cons m ms ih =>
    obtain ⟨name, x⟩ := m
    cases entries with
    | nil => simp [mapOf?.entries?, Option.bind_eq_some_iff]
    | cons e entries =>
      simp only [mapOf?.entries?, bind, Option.bind_eq_some_iff, pure, Option.some.injEq, ih,
        text?_eq_some_iff, List.cons.injEq, List.map_cons]
      constructor
      · rintro ⟨text, rfl, rest, rfl, rfl, rfl⟩
        exact ⟨rfl, rfl⟩
      · rintro ⟨hm, rfl⟩
        obtain ⟨rfl, rfl⟩ := Prod.ext_iff.1 hm
        exact ⟨_, rfl, _, rfl, rfl, rfl⟩

/-- An object of texts with distinct names is read as it stands. -/
theorem mapOf?_text_eq_some_iff (hd : x.distinct = true) : x.mapOf? text? = some labels ↔
    x = .obj (labels.entries.map fun e => (e.1, .str e.2)) := by
  cases x with
  | obj ms =>
    have hnodup := (distinct_obj_iff.1 hd).1
    rw [mapOf?, Option.map_eq_some_iff]
    simp only [entries?_text_eq_some_iff, obj.injEq]
    constructor
    · rintro ⟨entries, rfl, rfl⟩
      rw [List.map_map] at hnodup
      rw [Bindings.ofList_of_nodup hnodup]
    · rintro rfl
      rw [List.map_map] at hnodup
      exact ⟨labels.entries, rfl, Bindings.ofList_of_nodup hnodup⟩
  | null | bool _ | num _ | str _ | unpaired | arr _ => simp [mapOf?]

end Json

/-- A field that may be absent or null is read so. -/
theorem Record.orDefault_nullOr?_iff {names : List String} {name : String} {j : Json} {r : Record}
    {α : Type} {item : Json → Option α} {p : Json → α → Prop} {o : Option α}
    (hd : j.distinct = true) (hnames : names.Nodup) (hname : name ∈ names)
    (h : open? names j = some r) (hitem : item .null = none)
    (hp : ∀ x, j.Field names name x → ∀ a, item x = some a ↔ p x a) :
    r.orDefault name none (Json.nullOr? item) = some o ↔ j.OptionalField names name p o := by
  rw [orDefault_eq_some_iff hd hnames hname h]
  simp only [Json.nullOr?_eq_some_iff hitem]
  constructor
  · rintro (⟨x, hx, ⟨rfl, rfl⟩ | ⟨a, ha, rfl⟩⟩ | ⟨habsent, rfl⟩)
    · exact .null hx
    · exact .present hx ((hp x hx a).1 ha)
    · exact .absent habsent
  · intro h
    cases h with
    | absent h => exact .inr ⟨h, rfl⟩
    | null h => exact .inl ⟨_, h, .inl ⟨rfl, rfl⟩⟩
    | present h hpa => exact .inl ⟨_, h, .inr ⟨_, (hp _ h _).2 hpa, rfl⟩⟩

end GpuCluster
