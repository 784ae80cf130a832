import Mathlib.Data.List.Induction
import Mathlib.Data.List.Nodup
import GpuCluster.Proofs.Action
import GpuCluster.Job.Store

/-!
# The archive as a list of jobs with distinct identities

* `Job.Archive.Indexed` : the index leads to the slot of each record and to no other slot;
* `find?_eq_some_iff` : a look-up finds the record of an identity;
* `find?_modify`, `statusOf?_advance` : a look-up after a change;
* `toList_modify` : a change reaches the record of one identity and nothing else;
* `Indexed.add`, `Indexed.modify` : the operations keep the index right;
* `exists_indexed` : any records with distinct identities can be stored;
* `add_cases`, `create_cases`, `recordIf_ok` : all that the operations can do;
* `keeps_create`, `keeps_record`, `keeps_recordIf` : so no call to the store breaks the index.
-/

namespace GpuCluster.Job.Archive

variable {a b : Archive} {id : JobId} {j k : Job} {change : Job → Job}

/-- The index leads to the slot of each record and to no other slot. -/
def Indexed (a : Archive) : Prop :=
  ∀ (id : JobId) (slot : Nat), a.slots[id]? = some slot ↔
    ∃ j : Job, a.records[slot]? = some j ∧ j.id = id

theorem indexed_empty : Indexed empty := by
  intro id slot
  simp [empty]

theorem mem_toList_iff : j ∈ a.toList ↔ ∃ slot : Nat, a.records[slot]? = some j := by
  rw [toList, Array.mem_toList_iff, Array.mem_iff_getElem?]

theorem Indexed.find?_eq_some_iff (h : a.Indexed) :
    a.find? id = some j ↔ j ∈ a.toList ∧ j.id = id := by
  rw [mem_toList_iff]
  constructor
  · intro hf
    unfold find? at hf
    split at hf
    next slot hs =>
      obtain ⟨k, hk, hid⟩ := (h id slot).1 hs
      have hkj : k = j := Option.some.inj (hk.symm.trans hf)
      exact ⟨⟨slot, hf⟩, hkj ▸ hid⟩
    next => cases hf
  · rintro ⟨⟨slot, hs⟩, rfl⟩
    have hi := (h j.id slot).2 ⟨j, hs, rfl⟩
    rw [find?, hi]
    exact hs

theorem Indexed.find?_of_mem (h : a.Indexed) (hj : j ∈ a.toList) : a.find? j.id = some j :=
  h.find?_eq_some_iff.2 ⟨hj, rfl⟩

theorem Indexed.find?_eq_none_iff (h : a.Indexed) :
    a.find? id = none ↔ ∀ j ∈ a.toList, j.id ≠ id := by
  constructor
  · rintro hn j hj rfl
    rw [h.find?_of_mem hj] at hn
    cases hn
  · intro hn
    cases hf : a.find? id with
    | none => rfl
    | some j =>
      obtain ⟨hj, hid⟩ := h.find?_eq_some_iff.1 hf
      exact absurd hid (hn j hj)

/-- Two records of one identity are the same record. -/
theorem Indexed.eq_of_id (h : a.Indexed) (hj : j ∈ a.toList) (hk : k ∈ a.toList)
    (hid : j.id = k.id) : j = k := by
  have hf := h.find?_of_mem hj
  rw [hid, h.find?_of_mem hk] at hf
  exact (Option.some.inj hf).symm

theorem Indexed.nodup (h : a.Indexed) : (a.toList.map (·.id)).Nodup := by
  rw [List.Nodup, List.pairwise_iff_getElem]
  intro m n hm hn hlt heq
  rw [List.getElem_map, List.getElem_map] at heq
  rw [List.length_map] at hm hn
  have slotOf : ∀ i (hi : i < a.toList.length), a.slots[(a.toList[i]).id]? = some i := by
    intro i hi
    refine (h _ i).2 ⟨a.toList[i], ?_, rfl⟩
    rw [← Array.getElem?_toList]
    exact List.getElem?_eq_getElem hi
  have hs := slotOf m hm
  rw [heq, slotOf n hn] at hs
  exact absurd (Option.some.inj hs) (by omega)

/-! ## Operations -/

/-- A change reaches the record of one identity and nothing else. -/
theorem Indexed.toList_modify (h : a.Indexed) (id : JobId) (change : Job → Job) :
    (a.modify id change).toList = a.toList.map fun j => if j.id = id then change j else j := by
  unfold modify
  split
  next slot hs =>
    apply List.ext_getElem?
    intro n
    rw [toList, Array.toList_modify, List.getElem?_modify, List.getElem?_map]
    change _ <$> a.toList[n]? = Option.map _ a.toList[n]?
    cases hn : a.toList[n]? with
    | none => rfl
    | some j =>
      have hr : a.records[n]? = some j := by rw [← Array.getElem?_toList]; exact hn
      have hiff : slot = n ↔ j.id = id := by
        constructor
        · rintro rfl
          obtain ⟨k, hk, hid⟩ := (h id slot).1 hs
          rw [hr] at hk
          exact Option.some.inj hk ▸ hid
        · rintro rfl
          exact Option.some.inj (hs.symm.trans ((h j.id n).2 ⟨j, hr, rfl⟩))
      by_cases hid : j.id = id
      · simp [hiff.2 hid, hid]
      · simp [mt hiff.1 hid, hid]
  next hn =>
    have hne : ∀ j ∈ a.toList, (if j.id = id then change j else j) = j := by
      intro j hj
      obtain ⟨slot, hs⟩ := mem_toList_iff.1 hj
      refine if_neg ?_
      rintro rfl
      rw [(h j.id slot).2 ⟨j, hs, rfl⟩] at hn
      cases hn
    rw [List.map_congr_left hne, List.map_id']

theorem Indexed.mem_modify (h : a.Indexed) :
    k ∈ (a.modify id change).toList ↔
      ∃ j ∈ a.toList, (if j.id = id then change j else j) = k := by
  rw [h.toList_modify, List.mem_map]

theorem Indexed.ids_modify (h : a.Indexed) (hc : ∀ j, (change j).id = j.id) :
    (a.modify id change).toList.map (·.id) = a.toList.map (·.id) := by
  rw [h.toList_modify, List.map_map]
  refine List.map_congr_left fun j _ => ?_
  change (if j.id = id then change j else j).id = j.id
  split
  next => exact hc j
  next => rfl

theorem Indexed.modify (h : a.Indexed) (hc : ∀ j, (change j).id = j.id) :
    (a.modify id change).Indexed := by
  unfold Archive.modify
  split
  next slot hs =>
    intro other n
    rw [h other n, Array.getElem?_modify]
    by_cases hn : slot = n
    · rw [if_pos hn]
      cases a.records[n]? with
      | none => simp
      | some j => simp [hc]
    · rw [if_neg hn]
  next => exact h

theorem modify_of_find?_eq_none (hf : a.find? id = none) : a.modify id change = a := by
  unfold find? at hf
  unfold Archive.modify
  split
  next slot hs =>
    have hn : a.records[slot]? = none := by simpa only [hs] using hf
    have hout : a.records.modify slot change = a.records := by
      apply Array.ext_getElem?
      intro n
      rw [Array.getElem?_modify]
      by_cases heq : slot = n
      · rw [if_pos heq, ← heq, hn]
        rfl
      · rw [if_neg heq]
    rw [hout]
  next => rfl

theorem add_cases (ha : a.add j = .ok b) :
    a.slots[j.id]? = none ∧ b = ⟨a.records.push j, a.slots.insert j.id a.records.size⟩ := by
  unfold Archive.add at ha
  split at ha
  next => cases ha
  next hn =>
    cases ha
    rw [Std.HashMap.contains_eq_isSome_getElem?, Bool.not_eq_true, Option.isSome_eq_false_iff,
      Option.isNone_iff_eq_none] at hn
    exact ⟨hn, rfl⟩

theorem exists_add_empty (j : Job) : ∃ a, empty.add j = .ok a := by
  refine ⟨_, if_neg ?_⟩
  simp [empty]

/-- A record with a new identity is taken. -/
theorem Indexed.exists_add (h : a.Indexed) (hj : ∀ k ∈ a.toList, k.id ≠ j.id) :
    ∃ b, a.add j = .ok b := by
  refine ⟨_, if_neg ?_⟩
  rw [Std.HashMap.contains_eq_isSome_getElem?, Option.isSome_iff_exists]
  rintro ⟨slot, hs⟩
  obtain ⟨k, hk, hid⟩ := (h j.id slot).1 hs
  exact hj k (mem_toList_iff.2 ⟨slot, hk⟩) hid

/-- A new record has a new identity. -/
theorem Indexed.ne_of_add (h : a.Indexed) (ha : a.add j = .ok b) : ∀ k ∈ a.toList, k.id ≠ j.id := by
  obtain ⟨hn, -⟩ := add_cases ha
  intro k hk hid
  obtain ⟨slot, hs⟩ := mem_toList_iff.1 hk
  rw [(h j.id slot).2 ⟨k, hs, hid⟩] at hn
  cases hn

theorem Indexed.add (h : a.Indexed) (ha : a.add j = .ok b) : b.Indexed := by
  have hne := h.ne_of_add ha
  obtain ⟨-, rfl⟩ := add_cases ha
  intro id slot
  rw [Std.HashMap.getElem?_insert, Array.getElem?_push]
  by_cases hid : j.id = id
  · subst hid
    simp only [beq_self_eq_true, if_true, Option.some.injEq]
    constructor
    · rintro rfl
      exact ⟨j, if_pos rfl, rfl⟩
    · rintro ⟨k, hk, hid⟩
      by_cases hs : slot = a.records.size
      · exact hs.symm
      · rw [if_neg hs] at hk
        exact absurd hid (hne k (mem_toList_iff.2 ⟨slot, hk⟩))
  · rw [if_neg (by simpa using hid), h id slot]
    by_cases hs : slot = a.records.size
    · subst hs
      simp [hid]
    · rw [if_neg hs]

/-- Any records with distinct identities can be stored. -/
theorem exists_indexed {js : List Job} (h : (js.map (·.id)).Nodup) :
    ∃ a : Archive, a.Indexed ∧ a.toList = js := by
  induction js using List.reverseRecOn with
  | nil => exact ⟨empty, indexed_empty, rfl⟩
  | append_singleton js j ih =>
    rw [List.map_append] at h
    obtain ⟨hjs, -, hne⟩ := List.nodup_append.1 h
    obtain ⟨a, ha, rfl⟩ := ih hjs
    obtain ⟨b, hb⟩ := ha.exists_add (j := j) fun k hk =>
      hne k.id (List.mem_map_of_mem hk) j.id List.mem_cons_self
    exact ⟨b, ha.add hb, toList_add hb⟩

/-! ## Looking up after a change -/

theorem Indexed.find?_modify (h : a.Indexed) (hc : ∀ j, (change j).id = j.id) (id other : JobId) :
    (a.modify id change).find? other =
      (a.find? other).map fun j => if other = id then change j else j := by
  cases hf : a.find? other with
  | none =>
    refine (h.modify hc).find?_eq_none_iff.2 fun k hk => ?_
    obtain ⟨j, hj, rfl⟩ := h.mem_modify.1 hk
    have hne := h.find?_eq_none_iff.1 hf j hj
    split
    next => rwa [hc]
    next => exact hne
  | some j =>
    obtain ⟨hj, rfl⟩ := h.find?_eq_some_iff.1 hf
    refine (h.modify hc).find?_eq_some_iff.2 ⟨h.mem_modify.2 ⟨j, hj, rfl⟩, ?_⟩
    split
    next => exact hc j
    next => rfl

/-- Records with the same identities in the same order are told apart by looking them up. -/
theorem Indexed.toList_eq_map (ha : a.Indexed) (hb : b.Indexed)
    (hids : b.toList.map (·.id) = a.toList.map (·.id))
    (hfind : ∀ id, b.find? id = (a.find? id).map change) : b.toList = a.toList.map change := by
  have hlen : b.toList.length = a.toList.length := by
    have := congrArg List.length hids
    rwa [List.length_map, List.length_map] at this
  refine List.ext_getElem (hlen.trans (List.length_map _).symm) fun n hn hn' => ?_
  rw [List.length_map] at hn'
  have hid : b.toList[n].id = a.toList[n].id := by
    have := List.getElem_of_eq hids (i := n) (by rwa [List.length_map])
    rwa [List.getElem_map, List.getElem_map] at this
  have hlook := hfind b.toList[n].id
  rw [hb.find?_of_mem (List.getElem_mem hn), hid, ha.find?_of_mem (List.getElem_mem hn')] at hlook
  rw [List.getElem_map]
  exact Option.some.inj hlook

/-- A new status reaches one record. -/
theorem Indexed.advance {now : Instant} {id : JobId} {status : JobStatus} {reason : Option String}
    (h : a.Indexed) : (a.modify id (Job.advance now status reason)).Indexed :=
  h.modify fun _ => id_advance ..

theorem Indexed.find?_advance (h : a.Indexed) (now : Instant) (id : JobId) (status : JobStatus)
    (reason : Option String) (other : JobId) :
    (a.modify id (Job.advance now status reason)).find? other =
      (a.find? other).map fun j => if other = id then j.advance now status reason else j :=
  h.find?_modify (fun _ => id_advance ..) id other

/-- The stored status of a job. -/
def statusOf? (a : Archive) (id : JobId) : Option JobStatus := (a.find? id).map (·.status)

theorem statusOf?_of_find? (hf : a.find? id = some j) : a.statusOf? id = some j.status := by
  rw [statusOf?, hf]
  rfl

/-- A new status reaches the job it is meant for, if it is stored. -/
theorem Indexed.statusOf?_advance (h : a.Indexed) (now : Instant) (status : JobStatus)
    (reason : Option String) (id other : JobId) :
    (a.modify id (Job.advance now status reason)).statusOf? other =
      (a.statusOf? other).map fun s => if other = id then status else s := by
  rw [statusOf?, statusOf?, h.find?_modify fun _ => id_advance .., Option.map_map, Option.map_map]
  refine congrArg (Option.map · _) (funext fun j => ?_)
  change (if other = id then Job.advance now status reason j else j).status = _
  by_cases hid : other = id
  · rw [if_pos hid]
    exact (if_pos hid).symm
  · rw [if_neg hid]
    exact (if_neg hid).symm

/-! ## The store in memory -/

variable {now : Instant} {expected status : JobStatus} {reason : Option String}

theorem record_of_find? (hf : a.find? id = some j) :
    Store.archive.record now id status reason a =
      .ok () (a.modify id (Job.advance now status reason)) := by
  simp only [Store.archive, Archive.record, hf]

theorem record_of_none (hf : a.find? id = none) :
    Store.archive.record now id status reason a = .error (.error (.noSuchJob id)) a := by
  simp only [Store.archive, Archive.record, hf]

theorem record_answers (now : Instant) (id : JobId) (status : JobStatus)
    (reason : Option String) : (Store.archive.record now id status reason).Answers := by
  intro a
  cases hf : a.find? id with
  | some j => exact ⟨.ok (), _, Action.attempt_of_ok (record_of_find? hf)⟩
  | none => exact ⟨.error (.noSuchJob id), a, Action.attempt_of_error (record_of_none hf)⟩

theorem recordIf_of_eq (hf : a.find? id = some j) (hs : j.status = expected) :
    Store.archive.recordIf now id expected status reason a =
      .ok true (a.modify id (Job.advance now status reason)) := by
  simp only [Store.archive, Archive.recordIf, hf, hs, if_true]

theorem recordIf_of_ne (hf : a.find? id = some j) (hs : j.status ≠ expected) :
    Store.archive.recordIf now id expected status reason a = .ok false a := by
  simp only [Store.archive, Archive.recordIf, hf, hs, if_false]

theorem recordIf_of_none (hf : a.find? id = none) :
    Store.archive.recordIf now id expected status reason a =
      .error (.error (.noSuchJob id)) a := by
  simp only [Store.archive, Archive.recordIf, hf]

/-- A conditional write changes the record if its status is as expected. -/
theorem recordIf_ok {moved : Bool}
    (h : Store.archive.recordIf now id expected status reason a = .ok moved b) :
    ∃ j, a.find? id = some j ∧
      ((j.status = expected ∧ moved = true ∧ b = a.modify id (Job.advance now status reason)) ∨
        (j.status ≠ expected ∧ moved = false ∧ b = a)) := by
  cases hf : a.find? id with
  | none =>
    rw [recordIf_of_none hf] at h
    cases h
  | some j =>
    refine ⟨j, rfl, ?_⟩
    by_cases hs : j.status = expected
    · rw [recordIf_of_eq hf hs] at h
      cases h
      exact .inl ⟨hs, rfl, rfl⟩
    · rw [recordIf_of_ne hf hs] at h
      cases h
      exact .inr ⟨hs, rfl, rfl⟩

/-- A conditional write answers for every stored job. -/
theorem recordIf_of_find? (now : Instant) (expected status : JobStatus) (reason : Option String)
    (hf : a.find? id = some j) :
    ∃ moved b, Store.archive.recordIf now id expected status reason a = .ok moved b := by
  by_cases hs : j.status = expected
  · exact ⟨true, _, recordIf_of_eq hf hs⟩
  · exact ⟨false, a, recordIf_of_ne hf hs⟩

/-- A conditional write reports an error only for a job that is not stored. -/
theorem recordIf_error {f : Failure}
    (h : Store.archive.recordIf now id expected status reason a = .error f b) :
    a.find? id = none ∧ b = a := by
  cases hf : a.find? id with
  | none =>
    rw [recordIf_of_none hf] at h
    cases h
    exact ⟨rfl, rfl⟩
  | some j =>
    obtain ⟨moved, c, hok⟩ := recordIf_of_find? now expected status reason hf
    rw [hok] at h
    cases h

theorem find_ok (h : Store.archive.find id a = .ok j b) : a.find? id = some j ∧ b = a := by
  simp only [Store.archive] at h
  cases hf : a.find? id with
  | none =>
    rw [hf] at h
    cases h
  | some k =>
    rw [hf] at h
    cases h
    exact ⟨rfl, rfl⟩

theorem find_of_find? (hf : a.find? id = some j) : Store.archive.find id a = .ok j a := by
  simp only [Store.archive, hf]

theorem find_of_none (hf : a.find? id = none) :
    Store.archive.find id a = .error (.error (.noSuchJob id)) a := by
  simp only [Store.archive, hf]

theorem find_reads (id : JobId) : Action.Reads (Store.archive.find id) := by
  intro a
  cases hf : a.find? id with
  | none => exact Action.after_of_error (find_of_none hf)
  | some j => exact Action.after_of_ok (find_of_find? hf)

theorem find_answers (id : JobId) : (Store.archive.find id).Answers := by
  intro a
  cases hf : a.find? id with
  | some j => exact ⟨.ok j, a, Action.attempt_of_ok (find_of_find? hf)⟩
  | none => exact ⟨.error (.noSuchJob id), a, Action.attempt_of_error (find_of_none hf)⟩

theorem withStatus_reads (statuses : List JobStatus) :
    Action.Reads (Store.archive.withStatus statuses) := fun _ => rfl

theorem create_ok (h : Store.archive.create j a = .ok () b) : a.add j = .ok b := by
  simp only [Store.archive] at h
  cases ha : a.add j with
  | error e =>
    rw [ha] at h
    cases h
  | ok c =>
    rw [ha] at h
    cases h
    rfl

theorem create_of_add (h : a.add j = .ok b) : Store.archive.create j a = .ok () b := by
  simp only [Store.archive, h]

theorem create_error {f : Failure} (h : Store.archive.create j a = .error f b) : b = a := by
  simp only [Store.archive] at h
  cases ha : a.add j with
  | error e =>
    rw [ha] at h
    cases h
    rfl
  | ok c =>
    rw [ha] at h
    cases h

/-- A record is refused if and only if its identity is taken. -/
theorem Indexed.create_cases (h : a.Indexed) (j : Job) :
    ((∀ k ∈ a.toList, k.id ≠ j.id) ∧ ∃ b, Store.archive.create j a = .ok () b ∧ a.add j = .ok b) ∨
    (∃ k ∈ a.toList, k.id = j.id) ∧
      Store.archive.create j a = .error (.error (.jobExists j.id)) a := by
  by_cases hnew : ∀ k ∈ a.toList, k.id ≠ j.id
  · obtain ⟨b, hb⟩ := h.exists_add hnew
    exact .inl ⟨hnew, b, create_of_add hb, hb⟩
  · simp only [not_forall, not_not] at hnew
    obtain ⟨k, hk, hid⟩ := hnew
    refine .inr ⟨⟨k, hk, hid⟩, ?_⟩
    have hrefused : a.add j = .error (.jobExists j.id) := by
      cases ha : a.add j with
      | ok b => exact absurd hid (h.ne_of_add ha k hk)
      | error e =>
        unfold Archive.add at ha
        split at ha
        next => exact ha.symm
        next => cases ha
    simp only [Store.archive, hrefused]

/-! ## What every write keeps -/

theorem keeps_create (j : Job) : Action.Keeps Indexed (Store.archive.create j) := by
  intro a ha
  cases h : Store.archive.create j a with
  | ok _ b =>
    rw [Action.after_of_ok h]
    exact ha.add (create_ok h)
  | error f b =>
    rw [Action.after_of_error h, create_error h]
    exact ha

theorem keeps_record (now : Instant) (id : JobId) (status : JobStatus) (reason : Option String) :
    Action.Keeps Indexed (Store.archive.record now id status reason) := by
  intro a ha
  cases hf : a.find? id with
  | some j =>
    rw [Action.after_of_ok (record_of_find? hf)]
    exact ha.advance
  | none =>
    rw [Action.after_of_error (record_of_none hf)]
    exact ha

theorem keeps_recordIf (now : Instant) (id : JobId) (expected status : JobStatus)
    (reason : Option String) :
    Action.Keeps Indexed (Store.archive.recordIf now id expected status reason) := by
  intro a ha
  cases h : Store.archive.recordIf now id expected status reason a with
  | ok moved b =>
    rw [Action.after_of_ok h]
    obtain ⟨j, -, ⟨-, -, rfl⟩ | ⟨-, -, rfl⟩⟩ := recordIf_ok h
    · exact ha.advance
    · exact ha
  | error f b =>
    rw [Action.after_of_error h, (recordIf_error h).2]
    exact ha

end GpuCluster.Job.Archive
