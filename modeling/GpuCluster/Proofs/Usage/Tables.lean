import Mathlib.Data.List.Nodup
import GpuCluster.Usage.Tables

/-!
# Usage tables as they are read

* `Tables.Listing` : the snapshots of a job by time, then by number;
* `Tables.summary?_putSummary` : one summary is kept per job;
* `Tables.lt_of_mem_numbered` : the numbers that snapshots are given.
-/

namespace GpuCluster.Usage.Tables

variable {t : Tables} {id : JobId} {a b c s : Snapshot} {batch : List Snapshot}

/-! ## Listings -/

/-- The snapshots of a job among others, by time and then by number. -/
structure Listing (all : List Snapshot) (id : JobId) (rows : List Snapshot) : Prop where
  perm : rows.Perm (all.filter (·.jobId == id))
  ordered : rows.Pairwise fun a b =>
    a.timestamp < b.timestamp ∨ a.timestamp = b.timestamp ∧ a.id ≤ b.id

theorem listedBefore_iff : listedBefore a b = true ↔
    a.timestamp < b.timestamp ∨ a.timestamp = b.timestamp ∧ a.id ≤ b.id := by
  simp only [listedBefore, Bool.or_eq_true, Bool.and_eq_true, decide_eq_true_eq, beq_iff_eq]

theorem listedBefore_trans (hab : listedBefore a b = true) (hbc : listedBefore b c = true) :
    listedBefore a c = true := by
  rw [listedBefore_iff, Instant.lt_def] at *
  rcases hab with hab | ⟨hab, hab'⟩
  · rcases hbc with hbc | ⟨hbc, -⟩
    · exact .inl (by omega)
    · exact .inl (hbc ▸ hab)
  · rw [hab]
    rcases hbc with hbc | ⟨hbc, hbc'⟩
    · exact .inl hbc
    · exact .inr ⟨hbc, by omega⟩

theorem listedBefore_total (a b : Snapshot) : listedBefore a b || listedBefore b a := by
  rw [Bool.or_eq_true, listedBefore_iff, listedBefore_iff, Instant.lt_def, Instant.lt_def]
  by_cases h : a.timestamp = b.timestamp
  · rw [h]
    rcases Nat.le_total a.id b.id with hid | hid
    · exact .inl (.inr ⟨rfl, hid⟩)
    · exact .inr (.inr ⟨rfl, hid⟩)
  · have hne : a.timestamp.seconds = b.timestamp.seconds → a.timestamp.nanos ≠ b.timestamp.nanos :=
      fun hs hn => h (Instant.eq_of_parts hs hn)
    omega

theorem listing_mergeSort (all : List Snapshot) (id : JobId) :
    Listing all id ((all.filter (·.jobId == id)).mergeSort listedBefore) := by
  have hsorted : ((all.filter (·.jobId == id)).mergeSort listedBefore).Pairwise
      fun a b => listedBefore a b = true :=
    List.pairwise_mergeSort (fun a b c => listedBefore_trans (a := a) (b := b) (c := c))
      listedBefore_total _
  exact ⟨List.mergeSort_perm .., hsorted.imp listedBefore_iff.1⟩

theorem listing_ofJob (t : Tables) (id : JobId) : Listing t.snapshots id (t.ofJob id) :=
  listing_mergeSort ..

namespace Listing

variable {all all' rows : List Snapshot}

theorem mem_iff (h : Listing all id rows) : s ∈ rows ↔ s ∈ all ∧ s.jobId = id := by
  rw [h.perm.mem_iff, List.mem_filter, beq_iff_eq]

theorem congr (h : Listing all id rows)
    (hall : (all.filter (·.jobId == id)).Perm (all'.filter (·.jobId == id))) :
    Listing all' id rows :=
  ⟨h.perm.trans hall, h.ordered⟩

end Listing

theorem ofJob_eq_nil_iff : t.ofJob id = [] ↔ ∀ s ∈ t.snapshots, s.jobId ≠ id := by
  rw [List.eq_nil_iff_forall_not_mem]
  constructor
  · intro h s hs hid
    exact h s (mem_ofJob.2 ⟨hs, hid⟩)
  · intro h s hs
    obtain ⟨hmem, hid⟩ := mem_ofJob.1 hs
    exact h s hmem hid

/-! ## Summaries -/

theorem summary?_putSummary (t : Tables) (sm : Summary) (id : JobId) :
    (t.putSummary sm).summary? id = if sm.jobId = id then some sm else t.summary? id := by
  unfold summary? putSummary
  rw [List.find?_append]
  by_cases h : sm.jobId = id
  · rw [List.find?_eq_none.2, if_pos h]
    · simp [h]
    · intro old hold
      obtain ⟨-, hne⟩ := List.mem_filter.1 hold
      simpa [← h] using hne
  · have hlast : [sm].find? (·.jobId == id) = none := by simp [h]
    rw [if_neg h, hlast, Option.or_none, List.find?_filter]
    congr 1
    funext old
    by_cases hold : old.jobId = id
    · simp [hold, Ne.symm h]
    · simp [hold]

/-! ## Numbers -/

theorem lt_of_mem_numbered {last : Nat} (h : s ∈ numbered last batch) :
    last < s.id ∧ s.id ≤ last + batch.length := by
  have hid : s.id ∈ (numbered last batch).map (·.id) := List.mem_map_of_mem h
  rw [map_id_numbered, List.mem_range'_1] at hid
  omega

/-- A snapshot is numbered and else stays as it is. -/
theorem exists_of_mem_numbered {last : Nat} (h : s ∈ numbered last batch) :
    ∃ x ∈ batch, s = { x with id := s.id } := by
  induction batch generalizing last with
  | nil => cases h
  | cons x rest ih =>
    obtain rfl | h := List.mem_cons.1 h
    · exact ⟨x, List.mem_cons_self, rfl⟩
    · obtain ⟨y, hy, hs⟩ := ih h
      exact ⟨y, List.mem_cons_of_mem x hy, hs⟩

end GpuCluster.Usage.Tables
