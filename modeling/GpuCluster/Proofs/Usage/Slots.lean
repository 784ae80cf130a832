import Mathlib.Data.List.Basic
import Mathlib.Data.List.Nodup
import GpuCluster.Usage.Account

/-!
# Sampled seconds

* `Index.Sorted` : the keys ascend, so an entry is found exactly if it is there;
* `Usage.Slots.pairs` : the GPUs of all seconds, each with its second;
* `Usage.Slots.Shows` : slots show each GPU of some snapshots once in each of its seconds;
* `Usage.slots_shows` : so do the slots that are built from them.
-/

namespace GpuCluster

/-! ## Sorted indexes -/

namespace Index

variable {κ ν : Type} [LT κ] {i : Index κ ν} {key : κ} {value : ν}

/-- The keys ascend. -/
def Sorted (i : Index κ ν) : Prop := i.entries.Pairwise fun e f => e.1 < f.1

theorem sorted_empty : (empty : Index κ ν).Sorted := List.Pairwise.nil

variable [DecidableLT κ] [LE κ] [Std.IsLinearOrder κ] [Std.LawfulOrderLT κ]

theorem Sorted.get?_eq_some_iff (h : i.Sorted) :
    i.get? key = some value ↔ (key, value) ∈ i.entries := by
  obtain ⟨entries⟩ := i
  unfold Sorted at h
  simp only [get?]
  induction entries with
  | nil => simp [get?.go]
  | cons e rest ih =>
    obtain ⟨hfirst, hrest⟩ := List.pairwise_cons.1 h
    have := ih hrest
    grind [get?.go]

/-- Filing a value puts one entry in place of the one that had its key. -/
theorem Sorted.mem_set (h : i.Sorted) {e : κ × ν} :
    e ∈ (i.set key value).entries ↔ e = (key, value) ∨ (e ∈ i.entries ∧ e.1 ≠ key) := by
  obtain ⟨entries⟩ := i
  unfold Sorted at h
  simp only [set]
  induction entries with
  | nil => simp [set.go]
  | cons f rest ih =>
    obtain ⟨hfirst, hrest⟩ := List.pairwise_cons.1 h
    have := ih hrest
    grind [set.go]

theorem Sorted.set (h : i.Sorted) : (i.set key value).Sorted := by
  obtain ⟨entries⟩ := i
  unfold Sorted at h ⊢
  simp only [Index.set]
  induction entries with
  | nil => exact List.pairwise_singleton ..
  | cons f rest ih =>
    obtain ⟨hfirst, hrest⟩ := List.pairwise_cons.1 h
    unfold set.go
    split
    · refine List.pairwise_cons.2 ⟨fun e he => ?_, h⟩
      rcases List.mem_cons.1 he with rfl | he
      · assumption
      · have := hfirst e he
        grind
    split
    · refine List.pairwise_cons.2 ⟨fun e he => ?_, ih hrest⟩
      rcases (Sorted.mem_set (i := ⟨rest⟩) hrest).1 he with rfl | ⟨he, -⟩
      · assumption
      · exact hfirst e he
    · refine List.pairwise_cons.2 ⟨fun e he => ?_, hrest⟩
      have := hfirst e he
      grind

end Index

namespace Usage

variable {rows : List Snapshot} {s : Snapshot} {sec : Int} {key : String}

/-! ## Slots -/

namespace Slots

/-- The GPUs of all seconds, each with its second. -/
def pairs (slots : Slots) : List (Int × String) :=
  slots.entries.flatMap fun e => e.2.map (e.1, ·)

theorem mem_pairs {slots : Slots} :
    (sec, key) ∈ slots.pairs ↔ ∃ seen, (sec, seen) ∈ slots.entries ∧ key ∈ seen := by
  rw [pairs, List.mem_flatMap]
  constructor
  · rintro ⟨⟨a, seen⟩, he, hp⟩
    obtain ⟨k, hk, heq⟩ := List.mem_map.1 hp
    cases heq
    exact ⟨seen, he, hk⟩
  · rintro ⟨seen, he, hk⟩
    exact ⟨(sec, seen), he, List.mem_map.2 ⟨key, hk, rfl⟩⟩

/-- The GPUs that have been seen in a second. -/
def seenIn (slots : Slots) (sec : Int) : List String := (slots.get? sec).getD []

theorem note_eq (slots : Slots) (s : Snapshot) : slots.note s = slots.set s.timestamp.seconds
    ((slots.seenIn s.timestamp.seconds).insert s.gpuKey) := rfl

section Sorted
variable {slots : Slots} (h : slots.Sorted)
include h

theorem seenIn_of_mem {seen : List String} (he : (sec, seen) ∈ slots.entries) :
    slots.seenIn sec = seen := by
  rw [seenIn, h.get?_eq_some_iff.2 he, Option.getD_some]

theorem mem_seenIn : key ∈ slots.seenIn sec ↔ (sec, key) ∈ slots.pairs := by
  rw [mem_pairs]
  constructor
  · intro hk
    cases hg : slots.get? sec with
    | none => simp [seenIn, hg] at hk
    | some seen =>
      have he := h.get?_eq_some_iff.1 hg
      rw [seenIn_of_mem h he] at hk
      exact ⟨seen, he, hk⟩
  · rintro ⟨seen, he, hk⟩
    rw [seenIn_of_mem h he]
    exact hk

theorem nodup_seenIn (hn : ∀ e ∈ slots.entries, e.2.Nodup) (sec : Int) :
    (slots.seenIn sec).Nodup := by
  cases hg : slots.get? sec with
  | none => simp [seenIn, hg]
  | some seen =>
    have he := h.get?_eq_some_iff.1 hg
    rw [seenIn_of_mem h he]
    exact hn _ he

/-- Noting a snapshot adds its GPU to its second. -/
theorem mem_pairs_note : (sec, key) ∈ (slots.note s).pairs ↔
    (sec, key) ∈ slots.pairs ∨ (s.timestamp.seconds = sec ∧ s.gpuKey = key) := by
  have hnote : (slots.note s).Sorted := by
    rw [note_eq]
    exact h.set
  have hold : ∀ sec', sec' ≠ s.timestamp.seconds →
      ((sec', key) ∈ (slots.note s).pairs ↔ (sec', key) ∈ slots.pairs) := by
    intro sec' hne
    rw [mem_pairs, mem_pairs, note_eq]
    apply exists_congr
    intro seen
    rw [h.mem_set]
    simp [hne]
  by_cases hsec : sec = s.timestamp.seconds
  · subst hsec
    have hentry := h.mem_set.2 (.inl rfl : (s.timestamp.seconds,
      (slots.seenIn s.timestamp.seconds).insert s.gpuKey) = _ ∨ _)
    rw [← mem_seenIn hnote, seenIn_of_mem hnote hentry, List.mem_insert_iff, mem_seenIn h, or_comm]
    simp only [true_and, eq_comm]
  · rw [hold sec hsec]
    simp only [Ne.symm hsec, false_and, or_false]

end Sorted

/-- Slots show each GPU of some snapshots once in each of its seconds, and no other seconds. -/
structure Shows (slots : Slots) (rows : List Snapshot) : Prop where
  sorted : slots.Sorted
  nodup : ∀ e ∈ slots.entries, e.2.Nodup
  seen : ∀ e ∈ slots.entries, e.2 ≠ []
  mem_iff : ∀ sec key, (sec, key) ∈ slots.pairs ↔
    ∃ s ∈ rows, s.timestamp.seconds = sec ∧ s.gpuKey = key

theorem shows_empty : Shows .empty [] where
  sorted := Index.sorted_empty
  nodup _ h := absurd h List.not_mem_nil
  seen _ h := absurd h List.not_mem_nil
  mem_iff _ _ := ⟨fun h => absurd h List.not_mem_nil, fun ⟨_, h, _⟩ => absurd h List.not_mem_nil⟩

theorem Shows.note {slots : Slots} (h : slots.Shows rows) (s : Snapshot) :
    (slots.note s).Shows (rows ++ [s]) := by
  refine ⟨?_, fun e he => ?_, fun e he => ?_, fun sec key => ?_⟩
  · rw [note_eq]
    exact h.sorted.set
  · rw [note_eq] at he
    rcases h.sorted.mem_set.1 he with rfl | ⟨he, -⟩
    · exact (nodup_seenIn h.sorted h.nodup _).insert
    · exact h.nodup e he
  · rw [note_eq] at he
    rcases h.sorted.mem_set.1 he with rfl | ⟨he, -⟩
    · exact List.ne_nil_of_mem List.mem_insert_self
    · exact h.seen e he
  · rw [mem_pairs_note h.sorted, h.mem_iff]
    simp only [List.mem_append, List.mem_singleton, or_and_right, exists_or, exists_eq_left]

end Slots

theorem slots_shows (rows : List Snapshot) : (slots rows).Shows rows := by
  have hall : ∀ (rest rows : List Snapshot) (seen : Slots), seen.Shows rows →
      (rest.foldl Slots.note seen).Shows (rows ++ rest) := by
    intro rest
    induction rest with
    | nil =>
      intro rows seen h
      rw [List.append_nil]
      exact h
    | cons s rest ih =>
      intro rows seen h
      rw [List.append_cons]
      exact ih _ _ (h.note s)
  exact hall rows [] .empty Slots.shows_empty

namespace Slots

variable {slots : Slots}

/-- The seconds are those of the snapshots. -/
theorem Shows.mem_keys_iff (h : slots.Shows rows) :
    sec ∈ slots.keys ↔ sec ∈ rows.map (·.timestamp.seconds) := by
  rw [Index.keys, List.mem_map, List.mem_map]
  constructor
  · rintro ⟨⟨a, seen⟩, he, rfl⟩
    obtain ⟨k, hk⟩ := List.exists_mem_of_ne_nil seen (h.seen _ he)
    obtain ⟨s, hs, hsec, -⟩ := (h.mem_iff a k).1 (mem_pairs.2 ⟨seen, he, hk⟩)
    exact ⟨s, hs, hsec⟩
  · rintro ⟨s, hs, rfl⟩
    obtain ⟨seen, he, -⟩ := mem_pairs.1 ((h.mem_iff _ _).2 ⟨s, hs, rfl, rfl⟩)
    exact ⟨_, he, rfl⟩

theorem Shows.pairs_nodup (h : slots.Shows rows) : slots.pairs.Nodup := by
  refine List.nodup_flatMap.2 ⟨fun e he => ?_, h.sorted.imp fun {e f} hlt => ?_⟩
  · exact (h.nodup e he).map fun a b heq => (Prod.mk.inj heq).2
  · -- GPUs of different seconds differ in their seconds.
    intro p hp hq
    obtain ⟨a, -, rfl⟩ := List.mem_map.1 hp
    obtain ⟨b, -, heq⟩ := List.mem_map.1 hq
    have hsec : f.1 = e.1 := (Prod.mk.inj heq).1
    rw [hsec] at hlt
    exact absurd hlt (Int.lt_irrefl _)

/-- Snapshots of which no two are of one GPU in one second are shown one by one. -/
theorem Shows.pairs_perm (h : slots.Shows rows)
    (hn : (rows.map fun s => (s.timestamp.seconds, s.gpuKey)).Nodup) :
    slots.pairs.Perm (rows.map fun s => (s.timestamp.seconds, s.gpuKey)) := by
  refine (List.perm_ext_iff_of_nodup h.pairs_nodup hn).2 fun ⟨sec, key⟩ => ?_
  rw [h.mem_iff, List.mem_map]
  simp only [Prod.mk.injEq]

end Slots

end Usage

end GpuCluster
