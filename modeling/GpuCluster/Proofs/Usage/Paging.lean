import Mathlib.Algebra.GroupWithZero.Nat
import Mathlib.Data.List.Induction
import GpuCluster.Arithmetic
import GpuCluster.Proofs.Action
import GpuCluster.Proofs.Usage.Tables

/-!
# Paging through snapshots

* `Call`, `History` : calls to a store in memory, the tables they lead to and all that was ever
  stored in them; `History.Sound` : what is stored is numbered from one without a gap;
* `Tables.snapshots_page` : a page is a section of the listing;
* `Store.readAll` : read page after page until one is empty; `readAll_sound`, `readAll_complete` :
  this gives the listing;
* `paging_exact` : all of it for the tables that any calls lead to.
-/

namespace GpuCluster.Usage

open Checked (FitsI64)
open Tables (Listing listing_ofJob)

variable {σ : Type} {t : Tables} {job : JobId} {size : Int64} {k most : Nat} {xs : List Snapshot}

/-! ## Calls -/

/-- A call that changes the snapshots of a store. -/
inductive Call where
  | insert (batch : List Snapshot)
  | dropBefore (cutoff : Instant)

namespace Call

/-- The tables that a call leaves. -/
def run (t : Tables) : Call → Tables
  | insert batch => (Store.tables.insert batch).after t
  | dropBefore cutoff => (Store.tables.dropBefore cutoff).after t

/-- The snapshots that a call brings. -/
def batch : Call → List Snapshot
  | insert batch => batch
  | dropBefore _ => []

end Call

/-- Tables, and all that was ever stored in them as it was stored. -/
structure History where
  tables : Tables := {}
  filed : List Snapshot := []

namespace History

/-- One more call. What it files is what the tables gain at their end. -/
def next (h : History) (c : Call) : History where
  tables := c.run h.tables
  filed := h.filed ++ (c.run h.tables).snapshots.drop h.tables.snapshots.length

/-- The history of some calls to an empty store. -/
def of (calls : List Call) : History := calls.foldl next {}

end History

/-- A snapshot without its number. -/
def Snapshot.unnumbered (x : Snapshot) : Snapshot := { x with id := 0 }

theorem Tables.unnumbered_numbered (last : Nat) (batch : List Snapshot) :
    (numbered last batch).map Snapshot.unnumbered = batch.map Snapshot.unnumbered := by
  induction batch generalizing last with
  | nil => rfl
  | cons x rest ih => exact congrArg (x.unnumbered :: ·) (ih (last + 1))

/-- What these calls have stored is what they brought, numbered from one without a gap, and the
tables hold some of it. -/
structure History.Sound (h : History) (calls : List Call) : Prop where
  contents : h.filed.map Snapshot.unnumbered = (calls.flatMap Call.batch).map Snapshot.unnumbered
  numbers : h.filed.map (·.id) = List.range' 1 h.filed.length
  lastId : h.tables.lastId = h.filed.length
  stored : h.tables.snapshots.Sublist h.filed

namespace History.Sound

variable {h : History} {calls : List Call}

theorem next_insert (hs : h.Sound calls) (batch : List Snapshot) :
    (h.next (.insert batch)).Sound (calls ++ [.insert batch]) := by
  have htables : (h.next (.insert batch)).tables = h.tables.insert batch := rfl
  have hfiled : (h.next (.insert batch)).filed =
      h.filed ++ Tables.numbered h.tables.lastId batch := by
    change h.filed ++ (h.tables.snapshots ++ _).drop h.tables.snapshots.length = _
    rw [List.drop_left]
  constructor
  · rw [hfiled, List.map_append, hs.contents, Tables.unnumbered_numbered, List.flatMap_append,
      List.map_append, List.flatMap_singleton]
    rfl
  · rw [hfiled, List.map_append, hs.numbers, Tables.map_id_numbered, hs.lastId, List.length_append,
      Tables.length_numbered, Nat.add_comm h.filed.length 1, List.range'_append_1]
  · rw [htables, hfiled, List.length_append, Tables.length_numbered, ← hs.lastId]
    rfl
  · rw [htables, hfiled]
    exact hs.stored.append (.refl _)

theorem next_dropBefore (hs : h.Sound calls) (cutoff : Instant) :
    (h.next (.dropBefore cutoff)).Sound (calls ++ [.dropBefore cutoff]) := by
  have htables : (h.next (.dropBefore cutoff)).tables = h.tables.dropBefore cutoff := rfl
  have hfiled : (h.next (.dropBefore cutoff)).filed = h.filed := by
    change h.filed ++ (h.tables.snapshots.filter _).drop h.tables.snapshots.length = _
    rw [List.drop_eq_nil_of_le (List.length_filter_le ..), List.append_nil]
  constructor
  · rw [hfiled, hs.contents, List.flatMap_append, List.flatMap_singleton]
    exact congrArg _ (List.append_nil _).symm
  · rw [hfiled]
    exact hs.numbers
  · rw [htables, hfiled, ← hs.lastId]
    rfl
  · rw [htables, hfiled]
    exact List.filter_sublist.trans hs.stored

theorem of_calls (calls : List Call) : (History.of calls).Sound calls := by
  induction calls using List.reverseRecOn with
  | nil => exact ⟨rfl, rfl, rfl, .slnil⟩
  | append_singleton calls c ih =>
    rw [History.of, List.foldl_append, ← History.of]
    cases c with
    | insert batch => exact ih.next_insert batch
    | dropBefore cutoff => exact ih.next_dropBefore cutoff

/-- No two snapshots of the tables have the same number. -/
theorem nodup (hs : h.Sound calls) : (h.tables.snapshots.map (·.id)).Nodup := by
  refine .sublist (hs.stored.map _) ?_
  rw [hs.numbers]
  exact List.nodup_range'

end History.Sound

/-- Where no two numbers are the same, a listing is in one order only. -/
theorem Tables.Listing.strict {all rows : List Snapshot} (h : Listing all job rows)
    (hn : (all.map (·.id)).Nodup) : rows.Pairwise fun a b =>
      a.timestamp < b.timestamp ∨ a.timestamp = b.timestamp ∧ a.id < b.id := by
  have hids : (rows.map (·.id)).Nodup :=
    (h.perm.map _).nodup_iff.2 (hn.sublist (List.filter_sublist.map _))
  refine (h.ordered.and (List.pairwise_map.1 hids)).imp ?_
  rintro a b ⟨hlt | ⟨heq, hle⟩, hne⟩
  · exact .inl hlt
  · exact .inr ⟨heq, Nat.lt_of_le_of_ne hle hne⟩

/-! ## Pages -/

/-- A page is a section of the listing. -/
theorem Tables.snapshots_page (t : Tables) (job : JobId) (hsize : 0 < size)
    (hfits : FitsI64 (k * size.toInt)) :
    (t.page job size (.ofInt (k * size.toInt))).snapshots =
      ((t.ofJob job).drop (k * size.toInt.toNat)).take size.toInt.toNat := by
  have hpos : 0 ≤ size.toInt := Int.le_of_lt (Int64.lt_iff_toInt_lt.1 hsize)
  have hoffset : (Int64.ofInt (k * size.toInt)).toInt.toNat = k * size.toInt.toNat := by
    rw [Checked.toInt_ofInt_of_fits hfits, Int.toNat_mul (Int.natCast_nonneg k) hpos,
      Int.toNat_natCast]
  rw [page, pageSize, if_pos hsize, hoffset]

/-- Read the pages of a job from the `k`-th one on until one is empty, at most so many. There is no
answer if none of them is, or if an offset is too large to ask for. -/
def Store.readAll (store : Store σ) (job : JobId) (size : Int64) :
    Nat → Nat → Action σ (Option (List Snapshot))
  | 0, _ => return none
  | most + 1, k =>
    if FitsI64 (k * size.toInt) then do
      let page ← store.page job size (.ofInt (k * size.toInt))
      if page.snapshots.isEmpty then return some []
      else do
        let rest ← readAll store job size most (k + 1)
        return rest.map (page.snapshots ++ ·)
    else return none

theorem readAll_of_not_fits (hfits : ¬FitsI64 (k * size.toInt)) :
    Store.tables.readAll job size (most + 1) k t = .ok none t := by
  rw [Store.readAll, if_neg hfits]
  rfl

/-- A page and what comes after it is what comes after the page before. -/
theorem page_append_drop : ((t.ofJob job).drop (k * size.toInt.toNat)).take size.toInt.toNat ++
    (t.ofJob job).drop ((k + 1) * size.toInt.toNat) =
      (t.ofJob job).drop (k * size.toInt.toNat) := by
  rw [Nat.succ_mul, ← List.drop_drop, List.take_append_drop]

section ReadAll
variable (hsize : 0 < size)
include hsize

theorem toNat_pos_of_pos : 0 < size.toInt.toNat :=
  Int.pos_iff_toNat_pos.1 (Int64.lt_iff_toInt_lt.1 hsize)

theorem page_eq_nil_iff : ((t.ofJob job).drop (k * size.toInt.toNat)).take size.toInt.toNat = [] ↔
    (t.ofJob job).length ≤ k * size.toInt.toNat := by
  have hpos := toNat_pos_of_pos hsize
  rw [List.take_eq_nil_iff, List.drop_eq_nil_iff]
  omega

theorem readAll_of_fits (hfits : FitsI64 (k * size.toInt)) :
    Store.tables.readAll job size (most + 1) k t =
      (if (t.ofJob job).length ≤ k * size.toInt.toNat then return some []
        else do
          let rest ← Store.tables.readAll job size most (k + 1)
          return rest.map
            (((t.ofJob job).drop (k * size.toInt.toNat)).take size.toInt.toNat ++ ·)) t := by
  have hcall : Store.tables.page job size (.ofInt (k * size.toInt)) t =
      .ok (t.page job size (.ofInt (k * size.toInt))) t := rfl
  rw [Store.readAll, if_pos hfits, Action.bind_of_ok hcall, Tables.snapshots_page t job hsize hfits]
  simp only [List.isEmpty_iff, page_eq_nil_iff hsize]

/-- If the pages from the `k`-th one on are read up to an empty one, they make up the listing from
there on. -/
theorem readAll_sound (t : Tables) (job : JobId) (most k : Nat) : ∃ r,
    Store.tables.readAll job size most k t = .ok r t ∧
      ∀ xs ∈ r, xs = (t.ofJob job).drop (k * size.toInt.toNat) := by
  induction most generalizing k with
  | zero => exact ⟨none, rfl, nofun⟩
  | succ most ih =>
    by_cases hfits : FitsI64 (k * size.toInt)
    · rw [readAll_of_fits hsize hfits]
      split_ifs with hempty
      · refine ⟨some [], rfl, fun xs hxs => ?_⟩
        rw [List.drop_eq_nil_of_le hempty, Option.mem_some.1 hxs]
      · obtain ⟨r, hrest, hr⟩ := ih (k + 1)
        refine ⟨_, Action.bind_of_ok hrest, fun xs hxs => ?_⟩
        obtain ⟨ys, hys, rfl⟩ := Option.map_eq_some_iff.1 hxs
        rw [hr ys hys, page_append_drop]
    · exact ⟨none, readAll_of_not_fits hfits, nofun⟩

/-- The offset of the page after one that is not empty can be asked for. -/
theorem fits_succ (hlength : (t.ofJob job).length ≤ 2 ^ 62)
    (hmore : k * size.toInt.toNat < (t.ofJob job).length) :
    FitsI64 ((k + 1 : Nat) * size.toInt) := by
  have hpos := toNat_pos_of_pos hsize
  obtain ⟨-, hmax⟩ := Checked.fitsI64_toInt size
  have hvalue : ((k + 1 : Nat) * size.toInt : Int) =
      (k * size.toInt.toNat + size.toInt.toNat : Nat) := by
    rw [← Nat.succ_mul, Int.natCast_mul, Int.toNat_of_nonneg (by omega)]
  rw [Int64.toInt_maxValue] at hmax
  rw [FitsI64, hvalue, Int64.toInt_minValue, Int64.toInt_maxValue]
  -- The first page may be as large as a word allows, any later one is smaller than the listing.
  cases k with
  | zero => omega
  | succ k =>
    have hle : size.toInt.toNat ≤ (k + 1) * size.toInt.toNat := Nat.le_mul_of_pos_left _ k.succ_pos
    omega

/-- An empty page is reached, and with it the end of the listing. -/
theorem readAll_complete (hlength : (t.ofJob job).length ≤ 2 ^ 62)
    (hfits : FitsI64 (k * size.toInt))
    (hmost : ((t.ofJob job).drop (k * size.toInt.toNat)).length < most) :
    Store.tables.readAll job size most k t =
      .ok (some ((t.ofJob job).drop (k * size.toInt.toNat))) t := by
  induction most generalizing k with
  | zero => exact absurd hmost (Nat.not_lt_zero _)
  | succ most ih =>
    have hpos := toNat_pos_of_pos hsize
    rw [readAll_of_fits hsize hfits]
    split_ifs with hempty
    · rw [List.drop_eq_nil_of_le hempty]
      rfl
    · have hmore := Nat.not_le.1 hempty
      have hrest := ih (fits_succ hsize hlength hmore) (by
        rw [List.length_drop] at hmost ⊢
        rw [Nat.succ_mul]
        omega)
      rw [Action.bind_of_ok hrest, Option.map_some, page_append_drop]
      rfl

end ReadAll

/-- A size of zero or less stands for the default one. -/
theorem Tables.page_of_nonpos {limit : Int64} (h : limit ≤ 0) (t : Tables) (job : JobId)
    (offset : Int64) : t.page job limit offset = t.page job 200 offset := by
  have hnot : ¬0 < limit := Int64.not_lt.2 h
  have hdefault : pageSize 200 = defaultPageSize := by decide
  rw [page, page, hdefault, pageSize, if_neg hnot]

/-- A negative offset stands for none. -/
theorem Tables.page_of_neg {offset : Int64} (h : offset < 0) (t : Tables) (job : JobId)
    (limit : Int64) : t.page job limit offset = t.page job limit 0 := by
  have hneg : offset.toInt < 0 := Int64.lt_iff_toInt_lt.1 h
  have hnone : offset.toInt.toNat = (0 : Int64).toInt.toNat := Int.toNat_of_nonpos (by omega)
  rw [page, page, hnone]

/-! ## After any calls -/

/-- Whatever is stored and dropped, all that is ever stored is numbered from one without a gap, in
the order in which it comes. The listing of a job has what is stored of it by time, then by number.
Each page of it gives its length, and its pages of any size, one after the other up to an empty one,
make it up. One is reached unless an offset grows too large before. A size of zero or less stands
for 200, and a negative offset for none. -/
theorem paging_exact (calls : List Call) :
    (History.of calls).Sound calls ∧
    (∀ job, ∃ rows,
      Store.tables.ofJob job (History.of calls).tables = .ok rows (History.of calls).tables ∧
      rows.Perm ((History.of calls).tables.snapshots.filter (·.jobId == job)) ∧
      (rows.Pairwise fun a b =>
        a.timestamp < b.timestamp ∨ a.timestamp = b.timestamp ∧ a.id < b.id) ∧
      (∀ limit offset, ∃ page, Store.tables.page job limit offset (History.of calls).tables =
        .ok page (History.of calls).tables ∧ page.total = rows.length) ∧
      ∀ size, 0 < size →
        (∀ most xs t',
          Store.tables.readAll job size most 0 (History.of calls).tables = .ok (some xs) t' →
          xs = rows ∧ t' = (History.of calls).tables) ∧
        (rows.length ≤ 2 ^ 62 → ∀ most, rows.length < most →
          Store.tables.readAll job size most 0 (History.of calls).tables =
            .ok (some rows) (History.of calls).tables)) ∧
    ∀ job limit offset,
      (limit ≤ 0 → Store.tables.page job limit offset = Store.tables.page job 200 offset) ∧
      (offset < 0 → Store.tables.page job limit offset = Store.tables.page job limit 0) := by
  have hsound := History.Sound.of_calls calls
  refine ⟨hsound, fun job => ?_, fun job limit offset => ⟨fun h => ?_, fun h => ?_⟩⟩
  · have hlisting := listing_ofJob (History.of calls).tables job
    refine ⟨_, rfl, hlisting.perm, hlisting.strict hsound.nodup, fun limit offset => ⟨_, rfl, rfl⟩,
      fun size hsize => ⟨fun most xs t' hread => ?_, fun hlength most hmost => ?_⟩⟩
    · obtain ⟨r, hrun, hr⟩ := readAll_sound hsize (History.of calls).tables job most 0
      rw [hread] at hrun
      cases hrun
      rw [hr xs rfl, Nat.zero_mul, List.drop_zero]
      exact ⟨rfl, rfl⟩
    · have hfirst : FitsI64 ((0 : Nat) * size.toInt) := by
        rw [Int.natCast_zero, Int.zero_mul]
        decide
      rw [readAll_complete hsize hlength hfirst]
      · rw [Nat.zero_mul, List.drop_zero]
      · rw [Nat.zero_mul, List.drop_zero]
        exact hmost
  · funext t
    exact congrArg (EStateM.Result.ok · t) (t.page_of_nonpos h job offset)
  · funext t
    exact congrArg (EStateM.Result.ok · t) (t.page_of_neg h job limit)

/-- A snapshot of a job at a time. -/
def sampleAt (seconds : Int) : Snapshot :=
  { jobId := ⟨7#128⟩, timestamp := ⟨seconds, 0⟩, podName := "pod", podNamespace := "default",
    gpuIndex := 0, gpuUuid := "", memoryBytes := 0, utilization := 0, node := "", units := 0,
    physicalIndex := 0 }

/-- The first of two snapshots is dropped before a third one comes. -/
def thirdAfterDrop : List Call :=
  [.insert [sampleAt 10, sampleAt 20], .dropBefore ⟨15, 0⟩, .insert [sampleAt 20]]

/-- The third snapshot has a number of its own, and two pages of one snapshot make up the listing. A
page of size zero after a negative offset is the first one of 200. -/
theorem paging_exact_thirdAfterDrop : ∃ rows,
    (History.of thirdAfterDrop).filed.map (·.id) = [1, 2, 3] ∧
    (History.of thirdAfterDrop).tables.snapshots.map (·.id) = [2, 3] ∧ rows.length = 2 ∧
    Store.tables.readAll ⟨7#128⟩ 1 3 0 (History.of thirdAfterDrop).tables =
      .ok (some rows) (History.of thirdAfterDrop).tables ∧
    Store.tables.page ⟨7#128⟩ 0 (-5) = Store.tables.page ⟨7#128⟩ 200 0 := by
  obtain ⟨hsound, hlistings, hdefaults⟩ := paging_exact thirdAfterDrop
  obtain ⟨rows, -, hperm, -, -, hpages⟩ := hlistings ⟨7#128⟩
  have hlength : rows.length = 2 := hperm.length_eq
  obtain ⟨-, hcomplete⟩ := hpages 1 (by decide)
  have hrun := hcomplete (by omega) 3 (by omega)
  refine ⟨rows, hsound.numbers, rfl, hlength, hrun, ?_⟩
  rw [(hdefaults ⟨7#128⟩ 0 (-5)).1 (by decide), (hdefaults ⟨7#128⟩ 200 (-5)).2 (by decide)]

end GpuCluster.Usage
