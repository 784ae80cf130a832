import GpuCluster.Proofs.Telemetry.Gpus
import GpuCluster.Proofs.Usage.Integral

/-!
# Which GPU a key stands for

A GPU is known by the namespace and the name of its pod, its number and its own name.

* `Snapshot.identity` : these four of a snapshot, `Snapshot.identity_inj` : they can be read off its
  key if the pod is `WellNamed`;
* `identitiesIn` : how many GPUs are seen in a second; `gpusIn_eq` : as many as there are keys;
* `slots_counts` : the keys that are counted in each second;
* `merged_of_ok`, `merge_rows` : the samples of a pod make one snapshot for each GPU that they name;
* `keys_identify_gpus` : keys tell GPUs apart, so none is billed or sampled as another.
-/

namespace GpuCluster

namespace Usage

variable {rows : List Snapshot} {s r : Snapshot}

/-! ## The GPUs of snapshots -/

namespace Snapshot

/-- The GPU of a snapshot: the namespace and the name of the pod, the number and the name. -/
def identity (s : Snapshot) : String × String × Int32 × String :=
  (s.podNamespace, s.podName, s.gpuIndex, s.gpuUuid)

/-- The namespace has no slash and the name of the pod no colon. -/
def WellNamed (s : Snapshot) : Prop :=
  '/' ∉ s.podNamespace.toList ∧ ':' ∉ s.podName.toList

instance (s : Snapshot) : Decidable s.WellNamed := inferInstanceAs (Decidable (_ ∧ _))

theorem identity_inj (hs : s.WellNamed) (hr : r.WellNamed) :
    s.gpuKey = r.gpuKey ↔ s.identity = r.identity := by
  rw [gpuKey, gpuKey, gpuKey_inj hs.1 hr.1 hs.2 hr.2, identity, identity, Prod.mk.injEq,
    Prod.mk.injEq, Prod.mk.injEq]

end Snapshot

/-- Snapshots have as many keys as GPUs. -/
theorem card_keys (h : ∀ s ∈ rows, s.WellNamed) :
    (rows.map (·.gpuKey)).toFinset.card = (rows.map (·.identity)).toFinset.card := by
  have hkeys : (rows.map (·.gpuKey)).toFinset = (rows.map (·.identity)).toFinset.image
      fun g => gpuKey g.1 g.2.1 g.2.2.1 g.2.2.2 := by
    ext key
    simp only [List.mem_toFinset, List.mem_map, Finset.mem_image, exists_exists_and_eq_and]
    rfl
  rw [hkeys]
  refine Finset.card_image_of_injOn fun g hg g' hg' heq => ?_
  obtain ⟨s, hs, rfl⟩ := List.mem_map.1 (List.mem_toFinset.1 hg)
  obtain ⟨r, hr, rfl⟩ := List.mem_map.1 (List.mem_toFinset.1 hg')
  exact (Snapshot.identity_inj (h s hs) (h r hr)).1 heq

/-- How many GPUs are seen in a second. -/
def identitiesIn (rows : List Snapshot) (second : Int) : Nat :=
  ((rows.filter (·.timestamp.seconds = second)).map (·.identity)).toFinset.card

theorem gpusIn_eq (h : ∀ s ∈ rows, s.WellNamed) : gpusIn rows = identitiesIn rows :=
  funext fun _ => card_keys fun s hs => h s (List.mem_of_mem_filter hs)

/-- How many keys are counted in each second. -/
theorem slots_counts (rows : List Snapshot) :
    (slots rows).entries.map (fun e => (e.1, e.2.length)) =
      (sampledSeconds rows).map fun second => (second, gpusIn rows second) := by
  rw [← keys_slots, Index.keys, List.map_map]
  refine List.map_congr_left fun e he => ?_
  rw [length_of_mem_slots he]
  rfl

end Usage

namespace Telemetry

open Metrics (Sample)
open Usage

variable {job : JobId} {pod : Pod} {time : Instant} {o : Origin} {seen found : Snapshots}
  {memory utilization : List Sample} {rows : List Snapshot}

/-! ## The GPUs of a pod -/

/-- The snapshots of a pod under their keys, at any stage of the merge: one for each GPU, with the
figures of its own samples. -/
theorem merged_of_ok (hmemory : memory.foldlM (addSample o .memory) .empty = .ok seen)
    (hutilization : utilization.foldlM (addSample o .utilization) seen = .ok found) :
    Merged o memory utilization found := by
  obtain ⟨-, seen', hseen, hmerged⟩ | ⟨-, herror⟩ := foldlM_memory o memory
  · obtain rfl := Except.ok.inj (hmemory.symm.trans hseen)
    obtain ⟨found', hfound, hmerged'⟩ := foldlM_utilization hmerged utilization
    obtain rfl := Except.ok.inj (hutilization.symm.trans hfound)
    exact hmerged'
  · rw [hmemory] at herror
    cases herror

/-- The samples of a pod make one snapshot for each GPU that they name. -/
theorem merge_rows (h : merge job pod time memory utilization = .ok rows) :
    PerGpu job pod time memory utilization rows ∧
      rows.length = ((memory ++ utilization).map Gpu.ofSample).toFinset.card := by
  obtain ⟨-, -, found, hfound, hgpus⟩ | ⟨-, op, herror⟩ :=
    merge_cases job pod time memory utilization
  · obtain rfl := Except.ok.inj (h.symm.trans hfound)
    refine ⟨hgpus, ?_⟩
    rw [← List.length_map Gpu.ofSnapshot, ← List.toFinset_card_of_nodup hgpus.nodup]
    congr 1
    ext g
    rw [List.mem_toFinset, List.mem_toFinset, hgpus.mem_iff, List.mem_map]
  · rw [h] at herror
    cases herror

/-- Keys tell GPUs apart. As long as no namespace has a slash and no name of a pod a colon, a key
determines the namespace, the pod, the number and the name of its GPU, whatever that is called. So
the keys that are counted in each second of a job are as many as the GPUs seen in it, and those are
what the job is billed for. In the merge of the samples of a pod, whatever it is called, each key is
that of one GPU at every stage, and in the end there is one snapshot for each GPU that they name, in
the order of the keys, with the figures of its own samples. -/
theorem keys_identify_gpus :
    (∀ (podNamespace podNamespace' podName podName' : String) (x y : Int32) (u v : String),
      '/' ∉ podNamespace.toList → '/' ∉ podNamespace'.toList →
      ':' ∉ podName.toList → ':' ∉ podName'.toList →
      (gpuKey podNamespace podName x u = gpuKey podNamespace' podName' y v ↔
        podNamespace = podNamespace' ∧ podName = podName' ∧ x = y ∧ u = v)) ∧
    (∀ rows : List Snapshot, (∀ s ∈ rows, s.WellNamed) →
      (slots rows).entries.map (fun e => (e.1, e.2.length)) =
        (sampledSeconds rows).map (fun second => (second, identitiesIn rows second)) ∧
      (rows ≠ [] → (∀ s ∈ rows, s.timestamp.isKept = true) → ∀ (id : JobId) (now : Instant),
        ∃ usual summary, medianInterval (sampledSeconds rows) = .ok usual ∧
          Usage.summarize id rows now = .ok (some summary) ∧ summary.totalGpuSeconds =
            totalSeconds (invoice usual (identitiesIn rows) (sampledSeconds rows)))) ∧
    (∀ (o : Origin) (memory utilization : List Sample) (seen found : Snapshots),
      memory.foldlM (addSample o .memory) .empty = .ok seen →
      utilization.foldlM (addSample o .utilization) seen = .ok found →
      Merged o memory utilization found) ∧
    ∀ (job : JobId) (pod : Pod) (time : Instant) (memory utilization : List Sample)
      (rows : List Snapshot), merge job pod time memory utilization = .ok rows →
      PerGpu job pod time memory utilization rows ∧
        rows.length = ((memory ++ utilization).map Gpu.ofSample).toFinset.card := by
  refine ⟨fun _ _ _ _ _ _ _ _ => gpuKey_inj, fun rows hnamed => ⟨?_, fun hne hkept id now => ?_⟩,
    fun _ _ _ _ _ => merged_of_ok, fun _ _ _ _ _ _ => merge_rows⟩
  · rw [slots_counts, gpusIn_eq hnamed]
  · obtain ⟨usual, husual, -⟩ := billed_ok hkept
    rw [keys_slots] at husual
    have hbilled : billed rows =
        .ok (invoice usual (identitiesIn rows) (sampledSeconds rows)) := by
      rw [billed_eq, husual, gpusIn_eq hnamed]
      rfl
    exact ⟨usual, _, husual, summarize_of_billed hne hbilled id now, rfl⟩

/-- A snapshot of a GPU of a pod with a slash in its name. -/
def slashedSnapshot (second : Int) (index : Int32) (uuid : String) : Snapshot :=
  { gpuSnapshot ⟨second, 0⟩ index with podName := "trainer/0", gpuUuid := uuid }

/-- Two GPUs, whose number and name run into each other, in one second, and one of them later. -/
def slashedSnapshots : List Snapshot :=
  [slashedSnapshot 0 (-1) "0:a", slashedSnapshot 0 (-10) ":a", slashedSnapshot 0 (-1) "0:a",
    slashedSnapshot 10 (-10) ":a"]

/-- Two keys are counted in the first second, and one in the other. -/
theorem keys_identify_gpus_slashed :
    gpuKey "ml" "trainer/0" (-1) "0:a" ≠ gpuKey "ml" "trainer/0" (-10) ":a" ∧
    (∀ s ∈ slashedSnapshots, s.WellNamed) ∧
    (slots slashedSnapshots).entries.map (fun e => (e.1, e.2.length)) = [(0, 2), (10, 1)] ∧
    (∃ summary, Usage.summarize leftJob.id slashedSnapshots ⟨20, 0⟩ = .ok (some summary)) ∧
    (∃ o seen found, listedMemory.foldlM (addSample o .memory) .empty = .ok seen ∧
      listedLoad.foldlM (addSample o .utilization) seen = .ok found ∧
      Merged o listedMemory listedLoad found) ∧
    ∃ rows, merge leftJob.id sharedPod ⟨0, 0⟩ listedMemory listedLoad = .ok rows ∧
      rows.length = 3 := by
  obtain ⟨hkeys, hslots, hmerged, hmerge⟩ := keys_identify_gpus
  have hnamed : ∀ s ∈ slashedSnapshots, s.WellNamed := by decide
  obtain ⟨hcounts, hsummary⟩ := hslots slashedSnapshots hnamed
  obtain ⟨usual, summary, -, hsummary, -⟩ :=
    hsummary (List.cons_ne_nil _ _) (by decide) leftJob.id ⟨20, 0⟩
  have hrange : InRange listedMemory := inRange_of_nodup (by decide)
  let o : Origin := ⟨leftJob.id, sharedPod, ⟨0, 0⟩, 0⟩
  obtain ⟨-, seen, hmemory, hstage⟩ | ⟨hoverflow, -⟩ := foldlM_memory o listedMemory
  case inr => exact absurd hrange hoverflow
  obtain ⟨found, hload, -⟩ := foldlM_utilization hstage listedLoad
  have hunits : sharedPod.gpuRequest.toNat * Mps.unitsPerGpu.toNat < UInt32.size := by decide
  obtain ⟨rows, hrows, -⟩ := merge_perGpu leftJob.id ⟨0, 0⟩ listedLoad hunits hrange
  refine ⟨fun heq => ?_, hnamed, hcounts.trans ?_, ⟨summary, hsummary⟩,
    ⟨o, seen, found, hmemory, hload, hmerged _ _ _ _ _ hmemory hload⟩, rows, hrows, ?_⟩
  · have hindex := ((hkeys _ _ _ _ _ _ _ _ (by decide) (by decide) (by decide) (by decide)).1
      heq).2.2.1
    exact absurd hindex (by decide)
  · rw [← keys_slots]
    decide
  · rw [(hmerge _ _ _ _ _ _ hrows).2]
    decide

end Telemetry

end GpuCluster
