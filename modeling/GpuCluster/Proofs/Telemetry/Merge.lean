import GpuCluster.Telemetry.Merge

/-!
# What the snapshots of a pod are marked with

* `Index.mapValues` : an index with other values under its keys;
* `stamp` : a snapshot marked with a job, a pod and a time;
* `merge_stamp` : the job and the time reach the snapshots of a pod as marks, and in no other way;
* `merge_marks` : so each of them names the job, the pod and the time.
-/

namespace GpuCluster

namespace Index

variable {κ ν : Type} (f : ν → ν) (i : Index κ ν) (key : κ) (value : ν)

/-- The same keys with other values. -/
def mapValues : Index κ ν := ⟨i.entries.map fun e => (e.1, f e.2)⟩

theorem values_mapValues : (i.mapValues f).values = i.values.map f := by
  rw [values, values, mapValues, List.map_map, List.map_map]
  rfl

variable [LT κ] [DecidableLT κ]

theorem get?_mapValues : (i.mapValues f).get? key = (i.get? key).map f := by
  obtain ⟨entries⟩ := i
  simp only [mapValues, get?]
  induction entries with
  | nil => rfl
  | cons e rest ih =>
    simp only [List.map_cons, get?.go]
    split
    · rfl
    split
    · exact ih
    · rfl

theorem set_mapValues : (i.mapValues f).set key (f value) = (i.set key value).mapValues f := by
  obtain ⟨entries⟩ := i
  simp only [mapValues, set, Index.mk.injEq]
  induction entries with
  | nil => rfl
  | cons e rest ih =>
    simp only [List.map_cons, set.go]
    split
    · rfl
    split
    · rw [List.map_cons, ih]
    · rfl

end Index

namespace Telemetry

variable {job job' : JobId} {pod : Pod} {time time' : Instant} {rows : List Usage.Snapshot}

/-- A snapshot marked with a job, a pod and a time. -/
def stamp (job : JobId) (pod : Pod) (time : Instant) (s : Usage.Snapshot) : Usage.Snapshot :=
  { s with jobId := job, timestamp := time, podName := pod.name, podNamespace := pod.namespaceName }

theorem addValue_stamp (metric : Metric) (value : Float) (s : Usage.Snapshot) :
    addValue metric value (stamp job pod time s) =
      (addValue metric value s).map (stamp job pod time) := by
  cases metric with
  | memory =>
    simp only [addValue, stamp]
    cases Checked.addI64 s.memoryBytes value.toInt64 with
    | error f => rfl
    | ok bytes => rfl
  | utilization => rfl

theorem addSample_eq (o : Origin) (metric : Metric) (found : Snapshots) (s : Metrics.Sample) :
    addSample o metric found s =
      (addValue metric s.value ((found.get? (o.keyOf (Gpu.ofSample s))).getD (o.begin s))).map
        (found.set (o.keyOf (Gpu.ofSample s))) := by
  change (addValue metric s.value ((found.get? (o.keyOf (Gpu.ofSample s))).getD (o.begin s)) >>=
    fun snapshot => .ok (found.set (o.keyOf (Gpu.ofSample s)) snapshot)) = _
  cases addValue metric s.value ((found.get? (o.keyOf (Gpu.ofSample s))).getD (o.begin s)) with
  | error f => rfl
  | ok snapshot => rfl

variable (job job' pod time time')

theorem addSample_stamp (units : UInt32) (metric : Metric) (found : Snapshots)
    (s : Metrics.Sample) :
    addSample ⟨job', pod, time', units⟩ metric (found.mapValues (stamp job' pod time')) s =
      (addSample ⟨job, pod, time, units⟩ metric found s).map
        (·.mapValues (stamp job' pod time')) := by
  have hkey (g : Gpu) : Origin.keyOf ⟨job', pod, time', units⟩ g =
      Origin.keyOf ⟨job, pod, time, units⟩ g := rfl
  have hbegin : Origin.begin ⟨job', pod, time', units⟩ s =
      stamp job' pod time' (Origin.begin ⟨job, pod, time, units⟩ s) := rfl
  rw [addSample_eq, addSample_eq, hkey, Index.get?_mapValues, hbegin, Option.getD_map,
    addValue_stamp]
  cases addValue metric s.value
      ((found.get? (Origin.keyOf ⟨job, pod, time, units⟩ (Gpu.ofSample s))).getD
        (Origin.begin ⟨job, pod, time, units⟩ s)) with
  | error f => rfl
  | ok snapshot => exact congrArg Except.ok (Index.set_mapValues ..)

theorem foldlM_stamp (units : UInt32) (metric : Metric) (samples : List Metrics.Sample)
    (found : Snapshots) :
    samples.foldlM (addSample ⟨job', pod, time', units⟩ metric)
        (found.mapValues (stamp job' pod time')) =
      (samples.foldlM (addSample ⟨job, pod, time, units⟩ metric) found).map
        (·.mapValues (stamp job' pod time')) := by
  induction samples generalizing found with
  | nil => rfl
  | cons s rest ih =>
    rw [List.foldlM_cons, List.foldlM_cons, addSample_stamp job job' pod time time']
    cases addSample ⟨job, pod, time, units⟩ metric found s with
    | error f => rfl
    | ok found' => exact ih found'

/-- The job and the time of the snapshots of a pod are marks, and all else is without them. -/
theorem merge_stamp (memory utilization : List Metrics.Sample) :
    merge job' pod time' memory utilization =
      (merge job pod time memory utilization).map (List.map (stamp job' pod time')) := by
  unfold merge
  cases Mps.ofGpus pod.gpuRequest with
  | error f => rfl
  | ok units =>
    have hmemory : memory.foldlM (addSample ⟨job', pod, time', units⟩ .memory) Index.empty = _ :=
      foldlM_stamp job job' pod time time' units .memory memory Index.empty
    simp only [bind, Except.bind, hmemory]
    cases memory.foldlM (addSample ⟨job, pod, time, units⟩ .memory) Index.empty with
    | error f => rfl
    | ok found =>
      have hutilization := foldlM_stamp job job' pod time time' units .utilization utilization found
      simp only [Except.map, hutilization]
      cases utilization.foldlM (addSample ⟨job, pod, time, units⟩ .utilization) found with
      | error f => rfl
      | ok found => exact congrArg _ (Index.values_mapValues ..)

variable {job job' pod time time'}

/-- Each snapshot of a pod names the job, the pod and the time. -/
theorem merge_marks {memory utilization : List Metrics.Sample}
    (h : merge job pod time memory utilization = .ok rows) {s : Usage.Snapshot} (hs : s ∈ rows) :
    s.jobId = job ∧ s.timestamp = time ∧ s.podName = pod.name ∧
      s.podNamespace = pod.namespaceName := by
  have hstamp := merge_stamp job job pod time time memory utilization
  rw [h] at hstamp
  have hrows : rows = rows.map (stamp job pod time) := Except.ok.inj hstamp
  rw [hrows] at hs
  obtain ⟨s', -, rfl⟩ := List.mem_map.1 hs
  exact ⟨rfl, rfl, rfl, rfl⟩

end Telemetry

end GpuCluster
