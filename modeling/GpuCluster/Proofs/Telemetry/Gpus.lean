import Mathlib.Algebra.BigOperators.Group.List.Basic
import Mathlib.Algebra.Order.Ring.Int
import Mathlib.Data.String.Basic
import GpuCluster.Proofs.Telemetry.Isolation
import GpuCluster.Proofs.Usage.GpuKey
import GpuCluster.Proofs.Usage.Slots

/-!
# The snapshots of a pod, GPU by GPU

* `Gpu.samplesIn`, `Gpu.bytes`, `Gpu.load` : the samples of one GPU and what they add up to;
* `InRange` : the sums of bytes fit their words, `inRange_of_nodup` : so they do if no GPU has two
  samples;
* `Merged` : what the samples seen so far make of each GPU; `Merged.add` : one more sample;
* `PerGpu` : one snapshot for each GPU, with the figures of its samples;
* `merge_ok_iff`, `merge_perGpu` : when the samples of a pod can be merged, and what comes of it;
* `samplePod_per_gpu` : a pod is sampled GPU by GPU, and its bytes in any order.
-/

namespace GpuCluster

namespace Metrics.Sample

variable (s : Sample) (name : String)

/-- A label as it was sent; a missing one reads like an empty one. -/
def text : String := (s.labels.get? name).getD ""

theorem label?_eq : s.label? name = if s.text name = "" then none else some (s.text name) := by
  unfold label? text
  cases s.labels.get? name with
  | none => rfl
  | some value =>
    by_cases hvalue : value = ""
    · simp [hvalue]
    · simp [hvalue]

end Metrics.Sample

namespace Telemetry

open Metrics (Sample)
open Usage (Snapshot)

variable {σ : Type} {s : Sample} {g g' : Gpu}
  {samples memory utilization memory' utilization' : List Sample}

/-! ## The samples of a GPU -/

/-- A number that is missing or cannot be read is minus one, and a missing name is empty. -/
theorem Gpu.ofSample_eq (s : Sample) : Gpu.ofSample s =
    ⟨(Decimal.parseI32 (s.text "gpu_index")).getD (-1), s.text "gpu_uuid"⟩ := by
  have hempty : Decimal.parseI32 "" = none := rfl
  rw [ofSample, Sample.label?_eq, Sample.label?_eq]
  congr 1
  · split
    next h =>
      rw [h, hempty]
      rfl
    next h => rfl
  · split
    next h => exact h.symm
    next h => rfl

namespace Gpu

variable (g : Gpu)

/-- Those of some samples that are about the GPU. -/
def samplesIn (samples : List Sample) : List Sample := samples.filter (ofSample · = g)

/-- The bytes of a GPU, in unbounded arithmetic: each of its samples counts in whole ones. -/
def bytes (memory : List Sample) : Int := ((g.samplesIn memory).map (·.value.toInt64.toInt)).sum

/-- The load of a GPU: its samples, added up from left to right. -/
def load (utilization : List Sample) : Float :=
  (g.samplesIn utilization).foldl (fun sum s => sum + s.value) 0

/-- The GPU of a snapshot. -/
def ofSnapshot (r : Snapshot) : Gpu := ⟨r.gpuIndex, r.gpuUuid⟩

variable {g}

theorem samplesIn_concat :
    g.samplesIn (samples ++ [s]) = g.samplesIn samples ++ if ofSample s = g then [s] else [] := by
  rw [samplesIn, List.filter_append, List.filter_singleton, samplesIn]
  by_cases h : ofSample s = g
  · simp [h]
  · simp [h]

theorem samplesIn_concat_self :
    (ofSample s).samplesIn (samples ++ [s]) = (ofSample s).samplesIn samples ++ [s] := by
  rw [samplesIn_concat, if_pos rfl]

theorem samplesIn_concat_of_ne (h : ofSample s ≠ g) :
    g.samplesIn (samples ++ [s]) = g.samplesIn samples := by
  rw [samplesIn_concat, if_neg h, List.append_nil]

theorem bytes_concat_self :
    (ofSample s).bytes (memory ++ [s]) = (ofSample s).bytes memory + s.value.toInt64.toInt := by
  rw [bytes, samplesIn_concat_self, List.map_append, List.sum_append, List.map_singleton,
    List.sum_singleton, bytes]

theorem bytes_concat_of_ne (h : ofSample s ≠ g) : g.bytes (memory ++ [s]) = g.bytes memory := by
  rw [bytes, samplesIn_concat_of_ne h, bytes]

theorem load_concat_self :
    (ofSample s).load (utilization ++ [s]) = (ofSample s).load utilization + s.value := by
  rw [load, samplesIn_concat_self, List.foldl_append, load]
  rfl

theorem load_concat_of_ne (h : ofSample s ≠ g) :
    g.load (utilization ++ [s]) = g.load utilization := by
  rw [load, samplesIn_concat_of_ne h, load]

/-- The bytes of a GPU do not depend on the order of its samples. -/
theorem bytes_perm (h : memory'.Perm memory) : g.bytes memory' = g.bytes memory :=
  ((h.filter _).map _).sum_eq

end Gpu

/-! ## Sums that fit -/

/-- The bytes of each GPU fit a signed word, after every sample. -/
def InRange (memory : List Sample) : Prop :=
  ∀ front, front <+: memory → ∀ g : Gpu, Checked.FitsI64 (g.bytes front)

theorem inRange_nil : InRange [] := by
  intro front hfront g
  rw [List.prefix_nil.1 hfront]
  exact Checked.fitsI64_toInt 0

theorem inRange_concat : InRange (memory ++ [s]) ↔
    InRange memory ∧ Checked.FitsI64 ((Gpu.ofSample s).bytes (memory ++ [s])) := by
  constructor
  · intro h
    exact ⟨fun front hfront => h front (hfront.trans (List.prefix_append ..)),
      h _ (List.prefix_refl _) _⟩
  · rintro ⟨h, hlast⟩ front hfront g
    obtain rfl | hfront := List.prefix_concat_iff.1 hfront
    · by_cases hg : Gpu.ofSample s = g
      · exact hg ▸ hlast
      · rw [Gpu.bytes_concat_of_ne hg]
        exact h _ (List.prefix_refl _) g
    · exact h front hfront g

/-- Nothing is added up if no GPU has two samples. -/
theorem inRange_of_nodup (h : (memory.map Gpu.ofSample).Nodup) : InRange memory := by
  induction memory using List.reverseRecOn with
  | nil => exact inRange_nil
  | append_singleton front s ih =>
    rw [List.map_append, List.nodup_append] at h
    obtain ⟨hfront, -, hdisjoint⟩ := h
    refine inRange_concat.2 ⟨ih hfront, ?_⟩
    have hnone : (Gpu.ofSample s).samplesIn front = [] := by
      refine List.filter_eq_nil_iff.2 fun x hx heq => ?_
      have hsame : Gpu.ofSample x = Gpu.ofSample s := of_decide_eq_true heq
      exact hdisjoint _ (List.mem_map_of_mem hx) _ (List.mem_singleton_self _) hsame
    rw [Gpu.bytes_concat_self, Gpu.bytes, hnone]
    simpa using Checked.fitsI64_toInt s.value.toInt64

/-! ## What the samples make of each GPU -/

namespace Origin

variable {o : Origin}

theorem keyOf_inj : o.keyOf g = o.keyOf g' ↔ g = g' := by
  obtain ⟨index, uuid⟩ := g
  obtain ⟨index', uuid'⟩ := g'
  rw [keyOf, keyOf, Usage.gpuKey_inj_of_pod, Gpu.mk.injEq]

/-- The snapshot that a first sample begins, with the figures it has got. -/
def row (o : Origin) (first : Sample) (bytes : Int) (load : Float) : Snapshot :=
  { o.begin first with memoryBytes := .ofInt bytes, utilization := load }

/-- The snapshot of a GPU, if it has any samples. -/
def rowOf (o : Origin) (memory utilization : List Sample) (g : Gpu) : Option Snapshot :=
  (g.samplesIn (memory ++ utilization)).head?.map fun first =>
    o.row first (g.bytes memory) (g.load utilization)

theorem rowOf_eq_some_iff {r : Snapshot} : o.rowOf memory utilization g = some r ↔
    ∃ first, (g.samplesIn (memory ++ utilization)).head? = some first ∧
      o.row first (g.bytes memory) (g.load utilization) = r := Option.map_eq_some_iff

section Concat
variable (hall : memory' ++ utilization' = memory ++ utilization ++ [s])
include hall

theorem rowOf_concat_self : o.rowOf memory' utilization' (Gpu.ofSample s) =
    some (o.row (((Gpu.ofSample s).samplesIn (memory ++ utilization)).head?.getD s)
      ((Gpu.ofSample s).bytes memory') ((Gpu.ofSample s).load utilization')) := by
  rw [rowOf, hall, Gpu.samplesIn_concat_self, List.head?_append]
  cases ((Gpu.ofSample s).samplesIn (memory ++ utilization)).head? with
  | none => rfl
  | some first => rfl

theorem rowOf_concat_of_ne (hg : Gpu.ofSample s ≠ g)
    (hsums : g.bytes memory' = g.bytes memory ∧ g.load utilization' = g.load utilization) :
    o.rowOf memory' utilization' g = o.rowOf memory utilization g := by
  rw [rowOf, hall, Gpu.samplesIn_concat_of_ne hg, hsums.1, hsums.2, rowOf]

end Concat

end Origin

variable {o : Origin} {found : Snapshots} {rows rows' : List Snapshot}

/-- The snapshots that some samples have come to. -/
structure Merged (o : Origin) (memory utilization : List Sample) (found : Snapshots) : Prop where
  sorted : found.Sorted
  mem_iff : ∀ key r, (key, r) ∈ found.entries ↔
    ∃ g, o.keyOf g = key ∧ o.rowOf memory utilization g = some r

namespace Merged

theorem empty : Merged o [] [] .empty where
  sorted := Index.sorted_empty
  mem_iff key r := by
    constructor
    · exact fun h => absurd h List.not_mem_nil
    · rintro ⟨g, -, h⟩
      cases h

variable (h : Merged o memory utilization found)
include h

theorem get?_keyOf (g : Gpu) : found.get? (o.keyOf g) = o.rowOf memory utilization g := by
  refine Option.ext fun r => ?_
  rw [h.sorted.get?_eq_some_iff, h.mem_iff]
  constructor
  · rintro ⟨g', hkey, hr⟩
    rwa [Origin.keyOf_inj.1 hkey] at hr
  · exact fun hr => ⟨g, rfl, hr⟩

/-- What the snapshot of the GPU of a sample is before the sample is added to it. -/
theorem current (s : Sample) : (found.get? (o.keyOf (Gpu.ofSample s))).getD (o.begin s) =
    o.row (((Gpu.ofSample s).samplesIn (memory ++ utilization)).head?.getD s)
      ((Gpu.ofSample s).bytes memory) ((Gpu.ofSample s).load utilization) := by
  rw [h.get?_keyOf, Origin.rowOf]
  cases hfirst : ((Gpu.ofSample s).samplesIn (memory ++ utilization)).head? with
  | some first => rfl
  | none =>
    have hnil := List.head?_eq_none_iff.1 hfirst
    rw [Gpu.samplesIn, List.filter_append, List.append_eq_nil_iff] at hnil
    rw [Gpu.bytes, Gpu.load, Gpu.samplesIn, Gpu.samplesIn, hnil.1, hnil.2]
    rfl

/-- One more sample changes the snapshot of its GPU and no other. -/
theorem add (hall : memory' ++ utilization' = memory ++ utilization ++ [s])
    (hothers : ∀ g, Gpu.ofSample s ≠ g →
      g.bytes memory' = g.bytes memory ∧ g.load utilization' = g.load utilization) :
    Merged o memory' utilization' (found.set (o.keyOf (Gpu.ofSample s))
      (o.row (((Gpu.ofSample s).samplesIn (memory ++ utilization)).head?.getD s)
        ((Gpu.ofSample s).bytes memory') ((Gpu.ofSample s).load utilization'))) where
  sorted := h.sorted.set
  mem_iff key r := by
    have hself := Origin.rowOf_concat_self (o := o) hall
    have hsame := fun g hg => Origin.rowOf_concat_of_ne (o := o) hall hg (hothers g hg)
    rw [h.sorted.mem_set, h.mem_iff]
    constructor
    · rintro (heq | ⟨⟨g, hkey, hr⟩, hne⟩)
      · cases heq
        exact ⟨_, rfl, hself⟩
      · subst hkey
        have hg : Gpu.ofSample s ≠ g := fun heq => hne (congrArg o.keyOf heq.symm)
        exact ⟨g, rfl, (hsame g hg).trans hr⟩
    · rintro ⟨g, rfl, hr⟩
      by_cases hg : Gpu.ofSample s = g
      · subst hg
        rw [hself] at hr
        exact .inl (congrArg _ (Option.some.inj hr).symm)
      · rw [hsame g hg] at hr
        exact .inr ⟨⟨g, rfl, hr⟩, fun hkey => hg (Origin.keyOf_inj.1 hkey).symm⟩

theorem add_utilization (s : Sample) : ∃ found', addSample o .utilization found s = .ok found' ∧
    Merged o memory (utilization ++ [s]) found' := by
  refine ⟨_, ?_, h.add (List.append_assoc ..).symm fun g hg => ⟨rfl, Gpu.load_concat_of_ne hg⟩⟩
  rw [addSample_eq, h.current, Gpu.load_concat_self]
  rfl

end Merged

/-- A sample of the memory is added exactly if the sum fits. -/
theorem Merged.add_memory (h : Merged o memory [] found)
    (hbytes : Checked.FitsI64 ((Gpu.ofSample s).bytes memory)) :
    if Checked.FitsI64 ((Gpu.ofSample s).bytes (memory ++ [s])) then
      ∃ found', addSample o .memory found s = .ok found' ∧ Merged o (memory ++ [s]) [] found'
    else addSample o .memory found s = .error (.overflow .add) := by
  have hadd : addSample o .memory found s =
      (Checked.fitI64 .add ((Gpu.ofSample s).bytes (memory ++ [s]))).map fun bytes =>
        found.set (o.keyOf (Gpu.ofSample s))
          { o.row (((Gpu.ofSample s).samplesIn (memory ++ [])).head?.getD s) 0
            ((Gpu.ofSample s).load []) with memoryBytes := bytes } := by
    rw [addSample_eq, h.current, addValue, Checked.addI64, Gpu.bytes_concat_self]
    change (Except.bind (Checked.fitI64 .add ((Int64.ofInt _).toInt + _)) _).map _ = _
    rw [Checked.toInt_ofInt_of_fits hbytes]
    cases Checked.fitI64 .add ((Gpu.ofSample s).bytes memory + s.value.toInt64.toInt) with
    | error f => rfl
    | ok bytes => rfl
  rw [hadd]
  split
  next hfits =>
    rw [Checked.fitI64_of_fits hfits]
    refine ⟨_, rfl, h.add (by simp) fun g hg => ⟨Gpu.bytes_concat_of_ne hg, rfl⟩⟩
  next hfits =>
    rw [Checked.fitI64_of_not_fits hfits]
    rfl

/-- The samples of the memory are added up exactly if all sums fit. -/
theorem foldlM_memory (o : Origin) (memory : List Sample) :
    (InRange memory ∧ ∃ found, memory.foldlM (addSample o .memory) .empty = .ok found ∧
      Merged o memory [] found) ∨
    (¬InRange memory ∧ memory.foldlM (addSample o .memory) .empty = .error (.overflow .add)) := by
  induction memory using List.reverseRecOn with
  | nil => exact .inl ⟨inRange_nil, _, rfl, .empty⟩
  | append_singleton front s ih =>
    rw [List.foldlM_append, inRange_concat]
    obtain ⟨hfront, found, hfold, hmerged⟩ | ⟨hfront, hfold⟩ := ih
    · have hlast := hmerged.add_memory (s := s) (hfront front (List.prefix_refl _) _)
      rw [hfold]
      split at hlast
      next hfits =>
        obtain ⟨found', hadd, hmerged'⟩ := hlast
        refine .inl ⟨⟨hfront, hfits⟩, found', ?_, hmerged'⟩
        change (addSample o .memory found s >>= pure) = _
        rw [hadd]
        rfl
      next hfits =>
        refine .inr ⟨fun h => hfits h.2, ?_⟩
        change (addSample o .memory found s >>= pure) = _
        rw [hlast]
        rfl
    · refine .inr ⟨fun h => hfront h.1, ?_⟩
      rw [hfold]
      rfl

/-- The samples of the utilization are added up in any case. -/
theorem foldlM_utilization (h : Merged o memory [] found) (utilization : List Sample) :
    ∃ found', utilization.foldlM (addSample o .utilization) found = .ok found' ∧
      Merged o memory utilization found' := by
  induction utilization using List.reverseRecOn with
  | nil => exact ⟨found, rfl, h⟩
  | append_singleton front s ih =>
    obtain ⟨found', hfold, hmerged⟩ := ih
    obtain ⟨found'', hadd, hmerged'⟩ := hmerged.add_utilization s
    refine ⟨found'', ?_, hmerged'⟩
    rw [List.foldlM_append, hfold]
    change (addSample o .utilization found' s >>= pure) = _
    rw [hadd]
    rfl

/-! ## The snapshots of a pod -/

/-- One snapshot for each GPU that some samples are about, in the order of the keys, with the sums
of its samples. -/
structure PerGpu (job : JobId) (pod : Pod) (time : Instant) (memory utilization : List Sample)
    (rows : List Snapshot) : Prop where
  ordered : rows.Pairwise fun r r' => r.gpuKey < r'.gpuKey
  nodup : (rows.map Gpu.ofSnapshot).Nodup
  mem_iff : ∀ g, g ∈ rows.map Gpu.ofSnapshot ↔ ∃ s ∈ memory ++ utilization, Gpu.ofSample s = g
  bytes : ∀ r ∈ rows, r.memoryBytes.toInt = (Gpu.ofSnapshot r).bytes memory
  load : ∀ r ∈ rows, r.utilization = (Gpu.ofSnapshot r).load utilization
  /-- The first sample of a GPU names its node, or the pod does. -/
  node : ∀ r ∈ rows, ∃ first,
    ((Gpu.ofSnapshot r).samplesIn (memory ++ utilization)).head? = some first ∧
      r.node = if first.text "node" = "" then pod.nodeName else first.text "node"
  marks : ∀ r ∈ rows, r.id = 0 ∧ r.jobId = job ∧ r.timestamp = time ∧ r.podName = pod.name ∧
    r.podNamespace = pod.namespaceName ∧ r.physicalIndex = r.gpuIndex ∧
    r.units.toNat = pod.gpuRequest.toNat * Mps.unitsPerGpu.toNat

theorem Origin.gpu_of_rowOf {r : Snapshot} (h : o.rowOf memory utilization g = some r) :
    Gpu.ofSnapshot r = g := by
  obtain ⟨first, hfirst, rfl⟩ := Origin.rowOf_eq_some_iff.1 h
  exact of_decide_eq_true (List.mem_filter.1 (List.mem_of_mem_head? hfirst)).2

namespace Merged

variable (h : Merged o memory utilization found)
include h

theorem mem_values {r : Snapshot} :
    r ∈ found.values ↔ o.rowOf memory utilization (Gpu.ofSnapshot r) = some r := by
  rw [Index.values, List.mem_map]
  constructor
  · rintro ⟨⟨key, r⟩, he, rfl⟩
    obtain ⟨g, -, hr⟩ := (h.mem_iff key r).1 he
    rwa [Origin.gpu_of_rowOf hr]
  · exact fun hr => ⟨(o.keyOf (Gpu.ofSnapshot r), r), (h.mem_iff _ _).2 ⟨_, rfl, hr⟩, rfl⟩

theorem exists_row {r : Snapshot} (hr : r ∈ found.values) : ∃ first,
    ((Gpu.ofSnapshot r).samplesIn (memory ++ utilization)).head? = some first ∧
      o.row first ((Gpu.ofSnapshot r).bytes memory) ((Gpu.ofSnapshot r).load utilization) = r :=
  Origin.rowOf_eq_some_iff.1 (h.mem_values.1 hr)

theorem key_eq {e : String × Snapshot} (he : e ∈ found.entries) :
    e.1 = o.keyOf (Gpu.ofSnapshot e.2) ∧ e.2.gpuKey = e.1 := by
  obtain ⟨g, hkey, hr⟩ := (h.mem_iff e.1 e.2).1 he
  have hgpu := Origin.gpu_of_rowOf hr
  obtain ⟨first, -, hrow⟩ := Origin.rowOf_eq_some_iff.1 hr
  refine ⟨?_, ?_⟩
  · rw [hgpu, hkey]
  · rw [← hkey, ← hgpu, ← hrow]
    rfl

theorem perGpu (hrange : InRange memory)
    (hunits : o.units.toNat = o.pod.gpuRequest.toNat * Mps.unitsPerGpu.toNat) :
    PerGpu o.job o.pod o.time memory utilization found.values where
  ordered := by
    refine List.pairwise_map.2 (h.sorted.imp_of_mem fun {e f} he hf hlt => ?_)
    rw [(h.key_eq he).2, (h.key_eq hf).2]
    exact hlt
  nodup := by
    rw [Index.values, List.map_map]
    refine List.pairwise_map.2 (h.sorted.imp_of_mem fun {e f} he hf hlt heq => ?_)
    have hkeys : e.1 = f.1 := by
      rw [(h.key_eq he).1, (h.key_eq hf).1]
      exact congrArg o.keyOf heq
    rw [hkeys] at hlt
    exact lt_irrefl _ hlt
  mem_iff g := by
    rw [List.mem_map]
    constructor
    · rintro ⟨r, hr, rfl⟩
      obtain ⟨first, hfirst, -⟩ := h.exists_row hr
      obtain ⟨hmem, hgpu⟩ := List.mem_filter.1 (List.mem_of_mem_head? hfirst)
      exact ⟨first, hmem, of_decide_eq_true hgpu⟩
    · rintro ⟨s, hs, rfl⟩
      have hne : (Gpu.ofSample s).samplesIn (memory ++ utilization) ≠ [] :=
        List.ne_nil_of_mem (List.mem_filter.2 ⟨hs, decide_eq_true rfl⟩)
      have hrow := (Origin.rowOf_eq_some_iff (o := o)).2 ⟨_, List.head?_eq_some_head hne, rfl⟩
      have hgpu := Origin.gpu_of_rowOf hrow
      exact ⟨_, h.mem_values.2 (by rwa [hgpu]), hgpu⟩
  bytes r hr := by
    obtain ⟨first, -, hrow⟩ := h.exists_row hr
    have hbytes := congrArg Snapshot.memoryBytes hrow
    rw [← hbytes]
    exact Checked.toInt_ofInt_of_fits (hrange memory (List.prefix_refl _) _)
  load r hr := by
    obtain ⟨first, -, hrow⟩ := h.exists_row hr
    exact (congrArg Snapshot.utilization hrow).symm
  node r hr := by
    obtain ⟨first, hfirst, hrow⟩ := h.exists_row hr
    refine ⟨first, hfirst, ?_⟩
    rw [← hrow]
    change (first.label? "node").getD o.pod.nodeName = _
    rw [Sample.label?_eq]
    split
    · rfl
    · rfl
  marks r hr := by
    obtain ⟨first, -, hrow⟩ := h.exists_row hr
    rw [← hrow]
    exact ⟨rfl, rfl, rfl, rfl, rfl, rfl, hunits⟩

end Merged

variable {job : JobId} {pod : Pod} {time : Instant}

/-- The samples of a pod are merged, or a sum does not fit. -/
theorem merge_cases (job : JobId) (pod : Pod) (time : Instant) (memory utilization : List Sample) :
    (pod.gpuRequest.toNat * Mps.unitsPerGpu.toNat < UInt32.size ∧ InRange memory ∧
      ∃ rows, merge job pod time memory utilization = .ok rows ∧
        PerGpu job pod time memory utilization rows) ∨
    (¬(pod.gpuRequest.toNat * Mps.unitsPerGpu.toNat < UInt32.size ∧ InRange memory) ∧
      ∃ op, merge job pod time memory utilization = .error (.overflow op)) := by
  unfold merge Mps.ofGpus
  by_cases hunits : pod.gpuRequest.toNat * Mps.unitsPerGpu.toNat < UInt32.size
  · have hmul : Checked.mul32 pod.gpuRequest Mps.unitsPerGpu =
        .ok (pod.gpuRequest * Mps.unitsPerGpu) := if_pos hunits
    rw [hmul]
    have hvalue := Checked.mul32_eq_ok_iff.1 hmul
    let o : Origin := ⟨job, pod, time, pod.gpuRequest * Mps.unitsPerGpu⟩
    obtain ⟨hrange, found, hmemory, hmerged⟩ | ⟨hrange, hmemory⟩ := foldlM_memory o memory
    · obtain ⟨found', hutilization, hmerged'⟩ := foldlM_utilization hmerged utilization
      refine .inl ⟨hunits, hrange, found'.values, ?_, hmerged'.perGpu hrange hvalue⟩
      change (memory.foldlM (addSample o .memory) .empty >>= fun found =>
        utilization.foldlM (addSample o .utilization) found >>= fun found => .ok found.values) = _
      rw [hmemory]
      change (utilization.foldlM (addSample o .utilization) found >>= _) = _
      rw [hutilization]
      rfl
    · refine .inr ⟨fun h => hrange h.2, .add, ?_⟩
      change (memory.foldlM (addSample o .memory) .empty >>= _) = _
      rw [hmemory]
      rfl
  · have hmul : Checked.mul32 pod.gpuRequest Mps.unitsPerGpu = .error (.overflow .multiply) :=
      if_neg hunits
    rw [hmul]
    exact .inr ⟨fun h => hunits h.1, .multiply, rfl⟩

/-- The samples of a pod can be merged exactly if its units and all sums of bytes fit. -/
theorem merge_ok_iff : (∃ rows, merge job pod time memory utilization = .ok rows) ↔
    pod.gpuRequest.toNat * Mps.unitsPerGpu.toNat < UInt32.size ∧ InRange memory := by
  obtain ⟨hunits, hrange, rows, hrows, -⟩ | ⟨hfits, op, herror⟩ :=
    merge_cases job pod time memory utilization
  · exact iff_of_true ⟨rows, hrows⟩ ⟨hunits, hrange⟩
  · refine iff_of_false ?_ hfits
    rintro ⟨rows, hrows⟩
    rw [herror] at hrows
    cases hrows

theorem merge_perGpu (job : JobId) (time : Instant) (utilization : List Sample)
    (hunits : pod.gpuRequest.toNat * Mps.unitsPerGpu.toNat < UInt32.size)
    (hrange : InRange memory) : ∃ rows, merge job pod time memory utilization = .ok rows ∧
      PerGpu job pod time memory utilization rows := by
  obtain ⟨-, -, hrows⟩ | ⟨hfits, -⟩ := merge_cases job pod time memory utilization
  · exact hrows
  · exact absurd ⟨hunits, hrange⟩ hfits

namespace PerGpu

variable {time' : Instant}

theorem gpus_ordered (h : PerGpu job pod time memory utilization rows) :
    (rows.map Gpu.ofSnapshot).Pairwise fun g g' =>
      Usage.gpuKey pod.namespaceName pod.name g.index g.uuid <
        Usage.gpuKey pod.namespaceName pod.name g'.index g'.uuid := by
  refine List.pairwise_map.2 (h.ordered.imp_of_mem fun {r r'} hr hr' hlt => ?_)
  obtain ⟨-, -, -, hname, hnamespace, -⟩ := h.marks r hr
  obtain ⟨-, -, -, hname', hnamespace', -⟩ := h.marks r' hr'
  rw [Snapshot.gpuKey, Snapshot.gpuKey, hname, hname', hnamespace, hnamespace'] at hlt
  exact hlt

theorem figures (h : PerGpu job pod time memory utilization rows) :
    rows.map (fun r => (Gpu.ofSnapshot r, r.memoryBytes)) =
      (rows.map Gpu.ofSnapshot).map fun g => (g, Int64.ofInt (g.bytes memory)) := by
  rw [List.map_map]
  refine List.map_congr_left fun r hr => ?_
  change _ = (Gpu.ofSnapshot r, Int64.ofInt ((Gpu.ofSnapshot r).bytes memory))
  rw [← h.bytes r hr, Int64.ofInt_toInt]

/-- The bytes of the GPUs are the same for the samples of the memory in another order. -/
theorem bytes_eq (h : PerGpu job pod time memory utilization rows)
    (h' : PerGpu job pod time' memory' utilization rows') (hperm : memory'.Perm memory) :
    rows'.map (fun r => (Gpu.ofSnapshot r, r.memoryBytes)) =
      rows.map (fun r => (Gpu.ofSnapshot r, r.memoryBytes)) := by
  have hmem : ∀ g, g ∈ rows'.map Gpu.ofSnapshot ↔ g ∈ rows.map Gpu.ofSnapshot := by
    intro g
    rw [h'.mem_iff, h.mem_iff]
    simp only [List.mem_append, hperm.mem_iff]
  have hgpus : rows'.map Gpu.ofSnapshot = rows.map Gpu.ofSnapshot :=
    ((List.perm_ext_iff_of_nodup h'.nodup h.nodup).2 hmem).eq_of_pairwise
      (fun g g' _ _ hlt hgt => absurd hlt (lt_asymm hgt)) h'.gpus_ordered h.gpus_ordered
  rw [h.figures, h'.figures, hgpus]
  simp only [Gpu.bytes_perm hperm]

end PerGpu

/-! ## Sampling a pod -/

/-- The samples that a reply brings; a failure brings none. -/
def received (reply : Except Error (List Sample)) : List Sample := reply.toOption.getD []

/-- A call goes through. It is answered, or it fails, but not because it was called off. -/
structure Replies {α : Type} (t : Telemetry σ) (x : Action σ α) (s : σ) (reply : Except Error α)
    (s' : σ) : Prop where
  goes : ∃ s₁, t.calledOff s = .ok false s₁ ∧ x s₁ = Action.ofExcept reply s'
  kept : ∀ detail, reply ≠ .error (.cancelled detail)

theorem Replies.ask {α : Type} {t : Telemetry σ} {x : Action σ α} {s s' : σ}
    {reply : Except Error α} (h : t.Replies x s reply s') : t.ask x s = .ok reply.toOption s' := by
  obtain ⟨s₁, hoff, hrun⟩ := h.goes
  exact ask_of_call ((Action.bind_of_ok hoff).trans hrun) h.kept

/-- A pod that has not ended is sampled GPU by GPU, as long as one of its two queries is answered
and no sum overflows. Each GPU that a sample names gets one snapshot, in the order of the keys, with
the bytes and the load of its own samples. The keys tell the GPUs of the pod apart, and its bytes do
not depend on the order in which the backend lists them. -/
theorem samplePod_per_gpu (t : Telemetry σ) (backend : Metrics.Backend σ) (job : JobId) (pod : Pod)
    (memory utilization : Except Error (List Sample)) {time : Instant} {s s₁ s₂ s₃ : σ}
    (hlive : pod.phase.isTerminal = false) (hclock : t.clock s = .ok time s₁)
    (hmemory : t.Replies (backend
      (Metrics.podQuery t.names.memoryMetric pod.namespaceName pod.name) time) s₁ memory s₂)
    (hutilization : t.Replies (backend
      (Metrics.podQuery t.names.utilizationMetric pod.namespaceName pod.name) time)
      s₂ utilization s₃)
    (hanswer : memory.toOption ≠ none ∨ utilization.toOption ≠ none)
    (hunits : pod.gpuRequest.toNat * Mps.unitsPerGpu.toNat < UInt32.size)
    (hrange : InRange (received memory)) :
    ∃ rows, t.samplePod backend job pod s = .ok rows s₃ ∧
      PerGpu job pod time (received memory) (received utilization) rows ∧
      (∀ memory', memory'.Perm (received memory) → InRange memory' → ∃ rows',
        merge job pod time memory' (received utilization) = .ok rows' ∧
        rows'.map (fun r => (Gpu.ofSnapshot r, r.memoryBytes)) =
          rows.map (fun r => (Gpu.ofSnapshot r, r.memoryBytes))) ∧
      (∀ x : Sample, Gpu.ofSample x =
        ⟨(Decimal.parseI32 (x.text "gpu_index")).getD (-1), x.text "gpu_uuid"⟩) ∧
      ∀ g g' : Gpu, Usage.gpuKey pod.namespaceName pod.name g.index g.uuid =
        Usage.gpuKey pod.namespaceName pod.name g'.index g'.uuid ↔ g = g' := by
  obtain ⟨rows, hrows, hgpus⟩ := merge_perGpu job time (received utilization) hunits hrange
  refine ⟨rows, ?_, hgpus, fun memory' hperm hrange' => ?_, Gpu.ofSample_eq, fun g g' => ?_⟩
  · have hneither : ¬(memory.toOption.isNone && utilization.toOption.isNone) = true := by
      rw [Bool.and_eq_true, Option.isNone_iff_eq_none, Option.isNone_iff_eq_none]
      exact not_and_or.2 hanswer
    unfold samplePod
    rw [hlive, if_neg Bool.false_ne_true]
    refine (Action.bind_of_ok hclock).trans ?_
    refine (Action.bind_of_ok hmemory.ask).trans ?_
    refine (Action.bind_of_ok hutilization.ask).trans ?_
    rw [if_neg hneither]
    have hmerge : merge job pod time (memory.toOption.getD []) (utilization.toOption.getD []) =
        .ok rows := hrows
    rw [hmerge]
    rfl
  · obtain ⟨rows', hrows', hgpus'⟩ := merge_perGpu job time (received utilization) hunits hrange'
    exact ⟨rows', hrows', hgpus.bytes_eq hgpus' hperm⟩
  · exact Origin.keyOf_inj (o := ⟨job, pod, time, 0⟩)

/-- A sample of a GPU that is named. -/
def namedSample (index uuid : String) : Sample :=
  { labels := .ofList [("gpu_index", index), ("gpu_uuid", uuid)] }

/-- Two GPUs are listed by their memory. -/
def listedMemory : List Sample := [namedSample "1" "b", namedSample "0" "a"]

/-- One of them is listed by its load, twice, and another one without labels. -/
def listedLoad : List Sample := [namedSample "1" "b", {}, namedSample "1" "b"]

def threeGpus : Surroundings where
  pods _ _ := .ok []
  samples query :=
    if query = Metrics.podQuery ({} : Names).memoryMetric "shared" "pod" then .ok listedMemory
    else .ok listedLoad
  calledOff _ := false

theorem samplePod_per_gpu_unnamed : ∃ rows s', (threeGpus.telemetry {} ⟨0, 0⟩).samplePod
    (fun query _ => Scene.reply (threeGpus.samples query)) leftJob.id sharedPod {} = .ok rows s' ∧
    (rows.map Gpu.ofSnapshot).Perm [⟨-1, ""⟩, ⟨0, "a"⟩, ⟨1, "b"⟩] := by
  have hrange : InRange listedMemory := inRange_of_nodup (by decide)
  let t := threeGpus.telemetry {} ⟨0, 0⟩
  have hmemory : t.Replies (Scene.reply (threeGpus.samples
      (Metrics.podQuery t.names.memoryMetric "shared" "pod"))) {} (.ok listedMemory)
      { calls := 1 } := ⟨⟨_, rfl, rfl⟩, nofun⟩
  have hload : t.Replies (Scene.reply (threeGpus.samples
      (Metrics.podQuery t.names.utilizationMetric "shared" "pod"))) { calls := 1 } (.ok listedLoad)
      { calls := 2 } := ⟨⟨_, rfl, rfl⟩, nofun⟩
  obtain ⟨rows, hrun, hgpus, -⟩ := samplePod_per_gpu t
    (fun query _ => Scene.reply (threeGpus.samples query)) leftJob.id sharedPod (.ok listedMemory)
    (.ok listedLoad) rfl rfl hmemory hload (.inl nofun) (by decide) hrange
  have hlisted : (received (.ok listedMemory) ++ received (.ok listedLoad)).map Gpu.ofSample =
      [⟨1, "b"⟩, ⟨0, "a"⟩, ⟨1, "b"⟩, ⟨-1, ""⟩, ⟨1, "b"⟩] := rfl
  refine ⟨rows, _, hrun, (List.perm_ext_iff_of_nodup hgpus.nodup (by decide)).2 fun g => ?_⟩
  rw [hgpus.mem_iff, ← List.mem_map, hlisted]
  simp only [List.mem_cons, List.not_mem_nil, or_false]
  tauto

end Telemetry

end GpuCluster
