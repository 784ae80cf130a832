import GpuCluster.Proofs.Job.Archive
import GpuCluster.Proofs.Telemetry.Collection

/-!
# Cycles are exact, and pods do not disturb each other

* `Region` : some jobs and pods; `Region.others` : the snapshots of all others, without their
  numbers and times;
* `Surroundings.AgreeBut` : surroundings that differ in a region only;
* `collection_exact` : a cycle stores the snapshots of the pods that are sampled, all or none, and
  the answers about some jobs and pods do not reach the snapshots of others.
-/

namespace GpuCluster

namespace Usage

/-- A snapshot without its number and its time. -/
def Snapshot.forget (x : Snapshot) : Snapshot := { x with id := 0, timestamp := ⟨0, 0⟩ }

theorem Tables.map_forget_numbered (last : Nat) (batch : List Snapshot) :
    (Tables.numbered last batch).map Snapshot.forget = batch.map Snapshot.forget := by
  induction batch generalizing last with
  | nil => rfl
  | cons x rest ih => exact congrArg (_ :: ·) (ih (last + 1))

end Usage

namespace Telemetry

open Usage (Snapshot)

variable {σ : Type}

/-! ## Jobs and pods that others do not see -/

/-- Some jobs, and some pods by namespace and name. -/
structure Region where
  job : JobId → Bool
  pod : String → String → Bool

namespace Region

variable (region : Region)

/-- The visit is to another job and another pod. -/
def spares (v : JobId × Pod) : Bool := !region.job v.1 && !region.pod v.2.namespaceName v.2.name

/-- The snapshot is of another job and another pod. -/
def leaves (x : Snapshot) : Bool := !region.job x.jobId && !region.pod x.podNamespace x.podName

/-- The snapshots of other jobs and pods, without numbers and times. -/
def others (rows : List Snapshot) : List Snapshot := (rows.filter region.leaves).map Snapshot.forget

theorem others_numbered (last : Nat) (batch : List Snapshot) :
    region.others (Usage.Tables.numbered last batch) = region.others batch := by
  have hothers (rows : List Snapshot) :
      region.others rows = (rows.map Snapshot.forget).filter region.leaves := by
    rw [List.filter_map]
    rfl
  rw [hothers, hothers, Usage.Tables.map_forget_numbered]

end Region

namespace Surroundings

variable {e e' : Surroundings} {names : Names} {region : Region} {vs : List (JobId × Pod)}
  {batch batch' : List Snapshot} {jobs : List Job} {shown shown' : Instant → Prop}

/-- The surroundings differ in what they answer about a region only, as far as these jobs go. -/
structure AgreeBut (e e' : Surroundings) (names : Names) (jobs : List Job) (region : Region) :
    Prop where
  listing : ∀ j ∈ jobs, region.job j.id = false → e'.listing names j = e.listing names j
  metric : ∀ name pod, region.pod pod.namespaceName pod.name = false →
    e'.metric name pod = e.metric name pod

theorem filter_podVisits (h : e.AgreeBut e' names jobs region) (job : JobId) (pods : List Pod) :
    (e'.podVisits names job pods).filter region.spares =
      (e.podVisits names job pods).filter region.spares := by
  rw [podVisits, podVisits, List.filter_map, List.filter_map, List.filter_filter,
    List.filter_filter]
  refine congrArg _ (List.filter_congr fun pod _ => ?_)
  cases hpod : region.pod pod.namespaceName pod.name with
  | true => simp [Region.spares, hpod]
  | false =>
    rw [isSampled, isSampled, h.metric _ pod hpod, h.metric _ pod hpod]

theorem filter_visits (h : e.AgreeBut e' names jobs region) :
    (e'.visits names jobs).filter region.spares = (e.visits names jobs).filter region.spares := by
  rw [visits, visits, List.filter_flatMap, List.filter_flatMap]
  refine List.flatMap_congr fun j hj => ?_
  cases hjob : region.job j.id with
  | true =>
    have hnone (e : Surroundings) (pods : List Pod) :
        (e.podVisits names j.id pods).filter region.spares = [] := by
      simp [podVisits, List.filter_map, Region.spares, hjob]
    rw [hnone, hnone]
  | false => rw [h.listing j (List.mem_of_mem_filter hj) hjob, filter_podVisits h]

/-- The snapshots that are left are those of the pods that are spared. -/
theorem Batch.filter (h : e.Batch names shown vs batch) :
    e.Batch names shown (vs.filter region.spares) (batch.filter region.leaves) := by
  obtain ⟨found, hfound, rfl⟩ := h
  induction hfound with
  | nil => exact batch_nil
  | @cons v rows vs found hrows _ ih =>
    obtain ⟨time, htime, hrows⟩ := hrows
    have hleaves : ∀ x ∈ rows, region.leaves x = region.spares v := by
      intro x hx
      obtain ⟨hjob, -, hname, hnamespace⟩ := merge_marks hrows hx
      rw [Region.leaves, Region.spares, hjob, hname, hnamespace]
    rw [List.flatten_cons, List.filter_append, List.filter_cons]
    cases hv : region.spares v with
    | true =>
      rw [hv] at hleaves
      rw [List.filter_eq_self.2 hleaves, if_pos rfl]
      exact (batch_singleton htime hrows).append ih
    | false =>
      rw [hv] at hleaves
      have hnone : rows.filter region.leaves = [] :=
        List.filter_eq_nil_iff.2 fun x hx => Bool.eq_false_iff.1 (hleaves x hx)
      rw [hnone, if_neg Bool.false_ne_true]
      exact ih

/-- Pods with one snapshot each have as many as there are pods. -/
theorem Batch.length_eq (h : e.Batch names shown vs batch)
    (hone : ∀ v ∈ vs, ∀ time, ∃ x, e.snapshots names v time = .ok [x]) :
    batch.length = vs.length := by
  obtain ⟨found, hfound, rfl⟩ := h
  induction hfound with
  | nil => rfl
  | @cons v rows vs found hrows _ ih =>
    obtain ⟨hv, hvs⟩ := List.forall_mem_cons.1 hone
    obtain ⟨time, -, hrows⟩ := hrows
    obtain ⟨x, hx⟩ := hv time
    obtain rfl : rows = [x] := Except.ok.inj (hrows.symm.trans hx)
    rw [List.flatten_cons, List.length_append, ih hvs, List.length_singleton, List.length_cons,
      Nat.add_comm]

/-- Pods about which the surroundings agree have the same snapshots, but for their numbers and
times. -/
theorem Batch.map_forget (h : e.AgreeBut e' names jobs region) (hvs : ∀ v ∈ vs, region.spares v = true)
    (hbatch : e.Batch names shown vs batch) (hbatch' : e'.Batch names shown' vs batch') :
    batch'.map Snapshot.forget = batch.map Snapshot.forget := by
  obtain ⟨found, hfound, rfl⟩ := hbatch
  obtain ⟨found', hfound', rfl⟩ := hbatch'
  induction hfound generalizing found' with
  | nil =>
    cases hfound'
    rfl
  | @cons v rows vs found hrows _ ih =>
    cases hfound' with
    | @cons _ rows' _ found' hrows' hfound' =>
      obtain ⟨hv, hvs⟩ := List.forall_mem_cons.1 hvs
      obtain ⟨time, htime, hrows⟩ := hrows
      obtain ⟨time', -, hrows'⟩ := hrows'
      have hpod : region.pod v.2.namespaceName v.2.name = false := by
        rw [Region.spares, Bool.and_eq_true, Bool.not_eq_true', Bool.not_eq_true'] at hv
        exact hv.2
      have hstamp : e'.snapshots names v time' =
          (e.snapshots names v time).map (List.map (stamp v.1 v.2 time')) := by
        rw [snapshots, snapshots, h.metric _ v.2 hpod, h.metric _ v.2 hpod]
        exact merge_stamp ..
      rw [hrows, hrows'] at hstamp
      obtain rfl : rows' = rows.map (stamp v.1 v.2 time') := Except.ok.inj hstamp
      have hfirst : (rows.map (stamp v.1 v.2 time')).map Snapshot.forget =
          rows.map Snapshot.forget := by
        rw [List.map_map]
        refine List.map_congr_left fun x hx => ?_
        obtain ⟨hjob, -, hname, hnamespace⟩ := merge_marks hrows hx
        change Snapshot.forget _ = _
        rw [stamp, ← hjob, ← hname, ← hnamespace]
        rfl
      rw [List.flatten_cons, List.flatten_cons, List.map_append, List.map_append, hfirst,
        ih hvs found' hfound']

end Surroundings

/-! ## A cycle -/

namespace Parts

variable (p : Parts σ) (s s' : σ)

/-- The jobs that are running. -/
def running : List Job := (p.jobs.get s).withStatus [.running]

/-- The snapshots that have been added. -/
def added : List Snapshot := (p.usage.get s').snapshots.drop (p.usage.get s).snapshots.length

end Parts

section Cycle
variable {t t' : Telemetry σ} {p : Parts σ} {e e' : Surroundings} {made made' : σ → Nat} {s s' r r' : σ}
  {batch : List Snapshot} {region : Region} {n n' : Nat}

theorem added_of_insert (h : p.usage.get s' = (p.usage.get s).insert batch) :
    p.added s s' = Usage.Tables.numbered (p.usage.get s).lastId batch := by
  rw [Parts.added, h]
  exact List.drop_left

variable (h : t.Faces p e made) (hfits : e.Fits t.names (e.visits t.names (p.running s)))
include h hfits

/-- A cycle breaks off at the call that stops it, or stores the snapshots of all pods. -/
theorem collect_goes :
    match e.stop? (made s) (e.calls t.names (p.running s)) with
    | some err => ∃ s', t.collect s = .error (.error err) s' ∧ p.Same s s'
    | none => ∃ batch s', e.Batch t.names t.Shows (e.visits t.names (p.running s)) batch ∧
        t.collect s = .ok batch.length s' ∧ p.jobs.get s' = p.jobs.get s ∧
        p.usage.get s' = (p.usage.get s).insert batch := by
  obtain ⟨backend, hbackend, -⟩ := h.queried
  obtain ⟨cluster, hcluster, -⟩ := h.listed
  have hgoes := goes_sampleJobs h hbackend hcluster (p.running s) s hfits
  have hlist : t.jobs.withStatus [.running] s = .ok (p.running s) s := h.withStatus_apply s [.running]
  unfold collect
  rw [hbackend, hcluster]
  dsimp only
  rw [Action.bind_of_ok hlist]
  by_cases hempty : (p.running s).isEmpty = true
  · have hnil := List.isEmpty_iff.1 hempty
    rw [if_pos hempty, hnil]
    refine ⟨[], s, Surroundings.batch_nil, rfl, rfl, ?_⟩
    simp [Usage.Tables.insert, Usage.Tables.numbered]
  rw [if_neg hempty]
  unfold Goes at hgoes
  cases hstop : e.stop? (made s) (e.calls t.names (p.running s)) with
  | some err =>
    rw [hstop] at hgoes
    obtain ⟨s', hrun, hsame⟩ := hgoes
    exact ⟨s', Action.bind_of_error hrun, hsame⟩
  | none =>
    rw [hstop] at hgoes
    obtain ⟨batch, s₁, hrun, hbatch, hsame, -⟩ := hgoes
    refine ⟨batch, _, hbatch, (Action.bind_of_ok hrun).trans
      (Action.bind_of_ok (h.insert_apply s₁ batch)), (h.apart _ s₁).trans hsame.jobs, ?_⟩
    rw [h.usageLawful.get_set, hsame.usage]

theorem collect_of_ok {n : Nat} (hok : t.collect s = .ok n s') :
    ∃ batch, e.Batch t.names t.Shows (e.visits t.names (p.running s)) batch ∧
      p.added s s' = Usage.Tables.numbered (p.usage.get s).lastId batch := by
  have hgoes := collect_goes h hfits
  split at hgoes
  · obtain ⟨r, hrun, -⟩ := hgoes
    rw [hok] at hrun
    cases hrun
  · obtain ⟨batch, r, hbatch, hrun, -, husage⟩ := hgoes
    rw [hok] at hrun
    cases hrun
    exact ⟨batch, hbatch, added_of_insert husage⟩

end Cycle

/-- A cycle adds, in one batch, the snapshots of the pods that are sampled, and answers how many
there are. If a collaborator is missing, or if it is called off before one of its calls, it adds
none. What the cluster and the backend answer about some jobs and pods does not reach the snapshots
of others. -/
theorem collection_exact (t : Telemetry σ) (p : Parts σ) (s : σ) :
    ((t.backend = none ∨ t.cluster = none) →
      ∃ detail, t.collect s = .error (.error (.unavailable detail)) s) ∧
    ∀ e made, t.Faces p e made → e.Fits t.names (e.visits t.names (p.running s)) →
      (e.Undisturbed (made s) (e.calls t.names (p.running s)) → ∃ batch s',
        e.Batch t.names t.Shows (e.visits t.names (p.running s)) batch ∧
        t.collect s = .ok batch.length s' ∧ p.jobs.get s' = p.jobs.get s ∧
        p.usage.get s' = (p.usage.get s).insert batch) ∧
      (¬e.Undisturbed (made s) (e.calls t.names (p.running s)) → ∃ detail s',
        t.collect s = .error (.error (.cancelled detail)) s' ∧ p.Same s s') ∧
      ∀ (t' : Telemetry σ) e' made' s', t'.Faces p e' made' → t'.names = t.names →
        p.jobs.get s' = p.jobs.get s → e'.Fits t.names (e'.visits t.names (p.running s)) →
        ∀ region, e.AgreeBut e' t.names (p.running s) region →
        ∀ n r n' r', t.collect s = .ok n r → t'.collect s' = .ok n' r' →
          region.others (p.added s' r') = region.others (p.added s r) := by
  refine ⟨fun hmissing => ?_, fun e made h hfits => ⟨fun hquiet => ?_, fun hloud => ?_, ?_⟩⟩
  · unfold collect
    cases hbackend : t.backend with
    | none => exact ⟨_, rfl⟩
    | some backend =>
      obtain hnone | hnone := hmissing
      · rw [hbackend] at hnone
        cases hnone
      · rw [hnone]
        exact ⟨_, rfl⟩
  · have hgoes := collect_goes h hfits
    rw [Surroundings.stop?_eq_none_iff.2 hquiet] at hgoes
    exact hgoes
  · have hgoes := collect_goes h hfits
    cases hstop : e.stop? (made s) (e.calls t.names (p.running s)) with
    | none => exact absurd (Surroundings.stop?_eq_none_iff.1 hstop) hloud
    | some err =>
      rw [hstop] at hgoes
      obtain ⟨detail, rfl⟩ := Surroundings.cancelled_of_stop? hstop
      exact ⟨detail, hgoes⟩
  · intro t' e' made' s' h' hnames hjobs hfits' region hagree n r n' r' hok hok'
    have hrunning : p.running s' = p.running s := by rw [Parts.running, hjobs, Parts.running]
    rw [← hnames, ← hrunning] at hfits'
    obtain ⟨batch, hbatch, hadded⟩ := collect_of_ok h hfits hok
    obtain ⟨batch', hbatch', hadded'⟩ := collect_of_ok h' hfits' hok'
    rw [hnames, hrunning] at hbatch'
    rw [hadded, hadded', Region.others_numbered, Region.others_numbered]
    have hspared : e'.Batch t.names t'.Shows _ (batch'.filter region.leaves) := hbatch'.filter
    rw [Surroundings.filter_visits hagree] at hspared
    exact Surroundings.Batch.map_forget hagree (fun v hv => (List.mem_filter.1 hv).2) hbatch.filter
      hspared

/-! ## Telemetry for any surroundings -/

/-- A state that counts calls. -/
structure Scene where
  jobs : Job.Archive := .empty
  usage : Usage.Tables := {}
  calls : Nat := 0

/-- The parts of a scene that telemetry works on. -/
def Scene.parts : Parts Scene where
  jobs := ⟨Scene.jobs, fun a s => { s with jobs := a }⟩
  usage := ⟨Scene.usage, fun u s => { s with usage := u }⟩

/-- Answer a call and count it. -/
def Scene.reply {α : Type} (r : Except Error α) : Action Scene α := fun s =>
  Action.ofExcept r { s with calls := s.calls + 1 }

/-- Telemetry that meets these surroundings. -/
def Surroundings.telemetry (e : Surroundings) (names : Names) (now : Instant) : Telemetry Scene where
  names := names
  jobs := Job.Store.archive.within Scene.parts.jobs
  usage := Usage.Store.tables.within Scene.parts.usage
  backend := some fun query _ => Scene.reply (e.samples query)
  cluster := some fun name selector => Scene.reply (e.pods name selector)
  clock := return now
  calledOff := fun s => .ok (e.calledOff s.calls) s

theorem Scene.beside_reply {α : Type} (r : Except Error α) : Scene.parts.Beside (Scene.reply r) := by
  intro s
  cases r with
  | ok a => exact ⟨rfl, rfl⟩
  | error err => exact ⟨rfl, rfl⟩

theorem Surroundings.telemetry_faces (e : Surroundings) (names : Names) (now : Instant)
    (hkept : now.isKept = true) :
    (e.telemetry names now).Faces Scene.parts e Scene.calls where
  jobs := rfl
  usage := rfl
  jobsLawful := ⟨fun _ _ => rfl, fun _ => rfl, fun _ _ _ => rfl⟩
  usageLawful := ⟨fun _ _ => rfl, fun _ => rfl, fun _ _ _ => rfl⟩
  apart _ _ := rfl
  clock s := ⟨now, s, rfl, hkept, .refl s⟩
  calledOff s := ⟨e.calledOff s.calls, s, rfl, .refl s⟩
  backend b hb query time := by
    obtain rfl := Option.some.inj hb
    exact Scene.beside_reply (e.samples query)
  cluster c hc name selector := by
    obtain rfl := Option.some.inj hc
    exact Scene.beside_reply (e.pods name selector)
  listed := ⟨_, rfl, fun _ _ s => ⟨{ s with calls := s.calls + 1 }, rfl, rfl⟩⟩
  queried := ⟨_, rfl, fun _ _ s => ⟨{ s with calls := s.calls + 1 }, rfl, rfl⟩⟩
  clockMade s now' s' hclock := by
    cases hclock
    rfl
  asked s := ⟨s, rfl, rfl⟩

/-- Two running jobs. -/
def leftJob : Job :=
  { id := ⟨1#128⟩, namespaceName := "left", status := .running, createdAt := ⟨0, 0⟩ }

def rightJob : Job :=
  { id := ⟨2#128⟩, namespaceName := "right", status := .running, createdAt := ⟨0, 0⟩ }

/-- A running pod. -/
def sharedPod : Pod :=
  { name := "pod", namespaceName := "shared", phase := .running, nodeName := "", gpuRequest := 0 }

/-- Each job has a pod with one sample of its utilization, and its memory cannot be read. -/
def halfBlind : Surroundings where
  pods _ _ := .ok [sharedPod]
  samples query :=
    if query = Metrics.podQuery ({} : Names).memoryMetric "shared" "pod" then .error (.metrics "down")
    else .ok [{}]
  calledOff _ := false

/-- The same, but the pods of one job cannot be listed. -/
def halfListed : Surroundings :=
  { halfBlind with
    pods := fun name _ => if name = "right" then .error (.cluster "down") else .ok [sharedPod] }

theorem snapshots_sharedPod {v : JobId × Pod} (hv : v.2 = sharedPod) (time : Instant) :
    ∃ x, halfBlind.snapshots {} v time = .ok [x] := by
  obtain ⟨job, pod⟩ := v
  obtain rfl : pod = sharedPod := hv
  exact ⟨_, rfl⟩

/-- Where the pods of one job cannot be listed, the snapshot of the other job is the same. -/
theorem collection_exact_halfListed : ∃ s r r' : Scene,
    (halfBlind.telemetry {} ⟨0, 0⟩).collect s = .ok 2 r ∧
    (halfListed.telemetry {} ⟨5, 0⟩).collect s = .ok 1 r' ∧
    Region.others ⟨(· == rightJob.id), fun _ _ => false⟩ (Scene.parts.added s r') =
      Region.others ⟨(· == rightJob.id), fun _ _ => false⟩ (Scene.parts.added s r) := by
  obtain ⟨a, ha⟩ := Job.Archive.exists_add_empty leftJob
  have hlist : a.toList = [leftJob] := Job.Archive.toList_add ha
  obtain ⟨b, hb⟩ := (Job.Archive.indexed_empty.add ha).exists_add (j := rightJob) (by
    rw [hlist]
    decide)
  let s : Scene := { jobs := b }
  have hrunning : Scene.parts.running s = [leftJob, rightJob] := by
    change b.toList.filter _ = _
    rw [Job.Archive.toList_add hb, hlist]
    rfl
  obtain ⟨-, hexact⟩ := collection_exact (halfBlind.telemetry {} ⟨0, 0⟩) Scene.parts s
  obtain ⟨-, hexact'⟩ := collection_exact (halfListed.telemetry {} ⟨5, 0⟩) Scene.parts s
  rw [hrunning] at hexact hexact'
  have hvisits : ∀ v ∈ halfBlind.visits {} [leftJob, rightJob], v.2 = sharedPod := by decide
  have hvisits' : ∀ v ∈ halfListed.visits {} [leftJob, rightJob], v.2 = sharedPod := by decide
  have hfits : halfBlind.Fits {} (halfBlind.visits {} [leftJob, rightJob]) := fun v hv =>
    ⟨⟨0, 0⟩, (snapshots_sharedPod (hvisits v hv) ⟨0, 0⟩).imp' _ fun _ hx => hx⟩
  have hfits' : halfListed.Fits {} (halfListed.visits {} [leftJob, rightJob]) := fun v hv =>
    ⟨⟨0, 0⟩, (snapshots_sharedPod (hvisits' v hv) ⟨0, 0⟩).imp' _ fun _ hx => hx⟩
  have hquiet : halfBlind.Undisturbed 0 (halfBlind.calls {} [leftJob, rightJob]) :=
    Surroundings.stop?_eq_none_iff.1 (by decide)
  have hquiet' : halfListed.Undisturbed 0 (halfListed.calls {} [leftJob, rightJob]) :=
    Surroundings.stop?_eq_none_iff.1 (by decide)
  have hagree : halfBlind.AgreeBut halfListed {} [leftJob, rightJob]
      ⟨(· == rightJob.id), fun _ _ => false⟩ := by
    refine ⟨List.forall_mem_cons.2 ⟨fun _ => rfl, ?_⟩, fun _ _ _ => rfl⟩
    exact List.forall_mem_singleton.2 fun h => absurd h (by decide)
  have hfaces := halfBlind.telemetry_faces {} ⟨0, 0⟩ (by decide)
  have hfaces' := halfListed.telemetry_faces {} ⟨5, 0⟩ (by decide)
  obtain ⟨hstores, -, hothers⟩ := hexact halfBlind Scene.calls hfaces hfits
  obtain ⟨hstores', -, -⟩ := hexact' halfListed Scene.calls hfaces' hfits'
  obtain ⟨batch, r, hbatch, hok, -⟩ := hstores hquiet
  obtain ⟨batch', r', hbatch', hok', -⟩ := hstores' hquiet'
  rw [hbatch.length_eq fun v hv => snapshots_sharedPod (hvisits v hv)] at hok
  rw [hbatch'.length_eq fun v hv => snapshots_sharedPod (hvisits' v hv)] at hok'
  exact ⟨s, r, r', hok, hok',
    hothers _ halfListed Scene.calls s hfaces' rfl rfl hfits' _ hagree _ r _ r' hok hok'⟩

end Telemetry

end GpuCluster
