import GpuCluster.Proofs.Cluster.Requests
import GpuCluster.Proofs.Telemetry.Gpus

/-!
# Cycles that break off in a sum

* `Sources` : the descriptions of pods that the cluster lists in a cycle, and what the backend
  sends; `Receives` : telemetry with these sources, in a cycle that is not called off;
* `Sources.InBounds` : no number that is formed from what they send leaves its word;
* `Tallies` : an action answers as long as its sums stay in bounds, and breaks off if they do not;
* `cycle_ends_iff_inBounds` : so does a cycle, and then it stores nothing of any pod.
-/

namespace GpuCluster.Telemetry

open Pod (Manifest)
open Pod.Manifest (AllFit)
open Usage (Snapshot)

variable {σ α β : Type}

/-! ## What is sent -/

/-- What the cluster and the backend send in a cycle. -/
structure Sources where
  /-- The descriptions of the pods of a namespace that a label selector picks, if they can be
  listed. -/
  listing : String → String → Option (List Manifest)
  /-- The answer to a query. -/
  samples : String → Except Error (List Metrics.Sample)

namespace Sources

variable (e : Sources) (names : Names)

/-- The descriptions of the pods of a job; none if they cannot be listed. -/
def manifests (j : Job) : List Manifest :=
  (e.listing j.namespaceName (names.jobLabel ++ "=" ++ j.id.toText)).getD []

/-- The surroundings that a cycle meets as long as all descriptions can be read. -/
def surroundings : Surroundings where
  pods name selector :=
    match e.listing name selector with
    | none => .error (.listingFailed name selector)
    | some ms => .ok (ms.map Manifest.described)
  samples := e.samples
  calledOff _ := false

/-- No number that a cycle over these jobs forms leaves its word. -/
structure InBounds (jobs : List Job) : Prop where
  /-- The GPUs that the containers of a pod ask for, of every pod that is listed. -/
  requests : ∀ j ∈ jobs, j.namespaceName ≠ "" → AllFit (e.manifests names j)
  /-- The units that these GPUs are worth, of every pod that is sampled. -/
  units : ∀ v ∈ e.surroundings.visits names jobs,
    v.2.gpuRequest.toNat * Mps.unitsPerGpu.toNat < UInt32.size
  /-- The bytes of each GPU, after each of its samples. -/
  bytes : ∀ v ∈ e.surroundings.visits names jobs,
    InRange (received (e.surroundings.metric names.memoryMetric v.2))

variable {e names} {jobs : List Job}

theorem fits_iff {vs : List (JobId × Pod)} : e.surroundings.Fits names vs ↔ ∀ v ∈ vs,
    v.2.gpuRequest.toNat * Mps.unitsPerGpu.toNat < UInt32.size ∧
      InRange (received (e.surroundings.metric names.memoryMetric v.2)) := by
  refine forall₂_congr fun v _ => ?_
  constructor
  · rintro ⟨time, hrows⟩
    exact merge_ok_iff.1 hrows
  · intro h
    exact ⟨⟨0, 0⟩, merge_ok_iff.2 h⟩

theorem inBounds_iff : e.InBounds names jobs ↔
    (∀ j ∈ jobs, j.namespaceName ≠ "" → AllFit (e.manifests names j)) ∧
      e.surroundings.Fits names (e.surroundings.visits names jobs) := by
  rw [fits_iff]
  constructor
  · intro h
    exact ⟨h.requests, fun v hv => ⟨h.units v hv, h.bytes v hv⟩⟩
  · rintro ⟨hrequests, hsums⟩
    exact ⟨hrequests, fun v hv => (hsums v hv).1, fun v hv => (hsums v hv).2⟩

theorem inBounds_nil : e.InBounds names [] :=
  inBounds_iff.2 ⟨List.forall_mem_nil _, List.forall_mem_nil _⟩

theorem inBounds_cons {j : Job} {rest : List Job} :
    e.InBounds names (j :: rest) ↔ e.InBounds names [j] ∧ e.InBounds names rest := by
  rw [inBounds_iff, inBounds_iff, inBounds_iff, Surroundings.visits_cons, Surroundings.fits_append,
    List.forall_mem_cons, List.forall_mem_singleton]
  exact and_and_and_comm

end Sources

/-- Telemetry over stores in memory with these sources, in a cycle that is not called off. -/
structure Receives (t : Telemetry σ) (p : Parts σ) (e : Sources) : Prop extends t.InMemory p where
  listed : ∃ cluster, t.cluster = some cluster ∧ ∀ name selector s, ∃ s',
    cluster name selector s = Listing.podsOf ⟨name, selector⟩ (e.listing name selector) s'
  queried : ∃ backend, t.backend = some backend ∧ ∀ query time s, ∃ s',
    backend query time s = Action.ofExcept (e.samples query) s'
  goesOn : ∀ s, ∃ s', t.calledOff s = .ok false s'
  kept : ∀ query detail, e.samples query ≠ .error (.cancelled detail)

/-! ## Actions that add up -/

/-- The action answers with something of the kind `R` as long as its sums stay in bounds, and else
it breaks off in one that does not. Neither part moves. -/
structure Tallies (p : Parts σ) (x : Action σ α) (s : σ) (bounded : Prop) (R : α → Prop) :
    Prop where
  answers : bounded → ∃ a s', x s = .ok a s' ∧ R a ∧ p.Same s s'
  overflows : ¬bounded → ∃ op s', x s = .error (.fault (.overflow op)) s' ∧ p.Same s s'

section Tallies
variable {t : Telemetry σ} {p : Parts σ} {e : Sources} {s : σ} {bounded bounded' : Prop}
  {R : α → Prop} {R' : β → Prop}

theorem tallies_pure {a : α} (h : R a) : Tallies p (pure a) s True R where
  answers _ := ⟨a, s, rfl, h, .refl s⟩
  overflows hnot := absurd trivial hnot

theorem Tallies.congr {x : Action σ α} (h : Tallies p x s bounded R) (hiff : bounded' ↔ bounded) :
    Tallies p x s bounded' R where
  answers hb := h.answers (hiff.1 hb)
  overflows hb := h.overflows (mt hiff.2 hb)

theorem tallies_bind {x : Action σ α} {f : α → Action σ β} (hx : Tallies p x s bounded R)
    (hf : ∀ a s', R a → Tallies p (f a) s' bounded' R') :
    Tallies p (x >>= f) s (bounded ∧ bounded') R' where
  answers hboth := by
    obtain ⟨a, s₁, hrun, ha, hsame⟩ := hx.answers hboth.1
    obtain ⟨b, s₂, hrun', hb, hsame'⟩ := (hf a s₁ ha).answers hboth.2
    exact ⟨b, s₂, (Action.bind_of_ok hrun).trans hrun', hb, hsame.trans hsame'⟩
  overflows hnot := by
    by_cases hb : bounded
    · obtain ⟨a, s₁, hrun, ha, hsame⟩ := hx.answers hb
      obtain ⟨op, s₂, hrun', hsame'⟩ := (hf a s₁ ha).overflows fun hb' => hnot ⟨hb, hb'⟩
      exact ⟨op, s₂, (Action.bind_of_ok hrun).trans hrun', hsame.trans hsame'⟩
    · obtain ⟨op, s₁, hrun, hsame⟩ := hx.overflows hb
      exact ⟨op, s₁, Action.bind_of_error hrun, hsame⟩

/-- An action that answers forms no sums of its own. -/
theorem tallies_bind_of_answer {x : Action σ α} {f : α → Action σ β} (hx : Tallies p x s True R)
    (hf : ∀ a s', R a → Tallies p (f a) s' bounded' R') : Tallies p (x >>= f) s bounded' R' :=
  (tallies_bind hx hf).congr (and_iff_right trivial).symm

/-- Nothing is sampled. -/
theorem tallies_nil : Tallies p (pure []) s (e.surroundings.Fits t.names [])
    (e.surroundings.Batch t.names t.Shows []) :=
  (tallies_pure Surroundings.batch_nil).congr (iff_true_intro (List.forall_mem_nil _))

/-- Two samplings, one after the other. -/
theorem tallies_append {x y : Action σ (List Snapshot)} {vs ws : List (JobId × Pod)}
    (hx : Tallies p x s bounded (e.surroundings.Batch t.names t.Shows vs))
    (hy : ∀ s', Tallies p y s' bounded' (e.surroundings.Batch t.names t.Shows ws)) :
    Tallies p (do let first ← x; return first ++ (← y)) s (bounded ∧ bounded')
      (e.surroundings.Batch t.names t.Shows (vs ++ ws)) := by
  refine tallies_bind hx fun first s₁ hfirst => ?_
  refine (tallies_bind (hy s₁) fun others s₂ hothers => ?_).congr (and_iff_left trivial).symm
  exact tallies_pure (hfirst.append hothers)

/-! ## Pods and jobs -/

section Sampling
variable (h : t.Receives p e) {backend : Metrics.Backend σ} {cluster : Cluster σ}
  (hbackend : t.backend = some backend) (hcluster : t.cluster = some cluster)
include h

theorem tallies_clock (s : σ) : Tallies p t.clock s True t.Shows where
  answers _ := by
    obtain ⟨now, s', hclock, -, hsame⟩ := h.clock s
    exact ⟨now, s', hclock, ⟨s, s', hclock⟩, hsame⟩
  overflows hnot := absurd trivial hnot

include hcluster in
/-- The pods of a job are listed if what each of them asks for fits. -/
theorem tallies_listing (j : Job) (s : σ) :
    Tallies p (t.ask (cluster j.namespaceName (t.selectorOf j.id))) s
      (AllFit (e.manifests t.names j)) (· = (e.surroundings.listing t.names j).toOption) := by
  obtain ⟨cluster', hcluster', hlist⟩ := h.listed
  obtain rfl : cluster = cluster' := Option.some.inj (hcluster.symm.trans hcluster')
  obtain ⟨s₁, hoff⟩ := h.goesOn s
  obtain ⟨s₂, hrun⟩ := hlist j.namespaceName (t.selectorOf j.id) s₁
  have hbeside := h.cluster cluster hcluster j.namespaceName (t.selectorOf j.id) s₁
  have hcall : t.call (cluster j.namespaceName (t.selectorOf j.id)) s = _ :=
    (Action.bind_of_ok hoff).trans hrun
  have hmanifests : e.manifests t.names j =
      (e.listing j.namespaceName (t.selectorOf j.id)).getD [] := rfl
  have hpods : e.surroundings.listing t.names j =
      match e.listing j.namespaceName (t.selectorOf j.id) with
      | none => .error (.listingFailed j.namespaceName (t.selectorOf j.id))
      | some ms => .ok (ms.map Manifest.described) := rfl
  rw [hmanifests, hpods]
  cases hlisted : e.listing j.namespaceName (t.selectorOf j.id) with
  | none =>
    rw [hlisted] at hrun hcall
    rw [Action.after_of_error hrun] at hbeside
    refine ⟨fun _ => ⟨none, s₂, ask_of_call (r := .error _) hcall nofun, rfl,
      (h.same_of_calledOff hoff).trans hbeside⟩, fun hnot => absurd ?_ hnot⟩
    exact List.forall_mem_nil _
  | some ms =>
    simp only [hlisted, Listing.podsOf, Manifest.mapM_pod] at hrun hcall
    by_cases hfit : AllFit ms
    · rw [if_pos hfit] at hrun hcall
      rw [Action.after_of_ok hrun] at hbeside
      exact ⟨fun _ => ⟨some _, s₂, ask_of_call (r := .ok _) hcall nofun, rfl,
        (h.same_of_calledOff hoff).trans hbeside⟩, fun hnot => absurd hfit hnot⟩
    · rw [if_neg hfit] at hrun hcall
      rw [Action.after_of_error hrun] at hbeside
      refine ⟨fun hall => absurd hall hfit, fun _ => ⟨.add, s₂, ?_,
        (h.same_of_calledOff hoff).trans hbeside⟩⟩
      exact Action.bind_of_error (Action.attempt_of_fault hcall)

include hbackend

theorem tallies_samplesOf (name : String) (pod : Pod) (time : Instant) (s : σ) :
    Tallies p (t.samplesOf backend name pod time) s True
      (· = (e.surroundings.metric name pod).toOption) where
  answers _ := by
    obtain ⟨backend', hbackend', hquery⟩ := h.queried
    obtain rfl : backend = backend' := Option.some.inj (hbackend.symm.trans hbackend')
    obtain ⟨s₁, hoff⟩ := h.goesOn s
    obtain ⟨s₂, hrun⟩ := hquery (Metrics.podQuery name pod.namespaceName pod.name) time s₁
    have hbeside := h.backend backend hbackend
      (Metrics.podQuery name pod.namespaceName pod.name) time s₁
    rw [after_of_reply hrun] at hbeside
    exact ⟨_, s₂, ask_of_call ((Action.bind_of_ok hoff).trans hrun) (h.kept _), rfl,
      (h.same_of_calledOff hoff).trans hbeside⟩
  overflows hnot := absurd trivial hnot

theorem tallies_samplePod (job : JobId) (pod : Pod) (s : σ) :
    Tallies p (t.samplePod backend job pod) s
      (e.surroundings.Fits t.names (e.surroundings.podVisits t.names job [pod]))
      (e.surroundings.Batch t.names t.Shows (e.surroundings.podVisits t.names job [pod])) := by
  unfold samplePod
  cases hterm : pod.phase.isTerminal with
  | true =>
    have hvisits : e.surroundings.podVisits t.names job [pod] = [] := by
      simp [Surroundings.podVisits, Surroundings.isSampled, hterm]
    rw [hvisits]
    exact tallies_nil
  | false =>
    rw [if_neg Bool.false_ne_true]
    refine tallies_bind_of_answer (tallies_clock h s) fun time s₁ htime => ?_
    refine tallies_bind_of_answer (tallies_samplesOf h hbackend t.names.memoryMetric pod time s₁)
      fun memory s₂ hm => ?_
    refine tallies_bind_of_answer
      (tallies_samplesOf h hbackend t.names.utilizationMetric pod time s₂) fun load s₃ hl => ?_
    subst hm hl
    rw [Surroundings.podVisits_of_live job hterm]
    split_ifs
    · exact tallies_nil
    -- The only sums of a pod are those of its merge.
    obtain ⟨hunits, hrange, rows, hrows, -⟩ | ⟨hnot, op, herror⟩ := merge_cases job pod time
      ((e.surroundings.metric t.names.memoryMetric pod).toOption.getD [])
      ((e.surroundings.metric t.names.utilizationMetric pod).toOption.getD [])
    · have hfits : e.surroundings.Fits t.names [(job, pod)] :=
        Sources.fits_iff.2 (List.forall_mem_singleton.2 ⟨hunits, hrange⟩)
      have hsnapshots : e.surroundings.snapshots t.names (job, pod) time = .ok rows := hrows
      have hbatch := Surroundings.batch_singleton htime hsnapshots
      rw [hrows]
      exact (tallies_pure hbatch).congr (iff_true_intro hfits)
    · have hfits : ¬e.surroundings.Fits t.names [(job, pod)] := by
        rw [Sources.fits_iff, List.forall_mem_singleton]
        exact hnot
      rw [herror]
      exact ⟨fun hall => absurd hall hfits, fun _ => ⟨op, s₃, rfl, .refl s₃⟩⟩

theorem tallies_samplePods (job : JobId) (pods : List Pod) (s : σ) :
    Tallies p (t.samplePods backend job pods) s
      (e.surroundings.Fits t.names (e.surroundings.podVisits t.names job pods))
      (e.surroundings.Batch t.names t.Shows (e.surroundings.podVisits t.names job pods)) := by
  induction pods generalizing s with
  | nil => exact tallies_nil
  | cons pod rest ih =>
    rw [Surroundings.podVisits_cons]
    refine Tallies.congr ?_ Surroundings.fits_append
    exact tallies_append (tallies_samplePod h hbackend job pod s) ih

include hcluster

theorem tallies_sampleJob (j : Job) (s : σ) :
    Tallies p (t.sampleJob backend cluster j) s (e.InBounds t.names [j])
      (e.surroundings.Batch t.names t.Shows (e.surroundings.visits t.names [j])) := by
  refine Tallies.congr ?_ Sources.inBounds_iff
  rw [List.forall_mem_singleton]
  unfold sampleJob
  by_cases hname : j.namespaceName = ""
  · have hvisits : e.surroundings.visits t.names [j] = [] := by simp [Surroundings.visits, hname]
    rw [if_pos hname, hvisits]
    exact tallies_nil.congr (and_iff_right fun hne => absurd hname hne)
  · have hvisits : e.surroundings.visits t.names [j] =
        e.surroundings.podVisits t.names j.id
          ((e.surroundings.listing t.names j).toOption.getD []) := by
      simp [Surroundings.visits, hname]
    rw [if_neg hname, hvisits]
    refine Tallies.congr ?_ (and_congr_left' (forall_prop_of_true hname))
    refine tallies_bind (tallies_listing h hcluster j s) fun listed s₁ hlisted => ?_
    subst hlisted
    cases hlisted : (e.surroundings.listing t.names j).toOption with
    | none => exact tallies_nil
    | some pods => exact tallies_samplePods h hbackend j.id pods s₁

theorem tallies_sampleJobs (jobs : List Job) (s : σ) :
    Tallies p (t.sampleJobs backend cluster jobs) s (e.InBounds t.names jobs)
      (e.surroundings.Batch t.names t.Shows (e.surroundings.visits t.names jobs)) := by
  induction jobs generalizing s with
  | nil => exact (tallies_pure Surroundings.batch_nil).congr (iff_true_intro Sources.inBounds_nil)
  | cons j rest ih =>
    rw [Surroundings.visits_cons]
    refine Tallies.congr ?_ Sources.inBounds_cons
    exact tallies_append (tallies_sampleJob h hbackend hcluster j s) ih

end Sampling

end Tallies

/-! ## A cycle -/

/-- The pods of a list are read exactly if the GPUs that each asks for fit their word. A cycle that
is not called off stores the snapshots of all pods that are sampled as long as all its sums stay in
bounds. If one does not, for any pod of any job, the cycle breaks off and stores none at all. -/
theorem cycle_ends_iff_inBounds {t : Telemetry σ} {p : Parts σ} {e : Sources}
    (h : t.Receives p e) (s : σ) :
    (∀ m : Manifest, (∃ pod, m.pod = .ok pod) ↔ m.gpusAsked < UInt32.size) ∧
    (e.InBounds t.names (p.running s) → ∃ batch s',
      e.surroundings.Batch t.names t.Shows (e.surroundings.visits t.names (p.running s)) batch ∧
      t.collect s = .ok batch.length s' ∧ p.jobs.get s' = p.jobs.get s ∧
      p.usage.get s' = (p.usage.get s).insert batch) ∧
    (¬e.InBounds t.names (p.running s) → ∃ op s',
      t.collect s = .error (.fault (.overflow op)) s' ∧ p.Same s s') := by
  obtain ⟨backend, hbackend, -⟩ := h.queried
  obtain ⟨cluster, hcluster, -⟩ := h.listed
  have hsample := tallies_sampleJobs h hbackend hcluster (p.running s) s
  have hlist : t.jobs.withStatus [.running] s = .ok (p.running s) s :=
    h.withStatus_apply s [.running]
  have hcollect : t.collect s = (if (p.running s).isEmpty then return 0 else do
      let batch ← t.sampleJobs backend cluster (p.running s)
      t.usage.insert batch
      return batch.length : Action σ Nat) s := by
    unfold collect
    rw [hbackend, hcluster]
    exact Action.bind_of_ok hlist
  refine ⟨fun m => ?_, fun hbounds => ?_, fun hnot => ?_⟩
  · rw [Manifest.pod_eq]
    split_ifs with hfits
    · exact iff_of_true ⟨_, rfl⟩ hfits
    · exact iff_of_false nofun hfits
  · obtain ⟨batch, s₁, hrun, hbatch, hsame⟩ := hsample.answers hbounds
    by_cases hempty : (p.running s).isEmpty = true
    · rw [if_pos hempty] at hcollect
      rw [List.isEmpty_iff.1 hempty]
      refine ⟨[], s, Surroundings.batch_nil, hcollect, rfl, ?_⟩
      simp [Usage.Tables.insert, Usage.Tables.numbered]
    · rw [if_neg hempty, Action.bind_of_ok hrun, Action.bind_of_ok (h.insert_apply s₁ batch)]
        at hcollect
      refine ⟨batch, _, hbatch, hcollect, (h.apart _ s₁).trans hsame.jobs, ?_⟩
      rw [h.usageLawful.get_set, hsame.usage]
  · have hsome : (p.running s).isEmpty ≠ true := by
      intro hempty
      rw [List.isEmpty_iff.1 hempty] at hnot
      exact hnot Sources.inBounds_nil
    obtain ⟨op, s₁, hrun, hsame⟩ := hsample.overflows hnot
    rw [if_neg hsome, Action.bind_of_error hrun] at hcollect
    exact ⟨op, s₁, hcollect, hsame⟩

/-- Telemetry with these sources, in a cycle that is not called off. -/
def Sources.telemetry (e : Sources) (names : Names) (now : Instant) : Telemetry Scene where
  names := names
  jobs := Job.Store.archive.within Scene.parts.jobs
  usage := Usage.Store.tables.within Scene.parts.usage
  backend := some fun query _ => Scene.reply (e.samples query)
  cluster := some fun name selector => Listing.podsOf ⟨name, selector⟩ (e.listing name selector)
  clock := return now
  calledOff := return false

/-- The description of a running pod that asks for so many GPUs. -/
def podAsking (name gpus : String) : Manifest := ⟨name, "left", .running, "", [gpus]⟩

/-- A job has a pod that asks for one GPU, and another one that asks for more than can be counted in
units. Each metric has one sample. -/
def greedyPod : Sources where
  listing _ _ := some [podAsking "modest" "1", podAsking "greedy" "429496730"]
  samples _ := .ok [{}]

/-- The cycle over both pods breaks off, and the modest one has no snapshot. -/
theorem cycle_ends_iff_inBounds_greedy : ∃ s op, ∃ s' : Scene,
    greedyPod.surroundings.visits {} (Scene.parts.running s) =
      [(leftJob.id, ⟨"modest", "left", .running, "", 1⟩),
        (leftJob.id, ⟨"greedy", "left", .running, "", 429496730⟩)] ∧
    (greedyPod.telemetry {} ⟨0, 0⟩).collect s = .error (.fault (.overflow op)) s' ∧
    s'.usage.snapshots = [] := by
  obtain ⟨a, ha⟩ := Job.Archive.exists_add_empty leftJob
  let s : Scene := { jobs := a }
  have hrunning : Scene.parts.running s = [leftJob] := by
    change a.toList.filter _ = _
    rw [Job.Archive.toList_add ha]
    rfl
  have hreceives : (greedyPod.telemetry {} ⟨0, 0⟩).Receives Scene.parts greedyPod :=
    { jobs := rfl
      usage := rfl
      jobsLawful := ⟨fun _ _ => rfl, fun _ => rfl, fun _ _ _ => rfl⟩
      usageLawful := ⟨fun _ _ => rfl, fun _ => rfl, fun _ _ _ => rfl⟩
      apart := fun _ _ => rfl
      clock := fun s => ⟨⟨0, 0⟩, s, rfl, by decide, .refl s⟩
      calledOff := fun s => ⟨false, s, rfl, .refl s⟩
      backend := fun b hb query time => by
        obtain rfl := Option.some.inj hb
        exact Scene.beside_reply _
      cluster := fun c hc name selector => by
        obtain rfl := Option.some.inj hc
        exact fun s => .refl s
      listed := ⟨_, rfl, fun _ _ s => ⟨s, rfl⟩⟩
      queried := ⟨_, rfl, fun _ _ s => ⟨{ s with calls := s.calls + 1 }, rfl⟩⟩
      goesOn := fun s => ⟨s, rfl⟩
      kept := nofun }
  have hvisits : greedyPod.surroundings.visits {} [leftJob] =
      [(leftJob.id, ⟨"modest", "left", .running, "", 1⟩),
        (leftJob.id, ⟨"greedy", "left", .running, "", 429496730⟩)] := by decide
  have hbounds : ¬greedyPod.InBounds {} (Scene.parts.running s) := by
    intro hbounds
    have hunits := hbounds.units (leftJob.id, ⟨"greedy", "left", .running, "", 429496730⟩) (by
      rw [hrunning, hvisits]
      exact List.mem_cons_of_mem _ (List.mem_singleton_self _))
    exact absurd hunits (by decide)
  obtain ⟨-, -, hbreaks⟩ := cycle_ends_iff_inBounds hreceives s
  obtain ⟨op, s', hrun, hsame⟩ := hbreaks hbounds
  have hsampled := hvisits
  rw [← hrunning] at hsampled
  exact ⟨s, op, s', hsampled, hrun, congrArg Usage.Tables.snapshots hsame.usage⟩

end GpuCluster.Telemetry
