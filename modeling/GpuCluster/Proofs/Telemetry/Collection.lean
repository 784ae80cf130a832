import Mathlib.Data.List.Forall2
import GpuCluster.Proofs.Telemetry.Sampling

/-!
# What a cycle collects

* `Surroundings` : what the cluster and the backend answer, and when the cycle is called off;
  `Faces` : telemetry in such surroundings;
* `Surroundings.visits` : the pods that are sampled, `Surroundings.Batch` : their snapshots;
* `Surroundings.stop?` : the call at which a cycle breaks off;
* `Goes` : an action breaks off at a call, or makes all its calls and answers.
-/

namespace GpuCluster.Telemetry

open Usage (Snapshot)

variable {σ α β : Type}

/-! ## Surroundings -/

/-- The error that a call reports, if any. -/
def failure? : Except Error α → Option Error
  | .ok _ => none
  | .error e => some e

/-- The error of a call that was called off. -/
def cancellation? : Option Error → Option Error
  | some (.cancelled detail) => some (.cancelled detail)
  | _ => none

theorem cancellation?_eq_none_iff {call : Option Error} :
    cancellation? call = none ↔ ∀ detail, call ≠ some (.cancelled detail) := by
  unfold cancellation?
  split
  next detail => exact iff_of_false nofun fun h => h detail rfl
  next hcall => exact iff_of_true rfl hcall

/-- How the collaborators of a cycle behave. -/
structure Surroundings where
  /-- What the cluster answers for a namespace and a label selector. -/
  pods : String → String → Except Error (List Pod)
  /-- What the backend answers to a query. -/
  samples : String → Except Error (List Metrics.Sample)
  /-- Whether the cycle has been called off before its next call, when it has made so many. -/
  calledOff : Nat → Bool

namespace Surroundings

variable (e : Surroundings) (names : Names)

/-- What the cluster answers for a job. -/
def listing (j : Job) : Except Error (List Pod) :=
  e.pods j.namespaceName (names.jobLabel ++ "=" ++ j.id.toText)

/-- What the backend answers for a metric of a pod. -/
def metric (name : String) (pod : Pod) : Except Error (List Metrics.Sample) :=
  e.samples (Metrics.podQuery name pod.namespaceName pod.name)

/-- The pod has not ended, and one of its metrics can be read. -/
def isSampled (pod : Pod) : Bool :=
  !pod.phase.isTerminal && ((e.metric names.memoryMetric pod).toOption.isSome ||
    (e.metric names.utilizationMetric pod).toOption.isSome)

/-- Those of the pods of a job that are sampled. -/
def podVisits (job : JobId) (pods : List Pod) : List (JobId × Pod) :=
  (pods.filter (e.isSampled names)).map (job, ·)

/-- The pods that are sampled, each with its job: those of the jobs with a namespace whose pods can
be listed. -/
def visits (jobs : List Job) : List (JobId × Pod) :=
  (jobs.filter (·.namespaceName ≠ "")).flatMap fun j =>
    e.podVisits names j.id ((e.listing names j).toOption.getD [])

/-- The snapshots of a pod of a job. A metric that cannot be read counts as one without samples. -/
def snapshots (visit : JobId × Pod) (time : Instant) : Except Fault (List Snapshot) :=
  merge visit.1 visit.2 time ((e.metric names.memoryMetric visit.2).toOption.getD [])
    ((e.metric names.utilizationMetric visit.2).toOption.getD [])

/-- The snapshots of some pods, pod by pod, each pod at one of the times that are shown. -/
def Batch (shown : Instant → Prop) (visits : List (JobId × Pod)) (batch : List Snapshot) : Prop :=
  ∃ found, List.Forall₂ (fun v rows => ∃ time, shown time ∧ e.snapshots names v time = .ok rows)
    visits found ∧ batch = found.flatten

/-- No sum over the samples of these pods overflows. -/
def Fits (visits : List (JobId × Pod)) : Prop :=
  ∀ v ∈ visits, ∃ time rows, e.snapshots names v time = .ok rows

/-- The queries for some pods, by the errors that they report: two for each that has not ended. -/
def podCalls (pods : List Pod) : List (Option Error) :=
  (pods.filter (!·.phase.isTerminal)).flatMap fun pod =>
    [failure? (e.metric names.memoryMetric pod), failure? (e.metric names.utilizationMetric pod)]

/-- The calls of a cycle, by the errors that they report: for each job with a namespace the listing
of its pods and the queries for them. -/
def calls (jobs : List Job) : List (Option Error) :=
  (jobs.filter (·.namespaceName ≠ "")).flatMap fun j =>
    failure? (e.listing names j) :: e.podCalls names ((e.listing names j).toOption.getD [])

/-- The error at which a cycle breaks off that has made so many calls and is to make these: it has
been called off before one of them, or one of them reports that it was. -/
def stop? : Nat → List (Option Error) → Option Error
  | _, [] => none
  | made, call :: rest =>
    if e.calledOff made then some .cycleCalledOff
    else (cancellation? call).or (stop? (made + 1) rest)

/-- The cycle has not been called off before any of these calls, and none of them reports that it
was. -/
def Undisturbed (made : Nat) (calls : List (Option Error)) : Prop :=
  ∀ i call, calls[i]? = some call →
    e.calledOff (made + i) = false ∧ ∀ detail, call ≠ some (.cancelled detail)

variable {e names} {made : Nat} {xs ys : List (Option Error)}

theorem stop?_append (xs ys : List (Option Error)) (made : Nat) :
    e.stop? made (xs ++ ys) = (e.stop? made xs).or (e.stop? (made + xs.length) ys) := by
  induction xs generalizing made with
  | nil => rfl
  | cons call rest ih =>
    rw [List.cons_append, stop?, stop?]
    split
    · rfl
    · rw [ih, List.length_cons, Nat.add_assoc, Nat.add_comm 1, Option.or_assoc]

theorem cancelled_of_stop? {err : Error} (h : e.stop? made xs = some err) :
    ∃ detail, err = .cancelled detail := by
  induction xs generalizing made with
  | nil => cases h
  | cons call rest ih =>
    rw [stop?] at h
    split at h
    · cases h
      exact ⟨_, rfl⟩
    · obtain h | ⟨-, h⟩ := Option.or_eq_some_iff.1 h
      · unfold cancellation? at h
        split at h
        · cases h
          exact ⟨_, rfl⟩
        · cases h
      · exact ih h

/-- A cycle goes through its calls exactly if nothing stops it. -/
theorem stop?_eq_none_iff : e.stop? made xs = none ↔ e.Undisturbed made xs := by
  unfold Undisturbed
  induction xs generalizing made with
  | nil => simp [stop?]
  | cons call rest ih =>
    have hfirst : e.stop? made (call :: rest) = none ↔ (e.calledOff made = false ∧
        ∀ detail, call ≠ some (.cancelled detail)) ∧ e.stop? (made + 1) rest = none := by
      rw [stop?, ← cancellation?_eq_none_iff]
      cases e.calledOff made <;> simp
    rw [hfirst, ih]
    constructor
    · rintro ⟨hcall, hrest⟩ i c hc
      cases i with
      | zero =>
        obtain rfl := Option.some.inj hc
        exact hcall
      | succ i =>
        rw [← Nat.add_assoc, Nat.add_right_comm]
        exact hrest i c hc
    · intro h
      refine ⟨h 0 call rfl, fun i c hc => ?_⟩
      rw [Nat.add_right_comm]
      exact h (i + 1) c hc

theorem podVisits_cons (job : JobId) (pod : Pod) (rest : List Pod) :
    e.podVisits names job (pod :: rest) =
      e.podVisits names job [pod] ++ e.podVisits names job rest := by
  rw [podVisits, ← List.singleton_append, List.filter_append, List.map_append]
  rfl

theorem podVisits_of_live (job : JobId) {pod : Pod} (h : pod.phase.isTerminal = false) :
    e.podVisits names job [pod] =
      if ((e.metric names.memoryMetric pod).toOption.isNone &&
        (e.metric names.utilizationMetric pod).toOption.isNone) = true then [] else [(job, pod)] := by
  rw [podVisits, List.filter_cons, isSampled, h]
  cases (e.metric names.memoryMetric pod).toOption <;>
    cases (e.metric names.utilizationMetric pod).toOption <;> rfl

theorem podCalls_cons (pod : Pod) (rest : List Pod) :
    e.podCalls names (pod :: rest) = e.podCalls names [pod] ++ e.podCalls names rest := by
  rw [podCalls, ← List.singleton_append, List.filter_append, List.flatMap_append]
  rfl

theorem visits_cons (j : Job) (rest : List Job) :
    e.visits names (j :: rest) = e.visits names [j] ++ e.visits names rest := by
  rw [visits, ← List.singleton_append, List.filter_append, List.flatMap_append]
  rfl

theorem calls_cons (j : Job) (rest : List Job) :
    e.calls names (j :: rest) = e.calls names [j] ++ e.calls names rest := by
  rw [calls, ← List.singleton_append, List.filter_append, List.flatMap_append]
  rfl

theorem fits_append {vs ws : List (JobId × Pod)} :
    e.Fits names (vs ++ ws) ↔ e.Fits names vs ∧ e.Fits names ws :=
  List.forall_mem_append

/-- If the sums over the samples of a pod do not overflow, it has its snapshots at any time. -/
theorem Fits.exists_snapshots {v : JobId × Pod} (h : e.Fits names [v]) (time : Instant) :
    ∃ rows, e.snapshots names v time = .ok rows := by
  obtain ⟨time', rows, hrows⟩ := h v (List.mem_singleton_self v)
  have hstamp := merge_stamp v.1 v.1 v.2 time' time
    ((e.metric names.memoryMetric v.2).toOption.getD [])
    ((e.metric names.utilizationMetric v.2).toOption.getD [])
  rw [← snapshots, ← snapshots, hrows] at hstamp
  exact ⟨_, hstamp⟩

variable {shown : Instant → Prop}

theorem batch_nil : e.Batch names shown [] [] := ⟨[], .nil, rfl⟩

theorem batch_singleton {v : JobId × Pod} {time : Instant} {rows : List Snapshot}
    (htime : shown time) (h : e.snapshots names v time = .ok rows) :
    e.Batch names shown [v] rows :=
  ⟨[rows], .cons ⟨time, htime, h⟩ .nil, (List.append_nil rows).symm⟩

theorem Batch.append {vs ws : List (JobId × Pod)} {batch others : List Snapshot}
    (h : e.Batch names shown vs batch) (h' : e.Batch names shown ws others) :
    e.Batch names shown (vs ++ ws) (batch ++ others) := by
  obtain ⟨found, hfound, rfl⟩ := h
  obtain ⟨found', hfound', rfl⟩ := h'
  exact ⟨found ++ found', List.rel_append hfound hfound', List.flatten_append.symm⟩

end Surroundings

/-! ## Telemetry in its surroundings -/

/-- A time that the clock shows in some state. -/
def Shows (t : Telemetry σ) (time : Instant) : Prop := ∃ s s', t.clock s = .ok time s'

/-- The collaborators behave like the surroundings; `made` counts their calls. -/
structure Faces (t : Telemetry σ) (p : Parts σ) (e : Surroundings) (made : σ → Nat) : Prop
    extends t.InMemory p where
  listed : ∃ cluster, t.cluster = some cluster ∧ ∀ name selector s, ∃ s',
    cluster name selector s = Action.ofExcept (e.pods name selector) s' ∧ made s' = made s + 1
  queried : ∃ backend, t.backend = some backend ∧ ∀ query time s, ∃ s',
    backend query time s = Action.ofExcept (e.samples query) s' ∧ made s' = made s + 1
  clockMade : ∀ s now s', t.clock s = .ok now s' → made s' = made s
  asked : ∀ s, ∃ s', t.calledOff s = .ok (e.calledOff (made s)) s' ∧ made s' = made s

/-- The action makes these calls, and breaks off at the first one that stops a cycle. If there is
none, it answers with something of the kind `R`. -/
def Goes (p : Parts σ) (e : Surroundings) (made : σ → Nat) (x : Action σ α) (s : σ)
    (calls : List (Option Error)) (R : α → Prop) : Prop :=
  match e.stop? (made s) calls with
  | some err => ∃ s', x s = .error (.error err) s' ∧ p.Same s s'
  | none => ∃ a s', x s = .ok a s' ∧ R a ∧ p.Same s s' ∧ made s' = made s + calls.length

section Goes
variable {t : Telemetry σ} {p : Parts σ} {e : Surroundings} {made : σ → Nat} {s : σ}
  {calls calls' : List (Option Error)} {R : α → Prop} {R' : β → Prop}

theorem goes_pure {a : α} (h : R a) : Goes p e made (pure a) s [] R :=
  ⟨a, s, rfl, h, .refl s, rfl⟩

theorem goes_bind {x : Action σ α} {f : α → Action σ β} (hx : Goes p e made x s calls R)
    (hf : ∀ a s', R a → Goes p e made (f a) s' calls' R') :
    Goes p e made (x >>= f) s (calls ++ calls') R' := by
  unfold Goes at hx ⊢
  rw [Surroundings.stop?_append]
  cases hstop : e.stop? (made s) calls with
  | some err =>
    rw [hstop] at hx
    obtain ⟨s', hrun, hsame⟩ := hx
    exact ⟨s', Action.bind_of_error hrun, hsame⟩
  | none =>
    rw [hstop] at hx
    obtain ⟨a, s', hrun, ha, hsame, hmade⟩ := hx
    have hrest := hf a s' ha
    unfold Goes at hrest
    rw [hmade] at hrest
    rw [Option.none_or]
    cases hstop' : e.stop? (made s + calls.length) calls' with
    | some err =>
      rw [hstop'] at hrest
      obtain ⟨s'', hrun', hsame'⟩ := hrest
      exact ⟨s'', (Action.bind_of_ok hrun).trans hrun', hsame.trans hsame'⟩
    | none =>
      rw [hstop'] at hrest
      obtain ⟨b, s'', hrun', hb, hsame', hmade'⟩ := hrest
      refine ⟨b, s'', (Action.bind_of_ok hrun).trans hrun', hb, hsame.trans hsame', ?_⟩
      rw [hmade', List.length_append, Nat.add_assoc]

theorem after_of_reply {x : Action σ α} {r : Except Error α} {s' : σ}
    (h : x s = Action.ofExcept r s') : x.after s = s' := by
  cases r with
  | ok a => exact Action.after_of_ok h
  | error err => exact Action.after_of_error h

/-- A call that is not called off costs no more than its answer if it fails. -/
theorem ask_of_call {x : Action σ α} {r : Except Error α} {s' : σ}
    (hcall : t.call x s = Action.ofExcept r s') (hkept : ∀ detail, r ≠ .error (.cancelled detail)) :
    t.ask x s = .ok r.toOption s' := by
  cases r with
  | ok a => exact Action.bind_of_ok (Action.attempt_of_ok hcall)
  | error err =>
    refine (Action.bind_of_ok (Action.attempt_of_error hcall)).trans ?_
    cases err with
    | cancelled detail => exact absurd rfl (hkept detail)
    | _ => rfl

/-- A call whose failure costs no more than its answer. -/
theorem goes_ask (h : t.Faces p e made) {x : Action σ α} {r : Except Error α}
    (hx : ∀ s, ∃ s', x s = Action.ofExcept r s' ∧ p.Same s s' ∧ made s' = made s + 1) :
    Goes p e made (t.ask x) s [failure? r] (· = r.toOption) := by
  obtain ⟨s₁, hoff, hmade⟩ := h.asked s
  have hsame := h.same_of_calledOff hoff
  obtain ⟨s₂, hrun, hsame', hmade'⟩ := hx s₁
  have hmade'' : made s₂ = made s + 1 := hmade ▸ hmade'
  rw [Goes, Surroundings.stop?]
  cases hcalled : e.calledOff (made s) with
  | true =>
    rw [hcalled] at hoff
    have hcall : t.call x s = .error (.error .cycleCalledOff) s₁ := Action.bind_of_ok hoff
    exact ⟨s₁, Action.bind_of_ok (Action.attempt_of_error hcall), hsame⟩
  | false =>
    rw [hcalled] at hoff
    have hcall : t.call x s = Action.ofExcept r s₂ := (Action.bind_of_ok hoff).trans hrun
    have hboth := hsame.trans hsame'
    cases r with
    | ok a => exact ⟨some a, s₂, ask_of_call hcall nofun, rfl, hboth, hmade''⟩
    | error err =>
      cases err with
      | cancelled detail =>
        exact ⟨s₂, Action.bind_of_ok (Action.attempt_of_error hcall), hboth⟩
      | _ => exact ⟨none, s₂, ask_of_call hcall nofun, rfl, hboth, hmade''⟩

/-! ## Pods and jobs -/

section Sampling
variable (h : t.Faces p e made) {backend : Metrics.Backend σ} {cluster : Cluster σ}
  (hbackend : t.backend = some backend) (hcluster : t.cluster = some cluster)
include h

theorem goes_clock (s : σ) : Goes p e made t.clock s [] t.Shows := by
  obtain ⟨now, s', hclock, -, hsame⟩ := h.clock s
  exact ⟨now, s', hclock, ⟨s, s', hclock⟩, hsame, h.clockMade s now s' hclock⟩

include hcluster in
theorem goes_listing (j : Job) (s : σ) :
    Goes p e made (t.ask (cluster j.namespaceName (t.selectorOf j.id))) s
      [failure? (e.listing t.names j)] (· = (e.listing t.names j).toOption) := by
  refine goes_ask h fun s => ?_
  obtain ⟨cluster', hcluster', hlist⟩ := h.listed
  obtain rfl : cluster = cluster' := Option.some.inj (hcluster.symm.trans hcluster')
  obtain ⟨s', hrun, hmade⟩ := hlist j.namespaceName (t.selectorOf j.id) s
  have hsame := h.cluster cluster hcluster j.namespaceName (t.selectorOf j.id) s
  rw [after_of_reply hrun] at hsame
  exact ⟨s', hrun, hsame, hmade⟩

include hbackend

theorem goes_samplesOf (name : String) (pod : Pod) (time : Instant) (s : σ) :
    Goes p e made (t.samplesOf backend name pod time) s [failure? (e.metric name pod)]
      (· = (e.metric name pod).toOption) := by
  refine goes_ask h fun s => ?_
  obtain ⟨backend', hbackend', hquery⟩ := h.queried
  obtain rfl : backend = backend' := Option.some.inj (hbackend.symm.trans hbackend')
  obtain ⟨s', hrun, hmade⟩ := hquery (Metrics.podQuery name pod.namespaceName pod.name) time s
  have hsame := h.backend backend hbackend (Metrics.podQuery name pod.namespaceName pod.name) time s
  rw [after_of_reply hrun] at hsame
  exact ⟨s', hrun, hsame, hmade⟩

theorem goes_samplePod (job : JobId) (pod : Pod) (s : σ)
    (hfits : e.Fits t.names (e.podVisits t.names job [pod])) :
    Goes p e made (t.samplePod backend job pod) s (e.podCalls t.names [pod])
      (e.Batch t.names t.Shows (e.podVisits t.names job [pod])) := by
  unfold samplePod
  cases hterm : pod.phase.isTerminal with
  | true =>
    have hcalls : e.podCalls t.names [pod] = [] := by simp [Surroundings.podCalls, hterm]
    have hvisits : e.podVisits t.names job [pod] = [] := by
      simp [Surroundings.podVisits, Surroundings.isSampled, hterm]
    rw [hcalls, hvisits]
    exact goes_pure Surroundings.batch_nil
  | false =>
    have hcalls : e.podCalls t.names [pod] = [] ++ ([failure? (e.metric t.names.memoryMetric pod)] ++
        ([failure? (e.metric t.names.utilizationMetric pod)] ++ [])) := by
      simp [Surroundings.podCalls, hterm]
    rw [hcalls, if_neg Bool.false_ne_true]
    refine goes_bind (goes_clock h s) fun time s₁ htime => ?_
    refine goes_bind (goes_samplesOf h hbackend _ pod time s₁) fun memory s₂ hmemory => ?_
    refine goes_bind (goes_samplesOf h hbackend _ pod time s₂) fun utilization s₃ hutilization => ?_
    subst hmemory hutilization
    rw [Surroundings.podVisits_of_live job hterm] at hfits ⊢
    split_ifs at hfits ⊢
    · exact goes_pure Surroundings.batch_nil
    · obtain ⟨rows, hrows⟩ := hfits.exists_snapshots time
      have hmerge : merge job pod time _ _ = .ok rows := hrows
      rw [hmerge]
      exact goes_pure (Surroundings.batch_singleton htime hrows)

theorem goes_samplePods (job : JobId) (pods : List Pod) (s : σ)
    (hfits : e.Fits t.names (e.podVisits t.names job pods)) :
    Goes p e made (t.samplePods backend job pods) s (e.podCalls t.names pods)
      (e.Batch t.names t.Shows (e.podVisits t.names job pods)) := by
  induction pods generalizing s with
  | nil => exact goes_pure Surroundings.batch_nil
  | cons pod rest ih =>
    rw [Surroundings.podVisits_cons, Surroundings.fits_append] at hfits
    rw [Surroundings.podVisits_cons, Surroundings.podCalls_cons]
    refine goes_bind (goes_samplePod h hbackend job pod s hfits.1) fun first s₁ hfirst => ?_
    rw [← List.append_nil (e.podCalls t.names rest)]
    exact goes_bind (ih s₁ hfits.2) fun others s₂ hothers => goes_pure (hfirst.append hothers)

include hcluster

theorem goes_sampleJob (j : Job) (s : σ) (hfits : e.Fits t.names (e.visits t.names [j])) :
    Goes p e made (t.sampleJob backend cluster j) s (e.calls t.names [j])
      (e.Batch t.names t.Shows (e.visits t.names [j])) := by
  unfold sampleJob
  by_cases hname : j.namespaceName = ""
  · have hcalls : e.calls t.names [j] = [] := by simp [Surroundings.calls, hname]
    have hvisits : e.visits t.names [j] = [] := by simp [Surroundings.visits, hname]
    rw [if_pos hname, hcalls, hvisits]
    exact goes_pure Surroundings.batch_nil
  · have hcalls : e.calls t.names [j] = [failure? (e.listing t.names j)] ++
        e.podCalls t.names ((e.listing t.names j).toOption.getD []) := by
      simp [Surroundings.calls, hname]
    have hvisits : e.visits t.names [j] =
        e.podVisits t.names j.id ((e.listing t.names j).toOption.getD []) := by
      simp [Surroundings.visits, hname]
    rw [hvisits] at hfits ⊢
    rw [if_neg hname, hcalls]
    refine goes_bind (goes_listing h hcluster j s) fun listed s₁ hlisted => ?_
    subst hlisted
    cases hlisted : (e.listing t.names j).toOption with
    | none => exact goes_pure Surroundings.batch_nil
    | some pods =>
      rw [hlisted] at hfits
      exact goes_samplePods h hbackend j.id pods s₁ hfits

theorem goes_sampleJobs (jobs : List Job) (s : σ) (hfits : e.Fits t.names (e.visits t.names jobs)) :
    Goes p e made (t.sampleJobs backend cluster jobs) s (e.calls t.names jobs)
      (e.Batch t.names t.Shows (e.visits t.names jobs)) := by
  induction jobs generalizing s with
  | nil => exact goes_pure Surroundings.batch_nil
  | cons j rest ih =>
    rw [Surroundings.visits_cons, Surroundings.fits_append] at hfits
    rw [Surroundings.visits_cons, Surroundings.calls_cons]
    refine goes_bind (goes_sampleJob h hbackend hcluster j s hfits.1) fun first s₁ hfirst => ?_
    rw [← List.append_nil (e.calls t.names rest)]
    exact goes_bind (ih s₁ hfits.2) fun others s₂ hothers => goes_pure (hfirst.append hothers)

end Sampling

end Goes

end GpuCluster.Telemetry
