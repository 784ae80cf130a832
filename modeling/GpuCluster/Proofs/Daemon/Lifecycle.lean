import GpuCluster.Proofs.Daemon.Conservation
import GpuCluster.Proofs.Executor.Tracking
import GpuCluster.Proofs.Job.Lifecycle

/-!
# The life of jobs in a daemon

The queue, the stored jobs and the executors change one after the other, and agree after every
event.

* `Daemon.Tracked` : an executor tracks only jobs that have left the queue, and all running ones;
* `Checked.tracked`, `dispatchNext_tracked`, ... : every operation keeps this, and stored jobs only
  move through their lives;
* `Step.alive` : so does every event;
* `lifecycle_invariant` : the queue, the executors, the times and the reasons in every reachable
  state, and the later life of every stored job.
-/

namespace GpuCluster

theorem Job.IsNew.coherent {j : Job} (h : j.IsNew) : j.Coherent := by
  rw [Job.Coherent, h.pending]
  exact ⟨h.notStarted, h.notCompleted, h.noError⟩

theorem Job.IsNew.timely {T : Instant → Prop} {j : Job} (h : j.IsNew) : j.Timely T where
  started a ha := by
    rw [h.notStarted] at ha
    cases ha
  ordered a b ha hb := by
    rw [h.notStarted] at ha
    cases ha

/-- Every stored job comes from one that was stored before, or from a new one. -/
def Job.Archive.Extends (T : Instant → Prop) (a b : Job.Archive) : Prop :=
  ∀ k ∈ b.toList, ∃ j, (j ∈ a.toList ∨ (j.IsNew ∧ j.id ∉ a.toList.map (·.id))) ∧ j.Evolves T k

theorem Job.Archive.Unfolds.extends {T : Instant → Prop} {a b : Job.Archive} (h : a.Unfolds T b) :
    a.Extends T b := by
  intro k hk
  obtain ⟨j, hj, hjk⟩ := h k hk
  exact ⟨j, .inl hj, hjk⟩

theorem Job.Archive.Extends.mono {T U : Instant → Prop} {a b : Job.Archive} (h : a.Extends T b)
    (hTU : ∀ now, T now → U now) : a.Extends U b := by
  intro k hk
  obtain ⟨j, hj, hjk⟩ := h k hk
  exact ⟨j, hj, hjk.mono hTU⟩

namespace Daemon

variable {ε : Type} {on : ε → String → JobId → Prop} {a b : Job.Archive} {e e' : ε} {j : Job}
  {now : Instant} {status : JobStatus} {reason : Option String} {id : JobId}

/-- An executor tracks only stored jobs that are not pending any more, and the executor of its type
tracks every running job. -/
structure Tracked (on : ε → String → JobId → Prop) (a : Job.Archive) (e : ε) : Prop where
  known : ∀ jobType id, on e jobType id → ∃ j ∈ a.toList, j.id = id ∧ j.status ≠ .pending
  running : ∀ j ∈ a.toList, j.status = .running → on e j.jobType j.id

theorem Tracked.congr (h : Tracked on a e) (he : ∀ jobType id, on e' jobType id ↔ on e jobType id) :
    Tracked on a e' where
  known jobType id hon := h.known jobType id ((he jobType id).1 hon)
  running j hj hs := (he j.jobType j.id).2 (h.running j hj hs)

/-- A job that ends may stay tracked. -/
theorem Tracked.ends (h : Tracked on a e) (ha : a.Indexed) (hp : status ≠ .pending)
    (hr : status ≠ .running) : Tracked on (a.modify id (Job.advance now status reason)) e where
  known jobType i hon := by
    obtain ⟨k, hk, rfl, hs⟩ := h.known jobType i hon
    refine ⟨_, ha.mem_modify.2 ⟨k, hk, rfl⟩, ?_, ?_⟩
    · split <;> rfl
    · split
      next => exact hp
      next => exact hs
  running k hk hs := by
    obtain ⟨i, hi, rfl⟩ := ha.mem_modify.1 hk
    split at hs
    next => exact absurd hs hr
    next hne =>
      rw [if_neg hne]
      exact h.running i hi hs

/-- A job that is not running may be released. -/
theorem Tracked.release (h : Tracked on a e)
    (he : ∀ jobType id, on e' jobType id ↔ on e jobType id ∧ ¬ (jobType = j.jobType ∧ id = j.id))
    (hj : ∀ k ∈ a.toList, k.id = j.id → k.status ≠ .running) : Tracked on a e' where
  known jobType id hon := h.known jobType id ((he jobType id).1 hon).1
  running k hk hs := by
    refine (he k.jobType k.id).2 ⟨h.running k hk hs, ?_⟩
    rintro ⟨-, hid⟩
    exact hj k hk hid hs

/-- A job that is launched is tracked by the executor of its type and runs. -/
theorem Tracked.starts (h : Tracked on a e) (ha : a.Indexed) (hj : j ∈ a.toList)
    (he : ∀ jobType id, on e' jobType id ↔ on e jobType id ∨ (jobType = j.jobType ∧ id = j.id)) :
    Tracked on (a.modify j.id (Job.advance now .running reason)) e' where
  known jobType i hon := by
    have hrecord : ∀ k ∈ a.toList, k.id = j.id ∨ k.status ≠ .pending →
        ∃ k' ∈ (a.modify j.id (Job.advance now .running reason)).toList,
          k'.id = k.id ∧ k'.status ≠ .pending := by
      intro k hk hs
      refine ⟨_, ha.mem_modify.2 ⟨k, hk, rfl⟩, ?_, ?_⟩
      · split <;> rfl
      · split
        next => exact nofun
        next hne => exact hs.resolve_left hne
    rcases (he jobType i).1 hon with hold | ⟨-, rfl⟩
    · obtain ⟨k, hk, rfl, hs⟩ := h.known jobType i hold
      exact hrecord k hk (.inr hs)
    · exact hrecord j hj (.inl rfl)
  running k hk hs := by
    obtain ⟨i, hi, rfl⟩ := ha.mem_modify.1 hk
    by_cases hid : i.id = j.id
    · obtain rfl := ha.eq_of_id hi hj hid
      rw [if_pos rfl]
      exact (he _ _).2 (.inr ⟨rfl, rfl⟩)
    · rw [if_neg hid] at hs ⊢
      exact (he _ _).2 (.inl (h.running i hi hs))

theorem Tracked.add (h : Tracked on a e) (hj : j.status = .pending) (hab : a.add j = .ok b) :
    Tracked on b e where
  known jobType id hon := by
    obtain ⟨k, hk, hrest⟩ := h.known jobType id hon
    exact ⟨k, by rw [Job.Archive.toList_add hab]; exact List.mem_append_left _ hk, hrest⟩
  running k hk hs := by
    rw [Job.Archive.toList_add hab, List.mem_append, List.mem_singleton] at hk
    rcases hk with hk | rfl
    · exact h.running k hk hs
    · rw [hj] at hs
      cases hs

theorem Tracked.departs {xs : List Job.Departure} (h : Tracked on a e) (ha : a.Indexed)
    (hd : Job.Archive.Departs now a xs b)
    (hx : ∀ x ∈ xs, x.status ≠ .pending ∧ x.status ≠ .running) : Tracked on b e := by
  induction hd with
  | nil => exact h
  | @cons a b x xs j _ _ _ ih =>
    obtain ⟨hp, hr⟩ := hx x List.mem_cons_self
    exact ih (h.ends ha hp hr) (ha.modify fun _ => Job.id_advance ..)
      fun y hy => hx y (List.mem_cons_of_mem _ hy)

/-! ## Operations -/

variable {p : Plan ε} {d d' : Daemon ε}

theorem Checked.tracked {r : Option Reconcile.Finished} (hreg : p.registry.Tracks on)
    (hd : d.jobs.Indexed) (ht : Tracked on d.jobs d.executors) (h : Checked p now j d r d') :
    d'.jobs.Indexed ∧ Tracked on d'.jobs d'.executors ∧ d.jobs.Unfolds (· = now) d'.jobs := by
  cases h with
  | unchanged asked =>
    obtain ⟨rfl, -⟩ := hreg.status asked
    exact ⟨hd, ht, .refl _ _⟩
  | @departed status k e e' asked terminal found running released =>
    obtain ⟨rfl, hfinal⟩ := hreg.status asked
    have hends : status ≠ .pending ∧ status ≠ .running ∧
        Job.Advances now k (k.advance now status (Reconcile.reasonFor status)) := by
      rcases hfinal status rfl terminal with rfl | rfl
      · exact ⟨nofun, nofun, .complete running⟩
      · exact ⟨nofun, nofun, .fail running⟩
    obtain ⟨hp, hr, hadv⟩ := hends
    refine ⟨hd.modify fun _ => Job.id_advance .., ?_, hd.unfolds_of_find? found (.single hadv rfl)⟩
    refine (ht.ends hd hp hr).release (hreg.release released) fun i hi hid => ?_
    obtain ⟨k', -, rfl⟩ := hd.mem_modify.1 hi
    split at hid
    next heq =>
      rw [if_pos heq]
      exact hr
    next hne => exact absurd hid hne
  | @late status k e e' asked terminal found notRunning released =>
    obtain ⟨rfl, -⟩ := hreg.status asked
    refine ⟨hd, ht.release (hreg.release released) fun i hi hid => ?_, .refl _ _⟩
    obtain ⟨hk, hkid⟩ := hd.find?_eq_some_iff.1 found
    rw [hd.eq_of_id hi hk (hid.trans hkid.symm)]
    exact notRunning

theorem reconcile_tracked {fs : List Reconcile.Finished} (hreg : p.registry.Tracks on)
    (hd : d.jobs.Indexed) (ht : Tracked on d.jobs d.executors)
    (h : reconcile p now d = .ok fs d') :
    Tracked on d'.jobs d'.executors ∧ d.jobs.Unfolds (· = now) d'.jobs := by
  obtain ⟨js, u, hread, hall⟩ := Action.bind_ok.1 h
  obtain rfl := (Action.reads_zoom jobsPart_lawful
    (Job.Archive.withStatus_reads [.running])).eq_of_ok hread
  clear h hread
  -- The pass goes through the jobs that were running when it began.
  induction js generalizing u fs with
  | nil =>
    obtain ⟨-, rfl⟩ := Action.pure_ok.1 hall
    exact ⟨ht, .refl _ _⟩
  | cons j rest ih =>
    obtain ⟨r, v, hc, hrest⟩ := Action.bind_ok.1 hall
    obtain ⟨gs, w, hothers, hp⟩ := Action.bind_ok.1 hrest
    obtain ⟨-, rfl⟩ := Action.pure_ok.1 hp
    obtain ⟨hi, ht', hunfold⟩ := (check_ok hc).tracked hreg hd ht
    obtain ⟨htrack, hunfold'⟩ := ih v hothers hi ht'
    exact ⟨htrack, hunfold.trans hunfold'⟩

theorem dispatchNext_tracked {outcome : Option Dispatcher.Outcome} (hreg : p.registry.Tracks on)
    (hq : d.dispatcher.queue.Backed d.jobs) (ht : Tracked on d.jobs d.executors)
    (h : dispatchNext p now d = .ok outcome d') :
    Tracked on d'.jobs d'.executors ∧ d.jobs.Unfolds (· = now) d'.jobs := by
  cases dispatchNext_ok h with
  | idle => exact ⟨ht, .refl _ _⟩
  | @handed j queue answer e popped launched =>
    obtain ⟨-, hmem, hpending, -⟩ := hq.pop popped
    have hi := hq.indexed
    have hf := hi.find?_of_mem hmem
    dsimp only
    rcases hreg.launch launched with ⟨rfl, hon⟩ | ⟨err, rfl, hon, -⟩
    · exact ⟨ht.starts hi hmem hon, hi.unfolds_of_find? hf (.single (.start hpending) rfl)⟩
    · rcases Dispatcher.outcomeOf_cases j (.error err) with ⟨h, -⟩ | ⟨_, -, ho⟩ | ⟨_, -, ho⟩
      · cases h
      · rw [ho]
        exact ⟨(ht.congr hon).ends hi nofun nofun,
          hi.unfolds_of_find? hf (.single (.refuse hpending) rfl)⟩
      · rw [ho]
        exact ⟨ht.congr hon, .refl _ _⟩

/-- A job that is admitted is stored as it comes, then others may be preempted. -/
theorem submit_jobs {answer : Except Refusal Unit} (hp : p.IsBuilt) (hd : d.jobs.Indexed)
    (h : submit p now j d = .ok answer d') :
    d'.executors = d.executors ∧ (d'.jobs = d.jobs ∨ ∃ a ids reason, d.jobs.add j = .ok a ∧
      Job.Archive.Departs now a (Preemption.departures reason ids) d'.jobs) := by
  cases submit_ok h with
  | rejected => exact ⟨rfl, .inl rfl⟩
  | notStored reserved released =>
    obtain ⟨_, rfl⟩ := release_quotas released
    exact ⟨rfl, .inl rfl⟩
  | @admitted t a d' reserved stored room =>
    obtain ⟨ids, reason, b, hdep, hrel⟩ := makeRoomFor_ok hp (hd.add stored) room
    obtain ⟨_, rfl⟩ := releaseAll_quotas hrel
    exact ⟨rfl, .inr ⟨a, ids, reason, stored, hdep⟩⟩

theorem submit_tracked {answer : Except Refusal Unit} (hp : p.IsBuilt) (hd : d.jobs.Indexed)
    (ht : Tracked on d.jobs d.executors) (hj : j.IsNew) (h : submit p now j d = .ok answer d') :
    Tracked on d'.jobs d'.executors ∧ d.jobs.Extends (· = now) d'.jobs := by
  obtain ⟨he, hjobs | ⟨a, ids, reason, hadd, hdep⟩⟩ := submit_jobs hp hd h
  · rw [he, hjobs]
    exact ⟨ht, (Job.Archive.Unfolds.refl _ _).extends⟩
  have hpreempted : ∀ x ∈ Preemption.departures reason ids,
      x.status = .preempted ∧ x.reason = some reason := by
    intro x hx
    obtain ⟨id, -, rfl⟩ := List.mem_map.1 hx
    exact ⟨rfl, rfl⟩
  have hindexed : a.Indexed := hd.add hadd
  refine ⟨?_, fun k hk => ?_⟩
  · rw [he]
    refine (ht.add hj.pending hadd).departs hindexed hdep fun x hx => ?_
    rw [(hpreempted x hx).1]
    exact ⟨nofun, nofun⟩
  · have hunfolds : a.Unfolds (· = now) d'.jobs := by
      refine hdep.unfolds hindexed fun x hx i hi => ?_
      obtain ⟨hs, hr⟩ := hpreempted x hx
      rw [hs, hr]
      exact .preempt hi
    obtain ⟨i, hi, hik⟩ := hunfolds k hk
    refine ⟨i, ?_, hik⟩
    rw [Job.Archive.toList_add hadd, List.mem_append, List.mem_singleton] at hi
    rcases hi with hi | rfl
    · exact .inl hi
    · refine .inr ⟨hj, fun hmem => ?_⟩
      obtain ⟨k', hk', hid⟩ := List.mem_map.1 hmem
      exact hd.ne_of_add hadd k' hk' hid

end Daemon

namespace Session

open Daemon (Plan Tracked)

/-! ## Events -/

variable {ε : Type} {inService : Plan ε → Prop} {drift : ε → ε → Prop} {s t : Session ε}
  {e : Event} {es : List Event} {on : ε → String → JobId → Prop}

/-- The queue, the stored jobs and the executors agree. -/
structure Alive (on : ε → String → JobId → Prop) (s : Session ε) : Prop where
  upright : s.Upright
  tracked : Tracked on s.daemon.jobs s.daemon.executors

/-- The plans in service are built, their executors track what `on` says, and nothing that drifts
changes what is tracked. -/
structure Tracking (on : ε → String → JobId → Prop) (inService : Plan ε → Prop)
    (drift : ε → ε → Prop) : Prop where
  built : ∀ p, inService p → p.IsBuilt
  tracks : ∀ p, inService p → p.registry.Tracks on
  drifts : ∀ {x y}, drift x y → ∀ jobType id, on y jobType id ↔ on x jobType id

theorem Step.alive (w : Tracking on inService drift) (h : s.Alive on)
    (hstep : Step inService drift s e t) :
    t.Alive on ∧ s.daemon.jobs.Extends (fun now => e.time? = some now) t.daemon.jobs := by
  have hup := (hstep.upright w.built h.upright).1
  have hi := h.upright.balanced.indexed
  have hsame := (Job.Archive.Unfolds.refl (fun now => e.time? = some now) s.daemon.jobs).extends
  cases hstep with
  | total set =>
    rw [Daemon.quotaStore, Quota.Store.within_setTotal Daemon.quotasPart_lawful] at set
    obtain ⟨_, -, rfl⟩ := Action.attempt_zoom_ok.1 set
    exact ⟨⟨hup, h.tracked⟩, hsame⟩
  | reading m => exact ⟨⟨hup, h.tracked⟩, hsame⟩
  | submit plan new submitted =>
    obtain ⟨ht, hext⟩ := Daemon.submit_tracked (w.built _ plan) hi h.tracked new submitted
    exact ⟨⟨hup, ht⟩, hext.mono fun _ heq => congrArg some heq.symm⟩
  | dispatch plan dispatched =>
    obtain ⟨ht, hunfold⟩ :=
      Daemon.dispatchNext_tracked (w.tracks _ plan) h.upright.backed h.tracked dispatched
    exact ⟨⟨hup, ht⟩, hunfold.extends.mono fun _ heq => congrArg some heq.symm⟩
  | reconcile plan reconciled =>
    obtain ⟨ht, hunfold⟩ := Daemon.reconcile_tracked (w.tracks _ plan) hi h.tracked reconciled
    exact ⟨⟨hup, ht⟩, hunfold.extends.mono fun _ heq => congrArg some heq.symm⟩
  | deliver reported delivered =>
    obtain ⟨_, rfl, -⟩ := deliver_balanced h.upright reported delivered
    exact ⟨⟨hup, h.tracked⟩, hsame⟩
  | drift drifts => exact ⟨⟨hup, h.tracked.congr (w.drifts drifts)⟩, hsame⟩

/-! ## The events so far -/

/-- The times of some events. -/
def times (es : List Event) : List Instant := es.filterMap Event.time?

theorem times_concat (es : List Event) (e : Event) :
    times (es ++ [e]) = times es ++ e.time?.toList := by
  rw [times, List.filterMap_append, List.filterMap_cons, times]
  cases e.time? <;> rfl

/-- Sessions that are alive have coherent records, and timely ones if the clock never went back. -/
structure Lives (on : ε → String → JobId → Prop) (es : List Event) (s : Session ε) : Prop where
  alive : s.Alive on
  coherent : ∀ j ∈ s.daemon.jobs.toList, j.Coherent
  timely : (times es).Pairwise (· ≤ ·) → ∀ j ∈ s.daemon.jobs.toList, j.Timely (· ∈ times es)

theorem Lives.step (w : Tracking on inService drift) (h : Lives on es s)
    (hstep : Step inService drift s e t) : Lives on (es ++ [e]) t := by
  obtain ⟨halive, hext⟩ := hstep.alive w h.alive
  have hstart : ∀ j, j ∈ s.daemon.jobs.toList ∨
      (j.IsNew ∧ j.id ∉ s.daemon.jobs.toList.map (·.id)) → j.Coherent := by
    rintro j (hj | ⟨hnew, -⟩)
    · exact h.coherent j hj
    · exact hnew.coherent
  refine ⟨halive, fun k hk => ?_, fun hsorted k hk => ?_⟩
  · obtain ⟨j, hj, hjk⟩ := hext k hk
    exact hjk.coherent (hstart j hj)
  · rw [times_concat] at hsorted ⊢
    obtain ⟨hbefore, -, hlast⟩ := List.pairwise_append.1 hsorted
    obtain ⟨j, hj, hjk⟩ := hext k hk
    have htimely : j.Timely (· ∈ times es ++ e.time?.toList) := by
      rcases hj with hj | ⟨hnew, -⟩
      · exact (h.timely hbefore j hj).mono fun _ ha => List.mem_append_left _ ha
      · exact hnew.timely
    cases htime : e.time? with
    | none =>
      -- Nothing happens at no time.
      rw [htime] at hjk
      obtain rfl := hjk.eq_of_never nofun
      rw [htime] at htimely
      exact htimely
    | some now =>
      rw [htime] at hjk htimely hlast
      have hnow := List.mem_singleton_self now
      refine (hjk.mono fun _ heq => (Option.some.inj heq).symm).timely (hstart j hj) htimely
        (List.mem_append_right _ hnow) fun a ha => ?_
      rcases List.mem_append.1 ha with ha | ha
      · exact hlast a ha now hnow
      · exact List.mem_singleton.1 ha ▸ Instant.le_refl now

/-- Jobs that are stored stay stored, and move through their lives. -/
theorem Step.follows (w : Tracking on inService drift) (h : s.Alive on)
    (hstep : Step inService drift s e t) :
    ∀ j ∈ s.daemon.jobs.toList, ∃ k ∈ t.daemon.jobs.toList,
      j.Evolves (fun now => e.time? = some now) k := by
  intro j hj
  obtain ⟨-, hext⟩ := hstep.alive w h
  obtain ⟨-, -, hids⟩ := hstep.upright w.built h.upright
  have hstored : j.id ∈ t.daemon.jobs.toList.map (·.id) := by
    rw [hids]
    exact List.mem_append_left _ (List.mem_map_of_mem hj)
  obtain ⟨k, hk, hid⟩ := List.mem_map.1 hstored
  obtain ⟨i, hi | ⟨-, hnot⟩, hik⟩ := hext k hk
  · obtain rfl := h.upright.balanced.indexed.eq_of_id hi hj (hik.id_eq.symm.trans hid)
    exact ⟨k, hk, hik⟩
  · rw [← hik.id_eq, hid] at hnot
    exact absurd (List.mem_map_of_mem hj) hnot

theorem Alive.follows {fs : List Event} (w : Tracking on inService drift) (h : s.Alive on)
    (hrun : Run inService drift s fs t) :
    ∀ j ∈ s.daemon.jobs.toList, ∃ k ∈ t.daemon.jobs.toList, j.Evolves (· ∈ times fs) k := by
  have hboth : t.Alive on ∧ ∀ j ∈ s.daemon.jobs.toList, ∃ k ∈ t.daemon.jobs.toList,
      j.Evolves (· ∈ times fs) k := by
    refine hrun.invariant (I := fun fs t => t.Alive on ∧ ∀ j ∈ s.daemon.jobs.toList,
      ∃ k ∈ t.daemon.jobs.toList, j.Evolves (· ∈ times fs) k)
      ⟨h, fun j hj => ⟨j, hj, .refl⟩⟩ fun es e u v hu hstep => ?_
    refine ⟨(hstep.alive w hu.1).1, fun j hj => ?_⟩
    obtain ⟨i, hi, hji⟩ := hu.2 j hj
    obtain ⟨k, hk, hik⟩ := hstep.follows w hu.1 i hi
    refine ⟨k, hk, (hji.mono fun a ha => ?_).trans (hik.mono fun a ha => ?_)⟩
    · rw [times_concat]
      exact List.mem_append_left _ ha
    · rw [times_concat, ha]
      exact List.mem_append_right _ (List.mem_singleton_self a)
  exact hboth.2

end Session

/-! ## Executors of a machine -/

open Simulation (LocalExecutors)

theorem Daemon.build_registry {ε : Type} {settings : Settings}
    {registry : Executor.Registry (Executor ε)} {cluster : Option (Cluster (Daemon ε))}
    {p : Daemon.Plan ε} (h : Daemon.build settings registry cluster = .ok p) :
    p.registry = registry := by
  unfold Daemon.build at h
  split at h
  next => cases h
  next =>
    cases h
    rfl

/-- The plan of a daemon that was built with the executors of a machine. -/
def Daemon.Plan.IsOn (m : Machine) (p : Daemon.Plan LocalExecutors) : Prop :=
  ∃ directory settings cluster,
    Daemon.build settings (LocalExecutors.registryOn m directory) cluster = .ok p

/-- The plan of a daemon that was built with the executors of some machine. -/
def Daemon.Plan.IsLocal (p : Daemon.Plan LocalExecutors) : Prop := ∃ m, p.IsOn m

theorem Daemon.Plan.IsLocal.tracks {p : Daemon.Plan LocalExecutors} (h : p.IsLocal) :
    p.registry.Tracks LocalExecutors.tracks := by
  obtain ⟨m, directory, settings, cluster, hb⟩ := h
  rw [Daemon.build_registry hb]
  exact LocalExecutors.registryOn_tracks m directory

theorem Daemon.Plan.IsOn.answers {m : Machine} {p : Daemon.Plan LocalExecutors} (h : p.IsOn m)
    {P : Except Error JobStatus → Prop} (hm : m.Answers P) :
    p.registry.Answers LocalExecutors.tracks P := by
  obtain ⟨directory, settings, cluster, hb⟩ := h
  rw [Daemon.build_registry hb]
  exact LocalExecutors.registryOn_answers hm directory

namespace Session

open Daemon (Plan Tracked)

variable {s : Session LocalExecutors} {es : List Event}

theorem tracking_local : Tracking LocalExecutors.tracks Plan.IsLocal LocalExecutors.Drifts where
  built _ := fun ⟨_, _, settings, cluster, hb⟩ => ⟨settings, _, cluster, hb⟩
  tracks _ hp := hp.tracks
  drifts hd _ _ := hd.tracks_iff

theorem alive_fresh : (fresh ({} : LocalExecutors)).Alive LocalExecutors.tracks where
  upright := upright_fresh _
  tracked :=
    { known := by
        rintro jobType id (⟨-, h⟩ | ⟨-, h⟩)
        · cases h
        · cases h
      running := fun _ hj => absurd hj List.not_mem_nil }

theorem lives_of_run (h : Run Plan.IsLocal LocalExecutors.Drifts (fresh {}) es s) :
    Lives LocalExecutors.tracks es s := by
  refine h.invariant ⟨alive_fresh, ?_, ?_⟩ fun _ _ _ _ hl hstep => ?_
  · exact fun _ hj => absurd hj List.not_mem_nil
  · exact fun _ _ hj => absurd hj List.not_mem_nil
  · exact hl.step tracking_local hstep

/-- In every reachable state the waiting jobs are distinct, stored, pending and tracked by no
executor, which therefore never refuses one as launched already; a running job is tracked by the
executor of its type, which therefore answers for it, as long as the machine tells whether a process
has ended, and otherwise passes on the error of the machine; and the times and the reason in a
record are those of its status, in order unless the clock went back. From there on every stored job
stays stored and moves through its life only, keeping its start, and its end once it has ended. -/
theorem lifecycle_invariant (h : Run Plan.IsLocal LocalExecutors.Drifts (fresh {}) es s) :
    ((s.daemon.dispatcher.queue.waiting.map (·.id)).Nodup ∧
      ∀ j ∈ s.daemon.dispatcher.queue.waiting,
        j ∈ s.daemon.jobs.toList ∧ j.status = .pending ∧
        (∀ jobType, ¬ s.daemon.executors.tracks jobType j.id) ∧
        ∀ (p : Plan LocalExecutors) answer e, p.IsLocal →
          Action.attempt (p.registry.execute j) s.daemon.executors = .ok answer e →
          answer ≠ .error (.alreadyLaunched j.id)) ∧
    (∀ j ∈ s.daemon.jobs.toList, j.status = .running →
      s.daemon.executors.tracks j.jobType j.id ∧
      ∀ (m : Machine) (p : Plan LocalExecutors), p.IsOn m →
        (∃ answer, Action.attempt (p.registry.status j) s.daemon.executors =
          .ok answer s.daemon.executors ∧ ∀ e, answer = .error e → ∃ reason, e = .io reason) ∧
        ((∀ id q, m.waitError? id q = none) → ∃ status,
          p.registry.status j s.daemon.executors = .ok status s.daemon.executors)) ∧
    (∀ j ∈ s.daemon.jobs.toList, j.Coherent ∧
      (j.errorMessage.isSome ↔ j.status = .failed ∨ j.status = .preempted)) ∧
    ((times es).Pairwise (· ≤ ·) → ∀ j ∈ s.daemon.jobs.toList, ∀ a b,
      j.startedAt = some a → j.completedAt = some b → a ≤ b) ∧
    ∀ fs t, Run Plan.IsLocal LocalExecutors.Drifts s fs t →
      ∀ j ∈ s.daemon.jobs.toList, ∃ k ∈ t.daemon.jobs.toList, j.Evolves (· ∈ times fs) k ∧
        (∀ a, j.startedAt = some a → k.startedAt = some a) ∧ (j.isTerminal = true → k = j) := by
  have lives := lives_of_run h
  have backed := lives.alive.upright.backed
  have tracked := lives.alive.tracked
  refine ⟨⟨backed.nodup, fun j hj => ?_⟩, fun j hj hs => ?_, fun j hj => ?_, fun hsorted j hj => ?_,
    fun fs t hrun j hj => ?_⟩
  · have hfree : ∀ jobType, ¬ s.daemon.executors.tracks jobType j.id := by
      intro jobType hon
      obtain ⟨k, hk, hid, hnot⟩ := tracked.known jobType j.id hon
      rw [backed.indexed.eq_of_id hk (backed.stored j hj) hid] at hnot
      exact hnot (backed.pending j hj)
    refine ⟨backed.stored j hj, backed.pending j hj, hfree, ?_⟩
    rintro p _ e hp hlaunch rfl
    rcases hp.tracks.launch hlaunch with ⟨hok, -⟩ | ⟨err, herr, -, hon⟩
    · cases hok
    · exact hfree j.jobType (hon (Except.error.inj herr).symm)
  · have hon := tracked.running j hj hs
    refine ⟨hon, fun m p hp => ⟨hp.answers m.answers hon, fun hm => ?_⟩⟩
    obtain ⟨_, hrun, status, rfl⟩ := hp.answers (Machine.answers_of_waitError? hm) hon
    obtain ⟨_, heq, hstatus⟩ | ⟨_, heq, -⟩ := Action.attempt_ok hrun
    · obtain rfl := Except.ok.inj heq
      exact ⟨status, hstatus⟩
    · cases heq
  · exact ⟨lives.coherent j hj, (lives.coherent j hj).errorMessage_iff⟩
  · exact (lives.timely hsorted j hj).ordered
  · obtain ⟨k, hk, hjk⟩ := lives.alive.follows tracking_local hrun j hj
    exact ⟨k, hk, hjk, fun a ha => hjk.startedAt_eq ha, fun hterm => hjk.eq_of_terminal hterm⟩

/-- A machine on which every program ends well. -/
def livelyMachine : Machine where
  program? _ := some fun _ => {}
  directoryExists _ := true

def livelyPlan : Plan LocalExecutors where
  settings := {}
  registry := LocalExecutors.registryOn livelyMachine ""
  strategies := { Daemon.knownStrategies ({} : Settings).preemption.policy with
    active := some Preemption.cumulativeName }
  backend := none
  cluster := none

theorem livelyPlan_isOn : livelyPlan.IsOn livelyMachine := ⟨"", {}, none, rfl⟩

theorem livelyPlan_isLocal : livelyPlan.IsLocal := ⟨livelyMachine, livelyPlan_isOn⟩

/-- A job with a command. -/
def trainJob : Job := { id := ⟨7#128⟩, command := ["train"], createdAt := ⟨0, 0⟩ }

/-- A job that was launched is tracked, and its executor answers for it. -/
theorem lifecycle_invariant_launched : ∃ es s,
    Run Plan.IsLocal LocalExecutors.Drifts (fresh {}) es s ∧
    ∃ j ∈ s.daemon.jobs.toList, j.status = .running ∧ j.startedAt = some ⟨1, 0⟩ ∧
      s.daemon.executors.tracks j.jobType j.id ∧ ∃ status,
        livelyPlan.registry.status j s.daemon.executors = .ok status s.daemon.executors := by
  obtain ⟨a, ha⟩ := Job.Archive.exists_add_empty trainJob
  let d₁ : Daemon LocalExecutors := { executors := {}, jobs := a }
  let d₂ : Daemon LocalExecutors :=
    { d₁ with dispatcher := { queue := Job.Queue.empty.push trainJob } }
  let e : LocalExecutors := { plain := ⟨[(trainJob.id, .start {})]⟩ }
  have submitted : Daemon.submit livelyPlan ⟨0, 0⟩ trainJob (fresh {}).daemon =
      .ok (.ok ()) d₂ := by
    have room : Daemon.makeRoomFor livelyPlan ⟨0, 0⟩ trainJob d₁ = .ok () d₁ := rfl
    exact Daemon.submit_of_add rfl ha room
  have launched : Action.attempt (livelyPlan.registry.execute trainJob) d₂.executors =
      .ok (.ok ()) e := rfl
  have popped : d₂.dispatcher.queue.pop? = some (trainJob, ⟨[], 1⟩) := rfl
  have first : Run Plan.IsLocal LocalExecutors.Drifts (fresh {}) _ ⟨d₂, []⟩ :=
    Runs.single (.submit livelyPlan_isLocal ⟨rfl, rfl, rfl, rfl⟩ submitted)
  have run := first.snoc
    (.dispatch livelyPlan_isLocal (Daemon.dispatchNext_of_pop ⟨1, 0⟩ popped launched))
  have stored : (trainJob.advance ⟨1, 0⟩ .running none) ∈
      (a.settle ⟨1, 0⟩ (.started trainJob.id)).toList := by
    refine (Job.Archive.indexed_empty.add ha).mem_modify.2 ⟨trainJob, ?_, if_pos rfl⟩
    rw [Job.Archive.toList_add ha]
    exact List.mem_append_right _ (List.mem_singleton_self _)
  obtain ⟨hon, hasked⟩ := (lifecycle_invariant run).2.1 _ stored rfl
  obtain ⟨-, hanswers⟩ := hasked livelyMachine livelyPlan livelyPlan_isOn
  exact ⟨_, _, run, _, stored, rfl, rfl, hon, hanswers fun _ _ => rfl⟩

end Session

end GpuCluster
