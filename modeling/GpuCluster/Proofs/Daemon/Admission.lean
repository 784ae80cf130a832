import GpuCluster.Proofs.Daemon.Conservation
import GpuCluster.Proofs.Daemon.Terminal
import GpuCluster.Proofs.Job.Lanes
import GpuCluster.Proofs.Preemption.Requester
import GpuCluster.Proofs.Quota.Requests

/-!
# A job is admitted as a whole or not at all

* `Quota.Store.reserveFor_cases` : units are taken or refused, `releaseFor_of_reserved` : giving
  them back restores the book as it was;
* `Daemon.Orderly` : the index, the book and the queue are right; the operations keep them so;
* `Daemon.Reachable` : what any operations in any order lead to;
* `Daemon.Refused`, `Daemon.Admitted` : why a job is refused, and what an admission changes;
* `submit_all_or_nothing` : a refused job leaves no trace, and an admitted one is stored and queued,
  whatever becomes of making room for it.
-/

namespace GpuCluster

/-! ## The book of quotas -/

namespace Quota

/-- Units that were just taken can be given back: the release saturates nothing. -/
theorem release_of_reserve {q r : Quota} {units : UInt32} (h : q.reserve units = .ok r)
    (hq : q.used ≤ q.total) : r.release units = q := by
  obtain ⟨-, hused, -⟩ := reserve_ok h hq
  have hback := toNat_used_release r units
  rw [hused, Nat.add_sub_cancel] at hback
  unfold reserve at h
  split at h
  next =>
    split at h
    next used _ =>
      cases h
      have hsame : Saturating.sub32 used units = q.used := UInt32.toNat_inj.1 hback
      rw [release, hsame]
    next => cases h
  next => cases h

end Quota

namespace Quota.Store

variable {t t' : Bindings Quota} {j : Job}

/-- A job without units gets them, and one with units if they fit into the quota of its project. -/
theorem reserveFor_cases (ht : Kept t) (j : Job) :
    (∃ t', table.reserveFor j t = .ok () t' ∧ (j.mpsUnits ≠ 0 →
      ∃ q, t.get? j.projectId = some q ∧ q.used.toNat + j.mpsUnits.toNat ≤ q.total.toNat)) ∨
    (j.mpsUnits ≠ 0 ∧ t.get? j.projectId = none ∧
      table.reserveFor j t = .error (.error (.noQuota j.projectId)) t) ∨
    ∃ q, t.get? j.projectId = some q ∧ q.total.toNat < q.used.toNat + j.mpsUnits.toNat ∧
      table.reserveFor j t =
        .error (.error (.quotaShort j.projectId j.mpsUnits q.available)) t := by
  unfold reserveFor
  by_cases hz : j.mpsUnits = 0
  · rw [if_pos hz]
    exact .inl ⟨t, rfl, absurd hz⟩
  rw [if_neg hz]
  cases hq : t.get? j.projectId with
  | none => exact .inr (.inl ⟨hz, rfl, Action.bind_of_error (load_of_none hq)⟩)
  | some q =>
    obtain ⟨hid, hle⟩ := ht _ _ hq
    rw [reserve_of_get? hq]
    by_cases hfit : q.used.toNat + j.mpsUnits.toNat ≤ q.total.toNat
    · obtain ⟨used, hr, -⟩ := reserve_of_le hfit
      rw [hr]
      exact .inl ⟨_, rfl, fun _ => ⟨q, rfl, hfit⟩⟩
    · have hlt := Nat.not_le.1 hfit
      rw [reserve_of_lt hle hlt, hid]
      exact .inr (.inr ⟨q, rfl, hlt, rfl⟩)

/-- When a job gives back the units that it just took, the book is what it was. -/
theorem releaseFor_of_reserved (ht : Kept t) (h : table.reserveFor j t = .ok () t') :
    table.releaseFor j t' = .ok () t := by
  unfold reserveFor at h
  unfold releaseFor
  by_cases hz : j.mpsUnits = 0
  · rw [if_pos hz] at h ⊢
    obtain ⟨-, rfl⟩ := Action.pure_ok.1 h
    rfl
  rw [if_neg hz] at h ⊢
  cases hq : t.get? j.projectId with
  | none =>
    rw [reserve, Action.bind_of_error (load_of_none hq)] at h
    cases h
  | some q =>
    obtain ⟨hid, hle⟩ := ht _ _ hq
    rw [reserve_of_get? hq] at h
    cases hr : q.reserve j.mpsUnits with
    | error f =>
      rw [hr] at h
      cases h
    | ok r =>
      rw [hr] at h
      cases h
      obtain ⟨hrid, -⟩ := reserve_ok hr hle
      have hback := release_of_reserve hr hle
      have hfound : (t.set r.projectId r).get? j.projectId = some r := by
        rw [Bindings.get?_set, hrid, hid, if_pos rfl]
      rw [release_of_get? hfound, hback, Bindings.set_set, hrid, hid, Bindings.set_of_get? hq]

theorem releaseFor_answers (j : Job) : (table.releaseFor j).Answers := by
  unfold releaseFor
  split
  next => exact Action.answers_pure ()
  next =>
    refine Action.answers_bind ?_ fun q => fun t => ⟨.ok (), _, rfl⟩
    refine Action.answers_bind (fun t => ⟨.ok (t.get? j.projectId), t, rfl⟩) fun found => ?_
    cases found with
    | none => exact Action.answers_fail _
    | some q => exact Action.answers_pure q

/-- An operation without an answer leaves what it leaves as a request. -/
theorem keeps_of_served {x : Action (Bindings Quota) Unit} (project : String) (request : Request)
    (h : request.serve project = do x; return none) : Action.Keeps Kept x := by
  intro t ht
  have hserved := (served_kept ht project request).1
  unfold served at hserved
  rw [h] at hserved
  cases hx : x t with
  | ok _ u =>
    rw [Action.after_of_ok hx]
    rwa [Action.after_of_ok (silent_ok.2 ⟨hx, rfl⟩)] at hserved
  | error f u =>
    rw [Action.after_of_error hx]
    rwa [Action.after_of_error (Action.bind_of_error hx)] at hserved

theorem keeps_reserveFor (j : Job) : Action.Keeps Kept (table.reserveFor j) := by
  unfold reserveFor
  split
  next => exact Action.keeps_pure ()
  next => exact keeps_of_served j.projectId (.reserve j.mpsUnits) rfl

theorem keeps_releaseFor (j : Job) : Action.Keeps Kept (table.releaseFor j) := by
  unfold releaseFor
  split
  next => exact Action.keeps_pure ()
  next => exact keeps_of_served j.projectId (.release j.mpsUnits) rfl

end Quota.Store

namespace Daemon

open Quota (Kept)

variable {ε : Type} {p : Plan ε} {now : Instant} {d d' : Daemon ε} {j : Job} {id : JobId}

/-! ## What every operation keeps -/

/-- The index of the jobs, the book of quotas and the queue are right. -/
structure Orderly (d : Daemon ε) : Prop where
  indexed : d.jobs.Indexed
  kept : Kept d.quotas
  ordered : d.dispatcher.queue.Ordered

theorem orderly_fresh (e : ε) : ({ executors := e } : Daemon ε).Orderly :=
  ⟨Job.Archive.indexed_empty, Quota.kept_empty, Job.Queue.ordered_empty⟩

theorem Orderly.executors (h : d.Orderly) (e : ε) :
    ({ d with executors := e } : Daemon ε).Orderly :=
  ⟨h.indexed, h.kept, h.ordered⟩

theorem keeps_orderly_jobs {α : Type} {x : Action Job.Archive α}
    (hx : Action.Keeps Job.Archive.Indexed x) :
    Action.Keeps Orderly (x.zoom (jobsPart : Lens (Daemon ε) _)) :=
  hx.zoom (fun _ h => h.indexed) fun _ _ h hv => ⟨hv, h.kept, h.ordered⟩

theorem keeps_orderly_record (now : Instant) (id : JobId) (status : JobStatus)
    (reason : Option String) : Action.Keeps Orderly
      ((jobStore : Job.Store (Daemon ε)).record now id status reason) :=
  keeps_orderly_jobs (Job.Archive.keeps_record now id status reason)

theorem keeps_orderly_recordIf (now : Instant) (id : JobId) (expected status : JobStatus)
    (reason : Option String) : Action.Keeps Orderly
      ((jobStore : Job.Store (Daemon ε)).recordIf now id expected status reason) :=
  keeps_orderly_jobs (Job.Archive.keeps_recordIf now id expected status reason)

theorem keeps_orderly_quotas {α : Type} {x : Action (Bindings Quota) α}
    (hx : Action.Keeps Kept x) : Action.Keeps Orderly (x.zoom (quotasPart : Lens (Daemon ε) _)) :=
  hx.zoom (fun _ h => h.kept) fun _ _ h hv => ⟨h.indexed, hv, h.ordered⟩

theorem keeps_orderly_release (j : Job) :
    Action.Keeps Orderly (release j : Action (Daemon ε) Unit) := by
  rw [release, quotaStore, Quota.Store.within_releaseFor quotasPart_lawful]
  exact Action.keeps_tolerate (keeps_orderly_quotas (Quota.Store.keeps_releaseFor j))

theorem keeps_orderly_releaseOf (id : JobId) :
    Action.Keeps Orderly (releaseOf id : Action (Daemon ε) Unit) := by
  refine Action.keeps_bind (Action.keeps_attempt ?_) fun found => ?_
  · exact (Action.reads_zoom jobsPart_lawful (Job.Archive.find_reads id)).keeps
  · cases found with
    | ok j => exact keeps_orderly_release j
    | error e => exact Action.keeps_pure ()

theorem keeps_orderly_releaseAll (ids : List JobId) :
    Action.Keeps Orderly (releaseAll ids : Action (Daemon ε) Unit) := by
  induction ids with
  | nil => exact Action.keeps_pure ()
  | cons id rest ih => exact Action.keeps_bind (keeps_orderly_releaseOf id) fun _ => ih

theorem keeps_orderly_makeRoomFor (hp : p.IsBuilt) (now : Instant) (j : Job) :
    Action.Keeps Orderly (makeRoomFor p now j) := by
  refine Action.keeps_bind (Action.keeps_attempt ?_) fun victims => ?_
  · refine Action.keeps_bind shortage_reads.keeps fun short => ?_
    cases short with
    | false => exact Action.keeps_pure _
    | true =>
      exact Action.keeps_bind (keeps_perform (fun _ e h => h.executors e)
        (fun now id => keeps_orderly_recordIf now id .running) hp.decide_reads none now _)
        fun _ => Action.keeps_pure _
  · cases victims with
    | ok ids => exact keeps_orderly_releaseAll ids
    | error e => exact Action.keeps_pure ()

theorem keeps_orderly_submit (hp : p.IsBuilt) (now : Instant) (j : Job) :
    Action.Keeps Orderly (submit p now j) := by
  refine Action.keeps_bind (Action.keeps_attempt ?_) fun reserved => ?_
  · rw [quotaStore, Quota.Store.within_reserveFor quotasPart_lawful]
    exact keeps_orderly_quotas (Quota.Store.keeps_reserveFor j)
  cases reserved with
  | error e => exact Action.keeps_pure _
  | ok _ =>
    refine Action.keeps_bind (Action.keeps_attempt (keeps_orderly_jobs
      (Job.Archive.keeps_create j))) fun stored => ?_
    cases stored with
    | error e => exact Action.keeps_bind (keeps_orderly_release j) fun _ => Action.keeps_pure _
    | ok _ =>
      refine Action.keeps_bind (keeps_orderly_makeRoomFor hp now j) fun _ => ?_
      refine Action.keeps_bind (fun d h => ?_) fun _ => Action.keeps_pure _
      exact ⟨h.indexed, h.kept, h.ordered.push j⟩

theorem Moves.orderly {m : Move} (h : Moves d m d') (hd : d.Orderly) : d'.Orderly := by
  have hwrite := fun now id => keeps_orderly_recordIf (ε := ε) now id .running
  cases h with
  | enqueue j => exact ⟨hd.indexed, hd.kept, hd.ordered.push j⟩
  | dispatch dispatched =>
    cases dispatchNext_ok dispatched with
    | idle => exact hd
    | handed popped launched =>
      refine ⟨hd.indexed.settle _ _, hd.kept, ?_⟩
      rw [Dispatcher.queue_count]
      exact hd.ordered.pop popped
  | reconcile reconciled =>
    exact (keeps_reconcile (fun _ e h => h.executors e) hwrite _ _).of_ok hd reconciled
  | preempt reads performed =>
    have hkeeps := keeps_perform (fun _ e h => h.executors e) hwrite reads
    exact (Action.keeps_attempt (hkeeps _ _ _)).of_ok hd performed
  | cancel unended cancelled =>
    exact (Action.keeps_attempt (keeps_orderly_recordIf _ _ _ _ _)).of_ok hd cancelled

/-! ## Reachable states -/

/-- What any operations in any order lead to. Any job may be handed in, in any status, the stores
and the queue may be written from outside, and executors may answer anything. -/
inductive Reachable : Daemon ε → Prop
  | fresh (e : ε) : Reachable { executors := e }
  | submit {d d' : Daemon ε} {p : Plan ε} {now : Instant} {j : Job} {answer : Except Refusal Unit}
      (before : Reachable d) (built : p.IsBuilt)
      (submitted : submit p now j d = .ok answer d') : Reachable d'
  /-- A step of either loop, a preemption, a job that is queued or called off. -/
  | move {d d' : Daemon ε} {m : Move} (before : Reachable d) (moved : Moves d m d') : Reachable d'
  | deliver {d d' : Daemon ε} {r : Report} (before : Reachable d)
      (delivered : r.deliver d = .ok () d') : Reachable d'
  | request {d d' : Daemon ε} {project : String} {request : Quota.Request}
      {answer : Except Error (Option UInt32)} (before : Reachable d)
      (served : Action.attempt ((request.serve project).zoom quotasPart) d = .ok answer d') :
      Reachable d'
  | create {d d' : Daemon ε} {j : Job} {answer : Except Error Unit} (before : Reachable d)
      (created : Action.attempt (jobStore.create j) d = .ok answer d') : Reachable d'
  | record {d d' : Daemon ε} {now : Instant} {id : JobId} {status : JobStatus}
      {reason : Option String} {answer : Except Error Unit} (before : Reachable d)
      (recorded : Action.attempt (jobStore.record now id status reason) d = .ok answer d') :
      Reachable d'
  | recordIf {d d' : Daemon ε} {now : Instant} {id : JobId} {expected status : JobStatus}
      {reason : Option String} {answer : Except Error Bool} (before : Reachable d)
      (recorded : Action.attempt (jobStore.recordIf now id expected status reason) d =
        .ok answer d') : Reachable d'
  /-- Other parts change on their own. -/
  | aside {d : Daemon ε} (before : Reachable d) (m : Monitor) (usage : Usage.Tables)
      (elapsed : Nat) (e : ε) :
      Reachable { d with monitor := m, usage := usage, elapsed := elapsed, executors := e }

theorem Reachable.orderly (h : Reachable d) : d.Orderly := by
  induction h with
  | fresh e => exact orderly_fresh e
  | submit _ built submitted ih => exact (keeps_orderly_submit built _ _).of_ok ih submitted
  | move _ moved ih => exact moved.orderly ih
  | @deliver _ _ r _ delivered ih =>
    refine Action.Keeps.of_ok ?_ ih delivered
    rcases r with (_ | _ | _) | f
    · exact Action.keeps_pure ()
    · exact keeps_orderly_releaseOf _
    · exact Action.keeps_pure ()
    · exact keeps_orderly_releaseOf _
  | @request _ _ project request _ _ served ih =>
    refine (Action.keeps_attempt (keeps_orderly_quotas fun t ht => ?_)).of_ok ih served
    exact (Quota.served_kept ht project request).1
  | create _ created ih =>
    exact (Action.keeps_attempt (keeps_orderly_jobs (Job.Archive.keeps_create _))).of_ok ih created
  | record _ recorded ih =>
    exact (Action.keeps_attempt (keeps_orderly_record _ _ _ _)).of_ok ih recorded
  | recordIf _ recorded ih =>
    exact (Action.keeps_attempt (keeps_orderly_recordIf _ _ _ _ _)).of_ok ih recorded
  | aside _ m usage elapsed e ih => exact ⟨ih.indexed, ih.kept, ih.ordered⟩

/-! ## Making room -/

/-- A job that asks for room is not pushed out, whichever strategy decides. -/
theorem Plan.IsBuilt.decides_without (hp : p.IsBuilt) (hi : d.jobs.Indexed)
    (hj : j ∈ d.jobs.toList) :
    Preemption.DecidesWithout j.id (p.strategies.decide (.forJob j)) d := by
  obtain ⟨policy, hknown⟩ := hp.known
  refine Preemption.Strategies.decide_without fun name x hx => ?_
  rcases hknown name x hx with rfl | rfl
  · exact Preemption.cumulative_without jobsPart_lawful _ _ hi hj
  · exact Preemption.tierWeight_without jobsPart_lawful _ hi hj

theorem shortage_answers : (Monitor.shortageIn monitorPart : Action (Daemon ε) Bool).Answers := by
  refine Action.answers_bind (fun d => ⟨.ok d.monitor, d, rfl⟩) fun m => ?_
  exact Action.answers_ofExcept _

theorem release_answers (j : Job) (d : Daemon ε) :
    ∃ t, release j d = .ok () { d with quotas := t } := by
  obtain ⟨r, t, ht⟩ := (Quota.Store.releaseFor_answers j).zoom quotasPart d
  refine ⟨t, ?_⟩
  rw [release, quotaStore, Quota.Store.within_releaseFor quotasPart_lawful]
  exact Action.bind_of_ok ht

theorem releaseOf_answers (id : JobId) (d : Daemon ε) :
    ∃ t, releaseOf id d = .ok () { d with quotas := t } := by
  cases hf : d.jobs.find? id with
  | some j =>
    rw [releaseOf_of_find? hf]
    exact release_answers j d
  | none =>
    have hfind : Action.attempt (jobStore.find id) d = .ok (.error (.noSuchJob id)) d := by
      refine Action.attempt_of_error (Action.zoom_of_error ?_)
      change Job.Store.archive.find id d.jobs = .error _ d.jobs
      simp only [Job.Store.archive, hf]
    exact ⟨d.quotas, Action.bind_of_ok hfind⟩

theorem releaseAll_answers (ids : List JobId) (d : Daemon ε) :
    ∃ t, releaseAll ids d = .ok () { d with quotas := t } := by
  induction ids generalizing d with
  | nil => exact ⟨d.quotas, rfl⟩
  | cons id rest ih =>
    obtain ⟨t, ht⟩ := releaseOf_answers id d
    obtain ⟨u, hu⟩ := ih { d with quotas := t }
    exact ⟨u, (Action.bind_of_ok ht).trans hu⟩

/-- Making room ends well, whatever the strategy answers. Some running jobs other than the one that
asks are pushed out, and only quotas change besides. -/
theorem makeRoomFor_answers (hp : p.IsBuilt) (now : Instant) (hi : d.jobs.Indexed)
    (hj : j ∈ d.jobs.toList) : ∃ ids reason a t,
    makeRoomFor p now j d = .ok () { d with jobs := a, quotas := t } ∧
      Job.Archive.Departs now d.jobs (Preemption.departures reason ids) a ∧ j.id ∉ ids := by
  have hreads := hp.decide_reads (.forJob j)
  have hwithout := hp.decides_without hi hj
  obtain ⟨answer, u, hroom⟩ := Preemption.makeRoom_answers jobsPart_lawful shortage_reads
    shortage_answers now hi (hwithout.imp fun _ h => h.1)
  rcases Action.attempt_ok hroom with ⟨ids, rfl, hm⟩ | ⟨e, rfl, hm⟩
  · obtain ⟨reason, a, hdep, rfl⟩ :=
      Preemption.makeRoom_ok jobsPart_lawful shortage_reads hreads hi hm
    obtain ⟨t, ht⟩ := releaseAll_answers ids { d with jobs := a }
    refine ⟨ids, reason, a, t, (Action.bind_of_ok hroom).trans ht, hdep, ?_⟩
    exact Preemption.makeRoom_without jobsPart_lawful shortage_reads hreads hi hwithout hm
  · obtain rfl := Preemption.makeRoom_error jobsPart_lawful shortage_reads hreads hi hm
    exact ⟨[], "", u.jobs, u.quotas, Action.bind_of_ok hroom, .nil _, List.not_mem_nil⟩

/-! ## Admission -/

/-- Why a job is refused. -/
inductive Refused (j : Job) (d : Daemon ε) : Refusal → Prop
  | noQuota (units : j.mpsUnits ≠ 0) (unknown : d.quotas.get? j.projectId = none) :
      Refused j d (rejected j.id (.noQuota j.projectId))
  | short {q : Quota} (known : d.quotas.get? j.projectId = some q)
      (little : q.total.toNat < q.used.toNat + j.mpsUnits.toNat) :
      Refused j d (rejected j.id (.quotaShort j.projectId j.mpsUnits q.available))
  | taken {k : Job} (stored : k ∈ d.jobs.toList) (same : k.id = j.id) :
      Refused j d (notStored (.jobExists j.id))

/-- What an admission changes: the job is stored as it is and waits behind its tier, and of the
jobs that were stored before, some that were running are preempted. -/
structure Admitted (now : Instant) (j : Job) (d d' : Daemon ε) : Prop where
  covered : j.mpsUnits ≠ 0 →
    ∃ q, d.quotas.get? j.projectId = some q ∧ q.used.toNat + j.mpsUnits.toNat ≤ q.total.toNat
  new : ∀ k ∈ d.jobs.toList, k.id ≠ j.id
  jobs : ∃ (ids : List JobId) (reason : String), (∀ id ∈ ids, d.jobs.statusOf? id = some .running) ∧
    d'.jobs.toList = (d.jobs.toList.map fun k =>
      if k.id ∈ ids then k.advance now .preempted (some reason) else k) ++ [j]
  dispatcher : d'.dispatcher = d.dispatcher.enqueue j
  ordered : d'.dispatcher.queue.Ordered
  behind : d'.dispatcher.queue.lanes = d.dispatcher.queue.lanes.push j
  aside : d'.monitor = d.monitor ∧ d'.usage = d.usage ∧ d'.elapsed = d.elapsed ∧
    d'.executors = d.executors

/-- The records after a new one has been stored and others have been pushed out for it. -/
theorem toList_of_pushed {a b : Job.Archive} {ids : List JobId} {reason : String}
    (hi : d.jobs.Indexed) (hadd : d.jobs.add j = .ok a)
    (hdep : Job.Archive.Departs now a (Preemption.departures reason ids) b) (hj : j.id ∉ ids) :
    (∀ id ∈ ids, d.jobs.statusOf? id = some .running) ∧
      b.toList = (d.jobs.toList.map fun k =>
        if k.id ∈ ids then k.advance now .preempted (some reason) else k) ++ [j] := by
  have ha := hi.add hadd
  have hlist := Job.Archive.toList_add hadd
  obtain ⟨-, hrunning, hfind⟩ := Preemption.departs_preempted ha hdep
  constructor
  · intro id hid
    obtain ⟨k, hk, hstatus⟩ := Option.map_eq_some_iff.1 (hrunning id hid)
    obtain ⟨hmem, rfl⟩ := ha.find?_eq_some_iff.1 hk
    rw [hlist] at hmem
    rcases List.mem_append.1 hmem with hmem | hmem
    · rw [Job.Archive.statusOf?_of_find? (hi.find?_of_mem hmem), hstatus]
    · -- The new job is not pushed out.
      obtain rfl := List.mem_singleton.1 hmem
      exact absurd hid hj
  · have hmap : b.toList = a.toList.map fun k =>
        if k.id ∈ ids then k.advance now .preempted (some reason) else k := by
      refine ha.toList_eq_map (hdep.indexed ha) (hdep.ids ha) fun id => ?_
      rw [hfind]
      cases hf : a.find? id with
      | none => rfl
      | some k =>
        obtain ⟨-, rfl⟩ := ha.find?_eq_some_iff.1 hf
        rfl
    rw [hmap, hlist, List.map_append, List.map_singleton, if_neg hj]

/-- Submission is all or nothing. In every reachable state and for every job: either the job is
refused, and the state is just what it was, or its units fit, its identity is new, and it is stored
and queued, whatever becomes of making room for it. -/
theorem submit_all_or_nothing (h : Reachable d) (hp : p.IsBuilt) (now : Instant) (j : Job) :
    (∃ refusal, submit p now j d = .ok (.error refusal) d ∧ Refused j d refusal) ∨
    ∃ d', submit p now j d = .ok (.ok ()) d' ∧ Admitted now j d d' := by
  obtain ⟨hi, hkept, hqueue⟩ := h.orderly
  obtain ⟨t, ht, hcovered⟩ | ⟨hunits, hnone, hno⟩ | ⟨q, hq, hlittle, hno⟩ :=
    Quota.Store.reserveFor_cases hkept j
  · obtain ⟨hnew, a, -, hadd⟩ | ⟨⟨k, hk, hid⟩, htaken⟩ := hi.create_cases j
    · have hstored : j ∈ a.toList := by
        rw [Job.Archive.toList_add hadd]
        exact List.mem_append_right _ (List.mem_singleton_self j)
      obtain ⟨ids, reason, b, u, hroom, hdep, hspared⟩ := makeRoomFor_answers
        (d := { d with jobs := a, quotas := t }) hp now (hi.add hadd) hstored
      exact .inr ⟨_, submit_of_add ht hadd hroom, hcovered, hnew,
        ⟨ids, reason, toList_of_pushed hi hadd hdep hspared⟩, rfl, hqueue.push j,
        Job.Queue.lanes_push .., rfl, rfl, rfl, rfl⟩
    · -- The units that were reserved are given back.
      exact .inl ⟨_, submit_of_unstored ht htaken (Quota.Store.releaseFor_of_reserved hkept ht),
        .taken hk hid⟩
  · exact .inl ⟨_, submit_of_refused hno, .noQuota hunits hnone⟩
  · exact .inl ⟨_, submit_of_refused hno, .short hq hlittle⟩

open Session (refusingPlan refusingPlan_isBuilt smallJob)

/-- A job with the identity of a stored one, for another project and of other units. -/
def twinJob : Job := { smallJob with projectId := "audio", mpsUnits := 3 }

/-- The twin of a stored job is refused, and the units it had reserved are free again. -/
theorem submit_all_or_nothing_twin : ∃ d : Daemon Unit, d.Reachable ∧ refusingPlan.IsBuilt ∧
    d.jobs.toList = [smallJob] ∧ d.quotas.get? "audio" = some ⟨"audio", 8, 0⟩ ∧
    submit refusingPlan ⟨1, 0⟩ twinJob d =
      .ok (.error (notStored (.jobExists smallJob.id))) d := by
  obtain ⟨a, ha⟩ := Job.Archive.exists_add_empty smallJob
  let d₁ : Daemon Unit := { executors := (), quotas := ⟨[("vision", ⟨"vision", 10, 0⟩)]⟩ }
  let d₂ : Daemon Unit :=
    { d₁ with quotas := ⟨[("vision", ⟨"vision", 10, 0⟩), ("audio", ⟨"audio", 8, 0⟩)]⟩ }
  let d₃ : Daemon Unit := { d₂ with
    quotas := ⟨[("vision", ⟨"vision", 10, 4⟩), ("audio", ⟨"audio", 8, 0⟩)]⟩, jobs := a }
  let d₄ : Daemon Unit := { d₃ with dispatcher := { queue := Job.Queue.empty.push smallJob } }
  have vision : Action.attempt (((Quota.Request.setTotal 10).serve "vision").zoom quotasPart)
      ({ executors := () } : Daemon Unit) = .ok (.ok none) d₁ := rfl
  have audio : Action.attempt (((Quota.Request.setTotal 8).serve "audio").zoom quotasPart) d₁ =
      .ok (.ok none) d₂ := rfl
  have first : d₁.Reachable := .request (.fresh ()) vision
  have second : d₂.Reachable := .request first audio
  have submitted : submit refusingPlan ⟨0, 0⟩ smallJob d₂ = .ok (.ok ()) d₄ := by
    have room : makeRoomFor refusingPlan ⟨0, 0⟩ smallJob d₃ = .ok () d₃ := rfl
    exact submit_of_add rfl ha room
  have reached : d₄.Reachable := .submit second refusingPlan_isBuilt submitted
  have hlist : a.toList = [smallJob] := Job.Archive.toList_add ha
  refine ⟨d₄, reached, refusingPlan_isBuilt, hlist, rfl, ?_⟩
  obtain ⟨refusal, hrefused, hwhy⟩ | ⟨d', -, hadmitted⟩ :=
    submit_all_or_nothing reached refusingPlan_isBuilt ⟨1, 0⟩ twinJob
  · cases hwhy with
    | noQuota _ unknown => cases unknown
    | short known little =>
      cases known
      exact absurd little (by decide)
    | taken => exact hrefused
  · refine absurd rfl (hadmitted.new smallJob ?_)
    rw [show d₄.jobs.toList = [smallJob] from hlist]
    exact List.mem_singleton_self _

end Daemon

end GpuCluster
