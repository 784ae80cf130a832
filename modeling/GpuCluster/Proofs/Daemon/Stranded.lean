import GpuCluster.Proofs.Daemon.Conservation
import GpuCluster.Proofs.Dispatcher.Order

/-!
# Which pending jobs still wait

A job that is handed out while its type has no executor stays pending and is not queued again.

* `Job.Archive.pending_modify` : the pending jobs after a record has changed;
* `Session.Shift` : what an event does to the pending jobs and to the queue;
* `Session.Held` : the pending jobs are those that wait and those that were passed over;
* `pending_waits_unless_passedOver` : exactly the jobs that were passed over do not wait, and they
  are never handed out again.
-/

namespace GpuCluster

/-- The job was passed over: its type has no executor. -/
def Dispatcher.Outcome.skips : Outcome → Bool
  | unsupported _ _ => true
  | _ => false

/-! ## Pending jobs -/

namespace Job.Archive

variable {a b : Archive} {id : JobId} {j : Job} {change : Job → Job} {now : Instant}

def pending (a : Archive) : List Job := a.withStatus [.pending]

theorem mem_pending : j ∈ a.pending ↔ j ∈ a.toList ∧ j.status = .pending := by
  unfold pending withStatus
  rw [List.mem_filter, List.contains_iff_mem, List.mem_singleton]

theorem pending_add (ha : a.add j = .ok b) (hj : j.status = .pending) :
    b.pending = a.pending ++ [j] := by
  unfold pending withStatus
  rw [toList_add ha, List.filter_append, List.filter_cons_of_pos (by rw [hj]; rfl)]
  rfl

/-- A record that gets another status is not pending any more, the others are as before. -/
theorem Indexed.pending_modify (h : a.Indexed) (hc : ∀ k, (change k).status ≠ .pending) :
    (a.modify id change).pending = a.pending.filter fun k => k.id != id := by
  have hstays : ∀ k : Job, [JobStatus.pending].contains
      (if k.id = id then change k else k).status =
        (k.id != id && [JobStatus.pending].contains k.status) := by
    intro k
    by_cases hid : k.id = id
    · have hleft := hc k
      rw [if_pos hid]
      simp [hid, hleft]
    · rw [if_neg hid]
      simp [hid]
  unfold pending withStatus
  rw [h.toList_modify, List.filter_map, List.filter_filter]
  simp only [Function.comp_def, hstays]
  refine (List.map_congr_left fun k hk => ?_).trans (List.map_id _)
  have hid : k.id ≠ id := by
    have hboth := (List.mem_filter.1 hk).2
    rw [Bool.and_eq_true] at hboth
    simpa using hboth.1
  exact if_neg hid

theorem pending_departs {xs : List Departure} (h : Departs now a xs b) (ha : a.Indexed)
    (hxs : ∀ x ∈ xs, x.status ≠ .pending) : b.pending = a.pending := by
  induction h with
  | nil => rfl
  | @cons a b x xs j found running rest ih =>
    have hlater := ih ha.advance fun y hy => hxs y (List.mem_cons_of_mem _ hy)
    rw [hlater, ha.pending_modify fun _ => hxs x List.mem_cons_self, List.filter_eq_self]
    intro k hk
    obtain ⟨hk, hpending⟩ := mem_pending.1 hk
    have hne : k.id ≠ x.id := by
      intro hid
      rw [← hid, ha.find?_of_mem hk] at found
      obtain rfl := Option.some.inj found
      rw [hpending] at running
      cases running
    simpa using hne

theorem Indexed.nodup_pending (h : a.Indexed) : (a.pending.map (·.id)).Nodup :=
  h.nodup.sublist (List.filter_sublist.map Job.id)

theorem Indexed.pending_settle (h : a.Indexed) (now : Instant) (o : Dispatcher.Outcome) :
    (a.settle now o).pending =
      if o.skips then a.pending else a.pending.filter fun k => k.id != o.id := by
  cases o with
  | started id => exact h.pending_modify fun _ => by simp
  | failed id reason => exact h.pending_modify fun _ => by simp
  | unsupported id jobType => rfl

end Job.Archive

/-- With distinct identities, striking out one identity strikes out one job. -/
theorem Job.perm_cons_filter_id {js : List Job} (h : (js.map (·.id)).Nodup) {j : Job}
    (hj : j ∈ js) : (js.map (·.id)).Perm
      (j.id :: (js.filter fun k => k.id != j.id).map (·.id)) := by
  have hfilter : (js.filter fun k => k.id != j.id).map (·.id) = (js.map (·.id)).erase j.id := by
    rw [h.erase_eq_filter, List.filter_map]
    rfl
  rw [hfilter]
  exact List.perm_cons_erase (List.mem_map_of_mem hj)

namespace Session

open Daemon (Plan Refusal)

variable {ε : Type} {inService : Plan ε → Prop} {drift : ε → ε → Prop} {s t : Session ε}
  {e : Event} {es : List Event}

/-- What became of a job that was handed out. -/
def Event.outcome? : Event → Option Dispatcher.Outcome
  | dispatch _ outcome => outcome
  | _ => none

/-- The job that was handed out while its type had no executor. -/
def Event.passedOver? (e : Event) : Option JobId :=
  (e.outcome?.filter (·.skips)).map (·.id)

/-! ## One event -/

/-- What an event does to the pending jobs and to the queue. -/
inductive Shift (s t : Session ε) (e : Event) : Prop
  | still (silent : e.outcome? = none) (jobs : t.daemon.jobs.pending = s.daemon.jobs.pending)
      (queue : t.daemon.dispatcher.queue = s.daemon.dispatcher.queue)
  | joined {j : Job} (silent : e.outcome? = none)
      (jobs : t.daemon.jobs.pending = s.daemon.jobs.pending ++ [j])
      (queue : t.daemon.dispatcher.queue = s.daemon.dispatcher.queue.push j)
  /-- A job is handed out. It stays pending if there is no executor, and else it does not. -/
  | left {j : Job} {rest : Job.Queue} {o : Dispatcher.Outcome} (answered : e.outcome? = some o)
      (about : o.id = j.id) (popped : s.daemon.dispatcher.queue.pop? = some (j, rest))
      (jobs : t.daemon.jobs.pending =
        if o.skips then s.daemon.jobs.pending
        else s.daemon.jobs.pending.filter fun k => k.id != j.id)
      (queue : t.daemon.dispatcher.queue = rest)

theorem submit_shift {p : Plan ε} {now : Instant} {j : Job} {answer : Except Refusal Unit}
    {d : Daemon ε} (h : s.Upright) (hp : p.IsBuilt) (hj : j.IsNew)
    (hd : Daemon.submit p now j s.daemon = .ok answer d) :
    Shift s ⟨d, s.reports⟩ (.submit now j answer) := by
  cases Daemon.submit_ok hd with
  | rejected => exact .still rfl rfl rfl
  | notStored reserved released =>
    obtain ⟨t, rfl⟩ := Daemon.release_quotas released
    exact .still rfl rfl rfl
  | @admitted t a d' reserved stored room =>
    have ha := h.backed.indexed.add stored
    obtain ⟨ids, reason, b, hdep, hrel⟩ := Daemon.makeRoomFor_ok hp ha room
    obtain ⟨t', rfl⟩ := Daemon.releaseAll_quotas hrel
    refine .joined (j := j) rfl ?_ rfl
    show b.pending = s.daemon.jobs.pending ++ [j]
    rw [← Job.Archive.pending_add stored hj.pending]
    refine Job.Archive.pending_departs hdep ha fun x hx => ?_
    obtain ⟨id, -, rfl⟩ := List.mem_map.1 hx
    exact nofun

/-- Every event shifts the pending jobs and the queue in one of these ways. -/
theorem Step.shift (hplans : ∀ p, inService p → p.IsBuilt) (h : s.Upright)
    (hstep : Step inService drift s e t) : Shift s t e := by
  cases hstep with
  | total set =>
    rw [Daemon.quotaStore, Quota.Store.within_setTotal Daemon.quotasPart_lawful] at set
    obtain ⟨u, -, rfl⟩ := Action.attempt_zoom_ok.1 set
    exact .still rfl rfl rfl
  | reading m => exact .still rfl rfl rfl
  | submit plan new submitted => exact submit_shift h (hplans _ plan) new submitted
  | dispatch plan dispatched =>
    cases Daemon.dispatchNext_ok dispatched with
    | idle => exact .still rfl rfl rfl
    | @handed j queue answer x popped launched =>
      refine .left (j := j) rfl (Dispatcher.id_outcomeOf j answer) popped ?_ ?_
      · rw [← Dispatcher.id_outcomeOf j answer]
        exact h.backed.indexed.pending_settle ..
      · exact Dispatcher.queue_count ..
  | reconcile plan reconciled =>
    obtain ⟨a, x, rfl, hdep, hterm⟩ := Daemon.reconcile_departs h.backed.indexed reconciled
    refine .still rfl (Job.Archive.pending_departs hdep h.backed.indexed fun y hy => ?_) rfl
    obtain ⟨f, hf, rfl⟩ := List.mem_map.1 hy
    intro hpending
    have hends := hterm f hf
    rw [show f.status = .pending from hpending] at hends
    cases hends
  | deliver reported delivered =>
    obtain ⟨u, rfl, -⟩ := deliver_balanced h reported delivered
    exact .still rfl rfl rfl
  | drift drifts => exact .still rfl rfl rfl

/-! ## Any events -/

/-- The pending jobs are those that wait and those that were passed over, each of them once. -/
structure Held (es : List Event) (s : Session ε) : Prop where
  upright : s.Upright
  pending : (s.daemon.jobs.pending.map (·.id)).Perm
    (s.daemon.waitingIds ++ es.filterMap Event.passedOver?)

theorem held_fresh (x : ε) : Held [] (fresh x) := ⟨upright_fresh x, .nil⟩

theorem Held.nodup (h : Held es s) :
    (s.daemon.waitingIds ++ es.filterMap Event.passedOver?).Nodup :=
  h.pending.nodup_iff.1 h.upright.backed.indexed.nodup_pending

theorem passedOver_concat (es : List Event) (e : Event) : (es ++ [e]).filterMap Event.passedOver? =
    es.filterMap Event.passedOver? ++ e.passedOver?.toList := by
  rw [List.filterMap_append, List.filterMap_cons]
  cases e.passedOver? <;> rfl

theorem Held.step (hplans : ∀ p, inService p → p.IsBuilt) (h : Held es s)
    (hstep : Step inService drift s e t) : Held (es ++ [e]) t := by
  have hids := h.pending
  refine ⟨(hstep.upright hplans h.upright).1, ?_⟩
  rw [passedOver_concat, Event.passedOver?]
  cases hstep.shift hplans h.upright with
  | still silent jobs queue =>
    rw [silent, jobs, Daemon.waitingIds, queue, Option.filter_none, Option.map_none,
      Option.toList_none, List.append_nil]
    exact hids
  | @joined j silent jobs queue =>
    rw [silent, jobs, Daemon.waitingIds, queue, List.map_append, Option.filter_none,
      Option.map_none, Option.toList_none, List.append_nil]
    exact (List.perm_append_singleton j.id _).trans (hids.cons j.id)
  | @left j rest o answered about popped jobs queue =>
    obtain ⟨hperm, -⟩ := Job.Queue.waiting_pop? h.upright.backed.numbered popped
    obtain ⟨-, hstored, hpending, -⟩ := h.upright.backed.pop popped
    have htaken : (s.daemon.jobs.pending.map (·.id)).Perm
        (j.id :: (t.daemon.waitingIds ++ es.filterMap Event.passedOver?)) := by
      rw [Daemon.waitingIds, queue]
      exact hids.trans ((hperm.map (·.id)).append_right _)
    rw [jobs, answered, Option.filter_some]
    cases hskips : o.skips with
    | true =>
      rw [if_pos rfl, if_pos rfl, Option.map_some, about, Option.toList_some, ← List.append_assoc]
      exact htaken.trans (List.perm_append_singleton j.id _).symm
    | false =>
      -- The job that was handed out leaves the pending ones.
      have hleft : (s.daemon.jobs.pending.map (·.id)).Perm
          (j.id :: (s.daemon.jobs.pending.filter fun k => k.id != j.id).map (·.id)) :=
        Job.perm_cons_filter_id h.upright.backed.indexed.nodup_pending
          (Job.Archive.mem_pending.2 ⟨hstored, hpending⟩)
      rw [if_neg Bool.false_ne_true, if_neg Bool.false_ne_true, Option.map_none, Option.toList_none, List.append_nil]
      exact List.perm_cons j.id |>.1 (hleft.symm.trans htaken)

theorem Held.not_waiting {id : JobId} (h : Held es s)
    (hover : id ∈ es.filterMap Event.passedOver?) : id ∉ s.daemon.waitingIds :=
  fun hwaits => (List.nodup_append.1 h.nodup).2.2 _ hwaits _ hover rfl

/-- A pending job that does not wait stays pending, and no event is about it. -/
theorem Shift.stays {j : Job} (hshift : Shift s t e) (h : s.Upright)
    (hj : j ∈ s.daemon.jobs.pending) (hout : j.id ∉ s.daemon.waitingIds) :
    j ∈ t.daemon.jobs.pending ∧ ∀ o, e.outcome? = some o → o.id ≠ j.id := by
  cases hshift with
  | still silent jobs queue =>
    rw [jobs, silent]
    exact ⟨hj, nofun⟩
  | joined silent jobs queue =>
    rw [jobs, silent]
    exact ⟨List.mem_append_left _ hj, nofun⟩
  | @left k rest o answered about popped jobs queue =>
    obtain ⟨hperm, -⟩ := Job.Queue.waiting_pop? h.backed.numbered popped
    have hk : k.id ∈ s.daemon.waitingIds := (hperm.map (·.id)).mem_iff.2 List.mem_cons_self
    have hne : j.id ≠ k.id := fun hid => hout (hid ▸ hk)
    rw [jobs, answered]
    refine ⟨?_, fun o' ho => ?_⟩
    · split
      · exact hj
      · exact List.mem_filter.2 ⟨hj, by simpa using hne⟩
    · obtain rfl := Option.some.inj ho
      rw [about]
      exact hne.symm

/-- A job that was passed over stays pending, does not wait, and is never handed out again. -/
theorem Held.forgotten {fs : List Event} {j : Job} (hplans : ∀ p, inService p → p.IsBuilt)
    (h : Held es s) (hj : j ∈ s.daemon.jobs.pending)
    (hover : j.id ∈ es.filterMap Event.passedOver?) (hrun : Run inService drift s fs t) :
    Held (es ++ fs) t ∧ j ∈ t.daemon.jobs.pending ∧ j.id ∉ t.daemon.waitingIds ∧
      ∀ o ∈ fs.filterMap Event.outcome?, o.id ≠ j.id := by
  have hkept : ∀ gs, j.id ∈ (es ++ gs).filterMap Event.passedOver? := by
    intro gs
    rw [List.filterMap_append]
    exact List.mem_append_left _ hover
  induction hrun with
  | nil =>
    rw [List.append_nil]
    exact ⟨h, hj, h.not_waiting hover, nofun⟩
  | @snoc fs e t u _ last ih =>
    obtain ⟨ht, hmem, hout, hids⟩ := ih
    obtain ⟨hstays, hother⟩ := (last.shift hplans ht.upright).stays ht.upright hmem hout
    have hu := ht.step hplans last
    rw [List.append_assoc] at hu
    refine ⟨hu, hstays, hu.not_waiting (hkept _), fun o ho => ?_⟩
    rw [List.filterMap_append] at ho
    rcases List.mem_append.1 ho with ho | ho
    · exact hids o ho
    · obtain ⟨e', he', hsome⟩ := List.mem_filterMap.1 ho
      obtain rfl := List.mem_singleton.1 he'
      exact hother o hsome

/-- In every reachable state a pending job waits exactly once, unless it was handed out when its
type had no executor. Such a job stays pending without waiting, and whatever executors there are
later, it is never handed out again. -/
theorem pending_waits_unless_passedOver (hplans : ∀ p, inService p → p.IsBuilt) {x : ε}
    (h : Run inService drift (fresh x) es s) {j : Job} (hj : j ∈ s.daemon.jobs.toList)
    (hpending : j.status = .pending) :
    s.daemon.waitingIds.count j.id =
      (if j.id ∈ es.filterMap Event.passedOver? then 0 else 1) ∧
    (j.id ∈ es.filterMap Event.passedOver? → ∀ fs t, Run inService drift s fs t →
      j ∈ t.daemon.jobs.toList ∧ j.id ∉ t.daemon.waitingIds ∧
      ∀ now o, .dispatch now (some o) ∈ fs → o.id ≠ j.id) := by
  have hheld : Held es s := h.invariant (held_fresh x) fun _ _ _ _ hi hs => hi.step hplans hs
  have hmem := Job.Archive.mem_pending.2 ⟨hj, hpending⟩
  refine ⟨?_, fun hover fs t hrun => ?_⟩
  · have hone := List.count_eq_one_of_mem hheld.upright.backed.indexed.nodup_pending
      (List.mem_map_of_mem (f := (·.id)) hmem)
    rw [hheld.pending.count_eq, List.count_append] at hone
    split
    next hover =>
      have hpos := List.count_pos_iff.2 hover
      omega
    next hnot =>
      have hzero := List.count_eq_zero.2 hnot
      omega
  · obtain ⟨-, hstays, hout, hids⟩ := hheld.forgotten hplans hmem hover hrun
    refine ⟨(Job.Archive.mem_pending.1 hstays).1, hout, fun now o ho => hids o ?_⟩
    exact List.mem_filterMap.2 ⟨_, ho, rfl⟩

def lonelyJob : Job := { id := ⟨9#128⟩, jobType := Job.mpiType, createdAt := ⟨0, 0⟩ }

/-- A job of several replicas that is handed out too early stays pending for ever. -/
theorem pending_waits_unless_passedOver_lonely : ∃ es s,
    Run Plan.IsBuilt (fun _ _ => False) (fresh ()) es s ∧ lonelyJob ∈ s.daemon.jobs.toList ∧
    lonelyJob.status = .pending ∧ s.daemon.waitingIds.count lonelyJob.id = 0 ∧
    ∀ fs t, Run Plan.IsBuilt (fun _ _ => False) s fs t →
      lonelyJob ∈ t.daemon.jobs.toList ∧ lonelyJob.id ∉ t.daemon.waitingIds ∧
      ∀ now o, .dispatch now (some o) ∈ fs → o.id ≠ lonelyJob.id := by
  obtain ⟨a, ha⟩ := Job.Archive.exists_add_empty lonelyJob
  have hstored : lonelyJob ∈ a.toList := by
    rw [Job.Archive.toList_add ha]
    exact List.mem_append_right _ (List.mem_singleton_self _)
  let d₁ : Daemon Unit := { executors := (), jobs := a }
  let d₂ : Daemon Unit := { d₁ with dispatcher := { queue := Job.Queue.empty.push lonelyJob } }
  have submitted : Daemon.submit refusingPlan ⟨0, 0⟩ lonelyJob (fresh ()).daemon =
      .ok (.ok ()) d₂ := by
    have room : Daemon.makeRoomFor refusingPlan ⟨0, 0⟩ lonelyJob d₁ = .ok () d₁ := rfl
    exact Daemon.submit_of_add rfl ha room
  have launched : Action.attempt (refusingPlan.registry.execute lonelyJob) d₂.executors =
      .ok (.error (.executorNotFound Job.mpiType)) () := rfl
  have dispatched := Daemon.dispatchNext_of_pop (d := d₂) ⟨1, 0⟩ rfl launched
  have run : Run Plan.IsBuilt (fun _ _ => False) (fresh ()) _ _ :=
    (Runs.single (.submit refusingPlan_isBuilt ⟨rfl, rfl, rfl, rfl⟩ submitted)).snoc
      (.dispatch refusingPlan_isBuilt dispatched)
  obtain ⟨hcount, hlater⟩ :=
    pending_waits_unless_passedOver (fun _ hp => hp) run (j := lonelyJob) hstored rfl
  refine ⟨_, _, run, hstored, rfl, ?_, hlater (List.mem_singleton_self _)⟩
  exact hcount.trans (if_pos (List.mem_singleton_self _))

end Session

end GpuCluster
