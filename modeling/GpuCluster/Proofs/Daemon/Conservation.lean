import GpuCluster.Proofs.Daemon.Ledger
import GpuCluster.Proofs.Daemon.Session
import GpuCluster.Proofs.Job.Backlog

/-!
# Units are conserved

* `Session.Upright` : the ledger is balanced and all waiting jobs are stored;
* `Step.upright` : every event keeps a session upright, and its ledger continues;
* `Session.History` : the events so far account for the stored jobs and for the releases;
* `units_conserved` : in every reachable state, what a project uses is what its jobs hold.
-/

namespace GpuCluster

namespace Daemon

variable {ε : Type} {d d' : Daemon ε} {id : JobId} {ids owed : List JobId}

/-- A job that is owed a release gets it. -/
theorem releaseOf_balanced (h : (⟨d.quotas, d.jobs, id :: owed⟩ : Ledger).Balanced)
    (hr : releaseOf id d = .ok () d') :
    ∃ t, d' = { d with quotas := t } ∧ (⟨t, d.jobs, owed⟩ : Ledger).Balanced ∧
      (⟨d.quotas, d.jobs, id :: owed⟩ : Ledger).Continues ⟨t, d.jobs, owed⟩ := by
  obtain ⟨j, t, hf, hrel, hb, hc⟩ := h.release rfl
  rw [releaseOf_of_find? hf, release_of_ok hrel] at hr
  cases hr
  exact ⟨t, rfl, hb, hc⟩

theorem releaseAll_balanced (h : (⟨d.quotas, d.jobs, ids ++ owed⟩ : Ledger).Balanced)
    (hr : releaseAll ids d = .ok () d') :
    ∃ t, d' = { d with quotas := t } ∧ (⟨t, d.jobs, owed⟩ : Ledger).Balanced ∧
      (⟨d.quotas, d.jobs, ids ++ owed⟩ : Ledger).Continues ⟨t, d.jobs, owed⟩ := by
  induction ids generalizing d with
  | nil =>
    obtain ⟨-, rfl⟩ := Action.pure_ok.1 hr
    exact ⟨d.quotas, rfl, h, .refl _⟩
  | cons id rest ih =>
    obtain ⟨_, u, hfirst, hrest⟩ := Action.bind_ok.1 hr
    obtain ⟨t, rfl, hb, hc⟩ := releaseOf_balanced h hfirst
    obtain ⟨t', rfl, hb', hc'⟩ := ih hb hrest
    exact ⟨t', rfl, hb', hc.trans hc'⟩

end Daemon

namespace Session

open Daemon (Plan Report quotaStore submit submit_of_add makeRoomFor dispatchNext
  dispatchNext_of_pop knownStrategies)

variable {ε : Type} {inService : Plan ε → Prop} {drift : ε → ε → Prop} {s t : Session ε}
  {e : Event} {es : List Event}

/-- The quotas, the jobs, and the releases that are owed for undelivered reports. -/
def ledger (s : Session ε) : Ledger := ⟨s.daemon.quotas, s.daemon.jobs, s.owed⟩

/-- The ledger is balanced and all waiting jobs are stored. -/
structure Upright (s : Session ε) : Prop where
  balanced : s.ledger.Balanced
  backed : s.daemon.dispatcher.queue.Backed s.daemon.jobs

theorem upright_fresh (e : ε) : (fresh e).Upright := ⟨Ledger.balanced_empty, Job.Queue.backed_empty⟩

theorem owed_erase {r : Report} (hr : r ∈ s.reports) :
    s.owed.Perm (r.owed?.toList ++ (s.reports.erase r).filterMap Report.owed?) := by
  have hperm := (List.perm_cons_erase hr).filterMap Report.owed?
  rw [List.filterMap_cons] at hperm
  cases ho : r.owed? with
  | none =>
    rw [ho] at hperm
    exact hperm
  | some id =>
    rw [ho] at hperm
    exact hperm

theorem ledger_append (d : Daemon ε) (reports new : List Report) :
    (⟨d, reports ++ new⟩ : Session ε).ledger =
      ⟨d.quotas, d.jobs, reports.filterMap Report.owed? ++ new.filterMap Report.owed?⟩ := by
  rw [ledger, owed, List.filterMap_append]

/-- A job that is handed out keeps its units; if it fails, a release is owed. -/
theorem settle_balanced {l : Ledger} {j : Job} (now : Instant) (answer : Except Error Unit)
    (h : l.Balanced) (hmem : j ∈ l.jobs.toList) (hj : j.isTerminal = false) :
    (⟨l.quotas, l.jobs.settle now (Dispatcher.outcomeOf j answer), l.owed ++
      (Report.dispatched (Dispatcher.outcomeOf j answer)).owed?.toList⟩ : Ledger).Balanced ∧
    l.Continues ⟨l.quotas, l.jobs.settle now (Dispatcher.outcomeOf j answer), l.owed ++
      (Report.dispatched (Dispatcher.outcomeOf j answer)).owed?.toList⟩ := by
  have hf := h.indexed.find?_of_mem hmem
  rcases Dispatcher.outcomeOf_cases j answer with ⟨-, ho⟩ | ⟨err, -, ho⟩ | ⟨t, -, ho⟩
  · have hnone : (Report.dispatched (.started j.id)).owed?.toList = [] := rfl
    rw [ho, hnone, List.append_nil]
    exact h.start now none hf hj
  · rw [ho, Report.owed?]
    obtain ⟨hb, hc⟩ :=
      h.finish now (some err.message) hf hj (rfl : JobStatus.failed.isTerminal = true)
    obtain ⟨hb', hc'⟩ := hb.perm (List.perm_append_singleton j.id l.owed).symm
    exact ⟨hb', hc.trans hc'⟩
  · have hnone : (Report.dispatched (.unsupported j.id j.jobType)).owed?.toList = [] := rfl
    rw [ho, hnone, List.append_nil]
    exact ⟨h, .refl l⟩

/-- The records of the jobs that still wait are left alone. -/
theorem settle_backed {q : Job.Queue} {a : Job.Archive} {now : Instant} {j : Job}
    {answer : Except Error Unit} (h : q.Backed a) (hid : j.id ∉ q.waiting.map (·.id)) :
    q.Backed (a.settle now (Dispatcher.outcomeOf j answer)) := by
  rcases Dispatcher.outcomeOf_cases j answer with ⟨-, ho⟩ | ⟨err, -, ho⟩ | ⟨t, -, ho⟩
  · rw [ho]
    exact h.modify (fun _ => rfl) hid
  · rw [ho]
    exact h.modify (fun _ => rfl) hid
  · rw [ho]
    exact h

theorem deliver_balanced {r : Report} {d : Daemon ε} (h : s.Upright) (hr : r ∈ s.reports)
    (hd : r.deliver s.daemon = .ok () d) :
    ∃ t, d = { s.daemon with quotas := t } ∧
      (⟨d, s.reports.erase r⟩ : Session ε).ledger.Balanced ∧
      s.ledger.Continues (⟨d, s.reports.erase r⟩ : Session ε).ledger := by
  obtain ⟨hb, hc⟩ := h.balanced.perm (owed_erase hr)
  cases ho : r.owed? with
  | none =>
    rw [ho] at hb hc
    -- Only reports that owe a release do anything.
    have hsame : d = s.daemon := by
      rcases r with o | f
      · cases o with
        | failed id reason => cases ho
        | started id => exact (Action.pure_ok.1 hd).2.symm
        | unsupported id jobType => exact (Action.pure_ok.1 hd).2.symm
      · cases ho
    subst hsame
    exact ⟨s.daemon.quotas, rfl, hb, hc⟩
  | some id =>
    rw [ho] at hb hc
    have hrel : Daemon.releaseOf id s.daemon = .ok () d := by
      rcases r with o | f
      · cases o with
        | failed other reason =>
          obtain rfl := Option.some.inj ho
          exact hd
        | started other => cases ho
        | unsupported other jobType => cases ho
      · obtain rfl := Option.some.inj ho
        exact hd
    obtain ⟨t, rfl, hb', hc'⟩ := Daemon.releaseOf_balanced hb hrel
    exact ⟨t, rfl, hb', hc.trans hc'⟩

theorem submit_upright {p : Plan ε} {now : Instant} {j : Job}
    {answer : Except Daemon.Refusal Unit} {d : Daemon ε} (h : s.Upright) (hp : p.IsBuilt)
    (hj : j.IsNew) (hd : Daemon.submit p now j s.daemon = .ok answer d) :
    (⟨d, s.reports⟩ : Session ε).Upright ∧
      s.ledger.Continues (⟨d, s.reports⟩ : Session ε).ledger ∧
      d.jobs.toList.map (·.id) =
        s.daemon.jobs.toList.map (·.id) ++ (Event.submit now j answer).admitted?.toList := by
  have hactive : j.isTerminal = false := by
    rw [Job.isTerminal, hj.pending]
    rfl
  cases Daemon.submit_ok hd with
  | rejected => exact ⟨h, .refl _, (List.append_nil _).symm⟩
  | @notStored _ t _ reserved released =>
    obtain ⟨hkept, hused⟩ := Quota.Store.reserveFor_ok h.balanced.kept reserved
    have hcovered : j.mpsUnits.toNat ≤ Quota.usedIn t j.projectId := by
      rw [hused, Job.unitsFor, if_pos rfl]
      exact Nat.le_add_left ..
    obtain ⟨t', hrel, hkept', hused'⟩ := Quota.Store.releaseFor_covered hkept hcovered
    rw [Daemon.release_of_ok (d := { s.daemon with quotas := t }) hrel] at released
    cases released
    obtain ⟨hb, hc⟩ := h.balanced.of_used hkept' fun project =>
      Nat.add_right_cancel ((hused' project).symm.trans (hused project))
    exact ⟨⟨hb, h.backed⟩, hc, (List.append_nil _).symm⟩
  | @admitted t a d' reserved stored room =>
    obtain ⟨hkept, hused⟩ := Quota.Store.reserveFor_ok h.balanced.kept reserved
    obtain ⟨hb₁, hc₁⟩ := h.balanced.admit hkept hused hactive stored
    obtain ⟨ids, reason, b, hdep, hrel⟩ := Daemon.makeRoomFor_ok hp hb₁.indexed room
    obtain ⟨hb₂, hc₂⟩ := hb₁.departs hdep fun x hx => by
      obtain ⟨id, -, rfl⟩ := List.mem_map.1 hx
      rfl
    have hids : (Preemption.departures reason ids).map (·.id) = ids := by
      rw [Preemption.departures, List.map_map]
      exact List.map_id ids
    rw [hids] at hb₂ hc₂
    obtain ⟨t', rfl, hb₃, hc₃⟩ := Daemon.releaseAll_balanced hb₂ hrel
    have hmem : j ∈ a.toList := by
      rw [Job.Archive.toList_add stored]
      exact List.mem_append_right _ (List.mem_singleton_self j)
    have hstays : j ∈ b.toList := hdep.mem_of_not_running hb₁.indexed hmem fun hs => by
      rw [hj.pending] at hs
      cases hs
    refine ⟨⟨hb₃, ?_⟩, (hc₁.trans hc₂).trans hc₃, ?_⟩
    · exact ((h.backed.add stored).departs hdep).push hstays hj.pending
        (h.backed.not_waiting_of_add stored)
    · refine (hdep.ids hb₁.indexed).trans ?_
      rw [Job.Archive.toList_add stored, List.map_append]
      rfl

theorem dispatch_upright {p : Plan ε} {now : Instant} {outcome : Option Dispatcher.Outcome}
    {d : Daemon ε} (h : s.Upright) (hd : Daemon.dispatchNext p now s.daemon = .ok outcome d) :
    (⟨d, s.reports ++ outcome.toList.map .dispatched⟩ : Session ε).Upright ∧
      s.ledger.Continues
        (⟨d, s.reports ++ outcome.toList.map .dispatched⟩ : Session ε).ledger ∧
      d.jobs.toList.map (·.id) = s.daemon.jobs.toList.map (·.id) := by
  cases Daemon.dispatchNext_ok hd with
  | idle =>
    have hreports : s.reports ++ (none : Option Dispatcher.Outcome).toList.map .dispatched =
        s.reports := List.append_nil _
    rw [hreports]
    exact ⟨h, .refl _, rfl⟩
  | @handed j queue answer e popped launched =>
    obtain ⟨hq, hmem, hpending, hid⟩ := h.backed.pop popped
    have hactive : j.isTerminal = false := by
      rw [Job.isTerminal, hpending]
      rfl
    obtain ⟨hb, hc⟩ := settle_balanced now answer h.balanced hmem hactive
    have hone : ((some (Dispatcher.outcomeOf j answer)).toList.map Report.dispatched).filterMap
        Report.owed? = (Report.dispatched (Dispatcher.outcomeOf j answer)).owed?.toList := by
      rw [Option.toList_some, List.map_singleton, List.filterMap_cons]
      cases (Report.dispatched (Dispatcher.outcomeOf j answer)).owed? <;> rfl
    refine ⟨⟨?_, ?_⟩, ?_, h.balanced.indexed.ids_settle now _⟩
    · rw [ledger_append, hone]
      exact hb
    · rw [Dispatcher.queue_count]
      exact settle_backed hq hid
    · rw [ledger_append, hone]
      exact hc

theorem reconcile_upright {p : Plan ε} {now : Instant} {fs : List Reconcile.Finished}
    {d : Daemon ε} (h : s.Upright) (hd : Daemon.reconcile p now s.daemon = .ok fs d) :
    (⟨d, s.reports ++ fs.map .finished⟩ : Session ε).Upright ∧
      s.ledger.Continues (⟨d, s.reports ++ fs.map .finished⟩ : Session ε).ledger ∧
      d.jobs.toList.map (·.id) = s.daemon.jobs.toList.map (·.id) := by
  obtain ⟨a, e, rfl, hdep, hterm⟩ := Daemon.reconcile_departs h.balanced.indexed hd
  obtain ⟨hb, hc⟩ := h.balanced.departs hdep fun x hx => by
    obtain ⟨f, hf, rfl⟩ := List.mem_map.1 hx
    exact hterm f hf
  have howed : (fs.map Report.finished).filterMap Report.owed? = fs.map (·.id) := by
    rw [List.filterMap_map]
    exact congrFun List.filterMap_eq_map fs
  have hids : (fs.map Daemon.departure).map (·.id) = fs.map (·.id) := by
    rw [List.map_map]
    rfl
  rw [hids] at hb hc
  have hcomm : (fs.map (·.id) ++ s.owed).Perm (s.owed ++ fs.map (·.id)) := List.perm_append_comm
  obtain ⟨hb', hc'⟩ := hb.perm hcomm
  refine ⟨⟨?_, h.backed.departs hdep⟩, ?_, hdep.ids h.balanced.indexed⟩
  · rw [ledger_append, howed]
    exact hb'
  · rw [ledger_append, howed]
    exact hc.trans hc'

/-- Every event keeps a session upright, its ledger continues, and only an admission adds a job. -/
theorem Step.upright (hplans : ∀ p, inService p → p.IsBuilt) (h : s.Upright)
    (hstep : Step inService drift s e t) :
    t.Upright ∧ s.ledger.Continues t.ledger ∧ t.daemon.jobs.toList.map (·.id) =
      s.daemon.jobs.toList.map (·.id) ++ e.admitted?.toList := by
  cases hstep with
  | total set =>
    rw [Daemon.quotaStore, Quota.Store.within_setTotal Daemon.quotasPart_lawful] at set
    rcases Action.attempt_ok set with ⟨_, rfl, hzoom⟩ | ⟨err, rfl, hzoom⟩
    · obtain ⟨u, hset, rfl⟩ := Action.zoom_ok.1 hzoom
      obtain ⟨hkept, hused⟩ := Quota.Store.setTotal_ok h.balanced.kept hset
      obtain ⟨hb, hc⟩ := h.balanced.of_used hkept hused
      exact ⟨⟨hb, h.backed⟩, hc, (List.append_nil _).symm⟩
    · obtain ⟨u, hset, rfl⟩ := Action.zoom_error.1 hzoom
      obtain rfl := Quota.Store.setTotal_error hset
      exact ⟨h, .refl _, (List.append_nil _).symm⟩
  | reading m => exact ⟨⟨h.balanced, h.backed⟩, .refl _, (List.append_nil _).symm⟩
  | submit plan new submitted => exact submit_upright h (hplans _ plan) new submitted
  | dispatch plan dispatched =>
    obtain ⟨hu, hc, hids⟩ := dispatch_upright h dispatched
    exact ⟨hu, hc, hids.trans (List.append_nil _).symm⟩
  | reconcile plan reconciled =>
    obtain ⟨hu, hc, hids⟩ := reconcile_upright h reconciled
    exact ⟨hu, hc, hids.trans (List.append_nil _).symm⟩
  | deliver reported delivered =>
    obtain ⟨u, rfl, hb, hc⟩ := deliver_balanced h reported delivered
    exact ⟨⟨hb, h.backed⟩, hc, (List.append_nil _).symm⟩
  | drift drifts => exact ⟨⟨h.balanced, h.backed⟩, .refl _, (List.append_nil _).symm⟩

/-! ## The events so far -/

/-- The admitted jobs are the stored ones, in order, and a job whose release was settled holds
nothing. -/
structure History (es : List Event) (s : Session ε) : Prop where
  upright : s.Upright
  admitted : s.daemon.jobs.toList.map (·.id) = es.filterMap Event.admitted?
  nodup : (es.filterMap Event.settled?).Nodup
  settled : ∀ id ∈ es.filterMap Event.settled?, ∃ j ∈ s.daemon.jobs.toList, j.id = id ∧
    s.ledger.holds j = false

theorem history_fresh (e : ε) : History [] (fresh e) where
  upright := upright_fresh e
  admitted := rfl
  nodup := List.nodup_nil
  settled _ h := absurd h List.not_mem_nil

/-- A settled release was owed before the event and is not owed afterwards. -/
theorem Step.settles (h : s.Upright) (hstep : Step inService drift s e t) {id : JobId}
    (hs : e.settled? = some id) :
    id ∈ s.owed ∧ id ∉ t.owed ∧ t.daemon.jobs = s.daemon.jobs := by
  cases hstep with
  | @deliver r d reported delivered =>
    have hperm := owed_erase reported
    have hr : r.owed? = some id := hs
    rw [hr] at hperm
    have hnodup := hperm.nodup_iff.1 h.balanced.nodup
    obtain ⟨u, rfl, -⟩ := deliver_balanced h reported delivered
    exact ⟨hperm.mem_iff.2 List.mem_cons_self, (List.nodup_cons.1 hnodup).1, rfl⟩
  | _ => cases hs

theorem History.step (hplans : ∀ p, inService p → p.IsBuilt) (h : History es s)
    (hstep : Step inService drift s e t) : History (es ++ [e]) t := by
  obtain ⟨hu, hc, hids⟩ := hstep.upright hplans h.upright
  have hlast : ∀ f : Event → Option JobId,
      (es ++ [e]).filterMap f = es.filterMap f ++ (f e).toList := by
    intro f
    rw [List.filterMap_append, List.filterMap_cons]
    cases f e <;> rfl
  have hearlier : ∀ id ∈ es.filterMap Event.settled?, ∃ j ∈ t.daemon.jobs.toList, j.id = id ∧
      t.ledger.holds j = false := by
    intro id hid
    obtain ⟨j, hj, rfl, hnot⟩ := h.settled id hid
    obtain ⟨k, hk, hkid, -, -, hold⟩ := hc j hj
    refine ⟨k, hk, hkid, Bool.eq_false_iff.2 fun hh => ?_⟩
    have hholds := hold hh
    rw [show s.ledger.holds j = false from hnot] at hholds
    cases hholds
  refine ⟨hu, ?_, ?_, ?_⟩
  · rw [hids, hlast, h.admitted]
  · rw [hlast]
    cases hs : e.settled? with
    | none =>
      rw [Option.toList_none, List.append_nil]
      exact h.nodup
    | some id =>
      refine List.nodup_append.2 ⟨h.nodup, List.nodup_singleton id, ?_⟩
      rintro x hx y hy rfl
      obtain rfl := List.mem_singleton.1 hy
      obtain ⟨j, -, rfl, hnot⟩ := h.settled x hx
      rw [Ledger.holds_eq_true_iff.2 (.inr (hstep.settles h.upright hs).1)] at hnot
      cases hnot
  · rw [hlast]
    intro id hid
    rcases List.mem_append.1 hid with hid | hid
    · exact hearlier id hid
    · obtain ⟨howed, hnot, hjobs⟩ := hstep.settles h.upright (Option.mem_toList.1 hid)
      obtain ⟨j, hj, rfl, hterm⟩ := h.upright.balanced.ended id howed
      refine ⟨j, hjobs ▸ hj, rfl, Bool.eq_false_iff.2 fun hh => ?_⟩
      rcases Ledger.holds_eq_true_iff.1 hh with hf | ho
      · rw [hterm] at hf
        cases hf
      · exact hnot ho

/-! ## Conservation -/

/-- What holders have in common: they wait or run, or their release is still owed. -/
theorem unitsOf_holders (h : s.Upright) (project : String) :
    Job.unitsOf project s.ledger.holders =
      Job.unitsOf project (s.daemon.jobs.withStatus [.pending, .running]) +
        Job.unitsOf project (s.daemon.jobs.toList.filter fun j => s.owed.contains j.id) := by
  refine Job.unitsOf_filter_or fun j hj => ?_
  have hiff : [JobStatus.pending, .running].contains j.status = !j.isTerminal := by
    rw [Job.isTerminal]
    cases j.status <;> rfl
  refine ⟨by rw [hiff]; rfl, fun hw => ?_⟩
  rw [hiff, Bool.not_eq_true'] at hw
  refine Bool.eq_false_iff.2 fun ho => ?_
  obtain ⟨k, hk, hid, hterm⟩ := h.balanced.ended j.id (List.contains_iff_mem.1 ho)
  rw [h.balanced.indexed.eq_of_id hk hj hid, hw] at hterm
  cases hterm

/-- In every reachable state the units that a project uses are those of its jobs that wait or run,
and those of its ended jobs whose report has not been delivered, and they never exceed the total.
Each admitted job is stored once, each release is settled once, and a job that gave its units back
does not take them again. -/
theorem units_conserved (hplans : ∀ p, inService p → p.IsBuilt) {x : ε}
    (h : Run inService drift (fresh x) es s) :
    (∀ project q, s.daemon.quotas.get? project = some q →
      q.used.toNat = Job.unitsOf project (s.daemon.jobs.withStatus [.pending, .running]) +
        Job.unitsOf project (s.daemon.jobs.toList.filter fun j => s.owed.contains j.id) ∧
      q.used ≤ q.total) ∧
    (s.daemon.jobs.toList.map (·.id) = es.filterMap Event.admitted? ∧
      (es.filterMap Event.admitted?).Nodup) ∧
    ((es.filterMap Event.settled? ++ s.owed).Nodup ∧
      ∀ id ∈ s.owed, ∃ j ∈ s.daemon.jobs.toList, j.id = id ∧ j.isTerminal = true) ∧
    ∀ fs t, Run inService drift s fs t → s.ledger.Continues t.ledger := by
  have hist : History es s := h.invariant (history_fresh x) fun _ _ _ _ hi hs => hi.step hplans hs
  have up := hist.upright
  refine ⟨fun project q hq => ?_, ⟨hist.admitted, ?_⟩, ⟨?_, up.balanced.ended⟩, ?_⟩
  · refine ⟨?_, (up.balanced.kept project q hq).2⟩
    have hcovers : Quota.usedIn s.daemon.quotas project = _ := up.balanced.covers project
    rw [Quota.usedIn_of_get? hq, unitsOf_holders up] at hcovers
    exact hcovers
  · rw [← hist.admitted]
    exact up.balanced.indexed.nodup
  · refine List.nodup_append.2 ⟨hist.nodup, up.balanced.nodup, ?_⟩
    rintro id hid _ howed rfl
    obtain ⟨j, -, rfl, hnot⟩ := hist.settled id hid
    rw [Ledger.holds_eq_true_iff.2 (.inr howed)] at hnot
    cases hnot
  · intro fs t hrun
    refine hrun.relates (I := Upright) (R := fun s t => s.ledger.Continues t.ledger) up
      (fun _ => .refl _) (fun _ _ _ => .trans) fun _ _ _ hu hs => ?_
    obtain ⟨hu', hc, -⟩ := hs.upright hplans hu
    exact ⟨hu', hc⟩

/-- An executor that takes no job. -/
def refusing : Executor Unit where
  name := "refusing"
  supports _ := true
  execute _ := Action.fail (.unavailable "no machine")
  cancel _ := pure ()
  status _ := pure .running
  logs _ := pure ""
  release _ := pure ()

/-- A plan in which every plain job is refused. -/
def refusingPlan : Plan Unit where
  settings := {}
  registry := Executor.Registry.empty.register Job.batchType refusing
  strategies := { knownStrategies ({} : Settings).preemption.policy with
    active := some Preemption.cumulativeName }
  backend := none
  cluster := none

theorem refusingPlan_isBuilt : refusingPlan.IsBuilt :=
  ⟨{}, Executor.Registry.empty.register Job.batchType refusing, none, rfl⟩

/-- A job of four units. -/
def smallJob : Job := { id := ⟨7#128⟩, projectId := "vision", mpsUnits := 4, createdAt := ⟨0, 0⟩ }

/-- A job that was refused is owed its units until the report of its end is delivered. -/
theorem units_conserved_refused : ∃ es s,
    Run Plan.IsBuilt (fun _ _ => False) (fresh ()) es s ∧ smallJob.id ∈ s.owed ∧
    s.daemon.quotas.get? "vision" = some ⟨"vision", 10, 4⟩ ∧
    4 = Job.unitsOf "vision" (s.daemon.jobs.withStatus [.pending, .running]) +
      Job.unitsOf "vision" (s.daemon.jobs.toList.filter fun j => s.owed.contains j.id) := by
  obtain ⟨a, ha⟩ := Job.Archive.exists_add_empty smallJob
  let d₁ : Daemon Unit := { executors := (), quotas := ⟨[("vision", ⟨"vision", 10, 0⟩)]⟩ }
  let d₂ : Daemon Unit := { d₁ with quotas := ⟨[("vision", ⟨"vision", 10, 4⟩)]⟩, jobs := a }
  let d₃ : Daemon Unit := { d₂ with dispatcher := { queue := Job.Queue.empty.push smallJob } }
  let o : Dispatcher.Outcome := .failed smallJob.id (Error.unavailable "no machine").message
  have total : Action.attempt (quotaStore.setTotal "vision" 10) (fresh ()).daemon =
      .ok (.ok ()) d₁ := rfl
  have submitted : submit refusingPlan ⟨0, 0⟩ smallJob d₁ = .ok (.ok ()) d₃ := by
    have room : makeRoomFor refusingPlan ⟨0, 0⟩ smallJob d₂ = .ok () d₂ := rfl
    exact submit_of_add rfl ha room
  have dispatched : dispatchNext refusingPlan ⟨1, 0⟩ d₃ = .ok (some o)
      { d₃ with jobs := a.settle ⟨1, 0⟩ o, dispatcher := { failed := 1, queue := ⟨[], 1⟩ } } := by
    have popped : d₃.dispatcher.queue.pop? = some (smallJob, ⟨[], 1⟩) := rfl
    have launched : Action.attempt (refusingPlan.registry.execute smallJob) d₃.executors =
        .ok (.error (.unavailable "no machine")) () := rfl
    exact dispatchNext_of_pop ⟨1, 0⟩ popped launched
  have first : Run Plan.IsBuilt (fun _ _ => False) (fresh ()) _ ⟨d₃, []⟩ :=
    (Runs.single (.total total)).snoc
      (.submit refusingPlan_isBuilt ⟨rfl, rfl, rfl, rfl⟩ submitted)
  have run := first.snoc (.dispatch refusingPlan_isBuilt dispatched)
  refine ⟨_, _, run, List.mem_singleton_self _, rfl, ?_⟩
  exact ((units_conserved (fun _ hp => hp) run).1 "vision" _ rfl).1

end Session

end GpuCluster
