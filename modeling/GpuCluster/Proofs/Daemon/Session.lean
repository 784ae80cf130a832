import GpuCluster.Daemon.Basic
import GpuCluster.Proofs.Runs

/-!
# Sessions of a daemon

A session is a daemon at work together with the reports that have not reached it yet.

* `Daemon.Report` : what a step of either loop reports, `Report.deliver` : what follows from it;
* `Session.Event` : what can happen, with the answer it got;
* `Session.Step` : one event, by a plan that is in service; executors may drift on their own;
* `Session.Run` : any number of events in any order.
-/

namespace GpuCluster

/-- A job as it is made: pending, without any history. -/
structure Job.IsNew (j : Job) : Prop where
  pending : j.status = .pending
  notStarted : j.startedAt = none
  notCompleted : j.completedAt = none
  noError : j.errorMessage = none

namespace Daemon

/-- What a step of the dispatch loop or of the reconcile loop reports. -/
inductive Report where
  | dispatched (o : Dispatcher.Outcome)
  | finished (f : Reconcile.Finished)
  deriving DecidableEq

namespace Report

variable {ε : Type}

/-- What follows from a report. -/
def deliver : Report → Action (Daemon ε) Unit
  | dispatched o => onDispatch o
  | finished f => onFinished f

/-- The job whose units are given back for a report. -/
def owed? : Report → Option JobId
  | dispatched (.failed id _) => some id
  | dispatched _ => none
  | finished f => some f.id

end Report

end Daemon

/-- A daemon at work, with the reports that have not been delivered. -/
structure Session (ε : Type) where
  daemon : Daemon ε
  reports : List Daemon.Report

namespace Session

open Daemon (Plan Refusal Report)

/-- What can happen in a session, with the answer it got. -/
inductive Event where
  /-- Someone sets the total of a project. -/
  | total (project : String) (total : UInt32)
  /-- The monitor has other readings. -/
  | reading (m : Monitor)
  | submit (now : Instant) (j : Job) (answer : Except Refusal Unit)
  | dispatch (now : Instant) (outcome : Option Dispatcher.Outcome)
  | reconcile (now : Instant) (finished : List Reconcile.Finished)
  | deliver (r : Report)
  /-- The executors change on their own. -/
  | drift

namespace Event

/-- The time of an event that records times. -/
def time? : Event → Option Instant
  | submit now _ _ => some now
  | dispatch now _ => some now
  | reconcile now _ => some now
  | _ => none

/-- The job that is admitted. -/
def admitted? : Event → Option JobId
  | submit _ j (.ok ()) => some j.id
  | _ => none

/-- The job whose units are given back for a delivered report. -/
def settled? : Event → Option JobId
  | deliver r => r.owed?
  | _ => none

end Event

variable {ε : Type}

/-- A daemon as it is built, with its executors in some state. -/
def fresh (e : ε) : Session ε := ⟨{ executors := e }, []⟩

/-- The jobs that are owed a release. -/
def owed (s : Session ε) : List JobId := s.reports.filterMap Report.owed?

/-- One event. A refused total and a refused job are events as well. -/
inductive Step (inService : Plan ε → Prop) (drift : ε → ε → Prop) (s : Session ε) :
    Event → Session ε → Prop
  | total {project : String} {total : UInt32} {answer : Except Error Unit} {d : Daemon ε}
      (set : Action.attempt (Daemon.quotaStore.setTotal project total) s.daemon = .ok answer d) :
      Step inService drift s (.total project total) { s with daemon := d }
  | reading (m : Monitor) :
      Step inService drift s (.reading m) { s with daemon := { s.daemon with monitor := m } }
  | submit {p : Plan ε} {now : Instant} {j : Job} {answer : Except Refusal Unit} {d : Daemon ε}
      (plan : inService p) (new : j.IsNew)
      (submitted : Daemon.submit p now j s.daemon = .ok answer d) :
      Step inService drift s (.submit now j answer) { s with daemon := d }
  | dispatch {p : Plan ε} {now : Instant} {outcome : Option Dispatcher.Outcome} {d : Daemon ε}
      (plan : inService p) (dispatched : Daemon.dispatchNext p now s.daemon = .ok outcome d) :
      Step inService drift s (.dispatch now outcome)
        ⟨d, s.reports ++ outcome.toList.map .dispatched⟩
  | reconcile {p : Plan ε} {now : Instant} {finished : List Reconcile.Finished} {d : Daemon ε}
      (plan : inService p) (reconciled : Daemon.reconcile p now s.daemon = .ok finished d) :
      Step inService drift s (.reconcile now finished) ⟨d, s.reports ++ finished.map .finished⟩
  | deliver {r : Report} {d : Daemon ε} (reported : r ∈ s.reports)
      (delivered : r.deliver s.daemon = .ok () d) :
      Step inService drift s (.deliver r) ⟨d, s.reports.erase r⟩
  | drift {e : ε} (drifts : drift s.daemon.executors e) :
      Step inService drift s .drift { s with daemon := { s.daemon with executors := e } }

/-- Any number of events in any order. -/
abbrev Run (inService : Plan ε → Prop) (drift : ε → ε → Prop) (s : Session ε) (es : List Event)
    (t : Session ε) : Prop :=
  Runs (Step inService drift) s es t

end Session

end GpuCluster
