import Mathlib.Data.List.Induction
import GpuCluster.Proofs.Executor.Tracking
import GpuCluster.Proofs.Job.Id
import GpuCluster.Proofs.Runs

/-!
# Which hostfiles there are

A hostfile is written before the launcher is started, and stays if the launch fails. It goes when
the launcher has been stopped, and stays if it could not be.

* `Mpi.hostfilePath_injective` : each job has a hostfile of its own;
* `Mpi.Call`, `Mpi.Step` : the calls that an executor gets, with their answers;
* `Mpi.Standing`, `Mpi.standing` : what the calls so far make of a job: the copy that was launched
  last, and the copy that a hostfile was written for last;
* `Mpi.Follows` : processes and hostfiles are as the calls so far say; `Step.follows`;
* `Mpi.Smooth` : nothing has failed behind a hostfile;
* `hostfiles_follow_calls` : processes and hostfiles are always as the calls say; a launch or a stop
  that fails may leave a hostfile that no launched job has.
-/

namespace GpuCluster.Mpi

variable {m : Machine} {s : Settings} {t u : State} {j : Job} {id : JobId} {path other : String}

/-! ## Hostfiles -/

/-- Each job has a hostfile of its own. -/
theorem hostfilePath_injective {i k : JobId} (h : hostfilePath s i = hostfilePath s k) : i = k := by
  have hlist := congrArg String.toList h
  simp only [hostfilePath, String.toList_append, List.append_assoc, List.append_cancel_left_eq,
    List.append_cancel_right_eq] at hlist
  exact JobId.toText_injective (String.toList_injective hlist)

theorem hostfile?_removeHostfile (t : State) (path other : String) :
    (t.removeHostfile path).hostfile? other =
      if path = other then none else t.hostfile? other := by
  unfold State.hostfile? State.removeHostfile
  by_cases h : path = other
  · subst h
    rw [if_pos rfl, List.find?_eq_none.2, Option.map_none]
    intro f hf
    simpa using (List.mem_filter.1 hf).2
  · rw [if_neg h, List.find?_filter]
    refine congrArg (fun p => Option.map _ (t.hostfiles.find? p)) (funext fun f => ?_)
    by_cases hf : f.1 = other
    · simp [hf, Ne.symm h]
    · simp [hf]

theorem hostfile?_writeHostfile (t : State) (path content other : String) :
    (t.writeHostfile path content).hostfile? other =
      if path = other then some content else t.hostfile? other := by
  have hrest := hostfile?_removeHostfile t path other
  unfold State.hostfile? State.removeHostfile at hrest
  unfold State.hostfile? State.writeHostfile
  rw [List.find?_append, Option.map_or, hrest]
  by_cases h : path = other
  · simp [h]
  · simp [h]

/-! ## Calls -/

/-- A call that the executor gets, with its answer. A job is stopped or forgotten on a machine that
lets its hostfile be removed, or does not. -/
inductive Call where
  | execute (j : Job) (answer : Except Error Unit)
  | cancel (id : JobId) (removes : Bool) (answer : Except Error Unit)
  | status (id : JobId) (answer : Except Error JobStatus)
  | logs (id : JobId) (answer : Except Error String)
  | release (id : JobId) (removes : Bool) (answer : Except Error Unit)
  /-- Something happens to the process of a job: it writes, or it ends. -/
  | process (id : JobId)

/-- One call. The machine may change at any time, the directory of the hostfiles is there. -/
inductive Step (s : Settings) (t : State) : Call → State → Prop
  | execute {m : Machine} {j : Job} {answer : Except Error Unit} {u : State}
      (there : m.directoryExists s.directory = true)
      (called : Action.attempt ((executor m s).execute j) t = .ok answer u) :
      Step s t (.execute j answer) u
  | cancel {m : Machine} {id : JobId} {answer : Except Error Unit} {u : State}
      (called : Action.attempt ((executor m s).cancel id) t = .ok answer u) :
      Step s t (.cancel id (m.removes (hostfilePath s id)) answer) u
  | status {m : Machine} {id : JobId} {answer : Except Error JobStatus} {u : State}
      (called : Action.attempt ((executor m s).status id) t = .ok answer u) :
      Step s t (.status id answer) u
  | logs {m : Machine} {id : JobId} {answer : Except Error String} {u : State}
      (called : Action.attempt ((executor m s).logs id) t = .ok answer u) :
      Step s t (.logs id answer) u
  | release {m : Machine} {id : JobId} {answer : Except Error Unit} {u : State}
      (called : Action.attempt ((executor m s).release id) t = .ok answer u) :
      Step s t (.release id (m.removes (hostfilePath s id)) answer) u
  | process (id : JobId) (f : Process → Process) :
      Step s t (.process id) { t with processes := t.processes.alter id f }

/-! ## Standings -/

/-- Where a job stands with the executor. -/
structure Standing where
  /-- The copy of the job that is launched. -/
  launched : Option Job := none
  /-- The copy that the hostfile is written for. -/
  written : Option Job := none

/-- What a call makes of the standing of a job. A launch that fails writes a hostfile all the same.
A job that is not tracked cannot be stopped; one that is tracked is not tracked any more even if its
process could not be stopped, but then its hostfile stays. -/
def Call.effect (id : JobId) : Call → Standing → Standing
  | execute j answer, st =>
    if j.id = id ∧ Admits j then ⟨if answer.isOk then some j else st.launched, some j⟩ else st
  | cancel i removes answer, st =>
    if i = id ∧ answer ≠ .error (.jobNotFound i.toText) then
      ⟨none, if removes ∧ answer.isOk then none else st.written⟩
    else st
  | release i removes _, st => if i = id then ⟨none, if removes then none else st.written⟩ else st
  | status _ _, st => st
  | logs _ _, st => st
  | process _, st => st

/-- Where a job stands after some calls. -/
def standing (calls : List Call) (id : JobId) : Standing :=
  calls.foldl (fun st call => call.effect id st) {}

theorem standing_concat (calls : List Call) (call : Call) (id : JobId) :
    standing (calls ++ [call]) id = call.effect id (standing calls id) := by
  rw [standing, List.foldl_append]
  rfl

/-- Processes and hostfiles are as the standings say. -/
structure Follows (s : Settings) (standings : JobId → Standing) (t : State) : Prop where
  tracked : ∀ id, t.processes.contains id = (standings id).launched.isSome
  hostfile : ∀ id, t.hostfile? (hostfilePath s id) = (standings id).written.map (content s)
  /-- There are no other files. -/
  named : ∀ f ∈ t.hostfiles, ∃ id, f.1 = hostfilePath s id
  /-- A launched job has a hostfile. -/
  covered : ∀ id, (standings id).launched.isSome = true → (standings id).written.isSome = true

theorem follows_empty (s : Settings) : Follows s (standing []) {} where
  tracked _ := rfl
  hostfile _ := rfl
  named _ h := absurd h List.not_mem_nil
  covered _ h := nomatch h

/-- What a launch answers, and what it leaves. -/
theorem execute_outcome (hd : m.directoryExists s.directory = true) (j : Job) (t : State) :
    (¬ Admits j ∧ ∃ e, execute m s j t = .error (.error e) t) ∨
    Admits j ∧
      ((∃ p, execute m s j t = .ok () { t.writeHostfile (hostfilePath s j.id) (content s j) with
        processes := t.processes.insert j.id p }) ∨
      ∃ e, execute m s j t =
        .error (.error e) (t.writeHostfile (hostfilePath s j.id) (content s j))) := by
  by_cases h : Admits j
  · refine .inr ⟨h, ?_⟩
    rw [execute_of_admits h hd]
    rcases Process.launch_outcome m launcherSettings j (commandLine s j (hostfilePath s j.id))
      t.processes with ⟨p, hp⟩ | ⟨e, he, -⟩
    · exact .inl ⟨p, Action.zoom_of_ok hp⟩
    · exact .inr ⟨e, Action.zoom_of_error he⟩
  · obtain ⟨e, -, he⟩ := execute_of_not_admits h m s t
    exact .inl ⟨h, e, he⟩

theorem hostfile?_without (removed : Bool) (id : JobId) (t : State) (path : String) :
    (without s id removed t).hostfile? path =
      if removed ∧ hostfilePath s id = path then none else t.hostfile? path := by
  unfold without
  dsimp only
  cases removed with
  | true =>
    rw [if_pos rfl, hostfile?_removeHostfile]
    simp only [true_and]
    rfl
  | false =>
    rw [if_neg Bool.false_ne_true, if_neg fun h => Bool.false_ne_true h.1]
    rfl

/-- A job that is not tracked cannot be stopped. One that is tracked goes, and then its hostfile;
if its process cannot be stopped, the hostfile stays. -/
theorem cancel_outcome (m : Machine) (s : Settings) (id : JobId) (t : State) :
    (t.processes.contains id = false ∧
      (executor m s).cancel id t = .error (.error (.jobNotFound id.toText)) t) ∨
    (executor m s).cancel id t = .ok ⟨⟩ (without s id (m.removes (hostfilePath s id)) t) ∨
    ∃ reason, (executor m s).cancel id t =
      .error (.error (.killFailed id reason)) (without s id false t) := by
  rcases Process.tracked_outcome id t.processes with ⟨hno, htracked⟩ | ⟨p, -, -, htracked⟩
  · exact .inl ⟨hno, Action.bind_of_error (Action.zoom_of_error (Action.bind_of_error htracked))⟩
  · refine .inr ?_
    cases hk : m.killError? id p with
    | none =>
      have hcancel : (Process.executor m launcherSettings).cancel id t.processes =
          .ok ⟨⟩ (t.processes.erase id) := by
        refine (Action.bind_of_ok htracked).trans ?_
        simp only [hk]
        rfl
      exact .inl (Action.bind_of_ok (Action.zoom_of_ok hcancel))
    | some reason =>
      have hcancel : (Process.executor m launcherSettings).cancel id t.processes =
          .error (.error (.killFailed id reason)) (t.processes.erase id) := by
        refine (Action.bind_of_ok htracked).trans ?_
        simp only [hk]
        rfl
      exact .inr ⟨reason, Action.bind_of_error (Action.zoom_of_error hcancel)⟩

theorem reads_logs (m : Machine) (s : Settings) (id : JobId) :
    Action.Reads ((executor m s).logs id) := by
  refine Action.reads_zoom ⟨fun _ _ => rfl, fun _ => rfl, fun _ _ _ => rfl⟩ fun v => ?_
  rcases Process.tracked_outcome id v with ⟨-, htracked⟩ | ⟨p, -, -, htracked⟩
  · exact Action.after_of_error (Action.bind_of_error htracked)
  · exact Action.after_of_ok (Action.bind_of_ok htracked)

theorem named_writeHostfile {content : String}
    (h : ∀ f ∈ t.hostfiles, ∃ id, f.1 = hostfilePath s id) (id : JobId) :
    ∀ f ∈ (t.writeHostfile (hostfilePath s id) content).hostfiles,
      ∃ id, f.1 = hostfilePath s id := by
  intro f hf
  rcases List.mem_append.1 hf with hf | hf
  · exact h f (List.mem_filter.1 hf).1
  · obtain rfl := List.mem_singleton.1 hf
    exact ⟨id, rfl⟩

/-- A hostfile is written for a job, and the job may have been launched. -/
theorem Follows.write {standings : JobId → Standing} (h : Follows s standings t) (j : Job)
    (launched : Option Job) {processes : Process.Table}
    (hp : ∀ id, processes.contains id =
      if j.id = id then launched.isSome else t.processes.contains id) :
    Follows s (fun id => if j.id = id then ⟨launched, some j⟩ else standings id)
      { t.writeHostfile (hostfilePath s j.id) (content s j) with processes := processes } where
  tracked id := by
    rw [hp, h.tracked]
    split <;> rfl
  hostfile id := by
    refine (hostfile?_writeHostfile ..).trans ?_
    by_cases hid : j.id = id
    · rw [if_pos (congrArg _ hid), if_pos hid]
      rfl
    · rw [if_neg fun heq => hid (hostfilePath_injective heq), if_neg hid, h.hostfile]
  named := named_writeHostfile h.named j.id
  covered id := by
    split
    next => exact fun _ => rfl
    next => exact h.covered id

/-- A job is not tracked any more, and its hostfile may go. -/
theorem Follows.without {standings : JobId → Standing} (h : Follows s standings t) (id : JobId)
    (removed : Bool) :
    Follows s (fun i => if id = i then ⟨none, if removed then none else (standings i).written⟩
      else standings i) (without s id removed t) where
  tracked i := by
    rw [processes_without, Bool.eq_iff_iff]
    refine Process.Table.contains_erase.trans ?_
    rw [h.tracked]
    by_cases hid : id = i
    · simp [hid]
    · simp [hid, Ne.symm hid]
  hostfile i := by
    rw [hostfile?_without]
    by_cases hid : id = i
    · subst hid
      rw [if_pos rfl]
      cases removed with
      | true => simp
      | false => simpa using h.hostfile id
    · rw [if_neg fun hboth => hid (hostfilePath_injective hboth.2), if_neg hid]
      exact h.hostfile i
  named f hf := by
    refine h.named f ?_
    unfold Mpi.without at hf
    dsimp only at hf
    split at hf
    · exact (List.mem_filter.1 hf).1
    · exact hf
  covered i := by
    split
    next => exact nofun
    next => exact h.covered i

theorem Follows.congr {standings standings' : JobId → Standing} (h : Follows s standings t)
    (heq : ∀ id, standings' id = standings id) : Follows s standings' t := by
  rwa [funext heq]

theorem Follows.execute {standings : JobId → Standing} {j : Job} {answer : Except Error Unit}
    (h : Follows s standings t) (there : m.directoryExists s.directory = true)
    (called : Action.attempt (Mpi.execute m s j) t = .ok answer u) :
    Follows s (fun id => (Call.execute j answer).effect id (standings id)) u := by
  rcases execute_outcome there j t with ⟨hno, e, hrun⟩ | ⟨hadmits, ⟨p, hrun⟩ | ⟨e, hrun⟩⟩
  · rw [Action.attempt_of_error hrun] at called
    cases called
    exact h.congr fun id => if_neg fun hboth => hno hboth.2
  · rw [Action.attempt_of_ok hrun] at called
    cases called
    refine (h.write j (some j) fun id => ?_).congr fun id => ?_
    · rw [Bool.eq_iff_iff, Process.Table.contains_insert]
      by_cases hid : j.id = id
      · simp [hid]
      · simp [hid, Ne.symm hid]
    · simp only [Call.effect, hadmits, and_true]
      rfl
  · -- The hostfile is written, and whether the job is launched has not changed.
    rw [Action.attempt_of_error hrun] at called
    cases called
    refine (h.write j (standings j.id).launched fun id => ?_).congr fun id => ?_
    · split
      next hid => rw [h.tracked, hid]
      next => rfl
    · simp only [Call.effect, hadmits, and_true]
      split
      next hid =>
        rw [hid]
        rfl
      next => rfl

theorem Follows.cancel {standings : JobId → Standing} {i : JobId} {answer : Except Error Unit}
    (h : Follows s standings t)
    (called : Action.attempt ((executor m s).cancel i) t = .ok answer u) :
    Follows s (fun id =>
      (Call.cancel i (m.removes (hostfilePath s i)) answer).effect id (standings id)) u := by
  rcases cancel_outcome m s i t with ⟨-, hrun⟩ | hrun | ⟨reason, hrun⟩
  · rw [Action.attempt_of_error hrun] at called
    cases called
    exact h.congr fun id => if_neg fun hboth => hboth.2 rfl
  · rw [Action.attempt_of_ok hrun] at called
    cases called
    refine (h.without i (m.removes (hostfilePath s i))).congr fun id => ?_
    simp [Call.effect, Except.isOk, Except.toBool]
  · rw [Action.attempt_of_error hrun] at called
    cases called
    refine (h.without i false).congr fun id => ?_
    simp [Call.effect, Except.isOk, Except.toBool, Error.killFailed]

/-- Every call keeps processes and hostfiles as the calls say. -/
theorem Step.follows {call : Call} {calls : List Call} (hstep : Step s t call u)
    (h : Follows s (standing calls) t) : Follows s (standing (calls ++ [call])) u := by
  suffices heffect : Follows s (fun id => call.effect id (standing calls id)) u from
    heffect.congr (standing_concat calls call)
  cases hstep with
  | execute there called => exact h.execute there called
  | cancel called => exact h.cancel called
  | @status m i answer _ called =>
    obtain ⟨rfl, -⟩ := (executor_tracks m s).status called
    exact h
  | @logs m i answer _ called =>
    obtain rfl := (Action.reads_iff_keeps.2 fun I =>
      Action.keeps_attempt ((reads_logs m s i).keeps (I := I))).eq_of_ok called
    exact h
  | @release m i answer _ called =>
    rw [Action.attempt_of_ok (release_apply m s i t)] at called
    cases called
    exact h.without i (m.removes (hostfilePath s i))
  | process i f =>
    refine ⟨fun id => ?_, h.hostfile, h.named, h.covered⟩
    exact Process.Table.contains_alter.trans (h.tracked id)

theorem follows_of_runs {calls : List Call} (h : Runs (Step s) {} calls t) :
    Follows s (standing calls) t :=
  h.invariant (I := fun calls t => Follows s (standing calls) t) (follows_empty s)
    fun _ _ _ _ hfollows hstep => hstep.follows hfollows

/-! ## Left over hostfiles -/

/-- No launch has failed after its hostfile was written, no process could not be stopped, and no
hostfile could not be removed. -/
structure Smooth (calls : List Call) : Prop where
  launched : ∀ j answer, .execute j answer ∈ calls → Admits j → answer.isOk = true
  stopped : ∀ id removes answer, .cancel id removes answer ∈ calls →
    answer = .error (.jobNotFound id.toText) ∨ (removes = true ∧ answer.isOk = true)
  forgotten : ∀ id removes answer, .release id removes answer ∈ calls → removes = true

theorem Smooth.front {calls : List Call} {call : Call} (h : Smooth (calls ++ [call])) :
    Smooth calls where
  launched j answer hj := h.launched j answer (List.mem_append_left _ hj)
  stopped id removes answer hi := h.stopped id removes answer (List.mem_append_left _ hi)
  forgotten id removes answer hi := h.forgotten id removes answer (List.mem_append_left _ hi)

/-- Then the hostfiles are those of the launched copies. -/
theorem Smooth.written_eq {calls : List Call} (h : Smooth calls) (id : JobId) :
    (standing calls id).written = (standing calls id).launched := by
  induction calls using List.reverseRecOn with
  | nil => rfl
  | append_singleton calls call ih =>
    have hrest := ih h.front
    rw [standing_concat]
    cases call with
    | execute j answer =>
      simp only [Call.effect]
      split
      next hboth => rw [if_pos (h.launched j answer List.mem_concat_self hboth.2)]
      next => exact hrest
    | cancel i removes answer =>
      simp only [Call.effect]
      split
      next hboth =>
        rw [if_pos ((h.stopped i removes answer List.mem_concat_self).resolve_left hboth.2)]
      next => exact hrest
    | release i removes answer =>
      simp only [Call.effect]
      split
      next => rw [if_pos (h.forgotten i removes answer List.mem_concat_self)]
      next => exact hrest
    | status i answer => exact hrest
    | logs i answer => exact hrest
    | process i => exact hrest

/-- The hostfiles are those of the launched jobs if every job with a hostfile is launched. -/
theorem Follows.hostfiles_iff {standings : JobId → Standing} (h : Follows s standings t) :
    (∀ id, (t.hostfile? (hostfilePath s id)).isSome = t.processes.contains id) ↔
      ∀ id, (standings id).written.isSome = true → (standings id).launched.isSome = true := by
  refine forall_congr' fun id => ?_
  rw [h.hostfile, h.tracked, Option.isSome_map, Bool.eq_iff_iff]
  exact ⟨fun hiff => hiff.1, fun hwritten => ⟨hwritten, h.covered id⟩⟩

/-- Writing a hostfile changes nothing if the same text was written last. -/
theorem Follows.write_eq_iff {standings : JobId → Standing} (h : Follows s standings t) (j : Job) :
    (∀ path, (t.writeHostfile (hostfilePath s j.id) (content s j)).hostfile? path =
      t.hostfile? path) ↔ (standings j.id).written.map (content s) = some (content s j) := by
  rw [← h.hostfile]
  constructor
  · intro heq
    rw [← heq, hostfile?_writeHostfile, if_pos rfl]
  · intro heq path
    rw [hostfile?_writeHostfile]
    split
    next hpath => rw [← hpath, heq]
    next => rfl

/-- A launch that fails leaves the processes as they are, but a hostfile is written nevertheless if
the job has several replicas and a command. -/
theorem failed_execute {answer : Except Error Unit} {e : Error}
    (hd : m.directoryExists s.directory = true)
    (h : Action.attempt ((executor m s).execute j) t = .ok answer u) (he : answer = .error e) :
    u = if Admits j then t.writeHostfile (hostfilePath s j.id) (content s j) else t := by
  have hexecute : Action.attempt (execute m s j) t = .ok answer u := h
  rcases execute_outcome hd j t with ⟨hno, e', hrun⟩ | ⟨hadmits, ⟨p, hrun⟩ | ⟨e', hrun⟩⟩
  · rw [Action.attempt_of_error hrun] at hexecute
    cases hexecute
    exact (if_neg hno).symm
  · rw [Action.attempt_of_ok hrun] at hexecute
    cases hexecute
    cases he
  · rw [Action.attempt_of_error hrun] at hexecute
    cases hexecute
    exact (if_pos hadmits).symm

/-- The tracked jobs are those that are launched, and the hostfiles those that were written last. A
launch that fails leaves the tracked jobs as they are, but its hostfile stays: it may be that of a
job which is not tracked, or take the place of the one that a running job was launched with. And
where a process cannot be stopped, its job is not tracked any more, but its hostfile stays. As long
as nothing fails so, the hostfiles are those of the tracked jobs. -/
theorem hostfiles_follow_calls {calls : List Call} (h : Runs (Step s) {} calls t) :
    Follows s (standing calls) t ∧
    ((∀ id, (t.hostfile? (hostfilePath s id)).isSome = t.processes.contains id) ↔
      ∀ id, (standing calls id).written.isSome = true →
        (standing calls id).launched.isSome = true) ∧
    (Smooth calls → ∀ id, t.hostfile? (hostfilePath s id) =
      (standing calls id).launched.map (content s)) ∧
    ∀ (m : Machine) (j : Job) (e : Error) (u : State), m.directoryExists s.directory = true →
      Action.attempt ((executor m s).execute j) t = .ok (.error e) u →
      u.processes = t.processes ∧
      (∀ path, u.hostfile? path =
        if Admits j ∧ hostfilePath s j.id = path then some (content s j) else t.hostfile? path) ∧
      ((∀ path, u.hostfile? path = t.hostfile? path) ↔
        (Admits j → (standing calls j.id).written.map (content s) = some (content s j))) := by
  have hfollows := follows_of_runs h
  refine ⟨hfollows, hfollows.hostfiles_iff, fun hsmooth id => ?_, fun m j e u hd hrun => ?_⟩
  · rw [hfollows.hostfile, hsmooth.written_eq]
  · have hu := failed_execute hd hrun rfl
    by_cases hadmits : Admits j
    · rw [if_pos hadmits] at hu
      subst hu
      refine ⟨rfl, fun path => ?_, ?_⟩
      · simp only [hadmits, true_and]
        exact hostfile?_writeHostfile ..
      · rw [hfollows.write_eq_iff]
        exact ⟨fun heq _ => heq, fun heq => heq hadmits⟩
    · rw [if_neg hadmits] at hu
      subst hu
      exact ⟨rfl, fun path => (if_neg fun hboth => hadmits hboth.1).symm,
        fun _ hno => absurd hno hadmits, fun _ _ => rfl⟩

/-- A machine with a launcher whose processes run on, if `there`, and cannot be stopped. -/
def clusterMachine (there : Bool) : Machine where
  program? name := if there ∧ name = "mpirun" then some fun _ => { ending := .never } else none
  directoryExists _ := true
  killError? _ _ := some "Operation not permitted (os error 1)"

def clusterSettings : Settings := { directory := "/tmp" }

def rankJob (replicas : UInt32) : Job :=
  { id := ⟨7#128⟩, jobType := Job.mpiType, command := ["train"], replicas := replicas,
    createdAt := ⟨0, 0⟩ }

def strayJob : Job :=
  { id := ⟨9#128⟩, jobType := Job.mpiType, command := ["train"], replicas := 2,
    createdAt := ⟨0, 0⟩ }

/-- A running job is launched once more with a third replica, then another job on a machine without
a launcher. -/
def strayCalls : List Call :=
  [.execute (rankJob 2) (.ok ()),
    .execute (rankJob 3) (.error (.alreadyLaunched (rankJob 3).id)),
    .execute strayJob (.error (.spawnFailed strayJob.id Machine.notFoundText))]

/-- The running job is to be stopped. -/
def stuckCall : Call :=
  .cancel (rankJob 2).id true
    (.error (.killFailed (rankJob 2).id "Operation not permitted (os error 1)"))

/-- The second launch overwrites the hostfile of the running job, and the third leaves one for a job
that is not tracked. When the running job cannot be stopped, it leaves its own. -/
theorem hostfiles_follow_calls_stray : ∃ t u, Runs (Step clusterSettings) {} strayCalls t ∧
    (t.processes.contains (rankJob 2).id = true ∧
      t.hostfile? (hostfilePath clusterSettings (rankJob 2).id) =
        some (content clusterSettings (rankJob 3)) ∧
      content clusterSettings (rankJob 3) ≠ content clusterSettings (rankJob 2)) ∧
    (t.processes.contains strayJob.id = false ∧
      t.hostfile? (hostfilePath clusterSettings strayJob.id) =
        some (content clusterSettings strayJob)) ∧
    Step clusterSettings t stuckCall u ∧ u.processes.contains (rankJob 2).id = false ∧
      u.hostfile? (hostfilePath clusterSettings (rankJob 2).id) =
        some (content clusterSettings (rankJob 3)) := by
  obtain ⟨t, u, hrun, hstuck⟩ : ∃ t u, Runs (Step clusterSettings) {} strayCalls t ∧
      Step clusterSettings t stuckCall u :=
    ⟨_, _, .snoc (.snoc (.single (.execute (m := clusterMachine true) rfl rfl))
      (.execute (m := clusterMachine true) rfl rfl))
      (.execute (m := clusterMachine false) rfl rfl), .cancel (m := clusterMachine true) rfl⟩
  obtain ⟨hfollows, -⟩ := hostfiles_follow_calls hrun
  obtain ⟨hfollows', -⟩ := hostfiles_follow_calls (hrun.snoc hstuck)
  refine ⟨t, u, hrun, ⟨?_, ?_, by decide⟩, ⟨?_, ?_⟩, hstuck, ?_, ?_⟩
  · rw [hfollows.tracked]
    rfl
  · rw [hfollows.hostfile]
    rfl
  · rw [hfollows.tracked]
    rfl
  · rw [hfollows.hostfile]
    rfl
  · rw [hfollows'.tracked]
    rfl
  · rw [hfollows'.hostfile]
    rfl

end GpuCluster.Mpi
