import GpuCluster.Proofs.Executor.Registry
import GpuCluster.Simulation.LocalExecutors

/-!
# Which jobs the executors track

* `Executor.Tracks x on` : a launch tracks one more job, a release one less;
* `Executor.Answers x on P` : asked for the status of a tracked job, an executor gives an answer for
  which `P` holds;
* `Machine.Answers P` : what the statuses of processes are answered with on a machine;
* `Process.executor_tracks`, `Mpi.executor_tracks` : both executors track jobs so, and
  `Process.executor_answers`, `Mpi.executor_answers` : they answer what the machine answers;
* `Executor.Registry.tracks_of_serves`, `Executor.Registry.answers_of_serves` : the same for a
  registry, if its executors live in parts of one state;
* `LocalExecutors.registryOn_tracks`, `LocalExecutors.registryOn_answers` : so does the registry of
  a daemon;
* `LocalExecutors.Drifts` : processes write and end on their own, and stay tracked.
-/

namespace GpuCluster

/-! ## Tracked processes -/

namespace Process.Table

variable {t : Table} {id i : JobId}

theorem contains_iff : t.contains id = true ↔ ∃ e ∈ t.entries, e.1 = id := by
  rw [contains, find?, Option.isSome_map, List.find?_isSome]
  simp only [beq_iff_eq]

theorem contains_insert {p : Process} :
    (t.insert i p).contains id = true ↔ t.contains id = true ∨ id = i := by
  rw [contains_iff, contains_iff, insert]
  simp only [List.mem_append, List.mem_singleton]
  constructor
  · rintro ⟨e, he | rfl, rfl⟩
    · exact .inl ⟨e, he, rfl⟩
    · exact .inr rfl
  · rintro (⟨e, he, rfl⟩ | rfl)
    · exact ⟨e, .inl he, rfl⟩
    · exact ⟨_, .inr rfl, rfl⟩

theorem contains_erase : (t.erase i).contains id = true ↔ t.contains id = true ∧ id ≠ i := by
  rw [contains_iff, contains_iff, erase]
  simp only [List.mem_filter, Bool.not_eq_true', beq_eq_false_iff_ne]
  constructor
  · rintro ⟨e, ⟨he, hne⟩, rfl⟩
    exact ⟨⟨e, he, rfl⟩, hne⟩
  · rintro ⟨⟨e, he, rfl⟩, hne⟩
    exact ⟨e, ⟨he, hne⟩, rfl⟩

theorem contains_map {f : JobId × Process → JobId × Process} (hf : ∀ e, (f e).1 = e.1) :
    (⟨t.entries.map f⟩ : Table).contains id = t.contains id := by
  rw [Bool.eq_iff_iff, contains_iff, contains_iff]
  simp only [List.mem_map]
  constructor
  · rintro ⟨_, ⟨e, he, rfl⟩, rfl⟩
    exact ⟨e, he, (hf e).symm⟩
  · rintro ⟨e, he, rfl⟩
    exact ⟨f e, ⟨e, he, rfl⟩, hf e⟩

@[simp] theorem contains_alter {f : Process → Process} :
    (t.alter i f).contains id = t.contains id := by
  refine contains_map fun e => ?_
  split <;> rfl

@[simp] theorem contains_settle : (t.settle i).contains id = t.contains id := contains_alter

@[simp] theorem contains_settleAll : t.settleAll.contains id = t.contains id :=
  contains_map fun _ => rfl

end Process.Table

/-! ## One executor -/

/-- A launch tracks one more job and is refused for a tracked one, and a release tracks one less. -/
structure Executor.Tracks {σ : Type} (x : Executor σ) (on : σ → JobId → Prop) : Prop where
  launch : ∀ {j s answer t}, Action.attempt (x.execute j) s = .ok answer t →
    (answer = .ok () ∧ ∀ id, on t id ↔ on s id ∨ id = j.id) ∨
    ∃ e, answer = .error e ∧ (∀ id, on t id ↔ on s id) ∧ (e = .alreadyLaunched j.id → on s j.id)
  status : ∀ {id s answer t}, Action.attempt (x.status id) s = .ok answer t → t = s ∧
    ∀ status, answer = .ok status → status.isTerminal = true →
      status = .completed ∨ status = .failed
  release : ∀ {id s t}, Action.tolerate (x.release id) s = .ok () t →
    ∀ i, on t i ↔ on s i ∧ i ≠ id

/-- Asked for the status of a tracked job, the executor gives an answer of this kind and changes
nothing. -/
def Executor.Answers {σ : Type} (x : Executor σ) (on : σ → JobId → Prop)
    (P : Except Error JobStatus → Prop) : Prop :=
  ∀ {id s}, on s id → ∃ answer, Action.attempt (x.status id) s = .ok answer s ∧ P answer

/-- What cannot be launched is no conflict. -/
theorem Launch.forJob_error {outer : Bindings String} {directory : Option String} {j : Job}
    {commandLine : List String} {e : Error}
    (h : Launch.forJob outer directory j commandLine = .error e) : e ≠ .alreadyLaunched j.id := by
  unfold Launch.forJob at h
  cases commandLine with
  | nil =>
    cases h
    exact nofun
  | cons program arguments =>
    dsimp only at h
    split at h
    next =>
      cases hv : (Launch.shareOf j).validate with
      | ok u =>
        rw [hv] at h
        cases h
      | error e' =>
        rw [hv] at h
        cases h
        unfold Mps.Limits.validate at hv
        split at hv
        next =>
          cases hv
          exact nofun
        next =>
          split at hv
          next =>
            cases hv
            exact nofun
          next => cases hv
    next => cases h

namespace Process

variable {m : Machine} {s : Settings} {t t' : Table} {id : JobId} {j : Job}

/-- A job that is not tracked yet has its launch started, and is tracked from then on. -/
theorem launch_of_forJob {commandLine : List String} {l : Launch} (hc : t.contains j.id = false)
    (hl : Launch.forJob s.environment s.directory j commandLine = .ok l) :
    launch m s j commandLine t =
      match m.start l with
      | .ok outcome => .ok () (t.insert j.id (.start outcome))
      | .error reason => .error (.error (.spawnFailed j.id reason)) t := by
  have hget : (get : Action Table Table) t = .ok t t := rfl
  have hforJob : (Action.ofExcept (.ok l) : Action Table Launch) t = .ok l t := rfl
  have hno : ¬ t.contains j.id = true := by simp [hc]
  rw [launch, Action.bind_of_ok hget, if_neg hno, hl, Action.bind_of_ok hforJob]
  cases m.start l with
  | ok outcome => exact Action.set_apply ..
  | error reason => exact Action.fail_apply ..

/-- A job is launched and tracked, or it is refused and nothing changes. -/
theorem launch_outcome (m : Machine) (s : Settings) (j : Job) (commandLine : List String)
    (t : Table) : (∃ p, launch m s j commandLine t = .ok () (t.insert j.id p)) ∨
      ∃ e : Error, launch m s j commandLine t = .error (.error e) t ∧
        (e = .alreadyLaunched j.id → t.contains j.id = true) := by
  have hget : (get : Action Table Table) t = .ok t t := rfl
  by_cases hc : t.contains j.id = true
  · refine .inr ⟨.alreadyLaunched j.id, ?_, fun _ => hc⟩
    rw [launch, Action.bind_of_ok hget, if_pos hc]
    rfl
  · cases hl : Launch.forJob s.environment s.directory j commandLine with
    | error e =>
      refine .inr ⟨e, ?_, fun heq => absurd heq (Launch.forJob_error hl)⟩
      rw [launch, Action.bind_of_ok hget, if_neg hc, hl]
      exact Action.bind_of_error rfl
    | ok l =>
      rw [launch_of_forJob (by simpa using hc) hl]
      cases m.start l with
      | ok outcome => exact .inl ⟨.start outcome, rfl⟩
      | error reason => exact .inr ⟨.spawnFailed j.id reason, rfl, nofun⟩

theorem launch_cases {commandLine : List String} {answer : Except Error Unit}
    (h : Action.attempt (launch m s j commandLine) t = .ok answer t') :
    (answer = .ok () ∧ ∀ i, t'.contains i = true ↔ t.contains i = true ∨ i = j.id) ∨
    ∃ e, answer = .error e ∧ (∀ i, t'.contains i = true ↔ t.contains i = true) ∧
      (e = .alreadyLaunched j.id → t.contains j.id = true) := by
  rcases launch_outcome m s j commandLine t with ⟨p, hrun⟩ | ⟨e, hrun, hc⟩
  · rw [Action.attempt_of_ok hrun] at h
    cases h
    exact .inl ⟨rfl, fun _ => Table.contains_insert⟩
  · rw [Action.attempt_of_error hrun] at h
    cases h
    exact .inr ⟨e, rfl, fun _ => Iff.rfl, hc⟩

theorem status_cases (p : Process) :
    p.status = .running ∨ p.status = .completed ∨ p.status = .failed := by
  unfold status
  split
  · split
    next => exact .inr (.inl rfl)
    next => exact .inr (.inr rfl)
    next => exact .inr (.inr rfl)
    next => exact .inl rfl
  · exact .inl rfl

theorem tracked_outcome (id : JobId) (t : Table) :
    (t.contains id = false ∧ tracked id t = .error (.error (.jobNotFound id.toText)) t) ∨
      ∃ p, t.contains id = true ∧ t.find? id = some p ∧ tracked id t = .ok p t := by
  cases hp : t.find? id with
  | none => exact .inl ⟨by simp only [Table.contains, hp, Option.isSome_none],
      by simp only [tracked, hp]⟩
  | some p => exact .inr ⟨p, by simp only [Table.contains, hp, Option.isSome_some], rfl,
      by simp only [tracked, hp]⟩

/-- What a machine answers when it is asked for the status of a process. -/
def answerFor (m : Machine) (id : JobId) (p : Process) : Except Error JobStatus :=
  match m.waitError? id p with
  | none => .ok p.status
  | some reason => .error (.io reason)

theorem attempt_status (m : Machine) (s : Settings) (id : JobId) (t : Table) :
    (t.contains id = false ∧ Action.attempt ((executor m s).status id) t =
      .ok (.error (.jobNotFound id.toText)) t) ∨
    ∃ p, t.find? id = some p ∧
      Action.attempt ((executor m s).status id) t = .ok (answerFor m id p) t := by
  rcases tracked_outcome id t with ⟨hno, htracked⟩ | ⟨p, -, hp, htracked⟩
  · have hrun : (executor m s).status id t = .error (.error (.jobNotFound id.toText)) t :=
      Action.bind_of_error htracked
    exact .inl ⟨hno, Action.attempt_of_error hrun⟩
  · refine .inr ⟨p, hp, ?_⟩
    cases hw : m.waitError? id p with
    | none =>
      have hrun : (executor m s).status id t = .ok p.status t := by
        refine (Action.bind_of_ok htracked).trans ?_
        simp only [hw]
        rfl
      rw [Action.attempt_of_ok hrun, answerFor, hw]
    | some reason =>
      have hrun : (executor m s).status id t = .error (.error (.io reason)) t := by
        refine (Action.bind_of_ok htracked).trans ?_
        simp only [hw]
        rfl
      rw [Action.attempt_of_error hrun, answerFor, hw]

end Process

/-- What a machine answers when it is asked for the status of a process is of this kind. -/
def Machine.Answers (m : Machine) (P : Except Error JobStatus → Prop) : Prop :=
  ∀ id p, P (Process.answerFor m id p)

/-- Any machine gives a status or an error of its own. -/
theorem Machine.answers (m : Machine) :
    m.Answers fun answer => ∀ e, answer = .error e → ∃ reason, e = .io reason := by
  intro id p e h
  unfold Process.answerFor at h
  split at h
  · cases h
  · cases h
    exact ⟨_, rfl⟩

/-- A machine that never fails to tell gives a status. -/
theorem Machine.answers_of_waitError? {m : Machine} (h : ∀ id p, m.waitError? id p = none) :
    m.Answers fun answer => ∃ status, answer = .ok status := by
  intro id p
  rw [Process.answerFor, h]
  exact ⟨_, rfl⟩

namespace Process

variable {m : Machine} {P : Except Error JobStatus → Prop}

theorem executor_tracks (m : Machine) (s : Settings) :
    (executor m s).Tracks fun t id => t.contains id = true where
  launch h := launch_cases h
  status {id t answer u} h := by
    rcases attempt_status m s id t with ⟨-, hrun⟩ | ⟨p, -, hrun⟩
    · rw [hrun] at h
      cases h
      exact ⟨rfl, nofun⟩
    · rw [hrun] at h
      cases h
      refine ⟨rfl, fun status heq hterm => ?_⟩
      unfold answerFor at heq
      split at heq
      next =>
        obtain rfl := Except.ok.inj heq
        rcases p.status_cases with hr | hc | hf
        · rw [hr] at hterm
          cases hterm
        · exact .inl hc
        · exact .inr hf
      next => cases heq
  release {id t u} h := by
    have hrun : (executor m s).release id t = .ok ⟨⟩ (t.erase id) := rfl
    rw [Action.tolerate_of_ok hrun] at h
    cases h
    exact fun i => Table.contains_erase

theorem executor_answers (h : m.Answers P) (s : Settings) :
    (executor m s).Answers (fun t id => t.contains id = true) P := by
  intro id t hon
  rcases attempt_status m s id t with ⟨hno, -⟩ | ⟨p, -, hrun⟩
  · rw [hno] at hon
    cases hon
  · exact ⟨_, hrun, h id p⟩

end Process

namespace Mpi

variable {m : Machine} {s : Settings}

/-- The job has several replicas and a command, so that a hostfile is written for it. -/
def Admits (j : Job) : Prop := ¬ j.replicas < 2 ∧ j.command ≠ []

instance (j : Job) : Decidable (Admits j) := inferInstanceAs (Decidable (_ ∧ _))

/-- The text of the hostfile of a job. -/
def content (s : Settings) (j : Job) : String :=
  Hostfile.render (Hostfile.ofJob j s.slotsPerReplica)

theorem execute_of_not_admits {j : Job} (h : ¬ Admits j) (m : Machine) (s : Settings) (t : State) :
    ∃ e : Error, e ≠ .alreadyLaunched j.id ∧ execute m s j t = .error (.error e) t := by
  by_cases hr : j.replicas < 2
  · refine ⟨.tooFewReplicas j.id j.replicas, nofun, ?_⟩
    rw [execute, if_pos hr]
    rfl
  · have hc : j.command = [] := Classical.not_not.1 fun hc => h ⟨hr, hc⟩
    refine ⟨.noCommand j.id, nofun, ?_⟩
    rw [execute, if_neg hr, if_pos hc]
    rfl

/-- The hostfile is written before the launcher is started. -/
theorem execute_of_admits {j : Job} (h : Admits j) (hd : m.directoryExists s.directory = true)
    (t : State) : execute m s j t =
      (Process.launch m launcherSettings j (commandLine s j (hostfilePath s j.id))).zoom
        State.processesPart (t.writeHostfile (hostfilePath s j.id) (content s j)) := by
  have hwrite : writeHostfile m s j t = .ok (hostfilePath s j.id)
      (t.writeHostfile (hostfilePath s j.id) (content s j)) := by
    rw [writeHostfile, if_pos hd]
    rfl
  rw [execute, if_neg h.1, if_neg h.2, Action.bind_of_ok hwrite]

/-- A job is refused at once, or its command line is launched. The hostfile is written before and
plays no part in it. -/
theorem execute_cases (m : Machine) (s : Settings) (j : Job) (t : State) :
    (∃ e : Error, e ≠ .alreadyLaunched j.id ∧ execute m s j t = .error (.error e) t) ∨
    ∃ path v, v.processes = t.processes ∧ execute m s j t =
      (Process.launch m launcherSettings j (commandLine s j path)).zoom State.processesPart v := by
  by_cases h : Admits j
  · by_cases hd : m.directoryExists s.directory = true
    · exact .inr ⟨hostfilePath s j.id, t.writeHostfile (hostfilePath s j.id) (content s j), rfl,
        execute_of_admits h hd t⟩
    · have hwrite : writeHostfile m s j t = .error (.error (.io Machine.notFoundText)) t := by
        rw [writeHostfile, if_neg hd]
        rfl
      refine .inl ⟨.io Machine.notFoundText, nofun, ?_⟩
      rw [execute, if_neg h.1, if_neg h.2, Action.bind_of_error hwrite]
  · exact .inl (execute_of_not_admits h m s t)

/-- The state without the process of a job, and without its hostfile if that can be removed. -/
def without (s : Settings) (id : JobId) (removed : Bool) (t : State) : State :=
  let rest := { t with processes := t.processes.erase id }
  if removed then rest.removeHostfile (hostfilePath s id) else rest

theorem processes_without (s : Settings) (id : JobId) (removed : Bool) (t : State) :
    (without s id removed t).processes = t.processes.erase id := by
  unfold without
  dsimp only
  split <;> rfl

theorem release_apply (m : Machine) (s : Settings) (id : JobId) (t : State) :
    (executor m s).release id t = .ok ⟨⟩ (without s id (m.removes (hostfilePath s id)) t) := rfl

theorem executor_tracks (m : Machine) (s : Settings) :
    (executor m s).Tracks fun t id => t.processes.contains id = true where
  launch {j t answer u} h := by
    have hexecute : Action.attempt (execute m s j) t = .ok answer u := h
    rcases execute_cases m s j t with ⟨e, hne, hrun⟩ | ⟨path, v, hv, hrun⟩
    · rw [Action.attempt_of_error hrun] at hexecute
      cases hexecute
      exact .inr ⟨e, rfl, fun _ => Iff.rfl, fun heq => absurd heq hne⟩
    · have hlaunch : Action.attempt ((Process.launch m launcherSettings j
          (commandLine s j path)).zoom State.processesPart) v = .ok answer u := by
        rw [← hexecute]
        unfold Action.attempt
        rw [hrun]
      obtain ⟨w, hw, rfl⟩ := Action.attempt_zoom_ok.1 hlaunch
      rw [← hv]
      exact Process.launch_cases hw
  status {id t answer u} h := by
    obtain ⟨w, hw, rfl⟩ := Action.attempt_zoom_ok.1 h
    obtain ⟨rfl, hst⟩ := (Process.executor_tracks m launcherSettings).status hw
    exact ⟨rfl, hst⟩
  release {id t u} h := by
    rw [Action.tolerate_of_ok (release_apply m s id t)] at h
    cases h
    rw [processes_without]
    exact fun i => Process.Table.contains_erase

theorem executor_answers {P : Except Error JobStatus → Prop} (h : m.Answers P) (s : Settings) :
    (executor m s).Answers (fun t id => t.processes.contains id = true) P := by
  intro id t hon
  obtain ⟨answer, hrun, hP⟩ := Process.executor_answers h launcherSettings hon
  exact ⟨answer, Action.attempt_zoom_ok.2 ⟨_, hrun, rfl⟩, hP⟩

end Mpi

/-! ## The registry of a daemon -/

/-- The same for a registry, where a job is tracked by the executor of a type. -/
structure Executor.Registry.Tracks {σ : Type} (r : Registry (Executor σ))
    (on : σ → String → JobId → Prop) : Prop where
  launch : ∀ {j s answer t}, Action.attempt (r.execute j) s = .ok answer t →
    (answer = .ok () ∧ ∀ jobType id, on t jobType id ↔
      on s jobType id ∨ (jobType = j.jobType ∧ id = j.id)) ∨
    ∃ e, answer = .error e ∧ (∀ jobType id, on t jobType id ↔ on s jobType id) ∧
      (e = .alreadyLaunched j.id → on s j.jobType j.id)
  status : ∀ {j s answer t}, Action.attempt (r.status j) s = .ok answer t → t = s ∧
    ∀ status, answer = .ok status → status.isTerminal = true →
      status = .completed ∨ status = .failed
  release : ∀ {j s t}, Action.tolerate (r.release j) s = .ok () t →
    ∀ jobType id, on t jobType id ↔ on s jobType id ∧ ¬ (jobType = j.jobType ∧ id = j.id)

/-- Asked for the status of a tracked job, the registry gives an answer of this kind. -/
def Executor.Registry.Answers {σ : Type} (r : Registry (Executor σ))
    (on : σ → String → JobId → Prop) (P : Except Error JobStatus → Prop) : Prop :=
  ∀ {j s}, on s j.jobType j.id → ∃ answer, Action.attempt (r.status j) s = .ok answer s ∧ P answer

section Serves
variable {σ τ : Type} {r : Executor.Registry (Executor σ)} {on : σ → String → JobId → Prop}
  {jobType : String} {part : Lens σ τ} {x : Executor τ} {onPart : τ → JobId → Prop}

/-- The executor of a type lives in a part of the state, where it tracks the jobs of the type. -/
structure Executor.Registry.Serves (r : Registry (Executor σ)) (on : σ → String → JobId → Prop)
    (jobType : String) (part : Lens σ τ) (x : Executor τ) (onPart : τ → JobId → Prop) : Prop where
  lawful : part.Lawful
  tracks : x.Tracks onPart
  found : r.find? jobType = some (x.within part)
  own : ∀ {s id}, on s jobType id ↔ onPart (part.get s) id
  others : ∀ {u s other id}, other ≠ jobType → (on (part.set u s) other id ↔ on s other id)

/-- What an executor does to its part shows for its type only. -/
theorem Executor.Registry.Serves.on_set (h : r.Serves on jobType part x onPart) {c : JobId → Prop}
    {u : τ} {s : σ} (hc : ∀ id, onPart u id ↔ c id) (other : String) (id : JobId) :
    on (part.set u s) other id ↔
      (other = jobType ∧ c id) ∨ (other ≠ jobType ∧ on s other id) := by
  by_cases ho : other = jobType
  · subst ho
    rw [h.own, h.lawful.get_set, hc]
    simp only [true_and, ne_eq, not_true, false_and, or_false]
  · rw [h.others ho]
    simp only [ho, false_and, ne_eq, not_false_iff, true_and, false_or]

/-- A registry tracks jobs if for every type its executor does, or no job of the type is tracked. -/
theorem Executor.Registry.tracks_of_serves (h : ∀ jobType,
    (∃ (τ : Type) (part : Lens σ τ) (x : Executor τ) (onPart : τ → JobId → Prop),
      r.Serves on jobType part x onPart) ∨
    (r.find? jobType = none ∧ ∀ s id, ¬ on s jobType id)) : r.Tracks on where
  launch {j s answer t} hlaunch := by
    rcases h j.jobType with ⟨τ, part, x, onPart, hs⟩ | ⟨hf, -⟩
    · rw [execute_of_find? hs.found] at hlaunch
      obtain ⟨u, hu, rfl⟩ := Action.attempt_zoom_ok.1 hlaunch
      rcases hs.tracks.launch hu with ⟨rfl, hon⟩ | ⟨e, rfl, hon, hc⟩
      · refine .inl ⟨rfl, fun other id => ?_⟩
        rw [hs.on_set hon]
        by_cases ho : other = j.jobType
        · simp [ho, hs.own]
        · simp [ho]
      · refine .inr ⟨e, rfl, fun other id => ?_, fun he => hs.own.2 (hc he)⟩
        rw [hs.on_set hon]
        by_cases ho : other = j.jobType
        · simp [ho, hs.own]
        · simp [ho]
    · rw [execute_of_none hf, Action.attempt_fail] at hlaunch
      cases hlaunch
      exact .inr ⟨_, rfl, fun _ _ => Iff.rfl, nofun⟩
  status {j s answer t} hstatus := by
    rcases h j.jobType with ⟨τ, part, x, onPart, hs⟩ | ⟨hf, -⟩
    · rw [status_of_find? hs.found] at hstatus
      obtain ⟨u, hu, rfl⟩ := Action.attempt_zoom_ok.1 hstatus
      obtain ⟨rfl, hfinal⟩ := hs.tracks.status hu
      exact ⟨hs.lawful.set_get s, hfinal⟩
    · rw [status_of_none hf, Action.attempt_fail] at hstatus
      cases hstatus
      exact ⟨rfl, nofun⟩
  release {j s t} hrelease := by
    rcases h j.jobType with ⟨τ, part, x, onPart, hs⟩ | ⟨hf, hno⟩
    · rw [release_of_find? hs.found] at hrelease
      obtain ⟨u, hu, rfl⟩ := (Action.tolerate_zoom_ok hs.lawful).1 hrelease
      intro other id
      rw [hs.on_set (hs.tracks.release hu)]
      by_cases ho : other = j.jobType
      · simp [ho, hs.own]
      · simp [ho]
    · rw [release_of_none hf, Action.tolerate_fail] at hrelease
      cases hrelease
      intro other id
      refine ⟨fun hon => ⟨hon, ?_⟩, fun hon => hon.1⟩
      rintro ⟨rfl, rfl⟩
      exact hno s j.id hon

/-- A registry answers so if for every type its executor does, or no job of the type is tracked. -/
theorem Executor.Registry.answers_of_serves {P : Except Error JobStatus → Prop}
    (h : ∀ jobType, (∃ (τ : Type) (part : Lens σ τ) (x : Executor τ) (onPart : τ → JobId → Prop),
      r.Serves on jobType part x onPart ∧ x.Answers onPart P) ∨
    ∀ s id, ¬ on s jobType id) : r.Answers on P := by
  intro j s hon
  rcases h j.jobType with ⟨τ, part, x, onPart, hs, hx⟩ | hno
  · obtain ⟨answer, hrun, hP⟩ := hx (hs.own.1 hon)
    refine ⟨answer, ?_, hP⟩
    rw [status_of_find? hs.found]
    exact Action.attempt_zoom_ok.2 ⟨_, hrun, (hs.lawful.set_get s).symm⟩
  · exact absurd hon (hno s j.id)

end Serves

namespace Simulation.LocalExecutors

variable {m : Machine} {directory jobType : String} {w v : LocalExecutors} {id : JobId}

/-- The executor of a type tracks a job. -/
def tracks (w : LocalExecutors) (jobType : String) (id : JobId) : Prop :=
  (jobType = Job.batchType ∧ w.plain.contains id = true) ∨
    (jobType = Job.mpiType ∧ w.mpi.processes.contains id = true)

theorem plainPart_lawful : plainPart.Lawful := ⟨fun _ _ => rfl, fun _ => rfl, fun _ _ _ => rfl⟩

theorem mpiPart_lawful : mpiPart.Lawful := ⟨fun _ _ => rfl, fun _ => rfl, fun _ _ _ => rfl⟩

theorem batchType_ne_mpiType : Job.batchType ≠ Job.mpiType := by decide

theorem serves_batch (m : Machine) (directory : String) :
    (registryOn m directory).Serves tracks Job.batchType plainPart (Process.executor m {})
      (fun t id => t.contains id = true) where
  lawful := plainPart_lawful
  tracks := Process.executor_tracks m {}
  found := by
    rw [registryOn, Executor.Registry.find?_register, if_neg batchType_ne_mpiType.symm,
      Executor.Registry.find?_register, if_pos rfl]
    rfl
  own {w id} := by
    simp only [tracks, batchType_ne_mpiType, true_and, false_and, or_false]
    rfl
  others {u w other id} ho := by
    simp only [tracks, ho, false_and, false_or]
    rfl

theorem serves_mpi (m : Machine) (directory : String) :
    (registryOn m directory).Serves tracks Job.mpiType mpiPart
      (Mpi.executor m { directory := directory }) (fun t id => t.processes.contains id = true) where
  lawful := mpiPart_lawful
  tracks := Mpi.executor_tracks m { directory := directory }
  found := by
    rw [registryOn, Executor.Registry.find?_register, if_pos rfl]
    rfl
  own {w id} := by
    simp only [tracks, batchType_ne_mpiType.symm, true_and, false_and, false_or]
    rfl
  others {u w other id} ho := by
    simp only [tracks, ho, false_and, or_false]
    rfl

theorem registryOn_tracks (m : Machine) (directory : String) :
    (registryOn m directory).Tracks tracks := by
  refine Executor.Registry.tracks_of_serves fun jobType => ?_
  by_cases hb : jobType = Job.batchType
  · exact .inl ⟨_, _, _, _, hb ▸ serves_batch m directory⟩
  by_cases hm : jobType = Job.mpiType
  · exact .inl ⟨_, _, _, _, hm ▸ serves_mpi m directory⟩
  · refine .inr ⟨?_, fun w id ht => ?_⟩
    · rw [registryOn, Executor.Registry.find?_register, if_neg (Ne.symm hm),
        Executor.Registry.find?_register, if_neg (Ne.symm hb)]
      rfl
    · rcases ht with ⟨h, -⟩ | ⟨h, -⟩
      · exact hb h
      · exact hm h

theorem registryOn_answers {P : Except Error JobStatus → Prop} (h : m.Answers P)
    (directory : String) : (registryOn m directory).Answers tracks P := by
  refine Executor.Registry.answers_of_serves fun jobType => ?_
  by_cases hb : jobType = Job.batchType
  · subst hb
    exact .inl ⟨_, _, _, _, serves_batch m directory, Process.executor_answers h {}⟩
  by_cases hm : jobType = Job.mpiType
  · subst hm
    exact .inl ⟨_, _, _, _, serves_mpi m directory,
      Mpi.executor_answers h { directory := directory }⟩
  · refine .inr fun w id ht => ?_
    rcases ht with ⟨h, -⟩ | ⟨h, -⟩
    · exact hb h
    · exact hm h

/-- The output of processes is collected, and they end on their own, one or all of them. -/
inductive Drifts (w : LocalExecutors) : LocalExecutors → Prop
  | collect (id : JobId) (stream : Stream) : Drifts w (w.alter id (·.collect stream))
  | finish (id : JobId) : Drifts w (w.alter id .finish)
  | settle (id : JobId) : Drifts w (w.settle id)
  | settleAll : Drifts w w.settleAll

theorem alter_tracks {f : Process → Process} (w : LocalExecutors) (i : JobId) :
    (w.alter i f).tracks jobType id ↔ w.tracks jobType id := by
  change (_ ∧ (w.plain.alter i f).contains id = true) ∨
    (_ ∧ (w.mpi.processes.alter i f).contains id = true) ↔ _
  rw [Process.Table.contains_alter, Process.Table.contains_alter]
  rfl

/-- A process that has ended stays tracked. -/
theorem Drifts.tracks_iff (h : w.Drifts v) : v.tracks jobType id ↔ w.tracks jobType id := by
  cases h with
  | collect i stream => exact alter_tracks w i
  | finish i => exact alter_tracks w i
  | settle i => exact alter_tracks w i
  | settleAll =>
    change (_ ∧ w.plain.settleAll.contains id = true) ∨
      (_ ∧ w.mpi.processes.settleAll.contains id = true) ↔ _
    rw [Process.Table.contains_settleAll, Process.Table.contains_settleAll]
    rfl

end Simulation.LocalExecutors

end GpuCluster
