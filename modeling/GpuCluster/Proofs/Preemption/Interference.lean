import GpuCluster.Preemption.Perform
import GpuCluster.Proofs.Preemption.StillRunning

/-!
# Carrying out a decision while others write

* `Preemption.refusal?` : the error of the first victim that is unknown or not running;
* `Preemption.Stage` : shared jobs, a cluster, the evictions that were asked of it, and a write that
  fails;
* `writeVictims_cons`, `writeVictims_stage`, `writeVictims_failing` : one write, all writes, and the
  writes up to one that fails;
* `Preemption.Performed` : what the evictions and the writes make of the records;
* `perform_all_or_nothing` : a decision is refused without a trace, or all of it is carried out, up
  to a write that fails;
* `restarted_victim_evicted_twice` : not so if a victim is started again.
-/

namespace GpuCluster

namespace Preemption

variable {τ : Type}

/-! ## The stage -/

/-- Shared jobs, a cluster, and the evictions that were asked of it. -/
structure Stage (τ : Type) where
  shared : Job.Shared
  cluster : τ
  evictions : List (Job × Option Duration)
  /-- The first conditional write that fails: how many are before it, and its error. -/
  failing : Option (Nat × Error) := none

namespace Stage

def sharedPart : Lens (Stage τ) Job.Shared := ⟨Stage.shared, fun x s => { s with shared := x }⟩

def clusterPart : Lens (Stage τ) τ := ⟨Stage.cluster, fun x s => { s with cluster := x }⟩

def evictionsPart : Lens (Stage τ) (List (Job × Option Duration)) :=
  ⟨Stage.evictions, fun x s => { s with evictions := x }⟩

/-- The store of the shared jobs, with the write that fails. -/
def store : Job.Store (Stage τ) :=
  let store := Job.Store.shared.within sharedPart
  { store with
    recordIf := fun now id expected status reason s =>
      match s.failing with
      | none => store.recordIf now id expected status reason s
      | some (0, e) => .error (.error e) s
      | some (n + 1, e) =>
        store.recordIf now id expected status reason { s with failing := some (n, e) } }

/-- The next writes do not fail. -/
def Writes (s : Stage τ) (count : Nat) : Prop := ∀ n e, s.failing = some (n, e) → count ≤ n

theorem writes_of_eq_none {s : Stage τ} (h : s.failing = none) (count : Nat) : s.Writes count := by
  intro n e hfailing
  rw [h] at hfailing
  cases hfailing

/-- The write that fails, after some others. -/
def failingAfter (s : Stage τ) (count : Nat) : Option (Nat × Error) :=
  s.failing.map fun p => (p.1 - count, p.2)

/-- The evictor that notes what it is asked, and then does what the cluster does. -/
def evictor (stop : Evictor τ) : Evictor (Stage τ) := fun j grace => do
  Action.update evictionsPart (· ++ [(j, grace)])
  (stop j grace).zoom clusterPart

variable {stop : Evictor τ} {s : Stage τ} {now : Instant} {d : Decision}

theorem Writes.succ {count : Nat} (h : s.Writes (count + 1)) (x : Job.Shared) (c : τ)
    (log : List (Job × Option Duration)) : Writes ⟨x, c, log, s.failingAfter 1⟩ count := by
  intro n e hn
  obtain ⟨⟨m, error⟩, hm, heq⟩ := Option.map_eq_some_iff.1 hn
  cases heq
  have := h m error hm
  omega

theorem failingAfter_zero (s : Stage τ) : s.failingAfter 0 = s.failing := Option.map_id'

theorem failingAfter_succ (s : Stage τ) (x : Job.Shared) (c : τ)
    (log : List (Job × Option Duration)) (count : Nat) :
    failingAfter ⟨x, c, log, s.failingAfter 1⟩ count = s.failingAfter (count + 1) := by
  unfold failingAfter
  rw [Option.map_map]
  refine Option.map_congr fun p _ => ?_
  show (p.1 - 1 - count, p.2) = _
  rw [Nat.sub_sub, Nat.add_comm]

/-- A write that does not fail is one of the shared store. -/
theorem recordIf_store (id : JobId) (expected status : JobStatus) (reason : Option String)
    (hw : s.Writes 1) (hi : s.shared.jobs.Indexed) (hf : s.shared.jobs.find? id ≠ none) :
    store.recordIf now id expected status reason s =
      .ok (s.shared.turn.jobs.statusOf? id == some expected)
        ⟨s.shared.written now id expected status reason, s.cluster, s.evictions,
          s.failingAfter 1⟩ := by
  have hwrite := Job.Shared.recordIf_shared now id expected status reason hi hf
  obtain ⟨shared, cluster, evictions, failing⟩ := s
  match failing with
  | none => exact Action.zoom_of_ok hwrite
  | some (0, e) => exact absurd (hw 0 e rfl) (by decide)
  | some (n + 1, e) => exact Action.zoom_of_ok hwrite

/-- An eviction is asked for once, whether it fails or not. -/
theorem evict_evictor (hstop : ∀ j grace, (stop j grace).Answers) (j : Job)
    (grace : Option Duration) (s : Stage τ) :
    ∃ c, evict (some (evictor stop)) j grace s =
      .ok () { s with cluster := c, evictions := s.evictions ++ [(j, grace)] } := by
  obtain ⟨r, c, hr⟩ := (hstop j grace).zoom clusterPart
    { s with evictions := s.evictions ++ [(j, grace)] }
  refine ⟨c, ?_⟩
  have hnote : Action.update evictionsPart (· ++ [(j, grace)]) s =
      .ok () { s with evictions := s.evictions ++ [(j, grace)] } := rfl
  rcases Action.attempt_ok hr with ⟨_, rfl, hx⟩ | ⟨e, rfl, hx⟩
  · refine Action.tolerate_of_ok (x := evictor stop j grace) ?_
    rw [evictor, Action.bind_of_ok hnote]
    exact hx
  · refine Action.tolerate_of_error (x := evictor stop j grace) (e := e) ?_
    rw [evictor, Action.bind_of_ok hnote]
    exact hx

end Stage

/-! ## Checking -/

/-- Why a decision is refused: its first victim that is unknown or not running. -/
def refusal? (a : Job.Archive) (ids : List JobId) : Option Error :=
  ids.findSome? fun id => match a.find? id with
    | none => some (.noSuchJob id)
    | some j => if j.status = .running then none else some (.notPreemptible id j.status)

def recordOf (a : Job.Archive) (id : JobId) : Job := (a.find? id).getD default

theorem find?_of_refusal?_eq_none {a : Job.Archive} {ids : List JobId}
    (h : refusal? a ids = none) {id : JobId} (hid : id ∈ ids) :
    a.find? id = some (recordOf a id) ∧ (recordOf a id).status = .running := by
  have hnone := List.findSome?_eq_none_iff.1 h id hid
  cases hf : a.find? id with
  | none =>
    rw [hf] at hnone
    cases hnone
  | some j =>
    rw [recordOf, hf, Option.getD_some]
    simp only [hf] at hnone
    refine ⟨rfl, ?_⟩
    by_contra hs
    rw [if_neg hs] at hnone
    cases hnone

theorem checkVictims_stage (s : Stage τ) (ids : List JobId) :
    checkVictims Stage.store ids s = match refusal? s.shared.jobs ids with
      | some e => .error (.error e) s
      | none => .ok (ids.map (recordOf s.shared.jobs)) s := by
  induction ids with
  | nil => rfl
  | cons id rest ih =>
    rw [checkVictims, refusal?, List.findSome?_cons]
    cases hf : s.shared.jobs.find? id with
    | none =>
      have hfind : Job.Store.archive.find id s.shared.jobs =
          .error (.error (.noSuchJob id)) s.shared.jobs := by simp only [Job.Store.archive, hf]
      have hread : (Stage.store : Job.Store (Stage τ)).find id s =
          .error (.error (.noSuchJob id)) s :=
        Action.zoom_of_error (v := s.shared) (Action.zoom_of_error hfind)
      rw [Action.bind_of_error hread]
    | some j =>
      have hread : (Stage.store : Job.Store (Stage τ)).find id s = .ok j s :=
        Action.zoom_of_ok (v := s.shared) (Action.zoom_of_ok (Job.Archive.find_of_find? hf))
      rw [Action.bind_of_ok hread]
      by_cases hs : j.status = .running
      · simp only [hs, ne_eq, not_true_eq_false, if_false, if_true]
        have hrecord : recordOf s.shared.jobs id = j := by rw [recordOf, hf, Option.getD_some]
        change (checkVictims Stage.store rest >>= fun js => pure (j :: js)) s =
          match refusal? s.shared.jobs rest with
          | some e => .error (.error e) s
          | none => .ok (_ :: rest.map (recordOf s.shared.jobs)) s
        rw [hrecord]
        cases hr : refusal? s.shared.jobs rest with
        | some e =>
          rw [hr] at ih
          exact Action.bind_of_error ih
        | none =>
          rw [hr] at ih
          exact Action.bind_of_ok ih
      · simp only [hs, ne_eq, not_false_eq_true, if_true, if_false]
        rfl

/-! ## Writing -/

/-- A write that does not fail: a victim that is still running is evicted and answered, any other
one is passed over. -/
theorem writeVictims_cons {stop : Evictor τ} (hstop : ∀ j grace, (stop j grace).Answers)
    (now : Instant) (d : Decision) (j : Job) (rest : List Job) {s : Stage τ}
    (hi : s.shared.jobs.Indexed) (hstored : s.shared.jobs.find? j.id ≠ none) (hw : s.Writes 1) :
    ∃ c, writeVictims Stage.store (some (Stage.evictor stop)) now d (j :: rest) s =
      ((writeVictims Stage.store (some (Stage.evictor stop)) now d rest) >>= fun ids => pure
        ((if s.shared.turn.jobs.statusOf? j.id = some .running then [j.id] else []) ++ ids))
      ⟨s.shared.written now j.id .running .preempted (some d.reason), c,
        s.evictions ++ (if s.shared.turn.jobs.statusOf? j.id = some .running then
          [(j, d.gracePeriod)] else []), s.failingAfter 1⟩ := by
  rw [writeVictims, Action.bind_of_ok
    (Stage.recordIf_store j.id .running .preempted (some d.reason) hw hi hstored)]
  by_cases hs : s.shared.turn.jobs.statusOf? j.id = some .running
  · obtain ⟨c, hevict⟩ := Stage.evict_evictor hstop j d.gracePeriod
      ⟨s.shared.written now j.id .running .preempted (some d.reason), s.cluster, s.evictions,
        s.failingAfter 1⟩
    refine ⟨c, ?_⟩
    rw [if_pos (by rw [hs]; rfl), Action.bind_of_ok hevict, if_pos hs, if_pos hs]
    rfl
  · refine ⟨s.cluster, ?_⟩
    rw [if_neg (by simpa using hs), if_neg hs, if_neg hs, List.append_nil]
    simp only [List.nil_append, bind_pure]

/-- Each distinct victim that is still running at its write is evicted once. -/
theorem writeVictims_stage {stop : Evictor τ} (hstop : ∀ j grace, (stop j grace).Answers)
    (now : Instant) (d : Decision) {a : Job.Archive} {ids : List JobId}
    (hrecord : ∀ id ∈ ids, (recordOf a id).id = id) {s : Stage τ} (hi : s.shared.jobs.Indexed)
    (hstored : ∀ id ∈ ids, s.shared.jobs.find? id ≠ none) (h : s.shared.Settled ids)
    (hw : s.Writes ids.length) :
    ∃ c, writeVictims Stage.store (some (Stage.evictor stop)) now d (ids.map (recordOf a)) s =
      .ok (s.shared.victims ids) ⟨s.shared.writtenAll now (some d.reason) ids, c,
        s.evictions ++ (s.shared.victims ids).map fun id => (recordOf a id, d.gracePeriod),
        s.failingAfter ids.length⟩ := by
  induction ids generalizing s with
  | nil =>
    refine ⟨s.cluster, ?_⟩
    have hnone : s.evictions ++ [] = s.evictions := List.append_nil _
    show EStateM.Result.ok [] s =
      .ok [] ⟨s.shared, s.cluster, s.evictions ++ [], s.failingAfter 0⟩
    rw [hnone, s.failingAfter_zero]
  | cons id rest ih =>
    have hid := hrecord id List.mem_cons_self
    have hafter := Job.Shared.indexed_written now id .running .preempted (some d.reason) hi
    have hstill : ∀ i ∈ rest, (s.shared.written now id .running .preempted
        (some d.reason)).jobs.find? i ≠ none := by
      intro i hmem hnone
      rw [Job.Shared.find?_written _ _ _ _ _ hi, Job.Shared.turn, hi.find?_amend] at hnone
      simp only [Option.map_eq_none_iff] at hnone
      exact hstored i (List.mem_cons_of_mem _ hmem) hnone
    have hfirst : s.Writes 1 := fun n e hn => Nat.le_trans (Nat.le_add_left ..) (hw n e hn)
    have hnow : s.shared.jobs.find? (recordOf a id).id ≠ none := by
      rw [hid]
      exact hstored id List.mem_cons_self
    obtain ⟨c, hhead⟩ :=
      writeVictims_cons hstop now d (recordOf a id) (rest.map (recordOf a)) hi hnow hfirst
    rw [hid] at hhead
    obtain ⟨c', hrest⟩ := ih (fun i hmem => hrecord i (List.mem_cons_of_mem _ hmem))
      (s := ⟨s.shared.written now id .running .preempted (some d.reason), c, s.evictions ++
        (if s.shared.turn.jobs.statusOf? id = some .running then [(recordOf a id, d.gracePeriod)]
          else []), s.failingAfter 1⟩)
      hafter hstill (h.written now (some d.reason)) (Stage.Writes.succ hw _ c _)
    refine ⟨c', ?_⟩
    rw [List.map_cons, hhead, Action.bind_of_ok hrest, s.failingAfter_succ,
      Job.Shared.victims_cons now (some d.reason) h hi, List.map_append, ← List.append_assoc]
    split <;> rfl

/-- Victims are written one after another; a write that fails keeps what was written. -/
theorem writeVictims_append (store : Job.Store (Stage τ)) (evictor : Option (Evictor (Stage τ)))
    (now : Instant) (d : Decision) (front back : List Job) :
    writeVictims store evictor now d (front ++ back) = do
      let first ← writeVictims store evictor now d front
      return first ++ (← writeVictims store evictor now d back) := by
  induction front with
  | nil => simp [writeVictims]
  | cons j rest ih =>
    simp only [List.cons_append, writeVictims, ih, bind_assoc]
    refine bind_congr fun moved => ?_
    cases moved <;> simp

/-- A write that fails ends the writing: the victims before it are done, and no other. -/
theorem writeVictims_failing {stop : Evictor τ} (hstop : ∀ j grace, (stop j grace).Answers)
    (now : Instant) (d : Decision) {a : Job.Archive} {ids : List JobId}
    (hrecord : ∀ id ∈ ids, (recordOf a id).id = id) {s : Stage τ} (hi : s.shared.jobs.Indexed)
    (hstored : ∀ id ∈ ids, s.shared.jobs.find? id ≠ none) {n : Nat} {e : Error}
    (hfailing : s.failing = some (n, e)) (hn : n < ids.length)
    (h : s.shared.Settled (ids.take n)) :
    ∃ c, writeVictims Stage.store (some (Stage.evictor stop)) now d (ids.map (recordOf a)) s =
      .error (.error e) ⟨s.shared.writtenAll now (some d.reason) (ids.take n), c,
        s.evictions ++ (s.shared.victims (ids.take n)).map fun id => (recordOf a id, d.gracePeriod),
        some (0, e)⟩ := by
  have hlength : (ids.take n).length = n := by
    rw [List.length_take, Nat.min_eq_left (Nat.le_of_lt hn)]
  have hbefore : s.Writes (ids.take n).length := by
    intro m e' hm
    rw [hfailing] at hm
    cases hm
    exact Nat.le_of_eq hlength
  have hrecord' : ∀ id ∈ ids.take n, (recordOf a id).id = id := fun id hid =>
    hrecord id (List.mem_of_mem_take hid)
  obtain ⟨c, hfront⟩ := writeVictims_stage hstop now d hrecord' hi
    (fun id hid => hstored id (List.mem_of_mem_take hid)) h hbefore
  have hnow : s.failingAfter (ids.take n).length = some (0, e) := by
    rw [Stage.failingAfter, hfailing, hlength, Option.map_some, Nat.sub_self]
  rw [hnow] at hfront
  have hsplit : ids.map (recordOf a) = (ids.take n).map (recordOf a) ++
      recordOf a ids[n] :: (ids.drop (n + 1)).map (recordOf a) := by
    rw [← List.map_cons, ← List.drop_eq_getElem_cons hn, ← List.map_append, List.take_append_drop]
  refine ⟨c, ?_⟩
  rw [hsplit, writeVictims_append, Action.bind_of_ok hfront]
  rfl

/-! ## Carrying a decision out -/

/-- What has been done when a decision is carried out on these victims. -/
structure Performed (s : Stage τ) (now : Instant) (d : Decision) (victims : List JobId)
    (t : Stage τ) : Prop where
  distinct : victims.Nodup
  /-- Each victim is evicted once, with the record that was checked and the grace period. -/
  evicted : t.evictions = s.evictions ++
    (victims.filterMap s.shared.jobs.find?).map fun j => (j, d.gracePeriod)
  /-- The record of a victim, as the others have left it, is preempted; then they may go on. -/
  preempted : ∀ id ∈ victims, ∃ j k, s.shared.jobs.find? id = some j ∧
    k = (j.amend (s.shared.turns 0 (d.victims.idxOf id + 1))).advance now .preempted
      (some d.reason) ∧
    k.status = .preempted ∧ k.completedAt = some now ∧ k.errorMessage = some d.reason ∧
    t.shared.jobs.find? id =
      some (k.amend (s.shared.turns (d.victims.idxOf id + 1) d.victims.length))
  /-- Every other record is what the others alone make of it. -/
  untouched : ∀ id, id ∉ victims → t.shared.jobs.find? id =
    (s.shared.jobs.find? id).map (·.amend (s.shared.turns 0 d.victims.length))

variable {strategies : Strategies (Strategy (Stage τ))} {stop : Evictor τ} {q : Requirement}
  {s₀ s : Stage τ} {d : Decision}

theorem mem_of_mem_victims {x : Job.Shared} {ids : List JobId} {id : JobId}
    (h : id ∈ x.victims ids) : id ∈ ids :=
  List.mem_eraseDups.1 (List.mem_filter.1 h).1

theorem performed_writtenAll (hi : s.shared.jobs.Indexed) (h : s.shared.Settled d.victims)
    (hok : refusal? s.shared.jobs d.victims = none) (now : Instant) (c : τ)
    (failing : Option (Nat × Error)) :
    Performed s now d (s.shared.victims d.victims)
      ⟨s.shared.writtenAll now (some d.reason) d.victims, c,
        s.evictions ++ (s.shared.victims d.victims).map fun id =>
          (recordOf s.shared.jobs id, d.gracePeriod), failing⟩ where
  distinct := s.shared.nodup_victims d.victims
  evicted := by
    have hfound : (s.shared.victims d.victims).filterMap s.shared.jobs.find? =
        (s.shared.victims d.victims).map (recordOf s.shared.jobs) := by
      rw [← List.filterMap_eq_map]
      refine List.filterMap_congr fun id hid => ?_
      exact (find?_of_refusal?_eq_none hok (mem_of_mem_victims hid)).1
    rw [hfound, List.map_map]
    rfl
  preempted := by
    intro id hid
    have hfound := (find?_of_refusal?_eq_none hok (mem_of_mem_victims hid)).1
    refine ⟨_, _, hfound, rfl, rfl, rfl, rfl, ?_⟩
    rw [Job.Shared.find?_writtenAll now (some d.reason) hi h, hfound, Option.map_some, if_pos hid]
  untouched := by
    intro id hid
    rw [Job.Shared.find?_writtenAll now (some d.reason) hi h]
    exact Option.map_congr fun j _ => if_neg hid

theorem refusal?_take {a : Job.Archive} {ids : List JobId} (h : refusal? a ids = none) (n : Nat) :
    refusal? a (ids.take n) = none :=
  List.findSome?_eq_none_iff.2 fun id hid =>
    List.findSome?_eq_none_iff.1 h id (List.mem_of_mem_take hid)

/-- A decision is refused without a trace for its first victim that is unknown or not running.
Otherwise it is carried out on the distinct victims that are still running at their write,
whatever others record in between, unless they start a victim again that is listed again. A write
that fails ends it, with its error, when it is carried out on the victims before. -/
theorem perform_all_or_nothing (hstop : ∀ j grace, (stop j grace).Answers)
    (hd : strategies.decide q s₀ = .ok d s) (hi : s.shared.jobs.Indexed) (now : Instant) :
    (∀ e, refusal? s.shared.jobs d.victims = some e →
      perform strategies Stage.store (some (Stage.evictor stop)) now q s₀ = .error (.error e) s) ∧
    (refusal? s.shared.jobs d.victims = none → s.shared.Settled d.victims →
      (s.Writes d.victims.length → ∃ t,
        perform strategies Stage.store (some (Stage.evictor stop)) now q s₀ =
          .ok { d with victims := s.shared.victims d.victims } t ∧
        Performed s now d (s.shared.victims d.victims) t) ∧
      ∀ n e, s.failing = some (n, e) → n < d.victims.length → ∃ t,
        perform strategies Stage.store (some (Stage.evictor stop)) now q s₀ = .error (.error e) t ∧
        Performed s now { d with victims := d.victims.take n }
          (s.shared.victims (d.victims.take n)) t) := by
  have hcheck := checkVictims_stage s d.victims
  rw [perform, Action.bind_of_ok hd]
  constructor
  · intro e he
    rw [he] at hcheck
    have hsome : d.isEmpty ≠ true := by
      intro hempty
      rw [List.isEmpty_iff.1 hempty] at he
      cases he
    rw [if_neg hsome, Action.bind_of_error hcheck]
  intro hok h
  rw [hok] at hcheck
  have hfound := fun id (hid : id ∈ d.victims) => (find?_of_refusal?_eq_none hok hid).1
  have hrecord : ∀ id ∈ d.victims, (recordOf s.shared.jobs id).id = id :=
    fun id hid => (hi.find?_eq_some_iff.1 (hfound id hid)).2
  have hstored : ∀ id ∈ d.victims, s.shared.jobs.find? id ≠ none := by
    intro id hid hnone
    rw [hfound id hid] at hnone
    cases hnone
  refine ⟨fun hw => ?_, fun n e hfailing hn => ?_⟩
  · obtain ⟨c, hwrite⟩ := writeVictims_stage hstop now d hrecord hi hstored h hw
    refine ⟨_, ?_, performed_writtenAll hi h hok now c (s.failingAfter d.victims.length)⟩
    split
    next hempty =>
      -- Without victims the decision is answered as it is.
      have hnil : d.victims = [] := List.isEmpty_iff.1 hempty
      rw [hnil] at hwrite
      have hsame := (EStateM.Result.ok.inj hwrite).2
      have hanswer : ({ d with victims := s.shared.victims [] } : Decision) = d := by
        rw [show s.shared.victims [] = d.victims from hnil.symm]
      rw [hnil, hanswer, ← hsame]
      rfl
    next =>
      rw [Action.bind_of_ok hcheck, Action.bind_of_ok hwrite]
      rfl
  · have hsome : d.isEmpty ≠ true := by
      intro hempty
      rw [List.isEmpty_iff.1 hempty] at hn
      cases hn
    obtain ⟨c, hwrite⟩ :=
      writeVictims_failing hstop now d hrecord hi hstored hfailing hn (h.take n)
    refine ⟨_, ?_, performed_writtenAll hi (h.take n) (refusal?_take hok n) now c (some (0, e))⟩
    rw [if_neg hsome, Action.bind_of_ok hcheck, Action.bind_of_error hwrite]

def victimJob (n : BitVec 128) : Job := { id := ⟨n⟩, status := .running, createdAt := ⟨0, 0⟩ }

/-- A decision that names a victim twice. -/
def repeatedDecision (others : List JobId) : Decision where
  victims := ⟨1#128⟩ :: others ++ [⟨1#128⟩]
  reason := "room is needed"
  gracePeriod := some (.ofSeconds 30)

def repeating (others : List JobId) : Strategies (Strategy (Stage Unit)) :=
  Strategies.empty.register "repeating" ⟨"repeating", fun _ => pure (repeatedDecision others)⟩

def failingStop : Evictor Unit := fun _ _ => Action.fail (.unavailable "no cluster")

theorem answers_failingStop (j : Job) (grace : Option Duration) : (failingStop j grace).Answers :=
  Action.answers_fail _

/-- One victim is named twice, the other one completes before it is written, and the eviction
fails: the first one is preempted and evicted once. Where the second write fails, so does the call,
after that. -/
theorem perform_all_or_nothing_repeated : ∃ s t t' : Stage Unit,
    s.shared.ahead = [[⟨⟨1, 0⟩, ⟨2#128⟩, .completed, none⟩]] ∧ s.failing = none ∧
    s.shared.jobs.toList = [victimJob 1, victimJob 2] ∧
    perform (repeating [⟨2#128⟩]) Stage.store (some (Stage.evictor failingStop)) ⟨2, 0⟩ {} s =
      .ok { repeatedDecision [⟨2#128⟩] with victims := [⟨1#128⟩] } t ∧
    Performed s ⟨2, 0⟩ (repeatedDecision [⟨2#128⟩]) [⟨1#128⟩] t ∧
    perform (repeating [⟨2#128⟩]) Stage.store (some (Stage.evictor failingStop)) ⟨2, 0⟩ {}
        { s with failing := some (1, .unavailable "no store") } =
      .error (.error (.unavailable "no store")) t' ∧
    Performed { s with failing := some (1, .unavailable "no store") } ⟨2, 0⟩
      { repeatedDecision [⟨2#128⟩] with victims := [⟨1#128⟩] } [⟨1#128⟩] t' := by
  have hdistinct : ([victimJob 1, victimJob 2].map (·.id)).Nodup := by decide
  obtain ⟨a, hi, hlist⟩ := Job.Archive.exists_indexed hdistinct
  have hfirst : a.find? ⟨1#128⟩ = some (victimJob 1) :=
    hi.find?_of_mem (j := victimJob 1) (by rw [hlist]; exact List.mem_cons_self)
  have hsecond : a.find? ⟨2#128⟩ = some (victimJob 2) :=
    hi.find?_of_mem (j := victimJob 2) (by rw [hlist]; simp)
  let shared : Job.Shared := ⟨a, [[⟨⟨1, 0⟩, ⟨2#128⟩, .completed, none⟩]]⟩
  have hok : refusal? a (repeatedDecision [⟨2#128⟩]).victims = none := by
    simp [refusal?, repeatedDecision, hfirst, hsecond, victimJob]
  have hsettled : shared.Settled (repeatedDecision [⟨2#128⟩]).victims :=
    Job.Shared.settled_of_tail_eq_nil rfl _
  have hruns : ∀ ids, shared.runsAt (⟨1#128⟩ :: ids) ⟨1#128⟩ = true := by
    intro ids
    rw [Job.Shared.runsAt_head hi, Job.Shared.turn, Job.Archive.statusOf?, hi.find?_amend, hfirst]
    rfl
  have hvictims : shared.victims (repeatedDecision [⟨2#128⟩]).victims = [⟨1#128⟩] := by
    have hended : shared.runsAt [⟨1#128⟩, ⟨2#128⟩, ⟨1#128⟩] ⟨2#128⟩ = false := by
      rw [Job.Shared.runsAt, Job.Archive.statusOf?, hi.find?_amend, hsecond]
      rfl
    have htwice : ([⟨1#128⟩, ⟨2#128⟩, ⟨1#128⟩] : List JobId).eraseDups =
        [⟨1#128⟩, ⟨2#128⟩] := by decide
    change shared.victims [⟨1#128⟩, ⟨2#128⟩, ⟨1#128⟩] = _
    rw [Job.Shared.victims, htwice, List.filter_cons_of_pos (hruns _),
      List.filter_cons_of_neg (by rw [hended]; exact Bool.false_ne_true), List.filter_nil]
  have hvictim : shared.victims ((repeatedDecision [⟨2#128⟩]).victims.take 1) = [⟨1#128⟩] := by
    have honce : ([⟨1#128⟩] : List JobId).eraseDups = [⟨1#128⟩] := by decide
    change shared.victims [⟨1#128⟩] = _
    rw [Job.Shared.victims, honce, List.filter_cons_of_pos (hruns _), List.filter_nil]
  have hwrites : Stage.Writes ⟨shared, (), [], none⟩ 3 := Stage.writes_of_eq_none rfl 3
  have hd (s : Stage Unit) : (repeating [⟨2#128⟩]).decide {} s =
      .ok (repeatedDecision [⟨2#128⟩]) s := rfl
  obtain ⟨t, hperform, hdone⟩ := ((perform_all_or_nothing answers_failingStop
    (hd ⟨shared, (), [], none⟩) hi ⟨2, 0⟩).2 hok hsettled).1 hwrites
  obtain ⟨t', hfails, hbefore⟩ := ((perform_all_or_nothing answers_failingStop
    (hd ⟨shared, (), [], some (1, .unavailable "no store")⟩) hi ⟨2, 0⟩).2 hok hsettled).2
    1 _ rfl (by decide)
  rw [hvictims] at hperform hdone
  rw [hvictim] at hbefore
  exact ⟨_, t, t', rfl, rfl, hlist, hperform, hdone, hfails, hbefore⟩

/-- A victim that is listed twice and started again between its two writes is evicted twice and
answered twice. And where a write fails, so does the call, though all victims are running. -/
theorem restarted_victim_evicted_twice : ∃ s t : Stage Unit,
    s.shared.jobs.toList = [victimJob 1] ∧
    s.shared.ahead = [[], [⟨⟨1, 0⟩, ⟨1#128⟩, .running, none⟩]] ∧
    refusal? s.shared.jobs (repeatedDecision []).victims = none ∧
    perform (repeating []) Stage.store (some (Stage.evictor failingStop)) ⟨2, 0⟩ {} s =
      .ok { repeatedDecision [] with victims := [⟨1#128⟩, ⟨1#128⟩] } t ∧
    t.evictions = [(victimJob 1, some (.ofSeconds 30)), (victimJob 1, some (.ofSeconds 30))] ∧
    perform (repeating []) Stage.store (some (Stage.evictor failingStop)) ⟨2, 0⟩ {}
        { s with failing := some (0, .unavailable "no store") } =
      .error (.error (.unavailable "no store"))
        { s with failing := some (0, .unavailable "no store") } := by
  have hdistinct : ([victimJob 1].map (·.id)).Nodup := by decide
  obtain ⟨a, hi, hlist⟩ := Job.Archive.exists_indexed hdistinct
  have hfind : a.find? ⟨1#128⟩ = some (victimJob 1) :=
    hi.find?_of_mem (j := victimJob 1) (by rw [hlist]; exact List.mem_cons_self)
  have hok : refusal? a (repeatedDecision []).victims = none := by
    simp [refusal?, repeatedDecision, hfind, victimJob]
  have hrecords : (repeatedDecision []).victims.map (recordOf a) = [victimJob 1, victimJob 1] := by
    simp [repeatedDecision, recordOf, hfind]
  let shared : Job.Shared := ⟨a, [[], [⟨⟨1, 0⟩, ⟨1#128⟩, .running, none⟩]]⟩
  let written := shared.written ⟨2, 0⟩ ⟨1#128⟩ .running .preempted (some "room is needed")
  have hcheck (failing : Option (Nat × Error)) :
      checkVictims Stage.store (repeatedDecision []).victims ⟨shared, (), [], failing⟩ =
        .ok [victimJob 1, victimJob 1] ⟨shared, (), [], failing⟩ := by
    rw [checkVictims_stage, hok, hrecords]
  have hfound : shared.jobs.find? ⟨1#128⟩ ≠ none := by
    rw [hfind]
    exact Option.some_ne_none _
  have hruns : shared.turn.jobs.statusOf? ⟨1#128⟩ = some .running := by
    rw [Job.Shared.turn, Job.Archive.statusOf?, hi.find?_amend, hfind]
    rfl
  have hindexed : written.jobs.Indexed := Job.Shared.indexed_written _ _ _ _ _ hi
  have hkept : written.jobs.find? ⟨1#128⟩ =
      some ((victimJob 1).advance ⟨2, 0⟩ .preempted (some "room is needed")) := by
    rw [Job.Shared.find?_written _ _ _ _ _ hi, Job.Shared.turn, hi.find?_amend, hfind]
    rfl
  have hagain : written.turn.jobs.statusOf? ⟨1#128⟩ = some .running := by
    have hahead : written.ahead = [[⟨⟨1, 0⟩, ⟨1#128⟩, .running, none⟩]] :=
      Job.Shared.ahead_written _ _ _ _ _
    rw [Job.Shared.turn, Job.Archive.statusOf?, hindexed.find?_amend, hkept, hahead]
    rfl
  have hstored : written.jobs.find? ⟨1#128⟩ ≠ none := by
    rw [hkept]
    exact Option.some_ne_none _
  obtain ⟨c, hfirst⟩ := writeVictims_cons answers_failingStop ⟨2, 0⟩ (repeatedDecision [])
    (victimJob 1) [victimJob 1] (s := ⟨shared, (), [], none⟩) hi hfound
    (Stage.writes_of_eq_none rfl 1)
  obtain ⟨c', hsecond⟩ := writeVictims_cons answers_failingStop ⟨2, 0⟩ (repeatedDecision [])
    (victimJob 1) [] (s := ⟨written, c, [(victimJob 1, some (.ofSeconds 30))], none⟩) hindexed
    hstored (Stage.writes_of_eq_none rfl 1)
  change shared.turn.jobs.statusOf? (victimJob 1).id = _ at hruns
  change written.turn.jobs.statusOf? (victimJob 1).id = _ at hagain
  rw [if_pos hruns, if_pos hruns] at hfirst
  rw [if_pos hagain, if_pos hagain] at hsecond
  have hboth := hfirst.trans (Action.bind_of_ok hsecond)
  refine ⟨⟨shared, (), [], none⟩, _, hlist, rfl, hok,
    (Action.bind_of_ok (hcheck none)).trans (Action.bind_of_ok hboth), rfl, ?_⟩
  exact Action.bind_of_ok (hcheck (some (0, .unavailable "no store")))

end Preemption

end GpuCluster
