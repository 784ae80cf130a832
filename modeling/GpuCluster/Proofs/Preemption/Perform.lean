import GpuCluster.Preemption.Perform
import GpuCluster.Preemption.TierWeight
import GpuCluster.Proofs.Action
import GpuCluster.Proofs.Job.Departure
import GpuCluster.Proofs.Preemption.Strategies

/-!
# What preemption writes

* `cumulative_reads`, `tierWeight_reads` : to decide, a strategy only reads;
* `checkVictims_ok` : checked victims are stored and running;
* `writeVictims_departs` : the victims that are answered leave running, and no one else;
* `perform_within`, `perform_ok`, `perform_error` : carrying out a decision over stored jobs; a
  failure leaves everything as it was;
* `makeRoom_ok`, `makeRoom_error` : the same for making room.
-/

namespace GpuCluster

namespace Preemption

open Job (Archive Departure)
open Job.Archive (Departs)

variable {σ : Type} {part : Lens σ Archive}

theorem cumulative_reads (hp : part.Lawful) (p : Policy) (o : VictimOrder) (q : Requirement) :
    Action.Reads ((cumulative (Job.Store.archive.within part) p o).decide q) := by
  unfold cumulative
  dsimp only
  split
  next => exact Action.reads_pure _
  next =>
    refine Action.reads_bind ?_ fun candidates => ?_
    · exact Action.reads_bind (Action.reads_zoom hp (Job.Archive.withStatus_reads _)) fun _ =>
      Action.reads_pure _
    · exact Action.reads_bind (Action.reads_ofChecked _) fun _ => Action.reads_pure _

theorem tierWeight_reads (hp : part.Lawful) (p : Policy) (q : Requirement) :
    Action.Reads ((tierWeight (Job.Store.archive.within part) p).decide q) := by
  unfold tierWeight
  dsimp only
  split
  next => exact Action.reads_pure _
  next id _ =>
    refine Action.reads_bind (Action.reads_zoom hp (Job.Archive.find_reads id)) fun requester => ?_
    split
    next => exact Action.reads_pure _
    next =>
      refine Action.reads_bind ?_ fun line => ?_
      · exact Action.reads_bind (Action.reads_zoom hp (Job.Archive.withStatus_reads _)) fun _ =>
      Action.reads_pure _
      · exact Action.reads_bind (Action.reads_ofChecked _) fun _ => Action.reads_pure _

/-- If all known strategies only read, so does the active one. -/
theorem Strategies.decide_reads {s : Strategies (Strategy σ)} {q : Requirement}
    (h : ∀ name x, s.known.get? name = some x → Action.Reads (x.decide q)) :
    Action.Reads (s.decide q) := by
  cases hs : s.current with
  | error e =>
    rw [Strategies.decide_of_error hs]
    exact Action.reads_fail e
  | ok x =>
    obtain ⟨name, -, hx⟩ := Strategies.known_of_current hs
    rw [Strategies.decide_of_ok hs]
    exact h name x hx

/-! ## Victims -/

theorem within_checkVictims (hp : part.Lawful) (store : Job.Store Archive) (ids : List JobId) :
    checkVictims (store.within part) ids = (checkVictims store ids).zoom part := by
  induction ids with
  | nil => exact (Action.zoom_pure hp []).symm
  | cons id rest ih =>
    rw [checkVictims, checkVictims, Action.zoom_bind hp]
    refine congrArg (_ >>= ·) (funext fun j => ?_)
    split
    next => exact (Action.zoom_fail hp _).symm
    next =>
      rw [Action.zoom_bind hp, ih]
      exact congrArg (_ >>= ·) (funext fun js => (Action.zoom_pure hp _).symm)

theorem within_writeVictims (hp : part.Lawful) (store : Job.Store Archive) (now : Instant)
    (d : Decision) (js : List Job) :
    writeVictims (store.within part) none now d js =
      (writeVictims store none now d js).zoom part := by
  induction js with
  | nil => exact (Action.zoom_pure hp []).symm
  | cons j rest ih =>
    rw [writeVictims, writeVictims, Action.zoom_bind hp]
    refine congrArg (_ >>= ·) (funext fun moved => ?_)
    cases moved with
    | false => exact ih
    | true =>
      change (evict none j d.gracePeriod >>= fun _ => writeVictims (store.within part) none now d
        rest >>= fun ids => pure (j.id :: ids)) = Action.zoom part _
      rw [ih, if_pos rfl, Action.zoom_bind hp]
      refine congrArg₂ (· >>= ·) (Action.zoom_pure hp ()).symm (funext fun _ => ?_)
      rw [Action.zoom_bind hp]
      exact congrArg (_ >>= ·) (funext fun ids => (Action.zoom_pure hp _).symm)

variable {a b : Archive} {ids : List JobId} {js : List Job} {now : Instant}

theorem checkVictims_reads (ids : List JobId) :
    Action.Reads (checkVictims Job.Store.archive ids) := by
  induction ids with
  | nil => exact Action.reads_pure _
  | cons id rest ih =>
    refine Action.reads_bind (Job.Archive.find_reads id) fun j => ?_
    split
    next => exact Action.reads_fail _
    next => exact Action.reads_bind ih fun _ => Action.reads_pure _

/-- Checked victims are stored and running. -/
theorem checkVictims_ok (h : checkVictims Job.Store.archive ids a = .ok js b) :
    ∀ j ∈ js, ∃ id, a.find? id = some j ∧ j.status = .running := by
  induction ids generalizing js b with
  | nil =>
    obtain ⟨rfl, -⟩ := Action.pure_ok.1 h
    exact fun _ hj => absurd hj List.not_mem_nil
  | cons id rest ih =>
    obtain ⟨k, c, hk, hrest⟩ := Action.bind_ok.1 h
    obtain ⟨hf, rfl⟩ := Job.Archive.find_ok hk
    split at hrest
    next => cases hrest
    next hrun =>
      obtain ⟨ks, c, hks, hp⟩ := Action.bind_ok.1 hrest
      obtain ⟨rfl, -⟩ := Action.pure_ok.1 hp
      intro j hj
      rcases List.mem_cons.1 hj with rfl | hj
      · exact ⟨id, hf, Decidable.not_not.1 hrun⟩
      · exact ih hks j hj

/-- How the victims of a decision leave running. -/
def departures (reason : String) (ids : List JobId) : List Departure :=
  ids.map fun id => ⟨id, .preempted, some reason⟩

/-- The victims that are answered leave running, and no one else does. -/
theorem writeVictims_departs (now : Instant) (ha : a.Indexed) (d : Decision)
    (hjs : ∀ j ∈ js, ∃ k ∈ a.toList, k.id = j.id) :
    ∃ ids b, writeVictims Job.Store.archive none now d js a = .ok ids b ∧
      Departs now a (departures d.reason ids) b := by
  induction js generalizing a with
  | nil => exact ⟨[], a, Action.pure_apply [] a, .nil a⟩
  | cons j rest ih =>
    obtain ⟨k, hk, hid⟩ := hjs j List.mem_cons_self
    have hf : a.find? j.id = some k := ha.find?_eq_some_iff.2 ⟨hk, hid⟩
    obtain ⟨moved, c, hw⟩ :=
      Job.Archive.recordIf_of_find? now .running .preempted (some d.reason) hf
    have hrest : ∀ i ∈ rest, ∃ k ∈ a.toList, k.id = i.id :=
      fun i hi => hjs i (List.mem_cons_of_mem _ hi)
    obtain ⟨k', hf', ⟨hs, rfl, rfl⟩ | ⟨-, rfl, rfl⟩⟩ := Job.Archive.recordIf_ok hw
    · -- The victim is still running: its record is changed before the rest is written.
      obtain ⟨ids, b, hb, hdep⟩ := ih (a := a.modify j.id _)
        (ha.modify fun i => Job.id_advance ..) fun i hi => by
          obtain ⟨k, hk, hid⟩ := hrest i hi
          refine ⟨_, ha.mem_modify.2 ⟨k, hk, rfl⟩, ?_⟩
          rw [← hid]
          split <;> rfl
      refine ⟨j.id :: ids, b, ?_, .cons hf' hs hdep⟩
      have hevict : evict (σ := Archive) none j d.gracePeriod = pure () := rfl
      rw [writeVictims, Action.bind_of_ok hw, if_pos rfl, hevict,
        Action.bind_of_ok (Action.pure_apply () _), Action.bind_of_ok hb]
      rfl
    · obtain ⟨ids, b, hb, hdep⟩ := ih ha hrest
      refine ⟨ids, b, ?_, hdep⟩
      rw [writeVictims, Action.bind_of_ok hw, if_neg Bool.false_ne_true, hb]

/-! ## A decision over stored jobs -/

variable {s t : σ} {strategies : Strategies (Strategy σ)} {q : Requirement}

/-- A decision that is carried out lets the victims it answers leave running. -/
theorem perform_ok {d : Decision} (hp : part.Lawful) (hs : Action.Reads (strategies.decide q))
    (ha : (part.get s).Indexed)
    (h : perform strategies (Job.Store.archive.within part) none now q s = .ok d t) :
    ∃ b, Departs now (part.get s) (departures d.reason d.victims) b ∧ t = part.set b s := by
  obtain ⟨e, u, hd, hrest⟩ := Action.bind_ok.1 h
  obtain rfl := hs.eq_of_ok hd
  split at hrest
  next hempty =>
    obtain ⟨rfl, rfl⟩ := Action.pure_ok.1 hrest
    refine ⟨part.get u, ?_, (hp.set_get u).symm⟩
    rw [List.isEmpty_iff.1 hempty]
    exact .nil _
  next =>
    obtain ⟨js, v, hv, hwrite⟩ := Action.bind_ok.1 hrest
    rw [within_checkVictims hp, Action.zoom_ok] at hv
    obtain ⟨c, hv, rfl⟩ := hv
    obtain rfl := (checkVictims_reads _).eq_of_ok hv
    rw [hp.set_get] at hwrite
    obtain ⟨ids, v, hw, hpure⟩ := Action.bind_ok.1 hwrite
    rw [within_writeVictims hp, Action.zoom_ok] at hw
    obtain ⟨b, hw, rfl⟩ := hw
    obtain ⟨rfl, rfl⟩ := Action.pure_ok.1 hpure
    obtain ⟨ids', b', hw', hdep⟩ := writeVictims_departs now ha e fun j hj => by
      obtain ⟨id, hf, -⟩ := checkVictims_ok hv j hj
      exact ⟨j, (ha.find?_eq_some_iff.1 hf).1, rfl⟩
    rw [hw] at hw'
    cases hw'
    exact ⟨b, hdep, rfl⟩

/-- A decision that fails leaves everything as it was: it fails before anything is written. -/
theorem perform_error {f : Failure} (hp : part.Lawful)
    (hs : Action.Reads (strategies.decide q)) (ha : (part.get s).Indexed)
    (h : perform strategies (Job.Store.archive.within part) none now q s = .error f t) :
    t = s := by
  unfold perform at h
  cases hd : strategies.decide q s with
  | error e u =>
    rw [Action.bind_of_error hd] at h
    cases h
    exact hs.eq_of_error hd
  | ok e u =>
    obtain rfl := hs.eq_of_ok hd
    rw [Action.bind_of_ok hd] at h
    split at h
    next => cases h
    next =>
      rw [within_checkVictims hp] at h
      cases hv : checkVictims Job.Store.archive e.victims (part.get u) with
      | error g c =>
        obtain rfl := (checkVictims_reads _).eq_of_error hv
        rw [Action.bind_of_error (Action.zoom_of_error hv), hp.set_get] at h
        cases h
        rfl
      | ok js c =>
        obtain rfl := (checkVictims_reads _).eq_of_ok hv
        obtain ⟨ids, b, hw, -⟩ := writeVictims_departs now ha e fun j hj => by
          obtain ⟨id, hf, -⟩ := checkVictims_ok hv j hj
          exact ⟨j, (ha.find?_eq_some_iff.1 hf).1, rfl⟩
        rw [Action.bind_of_ok (Action.zoom_of_ok hv), hp.set_get, within_writeVictims hp,
          Action.bind_of_ok (Action.zoom_of_ok hw)] at h
        cases h

variable {shortage : Action σ Bool}

theorem makeRoom_ok (hp : part.Lawful) (hsh : Action.Reads shortage)
    (hs : Action.Reads (strategies.decide q)) (ha : (part.get s).Indexed)
    (h : makeRoom shortage strategies (Job.Store.archive.within part) none now q s = .ok ids t) :
    ∃ reason b, Departs now (part.get s) (departures reason ids) b ∧ t = part.set b s := by
  obtain ⟨short, u, hr, hrest⟩ := Action.bind_ok.1 h
  obtain rfl := hsh.eq_of_ok hr
  cases short with
  | false =>
    obtain ⟨rfl, rfl⟩ := Action.pure_ok.1 hrest
    exact ⟨"", part.get u, .nil _, (hp.set_get u).symm⟩
  | true =>
    obtain ⟨d, v, hd, hpure⟩ := Action.bind_ok.1 hrest
    obtain ⟨rfl, rfl⟩ := Action.pure_ok.1 hpure
    exact ⟨d.reason, perform_ok hp hs ha hd⟩

theorem makeRoom_error {f : Failure} (hp : part.Lawful) (hsh : Action.Reads shortage)
    (hs : Action.Reads (strategies.decide q)) (ha : (part.get s).Indexed)
    (h : makeRoom shortage strategies (Job.Store.archive.within part) none now q s = .error f t) :
    t = s := by
  unfold makeRoom at h
  cases hr : shortage s with
  | error e u =>
    rw [Action.bind_of_error hr] at h
    cases h
    exact hsh.eq_of_error hr
  | ok short u =>
    obtain rfl := hsh.eq_of_ok hr
    rw [Action.bind_of_ok hr] at h
    cases short with
    | false => cases h
    | true =>
      rw [if_pos rfl] at h
      cases hd : perform strategies (Job.Store.archive.within part) none now q u with
      | ok d v =>
        rw [Action.bind_of_ok hd] at h
        cases h
      | error e v =>
        rw [Action.bind_of_error hd] at h
        cases h
        exact perform_error hp hs ha hd

end Preemption

end GpuCluster
