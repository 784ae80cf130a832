import GpuCluster.Proofs.Preemption.Perform
import GpuCluster.Proofs.Preemption.Victims

/-!
# Making room by cumulated GPUs

* `candidates` : the running jobs of a lower priority;
* `departs_preempted` : what the departure of victims does to the records;
* `perform_of_running` : a decision on distinct running jobs is carried out on all of them;
* `RoomMade` : who has been pushed out, and what became of the records;
* `makeRoom_cumulative` : this is what making room does over any stored jobs.
-/

namespace GpuCluster.Preemption

open Job (Archive)
open Job.Archive (Departs)

variable {σ : Type} {part : Lens σ Archive} {monitor : Lens σ Monitor} {a b : Archive}
  {ids : List JobId} {js : List Job} {now : Instant} {s t : σ} {d : Decision} {q : Requirement}
  {p : Policy} {o : VictimOrder} {r : Reading}

/-! ## Departed victims -/

/-- Victims that have left running were running, are distinct and are preempted now; no other
record has changed. -/
theorem departs_preempted {reason : String} (ha : a.Indexed)
    (h : Departs now a (departures reason ids) b) :
    ids.Nodup ∧ (∀ id ∈ ids, a.statusOf? id = some .running) ∧ ∀ id, b.find? id =
      (a.find? id).map fun j => if id ∈ ids then j.advance now .preempted (some reason) else j := by
  induction ids generalizing a with
  | nil =>
    cases h
    refine ⟨List.nodup_nil, nofun, fun id => ?_⟩
    simp only [List.not_mem_nil, if_false]
    exact Option.map_id'.symm
  | cons id rest ih =>
    cases h with
    | @cons _ _ _ _ j found running departed =>
      obtain ⟨hnodup, hrunning, hfind⟩ := ih ha.advance departed
      have hstatus := fun i => ha.statusOf?_advance now .preempted (some reason) id i
      have hnot : id ∉ rest := by
        intro hmem
        have hagain := hrunning id hmem
        rw [hstatus, Job.Archive.statusOf?_of_find? found] at hagain
        simp at hagain
      refine ⟨List.nodup_cons.2 ⟨hnot, hnodup⟩, fun i hi => ?_, fun i => ?_⟩
      · rcases List.mem_cons.1 hi with rfl | hi
        · rw [Job.Archive.statusOf?_of_find? found, running]
        · have hlater := hrunning i hi
          have hne : i ≠ id := fun heq => hnot (heq ▸ hi)
          rw [hstatus] at hlater
          simpa [hne] using hlater
      · rw [hfind, ha.find?_advance, Option.map_map]
        refine Option.map_congr fun k _ => ?_
        show (if i ∈ rest then Job.advance now .preempted (some reason) (if i = id then _ else k)
          else if i = id then _ else k) = _
        by_cases hid : i = id
        · subst hid
          rw [if_neg hnot, if_pos rfl, if_pos List.mem_cons_self]
        · simp [hid]

/-! ## Carrying out -/

/-- An eviction ends well and leaves the stored jobs alone. -/
def Spares (part : Lens σ Archive) (evictor : Option (Evictor σ)) : Prop :=
  ∀ j grace s, ∃ t, evict evictor j grace s = .ok () t ∧ part.get t = part.get s

theorem spares_none (part : Lens σ Archive) : Spares part none := fun _ _ s => ⟨s, rfl, rfl⟩

variable {evictor : Option (Evictor σ)}

theorem checkVictims_of_running (hp : part.Lawful)
    (h : ∀ j ∈ js, (part.get s).find? j.id = some j ∧ j.status = .running) :
    checkVictims (Job.Store.archive.within part) (js.map (·.id)) s = .ok js s := by
  induction js with
  | nil => rfl
  | cons j rest ih =>
    obtain ⟨hf, hrun⟩ := h j List.mem_cons_self
    have hread : (Job.Store.archive.within part).find j.id s = .ok j s :=
      Action.zoom_of_same hp (Job.Archive.find_of_find? hf)
    have hrest := ih fun k hk => h k (List.mem_cons_of_mem _ hk)
    rw [List.map_cons, checkVictims, Action.bind_of_ok hread, if_neg (not_not.2 hrun),
      Action.bind_of_ok hrest]
    rfl

theorem writeVictims_of_running (now : Instant) (d : Decision) (hp : part.Lawful)
    (hev : Spares part evictor) (hi : (part.get s).Indexed) (hnodup : (js.map (·.id)).Nodup)
    (h : ∀ j ∈ js, (part.get s).statusOf? j.id = some .running) :
    ∃ t, writeVictims (Job.Store.archive.within part) evictor now d js s =
      .ok (js.map (·.id)) t ∧
      Departs now (part.get s) (departures d.reason (js.map (·.id))) (part.get t) := by
  induction js generalizing s with
  | nil => exact ⟨s, rfl, .nil _⟩
  | cons j rest ih =>
    obtain ⟨hnot, hrest⟩ := List.nodup_cons.1 hnodup
    obtain ⟨k, hk, hrun⟩ := Option.map_eq_some_iff.1 (h j List.mem_cons_self)
    obtain ⟨moved, c, hwrite⟩ :=
      Job.Archive.recordIf_of_find? now .running .preempted (some d.reason) hk
    obtain ⟨k', hk', hcases⟩ := Job.Archive.recordIf_ok hwrite
    rw [hk] at hk'
    cases hk'
    rcases hcases with ⟨-, rfl, rfl⟩ | ⟨hnotrun, -, -⟩
    · obtain ⟨u, hevict, hu⟩ := hev j d.gracePeriod
        (part.set ((part.get s).modify j.id (Job.advance now .preempted (some d.reason))) s)
      rw [hp.get_set] at hu
      obtain ⟨t, ht, hdep⟩ := ih (s := u) (hu ▸ hi.advance) hrest fun i hmem => by
        have hne : i.id ≠ j.id := fun heq => hnot (List.mem_map.2 ⟨i, hmem, heq⟩)
        rw [hu, hi.statusOf?_advance, h i (List.mem_cons_of_mem _ hmem), Option.map_some,
          if_neg hne]
      refine ⟨t, ?_, .cons hk hrun (hu ▸ hdep)⟩
      have hfirst : (Job.Store.archive.within part).recordIf now j.id .running .preempted
          (some d.reason) s = .ok true _ := Action.zoom_of_ok hwrite
      rw [writeVictims, Action.bind_of_ok hfirst, if_pos rfl, Action.bind_of_ok hevict,
        Action.bind_of_ok ht]
      rfl
    · exact absurd hrun hnotrun

variable {strategies : Strategies (Strategy σ)}

/-- A decision on distinct running jobs is carried out on all of them. -/
theorem perform_of_running (now : Instant) (hp : part.Lawful) (hev : Spares part evictor)
    (hi : (part.get s).Indexed) (hd : strategies.decide q s = .ok d s)
    (hvictims : d.victims = js.map (·.id)) (hnodup : (js.map (·.id)).Nodup)
    (h : ∀ j ∈ js, (part.get s).find? j.id = some j ∧ j.status = .running) :
    ∃ t, perform strategies (Job.Store.archive.within part) evictor now q s = .ok d t ∧
      Departs now (part.get s) (departures d.reason d.victims) (part.get t) ∧
      (d.victims = [] → t = s) := by
  rw [perform, Action.bind_of_ok hd]
  by_cases hempty : d.victims = []
  · refine ⟨s, ?_, ?_, fun _ => rfl⟩
    · have hisEmpty : d.isEmpty = true := List.isEmpty_iff.2 hempty
      rw [if_pos hisEmpty]
      rfl
    · rw [hempty]
      exact .nil _
  · obtain ⟨t, hwrite, hdep⟩ := writeVictims_of_running now d hp hev hi hnodup
      fun j hj => by rw [Job.Archive.statusOf?_of_find? (h j hj).1, (h j hj).2]
    have hsome : d.isEmpty ≠ true := mt List.isEmpty_iff.1 hempty
    refine ⟨t, ?_, hvictims ▸ hdep, fun hnil => absurd hnil hempty⟩
    rw [if_neg hsome, hvictims,
      Action.bind_of_ok (checkVictims_of_running hp h), Action.bind_of_ok hwrite, ← hvictims]
    rfl

/-! ## The decision -/

/-- The running jobs of a lower priority. -/
def candidates (a : Archive) (q : Requirement) : List Job :=
  (a.withStatus [.running]).filter fun j => j.priorityValue < q.priorityValue

theorem mem_candidates {j : Job} : j ∈ candidates a q ↔
    j ∈ a.toList ∧ j.status = .running ∧ j.priorityValue < q.priorityValue := by
  unfold candidates Archive.withStatus
  rw [List.mem_filter, List.mem_filter, List.contains_iff_mem, List.mem_singleton,
    decide_eq_true_iff, and_assoc]

theorem candidates_perm (h : b.toList.Perm a.toList) (q : Requirement) :
    (candidates b q).Perm (candidates a q) := (h.filter _).filter _

theorem nodup_candidates (hi : a.Indexed) (o : VictimOrder) (q : Requirement) :
    ((o.sort (candidates a q)).map (·.id)).Nodup := by
  rw [((o.sort_perm _).map _).nodup_iff]
  exact hi.nodup.sublist ((List.filter_sublist.trans List.filter_sublist).map Job.id)

/-- Those of a line that go. -/
def leavers (p : Policy) (q : Requirement) (line : List Job) : List Job :=
  match selectVictims line (gpusNeeded q) with
  | .ok js => js.take p.maxVictims
  | .error _ => []

/-- The longest first part of the line within the budget goes, up to the largest number. -/
theorem leavers_eq (p : Policy) (q : Requirement) (line : List Job) : ∃ n,
    leavers p q line = (line.take n).take p.maxVictims ∧
    Fills ((gpusNeeded q).toNat + (headroom line).toNat) line n := by
  obtain ⟨n, hn, hfills⟩ := selectVictims_take line (gpusNeeded q)
  refine ⟨n, ?_, hfills⟩
  rw [leavers, hn]

theorem cumulative_decide (hp : part.Lawful) (hq : gpusNeeded q ≠ 0) :
    (cumulative (Job.Store.archive.within part) p o).decide q s =
      .ok (.of ((leavers p q (o.sort (candidates (part.get s) q))).map (·.id))
        cumulativeReason q p) s := by
  obtain ⟨n, hn, -⟩ := selectVictims_take (o.sort (candidates (part.get s) q)) (gpusNeeded q)
  have hread : (Job.Store.archive.within part).runningBelow q.priorityValue s =
      .ok (candidates (part.get s) q) s := by
    have hlist : (Job.Store.archive.within part).withStatus [.running] s =
        .ok ((part.get s).withStatus [.running]) s :=
      Action.zoom_of_same hp rfl
    rw [Job.Store.runningBelow, Action.bind_of_ok hlist]
    rfl
  have htaken : (leavers p q (o.sort (candidates (part.get s) q))).take p.maxVictims =
      leavers p q (o.sort (candidates (part.get s) q)) := by
    rw [leavers, hn]
    show List.take _ (List.take _ _) = _
    rw [List.take_take, Nat.min_self]
  unfold cumulative
  dsimp only
  rw [if_neg hq, Action.bind_of_ok hread, hn]
  have hselect : leavers p q (o.sort (candidates (part.get s) q)) =
      ((o.sort (candidates (part.get s) q)).take n).take p.maxVictims := by
    rw [leavers, hn]
  show EStateM.Result.ok _ s = .ok _ s
  rw [Decision.of, Decision.of, ← List.map_take, ← List.map_take, htaken, hselect]

/-! ## Making room -/

theorem shortageIn_of_reading (hr : (monitor.get s).cluster = some r) :
    Monitor.shortageIn monitor s = .ok (!r.hasRoom) s := by
  have hread : Action.read monitor s = .ok (monitor.get s) s := rfl
  rw [Monitor.shortageIn, Action.bind_of_ok hread, Monitor.shortage, Monitor.reading, hr]
  rfl

/-- Those that go for a requirement: no one while there is room or if no GPU is needed. -/
def evictees (o : VictimOrder) (p : Policy) (q : Requirement) (r : Reading) (a : Archive) :
    List Job :=
  if r.hasRoom ∨ gpusNeeded q = 0 then [] else leavers p q (o.sort (candidates a q))

theorem evictees_take (o : VictimOrder) (p : Policy) (q : Requirement) (r : Reading) (a : Archive) :
    ∃ n ≤ p.maxVictims, evictees o p q r a = (o.sort (candidates a q)).take n := by
  unfold evictees
  split
  next => exact ⟨0, Nat.zero_le _, rfl⟩
  next =>
    obtain ⟨n, hn, -⟩ := leavers_eq p q (o.sort (candidates a q))
    rw [hn, List.take_take]
    exact ⟨min p.maxVictims n, Nat.min_le_left .., rfl⟩

theorem mem_evictees {j : Job} (h : j ∈ evictees o p q r a) : j ∈ candidates a q := by
  obtain ⟨n, -, hn⟩ := evictees_take o p q r a
  rw [hn] at h
  exact (o.sort_perm _).mem_iff.1 (List.mem_of_mem_take h)

theorem nodup_evictees (hi : a.Indexed) : ((evictees o p q r a).map (·.id)).Nodup := by
  obtain ⟨n, -, hn⟩ := evictees_take o p q r a
  rw [hn]
  exact (nodup_candidates hi o q).sublist ((List.take_sublist ..).map Job.id)

/-- No candidate that is left alone goes before one that goes. -/
theorem not_before_evictees {j k : Job} (hj : j ∈ candidates a q) (hnot : j ∉ evictees o p q r a)
    (hk : k ∈ evictees o p q r a) : ¬ o.Before j k := by
  obtain ⟨n, -, hn⟩ := evictees_take o p q r a
  have hsorted := o.sort_pairwise (candidates a q)
  have hline := (o.sort_perm (candidates a q)).mem_iff.2 hj
  rw [hn] at hnot hk
  rw [← List.take_append_drop n (o.sort _)] at hsorted hline
  rcases List.mem_append.1 hline with hin | hout
  · exact absurd hin hnot
  · exact (List.pairwise_append.1 hsorted).2.2 k hk j hout

/-- Without room the decision is on those that go. -/
theorem decide_evictees (hp : part.Lawful)
    (hs : strategies.current = .ok (cumulative (Job.Store.archive.within part) p o))
    (hfull : r.hasRoom = false) : ∃ d, strategies.decide q s = .ok d s ∧
      d.victims = (evictees o p q r (part.get s)).map (·.id) ∧
      departures d.reason d.victims = departures cumulativeReason d.victims := by
  rw [Strategies.decide_of_ok hs]
  by_cases hq : gpusNeeded q = 0
  · have hnone : evictees o p q r (part.get s) = [] := if_pos (.inr hq)
    refine ⟨Decision.none q, ?_, by rw [hnone]; rfl, rfl⟩
    unfold cumulative
    dsimp only
    rw [if_pos hq]
    rfl
  · have hsome : evictees o p q r (part.get s) =
        leavers p q (o.sort (candidates (part.get s) q)) :=
      if_neg (by simp [hfull, hq])
    obtain ⟨n, hn, -⟩ := leavers_eq p q (o.sort (candidates (part.get s) q))
    refine ⟨_, cumulative_decide hp hq, ?_, rfl⟩
    rw [hsome, hn, Decision.of, ← List.map_take, List.take_take, Nat.min_self]

theorem makeRoom_evictees (q : Requirement) (now : Instant) (hp : part.Lawful)
    (hs : strategies.current = .ok (cumulative (Job.Store.archive.within part) p o))
    (hev : Spares part evictor) (hi : (part.get s).Indexed)
    (hr : (monitor.get s).cluster = some r) :
    ∃ t, makeRoom (Monitor.shortageIn monitor) strategies (Job.Store.archive.within part) evictor
      now q s =
      .ok ((evictees o p q r (part.get s)).map (·.id)) t ∧
      Departs now (part.get s) (departures cumulativeReason
        ((evictees o p q r (part.get s)).map (·.id))) (part.get t) ∧
      (evictees o p q r (part.get s) = [] → t = s) := by
  rw [makeRoom, Action.bind_of_ok (shortageIn_of_reading hr)]
  cases hroom : r.hasRoom with
  | true =>
    have hnone : evictees o p q r (part.get s) = [] := if_pos (.inl hroom)
    rw [hnone]
    exact ⟨s, rfl, .nil _, fun _ => rfl⟩
  | false =>
    obtain ⟨d, hd, hvictims, hreason⟩ := decide_evictees (q := q) (s := s) hp hs hroom
    obtain ⟨t, hperform, hdep, hsame⟩ := perform_of_running now hp hev hi hd hvictims
      (nodup_evictees hi) fun j hj => by
        obtain ⟨hmem, hrun, -⟩ := mem_candidates.1 (mem_evictees hj)
        exact ⟨hi.find?_of_mem hmem, hrun⟩
    rw [hreason, hvictims] at hdep
    refine ⟨t, ?_, hdep, fun hnil => hsame (by rw [hvictims, hnil]; rfl)⟩
    rw [Bool.not_false, if_pos rfl, Action.bind_of_ok hperform, ← hvictims]
    rfl

/-- Who has been pushed out for a requirement, and what became of the records. -/
structure RoomMade (o : VictimOrder) (p : Policy) (q : Requirement) (now : Instant) (a : Archive)
    (ids : List JobId) (b : Archive) : Prop where
  distinct : ids.Nodup
  few : ids.length ≤ p.maxVictims
  /-- The records that have changed are those of the victims. -/
  changed : ∀ id, b.find? id ≠ a.find? id ↔ id ∈ ids
  victim : ∀ id ∈ ids, ∃ j k, a.find? id = some j ∧ j.status = .running ∧
    j.priorityValue < q.priorityValue ∧ b.find? id = some k ∧ k.status = .preempted ∧
    k.errorMessage = some cumulativeReason ∧
    k = j.advance now .preempted (some cumulativeReason)
  /-- No candidate that is left alone goes before a victim. -/
  spared : ∀ j ∈ candidates a q, j.id ∉ ids → ∀ k ∈ candidates a q, k.id ∈ ids → ¬ o.Before j k

theorem roomMade_of_departs (hi : a.Indexed)
    (h : Departs now a (departures cumulativeReason ((evictees o p q r a).map (·.id))) b) :
    RoomMade o p q now a ((evictees o p q r a).map (·.id)) b := by
  obtain ⟨hnodup, -, hfind⟩ := departs_preempted hi h
  have hvictim : ∀ id ∈ (evictees o p q r a).map (·.id), ∃ j ∈ candidates a q,
      a.find? id = some j := by
    intro id hid
    obtain ⟨j, hj, rfl⟩ := List.mem_map.1 hid
    have hcandidate := mem_evictees hj
    exact ⟨j, hcandidate, hi.find?_of_mem (mem_candidates.1 hcandidate).1⟩
  refine ⟨hnodup, ?_, fun id => ?_, fun id hid => ?_, fun j hj hnot k hk hid => ?_⟩
  · obtain ⟨n, hle, hn⟩ := evictees_take o p q r a
    rw [List.length_map, hn]
    exact Nat.le_trans (List.length_take_le ..) hle
  · rw [hfind]
    constructor
    · intro hne
      by_contra hnot
      simp only [hnot, if_false] at hne
      exact hne Option.map_id'
    · intro hid heq
      obtain ⟨j, hj, hf⟩ := hvictim id hid
      rw [hf, Option.map_some, if_pos hid] at heq
      have hstatus := congrArg Job.status (Option.some.inj heq)
      rw [(mem_candidates.1 hj).2.1] at hstatus
      cases hstatus
  · obtain ⟨j, hj, hf⟩ := hvictim id hid
    obtain ⟨-, hrun, hlower⟩ := mem_candidates.1 hj
    refine ⟨j, _, hf, hrun, hlower, ?_, rfl, rfl, rfl⟩
    rw [hfind, hf, Option.map_some, if_pos hid]
  · obtain ⟨v, hv, hvk⟩ := List.mem_map.1 hid
    have hsame : v = k := hi.eq_of_id (mem_candidates.1 (mem_evictees hv)).1
      (mem_candidates.1 hk).1 hvk
    refine not_before_evictees hj (fun hin => hnot ?_) (hsame ▸ hv)
    exact List.mem_map.2 ⟨j, hin, rfl⟩

/-- Making room with the cumulative strategy, whatever jobs are stored, whatever the last reading
is, whatever is asked for and however many may go: nothing changes while there is room or if no GPU
is needed; else the longest first part of the line within the budget goes, up to the largest number,
and no other record changes. Without ties the answer depends only on which jobs are stored. -/
theorem makeRoom_cumulative (q : Requirement) (now : Instant) (hp : part.Lawful)
    (hs : strategies.current = .ok (cumulative (Job.Store.archive.within part) p o))
    (hev : Spares part evictor) (hi : (part.get s).Indexed)
    (hr : (monitor.get s).cluster = some r) :
    ∃ ids t, makeRoom (Monitor.shortageIn monitor) strategies (Job.Store.archive.within part)
      evictor now q s = .ok ids t ∧ RoomMade o p q now (part.get s) ids (part.get t) ∧
    (r.hasRoom = true ∨ max q.gpu.toNat ((q.mps.toNat + 9) / 10) = 0 → ids = [] ∧ t = s) ∧
    (r.hasRoom = false → max q.gpu.toNat ((q.mps.toNat + 9) / 10) ≠ 0 →
      ∃ n, Fills ((gpusNeeded q).toNat + (headroom (candidates (part.get s) q)).toNat)
          (o.sort (candidates (part.get s) q)) n ∧
        ids = (((o.sort (candidates (part.get s) q)).take n).take p.maxVictims).map (·.id)) ∧
    ((∀ j ∈ candidates (part.get s) q, ∀ k ∈ candidates (part.get s) q,
        j.priorityValue = k.priorityValue → j.createdAt = k.createdAt → j = k) →
      ∀ s', (part.get s').Indexed → (part.get s').toList.Perm (part.get s).toList →
        (monitor.get s').cluster = some r → ∃ t', makeRoom (Monitor.shortageIn monitor) strategies
          (Job.Store.archive.within part) evictor now q s' = .ok ids t') := by
  obtain ⟨t, hmake, hdep, hsame⟩ := makeRoom_evictees q now hp hs hev hi hr
  refine ⟨_, t, hmake, roomMade_of_departs hi hdep, fun hno => ?_, fun hfull hneed => ?_,
    fun hties s' hi' hperm hr' => ?_⟩
  · rw [← gpusNeeded_eq_zero_iff] at hno
    have hnone : evictees o p q r (part.get s) = [] := if_pos hno
    exact ⟨by rw [hnone]; rfl, hsame hnone⟩
  · rw [Ne, ← gpusNeeded_eq_zero_iff] at hneed
    obtain ⟨n, hn, hfills⟩ := leavers_eq p q (o.sort (candidates (part.get s) q))
    refine ⟨n, ?_, ?_⟩
    · rwa [headroom_perm (o.sort_perm _)] at hfills
    · rw [evictees, if_neg (by simp [hfull, hneed]), hn]
  · obtain ⟨t', hmake', -⟩ := makeRoom_evictees q now hp hs hev hi' hr'
    refine ⟨t', hmake'.trans ?_⟩
    have hline : o.sort (candidates (part.get s) q) = o.sort (candidates (part.get s') q) :=
      VictimOrder.sort_eq_of_perm (candidates_perm hperm q).symm hties
    rw [evictees, evictees, hline]

def lowJob : Job := { id := ⟨7#128⟩, status := .running, requiredGpu := 2, createdAt := ⟨0, 0⟩ }

def midJob : Job := { lowJob with id := ⟨8#128⟩, priorityValue := 5 }

def oneGpu : Requirement := { gpu := 1, priorityValue := 10 }

def storedJobs : Lens (Archive × Monitor) Archive := ⟨Prod.fst, fun a s => (a, s.2)⟩

def readings : Lens (Archive × Monitor) Monitor := ⟨Prod.snd, fun m s => (s.1, m)⟩

def onlyCumulative : Strategies (Strategy (Archive × Monitor)) :=
  Strategies.empty.register cumulativeName
    (cumulative (Job.Store.archive.within storedJobs) {} .newestFirst)

/-- In a full cluster the less important one of two jobs goes, and the other one is left alone. -/
theorem makeRoom_cumulative_full : ∃ s t : Archive × Monitor,
    candidates s.1 oneGpu = [midJob, lowJob] ∧
    makeRoom (Monitor.shortageIn readings) onlyCumulative
      (Job.Store.archive.within storedJobs) none ⟨1, 0⟩ oneGpu s = .ok [lowJob.id] t ∧
    RoomMade .newestFirst {} oneGpu ⟨1, 0⟩ s.1 [lowJob.id] t.1 ∧
    ¬VictimOrder.newestFirst.Before midJob lowJob ∧ t.1.find? midJob.id = some midJob := by
  have hnodup : ([midJob, lowJob].map (·.id)).Nodup := by decide
  obtain ⟨a, hindexed, hlist⟩ := Job.Archive.exists_indexed hnodup
  have hlawful : storedJobs.Lawful := ⟨fun _ _ => rfl, fun _ => rfl, fun _ _ _ => rfl⟩
  have hfull : ({} : Reading).hasRoom = false := by simp [Reading.hasRoom]
  have hlater : (VictimOrder.newestFirst.compare midJob lowJob).isLE = false := by decide
  have hline : VictimOrder.newestFirst.sort [midJob, lowJob] = [lowJob, midJob] := by
    simp [VictimOrder.sort, List.mergeSort, List.MergeSort.Internal.splitInTwo, hlater]
  let s : Archive × Monitor := (a, { cluster := some {} })
  have hcandidates : candidates (storedJobs.get s) oneGpu = [midJob, lowJob] := by
    change (a.toList.filter _).filter _ = _
    rw [hlist]
    rfl
  have hreading : (readings.get s).cluster = some {} := rfl
  have hcurrent : onlyCumulative.current =
      .ok (cumulative (Job.Store.archive.within storedJobs) {} .newestFirst) := rfl
  obtain ⟨ids, t, hmake, hmade, -, hvictims, -⟩ := makeRoom_cumulative oneGpu ⟨1, 0⟩ hlawful
    hcurrent (spares_none storedJobs) hindexed hreading (s := s)
  obtain ⟨n, hfills, hids⟩ := hvictims hfull (by decide)
  rw [hcandidates, hline] at hfills hids
  have hbudget : (gpusNeeded oneGpu).toNat + (headroom [midJob, lowJob]).toNat = 3 := by decide
  rw [hbudget] at hfills
  obtain rfl : n = 1 := by
    have hfirst : 1 ≤ n := hfills.longest 1 (by decide) (by decide)
    by_contra hne
    have hboth : [lowJob, midJob].take n = [lowJob, midJob] :=
      List.take_of_length_le (Nat.lt_of_le_of_ne hfirst (Ne.symm hne))
    exact absurd (hboth ▸ hfills.within) (by decide)
  obtain rfl : ids = [lowJob.id] := hids
  have hspared : ¬VictimOrder.newestFirst.Before midJob lowJob :=
    hmade.spared midJob (by rw [hcandidates]; decide) (by decide) lowJob
      (by rw [hcandidates]; decide) (by decide)
  have hkept : (storedJobs.get t).find? midJob.id = a.find? midJob.id :=
    not_not.1 (mt (hmade.changed midJob.id).1 (by decide))
  refine ⟨s, t, hcandidates, hmake, hmade, hspared, hkept.trans ?_⟩
  exact hindexed.find?_of_mem (by rw [hlist]; decide)

end GpuCluster.Preemption
