import Mathlib.Tactic.IntervalCases
import GpuCluster.Proofs.Job.Archive
import GpuCluster.Proofs.Preemption.Coverage

/-!
# Who goes by tier

* `GoesBefore`, `LinedUp` : the order in which jobs go, and jobs that stand in it;
  `LinedUp.unique` : jobs stand in it in one way only, and `linedUp_sortByTier` : that is how the
  strategy sorts them;
* `rivals` : the running jobs of a lower tier; `tierLine_linedUp` : they stand in the line that the
  strategy forms;
* `tierWeight_decide`, `mayPreempt_of_running` : what the strategy answers for a stored job;
* `tierWeight_exact` : its victims are the first ones of the line that make enough room.
-/

namespace GpuCluster.Preemption

open Job (Archive)

variable {σ : Type} {part : Lens σ Archive} {a : Archive} {s : σ} {q : Requirement} {id : JobId}
  {j k r v : Job} {js ks line : List Job}

/-! ## The order -/

/-- The job goes strictly before the other: it is of a lower tier, or of the same tier and less
important, or as important and newer. -/
def GoesBefore (j k : Job) : Prop :=
  j.tier.weight < k.tier.weight ∨
    j.tier.weight = k.tier.weight ∧ VictimOrder.newestFirst.Before j k

/-- Neither of the two goes before the other: they share tier, priority and age. -/
def ties (j k : Job) : Bool :=
  j.tier.weight = k.tier.weight ∧ j.priorityValue = k.priorityValue ∧ j.createdAt = k.createdAt

theorem compareByTier_isLE_iff : (compareByTier j k).isLE = true ↔ ¬ GoesBefore k j := by
  have hcompare : compareByTier j k =
      (Ord.compare j.tier.weight k.tier.weight).then (VictimOrder.newestFirst.compare j k) := rfl
  rw [hcompare, Ordering.isLE_then_iff_or, VictimOrder.compare_isLE_iff, Nat.compare_eq_lt,
    Nat.compare_eq_eq, GoesBefore]
  by_cases hbefore : VictimOrder.newestFirst.Before k j
  · simp only [hbefore, not_true, and_false, or_false, and_true]
    omega
  · simp only [hbefore, not_false_eq_true, and_true, and_false, or_false]
    omega

theorem not_goesBefore_trans (hjk : ¬ GoesBefore k j) (hkv : ¬ GoesBefore v k) :
    ¬ GoesBefore v j := by
  unfold GoesBefore at *
  rintro (hvj | ⟨hvj, hbefore⟩)
  · omega
  · exact VictimOrder.not_before_trans (fun h => hjk (.inr ⟨by omega, h⟩))
      (fun h => hkv (.inr ⟨by omega, h⟩)) hbefore

theorem GoesBefore.asymm (h : GoesBefore j k) : ¬ GoesBefore k j := by
  rintro (hkj | ⟨hkj, hbefore⟩)
  · rcases h with h | ⟨h, -⟩ <;> omega
  · rcases h with h | ⟨-, h⟩
    · omega
    · exact hbefore.asymm h

theorem ties_iff : ties j k = true ↔ ¬ GoesBefore j k ∧ ¬ GoesBefore k j := by
  rw [ties, decide_eq_true_eq]
  constructor
  · rintro ⟨hweight, hvalue, hage⟩
    simp only [GoesBefore, VictimOrder.Before, hweight, hvalue, hage, Int32.lt_irrefl,
      Instant.lt_def, Nat.lt_irrefl, Int.lt_irrefl, and_false, or_self, not_false_eq_true, and_self]
  · rintro ⟨hjk, hkj⟩
    unfold GoesBefore at hjk hkj
    have hweight : j.tier.weight = k.tier.weight := by omega
    exact ⟨hweight, VictimOrder.tie_of_not_before (fun h => hjk (.inr ⟨hweight, h⟩))
      (fun h => hkj (.inr ⟨hweight.symm, h⟩))⟩

/-- The jobs in the order they go; jobs that tie keep their order. -/
structure LinedUp (jobs line : List Job) : Prop where
  perm : line.Perm jobs
  ordered : line.Pairwise fun j k => ¬ GoesBefore k j
  stable : ∀ j, line.filter (ties j) = jobs.filter (ties j)

theorem linedUp_sortByTier (js : List Job) : LinedUp js (sortByTier js) := by
  have htrans : ∀ a b c : Job, (compareByTier a b).isLE = true → (compareByTier b c).isLE = true →
      (compareByTier a c).isLE = true := by
    intro a b c
    simp only [compareByTier_isLE_iff]
    exact not_goesBefore_trans
  have htotal : ∀ a b : Job, ((compareByTier a b).isLE || (compareByTier b a).isLE) = true := by
    intro a b
    rw [Bool.or_eq_true, compareByTier_isLE_iff, compareByTier_isLE_iff]
    exact or_iff_not_imp_left.2 fun h => (not_not.1 h).asymm
  have hperm : (sortByTier js).Perm js := List.mergeSort_perm ..
  refine ⟨hperm, ?_, fun j => ?_⟩
  · exact (List.pairwise_mergeSort htrans htotal js).imp compareByTier_isLE_iff.1
  · -- Jobs that tie are in order already, so the sort keeps them as they are.
    have hsorted : (js.filter (ties j)).Pairwise fun a b => (compareByTier a b).isLE = true := by
      refine List.Pairwise.imp_of_mem (fun {a b} ha hb _ => ?_) (List.pairwise_of_forall fun _ _ =>
        trivial : (js.filter (ties j)).Pairwise fun _ _ => True)
      have hja := ties_iff.1 (List.mem_filter.1 ha).2
      have hjb := ties_iff.1 (List.mem_filter.1 hb).2
      exact compareByTier_isLE_iff.2 (not_goesBefore_trans hja.1 hjb.2)
    have hsublist : (js.filter (ties j)).Sublist (sortByTier js) :=
      List.sublist_mergeSort htrans htotal hsorted List.filter_sublist
    have hkept := hsublist.filter (ties j)
    rw [List.filter_filter] at hkept
    simp only [Bool.and_self] at hkept
    exact (hkept.eq_of_length (hperm.filter _).length_eq.symm).symm

/-- Jobs are lined up in one way only. -/
theorem LinedUp.unique (h : LinedUp js line) (h' : LinedUp js ks) : ks = line := by
  have hperm := h'.perm.trans h.perm.symm
  have hstable : ∀ j, ks.filter (ties j) = line.filter (ties j) :=
    fun j => (h'.stable j).trans (h.stable j).symm
  have hks := h'.ordered
  have hline := h.ordered
  clear h h'
  induction ks generalizing line with
  | nil => exact hperm.nil_eq
  | cons k ks ih =>
    cases line with
    | nil => exact absurd hperm.symm.nil_eq nofun
    | cons j line =>
      obtain ⟨hkfirst, hkrest⟩ := List.pairwise_cons.1 hks
      obtain ⟨hjfirst, hjrest⟩ := List.pairwise_cons.1 hline
      -- Both first ones go before no one, so they tie, and ties keep their order.
      have hjk : ¬ GoesBefore j k := by
        rcases List.mem_cons.1 (hperm.mem_iff.2 List.mem_cons_self) with rfl | hmem
        · exact fun hself => hself.asymm hself
        · exact hkfirst j hmem
      have hkj : ¬ GoesBefore k j := by
        rcases List.mem_cons.1 (hperm.mem_iff.1 List.mem_cons_self) with rfl | hmem
        · exact fun hself => hself.asymm hself
        · exact hjfirst k hmem
      have hself : ∀ x, ties x x = true := fun x =>
        ties_iff.2 ⟨fun hx => hx.asymm hx, fun hx => hx.asymm hx⟩
      have hfirst := hstable j
      rw [List.filter_cons_of_pos (ties_iff.2 ⟨hjk, hkj⟩),
        List.filter_cons_of_pos (hself j)] at hfirst
      obtain rfl := (List.cons.inj hfirst).1
      refine congrArg (k :: ·) (ih hperm.cons_inv (fun x => ?_) hkrest hjrest)
      have hx := hstable x
      rw [List.filter_cons, List.filter_cons] at hx
      split at hx
      next => exact (List.cons.inj hx).2
      next => exact hx

/-! ## The line -/

/-- The running jobs that a job may push out, in the order they go. -/
def tierLine (a : Archive) (requester : Job) : List Job :=
  sortByTier ((a.withStatus [.running]).filter fun j =>
    !(j.id == requester.id) && outranks requester j)

/-- The other running jobs of a lower tier. -/
def rivals (a : Archive) (r : Job) : List Job :=
  a.toList.filter fun j => j.status = .running ∧ j.id ≠ r.id ∧ j.tier.weight < r.tier.weight

theorem mem_rivals : j ∈ rivals a r ↔
    j ∈ a.toList ∧ j.status = .running ∧ j.id ≠ r.id ∧ j.tier.weight < r.tier.weight := by
  rw [rivals, List.mem_filter, decide_eq_true_eq]

theorem tierLine_linedUp (a : Archive) (r : Job) : LinedUp (rivals a r) (tierLine a r) := by
  have hrivals : rivals a r = (a.withStatus [.running]).filter fun j =>
      !(j.id == r.id) && outranks r j := by
    rw [rivals, Archive.withStatus, List.filter_filter]
    apply List.filter_congr
    intro j _
    rw [Bool.eq_iff_iff]
    simp only [decide_eq_true_eq, Bool.and_eq_true, Bool.not_eq_true', beq_eq_false_iff_ne,
      outranks, List.contains_cons, List.contains_nil, Bool.or_false, beq_iff_eq]
    exact and_comm
  rw [hrivals]
  exact linedUp_sortByTier _

theorem rivals_of_low (a : Archive) (h : r.tier = .low) : rivals a r = [] := by
  rw [List.eq_nil_iff_forall_not_mem]
  intro j hj
  obtain ⟨-, -, -, hlower⟩ := mem_rivals.1 hj
  rw [h] at hlower
  cases htier : j.tier <;> simp [htier, Tier.weight] at hlower

/-! ## The strategy -/

/-- The first jobs of the line go that make enough room, and for a job of the low tier no one
does. -/
theorem tierWeight_decide (hp : part.Lawful) (p : Policy) (hq : q.requestedBy = some r.id)
    (hf : (part.get s).find? r.id = some r) : ∃ n,
      Reaches (gpusNeeded q).toNat (tierLine (part.get s) r) n ∧
      (tierWeight (Job.Store.archive.within part) p).decide q s = .ok
        (if r.tier = .low then .none q
          else .of (((tierLine (part.get s) r).take n).map (·.id)) tierWeightReason q p) s := by
  have hfind : (Job.Store.archive.within part).find r.id s = .ok r s :=
    Action.zoom_of_same hp (Job.Archive.find_of_find? hf)
  have hlist : (Job.Store.archive.within part).withStatus [.running] s =
      .ok ((part.get s).withStatus [.running]) s := Action.zoom_of_same hp rfl
  have hline : outranked (Job.Store.archive.within part) r s =
      .ok (tierLine (part.get s) r) s := by
    rw [outranked, Action.bind_of_ok hlist]
    rfl
  have hneeded : (gpusNeeded q).toUInt64.toNat = (gpusNeeded q).toNat := UInt32.toNat_toUInt64 _
  have hwidth : (gpusNeeded q).toUInt64.toNat < 2 ^ 32 := by
    rw [hneeded]
    exact (gpusNeeded q).toNat_lt
  obtain ⟨n, hn, hreaches⟩ := takeUntil_take hwidth 0 (tierLine (part.get s) r)
  rw [hneeded] at hreaches
  refine ⟨n, hreaches, ?_⟩
  simp only [tierWeight, hq]
  rw [Action.bind_of_ok hfind]
  split
  next => rfl
  next =>
    rw [Action.bind_of_ok hline, hn]
    rfl

theorem tierWeight_of_unknown (hp : part.Lawful) (p : Policy) (hq : q.requestedBy = some id)
    (hf : (part.get s).find? id = none) :
    (tierWeight (Job.Store.archive.within part) p).decide q s =
      .error (.error (.noSuchJob id)) s := by
  have hfind : (Job.Store.archive.within part).find id s = .error (.error (.noSuchJob id)) s := by
    refine (Action.zoom_of_error (Job.Archive.find_of_none hf)).trans ?_
    rw [hp.set_get]
  simp only [tierWeight, hq]
  exact Action.bind_of_error hfind

/-- A running job may be pushed out by the jobs of a higher tier. -/
theorem mayPreempt_of_running (hp : part.Lawful) (hv : (part.get s).find? v.id = some v)
    (hrun : v.status = .running) (hr : (part.get s).find? r.id = some r) :
    mayPreempt (Job.Store.archive.within part) v.id r.id s = .ok (outranks r v) s := by
  have hvictim : (Job.Store.archive.within part).find v.id s = .ok v s :=
    Action.zoom_of_same hp (Job.Archive.find_of_find? hv)
  have hrequester : (Job.Store.archive.within part).find r.id s = .ok r s :=
    Action.zoom_of_same hp (Job.Archive.find_of_find? hr)
  rw [mayPreempt, Action.bind_of_ok hvictim, if_neg (not_not.2 hrun), Action.bind_of_ok hrequester]
  rfl

/-- The strategy by tier over any stored jobs. For a stored job that asks, the other running jobs of
a lower tier stand in one line; the shortest first part of it that holds enough GPUs goes, or all of
it if none does, cut to the largest number of victims, so no one goes if nothing is needed or for a
job of the low tier. A running job may be pushed out exactly if it is of a lower tier, which puts it
into the line. Without a job that asks no one goes, and one that is not stored is an error. -/
theorem tierWeight_exact (hp : part.Lawful) (p : Policy) (hi : (part.get s).Indexed)
    (q : Requirement) :
    (q.requestedBy = none →
      (tierWeight (Job.Store.archive.within part) p).decide q s = .ok (.none q) s) ∧
    (∀ id, q.requestedBy = some id → (∀ j ∈ (part.get s).toList, j.id ≠ id) →
      (tierWeight (Job.Store.archive.within part) p).decide q s =
        .error (.error (.jobNotFound id.toText)) s) ∧
    ∀ r ∈ (part.get s).toList, q.requestedBy = some r.id → ∃ line,
      LinedUp (rivals (part.get s) r) line ∧
      (∀ other, LinedUp (rivals (part.get s) r) other → other = line) ∧
      (∃ n d, Reaches (max q.gpu.toNat ((q.mps.toNat + 9) / 10)) line n ∧
        (tierWeight (Job.Store.archive.within part) p).decide q s = .ok d s ∧
        d.victims = ((line.take n).take p.maxVictims).map (·.id) ∧
        (max q.gpu.toNat ((q.mps.toNat + 9) / 10) = 0 ∨ r.tier = .low → d.victims = [])) ∧
      ∀ v ∈ (part.get s).toList, v.status = .running →
        mayPreempt (Job.Store.archive.within part) v.id r.id s =
          .ok (decide (v.tier.weight < r.tier.weight)) s ∧
        (v.id ≠ r.id → (v.tier.weight < r.tier.weight ↔ v ∈ line)) := by
  refine ⟨fun hq => ?_, fun id hq hunknown => ?_, fun r hr hq => ?_⟩
  · simp only [tierWeight, hq]
    rfl
  · exact tierWeight_of_unknown hp p hq (hi.find?_eq_none_iff.2 hunknown)
  have hlined := tierLine_linedUp (part.get s) r
  obtain ⟨n, hreaches, hdecide⟩ := tierWeight_decide hp p hq (hi.find?_of_mem hr)
  rw [toNat_gpusNeeded] at hreaches
  have hlow : r.tier = .low → tierLine (part.get s) r = [] := by
    intro h
    have hperm := hlined.perm
    rw [rivals_of_low _ h] at hperm
    exact hperm.eq_nil
  have hvictims : (if r.tier = .low then Decision.none q
      else .of (((tierLine (part.get s) r).take n).map (·.id)) tierWeightReason q p).victims =
      (((tierLine (part.get s) r).take n).take p.maxVictims).map (·.id) := by
    split
    next h =>
      rw [hlow h, List.take_nil, List.take_nil]
      rfl
    next => exact List.map_take.symm
  refine ⟨tierLine (part.get s) r, hlined, fun other hother => hlined.unique hother,
    ⟨n, _, hreaches, hdecide, hvictims, ?_⟩, fun v hv hrun => ⟨?_, fun hne => ?_⟩⟩
  · rw [hvictims]
    rintro (hnone | h)
    · have hzero : n = 0 := by
        by_contra hn
        have := hreaches.shortest 0 (Nat.pos_of_ne_zero hn)
        omega
      rw [hzero, List.take_zero, List.take_nil]
      rfl
    · rw [hlow h, List.take_nil, List.take_nil]
      rfl
  · exact mayPreempt_of_running hp (hi.find?_of_mem hv) hrun (hi.find?_of_mem hr)
  · rw [hlined.perm.mem_iff, mem_rivals]
    constructor
    · intro hlower
      exact ⟨hv, hrun, hne, hlower⟩
    · rintro ⟨-, -, -, hlower⟩
      exact hlower

/-- A job of a tier, on two GPUs, running since an hour of the first day. -/
def tierJob (n : Nat) (tier : String) (hour : Nat) : Job where
  id := ⟨BitVec.ofNat 128 n⟩
  status := .running
  priorityClass := tier
  requiredGpu := 2
  createdAt := ⟨hour * 3600, 0⟩

/-- A job of the high tier that asks for three GPUs. -/
def askingJob : Job :=
  { id := ⟨5#128⟩, priorityClass := "high", requiredGpu := 3, createdAt := ⟨86400, 0⟩ }

/-- Of two jobs of the low tier the newer one goes first, and then the older one; the job of the
medium tier, stored before both, and the one of the high tier are left alone. -/
theorem tierWeight_exact_newest : ∃ (a : Archive) (d : Decision),
    a.toList = [tierJob 1 "medium" 1, tierJob 2 "low" 2, tierJob 3 "low" 3, tierJob 4 "high" 4,
      askingJob] ∧
    (tierWeight (Job.Store.archive.within Lens.id) {}).decide (.forJob askingJob) a = .ok d a ∧
    d.victims = [⟨3#128⟩, ⟨2#128⟩] := by
  have hdistinct : ([tierJob 1 "medium" 1, tierJob 2 "low" 2, tierJob 3 "low" 3,
      tierJob 4 "high" 4, askingJob].map (·.id)).Nodup := by decide
  obtain ⟨a, ha, hlist⟩ := Job.Archive.exists_indexed hdistinct
  have hlawful : (Lens.id : Lens Archive Archive).Lawful :=
    ⟨fun _ _ => rfl, fun _ => rfl, fun _ _ _ => rfl⟩
  have hasking : askingJob ∈ (Lens.id.get a).toList := by
    change askingJob ∈ a.toList
    rw [hlist]
    simp
  obtain ⟨line, hlined, -, ⟨n, d, hreaches, hdecide, hvictims, -⟩, -⟩ :=
    (tierWeight_exact hlawful {} ha (.forJob askingJob)).2.2 askingJob hasking rfl
  have hrivals : rivals (Lens.id.get a) askingJob =
      [tierJob 1 "medium" 1, tierJob 2 "low" 2, tierJob 3 "low" 3] := by
    change rivals a askingJob = _
    rw [rivals, hlist]
    rfl
  have hsorted : [tierJob 3 "low" 3, tierJob 2 "low" 2, tierJob 1 "medium" 1].Pairwise
      fun j k => ¬ GoesBefore k j := by
    have hcompare : [tierJob 3 "low" 3, tierJob 2 "low" 2, tierJob 1 "medium" 1].Pairwise
        fun j k => (compareByTier j k).isLE = true := by decide
    exact hcompare.imp compareByTier_isLE_iff.1
  have hnoTies : ∀ j ∈ [tierJob 1 "medium" 1, tierJob 2 "low" 2, tierJob 3 "low" 3],
      ∀ k ∈ [tierJob 3 "low" 3, tierJob 2 "low" 2, tierJob 1 "medium" 1],
        ties j k = true → j = k := by decide
  have hperm := hlined.perm
  rw [hrivals] at hperm
  obtain rfl : line = [tierJob 3 "low" 3, tierJob 2 "low" 2, tierJob 1 "medium" 1] :=
    List.Perm.eq_of_pairwise
      (fun j k hj hk hjk hkj => hnoTies j (hperm.mem_iff.1 hj) k hk (ties_iff.2 ⟨hkj, hjk⟩))
      hlined.ordered hsorted (hperm.trans (List.reverse_perm _).symm)
  have hle : n ≤ 2 := by
    by_contra hgt
    exact absurd (hreaches.shortest 2 (Nat.not_le.1 hgt)) (by decide)
  have htwo : n = 2 := by
    have henough := hreaches.enough
    interval_cases n
    · exact absurd henough (by decide)
    · exact absurd henough (by decide)
    · rfl
  rw [htwo] at hvictims
  exact ⟨a, d, hlist, hdecide, hvictims⟩

end GpuCluster.Preemption
