import GpuCluster.Proofs.Preemption.Room
import GpuCluster.Proofs.Preemption.Tiers

/-!
# Victims by their place

Jobs go by their place in a line, whether or not they hold GPUs themselves.

* `Fills.lt_iff`, `Reaches.lt_iff` : the places that go; `Fills.frees`, `Reaches.frees` : a job
  there holds a GPU if any job of the line does;
* `ByPlace` : victims that are the jobs of such places, up to the largest number;
* `victims_by_place` : the victims of both strategies;
* `idle_job_goes` : a job without GPUs goes, and no GPU becomes free.
-/

namespace GpuCluster.Preemption

open Job (Archive)

variable {σ : Type} {part : Lens σ Archive} {s : σ} {q : Requirement} {p : Policy}
  {js line : List Job} {victims : List JobId} {goes : Nat → Prop} {i m n budget needed : Nat}

/-! ## Places of a line -/

theorem gpusOf_take_le (line : List Job) (m : Nat) : gpusOf (line.take m) ≤ gpusOf line := by
  have hsplit := List.take_append_drop m line
  have hsum := gpusOf_append (line.take m) (line.drop m)
  rw [hsplit] at hsum
  omega

theorem gpusOf_take_mono (h : m ≤ n) : gpusOf (line.take m) ≤ gpusOf (line.take n) := by
  have hle := gpusOf_take_le (line.take n) m
  rwa [List.take_take, Nat.min_eq_left h] at hle

theorem gpusOf_perm {js ks : List Job} (h : js.Perm ks) : gpusOf js = gpusOf ks :=
  (h.map _).sum_nat

theorem gpusOf_eq_zero (h : ∀ j ∈ line, ¬ 0 < j.requiredGpu.toNat) : gpusOf line = 0 := by
  induction line with
  | nil => rfl
  | cons j rest ih =>
    have hfirst := h j List.mem_cons_self
    rw [gpusOf_cons, ih fun k hk => h k (List.mem_cons_of_mem j hk)]
    omega

/-- A job of the first places holds a GPU. -/
def HeldWithin (js : List Job) (n : Nat) : Prop :=
  ∃ i, ∃ h : i < js.length, i < n ∧ 0 < js[i].requiredGpu.toNat

/-- Jobs of the first places that hold GPUs together have one among them that holds a GPU. -/
theorem heldWithin_of_pos (h : 0 < gpusOf (line.take n)) : HeldWithin line n := by
  by_contra hnone
  simp only [HeldWithin, not_exists, not_and] at hnone
  have hidle : gpusOf (line.take n) = 0 := by
    refine gpusOf_eq_zero fun j hj => ?_
    obtain ⟨i, hi, rfl⟩ := List.getElem_of_mem hj
    rw [List.length_take, Nat.lt_min] at hi
    rw [List.getElem_take]
    exact hnone i hi.2 hi.1
  omega

theorem heldWithin_of_mem (h : ∃ j ∈ line, 0 < j.requiredGpu.toNat) (hn : line.length ≤ n) :
    HeldWithin line n := by
  obtain ⟨j, hj, hpos⟩ := h
  obtain ⟨i, hi, rfl⟩ := List.getElem_of_mem hj
  exact ⟨i, hi, Nat.lt_of_lt_of_le hi hn, hpos⟩

/-- The places that go are those up to which the jobs stay within the budget. -/
theorem Fills.lt_iff (h : Fills budget line n) (hi : i < line.length) :
    i < n ↔ gpusOf (line.take (i + 1)) ≤ budget := by
  constructor
  · intro hlt
    exact Nat.le_trans (gpusOf_take_mono hlt) h.within
  · intro hle
    exact h.longest (i + 1) hi hle

/-- The places that go are those before which the jobs hold too few GPUs. -/
theorem Reaches.lt_iff (h : Reaches needed line n) (hi : i < line.length) :
    i < n ↔ gpusOf (line.take i) < needed := by
  constructor
  · intro hlt
    exact h.shortest i hlt
  · intro hfew
    by_contra hle
    have hmono : gpusOf (line.take n) ≤ gpusOf (line.take i) := gpusOf_take_mono (Nat.not_lt.1 hle)
    have := h.enough
    omega

/-- If a job of the line holds a GPU, so does one of those that go. -/
theorem Fills.frees (h : Fills (needed + largest line) line n)
    (hsome : ∃ j ∈ line, 0 < j.requiredGpu.toNat) : HeldWithin line n := by
  by_cases hn : n < line.length
  · exact heldWithin_of_pos (Nat.lt_of_le_of_lt (Nat.zero_le _) (h.covers hn))
  · exact heldWithin_of_mem hsome (Nat.not_lt.1 hn)

theorem Reaches.frees (h : Reaches needed line n) (hneeded : 0 < needed)
    (hsome : ∃ j ∈ line, 0 < j.requiredGpu.toNat) : HeldWithin line n := by
  obtain henough | hall := h.enough
  · exact heldWithin_of_pos (Nat.lt_of_lt_of_le hneeded henough)
  · exact heldWithin_of_mem hsome (Nat.le_of_eq hall.symm)

theorem getElem_mem_take_iff (hnodup : (js.map (·.id)).Nodup) (hi : i < js.length) :
    js[i].id ∈ (js.take n).map (·.id) ↔ i < n := by
  have hlength : i < (js.map (·.id)).length := by rwa [List.length_map]
  have hget : (js.map (·.id))[i] = js[i].id := List.getElem_map _
  have hplace := hnodup.idxOf_getElem i hlength
  rw [List.map_take, ← hget, List.mem_take_iff_idxOf_lt (List.getElem_mem hlength), hplace]

/-! ## Victims -/

/-- The victims are the jobs of the places that go, the first of the line, up to the largest number.
If a GPU is needed and a job of the line holds one, then a job of a place that goes holds one, but
the largest number may spare it. -/
structure ByPlace (p : Policy) (needed : Nat) (js : List Job) (goes : Nat → Prop)
    (victims : List JobId) : Prop where
  first : ∃ n, (∀ i < js.length, i < n ↔ goes i) ∧
    victims = ((js.take n).take p.maxVictims).map (·.id)
  place : ∀ i (h : i < js.length), js[i].id ∈ victims ↔ i < p.maxVictims ∧ goes i
  frees : 0 < needed → (∃ j ∈ js, 0 < j.requiredGpu.toNat) →
    ∃ i, ∃ h : i < js.length, goes i ∧ 0 < js[i].requiredGpu.toNat

theorem byPlace_take (hnodup : (js.map (·.id)).Nodup)
    (hgoes : ∀ i < js.length, i < n ↔ goes i)
    (hfrees : 0 < needed → (∃ j ∈ js, 0 < j.requiredGpu.toNat) → HeldWithin js n) :
    ByPlace p needed js goes (((js.take n).take p.maxVictims).map (·.id)) where
  first := ⟨n, hgoes, rfl⟩
  place i hi := by
    rw [List.take_take, getElem_mem_take_iff hnodup hi, Nat.lt_min, hgoes i hi]
  frees hneeded hsome := by
    obtain ⟨i, hi, hlt, hpos⟩ := hfrees hneeded hsome
    exact ⟨i, hi, (hgoes i hi).1 hlt, hpos⟩

theorem nodup_tierLine (hi : (part.get s).Indexed) (r : Job) :
    ((tierLine (part.get s) r).map (·.id)).Nodup := by
  rw [((tierLine_linedUp (part.get s) r).perm.map _).nodup_iff]
  exact hi.nodup.sublist (List.filter_sublist.map Job.id)

theorem tierLine_of_low (a : Archive) {r : Job} (h : r.tier = .low) : tierLine a r = [] := by
  have hperm := (tierLine_linedUp a r).perm
  rw [rivals_of_low a h] at hperm
  exact hperm.eq_nil

/-- The victims by cumulated GPUs are those of the places up to which the candidates stay within
what is needed and the largest footprint; if no GPU is needed there are none. -/
theorem cumulative_byPlace (hp : part.Lawful) (hi : (part.get s).Indexed) (p : Policy)
    (o : VictimOrder) (q : Requirement) :
    ∃ d, (cumulative (Job.Store.archive.within part) p o).decide q s = .ok d s ∧
      ByPlace p (gpusNeeded q).toNat (o.sort (candidates (part.get s) q))
        (fun i => gpusNeeded q ≠ 0 ∧ gpusOf ((o.sort (candidates (part.get s) q)).take (i + 1)) ≤
          (gpusNeeded q).toNat + largest (o.sort (candidates (part.get s) q))) d.victims := by
  have hnodup := nodup_candidates hi o q
  by_cases hq : gpusNeeded q = 0
  · have hdecide : (cumulative (Job.Store.archive.within part) p o).decide q s =
        .ok (.none q) s := by
      simp only [cumulative, if_pos hq]
      rfl
    refine ⟨.none q, hdecide, ⟨0, fun i _ => ?_, ?_⟩, fun i hlt => ?_, fun hneeded => ?_⟩
    · exact iff_of_false (Nat.not_lt_zero i) fun h => h.1 hq
    · rw [List.take_zero, List.take_nil]
      rfl
    · exact iff_of_false List.not_mem_nil fun h => h.2.1 hq
    · rw [hq] at hneeded
      exact absurd hneeded (Nat.lt_irrefl 0)
  · obtain ⟨n, hn, hfills⟩ := leavers_eq p q (o.sort (candidates (part.get s) q))
    rw [toNat_headroom] at hfills
    have hplaces : ByPlace p (gpusNeeded q).toNat _ _ _ := byPlace_take hnodup
      (fun i hlt => (hfills.lt_iff hlt).trans (and_iff_right hq).symm)
      (fun _ hsome => hfills.frees hsome)
    refine ⟨_, cumulative_decide hp hq, ?_⟩
    rw [hn, Decision.of, ← List.map_take, List.take_take, Nat.min_self]
    exact hplaces

/-- The victims by tier are those of the places before which the jobs of a lower tier hold fewer
GPUs than are needed. -/
theorem tierWeight_byPlace {r : Job} (hp : part.Lawful) (hi : (part.get s).Indexed) (p : Policy)
    (hr : r ∈ (part.get s).toList) (hq : q.requestedBy = some r.id) :
    ∃ d, (tierWeight (Job.Store.archive.within part) p).decide q s = .ok d s ∧
      ByPlace p (gpusNeeded q).toNat (tierLine (part.get s) r)
        (fun i => gpusOf ((tierLine (part.get s) r).take i) < (gpusNeeded q).toNat) d.victims := by
  obtain ⟨n, hreaches, hdecide⟩ := tierWeight_decide hp p hq (hi.find?_of_mem hr)
  have hplaces := byPlace_take (p := p) (nodup_tierLine hi r)
    (fun i hlt => hreaches.lt_iff hlt) hreaches.frees
  refine ⟨_, hdecide, ?_⟩
  split_ifs with hlow
  · rw [tierLine_of_low _ hlow, List.take_nil, List.take_nil] at hplaces
    rw [tierLine_of_low _ hlow]
    exact hplaces
  · rw [Decision.of, ← List.map_take]
    exact hplaces

/-- If the whole line goes, so does each job of it. -/
theorem ByPlace.mem_of_all (h : ByPlace p needed js goes victims)
    (hfew : js.length ≤ p.maxVictims) (hall : ∀ i < js.length, goes i) {j : Job}
    (hj : j ∈ js) : j.id ∈ victims := by
  obtain ⟨i, hi, rfl⟩ := List.getElem_of_mem hj
  exact (h.place i hi).2 ⟨Nat.lt_of_lt_of_le hi hfew, hall i hi⟩

/-! ## Both strategies -/

/-- Over any stored jobs the victims of both strategies are the jobs of the first places of a line,
whether or not they hold GPUs. By tier no one goes without a stored job that asks. -/
theorem victims_by_place (hp : part.Lawful) (hi : (part.get s).Indexed) (p : Policy)
    (q : Requirement) :
    (∀ o, ∃ d, (cumulative (Job.Store.archive.within part) p o).decide q s = .ok d s ∧
      ByPlace p (gpusNeeded q).toNat (o.sort (candidates (part.get s) q))
        (fun i => gpusNeeded q ≠ 0 ∧ gpusOf ((o.sort (candidates (part.get s) q)).take (i + 1)) ≤
          (gpusNeeded q).toNat + largest (o.sort (candidates (part.get s) q))) d.victims) ∧
    (∀ r ∈ (part.get s).toList, q.requestedBy = some r.id →
      ∃ d, (tierWeight (Job.Store.archive.within part) p).decide q s = .ok d s ∧
        ByPlace p (gpusNeeded q).toNat (tierLine (part.get s) r)
          (fun i => gpusOf ((tierLine (part.get s) r).take i) < (gpusNeeded q).toNat) d.victims) ∧
    (∀ id, q.requestedBy = some id → (∀ j ∈ (part.get s).toList, j.id ≠ id) →
      (tierWeight (Job.Store.archive.within part) p).decide q s =
        .error (.error (.noSuchJob id)) s) ∧
    (q.requestedBy = none →
      (tierWeight (Job.Store.archive.within part) p).decide q s = .ok (.none q) s) := by
  refine ⟨fun o => cumulative_byPlace hp hi p o q, fun r hr hq => tierWeight_byPlace hp hi p hr hq,
    fun id hq hunknown => ?_, fun hq => ?_⟩
  · exact tierWeight_of_unknown hp p hq (hi.find?_eq_none_iff.2 hunknown)
  · simp only [tierWeight, hq]
    rfl

theorem lawful_id : (Lens.id : Lens Archive Archive).Lawful :=
  ⟨fun _ _ => rfl, fun _ => rfl, fun _ _ _ => rfl⟩

/-- A running job of the low tier that holds no GPU. -/
def idleJob : Job :=
  { id := ⟨1#128⟩, status := .running, priorityValue := -1, createdAt := ⟨0, 0⟩ }

/-- A running job of the low tier on two GPUs. -/
def holdingJob : Job :=
  { id := ⟨2#128⟩, status := .running, priorityValue := -1, requiredGpu := 2, createdAt := ⟨0, 0⟩ }

/-- Where a job asks for three GPUs and those that it may push out hold two, all of them go, the one
without GPUs too. -/
theorem victims_by_place_both : ∃ (a : Archive) (d d' : Decision),
    a.toList = [idleJob, holdingJob, askingJob] ∧
    (cumulative (Job.Store.archive.within Lens.id) {} .newestFirst).decide (.forJob askingJob) a =
      .ok d a ∧ (∀ j ∈ [idleJob, holdingJob], j.id ∈ d.victims) ∧
    (tierWeight (Job.Store.archive.within Lens.id) {}).decide (.forJob askingJob) a = .ok d' a ∧
      ∀ j ∈ [idleJob, holdingJob], j.id ∈ d'.victims := by
  have hdistinct : ([idleJob, holdingJob, askingJob].map (·.id)).Nodup := by decide
  obtain ⟨a, ha, hlist⟩ := Job.Archive.exists_indexed hdistinct
  have hasking : askingJob ∈ (Lens.id.get a).toList := by
    change askingJob ∈ a.toList
    rw [hlist]
    simp
  have hbelow : candidates (Lens.id.get a) (.forJob askingJob) = [idleJob, holdingJob] := by
    change candidates a _ = _
    rw [candidates, Archive.withStatus, hlist]
    rfl
  have hrivals : rivals (Lens.id.get a) askingJob = [idleJob, holdingJob] := by
    change rivals a askingJob = _
    rw [rivals, hlist]
    rfl
  have hneeded : (gpusNeeded (.forJob askingJob)).toNat = 3 := by decide
  obtain ⟨hcumulative, htier, -⟩ := victims_by_place lawful_id ha {} (.forJob askingJob)
  obtain ⟨d, hd, hplaces⟩ := hcumulative .newestFirst
  obtain ⟨d', hd', hplaces'⟩ := htier askingJob hasking rfl
  have hline := VictimOrder.newestFirst.sort_perm (candidates (Lens.id.get a) (.forJob askingJob))
  have hline' := (tierLine_linedUp (Lens.id.get a) askingJob).perm
  rw [hbelow] at hplaces hline
  rw [hrivals] at hline'
  refine ⟨a, d, d', hlist, hd, fun j hj => ?_, hd', fun j hj => ?_⟩
  · refine hplaces.mem_of_all ?_ (fun i _ => ⟨by decide, ?_⟩) (hline.mem_iff.2 hj)
    · rw [hline.length_eq]
      decide
    · have htwo : gpusOf (VictimOrder.newestFirst.sort [idleJob, holdingJob]) = 2 :=
        gpusOf_perm hline
      have := gpusOf_take_le (VictimOrder.newestFirst.sort [idleJob, holdingJob]) (i + 1)
      omega
  · refine hplaces'.mem_of_all ?_ (fun i _ => ?_) (hline'.mem_iff.2 hj)
    · rw [hline'.length_eq]
      decide
    · have htwo : gpusOf (tierLine (Lens.id.get a) askingJob) = 2 := gpusOf_perm hline'
      have := gpusOf_take_le (tierLine (Lens.id.get a) askingJob) i
      omega

/-- A job without GPUs goes, and no GPU becomes free. -/
theorem idle_job_goes : ∃ (a : Archive) (d d' : Decision),
    a.toList = [idleJob, askingJob] ∧ idleJob.requiredGpu = 0 ∧ idleJob.mpsUnits = 0 ∧
    (cumulative (Job.Store.archive.within Lens.id) {} .newestFirst).decide (.forJob askingJob) a =
      .ok d a ∧ d.victims = [idleJob.id] ∧
    (tierWeight (Job.Store.archive.within Lens.id) {}).decide (.forJob askingJob) a = .ok d' a ∧
      d'.victims = [idleJob.id] := by
  have hdistinct : ([idleJob, askingJob].map (·.id)).Nodup := by decide
  obtain ⟨a, ha, hlist⟩ := Job.Archive.exists_indexed hdistinct
  have hfind : (Lens.id.get a).find? askingJob.id = some askingJob := by
    refine ha.find?_of_mem ?_
    rw [hlist]
    simp
  have hbelow : candidates (Lens.id.get a) (.forJob askingJob) = [idleJob] := by
    change candidates a _ = _
    rw [candidates, Archive.withStatus, hlist]
    rfl
  have hrivals : rivals (Lens.id.get a) askingJob = [idleJob] := by
    change rivals a askingJob = _
    rw [rivals, hlist]
    rfl
  have hline : VictimOrder.newestFirst.sort [idleJob] = [idleJob] := List.mergeSort_singleton ..
  have hline' : tierLine (Lens.id.get a) askingJob = [idleJob] := by
    have hperm := (tierLine_linedUp (Lens.id.get a) askingJob).perm
    rw [hrivals] at hperm
    exact List.perm_singleton.1 hperm
  have hgoes := cumulative_decide (s := a) (p := {}) (o := .newestFirst) lawful_id
    (q := .forJob askingJob) (by decide)
  have hvictims : leavers {} (.forJob askingJob) [idleJob] = [idleJob] := by decide
  rw [hbelow, hline, hvictims] at hgoes
  obtain ⟨n, hreaches, hgoes'⟩ := tierWeight_decide lawful_id {} (q := .forJob askingJob) rfl hfind
  rw [hline'] at hreaches hgoes'
  have hall : [idleJob].take n = [idleJob] := by
    refine List.take_of_length_le (Nat.not_lt.1 fun hlt => ?_)
    -- Short of the whole line the jobs would have to hold three GPUs.
    have hnone : n = 0 := Nat.lt_one_iff.1 hlt
    have henough := hreaches.enough
    rw [hnone] at henough
    exact absurd henough (by decide)
  rw [hall] at hgoes'
  exact ⟨a, _, _, hlist, rfl, rfl, hgoes, rfl, hgoes', rfl⟩

end GpuCluster.Preemption
