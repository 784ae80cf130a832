import Mathlib.Algebra.GroupWithZero.Nat
import GpuCluster.Proofs.Daemon.Operations

/-!
# The units that jobs hold

A job holds its units while it waits or runs, and after its end until they are given back.

* `Ledger` : the quotas, the stored jobs, and the ended jobs that are still owed a release;
* `Ledger.holds` : the job holds its units;
* `Ledger.Balanced` : what a project uses is what its jobs hold;
* `Balanced.admit`, `Balanced.start`, `Balanced.finish`, `Balanced.release` : the four ways the
  ledger moves, each of which keeps it balanced;
* `Ledger.Continues` : no job disappears, and none takes its units a second time.
-/

namespace GpuCluster

/-! ## Sums -/

namespace Job

/-- The units that some jobs take from a project. -/
def unitsOf (project : String) (js : List Job) : Nat := (js.map (unitsFor project)).sum

variable {project : String} {js : List Job} {j : Job} {p q : Job → Bool}

theorem unitsOf_append (project : String) (js ks : List Job) :
    unitsOf project (js ++ ks) = unitsOf project js + unitsOf project ks := by
  rw [unitsOf, List.map_append, List.sum_append, unitsOf, unitsOf]

theorem unitsOf_perm {ks : List Job} (h : js.Perm ks) : unitsOf project js = unitsOf project ks :=
  (h.map _).sum_nat

/-- A change of jobs that keeps what they take and who is counted keeps the sum. -/
theorem unitsOf_filter_map (f : Job → Job)
    (hu : ∀ k ∈ js, (f k).unitsFor project = k.unitsFor project)
    (hp : ∀ k ∈ js, p (f k) = q k) :
    unitsOf project ((js.map f).filter p) = unitsOf project (js.filter q) := by
  rw [unitsOf, unitsOf, List.filter_map, List.map_map]
  have hfilter : js.filter (p ∘ f) = js.filter q := List.filter_congr hp
  rw [hfilter]
  exact congrArg List.sum (List.map_congr_left fun k hk => hu k (List.mem_filter.1 hk).1)

/-- The job that is no longer counted takes its units out of the sum. -/
theorem unitsOf_filter_drop (hn : (js.map (·.id)).Nodup) (hj : j ∈ js) (hp : p j = true)
    (hq : q j = false) (heq : ∀ k ∈ js, k.id ≠ j.id → p k = q k) :
    unitsOf project (js.filter p) = unitsOf project (js.filter q) + j.unitsFor project := by
  have hperm := List.perm_cons_erase hj
  obtain ⟨hnot, -⟩ := List.nodup_cons.1 ((hperm.map (·.id)).nodup_iff.1 hn)
  have hrest : (js.erase j).filter p = (js.erase j).filter q := by
    refine List.filter_congr fun k hk => heq k (List.mem_of_mem_erase hk) ?_
    exact fun hid => hnot (List.mem_map.2 ⟨k, hk, hid⟩)
  rw [unitsOf_perm (hperm.filter p), unitsOf_perm (hperm.filter q), List.filter_cons_of_pos hp,
    List.filter_cons_of_neg (by rw [hq]; exact Bool.false_ne_true), hrest, unitsOf, unitsOf,
    List.map_cons, List.sum_cons, Nat.add_comm]

/-- Jobs that are counted for one of two reasons, never for both. -/
theorem unitsOf_filter_or {r : Job → Bool}
    (h : ∀ k ∈ js, p k = (q k || r k) ∧ (q k = true → r k = false)) :
    unitsOf project (js.filter p) =
      unitsOf project (js.filter q) + unitsOf project (js.filter r) := by
  induction js with
  | nil => rfl
  | cons k rest ih =>
    obtain ⟨hk, hexcl⟩ := h k List.mem_cons_self
    have ih := ih fun i hi => h i (List.mem_cons_of_mem _ hi)
    unfold unitsOf at ih ⊢
    rw [List.filter_cons, List.filter_cons, List.filter_cons, hk]
    cases hq : q k with
    | true =>
      rw [hexcl hq]
      simp only [Bool.true_or, if_true, Bool.false_eq_true, if_false, List.map_cons, List.sum_cons]
      omega
    | false =>
      cases r k with
      | true =>
        simp only [Bool.or_true, if_true, Bool.false_eq_true, if_false, List.map_cons,
          List.sum_cons]
        omega
      | false =>
        simp only [Bool.or_false, Bool.false_eq_true, if_false]
        exact ih

end Job

/-! ## Ledgers -/

/-- The quotas, the stored jobs, and the ended jobs whose units have not been given back. -/
structure Ledger where
  quotas : Bindings Quota
  jobs : Job.Archive
  owed : List JobId

namespace Ledger

/-- The job has not ended, or its units have not been given back since. -/
def holds (l : Ledger) (j : Job) : Bool := !j.isTerminal || l.owed.contains j.id

/-- The stored jobs that hold their units. -/
def holders (l : Ledger) : List Job := l.jobs.toList.filter l.holds

/-- What a project uses is what its jobs hold, and only ended jobs are owed a release. -/
structure Balanced (l : Ledger) : Prop where
  indexed : l.jobs.Indexed
  kept : Quota.Kept l.quotas
  nodup : l.owed.Nodup
  ended : ∀ id ∈ l.owed, ∃ j ∈ l.jobs.toList, j.id = id ∧ j.isTerminal = true
  covers : ∀ project, Quota.usedIn l.quotas project = Job.unitsOf project l.holders

/-- Every stored job stays, with its project and its units, and one that does not hold its units
does not take them again. -/
def Continues (l m : Ledger) : Prop :=
  ∀ j ∈ l.jobs.toList, ∃ k ∈ m.jobs.toList, k.id = j.id ∧ k.projectId = j.projectId ∧
    k.mpsUnits = j.mpsUnits ∧ (m.holds k = true → l.holds j = true)

variable {l m n : Ledger} {id : JobId} {j : Job} {a : Job.Archive} {t : Bindings Quota}

theorem holds_eq_true_iff : l.holds j = true ↔ j.isTerminal = false ∨ j.id ∈ l.owed := by
  simp [holds]

theorem holds_congr (h : ∀ id, id ∈ l.owed ↔ id ∈ m.owed) (j : Job) : l.holds j = m.holds j := by
  rw [Bool.eq_iff_iff, holds_eq_true_iff, holds_eq_true_iff, h]

theorem Continues.refl (l : Ledger) : l.Continues l :=
  fun j hj => ⟨j, hj, rfl, rfl, rfl, fun h => h⟩

theorem Continues.trans (h : l.Continues m) (h' : m.Continues n) : l.Continues n := by
  intro j hj
  obtain ⟨k, hk, hid, hproj, hunits, hold⟩ := h j hj
  obtain ⟨i, hi, hid', hproj', hunits', hold'⟩ := h' k hk
  exact ⟨i, hi, hid'.trans hid, hproj'.trans hproj, hunits'.trans hunits, fun hh => hold (hold' hh)⟩

theorem balanced_empty : (⟨∅, .empty, []⟩ : Ledger).Balanced where
  indexed := Job.Archive.indexed_empty
  kept := Quota.kept_empty
  nodup := List.nodup_nil
  ended _ h := absurd h List.not_mem_nil
  covers _ := rfl

/-- The order in which releases are owed does not matter. -/
theorem Balanced.perm {owed : List JobId} (h : l.Balanced) (hp : l.owed.Perm owed) :
    ({ l with owed := owed } : Ledger).Balanced ∧ l.Continues { l with owed := owed } := by
  have hholds : ∀ j, l.holds j = ({ l with owed := owed } : Ledger).holds j :=
    holds_congr fun id => hp.mem_iff
  refine ⟨⟨h.indexed, h.kept, hp.nodup_iff.1 h.nodup, ?_, ?_⟩, ?_⟩
  · exact fun id hid => h.ended id (hp.mem_iff.2 hid)
  · intro project
    rw [h.covers project]
    exact congrArg _ (List.filter_congr fun j _ => hholds j)
  · exact fun j hj => ⟨j, hj, rfl, rfl, rfl, fun hh => (hholds j).trans hh⟩

/-- New totals keep a ledger balanced. -/
theorem Balanced.of_used (h : l.Balanced) (ht : Quota.Kept t)
    (hu : ∀ project, Quota.usedIn t project = Quota.usedIn l.quotas project) :
    ({ l with quotas := t } : Ledger).Balanced ∧ l.Continues { l with quotas := t } := by
  refine ⟨⟨h.indexed, ht, h.nodup, h.ended, fun project => ?_⟩, ?_⟩
  · rw [hu project]
    exact h.covers project
  · exact fun j hj => ⟨j, hj, rfl, rfl, rfl, fun hh => hh⟩

/-- A new job takes its units. -/
theorem Balanced.admit (h : l.Balanced) (ht : Quota.Kept t)
    (hu : ∀ project, Quota.usedIn t project = Quota.usedIn l.quotas project + j.unitsFor project)
    (hj : j.isTerminal = false) (ha : l.jobs.add j = .ok a) :
    ({ l with quotas := t, jobs := a } : Ledger).Balanced ∧
      l.Continues { l with quotas := t, jobs := a } := by
  have hlist := Job.Archive.toList_add ha
  refine ⟨⟨h.indexed.add ha, ht, h.nodup, ?_, ?_⟩, ?_⟩
  · intro id hid
    obtain ⟨k, hk, hrest⟩ := h.ended id hid
    exact ⟨k, by rw [hlist]; exact List.mem_append_left _ hk, hrest⟩
  · intro project
    have hhold : ({ l with quotas := t, jobs := a } : Ledger).holds j = true :=
      holds_eq_true_iff.2 (.inl hj)
    rw [hu project, h.covers project, holders, holders, hlist, List.filter_append,
      Job.unitsOf_append, List.filter_cons_of_pos hhold]
    rfl
  · intro k hk
    refine ⟨k, ?_, rfl, rfl, rfl, fun hh => hh⟩
    rw [hlist]
    exact List.mem_append_left _ hk

/-- A change of one record that keeps who holds what keeps a ledger balanced. -/
theorem Balanced.modify {change : Job → Job} {owed : List JobId} (h : l.Balanced)
    (hid : ∀ k, (change k).id = k.id) (hproj : ∀ k, (change k).projectId = k.projectId)
    (hunits : ∀ k, (change k).mpsUnits = k.mpsUnits)
    (hholds : ∀ k ∈ l.jobs.toList, ({ l with owed := owed } : Ledger).holds
      (if k.id = id then change k else k) = l.holds k)
    (hnodup : owed.Nodup)
    (hended : ∀ i ∈ owed, ∃ k ∈ (l.jobs.modify id change).toList, k.id = i ∧ k.isTerminal = true) :
    ({ l with jobs := l.jobs.modify id change, owed := owed } : Ledger).Balanced ∧
      l.Continues { l with jobs := l.jobs.modify id change, owed := owed } := by
  refine ⟨⟨h.indexed.modify hid, h.kept, hnodup, hended, ?_⟩, ?_⟩
  · intro project
    rw [h.covers project, holders, holders, h.indexed.toList_modify]
    refine (Job.unitsOf_filter_map _ (fun k _ => ?_) hholds).symm
    split
    next => rw [Job.unitsFor, hproj, hunits, Job.unitsFor]
    next => rfl
  · intro k hk
    refine ⟨_, h.indexed.mem_modify.2 ⟨k, hk, rfl⟩, ?_, ?_, ?_, fun hh => ?_⟩
    · split
      next => exact hid k
      next => rfl
    · split
      next => exact hproj k
      next => rfl
    · split
      next => exact hunits k
      next => rfl
    · exact (hholds k hk).symm.trans hh

variable {now : Instant} {status : JobStatus} {reason : Option String}

/-- A waiting job that starts keeps its units. -/
theorem Balanced.start (h : l.Balanced) (now : Instant) (reason : Option String)
    (hf : l.jobs.find? id = some j)
    (hj : j.isTerminal = false) :
    ({ l with jobs := l.jobs.modify id (Job.advance now .running reason) } : Ledger).Balanced ∧
      l.Continues { l with jobs := l.jobs.modify id (Job.advance now .running reason) } := by
  obtain ⟨hmem, rfl⟩ := h.indexed.find?_eq_some_iff.1 hf
  have honly : ∀ k ∈ l.jobs.toList, k.id = j.id → k.isTerminal = false := by
    intro k hk hid
    rw [h.indexed.eq_of_id hk hmem hid]
    exact hj
  refine h.modify (fun _ => rfl) (fun _ => rfl) (fun _ => rfl) ?_ h.nodup ?_
  · intro k hk
    by_cases hid : k.id = j.id
    · rw [if_pos hid, holds_eq_true_iff.2 (.inl (honly k hk hid))]
      exact holds_eq_true_iff.2 (.inl rfl)
    · rw [if_neg hid]
  · intro i hi
    obtain ⟨k, hk, hki, hterm⟩ := h.ended i hi
    have hne : k.id ≠ j.id := fun hid => by
      rw [honly k hk hid] at hterm
      cases hterm
    exact ⟨k, h.indexed.mem_modify.2 ⟨k, hk, if_neg hne⟩, hki, hterm⟩

/-- A job that ends keeps its units until it is released. -/
theorem Balanced.finish (h : l.Balanced) (now : Instant) (reason : Option String)
    (hf : l.jobs.find? id = some j) (hj : j.isTerminal = false) (hs : status.isTerminal = true) :
    (⟨l.quotas, l.jobs.modify id (Job.advance now status reason), id :: l.owed⟩ : Ledger).Balanced ∧
      l.Continues ⟨l.quotas, l.jobs.modify id (Job.advance now status reason), id :: l.owed⟩ := by
  obtain ⟨hmem, rfl⟩ := h.indexed.find?_eq_some_iff.1 hf
  have honly : ∀ k ∈ l.jobs.toList, k.id = j.id → k.isTerminal = false := by
    intro k hk hid
    rw [h.indexed.eq_of_id hk hmem hid]
    exact hj
  refine h.modify (fun _ => rfl) (fun _ => rfl) (fun _ => rfl) ?_ ?_ ?_
  · intro k hk
    by_cases hid : k.id = j.id
    · rw [if_pos hid, holds_eq_true_iff.2 (.inl (honly k hk hid))]
      exact holds_eq_true_iff.2 (.inr (List.mem_cons.2 (.inl hid)))
    · rw [if_neg hid, Bool.eq_iff_iff, holds_eq_true_iff, holds_eq_true_iff, List.mem_cons]
      simp only [hid, false_or]
  · refine List.nodup_cons.2 ⟨fun hmem' => ?_, h.nodup⟩
    obtain ⟨k, hk, hid, hterm⟩ := h.ended _ hmem'
    rw [honly k hk hid] at hterm
    cases hterm
  · intro i hi
    rcases List.mem_cons.1 hi with rfl | hi
    · exact ⟨_, h.indexed.mem_modify.2 ⟨j, hmem, if_pos rfl⟩, rfl, hs⟩
    · obtain ⟨k, hk, hki, hterm⟩ := h.ended i hi
      have hne : k.id ≠ j.id := fun hid => by
        rw [honly k hk hid] at hterm
        cases hterm
      exact ⟨k, h.indexed.mem_modify.2 ⟨k, hk, if_neg hne⟩, hki, hterm⟩

/-- Jobs that leave running keep their units until they are released. -/
theorem Balanced.departs {xs : List Job.Departure} (h : l.Balanced)
    (hd : Job.Archive.Departs now l.jobs xs a) (hx : ∀ x ∈ xs, x.status.isTerminal = true) :
    (⟨l.quotas, a, xs.map (·.id) ++ l.owed⟩ : Ledger).Balanced ∧
      l.Continues ⟨l.quotas, a, xs.map (·.id) ++ l.owed⟩ := by
  obtain ⟨quotas, jobs, owed⟩ := l
  dsimp only at hd
  induction hd generalizing owed with
  | nil => exact ⟨h, .refl _⟩
  | @cons _ _ x xs j found running _ ih =>
    have hactive : j.isTerminal = false := by
      rw [Job.isTerminal, running]
      rfl
    obtain ⟨h₁, c₁⟩ := h.finish now x.reason found hactive
      (hx x List.mem_cons_self)
    obtain ⟨h₂, c₂⟩ := ih (fun y hy => hx y (List.mem_cons_of_mem _ hy)) (x.id :: owed) h₁
    obtain ⟨h₃, c₃⟩ := h₂.perm List.perm_middle
    exact ⟨h₃, (c₁.trans c₂).trans c₃⟩

/-- A job that is owed a release is stored, and its release goes through. -/
theorem Balanced.release (h : l.Balanced) {rest : List JobId} (ho : l.owed = id :: rest) :
    ∃ j t, l.jobs.find? id = some j ∧ Quota.Store.table.releaseFor j l.quotas = .ok () t ∧
      (⟨t, l.jobs, rest⟩ : Ledger).Balanced ∧ l.Continues ⟨t, l.jobs, rest⟩ := by
  have hid : id ∈ l.owed := ho ▸ List.mem_cons_self
  obtain ⟨j, hj, rfl, hterm⟩ := h.ended id hid
  obtain ⟨hnot, hnodup⟩ := List.nodup_cons.1 (ho ▸ h.nodup)
  have hmem : ∀ i, i ∈ l.owed ↔ i = j.id ∨ i ∈ rest := fun i => by rw [ho, List.mem_cons]
  -- The job holds its units before the release and not afterwards.
  have hdrop : ∀ project, Job.unitsOf project l.holders =
      Job.unitsOf project (l.jobs.toList.filter (⟨l.quotas, l.jobs, rest⟩ : Ledger).holds) +
        j.unitsFor project := by
    intro project
    refine Job.unitsOf_filter_drop h.indexed.nodup hj (holds_eq_true_iff.2 (.inr hid)) ?_ ?_
    · rw [← Bool.not_eq_true, holds_eq_true_iff]
      rintro (hf | hr)
      · rw [hterm] at hf
        cases hf
      · exact hnot hr
    · intro k _ hne
      rw [Bool.eq_iff_iff, holds_eq_true_iff, holds_eq_true_iff, hmem]
      simp only [hne, false_or]
  have hcovered : j.mpsUnits.toNat ≤ Quota.usedIn l.quotas j.projectId := by
    have hunits : j.unitsFor j.projectId = j.mpsUnits.toNat := if_pos rfl
    rw [h.covers, hdrop, hunits]
    exact Nat.le_add_left ..
  obtain ⟨t, hrel, hkept, hused⟩ := Quota.Store.releaseFor_covered h.kept hcovered
  refine ⟨j, t, h.indexed.find?_of_mem hj, hrel, ⟨h.indexed, hkept, hnodup, ?_, ?_⟩, ?_⟩
  · exact fun i hi => h.ended i ((hmem i).2 (.inr hi))
  · intro project
    have heq := hused project
    rw [h.covers project, hdrop project] at heq
    exact (Nat.add_right_cancel heq).symm
  · refine fun k hk => ⟨k, hk, rfl, rfl, rfl, fun hh => ?_⟩
    rcases holds_eq_true_iff.1 hh with hf | hr
    · exact holds_eq_true_iff.2 (.inl hf)
    · exact holds_eq_true_iff.2 (.inr ((hmem _).2 (.inr hr)))

end Ledger

end GpuCluster
