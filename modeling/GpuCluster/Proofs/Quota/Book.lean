import GpuCluster.Proofs.Action
import GpuCluster.Quota.Book

/-!
# The book of quotas as a ledger

* `Job.unitsFor` : the units that a job takes from a project;
* `Quota.usedIn` : the units that a project uses, nothing for a project without a quota;
* `Quota.Kept` : each quota is kept under its project and covers what is used;
* `Store.reserveFor_ok`, `Store.releaseFor_covered`, `Store.setTotal_ok` : what an operation adds
  to the used units of each project;
* `Store.reserveFor_error`, `Store.setTotal_error` : a refused operation writes nothing.
-/

namespace GpuCluster

/-- The units that a job takes from a project. -/
def Job.unitsFor (project : String) (j : Job) : Nat :=
  if j.projectId = project then j.mpsUnits.toNat else 0

theorem Job.unitsFor_of_units_eq_zero {j : Job} (h : j.mpsUnits = 0) (project : String) :
    j.unitsFor project = 0 := by
  rw [unitsFor, h]
  exact ite_self _

namespace Quota

variable {t t' : Bindings Quota} {q r : Quota} {project : String} {units : UInt32} {j : Job}
  {f : Failure}

/-- The units that a project uses. -/
def usedIn (t : Bindings Quota) (project : String) : Nat :=
  match t.get? project with
  | some q => q.used.toNat
  | none => 0

/-- Each quota is kept under its project and covers what is used. -/
def Kept (t : Bindings Quota) : Prop :=
  ∀ project q, t.get? project = some q → q.projectId = project ∧ q.used ≤ q.total

theorem usedIn_of_get? (h : t.get? project = some q) : usedIn t project = q.used.toNat := by
  rw [usedIn, h]

theorem usedIn_set (t : Bindings Quota) (q : Quota) (project other : String) :
    usedIn (t.set project q) other = if project = other then q.used.toNat else usedIn t other := by
  unfold usedIn
  rw [Bindings.get?_set]
  by_cases h : project = other
  · rw [if_pos h, if_pos h]
  · rw [if_neg h, if_neg h]

theorem kept_empty : Kept ∅ := fun _ _ h => by cases h

theorem Kept.set (h : Kept t) (hq : q.used ≤ q.total) : Kept (t.set q.projectId q) := by
  intro project r hr
  rw [Bindings.get?_set] at hr
  by_cases hp : q.projectId = project
  · rw [if_pos hp] at hr
    obtain rfl := Option.some.inj hr
    exact ⟨hp, hq⟩
  · rw [if_neg hp] at hr
    exact h project r hr

/-! ## One quota -/

/-- Units that are taken fit under the total. -/
theorem reserve_ok (h : q.reserve units = .ok r) (hq : q.used ≤ q.total) :
    r.projectId = q.projectId ∧ r.used.toNat = q.used.toNat + units.toNat ∧ r.used ≤ r.total := by
  unfold reserve at h
  split at h
  next hfit =>
    split at h
    next used hused =>
      cases h
      rw [Checked.add32_eq_ok_iff] at hused
      refine ⟨rfl, hused, ?_⟩
      rw [admits, Mps.fits, decide_eq_true_eq, UInt32.le_iff_toNat_le, toNat_available] at hfit
      rw [UInt32.le_iff_toNat_le] at hq ⊢
      change used.toNat ≤ q.total.toNat
      omega
    next => cases h
  next => cases h

theorem toNat_used_release (q : Quota) (units : UInt32) :
    (q.release units).used.toNat = q.used.toNat - units.toNat := Saturating.toNat_sub32 ..

theorem release_le (hq : q.used ≤ q.total) : (q.release units).used ≤ (q.release units).total := by
  rw [UInt32.le_iff_toNat_le] at hq ⊢
  rw [toNat_used_release]
  exact Nat.le_trans (Nat.sub_le ..) hq

/-! ## The store in memory -/

namespace Store

theorem load_of_get? (h : t.get? project = some q) : table.load project t = .ok q t := by
  have hg : table.get project t = .ok (some q) t := congrArg (EStateM.Result.ok · t) h
  exact Action.bind_of_ok hg

theorem load_of_none (h : t.get? project = none) :
    table.load project t = .error (.error (.noQuota project)) t := by
  have hg : table.get project t = .ok none t := congrArg (EStateM.Result.ok · t) h
  exact Action.bind_of_ok hg

theorem reserve_of_get? (h : t.get? project = some q) :
    table.reserve project units t =
      match q.reserve units with
      | .ok r => .ok () (t.set r.projectId r)
      | .error f => .error f t := by
  rw [reserve, Action.bind_of_ok (load_of_get? h)]
  cases q.reserve units with
  | ok r => rfl
  | error f => rfl

/-- A job that gets its units adds them to what its project uses. -/
theorem reserveFor_ok (ht : Kept t) (h : table.reserveFor j t = .ok () t') :
    Kept t' ∧ ∀ project, usedIn t' project = usedIn t project + j.unitsFor project := by
  unfold reserveFor at h
  split at h
  next hz =>
    obtain ⟨-, rfl⟩ := Action.pure_ok.1 h
    refine ⟨ht, fun project => ?_⟩
    rw [Job.unitsFor_of_units_eq_zero hz, Nat.add_zero]
  next =>
    cases hq : t.get? j.projectId with
    | none =>
      rw [reserve, Action.bind_of_error (load_of_none hq)] at h
      cases h
    | some q =>
      rw [reserve_of_get? hq] at h
      obtain ⟨hid, hle⟩ := ht _ _ hq
      cases hr : q.reserve j.mpsUnits with
      | error f =>
        rw [hr] at h
        cases h
      | ok r =>
        rw [hr] at h
        cases h
        obtain ⟨hrid, hused, hrle⟩ := reserve_ok hr hle
        refine ⟨ht.set hrle, fun project => ?_⟩
        rw [usedIn_set, hrid, hid, Job.unitsFor]
        by_cases hp : j.projectId = project
        · rw [if_pos hp, if_pos hp, hused, ← usedIn_of_get? hq, hp]
        · rw [if_neg hp, if_neg hp, Nat.add_zero]

theorem reserveFor_error (h : table.reserveFor j t = .error f t') : t' = t := by
  unfold reserveFor at h
  split at h
  next => cases h
  next =>
    cases hq : t.get? j.projectId with
    | none =>
      rw [reserve, Action.bind_of_error (load_of_none hq)] at h
      cases h
      rfl
    | some q =>
      rw [reserve_of_get? hq] at h
      cases hr : q.reserve j.mpsUnits with
      | ok r =>
        rw [hr] at h
        cases h
      | error g =>
        rw [hr] at h
        cases h
        rfl

/-- A job whose units are in use takes them off what its project uses. -/
theorem releaseFor_covered (ht : Kept t) (hj : j.mpsUnits.toNat ≤ usedIn t j.projectId) :
    ∃ t', table.releaseFor j t = .ok () t' ∧ Kept t' ∧
      ∀ project, usedIn t project = usedIn t' project + j.unitsFor project := by
  unfold releaseFor
  split
  next hz =>
    refine ⟨t, Action.pure_apply () t, ht, fun project => ?_⟩
    rw [Job.unitsFor_of_units_eq_zero hz, Nat.add_zero]
  next hnz =>
    cases hq : t.get? j.projectId with
    | none =>
      -- Without a quota nothing is in use, so the job has no units.
      rw [usedIn, hq] at hj
      exact absurd (UInt32.toNat_inj.1 (Nat.le_zero.1 hj)) hnz
    | some q =>
      obtain ⟨hid, hle⟩ := ht _ _ hq
      rw [usedIn_of_get? hq] at hj
      refine ⟨t.set (q.release j.mpsUnits).projectId (q.release j.mpsUnits), ?_,
        ht.set (release_le hle), fun project => ?_⟩
      · rw [release, Action.bind_of_ok (load_of_get? hq)]
        rfl
      · have hkey : (q.release j.mpsUnits).projectId = j.projectId := hid
        rw [usedIn_set, hkey, toNat_used_release, Job.unitsFor]
        by_cases hp : j.projectId = project
        · rw [if_pos hp, if_pos hp, ← hp, usedIn_of_get? hq, Nat.sub_add_cancel hj]
        · rw [if_neg hp, if_neg hp, Nat.add_zero]

/-- A new total changes nothing about what is used. -/
theorem setTotal_ok {total : UInt32} (ht : Kept t)
    (h : table.setTotal project total t = .ok () t') :
    Kept t' ∧ ∀ project, usedIn t' project = usedIn t project := by
  obtain ⟨found, u, hg, hset⟩ := Action.bind_ok.1 h
  cases hg
  have hq : ((t.get? project).getD (.new project 0)).projectId = project ∧
      ((t.get? project).getD (.new project 0)).used.toNat = usedIn t project := by
    unfold usedIn
    cases hf : t.get? project with
    | none => exact ⟨rfl, rfl⟩
    | some q => exact ⟨(ht _ _ hf).1, rfl⟩
  generalize (t.get? project).getD (.new project 0) = q at hset hq
  split at hset
  next => cases hset
  next hle =>
    cases hset
    refine ⟨ht.set (q := { q with total := total }) (UInt32.not_lt.1 hle), fun other => ?_⟩
    rw [usedIn_set]
    by_cases hp : q.projectId = other
    · rw [if_pos hp, hq.2, ← hp, hq.1]
    · rw [if_neg hp]

theorem setTotal_error {total : UInt32} (h : table.setTotal project total t = .error f t') :
    t' = t := by
  unfold setTotal at h
  have hg : table.get project t = .ok (t.get? project) t := rfl
  rw [Action.bind_of_ok hg] at h
  split at h
  next =>
    cases h
    rfl
  next => cases h

/-! ## In a part of a state -/

variable {σ : Type} {part : Lens σ (Bindings Quota)}

theorem within_load (hp : part.Lawful) (store : Store (Bindings Quota)) (project : String) :
    (store.within part).load project = (store.load project).zoom part := by
  rw [load, load, Action.zoom_bind hp]
  refine congrArg (_ >>= ·) (funext fun found => ?_)
  cases found with
  | none => exact (Action.zoom_fail hp _).symm
  | some q => exact (Action.zoom_pure hp q).symm

theorem within_reserveFor (hp : part.Lawful) (store : Store (Bindings Quota)) (j : Job) :
    (store.within part).reserveFor j = (store.reserveFor j).zoom part := by
  unfold reserveFor
  split
  next => exact (Action.zoom_pure hp ()).symm
  next =>
    rw [reserve, reserve, within_load hp, Action.zoom_bind hp]
    refine congrArg (_ >>= ·) (funext fun q => ?_)
    cases q.reserve j.mpsUnits with
    | ok r => rfl
    | error f => exact (Action.zoom_throw hp f).symm

theorem within_releaseFor (hp : part.Lawful) (store : Store (Bindings Quota)) (j : Job) :
    (store.within part).releaseFor j = (store.releaseFor j).zoom part := by
  unfold releaseFor
  split
  next => exact (Action.zoom_pure hp ()).symm
  next =>
    rw [release, release, within_load hp, Action.zoom_bind hp]
    rfl

theorem within_setTotal (hp : part.Lawful) (store : Store (Bindings Quota)) (project : String)
    (total : UInt32) :
    (store.within part).setTotal project total = (store.setTotal project total).zoom part := by
  rw [setTotal, setTotal, Action.zoom_bind hp]
  refine congrArg (_ >>= ·) (funext fun found => ?_)
  dsimp only
  split
  next => exact (Action.zoom_fail hp _).symm
  next => rfl

end Store

end Quota

end GpuCluster
