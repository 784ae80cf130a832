import GpuCluster.Proofs.Preemption.Room
import GpuCluster.Proofs.Preemption.Tiers

/-!
# The job that room is made for

* `DecidesWithout` : a decision is made or refused, and a job is not among the victims;
* `cumulative_without`, `tierWeight_without` : neither strategy chooses the job that asks;
* `writeVictims_sublist`, `perform_victims` : only chosen victims are written;
* `makeRoom_answers`, `makeRoom_without` : making room for a job never breaks off, and never pushes
  that job out.
-/

namespace GpuCluster.Preemption

open Job (Archive)

variable {σ : Type} {part : Lens σ Archive} {a b : Archive} {ids : List JobId} {js : List Job}
  {id : JobId} {j : Job} {now : Instant} {s t : σ} {d : Decision} {q : Requirement} {p : Policy}
  {o : VictimOrder}

/-! ## Deciding -/

/-- A decision is made or refused with an error, nothing changes, and the job is no victim. -/
def DecidesWithout (id : JobId) (x : Action σ Decision) (s : σ) : Prop :=
  ∃ answer, Action.attempt x s = .ok answer s ∧ ∀ d, answer = .ok d → id ∉ d.victims

theorem decidesWithout_of_ok {x : Action σ Decision} (h : x s = .ok d s) (hid : id ∉ d.victims) :
    DecidesWithout id x s := by
  refine ⟨.ok d, Action.attempt_of_ok h, fun c hc => ?_⟩
  cases hc
  exact hid

/-- The victims are less important than the job that asks. -/
theorem cumulative_without (hp : part.Lawful) (p : Policy) (o : VictimOrder)
    (hi : (part.get s).Indexed) (hj : j ∈ (part.get s).toList) :
    DecidesWithout j.id
      ((cumulative (Job.Store.archive.within part) p o).decide (.forJob j)) s := by
  by_cases hq : gpusNeeded (.forJob j) = 0
  · refine decidesWithout_of_ok (d := .none (.forJob j)) ?_ List.not_mem_nil
    unfold cumulative
    dsimp only
    rw [if_pos hq]
    rfl
  · refine decidesWithout_of_ok (cumulative_decide hp hq) fun hmem => ?_
    obtain ⟨k, hk, hid⟩ := List.mem_map.1 (List.mem_of_mem_take hmem)
    obtain ⟨n, hn, -⟩ := leavers_eq p (.forJob j) (o.sort (candidates (part.get s) (.forJob j)))
    rw [hn] at hk
    have hline := List.mem_of_mem_take (List.mem_of_mem_take hk)
    obtain ⟨hstored, -, hlower⟩ := mem_candidates.1 ((o.sort_perm _).mem_iff.1 hline)
    obtain rfl := hi.eq_of_id hstored hj hid
    exact Int32.lt_irrefl hlower

/-- The victims are looked for among the other jobs. -/
theorem tierWeight_without (hp : part.Lawful) (p : Policy) (hi : (part.get s).Indexed)
    (hj : j ∈ (part.get s).toList) :
    DecidesWithout j.id ((tierWeight (Job.Store.archive.within part) p).decide (.forJob j)) s := by
  obtain ⟨n, -, hdecide⟩ := tierWeight_decide hp p (q := .forJob j) rfl (hi.find?_of_mem hj)
  refine decidesWithout_of_ok hdecide fun hmem => ?_
  split at hmem
  next => exact absurd hmem List.not_mem_nil
  next =>
    obtain ⟨k, hk, hid⟩ := List.mem_map.1 (List.mem_of_mem_take hmem)
    have hline := (tierLine_linedUp _ j).perm.mem_iff.1 (List.mem_of_mem_take hk)
    exact (mem_rivals.1 hline).2.2.1 hid

/-- If all known strategies decide without a job, so does the active one. -/
theorem Strategies.decide_without {strategies : Strategies (Strategy σ)}
    (h : ∀ name x, strategies.known.get? name = some x → DecidesWithout id (x.decide q) s) :
    DecidesWithout id (strategies.decide q) s := by
  cases hs : strategies.current with
  | error e =>
    rw [Strategies.decide_of_error hs]
    exact ⟨_, Action.attempt_fail e s, nofun⟩
  | ok x =>
    obtain ⟨name, -, hx⟩ := Strategies.known_of_current hs
    rw [Strategies.decide_of_ok hs]
    exact h name x hx

/-! ## Carrying out -/

theorem checkVictims_answers (ids : List JobId) :
    (checkVictims Job.Store.archive ids).Answers := by
  induction ids with
  | nil => exact Action.answers_pure []
  | cons id rest ih =>
    refine Action.answers_bind (Job.Archive.find_answers id) fun j => ?_
    split
    next => exact Action.answers_fail _
    next => exact Action.answers_bind ih fun _ => Action.answers_pure _

/-- The checked records are those of the victims, in order. -/
theorem checkVictims_ids (hi : a.Indexed)
    (h : checkVictims Job.Store.archive ids a = .ok js b) : js.map (·.id) = ids := by
  induction ids generalizing js b with
  | nil =>
    obtain ⟨rfl, -⟩ := Action.pure_ok.1 h
    rfl
  | cons id rest ih =>
    obtain ⟨k, c, hk, hrest⟩ := Action.bind_ok.1 h
    obtain ⟨hf, rfl⟩ := Job.Archive.find_ok hk
    split at hrest
    next => cases hrest
    next =>
      obtain ⟨ks, c, hks, hp⟩ := Action.bind_ok.1 hrest
      obtain ⟨rfl, -⟩ := Action.pure_ok.1 hp
      rw [List.map_cons, ih hks, (hi.find?_eq_some_iff.1 hf).2]

variable {store : Job.Store σ} {evictor : Option (Evictor σ)} {strategies : Strategies (Strategy σ)}
  {shortage : Action σ Bool}

/-- Only checked victims are answered, each at most once. -/
theorem writeVictims_sublist (h : writeVictims store evictor now d js s = .ok ids t) :
    ids.Sublist (js.map (·.id)) := by
  induction js generalizing s t ids with
  | nil =>
    obtain ⟨rfl, -⟩ := Action.pure_ok.1 h
    exact .slnil
  | cons j rest ih =>
    obtain ⟨moved, u, -, hrest⟩ := Action.bind_ok.1 h
    cases moved with
    | false => exact (ih hrest).cons _
    | true =>
      obtain ⟨_, v, -, hmore⟩ := Action.bind_ok.1 hrest
      obtain ⟨others, w, hothers, hp⟩ := Action.bind_ok.1 hmore
      obtain ⟨rfl, -⟩ := Action.pure_ok.1 hp
      exact (ih hothers).cons_cons _

/-- The victims that are answered are victims of the decision. -/
theorem perform_victims (hp : part.Lawful) (hs : Action.Reads (strategies.decide q))
    (hi : (part.get s).Indexed)
    (h : perform strategies (Job.Store.archive.within part) evictor now q s = .ok d t) :
    ∃ c, strategies.decide q s = .ok c s ∧ d.victims.Sublist c.victims := by
  obtain ⟨c, u, hc, hrest⟩ := Action.bind_ok.1 h
  obtain rfl := hs.eq_of_ok hc
  refine ⟨c, hc, ?_⟩
  split at hrest
  next =>
    obtain ⟨rfl, -⟩ := Action.pure_ok.1 hrest
    exact .refl _
  next =>
    obtain ⟨js, v, hv, hwrite⟩ := Action.bind_ok.1 hrest
    rw [within_checkVictims hp, Action.zoom_ok] at hv
    obtain ⟨e, hv, -⟩ := hv
    obtain ⟨ids, w, hw, hpure⟩ := Action.bind_ok.1 hwrite
    obtain ⟨rfl, -⟩ := Action.pure_ok.1 hpure
    have hsub := writeVictims_sublist hw
    rwa [checkVictims_ids hi hv] at hsub

/-- A decision that is made or refused is carried out or refused. -/
theorem perform_answers (hp : part.Lawful) (now : Instant) (hi : (part.get s).Indexed)
    (hd : ∃ answer, Action.attempt (strategies.decide q) s = .ok answer s) :
    ∃ answer t, Action.attempt
      (perform strategies (Job.Store.archive.within part) none now q) s = .ok answer t := by
  obtain ⟨answer, hanswer⟩ := hd
  rcases Action.attempt_ok hanswer with ⟨c, rfl, hc⟩ | ⟨e, rfl, he⟩
  · by_cases hempty : c.isEmpty = true
    · refine ⟨.ok c, s, Action.attempt_of_ok ?_⟩
      rw [perform, Action.bind_of_ok hc, if_pos hempty]
      rfl
    · obtain ⟨r, v, hv⟩ := checkVictims_answers c.victims (part.get s)
      rcases Action.attempt_ok hv with ⟨js, rfl, hjs⟩ | ⟨e, rfl, he⟩
      · obtain rfl := (checkVictims_reads _).eq_of_ok hjs
        have hchecked : checkVictims (Job.Store.archive.within part) c.victims s = .ok js s := by
          rw [within_checkVictims hp]
          exact Action.zoom_of_same hp hjs
        obtain ⟨ids, b, hw, -⟩ := writeVictims_departs now hi c fun j hj => by
          obtain ⟨id, hf, -⟩ := checkVictims_ok hjs j hj
          exact ⟨j, (hi.find?_eq_some_iff.1 hf).1, rfl⟩
        have hwritten : writeVictims (Job.Store.archive.within part) none now c js s =
            .ok ids (part.set b s) := by
          rw [within_writeVictims hp]
          exact Action.zoom_of_ok hw
        refine ⟨.ok { c with victims := ids }, part.set b s, Action.attempt_of_ok ?_⟩
        rw [perform, Action.bind_of_ok hc, if_neg hempty, Action.bind_of_ok hchecked,
          Action.bind_of_ok hwritten]
        rfl
      · refine ⟨.error e, part.set v s, Action.attempt_of_error ?_⟩
        rw [perform, Action.bind_of_ok hc, if_neg hempty, within_checkVictims hp]
        exact Action.bind_of_error (Action.zoom_of_error he)
  · exact ⟨.error e, s, Action.attempt_of_error (Action.bind_of_error he)⟩

theorem makeRoom_answers (hp : part.Lawful) (hsh : shortage.Reads) (hshort : shortage.Answers)
    (now : Instant) (hi : (part.get s).Indexed)
    (hd : ∃ answer, Action.attempt (strategies.decide q) s = .ok answer s) :
    ∃ answer t, Action.attempt (makeRoom shortage strategies (Job.Store.archive.within part) none
      now q) s = .ok answer t := by
  obtain ⟨r, u, hr⟩ := hshort s
  rcases Action.attempt_ok hr with ⟨short, rfl, hok⟩ | ⟨e, rfl, he⟩
  · obtain rfl := hsh.eq_of_ok hok
    cases short with
    | false => exact ⟨.ok [], u, Action.attempt_of_ok (Action.bind_of_ok hok)⟩
    | true =>
      obtain ⟨answer, t, hperform⟩ := perform_answers hp now hi hd
      rcases Action.attempt_ok hperform with ⟨c, rfl, hc⟩ | ⟨e, rfl, he⟩
      · refine ⟨.ok c.victims, t, Action.attempt_of_ok ?_⟩
        rw [makeRoom, Action.bind_of_ok hok, if_pos rfl, Action.bind_of_ok hc]
        rfl
      · refine ⟨.error e, t, Action.attempt_of_error ?_⟩
        rw [makeRoom, Action.bind_of_ok hok, if_pos rfl]
        exact Action.bind_of_error he
  · exact ⟨.error e, u, Action.attempt_of_error (Action.bind_of_error he)⟩

/-- A job that the decision is made without is not pushed out. -/
theorem makeRoom_without (hp : part.Lawful) (hsh : shortage.Reads)
    (hs : Action.Reads (strategies.decide q)) (hi : (part.get s).Indexed)
    (hd : DecidesWithout id (strategies.decide q) s)
    (h : makeRoom shortage strategies (Job.Store.archive.within part) evictor now q s = .ok ids t) :
    id ∉ ids := by
  obtain ⟨short, u, hr, hrest⟩ := Action.bind_ok.1 h
  obtain rfl := hsh.eq_of_ok hr
  cases short with
  | false =>
    obtain ⟨rfl, -⟩ := Action.pure_ok.1 hrest
    exact List.not_mem_nil
  | true =>
    obtain ⟨d, v, hperform, hpure⟩ := Action.bind_ok.1 hrest
    obtain ⟨rfl, -⟩ := Action.pure_ok.1 hpure
    obtain ⟨c, hc, hsub⟩ := perform_victims hp hs hi hperform
    obtain ⟨answer, hanswer, hwithout⟩ := hd
    rw [Action.attempt_of_ok hc] at hanswer
    cases hanswer
    exact fun hmem => hwithout c rfl (hsub.subset hmem)

end GpuCluster.Preemption
