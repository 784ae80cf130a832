import GpuCluster.Proofs.Telemetry.Passes

/-!
# What retention takes from the summaries

* `Usage.Tables.added`, `Usage.Tables.dropped` : the snapshots that came between two tables, and
  those that went before their jobs had summaries;
* `Retention.Faithful` : every summary is that of all snapshots of its job but the lost ones;
* `Faithful.insert`, `Faithful.fill`, `Faithful.dropBefore` : whatever happens, it stays so;
* `summaries_complete_unless_lost` : a summary accounts for all that was sampled exactly if nothing
  of its job was lost;
* `sampled_job_without_summary` : a job of which all is lost has none.
-/

namespace GpuCluster

open Usage (Snapshot Summary Tables)

namespace Usage.Tables

/-- The snapshots that came between two tables. -/
def added (u u' : Tables) : List Snapshot := u'.snapshots.filter fun x => u.lastId < x.id

/-- The numbers of the snapshots that went between two tables, and whose jobs had no summaries. -/
def dropped (u u' : Tables) : List Nat :=
  (u.snapshots.filter fun x =>
    (u.summary? x.jobId).isNone && !(u'.snapshots.any (·.id == x.id))).map (·.id)

variable {u u' : Tables} {batch : List Snapshot} {x : Snapshot}

theorem mem_dropped {i : Nat} : i ∈ u.dropped u' ↔ ∃ x ∈ u.snapshots, x.id = i ∧
    u.summary? x.jobId = none ∧ ∀ y ∈ u'.snapshots, y.id ≠ i := by
  simp only [dropped, List.mem_map, List.mem_filter, Bool.and_eq_true, Option.isNone_iff_eq_none,
    Bool.not_eq_true', List.any_eq_false, beq_iff_eq]
  constructor
  · rintro ⟨x, ⟨hx, hnone, hgone⟩, rfl⟩
    exact ⟨x, hx, rfl, hnone, hgone⟩
  · rintro ⟨x, hx, rfl, hnone, hgone⟩
    exact ⟨x, ⟨hx, hnone, hgone⟩, rfl⟩

theorem dropped_eq_nil (h : ∀ x ∈ u.snapshots, x ∈ u'.snapshots) : u.dropped u' = [] := by
  rw [List.eq_nil_iff_forall_not_mem]
  intro i hi
  obtain ⟨x, hx, rfl, -, hgone⟩ := mem_dropped.1 hi
  exact hgone x (h x hx) rfl

theorem added_eq_nil (hbound : ∀ x ∈ u.snapshots, x.id ≤ u.lastId)
    (h : ∀ x ∈ u'.snapshots, x ∈ u.snapshots) : u.added u' = [] := by
  refine List.filter_eq_nil_iff.2 fun x hx => ?_
  rw [decide_eq_true_eq, Nat.not_lt]
  exact hbound x (h x hx)

theorem added_insert (hbound : ∀ x ∈ u.snapshots, x.id ≤ u.lastId) :
    u.added (u.insert batch) = numbered u.lastId batch := by
  have hold : u.snapshots.filter (fun x => decide (u.lastId < x.id)) = [] :=
    List.filter_eq_nil_iff.2 fun x hx => by
      rw [decide_eq_true_eq, Nat.not_lt]
      exact hbound x hx
  have hnew : (numbered u.lastId batch).filter (fun x => decide (u.lastId < x.id)) =
      numbered u.lastId batch :=
    List.filter_eq_self.2 fun x hx => decide_eq_true (lt_of_mem_numbered hx).1
  rw [added, insert, List.filter_append, hold, hnew, List.nil_append]

end Usage.Tables

namespace Retention

open Usage (summarize)
open Usage.Tables (Listing Filled numbered lt_of_mem_numbered exists_of_mem_numbered mem_dropped)

variable {a a' : Job.Archive} {u u' : Tables} {sampled batch rows : List Snapshot} {lost : List Nat}
  {id : JobId} {x : Snapshot} {summary : Summary}

/-! ## Snapshots that are left -/

/-- The snapshots that are not lost. -/
def left (sampled : List Snapshot) (lost : List Nat) : List Snapshot :=
  sampled.filter fun x => x.id ∉ lost

theorem mem_left : x ∈ left sampled lost ↔ x ∈ sampled ∧ x.id ∉ lost := by
  rw [left, List.mem_filter, decide_eq_true_eq]

theorem left_append (xs ys : List Snapshot) (lost : List Nat) :
    left (xs ++ ys) lost = left xs lost ++ left ys lost :=
  List.filter_append ..

/-- The job has ended. -/
def Ended (a : Job.Archive) (id : JobId) : Prop :=
  ∃ j ∈ a.withStatus JobStatus.terminal, j.id = id

/-- The snapshot is one of a running job, of a date that is kept. -/
def IsSample (a : Job.Archive) (x : Snapshot) : Prop :=
  ∃ j ∈ a.withStatus [.running], Telemetry.Regular j.id x

theorem IsSample.not_ended (h : IsSample a x) (ha : a.Indexed) : ¬Ended a x.jobId := by
  obtain ⟨j, hj, hjob, -⟩ := h
  rintro ⟨k, hk, hid⟩
  obtain ⟨hj, hrunning⟩ := List.mem_filter.1 hj
  obtain ⟨hk, hended⟩ := List.mem_filter.1 hk
  obtain rfl := ha.eq_of_id hj hk (hjob.symm.trans hid.symm)
  have hstatus : j.status = .running := by simpa using hrunning
  rw [hstatus] at hended
  cases hended

/-! ## The invariant -/

/-- Tables in which every summary is that of all snapshots of its job but the lost ones, `sampled`
being the snapshots that were ever stored and `lost` the numbers of those that are lost. -/
structure Faithful (a : Job.Archive) (u : Tables) (sampled : List Snapshot) (lost : List Nat) :
    Prop where
  indexed : a.Indexed
  dates : ∀ x ∈ sampled, x.timestamp.isKept = true
  distinct : (sampled.map (·.id)).Nodup
  bounded : ∀ x ∈ sampled, x.id ≤ u.lastId
  stored : u.snapshots.Sublist sampled
  lost_le : ∀ i ∈ lost, i ≤ u.lastId
  lost_gone : ∀ x ∈ u.snapshots, x.id ∉ lost
  /-- A snapshot whose job has no summary is there or it is lost. -/
  settled : ∀ x ∈ sampled, u.summary? x.jobId = none → x ∈ u.snapshots ∨ x.id ∈ lost
  summarized : ∀ id summary, u.summary? id = some summary → Ended a id ∧ ∃ rows now,
    Listing (left sampled lost) id rows ∧ summarize id rows now = .ok (some summary)

namespace Faithful

theorem empty (ha : a.Indexed) (hsnapshots : u.snapshots = []) (hsummaries : u.summaries = []) :
    Faithful a u [] [] where
  indexed := ha
  dates _ h := absurd h List.not_mem_nil
  distinct := List.nodup_nil
  bounded _ h := absurd h List.not_mem_nil
  stored := hsnapshots ▸ .slnil
  lost_le _ h := absurd h List.not_mem_nil
  lost_gone _ _ := List.not_mem_nil
  settled _ h := absurd h List.not_mem_nil
  summarized id summary h := by
    rw [Tables.summary?, hsummaries] at h
    cases h

variable (h : Faithful a u sampled lost)
include h

theorem stored_le : ∀ x ∈ u.snapshots, x.id ≤ u.lastId := fun x hx =>
  h.bounded x (h.stored.subset hx)

theorem eq_of_id {y : Snapshot} (hx : x ∈ sampled) (hy : y ∈ sampled) (hid : x.id = y.id) : x = y :=
  List.inj_on_of_nodup_map h.distinct hx hy hid

/-- Jobs come and go; those that have ended stay so. -/
theorem jobs (ha : a'.Indexed) (hended : ∀ id, Ended a id → Ended a' id) :
    Faithful a' u sampled lost :=
  { h with
    indexed := ha
    summarized := fun id summary hs =>
      let ⟨he, hrows⟩ := h.summarized id summary hs
      ⟨hended id he, hrows⟩ }

/-- A batch of samples of running jobs is stored. -/
theorem insert (hbatch : ∀ x ∈ batch, IsSample a x) :
    Faithful a (u.insert batch) (sampled ++ numbered u.lastId batch) lost := by
  have hnew : ∀ x ∈ numbered u.lastId batch, IsSample a x := by
    intro x hx
    obtain ⟨y, hy, hxy⟩ := exists_of_mem_numbered hx
    rw [hxy]
    exact hbatch y hy
  have hlost : ∀ x ∈ numbered u.lastId batch, x.id ∉ lost := fun x hx hmem =>
    absurd (h.lost_le x.id hmem) (Nat.not_le.2 (lt_of_mem_numbered hx).1)
  refine ⟨h.indexed, List.forall_mem_append.2 ⟨h.dates, fun x hx => ?_⟩, ?_,
    List.forall_mem_append.2 ⟨fun x hx => ?_, fun x hx => (lt_of_mem_numbered hx).2⟩,
    h.stored.append (.refl _), fun i hi => ?_, List.forall_mem_append.2 ⟨h.lost_gone, hlost⟩,
    List.forall_mem_append.2 ⟨fun x hx hnone => ?_, fun x hx _ => ?_⟩, fun id summary hs => ?_⟩
  · obtain ⟨j, -, -, hkept⟩ := hnew x hx
    exact hkept
  · rw [List.map_append, List.nodup_append]
    refine ⟨h.distinct, ?_, ?_⟩
    · rw [Tables.map_id_numbered]
      exact List.nodup_range'
    · rintro i hi k hk rfl
      obtain ⟨x, hx, rfl⟩ := List.mem_map.1 hi
      obtain ⟨y, hy, hxy⟩ := List.mem_map.1 hk
      have hle := h.bounded x hx
      have hlt := (lt_of_mem_numbered hy).1
      omega
  · exact (h.bounded x hx).trans (Nat.le_add_right ..)
  · exact (h.lost_le i hi).trans (Nat.le_add_right ..)
  · exact (h.settled x hx hnone).imp (List.mem_append_left _) fun hl => hl
  · exact .inl (List.mem_append_right _ hx)
  · obtain ⟨hended, rows, now, hlisting, hsummary⟩ := h.summarized id summary hs
    refine ⟨hended, rows, now, hlisting.congr ?_, hsummary⟩
    -- The job of a summary has ended, so none of the new snapshots is its own.
    have hnone : (left (numbered u.lastId batch) lost).filter (·.jobId == id) = [] := by
      refine List.filter_eq_nil_iff.2 fun x hx hid => ?_
      rw [beq_iff_eq] at hid
      exact (hnew x (mem_left.1 hx).1).not_ended h.indexed (hid ▸ hended)
    rw [left_append, List.filter_append, hnone, List.append_nil]

/-- A pass gives summaries. -/
theorem fill (hfilled : Filled ((a.withStatus JobStatus.terminal).map (·.id)) u u') :
    Faithful a u' sampled lost := by
  refine ⟨h.indexed, h.dates, h.distinct, ?_, ?_, ?_, ?_, fun x hx hnone => ?_,
    fun id summary hs => ?_⟩
  · rw [hfilled.lastId]
    exact h.bounded
  · rw [hfilled.snapshots]
    exact h.stored
  · rw [hfilled.lastId]
    exact h.lost_le
  · rw [hfilled.snapshots]
    exact h.lost_gone
  · rw [hfilled.snapshots]
    refine h.settled x hx ?_
    cases hfound : u.summary? x.jobId with
    | none => rfl
    | some summary =>
      rw [hfilled.keeps hfound] at hnone
      cases hnone
  · obtain heq | ⟨hmem, hnone, now, summary', hsummary, hfound⟩ := hfilled.summary id
    · exact h.summarized id summary (heq ▸ hs)
    · obtain rfl : summary = summary' := Option.some.inj (hs.symm.trans hfound)
      obtain ⟨j, hj, hid⟩ := List.mem_map.1 hmem
      refine ⟨⟨j, hj, hid⟩, u.ofJob id, now, (Tables.listing_ofJob u id).congr ?_, hsummary⟩
      -- Without a summary, what is left of the job is what is stored of it.
      have hall : sampled.Nodup := .of_map _ h.distinct
      refine (List.perm_ext_iff_of_nodup ((hall.sublist h.stored).filter _)
        ((hall.filter _).filter _)).2 fun x => ?_
      rw [List.mem_filter, List.mem_filter, ← left, mem_left, beq_iff_eq]
      constructor
      · rintro ⟨hx, hxid⟩
        exact ⟨⟨h.stored.subset hx, h.lost_gone x hx⟩, hxid⟩
      · rintro ⟨⟨hx, hlost⟩, hxid⟩
        exact ⟨(h.settled x hx (hxid ▸ hnone)).resolve_right hlost, hxid⟩

/-- Old snapshots are dropped. -/
theorem dropBefore (cutoff : Instant) :
    Faithful a (u.dropBefore cutoff) sampled (lost ++ u.dropped (u.dropBefore cutoff)) := by
  refine ⟨h.indexed, h.dates, h.distinct, h.bounded, List.filter_sublist.trans h.stored,
    List.forall_mem_append.2 ⟨h.lost_le, fun i hi => ?_⟩, fun x hx hmem => ?_, fun x hx hnone => ?_,
    fun id summary hs => ?_⟩
  · obtain ⟨x, hx, rfl, -⟩ := mem_dropped.1 hi
    exact h.stored_le x hx
  · obtain hmem | hmem := List.mem_append.1 hmem
    · exact h.lost_gone x (List.mem_of_mem_filter hx) hmem
    · obtain ⟨-, -, -, -, hgone⟩ := mem_dropped.1 hmem
      exact hgone x hx rfl
  · obtain hstored | hlost := h.settled x hx hnone
    · by_cases hstays : x ∈ (u.dropBefore cutoff).snapshots
      · exact .inl hstays
      · refine .inr (List.mem_append_right _ (mem_dropped.2 ⟨x, hstored, rfl, hnone, ?_⟩))
        intro y hy hid
        obtain rfl := h.eq_of_id (h.stored.subset (List.mem_of_mem_filter hy)) hx hid
        exact hstays hy
    · exact .inr (List.mem_append_left _ hlost)
  · obtain ⟨hended, rows, now, hlisting, hsummary⟩ := h.summarized id summary hs
    refine ⟨hended, rows, now, hlisting.congr (.of_eq ?_), hsummary⟩
    -- What is lost now is of jobs without summaries, and so not of this one.
    rw [left, left, List.filter_filter, List.filter_filter]
    refine List.filter_congr fun x hx => ?_
    by_cases hid : x.jobId = id
    · have hnot : x.id ∉ u.dropped (u.dropBefore cutoff) := by
        intro hmem
        obtain ⟨y, hy, hyx, hnone, -⟩ := mem_dropped.1 hmem
        obtain rfl := h.eq_of_id (h.stored.subset hy) hx hyx
        rw [hid, show u.summary? id = some summary from hs] at hnone
        cases hnone
      simp [hnot]
    · have hne : (x.jobId == id) = false := beq_eq_false_iff_ne.2 hid
      simp [hne]

/-- A summary is that of all snapshots of its job exactly if none of them is lost. -/
theorem complete_iff (hs : u.summary? id = some summary) :
    (∃ rows now, Listing sampled id rows ∧ summarize id rows now = .ok (some summary)) ↔
      ∀ x ∈ sampled, x.jobId = id → x.id ∉ lost := by
  obtain ⟨-, kept, now, hkept, hsummary⟩ := h.summarized id summary hs
  have hfilter : (left sampled lost).filter (·.jobId == id) =
      (sampled.filter (·.jobId == id)).filter (·.id ∉ lost) := by
    rw [left, List.filter_filter, List.filter_filter]
    simp only [Bool.and_comm]
  constructor
  · rintro ⟨rows, now', hrows, hsummary'⟩ x hx hid
    -- Both count as many snapshots as the summary says.
    have hcount : kept.length = rows.length := by
      rw [← (Usage.of_summarize hsummary).2.2, (Usage.of_summarize hsummary').2.2]
    rw [hkept.perm.length_eq, hrows.perm.length_eq, hfilter,
      List.length_filter_eq_length_iff] at hcount
    simpa using hcount x (List.mem_filter.2 ⟨hx, beq_iff_eq.2 hid⟩)
  · intro hall
    have hself : (sampled.filter (·.jobId == id)).filter (·.id ∉ lost) =
        sampled.filter (·.jobId == id) := by
      refine List.filter_eq_self.2 fun x hx => ?_
      obtain ⟨hx, hid⟩ := List.mem_filter.1 hx
      exact decide_eq_true (hall x hx (beq_iff_eq.1 hid))
    exact ⟨kept, now, hkept.congr (.of_eq (hfilter.trans hself)), hsummary⟩

/-- A job to which nothing is owed has a summary exactly if something of it is left. -/
theorem isSome_iff (hclear : u.owes id = false) :
    (u.summary? id).isSome = true ↔ ∃ x ∈ sampled, x.jobId = id ∧ x.id ∉ lost := by
  constructor
  · intro hsome
    obtain ⟨summary, hs⟩ := Option.isSome_iff_exists.1 hsome
    obtain ⟨-, rows, now, hrows, hsummary⟩ := h.summarized id summary hs
    obtain ⟨x, hx⟩ := List.exists_mem_of_ne_nil rows (Usage.of_summarize hsummary).1
    obtain ⟨hx, hid⟩ := hrows.mem_iff.1 hx
    exact ⟨x, (mem_left.1 hx).1, hid, (mem_left.1 hx).2⟩
  · rintro ⟨x, hx, rfl, hlost⟩
    by_contra hnone
    rw [Bool.not_eq_true, Option.isSome_eq_false_iff, Option.isNone_iff_eq_none] at hnone
    have hstored := (h.settled x hx hnone).resolve_right hlost
    have howes : u.owes x.jobId = true := Tables.owes_iff.2
      ⟨hnone, List.ne_nil_of_mem (Tables.mem_ofJob.2 ⟨hstored, rfl⟩)⟩
    rw [hclear] at howes
    cases howes

end Faithful

/-! ## Chronicles -/

open Telemetry (InMemory Move Parts Step)

variable {σ : Type} {t : Telemetry σ} {p : Parts σ} {s s' : σ} {m : Move}

/-- A state, with the snapshots that were ever stored and the numbers of those that are lost: they
went before their jobs had summaries. -/
structure Chronicle (σ : Type) where
  state : σ
  sampled : List Snapshot := []
  lost : List Nat := []

/-- Go on to a state and note what came and what was lost. -/
def Chronicle.goOn (p : Parts σ) (c : Chronicle σ) (s' : σ) : Chronicle σ where
  state := s'
  sampled := c.sampled ++ (p.usage.get c.state).added (p.usage.get s')
  lost := c.lost ++ (p.usage.get c.state).dropped (p.usage.get s')

/-- Only running jobs are sampled, and jobs that have ended stay so. -/
def Orderly (p : Parts σ) (s : σ) (m : Move) (s' : σ) : Prop :=
  match m with
  | .insert batch => ∀ x ∈ batch, IsSample (p.jobs.get s) x
  | .jobs => (p.jobs.get s').Indexed ∧ ∀ id, Ended (p.jobs.get s) id → Ended (p.jobs.get s') id
  | .collect | .pass | .cleanUp _ | .elsewhere => True

/-- One orderly move. -/
inductive Next (t : Telemetry σ) (p : Parts σ) (c : Chronicle σ) : Move → Chronicle σ → Prop
  | move {m : Move} {s' : σ} (step : Step t p c.state m s') (orderly : Orderly p c.state m s') :
      Next t p c m (c.goOn p s')

/-- The tables of a chronicle are faithful. -/
abbrev Chronicle.Faithful (p : Parts σ) (c : Chronicle σ) : Prop :=
  Retention.Faithful (p.jobs.get c.state) (p.usage.get c.state) c.sampled c.lost

variable {c c' : Chronicle σ}

theorem faithful_insert (hc : c.Faithful p) (hjobs : p.jobs.get s' = p.jobs.get c.state)
    (husage : p.usage.get s' = (p.usage.get c.state).insert batch)
    (hbatch : ∀ x ∈ batch, IsSample (p.jobs.get c.state) x) : (c.goOn p s').Faithful p := by
  have hlost : (p.usage.get c.state).dropped (p.usage.get s') = [] :=
    Tables.dropped_eq_nil fun x hx => husage ▸ List.mem_append_left _ hx
  have hadded : (p.usage.get c.state).added (p.usage.get s') = numbered _ batch :=
    husage ▸ Tables.added_insert hc.stored_le
  unfold Chronicle.Faithful Chronicle.goOn
  rw [hlost, hadded, hjobs, husage, List.append_nil]
  exact hc.insert hbatch

/-- As long as the snapshots stay the same, none come and none are lost. -/
theorem goOn_of_snapshots (hc : c.Faithful p)
    (h : (p.usage.get s').snapshots = (p.usage.get c.state).snapshots) :
    c.goOn p s' = { c with state := s' } := by
  have hlost : (p.usage.get c.state).dropped (p.usage.get s') = [] :=
    Tables.dropped_eq_nil fun x hx => h ▸ hx
  have hadded : (p.usage.get c.state).added (p.usage.get s') = [] :=
    Tables.added_eq_nil hc.stored_le fun x hx => h ▸ hx
  rw [Chronicle.goOn, hlost, hadded, List.append_nil, List.append_nil]

/-- Jobs may change while the snapshots and the summaries stay the same. -/
theorem faithful_same (hc : c.Faithful p) (husage : p.usage.get s' = p.usage.get c.state)
    (ha : (p.jobs.get s').Indexed)
    (hended : ∀ id, Ended (p.jobs.get c.state) id → Ended (p.jobs.get s') id) :
    (c.goOn p s').Faithful p := by
  rw [goOn_of_snapshots hc (congrArg _ husage)]
  unfold Chronicle.Faithful
  rw [husage]
  exact hc.jobs ha hended

theorem Next.faithful (h : t.InMemory p) (next : Next t p c m c') (hc : c.Faithful p) :
    c'.Faithful p := by
  obtain ⟨step, orderly⟩ := next
  obtain ⟨husage, rfl | hjobs⟩ | ⟨hjobs, ⟨batch, husage, rfl | ⟨rfl, hbatch⟩⟩ | ⟨-, hfilled⟩ |
    ⟨-, cutoff, -, husage⟩⟩ := step.tables_cases h
  · exact faithful_same hc husage orderly.1 orderly.2
  · exact faithful_same hc husage (hjobs ▸ hc.indexed) fun id hid => hjobs ▸ hid
  · exact faithful_insert hc hjobs husage orderly
  · exact faithful_insert hc hjobs husage hbatch
  · rw [goOn_of_snapshots hc hfilled.snapshots]
    unfold Chronicle.Faithful
    rw [hjobs]
    exact hc.fill hfilled
  · have hadded : (p.usage.get c.state).added (p.usage.get _) = [] :=
      Tables.added_eq_nil hc.stored_le fun x hx => by
        rw [husage] at hx
        exact List.mem_of_mem_filter hx
    unfold Chronicle.Faithful Chronicle.goOn
    rw [hadded, hjobs, husage, List.append_nil]
    exact hc.dropBefore cutoff

/-- Only cleaning up drops snapshots. -/
theorem snapshots_stay (h : t.InMemory p) (step : Step t p s m s')
    (hm : ∀ retention, m ≠ .cleanUp retention) (hx : x ∈ (p.usage.get s).snapshots) :
    x ∈ (p.usage.get s').snapshots := by
  obtain ⟨husage, -⟩ | ⟨-, ⟨batch, husage, -⟩ | ⟨-, hfilled⟩ | ⟨retention, -, rfl, -⟩⟩ :=
    step.tables_cases h
  · rwa [husage]
  · rw [husage]
    exact List.mem_append_left _ hx
  · rwa [hfilled.snapshots]
  · exact absurd rfl (hm retention)

theorem Next.lost_eq (h : t.InMemory p) (next : Next t p c m c')
    (hm : ∀ retention, m ≠ .cleanUp retention) : c'.lost = c.lost := by
  obtain ⟨step, -⟩ := next
  rw [Chronicle.goOn, Tables.dropped_eq_nil fun x hx => snapshots_stay h step hm hx,
    List.append_nil]

theorem faithful_of_runs (h : t.InMemory p) {moves : List Move} (hindexed : (p.jobs.get s).Indexed)
    (hsnapshots : (p.usage.get s).snapshots = []) (hsummaries : (p.usage.get s).summaries = [])
    (hrun : Runs (Next t p) { state := s } moves c) : c.Faithful p :=
  hrun.invariant (I := fun _ c => c.Faithful p) (.empty hindexed hsnapshots hsummaries)
    fun _ _ _ _ hc next => next.faithful h hc

/-- A pass goes through unless it is called off. -/
theorem pass_ends (h : t.InMemory p) (hc : c.Faithful p) :
    (∃ n s', t.summarize c.state = .ok n s') ∨ t.BreaksOff t.summarize c.state := by
  rw [Telemetry.BreaksOff, h.summarize_eq]
  exact h.summarizeJobs_ends (fun x hx => hc.dates x (hc.stored.subset hx)) _

/-- After a pass, a job that has ended has a summary exactly if something of it is left. -/
theorem summary_after_pass (h : t.InMemory p) (hc : c.Faithful p) {n : Nat} {s' : σ}
    (hok : t.summarize c.state = .ok n s') {j : Job}
    (hj : j ∈ (p.jobs.get c.state).withStatus JobStatus.terminal) :
    ((p.usage.get s').summary? j.id).isSome = true ↔
      ∃ x ∈ c.sampled, x.jobId = j.id ∧ x.id ∉ c.lost := by
  obtain ⟨-, hfilled⟩ := h.summarize_filled c.state
  rw [Action.after_of_ok hok] at hfilled
  rw [h.summarize_eq] at hok
  exact (hc.fill hfilled).isSome_iff ((h.summarizeJobs_ok hok).1 j hj)

/-- A summary accounts for every snapshot that was ever stored of its job exactly if none of them
is lost. After a pass, a job that has ended has a summary exactly if one of them is left. They are
lost only by cleaning up. -/
theorem summaries_complete_unless_lost (h : t.InMemory p) {moves : List Move}
    (hindexed : (p.jobs.get s).Indexed) (hsnapshots : (p.usage.get s).snapshots = [])
    (hsummaries : (p.usage.get s).summaries = [])
    (hrun : Runs (Next t p) { state := s } moves c) :
    (∀ id summary, (p.usage.get c.state).summary? id = some summary →
      ((∃ rows now, Listing c.sampled id rows ∧ summarize id rows now = .ok (some summary)) ↔
        ∀ x ∈ c.sampled, x.jobId = id → x.id ∉ c.lost)) ∧
    ((∃ n s', t.summarize c.state = .ok n s') ∨ t.BreaksOff t.summarize c.state) ∧
    (∀ n s', t.summarize c.state = .ok n s' →
      ∀ j ∈ (p.jobs.get c.state).withStatus JobStatus.terminal,
        (((p.usage.get s').summary? j.id).isSome = true ↔
          ∃ x ∈ c.sampled, x.jobId = j.id ∧ x.id ∉ c.lost)) ∧
    ∀ m c', Next t p c m c' → (∀ retention, m ≠ .cleanUp retention) → c'.lost = c.lost := by
  have hfaithful := faithful_of_runs h hindexed hsnapshots hsummaries hrun
  exact ⟨fun id summary hs => hfaithful.complete_iff hs, pass_ends h hfaithful,
    fun n s' hok j hj => summary_after_pass h hfaithful hok hj,
    fun m c' next hm => next.lost_eq h hm⟩

/-! ## A job that is billed too little -/

section Example
open Daemon (telemetry telemetryParts telemetry_inMemory endedSnapshot)
open Session (refusingPlan)

/-- A running job. -/
def longJob : Job := { id := Daemon.endedJob.id, status := .running, createdAt := ⟨0, 0⟩ }

/-- Its snapshots, one of them old. -/
def longSnapshots : List Snapshot := [endedSnapshot, { endedSnapshot with timestamp := ⟨95, 0⟩ }]

theorem inMemory_refusing : (telemetry refusingPlan ⟨100, 0⟩).InMemory telemetryParts :=
  telemetry_inMemory (by decide) rfl rfl

/-- Snapshots of the running job are stored, old ones are dropped, and the job is completed. -/
theorem exists_run_of_longJob {rows : List Snapshot}
    (hrows : ∀ x ∈ rows, Telemetry.Regular longJob.id x) :
    ∃ moves d, ∃ c : Chronicle (Daemon Unit),
      Runs (Next (telemetry refusingPlan ⟨100, 0⟩) telemetryParts) { state := d } moves c ∧
      (d.jobs.Indexed ∧ d.usage = {}) ∧ c.sampled = numbered 0 rows ∧
      c.lost = (({} : Tables).insert rows).dropped ((({} : Tables).insert rows).dropBefore ⟨90, 0⟩) ∧
      longJob.advance ⟨99, 0⟩ .completed none ∈ c.state.jobs.withStatus JobStatus.terminal := by
  obtain ⟨a, ha⟩ := Job.Archive.exists_add_empty longJob
  have hlist : a.toList = [longJob] := Job.Archive.toList_add ha
  have hindexed : a.Indexed := Job.Archive.indexed_empty.add ha
  have hended : ¬∃ id, Ended a id := by
    rintro ⟨id, j, hj, -⟩
    rw [Job.Archive.withStatus, hlist] at hj
    cases hj
  let b := a.modify longJob.id (Job.advance ⟨99, 0⟩ .completed none)
  let full := ({} : Tables).insert rows
  let d : Daemon Unit := { jobs := a, executors := () }
  let c₁ : Chronicle (Daemon Unit) :=
    Chronicle.goOn telemetryParts { state := d } { d with usage := full }
  let c₂ := c₁.goOn telemetryParts { d with usage := full.dropBefore ⟨90, 0⟩ }
  let c₃ := c₂.goOn telemetryParts { d with jobs := b, usage := full.dropBefore ⟨90, 0⟩ }
  have first : Next (telemetry refusingPlan ⟨100, 0⟩) telemetryParts { state := d } (.insert rows)
      c₁ := by
    refine .move (.insert rows) fun x hx => ⟨longJob, ?_, hrows x hx⟩
    change longJob ∈ a.toList.filter _
    rw [hlist]
    decide
  have second : Next (telemetry refusingPlan ⟨100, 0⟩) telemetryParts c₁ (.cleanUp ⟨10, 0⟩) c₂ :=
    .move (.cleanUp ⟨10, 0⟩) trivial
  have third : Next (telemetry refusingPlan ⟨100, 0⟩) telemetryParts c₂ .jobs c₃ := by
    refine .move (.jobs rfl) ⟨hindexed.modify fun _ => rfl, fun id hid => ?_⟩
    exact absurd ⟨id, hid⟩ hended
  have hc₁ :=
    faithful_of_runs (s := d) inMemory_refusing hindexed rfl rfl (.single first)
  have hc₂ :=
    faithful_of_runs (s := d) inMemory_refusing hindexed rfl rfl ((Runs.single first).snoc second)
  have hthird : c₃ = { c₂ with state := c₃.state } := goOn_of_snapshots hc₂ rfl
  have hadded : full.added (full.dropBefore ⟨90, 0⟩) = [] :=
    Tables.added_eq_nil hc₁.stored_le fun x hx => List.mem_of_mem_filter hx
  have hstored : ({} : Tables).added full = numbered 0 rows := Tables.added_insert nofun
  refine ⟨_, d, c₃, ((Runs.single first).snoc second).snoc third, ⟨hindexed, rfl⟩, ?_, ?_, ?_⟩
  · rw [hthird]
    change ([] ++ ({} : Tables).added full) ++ full.added (full.dropBefore ⟨90, 0⟩) = _
    rw [hadded, hstored, List.append_nil, List.nil_append]
  · rw [hthird]
    rfl
  · change _ ∈ b.withStatus JobStatus.terminal
    rw [Job.Archive.withStatus, hindexed.toList_modify, hlist]
    exact List.mem_singleton_self _

/-- The old snapshot of a running job is dropped, and the job is summarized without it. -/
theorem summaries_complete_unless_lost_long : ∃ moves d, ∃ c : Chronicle (Daemon Unit), ∃ summary,
    Runs (Next (telemetry refusingPlan ⟨100, 0⟩) telemetryParts) { state := d } moves c ∧
    c.state.usage.summary? longJob.id = some summary ∧
    ¬∃ rows now, Listing c.sampled longJob.id rows ∧
      summarize longJob.id rows now = .ok (some summary) := by
  have hregular : ∀ x ∈ longSnapshots, Telemetry.Regular longJob.id x :=
    List.forall_mem_cons.2 ⟨⟨rfl, by decide⟩, List.forall_mem_singleton.2 ⟨rfl, by decide⟩⟩
  obtain ⟨moves, d, c, run, ⟨hindexed, hempty⟩, hsampled, hlost, hended⟩ :=
    exists_run_of_longJob hregular
  have hsnapshots : d.usage.snapshots = [] := congrArg Tables.snapshots hempty
  have hsummaries : d.usage.summaries = [] := congrArg Tables.summaries hempty
  obtain ⟨-, hends, hgained, -⟩ := summaries_complete_unless_lost (s := d) inMemory_refusing
    hindexed hsnapshots hsummaries run
  obtain ⟨n, d', hok⟩ | ⟨r, s', hoff, -⟩ := hends
  · have hsome := (hgained n d' hok _ hended).2
      ⟨{ endedSnapshot with id := 2, timestamp := ⟨95, 0⟩ },
        hsampled ▸ List.mem_cons_of_mem _ (List.mem_singleton_self _), rfl, hlost ▸ by decide⟩
    obtain ⟨summary, hsummary⟩ := Option.isSome_iff_exists.1 hsome
    have last : Next (telemetry refusingPlan ⟨100, 0⟩) telemetryParts c .pass
        (c.goOn telemetryParts d') := Action.after_of_ok hok ▸ .move .pass trivial
    obtain ⟨hcomplete, -⟩ := summaries_complete_unless_lost (s := d) inMemory_refusing
      hindexed hsnapshots hsummaries (run.snoc last)
    refine ⟨_, d, _, summary, run.snoc last, hsummary, fun hall => ?_⟩
    refine (hcomplete longJob.id summary hsummary).1 hall { endedSnapshot with id := 1 } ?_ rfl ?_
    · exact List.mem_append_left _ (hsampled ▸ List.mem_cons_self)
    · exact List.mem_append_left _ (hlost ▸ by decide)
  · cases hoff

/-- The only snapshot of a running job is dropped, and when the job has ended no pass gives it a
summary. -/
theorem sampled_job_without_summary : ∃ moves d, ∃ c : Chronicle (Daemon Unit), ∃ n d',
    Runs (Next (telemetry refusingPlan ⟨100, 0⟩) telemetryParts) { state := d } moves c ∧
    longJob.advance ⟨99, 0⟩ .completed none ∈ c.state.jobs.withStatus JobStatus.terminal ∧
    c.sampled = [{ endedSnapshot with id := 1 }] ∧
    (telemetry refusingPlan ⟨100, 0⟩).summarize c.state = .ok n d' ∧
    d'.usage.summary? longJob.id = none := by
  have hregular : ∀ x ∈ [endedSnapshot], Telemetry.Regular longJob.id x :=
    List.forall_mem_singleton.2 ⟨rfl, by decide⟩
  obtain ⟨moves, d, c, run, ⟨hindexed, hempty⟩, hsampled, hlost, hended⟩ :=
    exists_run_of_longJob hregular
  have hc := faithful_of_runs (s := d) inMemory_refusing hindexed (congrArg Tables.snapshots hempty)
    (congrArg Tables.summaries hempty) run
  obtain ⟨n, d', hok⟩ | ⟨r, s', hoff, -⟩ := pass_ends inMemory_refusing hc
  · have hsummary := summary_after_pass inMemory_refusing hc hok hended
    refine ⟨moves, d, c, n, d', run, hended, hsampled, hok, ?_⟩
    rw [← Option.not_isSome_iff_eq_none]
    intro hsome
    obtain ⟨x, hx, -, hkept⟩ := hsummary.1 hsome
    rw [hsampled] at hx
    obtain rfl := List.mem_singleton.1 hx
    exact hkept (hlost ▸ by decide)
  · cases hoff

end Example

end Retention

end GpuCluster
