import GpuCluster.Telemetry.Run

/-!
# What telemetry is to do, and when

The timers of a schedule tick at the multiples of two intervals. Where both tick at once, either may
come first.

* `Schedule.Reaches` : the clock reaches the first ticks of both timers; `Schedule.check_eq` : they
  can be set just then;
* `Schedule.Due` : which stage is due at which time before the end;
* `Schedule.Agenda` : all that is due, in an order that telemetry may take it in;
* `Schedule.Allows` : the ticks of both timers in order of time; `Schedule.allows_timetable` : those
  of the timetable are so, and `Schedule.Allows.before` : so are the ones before an earlier end;
* `slots` : the stages of some turns; `Schedule.Allows.agenda` : those of all ticks are an agenda.
-/

namespace GpuCluster

namespace Timetable

variable {α : Type} {period horizon : Nat} {due : α}

theorem ticks_ascend (h : 0 < period) (horizon : Nat) :
    (ticks period horizon).Pairwise (· < ·) := by
  refine List.pairwise_map.2 (List.pairwise_lt_range.imp fun hij => ?_)
  exact Nat.mul_lt_mul_of_pos_right (Nat.succ_lt_succ hij) h

theorem mem_every {time : Nat} {x : α} (h : 0 < period) :
    (time, x) ∈ every period horizon due ↔
      x = due ∧ 0 < time ∧ period ∣ time ∧ time < horizon := by
  rw [← mem_ticks h, every, List.mem_map]
  constructor
  · rintro ⟨t, ht, heq⟩
    cases heq
    exact ⟨rfl, ht⟩
  · rintro ⟨rfl, ht⟩
    exact ⟨time, ht, rfl⟩

theorem every_ascend (h : 0 < period) (horizon : Nat) (due : α) :
    (every period horizon due).Pairwise fun x y => x.1 < y.1 :=
  List.pairwise_map.2 (ticks_ascend h horizon)

theorem merge_ordered {a b : List (Nat × α)} (ha : a.Pairwise fun x y => x.1 ≤ y.1)
    (hb : b.Pairwise fun x y => x.1 ≤ y.1) : (merge a b).Pairwise fun x y => x.1 ≤ y.1 := by
  have hmerge : (merge a b).Pairwise fun x y => decide (x.1 ≤ y.1) = true := by
    refine List.pairwise_merge (fun x y z hxy hyz => ?_) (fun x y => ?_) a b
      (ha.imp decide_eq_true) (hb.imp decide_eq_true)
    · simp only [decide_eq_true_eq] at hxy hyz ⊢
      exact Nat.le_trans hxy hyz
    · simp only [Bool.or_eq_true, decide_eq_true_eq]
      exact Nat.le_total x.1 y.1
  exact hmerge.imp of_decide_eq_true

end Timetable

namespace Telemetry

/-! ## Turns -/

/-- The stages of a turn, in order. -/
def Turn.stages : Turn → List Stage
  | .sample => [.collect, .summarize]
  | .cleanUp => [.cleanUp]

/-- The turn that a stage is gone through in. -/
def Stage.turn : Stage → Turn
  | .collect => .sample
  | .summarize => .sample
  | .cleanUp => .cleanUp

variable {s : Schedule} {cancel time : Nat} {turns : List (Nat × Turn)} {stage : Stage}

theorem Turn.mem_stages {turn : Turn} : stage ∈ turn.stages ↔ turn = stage.turn := by
  cases turn <;> cases stage <;> decide

theorem Turn.nodup_stages (turn : Turn) : turn.stages.Nodup := by
  cases turn <;> decide

/-- The stages of some turns, each with its time. -/
def slots (turns : List (Nat × Turn)) : List (Nat × Stage) :=
  turns.flatMap fun x => x.2.stages.map (x.1, ·)

theorem mem_slots : (time, stage) ∈ slots turns ↔ (time, stage.turn) ∈ turns := by
  rw [slots, List.mem_flatMap]
  constructor
  · rintro ⟨⟨a, turn⟩, hmem, hslot⟩
    obtain ⟨stage', hstage, heq⟩ := List.mem_map.1 hslot
    cases heq
    rwa [← Turn.mem_stages.1 hstage]
  · intro hmem
    exact ⟨_, hmem, List.mem_map_of_mem (Turn.mem_stages.2 rfl)⟩

theorem slots_ordered (h : turns.Pairwise fun x y => x.1 ≤ y.1) :
    (slots turns).Pairwise fun x y => x.1 ≤ y.1 := by
  refine List.pairwise_flatMap.2 ⟨fun x _ => ?_, h.imp fun hxy => ?_⟩
  · exact List.pairwise_map.2 (List.pairwise_of_forall fun _ _ => Nat.le_refl _)
  · intro p hp q hq
    obtain ⟨_, -, rfl⟩ := List.mem_map.1 hp
    obtain ⟨_, -, rfl⟩ := List.mem_map.1 hq
    exact hxy

theorem nodup_slots (h : turns.Nodup) : (slots turns).Nodup := by
  refine List.pairwise_flatMap.2 ⟨fun x _ => ?_, h.imp fun hxy => ?_⟩
  · exact List.pairwise_map.2 (x.2.nodup_stages.imp fun hne heq => hne (congrArg Prod.snd heq))
  · rintro p hp q hq rfl
    obtain ⟨stage, hstage, rfl⟩ := List.mem_map.1 hp
    obtain ⟨stage', hstage', heq⟩ := List.mem_map.1 hq
    obtain ⟨htime, rfl⟩ := Prod.mk.inj heq
    exact hxy (Prod.ext htime.symm ((Turn.mem_stages.1 hstage).trans
      (Turn.mem_stages.1 hstage').symm))

/-! ## Agendas -/

namespace Schedule

/-- The interval between two turns. -/
def period (s : Schedule) : Turn → Nat
  | .sample => s.collectInterval.toNanos
  | .cleanUp => s.cleanUpInterval.toNanos

/-- The clock, which shows `uptime` now, reaches the first ticks of both timers. -/
def Reaches (s : Schedule) (uptime : Nat) : Prop :=
  ∀ turn, uptime + s.period turn < Timetable.clockLimit

theorem reaches_iff {uptime : Nat} : s.Reaches uptime ↔
    uptime + s.collectInterval.toNanos < Timetable.clockLimit ∧
      uptime + s.cleanUpInterval.toNanos < Timetable.clockLimit := by
  refine ⟨fun h => ⟨h .sample, h .cleanUp⟩, fun h turn => ?_⟩
  cases turn with
  | sample => exact h.1
  | cleanUp => exact h.2

/-- Timers with a period can be set if and only if the clock reaches their first ticks. -/
theorem check_eq (hcollect : s.collectInterval.toNanos ≠ 0)
    (hclean : s.cleanUpInterval.toNanos ≠ 0) (uptime : Nat) :
    (s.Reaches uptime → s.check uptime = .ok ()) ∧
      (¬s.Reaches uptime → s.check uptime = .error .tickOutOfRange) := by
  rw [reaches_iff]
  simp only [check, Timetable.checkPeriod, if_neg hcollect, if_neg hclean, ← Nat.not_lt, ite_not]
  by_cases hfirst : uptime + s.collectInterval.toNanos < Timetable.clockLimit
  · by_cases hsecond : uptime + s.cleanUpInterval.toNanos < Timetable.clockLimit
    · rw [if_pos hfirst, if_pos hsecond]
      exact ⟨fun _ => rfl, fun h => absurd ⟨hfirst, hsecond⟩ h⟩
    · rw [if_pos hfirst, if_neg hsecond]
      exact ⟨fun h => absurd h.2 hsecond, fun _ => rfl⟩
  · rw [if_neg hfirst]
    exact ⟨fun h => absurd h.1 hfirst, fun _ => rfl⟩

/-- A stage is due at a time. Samples are taken and jobs summarized at once, called off or not, and
at every multiple of one interval, and old snapshots go at every multiple of the other. -/
def Due (s : Schedule) (cancel time : Nat) : Stage → Prop
  | .collect | .summarize => time = 0 ∨ s.collectInterval.toNanos ∣ time ∧ time < cancel
  | .cleanUp => 0 < time ∧ s.cleanUpInterval.toNanos ∣ time ∧ time < cancel

/-- All stages that are due before telemetry is called off, each once and in order of time, and with
every collection its summaries right after it. -/
structure Agenda (s : Schedule) (cancel : Nat) (slots : List (Nat × Stage)) : Prop where
  mem_iff : ∀ time stage, (time, stage) ∈ slots ↔ s.Due cancel time stage
  ordered : slots.Pairwise fun x y => x.1 ≤ y.1
  nodup : slots.Nodup
  paired : ∀ time, (time, .collect) ∈ slots → [(time, .collect), (time, .summarize)] <:+: slots

/-- All ticks of both timers before telemetry is called off, each once and in order of time. -/
structure Allows (s : Schedule) (cancel : Nat) (turns : List (Nat × Turn)) : Prop where
  mem_iff : ∀ time turn, (time, turn) ∈ turns ↔ 0 < time ∧ s.period turn ∣ time ∧ time < cancel
  ordered : turns.Pairwise fun x y => x.1 ≤ y.1
  nodup : turns.Nodup

theorem allows_timetable (hcollect : s.collectInterval.toNanos ≠ 0)
    (hclean : s.cleanUpInterval.toNanos ≠ 0) (cancel : Nat) :
    s.Allows cancel (s.timetable cancel) := by
  have hsample := Timetable.every_ascend (Nat.pos_of_ne_zero hcollect) cancel Turn.sample
  have hdrop := Timetable.every_ascend (Nat.pos_of_ne_zero hclean) cancel Turn.cleanUp
  have hmem : ∀ (time : Nat) (turn : Turn), (time, turn) ∈
      Timetable.every s.collectInterval.toNanos cancel Turn.sample ++
        Timetable.every s.cleanUpInterval.toNanos cancel Turn.cleanUp ↔
      0 < time ∧ s.period turn ∣ time ∧ time < cancel := by
    intro time turn
    rw [List.mem_append, Timetable.mem_every (Nat.pos_of_ne_zero hcollect),
      Timetable.mem_every (Nat.pos_of_ne_zero hclean)]
    cases turn with
    | sample => simp [period]
    | cleanUp => simp [period]
  have hperm : (s.timetable cancel).Perm
      (Timetable.every s.collectInterval.toNanos cancel Turn.sample ++
        Timetable.every s.cleanUpInterval.toNanos cancel Turn.cleanUp) := List.merge_perm_append _
  refine ⟨fun time turn => hperm.mem_iff.trans (hmem time turn), ?_, ?_⟩
  · exact Timetable.merge_ordered (hsample.imp Nat.le_of_lt) (hdrop.imp Nat.le_of_lt)
  · refine hperm.nodup_iff.2 (List.nodup_append.2 ⟨?_, ?_, ?_⟩)
    · exact hsample.imp fun hlt heq => Nat.ne_of_lt hlt (congrArg Prod.fst heq)
    · exact hdrop.imp fun hlt heq => Nat.ne_of_lt hlt (congrArg Prod.fst heq)
    · rintro ⟨a, turn⟩ ha ⟨b, turn'⟩ hb heq
      have hsampled := ((Timetable.mem_every (Nat.pos_of_ne_zero hcollect)).1 ha).1
      have hdropped := ((Timetable.mem_every (Nat.pos_of_ne_zero hclean)).1 hb).1
      cases heq
      exact absurd (hsampled.symm.trans hdropped) (by decide)

/-- The ticks before an earlier end. -/
theorem Allows.before {horizon : Nat} (h : s.Allows horizon turns) (hcancel : cancel ≤ horizon) :
    s.Allows cancel (turns.filter (·.1 < cancel)) where
  mem_iff time turn := by
    rw [List.mem_filter, h.mem_iff, decide_eq_true_iff]
    constructor
    · rintro ⟨⟨hpos, hdvd, -⟩, hlt⟩
      exact ⟨hpos, hdvd, hlt⟩
    · rintro ⟨hpos, hdvd, hlt⟩
      exact ⟨⟨hpos, hdvd, Nat.lt_of_lt_of_le hlt hcancel⟩, hlt⟩
  ordered := h.ordered.filter _
  nodup := h.nodup.filter _

/-- The stages of the first turn and of all ticks after it are an agenda. -/
theorem Allows.agenda (h : s.Allows cancel turns) :
    s.Agenda cancel (slots ((0, .sample) :: turns)) where
  mem_iff time stage := by
    have hsample : (time, Turn.sample) = (0, Turn.sample) ∨
        0 < time ∧ s.period .sample ∣ time ∧ time < cancel ↔ s.Due cancel time .collect := by
      rw [Prod.mk.injEq, Nat.pos_iff_ne_zero, Due]
      by_cases hzero : time = 0
      · simp [hzero]
      · simp [hzero, period]
    rw [mem_slots, List.mem_cons, h.mem_iff]
    cases stage with
    | cleanUp => simp [Stage.turn, period, Due]
    | collect => exact hsample
    | summarize => exact hsample
  ordered := slots_ordered (List.pairwise_cons.2 ⟨fun _ _ => Nat.zero_le _, h.ordered⟩)
  nodup := nodup_slots (List.nodup_cons.2
    ⟨fun hmem => absurd ((h.mem_iff 0 .sample).1 hmem).1 (Nat.lt_irrefl 0), h.nodup⟩)
  paired time hmem := by
    obtain ⟨before, after, hsplit⟩ := List.append_of_mem (mem_slots.1 hmem)
    refine ⟨slots before, slots after, ?_⟩
    rw [hsplit, slots, slots, slots, List.flatMap_append, List.flatMap_cons, List.append_assoc]
    rfl

end Schedule

end Telemetry

end GpuCluster
