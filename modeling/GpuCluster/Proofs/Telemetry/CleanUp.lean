import GpuCluster.Proofs.Telemetry.Isolation
import GpuCluster.Settings

/-!
# Cleaning up in the range of dates

Ages of up to 292 million years can be subtracted from dates, but dates go back 264 thousand years.

* `Overreaches` : an age that leads from an instant to before the first date;
* `Cleaned` : the snapshots before a cutoff have gone, and nothing else has changed;
* `cleanUp_of_lt`, `InMemory.cleanUp_ends` : the three ends of cleaning up, `InMemory.turn_ends` :
  what they make of a turn;
* `goes_on_unless_overreaches` : a loop over turns goes on after cleaning up, but for such an age.
-/

namespace GpuCluster

/-- The retention is too long for an age. -/
def Error.retentionTooLong : Error :=
  .configuration "invalid retention: Source duration value is out of range for the target type"

namespace Duration

variable {n : Nat}

theorem asAge_of_le (h : n ≤ longestAge) : (ofSeconds n).asAge = .ok (ofSeconds n) := by
  obtain hlt | heq := Nat.lt_or_eq_of_le h
  · exact if_pos (.inl hlt)
  · exact if_pos (.inr ⟨heq, Nat.zero_le _⟩)

theorem asAge_of_lt (h : longestAge < n) : (ofSeconds n).asAge = .error .retentionTooLong := by
  refine if_neg ?_
  rintro (hlt | ⟨heq, -⟩)
  · exact Nat.lt_asymm h hlt
  · exact Nat.ne_of_gt h heq

end Duration

namespace Instant

/-- So many seconds before an instant. -/
def secondsBefore (now : Instant) (n : Nat) : Instant := ⟨now.seconds - n, now.nanos⟩

theorem minus_ofSeconds (now : Instant) (n : Nat) : now.minus (.ofSeconds n) =
    if first.seconds ≤ now.seconds - n then .ok (now.secondsBefore n)
    else .error .dateOutOfRange := by
  have hback : first ≤ now.secondsBefore n ↔ first.seconds ≤ now.seconds - n := by
    have hnanos : first.nanos = 0 := rfl
    have hseconds : (now.secondsBefore n).seconds = now.seconds - n := rfl
    rw [le_def, hnanos, hseconds]
    omega
  have hminus : now.minus (.ofSeconds n) =
      if first ≤ now.secondsBefore n then .ok (now.secondsBefore n)
      else .error .dateOutOfRange := rfl
  rw [hminus]
  exact if_congr hback rfl rfl

end Instant

/-- The snapshots that stay are those that are not before the cutoff. -/
theorem Usage.Tables.snapshots_dropBefore (u : Usage.Tables) (cutoff : Instant) :
    (u.dropBefore cutoff).snapshots =
      u.snapshots.filter fun x => !decide (x.timestamp < cutoff) := by
  refine List.filter_congr fun x _ => ?_
  rw [← decide_not, decide_eq_decide, ← Instant.not_le, not_not]

namespace Telemetry

variable {σ : Type} {t : Telemetry σ} {p : Parts σ} {s s' s₁ : σ} {n removed : Nat}
  {now cutoff : Instant}

/-- The age can be subtracted from dates, but from this instant it leads to before the first one
that is kept. -/
def Overreaches (n : Nat) (now : Instant) : Prop :=
  n ≤ Duration.longestAge ∧ now.seconds - n < Instant.first.seconds

instance (n : Nat) (now : Instant) : Decidable (Overreaches n now) := instDecidableAnd

/-! ## The ends of cleaning up -/

/-- The snapshots before the cutoff have gone, so many. All others stand as they stood, and nothing
else has changed. -/
structure Cleaned (p : Parts σ) (s s' : σ) (cutoff : Instant) (removed : Nat) : Prop where
  jobs : p.jobs.get s' = p.jobs.get s
  snapshots : (p.usage.get s').snapshots =
    (p.usage.get s).snapshots.filter fun x => !decide (x.timestamp < cutoff)
  removed : removed = ((p.usage.get s).snapshots.filter fun x => x.timestamp < cutoff).length
  summaries : (p.usage.get s').summaries = (p.usage.get s).summaries
  lastId : (p.usage.get s').lastId = (p.usage.get s).lastId

theorem cleanUp_of_lt (h : Duration.longestAge < n) (s : σ) :
    t.cleanUp (.ofSeconds n) s = .error (.error .retentionTooLong) s := by
  unfold cleanUp
  rw [Duration.asAge_of_lt h]
  rfl

theorem cleanUp_of_le (h : n ≤ Duration.longestAge) (hclock : t.clock s = .ok now s₁) :
    t.cleanUp (.ofSeconds n) s =
      (if Overreaches n now then Action.abort .dateOutOfRange
        else t.usage.dropBefore (now.secondsBefore n)) s₁ := by
  unfold cleanUp
  rw [Duration.asAge_of_le h, Action.ofExcept, Action.bind_of_ok (Action.pure_apply _ s),
    Action.bind_of_ok hclock, Instant.minus_ofSeconds]
  by_cases hback : Instant.first.seconds ≤ now.seconds - n
  · rw [if_pos hback, if_neg fun hover => (Int.not_lt.2 hback) hover.2]
    rfl
  · rw [if_neg hback, if_pos ⟨h, Int.not_le.1 hback⟩]
    rfl

namespace InMemory

variable (h : t.InMemory p)
include h

theorem dropBefore_cleaned (hsame : p.Same s s₁) : ∃ removed s',
    t.usage.dropBefore cutoff s₁ = .ok removed s' ∧ Cleaned p s s' cutoff removed := by
  have hsnapshots := (p.usage.get s).snapshots_dropBefore cutoff
  refine ⟨_, _, h.dropBefore_apply s₁ cutoff, (h.apart _ s₁).trans hsame.jobs, ?_, ?_, ?_, ?_⟩
  · rw [h.usageLawful.get_set, hsame.usage, hsnapshots]
  · have hlength := List.length_eq_length_filter_add (l := (p.usage.get s).snapshots)
      fun x => decide (x.timestamp < cutoff)
    rw [hsame.usage, hsnapshots]
    omega
  · rw [h.usageLawful.get_set, hsame.usage]
    rfl
  · rw [h.usageLawful.get_set, hsame.usage]
    rfl

/-- Cleaning up refuses a retention that is too long for an age and breaks off with one that
overreaches, and with any other one it cleans up. -/
theorem cleanUp_ends (n : Nat) (s : σ) : ∃ now s₁, t.clock s = .ok now s₁ ∧ p.Same s s₁ ∧
    (Duration.longestAge < n ∧ t.cleanUp (.ofSeconds n) s = .error (.error .retentionTooLong) s ∨
      Overreaches n now ∧ t.cleanUp (.ofSeconds n) s = .error (.fault .dateOutOfRange) s₁ ∨
      n ≤ Duration.longestAge ∧ ¬Overreaches n now ∧ ∃ removed s',
        t.cleanUp (.ofSeconds n) s = .ok removed s' ∧
        Cleaned p s s' (now.secondsBefore n) removed) := by
  obtain ⟨now, s₁, hclock, -, hsame⟩ := h.clock s
  refine ⟨now, s₁, hclock, hsame, ?_⟩
  by_cases hlong : Duration.longestAge < n
  · exact .inl ⟨hlong, cleanUp_of_lt hlong s⟩
  have hage := Nat.not_lt.1 hlong
  rw [cleanUp_of_le hage hclock]
  by_cases hover : Overreaches n now
  · rw [if_pos hover]
    exact .inr (.inl ⟨hover, rfl⟩)
  · rw [if_neg hover]
    exact .inr (.inr ⟨hage, hover, h.dropBefore_cleaned hsame⟩)

end InMemory

/-! ## Turns and loops -/

/-- The event tells what cleaning up has made of a state. -/
def Told (p : Parts σ) (s s' : σ) (cutoff : Instant) : Event → Prop
  | .cleanedUp removed => Cleaned p s s' cutoff removed
  | .failed .cleanUp message => message = Error.retentionTooLong.message ∧ s' = s
  | _ => False

/-- Take turns until called off, as a run of telemetry does after its first turn. -/
def loop (t : Telemetry σ) (c : Settings.Telemetering) (elapsed : Lens σ Nat)
    (report : Event → Action σ Unit) (turns : List (Nat × Turn)) : Action σ Unit :=
  Timetable.run elapsed t.calledOff (t.takeTurn c.schedule report) turns

variable {c : Settings.Telemetering} {elapsed : Lens σ Nat} {report : Event → Action σ Unit}
  {time : Nat} {turn : Turn} {rest turns : List (Nat × Turn)} {f : Failure}

theorem loop_of_calledOff (hoff : t.calledOff (elapsed.set time s) = .ok true s₁) :
    t.loop c elapsed report ((time, turn) :: rest) s = .ok () s₁ :=
  (Action.bind_of_ok rfl).trans (Action.bind_of_ok hoff)

theorem loop_of_not_calledOff (hoff : t.calledOff (elapsed.set time s) = .ok false s₁) :
    t.loop c elapsed report ((time, turn) :: rest) s =
      (do t.takeTurn c.schedule report turn; t.loop c elapsed report rest) s₁ :=
  (Action.bind_of_ok rfl).trans (Action.bind_of_ok hoff)

/-- A turn of cleaning up reports what it has done, but for an age that overreaches. -/
theorem InMemory.turn_ends (h : t.InMemory p) (c : Settings.Telemetering)
    (report : Event → Action σ Unit) (s : σ) : ∃ now s₁, t.clock s = .ok now s₁ ∧
    (Overreaches c.retentionSeconds now ∧
        t.takeTurn c.schedule report .cleanUp s = .error (.fault .dateOutOfRange) s₁ ∨
      ¬Overreaches c.retentionSeconds now ∧ ∃ event s',
        Told p s s' (now.secondsBefore c.retentionSeconds) event ∧
        t.takeTurn c.schedule report .cleanUp s = report event s') := by
  obtain ⟨now, s₁, hclock, -, hends⟩ := h.cleanUp_ends c.retentionSeconds s
  refine ⟨now, s₁, hclock, ?_⟩
  obtain ⟨hlong, hrun⟩ | ⟨hover, hrun⟩ | ⟨-, hreach, removed, s', hrun, hcleaned⟩ := hends
  · refine .inr ⟨fun hover => Nat.not_lt.2 hover.1 hlong,
      .failed .cleanUp Error.retentionTooLong.message, s, ⟨rfl, rfl⟩, ?_⟩
    exact Action.bind_of_ok (Action.attempt_of_error hrun)
  · exact .inl ⟨hover, Action.bind_of_error (Action.attempt_of_fault hrun)⟩
  · refine .inr ⟨hreach, .cleanedUp removed, s', hcleaned, ?_⟩
    exact Action.bind_of_ok (Action.attempt_of_ok hrun)

/-- A loop that breaks off has gone through some turns and breaks off in the next one. -/
theorem InMemory.breaks_at (h : t.InMemory p)
    (herror : t.loop c elapsed report turns s = .error f s') :
    ∃ done time turn rest r r₁, turns = done ++ (time, turn) :: rest ∧
      t.loop c elapsed report done s = .ok () r ∧ t.calledOff (elapsed.set time r) = .ok false r₁ ∧
      t.takeTurn c.schedule report turn r₁ = .error f s' := by
  induction turns generalizing s with
  | nil => cases herror
  | cons first rest ih =>
    obtain ⟨time, turn⟩ := first
    obtain ⟨off, s₁, hoff, -⟩ := h.calledOff (elapsed.set time s)
    cases off with
    | true =>
      rw [loop_of_calledOff hoff] at herror
      cases herror
    | false =>
      rw [loop_of_not_calledOff hoff] at herror
      cases hturn : t.takeTurn c.schedule report turn s₁ with
      | ok _ s₂ =>
        rw [Action.bind_of_ok hturn] at herror
        obtain ⟨done, time', turn', rest', r, r₁, rfl, hdone, hnext⟩ := ih herror
        refine ⟨(time, turn) :: done, time', turn', rest', r, r₁, rfl, ?_, hnext⟩
        rw [loop_of_not_calledOff hoff, Action.bind_of_ok hturn, hdone]
      | error e s₂ =>
        rw [Action.bind_of_error hturn] at herror
        cases herror
        exact ⟨[], time, turn, rest, s, s₁, rfl, rfl, hoff, hturn⟩

/-- Cleaning up either drops exactly the snapshots before the cutoff, or refuses the retention and
changes nothing, or the retention overreaches, and only then it breaks off. A loop reports the turn
and goes on, but with a retention that overreaches it ends. A loop that breaks off in a turn of
cleaning up has such a retention, or its report breaks off. -/
theorem goes_on_unless_overreaches (h : t.InMemory p) (c : Settings.Telemetering)
    (elapsed : Lens σ Nat) (report : Event → Action σ Unit) :
    (∀ s, ∃ now s₁, t.clock s = .ok now s₁ ∧ p.Same s s₁ ∧
      (Duration.longestAge < c.retentionSeconds ∧
          t.cleanUp c.schedule.retention s = .error (.error .retentionTooLong) s ∨
        Overreaches c.retentionSeconds now ∧
          t.cleanUp c.schedule.retention s = .error (.fault .dateOutOfRange) s₁ ∨
        c.retentionSeconds ≤ Duration.longestAge ∧ ¬Overreaches c.retentionSeconds now ∧
          ∃ removed s', t.cleanUp c.schedule.retention s = .ok removed s' ∧
            Cleaned p s s' (now.secondsBefore c.retentionSeconds) removed)) ∧
    (∀ time rest s s₁, t.calledOff (elapsed.set time s) = .ok false s₁ →
      ∃ now s₂, t.clock s₁ = .ok now s₂ ∧
        (Overreaches c.retentionSeconds now ∧
            t.loop c elapsed report ((time, .cleanUp) :: rest) s =
              .error (.fault .dateOutOfRange) s₂ ∨
          ¬Overreaches c.retentionSeconds now ∧ ∃ event s',
            Told p s₁ s' (now.secondsBefore c.retentionSeconds) event ∧
            t.loop c elapsed report ((time, .cleanUp) :: rest) s =
              (do report event; t.loop c elapsed report rest) s')) ∧
    ∀ turns s f s', t.loop c elapsed report turns s = .error f s' →
      ∃ done time turn rest r r₁, turns = done ++ (time, turn) :: rest ∧
        t.loop c elapsed report done s = .ok () r ∧
        t.calledOff (elapsed.set time r) = .ok false r₁ ∧
        t.takeTurn c.schedule report turn r₁ = .error f s' ∧
        (turn = .cleanUp → ∃ now r₂, t.clock r₁ = .ok now r₂ ∧
          (Overreaches c.retentionSeconds now ∧ f = .fault .dateOutOfRange ∨
            ¬Overreaches c.retentionSeconds now ∧ ∃ event r₃,
              Told p r₁ r₃ (now.secondsBefore c.retentionSeconds) event ∧
              report event r₃ = .error f s')) := by
  refine ⟨fun s => h.cleanUp_ends c.retentionSeconds s, fun time rest s s₁ hoff => ?_,
    fun turns s f s' herror => ?_⟩
  · obtain ⟨now, s₂, hclock, hends⟩ := h.turn_ends c report s₁
    refine ⟨now, s₂, hclock, ?_⟩
    rw [loop_of_not_calledOff hoff]
    obtain ⟨hover, hturn⟩ | ⟨hreach, event, s', htold, hturn⟩ := hends
    · exact .inl ⟨hover, Action.bind_of_error hturn⟩
    · refine .inr ⟨hreach, event, s', htold, ?_⟩
      exact Action.bind_eq_of_eq hturn
  · obtain ⟨done, time, turn, rest, r, r₁, hsplit, hdone, hoff, hturn⟩ := h.breaks_at herror
    refine ⟨done, time, turn, rest, r, r₁, hsplit, hdone, hoff, hturn, ?_⟩
    rintro rfl
    obtain ⟨now, r₂, hclock, ⟨hover, hends⟩ | ⟨hreach, event, r₃, htold, hends⟩⟩ :=
      h.turn_ends c report r₁
    · rw [hturn] at hends
      cases hends
      exact ⟨now, _, hclock, .inl ⟨hover, rfl⟩⟩
    · exact ⟨now, r₂, hclock, .inr ⟨hreach, event, r₃, htold, hends.symm.trans hturn⟩⟩

/-- Nothing runs, and nothing is called off. -/
def idle : Surroundings where
  pods _ _ := .ok []
  samples _ := .ok []
  calledOff _ := false

/-- The number that a scene keeps. -/
def Scene.counter : Lens Scene Nat := ⟨Scene.calls, fun n s => { s with calls := n }⟩

/-- With the longest age as retention the first turn of cleaning up ends the loop. A retention that
is a second longer is refused. -/
theorem goes_on_unless_overreaches_longest :
    (∃ s, (idle.telemetry {} ⟨0, 0⟩).loop { retentionSeconds := 9223372036854775 } Scene.counter
      (fun _ => return) [(86400, .cleanUp), (172800, .cleanUp)] {} =
        .error (.fault .dateOutOfRange) s) ∧
    (idle.telemetry {} ⟨0, 0⟩).cleanUp (.ofSeconds 9223372036854776) {} =
      .error (.error .retentionTooLong) {} := by
  have hfaces := idle.telemetry_faces {} ⟨0, 0⟩ (by decide)
  obtain ⟨-, hturns, -⟩ := goes_on_unless_overreaches hfaces.toInMemory
    { retentionSeconds := 9223372036854775 } Scene.counter (fun _ => return)
  obtain ⟨hends, -, -⟩ := goes_on_unless_overreaches hfaces.toInMemory
    { retentionSeconds := 9223372036854776 } Scene.counter (fun _ => return)
  constructor
  · obtain ⟨now, s, hclock, ⟨-, hloop⟩ | ⟨hreach, -⟩⟩ :=
      hturns 86400 [(172800, .cleanUp)] {} _ rfl
    · exact ⟨s, hloop⟩
    · cases hclock
      exact absurd (by decide) hreach
  · obtain ⟨now, s, -, -, ⟨-, hrefused⟩ | ⟨⟨hage, -⟩, -⟩ | ⟨hage, -⟩⟩ := hends {}
    · exact hrefused
    · exact absurd hage (by decide)
    · exact absurd hage (by decide)

end Telemetry

end GpuCluster
