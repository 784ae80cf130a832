import GpuCluster.Proofs.Job.Shared

/-!
# Victims that are still running

A list of victims is written one by one while others record what they like.

* `Job.Shared.victims` : the distinct victims that are still running at their first write;
* `Job.Shared.Settled` : no victim that is listed again is started again between its writes;
* `Job.Shared.victims_cons` : the first victim, and those of the rest;
* `Job.Shared.find?_writtenAll` : what all the writes make of a record.
-/

namespace GpuCluster

theorem eraseDups_filter {α : Type} [BEq α] [LawfulBEq α] (p : α → Bool) (l : List α) :
    (l.filter p).eraseDups = l.eraseDups.filter p := by
  induction hlen : l.length using Nat.strongRecOn generalizing l with
  | ind n ih =>
    cases l with
    | nil => rfl
    | cons a rest =>
      have hrest := ih (rest.filter fun b => !b == a).length
        (hlen ▸ Nat.lt_succ_of_le (List.length_filter_le ..)) _ rfl
      rw [List.eraseDups_cons]
      cases ha : p a with
      | true =>
        rw [List.filter_cons_of_pos ha, List.filter_cons_of_pos ha, List.eraseDups_cons, ← hrest,
          List.filter_filter, List.filter_filter]
        simp only [Bool.and_comm]
      | false =>
        have hne : ¬ p a = true := by rw [ha]; exact Bool.false_ne_true
        rw [List.filter_cons_of_neg hne, List.filter_cons_of_neg hne, ← hrest, List.filter_filter]
        refine congrArg _ (List.filter_congr fun b _ => ?_)
        cases hb : p b with
        | false => rfl
        | true =>
          have hba : b ≠ a := by
            rintro rfl
            exact hne hb
          simp [hba]

theorem mem_drop_of_le_idxOf {α : Type} [BEq α] [LawfulBEq α] {l : List α} {a : α} {n : Nat}
    (h : a ∈ l) (hn : n ≤ l.idxOf a) : a ∈ l.drop n := by
  have hlt := List.idxOf_lt_length_of_mem h
  refine List.mem_drop_iff_getElem.2 ⟨l.idxOf a - n, by omega, ?_⟩
  simp only [Nat.add_sub_cancel' hn, List.getElem_idxOf]

theorem nodup_eraseDups {α : Type} [BEq α] [LawfulBEq α] (l : List α) : l.eraseDups.Nodup := by
  induction hlen : l.length using Nat.strongRecOn generalizing l with
  | ind n ih =>
    cases l with
    | nil => exact List.nodup_nil
    | cons a rest =>
      have hrest := ih (rest.filter fun b => !b == a).length
        (hlen ▸ Nat.lt_succ_of_le (List.length_filter_le ..)) _ rfl
      rw [List.eraseDups_cons]
      refine List.nodup_cons.2 ⟨fun hmem => ?_, hrest⟩
      rw [List.mem_eraseDups, List.mem_filter] at hmem
      simp at hmem

/-! ## The distinct victims -/

namespace Job.Shared

variable {s : Shared} {id : JobId} {ids : List JobId}

/-- The job is running when its turn comes in a list of writes. -/
def runsAt (s : Shared) (ids : List JobId) (id : JobId) : Bool :=
  (s.jobs.amend (s.turns 0 (ids.idxOf id + 1))).statusOf? id == some .running

/-- The distinct victims that are still running at their first write. -/
def victims (s : Shared) (ids : List JobId) : List JobId := ids.eraseDups.filter (s.runsAt ids)

/-- No one starts a victim again that has been written already and is still to be written. -/
def Settled (s : Shared) (ids : List JobId) : Prop :=
  ∀ n cs, s.ahead[n]? = some cs → ∀ c ∈ cs, c.status = .running → c.id ∈ ids.take n →
    c.id ∉ ids.drop n

theorem Settled.take (h : s.Settled ids) (n : Nat) : s.Settled (ids.take n) := by
  intro m cs hcs c hc hrun hmem hagain
  rw [List.take_take] at hmem
  rw [List.drop_take] at hagain
  exact h m cs hcs c hc hrun
    (List.take_subset_take_left ids (Nat.min_le_left m n) hmem) (List.mem_of_mem_take hagain)

/-- What the others record before the first write is not restricted. -/
theorem settled_of_tail_eq_nil (h : s.ahead.tail = []) (ids : List JobId) : s.Settled ids := by
  intro n cs hcs c _ _ hmem
  cases n with
  | zero => cases hmem
  | succ n =>
    rw [← List.getElem?_tail, h] at hcs
    cases hcs

/-- Without repetitions what the others record is not restricted. -/
theorem settled_of_nodup (h : ids.Nodup) (s : Shared) : s.Settled ids :=
  fun _ _ _ _ _ _ hmem hagain => List.disjoint_take_drop h (Nat.le_refl _) hmem hagain

section Head
variable (now : Instant) (reason : Option String) {i : JobId}

theorem turns_written (m n : Nat) :
    (s.written now id .running .preempted reason).turns m n = s.turn.turns m n := by
  rw [turns, ahead_written]
  rfl

theorem find?_turns (hi : s.jobs.Indexed) (n : Nat) (i : JobId) :
    (s.jobs.amend (s.turns 0 (n + 1))).find? i =
      (s.turn.jobs.find? i).map (·.amend (s.turn.turns 0 n)) := by
  rw [hi.find?_amend, turn, hi.find?_amend, turns_succ, Option.map_map]
  exact congrArg (Option.map · _) (funext fun j => j.amend_append ..)

theorem runsAt_head (hi : s.jobs.Indexed) :
    s.runsAt (id :: ids) id = (s.turn.jobs.statusOf? id == some .running) := by
  have hfind := find?_turns hi 0 id
  rw [turns_self] at hfind
  rw [runsAt, List.idxOf_cons_self, Archive.statusOf?, hfind, Option.map_map]
  rfl

theorem find?_turns_written (hi : s.jobs.Indexed) (hne : i ≠ id) (n : Nat) :
    ((s.written now id .running .preempted reason).jobs.amend
      ((s.written now id .running .preempted reason).turns 0 n)).find? i =
      (s.jobs.amend (s.turns 0 (n + 1))).find? i := by
  have hindexed := indexed_written now id .running .preempted reason hi
  rw [find?_turns hi, hindexed.find?_amend, turns_written, find?_written _ _ _ _ _ hi,
    Option.map_map]
  refine Option.map_congr fun j _ => ?_
  show Job.amend (if i = id ∧ _ then _ else j) _ = _
  rw [if_neg fun h => hne h.1]

theorem runsAt_cons (hi : s.jobs.Indexed) (hne : i ≠ id) :
    s.runsAt (id :: ids) i = (s.written now id .running .preempted reason).runsAt ids i := by
  rw [runsAt, runsAt, List.idxOf_cons_ne _ hne.symm, Archive.statusOf?, Archive.statusOf?,
    find?_turns_written now reason hi hne]

theorem Settled.written (h : s.Settled (id :: ids)) :
    (s.written now id .running .preempted reason).Settled ids := by
  intro n cs hcs c hc hrun hmem
  rw [ahead_written] at hcs
  have hnot := h (n + 1) cs (by rw [← hcs]; exact List.getElem?_tail.symm) c hc hrun
  exact hnot (List.mem_cons_of_mem _ hmem)

/-- Once a victim has been written it is not running when it is to be written again. -/
theorem Settled.not_runsAt (h : s.Settled (id :: ids)) (hi : s.jobs.Indexed) (hmem : id ∈ ids) :
    (s.written now id .running .preempted reason).runsAt ids id = false := by
  have hindexed := indexed_written now id .running .preempted reason hi
  rw [runsAt, Archive.statusOf?, hindexed.find?_amend, turns_written, find?_written _ _ _ _ _ hi,
    Option.map_map, Option.map_map]
  cases hf : s.turn.jobs.find? id with
  | none => rfl
  | some j =>
    obtain ⟨-, hid⟩ := (hi.amend _).find?_eq_some_iff.1 hf
    refine beq_eq_false_iff_ne.2 fun hrun => ?_
    refine amend_not_running (j := if id = id ∧ j.status = .running then
      j.advance now .preempted reason else j) ?_ (fun c hc hcid hstart => ?_) (Option.some.inj hrun)
    · split
      next => simp
      next hnot => exact fun hs => hnot ⟨rfl, hs⟩
    · -- A change of a later turn that starts this very job is excluded.
      have hcid' : c.id = id := by
        rw [hcid, ← hid]
        split <;> rfl
      obtain ⟨cs, hcs, hc⟩ := List.mem_flatten.1 hc
      obtain ⟨n, hn, hget⟩ := List.mem_take_iff_getElem.1 (List.mem_of_mem_drop hcs)
      have hturn : s.ahead[n + 1]? = some cs := by
        rw [← List.getElem?_tail, List.getElem?_eq_some_iff]
        exact ⟨_, hget⟩
      refine h (n + 1) cs hturn c hc hstart ?_ ?_
      · rw [hcid', List.take_succ_cons]
        exact List.mem_cons_self
      · rw [hcid', List.drop_succ_cons]
        exact mem_drop_of_le_idxOf hmem (by omega)

theorem Settled.not_mem_victims (h : s.Settled (id :: ids)) (hi : s.jobs.Indexed) :
    id ∉ (s.written now id .running .preempted reason).victims ids := by
  intro hagain
  obtain ⟨hlisted, hruns⟩ := List.mem_filter.1 hagain
  rw [h.not_runsAt now reason hi (List.mem_eraseDups.1 hlisted)] at hruns
  cases hruns

/-- The first victim of a list is one if it is running now; the others are those of the rest. -/
theorem victims_cons (h : s.Settled (id :: ids)) (hi : s.jobs.Indexed) :
    s.victims (id :: ids) = (if s.turn.jobs.statusOf? id = some .running then [id] else []) ++
      (s.written now id .running .preempted reason).victims ids := by
  have hrest : ((ids.filter fun i => !i == id).eraseDups.filter (s.runsAt (id :: ids))) =
      (s.written now id .running .preempted reason).victims ids := by
    rw [eraseDups_filter, List.filter_filter]
    refine List.filter_congr fun i hlisted => ?_
    by_cases hid : i = id
    · subst hid
      rw [h.not_runsAt now reason hi (List.mem_eraseDups.1 hlisted)]
      simp
    · rw [runsAt_cons now reason hi hid]
      simp [hid]
  rw [victims, List.eraseDups_cons, List.filter_cons, hrest, runsAt_head hi]
  by_cases hs : s.turn.jobs.statusOf? id = some .running
  · rw [if_pos hs, if_pos (by rw [hs]; rfl)]
    rfl
  · rw [if_neg hs, if_neg (by simpa using hs)]
    rfl

theorem mem_victims_cons (h : s.Settled (id :: ids)) (hi : s.jobs.Indexed) :
    i ∈ s.victims (id :: ids) ↔ (i = id ∧ s.turn.jobs.statusOf? id = some .running) ∨
      i ∈ (s.written now id .running .preempted reason).victims ids := by
  rw [victims_cons now reason h hi, List.mem_append]
  refine or_congr_left ?_
  split
  next hs => simp [hs]
  next hs => simp [hs]

end Head

/-! ## All writes -/

def writtenAll (s : Shared) (now : Instant) (reason : Option String) (ids : List JobId) : Shared :=
  ids.foldl (fun s id => s.written now id .running .preempted reason) s

/-- A victim is preempted as the others have left it, and then they may go on. Any other record is
what the others alone make of it. -/
theorem find?_writtenAll (now : Instant) (reason : Option String) (hi : s.jobs.Indexed)
    (h : s.Settled ids) (i : JobId) :
    (s.writtenAll now reason ids).jobs.find? i = (s.jobs.find? i).map fun j =>
      if i ∈ s.victims ids then
        ((j.amend (s.turns 0 (ids.idxOf i + 1))).advance now .preempted reason).amend
          (s.turns (ids.idxOf i + 1) ids.length)
      else j.amend (s.turns 0 ids.length) := by
  induction ids generalizing s with
  | nil =>
    show s.jobs.find? i = _
    simp only [List.length_nil, turns_self, amend_nil]
    exact Option.map_id'.symm
  | cons id rest ih =>
    have hrest := ih (indexed_written now id .running .preempted reason hi) (h.written now reason)
    have hmem := mem_victims_cons (i := i) now reason h hi
    show ((s.written now id .running .preempted reason).writtenAll now reason rest).jobs.find? i = _
    rw [hrest, find?_written _ _ _ _ _ hi, turn, hi.find?_amend, Option.map_map, Option.map_map]
    refine Option.map_congr fun j hj => ?_
    simp only [Function.comp_def, turns_written, List.length_cons, turns_succ_succ s, turns_succ s,
      amend_append]
    by_cases hid : i = id
    · subst hid
      -- The first victim is written now, and the later writes leave it alone.
      have hagain := h.not_mem_victims now reason hi
      have hstatus : s.turn.jobs.statusOf? i = some (j.amend (s.ahead.headD [])).status := by
        rw [turn, Archive.statusOf?, hi.find?_amend, hj]
        rfl
      rw [hstatus, Option.some.injEq] at hmem
      rw [if_neg hagain, List.idxOf_cons_self, turns_self, amend_nil]
      by_cases hs : (j.amend (s.ahead.headD [])).status = .running
      · rw [if_pos ⟨rfl, hs⟩, if_pos (hmem.2 (.inl ⟨rfl, hs⟩))]
      · rw [if_neg fun hboth => hs hboth.2, if_neg fun hin => ?_]
        rcases hmem.1 hin with hnow | hlater
        · exact hs hnow.2
        · exact hagain hlater
    · have hsame : i ∈ s.victims (id :: rest) ↔
          i ∈ (s.written now id .running .preempted reason).victims rest := by
        rw [hmem]
        exact or_iff_right fun hnow => hid hnow.1
      simp only [hid, false_and, if_false, hsame, List.idxOf_cons_ne _ (Ne.symm hid),
        Nat.succ_eq_add_one]

theorem nodup_victims (s : Shared) (ids : List JobId) : (s.victims ids).Nodup :=
  (nodup_eraseDups ids).sublist List.filter_sublist

end Job.Shared

end GpuCluster
