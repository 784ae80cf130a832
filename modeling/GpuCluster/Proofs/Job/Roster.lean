import GpuCluster.Proofs.Job.Archive

/-!
# The archive as a map in order of creation

* `Job.Note`, `Job.Write` : a new status for a job, and the calls that change a store of jobs;
* `Store.answers`, `Store.leave` : what some calls are answered with, and the state they leave;
* `Job.Roster`, `Store.roster` : a plain list of jobs under their identities, as a store;
* `Archive.Shows` : an archive shows a roster; `Shows.agree` : both answer a call alike, and the one
  goes on to show the other;
* `Indexed.make_cases` : all that a call does to an archive; `Archive.Confined` : a note reaches one
  job, and of that only its history;
* `Store.firstStart?` : when some calls make a job run for the first time;
* `archive_refines_roster` : all of it for the archive that any calls leave.
-/

namespace GpuCluster.Job

variable {σ : Type}

/-! ## Calls -/

/-- A new status for a job, recorded at a time. -/
structure Note where
  time : Instant
  id : JobId
  status : JobStatus
  reason : Option String

/-- Record the new status. -/
def Note.on (n : Note) : Job → Job := advance n.time n.status n.reason

theorem Note.startedAt_on (n : Note) (j : Job) :
    (n.on j).startedAt = j.startedAt.or (if n.status = .running then some n.time else none) := by
  change (if n.status = .running ∧ j.startedAt = none then some n.time else j.startedAt) = _
  cases j.startedAt with
  | none => simp
  | some start => simp

/-- A call that changes a store of jobs. -/
inductive Write where
  | create (j : Job)
  | record (n : Note)
  | recordIf (expected : JobStatus) (n : Note)

namespace Write

/-- Make the call to a store. Only a conditional write has an answer: whether it took place. -/
def make (store : Store σ) : Write → Action σ (Option Bool)
  | create j => do
    store.create j
    return none
  | record n => do
    store.record n.time n.id n.status n.reason
    return none
  | recordIf expected n => return some (← store.recordIf n.time n.id expected n.status n.reason)

/-- The new status that the call is about. -/
def note? : Write → Option Note
  | create _ => none
  | record n => some n
  | recordIf _ n => some n

/-- The identity is taken, there is no such job, or the job has moved on. -/
def IsVoid (a : Archive) : Write → Prop
  | create j => a.find? j.id ≠ none
  | record n => a.find? n.id = none
  | recordIf expected n => ∀ j, a.find? n.id = some j → j.status ≠ expected

/-- When a call has made a job run, going by its answer. -/
def start? (id : JobId) (w : Write) (answer : Except Failure (Option Bool)) : Option Instant :=
  match w.note?, answer with
  | some n, .ok moved =>
    if n.id = id ∧ n.status = .running ∧ moved ≠ some false then some n.time else none
  | _, _ => none

end Write

namespace Store

/-- The state that some calls leave. -/
def leave (store : Store σ) (s : σ) (writes : List Write) : σ :=
  writes.foldl (fun s w => (w.make store).after s) s

/-- What some calls are answered with. -/
def answers (store : Store σ) : σ → List Write → List (Except Failure (Option Bool))
  | _, [] => []
  | s, w :: rest => (w.make store).answer s :: store.answers ((w.make store).after s) rest

/-- When some calls make a job run for the first time. -/
def firstStart? (store : Store σ) (id : JobId) (s : σ) (writes : List Write) : Option Instant :=
  ((writes.zip (store.answers s writes)).filterMap fun p => p.1.start? id p.2).head?

theorem firstStart?_cons (store : Store σ) (id : JobId) (s : σ) (w : Write) (rest : List Write) :
    store.firstStart? id s (w :: rest) = (w.start? id ((w.make store).answer s)).or
      (store.firstStart? id ((w.make store).after s) rest) := by
  unfold firstStart?
  rw [answers, List.zip_cons_cons, List.filterMap_cons]
  dsimp only
  cases w.start? id ((w.make store).answer s) with
  | none => rfl
  | some now => rfl

end Store

/-! ## Rosters -/

/-- Jobs under their identities, in order of creation. -/
abbrev Roster := List (JobId × Job)

namespace Roster

/-- The job under an identity. -/
def jobOf? (r : Roster) (id : JobId) : Option Job := (r.find? (·.1 = id)).map (·.2)

/-- Record a new status under an identity. -/
def note (r : Roster) (n : Note) : Roster :=
  r.map fun e => if e.1 = n.id then (e.1, n.on e.2) else e

end Roster

/-- A store that is a roster. -/
def Store.roster : Store Roster where
  withStatus statuses := fun r => .ok ((r.map (·.2)).filter (·.status ∈ statuses)) r
  find id := fun r => match r.jobOf? id with
    | some j => .ok j r
    | none => .error (.error (.noSuchJob id)) r
  create j := fun r => match r.jobOf? j.id with
    | some _ => .error (.error (.jobExists j.id)) r
    | none => .ok () (r ++ [(j.id, j)])
  record now id status reason := fun r => match r.jobOf? id with
    | some _ => .ok () (r.note ⟨now, id, status, reason⟩)
    | none => .error (.error (.noSuchJob id)) r
  recordIf now id expected status reason := fun r => match r.jobOf? id with
    | some j =>
      if j.status = expected then .ok true (r.note ⟨now, id, status, reason⟩) else .ok false r
    | none => .error (.error (.noSuchJob id)) r

namespace Archive

variable {a b : Archive} {r : Roster} {id : JobId} {j : Job}

/-- The archive holds the jobs of a roster in its order, and its index is right. -/
structure Shows (a : Archive) (r : Roster) : Prop where
  indexed : a.Indexed
  entries : a.toList.map (fun j => (j.id, j)) = r

theorem shows_empty : empty.Shows [] := ⟨indexed_empty, rfl⟩

namespace Shows

theorem jobOf?_eq (h : a.Shows r) (id : JobId) : r.jobOf? id = a.find? id := by
  have hlist : r.jobOf? id = a.toList.find? (·.id = id) := by
    rw [Roster.jobOf?, ← h.entries, List.find?_map, Option.map_map]
    exact Option.map_id' ..
  rw [hlist]
  cases hf : a.find? id with
  | none =>
    have hne := h.indexed.find?_eq_none_iff.1 hf
    exact List.find?_eq_none.2 fun j hj => by simpa using hne j hj
  | some j =>
    obtain ⟨hj, hid⟩ := h.indexed.find?_eq_some_iff.1 hf
    cases hk : a.toList.find? (·.id = id) with
    | none => exact absurd hid (by simpa using List.find?_eq_none.1 hk j hj)
    | some k =>
      have hkid : k.id = id := by simpa using List.find?_some hk
      exact congrArg some
        (h.indexed.eq_of_id (List.mem_of_find?_eq_some hk) hj (hkid.trans hid.symm))

theorem add (h : a.Shows r) (ha : a.add j = .ok b) : b.Shows (r ++ [(j.id, j)]) := by
  refine ⟨h.indexed.add ha, ?_⟩
  rw [toList_add ha, List.map_append, h.entries]
  rfl

theorem note (h : a.Shows r) (n : Note) : (a.modify n.id n.on).Shows (r.note n) := by
  refine ⟨h.indexed.advance, ?_⟩
  rw [h.indexed.toList_modify, Roster.note, ← h.entries, List.map_map, List.map_map]
  refine List.map_congr_left fun j _ => ?_
  change ((if j.id = n.id then n.on j else j).id, _) = _
  split
  next hid => simp [hid, Note.on]
  next hid => simp [hid]

variable {α : Type} {q : Roster} {x : Action Archive α} {y : Action Roster α} {v : α} {f : Failure}

theorem agree_of_ok (hx : x a = .ok v b) (hy : y r = .ok v q) (h : b.Shows q) :
    x.answer a = y.answer r ∧ (x.after a).Shows (y.after r) := by
  rw [Action.answer_of_ok hx, Action.answer_of_ok hy, Action.after_of_ok hx, Action.after_of_ok hy]
  exact ⟨rfl, h⟩

theorem agree_of_error (hx : x a = .error f a) (hy : y r = .error f r) (h : a.Shows r) :
    x.answer a = y.answer r ∧ (x.after a).Shows (y.after r) := by
  rw [Action.answer_of_error hx, Action.answer_of_error hy, Action.after_of_error hx,
    Action.after_of_error hy]
  exact ⟨rfl, h⟩

/-- Both stores answer a call alike, and the archive goes on to show the roster. -/
theorem agree (h : a.Shows r) (w : Write) :
    (w.make Store.archive).answer a = (w.make Store.roster).answer r ∧
      ((w.make Store.archive).after a).Shows ((w.make Store.roster).after r) := by
  cases w with
  | create j =>
    obtain ⟨hnew, b, hok, hadd⟩ | ⟨⟨k, hk, hid⟩, hrefused⟩ := h.indexed.create_cases j
    · have hfree : r.jobOf? j.id = none := by
        rw [h.jobOf?_eq]
        exact h.indexed.find?_eq_none_iff.2 hnew
      have hroster : Store.roster.create j r = .ok () (r ++ [(j.id, j)]) := by
        simp only [Store.roster, hfree]
      exact agree_of_ok (Action.bind_of_ok hok) (Action.bind_of_ok hroster) (h.add hadd)
    · have htaken : r.jobOf? j.id = some k := by
        rw [h.jobOf?_eq]
        exact h.indexed.find?_eq_some_iff.2 ⟨hk, hid⟩
      have hroster : Store.roster.create j r = .error (.error (.jobExists j.id)) r := by
        simp only [Store.roster, htaken]
      exact agree_of_error (Action.bind_of_error hrefused) (Action.bind_of_error hroster) h
  | record n =>
    have hjob := h.jobOf?_eq n.id
    cases hf : a.find? n.id with
    | none =>
      have hroster : Store.roster.record n.time n.id n.status n.reason r =
          .error (.error (.noSuchJob n.id)) r := by
        simp only [Store.roster, hjob, hf]
      exact agree_of_error (Action.bind_of_error (record_of_none hf))
        (Action.bind_of_error hroster) h
    | some j =>
      have hroster : Store.roster.record n.time n.id n.status n.reason r = .ok () (r.note n) := by
        simp only [Store.roster, hjob, hf]
      exact agree_of_ok (Action.bind_of_ok (record_of_find? hf)) (Action.bind_of_ok hroster)
        (h.note n)
  | recordIf expected n =>
    have hjob := h.jobOf?_eq n.id
    cases hf : a.find? n.id with
    | none =>
      have hroster : Store.roster.recordIf n.time n.id expected n.status n.reason r =
          .error (.error (.noSuchJob n.id)) r := by
        simp only [Store.roster, hjob, hf]
      exact agree_of_error (Action.bind_of_error (recordIf_of_none hf))
        (Action.bind_of_error hroster) h
    | some j =>
      by_cases hs : j.status = expected
      · have hroster : Store.roster.recordIf n.time n.id expected n.status n.reason r =
            .ok true (r.note n) := by
          simp only [Store.roster, hjob, hf, hs, if_true]
        exact agree_of_ok (Action.bind_of_ok (recordIf_of_eq hf hs)) (Action.bind_of_ok hroster)
          (h.note n)
      · have hroster : Store.roster.recordIf n.time n.id expected n.status n.reason r =
            .ok false r := by
          simp only [Store.roster, hjob, hf, hs, if_false]
        exact agree_of_ok (Action.bind_of_ok (recordIf_of_ne hf hs)) (Action.bind_of_ok hroster) h

/-- So it is with any calls, made one after the other. -/
theorem run (h : a.Shows r) (writes : List Write) :
    Store.archive.answers a writes = Store.roster.answers r writes ∧
      (Store.archive.leave a writes).Shows (Store.roster.leave r writes) := by
  induction writes generalizing a r with
  | nil => exact ⟨rfl, h⟩
  | cons w rest ih =>
    obtain ⟨hanswer, hnext⟩ := h.agree w
    obtain ⟨hanswers, hleave⟩ := ih hnext
    exact ⟨congrArg₂ _ hanswer hanswers, hleave⟩

/-- Both answer questions alike. -/
theorem find_eq (h : a.Shows r) (id : JobId) :
    (Store.archive.find id).answer a = (Store.roster.find id).answer r := by
  have hjob := h.jobOf?_eq id
  cases hf : a.find? id with
  | none => simp only [Action.answer, Store.archive, Store.roster, hjob, hf]
  | some j => simp only [Action.answer, Store.archive, Store.roster, hjob, hf]

theorem withStatus_eq (h : a.Shows r) (statuses : List JobStatus) :
    (Store.archive.withStatus statuses).answer a = (Store.roster.withStatus statuses).answer r := by
  have hjobs : r.map (·.2) = a.toList := by
    rw [← h.entries, List.map_map]
    exact List.map_id' _
  change Except.ok (a.toList.filter _) = Except.ok ((r.map (·.2)).filter _)
  rw [hjobs]
  refine congrArg _ (List.filter_congr fun j _ => ?_)
  exact List.contains_eq_mem ..

end Shows

/-! ## What a call does -/

namespace Indexed

variable (h : a.Indexed)
include h

theorem inBounds {slot : Nat} (hs : a.slots[id]? = some slot) : slot < a.records.size := by
  obtain ⟨j, hj, -⟩ := (h id slot).1 hs
  exact (Array.getElem?_eq_some_iff.1 hj).1

theorem make (w : Write) : ((w.make Store.archive).after a).Indexed :=
  (Shows.agree ⟨h, rfl⟩ w).2.indexed

/-- A call adds a job, notes a new status of a job, or is void and changes nothing. -/
theorem make_cases (w : Write) :
    (∃ j b, w = .create j ∧ ¬w.IsVoid a ∧ a.add j = .ok b ∧ w.make Store.archive a = .ok none b) ∨
    (∃ n j moved, w.note? = some n ∧ ¬w.IsVoid a ∧ a.find? n.id = some j ∧ moved ≠ some false ∧
      w.make Store.archive a = .ok moved (a.modify n.id n.on)) ∨
    w.IsVoid a ∧ (w.make Store.archive).after a = a ∧
      ∀ id, w.start? id ((w.make Store.archive).answer a) = none := by
  cases w with
  | create j =>
    obtain ⟨hnew, b, hok, hadd⟩ | ⟨⟨k, hk, hid⟩, hrefused⟩ := h.create_cases j
    · refine .inl ⟨j, b, rfl, ?_, hadd, Action.bind_of_ok hok⟩
      exact fun hvoid => hvoid (h.find?_eq_none_iff.2 hnew)
    · refine .inr (.inr ⟨?_, Action.after_of_error (Action.bind_of_error hrefused), fun _ => rfl⟩)
      rw [Write.IsVoid, h.find?_eq_some_iff.2 ⟨hk, hid⟩]
      exact Option.some_ne_none k
  | record n =>
    cases hf : a.find? n.id with
    | none =>
      have hrefused : (Write.record n).make Store.archive a = .error _ a :=
        Action.bind_of_error (record_of_none hf)
      refine .inr (.inr ⟨hf, Action.after_of_error hrefused, fun id => ?_⟩)
      rw [Action.answer_of_error hrefused]
      rfl
    | some j =>
      refine .inr (.inl ⟨n, j, none, rfl, ?_, hf, nofun, Action.bind_of_ok (record_of_find? hf)⟩)
      rw [Write.IsVoid, hf]
      exact Option.some_ne_none j
  | recordIf expected n =>
    cases hf : a.find? n.id with
    | none =>
      have hrefused : (Write.recordIf expected n).make Store.archive a = .error _ a :=
        Action.bind_of_error (recordIf_of_none hf)
      refine .inr (.inr ⟨?_, Action.after_of_error hrefused, fun id => ?_⟩)
      · intro j hj
        rw [hf] at hj
        cases hj
      · rw [Action.answer_of_error hrefused]
        rfl
    | some j =>
      by_cases hs : j.status = expected
      · refine .inr (.inl ⟨n, j, some true, rfl, fun hvoid => hvoid j hf hs, hf, nofun, ?_⟩)
        exact Action.bind_of_ok (recordIf_of_eq hf hs)
      · have hmoved : (Write.recordIf expected n).make Store.archive a = .ok (some false) a :=
          Action.bind_of_ok (recordIf_of_ne hf hs)
        refine .inr (.inr ⟨?_, Action.after_of_ok hmoved, fun id => ?_⟩)
        · intro k hk
          rw [hf] at hk
          exact Option.some.inj hk ▸ hs
        · rw [Action.answer_of_ok hmoved]
          exact if_neg fun hstart => hstart.2.2 rfl

theorem after_of_isVoid {w : Write} (hw : w.IsVoid a) : (w.make Store.archive).after a = a := by
  obtain ⟨j, b, -, hnot, -⟩ | ⟨n, j, moved, -, hnot, -⟩ | ⟨-, hsame, -⟩ := h.make_cases w
  · exact absurd hw hnot
  · exact absurd hw hnot
  · exact hsame

end Indexed

/-- A note reaches one job, and of that only its status, its reason and its times. -/
structure Confined (id : JobId) (a b : Archive) : Prop where
  ids : b.toList.map (·.id) = a.toList.map (·.id)
  others : ∀ other, other ≠ id → b.find? other = a.find? other
  history : ∀ j, a.find? id = some j → ∃ k, b.find? id = some k ∧
    k = { j with
      status := k.status
      errorMessage := k.errorMessage
      startedAt := k.startedAt
      completedAt := k.completedAt }

theorem Indexed.confined (h : a.Indexed) {w : Write} {n : Note} (hw : w.note? = some n) :
    a.Confined n.id ((w.make Store.archive).after a) := by
  obtain ⟨j, b, rfl, -⟩ | ⟨m, j, moved, hm, -, -, -, hok⟩ | ⟨-, hsame, -⟩ := h.make_cases w
  · cases hw
  · obtain rfl := Option.some.inj (hw.symm.trans hm)
    have hfind := h.find?_advance n.time n.id n.status n.reason
    rw [Action.after_of_ok hok]
    refine ⟨h.ids_modify fun _ => id_advance .., fun other hother => ?_, fun j hj => ?_⟩
    · refine (hfind other).trans ?_
      simp only [if_neg hother, Option.map_id']
    · refine ⟨n.on j, (hfind n.id).trans ?_, rfl⟩
      rw [hj, Option.map_some, if_pos rfl, Note.on]
  · rw [hsame]
    exact ⟨rfl, fun _ _ => rfl, fun j hj => ⟨j, hj, rfl⟩⟩

/-! ## Starts -/

namespace Indexed

variable (h : a.Indexed)
include h

/-- A call keeps the start of a job, and sets it if it makes the job run and there is none. -/
theorem startedAt_make (hf : a.find? id = some j) (w : Write) :
    ∃ k, ((w.make Store.archive).after a).find? id = some k ∧
      k.startedAt = j.startedAt.or (w.start? id ((w.make Store.archive).answer a)) := by
  obtain ⟨hj, hid⟩ := h.find?_eq_some_iff.1 hf
  obtain ⟨i, b, rfl, -, hadd, hok⟩ | ⟨n, i, moved, hn, -, -, hmoved, hok⟩ | ⟨-, hsame, hstart⟩ :=
    h.make_cases w
  · rw [Action.after_of_ok hok]
    refine ⟨j, (h.add hadd).find?_eq_some_iff.2 ⟨?_, hid⟩, (Option.or_none ..).symm⟩
    rw [toList_add hadd]
    exact List.mem_append_left _ hj
  · have hfind : (a.modify n.id n.on).find? id = _ :=
      h.find?_advance n.time n.id n.status n.reason id
    rw [Action.after_of_ok hok, Action.answer_of_ok hok, hfind, hf, Option.map_some]
    refine ⟨_, rfl, ?_⟩
    unfold Write.start?
    simp only [hn, hmoved, ne_eq, not_false_eq_true, and_true]
    by_cases hsubject : id = n.id
    · rw [if_pos hsubject]
      simp only [hsubject, true_and]
      exact n.startedAt_on j
    · rw [if_neg hsubject, if_neg fun hboth => hsubject hboth.1.symm, Option.or_none]
  · rw [hsame, hstart, Option.or_none]
    exact ⟨j, hf, rfl⟩

/-- So a start, once set, never changes, and the first call that makes a job run sets it. -/
theorem startedAt_leave (hf : a.find? id = some j) (writes : List Write) :
    ∃ k, (Store.archive.leave a writes).find? id = some k ∧
      k.startedAt = j.startedAt.or (Store.archive.firstStart? id a writes) := by
  induction writes generalizing a j with
  | nil => exact ⟨j, hf, (Option.or_none ..).symm⟩
  | cons w rest ih =>
    obtain ⟨k, hk, hstart⟩ := h.startedAt_make hf w
    obtain ⟨l, hl, hstart'⟩ := ih (h.make w) hk
    refine ⟨l, hl, ?_⟩
    rw [hstart', hstart, Store.firstStart?_cons, Option.or_assoc]

end Indexed

end Archive

/-! ## The archive that any calls leave -/

/-- The archive that some calls leave. -/
def Archive.of (writes : List Write) : Archive := Store.archive.leave .empty writes

/-- The roster that some calls leave. -/
def Roster.of (writes : List Write) : Roster := Store.roster.leave [] writes

theorem Archive.of_shows (writes : List Write) : (Archive.of writes).Shows (Roster.of writes) :=
  (shows_empty.run writes).2

/-- After any calls to an empty archive, its index and its records are inverse to each other, and it
holds what a list of jobs in order of creation would hold after them: all calls were answered as the
list answers them, and so is every question. A further call for a new status reaches one job, and of
that only its history. A further call that is void changes nothing. A start that is set stays as it
is, and the first call that makes a job run sets it. -/
theorem archive_refines_roster (writes : List Write) :
    Store.archive.answers .empty writes = Store.roster.answers [] writes ∧
    (∀ (id : JobId) (slot : Nat), (Archive.of writes).slots[id]? = some slot ↔
      ∃ j : Job, (Archive.of writes).records[slot]? = some j ∧ j.id = id) ∧
    (∀ (id : JobId) (slot : Nat), (Archive.of writes).slots[id]? = some slot →
      slot < (Archive.of writes).records.size) ∧
    ((Archive.of writes).toList.map (·.id)).Nodup ∧
    (Archive.of writes).toList.map (fun j => (j.id, j)) = Roster.of writes ∧
    (∀ id, (Store.archive.find id).answer (Archive.of writes) =
      (Store.roster.find id).answer (Roster.of writes)) ∧
    (∀ statuses, (Store.archive.withStatus statuses).answer (Archive.of writes) =
      (Store.roster.withStatus statuses).answer (Roster.of writes)) ∧
    (∀ (w : Write) (n : Note), w.note? = some n →
      (Archive.of writes).Confined n.id ((w.make Store.archive).after (Archive.of writes))) ∧
    (∀ w : Write, w.IsVoid (Archive.of writes) →
      (w.make Store.archive).after (Archive.of writes) = Archive.of writes) ∧
    ∀ id j more, (Archive.of writes).find? id = some j →
      ∃ k, (Archive.of (writes ++ more)).find? id = some k ∧
        k.startedAt = j.startedAt.or (Store.archive.firstStart? id (Archive.of writes) more) := by
  have hshows := Archive.of_shows writes
  have hindexed := hshows.indexed
  refine ⟨(Archive.shows_empty.run writes).1, hindexed, fun _ _ => hindexed.inBounds,
    hindexed.nodup, hshows.entries, hshows.find_eq, hshows.withStatus_eq,
    fun w n hw => hindexed.confined hw, fun w hw => hindexed.after_of_isVoid hw,
    fun id j more hj => ?_⟩
  rw [Archive.of, Store.leave, List.foldl_append]
  exact hindexed.startedAt_leave hj more

/-- A job that is created twice, and is told to run twice. -/
def twiceJob : Job := { id := ⟨3#128⟩, createdAt := ⟨0, 0⟩ }

/-- The calls about it. In between, a conditional write comes too late. -/
def twiceWrites : List Write :=
  [.create twiceJob, .create twiceJob, .record ⟨⟨5, 0⟩, twiceJob.id, .running, none⟩,
    .recordIf .pending ⟨⟨6, 0⟩, twiceJob.id, .failed, some "late"⟩,
    .record ⟨⟨7, 0⟩, twiceJob.id, .running, none⟩]

/-- The second creation is refused and the late write does not take place; the job has the time of
its first start. Creating it once more would change nothing. -/
theorem archive_refines_roster_twice :
    Store.archive.answers .empty twiceWrites = [.ok none, .error (.error (.jobExists twiceJob.id)),
      .ok none, .ok (some false), .ok none] ∧
    (Store.archive.find twiceJob.id).answer (Archive.of twiceWrites) =
      .ok { twiceJob with status := .running, startedAt := some ⟨5, 0⟩ } ∧
    ((Write.create twiceJob).make Store.archive).after (Archive.of twiceWrites) =
      Archive.of twiceWrites := by
  obtain ⟨hanswers, -, -, -, -, hfind, -, -, hvoid, -⟩ := archive_refines_roster twiceWrites
  have hfound : (Store.archive.find twiceJob.id).answer (Archive.of twiceWrites) =
      .ok { twiceJob with status := .running, startedAt := some ⟨5, 0⟩ } := by
    rw [hfind]
    rfl
  refine ⟨hanswers.trans rfl, hfound, hvoid _ fun hnone => ?_⟩
  rw [Action.answer_of_error (Archive.find_of_none hnone)] at hfound
  cases hfound

end GpuCluster.Job
