import GpuCluster.Job.Queue

/-!
# The queue as a collection of waiting jobs

* `Job.Queue.waiting` : the waiting jobs;
* `Job.Queue.Numbered` : no two waiting jobs have one arrival number;
* `waiting_push`, `waiting_pop?` : a push adds one waiting job, a pop takes out one.
-/

namespace GpuCluster.Job.Queue

variable {q r : Queue} {j : Job}

/-- The waiting jobs. -/
def waiting (q : Queue) : List Job := q.entries.map (·.job)

@[simp] theorem waiting_push (q : Queue) (j : Job) : (q.push j).waiting = j :: q.waiting := rfl

/-- No two waiting jobs have one arrival number, and the next number is not taken. -/
structure Numbered (q : Queue) : Prop where
  nodup : (q.entries.map (·.arrival)).Nodup
  lt : ∀ e ∈ q.entries, e.arrival < q.arrivals

theorem numbered_empty : Numbered empty := ⟨List.nodup_nil, fun _ h => by simp [empty] at h⟩

theorem Numbered.push (h : q.Numbered) (j : Job) : (q.push j).Numbered := by
  constructor
  · refine List.nodup_cons.2 ⟨?_, h.nodup⟩
    intro hm
    obtain ⟨e, he, harr⟩ := List.mem_map.1 hm
    exact absurd harr (Nat.ne_of_lt (h.lt e he))
  · intro e he
    rcases List.mem_cons.1 he with rfl | he
    · exact Nat.lt_succ_self _
    · exact Nat.lt_succ_of_lt (h.lt e he)

theorem mem_foldl_sooner (e : Entry) (rest : List Entry) :
    rest.foldl Entry.sooner e ∈ e :: rest := by
  induction rest generalizing e with
  | nil => exact List.mem_singleton_self e
  | cons f rest ih =>
    have hm := ih (e.sooner f)
    rw [List.foldl_cons]
    rcases List.mem_cons.1 hm with heq | hm
    · rw [heq]
      unfold Entry.sooner
      split
      · exact List.mem_cons_of_mem _ List.mem_cons_self
      · exact List.mem_cons_self
    · exact List.mem_cons_of_mem _ (List.mem_cons_of_mem _ hm)

theorem next?_mem {e : Entry} (h : q.next? = some e) : e ∈ q.entries := by
  unfold next? at h
  split at h
  next => cases h
  next f rest hq =>
    cases h
    rw [hq]
    exact mem_foldl_sooner f rest

/-- With distinct arrival numbers, striking out one number strikes out one entry. -/
theorem perm_cons_filter {entries : List Entry} (h : (entries.map (·.arrival)).Nodup) {e : Entry}
    (he : e ∈ entries) :
    entries.Perm (e :: entries.filter fun other => other.arrival != e.arrival) := by
  induction entries with
  | nil => cases he
  | cons f rest ih =>
    obtain ⟨hf, hrest⟩ := List.nodup_cons.1 h
    rcases List.mem_cons.1 he with rfl | hm
    · rw [List.filter_cons_of_neg (by simp), List.filter_eq_self.2]
      intro g hg
      have : g.arrival ≠ e.arrival := fun heq => hf (List.mem_map.2 ⟨g, hg, heq⟩)
      simpa using this
    · have hne : f.arrival ≠ e.arrival := fun heq => hf (List.mem_map.2 ⟨e, hm, heq.symm⟩)
      rw [List.filter_cons_of_pos (by simpa using hne)]
      exact ((ih hrest hm).cons f).trans (List.Perm.swap ..)

/-- A pop takes out one waiting job. -/
theorem waiting_pop? (h : q.Numbered) (hp : q.pop? = some (j, r)) :
    q.waiting.Perm (j :: r.waiting) ∧ r.Numbered := by
  unfold pop? at hp
  obtain ⟨e, he, hr⟩ := Option.map_eq_some_iff.1 hp
  cases hr
  refine ⟨(perm_cons_filter h.nodup (next?_mem he)).map Entry.job, ?_, ?_⟩
  · exact h.nodup.sublist (List.filter_sublist.map Entry.arrival)
  · exact fun f hf => h.lt f (List.mem_filter.1 hf).1

end GpuCluster.Job.Queue
