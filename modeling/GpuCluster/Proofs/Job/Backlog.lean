import GpuCluster.Proofs.Job.Departure
import GpuCluster.Proofs.Job.Queue

/-!
# Waiting jobs are stored

* `Job.Queue.Backed` : every waiting job is stored as it waits, is pending and waits only once;
* `Backed.add`, `Backed.departs`, `Backed.modify` : changes of the stored jobs that keep this;
* `Backed.push`, `Backed.pop` : changes of the queue that keep this.
-/

namespace GpuCluster.Job.Queue

open Job (Archive Departure)

/-- Every waiting job is stored as it waits, is pending and waits only once. -/
structure Backed (q : Queue) (a : Archive) : Prop where
  indexed : a.Indexed
  numbered : q.Numbered
  nodup : (q.waiting.map (·.id)).Nodup
  stored : ∀ j ∈ q.waiting, j ∈ a.toList
  pending : ∀ j ∈ q.waiting, j.status = .pending

variable {q r : Queue} {a b : Archive} {j : Job} {now : Instant}

theorem backed_empty : empty.Backed .empty where
  indexed := Archive.indexed_empty
  numbered := numbered_empty
  nodup := List.nodup_nil
  stored _ h := absurd h List.not_mem_nil
  pending _ h := absurd h List.not_mem_nil

theorem Backed.add (h : q.Backed a) (ha : a.add j = .ok b) : q.Backed b := by
  refine ⟨h.indexed.add ha, h.numbered, h.nodup, fun k hk => ?_, h.pending⟩
  rw [Archive.toList_add ha]
  exact List.mem_append_left _ (h.stored k hk)

theorem Backed.departs {xs : List Departure} (h : q.Backed a) (hd : Archive.Departs now a xs b) :
    q.Backed b := by
  refine ⟨hd.indexed h.indexed, h.numbered, h.nodup, fun k hk => ?_, h.pending⟩
  refine hd.mem_of_not_running h.indexed (h.stored k hk) ?_
  rw [h.pending k hk]
  exact fun hs => by cases hs

/-- The record of a job that does not wait may change. -/
theorem Backed.modify {id : JobId} {change : Job → Job} (h : q.Backed a)
    (hc : ∀ k, (change k).id = k.id) (hid : id ∉ q.waiting.map (·.id)) :
    q.Backed (a.modify id change) := by
  refine ⟨h.indexed.modify hc, h.numbered, h.nodup, fun k hk => ?_, h.pending⟩
  refine h.indexed.mem_modify.2 ⟨k, h.stored k hk, if_neg ?_⟩
  exact fun heq => hid (List.mem_map.2 ⟨k, hk, heq⟩)

theorem Backed.push (h : q.Backed a) (hj : j ∈ a.toList) (hs : j.status = .pending)
    (hid : j.id ∉ q.waiting.map (·.id)) : (q.push j).Backed a := by
  refine ⟨h.indexed, h.numbered.push j, ?_, fun k hk => ?_, fun k hk => ?_⟩
  · rw [waiting_push]
    exact List.nodup_cons.2 ⟨hid, h.nodup⟩
  · rcases List.mem_cons.1 hk with rfl | hk
    · exact hj
    · exact h.stored k hk
  · rcases List.mem_cons.1 hk with rfl | hk
    · exact hs
    · exact h.pending k hk

/-- The job that is taken out is stored and pending, and does not wait any more. -/
theorem Backed.pop (h : q.Backed a) (hp : q.pop? = some (j, r)) :
    r.Backed a ∧ j ∈ a.toList ∧ j.status = .pending ∧ j.id ∉ r.waiting.map (·.id) := by
  obtain ⟨hperm, hnum⟩ := waiting_pop? h.numbered hp
  obtain ⟨hid, hnodup⟩ := List.nodup_cons.1 ((hperm.map (·.id)).nodup_iff.1 h.nodup)
  have hsub : ∀ k ∈ j :: r.waiting, k ∈ q.waiting := fun k hk => hperm.mem_iff.2 hk
  refine ⟨⟨h.indexed, hnum, hnodup, ?_, ?_⟩, ?_, ?_, hid⟩
  · exact fun k hk => h.stored k (hsub k (List.mem_cons_of_mem _ hk))
  · exact fun k hk => h.pending k (hsub k (List.mem_cons_of_mem _ hk))
  · exact h.stored j (hsub j List.mem_cons_self)
  · exact h.pending j (hsub j List.mem_cons_self)

/-- A job that has just been stored does not wait yet. -/
theorem Backed.not_waiting_of_add (h : q.Backed a) (ha : a.add j = .ok b) :
    j.id ∉ q.waiting.map (·.id) := by
  intro hm
  obtain ⟨k, hk, hid⟩ := List.mem_map.1 hm
  exact h.indexed.ne_of_add ha k (h.stored k hk) hid

end GpuCluster.Job.Queue
