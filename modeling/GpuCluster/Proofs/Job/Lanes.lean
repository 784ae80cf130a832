import Mathlib.Data.List.Induction
import Mathlib.Data.List.Nodup
import GpuCluster.Proofs.Job.Queue

/-!
# The queue as three lanes

* `Job.Lanes` : three lists by priority class, each in order of arrival; `push` joins the end of a
  lane, `pop?` takes the first job of the highest lane that has one;
* `next?_least` : no entry is handed out before the next one;
* `Job.Queue.Ordered` : the entries stand from the newest to the oldest, with the weights of their
  jobs;
* `lanes_push`, `lanes_pop?`, `size_lanes` : a queue is pushed and popped as its lanes are;
* `Job.Queue.since` : the jobs that have joined a queue since some moment.
-/

namespace GpuCluster

theorem Tier.weight_inj {t u : Tier} : t.weight = u.weight ↔ t = u := by
  cases t <;> cases u <;> decide

namespace Job

/-- Waiting jobs in three lists, each from the oldest to the newest. -/
structure Lanes where
  high : List Job
  medium : List Job
  others : List Job

namespace Lanes

def empty : Lanes := ⟨[], [], []⟩

def push (l : Lanes) (j : Job) : Lanes :=
  if j.priorityClass = "high" then { l with high := l.high ++ [j] }
  else if j.priorityClass = "medium" then { l with medium := l.medium ++ [j] }
  else { l with others := l.others ++ [j] }

def pop? : Lanes → Option (Job × Lanes)
  | ⟨j :: rest, medium, others⟩ => some (j, ⟨rest, medium, others⟩)
  | ⟨[], j :: rest, others⟩ => some (j, ⟨[], rest, others⟩)
  | ⟨[], [], j :: rest⟩ => some (j, ⟨[], [], rest⟩)
  | ⟨[], [], []⟩ => none

def size (l : Lanes) : Nat := l.high.length + l.medium.length + l.others.length

end Lanes

/-! ## The next entry -/

namespace Entry

theorem precedes_iff {a b : Entry} : a.precedes b = true ↔
    b.weight < a.weight ∨ a.weight = b.weight ∧ a.arrival < b.arrival := by
  simp [precedes]

theorem not_precedes_trans {a b c : Entry} (hab : ¬ a.precedes b) (hbc : ¬ b.precedes c) :
    ¬ a.precedes c := by
  rw [precedes_iff] at *
  omega

/-- The jobs of the entries of a tier, where the entries stand from the newest to the oldest. -/
def lane (t : Tier) (entries : List Entry) : List Job :=
  ((entries.filter fun e => e.weight == t.weight).map (·.job)).reverse

end Entry

namespace Queue

variable {q r : Queue} {e : Entry} {j : Job}

theorem foldl_sooner_least (e : Entry) (rest : List Entry) :
    ∀ f ∈ e :: rest, ¬ f.precedes (rest.foldl Entry.sooner e) := by
  induction rest generalizing e with
  | nil =>
    intro f hf
    obtain rfl := List.mem_singleton.1 hf
    rw [List.foldl_nil, Entry.precedes_iff]
    omega
  | cons g rest ih =>
    rw [List.foldl_cons]
    have hleast := ih (e.sooner g)
    have hboth : ¬ e.precedes (e.sooner g) ∧ ¬ g.precedes (e.sooner g) := by
      unfold Entry.sooner
      split
      next hg =>
        rw [Entry.precedes_iff] at *
        rw [Entry.precedes_iff]
        omega
      next hg => exact ⟨by rw [Entry.precedes_iff]; omega, hg⟩
    have hfirst := hleast (e.sooner g) List.mem_cons_self
    intro f hf
    rcases List.mem_cons.1 hf with rfl | hf
    · exact Entry.not_precedes_trans hboth.1 hfirst
    rcases List.mem_cons.1 hf with rfl | hf
    · exact Entry.not_precedes_trans hboth.2 hfirst
    · exact hleast f (List.mem_cons_of_mem _ hf)

/-- No entry is handed out before the next one. -/
theorem next?_least (h : q.next? = some e) : ∀ f ∈ q.entries, ¬ f.precedes e := by
  unfold next? at h
  split at h
  next => cases h
  next f rest hq =>
    cases h
    rw [hq]
    exact foldl_sooner_least f rest

/-! ## Lanes -/

/-- The entries stand from the newest to the oldest, with the weights of their jobs. -/
structure Ordered (q : Queue) : Prop where
  newest : q.entries.Pairwise fun a b => b.arrival < a.arrival
  lt : ∀ e ∈ q.entries, e.arrival < q.arrivals
  weight : ∀ e ∈ q.entries, e.weight = e.job.tier.weight

theorem Ordered.numbered (h : q.Ordered) : q.Numbered where
  nodup := by
    rw [List.Nodup, List.pairwise_map]
    exact h.newest.imp fun hab => Nat.ne_of_gt hab
  lt := h.lt

theorem ordered_empty : Ordered empty := ⟨.nil, fun _ h => (nomatch h), fun _ h => (nomatch h)⟩

theorem Ordered.push (h : q.Ordered) (j : Job) : (q.push j).Ordered where
  newest := List.pairwise_cons.2 ⟨h.lt, h.newest⟩
  lt := by
    intro e he
    show e.arrival < q.arrivals + 1
    rcases List.mem_cons.1 he with rfl | he
    · exact Nat.lt_succ_self _
    · exact Nat.lt_succ_of_lt (h.lt e he)
  weight := by
    intro e he
    rcases List.mem_cons.1 he with rfl | he
    · rfl
    · exact h.weight e he

theorem Ordered.pop (h : q.Ordered) (hp : q.pop? = some (j, r)) : r.Ordered := by
  obtain ⟨e, -, hr⟩ := Option.map_eq_some_iff.1 hp
  cases hr
  refine ⟨h.newest.sublist List.filter_sublist, fun f hf => ?_, fun f hf => ?_⟩
  · exact h.lt f (List.mem_filter.1 hf).1
  · exact h.weight f (List.mem_filter.1 hf).1

def lanes (q : Queue) : Lanes where
  high := Entry.lane .high q.entries
  medium := Entry.lane .medium q.entries
  others := Entry.lane .low q.entries

theorem lane_cons (t : Tier) (e : Entry) (rest : List Entry) : Entry.lane t (e :: rest) =
    if e.weight = t.weight then Entry.lane t rest ++ [e.job] else Entry.lane t rest := by
  unfold Entry.lane
  by_cases h : e.weight = t.weight
  · simp [h]
  · simp [h]

theorem lanes_push (q : Queue) (j : Job) : (q.push j).lanes = q.lanes.push j := by
  have hlane : ∀ t, Entry.lane t (q.push j).entries =
      if j.tier = t then Entry.lane t q.entries ++ [j] else Entry.lane t q.entries := by
    intro t
    simp only [Queue.push, lane_cons, Tier.weight_inj]
  unfold lanes Lanes.push
  simp only [hlane]
  by_cases hh : j.priorityClass = "high"
  · simp [Job.tier, Tier.ofLabel, hh]
  by_cases hm : j.priorityClass = "medium"
  · simp [Job.tier, Tier.ofLabel, hm]
  · simp [Job.tier, Tier.ofLabel, hh, hm]

theorem size_lanes (h : q.Ordered) : q.lanes.size = q.size := by
  have hw := h.weight
  unfold lanes Lanes.size size
  generalize q.entries = entries at hw
  induction entries with
  | nil => rfl
  | cons e rest ih =>
    have hrest := ih fun f hf => hw f (List.mem_cons_of_mem _ hf)
    simp only [lane_cons, hw e List.mem_cons_self, Tier.weight_inj, List.length_cons] at hrest ⊢
    cases e.job.tier <;> simp <;> omega

/-- An entry without an older one beside it stands last. -/
theorem filter_append_last {entries : List Entry}
    (hnew : entries.Pairwise fun a b => b.arrival < a.arrival) (he : e ∈ entries)
    (hold : ∀ f ∈ entries, e.arrival ≤ f.arrival) :
    entries = (entries.filter fun f => f.arrival != e.arrival) ++ [e] := by
  induction entries with
  | nil => cases he
  | cons f rest ih =>
    obtain ⟨hf, hrest⟩ := List.pairwise_cons.1 hnew
    rcases List.mem_cons.1 he with rfl | hm
    · have hnone : rest = [] := by
        refine List.eq_nil_iff_forall_not_mem.2 fun g hg => ?_
        have hlt := hf g hg
        have hle := hold g (List.mem_cons_of_mem _ hg)
        omega
      subst hnone
      simp
    · have hne : f.arrival ≠ e.arrival := Nat.ne_of_gt (hf e hm)
      rw [List.filter_cons_of_pos (by simpa using hne), List.cons_append]
      congr 1
      exact ih hrest hm fun g hg => hold g (List.mem_cons_of_mem _ hg)

/-- The next entry is the first of its lane, all higher lanes are empty, and the others stay. -/
theorem Ordered.lane_next (h : q.Ordered) (hn : q.next? = some e) :
    (∀ t : Tier, e.weight < t.weight → Entry.lane t q.entries = []) ∧ ∀ t : Tier,
      Entry.lane t q.entries = (if e.weight = t.weight then [e.job] else []) ++
        Entry.lane t (q.entries.filter fun f => f.arrival != e.arrival) := by
  have hmem := next?_mem hn
  have hleast := next?_least hn
  refine ⟨fun t ht => ?_, fun t => ?_⟩
  · unfold Entry.lane
    rw [List.filter_eq_nil_iff.2, List.map_nil, List.reverse_nil]
    intro f hf hw
    have hft : f.weight = t.weight := by simpa using hw
    exact hleast f hf (Entry.precedes_iff.2 (.inl (hft ▸ ht)))
  · have hswap : (q.entries.filter fun f => f.arrival != e.arrival).filter
        (fun f => f.weight == t.weight) =
        (q.entries.filter fun f => f.weight == t.weight).filter fun f => f.arrival != e.arrival := by
      rw [List.filter_filter, List.filter_filter]
      exact List.filter_congr fun f _ => Bool.and_comm ..
    unfold Entry.lane
    rw [hswap]
    split
    next hw =>
      have hlast := filter_append_last (e := e)
        (h.newest.sublist (List.filter_sublist (p := fun f => f.weight == t.weight)))
        (List.mem_filter.2 ⟨hmem, by simpa using hw⟩) fun f hf => by
          obtain ⟨hf, hft⟩ := List.mem_filter.1 hf
          have hnot := hleast f hf
          rw [Entry.precedes_iff] at hnot
          have : f.weight = t.weight := by simpa using hft
          omega
      conv_lhs => rw [hlast]
      simp
    next hw =>
      have hself : (q.entries.filter fun f => f.weight == t.weight).filter
          (fun f => f.arrival != e.arrival) = q.entries.filter fun f => f.weight == t.weight := by
        refine List.filter_eq_self.2 fun f hf => ?_
        obtain ⟨hf, hft⟩ := List.mem_filter.1 hf
        have hne : f.arrival ≠ e.arrival := by
          intro heq
          obtain rfl := List.inj_on_of_nodup_map h.numbered.nodup hf hmem heq
          exact hw (by simpa using hft)
        simpa using hne
      rw [hself, List.nil_append]

/-- A queue is popped as its lanes are. -/
theorem lanes_pop? (h : q.Ordered) : q.lanes.pop? = q.pop?.map fun p => (p.1, p.2.lanes) := by
  cases hn : q.next? with
  | none =>
    have hp : q.pop? = none := by rw [pop?, hn, Option.map_none]
    have hnil := pop?_eq_none_iff.1 hp
    rw [hp, lanes, hnil]
    rfl
  | some e =>
    have hweight := h.weight e (next?_mem hn)
    obtain ⟨hhigher, hlane⟩ := h.lane_next hn
    rw [hweight] at hhigher hlane
    simp only [Tier.weight_inj] at hlane
    have hfirst := hlane e.job.tier
    rw [if_pos rfl] at hfirst
    have hsame : ∀ t, e.job.tier ≠ t →
        Entry.lane t (q.entries.filter fun f => f.arrival != e.arrival) =
          Entry.lane t q.entries := by
      intro t ht
      rw [hlane t, if_neg ht, List.nil_append]
    simp only [pop?, hn, Option.map_some, lanes]
    generalize e.job.tier = t at hhigher hfirst hsame
    cases t with
    | high =>
      rw [hfirst, hsame .medium (by decide), hsame .low (by decide)]
      rfl
    | medium =>
      rw [hsame .high (by decide), hsame .low (by decide), hhigher .high (by decide), hfirst]
      rfl
    | low =>
      rw [hsame .high (by decide), hsame .medium (by decide), hhigher .high (by decide),
        hhigher .medium (by decide), hfirst]
      rfl

/-! ## Arrivals -/

theorem arrivals_pop? (h : q.pop? = some (j, r)) : r.arrivals = q.arrivals := by
  obtain ⟨e, -, hr⟩ := Option.map_eq_some_iff.1 h
  cases hr
  rfl

/-- The jobs that have joined since there had been `n` arrivals, from the oldest to the newest. -/
def since (n : Nat) (q : Queue) : List Job :=
  ((q.entries.filter fun e => n ≤ e.arrival).map (·.job)).reverse

theorem since_append (hr : ∀ e ∈ q.entries, e.arrival < q.arrivals) (js : List Job) :
    q.arrivals ≤ (js.foldl push q).arrivals ∧ since q.arrivals (js.foldl push q) = js := by
  -- By induction on the last job to join, which has the highest number.
  induction js using List.reverseRecOn with
  | nil =>
    refine ⟨Nat.le_refl _, ?_⟩
    show since q.arrivals q = []
    unfold since
    rw [List.filter_eq_nil_iff.2, List.map_nil, List.reverse_nil]
    intro e he
    have hlt := hr e he
    simpa using hlt
  | append_singleton js j ih =>
    obtain ⟨hle, hsince⟩ := ih
    rw [List.foldl_append]
    refine ⟨Nat.le_succ_of_le hle, ?_⟩
    unfold since at hsince ⊢
    show ((List.filter _ (⟨_, (js.foldl push q).arrivals, j⟩ :: (js.foldl push q).entries)).map
      (·.job)).reverse = js ++ [j]
    simp only [List.filter_cons, hle, decide_true, if_true, List.map_cons, List.reverse_cons, hsince]

end Queue

end Job

end GpuCluster
