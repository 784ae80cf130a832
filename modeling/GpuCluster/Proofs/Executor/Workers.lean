import Mathlib.Algebra.BigOperators.Group.List.Basic
import GpuCluster.Proofs.Executor.Hostfiles
import GpuCluster.Proofs.Text.Decimal
import GpuCluster.Proofs.Text.Pieces
import GpuCluster.Proofs.Traversal

/-!
# The workers of a hostfile

* `Hostfile.parse?` : the entries that a hostfile stands for, one per line;
* `Hostfile.Plain` : a name without a line end and without the mark of the slots;
* `Hostfile.parse?_render_iff` : a hostfile stands for its entries exactly if all hosts are plain;
* `Hostfile.parse?_ofJob_of_foreign` : the name of a job may hold any hosts, and they are read as
  hosts of the job;
* `workers_agree` : a hostfile has one line per worker, and is read back, exactly if the name of the
  job allows it; the launcher starts one process per slot.
-/

namespace GpuCluster

namespace Hostfile

variable {e : Entry} {entries : List Entry} {name : String}

/-! ## Lines -/

/-- What stands between a host and its slots. -/
def mark : List Char := ' ' :: "slots=".toList

/-- The entry that a line stands for: the host ends at the first mark. -/
def Entry.ofLine? (line : String) : Option Entry :=
  (Text.cut? mark line.toList).bind fun p =>
    (Decimal.parseU32 (String.ofList p.2)).map fun slots => ⟨String.ofList p.1, slots⟩

/-- The entries that a hostfile stands for, one per line. -/
def parse? (text : String) : Option (List Entry) := (Text.pieces '\n' text).mapM Entry.ofLine?

/-- A name that reads as one host: it has no line end and no mark. -/
structure Plain (name : String) : Prop where
  oneLine : '\n' ∉ name.toList
  unmarked : ¬ mark <:+: name.toList

theorem toList_toLine (e : Entry) :
    e.toLine.toList = e.hostname.toList ++ (mark ++ (toString e.slots.toNat).toList) := by
  rw [Entry.toLine, String.toList_append, String.toList_append, List.append_assoc]
  rfl

/-- A line stands for its entry exactly if its host has no mark. -/
theorem ofLine?_toLine_iff (e : Entry) :
    Entry.ofLine? e.toLine = some e ↔ ¬ mark <:+: e.hostname.toList := by
  have hcut : Text.cut? mark (e.hostname.toList ++ (mark ++ (toString e.slots.toNat).toList)) =
      some (e.hostname.toList, (toString e.slots.toNat).toList) ↔ ¬ mark <:+: e.hostname.toList :=
    Text.cut?_append_iff (by decide)
  rw [← hcut, Entry.ofLine?, toList_toLine]
  constructor
  · intro h
    obtain ⟨⟨before, behind⟩, hp, hentry⟩ := Option.bind_eq_some_iff.1 h
    obtain ⟨slots, -, heq⟩ := Option.map_eq_some_iff.1 hentry
    have hbefore : before = e.hostname.toList := by
      rw [← heq, String.toList_ofList]
    have hbehind : behind = (toString e.slots.toNat).toList := by
      have htext := Text.eq_of_cut? hp
      rw [hbefore] at htext
      exact (List.append_cancel_left (List.append_cancel_left htext)).symm
    rwa [← hbefore, ← hbehind] at hp ⊢
  · intro h
    refine Option.bind_eq_some_iff.2 ⟨_, h, ?_⟩
    simp only [String.ofList_toList, Decimal.parseU32_toString, Option.map_some]

/-- The line ends in a line are those of its host. -/
theorem count_toLine (e : Entry) : e.toLine.toList.count '\n' = e.hostname.toList.count '\n' := by
  have hmark : mark.count '\n' = 0 := by decide
  have hdigits : (toString e.slots.toNat).toList.count '\n' = 0 :=
    List.count_eq_zero.2 (Decimal.not_mem_toString (by decide) _)
  rw [toList_toLine, List.count_append, List.count_append, hmark, hdigits]
  rfl

/-! ## Reading a hostfile back -/

theorem pieces_render (h : entries ≠ []) :
    Text.pieces '\n' (render entries) = entries.flatMap fun e => Text.pieces '\n' e.toLine := by
  have hne : entries.map Entry.toLine ≠ [] := by simpa using h
  show Text.pieces '\n' ((String.singleton '\n').intercalate _) = _
  rw [Text.pieces_intercalate hne, List.flatMap_map]

/-- There is one line for each entry, and one more for each line end inside a host. -/
theorem length_pieces_render (h : entries ≠ []) : (Text.pieces '\n' (render entries)).length =
    (entries.map fun e => e.hostname.toList.count '\n' + 1).sum := by
  rw [pieces_render h, List.length_flatMap]
  refine congrArg List.sum (List.map_congr_left fun e _ => ?_)
  rw [Text.length_pieces, count_toLine]

theorem pieces_render_of_oneLine (h : entries ≠ [])
    (hone : ∀ e ∈ entries, '\n' ∉ e.hostname.toList) :
    Text.pieces '\n' (render entries) = entries.map Entry.toLine := by
  rw [pieces_render h, List.map_eq_flatMap]
  refine List.flatMap_congr fun e he => Text.pieces_of_not_mem ?_
  rw [← List.count_eq_zero, count_toLine]
  exact List.count_eq_zero.2 (hone e he)

theorem mapM_ofLine?_iff : (entries.map Entry.toLine).mapM Entry.ofLine? = some entries ↔
    ∀ e ∈ entries, ¬ mark <:+: e.hostname.toList := by
  rw [Traversal.mapM_eq_some_iff, List.forall₂_map_left_iff, List.forall₂_same]
  simp only [ofLine?_toLine_iff]

/-- A hostfile stands for its entries exactly if all hosts are plain. -/
theorem parse?_render_iff (h : entries ≠ []) :
    parse? (render entries) = some entries ↔ ∀ e ∈ entries, Plain e.hostname := by
  constructor
  · intro hparse
    -- as many lines as entries: no host has a line end
    have hlength := (Traversal.mapM_eq_some_iff.1 hparse).length_eq
    have hone : ∀ e ∈ entries, '\n' ∉ e.hostname.toList := by
      have hzero : (entries.map fun e => e.hostname.toList.count '\n').sum = 0 := by
        rw [length_pieces_render h, List.sum_map_add] at hlength
        simpa using hlength
      intro e he
      exact List.count_eq_zero.1 (List.sum_eq_zero_iff_forall_eq_nat.1 hzero _
        (List.mem_map_of_mem he))
    rw [parse?, pieces_render_of_oneLine h hone, mapM_ofLine?_iff] at hparse
    exact fun e he => ⟨hone e he, hparse e he⟩
  · intro hplain
    rw [parse?, pieces_render_of_oneLine h fun e he => (hplain e he).oneLine, mapM_ofLine?_iff]
    exact fun e he => (hplain e he).unmarked

/-! ## The hosts of a job -/

variable {j : Job} {slots : UInt32}

theorem length_ofJob (j : Job) (slots : UInt32) : (ofJob j slots).length = j.replicas.toNat := by
  rw [ofJob, List.length_map, List.length_range]

theorem ofJob_ne_nil (h : ¬ j.replicas < 2) (slots : UInt32) : ofJob j slots ≠ [] := by
  rw [UInt32.lt_iff_toNat_lt] at h
  apply List.ne_nil_of_length_pos
  rw [length_ofJob]
  exact Nat.lt_of_lt_of_le Nat.zero_lt_two (Nat.not_lt.1 h)

/-- No two workers have one host. -/
theorem nodup_hosts (j : Job) (slots : UInt32) :
    ((ofJob j slots).map (·.hostname)).Nodup := by
  rw [ofJob, List.map_map]
  refine List.pairwise_map.2 (List.nodup_range.imp fun hne heq => hne ?_)
  have hlist := congrArg String.toList heq
  simp only [Function.comp_apply, hostOf, String.toList_append,
    List.append_cancel_left_eq] at hlist
  exact Decimal.toString_injective (String.toList_injective hlist)

/-- A worker is named after its job: its host has a line end or a mark only if the name has one. -/
theorem plain_worker_iff (name : String) (i : Nat) :
    Plain (name ++ "-worker-" ++ toString i) ↔ Plain name := by
  have hlist : (name ++ "-worker-" ++ toString i).toList =
      name.toList ++ '-' :: ("worker-".toList ++ (toString i).toList) := by
    rw [String.toList_append, String.toList_append, List.append_assoc]
    rfl
  have hout {c : Char} (hc : c.isDigit = false) (hworker : c ∉ "-worker-".toList) :
      c ∉ '-' :: ("worker-".toList ++ (toString i).toList) := by
    show c ∉ "-worker-".toList ++ (toString i).toList
    rw [List.mem_append, not_or]
    exact ⟨hworker, Decimal.not_mem_toString hc i⟩
  have hline : '\n' ∉ (name ++ "-worker-" ++ toString i).toList ↔ '\n' ∉ name.toList := by
    rw [hlist, List.mem_append, or_iff_left (hout (by decide) (by decide))]
  have hmark : mark <:+: (name ++ "-worker-" ++ toString i).toList ↔ mark <:+: name.toList := by
    rw [hlist]
    exact Text.infix_append_cons_iff (by decide) List.mem_cons_self (hout (by decide) (by decide))
  exact ⟨fun h => ⟨hline.1 h.oneLine, fun hm => h.unmarked (hmark.2 hm)⟩,
    fun h => ⟨hline.2 h.oneLine, fun hm => h.unmarked (hmark.1 hm)⟩⟩

theorem parse?_ofJob_iff (h : ¬ j.replicas < 2) (slots : UInt32) :
    parse? (render (ofJob j slots)) = some (ofJob j slots) ↔ Plain j.name := by
  rw [parse?_render_iff (ofJob_ne_nil h slots)]
  constructor
  · intro hplain
    obtain ⟨e, he⟩ := List.exists_mem_of_ne_nil _ (ofJob_ne_nil h slots)
    obtain ⟨i, -, rfl⟩ := List.mem_map.1 he
    exact (plain_worker_iff j.name i).1 (hplain _ he)
  · intro hname e he
    obtain ⟨i, -, rfl⟩ := List.mem_map.1 he
    exact (plain_worker_iff j.name i).2 hname

/-- Each line end in the name of the job makes one more line for each worker. -/
theorem length_pieces_ofJob (h : ¬ j.replicas < 2) (slots : UInt32) :
    (Text.pieces '\n' (render (ofJob j slots))).length =
      j.replicas.toNat * (j.name.toList.count '\n' + 1) := by
  have hcount (i : Nat) : (hostOf j i).toList.count '\n' = j.name.toList.count '\n' := by
    have hdigits : (toString i).toList.count '\n' = 0 :=
      List.count_eq_zero.2 (Decimal.not_mem_toString (by decide) _)
    have hworker : "-worker-".toList.count '\n' = 0 := by decide
    rw [hostOf, String.toList_append, String.toList_append, List.count_append, List.count_append,
      hdigits, hworker]
    rfl
  rw [length_pieces_render (ofJob_ne_nil h slots), ofJob, List.map_map]
  simp only [Function.comp_def, hcount]
  rw [List.map_const', List.sum_replicate_nat, List.length_range]

theorem sum_slots_ofJob (j : Job) (slots : UInt32) :
    ((ofJob j slots).map (·.slots.toNat)).sum = j.replicas.toNat * slots.toNat := by
  rw [ofJob, List.map_map]
  show ((List.range j.replicas.toNat).map fun _ => slots.toNat).sum = _
  rw [List.map_const', List.sum_replicate_nat, List.length_range]

/-- The name of a job may hold whole lines, and then each worker brings the hosts of these lines
with it. -/
theorem parse?_ofJob_of_foreign {foreign : List Entry} (hne : foreign ≠ [])
    (hforeign : ∀ e ∈ foreign, Plain e.hostname) (hname : Plain name)
    (hj : j.name = render foreign ++ "\n" ++ name) (hr : ¬ j.replicas < 2) (slots : UInt32) :
    parse? (render (ofJob j slots)) = some ((List.range j.replicas.toNat).flatMap fun i =>
      foreign ++ [⟨name ++ "-worker-" ++ toString i, slots⟩]) := by
  have hplain (i : Nat) : ∀ e ∈ foreign ++ [⟨name ++ "-worker-" ++ toString i, slots⟩],
      Plain e.hostname := by
    intro e he
    rcases List.mem_append.1 he with he | he
    · exact hforeign e he
    · obtain rfl := List.mem_singleton.1 he
      exact (plain_worker_iff name i).2 hname
  have hline (i : Nat) : Entry.toLine ⟨hostOf j i, slots⟩ =
      render (foreign ++ [⟨name ++ "-worker-" ++ toString i, slots⟩]) := by
    have hlines : foreign.map Entry.toLine ≠ [] := by simpa using hne
    rw [render, List.map_append, List.map_singleton,
      String.intercalate_append_of_ne_nil hlines (List.cons_ne_nil _ _),
      String.intercalate_singleton]
    simp only [Entry.toLine, hostOf, hj, render, String.append_assoc]
  have hpieces (i : Nat) : Text.pieces '\n' (Entry.toLine ⟨hostOf j i, slots⟩) =
      List.map Entry.toLine (foreign ++ [⟨name ++ "-worker-" ++ toString i, slots⟩]) := by
    rw [hline]
    exact pieces_render_of_oneLine (List.append_ne_nil_of_left_ne_nil hne _)
      fun e he => (hplain i e he).oneLine
  rw [parse?, pieces_render (ofJob_ne_nil hr slots), ofJob, List.flatMap_map]
  simp only [hpieces]
  rw [← List.map_flatMap, mapM_ofLine?_iff]
  intro e he
  obtain ⟨i, -, hi⟩ := List.mem_flatMap.1 he
  exact (hplain i e hi).unmarked

end Hostfile

namespace Mpi

variable {m : Machine} {s : Settings} {j : Job}

/-- The number of processes is that of all slots, as far as it can be written. -/
theorem toNat_processCount (s : Settings) (j : Job) : (processCount s j).toNat =
    min ((Hostfile.ofJob j s.slotsPerReplica).map (·.slots.toNat)).sum (2 ^ 32 - 1) := by
  rw [processCount, Saturating.toNat_mul32, Hostfile.sum_slots_ofJob]
  rfl

/-- A job with several replicas and a command has its hostfile written, and the launcher is started
with it, with one process per slot as far as the number can be written. The entries are one worker
per replica, all different. The hostfile has a line per entry, and one more per worker for each line
end in the name of the job: it stands for the entries exactly if the name is plain. -/
theorem workers_agree (h : Admits j) (hd : m.directoryExists s.directory = true) (t : State) :
    ∃ entries : List Hostfile.Entry,
      entries = (List.range j.replicas.toNat).map (fun i =>
        { hostname := j.name ++ "-worker-" ++ toString i, slots := s.slotsPerReplica }) ∧
      (entries.map (·.hostname)).Nodup ∧
      execute m s j t = (Process.launch m launcherSettings j
          (s.launcher :: "-np" :: toString (min (entries.map (·.slots.toNat)).sum (2 ^ 32 - 1)) ::
            "--hostfile" :: hostfilePath s j.id :: j.command)).zoom State.processesPart
        (t.writeHostfile (hostfilePath s j.id) (Hostfile.render entries)) ∧
      (∃ answer u, Action.attempt (execute m s j) t = .ok answer u ∧
        u.hostfile? (hostfilePath s j.id) = some (Hostfile.render entries)) ∧
      (Text.pieces '\n' (Hostfile.render entries)).length =
        j.replicas.toNat * (j.name.toList.count '\n' + 1) ∧
      (Hostfile.parse? (Hostfile.render entries) = some entries ↔ Hostfile.Plain j.name) := by
  refine ⟨Hostfile.ofJob j s.slotsPerReplica, rfl, Hostfile.nodup_hosts j _, ?_, ?_,
    Hostfile.length_pieces_ofJob h.1 _, Hostfile.parse?_ofJob_iff h.1 _⟩
  · rw [execute_of_admits h hd, commandLine, toNat_processCount]
    rfl
  · obtain ⟨hno, -⟩ | ⟨-, ⟨p, hrun⟩ | ⟨e, hrun⟩⟩ := execute_outcome hd j t
    · exact absurd h hno
    · refine ⟨_, _, Action.attempt_of_ok hrun, ?_⟩
      exact (hostfile?_writeHostfile t _ _ _).trans (if_pos rfl)
    · refine ⟨_, _, Action.attempt_of_error hrun, ?_⟩
      exact (hostfile?_writeHostfile t _ _ _).trans (if_pos rfl)

/-- A job with two workers, and a line end in its name. -/
def brokenJob : Job :=
  { id := ⟨1#128⟩, name := "a\nb", command := ["train"], replicas := 2, createdAt := ⟨0, 0⟩ }

/-- A machine without programs. -/
def bareMachine : Machine where
  program? _ := none
  directoryExists _ := true

/-- Its hostfile has four lines for two processes, and does not stand for its workers. -/
theorem workers_agree_broken :
    Admits brokenJob ∧ (∀ path, commandLine ⟨"mpirun", "/run", 1⟩ brokenJob path =
      ["mpirun", "-np", "2", "--hostfile", path, "train"]) ∧
    ∃ file, (∃ answer u,
        Action.attempt (execute bareMachine ⟨"mpirun", "/run", 1⟩ brokenJob) {} = .ok answer u ∧
        u.hostfile? (hostfilePath ⟨"mpirun", "/run", 1⟩ brokenJob.id) = some file) ∧
      (Text.pieces '\n' file).length = 4 ∧
      Hostfile.parse? file ≠ some [⟨"a\nb-worker-0", 1⟩, ⟨"a\nb-worker-1", 1⟩] := by
  have hadmits : Admits brokenJob := by decide
  obtain ⟨entries, rfl, -, -, hfile, hlines, hparse⟩ := workers_agree
    (m := bareMachine) (s := ⟨"mpirun", "/run", 1⟩) hadmits rfl {}
  have hcount : toString (processCount ⟨"mpirun", "/run", 1⟩ brokenJob).toNat = "2" := by decide
  refine ⟨hadmits, fun path => ?_, _, hfile, hlines, fun h => ?_⟩
  · rw [commandLine, hcount]
    rfl
  · exact absurd (hparse.1 h).oneLine (by decide)

end Mpi

end GpuCluster
