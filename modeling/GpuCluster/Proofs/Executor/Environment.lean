import GpuCluster.Proofs.Executor.Tracking
import GpuCluster.Proofs.Text.Bindings
import GpuCluster.Proofs.Text.Decimal
import GpuCluster.Proofs.Text.Pieces

/-!
# The environment of a launch

* `Launch.toNat_threadShare`, `Launch.environment_shareOf` : the thread share of a job is ten percent
  for each unit, at most the whole, and it always passes its check;
* `Launch.pieces_deviceList` : the list of GPUs names each number below the count once;
* `Launch.derived` : what the identity and the resources of a job define;
* `Launch.layers` : these, the variables of the job, then those of the executor;
* `environment_precedence` : a launch sets each variable to its value in the first of these layers
  that defines it.
-/

namespace GpuCluster.Launch

variable {outer : Bindings String} {j : Job} {name : String}

/-! ## The thread share -/

/-- Ten percent for each unit, at most the whole. -/
theorem toNat_threadShare (units : UInt32) :
    (threadShare units).toNat = min 100 (10 * units.toNat) := by
  have hunits := units.toNat_lt
  have hdiv : (Saturating.mul32 units 100 / Mps.unitsPerGpu).toNat =
      min (units.toNat * 100) (2 ^ 32 - 1) / 10 := by
    rw [UInt32.toNat_div, Saturating.toNat_mul32]
    rfl
  have hmin (x y : UInt32) : (min x y).toNat = min x.toNat y.toNat := by
    show (if x ≤ y then x else y).toNat = _
    split
    next h =>
      rw [UInt32.le_iff_toNat_le] at h
      omega
    next h =>
      rw [UInt32.le_iff_toNat_le] at h
      omega
  have hwhole : (100 : UInt32).toNat = 100 := rfl
  rw [threadShare, hmin, hdiv, hwhole]
  omega

theorem toInt_threadPercentage (j : Job) :
    (shareOf j).threadPercentage.toInt = (min 100 (10 * j.mpsUnits.toNat) : Nat) := by
  have hbound : (threadShare j.mpsUnits).toNat < 2 ^ 31 := by
    rw [toNat_threadShare]
    omega
  have hvalue := toNat_threadShare j.mpsUnits
  show (Int32.ofNat (threadShare j.mpsUnits).toNat).toInt = _
  rw [Int32.toInt_ofNat_of_lt hbound, hvalue]

/-- The share of a job lies within its bounds. -/
theorem validate_shareOf (j : Job) : (shareOf j).validate = .ok () := by
  have hvalue := toInt_threadPercentage j
  have hbounds : Mps.isThreadShare (shareOf j).threadPercentage = true := by
    have hlow : Mps.lowestShare.toInt = 0 := rfl
    have hhigh : Mps.highestShare.toInt = 100 := rfl
    rw [Mps.isThreadShare, Bool.and_eq_true, decide_eq_true_eq, decide_eq_true_eq,
      Int32.le_iff_toInt_le, Int32.le_iff_toInt_le, hvalue, hlow, hhigh]
    omega
  have hmemory : ¬ (shareOf j).memoryMegabytes < 0 := by
    show ¬ (0 : Int64) < 0
    decide
  rw [Mps.Limits.validate, hbounds, if_neg hmemory]
  rfl

/-- A job with units has a share, and no memory limit. -/
theorem environment_shareOf (h : 0 < j.mpsUnits) : (shareOf j).environment =
    [(Mps.Limits.threadVariable, toString (min 100 (10 * j.mpsUnits.toNat)))] := by
  have hunits : 0 < j.mpsUnits.toNat := h
  have hvalue := toInt_threadPercentage j
  have hshare : 0 < (shareOf j).threadPercentage := by
    rw [Int32.lt_iff_toInt_lt, hvalue]
    show (0 : Int) < _
    omega
  have hmemory : ¬ 0 < (shareOf j).memoryMegabytes := by
    show ¬ (0 : Int64) < 0
    decide
  rw [Mps.Limits.environment, if_pos hshare, if_neg hmemory, List.append_nil, hvalue]
  rfl

/-! ## The list of GPUs -/

/-- Between its commas stands each number below the count, once. -/
theorem pieces_deviceList {n : UInt32} (h : 0 < n) :
    Text.pieces ',' (deviceList n) = (List.range n.toNat).map toString := by
  have hn : 0 < n.toNat := h
  have hne : (List.range n.toNat).map (fun i => toString i) ≠ [] := by
    simp only [ne_eq, List.map_eq_nil_iff, List.range_eq_nil]
    omega
  have hcomma : ∀ i, Text.pieces ',' (toString i) = [toString i] := fun i : Nat =>
    Text.pieces_of_not_mem (Decimal.not_mem_toString (by decide) i)
  show Text.pieces ',' ((String.singleton ',').intercalate _) = _
  rw [Text.pieces_intercalate hne, List.flatMap_map]
  simp only [hcomma]
  exact List.map_eq_flatMap.symm

theorem nodup_devices (n : Nat) : ((List.range n).map fun i => toString i).Nodup := by
  refine List.pairwise_map.2 (List.nodup_range.imp fun hne heq => ?_)
  exact hne (Decimal.toString_injective heq)

/-! ## Layers -/

/-- What the identity and the resources of a job define. -/
def derived (j : Job) : List (Bindings String) :=
  [⟨[(jobVariable, j.id.toText)]⟩,
    if 0 < j.mpsUnits then
      ⟨[(Mps.Limits.threadVariable, toString (min 100 (10 * j.mpsUnits.toNat)))]⟩ else ∅,
    if 0 < j.requiredGpu then ⟨[(devicesVariable, deviceList j.requiredGpu)]⟩ else ∅]

/-- The layers of an environment, the one that counts first at the front. -/
def layers (outer : Bindings String) (j : Job) : List (Bindings String) :=
  derived j ++ [j.env, outer]

/-- The value of a variable in the first layer that defines it. -/
def valueIn (layers : List (Bindings String)) (name : String) : Option String :=
  layers.findSome? (·.get? name)

theorem valueIn_cons (b : Bindings String) (rest : List (Bindings String)) (name : String) :
    valueIn (b :: rest) name = (b.get? name).or (valueIn rest name) := by
  rw [valueIn, List.findSome?_cons]
  cases b.get? name <;> rfl

theorem valueIn_append (upper lower : List (Bindings String)) (name : String) :
    valueIn (upper ++ lower) name = (valueIn upper name).or (valueIn lower name) := by
  induction upper with
  | nil => rfl
  | cons b rest ih => rw [List.cons_append, valueIn_cons, valueIn_cons, ih, Option.or_assoc]

/-- The last of the variables that are set is the first that counts. -/
theorem valueIn_derived (j : Job) (name : String) : valueIn (derived j) name =
    ((resourceVariables j).reverse.find? (·.1 == name)).map (·.2) := by
  rw [resourceVariables, List.reverse_append, List.reverse_append, List.find?_append,
    List.find?_append, Option.map_or, Option.map_or, derived, valueIn_cons, valueIn_cons,
    valueIn_cons]
  refine congrArg₂ _ rfl (congrArg₂ _ ?_ ?_)
  · by_cases h : 0 < j.mpsUnits
    · rw [if_pos h, if_pos h, environment_shareOf h]
      rfl
    · rw [if_neg h, if_neg h]
      rfl
  · by_cases h : 0 < j.requiredGpu
    · rw [if_pos h, if_pos h]
      exact Option.or_none
    · rw [if_neg h, if_neg h]
      rfl

theorem get?_environmentOf (h : j.env.Distinct) (outer : Bindings String) (name : String) :
    (environmentOf outer j).get? name = valueIn (layers outer j) name := by
  rw [environmentOf, Bindings.get?_setAll, h.get?_layer, ← valueIn_derived, layers, valueIn_append,
    valueIn_cons, valueIn_cons]
  exact congrArg _ (congrArg _ Option.or_none.symm)

/-- With a command there is always a launch. -/
theorem forJob_cons (outer : Bindings String) (directory : Option String) (j : Job)
    (program : String) (arguments : List String) :
    forJob outer directory j (program :: arguments) =
      .ok ⟨program, arguments, environmentOf outer j, directory⟩ := by
  rw [forJob]
  split
  next => rw [validate_shareOf]; rfl
  next => rfl

/-- A job with a command always has a launch, and it is what the executor starts. Each variable has
its value in the first layer that defines it: the identity and the resources of the job come before
its own variables, and these before the ones of the executor. The GPUs are numbered from zero on. -/
theorem environment_precedence (m : Machine) (s : Process.Settings) (h : j.env.Distinct)
    (program : String) (arguments : List String) :
    ∃ l, forJob s.environment s.directory j (program :: arguments) = .ok l ∧
      (∀ name, l.environment.get? name = valueIn (layers s.environment j) name) ∧
      (∀ name value, valueIn (derived j) name = some value →
        l.environment.get? name = some value) ∧
      (∀ name value, valueIn (derived j) name = none → j.env.get? name = some value →
        l.environment.get? name = some value) ∧
      (0 < j.requiredGpu →
        Text.pieces ',' (deviceList j.requiredGpu) = (List.range j.requiredGpu.toNat).map toString ∧
        (Text.pieces ',' (deviceList j.requiredGpu)).Nodup) ∧
      l.program = program ∧ l.arguments = arguments ∧ l.directory = s.directory ∧
      ∀ t : Process.Table, t.contains j.id = false →
        Process.launch m s j (program :: arguments) t =
          match m.start l with
          | .ok outcome => .ok () (t.insert j.id (.start outcome))
          | .error reason => .error (.error (.spawnFailed j.id reason)) t := by
  have hforJob := forJob_cons s.environment s.directory j program arguments
  have hvalue : ∀ name, (environmentOf s.environment j).get? name =
      (valueIn (derived j) name).or ((j.env.get? name).or (s.environment.get? name)) := by
    intro name
    rw [get?_environmentOf h, layers, valueIn_append, valueIn_cons, valueIn_cons]
    exact congrArg _ (congrArg _ Option.or_none)
  refine ⟨_, hforJob, get?_environmentOf h _, fun name value hd => ?_, fun name value hd he => ?_,
    fun hgpu => ?_, rfl, rfl, rfl, fun t ht => Process.launch_of_forJob ht hforJob⟩
  · exact (hvalue name).trans (by rw [hd]; rfl)
  · exact (hvalue name).trans (by rw [hd, he]; rfl)
  · rw [pieces_deviceList hgpu]
    exact ⟨rfl, nodup_devices _⟩

/-- A job that asks for two GPUs and tries to choose others, on an executor that does so too. -/
def greedyJob : Job :=
  { id := ⟨7#128⟩, command := ["train"], requiredGpu := 2, mpsUnits := 15, createdAt := ⟨0, 0⟩
    env := .ofList [(devicesVariable, "4,5"), ("MODE", "fast"), (jobVariable, "none")] }

def greedySettings : Process.Settings :=
  { environment := .ofList [("MODE", "slow"), ("HOME", "/tmp"), (Mps.Limits.threadVariable, "1")] }

/-- It sees the first two GPUs and the whole of their threads, and its own choice of the rest. -/
theorem environment_precedence_greedy : greedyJob.env.Distinct ∧
    ∃ l, forJob greedySettings.environment greedySettings.directory greedyJob ["train"] = .ok l ∧
      l.environment.get? devicesVariable = some "0,1" ∧
      l.environment.get? Mps.Limits.threadVariable = some "100" ∧
      l.environment.get? jobVariable = some greedyJob.id.toText ∧
      l.environment.get? "MODE" = some "fast" ∧ l.environment.get? "HOME" = some "/tmp" := by
  have hdistinct : greedyJob.env.Distinct := Bindings.distinct_ofList _
  obtain ⟨l, hl, hvalue, -⟩ := environment_precedence
    { program? := fun _ => none, directoryExists := fun _ => true }
    greedySettings hdistinct "train" []
  refine ⟨hdistinct, l, hl, ?_, ?_, ?_, ?_, ?_⟩
  all_goals rw [hvalue]
  · decide
  · decide
  · decide
  · decide
  · decide

end GpuCluster.Launch
