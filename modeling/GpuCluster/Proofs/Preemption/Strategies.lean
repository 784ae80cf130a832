import GpuCluster.Preemption.Strategy
import GpuCluster.Proofs.Action
import GpuCluster.Proofs.Text.Bindings

/-!
# The active strategy

* `Strategies.decide_of_ok`, `Strategies.decide_of_error` : the current strategy decides, if any;
* `Strategies.Call` : a call that makes a strategy known or switches to one; `Strategies.of` : the
  strategies that some calls leave;
* `registered`, `switched` : what some calls have made known, and where they have switched to;
* `Follows` : the known strategies are those registered, and the active one is the last that was
  switched to, or the first one; `Follows.make` : each call keeps it so;
* `routes_to_newest` : so it is after any calls, and then the newest strategy of the active name
  decides.
-/

namespace GpuCluster.Preemption.Strategies

variable {α σ : Type} {name : String} {x : α}

/-! ## The current strategy -/

section Current
variable {s : Strategies α} {e : Error}

theorem current_of_known (hactive : s.active = some name) (hknown : s.known.get? name = some x) :
    s.current = .ok x := by
  simp only [current, hactive, hknown]

theorem current_of_inactive (h : s.active = none) :
    s.current = .error (.strategyNotFound "no active strategy") := by
  simp only [current, h]

/-- The current strategy is known under the active name. -/
theorem known_of_current (h : s.current = .ok x) :
    ∃ name, s.active = some name ∧ s.known.get? name = some x := by
  unfold current at h
  split at h
  next => cases h
  next name hname =>
    split at h
    next y hy => exact ⟨name, hname, Except.ok.inj h ▸ hy⟩
    next => cases h

end Current

section Decide
variable {s : Strategies (Strategy σ)} {x : Strategy σ} {e : Error}

theorem decide_of_ok (h : s.current = .ok x) (q : Requirement) : s.decide q = x.decide q := by
  rw [decide, h]
  rfl

theorem decide_of_error (h : s.current = .error e) (q : Requirement) :
    s.decide q = Action.fail e := by
  rw [decide, h]
  rfl

end Decide

/-! ## Calls -/

/-- A call that changes what is known or what is active. -/
inductive Call (α : Type) where
  | register (name : String) (x : α)
  | activate (name : String)

namespace Call

/-- Make the call. -/
def make : Call α → Action (Strategies α) Unit
  | register name x => modify (·.register name x)
  | activate name => do set (← Action.ofExcept ((← get).activate name))

/-- What the call makes known, and under which name. -/
def entry? : Call α → Option (String × α)
  | register name x => some (name, x)
  | activate _ => none

/-- Where the call has switched to, going by its answer. -/
def target? : Call α → Except Failure Unit → Option String
  | activate name, .ok () => some name
  | _, _ => none

theorem make_activate_of_known {s : Strategies α} (h : s.known.get? name = some x) :
    (activate name).make s = .ok () { s with active := some name } := by
  have hswitch : s.activate name = .ok { s with active := some name } := by
    simp only [Strategies.activate, h]
  change (Action.ofExcept (s.activate name) >>= set) s = _
  rw [hswitch]
  rfl

theorem make_activate_of_unknown {s : Strategies α} (h : s.known.get? name = none) :
    (activate name).make s = .error (.error (.strategyNotFound name)) s := by
  have hswitch : s.activate name = .error (.strategyNotFound name) := by
    simp only [Strategies.activate, h]
  change (Action.ofExcept (s.activate name) >>= set) s = _
  rw [hswitch]
  rfl

end Call

/-- The strategies that some calls leave. -/
def leave (s : Strategies α) (calls : List (Call α)) : Strategies α :=
  calls.foldl (fun s c => c.make.after s) s

/-- The strategies that some calls leave where there were none. -/
def of (calls : List (Call α)) : Strategies α := leave empty calls

/-- What some calls have made known, in order. -/
def registered (calls : List (Call α)) : List (String × α) := calls.filterMap Call.entry?

/-- Where some calls have switched to, in order. -/
def switched (s : Strategies α) : List (Call α) → List String
  | [] => []
  | c :: rest => (c.target? (c.make.answer s)).toList ++ switched (c.make.after s) rest

/-- What was last made known under a name. -/
def newest? (entries : List (String × α)) (name : String) : Option α :=
  (entries.reverse.find? (·.1 == name)).map (·.2)

/-! ## What calls come to -/

/-- The known strategies are those registered. The active one is the last that was switched to, or
the first one registered. -/
structure Follows (s : Strategies α) (entries : List (String × α)) (targets : List String) :
    Prop where
  known : s.known = .ofList entries
  active : s.active = targets.getLast?.or (entries.head?.map (·.1))
  mem_of_switched : ∀ name ∈ targets, name ∈ entries.map (·.1)

theorem follows_empty : (empty : Strategies α).Follows [] [] := ⟨rfl, rfl, nofun⟩

namespace Follows

variable {s : Strategies α} {entries : List (String × α)} {targets : List String}
  (h : s.Follows entries targets)
include h

theorem get?_known (name : String) : s.known.get? name = newest? entries name := by
  rw [h.known, Bindings.get?_ofList, newest?]

theorem mem_names_iff : name ∈ s.known.names ↔ name ∈ entries.map (·.1) := by
  rw [h.known, Bindings.mem_names_ofList]

theorem mem_of_active (hactive : s.active = some name) : name ∈ entries.map (·.1) := by
  rw [h.active, Option.or_eq_some_iff] at hactive
  rcases hactive with hlast | ⟨-, hfirst⟩
  · exact h.mem_of_switched name (List.mem_of_getLast? hlast)
  · obtain ⟨e, he, rfl⟩ := Option.map_eq_some_iff.1 hfirst
    exact List.mem_map_of_mem (List.mem_of_mem_head? he)

theorem active_eq_none_iff : s.active = none ↔ entries = [] := by
  rw [h.active, Option.or_eq_none_iff, List.getLast?_eq_none_iff, Option.map_eq_none_iff,
    List.head?_eq_none_iff]
  refine ⟨And.right, fun hnone => ⟨List.eq_nil_iff_forall_not_mem.2 fun name hname => ?_, hnone⟩⟩
  have hmem := h.mem_of_switched name hname
  rw [hnone] at hmem
  exact absurd hmem List.not_mem_nil

theorem register (name : String) (x : α) :
    (s.register name x).Follows (entries ++ [(name, x)]) targets where
  known := by
    change s.known.set name x = _
    rw [h.known, Bindings.ofList, Bindings.ofList, Bindings.setAll, Bindings.setAll,
      List.foldl_append]
    rfl
  active := by
    change s.active.or (some name) = _
    rw [h.active, Option.or_assoc, List.head?_append, Option.map_or]
    rfl
  mem_of_switched other hother := by
    rw [List.map_append]
    exact List.mem_append_left _ (h.mem_of_switched other hother)

theorem activate (hname : name ∈ entries.map (·.1)) :
    ({ s with active := some name } : Strategies α).Follows entries (targets ++ [name]) where
  known := h.known
  active := by simp
  mem_of_switched other hother := by
    rcases List.mem_append.1 hother with hother | hother
    · exact h.mem_of_switched other hother
    · exact List.mem_singleton.1 hother ▸ hname

theorem make_activate (hname : name ∈ entries.map (·.1)) :
    (Call.activate name).make s = .ok () { s with active := some name } := by
  obtain ⟨x, hx⟩ := Bindings.mem_names_iff.1 (h.mem_names_iff.2 hname)
  exact Call.make_activate_of_known hx

theorem refuse_activate (hname : name ∉ entries.map (·.1)) :
    (Call.activate name).make s = .error (.error (.strategyNotFound name)) s := by
  apply Call.make_activate_of_unknown
  rw [← h.mem_names_iff, Bindings.mem_names_iff] at hname
  exact Option.eq_none_iff_forall_ne_some.2 fun x hx => hname ⟨x, hx⟩

/-- A call adds what it makes known and where it switches to; one that fails changes nothing. -/
theorem make (c : Call α) : (c.make.after s).Follows (entries ++ c.entry?.toList)
    (targets ++ (c.target? (c.make.answer s)).toList) := by
  cases c with
  | register name x =>
    rw [Call.entry?, Call.target?, Option.toList_some, Option.toList_none, List.append_nil]
    · exact h.register name x
    · exact nofun
  | activate name =>
    rw [Call.entry?, Option.toList_none, List.append_nil]
    by_cases hname : name ∈ entries.map (·.1)
    · have hmake := h.make_activate hname
      rw [Action.after_of_ok hmake, Action.answer_of_ok hmake]
      exact h.activate hname
    · have hmake := h.refuse_activate hname
      rw [Action.after_of_error hmake, Action.answer_of_error hmake, Call.target?,
        Option.toList_none, List.append_nil]
      · exact h
      · exact nofun

/-- So it is with any calls, made one after the other. -/
theorem run (calls : List (Call α)) :
    (s.leave calls).Follows (entries ++ registered calls) (targets ++ s.switched calls) := by
  induction calls generalizing s entries targets with
  | nil => simpa [leave, registered, switched] using h
  | cons c rest ih =>
    have hrest := ih (h.make c)
    rw [List.append_assoc, List.append_assoc] at hrest
    have hentries : registered (c :: rest) = c.entry?.toList ++ registered rest := by
      rw [registered, List.filterMap_cons]
      cases c.entry? with
      | none => rfl
      | some e => rfl
    rw [hentries]
    exact hrest

/-- Once something is known, the current strategy is the newest one of the active name. -/
theorem current (hne : entries ≠ []) : ∃ name x, s.active = some name ∧
    newest? entries name = some x ∧ s.current = .ok x := by
  obtain ⟨name, hactive⟩ := Option.ne_none_iff_exists'.1 (mt h.active_eq_none_iff.1 hne)
  obtain ⟨x, hx⟩ := Bindings.mem_names_iff.1 (h.mem_names_iff.2 (h.mem_of_active hactive))
  exact ⟨name, x, hactive, h.get?_known name ▸ hx, current_of_known hactive hx⟩

end Follows

theorem of_follows (calls : List (Call α)) :
    (of calls).Follows (registered calls) (switched empty calls) := follows_empty.run calls

/-- After any calls the active strategy is a known one. There is none exactly if none was made
known. Else it is the one that the last switch which succeeded was to, or the first one made known.
A switch succeeds exactly if the name was made known, and one to another name is refused and changes
nothing. The newest strategy of the active name decides; only before the first one is made known is
there none to decide. -/
theorem routes_to_newest (calls : List (Call (Strategy σ))) :
    ((of calls).active = none ↔ registered calls = []) ∧
    (of calls).active =
      (switched empty calls).getLast?.or ((registered calls).head?.map (·.1)) ∧
    (∀ name, name ∈ (of calls).known.names ↔ name ∈ (registered calls).map (·.1)) ∧
    (∀ name, (of calls).active = some name → name ∈ (of calls).known.names) ∧
    (∀ name, name ∈ (registered calls).map (·.1) →
      (Call.activate name).make (of calls) = .ok () { of calls with active := some name }) ∧
    (∀ name, name ∉ (registered calls).map (·.1) →
      (Call.activate name).make (of calls) =
        .error (.error (.strategyNotFound name)) (of calls)) ∧
    (registered calls = [] → ∀ q,
      (of calls).decide q = Action.fail (.strategyNotFound "no active strategy")) ∧
    (registered calls ≠ [] → ∃ name x, (of calls).active = some name ∧
      newest? (registered calls) name = some x ∧ (of calls).current = .ok x ∧
      ∀ q, (of calls).decide q = x.decide q) := by
  have h := of_follows calls
  refine ⟨h.active_eq_none_iff, h.active, fun _ => h.mem_names_iff,
    fun name hactive => h.mem_names_iff.2 (h.mem_of_active hactive),
    fun _ => h.make_activate, fun _ => h.refuse_activate, fun hnone => ?_, fun hne => ?_⟩
  · exact decide_of_error (current_of_inactive (h.active_eq_none_iff.2 hnone))
  · obtain ⟨name, x, hactive, hnewest, hcurrent⟩ := h.current hne
    exact ⟨name, x, hactive, hnewest, hcurrent, decide_of_ok hcurrent⟩

/-- A strategy that gives its reason and no victims. -/
def reasoning (name reason : String) : Strategy Unit :=
  ⟨name, fun q => pure { Decision.none q with reason := reason }⟩

/-- One name is switched to, and then its strategy is replaced. Two switches come to nothing. -/
def replacedCalls : List (Call (Strategy Unit)) :=
  [.activate "b", .register "a" (reasoning "a" "first"), .register "b" (reasoning "b" "second"),
    .activate "b", .activate "c", .register "b" (reasoning "b" "third")]

/-- The one that came in its place decides. -/
theorem routes_to_newest_replaced :
    switched empty replacedCalls = ["b"] ∧ (of replacedCalls).active = some "b" ∧
    "b" ∈ (of replacedCalls).known.names ∧
    (Call.activate "a").make (of replacedCalls) =
      .ok () { of replacedCalls with active := some "a" } ∧
    (Call.activate "c").make (of replacedCalls) =
      .error (.error (.strategyNotFound "c")) (of replacedCalls) ∧
    (∀ q, (of replacedCalls).decide q = pure { Decision.none q with reason := "third" }) ∧
    ∀ q, (of ([] : List (Call (Strategy Unit)))).decide q =
      Action.fail (.strategyNotFound "no active strategy") := by
  obtain ⟨-, -, -, hknown, hswitch, hrefuse, -, hdecide⟩ := routes_to_newest replacedCalls
  obtain ⟨-, -, -, -, -, -, hnone, -⟩ := routes_to_newest ([] : List (Call (Strategy Unit)))
  have hactive : (of replacedCalls).active = some "b" := by decide
  obtain ⟨name, x, hname, hnewest, -, hdecides⟩ := hdecide (List.cons_ne_nil _ _)
  obtain rfl : "b" = name := Option.some.inj (hactive.symm.trans hname)
  obtain rfl : reasoning "b" "third" = x := Option.some.inj hnewest
  exact ⟨by decide, hactive, hknown "b" hactive, hswitch "a" (by decide), hrefuse "c" (by decide),
    hdecides, hnone rfl⟩

end GpuCluster.Preemption.Strategies
