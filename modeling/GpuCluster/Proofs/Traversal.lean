import Mathlib.Data.List.Forall2

/-!
# Traversals that may break off

* `mapM_eq_some_iff`, `mapM_eq_ok_iff` : a traversal has a result exactly if it has one at every
  place, and the results are these;
* `mapM_eq_error_iff` : it fails as it does at the first place where it fails;
* `forall₂_comp_iff` : two traversals, one after the other.
-/

namespace GpuCluster.Traversal

variable {α β ε : Type} {l : List α} {bs : List β}

theorem mapM_eq_some_iff {f : α → Option β} :
    l.mapM f = some bs ↔ List.Forall₂ (fun a b => f a = some b) l bs := by
  induction l generalizing bs with
  | nil => simp [eq_comm]
  | cons a rest ih =>
    rw [List.mapM_cons, List.forall₂_cons_left_iff]
    simp only [bind, Option.bind_eq_some_iff, pure, Option.some.injEq, ih]
    constructor
    · rintro ⟨b, hb, bs', hrest, rfl⟩
      exact ⟨b, bs', hb, hrest, rfl⟩
    · rintro ⟨b, bs', hb, hrest, rfl⟩
      exact ⟨b, hb, bs', hrest, rfl⟩

theorem mapM_eq_ok_iff {f : α → Except ε β} :
    l.mapM f = .ok bs ↔ List.Forall₂ (fun a b => f a = .ok b) l bs := by
  induction l generalizing bs with
  | nil => simp [pure, Except.pure, eq_comm]
  | cons a rest ih =>
    rw [List.mapM_cons, List.forall₂_cons_left_iff]
    cases ha : f a with
    | error e => simp [bind, Except.bind]
    | ok b =>
      simp only [← ih]
      cases hrest : rest.mapM f with
      | error e => simp [bind, Except.bind]
      | ok bs' => simp [bind, Except.bind, pure, Except.pure, eq_comm]

/-- The first failure is that of the traversal. -/
theorem mapM_eq_error_iff {f : α → Except ε β} {e : ε} :
    l.mapM f = .error e ↔ ∃ front a back, l = front ++ a :: back ∧
      (∀ x ∈ front, ∃ b, f x = .ok b) ∧ f a = .error e := by
  induction l with
  | nil => simp [pure, Except.pure]
  | cons a rest ih =>
    rw [List.mapM_cons]
    cases ha : f a with
    | error e' =>
      show (Except.error e' : Except ε (List β)) = .error e ↔ _
      constructor
      · rintro ⟨⟩
        exact ⟨[], a, rest, rfl, by simp, ha⟩
      · rintro ⟨front, x, back, heq, hfront, hx⟩
        cases front with
        | nil =>
          obtain ⟨rfl, -⟩ := List.cons.inj heq
          rw [ha] at hx
          cases hx
          rfl
        | cons y front =>
          obtain ⟨rfl, -⟩ := List.cons.inj heq
          obtain ⟨b, hb⟩ := hfront a List.mem_cons_self
          rw [ha] at hb
          cases hb
    | ok b =>
      have hrest : (do let bs ← rest.mapM f; pure (b :: bs) : Except ε (List β)) = .error e ↔
          rest.mapM f = .error e := by
        cases rest.mapM f <;> simp [bind, Except.bind, pure, Except.pure]
      refine hrest.trans (ih.trans ⟨?_, ?_⟩)
      · rintro ⟨front, x, back, rfl, hfront, hx⟩
        refine ⟨a :: front, x, back, rfl, fun y hy => ?_, hx⟩
        rcases List.mem_cons.1 hy with rfl | hy
        · exact ⟨b, ha⟩
        · exact hfront y hy
      · rintro ⟨front, x, back, heq, hfront, hx⟩
        cases front with
        | nil =>
          obtain ⟨rfl, -⟩ := List.cons.inj heq
          rw [ha] at hx
          cases hx
        | cons y front =>
          obtain ⟨rfl, rfl⟩ := List.cons.inj heq
          exact ⟨front, x, back, rfl, fun z hz => hfront z (List.mem_cons_of_mem _ hz), hx⟩

/-- Two traversals, one after the other. -/
theorem forall₂_comp_iff {γ : Type} {R : α → β → Prop} {S : β → γ → Prop} {cs : List γ} :
    (∃ bs, List.Forall₂ R l bs ∧ List.Forall₂ S bs cs) ↔
      List.Forall₂ (fun a c => ∃ b, R a b ∧ S b c) l cs := by
  induction l generalizing cs with
  | nil => simp [List.forall₂_nil_left_iff]
  | cons a rest ih =>
    constructor
    · rintro ⟨_, _ | ⟨hab, hrest⟩, _ | ⟨hbc, hcs⟩⟩
      exact .cons ⟨_, hab, hbc⟩ (ih.1 ⟨_, hrest, hcs⟩)
    · rintro (_ | ⟨⟨b, hab, hbc⟩, hrest⟩)
      obtain ⟨bs, hbs, hcs⟩ := ih.2 hrest
      exact ⟨b :: bs, .cons hab hbs, .cons hbc hcs⟩

end GpuCluster.Traversal
