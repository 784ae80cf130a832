/-!
# Runs of a step relation

`Runs step s es t` says that the labelled steps `es` lead from `s` to `t`, one after the other.

* `Runs.invariant` : what holds at first and is kept by every step holds at the end,
  where it may speak of the labels so far;
* `Runs.relates` : a reflexive and transitive relation along every step relates start and end.
-/

namespace GpuCluster

/-- Labelled steps, one after the other. -/
inductive Runs {σ τ : Type} (step : σ → τ → σ → Prop) (s : σ) : List τ → σ → Prop
  | nil : Runs step s [] s
  | snoc {es : List τ} {e : τ} {t u : σ} (first : Runs step s es t) (last : step t e u) :
      Runs step s (es ++ [e]) u

namespace Runs

variable {σ τ : Type} {step : σ → τ → σ → Prop} {s t u : σ} {es fs : List τ}

theorem single {e : τ} (h : step s e t) : Runs step s [e] t := .snoc .nil h

theorem append (h : Runs step s es t) (h' : Runs step t fs u) : Runs step s (es ++ fs) u := by
  induction h' with
  | nil =>
    rw [List.append_nil]
    exact h
  | snoc _ last ih =>
    rw [← List.append_assoc]
    exact .snoc ih last

/-- What holds at first and is kept by every step holds at the end. -/
theorem invariant {I : List τ → σ → Prop} (h : Runs step s es t) (hs : I [] s)
    (hstep : ∀ es e t u, I es t → step t e u → I (es ++ [e]) u) : I es t := by
  induction h with
  | nil => exact hs
  | snoc _ last ih => exact hstep _ _ _ _ ih last

/-- A relation along every step that starts in an invariant relates start and end. -/
theorem relates {I : σ → Prop} {R : σ → σ → Prop} (h : Runs step s es t) (hs : I s)
    (hrefl : ∀ s, R s s) (htrans : ∀ s t u, R s t → R t u → R s u)
    (hstep : ∀ e t u, I t → step t e u → I u ∧ R t u) : R s t := by
  have hboth : I t ∧ R s t := by
    induction h with
    | nil => exact ⟨hs, hrefl s⟩
    | snoc _ last ih =>
      obtain ⟨hi, hr⟩ := hstep _ _ _ ih.1 last
      exact ⟨hi, htrans _ _ _ ih.2 hr⟩
  exact hboth.2

end Runs

end GpuCluster
