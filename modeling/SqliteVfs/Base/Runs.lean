import Mathlib.Data.List.Basic

/-!
# Runs of a labelled step

`Runs step start labels last` says that the steps with these labels, one after the other,
lead from `start` to `last`.  What a step keeps, a run keeps.
-/

set_option autoImplicit false

universe u v w x

variable {σ : Type u} {ι : Type v} {τ : Type w} {κ : Type x}

inductive Runs (step : σ → ι → σ → Prop) (start : σ) : List ι → σ → Prop
  | refl : Runs step start [] start
  | snoc {labels : List ι} {s s' : σ} {label : ι} :
      Runs step start labels s → step s label s' → Runs step start (labels ++ [label]) s'

namespace Runs

variable {step step' : σ → ι → σ → Prop} {start middle last : σ} {labels labels' : List ι}

theorem single {label : ι} (once : step start label last) : Runs step start [label] last :=
  .snoc .refl once

theorem trans (first : Runs step start labels middle) (second : Runs step middle labels' last) :
    Runs step start (labels ++ labels') last := by
  induction second with
  | refl =>
      rw [List.append_nil]
      exact first
  | snoc _ once ih =>
      rw [← List.append_assoc]
      exact .snoc ih once

theorem mono (runs : Runs step start labels last)
    (wider : ∀ s label s', step s label s' → step' s label s') : Runs step' start labels last := by
  induction runs with
  | refl => exact .refl
  | snoc _ once ih => exact .snoc ih (wider _ _ _ once)

/-- An invariant of the allowed steps holds at the end of a run of them. -/
theorem invariant {P : σ → Prop} {A : ι → Prop} (runs : Runs step start labels last)
    (kept : ∀ s label s', P s → A label → step s label s' → P s')
    (initially : P start) (allowed : ∀ label ∈ labels, A label) : P last := by
  induction runs with
  | refl => exact initially
  | snoc _ once ih =>
      refine kept _ _ _ (ih fun label member => ?_) (allowed _ ?_) once
      · exact allowed label (List.mem_append_left _ member)
      · exact List.mem_append_right _ (List.mem_singleton.mpr rfl)

/-- A run is simulated where each of its allowed steps is. -/
theorem simulates {R : σ → τ → Prop} {A : ι → Prop} {relabel : ι → κ} {step' : τ → κ → τ → Prop}
    {start' : τ} (runs : Runs step start labels last)
    (square : ∀ s label s' t, R s t → A label → step s label s' →
      ∃ t', step' t (relabel label) t' ∧ R s' t')
    (initially : R start start') (allowed : ∀ label ∈ labels, A label) :
    ∃ last', Runs step' start' (labels.map relabel) last' ∧ R last last' := by
  induction runs with
  | refl => exact ⟨start', .refl, initially⟩
  | snoc _ once ih =>
      obtain ⟨t, runs', related⟩ := ih fun label member => allowed label
        (List.mem_append_left _ member)
      have here := allowed _ (List.mem_append_right _ (List.mem_singleton.mpr rfl))
      obtain ⟨t', once', related'⟩ := square _ _ _ _ related here once
      refine ⟨t', ?_, related'⟩
      rw [List.map_append, List.map_singleton]
      exact .snoc runs' once'

end Runs
