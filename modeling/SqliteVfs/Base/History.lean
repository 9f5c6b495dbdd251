import Mathlib.Data.List.Basic

/-!
# Histories

A history lists events in the order they happened.  `Always P history` says that every
event of it satisfied `P` with respect to the events before it.  Protocol rules are
stated this way: they are kept by appending an allowed event, and read off at any
position.
-/

set_option autoImplicit false

universe u

variable {α : Type u} {P Q : List α → α → Prop} {history : List α} {event : α}

def Always (P : List α → α → Prop) (history : List α) : Prop :=
  ∀ before event after, history = before ++ event :: after → P before event

namespace Always

theorem nil : Always P [] := by
  intro before event after split
  simp at split

theorem snoc (earlier : Always P history) (allowed : P history event) :
    Always P (history ++ [event]) := by
  intro before found after split
  rcases List.eq_nil_or_concat after with rfl | ⟨rest, last, rfl⟩
  · obtain ⟨same, here⟩ := List.append_inj' split rfl
    obtain rfl : event = found := by simpa using here
    rw [← same]
    exact allowed
  · have longer : history ++ [event] = (before ++ found :: rest) ++ [last] := by
      simpa using split
    obtain ⟨same, -⟩ := List.append_inj' longer rfl
    exact earlier before found rest same

end Always
