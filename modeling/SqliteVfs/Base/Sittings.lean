import Mathlib.Data.List.Basic

/-!
# Resources with several handles

A store gives out handles on resources.  A `Sitting` follows one resource through the steps
of its store for as long as it has handles, and collects the marks of the handles that are
closed, in order.  A mark asks for the resource to be gone when its handles are.
-/

set_option autoImplicit false

universe u v w

structure HandleStore (σ : Type u) (ρ : Type v) (Name : Type w) where
  /-- The open handles of a resource. -/
  handles : σ → ρ → Nat
  names : σ → Name → Option ρ
  Step : σ → σ → Prop
  /-- One handle on the resource is closed; it has this mark. -/
  Close : ρ → Bool → σ → σ → Prop
  /-- What an open handle is worth. -/
  Usable : σ → ρ → Prop
  /-- What becomes of a resource that no name leads to any more. -/
  Recycled : σ → ρ → Prop

namespace HandleStore

variable {σ : Type u} {ρ : Type v} {Name : Type w} {store : HandleStore σ ρ Name} {resource : ρ}
  {start s last : σ} {marks : List Bool} {mark : Bool}

/-- Between two closes the resource may get more handles, but it does not lose any. -/
inductive Sitting (store : HandleStore σ ρ Name) (resource : ρ) (start : σ) :
    List Bool → σ → Prop
  | refl : Sitting store resource start [] start
  | step {marks : List Bool} {s s' : σ} : Sitting store resource start marks s →
      store.handles s resource ≠ 0 → store.Step s s' →
      store.handles s resource ≤ store.handles s' resource → Sitting store resource start marks s'
  | close {marks : List Bool} {mark : Bool} {s s' : σ} : Sitting store resource start marks s →
      store.Close resource mark s s' → Sitting store resource start (marks ++ [mark]) s'

def Gone (store : HandleStore σ ρ Name) (s : σ) (resource : ρ) : Prop :=
  (∀ name, store.names s name ≠ some resource) ∧ store.Recycled s resource

structure Honours (store : HandleStore σ ρ Name) (resource : ρ) (marks : List Bool) (last : σ) :
    Prop where
  gone : store.handles last resource = 0 → true ∈ marks → store.Gone last resource
  spared : ∀ mark next, store.Close resource mark last next → ∀ name other, other ≠ resource →
    (store.names next name = some other ↔ store.names last name = some other)
  usable : ∀ other, store.handles last other ≠ 0 → store.Usable last other

namespace Sitting

/-- What steps and closes keep, a sitting keeps. -/
theorem invariant {Inv : σ → Prop} (sitting : Sitting store resource start marks last)
    (steps : ∀ s s', Inv s → store.Step s s' → Inv s')
    (closes : ∀ mark s s', Inv s → store.Close resource mark s s' → Inv s')
    (initially : Inv start) : Inv last := by
  induction sitting with
  | refl => exact initially
  | step _ _ once _ ih => exact steps _ _ ih once
  | close _ closed ih => exact closes _ _ _ ih closed

/-- A property that every marked close brings about, and that nothing takes away, holds once
a marked handle was closed. -/
theorem of_marked {Inv P : σ → Prop} (sitting : Sitting store resource start marks last)
    (steps : ∀ s s', Inv s → store.Step s s' → Inv s' ∧ (P s → P s'))
    (closes : ∀ mark s s', Inv s → store.Close resource mark s s' →
      Inv s' ∧ (P s ∨ mark = true → P s'))
    (initially : Inv start) : Inv last ∧ (true ∈ marks → P last) := by
  induction sitting with
  | refl => exact ⟨initially, nofun⟩
  | step _ _ once _ ih =>
      obtain ⟨inv, keeps⟩ := steps _ _ ih.1 once
      exact ⟨inv, fun marked => keeps (ih.2 marked)⟩
  | close _ closed ih =>
      obtain ⟨inv, keeps⟩ := closes _ _ _ ih.1 closed
      refine ⟨inv, fun marked => keeps ?_⟩
      rcases List.mem_append.mp marked with earlier | now
      · exact .inl (ih.2 earlier)
      · exact .inr (List.mem_singleton.mp now).symm

theorem closing (sitting : Sitting store resource start marks last)
    (held : store.handles start resource ≠ 0) (shut : store.handles last resource = 0) :
    ∃ earlier mark s, marks = earlier ++ [mark] ∧ Sitting store resource start earlier s ∧
      store.Close resource mark s last := by
  cases sitting with
  | refl => exact absurd shut held
  | step _ before _ kept => exact absurd (Nat.le_antisymm (shut ▸ kept) (Nat.zero_le _)) before
  | close earlier closed => exact ⟨_, _, _, rfl, earlier, closed⟩

end Sitting

end HandleStore
