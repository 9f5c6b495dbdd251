import Mathlib.Data.List.Basic
import Mathlib.Data.List.Sublists

/-!
# Storage with unflushed operations

A journal is a durable value and the operations applied to it since the last flush.
A reader sees all of them; a crash keeps some of them, in their order.
-/

set_option autoImplicit false

universe u v

structure Journal (α : Type u) (op : Type v) where
  durable : α
  pending : List op

namespace Journal

variable {α : Type u} {op : Type v}

/-- A value with nothing left to flush. -/
def settled (value : α) : Journal α op := ⟨value, []⟩

def append (journal : Journal α op) (operation : op) : Journal α op :=
  { journal with pending := journal.pending ++ [operation] }

variable (apply : α → op → α)

def contents (journal : Journal α op) : α := journal.pending.foldl apply journal.durable

def flush (journal : Journal α op) : Journal α op := settled (contents apply journal)

/-- What a crash can leave. -/
def Image (journal : Journal α op) (image : α) : Prop :=
  ∃ kept : List op, kept.Sublist journal.pending ∧ image = kept.foldl apply journal.durable

@[simp] theorem contents_settled (value : α) :
    contents apply (settled value : Journal α op) = value := rfl

@[simp] theorem contents_append (journal : Journal α op) (operation : op) :
    contents apply (journal.append operation) = apply (contents apply journal) operation := by
  simp [contents, append]

theorem image_contents (journal : Journal α op) :
    Image apply journal (contents apply journal) :=
  ⟨journal.pending, List.Sublist.refl _, rfl⟩

theorem image_settled {value image : α} :
    Image apply (settled value : Journal α op) image ↔ image = value := by
  constructor
  · rintro ⟨kept, sublist, rfl⟩
    rw [List.sublist_nil.mp sublist]
    rfl
  · rintro rfl
    exact image_contents apply (settled image)

theorem image_append {journal : Journal α op} {operation : op} {image : α}
    (found : Image apply (journal.append operation) image) :
    Image apply journal image ∨
      ∃ earlier, Image apply journal earlier ∧ image = apply earlier operation := by
  obtain ⟨kept, sublist, rfl⟩ := found
  obtain ⟨before, last, rfl, inBefore, inLast⟩ := List.sublist_append_iff.mp sublist
  rcases List.sublist_singleton.mp inLast with rfl | rfl
  · exact .inl ⟨before, inBefore, by simp [append]⟩
  · exact .inr ⟨before.foldl apply journal.durable, ⟨before, inBefore, rfl⟩, by simp [append]⟩

end Journal
