import Mathlib.Tactic.Ring
import SqliteVfs.Base.SparseVector

/-!
# A vector stored in blocks of one size

Lists of blocks that all have length `c`, read as the vector of their joined cells.
-/

set_option autoImplicit false

namespace Blocks

open SparseVector

universe u

variable {α : Type u}

def Uniform (c : Nat) (blocks : List (List α)) : Prop := ∀ block ∈ blocks, block.length = c

theorem Uniform.append {c : Nat} {blocks more : List (List α)} (h : Uniform c blocks)
    (h' : Uniform c more) : Uniform c (blocks ++ more) := by
  intro block member
  rcases List.mem_append.mp member with member | member
  · exact h block member
  · exact h' block member

theorem Uniform.take {c : Nat} {blocks : List (List α)} (h : Uniform c blocks) (n : Nat) :
    Uniform c (blocks.take n) :=
  fun block member => h block (List.mem_of_mem_take member)

theorem Uniform.drop {c : Nat} {blocks : List (List α)} (h : Uniform c blocks) (n : Nat) :
    Uniform c (blocks.drop n) :=
  fun block member => h block (List.mem_of_mem_drop member)

theorem Uniform.set {c : Nat} {blocks : List (List α)} (h : Uniform c blocks) (i : Nat)
    {block : List α} (whole : block.length = c) : Uniform c (blocks.set i block) := by
  intro other member
  rcases List.mem_or_eq_of_mem_set member with member | rfl
  · exact h other member
  · exact whole

theorem Uniform.replicate {c : Nat} {block : List α} (whole : block.length = c) (n : Nat) :
    Uniform c (List.replicate n block) := by
  intro other member
  rw [List.eq_of_mem_replicate member, whole]

theorem length_flatten {c : Nat} {blocks : List (List α)} (h : Uniform c blocks) :
    blocks.flatten.length = blocks.length * c := by
  induction blocks with
  | nil => simp
  | cons block rest ih =>
      have headLength : block.length = c := h block (List.mem_cons_self ..)
      have restLength := ih fun other member => h other (List.mem_cons_of_mem _ member)
      rw [List.flatten_cons, List.length_append, headLength, restLength, List.length_cons]
      ring

theorem drop_flatten {c : Nat} {blocks : List (List α)} (h : Uniform c blocks) (i : Nat) :
    blocks.flatten.drop (i * c) = (blocks.drop i).flatten := by
  induction i generalizing blocks with
  | zero => simp
  | succ i ih =>
      cases blocks with
      | nil => simp
      | cons block rest =>
          have headLength : block.length = c := h block (List.mem_cons_self ..)
          have split : (i + 1) * c = block.length + i * c := by rw [headLength]; ring
          rw [List.drop_succ_cons, List.flatten_cons, split, List.drop_length_add_append]
          exact ih fun other member => h other (List.mem_cons_of_mem _ member)

theorem take_flatten {c : Nat} {blocks : List (List α)} (h : Uniform c blocks) (i : Nat) :
    blocks.flatten.take (i * c) = (blocks.take i).flatten := by
  induction i generalizing blocks with
  | zero => simp
  | succ i ih =>
      cases blocks with
      | nil => simp
      | cons block rest =>
          have headLength : block.length = c := h block (List.mem_cons_self ..)
          have split : (i + 1) * c = block.length + i * c := by rw [headLength]; ring
          rw [List.take_succ_cons, List.flatten_cons, List.flatten_cons, split,
            List.take_length_add_append, ih fun other member =>
            h other (List.mem_cons_of_mem _ member)]

/-- Block `i` is the cells `[i * c, i * c + c)`. -/
theorem block_eq {c : Nat} {blocks : List (List α)} (h : Uniform c blocks) {i : Nat}
    {block : List α} (found : blocks[i]? = some block) :
    readAt blocks.flatten (i * c) c = block := by
  obtain ⟨inside, rfl⟩ := List.getElem?_eq_some_iff.mp found
  have whole : blocks[i].length = c := h _ (List.getElem_mem inside)
  rw [readAt, drop_flatten h, List.drop_eq_getElem_cons inside, List.flatten_cons]
  exact List.take_left' whole

variable [Zero α]

/-- Overwriting cells `[r, r + n)` of block `i` is a write at `i * c + r`. -/
theorem flatten_set {c : Nat} {blocks : List (List α)} (h : Uniform c blocks) {i : Nat}
    {block : List α} (found : blocks[i]? = some block) (r : Nat) (part : List α)
    (inside : r + part.length ≤ c) :
    (blocks.set i (block.take r ++ part ++ block.drop (r + part.length))).flatten =
      writeAt blocks.flatten (i * c + r) part := by
  obtain ⟨bound, rfl⟩ := List.getElem?_eq_some_iff.mp found
  have whole : blocks[i].length = c := h _ (List.getElem_mem bound)
  have before : (blocks.take i).flatten.length = i * c := by
    rw [length_flatten (h.take i), List.length_take, Nat.min_eq_left bound.le]
  have joined : blocks.flatten =
      (blocks.take i).flatten ++ blocks[i] ++ (blocks.drop (i + 1)).flatten := by
    conv_lhs => rw [← List.take_append_drop i blocks, List.drop_eq_getElem_cons bound]
    rw [List.flatten_append, List.flatten_cons, List.append_assoc]
  rw [List.set_eq_take_append_cons_drop, if_pos bound, List.flatten_append, List.flatten_cons,
    joined]
  apply List.ext_getElem?
  intro j
  simp only [getElem?_writeAt, List.getElem?_append, List.length_append, List.length_take,
    List.length_drop, before, whole, List.getElem?_take, List.getElem?_drop]
  split_ifs <;> first | rfl | omega | (congr 1; omega)

end Blocks
