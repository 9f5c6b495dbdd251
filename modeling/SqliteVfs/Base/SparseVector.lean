import Mathlib.Data.List.Basic
import Mathlib.Data.List.TakeDrop
import Mathlib.Algebra.Group.Defs

/-!
# Vectors with zero-filled extension

A vector is a list of cells.  `readAt` takes the cells that exist, `writeAt` may
start past the end and then fills the gap with zeros, `resize` cuts or extends with
zeros.  The lemmas describe each operation cell by cell and then derive how the
operations compose; nothing here knows what the cells are.
-/

set_option autoImplicit false

namespace SparseVector

universe u

variable {α : Type u} [Zero α]

omit [Zero α] in
/-- The cells of `v` in `[off, off + n)` that exist. -/
def readAt (v : List α) (off n : Nat) : List α := (v.drop off).take n

/-- `v` with `bs` placed at `off`; the gap after the old end, if any, reads as zero. -/
def writeAt (v : List α) (off : Nat) (bs : List α) : List α :=
  v.take off ++ List.replicate (off - v.length) 0 ++ bs ++ v.drop (off + bs.length)

/-- `v` cut to `n` cells, or extended to `n` cells with zeros. -/
def resize (v : List α) (n : Nat) : List α :=
  v.take n ++ List.replicate (n - v.length) 0

def zeros (n : Nat) : List α := List.replicate n 0

/-! ## Lengths -/

omit [Zero α] in
@[simp] theorem length_readAt (v : List α) (off n : Nat) :
    (readAt v off n).length = min n (v.length - off) := by
  simp [readAt]

@[simp] theorem length_writeAt (v : List α) (off : Nat) (bs : List α) :
    (writeAt v off bs).length = max v.length (off + bs.length) := by
  simp only [writeAt, List.length_append, List.length_take, List.length_replicate,
    List.length_drop]
  omega

@[simp] theorem length_resize (v : List α) (n : Nat) : (resize v n).length = n := by
  simp only [resize, List.length_append, List.length_take, List.length_replicate]
  omega

@[simp] theorem length_zeros (n : Nat) : (zeros n : List α).length = n := by
  simp [zeros]

/-! ## Cells -/

theorem getElem?_writeAt (v : List α) (off : Nat) (bs : List α) (i : Nat) :
    (writeAt v off bs)[i]? =
      if i < off then (if i < v.length then v[i]? else some 0)
      else if i < off + bs.length then bs[i - off]? else v[i]? := by
  have prefixLength :
      (v.take off ++ List.replicate (off - v.length) (0 : α)).length = off := by
    simp only [List.length_append, List.length_take, List.length_replicate]
    omega
  unfold writeAt
  by_cases before : i < off
  · rw [List.append_assoc, List.getElem?_append_left (by omega), if_pos before]
    by_cases inside : i < v.length
    · rw [List.getElem?_append_left (by simp; omega), List.getElem?_take_of_lt before,
        if_pos inside]
    · rw [List.getElem?_append_right (by simp; omega), if_neg inside, List.getElem?_replicate,
        if_pos (by simp; omega)]
  · rw [if_neg before]
    by_cases written : i < off + bs.length
    · rw [List.getElem?_append_left (by simp only [List.length_append] at *; omega),
        List.getElem?_append_right (by omega), prefixLength, if_pos written]
    · rw [List.getElem?_append_right (by simp only [List.length_append] at *; omega),
        if_neg written, List.getElem?_drop, List.length_append, prefixLength]
      congr 1
      omega

theorem getElem?_resize (v : List α) (n i : Nat) :
    (resize v n)[i]? = if i < n then (if i < v.length then v[i]? else some 0) else none := by
  unfold resize
  by_cases kept : i < n
  · rw [if_pos kept]
    by_cases inside : i < v.length
    · rw [List.getElem?_append_left (by simp; omega), List.getElem?_take_of_lt kept,
        if_pos inside]
    · rw [List.getElem?_append_right (by simp; omega), if_neg inside, List.getElem?_replicate,
        if_pos (by simp; omega)]
  · rw [if_neg kept, List.getElem?_eq_none]
    simp
    omega

theorem getElem?_zeros (n i : Nat) :
    (zeros n : List α)[i]? = if i < n then some 0 else none := by
  simp [zeros, List.getElem?_replicate]

theorem mem_writeAt {v bs : List α} {off : Nat} {x : α} (member : x ∈ writeAt v off bs) :
    x ∈ v ∨ x ∈ bs ∨ x = 0 := by
  simp only [writeAt, List.mem_append] at member
  rcases member with ((kept | gap) | written) | kept
  · exact .inl (List.mem_of_mem_take kept)
  · exact .inr (.inr (List.eq_of_mem_replicate gap))
  · exact .inr (.inl written)
  · exact .inl (List.mem_of_mem_drop kept)

theorem mem_resize {v : List α} {n : Nat} {x : α} (member : x ∈ resize v n) : x ∈ v ∨ x = 0 := by
  simp only [resize, List.mem_append] at member
  rcases member with kept | gap
  · exact .inl (List.mem_of_mem_take kept)
  · exact .inr (List.eq_of_mem_replicate gap)

omit [Zero α] in
theorem mem_readAt {v : List α} {off n : Nat} {x : α} (member : x ∈ readAt v off n) : x ∈ v :=
  List.mem_of_mem_drop (List.mem_of_mem_take member)

/-! ## Composition -/

theorem writeAt_writeAt (v : List α) (off : Nat) (as bs : List α) :
    writeAt (writeAt v off as) (off + as.length) bs = writeAt v off (as ++ bs) := by
  apply List.ext_getElem?
  intro i
  simp only [getElem?_writeAt, length_writeAt, List.length_append, List.getElem?_append]
  split_ifs <;> first | rfl | omega | (congr 1; omega)

theorem drop_writeAt_of_le (v : List α) (off : Nat) (bs : List α) (n : Nat)
    (inside : off + bs.length ≤ n) (covered : off + bs.length ≤ v.length) :
    (writeAt v off bs).drop n = v.drop n := by
  apply List.ext_getElem?
  intro i
  simp only [List.getElem?_drop, getElem?_writeAt]
  split_ifs <;> first | rfl | omega

/-- A write past the first `n` cells leaves them alone. -/
theorem take_writeAt_of_le (v : List α) (off : Nat) (bs : List α) (n : Nat)
    (after : n ≤ off) (long : n ≤ v.length) :
    (writeAt v off bs).take n = v.take n := by
  apply List.ext_getElem?
  intro i
  simp only [List.getElem?_take, getElem?_writeAt]
  split_ifs <;> first | rfl | omega

/-- Past a prefix of length `n`, a shifted write is the write on the rest. -/
theorem drop_writeAt_shift (v : List α) (n off : Nat) (bs : List α) (long : n ≤ v.length) :
    (writeAt v (n + off) bs).drop n = writeAt (v.drop n) off bs := by
  apply List.ext_getElem?
  intro i
  simp only [List.getElem?_drop, getElem?_writeAt, List.length_drop]
  split_ifs <;> first | rfl | omega | (congr 1; omega)

theorem drop_resize_shift (v : List α) (n m : Nat) (long : n ≤ v.length) :
    (resize v (n + m)).drop n = resize (v.drop n) m := by
  apply List.ext_getElem?
  intro i
  simp only [List.getElem?_drop, getElem?_resize, List.length_drop]
  split_ifs <;> first | rfl | omega

theorem take_resize_of_le (v : List α) (n m : Nat) (kept : n ≤ m) (long : n ≤ v.length) :
    (resize v m).take n = v.take n := by
  apply List.ext_getElem?
  intro i
  simp only [List.getElem?_take, getElem?_resize]
  split_ifs <;> first | rfl | omega

theorem take_writeAt_zero (v bs : List α) (n : Nat) (whole : bs.length = n) :
    (writeAt v 0 bs).take n = bs := by
  subst whole
  simp [writeAt]

theorem writeAt_zero_of_length_le (v bs : List α) (covered : v.length ≤ bs.length) :
    writeAt v 0 bs = bs := by
  simp [writeAt, List.drop_eq_nil_of_le covered]

theorem writeAt_length (v bs : List α) : writeAt v v.length bs = v ++ bs := by
  simp [writeAt]

theorem writeAt_nil (v : List α) (off : Nat) (inside : off ≤ v.length) :
    writeAt v off [] = v := by
  simp [writeAt, Nat.sub_eq_zero_of_le inside]

/-- Spare zeros behind the vector change what a write leaves behind it, not its result. -/
theorem take_writeAt_append_zeros (v : List α) (k off : Nat) (bs : List α) :
    (writeAt (v ++ zeros k) off bs).take (max v.length (off + bs.length)) = writeAt v off bs := by
  apply List.ext_getElem?
  intro i
  simp only [List.getElem?_take, getElem?_writeAt, List.getElem?_append, List.length_append,
    length_zeros, getElem?_zeros]
  split_ifs <;> first | rfl | omega | (rw [List.getElem?_eq_none]; omega)

theorem drop_writeAt_append_zeros (v : List α) (k off : Nat) (bs : List α) :
    (writeAt (v ++ zeros k) off bs).drop (max v.length (off + bs.length)) =
      zeros (v.length + k - max v.length (off + bs.length)) := by
  apply List.ext_getElem?
  intro i
  simp only [List.getElem?_drop, getElem?_writeAt, List.getElem?_append, List.length_append,
    length_zeros, getElem?_zeros]
  split_ifs <;> first | rfl | omega

theorem mem_zeros {n : Nat} {x : α} (member : x ∈ (zeros n : List α)) : x = 0 :=
  List.eq_of_mem_replicate member

theorem zeros_append (m n : Nat) : (zeros m : List α) ++ zeros n = zeros (m + n) :=
  List.replicate_append_replicate

omit [Zero α] in
theorem readAt_all (v : List α) : readAt v 0 v.length = v := by
  simp [readAt]

omit [Zero α] in
theorem readAt_append (v : List α) (off m n : Nat) :
    readAt v off m ++ readAt v (off + m) n = readAt v off (m + n) := by
  simp only [readAt, ← List.drop_drop]
  exact (List.take_add).symm

end SparseVector
