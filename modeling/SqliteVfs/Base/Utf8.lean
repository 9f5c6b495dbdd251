import Mathlib.Data.List.Basic

/-!
# Character boundaries

Where a UTF-8 text may be cut.  A byte is a continuation of a character when its two upper
bits are `10`; the cuts between characters are the ends and the places before any other byte.
-/

set_option autoImplicit false

namespace SqliteVfs

namespace Utf8

def encoded (text : List Char) : List UInt8 := text.flatMap String.utf8EncodeChar

@[simp] theorem encoded_nil : encoded [] = [] := rfl

@[simp] theorem encoded_cons (c : Char) (text : List Char) :
    encoded (c :: text) = String.utf8EncodeChar c ++ encoded text := List.flatMap_cons

@[simp] theorem encoded_append (front text : List Char) :
    encoded (front ++ text) = encoded front ++ encoded text := List.flatMap_append

/-- The bytes before `index` are whole characters. -/
def Cut (text : List Char) (index : Nat) : Prop :=
  ∃ front rest, text = front ++ rest ∧ (encoded front).length = index

/-! ## Bytes of a character -/

theorem continuation_and (byte : UInt8) : (byte &&& 0x3f ||| 0x80) &&& 0xc0 = 0x80 := by
  have bits : ∀ bits : BitVec 8, (bits &&& 0x3f#8 ||| 0x80#8) &&& 0xc0#8 = 0x80#8 := by decide
  exact UInt8.toBitVec_inj.mp (bits byte.toBitVec)

theorem first_and {byte : UInt8} (first : byte.IsUTF8FirstByte) : byte &&& 0xc0 ≠ 0x80 := by
  have bits : ∀ bits : BitVec 8, (bits &&& 0x80#8 = 0 ∨ bits &&& 0xe0#8 = 0xc0#8 ∨
      bits &&& 0xf0#8 = 0xe0#8 ∨ bits &&& 0xf8#8 = 0xf0#8) → bits &&& 0xc0#8 ≠ 0x80#8 := by decide
  intro continuation
  refine bits byte.toBitVec ?_ (UInt8.toBitVec_inj.mpr continuation)
  rcases first with one | two | three | four
  · exact .inl (UInt8.toBitVec_inj.mpr one)
  · exact .inr (.inl (UInt8.toBitVec_inj.mpr two))
  · exact .inr (.inr (.inl (UInt8.toBitVec_inj.mpr three)))
  · exact .inr (.inr (.inr (UInt8.toBitVec_inj.mpr four)))

/-- Only the first byte of a character is none of the continuations. -/
theorem utf8EncodeChar_bytes (c : Char) : ∃ first rest, String.utf8EncodeChar c = first :: rest ∧
    first &&& 0xc0 ≠ 0x80 ∧ ∀ byte ∈ rest, byte &&& 0xc0 = 0x80 := by
  have starts {first : UInt8} {rest : List UInt8}
      (bytes : String.utf8EncodeChar c = first :: rest) : first &&& 0xc0 ≠ 0x80 := by
    have leading := UInt8.isUTF8FirstByte_getElem_zero_utf8EncodeChar (c := c)
    simp only [bytes, List.getElem_cons_zero] at leading
    exact first_and leading
  have sizes : c.utf8Size = 1 ∨ c.utf8Size = 2 ∨ c.utf8Size = 3 ∨ c.utf8Size = 4 := by
    have positive := c.utf8Size_pos
    have atMost := c.utf8Size_le_four
    omega
  rcases sizes with one | two | three | four
  · have bytes := String.utf8EncodeChar_eq_singleton one
    exact ⟨_, _, bytes, starts bytes, fun byte mem => absurd mem List.not_mem_nil⟩
  · have bytes := String.utf8EncodeChar_eq_cons_cons two
    refine ⟨_, _, bytes, starts bytes, ?_⟩
    simp only [List.mem_cons, List.not_mem_nil, or_false, forall_eq, continuation_and]
  · have bytes := String.utf8EncodeChar_eq_cons_cons_cons three
    refine ⟨_, _, bytes, starts bytes, ?_⟩
    simp only [List.mem_cons, List.not_mem_nil, or_false, forall_eq_or_imp, forall_eq,
      continuation_and, and_self]
  · have bytes := String.utf8EncodeChar_eq_cons_cons_cons_cons four
    refine ⟨_, _, bytes, starts bytes, ?_⟩
    simp only [List.mem_cons, List.not_mem_nil, or_false, forall_eq_or_imp, forall_eq,
      continuation_and, and_self]

theorem eq_nil_of_encoded {text : List Char} (empty : encoded text = []) : text = [] := by
  cases text with
  | nil => rfl
  | cons c text =>
    rw [encoded_cons] at empty
    exact absurd (List.append_eq_nil_iff.mp empty).1 String.utf8EncodeChar_ne_nil

/-! ## Cuts -/

theorem cut_zero (text : List Char) : Cut text 0 := ⟨[], text, rfl, rfl⟩

theorem cut_cons {c : Char} {text : List Char} {index : Nat} :
    Cut (c :: text) index ↔
      index = 0 ∨ ∃ beyond, index = (String.utf8EncodeChar c).length + beyond ∧
        Cut text beyond := by
  constructor
  · rintro ⟨front, rest, split, length⟩
    cases front with
    | nil => exact .inl length.symm
    | cons d front =>
      rw [List.cons_append] at split
      obtain ⟨rfl, remaining⟩ := List.cons.inj split
      rw [encoded_cons, List.length_append] at length
      exact .inr ⟨_, length.symm, front, rest, remaining, rfl⟩
  · rintro (rfl | ⟨beyond, rfl, front, rest, rfl, rfl⟩)
    · exact cut_zero _
    · refine ⟨c :: front, rest, rfl, ?_⟩
      rw [encoded_cons, List.length_append]

theorem cut_iff_byte {text : List Char} {index : Nat} {byte : UInt8}
    (found : (encoded text)[index]? = some byte) : Cut text index ↔ byte &&& 0xc0 ≠ 0x80 := by
  induction text generalizing index with
  | nil =>
    rw [encoded_nil, List.getElem?_nil] at found
    exact absurd found.symm (Option.some_ne_none byte)
  | cons c text ih =>
    obtain ⟨first, rest, bytes, starts, continues⟩ := utf8EncodeChar_bytes c
    rw [encoded_cons] at found
    by_cases within : index < (String.utf8EncodeChar c).length
    · rw [List.getElem?_append_left within, bytes] at found
      cases index with
      | zero =>
        rw [List.getElem?_cons_zero] at found
        obtain rfl := Option.some.inj found
        exact ⟨fun _ => starts, fun _ => cut_zero _⟩
      | succ index =>
        rw [List.getElem?_cons_succ] at found
        have continuation := continues byte (List.mem_of_getElem? found)
        constructor
        · intro cut
          rcases cut_cons.mp cut with zero | ⟨beyond, index, -⟩
          · exact absurd zero (Nat.succ_ne_zero _)
          · omega
        · intro starting
          exact absurd continuation starting
    · have atLeast := Nat.le_of_not_lt within
      rw [List.getElem?_append_right atLeast] at found
      obtain ⟨beyond, rfl⟩ := Nat.exists_eq_add_of_le atLeast
      rw [Nat.add_sub_cancel_left] at found
      have nonempty : 0 < (String.utf8EncodeChar c).length := by
        rw [bytes]
        exact Nat.succ_pos _
      rw [← ih found, cut_cons]
      constructor
      · rintro (zero | ⟨other, same, cut⟩)
        · omega
        · rw [Nat.add_left_cancel same]
          exact cut
      · intro cut
        exact .inr ⟨beyond, rfl, cut⟩

theorem cut_length (text : List Char) : Cut text (encoded text).length :=
  ⟨text, [], (List.append_nil text).symm, rfl⟩

end Utf8

end SqliteVfs
