import SqliteVfs.Base.Runs
import SqliteVfs.Shim.Allocator

/-!
# What the allocator shim keeps

The size word in front of each block is the size that was asked for last, so every layout that
is rebuilt from it is the layout of its block.
-/

set_option autoImplicit false

namespace SqliteVfs

namespace Shim

open ByteHeap

variable {k size base ptr : Nat} {heap heap' : ByteHeap} {live : LiveBlocks}
  {mem mem' : Nat → UInt8} {global : GlobalAlloc (usizeMax k)}

/-! ## Sizes -/

theorem wordSize_pos (k : Nat) : 0 < wordSize k := Nat.two_pow_pos k

theorem isPowerOfTwo_align (k : Nat) : (align k).isPowerOfTwo := ⟨k + 1, (Nat.pow_succ ..).symm⟩

def Representable (k size : Nat) : Prop := size + align k + align k ≤ isizeMax k + 1

instance (k size : Nat) : Decidable (Representable k size) :=
  inferInstanceAs (Decidable (_ ≤ _))

theorem limits (k : Nat) : isizeMax k + 1 ≤ usizeMax k ∧ usizeMax k < 256 ^ wordSize k := by
  have large : 256 ^ 1 ≤ 256 ^ wordSize k := Nat.pow_le_pow_right (by decide) (wordSize_pos k)
  unfold isizeMax usizeMax
  omega

theorem fromSizeAlign_align (k size : Nat) : fromSizeAlign k (size + align k) (align k) =
    if Representable k size then some ⟨size + align k, align k⟩ else none := by
  have positive := wordSize_pos k
  have two : align k = wordSize k * 2 := rfl
  unfold fromSizeAlign
  by_cases fits : Representable k size
  · have below : size + align k + align k ≤ isizeMax k + 1 := fits
    rw [if_pos fits, if_pos ⟨isPowerOfTwo_align k, by omega⟩]
  · have above : ¬ size + align k + align k ≤ isizeMax k + 1 := fits
    rw [if_neg fits, if_neg fun valid => above (by omega)]

theorem Representable.checkedAdd (fits : Representable k size) :
    checkedAdd k size (align k) = some (size + align k) := by
  have := limits k
  unfold Representable at fits
  exact if_pos (by omega)

theorem allocationLayout_eq (k size : Nat) : allocationLayout k size =
    if Representable k size then some ⟨size + align k, align k⟩ else none := by
  have bound := limits k
  unfold allocationLayout
  by_cases fits : Representable k size
  · rw [fits.checkedAdd]
    exact fromSizeAlign_align k size
  · rw [if_neg fits]
    unfold checkedAdd
    by_cases below : size + align k ≤ usizeMax k
    · rw [if_pos below]
      exact (fromSizeAlign_align k size).trans (if_neg fits)
    · rw [if_neg below]
      rfl

theorem layoutUnchecked_run (fits : Representable k size) (heap : ByteHeap) :
    (layoutUnchecked k size).run heap = (.ok ⟨size + align k, align k⟩, heap) := by
  unfold layoutUnchecked
  rw [fits.checkedAdd, Prog.unwrap_some, Prog.pure_bind, fromSizeAlign_align, if_pos fits]
  rfl

theorem Representable.word (fits : Representable k size) : size < 256 ^ wordSize k := by
  have := limits k
  unfold Representable at fits
  omega

/-! ## Blocks -/

/-- The block at `base` holds an allocation of this size, behind its size word. -/
structure Allocated (k : Nat) (heap : ByteHeap) (base size : Nat) : Prop where
  representable : Representable k size
  aligned : align k ∣ base
  found : heap.live.lookup base = some ⟨size + align k, align k⟩
  word : decodeWord (bytes heap.mem base (wordSize k)) = size

theorem Allocated.accessible (allocated : Allocated k heap base size) {address n : Nat}
    (above : base ≤ address) (below : address + n ≤ base + (size + align k)) :
    heap.Accessible address n :=
  accessible_of_lookup allocated.found above below

theorem word_le_align (k : Nat) : wordSize k ≤ align k := Nat.le_mul_of_pos_right _ (by decide)

/-- The hidden block of a pointer is found again. -/
theorem ptrSub_run (allocated : Allocated k heap base size) :
    (ptrSub (base + align k) (align k)).run heap = (.ok base, heap) := by
  unfold ptrSub
  dsimp only
  rw [Nat.add_sub_cancel, if_pos ⟨Nat.le_add_left _ _, allocated.accessible (Nat.le_refl _)
    (by omega)⟩]

theorem readWord_run (allocated : Allocated k heap base size) :
    (readWord k base).run heap = (.ok size, heap) := by
  have small := word_le_align k
  have aligned : wordSize k ∣ base := Nat.dvd_trans (Nat.dvd_mul_right _ 2) allocated.aligned
  unfold readWord
  dsimp only
  rw [if_pos ⟨aligned, allocated.accessible (Nat.le_refl _) (by omega)⟩, allocated.word]

structure Granted (k : Nat) (live : LiveBlocks) (mem : Nat → UInt8) (heap' : ByteHeap)
    (base size : Nat) : Prop where
  room : Room (usizeMax k) live base ⟨size + align k, align k⟩
  inserted : heap'.live = live.insert base ⟨size + align k, align k⟩
  keeps : Keeps live mem heap'.mem
  allocated : Allocated k heap' base size

theorem finish_run (fits : Representable k size)
    (room : Room (usizeMax k) live base ⟨size + align k, align k⟩) (keeps : Keeps live mem mem') :
    ∃ heap', (do
        writeWord k base size
        ptrAdd base (align k) : ShimM Nat).run
          ⟨mem', live.insert base ⟨size + align k, align k⟩⟩ = (.ok (base + align k), heap') ∧
      Granted k live mem heap' base size ∧
      ∀ n, bytes heap'.mem (base + align k) n = bytes mem' (base + align k) n := by
  have small := word_le_align k
  have aligned : wordSize k ∣ base := Nat.dvd_trans (Nat.dvd_mul_right _ 2) room.aligned
  have found : (live.insert base ⟨size + align k, align k⟩).lookup base =
      some ⟨size + align k, align k⟩ := AList.lookup_insert _
  have length := length_encodeWord (wordSize k) size
  have written : (writeWord k base size).run ⟨mem', live.insert base ⟨size + align k, align k⟩⟩ =
      (.ok (), ⟨store mem' base (encodeWord (wordSize k) size),
        live.insert base ⟨size + align k, align k⟩⟩) := by
    unfold writeWord
    exact if_pos ⟨aligned, accessible_of_lookup found (Nat.le_refl _) (by dsimp only; omega)⟩
  refine ⟨⟨store mem' base (encodeWord (wordSize k) size),
    live.insert base ⟨size + align k, align k⟩⟩, ?_, ⟨room, rfl, ?_, fits, room.aligned, found, ?_⟩,
    fun n => ?_⟩
  · rw [Prog.bind_ok written]
    unfold ptrAdd
    exact if_pos (accessible_of_lookup found (Nat.le_refl _) (by dsimp only; omega))
  · refine keeps.trans (Keeps.store fun base' layout found' => ?_)
    have := room.apart base' layout found'
    dsimp only at this
    omega
  · have stored := bytes_store mem' base (encodeWord (wordSize k) size)
    rw [length] at stored
    dsimp only
    rw [stored, decodeWord_encodeWord fits.word]
  · refine bytes_congr fun a above below => store_outside ?_
    omega

/-! ## The functions -/

structure Refused (heap heap' : ByteHeap) : Prop where
  live : heap'.live = heap.live
  keeps : Keeps heap.live heap.mem heap'.mem

theorem malloc_ends (global : GlobalAlloc (usizeMax k)) (size : Nat) (heap : ByteHeap) :
    ∃ result heap', (rustSqliteWasmMalloc global size).run heap = (.ok result, heap') ∧
      ((result = 0 ∧ Refused heap heap') ∨ ∃ base, result = base + align k ∧
        Granted k heap.live heap.mem heap' base size) := by
  unfold rustSqliteWasmMalloc
  rw [allocationLayout_eq]
  by_cases fits : Representable k size
  swap
  · rw [if_neg fits]
    exact ⟨0, heap, rfl, .inl ⟨rfl, rfl, Keeps.refl _ _⟩⟩
  rw [if_pos fits]
  dsimp only
  have positive : size + align k ≠ 0 := by
    have := wordSize_pos k
    have := word_le_align k
    omega
  have keeps := global.alloc_keeps heap ⟨size + align k, align k⟩
  rcases answer : global.alloc heap ⟨size + align k, align k⟩ with ⟨_ | base, mem⟩
  · rw [answer] at keeps
    have run : (alloc global ⟨size + align k, align k⟩).run heap = (.ok 0, { heap with mem }) := by
      unfold alloc
      dsimp only
      rw [if_neg positive, answer]
    rw [Prog.bind_ok run]
    exact ⟨0, { heap with mem }, rfl, .inl ⟨rfl, rfl, keeps⟩⟩
  · have room := global.alloc_room heap _ base (congrArg Prod.fst answer)
    rw [answer] at keeps
    have run : (alloc global ⟨size + align k, align k⟩).run heap =
        (.ok base, ⟨mem, heap.live.insert base ⟨size + align k, align k⟩⟩) := by
      unfold alloc
      dsimp only
      rw [if_neg positive, answer]
    obtain ⟨heap', ends, granted, -⟩ := finish_run fits room keeps
    rw [Prog.bind_ok run, if_neg room.nonzero]
    exact ⟨_, heap', ends, .inr ⟨base, rfl, granted⟩⟩

theorem free_run (global : GlobalAlloc (usizeMax k)) (allocated : Allocated k heap base size) :
    (rustSqliteWasmFree global (base + align k)).run heap =
      (.ok (), ⟨global.dealloc heap base ⟨size + align k, align k⟩, heap.live.erase base⟩) := by
  have positive : base + align k ≠ 0 := by
    have := wordSize_pos k
    have := word_le_align k
    omega
  unfold rustSqliteWasmFree
  rw [if_neg positive, Prog.bind_ok (ptrSub_run allocated), Prog.bind_ok (readWord_run allocated),
    Prog.bind_ok (layoutUnchecked_run allocated.representable heap)]
  unfold dealloc
  exact if_pos allocated.found

/-- A block that moved has its bytes, one that could not be moved is as it was. -/
theorem realloc_ends (global : GlobalAlloc (usizeMax k)) (allocated : Allocated k heap base size)
    (newSize : Nat) :
    ∃ result heap', (rustSqliteWasmRealloc global (base + align k) newSize).run heap =
        (.ok result, heap') ∧
      ((result = 0 ∧ Refused heap heap') ∨ ∃ base', result = base' + align k ∧
        Granted k (heap.live.erase base) heap.mem heap' base' newSize ∧
        bytes heap'.mem (base' + align k) (min size newSize) =
          bytes heap.mem (base + align k) (min size newSize)) := by
  have positive : align k ≠ 0 := by
    have := wordSize_pos k
    have := word_le_align k
    omega
  unfold rustSqliteWasmRealloc
  rw [if_neg (by omega), allocationLayout_eq]
  by_cases fits : Representable k newSize
  swap
  · rw [if_neg fits]
    exact ⟨0, heap, rfl, .inl ⟨rfl, rfl, Keeps.refl _ _⟩⟩
  rw [if_pos fits]
  dsimp only
  rw [Prog.bind_ok (ptrSub_run allocated), Prog.bind_ok (readWord_run allocated),
    Prog.bind_ok (layoutUnchecked_run allocated.representable heap)]
  have valid : heap.live.lookup base = some ⟨size + align k, align k⟩ ∧ newSize + align k ≠ 0 ∧
      fromSizeAlign k (newSize + align k) (align k) ≠ none := by
    refine ⟨allocated.found, by omega, ?_⟩
    rw [fromSizeAlign_align, if_pos fits]
    exact nofun
  rcases answer : global.realloc heap base ⟨size + align k, align k⟩ (newSize + align k) with
    ⟨_ | base', mem⟩
  · have keeps := global.realloc_fails heap base _ _ (congrArg Prod.fst answer)
    rw [answer] at keeps
    have run : (realloc global base ⟨size + align k, align k⟩ (newSize + align k)).run heap =
        (.ok 0, { heap with mem }) := by
      unfold realloc
      dsimp only
      rw [if_pos valid, answer]
    rw [Prog.bind_ok run]
    exact ⟨0, { heap with mem }, rfl, .inl ⟨rfl, rfl, keeps⟩⟩
  · have room := global.realloc_room heap base _ _ base' (congrArg Prod.fst answer)
    have keeps := global.realloc_keeps heap base ⟨size + align k, align k⟩ (newSize + align k)
    have moves := global.realloc_moves heap base _ _ base' allocated.found
      (congrArg Prod.fst answer)
    rw [answer] at keeps moves
    have run : (realloc global base ⟨size + align k, align k⟩ (newSize + align k)).run heap =
        (.ok base', ⟨mem, (heap.live.erase base).insert base' ⟨newSize + align k, align k⟩⟩) := by
      unfold realloc
      dsimp only
      rw [if_pos valid, answer]
    obtain ⟨heap', ends, granted, behind⟩ := finish_run fits room keeps
    rw [Prog.bind_ok run, if_neg room.nonzero]
    refine ⟨_, heap', ends, .inr ⟨base', rfl, granted, ?_⟩⟩
    rw [behind]
    have shorter (n : Nat) (within : n + align k ≤ min (size + align k) (newSize + align k)) :
        bytes mem (base' + align k) n = bytes heap.mem (base + align k) n := by
      refine List.ext_getElem (by rw [length_bytes, length_bytes]) fun i inside inside' => ?_
      rw [length_bytes] at inside
      have same := congrArg (fun data => data[i + align k]?) moves
      dsimp only at same
      rw [List.getElem?_eq_getElem (by rw [length_bytes]; omega),
        List.getElem?_eq_getElem (by rw [length_bytes]; omega), getElem_bytes,
        getElem_bytes] at same
      rw [getElem_bytes, getElem_bytes, Nat.add_assoc, Nat.add_assoc, Nat.add_comm (align k) i]
      exact Option.some.inj same
    exact shorter _ (by omega)

/-! ## Sessions -/

/-- The pointers that the caller holds, with the sizes that it asked for last. -/
structure Session where
  heap : ByteHeap
  held : Nat → Option Nat

structure Sane (k : Nat) (s : Session) : Prop where
  placed : Placed (usizeMax k) s.heap.live
  held : ∀ ptr size, s.held ptr = some size →
    ∃ base, ptr = base + align k ∧ Allocated k s.heap base size

namespace Sane

variable {held : Nat → Option Nat}

theorem kept (sane : Sane k ⟨⟨mem, live⟩, held⟩)
    (words : ∀ ptr size, held (ptr + align k) = some size →
      bytes mem' ptr (wordSize k) = bytes mem ptr (wordSize k)) :
    Sane k ⟨⟨mem', live⟩, held⟩ where
  placed := sane.placed
  held ptr size holds := by
    obtain ⟨base, rfl, allocated⟩ := sane.held ptr size holds
    refine ⟨base, rfl, allocated.representable, allocated.aligned, allocated.found, ?_⟩
    dsimp only
    rw [words base size holds]
    exact allocated.word

theorem refused (sane : Sane k ⟨heap, held⟩) (refused : Refused heap heap') :
    Sane k ⟨heap', held⟩ := by
  obtain ⟨mem, live⟩ := heap
  obtain ⟨mem', live'⟩ := heap'
  obtain rfl : live' = live := refused.live
  refine sane.kept fun base size holds => ?_
  obtain ⟨base', same, allocated⟩ := sane.held _ size holds
  obtain rfl : base = base' := Nat.add_right_cancel same
  have small := word_le_align k
  exact refused.keeps.bytes allocated.found (Nat.le_refl _) (by dsimp only; omega)

variable (mem live) in
/-- A block that is given back takes its pointer with it. -/
theorem released (sane : Sane k ⟨⟨mem, live⟩, held⟩) (base : Nat)
    (keeps : Keeps (live.erase base) mem mem') :
    Sane k ⟨⟨mem', live.erase base⟩, Function.update held (base + align k) none⟩ where
  placed := sane.placed.erase base
  held ptr size' holds := by
    have different : ptr ≠ base + align k := by
      rintro rfl
      exact nomatch (Function.update_self ..).symm.trans holds
    have before : held ptr = some size' := by
      rw [← holds]
      exact (Function.update_of_ne different ..).symm
    obtain ⟨base', rfl, allocated'⟩ := sane.held ptr size' before
    have apart : base' ≠ base := fun same => different (congrArg (· + align k) same)
    have found : (live.erase base).lookup base' = some ⟨size' + align k, align k⟩ :=
      (AList.lookup_erase_ne apart).trans allocated'.found
    have small := word_le_align k
    refine ⟨base', rfl, allocated'.representable, allocated'.aligned, found, ?_⟩
    dsimp only
    rw [keeps.bytes found (Nat.le_refl _) (by dsimp only; omega)]
    exact allocated'.word

theorem granted (sane : Sane k ⟨⟨mem, live⟩, held⟩) (granted : Granted k live mem heap' base size) :
    Sane k ⟨heap', Function.update held (base + align k) (some size)⟩ where
  placed := by
    have := wordSize_pos k
    have := word_le_align k
    change Placed (usizeMax k) heap'.live
    rw [granted.inserted]
    exact sane.placed.insert granted.room (by dsimp only; omega)
  held ptr size' holds := by
    by_cases same : ptr = base + align k
    · subst same
      have new : Function.update held (base + align k) (some size) (base + align k) = some size' :=
        holds
      rw [Function.update_self] at new
      obtain rfl := Option.some.inj new
      exact ⟨base, rfl, granted.allocated⟩
    · have before : held ptr = some size' := by
        rw [← holds]
        exact (Function.update_of_ne same ..).symm
      obtain ⟨base', rfl, allocated⟩ := sane.held ptr size' before
      have apart : base' ≠ base := fun equal => same (congrArg (· + align k) equal)
      have small := word_le_align k
      refine ⟨base', rfl, allocated.representable, allocated.aligned, ?_, ?_⟩
      · dsimp only
        rw [granted.inserted, AList.lookup_insert_ne apart]
        exact allocated.found
      · dsimp only
        rw [granted.keeps.bytes allocated.found (Nat.le_refl _) (by dsimp only; omega)]
        exact allocated.word

theorem apart {s : Session} (sane : Sane k s) {base' size' : Nat}
    (allocated : Allocated k s.heap base size) (allocated' : Allocated k s.heap base' size')
    (different : base ≠ base') :
    base + (size + align k) ≤ base' ∨ base' + (size' + align k) ≤ base :=
  sane.placed.apart base base' _ _ allocated.found allocated'.found different

variable (mem live) in
theorem written (sane : Sane k ⟨⟨mem, live⟩, held⟩) {address : Nat} {data : List UInt8}
    (allocated : Allocated k ⟨mem, live⟩ base size) (above : base + align k ≤ address)
    (below : address + data.length ≤ base + align k + size) :
    Sane k ⟨⟨store mem address data, live⟩, held⟩ := by
  refine sane.kept fun base' size' holds => bytes_congr fun a lower upper => store_outside ?_
  obtain ⟨base'', same, allocated'⟩ := sane.held _ size' holds
  obtain rfl : base' = base'' := Nat.add_right_cancel same
  have small := word_le_align k
  by_cases same : base = base'
  · omega
  · have := sane.apart allocated allocated' same
    omega

end Sane

inductive Call where
  | malloc (size : Nat)
  | calloc (num size : Nat)
  | realloc (ptr size : Nat)
  | free (ptr : Nat)
  /-- The caller writes to memory that it holds. -/
  | write (address : Nat) (data : List UInt8)

namespace Call

def Allowed (s : Session) : Call → Prop
  | malloc _ | calloc _ _ => True
  | realloc ptr _ | free ptr => ptr = 0 ∨ ∃ size, s.held ptr = some size
  | write address data => ∃ ptr size, s.held ptr = some size ∧ ptr ≤ address ∧
      address + data.length ≤ ptr + size

def run (global : GlobalAlloc (usizeMax k)) (heap : ByteHeap) : Call → Outcome Empty Nat × ByteHeap
  | malloc size => (rustSqliteWasmMalloc global size).run heap
  | calloc num size => (rustSqliteWasmCalloc global num size).run heap
  | realloc ptr size => (rustSqliteWasmRealloc global ptr size).run heap
  | free ptr => (do
      rustSqliteWasmFree global ptr
      pure 0 : ShimM Nat).run heap
  | write address data => (.ok 0, { heap with mem := store heap.mem address data })

def after (held : Nat → Option Nat) (result : Nat) : Call → Nat → Option Nat
  | malloc size => if result = 0 then held else Function.update held result (some size)
  | calloc num size => if result = 0 then held else Function.update held result (some (num * size))
  | realloc ptr size => if result = 0 then held
      else Function.update (Function.update held ptr none) result (some size)
  | free ptr => Function.update held ptr none
  | write _ _ => held

end Call

def Spares (k : Nat) (s : Session) (heap' : ByteHeap) (still : Nat → Prop) : Prop :=
  ∀ ptr size, s.held ptr = some size → still ptr →
    bytes heap'.mem ptr size = bytes s.heap.mem ptr size ∧
      heap'.live.lookup (ptr - align k) = s.heap.live.lookup (ptr - align k)

def Call.Effect (k : Nat) (s : Session) (result : Nat) (heap' : ByteHeap) : Call → Prop
  | .malloc size => (¬ Representable k size → result = 0) ∧ (result ≠ 0 → s.held result = none) ∧
      Spares k s heap' fun _ => True
  | .calloc num size => (¬ Representable k (num * size) → result = 0) ∧
      (result ≠ 0 → s.held result = none ∧
        bytes heap'.mem result (num * size) = List.replicate (num * size) 0) ∧
      Spares k s heap' fun _ => True
  | .realloc ptr size => (¬ Representable k size → result = 0) ∧
      (∀ old, s.held ptr = some old → result ≠ 0 →
        bytes heap'.mem result (min old size) = bytes s.heap.mem ptr (min old size)) ∧
      Spares k s heap' fun other => other ≠ ptr ∨ result = 0
  | .free ptr => Spares k s heap' (· ≠ ptr)
  | .write address data => heap' = { s.heap with mem := store s.heap.mem address data }

namespace Sane

variable {s : Session}

theorem null (sane : Sane k s) : s.held 0 = none := by
  rcases holds : s.held 0 with _ | size
  · rfl
  · obtain ⟨base, null, allocated⟩ := sane.held 0 size holds
    have := wordSize_pos k
    have := word_le_align k
    omega

/-- A pointer that was granted is to no allocation that the caller had. -/
theorem fresh (sane : Sane k s) (granted : Granted k s.heap.live mem heap' base size) :
    s.held (base + align k) = none := by
  rcases holds : s.held (base + align k) with _ | size'
  · rfl
  · obtain ⟨base', same, allocated⟩ := sane.held _ size' holds
    obtain rfl : base = base' := Nat.add_right_cancel same
    have := granted.room.apart base _ allocated.found
    have := wordSize_pos k
    have := word_le_align k
    dsimp only at *
    omega

theorem spares_refused (sane : Sane k s) (refused : Refused s.heap heap') (still : Nat → Prop) :
    Spares k s heap' still := by
  intro ptr size holds _
  obtain ⟨base, rfl, allocated⟩ := sane.held ptr size holds
  rw [refused.live]
  exact ⟨refused.keeps.bytes allocated.found (by omega) (by dsimp only; omega), rfl⟩

/-- Whatever happens to the block at `base`, the others are as before. -/
theorem spares_others (sane : Sane k s) {mem' : Nat → UInt8} (base : Nat)
    (keeps : Keeps (s.heap.live.erase base) s.heap.mem mem') :
    Spares k s ⟨mem', s.heap.live.erase base⟩ (· ≠ base + align k) := by
  intro ptr size holds different
  obtain ⟨base', rfl, allocated⟩ := sane.held ptr size holds
  have apart : base' ≠ base := fun same => different (congrArg (· + align k) same)
  have found : (s.heap.live.erase base).lookup base' = some ⟨size + align k, align k⟩ :=
    (AList.lookup_erase_ne apart).trans allocated.found
  rw [Nat.add_sub_cancel]
  exact ⟨keeps.bytes found (by omega) (by dsimp only; omega), AList.lookup_erase_ne apart⟩

theorem spares_granted (sane : Sane k s)
    (granted : Granted k s.heap.live s.heap.mem heap' base size)
    (still : Nat → Prop) : Spares k s heap' still := by
  intro ptr size' holds _
  obtain ⟨base', rfl, allocated⟩ := sane.held ptr size' holds
  have apart : base' ≠ base := by
    rintro rfl
    exact nomatch (sane.fresh granted).symm.trans holds
  rw [Nat.add_sub_cancel, granted.inserted]
  exact ⟨granted.keeps.bytes allocated.found (by omega) (by dsimp only; omega),
    AList.lookup_insert_ne apart⟩

theorem held_update (sane : Sane k s) : Function.update s.held 0 none = s.held := by
  rw [← sane.null, Function.update_eq_self]

variable (global : GlobalAlloc (usizeMax k))

theorem malloc (sane : Sane k s) (size : Nat) :
    ∃ result heap', (rustSqliteWasmMalloc global size).run s.heap = (.ok result, heap') ∧
      ((result = 0 ∧ Refused s.heap heap') ∨
        ∃ base, result = base + align k ∧ Granted k s.heap.live s.heap.mem heap' base size) ∧
      (Call.malloc size).Effect k s result heap' ∧
      Sane k ⟨heap', (Call.malloc size).after s.held result⟩ := by
  obtain ⟨result, heap', run, ends⟩ := malloc_ends global size s.heap
  refine ⟨result, heap', run, ends, ?_⟩
  rcases ends with ⟨rfl, refused⟩ | ⟨base, rfl, granted⟩
  · exact ⟨⟨fun _ => rfl, fun nonzero => absurd rfl nonzero, sane.spares_refused refused _⟩,
      sane.refused refused⟩
  · have positive : base + align k ≠ 0 := by
      have := granted.room.nonzero
      omega
    refine ⟨⟨fun unfit => absurd granted.allocated.representable unfit, fun _ => sane.fresh granted,
      sane.spares_granted granted _⟩, ?_⟩
    change Sane k ⟨heap', if base + align k = 0 then s.held else _⟩
    rw [if_neg positive]
    exact sane.granted granted

theorem calloc (sane : Sane k s) (num size : Nat) :
    ∃ result heap', (rustSqliteWasmCalloc global num size).run s.heap = (.ok result, heap') ∧
      (Call.calloc num size).Effect k s result heap' ∧
      Sane k ⟨heap', (Call.calloc num size).after s.held result⟩ := by
  unfold rustSqliteWasmCalloc checkedMul
  by_cases fits : num * size ≤ usizeMax k
  swap
  · rw [if_neg fits]
    exact ⟨0, s.heap, rfl, ⟨fun _ => rfl, fun nonzero => absurd rfl nonzero,
      sane.spares_refused ⟨rfl, Keeps.refl _ _⟩ _⟩, sane⟩
  rw [if_pos fits]
  dsimp only
  obtain ⟨result, heap', run, ends, ⟨unfit, fresh, spares⟩, sane'⟩ :=
    sane.malloc global (num * size)
  rw [Prog.bind_ok run]
  rcases ends with ⟨rfl, refused⟩ | ⟨base, rfl, granted⟩
  · exact ⟨0, heap', rfl, ⟨unfit, fun nonzero => absurd rfl nonzero, spares⟩, sane'⟩
  have positive : base + align k ≠ 0 := by
    have := granted.room.nonzero
    omega
  have length : (List.replicate (num * size) (0 : UInt8)).length = num * size :=
    List.length_replicate
  have cleared : (writeBytes (base + align k) 0 (num * size)).run heap' =
      (.ok (), { heap' with
        mem := store heap'.mem (base + align k) (List.replicate (num * size) 0) }) := by
    unfold writeBytes
    exact if_pos (granted.allocated.accessible (by omega) (by omega))
  rw [if_pos positive, Prog.bind_ok cleared]
  have after : (Call.calloc num size).after s.held (base + align k) =
      Function.update s.held (base + align k) (some (num * size)) := if_neg positive
  refine ⟨_, _, rfl, ⟨unfit, fun nonzero => ⟨fresh nonzero, ?_⟩, ?_⟩, ?_⟩
  · have zeros := bytes_store heap'.mem (base + align k) (List.replicate (num * size) 0)
    rw [length] at zeros
    exact zeros
  · intro ptr size' holds _
    obtain ⟨same, found⟩ := spares ptr size' holds trivial
    obtain ⟨base', rfl, allocated⟩ := sane.held ptr size' holds
    refine ⟨?_, found⟩
    rw [← same]
    refine bytes_congr fun a above below => store_outside ?_
    have apart := granted.room.apart base' _ allocated.found
    dsimp only at apart
    rw [length]
    omega
  · rw [after]
    exact (sane.granted granted).written _ _ granted.allocated (Nat.le_refl _) (by rw [length])

theorem realloc (sane : Sane k s) {ptr : Nat} (newSize : Nat)
    (allowed : ptr = 0 ∨ ∃ size, s.held ptr = some size) :
    ∃ result heap', (rustSqliteWasmRealloc global ptr newSize).run s.heap = (.ok result, heap') ∧
      (Call.realloc ptr newSize).Effect k s result heap' ∧
      Sane k ⟨heap', (Call.realloc ptr newSize).after s.held result⟩ := by
  by_cases null : ptr = 0
  · subst null
    obtain ⟨result, heap', run, -, ⟨unfit, -, spares⟩, sane'⟩ := sane.malloc global newSize
    refine ⟨result, heap', run, ⟨unfit, fun old holds => ?_, fun other size holds _ => ?_⟩, ?_⟩
    · exact nomatch sane.null.symm.trans holds
    · exact spares other size holds trivial
    · have after : (Call.realloc 0 newSize).after s.held result =
          (Call.malloc newSize).after s.held result := by
        change (if result = 0 then s.held
          else Function.update (Function.update s.held 0 none) result (some newSize)) = _
        rw [sane.held_update]
        rfl
      rw [after]
      exact sane'
  obtain ⟨size, holds⟩ := allowed.resolve_left null
  obtain ⟨base, rfl, allocated⟩ := sane.held ptr size holds
  obtain ⟨result, heap', run, ends⟩ := realloc_ends global allocated newSize
  refine ⟨result, heap', run, ?_⟩
  rcases ends with ⟨rfl, refused⟩ | ⟨base', rfl, granted, moved⟩
  · exact ⟨⟨fun _ => rfl, fun _ _ nonzero => absurd rfl nonzero, sane.spares_refused refused _⟩,
      sane.refused refused⟩
  have positive : base' + align k ≠ 0 := by
    have := granted.room.nonzero
    omega
  have released : Sane k ⟨⟨s.heap.mem, s.heap.live.erase base⟩,
      Function.update s.held (base + align k) none⟩ :=
    released s.heap.live s.heap.mem sane base (Keeps.refl _ _)
  refine ⟨⟨fun unfit => absurd granted.allocated.representable unfit, fun old holds' _ => ?_, ?_⟩,
    ?_⟩
  · obtain rfl := Option.some.inj (holds.symm.trans holds')
    exact moved
  · intro other size' holds' still
    have different : other ≠ base + align k := still.resolve_right positive
    have before : Function.update s.held (base + align k) none other = some size' := by
      rw [Function.update_of_ne different]
      exact holds'
    obtain ⟨same, found⟩ :=
      released.spares_granted granted (fun _ => True) other size' before trivial
    obtain ⟨base'', rfl, allocated'⟩ := sane.held other size' holds'
    have apart : base'' ≠ base := fun equal => different (congrArg (· + align k) equal)
    rw [Nat.add_sub_cancel] at found ⊢
    exact ⟨same, found.trans (AList.lookup_erase_ne apart)⟩
  · have after : (Call.realloc (base + align k) newSize).after s.held (base' + align k) =
        Function.update (Function.update s.held (base + align k) none) (base' + align k)
          (some newSize) := if_neg positive
    rw [after]
    exact released.granted granted

theorem free (sane : Sane k s) {ptr : Nat} (allowed : ptr = 0 ∨ ∃ size, s.held ptr = some size) :
    ∃ heap', (rustSqliteWasmFree global ptr).run s.heap = (.ok (), heap') ∧
      (Call.free ptr).Effect k s 0 heap' ∧ Sane k ⟨heap', (Call.free ptr).after s.held 0⟩ := by
  by_cases null : ptr = 0
  · subst null
    refine ⟨s.heap, rfl, sane.spares_refused ⟨rfl, Keeps.refl _ _⟩ _, ?_⟩
    change Sane k ⟨s.heap, Function.update s.held 0 none⟩
    rw [sane.held_update]
    exact sane
  obtain ⟨size, holds⟩ := allowed.resolve_left null
  obtain ⟨base, rfl, allocated⟩ := sane.held ptr size holds
  have keeps := global.dealloc_keeps s.heap base ⟨size + align k, align k⟩
  refine ⟨_, free_run global allocated, sane.spares_others base keeps, ?_⟩
  exact released s.heap.live s.heap.mem sane base keeps

/-- Every call that the caller may make returns, and does what it says. -/
theorem answers (sane : Sane k s) (call : Call) (allowed : call.Allowed s) :
    ∃ result heap', call.run global s.heap = (.ok result, heap') ∧ call.Effect k s result heap' ∧
      Sane k ⟨heap', call.after s.held result⟩ := by
  cases call with
  | malloc size =>
      obtain ⟨result, heap', run, -, effect, sane'⟩ := sane.malloc global size
      exact ⟨result, heap', run, effect, sane'⟩
  | calloc num size => exact sane.calloc global num size
  | realloc ptr size => exact sane.realloc global size allowed
  | free ptr =>
      obtain ⟨heap', run, effect, sane'⟩ := sane.free global allowed
      refine ⟨0, heap', ?_, effect, sane'⟩
      exact Prog.bind_ok run fun _ => pure 0
  | write address data =>
      obtain ⟨ptr, size, holds, above, below⟩ := allowed
      obtain ⟨base, rfl, allocated⟩ := sane.held ptr size holds
      refine ⟨0, _, rfl, rfl, ?_⟩
      exact written s.heap.live s.heap.mem sane allocated above below

end Sane

/-! ## The invariant -/

/-- The caller's memory: aligned, in its block, apart from the rest and from every size word. -/
structure Safe (k : Nat) (s : Session) : Prop where
  block : ∀ ptr size, s.held ptr = some size → align k ≤ ptr ∧ align k ∣ ptr ∧
    ptr + size ≤ usizeMax k ∧
    s.heap.live.lookup (ptr - align k) = some ⟨size + align k, align k⟩ ∧
    decodeWord (bytes s.heap.mem (ptr - align k) (wordSize k)) = size
  apart : ∀ ptr ptr' size size', s.held ptr = some size → s.held ptr' = some size' → ptr ≠ ptr' →
    ptr + size ≤ ptr' ∨ ptr' + size' ≤ ptr
  words : ∀ ptr ptr' size size', s.held ptr = some size → s.held ptr' = some size' →
    ptr' - align k + wordSize k ≤ ptr ∨ ptr + size ≤ ptr' - align k

theorem Sane.safe {s : Session} (sane : Sane k s) : Safe k s where
  block ptr size holds := by
    obtain ⟨base, rfl, allocated⟩ := sane.held ptr size holds
    have within := (sane.placed.within base _ allocated.found).2.2
    rw [Nat.add_sub_cancel]
    refine ⟨Nat.le_add_left _ _, (Nat.dvd_add_right allocated.aligned).mpr (Nat.dvd_refl _), ?_,
      allocated.found, allocated.word⟩
    dsimp only at within
    omega
  apart ptr ptr' size size' holds holds' different := by
    obtain ⟨base, rfl, allocated⟩ := sane.held ptr size holds
    obtain ⟨base', rfl, allocated'⟩ := sane.held ptr' size' holds'
    have := sane.apart allocated allocated' fun same => different (congrArg (· + align k) same)
    omega
  words ptr ptr' size size' holds holds' := by
    obtain ⟨base, rfl, allocated⟩ := sane.held ptr size holds
    obtain ⟨base', rfl, allocated'⟩ := sane.held ptr' size' holds'
    have small := word_le_align k
    rw [Nat.add_sub_cancel]
    by_cases same : base = base'
    · omega
    · have := sane.apart allocated allocated' same
      omega

structure Turn (k : Nat) where
  call : Call
  global : GlobalAlloc (usizeMax k)

inductive ShimStep (k : Nat) (s : Session) (turn : Turn k) : Session → Prop
  | intro {result : Nat} {heap' : ByteHeap} : turn.call.Allowed s →
      turn.call.run turn.global s.heap = (.ok result, heap') →
      ShimStep k s turn ⟨heap', turn.call.after s.held result⟩

/-- From any heap of the program, through any calls and whatever the global allocator answers:
no call rebuilds a wrong layout, which would end the run, and all memory stays safe. -/
theorem allocator_shim_is_safe (heap : ByteHeap) (placed : Placed (usizeMax k) heap.live)
    {turns : List (Turn k)} {s : Session} (runs : Runs (ShimStep k) ⟨heap, fun _ => none⟩ turns s) :
    Safe k s ∧ ∀ (call : Call) (global : GlobalAlloc (usizeMax k)), call.Allowed s →
      ∃ result heap', call.run global s.heap = (.ok result, heap') ∧
        call.Effect k s result heap' ∧ Safe k ⟨heap', call.after s.held result⟩ := by
  have sane : Sane k s := by
    refine runs.invariant (fun s turn s' sane (_ : True) step => ?_) ⟨placed, nofun⟩
      fun _ _ => trivial
    cases step with
    | intro allowed run =>
    obtain ⟨result, heap', run', -, sane'⟩ := sane.answers turn.global turn.call allowed
    obtain ⟨same, rfl⟩ := Prod.mk.inj (run.symm.trans run')
    obtain rfl := Outcome.ok.inj same
    exact sane'
  refine ⟨sane.safe, fun call global allowed => ?_⟩
  obtain ⟨result, heap', run, effect, sane'⟩ := sane.answers global call allowed
  exact ⟨result, heap', run, effect, sane'.safe⟩

/-- On a 32-bit target ten bytes are asked for, written and moved to where a hundred fit; then
twelve others are asked for and freed. -/
def movedBytes : List (Turn 2) :=
  let low := GlobalAlloc.ofChoice (usizeMax 2) fun _ _ => 16
  let high := GlobalAlloc.ofChoice (usizeMax 2) fun _ _ => 64
  [⟨.malloc 10, low⟩, ⟨.write 24 [1, 2, 3], low⟩, ⟨.realloc 24 100, high⟩, ⟨.calloc 3 4, low⟩,
    ⟨.free 24, low⟩]

set_option maxRecDepth 20000 in
theorem movedBytes_run : ∃ s, Runs (ShimStep 2) ⟨⟨fun _ => 0, ∅⟩, fun _ => none⟩ movedBytes s ∧
    s.held 24 = none ∧ s.held 72 = some 100 ∧ bytes s.heap.mem 72 3 = [1, 2, 3] := by
  have granted : Runs (ShimStep 2) ⟨⟨fun _ => 0, ∅⟩, fun _ => none⟩ (movedBytes.take 1) _ :=
    .single (.intro trivial rfl)
  have written : Runs (ShimStep 2) ⟨⟨fun _ => 0, ∅⟩, fun _ => none⟩ (movedBytes.take 2) _ :=
    granted.snoc (.intro ⟨24, 10, rfl, by decide, by decide⟩ rfl)
  have moved : Runs (ShimStep 2) ⟨⟨fun _ => 0, ∅⟩, fun _ => none⟩ (movedBytes.take 3) _ :=
    written.snoc (.intro (.inr ⟨10, rfl⟩) rfl)
  have more : Runs (ShimStep 2) ⟨⟨fun _ => 0, ∅⟩, fun _ => none⟩ (movedBytes.take 4) _ :=
    moved.snoc (.intro trivial rfl)
  have freed : Runs (ShimStep 2) ⟨⟨fun _ => 0, ∅⟩, fun _ => none⟩ movedBytes _ :=
    more.snoc (.intro (.inr ⟨12, rfl⟩) rfl)
  exact ⟨_, freed, rfl, rfl, rfl⟩

theorem allocator_shim_is_safe_moved : ∃ s : Session, s.held 24 = none ∧ s.held 72 = some 100 ∧
    bytes s.heap.mem 72 3 = [1, 2, 3] ∧ Safe 2 s := by
  obtain ⟨s, run, freed, held, kept⟩ := movedBytes_run
  exact ⟨s, freed, held, kept, (allocator_shim_is_safe ⟨fun _ => 0, ∅⟩ ⟨nofun, nofun⟩ run).1⟩

end Shim

end SqliteVfs
