import Mathlib.Data.List.AList
import SqliteVfs.Base.Program

/-!
# Heaps of blocks of bytes

A memory of bytes, with the live blocks in it.  An allocator is any functions that keep the
contract of a global allocator; using a block that is not live, or giving it back with
another layout, ends a run as a panic does.
-/

set_option autoImplicit false

structure Layout where
  size : Nat
  align : Nat
  deriving DecidableEq, Repr

abbrev LiveBlocks : Type := AList fun _ : Nat => Layout

/-- The live blocks are found by their addresses. -/
structure ByteHeap where
  mem : Nat → UInt8
  live : LiveBlocks

namespace ByteHeap

variable {mem mem' mem'' : Nat → UInt8} {address n limit : Nat} {data : List UInt8}
  {live : LiveBlocks} {base base' : Nat} {layout layout' : Layout}

/-! ## Bytes -/

def bytes (mem : Nat → UInt8) (address n : Nat) : List UInt8 :=
  (List.range n).map fun i => mem (address + i)

def store (mem : Nat → UInt8) (address : Nat) (data : List UInt8) : Nat → UInt8 := fun a =>
  if address ≤ a ∧ a < address + data.length then data.getD (a - address) 0 else mem a

theorem length_bytes (mem : Nat → UInt8) (address n : Nat) : (bytes mem address n).length = n := by
  rw [bytes, List.length_map, List.length_range]

theorem getElem_bytes {i : Nat} (inside : i < (bytes mem address n).length) :
    (bytes mem address n)[i] = mem (address + i) := by
  simp [bytes]

theorem bytes_congr (same : ∀ a, address ≤ a → a < address + n → mem' a = mem a) :
    bytes mem' address n = bytes mem address n := by
  refine List.map_congr_left fun i member => ?_
  have below := List.mem_range.mp member
  exact same _ (by omega) (by omega)

theorem store_outside {a : Nat} (outside : a < address ∨ address + data.length ≤ a) :
    store mem address data a = mem a := if_neg (by omega)

theorem bytes_store (mem : Nat → UInt8) (address : Nat) (data : List UInt8) :
    bytes (store mem address data) address data.length = data := by
  refine List.ext_getElem (length_bytes _ _ _) fun i inside inside' => ?_
  have stored : store mem address data (address + i) = data[i] := by
    unfold store
    rw [if_pos (by omega), Nat.add_sub_cancel_left, List.getD_eq_getElem?_getD,
      List.getElem?_eq_getElem inside', Option.getD_some]
  rw [← stored, getElem_bytes]

/-! ## Words -/

def encodeWord : Nat → Nat → List UInt8
  | 0, _ => []
  | n + 1, value => UInt8.ofNat (value % 256) :: encodeWord n (value / 256)

def decodeWord : List UInt8 → Nat
  | [] => 0
  | byte :: rest => byte.toNat + 256 * decodeWord rest

theorem length_encodeWord (n value : Nat) : (encodeWord n value).length = n := by
  induction n generalizing value with
  | zero => rfl
  | succ n ih => rw [encodeWord, List.length_cons, ih]

theorem decodeWord_encodeWord {n value : Nat} (fits : value < 256 ^ n) :
    decodeWord (encodeWord n value) = value := by
  induction n generalizing value with
  | zero =>
      rw [Nat.pow_zero] at fits
      rw [encodeWord, decodeWord]
      omega
  | succ n ih =>
      have rest : value / 256 < 256 ^ n := by
        rw [Nat.pow_succ] at fits
        exact Nat.div_lt_of_lt_mul (by omega)
      have byte : (UInt8.ofNat (value % 256)).toNat = value % 256 := by
        rw [UInt8.toNat_ofNat']
        omega
      rw [encodeWord, decodeWord, ih rest, byte]
      omega

/-! ## LiveBlocks -/

structure Placed (limit : Nat) (live : LiveBlocks) : Prop where
  within : ∀ base layout, live.lookup base = some layout →
    base ≠ 0 ∧ 0 < layout.size ∧ base + layout.size ≤ limit
  apart : ∀ base base' layout layout', live.lookup base = some layout →
    live.lookup base' = some layout' → base ≠ base' →
    base + layout.size ≤ base' ∨ base' + layout'.size ≤ base

def Accessible (heap : ByteHeap) (address n : Nat) : Prop :=
  ∃ block ∈ heap.live.entries, block.1 ≤ address ∧ address + n ≤ block.1 + block.2.size

instance (heap : ByteHeap) (address n : Nat) : Decidable (heap.Accessible address n) :=
  inferInstanceAs (Decidable (∃ block ∈ heap.live.entries, _ ∧ _))

theorem accessible_of_lookup {heap : ByteHeap} (found : heap.live.lookup base = some layout)
    (above : base ≤ address) (below : address + n ≤ base + layout.size) :
    heap.Accessible address n :=
  ⟨⟨base, layout⟩, AList.mem_lookup_iff.mp found, above, below⟩

structure Room (limit : Nat) (live : LiveBlocks) (base : Nat) (layout : Layout) : Prop where
  nonzero : base ≠ 0
  aligned : layout.align ∣ base
  within : base + layout.size ≤ limit
  apart : ∀ base' layout', live.lookup base' = some layout' →
    base + layout.size ≤ base' ∨ base' + layout'.size ≤ base

/-- The bytes of the live blocks are as before. -/
def Keeps (live : LiveBlocks) (mem mem' : Nat → UInt8) : Prop :=
  ∀ base layout, live.lookup base = some layout →
    ∀ a, base ≤ a → a < base + layout.size → mem' a = mem a

theorem Placed.erase (placed : Placed limit live) (base : Nat) :
    Placed limit (live.erase base) := by
  have before {base' : Nat} {layout : Layout}
      (found : (live.erase base).lookup base' = some layout) :
      live.lookup base' = some layout := by
    have different : base' ≠ base := by
      rintro rfl
      exact nomatch (AList.lookup_erase base' live).symm.trans found
    rw [AList.lookup_erase_ne different] at found
    exact found
  exact {
    within := fun base' layout found => placed.within base' layout (before found)
    apart := fun first second layout layout' found found' =>
      placed.apart first second layout layout' (before found) (before found') }

theorem Placed.insert (placed : Placed limit live) (room : Room limit live base layout)
    (positive : 0 < layout.size) : Placed limit (live.insert base layout) where
  within base' layout' found := by
    by_cases same : base' = base
    · rw [same, AList.lookup_insert] at found
      obtain rfl := Option.some.inj found
      rw [same]
      exact ⟨room.nonzero, positive, room.within⟩
    · rw [AList.lookup_insert_ne same] at found
      exact placed.within base' layout' found
  apart first second layout' layout'' found found' different := by
    by_cases same : first = base
    · have other : second ≠ base := fun same' => different (same.trans same'.symm)
      rw [same, AList.lookup_insert] at found
      obtain rfl := Option.some.inj found
      rw [AList.lookup_insert_ne other] at found'
      rw [same]
      exact room.apart second layout'' found'
    · rw [AList.lookup_insert_ne same] at found
      by_cases same' : second = base
      · rw [same', AList.lookup_insert] at found'
        obtain rfl := Option.some.inj found'
        rw [same']
        exact (room.apart first layout' found).symm
      · rw [AList.lookup_insert_ne same'] at found'
        exact placed.apart first second layout' layout'' found found' different

theorem Keeps.refl (live : LiveBlocks) (mem : Nat → UInt8) : Keeps live mem mem :=
  fun _ _ _ _ _ _ => rfl

theorem Keeps.trans (first : Keeps live mem mem') (second : Keeps live mem' mem'') :
    Keeps live mem mem'' := fun base layout found a above below =>
  (second base layout found a above below).trans (first base layout found a above below)

/-- Writing to a block that is not among them keeps the blocks. -/
theorem Keeps.store (apart : ∀ base layout, live.lookup base = some layout →
    address + data.length ≤ base ∨ base + layout.size ≤ address) :
    Keeps live mem (ByteHeap.store mem address data) := by
  intro base layout found a above below
  have := apart base layout found
  exact store_outside (by omega)

theorem Keeps.bytes (keeps : Keeps live mem mem') (found : live.lookup base = some layout)
    (above : base ≤ address) (below : address + n ≤ base + layout.size) :
    bytes mem' address n = bytes mem address n :=
  bytes_congr fun a lower upper => keeps base layout found a (by omega) (by omega)

end ByteHeap

/-! ## Allocators -/

open ByteHeap

/-- A global allocator: it may fail, and it may write wherever no live block is. -/
structure GlobalAlloc (limit : Nat) where
  alloc : ByteHeap → Layout → Option Nat × (Nat → UInt8)
  dealloc : ByteHeap → Nat → Layout → Nat → UInt8
  realloc : ByteHeap → Nat → Layout → Nat → Option Nat × (Nat → UInt8)
  alloc_room : ∀ heap layout base, (alloc heap layout).1 = some base →
    Room limit heap.live base layout
  alloc_keeps : ∀ heap layout, Keeps heap.live heap.mem (alloc heap layout).2
  dealloc_keeps : ∀ heap base layout, Keeps (heap.live.erase base) heap.mem
    (dealloc heap base layout)
  realloc_room : ∀ heap old layout size base, (realloc heap old layout size).1 = some base →
    Room limit (heap.live.erase old) base ⟨size, layout.align⟩
  realloc_keeps : ∀ heap old layout size,
    Keeps (heap.live.erase old) heap.mem (realloc heap old layout size).2
  /-- A block that was moved has its bytes, as far as they fit. -/
  realloc_moves : ∀ heap old layout size base, heap.live.lookup old = some layout →
    (realloc heap old layout size).1 = some base →
    bytes (realloc heap old layout size).2 base (min layout.size size) =
      bytes heap.mem old (min layout.size size)
  /-- A block that could not be moved is untouched. -/
  realloc_fails : ∀ heap old layout size, (realloc heap old layout size).1 = none →
    Keeps heap.live heap.mem (realloc heap old layout size).2

namespace GlobalAlloc

variable {limit : Nat}

def fits (limit : Nat) (live : LiveBlocks) (base : Nat) (layout : Layout) : Bool :=
  base ≠ 0 ∧ layout.align ∣ base ∧ base + layout.size ≤ limit ∧ ∀ block ∈ live.entries,
    base + layout.size ≤ block.1 ∨ block.1 + block.2.size ≤ base

theorem room_of_fits {live : LiveBlocks} {base : Nat} {layout : Layout}
    (room : fits limit live base layout = true) : Room limit live base layout := by
  obtain ⟨nonzero, aligned, within, apart⟩ := of_decide_eq_true room
  exact ⟨nonzero, aligned, within, fun base' layout' found =>
    apart ⟨base', layout'⟩ (AList.mem_lookup_iff.mp found)⟩

/-- An allocator that grants the address it chooses, where there is room. -/
def ofChoice (limit : Nat) (choose : LiveBlocks → Layout → Nat) : GlobalAlloc limit where
  alloc heap layout :=
    (if fits limit heap.live (choose heap.live layout) layout then some (choose heap.live layout)
    else none, heap.mem)
  dealloc heap _ _ := heap.mem
  realloc heap old layout size :=
    let base := choose (heap.live.erase old) ⟨size, layout.align⟩
    if fits limit (heap.live.erase old) base ⟨size, layout.align⟩ then
      (some base, store heap.mem base (bytes heap.mem old (min layout.size size)))
    else (none, heap.mem)
  alloc_room heap layout base granted := by
    split at granted
    · rename_i room
      obtain rfl := Option.some.inj granted
      exact room_of_fits room
    · exact nomatch granted
  alloc_keeps heap _ := Keeps.refl heap.live heap.mem
  dealloc_keeps _ _ _ := Keeps.refl _ _
  realloc_room heap old layout size base granted := by
    dsimp only at granted
    split at granted
    · rename_i room
      obtain rfl := Option.some.inj granted
      exact room_of_fits room
    · exact nomatch granted
  realloc_keeps heap old layout size := by
    dsimp only
    split
    · rename_i room
      refine Keeps.store fun base' layout' found => ?_
      have apart := (room_of_fits room).apart base' layout' found
      rw [length_bytes]
      dsimp only at apart
      omega
    · exact Keeps.refl _ _
  realloc_moves heap old layout size base found granted := by
    dsimp only at granted ⊢
    split at granted
    · rename_i room
      obtain rfl := Option.some.inj granted
      rw [if_pos room]
      have stored := bytes_store heap.mem
        (choose (heap.live.erase old) ⟨size, layout.align⟩)
        (bytes heap.mem old (min layout.size size))
      rw [length_bytes] at stored
      exact stored
    · exact nomatch granted
  realloc_fails heap old layout size refused := by
    dsimp only at refused ⊢
    split at refused
    · exact nomatch refused
    · rename_i full
      rw [if_neg full]
      exact Keeps.refl _ _

end GlobalAlloc
