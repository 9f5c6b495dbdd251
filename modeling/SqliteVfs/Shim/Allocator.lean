import SqliteVfs.Base.ByteHeap

/-!
# The allocator shim

`malloc`, `free`, `realloc` and `calloc` of SQLite, over the global allocator of Rust.  A
`usize` has `2 ^ k` bytes; address `0` is the null pointer.  An operation whose safety
condition fails halts.
-/

set_option autoImplicit false

namespace SqliteVfs

namespace Shim

open ByteHeap

/-- `size_of::<usize>()`. -/
def wordSize (k : Nat) : Nat := 2 ^ k

def usizeMax (k : Nat) : Nat := 256 ^ wordSize k - 1

def isizeMax (k : Nat) : Nat := 256 ^ wordSize k / 2 - 1

/-- `ALIGN`. -/
def align (k : Nat) : Nat := wordSize k * 2

abbrev ShimM (α : Type) : Type := Prog ByteHeap Empty α

variable {k : Nat}

/-! ## The language -/

def checkedAdd (k a b : Nat) : Option Nat := if a + b ≤ usizeMax k then some (a + b) else none

def checkedMul (k a b : Nat) : Option Nat := if a * b ≤ usizeMax k then some (a * b) else none

/-- `Layout::from_size_align`. -/
def fromSizeAlign (k size align : Nat) : Option Layout :=
  if align.isPowerOfTwo ∧ size ≤ isizeMax k + 1 - align then some ⟨size, align⟩ else none

/-- `Layout::from_size_align_unchecked(size + ALIGN, ALIGN)`. -/
def layoutUnchecked (k size : Nat) : ShimM Layout := do
  let total ← Prog.unwrap (checkedAdd k size (align k))
  Prog.unwrap (fromSizeAlign k total (align k))

/-! ## Memory -/

/-- `*ptr.cast::<usize>()`. -/
def readWord (k address : Nat) : ShimM Nat :=
  ⟨fun heap => if wordSize k ∣ address ∧ heap.Accessible address (wordSize k) then
      (.ok (decodeWord (bytes heap.mem address (wordSize k))), heap)
    else (.halt .panic, heap)⟩

/-- `*ptr.cast::<usize>() = value`. -/
def writeWord (k address value : Nat) : ShimM Unit :=
  ⟨fun heap => if wordSize k ∣ address ∧ heap.Accessible address (wordSize k) then
      (.ok (), { heap with mem := store heap.mem address (encodeWord (wordSize k) value) })
    else (.halt .panic, heap)⟩

/-- `ptr::write_bytes`. -/
def writeBytes (address : Nat) (byte : UInt8) (count : Nat) : ShimM Unit :=
  ⟨fun heap => if heap.Accessible address count then
      (.ok (), { heap with mem := store heap.mem address (List.replicate count byte) })
    else (.halt .panic, heap)⟩

/-- `ptr.add(count)`, which stays in the block that it points into. -/
def ptrAdd (address count : Nat) : ShimM Nat :=
  ⟨fun heap => if heap.Accessible address count then (.ok (address + count), heap)
    else (.halt .panic, heap)⟩

def ptrSub (address count : Nat) : ShimM Nat :=
  ⟨fun heap => if count ≤ address ∧ heap.Accessible (address - count) count then
      (.ok (address - count), heap)
    else (.halt .panic, heap)⟩

/-! ## The global allocator -/

variable (global : GlobalAlloc (usizeMax k))

def alloc (layout : Layout) : ShimM Nat :=
  ⟨fun heap => if layout.size = 0 then (.halt .panic, heap)
    else match global.alloc heap layout with
      | (none, mem) => (.ok 0, { heap with mem })
      | (some base, mem) => (.ok base, ⟨mem, heap.live.insert base layout⟩)⟩

/-- The block is live, and this is its layout. -/
def dealloc (address : Nat) (layout : Layout) : ShimM Unit :=
  ⟨fun heap => if heap.live.lookup address = some layout then
      (.ok (), ⟨global.dealloc heap address layout, heap.live.erase address⟩)
    else (.halt .panic, heap)⟩

def realloc (address : Nat) (layout : Layout) (newSize : Nat) : ShimM Nat :=
  ⟨fun heap => if heap.live.lookup address = some layout ∧ newSize ≠ 0 ∧
        fromSizeAlign k newSize layout.align ≠ none then
      match global.realloc heap address layout newSize with
      | (none, mem) => (.ok 0, { heap with mem })
      | (some base, mem) =>
        (.ok base, ⟨mem, (heap.live.erase address).insert base ⟨newSize, layout.align⟩⟩)
    else (.halt .panic, heap)⟩

/-! ## The shim -/

def allocationLayout (k size : Nat) : Option Layout := do
  let total ← checkedAdd k size (align k)
  fromSizeAlign k total (align k)

def rustSqliteWasmMalloc (size : Nat) : ShimM Nat :=
  match allocationLayout k size with
  | none => pure 0
  | some layout => do
    let ptr ← alloc global layout
    if ptr = 0 then pure 0
    else do
      writeWord k ptr size
      ptrAdd ptr (align k)

def rustSqliteWasmFree (ptr : Nat) : ShimM Unit :=
  if ptr = 0 then pure ()
  else do
    let ptr ← ptrSub ptr (align k)
    let size ← readWord k ptr
    let layout ← layoutUnchecked k size
    dealloc global ptr layout

def rustSqliteWasmRealloc (ptr newSize : Nat) : ShimM Nat :=
  if ptr = 0 then rustSqliteWasmMalloc global newSize
  else match allocationLayout k newSize with
    | none => pure 0
    | some newLayout => do
      let ptr ← ptrSub ptr (align k)
      let size ← readWord k ptr
      let layout ← layoutUnchecked k size
      let ptr ← realloc global ptr layout newLayout.size
      if ptr = 0 then pure 0
      else do
        writeWord k ptr newSize
        ptrAdd ptr (align k)

def rustSqliteWasmCalloc (num size : Nat) : ShimM Nat :=
  match checkedMul k num size with
  | none => pure 0
  | some total => do
    let ptr ← rustSqliteWasmMalloc global total
    if ptr ≠ 0 then do
      writeBytes ptr 0 total
      pure ptr
    else pure ptr

end Shim

end SqliteVfs
