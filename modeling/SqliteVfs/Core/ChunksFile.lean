import SqliteVfs.Base.Program
import SqliteVfs.Core.Error

/-!
# The chunked in-memory file

`MemChunksFile` with its `read`, `write`, `truncate` and `size`.  `bits` is the width
of `usize`.  Every index, slice, division and subtraction of the source is a checked
operation that panics out of range, and every allocation asks `alloc`, which may refuse
any request: request `0` of a write reserves room for the chunk boxes and request
`i + 1` allocates the `i`-th new chunk.
-/

set_option autoImplicit false

namespace SqliteVfs

structure MemChunksFile where
  chunks : List (List UInt8)
  chunkSize : Option Nat
  fileSize : Nat
  deriving DecidableEq, Repr

abbrev FileM (α : Type) : Type := Prog MemChunksFile VfsError α

namespace MemChunksFile

/-- `assert!(chunk_size != 0)` guards the constructor. -/
def new (chunkSize : Nat) : Option MemChunksFile :=
  if chunkSize = 0 then none else some ⟨[], some chunkSize, 0⟩

def waitingForWrite : MemChunksFile := ⟨[], none, 0⟩

def default : MemChunksFile := ⟨[], some 512, 0⟩

/-! ## Reading -/

/-- The loop of `read` over `&self.chunks[chunk_idx..]`.  `offset` counts the bytes of
`buf` filled so far. -/
def readLoop (chunkSize : Nat) :
    List (List UInt8) → List UInt8 → Nat → Nat → Nat → FileM (Nat × List UInt8)
  | [], buf, offset, _, _ => pure (offset, buf)
  | chunk :: rest, buf, offset, size, remainingIdx => do
    let room ← Prog.checkedSub chunkSize remainingIdx
    let n := min room size
    let part ← Prog.slice chunk remainingIdx (remainingIdx + n)
    let buf ← Prog.copyInto buf offset (offset + n) part
    let size ← Prog.checkedSub size n
    if size = 0 then pure (offset + n, buf)
    else readLoop chunkSize rest buf (offset + n) size 0

/-- Returns the count and the buffer after the call. -/
def read (bits : Nat) (buf : List UInt8) (offset : UInt64) : FileM (Nat × List UInt8) := do
  let self ← Prog.get
  if buf.length = 0 ∨ self.fileSize ≤ offset.toNat then pure (0, buf)
  else
    -- `offset as usize`
    let offset := offset.toNat % 2 ^ bits
    match self.chunkSize with
    | none => pure (0, buf)
    | some chunkSize => do
      let phase ← Prog.checkedRem offset chunkSize
      let rest ← Prog.checkedSub self.fileSize offset
      let chunkIdx ← Prog.checkedDiv offset chunkSize
      if chunkSize = buf.length ∧ phase = 0 ∧ buf.length ≤ rest then do
        let chunk ← Prog.unwrap self.chunks[chunkIdx]?
        let buf ← Prog.copyInto buf 0 buf.length chunk
        pure (buf.length, buf)
      else do
        let touched ← Prog.slice self.chunks chunkIdx self.chunks.length
        readLoop chunkSize touched buf 0 (min buf.length rest) phase

/-! ## Writing -/

/-- `try_reserve`: asking for no additional room never allocates. -/
def tryReserve (additional : Nat) (granted : Bool) : FileM Unit :=
  if additional = 0 ∨ granted then pure () else Prog.fail noMemory

/-- The loop that appends zeroed chunks; a refused chunk drops the ones this call added. -/
def growLoop (alloc : Nat → Bool) (chunkSize originalChunks : Nat) : Nat → Nat → FileM Unit
  | _, 0 => pure ()
  | request, remaining + 1 =>
    if alloc request then do
      Prog.modify fun self =>
        { self with chunks := self.chunks ++ [List.replicate chunkSize 0] }
      growLoop alloc chunkSize originalChunks (request + 1) remaining
    else do
      Prog.modify fun self => { self with chunks := self.chunks.take originalChunks }
      Prog.fail noMemory

/-- The loop of `write` over `chunk_start_idx..=chunk_end_idx`.  `offset` counts the
bytes of `buf` already stored. -/
def writeLoop (chunkSize : Nat) (buf : List UInt8) : List Nat → Nat → Nat → Nat → FileM Unit
  | [], _, _, _ => pure ()
  | idx :: rest, offset, size, remainingIdx => do
    let self ← Prog.get
    let room ← Prog.checkedSub chunkSize remainingIdx
    let n := min room size
    let chunk ← Prog.unwrap self.chunks[idx]?
    let part ← Prog.slice buf offset (offset + n)
    let chunk ← Prog.copyInto chunk remainingIdx (remainingIdx + n) part
    Prog.modify fun self => { self with chunks := self.chunks.set idx chunk }
    let size ← Prog.checkedSub size n
    if size = 0 then pure ()
    else writeLoop chunkSize buf rest (offset + n) size 0

def store (chunkSize : Nat) (buf : List UInt8) (offset endOffset : Nat) : FileM Unit := do
  let self ← Prog.get
  let phase ← Prog.checkedRem offset chunkSize
  let startIdx ← Prog.checkedDiv offset chunkSize
  if chunkSize = buf.length ∧ phase = 0 then do
    let chunk ← Prog.unwrap self.chunks[startIdx]?
    let chunk ← Prog.copyInto chunk 0 chunk.length buf
    Prog.modify fun self => { self with chunks := self.chunks.set startIdx chunk }
  else do
    let last ← Prog.checkedSub endOffset 1
    let endIdx ← Prog.checkedDiv last chunkSize
    writeLoop chunkSize buf (List.range' startIdx (endIdx + 1 - startIdx)) 0 buf.length phase

def write (bits : Nat) (alloc : Nat → Bool) (buf : List UInt8) (offset : UInt64) :
    FileM Unit := do
  if buf.length = 0 then pure ()
  else if 2 ^ bits ≤ offset.toNat then Prog.fail offsetExceeds
  else if 2 ^ bits ≤ offset.toNat + buf.length then Prog.fail sizeExceeds
  else do
    let offset := offset.toNat
    let endOffset := offset + buf.length
    let self ← Prog.get
    let chunkSize := self.chunkSize.getD buf.length
    let last ← Prog.checkedSub endOffset 1
    let lastIdx ← Prog.checkedDiv last chunkSize
    let required := lastIdx + 1
    let originalChunks := self.chunks.length
    tryReserve (required - originalChunks) (alloc 0)
    growLoop alloc chunkSize originalChunks 1 (required - originalChunks)
    Prog.modify fun self => { self with chunkSize := some chunkSize }
    store chunkSize buf offset endOffset
    Prog.modify fun self => { self with fileSize := max self.fileSize endOffset }

/-! ## Truncation and size -/

/-- `self.chunks[idx - 1][tail..].fill(0)`. -/
def clearTail (idx tail : Nat) : FileM Unit := do
  let self ← Prog.get
  let last ← Prog.checkedSub idx 1
  let chunk ← Prog.unwrap self.chunks[last]?
  let kept ← Prog.slice chunk 0 tail
  Prog.modify fun self =>
    { self with
      chunks := self.chunks.set last (kept ++ List.replicate (chunk.length - tail) 0) }

def cannotExtend : VfsError :=
  VfsError.new .ioTruncate "cannot extend an in-memory file by truncating"

def truncate (bits : Nat) (size : UInt64) : FileM Unit := do
  let self ← Prog.get
  if self.fileSize < size.toNat then Prog.fail cannotExtend
  else if 2 ^ bits ≤ size.toNat then Prog.fail sizeExceeds
  else do
    let size := size.toNat
    match self.chunkSize with
    | none => pure ()
    | some chunkSize =>
      if size = 0 then Prog.modify fun self => { self with chunks := [] }
      else do
        let last ← Prog.checkedSub size 1
        let lastIdx ← Prog.checkedDiv last chunkSize
        let idx := lastIdx + 1
        -- `drain(idx..)` panics past the end
        let kept ← Prog.slice self.chunks 0 idx
        Prog.modify fun self => { self with chunks := kept }
        let tail ← Prog.checkedRem size chunkSize
        if size < self.fileSize ∧ tail ≠ 0 then clearTail idx tail else pure ()
    Prog.modify fun self => { self with fileSize := size }

def size : FileM Nat := do
  let self ← Prog.get
  pure self.fileSize

end MemChunksFile

end SqliteVfs
