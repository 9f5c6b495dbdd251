import SqliteVfs.Base.Program
import SqliteVfs.Core.Error

/-!
# Database transfers

The transfer module of the core crate: the `ImportTarget` and `ExportSource` traits as
records of programs over a backend state, the sequential import `DbImport`, the
sequential export `DbExport`, and the entry points of `DbTransfer` built from them.
Sizes and offsets are `u64` values kept as natural numbers; the one addition that can
leave the range is the checked addition of `write`.
-/

set_option autoImplicit false

namespace SqliteVfs

inductive ImportDbError where
  | invalidDbSize
  | invalidHeader
  | invalidPageSize
  deriving DecidableEq, Repr

inductive TransferError where
  | importDb (error : ImportDbError)
  | sizeMismatch (expected actual : Nat)
  | offsetOverflow
  | importFailed
  | fileTooLarge
  | outOfMemory
  | shortRead (expected actual : Nat)
  deriving DecidableEq, Repr

/-- `From<TransferError>`. -/
class FromTransferError (ε : Type) where
  ofTransfer : TransferError → ε

export FromTransferError (ofTransfer)

inductive ImportMode where
  | checked
  | unchecked
  deriving DecidableEq, Repr

/-- An unpublished import destination.  `drop` is its destructor; `commit`, `abort` and
`abortWithError` consume it and include what their destructor call does. -/
structure ImportTarget (σ ε : Type) where
  writeAt : Nat → List UInt8 → Prog σ ε Unit
  commit : Prog σ ε Unit
  abort : Prog σ ε Unit
  abortWithError : ε → Prog σ Empty ε
  drop : Prog σ Empty Unit

/-- `Err(target.abort_with_error(error))`. -/
def ImportTarget.reclaim {σ ε α : Type} (target : ImportTarget σ ε) (error : ε) : Prog σ ε α := do
  let error ← Prog.widen (target.abortWithError error)
  Prog.fail error

/-- A retained image.  `readAt` returns the count and the buffer it was given, filled in
place: whatever the count, the buffer keeps its length. -/
structure ExportSource (σ ε : Type) where
  size : Nat
  readAt : Nat → List UInt8 → Prog σ ε (Nat × List UInt8)
  drop : Prog σ Empty Unit
  keepsLength : ∀ offset buf s count filled next,
    (readAt offset buf).run s = (.ok (count, filled), next) → filled.length = buf.length

structure DbTransfer (σ ε : Type) where
  createImport : String → Nat → Prog σ ε (ImportTarget σ ε)
  openExport : String → Prog σ ε (ExportSource σ ε)

variable {σ ε : Type} [FromTransferError ε]

/-! ## Validation -/

/-- `b"SQLite format 3\0"`. -/
def sqlite3Header : List UInt8 :=
  [83, 81, 76, 105, 116, 101, 32, 102, 111, 114, 109, 97, 116, 32, 51, 0]

def validateSize (size : Nat) : Except ImportDbError Unit :=
  if size < 512 ∨ size % 512 ≠ 0 then .error .invalidDbSize else .ok ()

/-- `u16::from_be_bytes([header[16], header[17]])`, where `1` stands for 65536. -/
def pageSizeField (header : List UInt8) : Nat :=
  let pageSize := (header.getD 16 0).toNat * 256 + (header.getD 17 0).toNat
  if pageSize = 1 then 65536 else pageSize

def checkImportHeader (header : List UInt8) (size : Nat) : Except ImportDbError Unit := do
  validateSize size
  if header.length < 18 ∨ ¬ sqlite3Header <+: header then .error .invalidHeader
  else
    let pageSize := pageSizeField header
    if ¬ (pageSize.isPowerOfTwo ∧ 512 ≤ pageSize ∧ pageSize ≤ 65536) then
      .error .invalidPageSize
    else if size % pageSize ≠ 0 then .error .invalidDbSize
    else .ok ()

/-- `map_err(TransferError::from)?` into the backend's error. -/
def ofImportDb {α : Type} (result : Except ImportDbError α) : Except ε α :=
  result.mapError fun error => ofTransfer (.importDb error)

/-! ## Importing -/

structure DbImport (σ ε : Type) where
  target : ImportTarget σ ε
  size : Nat
  offset : Nat
  mode : ImportMode
  header : List UInt8
  failed : Bool

namespace DbImport

def new (target : ImportTarget σ ε) (size : Nat) (mode : ImportMode) : DbImport σ ε :=
  ⟨target, size, 0, mode, List.replicate 18 0, false⟩

/-- Methods on `&mut self`. -/
abbrev M (σ ε α : Type) : Type := Prog (DbImport σ ε × σ) ε α

def self : M σ ε (DbImport σ ε) := do
  let state ← Prog.get
  pure state.1

def update (f : DbImport σ ε → DbImport σ ε) : M σ ε Unit :=
  Prog.modify fun state => (f state.1, state.2)

/-- Collects the header bytes of a checked import, and validates them once all are there. -/
def fillHeader (bytes : List UInt8) (endOffset : Nat) : M σ ε Unit := do
  let self ← self
  if self.mode = .checked ∧ self.offset < self.header.length then do
    let start := self.offset
    let room ← Prog.checkedSub self.header.length start
    let count := min bytes.length room
    let part ← Prog.slice bytes 0 count
    let header ← Prog.copyInto self.header start (start + count) part
    update fun self => { self with header }
    if header.length ≤ endOffset then
      Prog.ofExcept (ofImportDb (checkImportHeader header self.size))
    else pure ()
  else pure ()

/-- The closure of `write`, whose failure makes the import fail for good. -/
def writeChunk (bytes : List UInt8) : M σ ε Unit := do
  let self ← self
  let endOffset := self.offset + bytes.length
  if u64Size ≤ endOffset then Prog.fail (ofTransfer .offsetOverflow)
  else if self.size < endOffset then
    Prog.fail (ofTransfer (.sizeMismatch self.size endOffset))
  else do
    fillHeader bytes endOffset
    if bytes ≠ [] then Prog.onSnd (self.target.writeAt self.offset bytes) else pure ()
    update fun self => { self with offset := endOffset }

def write (bytes : List UInt8) : M σ ε Unit := do
  let self ← self
  if self.failed then Prog.fail (ofTransfer .importFailed)
  else do
    let result ← Prog.attempt (writeChunk bytes)
    update fun self => { self with failed := !result.isOk }
    Prog.ofExcept result

def finish (self : DbImport σ ε) : Prog σ ε Unit := do
  let result ← Prog.attempt
    (if self.failed then Prog.fail (ofTransfer .importFailed)
    else if self.offset ≠ self.size then
      Prog.fail (ofTransfer (.sizeMismatch self.size self.offset))
    else if self.mode = .checked then self.target.writeAt 18 [1, 1]
    else pure () : Prog σ ε Unit)
  match result with
  | .ok () => self.target.commit
  | .error error => self.target.reclaim error

def abort (self : DbImport σ ε) : Prog σ ε Unit := self.target.abort

def drop (self : DbImport σ ε) : Prog σ Empty Unit := self.target.drop

end DbImport

def importBytes (dbImport : DbImport σ ε) (bytes : List UInt8) : Prog σ ε Unit := do
  let result ← Prog.attempt (Prog.withState dbImport (DbImport.write bytes))
  match result with
  | .error error => dbImport.target.reclaim error
  | .ok ((), dbImport) => dbImport.finish

/-! ## Exporting -/

structure DbExport (σ ε : Type) where
  source : ExportSource σ ε
  size : Nat
  offset : Nat

namespace DbExport

def new (source : ExportSource σ ε) : DbExport σ ε := ⟨source, source.size, 0⟩

/-- The loop of `read`: `done` counts the bytes of `buf` filled so far. -/
def readLoop (source : ExportSource σ ε) (offset length : Nat) (buf : List UInt8) (done : Nat) :
    Prog σ ε (List UInt8) :=
  if done < length then do
    let rest ← Prog.slice buf done length
    let (count, part) ← source.readAt (offset + done) rest
    let buf ← Prog.copyInto buf done length part
    if count = 0 ∨ length - done < count then
      Prog.fail (ofTransfer (.shortRead (length - done) count))
    else readLoop source offset length buf (done + count)
  else pure buf
termination_by length - done

/-- Returns the count and the buffer after the call. -/
def read (buf : List UInt8) : Prog (DbExport σ ε × σ) ε (Nat × List UInt8) := do
  let (self, _) ← Prog.get
  let remaining ← Prog.checkedSub self.size self.offset
  let length := min remaining buf.length
  let buf ← Prog.onSnd (readLoop self.source self.offset length buf 0)
  Prog.modify fun state => ({ state.1 with offset := self.offset + length }, state.2)
  pure (length, buf)

def drop (self : DbExport σ ε) : Prog σ Empty Unit := self.source.drop

/-- Consumes the export.  `granted` is the answer of the allocator; `isize::MAX` is
`2 ^ (bits - 1) - 1`. -/
def readToVec (bits : Nat) (granted : Bool) (self : DbExport σ ε) : Prog σ ε (List UInt8) :=
  Prog.ensure (drop self) do
    let size ← Prog.checkedSub self.size self.offset
    if 2 ^ (bits - 1) ≤ size then Prog.fail (ofTransfer .fileTooLarge)
    else if granted then do
      let ((_, bytes), _) ← Prog.withState self (read (List.replicate size 0))
      pure bytes
    else Prog.fail (ofTransfer .outOfMemory)

end DbExport

/-! ## Entry points -/

namespace DbTransfer

variable (store : DbTransfer σ ε)

def beginImport (name : String) (size : Nat) : Prog σ ε (DbImport σ ε) := do
  Prog.ofExcept (ofImportDb (validateSize size))
  let target ← store.createImport name size
  pure (DbImport.new target size .checked)

def beginImportUnchecked (name : String) (size : Nat) : Prog σ ε (DbImport σ ε) := do
  let target ← store.createImport name size
  pure (DbImport.new target size .unchecked)

def importDb (name : String) (bytes : List UInt8) : Prog σ ε Unit := do
  Prog.ofExcept (ofImportDb (checkImportHeader bytes bytes.length))
  let dbImport ← store.beginImport name bytes.length
  importBytes dbImport bytes

def importDbUnchecked (name : String) (bytes : List UInt8) : Prog σ ε Unit := do
  let dbImport ← store.beginImportUnchecked name bytes.length
  importBytes dbImport bytes

def beginExport (name : String) : Prog σ ε (DbExport σ ε) := do
  let source ← store.openExport name
  pure (DbExport.new source)

def exportDb (bits : Nat) (granted : Bool) (name : String) : Prog σ ε (List UInt8) := do
  let dbExport ← store.beginExport name
  dbExport.readToVec bits granted

end DbTransfer

end SqliteVfs
