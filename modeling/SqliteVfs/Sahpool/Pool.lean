import Mathlib.Data.List.AList
import SqliteVfs.Sahpool.Slot

/-!
# The access handle pool

`OpfsSAHPool` with its directory of slot files and SQLite's VFS registry.  A slot is
referred to by its physical filename, as every live `SyncAccessFile` of that name is the
same object.  `Env` is what the surroundings will answer, in the order they are asked;
an empty script answers without failure.

`last_error` is left out: nothing here reads it.
-/

set_option autoImplicit false

namespace SqliteVfs

namespace Sahpool

inductive PoolState where
  | active
  | paused
  | removed
  deriving DecidableEq, Repr

structure Vfs where
  pointer : Nat
  name : String
  deriving DecidableEq, Repr

structure Env where
  /-- The browser, for calls on handles and directories. -/
  replies : List Reply
  /-- The bytes and the count of each `random` call. -/
  randomness : List (Nat × List UInt8)
  /-- Whether each `try_reserve` is granted. -/
  grants : List Bool
  /-- The error code of each SQLite registration call that fails. -/
  codes : List (Option VfsErrorCode)

structure World where
  directory : AList fun _ : String => SlotFile
  registry : List Vfs
  env : Env
  /-- The last one is the top. -/
  availableFiles : List String
  mapFilenameToFile : AList fun _ : String => String
  quarantinedFiles : List String
  openCount : String → Nat
  state : PoolState
  busy : Bool
  needsRecovery : Bool
  lease : Bool
  name : String
  makeDefault : Bool
  /-- The pointer that SQLite knows the registered pool by. -/
  registration : Option Nat

def World.start (directory : AList fun _ : String => SlotFile) (name : String) : World where
  directory := directory
  registry := []
  env := ⟨[], [], [], []⟩
  availableFiles := []
  mapFilenameToFile := ∅
  quarantinedFiles := []
  openCount _ := 0
  state := .removed
  busy := false
  needsRecovery := false
  lease := false
  name := name
  makeDefault := false
  registration := none

abbrev PoolM (α : Type) : Type := Prog World OpfsSAHError α

/-! ## Surroundings -/

/-- Runs an operation of a slot through a reference to it. -/
def onSlot {ε α : Type} (file : String) (x : SlotM ε α) : Prog World ε α :=
  ⟨fun w => match w.directory.lookup file with
    | none => (.halt .panic, w)
    | some content =>
      ((x.run ⟨content, w.env.replies⟩).1,
        { w with
          directory := w.directory.insert file (x.run ⟨content, w.env.replies⟩).2.file
          env := { w.env with replies := (x.run ⟨content, w.env.replies⟩).2.replies } })⟩

def tryReserve : PoolM Unit :=
  ⟨fun w => match w.env.grants with
    | [] => (.ok (), w)
    | granted :: rest =>
      (if granted then .ok () else .err .outOfMemory,
        { w with env := { w.env with grants := rest } })⟩

/-- `os.random` into a buffer of 32 zeros. -/
def osRandom : Prog World VfsError (Nat × List UInt8) :=
  ⟨fun w => match w.env.randomness with
    | [] => (.ok (0, List.replicate 32 0), w)
    | (count, bytes) :: rest =>
      (.ok (count, (List.range 32).map fun i => bytes.getD i 0),
        { w with env := { w.env with randomness := rest } })⟩

/-- SQLite's answer to a registration call: a code that is not `SQLITE_OK`, or nothing. -/
def sqliteCode : PoolM (Option VfsErrorCode) :=
  ⟨fun w => match w.env.codes with
    | [] => (.ok none, w)
    | code :: rest => (.ok code, { w with env := { w.env with codes := rest } })⟩

/-- `registered_vfs`: the first VFS of that name. -/
def registeredVfs (name : String) : PoolM (Option Nat) := do
  if 0 ∈ nameBytes name then Prog.fail (.vfs .toCStr)
  else do
    let w ← Prog.get
    pure ((w.registry.find? fun vfs => vfs.name = name).map Vfs.pointer)

/-- `sqlite3_vfs_register`, which moves a VFS that is already there. -/
def vfsRegister (pointer : Nat) (default : Bool) : PoolM (Option VfsErrorCode) := do
  let code ← sqliteCode
  if code = none then
    Prog.modify fun w =>
      let others := w.registry.filter fun vfs => vfs.pointer ≠ pointer
      { w with registry := match default, others with
        | true, others => ⟨pointer, w.name⟩ :: others
        | false, [] => [⟨pointer, w.name⟩]
        | false, first :: rest => first :: ⟨pointer, w.name⟩ :: rest }
  pure code

def vfsUnregister (pointer : Nat) : PoolM (Option VfsErrorCode) := do
  let code ← sqliteCode
  if code = none then
    Prog.modify fun w => { w with registry := w.registry.filter fun vfs => vfs.pointer ≠ pointer }
  pure code

def charset : List Char :=
  "ABCDEFGHIJKLMNOPQRSTUVWXYZabcdefghijklmnopqrstuvwxyz0123456789".toList

def randomName : Prog World VfsError String := do
  let (count, bytes) ← osRandom
  if count ≠ bytes.length then
    Prog.fail (VfsError.new .cantOpen "insufficient randomness for a temporary filename")
  else pure (String.ofList (bytes.map fun byte => charset.getD (byte.toNat % 62) 'A'))

def maxFilenameAttempts : Nat := 16

def validateFilename (filename : String) : Except OpfsSAHError Unit :=
  if nameBytes filename = [] then .error (.invalidFilename "filename is empty")
  else if 0 ∈ nameBytes filename then
    .error (.invalidFilename "filename contains a NUL byte")
  else if maxDbFilenameSize < (nameBytes filename).length then
    .error (.invalidFilename "filename exceeds 499 UTF-8 bytes")
  else .ok ()

def checkedAdd (a b : Nat) : Option Nat := if a + b < u64Size then some (a + b) else none

def physicalOffset {σ : Type} (offset length : Nat) (code : VfsErrorCode) :
    Prog σ VfsError Nat :=
  let start := checkedAdd offset headerOffsetData
  let stop := start.bind fun start => checkedAdd start length
  if maxSafeInteger < stop.getD (u64Size - 1) then
    Prog.fail (VfsError.new code "file offset or size exceeds JavaScript's safe integer range")
  else Prog.unwrap start

/-- Exactly the ranges that end within the safe integers have a physical offset. -/
theorem physicalOffset_eq {σ : Type} (offset length : Nat) (code : VfsErrorCode) :
    (physicalOffset offset length code : Prog σ VfsError Nat) =
      if offset + headerOffsetData + length ≤ maxSafeInteger then
        pure (offset + headerOffsetData)
      else Prog.fail
        (VfsError.new code "file offset or size exceeds JavaScript's safe integer range") := by
  have small : maxSafeInteger < u64Size - 1 := by decide
  unfold physicalOffset checkedAdd
  dsimp only
  by_cases inside : offset + headerOffsetData + length ≤ maxSafeInteger
  · have start : offset + headerOffsetData < u64Size := by omega
    have stop : offset + headerOffsetData + length < u64Size := by omega
    have fits : ¬ maxSafeInteger < offset + headerOffsetData + length := by omega
    rw [if_pos start, Option.bind_some, if_pos stop, Option.getD_some, if_neg fits, if_pos inside]
    rfl
  · rw [if_neg inside]
    by_cases start : offset + headerOffsetData < u64Size
    · rw [if_pos start, Option.bind_some]
      by_cases stop : offset + headerOffsetData + length < u64Size
      · rw [if_pos stop, Option.getD_some, if_pos (by omega)]
      · rw [if_neg stop, Option.getD_none, if_pos small]
    · rw [if_neg start, Option.bind_none, Option.getD_none, if_pos small]

-- Its arithmetic is never to be evaluated on open terms.
attribute [irreducible] physicalOffset

/-! ## Guards -/

def checkState : PoolM Unit := do
  let w ← Prog.get
  match w.state with
  | .active => pure ()
  | .paused => Prog.fail .paused
  | .removed => Prog.fail .uninstalled

def checkActive : PoolM Unit := do
  checkState
  let w ← Prog.get
  if w.busy then Prog.fail .busy
  else if w.needsRecovery then Prog.fail .needsRecovery
  else pure ()

def beginOperation : PoolM Unit := do
  let w ← Prog.get
  if w.state = .removed then Prog.fail .uninstalled
  else if w.busy then Prog.fail .busy
  else Prog.modify fun w => { w with busy := true }

/-- The destructor of the `Operation` guard. -/
def endOperation : Prog World Empty Unit := Prog.modify fun w => { w with busy := false }

/-- `let _operation = self.begin_operation()?` and the rest of the function. -/
def withOperation {α : Type} (body : PoolM α) : PoolM α := do
  beginOperation
  Prog.ensure endOperation body

def checkClosed : PoolM Unit := do
  let w ← Prog.get
  if w.mapFilenameToFile.entries.any fun entry => w.openCount entry.2 ≠ 0 then
    Prog.fail .filesInUse
  else pure ()

/-! ## Queries -/

namespace World

def capacity (w : World) : Nat :=
  w.mapFilenameToFile.entries.length + w.availableFiles.length + w.quarantinedFiles.length

def getFileCount (w : World) : Nat := w.mapFilenameToFile.entries.length

def getFilenames (w : World) : List String := w.mapFilenameToFile.keys

def hasFilename (w : World) (name : String) : Bool := name ∈ w.mapFilenameToFile

end World

/-! ## Namespace updates -/

def associate (file : String) (filename : Option String) (flags : UInt32) : PoolM Unit :=
  onSlot file (SyncAccessFile.associate filename flags)

def setNeedsRecovery (value : Bool) : PoolM Unit :=
  Prog.modify fun w => { w with needsRecovery := value }

def pushAvailable (file : String) : PoolM Unit :=
  Prog.modify fun w => { w with availableFiles := w.availableFiles ++ [file] }

def pushQuarantined (file : String) : PoolM Unit :=
  Prog.modify fun w => { w with quarantinedFiles := w.quarantinedFiles ++ [file] }

def popAvailable : PoolM (Option String) := do
  let w ← Prog.get
  Prog.modify fun w => { w with availableFiles := w.availableFiles.dropLast }
  pure w.availableFiles.getLast?

def popQuarantined : PoolM (Option String) := do
  let w ← Prog.get
  Prog.modify fun w => { w with quarantinedFiles := w.quarantinedFiles.dropLast }
  pure w.quarantinedFiles.getLast?

def insertFile (filename file : String) : PoolM Unit :=
  Prog.modify fun w => { w with mapFilenameToFile := w.mapFilenameToFile.insert filename file }

def removeFile (filename : String) : PoolM (Option String) := do
  let w ← Prog.get
  Prog.modify fun w => { w with mapFilenameToFile := w.mapFilenameToFile.erase filename }
  pure (w.mapFilenameToFile.lookup filename)

def ofOption {α : Type} (error : OpfsSAHError) : Option α → PoolM α
  | some value => pure value
  | none => Prog.fail error

def releaseAccessHandles : PoolM Unit := do
  checkClosed
  Prog.modify fun w =>
    { w with availableFiles := [], mapFilenameToFile := ∅, quarantinedFiles := [], lease := false }

def deleteFile (filename : String) : PoolM Bool := do
  checkActive
  let w ← Prog.get
  match w.mapFilenameToFile.lookup filename with
  | none => pure false
  | some file =>
    if w.openCount file ≠ 0 then Prog.fail (.fileInUse filename)
    else do
      let result ← Prog.attempt (associate file none 0)
      match result with
      | .error error => do
        setNeedsRecovery true
        Prog.fail error
      | .ok () => do
        let file ← removeFile filename
        let file ← Prog.unwrap file
        pushAvailable file
        pure true

def withNewFile (filename : String) (flags : UInt32) (write : SyncAccessFile.M Unit) :
    PoolM Unit := do
  checkActive
  let w ← Prog.get
  if w.hasFilename filename then Prog.fail (.fileExists filename)
  else do
    tryReserve
    let file ← popAvailable
    let file ← ofOption .noCapacity file
    let result ← Prog.attempt do
      onSlot file write
      associate file (some filename) flags
    match result with
    | .ok () => insertFile filename file
    | .error error => do
      let cleaned ← Prog.attempt (associate file none 0)
      match cleaned with
      | .error cleanup => do
        pushQuarantined file
        setNeedsRecovery true
        Prog.fail (.cleanup error cleanup)
      | .ok () => do
        pushAvailable file
        Prog.fail error

/-! ## Lifecycle -/

def pause : PoolM Unit := withOperation do
  let w ← Prog.get
  if w.state = .paused then pure ()
  else do
    checkClosed
    match w.registration with
    | none => pure ()
    | some pointer => do
      let code ← vfsUnregister pointer
      match code with
      | some code => Prog.fail (.sqlite "unregister VFS" code)
      | none => pure ()
    releaseAccessHandles
    Prog.modify fun w => { w with state := .paused }

/-- The first loop of `clear`. -/
def clearNames : List String → PoolM Unit
  | [] => pure ()
  | name :: names => do
    let w ← Prog.get
    let file ← Prog.unwrap (w.mapFilenameToFile.lookup name)
    associate file none 0
    let file ← removeFile name
    let file ← Prog.unwrap file
    pushAvailable file
    clearNames names

/-- The second loop of `clear`, which pops at most `rounds` slots. -/
def clearQuarantined : Nat → PoolM Unit
  | 0 => pure ()
  | rounds + 1 => do
    let file ← popQuarantined
    match file with
    | none => pure ()
    | some file => do
      let result ← Prog.attempt (associate file none 0)
      match result with
      | .error error => do
        pushQuarantined file
        Prog.fail error
      | .ok () => do
        pushAvailable file
        clearQuarantined rounds

def clear : PoolM Unit := do
  checkState
  withOperation do
    checkClosed
    setNeedsRecovery true
    let w ← Prog.get
    clearNames w.getFilenames
    let w ← Prog.get
    clearQuarantined w.quarantinedFiles.length
    setNeedsRecovery false

def uninstall : PoolM Unit := do
  let w ← Prog.get
  if w.state = .removed then pure ()
  else withOperation do
    checkClosed
    let w ← Prog.get
    let pointer ← ofOption .uninstalled w.registration
    Prog.modify fun w => { w with registration := none }
    let code ← vfsUnregister pointer
    match code with
    | some code => do
      Prog.modify fun w => { w with registration := some pointer }
      Prog.fail (.vfs (.unregisterVfs code))
    | none => do
      releaseAccessHandles
      Prog.modify fun w => { w with state := .removed }

/-! ## Transfers -/

/-- A sidecar that keeps a database from being transferred on its own. -/
def sidecars : List String := ["-journal", "-wal"]

namespace ImportTarget

variable (file filename : String)

/-- The slot stays on top of `availableFiles` while it is reserved. -/
def cleanup : PoolM Unit := do
  let result ← Prog.attempt (associate file none 0)
  match result with
  | .error error => do
    let top ← popAvailable
    let top ← Prog.unwrap top
    pushQuarantined top
    setNeedsRecovery true
    Prog.fail error
  | .ok () => pure ()

def abortWithError (error : OpfsSAHError) : Prog World Empty OpfsSAHError := do
  let cleaned ← Prog.attempt (cleanup file)
  match cleaned with
  | .ok () => pure error
  | .error cleanup => pure (.cleanup error cleanup)

def writeAt (offset : Nat) (bytes : List UInt8) : PoolM Unit := do
  let start ← Prog.mapErr .backend (physicalOffset offset bytes.length .ioWrite)
  onSlot file (SyncAccessFile.writeAt bytes start)

def commit : PoolM Unit := do
  let result ← Prog.attempt (onSlot file do
    SyncAccessFile.flush
    SyncAccessFile.associate (some filename) SqliteOpen.mainDb)
  match result with
  | .error error => do
    let error ← Prog.widen (abortWithError file error)
    Prog.fail error
  | .ok () => do
    let top ← popAvailable
    let top ← Prog.unwrap top
    insertFile filename top

/-- The destructor of a target that is not done. -/
def drop : Prog World Empty Unit := do
  let _ ← Prog.attempt (cleanup file)
  pure ()

end ImportTarget

/-- Each of the calls that consume the target ends with its `Operation` guard. -/
def importTarget (file filename : String) : SqliteVfs.ImportTarget World OpfsSAHError where
  writeAt := ImportTarget.writeAt file
  commit := Prog.ensure endOperation (ImportTarget.commit file filename)
  abort := Prog.ensure endOperation (ImportTarget.cleanup file)
  abortWithError error := Prog.ensure endOperation (ImportTarget.abortWithError file error)
  drop := Prog.ensure endOperation (ImportTarget.drop file)

def createImport (filename : String) (size : Nat) :
    PoolM (SqliteVfs.ImportTarget World OpfsSAHError) := do
  checkActive
  Prog.ofExcept (validateFilename filename)
  let _ ← Prog.mapErr .backend (physicalOffset size 0 .ioWrite)
  let w ← Prog.get
  if w.hasFilename filename then Prog.fail (.fileExists filename)
  else if sidecars.any fun suffix => w.hasFilename (filename ++ suffix) then
    Prog.fail (.recoveryRequired filename)
  else do
    tryReserve
    let w ← Prog.get
    let file ← ofOption .noCapacity w.availableFiles.getLast?
    beginOperation
    pure (importTarget file filename)

def exportReadAt (file : String) (offset : Nat) (buf : List UInt8) :
    PoolM (Nat × List UInt8) := do
  let start ← Prog.mapErr .backend (physicalOffset offset buf.length .ioRead)
  onSlot file (SyncAccessFile.readAt buf start)

theorem onSlot_ok {ε α : Type} {file : String} {x : SlotM ε α} {w next : World} {value : α}
    (run : (onSlot file x).run w = (.ok value, next)) :
    ∃ content, w.directory.lookup file = some content ∧
      ∃ slot, x.run ⟨content, w.env.replies⟩ = (.ok value, slot) ∧
        next = { w with
          directory := w.directory.insert file slot.file
          env := { w.env with replies := slot.replies } } := by
  unfold onSlot at run
  dsimp only at run
  split at run
  · exact nomatch congrArg Prod.fst run
  · rename_i content found
    have first := (Prod.mk.inj run).1
    exact ⟨content, found, _, Prod.ext first rfl, (Prod.mk.inj run).2.symm⟩

theorem length_of_exportReadAt (file : String) (offset : Nat) (buf : List UInt8) {count : Nat}
    {filled : List UInt8} {w next : World}
    (run : (exportReadAt file offset buf).run w = (.ok (count, filled), next)) :
    filled.length = buf.length := by
  unfold exportReadAt at run
  obtain ⟨start, between, -, rest⟩ := Prog.bind_ok_cases run
  obtain ⟨content, -, slot, read, -⟩ := onSlot_ok rest
  exact SyncAccessFile.length_of_readAt read

def exportSource (file : String) (size : Nat) : ExportSource World OpfsSAHError where
  size := size
  readAt := exportReadAt file
  drop := endOperation
  keepsLength offset buf _ _ _ _ run := length_of_exportReadAt file offset buf run

/-- The loop over the sidecars of `open_export`. -/
def checkSidecars (filename : String) : List String → PoolM Unit
  | [] => pure ()
  | suffix :: rest => do
    let w ← Prog.get
    match w.mapFilenameToFile.lookup (filename ++ suffix) with
    | none => checkSidecars filename rest
    | some sidecar => do
      let size ← Prog.mapErr .backend (onSlot sidecar (SyncAccessFile.size sidecar))
      if size ≠ 0 then Prog.fail (.recoveryRequired filename)
      else checkSidecars filename rest

def openExport (filename : String) : PoolM (ExportSource World OpfsSAHError) := do
  checkActive
  Prog.ofExcept (validateFilename filename)
  let w ← Prog.get
  match w.mapFilenameToFile.lookup filename with
  | none => Prog.fail (.fileNotFound filename)
  | some file =>
    if w.openCount file ≠ 0 then Prog.fail (.fileInUse filename)
    else do
      checkSidecars filename sidecars
      let size ← Prog.mapErr .backend (onSlot file (SyncAccessFile.size file))
      beginOperation
      pure (exportSource file size)

/-- `DbTransfer for OpfsSAHPool`. -/
def transfers : DbTransfer World OpfsSAHError where
  createImport := createImport
  openExport := openExport

end Sahpool

end SqliteVfs
