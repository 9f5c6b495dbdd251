import SqliteVfs.Base.Program
import SqliteVfs.Callbacks.ErrorCode
import SqliteVfs.Core.Options

/-!
# Backends

The traits `VfsStore`, `VfsFile` and `OsCallback`.  A backend is any functions of its own
state and of the handle it is called on; its calls return, they do not panic.
-/

set_option autoImplicit false

namespace SqliteVfs

namespace Callbacks

/-- An OS error number, which is not zero. -/
structure SystemErrorCode where
  raw : Int
  nonzero : raw ≠ 0

/-- `VfsError` as callbacks see it, with its message as one string. -/
structure VfsError where
  code : VfsErrorCode
  message : String
  systemError : Option SystemErrorCode
  constructible : code.Constructible

def VfsError.new (code : VfsErrorCode) (message : String)
    (constructible : code.Constructible := by trivial) : VfsError :=
  ⟨code, message, none, constructible⟩

def VfsError.rawCode (error : VfsError) : Int := error.code.asRaw

inductive LockLevel where
  | none
  | shared
  | reserved
  | pending
  | exclusive
  deriving DecidableEq, Repr

def LockLevel.fromRaw : Int → Option LockLevel
  | 0 => some .none
  | 1 => some .shared
  | 2 => some .reserved
  | 3 => some .pending
  | 4 => some .exclusive
  | _ => Option.none

inductive AccessMode where
  | exists
  | read
  | readWrite
  deriving DecidableEq, Repr

/-- `SQLITE_ACCESS_EXISTS`, `READWRITE` and `READ`. -/
def AccessMode.fromRaw : Int → Option AccessMode
  | 0 => some .exists
  | 1 => some .readWrite
  | 2 => some .read
  | _ => none

inductive SyncMode where
  | normal
  | full
  deriving DecidableEq, Repr

structure SyncOptions where
  mode : SyncMode
  dataOnly : Bool
  deriving DecidableEq, Repr

/-- Modes are in the low four bits; the only other flag is `SQLITE_SYNC_DATAONLY`. -/
def SyncOptions.fromRawFlags (flags : UInt32) : Option SyncOptions :=
  let mode := if flags &&& 0x0f = 2 then some SyncMode.normal
    else if flags &&& 0x0f = 3 then some SyncMode.full
    else none
  mode.bind fun mode =>
    if flags &&& ~~~(0x0f ||| 0x10) ≠ 0 then none
    else some ⟨mode, flags &&& 0x10 ≠ 0⟩

/-- The filename of an open; `sqlite` says whether SQLite's own pointer to it, behind which
it keeps URI parameters, comes with it. -/
structure VfsFilename where
  path : String
  sqlite : Bool
  deriving DecidableEq, Repr

structure OpenedFile (H : Type) where
  file : H
  access : OpenAccess

abbrev FileMethod (σ H α : Type) : Type := H → σ → Except VfsError α × H × σ

abbrev StoreMethod (σ α : Type) : Type := σ → Except VfsError α × σ

structure VfsFile (σ H : Type) where
  sizeHint (size : Nat) : FileMethod σ H Bool
  /-- The bytes that it leaves in the buffer come with the count. -/
  read (buf : List UInt8) (offset : Nat) (file : H) (s : σ) :
    Except VfsError Nat × List UInt8 × H × σ
  write (buf : List UInt8) (offset : Nat) : FileMethod σ H Unit
  truncate (size : Nat) : FileMethod σ H Unit
  sync (options : SyncOptions) : FileMethod σ H Unit
  size : FileMethod σ H Nat
  lock (level : LockLevel) : FileMethod σ H Unit
  unlock (level : LockLevel) : FileMethod σ H Unit
  checkReservedLock : FileMethod σ H Bool
  /-- A slice keeps its length. -/
  length_read : ∀ buf offset file s, (read buf offset file s).2.1.length = buf.length

structure VfsStore (σ H : Type) where
  openFile (filename : Option VfsFilename) (options : OpenOptions) : StoreMethod σ (OpenedFile H)
  closeFile (name : Option String) (file : H) (options : OpenOptions) : StoreMethod σ Unit
  access (name : String) (mode : AccessMode) : StoreMethod σ Bool
  fullPathname (name : String) : StoreMethod σ String
  deleteFile (name : String) (syncDir : Bool) : StoreMethod σ Unit

structure Backend (σ H : Type) where
  store : VfsStore σ H
  io : VfsFile σ H
  /-- Milliseconds since 1970. -/
  epochTimestampInMs : StoreMethod σ Int

/-- A backend that keeps nothing: every file is empty. -/
def Backend.null : Backend Unit Unit where
  store :=
    { openFile := fun _ options s => (.ok ⟨(), options.access⟩, s)
      closeFile := fun _ _ _ s => (.ok (), s)
      access := fun _ _ s => (.ok false, s)
      fullPathname := fun name s => (.ok name, s)
      deleteFile := fun _ _ s => (.ok (), s) }
  io :=
    { sizeHint := fun _ file s => (.ok false, file, s)
      read := fun buf _ file s => (.ok 0, buf, file, s)
      write := fun _ _ file s => (.ok (), file, s)
      truncate := fun _ file s => (.ok (), file, s)
      sync := fun _ file s => (.ok (), file, s)
      size := fun file s => (.ok 0, file, s)
      lock := fun _ file s => (.ok (), file, s)
      unlock := fun _ file s => (.ok (), file, s)
      checkReservedLock := fun file s => (.ok false, file, s)
      length_read := fun _ _ _ _ => rfl }
  epochTimestampInMs := fun s => (.ok 0, s)

end Callbacks

end SqliteVfs
