import Mathlib.Data.List.Basic
import Mathlib.Data.UInt

/-!
# SQLite error codes and backend diagnostics

`VfsErrorCode` and `VfsError` of the core crate.  A message is kept as its fragments:
literal text, numbers and codes, and names that the source formats with `{:?}`.
-/

set_option autoImplicit false

namespace SqliteVfs

/-- A validated raw SQLite error code without a name of its own. -/
structure RawVfsErrorCode where
  raw : Nat
  deriving DecidableEq, Repr

inductive VfsErrorCode where
  | error
  | permission
  | busy
  | locked
  | noMemory
  | readOnly
  | interrupt
  | io
  | corrupt
  | notFound
  | full
  | cantOpen
  | protocol
  | misuse
  | auth
  | ioRead
  | ioShortRead
  | ioWrite
  | ioSync
  | ioDirectorySync
  | ioTruncate
  | ioStat
  | ioUnlock
  | ioReadLock
  | ioDelete
  | ioAccess
  | ioCheckReservedLock
  | ioLock
  | ioClose
  | ioDeleteNoEntry
  | other (code : RawVfsErrorCode)
  deriving DecidableEq, Repr

inductive Fragment where
  | text (literal : String)
  | quoted (name : String)
  | number (value : Nat)
  | code (code : VfsErrorCode)
  deriving DecidableEq, Repr

abbrev Message : Type := List Fragment

structure VfsError where
  code : VfsErrorCode
  message : Message
  deriving DecidableEq, Repr

def VfsError.new (code : VfsErrorCode) (message : String) : VfsError :=
  ⟨code, [.text message]⟩

/-- `VfsError::new` with `format!("{literal}{name:?}")`. -/
def VfsError.newNamed (code : VfsErrorCode) (literal name : String) : VfsError :=
  ⟨code, [.text literal, .quoted name]⟩

def noMemory : VfsError :=
  VfsError.new .noMemory "unable to allocate memory for file data"

def offsetExceeds : VfsError := VfsError.new .full "file offset exceeds address space"

def sizeExceeds : VfsError := VfsError.new .full "file size exceeds address space"

inductive RegisterVfsError where
  | emptyName
  | toCStr
  | registerVfs (code : VfsErrorCode)
  | unregisterVfs (code : VfsErrorCode)
  | nameConflict (name : String)
  deriving DecidableEq, Repr

def RegisterVfsError.display : RegisterVfsError → Message
  | .emptyName => [.text "VFS name must not be empty"]
  | .toCStr => [.text "VFS name contains a NUL byte"]
  | .registerVfs code => [.text "failed to register VFS (SQLite error ", .code code, .text ")"]
  | .unregisterVfs code => [.text "failed to unregister VFS (SQLite error ", .code code, .text ")"]
  | .nameConflict name => [.text "VFS name is already registered: ", .quoted name]

def u64Size : Nat := 2 ^ 64

end SqliteVfs
