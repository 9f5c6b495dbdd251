import SqliteVfs.Core.Transfer

/-!
# Errors of the access handle pool

`OpfsSAHError` with its messages, and the SQLite code that a store reports for it.  A
JavaScript exception is kept as the three texts the source looks at.
-/

set_option autoImplicit false

namespace SqliteVfs

def VfsError.display (error : VfsError) : Message :=
  error.message ++ [.text " (SQLite error ", .code error.code, .text ")"]

def ImportDbError.display : ImportDbError → Message
  | .invalidDbSize => [.text "invalid database size or page alignment"]
  | .invalidHeader => [.text "invalid SQLite database signature"]
  | .invalidPageSize => [.text
    "page size must be a power of two between 512 and 65536 bytes"]

def TransferError.display : TransferError → Message
  | .importDb error => error.display
  | .sizeMismatch expected actual =>
    [.text "database import expected ", .number expected, .text " bytes, got ", .number actual]
  | .offsetOverflow => [.text "database transfer offset exceeds u64"]
  | .importFailed => [.text "database import cannot finish after a failed write"]
  | .fileTooLarge => [.text "file is too large to export into a contiguous memory buffer"]
  | .outOfMemory => [.text "unable to allocate memory for database export"]
  | .shortRead expected actual =>
    [.text "database export expected ", .number expected, .text " bytes, got ", .number actual]

namespace Sahpool

/-- A thrown value: its `name` and `message` properties, if they are strings, and its own
text. -/
structure JsValue where
  name : Option String
  message : Option String
  text : String
  deriving DecidableEq, Repr

inductive OpfsSAHError where
  | backend (error : VfsError)
  | vfs (error : RegisterVfsError)
  | notSupported
  | opfs (operation message : String) (value : JsValue)
  | invalidFilename (reason : String)
  | invalidDirectory
  | fileExists (name : String)
  | fileNotFound (name : String)
  | fileInUse (name : String)
  | filesInUse
  | busy
  | paused
  | uninstalled
  | needsRecovery
  | configurationMismatch
  | directoryInUse (directory : String)
  | noCapacity
  | nameCollision
  | invalidHeader (opaqueName reason : String)
  | duplicateFilename (name : String)
  | shortIo (operation : String) (expected actual : Nat)
  | recoveryRequired (name : String)
  | transfer (error : TransferError)
  | outOfMemory
  | cleanup (error cleanup : OpfsSAHError)
  deriving DecidableEq, Repr

instance : FromTransferError OpfsSAHError := ⟨.transfer⟩

namespace OpfsSAHError

def js (operation : String) (value : JsValue) : OpfsSAHError :=
  let message := match value.name, value.message with
    | some name, some message => name ++ ": " ++ message
    | none, some message => message
    | _, none => value.text
  .opfs operation message value

/-- `failed to {operation}`, for the code SQLite returned. -/
def sqlite (operation : String) (code : VfsErrorCode) : OpfsSAHError :=
  .backend (VfsError.new code ("failed to " ++ operation))

def display : OpfsSAHError → Message
  | .backend error => error.display
  | .vfs error => error.display
  | .notSupported => [.text
    "OPFS sync access handles require a supported dedicated worker in a secure context"]
  | .opfs operation message _ => [.text operation, .text ": ", .text message]
  | .invalidFilename reason => [.text reason]
  | .invalidDirectory => [.text
    "pool directory must contain normal path components, without NUL, '.' or '..'"]
  | .fileExists name => [.text "file already exists: ", .quoted name]
  | .fileNotFound name => [.text "file not found: ", .quoted name]
  | .fileInUse name => [.text "file is in use: ", .quoted name]
  | .filesInUse => [.text
    "pool has open files; close all files before changing its lifecycle"]
  | .busy => [.text "another pool management operation is in progress"]
  | .paused => [.text "pool is paused"]
  | .uninstalled => [.text "pool has been uninstalled"]
  | .needsRecovery => [.text ("pool namespace needs recovery; close databases, then " ++
    "pause/resume or call clear to discard all data")]
  | .configurationMismatch => [.text
    "existing pool uses a different directory or OS callback type"]
  | .directoryInUse directory => [.text "directory is already owned by another pool: ",
    .quoted directory]
  | .noCapacity => [.text "no unused file slots; increase the pool capacity"]
  | .nameCollision => [.text "could not generate a unique filename"]
  | .invalidHeader opaqueName reason => [.text "invalid header in OPFS file ",
    .quoted opaqueName, .text ": ", .text reason]
  | .duplicateFilename name => [.text "duplicate filename in pool headers: ", .quoted name]
  | .shortIo operation expected actual => [.text operation, .text ": expected ",
    .number expected, .text " bytes, got ", .number actual]
  | .recoveryRequired name => [.text "database has journal or WAL sidecars: ", .quoted name]
  | .transfer error => error.display
  | .outOfMemory => [.text "unable to allocate memory for file data or pool capacity"]
  | .cleanup error failure =>
    error.display ++ [.text "; slot cleanup also failed: "] ++ failure.display

def vfsErr (fallback : VfsErrorCode) (error : OpfsSAHError) : VfsError :=
  match error with
  | .backend error => error
  | error =>
    let code := match error with
      | .outOfMemory => .noMemory
      | .opfs _ _ value => if value.name = some "QuotaExceededError" then .full else fallback
      | _ => fallback
    ⟨code, error.display⟩

end OpfsSAHError

end Sahpool

end SqliteVfs
