import SqliteVfs.Sahpool.Pool

/-!
# The store of the access handle pool

`SyncAccessFileHandle`, through which SQLite reads and writes one file, the `VfsStore`
that opens and closes these handles, and the queries of `OpfsSAHPoolUtil`.  Lock levels
are left out: they are private to one handle and decide nothing here.
-/

set_option autoImplicit false

namespace SqliteVfs

namespace Sahpool

abbrev StoreM (α : Type) : Type := Prog World VfsError α

structure SyncAccessFileHandle where
  temporaryName : Option String
  file : String
  readOnly : Bool
  deriving DecidableEq, Repr

namespace SyncAccessFileHandle

def checkWritable (self : SyncAccessFileHandle) : StoreM Unit :=
  if self.readOnly then Prog.fail (VfsError.new .readOnly "file is read-only") else pure ()

/-- Returns the count and the buffer after the call. -/
def read (self : SyncAccessFileHandle) (buf : List UInt8) (offset : Nat) :
    StoreM (Nat × List UInt8) :=
  if buf = [] then pure (0, buf)
  else do
    let start ← physicalOffset offset buf.length .ioRead
    Prog.mapErr (OpfsSAHError.vfsErr .ioRead) (onSlot self.file (SyncAccessFile.readAt buf start))

def write (self : SyncAccessFileHandle) (buf : List UInt8) (offset : Nat) : StoreM Unit := do
  self.checkWritable
  if buf = [] then pure ()
  else do
    let start ← physicalOffset offset buf.length .ioWrite
    Prog.mapErr (OpfsSAHError.vfsErr .ioWrite)
      (onSlot self.file (SyncAccessFile.writeAt buf start))

def truncate (self : SyncAccessFileHandle) (size : Nat) : StoreM Unit := do
  self.checkWritable
  let size ← physicalOffset size 0 .ioTruncate
  onSlot self.file (Prog.mapErr
    (fun error => (OpfsSAHError.js "truncate file" error).vfsErr .ioTruncate)
    (AccessHandle.truncate size))

def sync (self : SyncAccessFileHandle) : StoreM Unit :=
  Prog.mapErr (OpfsSAHError.vfsErr .ioSync) (onSlot self.file SyncAccessFile.flush)

def size (self : SyncAccessFileHandle) : StoreM Nat :=
  onSlot self.file (SyncAccessFile.size self.file)

def sizeHint (self : SyncAccessFileHandle) (size : Nat) : StoreM Bool := do
  let current ← self.size
  if current < size then self.truncate size else pure ()
  pure true

end SyncAccessFileHandle

structure OpenedFile where
  file : SyncAccessFileHandle
  access : OpenAccess
  deriving DecidableEq, Repr

def temporaryName : Nat → PoolM String
  | 0 => Prog.fail .nameCollision
  | attempts + 1 => do
    let candidate ← Prog.mapErr .backend randomName
    let w ← Prog.get
    if w.hasFilename candidate then temporaryName attempts else pure candidate

def requestedName (request : OpenRequest) : PoolM (Option String) :=
  match request.filename with
  | some _ => pure none
  | none => do
    let name ← temporaryName maxFilenameAttempts
    pure (some name)

def openOrCreate (filename : String) (options : OpenOptions) : PoolM Unit := do
  let w ← Prog.get
  if w.hasFilename filename then
    if options.exclusive then Prog.fail (.fileExists filename) else pure ()
  else if ¬ options.create then Prog.fail (.fileNotFound filename)
  else withNewFile filename options.rawFlags (pure ())

def openHandle (filename : String) : PoolM String := do
  let w ← Prog.get
  let file ← Prog.unwrap (w.mapFilenameToFile.lookup filename)
  Prog.modify fun w =>
    { w with openCount := Function.update w.openCount file (w.openCount file + 1) }
  pure file

def openFile (request : OpenRequest) : StoreM OpenedFile :=
  Prog.mapErr (OpfsSAHError.vfsErr .cantOpen) do
    checkActive
    let options := request.options
    let temporaryName ← requestedName request
    let filename ← Prog.unwrap (request.filename.or temporaryName)
    if options.kind = some .mainDb then Prog.ofExcept (validateFilename filename) else pure ()
    openOrCreate filename options
    let file ← openHandle filename
    pure ⟨⟨temporaryName, file, options.access = .readOnly⟩, options.access⟩

namespace VfsStore

def deleteFile (name : String) : StoreM Unit := do
  let _ ← Prog.mapErr (OpfsSAHError.vfsErr .ioDelete) (Sahpool.deleteFile name)
  pure ()

/-- The destructor of a handle. -/
def dropHandle (file : SyncAccessFileHandle) : StoreM Unit := do
  let w ← Prog.get
  let count ← Prog.checkedSub (w.openCount file.file) 1
  Prog.modify fun w => { w with openCount := Function.update w.openCount file.file count }

def closeFile (name : Option String) (file : SyncAccessFileHandle) (options : OpenOptions) :
    StoreM Unit := do
  let name ← Prog.unwrap (name.or file.temporaryName)
  let flushed ← Prog.attempt file.sync
  dropHandle file
  let deleted ← Prog.attempt (if options.deleteOnClose then deleteFile name else pure ())
  match flushed with
  | .error error => Prog.fail error
  | .ok () => Prog.ofExcept deleted

def access (name : String) : StoreM Bool := do
  Prog.mapErr (OpfsSAHError.vfsErr .ioAccess) checkActive
  let w ← Prog.get
  pure (w.hasFilename name)

def fullPathname (name : String) : StoreM String := do
  Prog.mapErr (OpfsSAHError.vfsErr .cantOpen) (Prog.ofExcept (validateFilename name))
  pure name

end VfsStore

/-! ## Queries of the management handle -/

namespace PoolUtil

def contains (filename : String) : PoolM Bool := do
  checkActive
  let w ← Prog.get
  pure (w.hasFilename filename)

def names : PoolM (List String) := do
  checkActive
  let w ← Prog.get
  pure w.getFilenames

def len : PoolM Nat := do
  checkActive
  let w ← Prog.get
  pure w.getFileCount

end PoolUtil

end Sahpool

end SqliteVfs
