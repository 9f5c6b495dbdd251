import Mathlib.Data.String.Basic
import SqliteVfs.Core.MemVfs

/-!
# The store of the memory VFS

What SQLite calls of `MemStore` and `MemFileHandle`, and what management code calls of
`MemVfsUtil`.  Neither an `Rc` nor a `RefCell` can fail here: one call runs at a time and
none of them holds a borrow when it returns.
-/

set_option autoImplicit false

namespace SqliteVfs

structure MemFileHandle where
  file : Nat
  readOnly : Bool
  deriving DecidableEq, Repr

structure OpenedFile where
  file : MemFileHandle
  access : OpenAccess
  deriving DecidableEq, Repr

namespace MemFileHandle

variable (bits : Nat) (alloc : Nat → Nat → Bool)

def readOnlyError : VfsError := VfsError.new .readOnly "file is read-only"

def checkWritable (self : MemFileHandle) : MemM VfsError Unit :=
  if self.readOnly then Prog.fail readOnlyError else pure ()

def read (self : MemFileHandle) (buf : List UInt8) (offset : UInt64) :
    MemM VfsError (Nat × List UInt8) :=
  MemVfs.onFile self.file (MemChunksFile.read bits buf offset)

def write (self : MemFileHandle) (buf : List UInt8) (offset : UInt64) : MemM VfsError Unit := do
  self.checkWritable
  MemVfs.writeFile bits alloc self.file buf offset.toNat

def truncate (self : MemFileHandle) (size : UInt64) : MemM VfsError Unit := do
  self.checkWritable
  MemVfs.onFile self.file (MemChunksFile.truncate bits size)

def size (self : MemFileHandle) : MemM VfsError Nat :=
  MemVfs.onFile self.file MemChunksFile.size

end MemFileHandle

namespace MemStore

def newFile (content : MemChunksFile) : MemM VfsError Nat :=
  ⟨fun s => (.ok s.cells.length, { s with cells := s.cells ++ [content] })⟩

/-- `validate_db_filename` with its error rendered, in the one way that it fails. -/
def checkFilename (name : String) : MemM VfsError Unit :=
  match MemVfs.validateDbFilename name with
  | .ok () => pure ()
  | .error _ => Prog.fail (VfsError.new .cantOpen
      "filename must be nonempty, NUL-free and at most 1012 UTF-8 bytes")

def alreadyExists (name : String) : VfsError :=
  VfsError.newNamed .cantOpen "file already exists: " name

def notFound (code : VfsErrorCode) (name : String) : VfsError :=
  VfsError.newNamed code "file not found: " name

def openedFile (file : Nat) (options : OpenOptions) : OpenedFile :=
  ⟨⟨file, decide (options.access = .readOnly)⟩, options.access⟩

/-- The part of `open_file` after the name is validated. -/
def openNamed (name : String) (options : OpenOptions) : MemM VfsError OpenedFile := do
  let s ← Prog.get
  match s.files.lookup name with
  | some file =>
    if options.exclusive then Prog.fail (alreadyExists name)
    else pure (openedFile file options)
  | none =>
    if options.create then do
      let file ← newFile (if options.kind = some .mainDb then .waitingForWrite else .default)
      Prog.modify fun s => { s with files := s.files.insert name file }
      pure (openedFile file options)
    else Prog.fail (notFound .cantOpen name)

def openFile (request : OpenRequest) : MemM VfsError OpenedFile :=
  let options := request.options
  match request.filename with
  | none => do
    let file ← newFile MemChunksFile.default
    pure (openedFile file options)
  | some name =>
    if options.kind = some .mainDb then do
      checkFilename name
      openNamed name options
    else openNamed name options

def closeFile (name : Option String) (file : MemFileHandle) (options : OpenOptions) :
    MemM VfsError Unit :=
  match name with
  | none => pure ()
  | some name =>
    if options.deleteOnClose then
      -- a replacement created under the same name is left alone
      Prog.modify fun s =>
        if s.files.lookup name = some file.file then { s with files := s.files.erase name } else s
    else pure ()

def access (file : String) : MemM VfsError Bool := do
  let s ← Prog.get
  pure (s.files.lookup file).isSome

def fullPathname (name : String) : MemM VfsError String := do
  checkFilename name
  pure name

def deleteFile (file : String) : MemM VfsError Unit := do
  let s ← Prog.get
  if (s.files.lookup file).isNone then Prog.fail (notFound .ioDelete file)
  else Prog.modify fun s => { s with files := s.files.erase file }

end MemStore

/-! ## `VfsFilesManager for MemVfsUtil` -/

namespace MemVfsUtil

def remove (filename : String) : MemM Empty Bool := do
  let s ← Prog.get
  Prog.modify fun s => { s with files := s.files.erase filename }
  pure (s.files.lookup filename).isSome

def clear : MemM Empty Unit := Prog.modify fun s => { s with files := ∅ }

def contains (filename : String) : MemM Empty Bool := do
  let s ← Prog.get
  pure (s.files.lookup filename).isSome

/-- The keys of the `BTreeMap`, in order. -/
def names : MemM Empty (List String) := do
  let s ← Prog.get
  pure (s.files.keys.mergeSort fun a b => decide (a ≤ b))

def len : MemM Empty Nat := do
  let s ← Prog.get
  pure s.files.keys.length

end MemVfsUtil

end SqliteVfs
