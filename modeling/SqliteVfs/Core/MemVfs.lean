import Mathlib.Data.List.AList
import SqliteVfs.Core.ChunksFileSpec
import SqliteVfs.Core.Options
import SqliteVfs.Core.Transfer

/-!
# The memory VFS

The namespace of the memory VFS and its transfers.  An `Rc<RefCell<MemChunksFile>>` is
the index of its file in `cells`, which only grows: a file that nothing refers to any
more is never looked at again.  The private file of an import target lives there too,
under an index that no name maps to before the commit.

`bits` is the width of `usize`, and `alloc call request` is the allocator's answer to a
request of the given call of `write`.
-/

set_option autoImplicit false

namespace SqliteVfs

inductive MemVfsError where
  | notInstalled
  | registration (error : RegisterVfsError)
  | invalidFilename
  | alreadyExists (name : String)
  | notFound (name : String)
  | io (error : VfsError)
  | transfer (error : TransferError)
  deriving DecidableEq, Repr

instance : FromTransferError MemVfsError := ⟨.transfer⟩

structure MemAppData where
  files : AList fun _ : String => Nat
  cells : List MemChunksFile
  writes : Nat

abbrev MemM (ε α : Type) : Type := Prog MemAppData ε α

namespace MemVfs

def maxPathSize : Nat := 1024

def maxDbFilenameSize : Nat := maxPathSize - 12

def validateDbFilename (name : String) : Except MemVfsError Unit :=
  if nameBytes name = [] ∨ 0 ∈ nameBytes name ∨ maxDbFilenameSize < (nameBytes name).length then
    .error .invalidFilename
  else .ok ()

/-- Runs an operation of a file through a reference to it. -/
def onFile {α : Type} (file : Nat) (x : FileM α) : MemM VfsError α :=
  ⟨fun s => match s.cells[file]? with
    | none => (.halt .panic, s)
    | some content =>
      ((x.run content).1, { s with cells := s.cells.set file (x.run content).2 })⟩

variable (bits : Nat) (alloc : Nat → Nat → Bool)

def writeFile (file : Nat) (buf : List UInt8) (offset : Nat) : MemM VfsError Unit := do
  let s ← Prog.get
  Prog.modify fun s => { s with writes := s.writes + 1 }
  onFile file (MemChunksFile.write bits (alloc s.writes) buf (UInt64.ofNat offset))

def insert (name : String) (file : Nat) : MemM MemVfsError Unit :=
  Prog.modify fun s => { s with files := s.files.insert name file }

/-- `Rc::new` of a file. -/
def allocate (content : MemChunksFile) : MemM MemVfsError Nat :=
  ⟨fun s => (.ok s.cells.length, { s with cells := s.cells ++ [content] })⟩

def importTarget (name : String) (file : Nat) : ImportTarget MemAppData MemVfsError where
  writeAt offset bytes := Prog.mapErr .io (writeFile bits alloc file bytes offset)
  commit := do
    let s ← Prog.get
    if name ∈ s.files then Prog.fail (.alreadyExists name)
    else insert name file
  abort := pure ()
  abortWithError error := pure error
  drop := pure ()

def createImport (name : String) (size : Nat) :
    MemM MemVfsError (ImportTarget MemAppData MemVfsError) := do
  Prog.ofExcept (validateDbFilename name)
  let s ← Prog.get
  if name ∈ s.files then Prog.fail (.alreadyExists name)
  else if 2 ^ bits ≤ size then Prog.fail (.io sizeExceeds)
  else do
    let content ← Prog.unwrap (MemChunksFile.new 4096)
    let file ← allocate content
    pure (importTarget bits alloc name file)

theorem length_of_onFile_read {file : Nat} {buf : List UInt8} {offset : UInt64} {count : Nat}
    {filled : List UInt8} {s next : MemAppData}
    (run : (onFile file (MemChunksFile.read bits buf offset)).run s = (.ok (count, filled), next)) :
    filled.length = buf.length := by
  unfold onFile at run
  simp only at run
  split at run
  · exact nomatch congrArg Prod.fst run
  · rename_i content _
    have read : (MemChunksFile.read bits buf offset).run content =
        (.ok (count, filled), ((MemChunksFile.read bits buf offset).run content).2) :=
      Prod.ext (Prod.mk.inj run).1 rfl
    exact MemChunksFile.length_of_read read

def exportSource (file size : Nat) : ExportSource MemAppData MemVfsError where
  size := size
  readAt offset buf :=
    Prog.mapErr .io (onFile file (MemChunksFile.read bits buf (UInt64.ofNat offset)))
  drop := pure ()
  keepsLength _ _ _ _ _ _ run := length_of_onFile_read bits (Prog.mapErr_ok_iff.mp run)

def openExport (name : String) : MemM MemVfsError (ExportSource MemAppData MemVfsError) := do
  let s ← Prog.get
  match s.files.lookup name with
  | none => Prog.fail (.notFound name)
  | some file => do
    let size ← Prog.mapErr .io (onFile file MemChunksFile.size)
    pure (exportSource bits file size)

/-- `DbTransfer for MemVfsUtil`. -/
def transfers : DbTransfer MemAppData MemVfsError where
  createImport := createImport bits alloc
  openExport := openExport bits

end MemVfs

end SqliteVfs
