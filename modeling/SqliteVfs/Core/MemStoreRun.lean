import SqliteVfs.Base.Inodes
import SqliteVfs.Core.ChunksFileRun
import SqliteVfs.Core.MemStore

/-!
# Sessions of the memory VFS

A session drives the store with any requests: those of SQLite, those of management code
and those of imports.  It keeps its handles and import targets under tokens.
-/

set_option autoImplicit false

namespace SqliteVfs

inductive StoreRequest where
  | openFile (request : OpenRequest)
  | close (handle : Nat) (name : Option String) (options : OpenOptions)
  | io (handle : Nat) (request : FileRequest)
  | access (name : String)
  | fullPathname (name : String)
  | delete (name : String)
  | remove (name : String)
  | clear
  | contains (name : String)
  | names
  | len
  | createImport (name : String) (size : Nat)
  | importWrite (target : Nat) (offset : UInt64) (bytes : List UInt8)
  | commit (target : Nat)
  | abort (target : Nat)
  deriving DecidableEq, Repr

inductive StoreAnswer where
  | opened (handle : Nat) (access : OpenAccess)
  | file (result : FileResult)
  | done
  | flag (value : Bool)
  | path (name : String)
  | names (names : List String)
  | len (count : Nat)
  | target (token : Nat)
  | failed (error : VfsError)
  | refused (error : MemVfsError)
  /-- The token names nothing that lives, so there is no call to make. -/
  | absent
  deriving DecidableEq, Repr

structure Instance where
  name : Option String
  file : MemFileHandle
  deriving DecidableEq, Repr

structure StoreSession where
  data : MemAppData
  handles : Tokens Instance
  targets : Tokens (String × Nat)

namespace StoreSession

/-- `MemAppData::new`, with nothing open. -/
def start : StoreSession := ⟨⟨∅, [], 0⟩, [], []⟩

/-- Runs a call and goes on with its value; nothing if it panicked. -/
def observe {ε α : Type} (s : StoreSession) (x : MemM ε α) (failed : ε → StoreAnswer)
    (next : α → StoreSession → StoreAnswer × StoreSession) : Option (StoreAnswer × StoreSession) :=
  match x.run s.data with
  | (.ok value, data) => some (next value { s with data })
  | (.err error, data) => some (failed error, { s with data })
  | (.halt _, _) => none

variable (bits : Nat) (alloc : Nat → Nat → Bool)

def fileProgram (file : MemFileHandle) : FileRequest → MemM VfsError FileResult
  | .read buf offset => do
    let (count, buf) ← file.read bits buf offset
    pure (.read count buf)
  | .write buf offset => do
    file.write bits alloc buf offset
    pure .done
  | .truncate size => do
    file.truncate bits size
    pure .done
  | .size => do
    let bytes ← file.size
    pure (.size bytes)

def call (s : StoreSession) : StoreRequest → Option (StoreAnswer × StoreSession)
  | .openFile request =>
    s.observe (MemStore.openFile request) .failed fun opened s =>
      (.opened s.handles.length opened.access,
        { s with handles := s.handles.issue ⟨request.filename, opened.file⟩ })
  | .close handle name options =>
    match s.handles.find handle with
    | none => some (.absent, s)
    | some found =>
      s.observe (MemStore.closeFile name found.file options) .failed fun _ s =>
        (.done, { s with handles := s.handles.retire handle })
  | .io handle request =>
    match s.handles.find handle with
    | none => some (.absent, s)
    | some found =>
      s.observe (fileProgram bits alloc found.file request) (.file ∘ .failed) fun result s =>
        (.file result, s)
  | .access name => s.observe (MemStore.access name) .failed fun found s => (.flag found, s)
  | .fullPathname name =>
    s.observe (MemStore.fullPathname name) .failed fun name s => (.path name, s)
  | .delete name => s.observe (MemStore.deleteFile name) .failed fun _ s => (.done, s)
  | .remove name => s.observe (MemVfsUtil.remove name) Empty.elim fun found s => (.flag found, s)
  | .clear => s.observe MemVfsUtil.clear Empty.elim fun _ s => (.done, s)
  | .contains name =>
    s.observe (MemVfsUtil.contains name) Empty.elim fun found s => (.flag found, s)
  | .names => s.observe MemVfsUtil.names Empty.elim fun names s => (.names names, s)
  | .len => s.observe MemVfsUtil.len Empty.elim fun count s => (.len count, s)
  | .createImport name size =>
    -- the file that the target writes to is the one the call allocated
    s.observe (MemVfs.createImport bits alloc name size) .refused fun _ next =>
      (.target s.targets.length,
      { next with targets := s.targets.issue (name, s.data.cells.length) })
  | .importWrite target offset bytes =>
    match s.targets.find target with
    | none => some (.absent, s)
    | some (name, file) =>
      s.observe ((MemVfs.importTarget bits alloc name file).writeAt offset.toNat bytes) .refused
        fun _ s => (.done, s)
  | .commit target =>
    match s.targets.find target with
    | none => some (.absent, s)
    | some (name, file) =>
      { s with targets := s.targets.retire target }.observe
        (MemVfs.importTarget bits alloc name file).commit .refused fun _ s => (.done, s)
  | .abort target =>
    match s.targets.find target with
    | none => some (.absent, s)
    | some (name, file) =>
      { s with targets := s.targets.retire target }.observe
        (MemVfs.importTarget bits alloc name file).abort .refused fun _ s => (.done, s)

def run : StoreSession → List StoreRequest → Option (List StoreAnswer × StoreSession)
  | s, [] => some ([], s)
  | s, request :: rest => do
    let (answer, next) ← call bits alloc s request
    let (answers, last) ← run next rest
    some (answer :: answers, last)

end StoreSession

end SqliteVfs
