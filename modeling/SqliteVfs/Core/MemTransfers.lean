import SqliteVfs.Core.MemStoreRun

/-!
# Transfers in flight on the memory VFS

The memory VFS with all that its users hold: handles, imports and exports.  An event is one
call, which nothing interrupts; the events of several transfers and of SQLite may come in
any order.
-/

set_option autoImplicit false

namespace SqliteVfs

/-- An import that is not finished.  `sent` is what its caller knows to be written. -/
structure OpenImport where
  name : String
  file : Nat
  dbImport : DbImport MemAppData MemVfsError
  sent : List UInt8

structure OpenExport where
  file : Nat
  dbExport : DbExport MemAppData MemVfsError

structure MemTransfers where
  data : MemAppData
  handles : Tokens Instance
  imports : Tokens OpenImport
  exports : Tokens OpenExport

def StoreRequest.Direct : StoreRequest → Prop
  | .createImport _ _ | .importWrite _ _ _ | .commit _ | .abort _ => False
  | _ => True

inductive TransferEvent where
  | store (request : StoreRequest) (direct : request.Direct)
  | beginImport (name : String) (size : Nat) (mode : ImportMode)
  | write (i : Nat) (bytes : List UInt8)
  | finish (i : Nat)
  | abort (i : Nat)
  | dropImport (i : Nat)
  | beginExport (name : String)
  | read (i : Nat) (buf : List UInt8)
  | dropExport (i : Nat)

inductive TransferAnswer where
  | store (answer : StoreAnswer)
  | importing (i : Nat)
  | exporting (i : Nat)
  | done
  | bytes (count : Nat) (buf : List UInt8)
  | failed (error : MemVfsError)
  /-- The token names nothing that lives, so there is no call to make. -/
  | absent

namespace MemTransfers

def start : MemTransfers := ⟨⟨∅, [], 0⟩, [], [], []⟩

/-- The same state for those who only see names and handles. -/
def session (s : MemTransfers) : StoreSession :=
  ⟨s.data, s.handles, s.imports.view fun found => (found.name, found.file)⟩

def observe {ε α : Type} (s : MemTransfers) (x : MemM ε α) (failed : ε → TransferAnswer)
    (next : α → MemTransfers → TransferAnswer × MemTransfers) :
    Option (TransferAnswer × MemTransfers) :=
  match x.run s.data with
  | (.ok value, data) => some (next value { s with data })
  | (.err error, data) => some (failed error, { s with data })
  | (.halt _, _) => none

variable (bits : Nat) (alloc : Nat → Nat → Bool)

def begins (name : String) (size : Nat) :
    ImportMode → MemM MemVfsError (DbImport MemAppData MemVfsError)
  | .checked => (MemVfs.transfers bits alloc).beginImport name size
  | .unchecked => (MemVfs.transfers bits alloc).beginImportUnchecked name size

def call (s : MemTransfers) : TransferEvent → Option (TransferAnswer × MemTransfers)
  | .store request _ => do
    let (answer, next) ← s.session.call bits alloc request
    some (.store answer, { s with data := next.data, handles := next.handles })
  | .beginImport name size mode =>
    -- the file that the import writes to is the one the call allocated
    s.observe (begins bits alloc name size mode) .failed fun dbImport next =>
      (.importing s.imports.length,
        { next with imports := s.imports.issue ⟨name, s.data.cells.length, dbImport, []⟩ })
  | .write i bytes =>
    match s.imports.find i with
    | none => some (.absent, s)
    | some found =>
      match (DbImport.write bytes).run (found.dbImport, s.data) with
      | (.ok (), dbImport, data) => some (.done, { s with
          data
          imports := s.imports.replace i { found with dbImport, sent := found.sent ++ bytes } })
      | (.err error, dbImport, data) => some (.failed error, { s with
          data
          imports := s.imports.replace i { found with dbImport } })
      | (.halt _, _) => none
  | .finish i =>
    match s.imports.find i with
    | none => some (.absent, s)
    | some found =>
      { s with imports := s.imports.retire i }.observe found.dbImport.finish .failed
        fun _ s => (.done, s)
  | .abort i =>
    match s.imports.find i with
    | none => some (.absent, s)
    | some found =>
      { s with imports := s.imports.retire i }.observe found.dbImport.abort .failed
        fun _ s => (.done, s)
  | .dropImport i =>
    match s.imports.find i with
    | none => some (.absent, s)
    | some found =>
      { s with imports := s.imports.retire i }.observe found.dbImport.drop Empty.elim
        fun _ s => (.done, s)
  | .beginExport name =>
    s.observe ((MemVfs.transfers bits alloc).beginExport name) .failed fun dbExport next =>
      -- the file that the export holds on to is the one that the name leads to
      match s.data.files.lookup name with
      | none => (.absent, next)
      | some file => (.exporting s.exports.length,
          { next with exports := s.exports.issue ⟨file, dbExport⟩ })
  | .read i buf =>
    match s.exports.find i with
    | none => some (.absent, s)
    | some found =>
      match (DbExport.read buf).run (found.dbExport, s.data) with
      | (.ok (count, filled), dbExport, data) => some (.bytes count filled, { s with
          data
          exports := s.exports.replace i { found with dbExport } })
      | (.err error, dbExport, data) => some (.failed error, { s with
          data
          exports := s.exports.replace i { found with dbExport } })
      | (.halt _, _) => none
  | .dropExport i =>
    match s.exports.find i with
    | none => some (.absent, s)
    | some found =>
      { s with exports := s.exports.retire i }.observe found.dbExport.drop Empty.elim
        fun _ s => (.done, s)

def Step (s : MemTransfers) (event : TransferEvent) (s' : MemTransfers) : Prop :=
  ∃ answer, s.call bits alloc event = some (answer, s')

end MemTransfers

end SqliteVfs
