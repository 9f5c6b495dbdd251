import SqliteVfs.Base.LinkedList
import SqliteVfs.Core.MemVfs

/-!
# Installing the memory VFS

`memvfs::install`, `memvfs::uninstall` and `MemVfsUtil::get` over SQLite's list of VFSs,
with SQLite's automatic initialization, which itself installs the memory VFS.  Casting or
freeing a pointer that is not a living allocation of `install` is undefined behaviour, and
so is reading a list that holds one; both are panics here.

An allocation is its index in `allocations`, which holds the file namespaces.
-/

set_option autoImplicit false

namespace SqliteVfs

namespace MemVfsInstall

inductive Vfs where
  | own (allocation : Nat)
  | foreign (id : Nat) (name : String)
  deriving DecidableEq, Repr

def vfsName : String := "memvfs"

def Vfs.name : Vfs → String
  | .own _ => vfsName
  | .foreign _ name => name

/-- SQLite's own `memdb`, which it registers when it initializes. -/
def memdb : Vfs := .foreign 0 "memdb"

/-- How an initialization of SQLite goes: a code with which it fails before `sqlite3_os_init`
or after it, if it does. -/
structure InitReply where
  before : Option VfsErrorCode
  after : Option VfsErrorCode
  deriving DecidableEq, Repr

structure State where
  vfsList : List Vfs
  isInit : Bool
  inProgress : Bool
  /-- `MEM_VFS`. -/
  memVfs : Option Vfs
  allocations : List MemAppData
  freed : List Nat
  replies : List InitReply

abbrev M (ε α : Type) : Type := Prog State ε α

/-! ## Memory -/

def State.Dangling (s : State) : Vfs → Bool
  | .own allocation => s.allocations.length ≤ allocation ∨ allocation ∈ s.freed
  | .foreign _ _ => false

variable {ε : Type}

/-- `Box::into_raw` of a VFS with the data of `MemAppData::new`. -/
def allocate : M ε Vfs :=
  ⟨fun s => (.ok (.own s.allocations.length),
    { s with allocations := s.allocations ++ [⟨∅, [], 0⟩] })⟩

/-- `Box::from_raw` of a VFS and of its data. -/
def free (vfs : Vfs) : M ε Unit := do
  let s ← Prog.get
  match vfs with
  | .own allocation =>
    if s.Dangling vfs then Prog.halt .panic
    else Prog.modify fun s => { s with freed := s.freed ++ [allocation] }
  | .foreign _ _ => Prog.halt .panic

/-- `VfsAppData::<MemAppData>::get(vfs).data.clone()`. -/
def appData (vfs : Vfs) : M ε Nat := do
  let s ← Prog.get
  match vfs with
  | .own allocation => if s.Dangling vfs then Prog.halt .panic else pure allocation
  | .foreign _ _ => Prog.halt .panic

def storeMemVfs (vfs : Option Vfs) : M ε Unit := Prog.modify fun s => { s with memVfs := vfs }

/-! ## SQLite -/

def nextReply : M ε InitReply :=
  ⟨fun s => match s.replies with
    | [] => (.ok ⟨none, none⟩, s)
    | reply :: rest => (.ok reply, { s with replies := rest })⟩

/-- Every access to the list follows the links of what is in it. -/
def readList : M ε (List Vfs) := do
  let s ← Prog.get
  if s.vfsList.any s.Dangling then Prog.halt .panic
  else pure s.vfsList

def writeList (list : List Vfs) : M ε Unit := Prog.modify fun s => { s with vfsList := list }

/-- The parts of the library that call SQLite take `sqlite3_initialize` as a parameter,
because SQLite's own calls it recursively. -/
abbrev Initialize : Type := M Empty (Option VfsErrorCode)

def vfsFind (init : Initialize) (name : String) : M ε (Option Vfs) := do
  let code ← Prog.widen init
  match code with
  | some _ => pure none
  | none => do
    let list ← readList
    pure (LinkedList.find Vfs.name name list)

def vfsRegister (init : Initialize) (vfs : Vfs) (makeDflt : Bool) :
    M ε (Option VfsErrorCode) := do
  let code ← Prog.widen init
  match code with
  | some code => pure (some code)
  | none => do
    let list ← readList
    writeList (LinkedList.link id vfs makeDflt list)
    pure none

def vfsUnregister (init : Initialize) (vfs : Vfs) : M ε (Option VfsErrorCode) := do
  let code ← Prog.widen init
  match code with
  | some code => pure (some code)
  | none => do
    let list ← readList
    writeList (LinkedList.unlink id vfs list)
    pure none

/-- `sqlite3_initialize` with the `sqlite3_os_init` that it calls. -/
def initializeWith (osInit : M Empty (Option VfsErrorCode)) : M Empty (Option VfsErrorCode) := do
  let s ← Prog.get
  if s.isInit ∨ s.inProgress then pure none
  else do
    let reply ← nextReply
    match reply.before with
    | some code => pure (some code)
    | none => do
      Prog.modify fun s => { s with inProgress := true }
      let code ← osInit
      match code with
      | some code => do
        Prog.modify fun s => { s with inProgress := false }
        pure (some code)
      | none => do
        -- `sqlite3MemdbInit`
        let list ← readList
        writeList (LinkedList.link id memdb false list)
        Prog.modify fun s => { s with inProgress := false, isInit := reply.after.isNone }
        pure reply.after

/-! ## The library -/

def checkOwned (vfs : Vfs) : M RegisterVfsError Unit := do
  let s ← Prog.get
  if s.memVfs ≠ some vfs then Prog.fail (.nameConflict vfsName) else pure ()

def checkRegistered : Option Vfs → M RegisterVfsError Unit
  | none => pure ()
  | some vfs => checkOwned vfs

/-- The branch of `install` that finds `MEM_VFS` null. -/
def installNew (init : Initialize) (defaultVfs : Bool) : M RegisterVfsError Vfs := do
  let vfs ← allocate
  let code ← vfsRegister init vfs defaultVfs
  match code with
  | some code => do
    free vfs
    Prog.fail (.registerVfs code)
  | none => do
    storeMemVfs (some vfs)
    pure vfs

/-- The branch of `install` that finds an allocation of its own. -/
def installOwned (init : Initialize) (defaultVfs : Bool) (registered : Option Vfs)
    (owned : Vfs) : M RegisterVfsError Vfs :=
  if registered = none ∨ defaultVfs then do
    let code ← vfsRegister init owned defaultVfs
    match code with
    | some code => Prog.fail (.registerVfs code)
    | none => pure owned
  else pure owned

/-- Returns the handle as the index of the namespace it shares. -/
def install (init : Initialize) (defaultVfs : Bool) : M RegisterVfsError Nat := do
  let registered ← vfsFind init vfsName
  checkRegistered registered
  let s ← Prog.get
  let vfs ← match s.memVfs with
    | none => installNew init defaultVfs
    | some owned => installOwned init defaultVfs registered owned
  appData vfs

def uninstall (init : Initialize) : M RegisterVfsError Unit := do
  let registered ← vfsFind init vfsName
  let s ← Prog.get
  match s.memVfs with
  | none => checkRegistered registered
  | some vfs => do
    let code ← vfsUnregister init vfs
    match code with
    | some code => Prog.fail (.unregisterVfs code)
    | none => do
      storeMemVfs none
      free vfs

def get (init : Initialize) : M MemVfsError Nat := do
  let registered ← vfsFind init vfsName
  match registered with
  | none => Prog.fail .notInstalled
  | some vfs => do
    Prog.mapErr .registration (checkOwned vfs)
    appData vfs

/-! ## SQLite with the library -/

/-- A call of `sqlite3_initialize` that SQLite makes while it initializes; it never
reaches `sqlite3_os_init`. -/
def nestedInitialize : Initialize := initializeWith (Prog.halt .panic)

def osInit : M Empty (Option VfsErrorCode) := do
  let result ← Prog.attempt (install nestedInitialize true)
  match result with
  | .ok _ => pure none
  | .error _ => pure (some .error)

def sqlite3Initialize : Initialize := initializeWith osInit

/-- `sqlite3_shutdown`, whose `sqlite3_os_end` uninstalls the memory VFS. -/
def shutdown : M ε Unit := do
  let s ← Prog.get
  if s.isInit then do
    let _ ← Prog.attempt (uninstall sqlite3Initialize)
    Prog.modify fun s => { s with isInit := false }
  else pure ()

end MemVfsInstall

end SqliteVfs
