import SqliteVfs.Base.LinkedList
import SqliteVfs.Sahpool.System

/-!
# The pools of a worker

`sahpool::install` with `REGISTERED_POOLS` and the installation guard, over all pools of a
worker and the registry of SQLite that they share.  Pools stay in the list after they are
uninstalled, because their handles do.  Each pool has the slots of its directory to itself,
except that other code may put empty files among them, as the installation of a pool in
that directory does with its `.lock`.

A request is one call or one poll.  The `sqlite3_vfs` of a pool is an allocation that
`allocated` lists, and `freed` lists the ones that were given back.
-/

set_option autoImplicit false

namespace SqliteVfs

namespace Sahpool

/-! ## Directories -/

def normalizeDirectory (directory : String) : Except OpfsSAHError String :=
  let parts := (directory.toList.splitOn '/').filter (· ≠ [])
  if parts = [] ∨ ∃ part ∈ parts, part = ['.'] ∨ part = ['.', '.'] ∨ Char.ofNat 0 ∈ part then
    .error .invalidDirectory
  else .ok (String.ofList (['/'].intercalate parts))

/-! ## Workers -/

/-- `OpfsSAHPool` as its handles share it. -/
structure Pool where
  system : System
  directory : String
  callbackType : Nat

/-- An installation that holds the guard. -/
structure PendingInstall where
  world : World
  installing : Installing
  directory : String
  callbackType : Nat

structure Worker where
  registry : List Vfs
  pools : List Pool
  registeredPools : AList fun _ : String => Nat
  installing : Option PendingInstall
  allocated : List Nat
  freed : List Nat

def Worker.start : Worker := ⟨[], [], ∅, none, [], []⟩

structure OpfsSAHPoolCfg where
  vfsName : String
  directory : String
  clearOnInit : Bool
  initialCapacity : Nat

/-- A call of `install`, with where the new `sqlite3_vfs` will be allocated and what the
directory holds. -/
structure InstallRequest where
  options : OpfsSAHPoolCfg
  callbackType : Nat
  defaultVfs : Bool
  vfs : Nat
  slots : AList fun _ : String => SlotFile

def InstallRequest.config (request : InstallRequest) : PoolConfig where
  clearOnInit := request.options.clearOnInit
  initialCapacity := request.options.initialCapacity
  defaultVfs := request.defaultVfs
  vfs := request.vfs

inductive Request where
  | pool (i : Nat) (event : Event)
  | install (request : InstallRequest)
  | pollInstall
  | cancelInstall
  | register (vfs : Vfs) (makeDflt : Bool)
  | unregister (pointer : Nat)
  | appear (i : Nat) (file : String)

inductive WorkerAnswer where
  | answer (answer : Answer)
  | handle (i : Nat)
  | pending
  | done

abbrev WorkerOutcome : Type := Outcome Failure WorkerAnswer

/-- What is left of a call on a pool, for the worker.  A registration that is gone was
freed by `uninstall`, which then removes the pool from `REGISTERED_POOLS`. -/
def Worker.record (worker : Worker) (i : Nat) (pool : Pool) (system : System) : Worker :=
  let after := { worker with
    registry := system.world.registry
    pools := worker.pools.set i { pool with system } }
  match pool.system.world.registration, system.world.registration with
  | some vfs, none => { after with
      registeredPools := worker.registeredPools.erase pool.system.world.name
      freed := worker.freed ++ [vfs] }
  | _, _ => after

/-- A call on a pool that is not there does nothing. -/
def Worker.callPool (worker : Worker) (env : Env) (i : Nat) (event : Event) :
    WorkerOutcome × Worker :=
  match worker.pools[i]? with
  | none => (.ok .done, worker)
  | some pool =>
    match pool.system.run ⟨⟨env, worker.registry⟩, event⟩ with
    | (.ok answer, system) => (.ok (.answer answer), worker.record i pool system)
    | (.err error, system) => (.err error, worker.record i pool system)
    | (.halt why, system) => (.halt why, worker.record i pool system)

/-! ## Installing -/

/-- `sqlite3_vfs_register` for a pool that becomes the default now. -/
def promote (vfs : Nat) : PoolM Unit := do
  let w ← Prog.get
  if w.state = .active then do
    let code ← vfsRegister vfs true
    match code with
    | none => pure ()
    | some code => Prog.fail (.sqlite "set default VFS" code)
  else pure ()

/-- The branch of `install` for a name that `REGISTERED_POOLS` has. -/
def reuse (mismatch defaultVfs : Bool) : PoolM Unit := do
  let w ← Prog.get
  let registered ← registeredVfs w.name
  if mismatch then Prog.fail .configurationMismatch
  else withOperation do
    let w ← Prog.get
    let vfs ← ofOption .uninstalled w.registration
    if registered.any (· ≠ vfs) then Prog.fail (.vfs (.nameConflict w.name))
    else if defaultVfs then do
      promote vfs
      Prog.modify fun w => { w with makeDefault := true }
    else pure ()

def Worker.reusePool (worker : Worker) (env : Env) (i : Nat) (pool : Pool)
    (mismatch defaultVfs : Bool) : WorkerOutcome × Worker :=
  let kept (w : World) := worker.record i pool { pool.system with world := w.silenced }
  match (reuse mismatch defaultVfs).run (pool.system.world.facing ⟨env, worker.registry⟩) with
  | (.ok (), w) => (.ok (.handle i), kept w)
  | (.err error, w) => (.err (.pool error), kept w)
  | (.halt why, w) => (.halt why, kept w)

def Worker.reuse (worker : Worker) (env : Env) (i : Nat) (directory : String)
    (callbackType : Nat) (defaultVfs : Bool) : WorkerOutcome × Worker :=
  match worker.pools[i]? with
  | none => (.halt .panic, worker)
  | some pool => worker.reusePool env i pool
    (decide (pool.directory ≠ directory ∨ pool.callbackType ≠ callbackType)) defaultVfs

/-- Whether a pool of `REGISTERED_POOLS` has the directory. -/
def Worker.owns (worker : Worker) (directory : String) : Bool :=
  worker.registeredPools.entries.any fun entry =>
    (worker.pools[entry.2]?).any fun pool => pool.directory = directory

/-- The branch of `install` for a new name, up to the first call of the browser. -/
def Worker.begin (worker : Worker) (env : Env) (request : InstallRequest) (directory : String) :
    WorkerOutcome × Worker :=
  let start := World.start request.slots request.options.vfsName
  match (Sahpool.install request.config).run (start.facing ⟨env, worker.registry⟩) with
  | (.err error, _) => (.err (.pool error), worker)
  | (.halt why, _) => (.halt why, worker)
  | (.ok (.ready ()), _) => (.ok .done, worker)
  | (.ok (.pending installing), w) =>
    if worker.owns directory then (.err (.pool (.directoryInUse directory)), worker)
    else (.ok .pending,
      { worker with
        installing := some ⟨w.silenced, installing, directory, request.callbackType⟩ })

/-- A call while another installation holds the guard waits, and is made again. -/
def Worker.install (worker : Worker) (env : Env) (request : InstallRequest) :
    WorkerOutcome × Worker :=
  if request.options.vfsName = "" then (.err (.pool (.vfs .emptyName)), worker)
  else if 0 ∈ nameBytes request.options.vfsName then (.err (.pool (.vfs .toCStr)), worker)
  else match normalizeDirectory request.options.directory with
    | .error error => (.err (.pool error), worker)
    | .ok directory =>
      if worker.installing.isSome then (.ok .pending, worker)
      else match worker.registeredPools.lookup request.options.vfsName with
        | some i => worker.reuse env i directory request.callbackType request.defaultVfs
        | none => worker.begin env request directory

/-- The pool of a finished installation gets its place in `REGISTERED_POOLS`. -/
def Worker.publish (worker : Worker) (pending : PendingInstall) (w : World) : Worker :=
  { worker with
    pools := worker.pools ++ [⟨⟨w, [], []⟩, pending.directory, pending.callbackType⟩]
    registeredPools := worker.registeredPools.insert w.name worker.pools.length
    installing := none
    allocated := worker.allocated ++ w.registration.toList }

def Worker.pollPending (worker : Worker) (env : Env) (pending : PendingInstall) :
    WorkerOutcome × Worker :=
  let with_registry (w : World) := { worker with registry := w.registry }
  match (Sahpool.pollInstall pending.installing).run
    (pending.world.facing ⟨env, worker.registry⟩) with
  | (.ok (.pending installing), w) =>
    let pending := { pending with world := w.silenced, installing }
    (.ok .pending, { with_registry w with installing := some pending })
  | (.ok (.ready ()), w) =>
    (.ok (.handle worker.pools.length), (with_registry w).publish pending w.silenced)
  | (.err error, w) => (.err (.pool error), { with_registry w with installing := none })
  | (.halt why, w) => (.halt why, with_registry w)

def Worker.pollInstall (worker : Worker) (env : Env) : WorkerOutcome × Worker :=
  match worker.installing with
  | none => (.ok .done, worker)
  | some pending => worker.pollPending env pending

def Worker.cancelPending (worker : Worker) (env : Env) (pending : PendingInstall) :
    WorkerOutcome × Worker :=
  let ended (w : World) := { worker with registry := w.registry, installing := none }
  match (Sahpool.cancelInstall pending.installing).run
    (pending.world.facing ⟨env, worker.registry⟩) with
  | (.ok (), w) => (.ok .done, ended w)
  | (.err error, w) => (.err (.pool error), ended w)
  | (.halt why, w) => (.halt why, ended w)

def Worker.cancelInstall (worker : Worker) (env : Env) : WorkerOutcome × Worker :=
  match worker.installing with
  | none => (.ok .done, worker)
  | some pending => worker.cancelPending env pending

/-! ## Runs -/

def Worker.appear (worker : Worker) (i : Nat) (file : String) : Worker :=
  match worker.pools[i]? with
  | none => worker
  | some pool =>
    let world := createEntry file pool.system.world
    { worker with pools := worker.pools.set i { pool with system := { pool.system with world } } }

structure Occasion where
  env : Env
  request : Request

def Worker.run (worker : Worker) (occasion : Occasion) : WorkerOutcome × Worker :=
  match occasion.request with
  | .pool i event => worker.callPool occasion.env i event
  | .install request => worker.install occasion.env request
  | .pollInstall => worker.pollInstall occasion.env
  | .cancelInstall => worker.cancelInstall occasion.env
  | .register vfs makeDflt =>
    (.ok .done,
      { worker with registry := LinkedList.link Vfs.pointer vfs makeDflt worker.registry })
  | .unregister pointer =>
    (.ok .done, { worker with registry := LinkedList.unlink Vfs.pointer pointer worker.registry })
  | .appear i file => (.ok .done, worker.appear i file)

end Sahpool

end SqliteVfs
