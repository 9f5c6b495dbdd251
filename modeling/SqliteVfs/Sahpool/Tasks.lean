import SqliteVfs.Sahpool.Pool

/-!
# Asynchronous operations of the pool

The futures of `add_capacity`, `reduce_capacity`, `resume` and of a first installation.
Each is a state that names the browser call it awaits, a function that starts it, a poll
that runs from one await to the next, and a cancellation.  A call in flight when its
future is dropped has landed by then or never does.  The browser gives out one handle
on a file at a time; the pool never asks for a second one.
-/

set_option autoImplicit false

namespace SqliteVfs

namespace Sahpool

inductive Poll (τ α : Type) where
  | pending (state : τ)
  | ready (value : α)

/-- An asynchronous call of the browser with its effect on the directory. -/
def directoryCall (effect : World → World) : Prog World JsValue Unit :=
  ⟨fun w => match w.env.replies with
    | [] => (.ok (), effect w)
    | reply :: rest =>
      let w := { w with env := { w.env with replies := rest } }
      match reply with
      | .done => (.ok (), effect w)
      | .short _ => (.ok (), effect w)
      | .thrown error landed => (.err error, if landed = .nothing then w else effect w)
      | .crash landed => (.halt .crash, if landed = .nothing then w else effect w)⟩

/-- `getFileHandle` with `create`. -/
def createEntry (file : String) (w : World) : World :=
  if file ∈ w.directory then w
  else { w with directory := w.directory.insert file (Journal.settled []) }

def removeEntry (file : String) (w : World) : World :=
  { w with directory := w.directory.erase file }

/-- `SyncAccessFile::acquire`, whose `open_count` starts at zero. -/
def acquire (file : String) : PoolM Unit := do
  Prog.mapErr (OpfsSAHError.js "acquire sync access handle") (directoryCall id)
  Prog.modify fun w => { w with openCount := Function.update w.openCount file 0 }

/-- Ends the operation unless its future is suspended. -/
def guardPoll {τ α : Type} (body : PoolM (Poll τ α)) : PoolM (Poll τ α) := do
  let result ← Prog.attempt body
  match result with
  | .error error => do
    Prog.widen endOperation
    Prog.fail error
  | .ok (.ready value) => do
    Prog.widen endOperation
    pure (.ready value)
  | .ok (.pending state) => pure (.pending state)

/-! ## Adding capacity -/

inductive GrowthPoint where
  | creating (file : String)
  | acquiring (file : String)
  | removing (file : String) (error : OpfsSAHError)

structure Growth where
  /-- Slots to add after the current one. -/
  remaining : Nat
  /-- Names that may still be tried for the current one. -/
  attempts : Nat
  added : List String
  point : GrowthPoint

def World.names (w : World) (file : String) : Bool :=
  file ∈ w.availableFiles ∨ w.mapFilenameToFile.entries.any fun entry => entry.2 = file

/-- A random name that no held slot has, and the attempts left after it. -/
def nextName (added : List String) : Nat → PoolM (String × Nat)
  | 0 => Prog.fail .nameCollision
  | attempts + 1 => do
    let file ← Prog.mapErr .backend randomName
    let w ← Prog.get
    if w.names file ∨ file ∈ added then nextName added attempts
    else pure (file, attempts)

def startSlot (added : List String) : Nat → PoolM (Poll Growth (List String))
  | 0 => pure (.ready added)
  | remaining + 1 => do
    let (file, attempts) ← nextName added maxFilenameAttempts
    pure (.pending ⟨remaining, attempts, added, .creating file⟩)

def Growth.poll (growth : Growth) : PoolM (Poll Growth (List String)) :=
  match growth.point with
  | .creating file => do
    Prog.mapErr (OpfsSAHError.js "create pool file") (directoryCall (createEntry file))
    pure (.pending { growth with point := .acquiring file })
  | .acquiring file => do
    acquire file
    let size ← onSlot file (SyncAccessFile.physicalSize file)
    if size ≠ 0 then do
      -- Never overwrite a file reached by a random-name collision.
      let (file, attempts) ← nextName growth.added growth.attempts
      pure (.pending { growth with attempts, point := .creating file })
    else do
      let result ← Prog.attempt (onSlot file SyncAccessFile.initializeSlot)
      match result with
      | .error error => pure (.pending { growth with point := .removing file error })
      | .ok () => startSlot (growth.added ++ [file]) growth.remaining
  | .removing file error => do
    let removed ← Prog.attempt (Prog.mapErr (OpfsSAHError.js "remove incomplete slot")
      (directoryCall (removeEntry file)))
    match removed with
    | .error failure => Prog.fail (.cleanup error failure)
    | .ok () => Prog.fail error

/-- `available_files.extend(added)` and the result of `add_capacity`. -/
def publishAdded : Poll Growth (List String) → PoolM (Poll Growth Nat)
  | .pending growth => pure (.pending growth)
  | .ready added => do
    Prog.modify fun w => { w with availableFiles := w.availableFiles ++ added }
    let w ← Prog.get
    pure (.ready w.capacity)

def addCapacity (n : Nat) : PoolM (Poll Growth Nat) := do
  checkActive
  beginOperation
  guardPoll do
    tryReserve
    tryReserve
    let started ← startSlot [] n
    publishAdded started

def pollAddCapacity (growth : Growth) : PoolM (Poll Growth Nat) := guardPoll do
  let polled ← growth.poll
  publishAdded polled

def ensureCapacity (min : Nat) : PoolM (Poll Growth Nat) := do
  let w ← Prog.get
  addCapacity (min - w.capacity)

/-- The call in flight, which may still land. -/
def Growth.inFlight (growth : Growth) : World → World :=
  match growth.point with
  | .creating file => createEntry file
  | .acquiring _ => id
  | .removing file _ => removeEntry file

def cancelAddCapacity (growth : Growth) : PoolM Unit := do
  let _ ← Prog.attempt (directoryCall growth.inFlight)
  Prog.widen endOperation

/-! ## Reducing capacity -/

/-- `file` is being removed, and `remaining` more slots after it. -/
structure Shrink where
  count : Nat
  remaining : Nat
  file : String

def popSlot (count : Nat) : Nat → PoolM (Poll Shrink Nat)
  | 0 => pure (.ready count)
  | remaining + 1 => do
    let file ← popAvailable
    let file ← Prog.unwrap file
    pure (.pending ⟨count, remaining, file⟩)

def reduceCapacity (n : Nat) : PoolM (Poll Shrink Nat) := do
  checkActive
  beginOperation
  guardPoll do
    let w ← Prog.get
    let count := min n w.availableFiles.length
    popSlot count count

def pollReduceCapacity (shrink : Shrink) : PoolM (Poll Shrink Nat) := guardPoll do
  Prog.mapErr (OpfsSAHError.js "remove unused slot") (directoryCall (removeEntry shrink.file))
  popSlot shrink.count shrink.remaining

def cancelReduceCapacity (shrink : Shrink) : PoolM Unit := do
  let _ ← Prog.attempt (directoryCall (removeEntry shrink.file))
  Prog.widen endOperation

/-! ## Loading a directory -/

inductive LoadPoint where
  | listing
  | acquiring (file : String)

/-- `acquire_access_handles`, up to the point where every handle is acquired. -/
structure Loading where
  clear : Bool
  /-- What the directory iterator has not returned yet. -/
  entries : List String
  acquired : List String
  point : LoadPoint

/-- Splits the acquired slots by what their headers say. -/
def classify (clear : Bool) (assigned : AList fun _ : String => String)
    (available : List String) : List String → PoolM ((AList fun _ : String => String) × List String)
  | [] => pure (assigned, available)
  | file :: rest => do
    let filename ← if clear then pure none
      else onSlot file (SyncAccessFile.associatedFilename file)
    match filename with
    | some filename =>
      if filename ∈ assigned then Prog.fail (.duplicateFilename filename)
      else classify clear (assigned.insert filename file) available rest
    | none => classify clear assigned (available ++ [file]) rest

def resetSlots (clear : Bool) : List String → PoolM Unit
  | [] => pure ()
  | file :: rest => do
    let incomplete ← if clear then pure false
      else do
        let size ← onSlot file (SyncAccessFile.physicalSize file)
        pure (decide (size < headerOffsetData))
    if incomplete then onSlot file SyncAccessFile.initializeSlot
    else associate file none 0
    resetSlots clear rest

/-- The rest of `acquire_access_handles`, which does not yield. -/
def publishLoaded (clear : Bool) (acquired : List String) : PoolM Unit := do
  tryReserve
  tryReserve
  let (assigned, available) ← classify clear ∅ [] acquired
  resetSlots clear available
  Prog.modify fun w =>
    { w with mapFilenameToFile := assigned, availableFiles := available, needsRecovery := false }

def Loading.poll (loading : Loading) : PoolM (Poll Loading Unit) :=
  match loading.point with
  | .listing => do
    Prog.mapErr (OpfsSAHError.js "iterate pool directory") (directoryCall id)
    match loading.entries with
    | [] => do
      publishLoaded loading.clear loading.acquired
      pure (.ready ())
    | file :: entries => do
      tryReserve
      pure (.pending { loading with entries, point := .acquiring file })
  | .acquiring file => do
    acquire file
    pure (.pending { loading with acquired := loading.acquired ++ [file], point := .listing })

def startLoading (clear : Bool) : PoolM Loading := do
  let w ← Prog.get
  pure ⟨clear, w.directory.keys, [], .listing⟩

/-! ## Resuming -/

inductive Resuming where
  | lease (vfs : Nat)
  | loading (vfs : Nat) (state : Loading)

def resume : PoolM (Poll Resuming Unit) := do
  beginOperation
  guardPoll do
    let w ← Prog.get
    if w.state = .active then
      if w.needsRecovery then Prog.fail .needsRecovery else pure (.ready ())
    else do
      let vfs ← ofOption .uninstalled w.registration
      let existing ← registeredVfs w.name
      if existing.any (· ≠ vfs) then Prog.fail (.vfs (.nameConflict w.name))
      else pure (.pending (.lease vfs))

/-- Registers the VFS again once the slots are loaded. -/
def reregister (vfs : Nat) : PoolM Unit := do
  let w ← Prog.get
  let registered ← registeredVfs w.name
  let result ← Prog.attempt (if registered.any (· ≠ vfs) then
      Prog.fail (.vfs (.nameConflict w.name))
    else do
      let code ← vfsRegister vfs w.makeDefault
      match code with
      | none => pure ()
      | some code => Prog.fail (.sqlite "register VFS" code))
  match result with
  | .error error => do
    releaseAccessHandles
    Prog.fail error
  | .ok () => Prog.modify fun w => { w with lease := true, state := .active }

def pollResume (resuming : Resuming) : PoolM (Poll Resuming Unit) := guardPoll do
  match resuming with
  | .lease vfs => do
    Prog.mapErr (OpfsSAHError.js "acquire sync access handle") (directoryCall id)
    let loading ← startLoading false
    pure (.pending (.loading vfs loading))
  | .loading vfs loading => do
    let polled ← loading.poll
    match polled with
    | .pending loading => pure (.pending (.loading vfs loading))
    | .ready () => do
      reregister vfs
      pure (.ready ())

/-- What was acquired is dropped with the future. -/
def cancelResume : PoolM Unit := Prog.widen endOperation

/-! ## Installing -/

structure PoolConfig where
  clearOnInit : Bool
  initialCapacity : Nat
  defaultVfs : Bool
  /-- Where the new `sqlite3_vfs` is allocated. -/
  vfs : Nat

inductive Installing where
  | opening (config : PoolConfig) (operation : String) (calls : List String)
  | loading (config : PoolConfig) (state : Loading)
  | growing (config : PoolConfig) (state : Growth)

/-- The calls that `OpfsSAHPool::new` awaits after the first one and before it builds the
pool; the last but one acquires the lease. -/
def openingCalls : List String :=
  ["get pool directory", "get pool lock file", "acquire sync access handle",
    "get opaque directory"]

/-- The pool that `OpfsSAHPool::new` starts from. -/
def newPool (w : World) : World :=
  { w with
    availableFiles := []
    mapFilenameToFile := ∅
    quarantinedFiles := []
    state := .active
    busy := false
    needsRecovery := false
    lease := true
    makeDefault := false
    registration := none }

/-- The pool after its last reference is dropped. -/
def dropPool (w : World) : World :=
  { w with
    availableFiles := []
    mapFilenameToFile := ∅
    quarantinedFiles := []
    state := .removed
    busy := false
    needsRecovery := false
    lease := false
    registration := none }

/-- `register_vfs` for the finished pool, and its publication. -/
def registerPool (config : PoolConfig) : PoolM Unit := do
  let w ← Prog.get
  if w.name = "" then Prog.fail (.vfs .emptyName)
  else do
    let existing ← registeredVfs w.name
    if existing.isSome then Prog.fail (.vfs (.nameConflict w.name))
    else do
      let code ← vfsRegister config.vfs config.defaultVfs
      match code with
      | some code => Prog.fail (.vfs (.registerVfs code))
      | none => Prog.modify fun w =>
          { w with makeDefault := config.defaultVfs, registration := some config.vfs }

def install (config : PoolConfig) : PoolM (Poll Installing Unit) := do
  let w ← Prog.get
  let registered ← registeredVfs w.name
  if registered.isSome then Prog.fail (.vfs (.nameConflict w.name))
  else pure (.pending (.opening config "get OPFS root" openingCalls))

/-- Continues with what `ensure_capacity` returned. -/
def afterGrowth (config : PoolConfig) : Poll Growth Nat → PoolM (Poll Installing Unit)
  | .pending growth => pure (.pending (.growing config growth))
  | .ready _ => do
    registerPool config
    pure (.ready ())

/-- A failure drops the pool. -/
def orDropPool {α : Type} (body : PoolM α) : PoolM α := do
  let result ← Prog.attempt body
  match result with
  | .error error => do
    Prog.modify dropPool
    Prog.fail error
  | .ok value => pure value

def pollInstall (installing : Installing) : PoolM (Poll Installing Unit) := orDropPool do
  match installing with
  | .opening config operation calls => do
    Prog.mapErr (OpfsSAHError.js operation) (directoryCall id)
    match calls with
    | next :: calls => pure (.pending (.opening config next calls))
    | [] => do
      Prog.modify newPool
      let loading ← startLoading config.clearOnInit
      pure (.pending (.loading config loading))
  | .loading config loading => do
    let polled ← loading.poll
    match polled with
    | .pending loading => pure (.pending (.loading config loading))
    | .ready () => do
      let grown ← ensureCapacity config.initialCapacity
      afterGrowth config grown
  | .growing config growth => do
    let grown ← pollAddCapacity growth
    afterGrowth config grown

def cancelInstall : Installing → PoolM Unit
  | .opening _ _ _ => pure ()
  | .loading _ _ => Prog.modify dropPool
  | .growing _ growth => do
    let _ ← Prog.attempt (directoryCall growth.inFlight)
    Prog.modify dropPool

end Sahpool

end SqliteVfs
