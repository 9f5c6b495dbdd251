import SqliteVfs.Base.Runs
import SqliteVfs.Sahpool.HandleRun
import SqliteVfs.Sahpool.Tasks

/-!
# A pool and its users

A pool together with all that its users hold: the files SQLite has open, the transfers
that are going on, and the futures of the asynchronous operations.  An event is one call
or one poll, which nothing interrupts.  Each event meets new surroundings: what the
browser and SQLite will answer, and what foreign code has made of SQLite's registry.
-/

set_option autoImplicit false

namespace SqliteVfs

namespace Sahpool

/-- A file that SQLite has open, as `xOpen` leaves it for `xClose`. -/
structure VfsFile where
  name : Option String
  options : OpenOptions
  handle : SyncAccessFileHandle
  deriving DecidableEq, Repr

/-- What holds the `Operation` guard of the pool. -/
inductive Operation where
  | importing (target : SqliteVfs.ImportTarget World OpfsSAHError)
  | exporting (source : ExportSource World OpfsSAHError)
  | adding (growth : Growth)
  | reducing (shrink : Shrink)
  | resuming (state : Resuming)

structure System where
  world : World
  files : List VfsFile
  operations : List Operation

inductive FileCall where
  | read (buf : List UInt8) (offset : Nat)
  | write (buf : List UInt8) (offset : Nat)
  | truncate (size : Nat)
  | sizeHint (size : Nat)
  | sync
  | size
  deriving DecidableEq, Repr

def FileCall.request (self : SyncAccessFileHandle) : FileCall → SlotRequest
  | read buf offset => .read self buf offset
  | write buf offset => .write self buf offset
  | truncate length => .truncate self length
  | sizeHint length => .sizeHint self length
  | sync => .sync self
  | size => .size self

/-- Files and operations are named by their place in the system's lists; a call on one
that is not there does nothing. -/
inductive Event where
  | openFile (request : OpenRequest)
  | call (i : Nat) (made : FileCall)
  | closeFile (i : Nat)
  | deleteFile (name : String)
  | access (name : String)
  | fullPathname (name : String)
  | remove (name : String)
  | contains (name : String)
  | names
  | len
  | createImport (name : String) (size : Nat)
  | importWrite (i offset : Nat) (bytes : List UInt8)
  | commit (i : Nat)
  | abort (i : Nat)
  | abortWithError (i : Nat) (error : OpfsSAHError)
  | dropImport (i : Nat)
  | openExport (name : String)
  | exportRead (i offset : Nat) (buf : List UInt8)
  | dropExport (i : Nat)
  | addCapacity (n : Nat)
  | ensureCapacity (min : Nat)
  | reduceCapacity (n : Nat)
  | resume
  | poll (i : Nat)
  | cancel (i : Nat)
  | pause
  | clear
  | uninstall

inductive Answer where
  | done
  | pending
  | opened (access : OpenAccess)
  | slot (answer : SlotAnswer)
  | flag (value : Bool)
  | name (name : String)
  | names (names : List String)
  | number (value : Nat)
  | bytes (count : Nat) (buf : List UInt8)

inductive Failure where
  | vfs (error : VfsError)
  | pool (error : OpfsSAHError)
  | slot (answer : SlotAnswer)

abbrev SystemM (α : Type) : Type := Prog System Failure α

def onWorld {ε α : Type} (fail : ε → Failure) (x : Prog World ε α) : SystemM α :=
  ⟨fun s => match x.run s.world with
    | (.ok value, world) => (.ok value, { s with world })
    | (.err error, world) => (.err (fail error), { s with world })
    | (.halt why, world) => (.halt why, { s with world })⟩

/-- Keeps the future of an operation that is not ready. -/
def suspend {τ α : Type} (wrap : τ → Operation) (answer : α → Answer) :
    Poll τ α → SystemM Answer
  | .pending state => do
    Prog.modify fun s => { s with operations := wrap state :: s.operations }
    pure .pending
  | .ready value => pure (answer value)

def withFile (i : Nat) (use : VfsFile → SystemM Answer) : SystemM Answer := do
  let s ← Prog.get
  match s.files[i]? with
  | none => pure .done
  | some file => use file

def withTransfer (i : Nat) (use : Operation → SystemM Answer) : SystemM Answer := do
  let s ← Prog.get
  match s.operations[i]? with
  | none => pure .done
  | some operation => use operation

def forgetFile (i : Nat) : SystemM Unit :=
  Prog.modify fun s => { s with files := s.files.eraseIdx i }

def forgetOperation (i : Nat) : SystemM Unit :=
  Prog.modify fun s => { s with operations := s.operations.eraseIdx i }

def Operation.poll : Operation → SystemM Answer
  | adding growth => do
    let polled ← onWorld .pool (pollAddCapacity growth)
    suspend .adding .number polled
  | reducing shrink => do
    let polled ← onWorld .pool (pollReduceCapacity shrink)
    suspend .reducing .number polled
  | resuming state => do
    let polled ← onWorld .pool (pollResume state)
    suspend .resuming (fun _ => .done) polled
  | _ => pure .done

def Operation.cancel : Operation → SystemM Answer
  | adding growth => do
    onWorld .pool (cancelAddCapacity growth)
    pure .done
  | reducing shrink => do
    onWorld .pool (cancelReduceCapacity shrink)
    pure .done
  | resuming _ => do
    onWorld .pool cancelResume
    pure .done
  | _ => pure .done

def Operation.IsFuture : Operation → Prop
  | importing _ => False
  | exporting _ => False
  | _ => True

instance : DecidablePred Operation.IsFuture
  | .importing _ | .exporting _ => isFalse id
  | .adding _ | .reducing _ | .resuming _ => isTrue trivial

def consumeImport {ε α : Type} (i : Nat) (fail : ε → Failure)
    (call : SqliteVfs.ImportTarget World OpfsSAHError → Prog World ε α) : SystemM Answer :=
  withTransfer i fun
    | .importing target => do
      forgetOperation i
      let _ ← onWorld fail (call target)
      pure .done
    | _ => pure .done

def Event.program : Event → SystemM Answer
  | openFile request => do
    let opened ← onWorld .vfs (Sahpool.openFile request)
    Prog.modify fun s =>
      { s with files := ⟨request.filename, request.options, opened.file⟩ :: s.files }
    pure (.opened opened.access)
  | call i made => withFile i fun file => do
    let answer ← onWorld .slot (made.request file.handle).program
    pure (.slot answer)
  | closeFile i => withFile i fun file => do
    forgetFile i
    onWorld .vfs (VfsStore.closeFile file.name file.handle file.options)
    pure .done
  | deleteFile name => do
    onWorld .vfs (VfsStore.deleteFile name)
    pure .done
  | access name => do
    let found ← onWorld .vfs (VfsStore.access name)
    pure (.flag found)
  | fullPathname name => do
    let name ← onWorld .vfs (VfsStore.fullPathname name)
    pure (.name name)
  | remove name => do
    let removed ← onWorld .pool (Sahpool.deleteFile name)
    pure (.flag removed)
  | contains name => do
    let found ← onWorld .pool (PoolUtil.contains name)
    pure (.flag found)
  | names => do
    let names ← onWorld .pool PoolUtil.names
    pure (.names names)
  | len => do
    let len ← onWorld .pool PoolUtil.len
    pure (.number len)
  | createImport name size => do
    let target ← onWorld .pool (Sahpool.createImport name size)
    Prog.modify fun s => { s with operations := .importing target :: s.operations }
    pure .pending
  | importWrite i offset bytes => withTransfer i fun
    | .importing target => do
      onWorld .pool (target.writeAt offset bytes)
      pure .done
    | _ => pure .done
  | commit i => consumeImport i .pool fun target => target.commit
  | abort i => consumeImport i .pool fun target => target.abort
  | abortWithError i error => consumeImport i Empty.elim fun target => target.abortWithError error
  | dropImport i => consumeImport i Empty.elim fun target => target.drop
  | openExport name => do
    let source ← onWorld .pool (Sahpool.openExport name)
    Prog.modify fun s => { s with operations := .exporting source :: s.operations }
    pure .pending
  | exportRead i offset buf => withTransfer i fun
    | .exporting source => do
      let (count, buf) ← onWorld .pool (source.readAt offset buf)
      pure (.bytes count buf)
    | _ => pure .done
  | dropExport i => withTransfer i fun
    | .exporting source => do
      forgetOperation i
      onWorld Empty.elim source.drop
      pure .done
    | _ => pure .done
  | addCapacity n => do
    let polled ← onWorld .pool (Sahpool.addCapacity n)
    suspend .adding .number polled
  | ensureCapacity min => do
    let polled ← onWorld .pool (Sahpool.ensureCapacity min)
    suspend .adding .number polled
  | reduceCapacity n => do
    let polled ← onWorld .pool (Sahpool.reduceCapacity n)
    suspend .reducing .number polled
  | resume => do
    let polled ← onWorld .pool Sahpool.resume
    suspend .resuming (fun _ => .done) polled
  | poll i => withTransfer i fun operation => do
    if operation.IsFuture then forgetOperation i
    operation.poll
  | cancel i => withTransfer i fun operation => do
    if operation.IsFuture then forgetOperation i
    operation.cancel
  | pause => do
    onWorld .pool Sahpool.pause
    pure .done
  | clear => do
    onWorld .pool Sahpool.clear
    pure .done
  | uninstall => do
    onWorld .pool Sahpool.uninstall
    pure .done

/-! ## Surroundings -/

structure Surroundings where
  env : Env
  registry : List Vfs

def Env.silent : Env := ⟨[], [], [], []⟩

def World.facing (w : World) (around : Surroundings) : World :=
  { w with env := around.env, registry := around.registry }

def World.silenced (w : World) : World := { w with env := Env.silent }

structure Moment where
  around : Surroundings
  event : Event

def System.run (s : System) (moment : Moment) : Outcome Failure Answer × System :=
  let ran := moment.event.program.run { s with world := s.world.facing moment.around }
  (ran.1, { ran.2 with world := ran.2.world.silenced })

/-- An event that comes back, with or without success. -/
def System.Step (s : System) (moment : Moment) (s' : System) : Prop :=
  ∃ outcome, s.run moment = (outcome, s') ∧ ∀ why, outcome ≠ .halt why

end Sahpool

end SqliteVfs
