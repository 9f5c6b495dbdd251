import SqliteVfs.Sahpool.Images
import SqliteVfs.Sahpool.TransferIsolation

/-!
# Independent files

What a pool is for, without its slots: files under names, each with bytes of its own, of
which one may be imported and one exported at a time.  A step is about one name, or it does
the same to each name for itself.
-/

set_option autoImplicit false

namespace SqliteVfs

namespace Sahpool

structure FileHandle where
  name : String
  readOnly : Bool
  deleteOnClose : Bool
  deriving DecidableEq, Repr

structure Files where
  entry : String → Entry
  /-- The name and the bytes so far of the file that is being imported. -/
  draft : Option (String × List UInt8)
  /-- The name and the bytes of the file that is being exported. -/
  source : Option (String × List UInt8)
  opened : List FileHandle

/-! ## Bytes -/

/-- What a call through a handle answers, and makes of the bytes. -/
inductive FileCall.Answers (readOnly : Bool) (data : List UInt8) :
    FileCall → SlotAnswer → List UInt8 → Prop
  | read (buf : List UInt8) (offset : Nat) (bytes : List UInt8)
      (some : bytes <+: SparseVector.readAt data offset buf.length) :
    Answers readOnly data (.read buf offset)
      (.read bytes.length (bytes ++ buf.drop bytes.length)) data
  | written (buf : List UInt8) (offset : Nat) (writable : readOnly = false) :
    Answers readOnly data (.write buf offset) .done
      (if buf = [] then data else SparseVector.writeAt data offset buf)
  | truncated (size : Nat) (writable : readOnly = false) :
    Answers readOnly data (.truncate size) .done (SparseVector.resize data size)
  | small (size : Nat) (small : size ≤ data.length) :
    Answers readOnly data (.sizeHint size) (.hinted true) data
  | extended (size : Nat) (large : data.length < size) (writable : readOnly = false) :
    Answers readOnly data (.sizeHint size) (.hinted true) (SparseVector.resize data size)
  | synced : Answers readOnly data .sync .done data
  | sized : Answers readOnly data .size (.size data.length) data

/-- What a call that fails can make of the bytes: part of a write may land. -/
inductive FileCall.Fails (readOnly : Bool) (data : List UInt8) : FileCall → List UInt8 → Prop
  | nothing (call : FileCall) : Fails readOnly data call data
  | written (buf : List UInt8) (offset count : Nat) (writable : readOnly = false)
      (some : buf.take count ≠ []) :
    Fails readOnly data (.write buf offset) (SparseVector.writeAt data offset (buf.take count))
  | truncated (size : Nat) (writable : readOnly = false) :
    Fails readOnly data (.truncate size) (SparseVector.resize data size)
  | extended (size : Nat) (writable : readOnly = false) :
    Fails readOnly data (.sizeHint size) (SparseVector.resize data size)

inductive FileCall.Makes (readOnly : Bool) (data : List UInt8) (call : FileCall) :
    Outcome Failure Answer → List UInt8 → Prop
  | answered (answer : SlotAnswer) (data' : List UInt8)
      (answers : call.Answers readOnly data answer data') :
    Makes readOnly data call (.ok (.slot answer)) data'
  | failed (failure : Failure) (data' : List UInt8) (fails : call.Fails readOnly data data') :
    Makes readOnly data call (.err failure) data'

inductive Fills (data : List UInt8) (offset : Nat) (bytes : List UInt8) :
    Outcome Failure Answer → List UInt8 → Prop
  | whole : Fills data offset bytes (.ok .done)
      (if bytes = [] then data else SparseVector.writeAt data offset bytes)
  | nothing (failure : Failure) : Fills data offset bytes (.err failure) data
  | part (failure : Failure) (count : Nat) (some : bytes.take count ≠ []) :
    Fills data offset bytes (.err failure)
      (SparseVector.writeAt data offset (bytes.take count))

/-! ## Steps -/

/-- What a deletion can make of a file; one that returned has removed it. -/
inductive Entry.Deletes (entry : Entry) : Bool → Entry → Prop
  | gone (returned : Bool) : Deletes entry returned .absent
  | kept : Deletes entry false entry
  | doubted : Deletes entry false (.uncertain entry.data)

def Succeeded : Outcome Failure Answer → Bool
  | .ok _ => true
  | _ => false

/-- Calls that can fail without an effect; the others have one even then. -/
def Event.Refusable : Event → Prop
  | .closeFile _ | .commit _ | .abort _ | .abortWithError _ _ | .dropImport _ => False
  | _ => True

def Event.Manages : Event → Prop
  | .addCapacity _ | .ensureCapacity _ | .reduceCapacity _ | .resume | .poll _ => True
  | _ => False

namespace Files

def set (f : Files) (name : String) (entry : Entry) : Files :=
  { f with entry := Function.update f.entry name entry }

def opening (f : Files) (name : String) (options : OpenOptions) : Files :=
  { f with
    opened := ⟨name, decide (options.access = .readOnly), options.deleteOnClose⟩ :: f.opened }

def closing (f : Files) (i : Nat) : Files := { f with opened := f.opened.eraseIdx i }

def Free (f : Files) : Prop := f.draft = none ∧ f.source = none

def Unopened (f : Files) (name : String) : Prop := ∀ handle ∈ f.opened, handle.name ≠ name

def Unused (f : Files) (name : String) : Prop :=
  f.entry name = .absent ∧ ∀ suffix ∈ sidecars, f.entry (name ++ suffix) = .absent

def Idle (f : Files) : Event → Prop
  | .call i _ | .closeFile i => f.opened[i]? = none
  | .importWrite i _ _ | .commit i | .abort i | .abortWithError i _ | .dropImport i =>
    i = 0 → f.draft = none
  | .exportRead i _ _ | .dropExport i => i = 0 → f.source = none
  | .poll _ | .cancel _ | .resume => True
  | .pause | .uninstall => f.opened = [] ∧ f.Free
  | _ => False

inductive Tells (f : Files) : Event → Answer → Prop
  | access (name : String) (found : Bool) (told : found = true ↔ f.entry name ≠ .absent) :
    Tells f (.access name) (.flag found)
  | contains (name : String) (found : Bool) (told : found = true ↔ f.entry name ≠ .absent) :
    Tells f (.contains name) (.flag found)
  | names (listed : List String) (distinct : listed.Nodup)
      (told : ∀ name, name ∈ listed ↔ f.entry name ≠ .absent) : Tells f .names (.names listed)
  | len (listed : List String) (distinct : listed.Nodup)
      (told : ∀ name, name ∈ listed ↔ f.entry name ≠ .absent) :
    Tells f .len (.number listed.length)
  | fullPathname (name : String) : Tells f (.fullPathname name) (.name name)
  | exportRead (offset : Nat) (buf : List UInt8) (name : String) (data bytes : List UInt8)
      (there : f.source = some (name, data))
      (some : bytes <+: SparseVector.readAt data offset buf.length) :
    Tells f (.exportRead 0 offset buf) (.bytes bytes.length (bytes ++ buf.drop bytes.length))

inductive Step (f : Files) : Event → Outcome Failure Answer → Files → Prop
  | idle (event) (nothing : f.Idle event) : Step f event (.ok .done) f
  | refused (event error) (refusable : event.Refusable) : Step f event (.err error) f
  | told (event answer) (tells : f.Tells event answer) : Step f event (.ok answer) f
  | managed (event answer) (manages : event.Manages)
      (moves : answer = .pending ∨ ∃ count, answer = .number count) : Step f event (.ok answer) f
  | opened (request name temporary durable data) (free : f.Free)
      (named : request.filename = some name) (shared : request.options.exclusive = false)
      (there : f.entry name = .present temporary durable data) :
    Step f (.openFile request) (.ok (.opened request.options.access))
      (f.opening name request.options)
  | created (request name) (free : f.Free) (create : request.options.create = true)
      (named : ∀ requested, request.filename = some requested → requested = name)
      (absent : f.entry name = .absent) :
    Step f (.openFile request) (.ok (.opened request.options.access))
      ((f.set name (.present (decide (DeleteOnClose request.options.rawFlags)) true [])).opening
        name request.options)
  | lost (request error name) (free : f.Free) (create : request.options.create = true)
      (named : ∀ requested, request.filename = some requested → requested = name)
      (absent : f.entry name = .absent) :
    Step f (.openFile request) (.err error) (f.set name (.uncertain []))
  | called (i made outcome handle temporary durable data data')
      (there : f.opened[i]? = some handle)
      (present : f.entry handle.name = .present temporary durable data)
      (makes : FileCall.Makes handle.readOnly data made outcome data') :
    Step f (.call i made) outcome (f.set handle.name (.present temporary durable data'))
  | closed (i outcome handle) (there : f.opened[i]? = some handle)
      (keeps : handle.deleteOnClose = false) : Step f (.closeFile i) outcome (f.closing i)
  | dropped (i outcome handle after) (there : f.opened[i]? = some handle)
      (deletes : handle.deleteOnClose = true)
      (deleted : (f.entry handle.name).Deletes (Succeeded outcome) after)
      (unopened : after ≠ f.entry handle.name → f.Free ∧ (f.closing i).Unopened handle.name) :
    Step f (.closeFile i) outcome ((f.closing i).set handle.name after)
  | deleted (event outcome name after) (deletes : event.Deletes name)
      (deleted : (f.entry name).Deletes (Succeeded outcome) after)
      (unopened : after ≠ f.entry name → f.Free ∧ f.Unopened name)
      (told : ∀ removed, outcome = .ok (.flag removed) →
        (removed = true ↔ f.entry name ≠ .absent)) :
    Step f event outcome (f.set name after)
  | drafted (name size) (free : f.Free) (unused : f.Unused name) :
    Step f (.createImport name size) (.ok .pending) { f with draft := some (name, []) }
  | filled (offset bytes outcome name data data') (there : f.draft = some (name, data))
      (fills : Fills data offset bytes outcome data') :
    Step f (.importWrite 0 offset bytes) outcome { f with draft := some (name, data') }
  | committed (name data) (there : f.draft = some (name, data)) (absent : f.entry name = .absent) :
    Step f (.commit 0) (.ok .done) { f.set name (.present false true data) with draft := none }
  | mislaid (error name data) (there : f.draft = some (name, data))
      (absent : f.entry name = .absent) :
    Step f (.commit 0) (.err error) { f.set name (.uncertain data) with draft := none }
  | discarded (event outcome) (ends : event.EndsImport 0) (there : f.draft ≠ none)
      (failed : event = .commit 0 → ∃ error, outcome = .err error) :
    Step f event outcome { f with draft := none }
  | sourced (name temporary durable data) (free : f.Free)
      (there : f.entry name = .present temporary durable data) (unopened : f.Unopened name)
      (alone : ∀ suffix ∈ sidecars, (f.entry (name ++ suffix)).data = []) :
    Step f (.openExport name) (.ok .pending) { f with source := some (name, data) }
  | released (there : f.source ≠ none) :
    Step f (.dropExport 0) (.ok .done) { f with source := none }
  | shelved (event) (shelves : event = .pause ∨ event = .uninstall) (unused : f.opened = [])
      (free : f.Free) : Step f event (.ok .done) f
  | cleared (unused : f.opened = []) (free : f.Free) :
    Step f .clear (.ok .done) { f with entry := fun _ => .absent }
  | faded (error entry) (unused : f.opened = []) (free : f.Free)
      (faded : ∀ name, (f.entry name).Fades (entry name)) :
    Step f .clear (.err error) { f with entry }
  | reread (i entry) (unused : f.opened = []) (free : f.Free)
      (reread : ∀ name, (f.entry name).Reread (entry name)) :
    Step f (.poll i) (.ok .done) { f with entry }
  | halfRead (event i outcome entry) (stops : event = .poll i ∨ event = .cancel i)
      (failed : outcome = .ok .done → event = .cancel i) (unused : f.opened = []) (free : f.Free)
      (halfRead : ∀ name, (f.entry name).HalfRead (entry name)) :
    Step f event outcome { f with entry }

end Files

end Sahpool

end SqliteVfs
