import SqliteVfs.Callbacks.OwnershipSpec

/-!
# Errors of the callbacks

Each call that fails records one diagnostic, and returns its code.
-/

set_option autoImplicit false

namespace SqliteVfs

namespace Callbacks

variable {σ H α : Type} {backend : Backend σ H} {w w' w'' : World σ H} {pFile box : Nat}
  {handle : Handle H} {recorded : List VfsError} {Blank : World σ H → Prop}
  {unsupported : Prop}

/-! ## What the I/O callbacks leave alone -/

structure Touches (w w' : World σ H) : Prop where
  files : w'.files = w.files
  serials : ∀ box, (w'.boxes box).map Handle.serial = (w.boxes box).map Handle.serial
  nextBox : w'.nextBox = w.nextBox
  serial : w'.serial = w.serial
  calls : w'.calls = w.calls

theorem Touches.refl (w : World σ H) : Touches w w := ⟨rfl, fun _ => rfl, rfl, rfl, rfl⟩

theorem Touches.trans (first : Touches w w') (second : Touches w' w'') : Touches w w'' where
  files := second.files.trans first.files
  serials box := (second.serials box).trans (first.serials box)
  nextBox := second.nextBox.trans first.nextBox
  serial := second.serial.trans first.serial
  calls := second.calls.trans first.calls

theorem Touches.boxed (touches : Touches w w') (boxed : w'.boxes box = some handle) :
    ∃ before, w.boxes box = some before ∧ before.serial = handle.serial := by
  have same := touches.serials box
  rw [boxed, Option.map_some] at same
  exact Option.map_eq_some_iff.mp same.symm

theorem Touches.boxed' (touches : Touches w w') (boxed : w.boxes box = some handle) :
    ∃ after, w'.boxes box = some after ∧ after.serial = handle.serial := by
  have same := touches.serials box
  rw [boxed, Option.map_some] at same
  exact Option.map_eq_some_iff.mp same

theorem Owned.touched {s : Session σ H} (owned : Owned s) (touches : Touches s.world w') :
    Owned ⟨w', s.isOpen⟩ where
  methods p := (congrArg SQLiteVfsFile.methods (congrFun touches.files p)).trans (owned.methods p)
  held p isOpen := by
    obtain ⟨box, handle, path, holds⟩ := owned.held p isOpen
    obtain ⟨after, boxed, same⟩ := touches.boxed' holds.live.boxed
    have file : w'.files p = s.world.files p := congrFun touches.files p
    refine ⟨box, after, path, ⟨by rw [file]; exact holds.live.pointer, boxed⟩, ?_, ?_, ?_⟩
    · rw [file]
      exact holds.named
    · rw [file]
      exact holds.length
    · rw [file, same, touches.calls]
      exact holds.logged
  apart p q box isOpen isOpen' pointer pointer' := by
    have pointed : (w'.files p).handle = some box := pointer
    have pointed' : (w'.files q).handle = some box := pointer'
    rw [touches.files] at pointed pointed'
    exact owned.apart p q box isOpen isOpen' pointed pointed'
  kept box handle boxed := by
    obtain ⟨before, held, -⟩ := touches.boxed boxed
    obtain ⟨p, isOpen, pointer⟩ := owned.kept box before held
    refine ⟨p, isOpen, ?_⟩
    change (w'.files p).handle = some box
    rw [touches.files]
    exact pointer
  freshBox box beyond := by
    have same := touches.serials box
    rw [owned.freshBox box (touches.nextBox ▸ beyond)] at same
    exact Option.map_eq_none_iff.mp same
  serials first second handle handle' boxed boxed' same := by
    obtain ⟨before, held, serial⟩ := touches.boxed boxed
    obtain ⟨before', held', serial'⟩ := touches.boxed boxed'
    exact owned.serials first second before before' held held'
      (serial.trans (same.trans serial'.symm))
  opened number := by
    change w'.calls.countP _ = if number < w'.serial then 1 else 0
    rw [touches.calls, touches.serial]
    exact owned.opened number
  unclosed box handle boxed := by
    obtain ⟨before, held, serial⟩ := touches.boxed boxed
    change w'.calls.countP _ = 0
    rw [touches.calls, ← serial]
    exact owned.unclosed box before held
  closed number below unboxed := by
    change w'.calls.countP _ = 1
    rw [touches.calls]
    refine owned.closed number (touches.serial ▸ below) fun box handle boxed => ?_
    obtain ⟨after, held, serial⟩ := touches.boxed' boxed
    rw [← serial]
    exact unboxed box after held
  matched number path options logged := by
    change _ ∈ w'.calls
    rw [touches.calls]
    exact owned.matched number path options (touches.calls ▸ logged)
  valid call logged := owned.valid call (touches.calls ▸ logged)

/-! ## What a call reports -/

/-- A call succeeds, is declined, or records the error whose code it returns. -/
inductive Reported (recorded : List VfsError) (Blank : World σ H → Prop) (unsupported : Prop)
    (code : Int) (w' : World σ H) : Prop
  | succeeded : ¬ unsupported → code = SQLITE_OK → w'.recorded = recorded →
      Reported recorded Blank unsupported code w'
  | declined : unsupported → code = SQLITE_NOTFOUND → w'.recorded = recorded →
      Reported recorded Blank unsupported code w'
  | failed (error : VfsError) : ¬ unsupported → code ≠ SQLITE_OK → error.rawCode = code →
      w'.recorded = recorded ++ [error] → Blank w' →
      Reported recorded Blank unsupported code w'

def Answers (program : CallbackM σ H Int) (w : World σ H) (recorded : List VfsError)
    (Blank : World σ H → Prop) (unsupported : Prop) : Prop :=
  ∃ code w', program.run w = (.ok code, w') ∧ Touches w w' ∧
    Reported recorded Blank unsupported code w'

namespace Answers

theorem fails (error : VfsError) (supported : ¬ unsupported) (kept : w.recorded = recorded)
    (blank : Blank { w with recorded := w.recorded ++ [error] }) :
    Answers (storeErr error) w recorded Blank unsupported :=
  ⟨_, _, storeErr_run error, ⟨rfl, fun _ => rfl, rfl, rfl, rfl⟩,
    .failed error supported (VfsErrorCode.asRaw_ne_ok error.constructible) rfl
    (congrArg (· ++ [error]) kept) blank⟩

theorem succeeds (supported : ¬ unsupported) (kept : w.recorded = recorded) :
    Answers (pure SQLITE_OK) w recorded Blank unsupported :=
  ⟨_, _, rfl, .refl w, .succeeded supported rfl kept⟩

theorem declines (declined : unsupported) (kept : w.recorded = recorded) :
    Answers (pure SQLITE_NOTFOUND) w recorded Blank unsupported :=
  ⟨_, _, rfl, .refl w, .declined declined rfl kept⟩

theorem after {first : CallbackM σ H α} {rest : α → CallbackM σ H Int} {value : α}
    (run : first.run w = (.ok value, w')) (touches : Touches w w')
    (answers : Answers (rest value) w' recorded Blank unsupported) :
    Answers (first >>= rest) w recorded Blank unsupported := by
  obtain ⟨code, w'', ends, touches', reported⟩ := answers
  exact ⟨code, w'', (Prog.bind_ok run rest).trans ends, touches.trans touches', reported⟩

theorem afterModify {f : World σ H → World σ H} {rest : Unit → CallbackM σ H Int}
    (touches : Touches w (f w)) (answers : Answers (rest ()) (f w) recorded Blank unsupported) :
    Answers (Prog.modify f >>= rest) w recorded Blank unsupported :=
  after rfl touches answers

theorem afterStore {call : StoreMethod σ α} {rest : Except VfsError α → CallbackM σ H Int}
    (answers : Answers (rest (call w.app).1) { w with app := (call w.app).2 } recorded Blank
      unsupported) :
    Answers (callStore call >>= rest) w recorded Blank unsupported :=
  after rfl ⟨rfl, fun _ => rfl, rfl, rfl, rfl⟩ answers

/-- A call on a handle changes that handle's value. -/
theorem afterHandle {call : H → σ → α × H × σ} {rest : α → CallbackM σ H Int}
    (live : w.Live pFile box handle)
    (answers : Answers (rest (call handle.value w.app).1)
      { w with
        app := (call handle.value w.app).2.2
        boxes := Function.update w.boxes box
          (some { handle with value := (call handle.value w.app).2.1 }) }
      recorded Blank unsupported) :
    Answers (onHandle pFile call >>= rest) w recorded Blank unsupported := by
  refine after (onHandle_run live call) ⟨rfl, fun other => ?_, rfl, rfl, rfl⟩ answers
  by_cases same : other = box
  · change (Function.update w.boxes box _ other).map Handle.serial = _
    rw [same, Function.update_self, live.boxed]
    rfl
  · change (Function.update w.boxes box _ other).map Handle.serial = _
    rw [Function.update_of_ne same]

theorem reports (result : Except VfsError Unit) (supported : ¬ unsupported)
    (kept : w.recorded = recorded) (blank : ∀ error : VfsError,
      Blank { w with recorded := w.recorded ++ [error] }) :
    Answers (reported result) w recorded Blank unsupported := by
  cases result with
  | ok _ => exact succeeds supported kept
  | error error => exact fails error supported kept (blank error)

end Answers

/-! ## The callbacks -/

inductive Callback where
  | xOpen (pFile : Nat) (zName : Option (List UInt8)) (flags : UInt32)
  | xDelete (zName : Option (List UInt8)) (syncDir : Int)
  | xAccess (zName : Option (List UInt8)) (flags : Int)
  | xFullPathname (zName : Option (List UInt8)) (nOut : Int) (zOut : Bool)
  | xCurrentTime
  | xCurrentTimeInt64
  | xClose (pFile : Nat)
  | xRead (pFile : Nat) (iAmt iOfst : Int)
  | xWrite (pFile : Nat) (iAmt iOfst : Int)
  | xTruncate (pFile : Nat) (size : Int)
  | xSync (pFile : Nat) (flags : UInt32)
  | xFileSize (pFile : Nat)
  | xLock (pFile : Nat) (eLock : Int)
  | xUnlock (pFile : Nat) (eLock : Int)
  | xCheckReservedLock (pFile : Nat)
  | xFileControl (pFile : Nat) (op arg : Int)

namespace Callback

def program (backend : Backend σ H) : Callback → CallbackM σ H Int
  | xOpen pFile zName flags => Callbacks.xOpen backend zName pFile flags
  | xDelete zName syncDir => Callbacks.xDelete backend zName syncDir
  | xAccess zName flags => Callbacks.xAccess backend zName flags
  | xFullPathname zName nOut zOut => Callbacks.xFullPathname backend zName nOut zOut
  | xCurrentTime => Callbacks.xCurrentTime backend
  | xCurrentTimeInt64 => Callbacks.xCurrentTimeInt64 backend
  | xClose pFile => Callbacks.xClose backend pFile
  | xRead pFile iAmt iOfst => Callbacks.xRead backend pFile iAmt iOfst
  | xWrite pFile iAmt iOfst => Callbacks.xWrite backend pFile iAmt iOfst
  | xTruncate pFile size => Callbacks.xTruncate backend pFile size
  | xSync pFile flags => Callbacks.xSync backend pFile flags
  | xFileSize pFile => Callbacks.xFileSize backend pFile
  | xLock pFile eLock => Callbacks.xLock backend pFile eLock
  | xUnlock pFile eLock => Callbacks.xUnlock backend pFile eLock
  | xCheckReservedLock pFile => Callbacks.xCheckReservedLock backend pFile
  | xFileControl pFile op arg => Callbacks.xFileControl backend pFile op arg

/-- SQLite opens a file that is not open, and uses one that is. -/
def Allowed (s : Session σ H) : Callback → Prop
  | xOpen pFile _ _ => s.isOpen pFile = false
  | xClose pFile | xRead pFile _ _ | xWrite pFile _ _ | xTruncate pFile _ | xSync pFile _
  | xFileSize pFile | xLock pFile _ | xUnlock pFile _ | xCheckReservedLock pFile
  | xFileControl pFile _ _ => s.isOpen pFile = true
  | xDelete _ _ | xAccess _ _ | xFullPathname _ _ _ | xCurrentTime | xCurrentTimeInt64 => True

def Cleared (w : World σ H) : Callback → World σ H → Prop
  | xOpen _ _ _, w' => w'.outFlags = w.outFlags
  | xAccess _ _, w' | xFileSize _, w' | xCheckReservedLock _, w' | xCurrentTimeInt64, w' =>
    w'.out = 0
  | xCurrentTime, w' => w'.timeOut = .zero
  | _, _ => True

def Unsupported (backend : Backend σ H) (w : World σ H) : Callback → Prop
  | xFileControl pFile op arg => op ≠ sizeHintOp ∨ 0 ≤ arg ∧ ∃ box handle,
      w.Live pFile box handle ∧ (backend.io.sizeHint arg.toNat handle.value w.app).1 = .ok false
  | _ => False

end Callback

section

variable (backend : Backend σ H)

theorem xDelete_answers (zName : Option (List UInt8)) (syncDir : Int) :
    Answers (xDelete backend zName syncDir) w w.recorded (fun _ => True) False := by
  unfold xDelete
  rcases zName with _ | bytes
  · exact .fails _ id rfl trivial
  dsimp only
  rcases toStr bytes with _ | name
  · exact .fails _ id rfl trivial
  refine .afterStore ?_
  rcases (backend.store.deleteFile name (syncDir ≠ 0) w.app).1 with error | _
  · exact .fails _ id rfl trivial
  · exact .succeeds id rfl

theorem xAccess_answers (zName : Option (List UInt8)) (flags : Int) :
    Answers (xAccess backend zName flags) w w.recorded (fun w' => w'.out = 0) False := by
  unfold xAccess
  refine .afterModify ⟨rfl, fun _ => rfl, rfl, rfl, rfl⟩ ?_
  rcases zName with _ | bytes
  · exact .fails _ id rfl rfl
  dsimp only
  rcases AccessMode.fromRaw flags with _ | mode
  · exact .fails _ id rfl rfl
  dsimp only
  rcases toStr bytes with _ | name
  · exact .fails _ id rfl rfl
  refine .afterStore ?_
  rcases (backend.store.access name mode w.app).1 with error | found
  · exact .fails _ id rfl rfl
  · exact .afterModify ⟨rfl, fun _ => rfl, rfl, rfl, rfl⟩ (.succeeds id rfl)

theorem xFullPathname_answers (zName : Option (List UInt8)) (nOut : Int) (zOut : Bool) :
    Answers (xFullPathname backend zName nOut zOut) w w.recorded (fun _ => True) False := by
  unfold xFullPathname
  rcases zName with _ | bytes
  · exact .fails _ id rfl trivial
  dsimp only
  by_cases missing : zOut = false ∨ nOut ≤ 0
  · rw [if_pos missing]
    exact .fails _ id rfl trivial
  rw [if_neg missing]
  rcases toStr bytes with _ | name
  · exact .fails _ id rfl trivial
  refine .afterStore ?_
  rcases (backend.store.fullPathname name w.app).1 with error | full
  · exact .fails _ id rfl trivial
  dsimp only
  by_cases nul : 0 ∈ nameBytes full
  · rw [if_pos nul]
    exact .fails _ id rfl trivial
  rw [if_neg nul]
  by_cases long : nOut.toNat ≤ (nameBytes full).length
  · rw [if_pos long]
    exact .fails _ id rfl trivial
  · rw [if_neg long]
    exact .afterModify ⟨rfl, fun _ => rfl, rfl, rfl, rfl⟩ (.succeeds id rfl)

theorem xCurrentTime_answers :
    Answers (xCurrentTime backend) w w.recorded (fun w' => w'.timeOut = .zero) False := by
  unfold xCurrentTime
  refine .afterModify ⟨rfl, fun _ => rfl, rfl, rfl, rfl⟩ (.afterStore ?_)
  rcases (backend.epochTimestampInMs w.app).1 with error | time
  · exact .fails _ id rfl rfl
  · exact .afterModify ⟨rfl, fun _ => rfl, rfl, rfl, rfl⟩ (.succeeds id rfl)

theorem xCurrentTimeInt64_answers :
    Answers (xCurrentTimeInt64 backend) w w.recorded (fun w' => w'.out = 0) False := by
  unfold xCurrentTimeInt64
  refine .afterModify ⟨rfl, fun _ => rfl, rfl, rfl, rfl⟩ (.afterStore ?_)
  rcases (backend.epochTimestampInMs w.app).1 with error | time
  · exact .fails _ id rfl rfl
  dsimp only
  by_cases fits : time + julianEpoch < 2 ^ 63
  · rw [if_pos fits]
    exact .afterModify ⟨rfl, fun _ => rfl, rfl, rfl, rfl⟩ (.succeeds id rfl)
  · rw [if_neg fits]
    exact .fails _ id rfl rfl

variable (live : w.Live pFile box handle)
include live

theorem xRead_answers (iAmt iOfst : Int) :
    Answers (xRead backend pFile iAmt iOfst) w w.recorded (fun _ => True) False := by
  unfold xRead
  by_cases negative : iAmt < 0
  · rw [if_pos negative]
    exact .fails _ id rfl trivial
  rw [if_neg negative]
  by_cases before : iOfst < 0
  · rw [if_pos before]
    exact .fails _ id rfl trivial
  rw [if_neg before]
  dsimp only
  by_cases zero : iAmt.toNat = 0
  · rw [if_pos zero]
    exact .succeeds id rfl
  rw [if_neg zero]
  refine .afterModify ⟨rfl, fun _ => rfl, rfl, rfl, rfl⟩ (.after rfl (.refl _) ?_)
  have live' : World.Live { w with
      buffer := List.replicate iAmt.toNat 0 ++ w.buffer.drop iAmt.toNat } pFile box handle :=
    ⟨live.pointer, live.boxed⟩
  refine .afterHandle live' ?_
  rcases backend.io.read _ iOfst.toNat handle.value _ with ⟨error | count, slice, file, app⟩
  · refine .afterModify ⟨rfl, fun _ => rfl, rfl, rfl, rfl⟩ ?_
    dsimp only
    by_cases short : error.rawCode = VfsErrorCode.ioShortRead.asRaw
    · rw [if_pos short]
      exact .fails _ id rfl trivial
    · rw [if_neg short]
      exact .fails _ id rfl trivial
  · refine .afterModify ⟨rfl, fun _ => rfl, rfl, rfl, rfl⟩ ?_
    dsimp only
    by_cases excess : iAmt.toNat < count
    · rw [if_pos excess]
      exact .fails _ id rfl trivial
    rw [if_neg excess]
    by_cases under : count < iAmt.toNat
    · rw [if_pos under]
      exact .afterModify ⟨rfl, fun _ => rfl, rfl, rfl, rfl⟩ (.fails _ id rfl trivial)
    · rw [if_neg under]
      exact .succeeds id rfl

theorem xWrite_answers (iAmt iOfst : Int) :
    Answers (xWrite backend pFile iAmt iOfst) w w.recorded (fun _ => True) False := by
  unfold xWrite
  by_cases negative : iAmt < 0
  · rw [if_pos negative]
    exact .fails _ id rfl trivial
  rw [if_neg negative]
  by_cases before : iOfst < 0
  · rw [if_pos before]
    exact .fails _ id rfl trivial
  rw [if_neg before]
  by_cases zero : iAmt.toNat = 0
  · rw [if_pos zero]
    exact .succeeds id rfl
  rw [if_neg zero]
  exact .after rfl (.refl _) (.afterHandle live (.reports _ id rfl fun _ => trivial))

theorem xTruncate_answers (size : Int) :
    Answers (xTruncate backend pFile size) w w.recorded (fun _ => True) False := by
  unfold xTruncate
  by_cases negative : size < 0
  · rw [if_pos negative]
    exact .fails _ id rfl trivial
  · rw [if_neg negative]
    exact .afterHandle live (.reports _ id rfl fun _ => trivial)

theorem xSync_answers (flags : UInt32) :
    Answers (xSync backend pFile flags) w w.recorded (fun _ => True) False := by
  unfold xSync
  rcases SyncOptions.fromRawFlags flags with _ | options
  · exact .fails _ id rfl trivial
  · exact .afterHandle live (.reports _ id rfl fun _ => trivial)

theorem xFileSize_answers :
    Answers (xFileSize backend pFile) w w.recorded (fun w' => w'.out = 0) False := by
  unfold xFileSize
  have live' : World.Live { w with out := 0 } pFile box handle := ⟨live.pointer, live.boxed⟩
  refine .afterModify ⟨rfl, fun _ => rfl, rfl, rfl, rfl⟩ (.afterHandle live' ?_)
  rcases (backend.io.size handle.value w.app).1 with error | size
  · exact .fails _ id rfl rfl
  dsimp only
  by_cases fits : size < 2 ^ 63
  · rw [if_pos fits]
    exact .afterModify ⟨rfl, fun _ => rfl, rfl, rfl, rfl⟩ (.succeeds id rfl)
  · rw [if_neg fits]
    exact .fails _ id rfl rfl

theorem xLock_answers (eLock : Int) :
    Answers (xLock backend pFile eLock) w w.recorded (fun _ => True) False := by
  unfold xLock
  rcases LockLevel.fromRaw eLock with _ | level
  · exact .fails _ id rfl trivial
  cases level with
  | none => exact .fails _ id rfl trivial
  | shared | reserved | pending | exclusive =>
      exact .afterHandle live (.reports _ id rfl fun _ => trivial)

theorem xUnlock_answers (eLock : Int) :
    Answers (xUnlock backend pFile eLock) w w.recorded (fun _ => True) False := by
  unfold xUnlock
  rcases LockLevel.fromRaw eLock with _ | level
  · exact .fails _ id rfl trivial
  cases level with
  | none | shared => exact .afterHandle live (.reports _ id rfl fun _ => trivial)
  | reserved | pending | exclusive => exact .fails _ id rfl trivial

theorem xCheckReservedLock_answers :
    Answers (xCheckReservedLock backend pFile) w w.recorded (fun w' => w'.out = 0) False := by
  unfold xCheckReservedLock
  have live' : World.Live { w with out := 0 } pFile box handle := ⟨live.pointer, live.boxed⟩
  refine .afterModify ⟨rfl, fun _ => rfl, rfl, rfl, rfl⟩ (.afterHandle live' ?_)
  rcases (backend.io.checkReservedLock handle.value w.app).1 with error | held
  · exact .fails _ id rfl rfl
  · exact .afterModify ⟨rfl, fun _ => rfl, rfl, rfl, rfl⟩ (.succeeds id rfl)

theorem xFileControl_answers (op arg : Int) :
    Answers (xFileControl backend pFile op arg) w w.recorded (fun _ => True)
      ((Callback.xFileControl pFile op arg).Unsupported backend w) := by
  unfold xFileControl
  by_cases other : op ≠ sizeHintOp
  · rw [if_pos other]
    exact .declines (.inl other) rfl
  rw [if_neg other]
  by_cases negative : arg < 0
  · rw [if_pos negative]
    refine .fails _ (fun unsupported => ?_) rfl trivial
    rcases unsupported with different | ⟨positive, -⟩
    · exact other different
    · omega
  rw [if_neg negative]
  have supported (result : Except VfsError Bool)
      (answer : (backend.io.sizeHint arg.toNat handle.value w.app).1 = result)
      (different : result ≠ .ok false) :
      ¬ (Callback.xFileControl pFile op arg).Unsupported backend w := by
    rintro (differs | ⟨-, box', handle', live', declined⟩)
    · exact other differs
    · obtain rfl := Option.some.inj (live'.pointer.symm.trans live.pointer)
      obtain rfl := Option.some.inj (live'.boxed.symm.trans live.boxed)
      exact different (answer.symm.trans declined)
  refine .afterHandle live ?_
  rcases answer : (backend.io.sizeHint arg.toNat handle.value w.app).1 with error | handled
  · exact .fails _ (supported _ answer nofun) rfl trivial
  cases handled with
  | false => exact .declines (.inr ⟨by omega, box, handle, live, answer⟩) rfl
  | true => exact .succeeds (supported _ answer nofun) rfl

end

/-! ## Sessions -/

structure OutMemory where
  out : Int
  outFlags : Option UInt32
  timeOut : JulianDay
  buffer : List UInt8

def Callback.openAfter (isOpen : Nat → Bool) (code : Int) : Callback → Nat → Bool
  | .xOpen pFile _ _ => Function.update isOpen pFile (code = SQLITE_OK)
  | .xClose pFile => Function.update isOpen pFile false
  | _ => isOpen

structure Event where
  call : Callback
  memory : OutMemory
  code : Int
  failing : Bool

variable (backend) in
/-- A call that SQLite may make returns, and reports what it did. -/
theorem Callback.answers {s : Session σ H} (call : Callback) (owned : Owned s)
    (allowed : call.Allowed s) :
    ∃ code w', (call.program backend).run s.world = (.ok code, w') ∧
      Reported s.world.recorded (call.Cleared s.world) (call.Unsupported backend s.world) code w' ∧
      Owned ⟨w', call.openAfter s.isOpen code⟩ := by
  have settle {program : CallbackM σ H Int} {Blank : World σ H → Prop} {unsupported : Prop}
      (answers : Answers program s.world s.world.recorded Blank unsupported) :
      ∃ code w', program.run s.world = (.ok code, w') ∧
        Reported s.world.recorded Blank unsupported code w' ∧ Owned ⟨w', s.isOpen⟩ := by
    obtain ⟨code, w', run, touches, reported⟩ := answers
    exact ⟨code, w', run, reported, owned.touched touches⟩
  have live {pFile : Nat} (isOpen : s.isOpen pFile = true) :
      ∃ box handle, s.world.Live pFile box handle := by
    obtain ⟨box, handle, path, holds⟩ := owned.held pFile isOpen
    exact ⟨box, handle, holds.live⟩
  cases call with
  | xOpen pFile zName flags =>
      obtain ⟨code, w', run, answered⟩ := xOpen_cases backend s.world pFile zName flags
      have step : FileStep backend s (.xOpen pFile zName flags s.world.outFlags)
          ⟨w', FileCall.openAfter s.isOpen code (.xOpen pFile zName flags s.world.outFlags)⟩ :=
        .intro allowed run
      refine ⟨code, w', run, ?_, owned.step step⟩
      rcases answered with failed | ⟨path, options, opened, succeeded⟩
      · obtain ⟨error, logged, rfl⟩ := failed.recorded
        exact .failed error id failed.failed rfl logged failed.outFlags
      · exact .succeeded id succeeded.ok succeeded.recorded
  | xClose pFile =>
      obtain ⟨box, handle, path, holds⟩ := owned.held pFile allowed
      obtain ⟨code, w', run, closed⟩ := xClose_cases backend holds
      refine ⟨code, w', run, ?_, owned.closing allowed holds closed⟩
      have answered := closed.answered
      split at answered
      · exact .succeeded id answered.1 answered.2
      · rename_i error _
        exact .failed error id
          (answered.1 ▸ VfsErrorCode.asRaw_ne_ok error.constructible) answered.1.symm answered.2
          trivial
  | xDelete zName syncDir => exact settle (xDelete_answers backend zName syncDir)
  | xAccess zName flags => exact settle (xAccess_answers backend zName flags)
  | xFullPathname zName nOut zOut => exact settle (xFullPathname_answers backend zName nOut zOut)
  | xCurrentTime => exact settle (xCurrentTime_answers backend)
  | xCurrentTimeInt64 => exact settle (xCurrentTimeInt64_answers backend)
  | xRead pFile iAmt iOfst =>
      obtain ⟨box, handle, live⟩ := live allowed
      exact settle (xRead_answers backend live iAmt iOfst)
  | xWrite pFile iAmt iOfst =>
      obtain ⟨box, handle, live⟩ := live allowed
      exact settle (xWrite_answers backend live iAmt iOfst)
  | xTruncate pFile size =>
      obtain ⟨box, handle, live⟩ := live allowed
      exact settle (xTruncate_answers backend live size)
  | xSync pFile flags =>
      obtain ⟨box, handle, live⟩ := live allowed
      exact settle (xSync_answers backend live flags)
  | xFileSize pFile =>
      obtain ⟨box, handle, live⟩ := live allowed
      exact settle (xFileSize_answers backend live)
  | xLock pFile eLock =>
      obtain ⟨box, handle, live⟩ := live allowed
      exact settle (xLock_answers backend live eLock)
  | xUnlock pFile eLock =>
      obtain ⟨box, handle, live⟩ := live allowed
      exact settle (xUnlock_answers backend live eLock)
  | xCheckReservedLock pFile =>
      obtain ⟨box, handle, live⟩ := live allowed
      exact settle (xCheckReservedLock_answers backend live)
  | xFileControl pFile op arg =>
      obtain ⟨box, handle, live⟩ := live allowed
      exact settle (xFileControl_answers backend live op arg)

/-! ## The last error -/

theorem backToBoundary_le (message : List UInt8) (start : Nat) :
    ∃ count, backToBoundary message start = some count ∧ count ≤ start := by
  induction start with
  | zero => exact ⟨0, rfl, Nat.le_refl 0⟩
  | succ start ih =>
      unfold backToBoundary
      by_cases boundary : isCharBoundary message (start + 1) = true
      · rw [if_pos boundary]
        exact ⟨start + 1, rfl, Nat.le_refl _⟩
      · rw [if_neg boundary]
        obtain ⟨count, found, below⟩ := ih
        exact ⟨count, found, Nat.le_succ_of_le below⟩

end Callbacks

end SqliteVfs
