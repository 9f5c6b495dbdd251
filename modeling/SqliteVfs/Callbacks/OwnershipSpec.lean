import SqliteVfs.Base.Runs
import SqliteVfs.Callbacks.ReadSpec

/-!
# Who owns the handles of a backend

Every handle that `open_file` returned is in the box of one open file, until `close_file`
gets it back.
-/

set_option autoImplicit false

namespace SqliteVfs

namespace Callbacks

variable {σ H α : Type} {backend : Backend σ H} {w w' w'' : World σ H} {pFile other box : Nat}
  {handle : Handle H} {zName : Option (List UInt8)} {flags : UInt32} {code : Int}

/-! ## Opening -/

/-- The memory of a file that `xOpen` has set up. -/
def SQLiteVfsFile.closed (file : SQLiteVfsFile) : SQLiteVfsFile := { file with methods := false }

def Names (zName : Option (List UInt8)) (path : Option String) : Prop :=
  match zName with
  | none => path = none
  | some bytes => ∃ name, path = some name ∧ toStr bytes = some name

/-- An `xOpen` that failed: no handle is left, and SQLite must not call `xClose`. -/
structure OpenFailed (w : World σ H) (pFile : Nat) (zName : Option (List UInt8)) (flags : UInt32)
    (code : Int) (w' : World σ H) : Prop where
  failed : code ≠ SQLITE_OK
  files : w'.files = Function.update w.files pFile (w.files pFile).closed
  boxes : w'.boxes = w.boxes
  nextBox : w'.nextBox = w.nextBox
  serial : w'.serial = w.serial
  outFlags : w'.outFlags = w.outFlags
  recorded : ∃ error : VfsError, w'.recorded = w.recorded ++ [error] ∧ error.rawCode = code
  calls : w'.calls = w.calls ∨ ∃ path options, Names zName path ∧
    OpenOptions.fromRawFlags flags = .ok options ∧ w'.calls = w.calls ++ [.refused path options]

def actualFlags (flags : UInt32) (access : OpenAccess) : UInt32 :=
  (flags &&& ~~~(SqliteOpen.readonly ||| SqliteOpen.readwrite)) |||
    match access with
    | .readOnly => SqliteOpen.readonly
    | .readWrite => SqliteOpen.readwrite

/-- An `xOpen` that succeeded: the new handle is in a new box, which the file owns. -/
structure OpenSucceeded (backend : Backend σ H) (w : World σ H) (pFile : Nat)
    (zName : Option (List UInt8)) (flags : UInt32) (code : Int) (w' : World σ H)
    (path : Option String) (options : OpenOptions) (opened : OpenedFile H) : Prop where
  ok : code = SQLITE_OK
  named : Names zName path
  valid : OpenOptions.fromRawFlags flags = .ok options
  asked : ∃ filename app, filename.map VfsFilename.path = path ∧
    backend.store.openFile filename options w.app = (.ok opened, app)
  files : w'.files = Function.update w.files pFile
    ⟨true, options, zName, (path.map fun name => (nameBytes name).length).getD 0, some w.nextBox⟩
  boxes : w'.boxes = Function.update w.boxes w.nextBox (some ⟨w.serial, opened.file⟩)
  nextBox : w'.nextBox = w.nextBox + 1
  serial : w'.serial = w.serial + 1
  outFlags : w'.outFlags = w.outFlags.map fun _ => actualFlags flags opened.access
  recorded : w'.recorded = w.recorded
  calls : w'.calls = w.calls ++ [.opened w.serial path options]

theorem refused_open {backend : Backend σ H} {w w₁ : World σ H} {pFile : Nat}
    {zName : Option (List UInt8)} {flags : UInt32} (error : VfsError)
    (files : w₁.files = Function.update w.files pFile (w.files pFile).closed)
    (boxes : w₁.boxes = w.boxes) (nextBox : w₁.nextBox = w.nextBox)
    (serial : w₁.serial = w.serial) (outFlags : w₁.outFlags = w.outFlags)
    (recorded : w₁.recorded = w.recorded)
    (calls : w₁.calls = w.calls ∨ ∃ path options, Names zName path ∧
      OpenOptions.fromRawFlags flags = .ok options ∧
      w₁.calls = w.calls ++ [.refused path options]) :
    ∃ code w', (storeErr error).run w₁ = (.ok code, w') ∧
      (OpenFailed w pFile zName flags code w' ∨ ∃ path options opened,
        OpenSucceeded backend w pFile zName flags code w' path options opened) :=
  ⟨_, _, storeErr_run error, .inl ⟨VfsErrorCode.asRaw_ne_ok error.constructible, files, boxes,
    nextBox, serial, outFlags, ⟨error, congrArg (· ++ [error]) recorded, rfl⟩, calls⟩⟩

theorem asked_open (backend : Backend σ H) (w : World σ H) (pFile : Nat)
    {zName : Option (List UInt8)} {flags : UInt32} {options : OpenOptions}
    (valid : OpenOptions.fromRawFlags flags = .ok options) {path : Option String}
    {filename : Option VfsFilename} (named : Names zName path)
    (same : filename.map VfsFilename.path = path)
    (length : (filename.map fun name => (nameBytes name.path).length).getD 0 =
      (path.map fun name => (nameBytes name).length).getD 0) :
    ∃ code w', (do
        let opened ← openFile backend filename options
        match opened with
        | .error error => storeErr error
        | .ok opened => do
          let handle ← intoRaw opened.file
          Prog.modify fun w =>
            { w with
              files := Function.update w.files pFile
                ⟨true, options, zName,
                  (filename.map fun name => (nameBytes name.path).length).getD 0, some handle⟩ }
          Prog.modify fun w =>
            { w with outFlags := w.outFlags.map fun _ => actualFlags flags opened.access }
          pure SQLITE_OK : CallbackM σ H Int).run
        { w with files := Function.update w.files pFile (w.files pFile).closed } = (.ok code, w') ∧
      (OpenFailed w pFile zName flags code w' ∨ ∃ path options opened,
        OpenSucceeded backend w pFile zName flags code w' path options opened) := by
  rcases answer : backend.store.openFile filename options w.app with ⟨error | opened, app⟩
  · have run : (openFile backend filename options).run
        { w with files := Function.update w.files pFile (w.files pFile).closed } =
        (.ok (.error error),
          { w with
            files := Function.update w.files pFile (w.files pFile).closed
            app
            calls := w.calls ++ [.refused path options] }) := by
      unfold openFile
      dsimp only
      rw [answer, same]
    rw [Prog.bind_ok run]
    exact refused_open _ rfl rfl rfl rfl rfl rfl (.inr ⟨path, options, named, valid, rfl⟩)
  · have run : (openFile backend filename options).run
        { w with files := Function.update w.files pFile (w.files pFile).closed } =
        (.ok (.ok ⟨⟨w.serial, opened.file⟩, opened.access⟩),
          { w with
            files := Function.update w.files pFile (w.files pFile).closed
            app
            serial := w.serial + 1
            calls := w.calls ++ [.opened w.serial path options] }) := by
      unfold openFile
      dsimp only
      rw [answer, same]
    rw [Prog.bind_ok run]
    refine ⟨_, _, rfl, .inr ⟨path, options, opened, ?_⟩⟩
    exact {
      ok := rfl
      named := named
      valid := valid
      asked := ⟨filename, app, same, answer⟩
      files := by
        change Function.update (Function.update w.files pFile (w.files pFile).closed) pFile _ = _
        rw [Function.update_idem, length]
      boxes := rfl
      nextBox := rfl
      serial := rfl
      outFlags := rfl
      recorded := rfl
      calls := rfl }

theorem xOpen_cases (backend : Backend σ H) (w : World σ H) (pFile : Nat)
    (zName : Option (List UInt8)) (flags : UInt32) :
    ∃ code w', (xOpen backend zName pFile flags).run w = (.ok code, w') ∧
      (OpenFailed w pFile zName flags code w' ∨ ∃ path options opened,
        OpenSucceeded backend w pFile zName flags code w' path options opened) := by
  unfold xOpen readFile writeFile
  rw [Prog.bind_assoc, Prog.get_bind, Prog.pure_bind, Prog.modify_bind]
  rcases valid : OpenOptions.fromRawFlags flags with error | options
  · exact refused_open _ rfl rfl rfl rfl rfl rfl (.inl rfl)
  dsimp only
  rcases zName with _ | bytes
  · exact asked_open backend w pFile valid rfl rfl rfl
  rcases read : toStr bytes with _ | name
  · rw [Option.map_some, read]
    exact refused_open _ rfl rfl rfl rfl rfl rfl (.inl rfl)
  · rw [Option.map_some, read]
    exact asked_open backend w pFile valid ⟨name, rfl, read⟩ rfl rfl

/-! ## Closing -/

structure Holds (w : World σ H) (pFile box : Nat) (handle : Handle H) (path : Option String) :
    Prop where
  live : w.Live pFile box handle
  named : Names (w.files pFile).name path
  length : (w.files pFile).nameLength = (path.map fun name => (nameBytes name).length).getD 0
  logged : .opened handle.serial path (w.files pFile).options ∈ w.calls

theorem givenName_run {file : SQLiteVfsFile} {path : Option String}
    (named : Names file.name path)
    (length : file.nameLength = (path.map fun name => (nameBytes name).length).getD 0) :
    (file.givenName : CallbackM σ H (Option String)).run w = (.ok path, w) := by
  unfold SQLiteVfsFile.givenName
  rcases pointer : file.name with _ | bytes
  · rw [pointer] at named
    obtain rfl : path = none := named
    rfl
  · rw [pointer] at named
    obtain ⟨name, rfl, read⟩ := named
    have whole : bytes.take file.nameLength = bytes := by
      rw [length, ← nameBytes_of_fromUTF8? read]
      exact List.take_length
    dsimp only
    rw [whole, read]
    rfl

structure Closed (backend : Backend σ H) (w : World σ H) (pFile box : Nat) (handle : Handle H)
    (path : Option String) (code : Int) (w' : World σ H) : Prop where
  answered : match (backend.store.closeFile path handle.value (w.files pFile).options w.app).1 with
    | .ok () => code = SQLITE_OK ∧ w'.recorded = w.recorded
    | .error error => code = error.rawCode ∧ w'.recorded = w.recorded ++ [error]
  files : w'.files = Function.update w.files pFile
    ⟨false, (w.files pFile).options, none, 0, none⟩
  boxes : w'.boxes = Function.update w.boxes box none
  nextBox : w'.nextBox = w.nextBox
  serial : w'.serial = w.serial
  calls : w'.calls = w.calls ++ [.closed handle.serial path (w.files pFile).options]

theorem xClose_cases {path : Option String} (backend : Backend σ H)
    (holds : Holds w pFile box handle path) :
    ∃ code w', (xClose backend pFile).run w = (.ok code, w') ∧
      Closed backend w pFile box handle path code w' := by
  have taken : (fromRaw (w.files pFile).handle : CallbackM σ H (Handle H)).run w =
      (.ok handle, { w with boxes := Function.update w.boxes box none }) := by
    unfold fromRaw
    rw [holds.live.pointer]
    dsimp only
    rw [holds.live.boxed]
  unfold xClose readFile writeFile
  rw [Prog.bind_assoc, Prog.get_bind, Prog.pure_bind, Prog.bind_ok taken,
    Prog.bind_ok (givenName_run holds.named holds.length), Prog.modify_bind]
  set answer := backend.store.closeFile path handle.value
    (w.files pFile).options w.app with answered
  have run : (closeFile backend path handle (w.files pFile).options).run
      { w with
        boxes := Function.update w.boxes box none
        files := Function.update w.files pFile
          ⟨false, (w.files pFile).options, none, 0, none⟩ } =
      (.ok answer.1,
        { w with
          boxes := Function.update w.boxes box none
          files := Function.update w.files pFile
            ⟨false, (w.files pFile).options, none, 0, none⟩
          app := answer.2
          calls := w.calls ++ [.closed handle.serial path (w.files pFile).options] }) := rfl
  rw [Prog.bind_ok run]
  rcases result : answer.1 with error | _
  · refine ⟨_, _, storeErr_run error, ?_, rfl, rfl, rfl, rfl, rfl⟩
    rw [← answered, result]
    exact ⟨rfl, rfl⟩
  · refine ⟨_, _, rfl, ?_, rfl, rfl, rfl, rfl, rfl⟩
    rw [← answered, result]
    exact ⟨rfl, rfl⟩

/-! ## Sessions -/

/-- The files that SQLite holds open: an `xOpen` succeeded, and no `xClose` came after it. -/
structure Session (σ H : Type) where
  world : World σ H
  isOpen : Nat → Bool

def Session.start (app : σ) : Session σ H := ⟨World.start app, fun _ => false⟩

inductive FileCall where
  | xOpen (pFile : Nat) (zName : Option (List UInt8)) (flags : UInt32) (outFlags : Option UInt32)
  | xClose (pFile : Nat)
  /-- SQLite uses the memory of a file that is not open. -/
  | reuse (pFile : Nat) (file : SQLiteVfsFile)

def FileCall.Allowed (s : Session σ H) : FileCall → Prop
  | .xOpen pFile _ _ _ => s.isOpen pFile = false
  | .xClose pFile => (s.world.files pFile).methods = true
  | .reuse pFile file => s.isOpen pFile = false ∧ file.methods = false

def FileCall.run (backend : Backend σ H) (w : World σ H) : FileCall → Outcome Empty Int × World σ H
  | .xOpen pFile zName flags outFlags =>
    (Callbacks.xOpen backend zName pFile flags).run { w with outFlags }
  | .xClose pFile => (Callbacks.xClose backend pFile).run w
  | .reuse pFile file => (.ok SQLITE_OK, { w with files := Function.update w.files pFile file })

def FileCall.openAfter (isOpen : Nat → Bool) (code : Int) : FileCall → Nat → Bool
  | .xOpen pFile _ _ _ => Function.update isOpen pFile (code = SQLITE_OK)
  | .xClose pFile => Function.update isOpen pFile false
  | .reuse _ _ => isOpen

inductive FileStep (backend : Backend σ H) (s : Session σ H) (call : FileCall) :
    Session σ H → Prop
  | intro {code : Int} {w' : World σ H} : call.Allowed s →
      call.run backend s.world = (.ok code, w') →
      FileStep backend s call ⟨w', call.openAfter s.isOpen code⟩

def BackendCall.opens (serial : Nat) : BackendCall → Bool
  | .opened serial' _ _ => serial' = serial
  | _ => false

def BackendCall.closes (serial : Nat) : BackendCall → Bool
  | .closed serial' _ _ => serial' = serial
  | _ => false

def BackendCall.Asks (options : OpenOptions) : BackendCall → Prop
  | .opened _ _ options' => options' = options
  | .refused _ options' => options' = options
  | .closed _ _ _ => False

def Session.Owns (s : Session σ H) (pFile serial : Nat) : Prop :=
  s.isOpen pFile = true ∧ ∃ box handle path, Holds s.world pFile box handle path ∧
    handle.serial = serial

/-- Every handle is in the box of one open file, or was closed once. -/
structure Owned (s : Session σ H) : Prop where
  methods : ∀ p, (s.world.files p).methods = s.isOpen p
  held : ∀ p, s.isOpen p = true → ∃ box handle path, Holds s.world p box handle path
  apart : ∀ p q box, s.isOpen p = true → s.isOpen q = true →
    (s.world.files p).handle = some box → (s.world.files q).handle = some box → p = q
  kept : ∀ box handle, s.world.boxes box = some handle →
    ∃ p, s.isOpen p = true ∧ (s.world.files p).handle = some box
  freshBox : ∀ box, s.world.nextBox ≤ box → s.world.boxes box = none
  serials : ∀ box box' handle handle', s.world.boxes box = some handle →
    s.world.boxes box' = some handle' → handle.serial = handle'.serial → box = box'
  opened : ∀ serial, s.world.calls.countP (BackendCall.opens serial) =
    if serial < s.world.serial then 1 else 0
  unclosed : ∀ box handle, s.world.boxes box = some handle →
    s.world.calls.countP (BackendCall.closes handle.serial) = 0
  closed : ∀ serial, serial < s.world.serial →
    (∀ box handle, s.world.boxes box = some handle → handle.serial ≠ serial) →
    s.world.calls.countP (BackendCall.closes serial) = 1
  matched : ∀ serial path options, .closed serial path options ∈ s.world.calls →
    .opened serial path options ∈ s.world.calls
  valid : ∀ call ∈ s.world.calls, ∀ options, call.Asks options →
    OpenOptions.fromRawFlags options.rawFlags = .ok options

theorem Holds.frame {path : Option String} (holds : Holds w pFile box handle path)
    (files : w'.files pFile = w.files pFile) (boxes : w'.boxes box = w.boxes box)
    (calls : w.calls ⊆ w'.calls) : Holds w' pFile box handle path where
  live := ⟨by rw [files]; exact holds.live.pointer, by rw [boxes]; exact holds.live.boxed⟩
  named := by rw [files]; exact holds.named
  length := by rw [files]; exact holds.length
  logged := by rw [files]; exact calls holds.logged

namespace Owned

variable {s : Session σ H} {path : Option String} {options : OpenOptions} {opened : OpenedFile H}

theorem start (app : σ) : Owned (Session.start app : Session σ H) where
  methods _ := rfl
  held _ isOpen := nomatch isOpen
  apart _ _ _ isOpen := nomatch isOpen
  kept _ _ boxed := nomatch boxed
  freshBox _ _ := rfl
  serials _ _ _ _ boxed := nomatch boxed
  opened _ := rfl
  unclosed _ _ boxed := nomatch boxed
  closed _ below := absurd below (Nat.not_lt_zero _)
  matched _ _ _ logged := nomatch logged
  valid _ logged := nomatch logged

theorem serial_lt (owned : Owned s) (boxed : s.world.boxes box = some handle) :
    handle.serial < s.world.serial := by
  obtain ⟨p, isOpen, pointer⟩ := owned.kept box handle boxed
  obtain ⟨box', handle', path, holds⟩ := owned.held p isOpen
  obtain rfl := Option.some.inj (pointer.symm.trans holds.live.pointer)
  obtain rfl := Option.some.inj (boxed.symm.trans holds.live.boxed)
  have once := owned.opened handle.serial
  by_contra beyond
  rw [if_neg beyond, List.countP_eq_zero] at once
  exact once _ holds.logged (by simp [BackendCall.opens])

theorem unborn (owned : Owned s) {serial : Nat} (beyond : s.world.serial ≤ serial) :
    s.world.calls.countP (BackendCall.closes serial) = 0 := by
  have none := owned.opened serial
  rw [if_neg (by omega), List.countP_eq_zero] at none
  rw [List.countP_eq_zero]
  intro call logged closes
  cases call with
  | opened _ _ _ => exact nomatch closes
  | refused _ _ => exact nomatch closes
  | closed serial' path options =>
      have := none _ (owned.matched serial' path options logged)
      exact this closes

theorem fromRawFlags_rawFlags {flags : UInt32}
    (valid : OpenOptions.fromRawFlags flags = .ok options) :
    OpenOptions.fromRawFlags options.rawFlags = .ok options := by
  have same : options = ⟨flags⟩ := by
    unfold OpenOptions.fromRawFlags at valid
    dsimp only at valid
    split at valid
    · exact nomatch valid
    · exact (Except.ok.inj valid).symm
  rw [same]
  rw [same] at valid
  exact valid

theorem reused (owned : Owned s) (notOpen : s.isOpen pFile = false) {file : SQLiteVfsFile}
    (methods : file.methods = false) (files : w'.files = Function.update s.world.files pFile file)
    (boxes : w'.boxes = s.world.boxes) (nextBox : w'.nextBox = s.world.nextBox)
    (serial : w'.serial = s.world.serial)
    (opens : ∀ serial, w'.calls.countP (BackendCall.opens serial) =
      s.world.calls.countP (BackendCall.opens serial))
    (closes : ∀ serial, w'.calls.countP (BackendCall.closes serial) =
      s.world.calls.countP (BackendCall.closes serial))
    (kept : s.world.calls ⊆ w'.calls)
    (matched : ∀ serial path options, .closed serial path options ∈ w'.calls →
      .closed serial path options ∈ s.world.calls)
    (valid : ∀ call ∈ w'.calls, ∀ options, call.Asks options →
      OpenOptions.fromRawFlags options.rawFlags = .ok options) :
    Owned ⟨w', s.isOpen⟩ := by
  have other {p : Nat} (isOpen : s.isOpen p = true) : w'.files p = s.world.files p := by
    have different : p ≠ pFile := by
      rintro rfl
      exact nomatch notOpen.symm.trans isOpen
    rw [files, Function.update_of_ne different]
  exact {
    methods := fun p => by
      change (w'.files p).methods = _
      by_cases same : p = pFile
      · subst same
        rw [files, Function.update_self, methods, notOpen]
      · rw [files, Function.update_of_ne same]
        exact owned.methods p
    held := fun p isOpen => by
      obtain ⟨box, handle, path, holds⟩ := owned.held p isOpen
      exact ⟨box, handle, path, holds.frame (other isOpen) (congrFun boxes box) kept⟩
    apart := fun p q box isOpen isOpen' pointer pointer' => by
      have pointed : (w'.files p).handle = some box := pointer
      have pointed' : (w'.files q).handle = some box := pointer'
      rw [other isOpen] at pointed
      rw [other isOpen'] at pointed'
      exact owned.apart p q box isOpen isOpen' pointed pointed'
    kept := fun box handle boxed => by
      have before : s.world.boxes box = some handle := by
        rw [← boxes]
        exact boxed
      obtain ⟨p, isOpen, pointer⟩ := owned.kept box handle before
      refine ⟨p, isOpen, ?_⟩
      change (w'.files p).handle = some box
      rw [other isOpen]
      exact pointer
    freshBox := fun box beyond => by
      change w'.boxes box = none
      rw [boxes]
      exact owned.freshBox box (nextBox ▸ beyond)
    serials := fun box box' handle handle' boxed boxed' => by
      have before : s.world.boxes box = some handle := boxes ▸ boxed
      have before' : s.world.boxes box' = some handle' := boxes ▸ boxed'
      exact owned.serials box box' handle handle' before before'
    opened := fun number => by
      change w'.calls.countP _ = if number < w'.serial then 1 else 0
      rw [opens, serial]
      exact owned.opened number
    unclosed := fun box handle boxed => by
      have before : s.world.boxes box = some handle := boxes ▸ boxed
      exact (closes _).trans (owned.unclosed box handle before)
    closed := fun number below unboxed => by
      refine (closes _).trans (owned.closed number (serial ▸ below) fun box handle boxed => ?_)
      exact unboxed box handle (by rw [boxes]; exact boxed)
    matched := fun number path options logged =>
      kept (owned.matched number path options (matched number path options logged))
    valid := valid }

/-- An `xOpen` that fails leaves no handle. -/
theorem failing {zName : Option (List UInt8)} {flags : UInt32} {outFlags : Option UInt32}
    (owned : Owned s) (notOpen : s.isOpen pFile = false)
    (failed : OpenFailed { s.world with outFlags } pFile zName flags code w') :
    Owned ⟨w', s.isOpen⟩ := by
  rcases failed.calls with same | ⟨path, options, named, valid, logged⟩
  · have calls : w'.calls = s.world.calls := same
    refine owned.reused notOpen rfl failed.files failed.boxes failed.nextBox failed.serial
      (fun _ => by rw [calls]) (fun _ => by rw [calls]) (by rw [calls]; exact List.Subset.refl _)
      (fun _ _ _ logged => by rw [← calls]; exact logged) fun call logged => ?_
    rw [calls] at logged
    exact owned.valid call logged
  · have calls : w'.calls = s.world.calls ++ [.refused path options] := logged
    refine owned.reused notOpen rfl failed.files failed.boxes failed.nextBox failed.serial
      (fun _ => ?_) (fun _ => ?_) ?_ (fun serial path options logged => ?_)
      fun call logged options' asks => ?_
    · rw [calls, List.countP_append]
      rfl
    · rw [calls, List.countP_append]
      rfl
    · rw [calls]
      exact List.subset_append_left _ _
    · rw [calls, List.mem_append, List.mem_singleton] at logged
      exact logged.resolve_right nofun
    · rw [calls, List.mem_append, List.mem_singleton] at logged
      rcases logged with before | rfl
      · exact owned.valid call before options' asks
      · obtain rfl : options = options' := asks
        exact fromRawFlags_rawFlags valid

/-- The handle of an `xOpen` that succeeds is in a new box, which only its file owns. -/
theorem opening {zName : Option (List UInt8)} {flags : UInt32} {outFlags : Option UInt32}
    (owned : Owned s) (notOpen : s.isOpen pFile = false)
    (succeeded : OpenSucceeded backend { s.world with outFlags } pFile zName flags code w' path
      options opened) :
    Owned ⟨w', Function.update s.isOpen pFile true⟩ := by
  have files : w'.files = Function.update s.world.files pFile
    ⟨true, options, zName, (path.map fun name => (nameBytes name).length).getD 0,
      some s.world.nextBox⟩ := succeeded.files
  have boxes : w'.boxes = Function.update s.world.boxes s.world.nextBox
    (some ⟨s.world.serial, opened.file⟩) := succeeded.boxes
  have calls : w'.calls = s.world.calls ++ [.opened s.world.serial path options] := succeeded.calls
  have nextBox : w'.nextBox = s.world.nextBox + 1 := succeeded.nextBox
  have serial : w'.serial = s.world.serial + 1 := succeeded.serial
  have logged : s.world.calls ⊆ w'.calls := by
    rw [calls]
    exact List.subset_append_left _ _
  have mine : w'.files pFile = ⟨true, options, zName,
      (path.map fun name => (nameBytes name).length).getD 0, some s.world.nextBox⟩ := by
    rw [files, Function.update_self]
  have other {p : Nat} (different : p ≠ pFile) : w'.files p = s.world.files p := by
    rw [files, Function.update_of_ne different]
  have older {box : Nat} {handle : Handle H} (boxed : s.world.boxes box = some handle) :
      w'.boxes box = some handle := by
    have different : box ≠ s.world.nextBox := by
      rintro rfl
      exact nomatch (owned.freshBox _ (Nat.le_refl _)).symm.trans boxed
    rw [boxes, Function.update_of_ne different]
    exact boxed
  have within {box : Nat} {handle : Handle H} (boxed : w'.boxes box = some handle) :
      (box = s.world.nextBox ∧ handle = ⟨s.world.serial, opened.file⟩) ∨
        s.world.boxes box = some handle := by
    by_cases same : box = s.world.nextBox
    · rw [boxes, same, Function.update_self] at boxed
      exact .inl ⟨same, (Option.some.inj boxed).symm⟩
    · rw [boxes, Function.update_of_ne same] at boxed
      exact .inr boxed
  have stillOpen {p : Nat} (different : p ≠ pFile)
      (isOpen : Function.update s.isOpen pFile true p = true) : s.isOpen p = true := by
    rw [Function.update_of_ne different] at isOpen
    exact isOpen
  exact {
    methods := fun p => by
      change (w'.files p).methods = Function.update s.isOpen pFile true p
      by_cases same : p = pFile
      · rw [same, mine, Function.update_self]
      · rw [other same, Function.update_of_ne same]
        exact owned.methods p
    held := fun p isOpen => by
      by_cases same : p = pFile
      · subst same
        refine ⟨s.world.nextBox, ⟨s.world.serial, opened.file⟩, path, ?_⟩
        refine ⟨⟨by rw [mine], by rw [boxes, Function.update_self]⟩, ?_, by rw [mine], ?_⟩
        · rw [mine]
          exact succeeded.named
        · rw [mine, calls]
          exact List.mem_append_right _ (List.mem_singleton.mpr rfl)
      · obtain ⟨box, handle, path', holds⟩ := owned.held p (stillOpen same isOpen)
        refine ⟨box, handle, path', holds.frame (other same) ?_ logged⟩
        rw [older holds.live.boxed, holds.live.boxed]
    apart := fun p q box isOpen isOpen' pointer pointer' => by
      have pointed : (w'.files p).handle = some box := pointer
      have pointed' : (w'.files q).handle = some box := pointer'
      have elsewhere {r : Nat} (different : r ≠ pFile)
          (isOpen : Function.update s.isOpen pFile true r = true) :
          (w'.files r).handle ≠ some s.world.nextBox := by
        intro new
        rw [other different] at new
        obtain ⟨box', handle', path', holds⟩ := owned.held r (stillOpen different isOpen)
        obtain rfl := Option.some.inj (holds.live.pointer.symm.trans new)
        exact nomatch (owned.freshBox _ (Nat.le_refl _)).symm.trans holds.live.boxed
      by_cases same : p = pFile
      · by_cases same' : q = pFile
        · exact same.trans same'.symm
        · rw [same, mine] at pointed
          obtain rfl := Option.some.inj pointed
          exact absurd pointed' (elsewhere same' isOpen')
      · by_cases same' : q = pFile
        · rw [same', mine] at pointed'
          obtain rfl := Option.some.inj pointed'
          exact absurd pointed (elsewhere same isOpen)
        · rw [other same] at pointed
          rw [other same'] at pointed'
          exact owned.apart p q box (stillOpen same isOpen) (stillOpen same' isOpen') pointed
            pointed'
    kept := fun box handle boxed => by
      rcases within boxed with ⟨rfl, -⟩ | before
      · refine ⟨pFile, Function.update_self .., ?_⟩
        change (w'.files pFile).handle = _
        rw [mine]
      · obtain ⟨p, isOpen, pointer⟩ := owned.kept box handle before
        have different : p ≠ pFile := by
          rintro rfl
          exact nomatch notOpen.symm.trans isOpen
        refine ⟨p, ?_, ?_⟩
        · change Function.update s.isOpen pFile true p = true
          rw [Function.update_of_ne different]
          exact isOpen
        · change (w'.files p).handle = some box
          rw [other different]
          exact pointer
    freshBox := fun box beyond => by
      change w'.boxes box = none
      have above : s.world.nextBox + 1 ≤ box := nextBox ▸ beyond
      rw [boxes, Function.update_of_ne (by omega)]
      exact owned.freshBox box (by omega)
    serials := fun box box' handle handle' boxed boxed' same => by
      rcases within boxed with ⟨rfl, rfl⟩ | before
      · rcases within boxed' with ⟨rfl, -⟩ | before'
        · rfl
        · exact absurd same (owned.serial_lt before').ne'
      · rcases within boxed' with ⟨rfl, rfl⟩ | before'
        · exact absurd same (owned.serial_lt before).ne
        · exact owned.serials box box' handle handle' before before' same
    opened := fun number => by
      change w'.calls.countP _ = if number < w'.serial then 1 else 0
      rw [calls, List.countP_append, owned.opened number, serial, List.countP_singleton]
      change (if number < s.world.serial then 1 else 0) +
        (if decide (s.world.serial = number) = true then 1 else 0) = _
      simp only [decide_eq_true_eq]
      split_ifs <;> omega
    unclosed := fun box handle boxed => by
      change w'.calls.countP _ = 0
      rw [calls, List.countP_append]
      rcases within boxed with ⟨-, rfl⟩ | before
      · exact owned.unborn (Nat.le_refl _)
      · exact owned.unclosed box handle before
    closed := fun number below unboxed => by
      change w'.calls.countP _ = 1
      have under : number < s.world.serial + 1 := serial ▸ below
      have different : number ≠ s.world.serial := by
        rintro rfl
        refine unboxed s.world.nextBox ⟨s.world.serial, opened.file⟩ ?_ rfl
        change w'.boxes _ = _
        rw [boxes, Function.update_self]
      rw [calls, List.countP_append]
      exact owned.closed number (by omega) fun box handle boxed => unboxed box handle (older boxed)
    matched := fun number path' options' closes => by
      change _ ∈ w'.calls at closes
      rw [calls, List.mem_append, List.mem_singleton] at closes
      exact logged (owned.matched number path' options' (closes.resolve_right nofun))
    valid := fun call called options' asks => by
      change call ∈ w'.calls at called
      rw [calls, List.mem_append, List.mem_singleton] at called
      rcases called with before | rfl
      · exact owned.valid call before options' asks
      · obtain rfl : options = options' := asks
        exact fromRawFlags_rawFlags succeeded.valid }

theorem closing (owned : Owned s) (isOpen : s.isOpen pFile = true)
    (holds : Holds s.world pFile box handle path)
    (done : Closed backend s.world pFile box handle path code w') :
    Owned ⟨w', Function.update s.isOpen pFile false⟩ := by
  have logged : s.world.calls ⊆ w'.calls := by
    rw [done.calls]
    exact List.subset_append_left _ _
  have mine : w'.files pFile = ⟨false, (s.world.files pFile).options, none, 0, none⟩ := by
    rw [done.files, Function.update_self]
  have other {p : Nat} (different : p ≠ pFile) : w'.files p = s.world.files p := by
    rw [done.files, Function.update_of_ne different]
  have within {box' : Nat} {handle' : Handle H} (boxed : w'.boxes box' = some handle') :
      box' ≠ box ∧ s.world.boxes box' = some handle' := by
    rw [done.boxes] at boxed
    by_cases same : box' = box
    · rw [same, Function.update_self] at boxed
      exact nomatch boxed
    · rw [Function.update_of_ne same] at boxed
      exact ⟨same, boxed⟩
  have still {p : Nat} (open' : Function.update s.isOpen pFile false p = true) :
      p ≠ pFile ∧ s.isOpen p = true := by
    by_cases same : p = pFile
    · rw [same, Function.update_self] at open'
      exact nomatch open'
    · rw [Function.update_of_ne same] at open'
      exact ⟨same, open'⟩
  exact {
    methods := fun p => by
      change (w'.files p).methods = Function.update s.isOpen pFile false p
      by_cases same : p = pFile
      · rw [same, mine, Function.update_self]
      · rw [other same, Function.update_of_ne same]
        exact owned.methods p
    held := fun p open' => by
      obtain ⟨different, before⟩ := still open'
      obtain ⟨box', handle', path', holds'⟩ := owned.held p before
      have apart : box' ≠ box := by
        rintro rfl
        exact different (owned.apart p pFile box' before isOpen holds'.live.pointer
          holds.live.pointer)
      refine ⟨box', handle', path', holds'.frame (other different) ?_ logged⟩
      rw [done.boxes, Function.update_of_ne apart]
    apart := fun p q box' open' open'' pointer pointer' => by
      obtain ⟨different, before⟩ := still open'
      obtain ⟨different', before'⟩ := still open''
      have pointed : (w'.files p).handle = some box' := pointer
      have pointed' : (w'.files q).handle = some box' := pointer'
      rw [other different] at pointed
      rw [other different'] at pointed'
      exact owned.apart p q box' before before' pointed pointed'
    kept := fun box' handle' boxed => by
      obtain ⟨apart, before⟩ := within boxed
      obtain ⟨p, open', pointer⟩ := owned.kept box' handle' before
      have different : p ≠ pFile := by
        rintro rfl
        exact apart (Option.some.inj (pointer.symm.trans holds.live.pointer))
      refine ⟨p, ?_, ?_⟩
      · change Function.update s.isOpen pFile false p = true
        rw [Function.update_of_ne different]
        exact open'
      · change (w'.files p).handle = some box'
        rw [other different]
        exact pointer
    freshBox := fun box' beyond => by
      change w'.boxes box' = none
      rw [done.boxes]
      by_cases same : box' = box
      · rw [same, Function.update_self]
      · rw [Function.update_of_ne same]
        exact owned.freshBox box' (done.nextBox ▸ beyond)
    serials := fun first second handle' handle'' boxed boxed' =>
      owned.serials first second handle' handle'' (within boxed).2 (within boxed').2
    opened := fun number => by
      change w'.calls.countP _ = if number < w'.serial then 1 else 0
      rw [done.calls, List.countP_append, done.serial]
      exact owned.opened number
    unclosed := fun box' handle' boxed => by
      obtain ⟨apart, before⟩ := within boxed
      have different : handle.serial ≠ handle'.serial := fun same =>
        apart (owned.serials box' box handle' handle before holds.live.boxed same.symm)
      change w'.calls.countP _ = 0
      rw [done.calls, List.countP_append, owned.unclosed box' handle' before, Nat.zero_add,
        List.countP_singleton]
      exact if_neg fun closes => different (of_decide_eq_true closes)
    closed := fun number below unboxed => by
      change w'.calls.countP _ = 1
      have under : number < s.world.serial := done.serial ▸ below
      rw [done.calls, List.countP_append, List.countP_singleton]
      change _ + (if decide (handle.serial = number) = true then 1 else 0) = 1
      by_cases same : handle.serial = number
      · rw [← same, owned.unclosed box handle holds.live.boxed, decide_eq_true rfl, if_pos rfl]
      · rw [decide_eq_false same, if_neg Bool.false_ne_true]
        refine owned.closed number under fun box' handle' boxed => ?_
        by_cases freed : box' = box
        · rw [freed, holds.live.boxed] at boxed
          obtain rfl := Option.some.inj boxed
          exact same
        · refine unboxed box' handle' ?_
          change w'.boxes box' = _
          rw [done.boxes, Function.update_of_ne freed]
          exact boxed
    matched := fun number path' options' closes => by
      change _ ∈ w'.calls at closes
      rw [done.calls, List.mem_append, List.mem_singleton] at closes
      rcases closes with before | now
      · exact logged (owned.matched number path' options' before)
      · injection now with number' path'' options''
        rw [number', path'', options'']
        exact logged holds.logged
    valid := fun call called options' asks => by
      change call ∈ w'.calls at called
      rw [done.calls, List.mem_append, List.mem_singleton] at called
      rcases called with before | rfl
      · exact owned.valid call before options' asks
      · exact asks.elim }

end Owned

def FileCall.Answered (backend : Backend σ H) (s : Session σ H) (code : Int) (w' : World σ H) :
    FileCall → Prop
  | .xOpen pFile zName flags outFlags =>
    OpenFailed { s.world with outFlags } pFile zName flags code w' ∨
      ∃ path options opened, OpenSucceeded backend { s.world with outFlags } pFile zName flags code
        w' path options opened
  | .xClose pFile => ∃ box handle path, Holds s.world pFile box handle path ∧
      Closed backend s.world pFile box handle path code w'
  | .reuse pFile file => code = SQLITE_OK ∧
      w' = { s.world with files := Function.update s.world.files pFile file }

variable (backend) in
theorem Owned.answers {s : Session σ H} {call : FileCall} (owned : Owned s)
    (allowed : call.Allowed s) :
    ∃ code w', call.run backend s.world = (.ok code, w') ∧ call.Answered backend s code w' := by
  cases call with
  | xOpen pFile zName flags outFlags =>
      exact xOpen_cases backend { s.world with outFlags } pFile zName flags
  | xClose pFile =>
      have isOpen : s.isOpen pFile = true := (owned.methods pFile).symm.trans allowed
      obtain ⟨box, handle, path, holds⟩ := owned.held pFile isOpen
      obtain ⟨code, w', run, done⟩ := xClose_cases backend holds
      exact ⟨code, w', run, box, handle, path, holds, done⟩
  | reuse pFile file => exact ⟨_, _, rfl, rfl, rfl⟩

theorem Owned.step {s s' : Session σ H} {call : FileCall} (owned : Owned s)
    (step : FileStep backend s call s') : Owned s' := by
  cases step with
  | @intro code w' allowed run =>
  obtain ⟨code', w'', run', answered⟩ := owned.answers backend allowed
  obtain ⟨same, rfl⟩ := Prod.mk.inj (run.symm.trans run')
  obtain rfl := Outcome.ok.inj same
  cases call with
  | xOpen pFile zName flags outFlags =>
      have notOpen : s.isOpen pFile = false := allowed
      rcases answered with failed | ⟨path, options, opened, succeeded⟩
      · have after : FileCall.openAfter s.isOpen code (.xOpen pFile zName flags outFlags) =
            s.isOpen := by
          change Function.update s.isOpen pFile (decide (code = SQLITE_OK)) = s.isOpen
          rw [decide_eq_false failed.failed, ← notOpen, Function.update_eq_self]
        rw [after]
        exact owned.failing notOpen failed
      · have after : FileCall.openAfter s.isOpen code (.xOpen pFile zName flags outFlags) =
            Function.update s.isOpen pFile true := by
          change Function.update s.isOpen pFile (decide (code = SQLITE_OK)) = _
          rw [decide_eq_true succeeded.ok]
        rw [after]
        exact owned.opening notOpen succeeded
  | xClose pFile =>
      have isOpen : s.isOpen pFile = true := (owned.methods pFile).symm.trans allowed
      obtain ⟨box, handle, path, holds, done⟩ := answered
      exact owned.closing isOpen holds done
  | reuse pFile file =>
      obtain ⟨-, rfl⟩ := answered
      exact owned.reused allowed.1 allowed.2 rfl rfl rfl rfl (fun _ => rfl) (fun _ => rfl)
        (List.Subset.refl _) (fun _ _ _ logged => logged) owned.valid

/-- Backend handles are owned linearly: each one is held by one open file, or was closed
once with the name and options of its own open. -/
structure LinearOwnership (s : Session σ H) : Prop where
  /-- `pMethods` is not null between a successful `xOpen` and its `xClose`. -/
  methods : ∀ pFile, (s.world.files pFile).methods = s.isOpen pFile
  openedOnce : ∀ serial, s.world.calls.countP (BackendCall.opens serial) =
    if serial < s.world.serial then 1 else 0
  held : ∀ serial, serial < s.world.serial →
    (∃! pFile, s.Owns pFile serial) ∧ s.world.calls.countP (BackendCall.closes serial) = 0 ∨
    (∀ box handle, s.world.boxes box = some handle → handle.serial ≠ serial) ∧
      s.world.calls.countP (BackendCall.closes serial) = 1
  /-- An open file has the handle that its own open returned, with its name and options. -/
  owns : ∀ pFile, s.isOpen pFile = true → ∃ serial, s.Owns pFile serial
  unleaked : ∀ box handle, s.world.boxes box = some handle → ∃ pFile, s.isOpen pFile = true ∧
    s.world.Live pFile box handle
  matched : ∀ serial path options, .closed serial path options ∈ s.world.calls →
    .opened serial path options ∈ s.world.calls
  valid : ∀ call ∈ s.world.calls, ∀ options, call.Asks options →
    OpenOptions.fromRawFlags options.rawFlags = .ok options

theorem Owned.linear {s : Session σ H} (owned : Owned s) : LinearOwnership s where
  methods := owned.methods
  openedOnce := owned.opened
  held serial below := by
    by_cases boxed : ∃ box handle, s.world.boxes box = some handle ∧ handle.serial = serial
    · obtain ⟨box, handle, boxed, rfl⟩ := boxed
      obtain ⟨p, isOpen, pointer⟩ := owned.kept box handle boxed
      obtain ⟨box', handle', path, holds⟩ := owned.held p isOpen
      obtain rfl := Option.some.inj (pointer.symm.trans holds.live.pointer)
      obtain rfl := Option.some.inj (boxed.symm.trans holds.live.boxed)
      refine .inl ⟨⟨p, ⟨isOpen, box, handle, path, holds, rfl⟩, ?_⟩,
        owned.unclosed box handle boxed⟩
      rintro q ⟨isOpen', box', handle', path', holds', same⟩
      obtain rfl := owned.serials box' box handle' handle holds'.live.boxed boxed same
      exact owned.apart q p box' isOpen' isOpen holds'.live.pointer pointer
    · have unboxed : ∀ box handle, s.world.boxes box = some handle → handle.serial ≠ serial :=
        fun box handle held same => boxed ⟨box, handle, held, same⟩
      exact .inr ⟨unboxed, owned.closed serial below unboxed⟩
  owns pFile isOpen := by
    obtain ⟨box, handle, path, holds⟩ := owned.held pFile isOpen
    exact ⟨handle.serial, isOpen, box, handle, path, holds, rfl⟩
  unleaked box handle boxed := by
    obtain ⟨p, isOpen, pointer⟩ := owned.kept box handle boxed
    exact ⟨p, isOpen, pointer, boxed⟩
  matched := owned.matched
  valid := owned.valid

/-! ## Out flags -/

def accessFlag : OpenAccess → UInt32
  | .readOnly => SqliteOpen.readonly
  | .readWrite => SqliteOpen.readwrite

/-- The flags that come back are those of the request, with the backend's access mode. -/
theorem actualFlags_bits (flags : UInt32) (access : OpenAccess) :
    actualFlags flags access &&& ~~~(SqliteOpen.readonly ||| SqliteOpen.readwrite) =
        flags &&& ~~~(SqliteOpen.readonly ||| SqliteOpen.readwrite) ∧
      actualFlags flags access &&& (SqliteOpen.readonly ||| SqliteOpen.readwrite) =
        accessFlag access := by
  have distrib (x y z : UInt32) : (x ||| y) &&& z = (x &&& z) ||| (y &&& z) :=
    UInt32.toBitVec_inj.mp BitVec.and_or_distrib_right
  have clear (mask flag : UInt32) (inside : flag &&& ~~~mask = 0) (whole : flag &&& mask = flag)
      (apart : ~~~mask &&& mask = 0) :
      ((flags &&& ~~~mask) ||| flag) &&& ~~~mask = flags &&& ~~~mask ∧
        ((flags &&& ~~~mask) ||| flag) &&& mask = flag := by
    constructor
    · rw [distrib, inside, UInt32.and_assoc, UInt32.and_self, UInt32.or_zero]
    · rw [distrib, whole, UInt32.and_assoc, apart, UInt32.and_zero,
        UInt32.zero_or]
  cases access with
  | readOnly => exact clear _ _ rfl rfl rfl
  | readWrite => exact clear _ _ rfl rfl rfl

/-- From the start, through any calls that follow SQLite's rule, for every backend. -/
theorem handles_are_owned_linearly (backend : Backend σ H) (app : σ) {calls : List FileCall}
    {s : Session σ H} (runs : Runs (FileStep backend) (Session.start app) calls s) :
    LinearOwnership s ∧
      (∀ call : FileCall, call.Allowed s → ∃ code w', call.run backend s.world = (.ok code, w') ∧
        call.Answered backend s code w') ∧
      ∀ (flags : UInt32) (access : OpenAccess),
        actualFlags flags access &&& ~~~(SqliteOpen.readonly ||| SqliteOpen.readwrite) =
            flags &&& ~~~(SqliteOpen.readonly ||| SqliteOpen.readwrite) ∧
          actualFlags flags access &&& (SqliteOpen.readonly ||| SqliteOpen.readwrite) =
            accessFlag access := by
  have owned : Owned s := by
    induction runs with
    | refl => exact Owned.start app
    | snoc _ step owned => exact owned.step step
  exact ⟨owned.linear, fun call allowed => owned.answers backend allowed, actualFlags_bits⟩

theorem temporary_file_owned : ∃ s : Session Unit Unit,
    s.world.calls = [.opened 0 none ⟨6⟩, .closed 0 none ⟨6⟩] ∧ LinearOwnership s :=
  have opening : FileStep Backend.null (Session.start ()) (.xOpen 0 none 6 none) _ := .intro rfl rfl
  ⟨_, rfl, (handles_are_owned_linearly Backend.null () (.snoc (.single opening)
    (show FileStep Backend.null _ (.xClose 0) _ from .intro (by exact rfl) rfl))).1⟩

end Callbacks

end SqliteVfs
