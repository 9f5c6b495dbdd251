import SqliteVfs.Callbacks.Backend

/-!
# The default VFS callbacks

`SQLiteVfs`, over the memory that its callbacks share with SQLite.  Using a pointer that is
not live ends a run as a panic does.  `SQLITE_OK` and the other codes are C integers; a
pointer that SQLite may leave out is an option.
-/

set_option autoImplicit false

namespace SqliteVfs

namespace Callbacks

/-- A handle of the backend; its serial number tells it from every other one. -/
structure Handle (H : Type) where
  serial : Nat
  value : H

structure SQLiteVfsFile where
  /-- Whether `pMethods` is not null. -/
  methods : Bool
  options : OpenOptions
  /-- The bytes that `name_ptr` points to. -/
  name : Option (List UInt8)
  nameLength : Nat
  handle : Option Nat

inductive BackendCall where
  | opened (serial : Nat) (name : Option String) (options : OpenOptions)
  | refused (name : Option String) (options : OpenOptions)
  | closed (serial : Nat) (name : Option String) (options : OpenOptions)
  deriving DecidableEq, Repr

/-- A Julian day: zero, or `2440587.5 + ms / 86400000.0`. -/
inductive JulianDay where
  | zero
  | ofEpoch (ms : Int)
  deriving DecidableEq, Repr

structure World (σ H : Type) where
  app : σ
  /-- The diagnostics that were recorded; the last one is the backend's last error. -/
  recorded : List VfsError
  calls : List BackendCall
  /-- The serial number of the next handle, and the address of the next box. -/
  serial : Nat
  nextBox : Nat
  boxes : Nat → Option (Handle H)
  files : Nat → SQLiteVfsFile
  /-- What the out-parameters of the call in progress point to. -/
  out : Int
  outFlags : Option UInt32
  timeOut : JulianDay
  buffer : List UInt8

def World.start {σ H : Type} (app : σ) : World σ H where
  app := app
  recorded := []
  calls := []
  serial := 0
  nextBox := 0
  boxes _ := none
  files _ := ⟨false, ⟨0⟩, none, 0, none⟩
  out := 0
  outFlags := none
  timeOut := .zero
  buffer := []

abbrev CallbackM (σ H α : Type) : Type := Prog (World σ H) Empty α

variable {σ H α : Type}

/-! ## Memory -/

def readFile (pFile : Nat) : CallbackM σ H SQLiteVfsFile := do
  let w ← Prog.get
  pure (w.files pFile)

def writeFile (pFile : Nat) (file : SQLiteVfsFile) : CallbackM σ H Unit :=
  Prog.modify fun w => { w with files := Function.update w.files pFile file }

def setOut (value : Int) : CallbackM σ H Unit := Prog.modify fun w => { w with out := value }

/-- `Box::into_raw` and `Box::from_raw`. -/
def intoRaw (handle : Handle H) : CallbackM σ H Nat :=
  ⟨fun w => (.ok w.nextBox,
    { w with nextBox := w.nextBox + 1, boxes := Function.update w.boxes w.nextBox (some handle) })⟩

def fromRaw (box : Option Nat) : CallbackM σ H (Handle H) :=
  ⟨fun w => match box with
    | none => (.halt .panic, w)
    | some box => match w.boxes box with
      | none => (.halt .panic, w)
      | some handle => (.ok handle, { w with boxes := Function.update w.boxes box none })⟩

/-- `CStr::to_str`. -/
def toStr (bytes : List UInt8) : Option String := String.fromUTF8? ⟨bytes.toArray⟩

/-! ## The backend -/

def callStore (call : StoreMethod σ α) : CallbackM σ H (Except VfsError α) :=
  ⟨fun w => (.ok (call w.app).1, { w with app := (call w.app).2 })⟩

/-- `store_err`. -/
def storeErr (error : VfsError) : CallbackM σ H Int := do
  Prog.modify fun w => { w with recorded := w.recorded ++ [error] }
  pure error.rawCode

/-- `open_file`, whose handle gets its serial number. -/
def openFile (backend : Backend σ H) (filename : Option VfsFilename) (options : OpenOptions) :
    CallbackM σ H (Except VfsError (OpenedFile (Handle H))) :=
  ⟨fun w =>
    let path := filename.map VfsFilename.path
    match backend.store.openFile filename options w.app with
    | (.error error, app) =>
      (.ok (.error error), { w with app, calls := w.calls ++ [.refused path options] })
    | (.ok opened, app) =>
      (.ok (.ok ⟨⟨w.serial, opened.file⟩, opened.access⟩),
        { w with
          app
          serial := w.serial + 1
          calls := w.calls ++ [.opened w.serial path options] })⟩

def closeFile (backend : Backend σ H) (name : Option String) (handle : Handle H)
    (options : OpenOptions) : CallbackM σ H (Except VfsError Unit) :=
  ⟨fun w =>
    let closed := backend.store.closeFile name handle.value options w.app
    (.ok closed.1,
      { w with app := closed.2, calls := w.calls ++ [.closed handle.serial name options] })⟩

/-- `last_error` of a store that keeps the last error it was given. -/
def lastError : CallbackM σ H (Option VfsError) := do
  let w ← Prog.get
  pure w.recorded.getLast?

/-! ## Messages -/

/-- `str::is_char_boundary`. -/
def isCharBoundary (message : List UInt8) (index : Nat) : Bool :=
  index = 0 || match message[index]? with
    | none => index = message.length
    | some byte => byte &&& 0xc0 ≠ 0x80

def backToBoundary (message : List UInt8) : Nat → Option Nat
  | 0 => if isCharBoundary message 0 then some 0 else none
  | count + 1 =>
    if isCharBoundary message (count + 1) then some (count + 1) else backToBoundary message count

/-- `write_message` to a pointer that is null, or points to the caller's buffer. -/
def writeMessage (out : Bool) (capacity : Int) (message : String) : CallbackM σ H Unit :=
  if out = false ∨ capacity ≤ 0 then pure ()
  else do
    let bytes := nameBytes message
    let count ← Prog.unwrap (backToBoundary bytes (min bytes.length (capacity.toNat - 1)))
    Prog.modify fun w => { w with buffer := bytes.take count ++ 0 :: w.buffer.drop (count + 1) }

/-! ## Callbacks -/

def xOpen (backend : Backend σ H) (zName : Option (List UInt8)) (pFile : Nat) (flags : UInt32) :
    CallbackM σ H Int := do
  let file ← readFile pFile
  writeFile pFile { file with methods := false }
  match OpenOptions.fromRawFlags flags with
  | .error _ => storeErr (VfsError.new .cantOpen "invalid SQLite open flags")
  | .ok options =>
    match zName.map toStr with
    | some none => storeErr (VfsError.new .cantOpen "filename is not valid UTF-8")
    | path =>
      let sqlite := options.kind = some .mainDb ∨ options.kind = some .mainJournal ∨
        options.kind = some .wal
      let filename := path.join.map fun path => (⟨path, sqlite⟩ : VfsFilename)
      let opened ← openFile backend filename options
      match opened with
      | .error error => storeErr error
      | .ok opened =>
        let handle ← intoRaw opened.file
        writeFile pFile
          { methods := true
            options := options
            name := zName
            nameLength := (filename.map fun name => (nameBytes name.path).length).getD 0
            handle := some handle }
        -- `pOutFlags` may be null.
        Prog.modify fun w =>
          { w with
            outFlags := w.outFlags.map fun _ =>
              (flags &&& ~~~(SqliteOpen.readonly ||| SqliteOpen.readwrite)) |||
                match opened.access with
                | .readOnly => SqliteOpen.readonly
                | .readWrite => SqliteOpen.readwrite }
        pure SQLITE_OK

def xDelete (backend : Backend σ H) (zName : Option (List UInt8)) (syncDir : Int) :
    CallbackM σ H Int :=
  match zName with
  | none => storeErr (VfsError.new .ioDelete "filename is null")
  | some bytes =>
    match toStr bytes with
    | none => storeErr (VfsError.new .ioDelete "filename is not valid UTF-8")
    | some name => do
      let deleted ← callStore (backend.store.deleteFile name (syncDir ≠ 0))
      match deleted with
      | .error error => storeErr error
      | .ok () => pure SQLITE_OK

def xAccess (backend : Backend σ H) (zName : Option (List UInt8)) (flags : Int) :
    CallbackM σ H Int := do
  setOut 0
  match zName with
  | none => storeErr (VfsError.new .ioAccess "filename is null")
  | some bytes =>
    match AccessMode.fromRaw flags with
    | none => storeErr (VfsError.new .ioAccess "invalid access mode")
    | some mode =>
      match toStr bytes with
      | none => storeErr (VfsError.new .ioAccess "filename is not valid UTF-8")
      | some name => do
        let found ← callStore (backend.store.access name mode)
        match found with
        | .error error => storeErr error
        | .ok found => do
          setOut (if found then 1 else 0)
          pure SQLITE_OK

/-- `zOut` is null, or points to the caller's buffer. -/
def xFullPathname (backend : Backend σ H) (zName : Option (List UInt8)) (nOut : Int)
    (zOut : Bool) : CallbackM σ H Int :=
  match zName with
  | none => storeErr (VfsError.new .cantOpen "filename is null")
  | some bytes =>
    if zOut = false ∨ nOut ≤ 0 then
      storeErr (VfsError.new .cantOpen "pathname output buffer is missing or empty")
    else match toStr bytes with
      | none => storeErr (VfsError.new .cantOpen "filename is not valid UTF-8")
      | some name => do
        let full ← callStore (backend.store.fullPathname name)
        match full with
        | .error error => storeErr error
        | .ok full =>
          if 0 ∈ nameBytes full then
            storeErr (VfsError.new .cantOpen "canonical filename contains a NUL byte")
          else if nOut.toNat ≤ (nameBytes full).length then
            storeErr (VfsError.new .cantOpen "pathname output buffer is too small")
          else do
            Prog.modify fun w =>
              { w with
                buffer := nameBytes full ++ 0 :: w.buffer.drop ((nameBytes full).length + 1) }
            pure SQLITE_OK

def xGetLastError (nOut : Int) (zOut : Bool) : CallbackM σ H Int := do
  let error ← lastError
  match error with
  | none => do
    writeMessage zOut nOut ""
    pure SQLITE_OK
  | some error => do
    writeMessage zOut nOut error.message
    pure ((error.systemError.map SystemErrorCode.raw).getD 0)

def xDlError (nByte : Int) (zErrMsg : Bool) : CallbackM σ H Unit :=
  writeMessage zErrMsg nByte "dynamic extension loading is not supported"

def xCurrentTime (backend : Backend σ H) : CallbackM σ H Int := do
  Prog.modify fun w => { w with timeOut := .zero }
  let time ← callStore backend.epochTimestampInMs
  match time with
  | .ok time => do
    Prog.modify fun w => { w with timeOut := .ofEpoch time }
    pure SQLITE_OK
  | .error error => storeErr error

/-- The Julian milliseconds of 1970-01-01. -/
def julianEpoch : Int := 210866760000000

def xCurrentTimeInt64 (backend : Backend σ H) : CallbackM σ H Int := do
  setOut 0
  let time ← callStore backend.epochTimestampInMs
  match time with
  | .error error => storeErr error
  | .ok time =>
    if time + julianEpoch < 2 ^ 63 then do
      setOut (time + julianEpoch)
      pure SQLITE_OK
    else storeErr (VfsError.new .error "Julian timestamp exceeds the signed 64-bit range")

end Callbacks

end SqliteVfs
