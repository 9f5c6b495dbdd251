import SqliteVfs.Callbacks.Vfs

/-!
# The default I/O callbacks

`SQLiteIoMethods`.  Each is called on the memory of a file that `xOpen` has set up; the
buffer of a read or write is as long as the caller says, or longer.
-/

set_option autoImplicit false

namespace SqliteVfs

namespace Callbacks

variable {σ H α : Type}

def onHandle (pFile : Nat) (call : H → σ → α × H × σ) : CallbackM σ H α :=
  ⟨fun w => match (w.files pFile).handle with
    | none => (.halt .panic, w)
    | some box => match w.boxes box with
      | none => (.halt .panic, w)
      | some handle =>
        let called := call handle.value w.app
        (.ok called.1,
          { w with
            app := called.2.2
            boxes := Function.update w.boxes box (some { handle with value := called.2.1 }) })⟩

/-- The name of an open file, from the bytes that SQLite still owns. -/
def SQLiteVfsFile.givenName (file : SQLiteVfsFile) : CallbackM σ H (Option String) :=
  match file.name with
  | none => pure none
  | some bytes => do
    let name ← Prog.unwrap (toStr (bytes.take file.nameLength))
    pure (some name)

def xClose (backend : Backend σ H) (pFile : Nat) : CallbackM σ H Int := do
  let file ← readFile pFile
  let handle ← fromRaw file.handle
  let name ← file.givenName
  writeFile pFile { file with handle := none, name := none, nameLength := 0, methods := false }
  let closed ← closeFile backend name handle file.options
  match closed with
  | .ok () => pure SQLITE_OK
  | .error error => storeErr error

def xRead (backend : Backend σ H) (pFile : Nat) (iAmt iOfst : Int) : CallbackM σ H Int :=
  if iAmt < 0 then storeErr (VfsError.new .ioRead "negative read length")
  else if iOfst < 0 then storeErr (VfsError.new .ioRead "negative file offset")
  else
    let size := iAmt.toNat
    if size = 0 then pure SQLITE_OK
    else do
      Prog.modify fun w =>
        { w with buffer := List.replicate size 0 ++ w.buffer.drop size }
      let w ← Prog.get
      let (result, slice) ← onHandle pFile fun file s =>
        let answer := backend.io.read (w.buffer.take size) iOfst.toNat file s
        ((answer.1, answer.2.1), answer.2.2)
      Prog.modify fun w => { w with buffer := slice ++ w.buffer.drop size }
      match result with
      | .error error =>
        if error.rawCode = VfsErrorCode.ioShortRead.asRaw then
          storeErr (VfsError.new .ioRead "backend must return a byte count for short reads")
        else storeErr error
      | .ok count =>
        if size < count then storeErr (VfsError.new .ioRead "read count exceeds buffer length")
        else if count < size then do
          Prog.modify fun w =>
            { w with
              buffer := w.buffer.take count ++ List.replicate (size - count) 0 ++
                w.buffer.drop size }
          storeErr (VfsError.new .ioShortRead "short read at end of file")
        else pure SQLITE_OK

/-- `match f(handle) { Ok(..) => SQLITE_OK, Err(err) => store_err(err) }`. -/
def reported (result : Except VfsError Unit) : CallbackM σ H Int :=
  match result with
  | .ok () => pure SQLITE_OK
  | .error error => storeErr error

def xWrite (backend : Backend σ H) (pFile : Nat) (iAmt iOfst : Int) : CallbackM σ H Int :=
  if iAmt < 0 then storeErr (VfsError.new .ioWrite "negative write length")
  else if iOfst < 0 then storeErr (VfsError.new .ioWrite "negative file offset")
  else if iAmt.toNat = 0 then pure SQLITE_OK
  else do
    let w ← Prog.get
    let written ← onHandle pFile (backend.io.write (w.buffer.take iAmt.toNat) iOfst.toNat)
    reported written

def xTruncate (backend : Backend σ H) (pFile : Nat) (size : Int) : CallbackM σ H Int :=
  if size < 0 then storeErr (VfsError.new .ioTruncate "negative file size")
  else do
    let truncated ← onHandle pFile (backend.io.truncate size.toNat)
    reported truncated

def xSync (backend : Backend σ H) (pFile : Nat) (flags : UInt32) : CallbackM σ H Int :=
  match SyncOptions.fromRawFlags flags with
  | none => storeErr (VfsError.new .ioSync "invalid sync flags")
  | some options => do
    let synced ← onHandle pFile (backend.io.sync options)
    reported synced

def xFileSize (backend : Backend σ H) (pFile : Nat) : CallbackM σ H Int := do
  setOut 0
  let size ← onHandle pFile backend.io.size
  match size with
  | .error error => storeErr error
  | .ok size =>
    if size < 2 ^ 63 then do
      setOut size
      pure SQLITE_OK
    else storeErr (VfsError.new .ioStat "file size exceeds the signed 64-bit range")

def xLock (backend : Backend σ H) (pFile : Nat) (eLock : Int) : CallbackM σ H Int :=
  match LockLevel.fromRaw eLock with
  | none | some .none => storeErr (VfsError.new .ioLock "invalid lock level")
  | some level => do
    let locked ← onHandle pFile (backend.io.lock level)
    reported locked

def xUnlock (backend : Backend σ H) (pFile : Nat) (eLock : Int) : CallbackM σ H Int :=
  match LockLevel.fromRaw eLock with
  | some .none => do
    let unlocked ← onHandle pFile (backend.io.unlock .none)
    reported unlocked
  | some .shared => do
    let unlocked ← onHandle pFile (backend.io.unlock .shared)
    reported unlocked
  | _ => storeErr (VfsError.new .ioUnlock "invalid unlock level")

def xCheckReservedLock (backend : Backend σ H) (pFile : Nat) : CallbackM σ H Int := do
  setOut 0
  let held ← onHandle pFile backend.io.checkReservedLock
  match held with
  | .ok held => do
    setOut (if held then 1 else 0)
    pure SQLITE_OK
  | .error error => storeErr error

/-- `SQLITE_FCNTL_SIZE_HINT`. -/
def sizeHintOp : Int := 5

/-- `arg` is the integer that `pArg` points to. -/
def xFileControl (backend : Backend σ H) (pFile : Nat) (op arg : Int) : CallbackM σ H Int :=
  if op ≠ sizeHintOp then pure SQLITE_NOTFOUND
  else if arg < 0 then storeErr (VfsError.new .io "negative file size hint")
  else do
    let hinted ← onHandle pFile (backend.io.sizeHint arg.toNat)
    match hinted with
    | .ok true => pure SQLITE_OK
    | .ok false => pure SQLITE_NOTFOUND
    | .error error => storeErr error

end Callbacks

end SqliteVfs
