import SqliteVfs.Base.Journal
import SqliteVfs.Base.SparseVector
import SqliteVfs.Core.Options
import SqliteVfs.Sahpool.Error

/-!
# Slots of the access handle pool

One slot is an OPFS file behind a synchronous access handle.  `Slot` is that file with
the answers the browser will give to the calls on its handle; the methods of
`SyncAccessFile` are programs over it.  A count that the browser returns is true: it is
the number of bytes transferred.
-/

set_option autoImplicit false

namespace SqliteVfs

namespace Sahpool

def sectorSize : Nat := 4096

def headerMaxFilenameSize : Nat := 512

/-- SQLite may append '-' followed by up to 11 characters to a database name. -/
def maxDbFilenameSize : Nat := headerMaxFilenameSize - 1 - 12

def headerCorpusSize : Nat := headerMaxFilenameSize + 4

def headerOffsetData : Nat := sectorSize

def maxSafeInteger : Nat := 2 ^ 53 - 1

def persistentFileTypes : UInt32 :=
  SqliteOpen.mainDb ||| SqliteOpen.mainJournal ||| SqliteOpen.superJournal ||| SqliteOpen.wal

def temporaryFileTypes : UInt32 :=
  SqliteOpen.tempDb ||| SqliteOpen.tempJournal ||| SqliteOpen.transientDb ||| SqliteOpen.subJournal

/-! ## Files and access handles -/

inductive SlotOp where
  | write (start : Nat) (bytes : List UInt8)
  | truncate (size : Nat)
  deriving DecidableEq, Repr

/-- OPFS fills extensions with zeros, in writes and in truncates. -/
def SlotOp.apply (contents : List UInt8) : SlotOp → List UInt8
  | .write start bytes => SparseVector.writeAt contents start bytes
  | .truncate size => SparseVector.resize contents size

abbrev SlotFile : Type := Journal (List UInt8) SlotOp

abbrev SlotFile.contents (file : SlotFile) : List UInt8 := Journal.contents SlotOp.apply file

abbrev SlotFile.flush (file : SlotFile) : SlotFile := Journal.flush SlotOp.apply file

/-- Writing nothing does not extend a file. -/
def SlotFile.write (file : SlotFile) (start : Nat) (bytes : List UInt8) : SlotFile :=
  if bytes = [] then file else Journal.append file (.write start bytes)

def SlotFile.truncate (file : SlotFile) (size : Nat) : SlotFile :=
  Journal.append file (.truncate size)

/-- How much of a call took effect. -/
inductive Landed where
  | nothing
  | everything
  | part (count : Nat)
  deriving DecidableEq, Repr

def Landed.take {α : Type} (landed : Landed) (xs : List α) : List α :=
  match landed with
  | .nothing => []
  | .everything => xs
  | .part count => xs.take count

inductive Reply where
  | done
  | short (count : Nat)
  | thrown (error : JsValue) (landed : Landed)
  | crash (landed : Landed)
  deriving DecidableEq, Repr

structure Slot where
  file : SlotFile
  replies : List Reply

abbrev SlotM (ε α : Type) : Type := Prog Slot ε α

/-- One call on a handle: what it does to the file and returns, as far as it lands. -/
def call {α : Type} (effect : Landed → SlotFile → SlotFile) (result : Landed → SlotFile → α) :
    SlotM JsValue α :=
  ⟨fun slot => match slot.replies with
    | [] => (.ok (result .everything slot.file), ⟨effect .everything slot.file, []⟩)
    | .done :: rest => (.ok (result .everything slot.file), ⟨effect .everything slot.file, rest⟩)
    | .short count :: rest =>
      (.ok (result (.part count) slot.file), ⟨effect (.part count) slot.file, rest⟩)
    | .thrown error landed :: rest => (.err error, ⟨effect landed slot.file, rest⟩)
    | .crash landed :: rest => (.halt .crash, ⟨effect landed slot.file, rest⟩)⟩

/-- What a call does: it lands to some extent, and returns, throws or ends the run. -/
theorem call_run {α : Type} (effect : Landed → SlotFile → SlotFile)
    (result : Landed → SlotFile → α) (slot : Slot) :
    ∃ landed rest, rest <:+ slot.replies ∧
      (landed = .everything ∨ (∃ count, landed = .part count ∧ .short count ∈ slot.replies) ∨
        (∃ error, .thrown error landed ∈ slot.replies) ∨ .crash landed ∈ slot.replies) ∧
      ∃ outcome, (call effect result).run slot = (outcome, ⟨effect landed slot.file, rest⟩) ∧
        ((outcome = .ok (result landed slot.file) ∧ landed ≠ .nothing) ∨
          (∃ error, outcome = .err error) ∨ outcome = .halt .crash) := by
  obtain ⟨file, replies⟩ := slot
  unfold call
  dsimp only
  rcases replies with _ | ⟨reply, rest⟩
  · exact ⟨.everything, [], List.suffix_refl _, .inl rfl, _, rfl, .inl ⟨rfl, nofun⟩⟩
  · have shorter : rest <:+ reply :: rest := List.suffix_cons reply rest
    cases reply with
    | done => exact ⟨.everything, rest, shorter, .inl rfl, _, rfl, .inl ⟨rfl, nofun⟩⟩
    | short count =>
        exact ⟨.part count, rest, shorter, .inr (.inl ⟨count, rfl, List.mem_cons_self⟩), _, rfl,
          .inl ⟨rfl, nofun⟩⟩
    | thrown error landed =>
        exact ⟨landed, rest, shorter, .inr (.inr (.inl ⟨error, List.mem_cons_self⟩)), _, rfl,
          .inr (.inl ⟨error, rfl⟩)⟩
    | crash landed =>
        exact ⟨landed, rest, shorter, .inr (.inr (.inr List.mem_cons_self)), _, rfl,
          .inr (.inr rfl)⟩

namespace AccessHandle

def getSize : SlotM JsValue Nat :=
  call (fun _ file => file) fun _ file => file.contents.length

/-- Returns the count and the buffer after the call. -/
def read (buf : List UInt8) (start : Nat) : SlotM JsValue (Nat × List UInt8) :=
  call (fun _ file => file) fun landed file =>
    let bytes := landed.take (SparseVector.readAt file.contents start buf.length)
    (bytes.length, bytes ++ buf.drop bytes.length)

def write (bytes : List UInt8) (start : Nat) : SlotM JsValue Nat :=
  call (fun landed file => file.write start (landed.take bytes)) fun landed _ =>
    (landed.take bytes).length

/-- A call without a count lands as a whole or not at all. -/
def truncate (size : Nat) : SlotM JsValue Unit :=
  call (fun landed file => if landed = .nothing then file else file.truncate size) fun _ _ => ()

def flush : SlotM JsValue Unit :=
  call (fun landed file => if landed = .nothing then file else file.flush) fun _ _ => ()

end AccessHandle

/-! ## Headers -/

def flagsBytes (flags : UInt32) : List UInt8 :=
  [(flags >>> 24).toUInt8, (flags >>> 16).toUInt8, (flags >>> 8).toUInt8, flags.toUInt8]

/-- `u32::from_be_bytes`. -/
def flagsOf (bytes : List UInt8) : UInt32 :=
  bytes.foldl (fun flags byte => flags <<< 8 ||| byte.toUInt32) 0

/-- What `associated_filename` makes of the 516 bytes of a header. -/
def parseHeader (header : List UInt8) : Except String (Option String) :=
  let flags := flagsOf (header.drop headerMaxFilenameSize)
  let name := header.take headerMaxFilenameSize
  match name.findIdx? (· = 0) with
  | none => .error "filename is not NUL-terminated"
  | some stop =>
    if (name.drop stop).any (· ≠ 0) then .error "nonzero bytes after filename terminator"
    else if stop = 0 then
      if flags ≠ 0 then .error "unnamed slot has nonzero flags" else .ok none
    else match String.fromUTF8? ⟨(name.take stop).toArray⟩ with
      | none => .error "filename is not valid UTF-8"
      | some name =>
        -- Older imports stored only the kind, so this is not the check of an open.
        let kind := flags &&& (persistentFileTypes ||| temporaryFileTypes)
        if countOnes kind ≠ 1 then .error "missing or conflicting file types"
        else if flags &&& SqliteOpen.deleteOnClose ≠ 0 then .ok none
        else if kind &&& temporaryFileTypes ≠ 0 then
          .error "temporary file is missing DELETEONCLOSE"
        else .ok (some name)

/-! ## Operations of a slot -/

namespace SyncAccessFile

abbrev M (α : Type) : Type := SlotM OpfsSAHError α

def physicalSize (opaqueName : String) : M Nat := do
  let size ← Prog.mapErr (OpfsSAHError.js "get file size") AccessHandle.getSize
  if maxSafeInteger < size then
    Prog.fail (.invalidHeader opaqueName "invalid physical file size")
  else pure size

def size (opaqueName : String) : SlotM VfsError Nat :=
  Prog.mapErr (OpfsSAHError.vfsErr .ioStat) do
    let size ← physicalSize opaqueName
    if size < headerOffsetData then
      Prog.fail (.invalidHeader opaqueName "file is shorter than its header")
    else pure (size - headerOffsetData)

def readAt (buf : List UInt8) (start : Nat) : M (Nat × List UInt8) := do
  let (count, buf') ← Prog.mapErr (OpfsSAHError.js "read file") (AccessHandle.read buf start)
  if buf.length < count then Prog.fail (.shortIo "read file" buf.length count)
  else pure (count, buf')

def writeAt (bytes : List UInt8) (start : Nat) : M Unit := do
  let count ← Prog.mapErr (OpfsSAHError.js "write file") (AccessHandle.write bytes start)
  if count ≠ bytes.length then Prog.fail (.shortIo "write file" bytes.length count)
  else pure ()

def flush : M Unit := Prog.mapErr (OpfsSAHError.js "flush file") AccessHandle.flush

def associatedFilename (opaqueName : String) : M (Option String) := do
  let size ← physicalSize opaqueName
  if size = 0 then pure none
  else if size < headerOffsetData then do
    -- An interrupted initialization can leave a zero-filled prefix.
    let (count, bytes) ← readAt (List.replicate size 0) 0
    if count ≠ bytes.length ∨ bytes.any (· ≠ 0) then
      Prog.fail (.invalidHeader opaqueName "file is shorter than its header")
    else pure none
  else do
    let (count, header) ← readAt (List.replicate headerCorpusSize 0) 0
    if count ≠ header.length then Prog.fail (.invalidHeader opaqueName "incomplete header")
    else Prog.ofExcept ((parseHeader header).mapError (.invalidHeader opaqueName))

/-- Only for new or verified zero-filled, incomplete slots. -/
def initializeSlot : M Unit := do
  Prog.mapErr (OpfsSAHError.js "initialize pool slot") (AccessHandle.truncate headerOffsetData)
  flush

def header (filename : Option String) (flags : UInt32) : M (List UInt8) := do
  let header := List.replicate headerCorpusSize 0
  let header ← match filename with
    | none => (pure header : M (List UInt8))
    | some filename =>
      let bytes := nameBytes filename
      if bytes = [] ∨ 0 ∈ bytes ∨ headerMaxFilenameSize ≤ bytes.length then
        Prog.fail (.invalidFilename "filename cannot be stored in the pool header")
      else Prog.copyInto header 0 bytes.length bytes
  Prog.copyInto header headerMaxFilenameSize headerCorpusSize (flagsBytes flags)

def associate (filename : Option String) (flags : UInt32) : M Unit := do
  let header ← header filename flags
  writeAt header 0
  flush
  if filename = none then do
    Prog.mapErr (OpfsSAHError.js "truncate unused slot") (AccessHandle.truncate headerOffsetData)
    flush
  else pure ()

theorem length_of_readAt {buf filled : List UInt8} {start count : Nat} {slot next : Slot}
    (run : (readAt buf start).run slot = (.ok (count, filled), next)) :
    filled.length = buf.length := by
  obtain ⟨⟨count', filled'⟩, between, returned, rest⟩ := Prog.bind_ok_cases run
  have same : filled' = filled := by
    dsimp only at rest
    split at rest
    · exact nomatch congrArg Prod.fst rest
    · exact congrArg Prod.snd (Outcome.ok.inj (Prod.mk.inj rest).1)
  subst same
  have read := Prog.mapErr_ok_iff.mp returned
  obtain ⟨landed, remaining, -, -, outcome, ran, cases⟩ := call_run (fun _ file => file)
    (fun landed file =>
      let bytes := landed.take (SparseVector.readAt file.contents start buf.length)
      (bytes.length, bytes ++ buf.drop bytes.length)) slot
  have outcome_eq : outcome = .ok (count', filled') :=
    (Prod.mk.inj (ran.symm.trans read)).1
  rcases cases with ⟨ok, -⟩ | ⟨error, failed⟩ | crashed
  · have filled_eq := congrArg Prod.snd (Outcome.ok.inj (outcome_eq.symm.trans ok))
    dsimp only at filled_eq
    rw [filled_eq, List.length_append, List.length_drop]
    have : (landed.take (SparseVector.readAt slot.file.contents start buf.length)).length ≤
        buf.length := by
      cases landed <;> simp only [Landed.take, List.length_nil, SparseVector.length_readAt,
        List.length_take] <;> omega
    omega
  · exact nomatch outcome_eq.symm.trans failed
  · exact nomatch outcome_eq.symm.trans crashed

end SyncAccessFile

end Sahpool

end SqliteVfs
