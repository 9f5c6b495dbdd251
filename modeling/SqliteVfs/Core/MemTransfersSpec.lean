import SqliteVfs.Base.Runs
import SqliteVfs.Core.ExportReads
import SqliteVfs.Core.MemStoreSpec
import SqliteVfs.Core.MemTransfers

/-!
# Transfers of the memory VFS do not interfere

`Turn` says what each event can do; the invariant and the results about runs are derived
from it.  An import keeps to its own file, which nothing else leads to before the commit,
and an export keeps to the file that it was opened on, whatever happens to its name.
-/

set_option autoImplicit false

namespace SqliteVfs

open MemVfs (Sound)

namespace MemVfs

variable {bits : Nat} {s : MemAppData} {file size offset : Nat} {content : List UInt8}

/-! ## Reading an export -/

theorem exportRead_run (sound : Sound bits s) (held : s.inodes.contents file = some content)
    (range : offset < u64Size) (buf : List UInt8) :
    ((exportSource bits file size).readAt offset buf).run s =
      (.ok (min buf.length (content.length - offset),
        SparseVector.readAt content offset buf.length ++
          buf.drop (min buf.length (content.length - offset))), s) := by
  obtain ⟨f, cell, rfl⟩ := MemAppData.contents_eq_some held
  have wf := sound.wellFormed f (List.mem_of_getElem? cell)
  have read := MemChunksFile.read_eq wf buf (UInt64.ofNat offset)
  have small : (UInt64.ofNat offset).toNat = offset := by
    simpa using Nat.mod_eq_of_lt (show offset < 2 ^ 64 from range)
  rw [small] at read
  exact Prog.mapErr_ok_iff.mpr (onFile_pure cell read)

theorem readLoop_within (sound : Sound bits s) (held : s.inodes.contents file = some content)
    {length : Nat} (range : offset + length < u64Size) (buf : List UInt8)
    (room : length ≤ buf.length) (within : length = 0 ∨ offset + length ≤ content.length) :
    (DbExport.readLoop (exportSource bits file size) offset length buf 0).run s =
      (.ok (SparseVector.readAt content offset length ++ buf.drop length), s) := by
  rcases Nat.eq_zero_or_pos length with rfl | positive
  · rw [DbExport.readLoop, if_neg (Nat.lt_irrefl 0)]
    simp [SparseVector.readAt]
  have inside : offset + length ≤ content.length := by omega
  have asked : (buf.take length).length = length := List.length_take_of_le room
  have count : min (buf.take length).length (content.length - offset) = length := by omega
  rw [readLoop_round positive room, List.drop_zero, Nat.add_zero,
    exportRead_run sound held (by omega), count, asked]
  dsimp only
  have past : (buf.take length).drop length = [] := List.drop_eq_nil_of_le (by omega)
  rw [if_neg (by omega), past, Nat.zero_add, DbExport.readLoop, if_neg (Nat.lt_irrefl _)]
  simp

/-- A range that reaches past the end of the file is not. -/
theorem readLoop_past (sound : Sound bits s) (held : s.inodes.contents file = some content)
    {length : Nat} (range : offset + length < u64Size) (buf : List UInt8)
    (room : length ≤ buf.length) (positive : 0 < length) (past : content.length < offset + length) :
    (DbExport.readLoop (exportSource bits file size) offset length buf 0).run s =
      (.err (ofTransfer (.shortRead (length - (content.length - offset)) 0)), s) := by
  have asked : (buf.take length).length = length := List.length_take_of_le room
  have count : min (buf.take length).length (content.length - offset) =
    content.length - offset := by
    omega
  rw [readLoop_round positive room, List.drop_zero, Nat.add_zero,
    exportRead_run sound held (by omega), count, asked]
  dsimp only
  rcases Nat.eq_zero_or_pos (content.length - offset) with nothing | some
  · rw [if_pos (.inl nothing), nothing, Nat.sub_zero]
  -- The second call finds the end of the file.
  rw [if_neg (by omega), Nat.zero_add, List.take_zero, List.nil_append]
  have filled : (SparseVector.readAt content offset length ++
      (buf.take length).drop (content.length - offset) ++ buf.drop length).length = buf.length := by
    simp only [List.length_append, SparseVector.length_readAt, List.length_drop, List.length_take]
    omega
  rw [readLoop_round (by omega) (by omega), exportRead_run sound held (by omega)]
  have ended : content.length - (offset + (content.length - offset)) = 0 := by omega
  rw [ended, Nat.min_zero]
  dsimp only
  rw [if_pos (.inl rfl)]

/-- What a read of an export answers, by what the file holds now. -/
theorem read_run (sound : Sound bits s) (held : s.inodes.contents file = some content)
    {dbExport : DbExport MemAppData MemVfsError}
    (source : dbExport.source = exportSource bits file size)
    (within : dbExport.offset ≤ dbExport.size) (range : dbExport.size < u64Size)
    (buf : List UInt8) :
    (min (dbExport.size - dbExport.offset) buf.length = 0 ∨
        dbExport.offset + min (dbExport.size - dbExport.offset) buf.length ≤ content.length →
      (DbExport.read buf).run (dbExport, s) =
        (.ok (min (dbExport.size - dbExport.offset) buf.length,
          SparseVector.readAt content dbExport.offset
            (min (dbExport.size - dbExport.offset) buf.length) ++
          buf.drop (min (dbExport.size - dbExport.offset) buf.length)),
          { dbExport with
            offset := dbExport.offset + min (dbExport.size - dbExport.offset) buf.length }, s)) ∧
    (0 < min (dbExport.size - dbExport.offset) buf.length →
        content.length < dbExport.offset + min (dbExport.size - dbExport.offset) buf.length →
      (DbExport.read buf).run (dbExport, s) =
        (.err (.transfer (.shortRead (min (dbExport.size - dbExport.offset) buf.length -
          (content.length - dbExport.offset)) 0)), dbExport, s)) := by
  rw [read_of_loop dbExport within, source]
  have bounded : dbExport.offset + min (dbExport.size - dbExport.offset) buf.length < u64Size := by
    omega
  have room := Nat.min_le_right (dbExport.size - dbExport.offset) buf.length
  constructor
  · intro inside
    rw [readLoop_within sound held bounded buf room inside]
  · intro positive past
    rw [readLoop_past sound held bounded buf room positive past]
    rfl

end MemVfs

/-! ## The invariant -/

structure OpenImport.Kept (bits : Nat) (alloc : Nat → Nat → Bool) (data : MemAppData)
    (found : OpenImport) : Prop where
  target : found.dbImport.target = MemVfs.importTarget bits alloc found.name found.file
  fits : found.dbImport.size < 2 ^ bits
  large : found.dbImport.mode = .checked → 20 ≤ found.dbImport.size
  filled : found.dbImport.failed = false → found.dbImport.Filled found.sent
  held : found.dbImport.failed = false → data.inodes.contents found.file = some found.sent

structure OpenExport.Kept (bits : Nat) (found : OpenExport) : Prop where
  source : ∃ size, found.dbExport.source = MemVfs.exportSource bits found.file size
  within : found.dbExport.offset ≤ found.dbExport.size
  fits : found.dbExport.size < 2 ^ bits

structure OpenImport.Same (found : OpenImport) (dbImport : DbImport MemAppData MemVfsError) :
    Prop where
  target : dbImport.target = found.dbImport.target
  size : dbImport.size = found.dbImport.size
  mode : dbImport.mode = found.dbImport.mode

def TransferEvent.Ends (i : Nat) (event : TransferEvent) : Prop :=
  event = .finish i ∨ event = .abort i ∨ event = .dropImport i

def OpenExport.wanted (found : OpenExport) (buf : List UInt8) : Nat :=
  min (found.dbExport.size - found.dbExport.offset) buf.length

namespace MemTransfers

structure Good (bits : Nat) (alloc : Nat → Nat → Bool) (s : MemTransfers) : Prop where
  sound : Sound bits s.data
  isolated : s.session.toNamespace.Isolated
  imports : ∀ i found, s.imports.find i = some found → found.Kept bits alloc s.data
  exports : ∀ i found, s.exports.find i = some found → found.Kept bits
  retained : ∀ i found, s.exports.find i = some found →
    s.data.inodes.contents found.file ≠ none ∧
      ∀ token name, s.session.targets.find token ≠ some (name, found.file)

def Idle (s : MemTransfers) : TransferEvent → Prop
  | .write i _ | .finish i | .abort i | .dropImport i => s.imports.find i = none
  | .read i _ | .dropExport i => s.exports.find i = none
  | _ => False

/-! ## What an event can do -/

inductive Turn (bits : Nat) (alloc : Nat → Nat → Bool) (s : MemTransfers) :
    TransferEvent → TransferAnswer → MemTransfers → Prop
  | absent (event : TransferEvent) (idle : s.Idle event) : Turn bits alloc s event .absent s
  | store (request direct answer data handles)
      (step : NamespaceStep bits s.session.toNamespace request answer
        ⟨data.inodes, handles, s.session.targets⟩) :
      Turn bits alloc s (.store request direct) (.store answer) { s with data, handles }
  | unbegun (name size mode error) :
      Turn bits alloc s (.beginImport name size mode) (.failed error) s
  | begun (name size mode data) (fits : size < 2 ^ bits) (large : mode = .checked → 20 ≤ size)
      (names : data.files = s.data.files)
      (inodes : data.inodes = s.data.inodes.hold s.data.cells.length []) :
      Turn bits alloc s (.beginImport name size mode) (.importing s.imports.length)
        { s with
          data
          imports := s.imports.issue ⟨name, s.data.cells.length,
            .new (MemVfs.importTarget bits alloc name s.data.cells.length) size mode, []⟩ }
  | written (i bytes found dbImport data) (there : s.imports.find i = some found)
      (running : found.dbImport.failed = false) (same : found.Same dbImport)
      (filled : dbImport.Filled (found.sent ++ bytes))
      (inodes : data.inodes = s.data.inodes.hold found.file (found.sent ++ bytes)) :
      Turn bits alloc s (.write i bytes) .done
        { s with
          data
          imports := s.imports.replace i { found with dbImport, sent := found.sent ++ bytes } }
  | unwritten (i bytes found dbImport data error) (there : s.imports.find i = some found)
      (failed : dbImport.failed = true) (same : found.Same dbImport)
      (inodes : data.inodes = s.data.inodes) :
      Turn bits alloc s (.write i bytes) (.failed error)
        { s with data, imports := s.imports.replace i { found with dbImport } }
  | published (i found data) (there : s.imports.find i = some found)
      (running : found.dbImport.failed = false)
      (whole : found.sent.length = found.dbImport.size)
      (vacant : s.data.inodes.names found.name = none)
      (inodes : data.inodes = (s.data.inodes.hold found.file
        (publishedAs found.dbImport.mode found.sent)).bind found.name found.file) :
      Turn bits alloc s (.finish i) .done { s with data, imports := s.imports.retire i }
  | ended (event i answer found data) (ends : event.Ends i) (there : s.imports.find i = some found)
      (failed : event = .finish i → ∃ error, answer = .failed error)
      (names : data.inodes.names = s.data.inodes.names)
      (contents : ∃ content, data.inodes = s.data.inodes.hold found.file content) :
      Turn bits alloc s event answer { s with data, imports := s.imports.retire i }
  | unexporting (name error) (vacant : s.data.inodes.names name = none) :
      Turn bits alloc s (.beginExport name) (.failed error) s
  | exporting (name file content) (bound : s.data.inodes.names name = some file)
      (held : s.data.inodes.contents file = some content) (fits : content.length < 2 ^ bits) :
      Turn bits alloc s (.beginExport name) (.exporting s.exports.length)
        { s with
          exports := s.exports.issue
            ⟨file, MemVfs.exportSource bits file content.length, content.length, 0⟩ }
  | read (i buf found content) (there : s.exports.find i = some found)
      (held : s.data.inodes.contents found.file = some content)
      (inside : found.wanted buf = 0 ∨
        found.dbExport.offset + found.wanted buf ≤ content.length) :
      Turn bits alloc s (.read i buf)
        (.bytes (found.wanted buf) (SparseVector.readAt content found.dbExport.offset
          (found.wanted buf) ++ buf.drop (found.wanted buf)))
        { s with
          exports := s.exports.replace i { found with
            dbExport := { found.dbExport with
              offset := found.dbExport.offset + found.wanted buf } } }
  | fellShort (i buf found content) (there : s.exports.find i = some found)
      (held : s.data.inodes.contents found.file = some content)
      (positive : 0 < found.wanted buf)
      (past : content.length < found.dbExport.offset + found.wanted buf) :
      Turn bits alloc s (.read i buf)
        (.failed (.transfer (.shortRead
          (found.wanted buf - (content.length - found.dbExport.offset)) 0)))
        { s with exports := s.exports.replace i found }
  | dropped (i found) (there : s.exports.find i = some found) :
      Turn bits alloc s (.dropExport i) .done { s with exports := s.exports.retire i }

def Turns (bits : Nat) (alloc : Nat → Nat → Bool) (s : MemTransfers) (event : TransferEvent)
    (result : Option (TransferAnswer × MemTransfers)) : Prop :=
  ∃ answer next, result = some (answer, next) ∧ Sound bits next.data ∧
    Turn bits alloc s event answer next

variable {bits : Nat} {alloc : Nat → Nat → Bool} {s next : MemTransfers} {ε α : Type}

theorem observe_ok {x : MemM ε α} {value : α} {data : MemAppData}
    (run : x.run s.data = (.ok value, data)) (failed : ε → TransferAnswer)
    (next : α → MemTransfers → TransferAnswer × MemTransfers) :
    s.observe x failed next = some (next value { s with data }) := by
  unfold observe
  rw [run]

theorem observe_err {x : MemM ε α} {error : ε} {data : MemAppData}
    (run : x.run s.data = (.err error, data)) (failed : ε → TransferAnswer)
    (next : α → MemTransfers → TransferAnswer × MemTransfers) :
    s.observe x failed next = some (failed error, { s with data }) := by
  unfold observe
  rw [run]

theorem Turns.intro {event : TransferEvent} {answer : TransferAnswer}
    (sound : Sound bits next.data) (turn : Turn bits alloc s event answer next) :
    Turns bits alloc s event (some (answer, next)) := ⟨answer, next, rfl, sound, turn⟩

/-! ### Requests outside a transfer -/

theorem observe_targets {session last : StoreSession} {x : MemM ε α} {failed : ε → StoreAnswer}
    {goesOn : α → StoreSession → StoreAnswer × StoreSession} {answer : StoreAnswer}
    (keeps : ∀ value data, (goesOn value { session with data }).2.targets = session.targets)
    (called : session.observe x failed goesOn = some (answer, last)) :
    last.targets = session.targets := by
  unfold StoreSession.observe at called
  split at called
  · rename_i value data _
    obtain rfl : (goesOn value { session with data }).2 = last := congrArg Prod.snd
      (Option.some.inj called)
    exact keeps value data
  · cases called
    rfl
  · exact nomatch called

theorem call_targets {session last : StoreSession} {request : StoreRequest} {answer : StoreAnswer}
    (direct : request.Direct) (called : session.call bits alloc request = some (answer, last)) :
    last.targets = session.targets := by
  cases request with
  | createImport | importWrite | commit | abort => exact direct.elim
  | close handle | io handle =>
      dsimp only [StoreSession.call] at called
      split at called
      · cases called
        rfl
      · exact observe_targets (fun _ _ => rfl) called
  | _ =>
      dsimp only [StoreSession.call] at called
      exact observe_targets (fun _ _ => rfl) called

theorem store_turns (good : Good bits alloc s) (request : StoreRequest) (direct : request.Direct) :
    Turns bits alloc s (.store request direct) (s.call bits alloc (.store request direct)) := by
  obtain ⟨answer, last, called, sound, step⟩ :=
    StoreSession.call_refines alloc (s := s.session) ⟨good.sound, good.isolated⟩ request
  have kept := call_targets direct called
  unfold call
  dsimp only
  rw [called]
  refine .intro sound (.store request direct answer last.data last.handles ?_)
  rw [← kept]
  exact step

/-! ### Imports -/

theorem createImport_cases (bits : Nat) (alloc : Nat → Nat → Bool) (data : MemAppData)
    (name : String) (size : Nat) :
    (size < 2 ^ bits ∧ (MemVfs.createImport bits alloc name size).run data =
        (.ok (MemVfs.importTarget bits alloc name data.cells.length),
          { data with cells := data.cells ++ [⟨[], some 4096, 0⟩] })) ∨
      ∃ error, (MemVfs.createImport bits alloc name size).run data = (.err error, data) := by
  by_cases valid : ValidDbName name
  · by_cases present : name ∈ data.files
    · refine .inr ⟨.alreadyExists name, ?_⟩
      unfold MemVfs.createImport
      rw [valid, Prog.ofExcept_ok, Prog.pure_bind, Prog.get_bind, if_pos present]
      rfl
    · by_cases fits : size < 2 ^ bits
      · exact .inl ⟨fits, MemVfs.createImport_run valid fits present⟩
      · refine .inr ⟨.io sizeExceeds, ?_⟩
        unfold MemVfs.createImport
        rw [valid, Prog.ofExcept_ok, Prog.pure_bind, Prog.get_bind, if_neg present,
          if_pos (by omega)]
        rfl
  · rcases refused : MemVfs.validateDbFilename name with error | ⟨⟩
    · refine .inr ⟨error, ?_⟩
      unfold MemVfs.createImport
      rw [refused]
      rfl
    · exact absurd refused valid

theorem begins_cases (bits : Nat) (alloc : Nat → Nat → Bool) (data : MemAppData) (name : String)
    (size : Nat) (mode : ImportMode) :
    (size < 2 ^ bits ∧ (mode = .checked → 20 ≤ size) ∧ (begins bits alloc name size mode).run data =
        (.ok (.new (MemVfs.importTarget bits alloc name data.cells.length) size mode),
          { data with cells := data.cells ++ [⟨[], some 4096, 0⟩] })) ∨
      ∃ error, (begins bits alloc name size mode).run data = (.err error, data) := by
  have created := createImport_cases bits alloc data name size
  cases mode with
  | checked =>
      unfold begins DbTransfer.beginImport
      dsimp only
      rcases sized : validateSize size with error | ⟨⟩
      · exact .inr ⟨_, rfl⟩
      · have large := (validateSize_ok.mp sized).1
        rcases created with ⟨fits, run⟩ | ⟨error, run⟩
        · exact .inl ⟨fits, fun _ => by omega, Prog.bind_ok run _⟩
        · exact .inr ⟨error, Prog.bind_err run _⟩
  | unchecked =>
      rcases created with ⟨fits, run⟩ | ⟨error, run⟩
      · exact .inl ⟨fits, nofun, Prog.bind_ok run _⟩
      · exact .inr ⟨error, Prog.bind_err run _⟩

theorem begin_turns (good : Good bits alloc s) (name : String) (size : Nat) (mode : ImportMode) :
    Turns bits alloc s (.beginImport name size mode)
      (s.call bits alloc (.beginImport name size mode)) := by
  unfold call
  dsimp only
  rcases begins_cases bits alloc s.data name size mode with ⟨fits, large, run⟩ | ⟨error, run⟩
  · rw [observe_ok run]
    exact .intro (good.sound.allocate (MemVfs.wellFormed_fresh bits).1)
      (.begun name size mode _ fits large rfl (MemAppData.inodes_allocate _))
  · rw [observe_err run]
    exact .intro good.sound (.unbegun name size mode error)

theorem write_turns (good : Good bits alloc s) (width : bits ≤ 64) (i : Nat) (bytes : List UInt8) :
    Turns bits alloc s (.write i bytes) (s.call bits alloc (.write i bytes)) := by
  unfold call
  dsimp only
  rcases there : s.imports.find i with _ | found
  · exact .intro good.sound (.absent _ there)
  dsimp only
  have kept := good.imports i found there
  have case := DbImport.write_cases found.dbImport s.data bytes
  generalize (DbImport.write bytes).run (found.dbImport, s.data) = result at case ⊢
  obtain ⟨outcome, dbImport, data⟩ := result
  dsimp only at case
  cases case with
  | sticky failed =>
      exact .intro good.sound (.unwritten i bytes found _ _ _ there failed ⟨rfl, rfl, rfl⟩ rfl)
  | overflow | excess | rejected =>
      exact .intro good.sound (.unwritten i bytes found _ _ _ there rfl ⟨rfl, rfl, rfl⟩ rfl)
  | empty running fits valid nothing =>
      have filled := (kept.filled running).append bytes
      refine .intro good.sound (.written i bytes found _ _ there running ⟨rfl, rfl, rfl⟩ filled ?_)
      rw [nothing, List.append_nil]
      exact (Inodes.hold_eq_self (kept.held running)).symm
  | issued reply last running fits valid something run =>
      have filled := kept.filled running
      have range : found.dbImport.offset < 2 ^ 64 :=
        (by have := kept.fits; omega : found.dbImport.offset < 2 ^ bits).trans_le
          (Nat.pow_le_pow_right (by decide) width)
      have offset_eq : (UInt64.ofNat found.dbImport.offset).toNat = found.dbImport.offset := by
        simpa using Nat.mod_eq_of_lt range
      have written := StoreSession.importTarget_write alloc good.sound (kept.held running)
        found.name (UInt64.ofNat found.dbImport.offset) bytes
      rw [offset_eq, ← kept.target] at written
      obtain ⟨data', sound, ⟨content, step, run', inodes, -⟩ | ⟨error, -, run', inodes, -⟩⟩ :=
        written
      · cases run.symm.trans run'
        refine .intro sound (.written i bytes found _ _ there running ⟨rfl, rfl, rfl⟩
          (filled.append bytes) ?_)
        rw [inodes]
        cases step with
        | writeEmpty => exact absurd rfl something
        | write =>
            rw [offset_eq, filled.offset_eq, SparseVector.writeAt_length]
      · cases run.symm.trans run'
        exact .intro sound (.unwritten i bytes found _ _ _ there rfl ⟨rfl, rfl, rfl⟩ inodes)

/-- An import that is given up: nothing changes. -/
theorem given_up (good : Good bits alloc s) {i : Nat} {found : OpenImport} {event : TransferEvent}
    {answer : TransferAnswer} (there : s.imports.find i = some found) (ends : event.Ends i)
    (failed : event = .finish i → ∃ error, answer = .failed error) :
    Turns bits alloc s event (some (answer, { s with imports := s.imports.retire i })) := by
  have target : s.session.targets.find i = some (found.name, found.file) := by
    unfold session
    rw [Tokens.find_view, there]
    rfl
  obtain ⟨content, held⟩ :=
    Option.ne_none_iff_exists'.mp (good.isolated.pending i found.name found.file target)
  exact .intro good.sound (.ended event i answer found s.data ends there failed rfl
    ⟨content, (Inodes.hold_eq_self held).symm⟩)

theorem reclaim_run {found : OpenImport} (kept : found.Kept bits alloc s.data)
    (error : MemVfsError) (data : MemAppData) :
    (found.dbImport.target.reclaim error : MemM MemVfsError Unit).run data =
      (.err error, data) := by
  rw [kept.target]
  rfl

/-- The reset of the version bytes writes them into the file of the import. -/
theorem reset_run (good : Good bits alloc s) {i : Nat} {found : OpenImport}
    (there : s.imports.find i = some found) (running : found.dbImport.failed = false)
    (whole : found.sent.length = found.dbImport.size) : ∃ data, Sound bits data ∧
      data.files = s.data.files ∧
      (found.dbImport.reset.run s.data = (.ok (), data) ∧ data.inodes =
          s.data.inodes.hold found.file (publishedAs found.dbImport.mode found.sent) ∨
        ∃ error, found.dbImport.reset.run s.data = (.err error, data) ∧
          data.inodes = s.data.inodes) := by
  have kept := good.imports i found there
  have held := kept.held running
  unfold DbImport.reset
  rcases mode : found.dbImport.mode with _ | _
  · rw [if_pos rfl]
    have large : 20 ≤ found.sent.length := by
      rw [whole]
      exact kept.large mode
    have written :=
      StoreSession.importTarget_write alloc good.sound held found.name (UInt64.ofNat 18) [1, 1]
    have offset_eq : (UInt64.ofNat 18).toNat = 18 := rfl
    rw [offset_eq, ← kept.target] at written
    obtain ⟨data, sound, ⟨content, step, run, inodes, files⟩ | ⟨error, -, run, inodes, files⟩⟩ :=
      written
    · refine ⟨data, sound, files, .inl ⟨run, ?_⟩⟩
      rw [inodes]
      cases step with
      | write => rw [offset_eq, resetVersions_eq found.sent large]; rfl
    · exact ⟨data, sound, files, .inr ⟨_, run, inodes⟩⟩
  · rw [if_neg nofun]
    exact ⟨s.data, good.sound, rfl, .inl ⟨rfl, (Inodes.hold_eq_self held).symm⟩⟩

theorem finish_turns (good : Good bits alloc s) (i : Nat) :
    Turns bits alloc s (.finish i) (s.call bits alloc (.finish i)) := by
  unfold call
  dsimp only
  rcases there : s.imports.find i with _ | found
  · exact .intro good.sound (.absent _ there)
  dsimp only
  have kept := good.imports i found there
  by_cases failed : found.dbImport.failed = true
  · rw [DbImport.finish_failed _ failed, observe_err (reclaim_run kept _ _)]
    exact given_up good there (.inl rfl) fun _ => ⟨_, rfl⟩
  have running : found.dbImport.failed = false := by simpa using failed
  by_cases complete : found.dbImport.offset = found.dbImport.size
  swap
  · rw [DbImport.finish_incomplete _ running complete, observe_err (reclaim_run kept _ _)]
    exact given_up good there (.inl rfl) fun _ => ⟨_, rfl⟩
  have whole : found.sent.length = found.dbImport.size :=
    (kept.filled running).offset_eq.symm.trans complete
  have held := kept.held running
  rw [DbImport.finish_complete _ running complete]
  obtain ⟨data, sound, files, ⟨run, inodes⟩ | ⟨error, run, inodes⟩⟩ :=
    reset_run good there running whole
  · by_cases present : found.name ∈ data.files
    · have refused : found.dbImport.target.commit.run data =
          (.err (.alreadyExists found.name), data) := by
        rw [kept.target]
        unfold MemVfs.importTarget
        dsimp only
        rw [Prog.get_bind, if_pos present]
        rfl
      rw [observe_err (s := { s with imports := s.imports.retire i })
        ((Prog.bind_ok (Prog.attempt_ok run) _).trans refused)]
      refine .intro sound (.ended _ i _ found data (.inl rfl) there (fun _ => ⟨_, rfl⟩) ?_
        ⟨_, inodes⟩)
      rw [inodes]
      rfl
    · have committed : found.dbImport.target.commit.run data =
          (.ok (), { data with files := data.files.insert found.name found.file }) := by
        rw [kept.target]
        exact MemVfs.commit_run present
      rw [observe_ok (s := { s with imports := s.imports.retire i })
        ((Prog.bind_ok (Prog.attempt_ok run) _).trans committed)]
      have living : found.file < data.cells.length := by
        have filled : data.inodes.contents found.file ≠ none := by
          rw [inodes, Inodes.contents_hold_self]
          exact Option.some_ne_none _
        obtain ⟨content, present⟩ := Option.ne_none_iff_exists'.mp filled
        obtain ⟨f, cell, -⟩ := MemAppData.contents_eq_some present
        exact (List.getElem?_eq_some_iff.mp cell).1
      refine .intro (sound.insert living) (.published i found _ there running whole ?_ ?_)
      · rw [files] at present
        exact AList.lookup_eq_none.mpr present
      · rw [← inodes, MemAppData.inodes_insert]
  · rw [observe_err (s := { s with imports := s.imports.retire i })
      ((Prog.bind_ok (Prog.attempt_err run) _).trans (reclaim_run kept error data))]
    refine .intro sound (.ended _ i _ found data (.inl rfl) there (fun _ => ⟨_, rfl⟩) ?_
      ⟨found.sent, ?_⟩)
    · rw [inodes]
    · rw [inodes, Inodes.hold_eq_self held]

theorem abort_turns (good : Good bits alloc s) (i : Nat) :
    Turns bits alloc s (.abort i) (s.call bits alloc (.abort i)) := by
  unfold call
  dsimp only
  rcases there : s.imports.find i with _ | found
  · exact .intro good.sound (.absent _ there)
  have run : found.dbImport.abort.run s.data = (.ok (), s.data) := by
    unfold DbImport.abort
    rw [(good.imports i found there).target]
    rfl
  dsimp only
  rw [observe_ok (s := { s with imports := s.imports.retire i }) run]
  exact given_up good there (.inr (.inl rfl)) nofun

theorem dropImport_turns (good : Good bits alloc s) (i : Nat) :
    Turns bits alloc s (.dropImport i) (s.call bits alloc (.dropImport i)) := by
  unfold call
  dsimp only
  rcases there : s.imports.find i with _ | found
  · exact .intro good.sound (.absent _ there)
  have run : found.dbImport.drop.run s.data = (.ok (), s.data) := by
    unfold DbImport.drop
    rw [(good.imports i found there).target]
    rfl
  dsimp only
  rw [observe_ok (s := { s with imports := s.imports.retire i }) run]
  exact given_up good there (.inr (.inr rfl)) nofun

/-! ### Exports -/

theorem beginExport_turns (good : Good bits alloc s) (name : String) :
    Turns bits alloc s (.beginExport name) (s.call bits alloc (.beginExport name)) := by
  unfold call
  dsimp only
  rcases bound : s.data.files.lookup name with _ | file
  · have run : ((MemVfs.transfers bits alloc).beginExport name).run s.data =
        (.err (.notFound name), s.data) := by
      unfold DbTransfer.beginExport MemVfs.transfers MemVfs.openExport
      dsimp only
      rw [Prog.bind_assoc, Prog.get_bind, bound]
      rfl
    rw [observe_err run]
    exact .intro good.sound (.unexporting name _ bound)
  · obtain ⟨held, present⟩ :=
      Option.ne_none_iff_exists'.mp (good.isolated.closed name file bound)
    obtain ⟨f, cell, rfl⟩ := MemAppData.contents_eq_some present
    have wf := good.sound.wellFormed f (List.mem_of_getElem? cell)
    have size : (MemVfs.onFile file MemChunksFile.size).run s.data =
        (.ok f.contents.length, s.data) := by
      rw [wf.length_contents]
      exact MemVfs.onFile_pure cell rfl
    have run : ((MemVfs.transfers bits alloc).beginExport name).run s.data =
        (.ok (.new (MemVfs.exportSource bits file f.contents.length)), s.data) := by
      unfold DbTransfer.beginExport MemVfs.transfers MemVfs.openExport
      dsimp only
      rw [Prog.bind_assoc, Prog.get_bind, bound]
      change ((Prog.mapErr MemVfsError.io (MemVfs.onFile file MemChunksFile.size) >>= _) >>= _).run
        s.data = _
      rw [Prog.bind_assoc, Prog.bind_ok (Prog.mapErr_ok_iff.mpr size)]
      rfl
    rw [observe_ok run]
    refine .intro good.sound (.exporting name file f.contents bound present ?_)
    rw [wf.length_contents]
    exact wf.fits

theorem read_turns (good : Good bits alloc s) (width : bits ≤ 64) (i : Nat) (buf : List UInt8) :
    Turns bits alloc s (.read i buf) (s.call bits alloc (.read i buf)) := by
  unfold call
  dsimp only
  rcases there : s.exports.find i with _ | found
  · exact .intro good.sound (.absent _ there)
  dsimp only
  have kept := good.exports i found there
  obtain ⟨size, source⟩ := kept.source
  obtain ⟨content, held⟩ := Option.ne_none_iff_exists'.mp (good.retained i found there).1
  have range : found.dbExport.size < u64Size :=
    kept.fits.trans_le (Nat.pow_le_pow_right (by decide) width)
  obtain ⟨whole, short⟩ := MemVfs.read_run good.sound held source kept.within range buf
  by_cases inside : found.wanted buf = 0 ∨
      found.dbExport.offset + found.wanted buf ≤ content.length
  · rw [whole inside]
    exact .intro good.sound (.read i buf found content there held inside)
  · have positive : 0 < found.wanted buf := by omega
    have past : content.length < found.dbExport.offset + found.wanted buf := by omega
    rw [short positive past]
    exact .intro good.sound (.fellShort i buf found content there held positive past)

theorem dropExport_turns (good : Good bits alloc s) (i : Nat) :
    Turns bits alloc s (.dropExport i) (s.call bits alloc (.dropExport i)) := by
  unfold call
  dsimp only
  rcases there : s.exports.find i with _ | found
  · exact .intro good.sound (.absent _ there)
  obtain ⟨size, source⟩ := (good.exports i found there).source
  have run : found.dbExport.drop.run s.data = (.ok (), s.data) := by
    unfold DbExport.drop
    rw [source]
    rfl
  dsimp only
  rw [observe_ok (s := { s with exports := s.exports.retire i }) run]
  exact .intro good.sound (.dropped i found there)

theorem call_turns (good : Good bits alloc s) (width : bits ≤ 64) (event : TransferEvent) :
    Turns bits alloc s event (s.call bits alloc event) := by
  cases event with
  | store request direct => exact store_turns good request direct
  | beginImport name size mode => exact begin_turns good name size mode
  | write i bytes => exact write_turns good width i bytes
  | finish i => exact finish_turns good i
  | abort i => exact abort_turns good i
  | dropImport i => exact dropImport_turns good i
  | beginExport name => exact beginExport_turns good name
  | read i buf => exact read_turns good width i buf
  | dropExport i => exact dropExport_turns good i

end MemTransfers

end SqliteVfs
