import SqliteVfs.Base.History
import SqliteVfs.Core.TransferSpec

/-!
# The import protocol

A session starts an import at any backend, writes any chunks and ends it.  The target
is wrapped so that every call it receives is recorded between the returns of its client.
`Allowed` says when each event may happen; every session only makes allowed events and
disposes of its target exactly once.
-/

set_option autoImplicit false

namespace SqliteVfs

namespace ImportProtocol

inductive Ending where
  | finish
  | abort
  | drop
  deriving DecidableEq, Repr

/-- What happens in an import session: the calls its target receives with their replies,
and the returns of the client's own calls. -/
inductive ImportEvent (ε : Type) where
  | targetWrite (offset : Nat) (bytes : List UInt8) (reply : Outcome ε Unit)
  | targetCommit (reply : Outcome ε Unit)
  | targetAbort (reply : Outcome ε Unit)
  | targetAbortWithError (error : ε) (reply : Outcome Empty ε)
  | targetDrop (reply : Outcome Empty Unit)
  | wrote (chunk : List UInt8) (reply : Except ε Unit)
  | finishing
  | finished (reply : Except ε Unit)
  | aborted (reply : Except ε Unit)
  | dropped

abbrev ImportLog (ε : Type) : Type := List (ImportEvent ε)

variable {σ ε ε' α : Type}

def recorded (label : Outcome ε α → ImportEvent ε') (x : Prog σ ε α) :
    Prog (ImportLog ε' × σ) ε α :=
  ⟨fun s => ((x.run s.2).1, (s.1 ++ [label (x.run s.2).1], (x.run s.2).2))⟩

def note (event : ImportEvent ε) : Prog (ImportLog ε × σ) ε' Unit :=
  Prog.modify fun s => (s.1 ++ [event], s.2)

def traced (target : ImportTarget σ ε) : ImportTarget (ImportLog ε × σ) ε where
  writeAt offset bytes := recorded (.targetWrite offset bytes) (target.writeAt offset bytes)
  commit := recorded .targetCommit target.commit
  abort := recorded .targetAbort target.abort
  abortWithError error := recorded (.targetAbortWithError error) (target.abortWithError error)
  drop := recorded .targetDrop target.drop

def untraced (source : ExportSource σ ε) : ExportSource (ImportLog ε × σ) ε where
  size := source.size
  readAt offset buf := Prog.onSnd (source.readAt offset buf)
  drop := Prog.onSnd source.drop
  keepsLength offset buf s count filled next run := by
    refine source.keepsLength offset buf s.2 count filled next.2 ?_
    simp only [Prog.onSnd, Prod.ext_iff] at run
    exact Prod.ext run.1 run.2.2

def tracedStore (store : DbTransfer σ ε) : DbTransfer (ImportLog ε × σ) ε where
  createImport name size := do
    let target ← Prog.onSnd (store.createImport name size)
    pure (traced target)
  openExport name := do
    let source ← Prog.onSnd (store.openExport name)
    pure (untraced source)

/-! ## Sessions -/

section Session

variable [FromTransferError ε]

def writeStep (chunk : List UInt8) :
    Prog (DbImport (ImportLog ε × σ) ε × ImportLog ε × σ) Empty Unit := do
  let reply ← Prog.attempt (DbImport.write chunk)
  Prog.onSnd (note (.wrote chunk reply))

def writeEach :
    List (List UInt8) → Prog (DbImport (ImportLog ε × σ) ε × ImportLog ε × σ) Empty Unit
  | [] => pure ()
  | chunk :: rest => do
    writeStep chunk
    writeEach rest

def close (self : DbImport (ImportLog ε × σ) ε) : Ending → Prog (ImportLog ε × σ) Empty Unit
  | .finish => do
    note .finishing
    let reply ← Prog.attempt self.finish
    note (.finished reply)
  | .abort => do
    let reply ← Prog.attempt self.abort
    note (.aborted reply)
  | .drop => do
    self.drop
    note .dropped

def begin (store : DbTransfer σ ε) (name : String) (size : Nat) :
    ImportMode → Prog σ ε (DbImport σ ε)
  | .checked => store.beginImport name size
  | .unchecked => store.beginImportUnchecked name size

/-- Fails only if the import could not be started. -/
def session (store : DbTransfer σ ε) (name : String) (size : Nat) (mode : ImportMode)
    (chunks : List (List UInt8)) (ending : Ending) : Prog (ImportLog ε × σ) ε Unit := do
  let dbImport ← begin (tracedStore store) name size mode
  let ((), dbImport) ← Prog.widen (Prog.withState dbImport (writeEach chunks))
  Prog.widen (close dbImport ending)

end Session

/-! ## The rules -/

/-- The chunks whose write returned `Ok`, in order. -/
def accepted (log : ImportLog ε) : List UInt8 :=
  log.flatMap fun
    | .wrote chunk (.ok ()) => chunk
    | _ => []

def stored (log : ImportLog ε) : List UInt8 :=
  log.flatMap fun
    | .targetWrite _ bytes (.ok ()) => bytes
    | _ => []

def WriteFailed (log : ImportLog ε) : Prop :=
  ∃ chunk error, ImportEvent.wrote chunk (.error error) ∈ log

def ImportEvent.disposes : ImportEvent ε → Bool
  | .targetCommit _ | .targetAbort _ | .targetAbortWithError _ _ | .targetDrop _ => true
  | _ => false

def ImportEvent.Halts (why : Halt) : ImportEvent ε → Prop
  | .targetWrite _ _ reply | .targetCommit reply | .targetAbort reply => reply = .halt why
  | .targetAbortWithError _ reply => reply = .halt why
  | .targetDrop reply => reply = .halt why
  | _ => False

def Halted (why : Halt) (log : ImportLog ε) : Prop := ∃ event ∈ log, event.Halts why

def Disposed (log : ImportLog ε) : Prop := ∃ event ∈ log, event.disposes = true

/-- The first 18 of `bytes`, with the declared size, pass validation. -/
def Validated (size : Nat) (bytes : List UInt8) : Prop :=
  checkImportHeader (bytes.take 18) size = .ok ()

section Rules

variable [FromTransferError ε]

def Allowed (size : Nat) (mode : ImportMode) (before : ImportLog ε) : ImportEvent ε → Prop
  | .targetWrite offset bytes _ => ¬ Disposed before ∧ ¬ WriteFailed before ∧
      (.finishing ∉ before →
        -- a `write`: next to what is stored, within the size, validated if it passes the header
        offset = (stored before).length ∧ stored before = accepted before ∧
          offset + bytes.length ≤ size ∧
          (mode = .checked → 18 ≤ offset + bytes.length →
            Validated size (accepted before ++ bytes))) ∧
      (.finishing ∈ before →
        mode = .checked ∧ offset = 18 ∧ bytes = [1, 1] ∧ (accepted before).length = size)
  | .wrote chunk reply => ¬ Disposed before ∧ .finishing ∉ before ∧
      (WriteFailed before → reply = .error (ofTransfer .importFailed)) ∧
      stored before = accepted (before ++ [.wrote chunk reply])
  | .finishing => ¬ Disposed before ∧ .finishing ∉ before
  | .targetCommit _ => ¬ Disposed before ∧ .finishing ∈ before ∧ ¬ WriteFailed before ∧
      (accepted before).length = size ∧
      (mode = .checked → Validated size (accepted before) ∧
        ∃ earlier, .finishing ∈ earlier ∧
          before = earlier ++ [.targetWrite 18 [1, 1] (.ok ())])
  | .targetAbort _ => ¬ Disposed before ∧ .finishing ∉ before
  | .targetAbortWithError _ _ => ¬ Disposed before ∧ .finishing ∈ before
  | .targetDrop _ => ¬ Disposed before ∧ .finishing ∉ before
  | .finished reply => Disposed before ∧ .finishing ∈ before ∧
      (WriteFailed before → ∃ error, reply = .error error) ∧
      (reply = .ok () → .targetCommit (.ok ()) ∈ before)
  | .aborted _ => Disposed before ∧ .finishing ∉ before
  | .dropped => Disposed before ∧ .finishing ∉ before

end Rules

/-! ## Reading a log -/

section Reading

@[simp] theorem accepted_append (log more : ImportLog ε) :
    accepted (log ++ more) = accepted log ++ accepted more := List.flatMap_append

@[simp] theorem stored_append (log more : ImportLog ε) :
    stored (log ++ more) = stored log ++ stored more := List.flatMap_append

@[simp] theorem writeFailed_append (log more : ImportLog ε) :
    WriteFailed (log ++ more) ↔ WriteFailed log ∨ WriteFailed more := by
  simp [WriteFailed, exists_or]

@[simp] theorem disposed_append (log more : ImportLog ε) :
    Disposed (log ++ more) ↔ Disposed log ∨ Disposed more := by
  simp [Disposed, or_and_right, exists_or]

@[simp] theorem writeFailed_wrote (chunk : List UInt8) (reply : Except ε Unit) :
    WriteFailed [.wrote chunk reply] ↔ reply ≠ .ok () := by
  rcases reply with error | ⟨⟩ <;> simp [WriteFailed]

@[simp] theorem disposed_singleton (event : ImportEvent ε) :
    Disposed [event] ↔ event.disposes = true := by
  simp [Disposed]

theorem halted_snoc {why : Halt} (log : ImportLog ε) {event : ImportEvent ε}
    (halts : event.Halts why) : Halted why (log ++ [event]) :=
  ⟨event, by simp, halts⟩

theorem disposals_eq_nil {log : ImportLog ε} (undisposed : ¬ Disposed log) :
    log.filter ImportEvent.disposes = [] := by
  rw [List.filter_eq_nil_iff]
  exact fun event member disposes => undisposed ⟨event, member, disposes⟩

theorem length_disposals {log : ImportLog ε} {event : ImportEvent ε} (undisposed : ¬ Disposed log)
    (disposes : event.disposes = true) :
    ((log ++ [event]).filter ImportEvent.disposes).length = 1 := by
  simp [disposals_eq_nil undisposed, disposes]

theorem note_bind (event : ImportEvent ε) (f : Unit → Prog (ImportLog ε × σ) ε' α)
    (log : ImportLog ε) (s : σ) :
    (note event >>= f).run (log, s) = (f ()).run (log ++ [event], s) := rfl

theorem attempt_note_run (x : Prog (ImportLog ε × σ) ε Unit)
    (label : Except ε Unit → ImportEvent ε) (state : ImportLog ε × σ) :
    (do
      let reply ← Prog.attempt x
      note (label reply) : Prog (ImportLog ε × σ) Empty Unit).run state =
      match x.run state with
      | (.ok (), log, s) => (.ok (), log ++ [label (.ok ())], s)
      | (.err error, log, s) => (.ok (), log ++ [label (.error error)], s)
      | (.halt why, log, s) => (.halt why, log, s) := by
  unfold Prog.attempt
  rw [Prog.bind_run]
  simp only
  rcases x.run state with ⟨outcome, log, s⟩
  cases outcome <;> rfl

theorem disposed_of_once {log : ImportLog ε}
    (once : (log.filter ImportEvent.disposes).length = 1) : Disposed log := by
  obtain ⟨event, only⟩ := List.length_eq_one_iff.mp once
  have member : event ∈ log.filter ImportEvent.disposes := by simp [only]
  exact ⟨event, (List.mem_filter.mp member).1, (List.mem_filter.mp member).2⟩

theorem create_run (store : DbTransfer σ ε) (name : String) (size : Nat) (mode : ImportMode)
    (log : ImportLog ε) (s : σ) :
    (do
      let target ← (tracedStore store).createImport name size
      pure (DbImport.new target size mode) : Prog (ImportLog ε × σ) ε _).run (log, s) =
      match (store.createImport name size).run s with
      | (.ok target, s') => (.ok (DbImport.new (traced target) size mode), log, s')
      | (.err error, s') => (.err error, log, s')
      | (.halt why, s') => (.halt why, log, s') := by
  unfold tracedStore Prog.onSnd
  simp only [Prog.bind_run]
  rcases (store.createImport name size).run s with ⟨outcome, s'⟩
  cases outcome <;> rfl

end Reading

/-! ## Writing -/

variable [FromTransferError ε]

structure Progress (target : ImportTarget σ ε) (size : Nat) (mode : ImportMode)
    (dbImport : DbImport (ImportLog ε × σ) ε) (log : ImportLog ε) : Prop where
  target_eq : dbImport.target = traced target
  size_eq : dbImport.size = size
  mode_eq : dbImport.mode = mode
  failed_iff : dbImport.failed = true ↔ WriteFailed log
  offset_eq : dbImport.offset = (accepted log).length
  offset_le : dbImport.offset ≤ size
  length_header : dbImport.header.length = 18
  header_eq : dbImport.failed = false → mode = .checked →
    dbImport.header.take dbImport.offset = (accepted log).take 18
  validated : mode = .checked → 18 ≤ dbImport.offset → Validated size (accepted log)
  stored_eq : stored log = accepted log
  allowed : Always (Allowed size mode) log
  undisposed : ¬ Disposed log
  writing : .finishing ∉ log

variable {target : ImportTarget σ ε} {size : Nat} {mode : ImportMode}
  {dbImport : DbImport (ImportLog ε × σ) ε} {log : ImportLog ε}

theorem Progress.start (target : ImportTarget σ ε) (size : Nat) (mode : ImportMode) :
    Progress target size mode (DbImport.new (traced target) size mode) [] where
  target_eq := rfl
  size_eq := rfl
  mode_eq := rfl
  failed_iff := by simp [DbImport.new, WriteFailed]
  offset_eq := rfl
  offset_le := Nat.zero_le _
  length_header := rfl
  header_eq _ _ := rfl
  validated _ enough := by simp [DbImport.new] at enough
  stored_eq := rfl
  allowed := .nil
  undisposed := by simp [Disposed]
  writing := by simp

theorem Progress.filled (progress : Progress target size mode dbImport log)
    (running : dbImport.failed = false) : dbImport.Filled (accepted log) where
  offset_eq := progress.offset_eq
  length_header := progress.length_header
  header_eq checked := progress.header_eq running (progress.mode_eq.symm.trans checked)

/-- A chunk that reaches past the header comes after the header was validated. -/
theorem Progress.validated_with (progress : Progress target size mode dbImport log)
    (running : dbImport.failed = false) (bytes : List UInt8)
    (valid : dbImport.Completes bytes →
      checkImportHeader (dbImport.collected bytes) dbImport.size = .ok ())
    (checked : mode = .checked) (enough : 18 ≤ dbImport.offset + bytes.length) :
    Validated size (accepted log ++ bytes) := by
  have filled := progress.filled running
  have offset := filled.offset_eq
  unfold Validated
  by_cases collecting : dbImport.offset < 18
  · have completes : dbImport.Completes bytes :=
      filled.completes.mpr ⟨progress.mode_eq.trans checked, by omega, by omega⟩
    rw [checkImportHeader_take, ← filled.check_collected completes, ← progress.size_eq]
    exact valid completes
  · rw [List.take_append_of_le_length (by omega)]
    exact progress.validated checked (by omega)

/-- A failed write changes nothing but the failure flag and the header buffer. -/
theorem Progress.fail (progress : Progress target size mode dbImport log) {after : ImportLog ε}
    {chunk : List UInt8} {error : ε} {dbImport' : DbImport (ImportLog ε × σ) ε}
    (kept : dbImport'.target = dbImport.target ∧ dbImport'.size = dbImport.size ∧
      dbImport'.mode = dbImport.mode ∧ dbImport'.offset = dbImport.offset ∧
      dbImport'.header.length = dbImport.header.length ∧ dbImport'.failed = true)
    (sticky : WriteFailed log → error = ofTransfer .importFailed)
    (same : accepted after = accepted log ∧ stored after = stored log ∧
      (WriteFailed after ↔ WriteFailed log) ∧ ¬ Disposed after ∧ .finishing ∉ after)
    (allowed : Always (Allowed size mode) after) :
    Progress target size mode dbImport' (after ++ [.wrote chunk (.error error)]) := by
  obtain ⟨sameTarget, sameSize, sameMode, sameOffset, sameLength, failed⟩ := kept
  obtain ⟨sameAccepted, sameStored, sameFailed, undisposed, writing⟩ := same
  have nothing : accepted ([.wrote chunk (.error error)] : ImportLog ε) = [] := rfl
  have none : stored ([.wrote chunk (.error error)] : ImportLog ε) = [] := rfl
  refine ⟨sameTarget.trans progress.target_eq, sameSize.trans progress.size_eq,
    sameMode.trans progress.mode_eq, ?_, ?_, ?_, sameLength.trans progress.length_header, ?_, ?_,
    ?_, allowed.snoc ?_, ?_, ?_⟩
  · simp [failed]
  · rw [sameOffset, progress.offset_eq, accepted_append, nothing, sameAccepted, List.append_nil]
  · rw [sameOffset]
    exact progress.offset_le
  · intro running
    simp [failed] at running
  · intro checked enough
    rw [accepted_append, nothing, sameAccepted, List.append_nil]
    exact progress.validated checked (by omega)
  · rw [accepted_append, stored_append, nothing, none, sameAccepted, sameStored,
      progress.stored_eq]
  · refine ⟨undisposed, writing, fun earlier => ?_, ?_⟩
    · rw [sticky (sameFailed.mp earlier)]
    · rw [accepted_append, nothing, List.append_nil, sameStored, sameAccepted, progress.stored_eq]
  · simp [undisposed, ImportEvent.disposes]
  · simp [writing]

/-- A successful write extends what was accepted by its chunk. -/
theorem Progress.extend (progress : Progress target size mode dbImport log) {after : ImportLog ε}
    {chunk : List UInt8} (running : dbImport.failed = false)
    (fits : dbImport.offset + chunk.length ≤ dbImport.size)
    (valid : dbImport.Completes chunk →
      checkImportHeader (dbImport.collected chunk) dbImport.size = .ok ())
    (same : accepted after = accepted log ∧ stored after = stored log ++ chunk ∧
      ¬ WriteFailed after ∧ ¬ Disposed after ∧ .finishing ∉ after)
    (allowed : Always (Allowed size mode) after) :
    Progress target size mode
      { dbImport with
        header := dbImport.collected chunk
        offset := dbImport.offset + chunk.length
        failed := false }
      (after ++ [.wrote chunk (.ok ())]) := by
  obtain ⟨sameAccepted, more, unfailed, undisposed, writing⟩ := same
  have now : accepted (after ++ [.wrote chunk (.ok ())]) = accepted log ++ chunk := by
    rw [accepted_append, sameAccepted]
    simp [accepted]
  have none : stored ([.wrote chunk (.ok ())] : ImportLog ε) = [] := rfl
  refine ⟨progress.target_eq, progress.size_eq, progress.mode_eq, ?_, ?_, ?_, ?_, ?_, ?_, ?_,
    allowed.snoc ?_, ?_, ?_⟩
  · simp [unfailed]
  · rw [now, List.length_append, ← progress.offset_eq]
  · rw [← progress.size_eq]
    exact fits
  · rw [DbImport.length_collected]
    exact progress.length_header
  · intro _ checked
    rw [now]
    exact ((progress.filled running).append chunk).header_eq (progress.mode_eq.trans checked)
  · intro checked enough
    rw [now]
    exact progress.validated_with running chunk valid checked enough
  · rw [now, stored_append, none, List.append_nil, more, progress.stored_eq]
  · exact ⟨undisposed, writing, fun failed => absurd failed unfailed,
      by rw [now, more, progress.stored_eq]⟩
  · simp [undisposed, ImportEvent.disposes]
  · simp [writing]

theorem writeStep_run (chunk : List UInt8) (dbImport : DbImport (ImportLog ε × σ) ε)
    (state : ImportLog ε × σ) :
    (writeStep chunk).run (dbImport, state) =
      match (DbImport.write chunk).run (dbImport, state) with
      | (.ok (), dbImport', log, s) => (.ok (), dbImport', log ++ [.wrote chunk (.ok ())], s)
      | (.err error, dbImport', log, s) =>
          (.ok (), dbImport', log ++ [.wrote chunk (.error error)], s)
      | (.halt why, dbImport', log, s) => (.halt why, dbImport', log, s) := by
  unfold writeStep Prog.attempt
  rw [Prog.bind_run]
  simp only
  rcases (DbImport.write chunk).run (dbImport, state) with ⟨outcome, dbImport', log, s⟩
  cases outcome <;> rfl

theorem issue_allowed (progress : Progress target size mode dbImport log) {chunk : List UInt8}
    (running : dbImport.failed = false) (fits : dbImport.offset + chunk.length ≤ dbImport.size)
    (valid : dbImport.Completes chunk →
      checkImportHeader (dbImport.collected chunk) dbImport.size = .ok ())
    (reply : Outcome ε Unit) :
    Allowed size mode log (.targetWrite dbImport.offset chunk reply) := by
  have unfailed : ¬ WriteFailed log := by
    rw [← progress.failed_iff, running]
    exact Bool.false_ne_true
  refine ⟨progress.undisposed, unfailed, fun _ => ⟨?_, progress.stored_eq, ?_, ?_⟩,
    fun finishing => absurd finishing progress.writing⟩
  · rw [progress.stored_eq, progress.offset_eq]
  · rw [← progress.size_eq]
    exact fits
  · intro checked enough
    exact progress.validated_with running chunk valid checked enough

/-- One write keeps the progress, or halts after allowed events only. -/
theorem writeStep_progress (progress : Progress target size mode dbImport log) (s : σ)
    (chunk : List UInt8) :
    Prog.wp (writeStep chunk)
      (fun outcome state => match outcome with
        | .ok () => Progress target size mode state.1 state.2.1
        | .err _ => False
        | .halt why => Always (Allowed size mode) state.2.1 ∧ Halted why state.2.1)
      (dbImport, log, s) := by
  have unchanged : accepted log = accepted log ∧ stored log = stored log ∧
      (WriteFailed log ↔ WriteFailed log) ∧ ¬ Disposed log ∧ .finishing ∉ log :=
    ⟨rfl, rfl, Iff.rfl, progress.undisposed, progress.writing⟩
  have running_of (running : dbImport.failed = false) : ¬ WriteFailed log := by
    rw [← progress.failed_iff, running]
    exact Bool.false_ne_true
  unfold Prog.wp
  rw [writeStep_run]
  have done := DbImport.write_cases dbImport (log, s) chunk
  generalize (DbImport.write chunk).run (dbImport, log, s) = result at done ⊢
  obtain ⟨outcome, state⟩ := result
  dsimp only at done
  cases done with
  | sticky failed =>
      exact progress.fail ⟨rfl, rfl, rfl, rfl, rfl, failed⟩ (fun _ => rfl) unchanged
        progress.allowed
  | overflow running _ =>
      exact progress.fail ⟨rfl, rfl, rfl, rfl, rfl, rfl⟩
        (fun failed => absurd failed (running_of running)) unchanged progress.allowed
  | excess running _ =>
      exact progress.fail ⟨rfl, rfl, rfl, rfl, rfl, rfl⟩
        (fun failed => absurd failed (running_of running)) unchanged progress.allowed
  | rejected error running fits completes invalid =>
      exact progress.fail ⟨rfl, rfl, rfl, rfl, DbImport.length_collected _ _, rfl⟩
        (fun failed => absurd failed (running_of running)) unchanged progress.allowed
  | empty running fits valid nothing =>
      refine progress.extend running fits valid ⟨rfl, ?_, running_of running, progress.undisposed,
        progress.writing⟩ progress.allowed
      rw [nothing, List.append_nil]
  | issued _ next running fits valid something run =>
      have allowed := progress.allowed.snoc (issue_allowed progress running fits valid outcome)
      rw [progress.target_eq] at run
      have logged : next.1 = log ++ [.targetWrite dbImport.offset chunk outcome] := by
        simp only [traced, recorded, Prod.ext_iff] at run
        rw [← run.2.1, run.1]
      obtain ⟨after, s'⟩ := next
      obtain rfl : after = _ := logged
      have unfailed : ¬ WriteFailed [.targetWrite dbImport.offset chunk outcome] := by
        simp [WriteFailed]
      have same : ¬ Disposed (log ++ [.targetWrite dbImport.offset chunk outcome]) ∧
          .finishing ∉ log ++ [.targetWrite dbImport.offset chunk outcome] := by
        simp [progress.undisposed, progress.writing, ImportEvent.disposes]
      cases outcome with
      | ok value =>
          refine progress.extend running fits valid ⟨?_, ?_, ?_, same⟩ allowed
          · simp [accepted]
          · simp [stored]
          · simp [unfailed, running_of running]
      | err error =>
          refine progress.fail ⟨rfl, rfl, rfl, rfl, DbImport.length_collected _ _, rfl⟩
            (fun failed => absurd failed (running_of running)) ⟨?_, ?_, ?_, same⟩ allowed
          · simp [accepted]
          · simp [stored]
          · simp [unfailed]
      | halt why => exact ⟨allowed, halted_snoc log rfl⟩

theorem writeEach_progress (chunks : List (List UInt8))
    (progress : Progress target size mode dbImport log) (s : σ) :
    Prog.wp (writeEach chunks)
      (fun outcome state => match outcome with
        | .ok () => Progress target size mode state.1 state.2.1
        | .err _ => False
        | .halt why => Always (Allowed size mode) state.2.1 ∧ Halted why state.2.1)
      (dbImport, log, s) := by
  induction chunks generalizing dbImport log s with
  | nil => exact progress
  | cons chunk rest ih =>
      unfold writeEach
      rw [Prog.wp_bind]
      refine Prog.wp_mono (writeStep_progress progress s chunk) ?_
      rintro (⟨⟩ | error | why) ⟨dbImport', log', s'⟩ after
      · exact ih after s'
      · exact after.elim
      · exact after

/-! ## Ending -/

/-- How `finish` leaves the log: one disposal, of which its outcome tells. -/
def Concluded (size : Nat) (mode : ImportMode) (outcome : Outcome ε Unit)
    (state : ImportLog ε × σ) : Prop :=
  Always (Allowed size mode) state.1 ∧ .finishing ∈ state.1 ∧
    ((∃ why, outcome = .halt why ∧ Halted why state.1) ∨
      (∀ why, outcome ≠ .halt why) ∧ (state.1.filter ImportEvent.disposes).length = 1 ∧
        (WriteFailed state.1 → ∃ error, outcome = .err error) ∧
        (outcome = .ok () → .targetCommit (.ok ()) ∈ state.1))

theorem reclaim_concluded (target : ImportTarget σ ε) (error : ε) (s : σ)
    (allowed : Always (Allowed size mode) log) (undisposed : ¬ Disposed log)
    (finishing : .finishing ∈ log) :
    Prog.wp ((traced target).reclaim error) (Concluded size mode) (log, s) := by
  have next (reply : Outcome Empty ε) :
      Always (Allowed size mode) (log ++ [.targetAbortWithError error reply]) :=
    allowed.snoc ⟨undisposed, finishing⟩
  unfold ImportTarget.reclaim Prog.widen
  rw [Prog.wp_bind, Prog.wp_mapErr]
  unfold Prog.wp traced recorded
  simp only
  rcases (target.abortWithError error).run s with ⟨reply | none | why, s'⟩
  · refine ⟨next _, by simp [finishing], .inr ⟨fun _ halts => (nomatch halts),
      length_disposals undisposed rfl, ?_, ?_⟩⟩
    · exact fun _ => ⟨_, rfl⟩
    · exact fun ok => nomatch ok
  · exact none.elim
  · exact ⟨next _, by simp [finishing], .inl ⟨why, rfl, halted_snoc log rfl⟩⟩

theorem commit_concluded (target : ImportTarget σ ε) (s : σ)
    (allowed : Always (Allowed size mode) log) (unfailed : ¬ WriteFailed log)
    (may : ∀ reply, Allowed size mode log (.targetCommit reply)) :
    Prog.wp (traced target).commit (Concluded size mode) (log, s) := by
  have undisposed := (may (.ok ())).1
  have finishing := (may (.ok ())).2.1
  have next (reply : Outcome ε Unit) :
      Always (Allowed size mode) (log ++ [.targetCommit reply]) := allowed.snoc (may reply)
  unfold Prog.wp traced recorded
  simp only
  rcases target.commit.run s with ⟨reply, s'⟩
  refine ⟨next reply, by simp [finishing], ?_⟩
  cases reply with
  | ok value =>
      refine .inr ⟨fun _ halts => (nomatch halts), length_disposals undisposed rfl,
        fun failed => ?_, fun _ => by simp⟩
      have none : ¬ WriteFailed [(.targetCommit (.ok value) : ImportEvent ε)] := by
        simp [WriteFailed]
      simp [unfailed, none] at failed
  | err error =>
      exact .inr ⟨fun _ halts => (nomatch halts), length_disposals undisposed rfl,
        fun _ => ⟨error, rfl⟩, fun ok => (nomatch ok)⟩
  | halt why => exact .inl ⟨why, rfl, halted_snoc log rfl⟩

theorem finish_concluded (progress : Progress target size mode dbImport log)
    (large : mode = .checked → 18 ≤ size) (s : σ) :
    Prog.wp dbImport.finish (Concluded size mode) (log ++ [.finishing], s) := by
  have allowed : Always (Allowed size mode) (log ++ [.finishing]) :=
    progress.allowed.snoc ⟨progress.undisposed, progress.writing⟩
  have undisposed : ¬ Disposed (log ++ [.finishing]) := by
    simp [progress.undisposed, ImportEvent.disposes]
  have finishing : .finishing ∈ log ++ [(.finishing : ImportEvent ε)] := by simp
  by_cases failed : dbImport.failed = true
  · rw [DbImport.finish_failed _ failed, progress.target_eq]
    exact reclaim_concluded target _ s allowed undisposed finishing
  have running : dbImport.failed = false := by simpa using failed
  by_cases incomplete : dbImport.offset ≠ dbImport.size
  · rw [DbImport.finish_incomplete _ running incomplete, progress.target_eq]
    exact reclaim_concluded target _ s allowed undisposed finishing
  have complete : dbImport.offset = dbImport.size := not_not.mp incomplete
  have unfailed : ¬ WriteFailed log := by simp [← progress.failed_iff, running]
  have whole : (accepted log).length = size := by
    rw [← progress.offset_eq, complete, progress.size_eq]
  have same : accepted (log ++ [.finishing]) = accepted log := by simp [accepted]
  have unfailed' : ¬ WriteFailed (log ++ [.finishing]) := by
    rw [writeFailed_append]
    exact fun failed => failed.elim unfailed (by simp [WriteFailed])
  rw [DbImport.finish_complete _ running complete]
  unfold DbImport.reset
  rw [Prog.wp_bind, Prog.wp_attempt, progress.mode_eq, progress.target_eq]
  by_cases checked : mode = .checked
  · rw [if_pos checked]
    unfold Prog.wp traced recorded
    simp only
    have written (reply : Outcome ε Unit) : Always (Allowed size mode)
        (log ++ [.finishing] ++ [.targetWrite 18 [1, 1] reply]) := by
      refine allowed.snoc ⟨undisposed, unfailed', fun h => absurd finishing h, fun _ => ?_⟩
      exact ⟨checked, rfl, rfl, by rw [same, whole]⟩
    rcases (target.writeAt 18 [1, 1]).run s with ⟨⟨⟩ | error | why, s'⟩
    · have same' : accepted (log ++ [.finishing] ++ [.targetWrite 18 [1, 1] (.ok ())]) =
          accepted log := by simp [accepted]
      have unfailed'' :
          ¬ WriteFailed (log ++ [.finishing] ++ [.targetWrite 18 [1, 1] (.ok ())]) := by
        rw [writeFailed_append]
        exact fun failed => failed.elim unfailed' (by simp [WriteFailed])
      refine commit_concluded target s' (written _) unfailed'' fun reply => ?_
      refine ⟨?_, by simp, unfailed'', by rw [same', whole], fun _ => ⟨?_, _, finishing, rfl⟩⟩
      · rw [disposed_append]
        exact fun disposed => disposed.elim undisposed (by simp [ImportEvent.disposes])
      · rw [same']
        refine progress.validated checked ?_
        rw [progress.offset_eq, whole]
        exact large checked
    · refine reclaim_concluded target error s' (written _) ?_ (by simp)
      rw [disposed_append]
      exact fun disposed => disposed.elim undisposed (by simp [ImportEvent.disposes])
    · exact ⟨written _, by simp, .inl ⟨why, rfl, halted_snoc _ rfl⟩⟩
  · rw [if_neg checked]
    refine commit_concluded target s allowed unfailed' fun reply => ?_
    exact ⟨undisposed, finishing, unfailed', by rw [same, whole], fun h => absurd h checked⟩

def Followed (size : Nat) (mode : ImportMode) (outcome : Outcome Empty Unit)
    (state : ImportLog ε × σ) : Prop :=
  Always (Allowed size mode) state.1 ∧
    (outcome = .ok () → (state.1.filter ImportEvent.disposes).length = 1) ∧
    ∀ why, outcome = .halt why → Halted why state.1

theorem Followed.ended {state : ImportLog ε × σ} (allowed : Always (Allowed size mode) state.1)
    (once : (state.1.filter ImportEvent.disposes).length = 1) :
    Followed size mode (.ok ()) state :=
  ⟨allowed, fun _ => once, fun _ halt => nomatch halt⟩

theorem Followed.halted {state : ImportLog ε × σ} {why : Halt}
    (allowed : Always (Allowed size mode) state.1) (halted : Halted why state.1) :
    Followed size mode (.halt why) state := by
  refine ⟨allowed, fun ended => (nomatch ended), fun why' same => ?_⟩
  cases same
  exact halted

theorem finish_followed (progress : Progress target size mode dbImport log)
    (large : mode = .checked → 18 ≤ size) (s : σ) :
    Prog.wp (close dbImport .finish) (Followed size mode) (log, s) := by
  have concluded := finish_concluded progress large s
  unfold close Prog.wp at *
  rw [note_bind, attempt_note_run]
  generalize dbImport.finish.run (log ++ [.finishing], s) = result at concluded ⊢
  obtain ⟨reply, log', s'⟩ := result
  obtain ⟨allowed, finishing, ⟨why, halts, halted⟩ |
    ⟨returned, once, failing, committed⟩⟩ := concluded
  · dsimp only at halts
    subst halts
    exact .halted allowed halted
  have next (answer : Except ε Unit) (fails : WriteFailed log' → ∃ error, answer = .error error)
      (succeeds : answer = .ok () → .targetCommit (.ok ()) ∈ log') :
      Followed size mode (.ok ()) (log' ++ [.finished answer], s') := by
    have rule : Allowed size mode log' (.finished answer) :=
      ⟨disposed_of_once once, finishing, fails, succeeds⟩
    exact .ended (allowed.snoc rule) (by simpa [ImportEvent.disposes] using once)
  dsimp only at failing committed
  cases reply with
  | ok value => exact next _ (fun failed => nomatch failing failed) fun _ => committed rfl
  | err error => exact next _ (fun _ => ⟨error, rfl⟩) fun ok => nomatch ok
  | halt why => exact absurd rfl (returned why)

theorem abort_followed (progress : Progress target size mode dbImport log) (s : σ) :
    Prog.wp (close dbImport .abort) (Followed size mode) (log, s) := by
  unfold close DbImport.abort Prog.wp
  rw [progress.target_eq, attempt_note_run]
  unfold traced recorded
  simp only
  rcases target.abort.run s with ⟨reply, s'⟩
  have allowed : Always (Allowed size mode) (log ++ [.targetAbort reply]) :=
    progress.allowed.snoc ⟨progress.undisposed, progress.writing⟩
  have next (answer : Except ε Unit) :
      Followed size mode (.ok ()) (log ++ [.targetAbort reply] ++ [.aborted answer], s') := by
    have rule : Allowed size mode (log ++ [.targetAbort reply]) (.aborted answer) :=
      ⟨by simp [ImportEvent.disposes], by simp [progress.writing]⟩
    refine .ended (allowed.snoc rule) ?_
    rw [List.append_assoc, List.filter_append, disposals_eq_nil progress.undisposed]
    rfl
  cases reply with
  | ok value => exact next _
  | err error => exact next _
  | halt why => exact .halted allowed (halted_snoc log rfl)

theorem drop_followed (progress : Progress target size mode dbImport log) (s : σ) :
    Prog.wp (close dbImport .drop) (Followed size mode) (log, s) := by
  unfold close DbImport.drop Prog.wp
  rw [progress.target_eq, Prog.bind_run]
  unfold traced recorded note
  simp only
  rcases target.drop.run s with ⟨reply, s'⟩
  have allowed : Always (Allowed size mode) (log ++ [.targetDrop reply]) :=
    progress.allowed.snoc ⟨progress.undisposed, progress.writing⟩
  cases reply with
  | ok value =>
      have rule : Allowed size mode (log ++ [.targetDrop (.ok value)]) .dropped :=
        ⟨by simp [ImportEvent.disposes], by simp [progress.writing]⟩
      have once : List.length (List.filter ImportEvent.disposes
          (log ++ [.targetDrop (.ok value)] ++ [.dropped])) = 1 := by
        rw [List.append_assoc, List.filter_append, disposals_eq_nil progress.undisposed]
        rfl
      exact .ended (allowed.snoc rule) once
  | err error => exact error.elim
  | halt why => exact .halted allowed (halted_snoc log rfl)

theorem close_followed (progress : Progress target size mode dbImport log)
    (large : mode = .checked → 18 ≤ size) (s : σ) (ending : Ending) :
    Prog.wp (close dbImport ending) (Followed size mode) (log, s) := by
  cases ending with
  | finish => exact finish_followed progress large s
  | abort => exact abort_followed progress s
  | drop => exact drop_followed progress s

/-- The outcome of starting an import: no progress yet and room for the header, an error, or
a halt of `create_import`. -/
def Started (store : DbTransfer σ ε) (name : String) (size : Nat) (mode : ImportMode) (s : σ)
    (outcome : Outcome ε (DbImport (ImportLog ε × σ) ε)) (state : ImportLog ε × σ) : Prop :=
  state.1 = [] ∧ match outcome with
    | .ok dbImport => (∃ target : ImportTarget σ ε, Progress target size mode dbImport []) ∧
        (mode = .checked → 18 ≤ size)
    | .err _ => True
    | .halt why => ((store.createImport name size).run s).1 = .halt why

theorem begin_started (store : DbTransfer σ ε) (name : String) (size : Nat) (mode : ImportMode)
    (s : σ) :
    Prog.wp (begin (tracedStore store) name size mode) (Started store name size mode s)
      ([], s) := by
  have created (large : mode = .checked → 18 ≤ size) :
      Prog.wp (do
        let target ← (tracedStore store).createImport name size
        pure (DbImport.new target size mode) : Prog (ImportLog ε × σ) ε _)
      (Started store name size mode s) ([], s) := by
    unfold Prog.wp
    rw [create_run]
    rcases run : (store.createImport name size).run s with ⟨target | error | why, s'⟩
    · exact ⟨rfl, ⟨target, Progress.start target size mode⟩, large⟩
    · exact ⟨rfl, trivial⟩
    · exact ⟨rfl, by rw [run]⟩
  cases mode with
  | checked =>
      unfold begin DbTransfer.beginImport
      rcases valid : validateSize size with error | ⟨⟩
      · exact ⟨rfl, trivial⟩
      · have large := (validateSize_ok.mp valid).1
        exact created fun _ => by omega
  | unchecked => exact created fun checked => nomatch checked

/-- Each event was allowed when it happened; once the session has ended, the target was
disposed of exactly once; a session that could not start recorded nothing; and the run only
halts inside a call of the backend. -/
def Protocol (store : DbTransfer σ ε) (name : String) (size : Nat) (mode : ImportMode) (s : σ)
    (outcome : Outcome ε Unit) (state : ImportLog ε × σ) : Prop :=
  Always (Allowed size mode) state.1 ∧
    (outcome = .ok () → (state.1.filter ImportEvent.disposes).length = 1) ∧
    (∀ error, outcome = .err error → state.1 = []) ∧
    ∀ why, outcome = .halt why →
      Halted why state.1 ∨ ((store.createImport name size).run s).1 = .halt why

/-- Every session at every backend follows the protocol. -/
theorem session_follows_protocol (store : DbTransfer σ ε) (name : String) (size : Nat)
    (mode : ImportMode) (chunks : List (List UInt8)) (ending : Ending) (s : σ) :
    Prog.wp (session store name size mode chunks ending) (Protocol store name size mode s)
      ([], s) := by
  have halts {why : Halt} {state : ImportLog ε × σ} (allowed : Always (Allowed size mode) state.1)
      (halted : Halted why state.1) : Protocol store name size mode s (.halt why) state := by
    refine ⟨allowed, fun ended => (nomatch ended), fun _ failed => (nomatch failed), ?_⟩
    intro why' same
    cases same
    exact .inl halted
  unfold session
  rw [Prog.wp_bind]
  refine Prog.wp_mono (begin_started store name size mode s) ?_
  rintro (dbImport | error | why) ⟨log, s'⟩ ⟨rfl, started⟩
  · obtain ⟨⟨target, progress⟩, large⟩ := started
    rw [Prog.andThen_ok, Prog.wp_bind, Prog.wp_widen, Prog.wp_withState]
    refine Prog.wp_mono (writeEach_progress chunks progress s') ?_
    rintro (⟨⟩ | none | why) ⟨dbImport', log', s''⟩ written
    · change Prog.wp (Prog.widen (close dbImport' ending)) (Protocol store name size mode s)
        (log', s'')
      rw [Prog.wp_widen]
      refine Prog.wp_mono (close_followed written large s'' ending) ?_
      rintro (⟨⟩ | none | why) last ⟨allowed, once, halted⟩
      · exact ⟨allowed, fun _ => once rfl, fun _ failed => (nomatch failed),
          fun _ halted => (nomatch halted)⟩
      · exact none.elim
      · exact halts allowed (halted why rfl)
    · exact none.elim
    · exact halts written.1 written.2
  · exact ⟨.nil, fun ended => (nomatch ended), fun _ _ => rfl, fun _ halted => (nomatch halted)⟩
  · refine ⟨.nil, fun ended => (nomatch ended), fun _ _ => rfl, fun why' same => ?_⟩
    cases same
    exact .inr started

end ImportProtocol

end SqliteVfs
