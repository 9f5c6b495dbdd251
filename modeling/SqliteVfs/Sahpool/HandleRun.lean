import SqliteVfs.Sahpool.SlotState
import SqliteVfs.Sahpool.Store

/-!
# Calls on one slot against a byte array

`SlotRequest` lists the calls that reach the data of a slot: those of the file handles on
it, read-write and read-only, and those of imports and exports.  `ArrayStep` says what a
plain byte array answers.  The browser either serves a call in full or throws and leaves
the file as it was.  `step_refines` is the simulation step and `run_refines` the run.
-/

set_option autoImplicit false

namespace SqliteVfs

namespace Sahpool

open SparseVector

inductive SlotRequest where
  | read (self : SyncAccessFileHandle) (buf : List UInt8) (offset : Nat)
  | write (self : SyncAccessFileHandle) (buf : List UInt8) (offset : Nat)
  | truncate (self : SyncAccessFileHandle) (size : Nat)
  | sizeHint (self : SyncAccessFileHandle) (size : Nat)
  | sync (self : SyncAccessFileHandle)
  | size (self : SyncAccessFileHandle)
  | importWrite (file : String) (offset : Nat) (bytes : List UInt8)
  | exportRead (file : String) (offset : Nat) (buf : List UInt8)

inductive SlotAnswer where
  | read (count : Nat) (buf : List UInt8)
  | done
  | size (bytes : Nat)
  | hinted (known : Bool)
  | failed (error : VfsError)
  | refused (error : OpfsSAHError)

def World.asked (w : World) (replies : List Reply) : World :=
  { w with env := { w.env with replies } }

namespace SlotRequest

def file : SlotRequest → String
  | read self _ _ | write self _ _ | truncate self _ | sizeHint self _ | sync self | size self =>
    self.file
  | importWrite file _ _ | exportRead file _ _ => file

def readOnly : SlotRequest → Bool
  | read self _ _ | write self _ _ | truncate self _ | sizeHint self _ | sync self | size self =>
    self.readOnly
  | importWrite _ _ _ | exportRead _ _ _ => false

def isSizeHint : SlotRequest → Bool
  | sizeHint _ _ => true
  | _ => false

def program : SlotRequest → Prog World SlotAnswer SlotAnswer
  | read self buf offset => do
    let (count, buf) ← Prog.mapErr .failed (self.read buf offset)
    pure (.read count buf)
  | write self buf offset => do
    Prog.mapErr .failed (self.write buf offset)
    pure .done
  | truncate self length => do
    Prog.mapErr .failed (self.truncate length)
    pure .done
  | sizeHint self length => do
    let known ← Prog.mapErr .failed (self.sizeHint length)
    pure (.hinted known)
  | sync self => do
    Prog.mapErr .failed self.sync
    pure .done
  | size self => do
    let bytes ← Prog.mapErr .failed self.size
    pure (.size bytes)
  | importWrite file offset bytes => do
    Prog.mapErr .refused (ImportTarget.writeAt file offset bytes)
    pure .done
  | exportRead file offset buf => do
    let (count, buf) ← Prog.mapErr .refused (exportReadAt file offset buf)
    pure (.read count buf)

/-- What the caller sees, and the world after it; nothing if the call did not come back. -/
def call (w : World) (request : SlotRequest × List Reply) : Option (SlotAnswer × World) :=
  match request.1.program.run (w.asked request.2) with
  | (.ok answer, next) => some (answer, next)
  | (.err answer, next) => some (answer, next)
  | (.halt _, _) => none

def run : World → List (SlotRequest × List Reply) → Option (List SlotAnswer × World)
  | w, [] => some ([], w)
  | w, request :: rest => do
    let (answer, next) ← call w request
    let (answers, last) ← run next rest
    some (answer :: answers, last)

end SlotRequest

/-- The browser serves the call in full, or throws without an effect. -/
def Reply.Atomic : Reply → Prop
  | .done => True
  | .thrown _ landed => landed = .nothing
  | _ => False

/-! ## The byte array -/

def unsafeOffset (code : VfsErrorCode) : VfsError :=
  VfsError.new code "file offset or size exceeds JavaScript's safe integer range"

def readOnlyError : VfsError := VfsError.new .readOnly "file is read-only"

/-- The range ends within the safe integers, behind the header. -/
def InRange (offset length : Nat) : Prop := offset + 4096 + length ≤ 2 ^ 53 - 1

def readAnswer (v buf : List UInt8) (offset : Nat) : SlotAnswer :=
  .read (min buf.length (v.length - offset))
    (readAt v offset buf.length ++ buf.drop (min buf.length (v.length - offset)))

inductive ArrayStep (v : List UInt8) : SlotRequest → List Reply → SlotAnswer → List UInt8 → Prop
  | readEmpty (self offset replies) :
    ArrayStep v (.read self [] offset) replies (.read 0 []) v
  | read (self buf offset replies) (some : buf ≠ []) (inside : InRange offset buf.length) :
    ArrayStep v (.read self buf offset) replies (readAnswer v buf offset) v
  | readBeyond (self buf offset replies) (some : buf ≠ []) (beyond : ¬ InRange offset buf.length) :
    ArrayStep v (.read self buf offset) replies (.failed (unsafeOffset .ioRead)) v
  | writeReadOnly (self buf offset replies) (readOnly : self.readOnly = true) :
    ArrayStep v (.write self buf offset) replies (.failed readOnlyError) v
  | writeEmpty (self offset replies) (writable : self.readOnly = false) :
    ArrayStep v (.write self [] offset) replies .done v
  | write (self buf offset replies) (writable : self.readOnly = false) (some : buf ≠ [])
      (inside : InRange offset buf.length) :
    ArrayStep v (.write self buf offset) replies .done (writeAt v offset buf)
  | writeBeyond (self buf offset replies) (writable : self.readOnly = false) (some : buf ≠ [])
      (beyond : ¬ InRange offset buf.length) :
    ArrayStep v (.write self buf offset) replies (.failed (unsafeOffset .ioWrite)) v
  | truncateReadOnly (self size replies) (readOnly : self.readOnly = true) :
    ArrayStep v (.truncate self size) replies (.failed readOnlyError) v
  | truncate (self size replies) (writable : self.readOnly = false) (inside : InRange size 0) :
    ArrayStep v (.truncate self size) replies .done (resize v size)
  | truncateBeyond (self size replies) (writable : self.readOnly = false)
      (beyond : ¬ InRange size 0) :
    ArrayStep v (.truncate self size) replies (.failed (unsafeOffset .ioTruncate)) v
  | hintKnown (self size replies) (small : size ≤ v.length) :
    ArrayStep v (.sizeHint self size) replies (.hinted true) v
  | hintReadOnly (self size replies) (large : v.length < size) (readOnly : self.readOnly = true) :
    ArrayStep v (.sizeHint self size) replies (.failed readOnlyError) v
  | hintGrown (self size replies) (large : v.length < size) (writable : self.readOnly = false)
      (inside : InRange size 0) :
    ArrayStep v (.sizeHint self size) replies (.hinted true) (resize v size)
  | hintBeyond (self size replies) (large : v.length < size) (writable : self.readOnly = false)
      (beyond : ¬ InRange size 0) :
    ArrayStep v (.sizeHint self size) replies (.failed (unsafeOffset .ioTruncate)) v
  | sync (self replies) : ArrayStep v (.sync self) replies .done v
  | size (self replies) : ArrayStep v (.size self) replies (.size v.length) v
  | importWrite (file offset bytes replies) (inside : InRange offset bytes.length) :
    ArrayStep v (.importWrite file offset bytes) replies .done
      (if bytes = [] then v else writeAt v offset bytes)
  | importBeyond (file offset bytes replies) (beyond : ¬ InRange offset bytes.length) :
    ArrayStep v (.importWrite file offset bytes) replies
      (.refused (.backend (unsafeOffset .ioWrite))) v
  | exportRead (file offset buf replies) (inside : InRange offset buf.length) :
    ArrayStep v (.exportRead file offset buf) replies (readAnswer v buf offset) v
  | exportBeyond (file offset buf replies) (beyond : ¬ InRange offset buf.length) :
    ArrayStep v (.exportRead file offset buf) replies
      (.refused (.backend (unsafeOffset .ioRead))) v
  | failed (request replies error thrown) (threw : .thrown thrown .nothing ∈ replies) :
    ArrayStep v request replies (.failed error) v
  | refused (request replies error thrown) (threw : .thrown thrown .nothing ∈ replies) :
    ArrayStep v request replies (.refused error) v

inductive ArrayRun :
    List UInt8 → List (SlotRequest × List Reply) → List SlotAnswer → List UInt8 → Prop
  | nil (v : List UInt8) : ArrayRun v [] [] v
  | cons {v next last : List UInt8} {request : SlotRequest × List Reply}
      {rest : List (SlotRequest × List Reply)} {answer : SlotAnswer} {answers : List SlotAnswer} :
      ArrayStep v request.1 request.2 answer next → ArrayRun next rest answers last →
      ArrayRun v (request :: rest) (answer :: answers) last

/-- A size hint keeps every byte of the array. -/
theorem ArrayStep.extends {v v' : List UInt8} {request : SlotRequest} {replies : List Reply}
    {answer : SlotAnswer} (step : ArrayStep v request replies answer v')
    (hint : request.isSizeHint = true) : v <+: v' := by
  cases step with
  | hintGrown self size _ large =>
      unfold resize
      rw [List.take_of_length_le large.le]
      exact List.prefix_append _ _
  | hintKnown | hintReadOnly | hintBeyond | failed | refused => exact List.prefix_refl _
  | _ => exact nomatch hint

theorem ArrayStep.unchanged {v v' : List UInt8} {request : SlotRequest} {replies : List Reply}
    {answer : SlotAnswer} (step : ArrayStep v request replies answer v')
    (readOnly : request.readOnly = true) : v' = v := by
  cases step with
  | write _ _ _ _ writable | truncate _ _ _ writable | hintGrown _ _ _ _ writable =>
      exact nomatch writable.symm.trans readOnly
  | importWrite => exact nomatch readOnly
  | _ => rfl

/-! ## Calls on a slot -/

/-- `x` returns `value` and leaves `file'`, or the browser threw and nothing changed. -/
def Serves {ε α : Type} (x : SlotM ε α) (file : SlotFile) (replies : List Reply) (value : α)
    (file' : SlotFile) : Prop :=
  ∃ rest, rest ⊆ replies ∧ (x.run ⟨file, replies⟩ = (.ok value, ⟨file', rest⟩) ∨
    ∃ error thrown, .thrown thrown .nothing ∈ replies ∧
      x.run ⟨file, replies⟩ = (.err error, ⟨file, rest⟩))

variable {ε ε' α β : Type} {x : SlotM ε α} {file file' : SlotFile} {replies : List Reply}
    {value : α}

theorem call_serves (file : SlotFile) (atomic : ∀ reply ∈ replies, reply.Atomic)
    (effect : Landed → SlotFile → SlotFile) (result : Landed → SlotFile → α)
    (silent : effect .nothing file = file) :
    Serves (call effect result) file replies (result .everything file)
      (effect .everything file) := by
  rcases replies with _ | ⟨reply, rest⟩
  · exact ⟨[], List.Subset.refl _, .inl rfl⟩
  · refine ⟨rest, List.subset_cons_self _ _, ?_⟩
    have here := atomic reply List.mem_cons_self
    cases reply with
    | done => exact .inl rfl
    | thrown error landed =>
        obtain rfl : landed = .nothing := here
        refine .inr ⟨error, error, List.mem_cons_self, ?_⟩
        unfold call
        dsimp only
        rw [silent]
    | short count => exact here.elim
    | crash landed => exact here.elim

theorem Serves.mapErr (serves : Serves x file replies value file') (f : ε → ε') :
    Serves (Prog.mapErr f x) file replies value file' := by
  obtain ⟨rest, fewer, run | ⟨error, thrown, threw, run⟩⟩ := serves
  · exact ⟨rest, fewer, .inl (Prog.mapErr_ok_iff.mpr run)⟩
  · refine ⟨rest, fewer, .inr ⟨f error, thrown, threw, ?_⟩⟩
    unfold Prog.mapErr
    simp only [run]

theorem Serves.andThen (serves : Serves x file replies value file') {f : α → SlotM ε β} {result : β}
    (next : f value = pure result) : Serves (x >>= f) file replies result file' := by
  obtain ⟨rest, fewer, run | ⟨error, thrown, threw, run⟩⟩ := serves
  · refine ⟨rest, fewer, .inl ?_⟩
    rw [Prog.bind_ok run, next]
    rfl
  · exact ⟨rest, fewer, .inr ⟨error, thrown, threw, Prog.bind_err run f⟩⟩

variable (atomic : ∀ reply ∈ replies, reply.Atomic)
include atomic

theorem readAt_serves (buf : List UInt8) (start : Nat) :
    Serves (SyncAccessFile.readAt buf start) file replies
      (min buf.length (file.contents.length - start),
        readAt file.contents start buf.length ++
          buf.drop (min buf.length (file.contents.length - start))) file := by
  have read := (call_serves file atomic (fun _ file => file) (fun landed file =>
    let bytes := landed.take (SparseVector.readAt file.contents start buf.length)
    (bytes.length, bytes ++ buf.drop bytes.length)) rfl).mapErr (OpfsSAHError.js "read file")
  refine read.andThen ?_
  dsimp only [Landed.take]
  rw [SparseVector.length_readAt, if_neg (by omega)]

theorem writeAt_serves (bytes : List UInt8) (start : Nat) :
    Serves (SyncAccessFile.writeAt bytes start) file replies () (file.write start bytes) := by
  have written := (call_serves file atomic
    (fun landed file => file.write start (landed.take bytes))
    (fun landed _ => (landed.take bytes).length) (SlotFile.write_nil file start)).mapErr
      (OpfsSAHError.js "write file")
  refine written.andThen ?_
  dsimp only [Landed.take]
  rw [if_neg (by omega)]

theorem truncate_serves (size : Nat) :
    Serves (AccessHandle.truncate size) file replies () (file.truncate size) :=
  call_serves file atomic
    (fun landed file => if landed = .nothing then file else file.truncate size) (fun _ _ => ()) rfl

theorem flush_serves : Serves SyncAccessFile.flush file replies () file.flush :=
  (call_serves file atomic
    (fun landed file => if landed = .nothing then file else file.flush)
    (fun _ _ => ()) rfl).mapErr _

theorem size_serves (fits : Fits file.contents) (opaqueName : String) :
    Serves (SyncAccessFile.size opaqueName) file replies (dataOf file.contents).length file := by
  have low := fits.low
  have high := fits.high
  have got := (call_serves file atomic (fun _ file => file)
    (fun _ file => file.contents.length) rfl).mapErr (OpfsSAHError.js "get file size")
  have physical : Serves (SyncAccessFile.physicalSize opaqueName) file replies
      file.contents.length file := by
    refine got.andThen ?_
    rw [if_neg (by omega)]
  refine Serves.mapErr (physical.andThen ?_) _
  rw [if_neg (by omega), dataOf, List.length_drop]

omit atomic

/-! ## Calls on the world -/

def World.after (w : World) (name : String) (content : SlotFile) (replies : List Reply) : World :=
  { w with
    directory := w.directory.insert name content
    env := { w.env with replies } }

def Carries {ε α : Type} (x : Prog World ε α) (w : World) (name : String) (content : SlotFile)
    (value : α) (content' : SlotFile) : Prop :=
  ∃ rest, rest ⊆ w.env.replies ∧ (x.run w = (.ok value, w.after name content' rest) ∨
    ∃ error thrown, .thrown thrown .nothing ∈ w.env.replies ∧
      x.run w = (.err error, w.after name content rest))

variable {w : World} {name : String} {content content' : SlotFile} {y : Prog World ε α}

theorem Serves.onSlot (found : w.directory.lookup name = some content)
    (serves : Serves x content w.env.replies value content') :
    Carries (Sahpool.onSlot name x) w name content value content' := by
  obtain ⟨rest, fewer, run | ⟨error, thrown, threw, run⟩⟩ := serves
  · refine ⟨rest, fewer, .inl ?_⟩
    unfold Sahpool.onSlot
    simp only [found, run]
    rfl
  · refine ⟨rest, fewer, .inr ⟨error, thrown, threw, ?_⟩⟩
    unfold Sahpool.onSlot
    simp only [found, run]
    rfl

theorem Carries.mapErr (carries : Carries y w name content value content') (f : ε → ε') :
    Carries (Prog.mapErr f y) w name content value content' := by
  obtain ⟨rest, fewer, run | ⟨error, thrown, threw, run⟩⟩ := carries
  · exact ⟨rest, fewer, .inl (Prog.mapErr_ok_iff.mpr run)⟩
  · refine ⟨rest, fewer, .inr ⟨f error, thrown, threw, ?_⟩⟩
    unfold Prog.mapErr
    simp only [run]

theorem Carries.andThen (carries : Carries y w name content value content')
    {f : α → Prog World ε β} {result : β} (next : f value = pure result) :
    Carries (y >>= f) w name content result content' := by
  obtain ⟨rest, fewer, run | ⟨error, thrown, threw, run⟩⟩ := carries
  · refine ⟨rest, fewer, .inl ?_⟩
    rw [Prog.bind_ok run, next]
    rfl
  · exact ⟨rest, fewer, .inr ⟨error, thrown, threw, Prog.bind_err run f⟩⟩

theorem World.after_after (w : World) (name : String) (content content' : SlotFile)
    (replies replies' : List Reply) :
    (w.after name content replies).after name content' replies' =
    w.after name content' replies' := by
  unfold World.after
  rw [AList.insert_insert]

theorem Carries.bind (first : Carries y w name content value content) {f : α → Prog World ε β}
    {result : β} (next : ∀ rest, rest ⊆ w.env.replies →
      Carries (f value) (w.after name content rest) name content result content') :
    Carries (y >>= f) w name content result content' := by
  obtain ⟨rest, fewer, run | ⟨error, thrown, threw, run⟩⟩ := first
  · obtain ⟨rest', fewer', run' | ⟨error, thrown, threw, run'⟩⟩ := next rest fewer
    · refine ⟨rest', List.Subset.trans fewer' fewer, .inl ?_⟩
      rw [Prog.bind_ok run, run', World.after_after]
    · refine ⟨rest', List.Subset.trans fewer' fewer, .inr ⟨error, thrown, fewer threw, ?_⟩⟩
      rw [Prog.bind_ok run, run', World.after_after]
  · exact ⟨rest, fewer, .inr ⟨error, thrown, threw, Prog.bind_err run f⟩⟩

/-! ## One call -/

theorem inRange_iff {offset length : Nat} :
    InRange offset length ↔ offset + headerOffsetData + length ≤ maxSafeInteger := Iff.rfl

theorem physicalOffset_inside {σ : Type} {offset length : Nat} (inside : InRange offset length)
    (code : VfsErrorCode) :
    (physicalOffset offset length code : Prog σ VfsError Nat) =
      pure (offset + headerOffsetData) := by
  rw [physicalOffset_eq, if_pos (inRange_iff.mp inside)]

theorem physicalOffset_beyond {σ : Type} {offset length : Nat} (beyond : ¬ InRange offset length)
    (code : VfsErrorCode) :
    (physicalOffset offset length code : Prog σ VfsError Nat) =
      Prog.fail (unsafeOffset code) := by
  rw [physicalOffset_eq, if_neg (mt inRange_iff.mpr beyond)]
  rfl

theorem readAt_dataOf (contents : List UInt8) (offset length : Nat) :
    readAt contents (offset + headerOffsetData) length =
    readAt (dataOf contents) offset length := by
  unfold readAt dataOf
  rw [List.drop_drop, Nat.add_comm]

theorem length_dataOf (contents : List UInt8) (offset : Nat) :
    contents.length - (offset + headerOffsetData) = (dataOf contents).length - offset := by
  unfold dataOf
  rw [List.length_drop]
  omega

/-- The same slot with other data, all of it behind the header region. -/
structure SameHeader (content content' : SlotFile) : Prop where
  fits : Fits content'.contents
  header : content'.contents.take headerOffsetData = content.contents.take headerOffsetData

theorem SameHeader.refl (fits : Fits content.contents) : SameHeader content content :=
  ⟨fits, rfl⟩

theorem SameHeader.flush (fits : Fits content.contents) : SameHeader content content.flush :=
  ⟨fits, rfl⟩

theorem SameHeader.write (fits : Fits content.contents) {offset : Nat} {bytes : List UInt8}
    (inside : InRange offset bytes.length) :
    SameHeader content (content.write (offset + headerOffsetData) bytes) := by
  by_cases empty : bytes = []
  · subst empty
    rw [SlotFile.write_nil]
    exact .refl fits
  · constructor
    · rw [SlotFile.contents_write empty]
      exact fits.write (inRange_iff.mp inside)
    · rw [SlotFile.contents_write empty]
      exact take_writeAt_of_le _ _ _ _ (Nat.le_add_left _ _) fits.low

theorem SameHeader.truncate (fits : Fits content.contents) {size : Nat} (inside : InRange size 0) :
    SameHeader content (content.truncate (size + headerOffsetData)) := by
  constructor
  · rw [SlotFile.contents_truncate]
    have bounded : size + headerOffsetData + 0 ≤ maxSafeInteger := inRange_iff.mp inside
    exact Fits.resize (Nat.le_add_left _ _) bounded _
  · rw [SlotFile.contents_truncate]
    exact take_resize_of_le _ _ _ (Nat.le_add_left _ _) fits.low

/-- What one call does: the array answers, and nothing but the array changes. -/
def Refined (w : World) (request : SlotRequest) (replies : List Reply) (content : SlotFile)
    (answer : SlotAnswer) (next : World) : Prop :=
  ∃ content', next.directory.lookup request.file = some content' ∧
    (∀ other, other ≠ request.file → next.directory.lookup other = w.directory.lookup other) ∧
    SameHeader content content' ∧
    ArrayStep (dataOf content.contents) request replies answer (dataOf content'.contents)

def SlotAnswer.IsFailure : SlotAnswer → Prop
  | .failed _ => True
  | .refused _ => True
  | _ => False

theorem ArrayStep.of_failure {v : List UInt8} {request : SlotRequest} {thrown : JsValue}
    {answer : SlotAnswer} (threw : .thrown thrown .nothing ∈ replies) (failure : answer.IsFailure) :
    ArrayStep v request replies answer v := by
  cases answer with
  | failed error => exact .failed request replies error thrown threw
  | refused error => exact .refused request replies error thrown threw
  | _ => exact failure.elim

theorem mapErr_bind_fails {f : ε → SlotAnswer} {g : α → Prog World SlotAnswer SlotAnswer}
    {failure : SlotAnswer} {next : World}
    (run : (Prog.mapErr f y >>= g).run w = (.err failure, next))
    (failing : ∀ error, (f error).IsFailure) (returns : ∀ value, ∃ answer, g value = pure answer) :
    failure.IsFailure := by
  rw [Prog.bind_run] at run
  unfold Prog.mapErr at run
  rcases ran : y.run w with ⟨value | error | why, last⟩
  · obtain ⟨answer, same⟩ := returns value
    simp only [ran, same] at run
    exact nomatch congrArg Prod.fst run
  · simp only [ran] at run
    cases run
    exact failing error
  · simp only [ran] at run
    exact nomatch congrArg Prod.fst run

theorem SlotRequest.program_fails (request : SlotRequest) {failure : SlotAnswer} {next : World}
    (run : request.program.run w = (.err failure, next)) : failure.IsFailure := by
  cases request <;> refine mapErr_bind_fails run ?_ ?_ <;> intro _
  all_goals first | exact trivial | exact ⟨_, rfl⟩

theorem refined_of_carries {request : SlotRequest} (answer : SlotAnswer) (content' : SlotFile)
    (carries : Carries request.program (w.asked replies) request.file content
      answer content')
    (fits : Fits content.contents) (same : SameHeader content content')
    (step : ArrayStep (dataOf content.contents) request replies answer (dataOf content'.contents)) :
    ∃ answer next, SlotRequest.call w (request, replies) = some (answer, next) ∧
      Refined w request replies content answer next := by
  have elsewhere (content : SlotFile) (rest : List Reply) (other : String)
      (different : other ≠ request.file) :
      (World.after (w.asked replies) request.file content rest).directory.lookup other =
      w.directory.lookup other :=
    AList.lookup_insert_ne different
  unfold SlotRequest.call
  obtain ⟨rest, -, run | ⟨failure, thrown, threw, run⟩⟩ := carries
  · simp only [run]
    exact ⟨_, _, rfl, content', AList.lookup_insert _, elsewhere content' rest, same, step⟩
  · have failed := request.program_fails run
    simp only [run]
    exact ⟨_, _, rfl, content, AList.lookup_insert _, elsewhere content rest, .refl fits,
      .of_failure threw failed⟩

theorem refined_of_refused {request : SlotRequest} {answer : SlotAnswer}
    {y : Prog World SlotAnswer α} {f : α → Prog World SlotAnswer SlotAnswer} {value : α}
    (program : request.program = y >>= f)
    (looked : Carries y (w.asked replies) request.file content value content)
    (refuses : f value = Prog.fail answer) (fits : Fits content.contents)
    (step : ArrayStep (dataOf content.contents) request replies answer (dataOf content.contents)) :
    ∃ answer next, SlotRequest.call w (request, replies) = some (answer, next) ∧
      Refined w request replies content answer next := by
  have elsewhere (rest : List Reply) (other : String) (different : other ≠ request.file) :
      (World.after (w.asked replies) request.file content rest).directory.lookup other =
        w.directory.lookup other := AList.lookup_insert_ne different
  obtain ⟨rest, -, run | ⟨failure, thrown, threw, run⟩⟩ := looked
  · have failed : request.program.run (w.asked replies) =
        (.err answer, World.after (w.asked replies) request.file content rest) := by
      rw [program, Prog.bind_ok run, refuses]
      rfl
    unfold SlotRequest.call
    simp only [failed]
    exact ⟨_, _, rfl, content, AList.lookup_insert _, elsewhere rest, .refl fits, step⟩
  · have failed : request.program.run (w.asked replies) =
        (.err failure, World.after (w.asked replies) request.file content rest) := by
      rw [program, Prog.bind_err run]
    have failure' := request.program_fails failed
    unfold SlotRequest.call
    simp only [failed]
    exact ⟨_, _, rfl, content, AList.lookup_insert _, elsewhere rest, .refl fits,
      .of_failure threw failure'⟩

theorem refined_of_early {request : SlotRequest} {answer : SlotAnswer}
    (found : w.directory.lookup request.file = some content)
    (early : request.program = pure answer ∨ request.program = Prog.fail answer)
    (fits : Fits content.contents)
    (step : ArrayStep (dataOf content.contents) request replies answer (dataOf content.contents)) :
    ∃ answer next, SlotRequest.call w (request, replies) = some (answer, next) ∧
      Refined w request replies content answer next := by
  refine ⟨answer, w.asked replies, ?_, content, found, fun _ _ => rfl,
    .refl fits, step⟩
  unfold SlotRequest.call
  dsimp only
  rcases early with same | same <;> rw [same] <;> rfl

/-! ## The handle's calls -/

section

variable {self : SyncAccessFileHandle} {buf : List UInt8} {offset size : Nat}

theorem read_inside (some : buf ≠ []) (inside : InRange offset buf.length) :
    self.read buf offset = Prog.mapErr (OpfsSAHError.vfsErr .ioRead)
      (onSlot self.file (SyncAccessFile.readAt buf (offset + headerOffsetData))) := by
  unfold SyncAccessFileHandle.read
  rw [if_neg some, physicalOffset_inside inside, Prog.pure_bind]

theorem read_beyond (some : buf ≠ []) (beyond : ¬ InRange offset buf.length) :
    self.read buf offset = Prog.fail (unsafeOffset .ioRead) := by
  unfold SyncAccessFileHandle.read
  rw [if_neg some, physicalOffset_beyond beyond, Prog.fail_bind]

theorem checkWritable_readOnly (readOnly : self.readOnly = true) :
    self.checkWritable = Prog.fail readOnlyError := if_pos readOnly

theorem checkWritable_writable (writable : self.readOnly = false) :
    self.checkWritable = pure () := if_neg (by simp [writable])

theorem write_readOnly (readOnly : self.readOnly = true) :
    self.write buf offset = Prog.fail readOnlyError := by
  unfold SyncAccessFileHandle.write
  rw [checkWritable_readOnly readOnly, Prog.fail_bind]

theorem write_empty (writable : self.readOnly = false) : self.write [] offset = pure () := by
  unfold SyncAccessFileHandle.write
  rw [checkWritable_writable writable, Prog.pure_bind, if_pos rfl]

theorem write_inside (writable : self.readOnly = false) (some : buf ≠ [])
    (inside : InRange offset buf.length) :
    self.write buf offset = Prog.mapErr (OpfsSAHError.vfsErr .ioWrite)
      (onSlot self.file (SyncAccessFile.writeAt buf (offset + headerOffsetData))) := by
  unfold SyncAccessFileHandle.write
  rw [checkWritable_writable writable, Prog.pure_bind, if_neg some, physicalOffset_inside inside,
    Prog.pure_bind]

theorem write_beyond (writable : self.readOnly = false) (some : buf ≠ [])
    (beyond : ¬ InRange offset buf.length) :
    self.write buf offset = Prog.fail (unsafeOffset .ioWrite) := by
  unfold SyncAccessFileHandle.write
  rw [checkWritable_writable writable, Prog.pure_bind, if_neg some, physicalOffset_beyond beyond,
    Prog.fail_bind]

theorem truncate_readOnly (readOnly : self.readOnly = true) :
    self.truncate size = Prog.fail readOnlyError := by
  unfold SyncAccessFileHandle.truncate
  rw [checkWritable_readOnly readOnly, Prog.fail_bind]

theorem truncate_inside (writable : self.readOnly = false) (inside : InRange size 0) :
    self.truncate size = onSlot self.file (Prog.mapErr
      (fun error => (OpfsSAHError.js "truncate file" error).vfsErr .ioTruncate)
      (AccessHandle.truncate (size + headerOffsetData))) := by
  unfold SyncAccessFileHandle.truncate
  rw [checkWritable_writable writable, Prog.pure_bind, physicalOffset_inside inside,
    Prog.pure_bind]

theorem truncate_beyond (writable : self.readOnly = false) (beyond : ¬ InRange size 0) :
    self.truncate size = Prog.fail (unsafeOffset .ioTruncate) := by
  unfold SyncAccessFileHandle.truncate
  rw [checkWritable_writable writable, Prog.pure_bind, physicalOffset_beyond beyond,
    Prog.fail_bind]

end

/-- Every call answers as the byte array does. -/
theorem step_refines (request : SlotRequest) (atomic : ∀ reply ∈ replies, reply.Atomic)
    (found : w.directory.lookup request.file = some content) (fits : Fits content.contents) :
    ∃ answer next, SlotRequest.call w (request, replies) = some (answer, next) ∧
      Refined w request replies content answer next := by
  have readable (buf : List UInt8) (offset : Nat) :
      SlotAnswer.read (min buf.length (content.contents.length - (offset + headerOffsetData)))
        (readAt content.contents (offset + headerOffsetData) buf.length ++ buf.drop
          (min buf.length (content.contents.length - (offset + headerOffsetData)))) =
        readAnswer (dataOf content.contents) buf offset := by
    rw [length_dataOf, readAt_dataOf]
    rfl
  have here : (w.asked replies).directory.lookup request.file = some content := found
  cases request with
  | read self buf offset =>
      by_cases empty : buf = []
      · subst empty
        exact refined_of_early found (.inl rfl) fits (.readEmpty self offset replies)
      by_cases inside : InRange offset buf.length
      · have served := (readAt_serves atomic buf (offset + headerOffsetData)).onSlot here
        refine refined_of_carries _ _ ?_ fits (.refl fits)
          (.read self buf offset replies empty inside)
        rw [← readable, SlotRequest.program, read_inside empty inside]
        exact ((served.mapErr _).mapErr _).andThen rfl
      · refine refined_of_early found (.inr ?_) fits
          (.readBeyond self buf offset replies empty inside)
        rw [SlotRequest.program, read_beyond empty inside]
        rfl
  | write self buf offset =>
      by_cases readOnly : self.readOnly = true
      · refine refined_of_early found (.inr ?_) fits
          (.writeReadOnly self buf offset replies readOnly)
        rw [SlotRequest.program, write_readOnly readOnly]
        rfl
      have writable := Bool.eq_false_iff.mpr readOnly
      by_cases empty : buf = []
      · subst empty
        refine refined_of_early found (.inl ?_) fits (.writeEmpty self offset replies writable)
        rw [SlotRequest.program, write_empty writable]
        rfl
      by_cases inside : InRange offset buf.length
      · have served := (writeAt_serves atomic buf (offset + headerOffsetData)).onSlot here
        refine refined_of_carries .done (content.write (offset + headerOffsetData) buf) ?_ fits
          (.write fits inside) ?_
        · rw [SlotRequest.program, write_inside writable empty inside]
          exact ((served.mapErr _).mapErr _).andThen rfl
        · rw [SlotFile.contents_write empty, dataOf_write fits]
          exact .write self buf offset replies writable empty inside
      · refine refined_of_early found (.inr ?_) fits
          (.writeBeyond self buf offset replies writable empty inside)
        rw [SlotRequest.program, write_beyond writable empty inside]
        rfl
  | truncate self size =>
      by_cases readOnly : self.readOnly = true
      · refine refined_of_early found (.inr ?_) fits (.truncateReadOnly self size replies readOnly)
        rw [SlotRequest.program, truncate_readOnly readOnly]
        rfl
      have writable := Bool.eq_false_iff.mpr readOnly
      by_cases inside : InRange size 0
      · have served := ((truncate_serves atomic (size + headerOffsetData)).mapErr
          (fun error => (OpfsSAHError.js "truncate file" error).vfsErr .ioTruncate)).onSlot here
        refine refined_of_carries .done (content.truncate (size + headerOffsetData)) ?_ fits
          (.truncate fits inside) ?_
        · rw [SlotRequest.program, truncate_inside writable inside]
          exact (served.mapErr _).andThen rfl
        · rw [SlotFile.contents_truncate, dataOf_resize fits]
          exact .truncate self size replies writable inside
      · refine refined_of_early found (.inr ?_) fits
          (.truncateBeyond self size replies writable inside)
        rw [SlotRequest.program, truncate_beyond writable inside]
        rfl
  | sync self =>
      have served := (flush_serves atomic).onSlot here
      refine refined_of_carries .done content.flush ?_ fits (.flush fits) (.sync self replies)
      exact ((served.mapErr _).mapErr _).andThen rfl
  | size self =>
      have served := (size_serves atomic fits self.file).onSlot here
      refine refined_of_carries (.size (dataOf content.contents).length) content ?_ fits
        (.refl fits) (.size self replies)
      exact (served.mapErr _).andThen rfl
  | importWrite file offset bytes =>
      by_cases inside : InRange offset bytes.length
      · have served := (writeAt_serves atomic bytes (offset + headerOffsetData)).onSlot here
        have data : dataOf (content.write (offset + headerOffsetData) bytes).contents =
            if bytes = [] then dataOf content.contents
            else writeAt (dataOf content.contents) offset bytes := by
          by_cases empty : bytes = []
          · rw [if_pos empty, empty, SlotFile.write_nil]
          · rw [if_neg empty, SlotFile.contents_write empty, dataOf_write fits]
        refine refined_of_carries .done (content.write (offset + headerOffsetData) bytes) ?_
          fits (.write fits inside) ?_
        · rw [SlotRequest.program, ImportTarget.writeAt, physicalOffset_inside inside]
          exact (served.mapErr _).andThen rfl
        · rw [data]
          exact .importWrite file offset bytes replies inside
      · refine refined_of_early found (.inr ?_) fits
          (.importBeyond file offset bytes replies inside)
        rw [SlotRequest.program, ImportTarget.writeAt, physicalOffset_beyond inside]
        rfl
  | exportRead file offset buf =>
      by_cases inside : InRange offset buf.length
      · have served := (readAt_serves atomic buf (offset + headerOffsetData)).onSlot here
        refine refined_of_carries _ _ ?_ fits (.refl fits)
          (.exportRead file offset buf replies inside)
        rw [← readable, SlotRequest.program, exportReadAt, physicalOffset_inside inside]
        exact (served.mapErr _).andThen rfl
      · refine refined_of_early found (.inr ?_) fits
          (.exportBeyond file offset buf replies inside)
        rw [SlotRequest.program, exportReadAt, physicalOffset_beyond inside]
        rfl
  | sizeHint self size =>
      -- The error conversion moves inside, so that the two calls on the slot come apart.
      have program : (SlotRequest.sizeHint self size).program =
          Prog.mapErr .failed self.size >>= fun current =>
            (if current < size then Prog.mapErr .failed (self.truncate size) else pure ()) >>=
              fun _ => pure (.hinted true) := by
        rw [SlotRequest.program, SyncAccessFileHandle.sizeHint, Prog.mapErr_bind, Prog.bind_assoc]
        congr 1
        funext current
        dsimp only
        by_cases large : current < size
        · rw [if_pos large, if_pos large, Prog.mapErr_bind, Prog.bind_assoc]
          rfl
        · rw [if_neg large, if_neg large]
          rfl
      have looked := ((size_serves atomic fits self.file).onSlot here).mapErr SlotAnswer.failed
      by_cases large : (dataOf content.contents).length < size
      · by_cases readOnly : self.readOnly = true
        · refine refined_of_refused program looked ?_ fits
            (.hintReadOnly self size replies large readOnly)
          rw [if_pos large, truncate_readOnly readOnly]
          rfl
        have writable := Bool.eq_false_iff.mpr readOnly
        by_cases inside : InRange size 0
        · refine refined_of_carries (.hinted true) (content.truncate (size + headerOffsetData)) ?_
            fits (.truncate fits inside) ?_
          · rw [program]
            refine looked.bind fun rest fewer => ?_
            have atomic' : ∀ reply ∈ rest, reply.Atomic := fun reply member =>
              atomic reply (fewer member)
            have there : ((w.asked replies).after self.file content rest).directory.lookup
                self.file = some content := AList.lookup_insert _
            have served := ((truncate_serves atomic' (size + headerOffsetData)).mapErr
              (fun error => (OpfsSAHError.js "truncate file" error).vfsErr .ioTruncate)).onSlot
              there
            rw [if_pos large, truncate_inside writable inside]
            exact (served.mapErr _).andThen rfl
          · rw [SlotFile.contents_truncate, dataOf_resize fits]
            exact .hintGrown self size replies large writable inside
        · refine refined_of_refused program looked ?_ fits
            (.hintBeyond self size replies large writable inside)
          rw [if_pos large, truncate_beyond writable inside]
          rfl
      · refine refined_of_carries (.hinted true) content ?_ fits
          (.refl fits) (.hintKnown self size replies (Nat.le_of_not_lt large))
        rw [program]
        refine looked.andThen ?_
        rw [if_neg large]
        rfl

theorem run_refines (requests : List (SlotRequest × List Reply)) :
    ∀ {w : World} {content : SlotFile}, (∀ request ∈ requests, request.1.file = name) →
      (∀ request ∈ requests, ∀ reply ∈ request.2, reply.Atomic) →
      w.directory.lookup name = some content → Fits content.contents →
      ∃ answers last content', SlotRequest.run w requests = some (answers, last) ∧
        last.directory.lookup name = some content' ∧
        (∀ other, other ≠ name → last.directory.lookup other = w.directory.lookup other) ∧
        SameHeader content content' ∧
        ArrayRun (dataOf content.contents) requests answers (dataOf content'.contents) := by
  induction requests with
  | nil =>
      intro w content _ _ found fits
      exact ⟨[], w, content, rfl, found, fun _ _ => rfl, .refl fits, .nil _⟩
  | cons request rest ih =>
      intro w content onFile atomic found fits
      obtain ⟨request, replies⟩ := request
      obtain rfl : request.file = name := onFile _ List.mem_cons_self
      obtain ⟨answer, next, called, content', found', elsewhere, same, step⟩ :=
        step_refines request (atomic _ List.mem_cons_self) found fits
      obtain ⟨answers, last, content'', ran, found'', elsewhere', same', steps⟩ :=
        ih (fun other member => onFile other (List.mem_cons_of_mem _ member))
          (fun other member => atomic other (List.mem_cons_of_mem _ member)) found' same.fits
      refine ⟨answer :: answers, last, content'', ?_, found'', fun other different => ?_,
        ⟨same'.fits, same'.header.trans same.header⟩, .cons step steps⟩
      · simp [SlotRequest.run, called, ran]
      · exact (elsewhere' other different).trans (elsewhere other different)

theorem ArrayRun.extends {v last : List UInt8} {requests : List (SlotRequest × List Reply)}
    {answers : List SlotAnswer} (steps : ArrayRun v requests answers last)
    (hints : ∀ request ∈ requests, request.1.isSizeHint = true) : v <+: last := by
  induction steps with
  | nil v => exact List.prefix_refl v
  | cons step steps ih =>
      exact (step.extends (hints _ List.mem_cons_self)).trans
        (ih fun request member => hints request (List.mem_cons_of_mem _ member))

theorem ArrayRun.unchanged {v last : List UInt8} {requests : List (SlotRequest × List Reply)}
    {answers : List SlotAnswer} (steps : ArrayRun v requests answers last)
    (readOnly : ∀ request ∈ requests, request.1.readOnly = true) : last = v := by
  induction steps with
  | nil v => rfl
  | cons step steps ih =>
      exact (ih fun request member => readOnly request (List.mem_cons_of_mem _ member)).trans
        (step.unchanged (readOnly _ List.mem_cons_self))

/-- The calls on the data of one slot answer as a byte array does, and leave its header
region and every other slot alone. -/
theorem handles_refine_array (w : World) (name : String) (content : SlotFile)
    (found : w.directory.lookup name = some content) (whole : 4096 ≤ content.contents.length)
    (bounded : content.contents.length ≤ 2 ^ 53 - 1) (requests : List (SlotRequest × List Reply))
    (onFile : ∀ request ∈ requests, request.1.file = name)
    (atomic : ∀ request ∈ requests, ∀ reply ∈ request.2, reply.Atomic) :
    ∃ answers last content', SlotRequest.run w requests = some (answers, last) ∧
      last.directory.lookup name = some content' ∧
      (∀ other, other ≠ name → last.directory.lookup other = w.directory.lookup other) ∧
      ArrayRun (content.contents.drop 4096) requests answers (content'.contents.drop 4096) ∧
      content'.contents.take 4096 = content.contents.take 4096 ∧
      4096 ≤ content'.contents.length ∧
      ((∀ request ∈ requests, request.1.isSizeHint = true) →
        content.contents <+: content'.contents) ∧
      ((∀ request ∈ requests, request.1.readOnly = true) →
        content'.contents = content.contents) := by
  obtain ⟨answers, last, content', ran, found', elsewhere, same, steps⟩ :=
    run_refines requests onFile atomic found ⟨whole, bounded⟩
  have header : content'.contents.take 4096 = content.contents.take 4096 := same.header
  refine ⟨answers, last, content', ran, found', elsewhere, steps, header, same.fits.low,
    fun hints => ?_, fun readOnly => ?_⟩
  · rw [← List.take_append_drop 4096 content.contents,
      ← List.take_append_drop 4096 content'.contents, header]
    exact (List.prefix_append_right_inj _).mpr (steps.extends hints)
  · have data : content'.contents.drop 4096 = content.contents.drop 4096 :=
      steps.unchanged readOnly
    rw [← List.take_append_drop 4096 content.contents,
      ← List.take_append_drop 4096 content'.contents, header, data]

def oneSlot : World :=
  World.start ((∅ : AList fun _ : String => SlotFile).insert "slot"
    (Journal.settled (zeroBytes 4096))) "pool"

/-- A handle writes behind the end, a read-only one reads it back, the browser fails a flush. -/
theorem two_handles_refine_array :
    ∃ answers last content', SlotRequest.run oneSlot
        [(.write ⟨none, "slot", false⟩ [7] 2, []), (.read ⟨none, "slot", true⟩ [9, 9, 9, 9] 0, []),
          (.sync ⟨none, "slot", true⟩, [.thrown ⟨none, none, ""⟩ .nothing])] =
        some (answers, last) ∧
      last.directory.lookup "slot" = some content' ∧
      (∀ other, other ≠ "slot" →
        last.directory.lookup other = oneSlot.directory.lookup other) ∧
      ArrayRun ((SlotFile.contents (Journal.settled (zeroBytes 4096))).drop 4096)
        [(.write ⟨none, "slot", false⟩ [7] 2, []), (.read ⟨none, "slot", true⟩ [9, 9, 9, 9] 0, []),
          (.sync ⟨none, "slot", true⟩, [.thrown ⟨none, none, ""⟩ .nothing])] answers
        (content'.contents.drop 4096) ∧
      content'.contents.take 4096 =
        (SlotFile.contents (Journal.settled (zeroBytes 4096))).take 4096 ∧
      4096 ≤ content'.contents.length := by
  obtain ⟨answers, last, content', ran, found, elsewhere, steps, header, whole, -⟩ :=
    handles_refine_array oneSlot "slot" (Journal.settled (zeroBytes 4096)) (AList.lookup_insert _)
      (by rw [SlotFile.contents, Journal.contents_settled, length_zeroBytes])
      (by rw [SlotFile.contents, Journal.contents_settled, length_zeroBytes]; decide)
      [(.write ⟨none, "slot", false⟩ [7] 2, []), (.read ⟨none, "slot", true⟩ [9, 9, 9, 9] 0, []),
        (.sync ⟨none, "slot", true⟩, [.thrown ⟨none, none, ""⟩ .nothing])]
      (by simp [SlotRequest.file]) (by simp [Reply.Atomic])
  exact ⟨answers, last, content', ran, found, elsewhere, steps, header, whole⟩

end Sahpool

end SqliteVfs
