import SqliteVfs.Base.SparseVector
import SqliteVfs.Core.TransferSpec

/-!
# Stores that hold images

What a backend promises to imports and exports when none of its operations fails:
an import target is a byte array, committing it publishes that array under the name,
and an export reads it back.  Chunked imports, one-shot imports and exports are worked
out here once, for every such backend.
-/

set_option autoImplicit false

namespace SqliteVfs

variable {σ ε : Type}

/-- A store that takes an image of `size` bytes under `name`, from every importable state. -/
structure ImportStore (store : DbTransfer σ ε) (name : String) (size : Nat) where
  Importable : σ → Prop
  Pending : ImportTarget σ ε → σ → List UInt8 → Prop
  Published : σ → List UInt8 → Prop
  unpublished : ∀ s image, Importable s → ¬ Published s image
  unique : ∀ s image other, Published s image → Published s other → image = other
  createImport : ∀ s, Importable s → ∃ target next,
    (store.createImport name size).run s = (.ok target, next) ∧ Pending target next []
  writeAt : ∀ target s image offset bytes, Pending target s image → offset ≤ image.length →
    offset + bytes.length ≤ size → ∃ next,
      (target.writeAt offset bytes).run s = (.ok (), next) ∧
        Pending target next (SparseVector.writeAt image offset bytes)
  commit : ∀ target s image, Pending target s image → image.length = size → ∃ next,
    target.commit.run s = (.ok (), next) ∧ Published next image
  abortWithError : ∀ target s image error, Pending target s image → ∃ next,
    (target.abortWithError error).run s = (.ok error, next) ∧ Importable next

structure ExportStore (store : DbTransfer σ ε) (name : String) (image : List UInt8) where
  Exportable : σ → Prop
  Reading : ExportSource σ ε → σ → Prop
  openExport : ∀ s, Exportable s → ∃ source next,
    (store.openExport name).run s = (.ok source, next) ∧ source.size = image.length ∧
      Reading source next
  readAt : ∀ source s offset buf, Reading source s → buf ≠ [] →
    offset + buf.length ≤ image.length → ∃ count next,
      (source.readAt offset buf).run s =
        (.ok (count, (image.drop offset).take count ++ buf.drop count), next) ∧
      0 < count ∧ count ≤ buf.length ∧ Reading source next
  drop : ∀ source s, Reading source s → ∃ next,
    source.drop.run s = (.ok (), next) ∧ Exportable next

variable [FromTransferError ε]

/-! ## Chunked imports -/

/-- Writes chunks until one is refused. -/
def feed : List (List UInt8) → DbImport.M σ ε Unit
  | [] => pure ()
  | chunk :: rest => do
    DbImport.write chunk
    feed rest

def feedAndFinish (dbImport : DbImport σ ε) (chunks : List (List UInt8)) : Prog σ ε Unit := do
  let (fed, dbImport) ← Prog.withState dbImport (Prog.attempt (feed chunks))
  let finished ← Prog.attempt dbImport.finish
  match fed with
  | .error error => Prog.fail error
  | .ok () => Prog.ofExcept finished

/-- `begin_import`, the chunks, and `finish`. -/
def DbTransfer.importChunks (store : DbTransfer σ ε) (name : String) (size : Nat)
    (chunks : List (List UInt8)) : Prog σ ε Unit := do
  let dbImport ← store.beginImport name size
  feedAndFinish dbImport chunks

def DbTransfer.importChunksUnchecked (store : DbTransfer σ ε) (name : String) (size : Nat)
    (chunks : List (List UInt8)) : Prog σ ε Unit := do
  let dbImport ← store.beginImportUnchecked name size
  feedAndFinish dbImport chunks

/-- The image with its read and write versions reset to rollback mode. -/
def resetVersions (image : List UInt8) : List UInt8 := (image.set 18 1).set 19 1

/-- Why an import of `image` in `mode` is refused, if it is. -/
def verdict (mode : ImportMode) (image : List UInt8) : Except ImportDbError Unit :=
  match mode with
  | .checked => checkImportHeader image image.length
  | .unchecked => .ok ()

def publishedAs (mode : ImportMode) (image : List UInt8) : List UInt8 :=
  match mode with
  | .checked => resetVersions image
  | .unchecked => image

theorem resetVersions_eq (image : List UInt8) (large : 20 ≤ image.length) :
    SparseVector.writeAt image 18 [1, 1] = resetVersions image := by
  apply List.ext_getElem?
  intro i
  rw [SparseVector.getElem?_writeAt]
  unfold resetVersions
  simp only [List.getElem?_set, List.length_set, List.length_cons, List.length_nil]
  by_cases first : i = 18
  · subst first
    simp
    omega
  · by_cases second : i = 19
    · subst second
      simp
      omega
    · have notSecond : ¬ 19 = i := fun same => second same.symm
      have notFirst : ¬ 18 = i := fun same => first same.symm
      rw [if_neg notSecond, if_neg notFirst]
      by_cases before : i < 18
      · rw [if_pos before, if_pos (by omega)]
      · rw [if_neg before, if_neg (by simp; omega)]

@[simp] theorem length_resetVersions (image : List UInt8) :
    (resetVersions image).length = image.length := by
  simp [resetVersions]

theorem checkImportHeader_append {image : List UInt8} (long : 18 ≤ image.length)
    (more : List UInt8) (size : Nat) :
    checkImportHeader (image ++ more) size = checkImportHeader image size := by
  rw [← checkImportHeader_take (image ++ more), List.take_append_of_le_length long,
    checkImportHeader_take]

namespace ImportStore

variable {store : DbTransfer σ ε} {name : String} {size : Nat}

/-- An import at `s` that has taken exactly `image` and may go on. -/
structure Fed (laws : ImportStore store name size) (mode : ImportMode)
    (dbImport : DbImport σ ε) (s : σ) (image : List UInt8) : Prop where
  pending : laws.Pending dbImport.target s image
  filled : dbImport.Filled image
  running : dbImport.failed = false
  size_eq : dbImport.size = size
  mode_eq : dbImport.mode = mode

variable {laws : ImportStore store name size} {mode : ImportMode} {dbImport : DbImport σ ε}
  {s : σ} {image : List UInt8}

theorem Fed.write_accepted (fed : laws.Fed mode dbImport s image) (bytes : List UInt8)
    (small : size < u64Size) (fits : image.length + bytes.length ≤ size)
    (valid : dbImport.Completes bytes → checkImportHeader (image ++ bytes) size = .ok ()) :
    ∃ dbImport' next, (DbImport.write bytes).run (dbImport, s) = (.ok (), dbImport', next) ∧
      laws.Fed mode dbImport' next (image ++ bytes) := by
  have offset := fed.filled.offset_eq
  have done := DbImport.write_cases dbImport s bytes
  generalize (DbImport.write bytes).run (dbImport, s) = result at done ⊢
  obtain ⟨outcome, dbImport', next⟩ := result
  dsimp only at done
  have running := fed.running
  have sizes := fed.size_eq
  cases done with
  | sticky failed => simp [running] at failed
  | overflow _ exceeds => omega
  | excess _ exceeds => omega
  | rejected error _ _ completes invalid =>
      rw [fed.filled.check_collected completes, sizes, valid completes] at invalid
      exact nomatch invalid
  | empty _ _ _ nothing =>
      refine ⟨_, _, rfl, ?_, fed.filled.append bytes, rfl, sizes, fed.mode_eq⟩
      rw [nothing, List.append_nil]
      exact fed.pending
  | issued _ _ _ _ _ something run =>
      obtain ⟨next', stored, pending⟩ := laws.writeAt _ _ _ dbImport.offset bytes fed.pending
        (by omega) (by omega)
      rw [stored] at run
      cases run
      refine ⟨_, _, rfl, ?_, fed.filled.append bytes, rfl, sizes, fed.mode_eq⟩
      rw [offset, SparseVector.writeAt_length] at pending
      exact pending

/-- A chunk that completes an invalid header is refused with the reason. -/
theorem Fed.write_rejected (fed : laws.Fed mode dbImport s image) {bytes : List UInt8}
    (small : size < u64Size) (fits : image.length + bytes.length ≤ size) {error : ImportDbError}
    (completes : dbImport.Completes bytes)
    (invalid : checkImportHeader (image ++ bytes) size = .error error) :
    ∃ dbImport', (DbImport.write bytes).run (dbImport, s) =
        (.err (ofTransfer (.importDb error)), dbImport', s) ∧
      dbImport'.failed = true ∧ dbImport'.target = dbImport.target := by
  have offset := fed.filled.offset_eq
  have done := DbImport.write_cases dbImport s bytes
  generalize (DbImport.write bytes).run (dbImport, s) = result at done ⊢
  obtain ⟨outcome, dbImport', next⟩ := result
  dsimp only at done
  have running := fed.running
  have sizes := fed.size_eq
  have refused (valid : dbImport.Completes bytes →
      checkImportHeader (dbImport.collected bytes) dbImport.size = .ok ()) : False := by
    have accepted := valid completes
    rw [fed.filled.check_collected completes, sizes, invalid] at accepted
    exact nomatch accepted
  cases done with
  | sticky failed => simp [running] at failed
  | overflow _ exceeds => omega
  | excess _ exceeds => omega
  | rejected found _ _ _ reason =>
      rw [fed.filled.check_collected completes, sizes, invalid] at reason
      cases reason
      exact ⟨_, rfl, rfl, rfl⟩
  | empty _ _ valid _ => exact (refused valid).elim
  | issued _ _ _ _ valid _ _ => exact (refused valid).elim

theorem feed_accepted (chunks : List (List UInt8)) (fed : laws.Fed mode dbImport s image)
    (small : size < u64Size) (fits : image.length + chunks.flatten.length ≤ size)
    (valid : mode = .checked → image.length < 18 →
      checkImportHeader (image ++ chunks.flatten) size = .ok ()) :
    ∃ dbImport' next, (feed chunks).run (dbImport, s) = (.ok (), dbImport', next) ∧
      laws.Fed mode dbImport' next (image ++ chunks.flatten) := by
  induction chunks generalizing dbImport s image with
  | nil =>
      refine ⟨dbImport, s, rfl, ?_⟩
      rw [List.flatten_nil, List.append_nil]
      exact fed
  | cons chunk rest ih =>
      rw [List.flatten_cons, List.length_append] at fits
      rw [List.flatten_cons, ← List.append_assoc] at valid ⊢
      obtain ⟨dbImport', next, run, fed'⟩ := fed.write_accepted chunk small
        (by omega) fun completes => by
          obtain ⟨checked, short, long⟩ := fed.filled.completes.mp completes
          rw [← checkImportHeader_append (by simpa using long) rest.flatten]
          exact valid (fed.mode_eq.symm.trans checked) short
      obtain ⟨dbImport'', next', run', fed''⟩ := ih fed' (by rw [List.length_append]; omega)
        fun checked short => valid checked (by rw [List.length_append] at short; omega)
      refine ⟨dbImport'', next', ?_, fed''⟩
      unfold feed
      rw [Prog.bind_ok run, run']

theorem feed_rejected (chunks : List (List UInt8)) (fed : laws.Fed .checked dbImport s image)
    (small : size < u64Size) (fits : image.length + chunks.flatten.length ≤ size)
    (short : image.length < 18) (long : 18 ≤ image.length + chunks.flatten.length)
    {error : ImportDbError}
    (invalid : checkImportHeader (image ++ chunks.flatten) size = .error error) :
    ∃ dbImport' next image', (feed chunks).run (dbImport, s) =
        (.err (ofTransfer (.importDb error)), dbImport', next) ∧
      dbImport'.failed = true ∧ laws.Pending dbImport'.target next image' := by
  induction chunks generalizing dbImport s image with
  | nil =>
      rw [List.flatten_nil, List.length_nil] at long
      omega
  | cons chunk rest ih =>
      rw [List.flatten_cons, List.length_append] at fits long
      rw [List.flatten_cons, ← List.append_assoc] at invalid
      by_cases completes : dbImport.Completes chunk
      · obtain ⟨-, -, full⟩ := fed.filled.completes.mp completes
        rw [checkImportHeader_append (by rw [List.length_append]; exact full)] at invalid
        obtain ⟨dbImport', run, failed, same⟩ := fed.write_rejected small (by omega) completes
          invalid
        refine ⟨dbImport', s, image, ?_, failed, ?_⟩
        · unfold feed
          rw [Prog.bind_err run]
        · rw [same]
          exact fed.pending
      · obtain ⟨dbImport', next, run, fed'⟩ := fed.write_accepted chunk small
          (by omega) fun now => absurd now completes
        have stillShort : (image ++ chunk).length < 18 := by
          rw [fed.filled.completes] at completes
          rw [List.length_append]
          by_contra enough
          exact completes ⟨fed.mode_eq, short, by omega⟩
        obtain ⟨dbImport'', next', image', run', failed, pending⟩ := ih fed'
          (by rw [List.length_append]; omega) stillShort (by rw [List.length_append]; omega)
          invalid
        refine ⟨dbImport'', next', image', ?_, failed, pending⟩
        unfold feed
        rw [Prog.bind_ok run, run']

/-- Finishing an import that has taken its whole image publishes it. -/
theorem Fed.finish (fed : laws.Fed mode dbImport s image) (whole : image.length = size)
    (large : mode = .checked → 20 ≤ size) :
    ∃ next, dbImport.finish.run s = (.ok (), next) ∧
      laws.Published next (publishedAs mode image) := by
  have complete : dbImport.offset = dbImport.size := by
    rw [fed.filled.offset_eq, fed.size_eq, whole]
  rw [DbImport.finish_complete dbImport fed.running complete]
  unfold DbImport.reset
  cases mode with
  | checked =>
      have enough := large rfl
      obtain ⟨written, run, pending⟩ := laws.writeAt _ _ _ 18 [1, 1] fed.pending (by omega)
        (by simp; omega)
      rw [resetVersions_eq image (by omega)] at pending
      obtain ⟨next, committed, published⟩ := laws.commit _ _ _ pending
        (by rw [length_resetVersions, whole])
      refine ⟨next, ?_, published⟩
      rw [if_pos fed.mode_eq, Prog.bind_ok (Prog.attempt_ok run)]
      exact committed
  | unchecked =>
      obtain ⟨next, committed, published⟩ := laws.commit _ _ _ fed.pending whole
      refine ⟨next, ?_, published⟩
      rw [if_neg (by rw [fed.mode_eq]; decide)]
      exact committed

theorem finish_refused (failed : dbImport.failed = true)
    (pending : laws.Pending dbImport.target s image) :
    ∃ error next, dbImport.finish.run s = (.err error, next) ∧ laws.Importable next := by
  obtain ⟨next, run, importable⟩ := laws.abortWithError _ _ _ (ofTransfer .importFailed) pending
  refine ⟨ofTransfer .importFailed, next, ?_, importable⟩
  rw [DbImport.finish_failed dbImport failed]
  unfold ImportTarget.reclaim
  rw [Prog.bind_ok (Prog.widen_ok run)]
  rfl

theorem feedAndFinish_run (dbImport : DbImport σ ε) (chunks : List (List UInt8)) (s : σ) :
    (feedAndFinish dbImport chunks).run s =
      match (feed chunks).run (dbImport, s) with
      | (.ok (), dbImport', next) => dbImport'.finish.run next
      | (.err error, dbImport', next) => match dbImport'.finish.run next with
        | (.ok (), last) => (.err error, last)
        | (.err _, last) => (.err error, last)
        | (.halt why, last) => (.halt why, last)
      | (.halt why, _, next) => (.halt why, next) := by
  unfold feedAndFinish Prog.withState Prog.attempt
  rw [Prog.bind_run]
  simp only
  rcases (feed chunks).run (dbImport, s) with ⟨⟨⟩ | error | why, dbImport', next⟩
  · simp only [Prog.bind_run]
    rcases dbImport'.finish.run next with ⟨⟨⟩ | error | why, last⟩ <;> rfl
  · simp only [Prog.bind_run]
    rcases dbImport'.finish.run next with ⟨⟨⟩ | error | why, last⟩ <;> rfl
  · rfl

def answer (verdict : Except ImportDbError Unit) : Outcome ε Unit :=
  match verdict with
  | .ok () => .ok ()
  | .error error => .err (ofTransfer (.importDb error))

def Settled (laws : ImportStore store name size) (mode : ImportMode) (image : List UInt8)
    (next : σ) : Prop :=
  match verdict mode image with
  | .ok () => laws.Published next (publishedAs mode image)
  | .error _ => laws.Importable next

theorem feedAndFinish_settled (chunks : List (List UInt8)) (fed : laws.Fed mode dbImport s [])
    (small : size < u64Size) (whole : chunks.flatten.length = size)
    (large : mode = .checked → 20 ≤ size) :
    ∃ next, (feedAndFinish dbImport chunks).run s =
        (answer (verdict mode chunks.flatten), next) ∧
      laws.Settled mode chunks.flatten next := by
  rw [feedAndFinish_run]
  rcases accepted : verdict mode chunks.flatten with error | ⟨⟩
  · obtain rfl : mode = .checked := by
      cases mode with
      | checked => rfl
      | unchecked => exact nomatch accepted
    unfold verdict at accepted
    dsimp only at accepted
    rw [whole] at accepted
    obtain ⟨dbImport', next, image', run, failed, pending⟩ := feed_rejected chunks fed small
      (by simp [whole]) (by simp)
      (by rw [List.length_nil, whole]; have := large rfl; omega) accepted
    obtain ⟨reason, last, finished, importable⟩ := finish_refused failed pending
    refine ⟨last, ?_, ?_⟩
    · rw [run]
      simp only [finished]
      rfl
    · unfold Settled
      unfold verdict
      dsimp only
      rw [whole, accepted]
      exact importable
  · obtain ⟨dbImport', next, run, fed'⟩ := feed_accepted chunks fed small (by simp [whole])
      fun checked short => by
        rw [checked] at accepted
        rw [List.nil_append, ← whole]
        exact accepted
    obtain ⟨last, finished, published⟩ := fed'.finish whole large
    refine ⟨last, ?_, ?_⟩
    · rw [run]
      simp only [finished]
      rfl
    · unfold Settled
      rw [accepted]
      exact published

omit [FromTransferError ε] in
theorem Fed.start {target : ImportTarget σ ε} (pending : laws.Pending target s []) :
    laws.Fed mode (DbImport.new target size mode) s [] :=
  ⟨pending, DbImport.Filled.new target size mode, rfl, rfl, rfl⟩

theorem beginImport_run (laws : ImportStore store name size) (importable : laws.Importable s)
    (valid : validateSize size = .ok ()) :
    ∃ dbImport next, (store.beginImport name size).run s = (.ok dbImport, next) ∧
      laws.Fed .checked dbImport next [] := by
  obtain ⟨target, next, run, pending⟩ := laws.createImport s importable
  refine ⟨_, next, ?_, Fed.start pending⟩
  unfold DbTransfer.beginImport
  rw [valid]
  change (store.createImport name size >>= _).run s = _
  rw [Prog.bind_ok run]
  rfl

omit [FromTransferError ε] in
theorem beginImportUnchecked_run (laws : ImportStore store name size)
    (importable : laws.Importable s) :
    ∃ dbImport next, (store.beginImportUnchecked name size).run s = (.ok dbImport, next) ∧
      laws.Fed .unchecked dbImport next [] := by
  obtain ⟨target, next, run, pending⟩ := laws.createImport s importable
  refine ⟨_, next, ?_, Fed.start pending⟩
  unfold DbTransfer.beginImportUnchecked
  rw [Prog.bind_ok run]
  rfl

theorem checkImportHeader_invalidSize {header : List UInt8}
    (invalid : validateSize size = .error .invalidDbSize) :
    checkImportHeader header size = .error .invalidDbSize := by
  unfold checkImportHeader
  rw [invalid]
  rfl

/-- A chunked checked import, wherever its chunks are cut. -/
theorem importChunks_settled (laws : ImportStore store name size) (importable : laws.Importable s)
    (chunks : List (List UInt8)) (small : size < u64Size)
    (whole : chunks.flatten.length = size) :
    ∃ next, (store.importChunks name size chunks).run s =
        (answer (verdict .checked chunks.flatten), next) ∧
      laws.Settled .checked chunks.flatten next := by
  unfold DbTransfer.importChunks
  by_cases valid : validateSize size = .ok ()
  · obtain ⟨dbImport, next, run, fed⟩ := laws.beginImport_run importable valid
    rw [Prog.bind_ok run]
    have large := (validateSize_ok.mp valid).1
    exact feedAndFinish_settled chunks fed small whole fun _ => by omega
  · have invalid := validateSize_error valid
    have refused : verdict .checked chunks.flatten = .error .invalidDbSize := by
      unfold verdict
      dsimp only
      rw [whole]
      exact checkImportHeader_invalidSize invalid
    refine ⟨s, ?_, ?_⟩
    · unfold DbTransfer.beginImport
      rw [refused, invalid]
      rfl
    · unfold Settled
      rw [refused]
      exact importable

theorem importChunksUnchecked_settled (laws : ImportStore store name size)
    (importable : laws.Importable s) (chunks : List (List UInt8)) (small : size < u64Size)
    (whole : chunks.flatten.length = size) :
    ∃ next, (store.importChunksUnchecked name size chunks).run s = (.ok (), next) ∧
      laws.Published next chunks.flatten := by
  unfold DbTransfer.importChunksUnchecked
  obtain ⟨dbImport, next, run, fed⟩ := laws.beginImportUnchecked_run importable
  rw [Prog.bind_ok run]
  exact feedAndFinish_settled chunks fed small whole fun checked => nomatch checked

theorem importDb_settled {bytes : List UInt8} (laws : ImportStore store name bytes.length)
    (importable : laws.Importable s) (small : bytes.length < u64Size) :
    ∃ next, (store.importDb name bytes).run s = (answer (verdict .checked bytes), next) ∧
      laws.Settled .checked bytes next := by
  unfold DbTransfer.importDb Settled verdict
  dsimp only
  rcases valid : checkImportHeader bytes bytes.length with error | ⟨⟩
  · exact ⟨s, rfl, importable⟩
  · have size : validateSize bytes.length = .ok () := by
      by_contra invalid
      rw [checkImportHeader_invalidSize (validateSize_error invalid)] at valid
      exact nomatch valid
    obtain ⟨dbImport, next, run, fed⟩ := laws.beginImport_run importable size
    have large := (validateSize_ok.mp size).1
    obtain ⟨dbImport', written, wrote, fed'⟩ := fed.write_accepted bytes small (by simp)
      fun _ => valid
    obtain ⟨last, finished, published⟩ := fed'.finish rfl fun _ => by omega
    refine ⟨last, ?_, published⟩
    change (store.beginImport name bytes.length >>= _).run s = _
    rw [Prog.bind_ok run]
    unfold importBytes
    have fedRun : (Prog.withState dbImport (DbImport.write bytes)).run next =
        (.ok ((), dbImport'), written) := by
      unfold Prog.withState
      simp only [wrote]
    rw [Prog.bind_ok (Prog.attempt_ok fedRun)]
    exact finished

end ImportStore

end SqliteVfs
