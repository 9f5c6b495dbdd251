import SqliteVfs.Callbacks.Io
import SqliteVfs.Core.ChunksFileSpec

/-!
# Reading through `xRead`

Whatever the backend answers, the buffer is defined and the code says what is in it.
-/

set_option autoImplicit false

namespace SqliteVfs

namespace Callbacks

open SparseVector

variable {σ H α : Type} {backend : Backend σ H} {w : World σ H} {pFile box : Nat}
  {handle : Handle H} {iAmt iOfst : Int}

def SQLITE_IOERR_READ : Int := 266
def SQLITE_IOERR_SHORT_READ : Int := 522

structure World.Live (w : World σ H) (pFile box : Nat) (handle : Handle H) : Prop where
  pointer : (w.files pFile).handle = some box
  boxed : w.boxes box = some handle

theorem onHandle_run (live : w.Live pFile box handle) (call : H → σ → α × H × σ) :
    (onHandle pFile call).run w = (.ok (call handle.value w.app).1,
      { w with
        app := (call handle.value w.app).2.2
        boxes := Function.update w.boxes box
          (some { handle with value := (call handle.value w.app).2.1 }) }) := by
  unfold onHandle
  dsimp only
  rw [live.pointer]
  dsimp only
  rw [live.boxed]

theorem storeErr_run (error : VfsError) :
    (storeErr error : CallbackM σ H Int).run w =
      (.ok error.rawCode, { w with recorded := w.recorded ++ [error] }) := rfl

def answerTo (backend : Backend σ H) (w : World σ H) (handle : Handle H) (iAmt iOfst : Int) :
    Except VfsError Nat × List UInt8 × H × σ :=
  backend.io.read (List.replicate iAmt.toNat 0) iOfst.toNat handle.value w.app

variable (backend) in
theorem xRead_run (live : w.Live pFile box handle) (some : 0 < iAmt) (inside : 0 ≤ iOfst) :
    ∃ code w', (xRead backend pFile iAmt iOfst).run w = (.ok code, w') ∧
      match (answerTo backend w handle iAmt iOfst).1 with
      | .error error => code = (if error.rawCode = SQLITE_IOERR_SHORT_READ then SQLITE_IOERR_READ
          else error.rawCode)
      | .ok count =>
        (count = iAmt.toNat → code = SQLITE_OK ∧
          w'.buffer = (answerTo backend w handle iAmt iOfst).2.1 ++ w.buffer.drop iAmt.toNat) ∧
        (iAmt.toNat < count → code = SQLITE_IOERR_READ) ∧
        (count < iAmt.toNat → code = SQLITE_IOERR_SHORT_READ ∧
          w'.buffer = (answerTo backend w handle iAmt iOfst).2.1.take count ++
            List.replicate (iAmt.toNat - count) 0 ++ w.buffer.drop iAmt.toNat) := by
  have length := backend.io.length_read (List.replicate iAmt.toNat 0) iOfst.toNat handle.value w.app
  rw [List.length_replicate] at length
  have cleared :
      (List.replicate iAmt.toNat (0 : UInt8) ++ w.buffer.drop iAmt.toNat).take iAmt.toNat =
      List.replicate iAmt.toNat 0 := List.take_left' List.length_replicate
  have beyond :
      (List.replicate iAmt.toNat (0 : UInt8) ++ w.buffer.drop iAmt.toNat).drop iAmt.toNat =
      w.buffer.drop iAmt.toNat := List.drop_left' List.length_replicate
  unfold xRead answerTo
  rw [if_neg (by omega), if_neg (by omega)]
  dsimp only
  rw [if_neg (by omega), Prog.modify_bind, Prog.get_bind]
  dsimp only
  rw [cleared]
  have live' : World.Live { w with
      buffer := List.replicate iAmt.toNat 0 ++ w.buffer.drop iAmt.toNat } pFile box handle :=
    ⟨live.pointer, live.boxed⟩
  rw [Prog.bind_ok (onHandle_run live' _)]
  dsimp only
  rw [Prog.modify_bind, beyond]
  rcases answer : backend.io.read (List.replicate iAmt.toNat 0) iOfst.toNat handle.value w.app with
    ⟨error | count, slice, file, app⟩
  · dsimp only
    by_cases short : error.rawCode = SQLITE_IOERR_SHORT_READ
    · have same : error.rawCode = VfsErrorCode.ioShortRead.asRaw := short
      rw [if_pos same, if_pos short]
      exact ⟨_, _, storeErr_run _, rfl⟩
    · have different : error.rawCode ≠ VfsErrorCode.ioShortRead.asRaw := short
      rw [if_neg different, if_neg short]
      exact ⟨_, _, storeErr_run _, rfl⟩
  · dsimp only
    rw [answer] at length
    change slice.length = iAmt.toNat at length
    by_cases excess : iAmt.toNat < count
    · rw [if_pos excess]
      exact ⟨_, _, storeErr_run _, by omega, fun _ => rfl, by omega⟩
    rw [if_neg excess]
    by_cases under : count < iAmt.toNat
    · rw [if_pos under, Prog.modify_bind]
      refine ⟨_, _, storeErr_run _, by omega, by omega, fun _ => ⟨rfl, ?_⟩⟩
      change (slice ++ w.buffer.drop iAmt.toNat).take count ++
        List.replicate (iAmt.toNat - count) 0 ++
          (slice ++ w.buffer.drop iAmt.toNat).drop iAmt.toNat = _
      rw [List.take_append_of_le_length (by omega), List.drop_left' length]
    · rw [if_neg under]
      exact ⟨_, _, rfl, fun _ => ⟨rfl, rfl⟩, by omega, by omega⟩

variable (w pFile) in
/-- A read that is not made asks no backend. -/
theorem xRead_nothing (nothing : iAmt ≤ 0 ∨ iOfst < 0) :
    ∃ code w', (∀ backend : Backend σ H, (xRead backend pFile iAmt iOfst).run w = (.ok code, w')) ∧
      w'.buffer = w.buffer ∧ w'.app = w.app ∧ w'.boxes = w.boxes ∧
      ((code = SQLITE_OK ∧ iAmt = 0 ∧ 0 ≤ iOfst) ∨
        (code = SQLITE_IOERR_READ ∧ (iAmt < 0 ∨ iOfst < 0))) := by
  unfold xRead
  by_cases negative : iAmt < 0
  · refine ⟨SQLITE_IOERR_READ, { w with
      recorded := w.recorded ++ [VfsError.new .ioRead "negative read length"] },
      fun backend => ?_, rfl, rfl, rfl, .inr ⟨rfl, .inl negative⟩⟩
    rw [if_pos negative]
    exact storeErr_run _
  by_cases before : iOfst < 0
  · refine ⟨SQLITE_IOERR_READ, { w with
      recorded := w.recorded ++ [VfsError.new .ioRead "negative file offset"] },
      fun backend => ?_, rfl, rfl, rfl, .inr ⟨rfl, .inr before⟩⟩
    rw [if_neg negative, if_pos before]
    exact storeErr_run _
  have zero : iAmt.toNat = 0 := by omega
  refine ⟨SQLITE_OK, w, fun backend => ?_, rfl, rfl, rfl, .inl ⟨rfl, by omega, by omega⟩⟩
  rw [if_neg negative, if_neg before]
  dsimp only
  rw [if_pos zero]
  rfl

/-- `xRead` is honest, on every file that is open and for every backend. -/
structure HonestRead (backend : Backend σ H) (w : World σ H) (pFile : Nat) (handle : Handle H)
    (iAmt iOfst code : Int) (w' : World σ H) : Prop where
  ok : code = SQLITE_OK ↔ 0 ≤ iAmt ∧ 0 ≤ iOfst ∧
    (iAmt = 0 ∨ (answerTo backend w handle iAmt iOfst).1 = .ok iAmt.toNat)
  short : code = SQLITE_IOERR_SHORT_READ ↔ 0 < iAmt ∧ 0 ≤ iOfst ∧
    ∃ count, (answerTo backend w handle iAmt iOfst).1 = .ok count ∧ count < iAmt.toNat
  /-- The first `count` bytes are the backend's, those after them are zeros. -/
  defined : 0 < iAmt → 0 ≤ iOfst → ∀ count, (answerTo backend w handle iAmt iOfst).1 = .ok count →
    count ≤ iAmt.toNat → w'.buffer = (answerTo backend w handle iAmt iOfst).2.1.take count ++
      List.replicate (iAmt.toNat - count) 0 ++ w.buffer.drop iAmt.toNat
  aliased : 0 < iAmt → 0 ≤ iOfst → ∀ error, (answerTo backend w handle iAmt iOfst).1 =
    .error error → error.rawCode = SQLITE_IOERR_SHORT_READ → code = SQLITE_IOERR_READ
  untouched : iAmt ≤ 0 ∨ iOfst < 0 → w'.buffer = w.buffer ∧ w'.app = w.app ∧ w'.boxes = w.boxes ∧
    ∀ other : Backend σ H, (xRead other pFile iAmt iOfst).run w = (.ok code, w')

theorem read_is_honest (live : w.Live pFile box handle) :
    ∃ code w', (xRead backend pFile iAmt iOfst).run w = (.ok code, w') ∧
      HonestRead backend w pFile handle iAmt iOfst code w' := by
  by_cases reached : 0 < iAmt ∧ 0 ≤ iOfst
  swap
  · obtain ⟨code, w', run, buffer, app, boxes, result⟩ :=
      xRead_nothing (H := H) w pFile (show iAmt ≤ 0 ∨ iOfst < 0 by omega)
    have beside (P : Prop) (some : 0 < iAmt) (inside : 0 ≤ iOfst) : P :=
      absurd ⟨some, inside⟩ reached
    refine ⟨code, w', run backend, ?_⟩
    rcases result with ⟨rfl, zero, inside⟩ | ⟨rfl, negative⟩
    · exact {
        ok := iff_of_true rfl ⟨by omega, inside, .inl zero⟩
        short := iff_of_false nofun fun short => by omega
        defined := fun some inside => beside _ some inside
        aliased := fun some inside => beside _ some inside
        untouched := fun _ => ⟨buffer, app, boxes, run⟩ }
    · exact {
        ok := iff_of_false nofun fun ok => by omega
        short := iff_of_false nofun fun short => by omega
        defined := fun some inside => beside _ some inside
        aliased := fun some inside => beside _ some inside
        untouched := fun _ => ⟨buffer, app, boxes, run⟩ }
  obtain ⟨some, inside⟩ := reached
  obtain ⟨code, w', run, result⟩ := xRead_run backend live some inside
  refine ⟨code, w', run, ?_⟩
  have positive : iAmt ≠ 0 := by omega
  have length := backend.io.length_read (List.replicate iAmt.toNat 0) iOfst.toNat handle.value w.app
  rw [List.length_replicate] at length
  change (answerTo backend w handle iAmt iOfst).2.1.length = iAmt.toNat at length
  have reaching (P : Prop) (nothing : iAmt ≤ 0 ∨ iOfst < 0) : P := by omega
  rcases answer : (answerTo backend w handle iAmt iOfst).1 with error | count
  · rw [answer] at result
    change code = if error.rawCode = SQLITE_IOERR_SHORT_READ then SQLITE_IOERR_READ
      else error.rawCode at result
    have honest : code ≠ SQLITE_OK ∧ code ≠ SQLITE_IOERR_SHORT_READ ∧
        (error.rawCode = SQLITE_IOERR_SHORT_READ → code = SQLITE_IOERR_READ) := by
      by_cases short : error.rawCode = SQLITE_IOERR_SHORT_READ
      · rw [if_pos short] at result
        rw [result]
        exact ⟨nofun, nofun, fun _ => rfl⟩
      · rw [if_neg short] at result
        rw [result]
        exact ⟨VfsErrorCode.asRaw_ne_ok error.constructible, short, fun same => absurd same short⟩
    exact {
      ok := iff_of_false honest.1 fun ok => by
        rcases ok.2.2 with zero | counted
        · exact positive zero
        · exact nomatch answer.symm.trans counted
      short := iff_of_false honest.2.1 fun ⟨_, _, _, counted, _⟩ =>
        nomatch answer.symm.trans counted
      defined := fun _ _ _ counted => nomatch answer.symm.trans counted
      aliased := fun _ _ error' failed => by
        obtain rfl := Except.error.inj (answer.symm.trans failed)
        exact honest.2.2
      untouched := reaching _ }
  rw [answer] at result
  obtain ⟨whole, excess, under⟩ := result
  have counts {count' : Nat} (counted : (answerTo backend w handle iAmt iOfst).1 = .ok count') :
      count = count' := Except.ok.inj (answer.symm.trans counted)
  rcases Nat.lt_trichotomy count iAmt.toNat with less | same | more
  · obtain ⟨rfl, filled⟩ := under less
    exact {
      ok := iff_of_false nofun fun ok => by
        rcases ok.2.2 with zero | counted
        · exact positive zero
        · exact absurd (counts counted) less.ne
      short := iff_of_true rfl ⟨some, inside, count, answer, less⟩
      defined := fun _ _ count' counted _ => by
        obtain rfl := counts counted
        exact filled
      aliased := fun _ _ _ failed => nomatch answer.symm.trans failed
      untouched := reaching _ }
  · obtain ⟨rfl, filled⟩ := whole same
    exact {
      ok := iff_of_true rfl ⟨some.le, inside, .inr (answer.trans (congrArg Except.ok same))⟩
      short := iff_of_false nofun fun ⟨_, _, count', counted, less⟩ => by
        have := counts counted
        omega
      defined := fun _ _ count' counted _ => by
        obtain rfl := counts counted
        rw [filled, same, Nat.sub_self, List.take_of_length_le length.le]
        simp
      aliased := fun _ _ _ failed => nomatch answer.symm.trans failed
      untouched := reaching _ }
  · obtain rfl := excess more
    exact {
      ok := iff_of_false nofun fun ok => by
        rcases ok.2.2 with zero | counted
        · exact positive zero
        · exact absurd (counts counted) more.ne'
      short := iff_of_false nofun fun ⟨_, _, count', counted, less⟩ => by
        have := counts counted
        omega
      defined := fun _ _ count' counted fits => by
        have := counts counted
        omega
      aliased := fun _ _ _ failed => nomatch answer.symm.trans failed
      untouched := reaching _ }

/-! ## With the chunked file -/

/-- I/O methods whose `read` is that of `MemChunksFile`, which returns `Ok` on every path. -/
def withChunks (bits : Nat) (rest : VfsFile σ MemChunksFile) : VfsFile σ MemChunksFile :=
  { rest with
    read := fun buf offset file s =>
      match (MemChunksFile.read bits buf offset.toUInt64).run file with
      | (.ok (count, filled), file') => (.ok count, filled, file', s)
      | (_, file') => (.ok 0, buf, file', s)
    length_read := fun buf offset file s => by
      split
      · rename_i run
        exact MemChunksFile.length_of_read run
      · rfl }

/-- A read of a chunked file is what the file has in the range, and zeros. -/
theorem read_of_chunks {bits : Nat} {store : VfsStore σ MemChunksFile}
    {rest : VfsFile σ MemChunksFile} {clock : StoreMethod σ Int} {w : World σ MemChunksFile}
    {handle : Handle MemChunksFile} (live : w.Live pFile box handle)
    (wf : handle.value.WellFormed bits) (some : 0 < iAmt) (inside : 0 ≤ iOfst)
    (word : iOfst < 2 ^ 63) :
    ∃ code w', (xRead ⟨store, withChunks bits rest, clock⟩ pFile iAmt iOfst).run w =
        (.ok code, w') ∧
      w'.buffer = readAt handle.value.contents iOfst.toNat iAmt.toNat ++
        List.replicate (iAmt.toNat - (handle.value.contents.length - iOfst.toNat)) 0 ++
        w.buffer.drop iAmt.toNat ∧
      (code = SQLITE_OK ↔ iOfst.toNat + iAmt.toNat ≤ handle.value.contents.length) ∧
      (code = SQLITE_IOERR_SHORT_READ ↔
        handle.value.contents.length < iOfst.toNat + iAmt.toNat) := by
  obtain ⟨code, w', run, honest⟩ : ∃ code w',
      (xRead ⟨store, withChunks bits rest, clock⟩ pFile iAmt iOfst).run w = (.ok code, w') ∧
        HonestRead ⟨store, withChunks bits rest, clock⟩ w pFile handle iAmt iOfst code w' :=
    read_is_honest live
  have exact : iOfst.toNat.toUInt64.toNat = iOfst.toNat := by
    have small : iOfst.toNat < 2 ^ 64 := by omega
    exact Nat.mod_eq_of_lt small
  have answer : answerTo ⟨store, withChunks bits rest, clock⟩ w handle iAmt iOfst =
      (.ok (min iAmt.toNat (handle.value.contents.length - iOfst.toNat)),
        readAt handle.value.contents iOfst.toNat iAmt.toNat ++
          (List.replicate iAmt.toNat 0).drop
            (min iAmt.toNat (handle.value.contents.length - iOfst.toNat)),
        handle.value, w.app) := by
    have read := MemChunksFile.read_eq wf (List.replicate iAmt.toNat 0) iOfst.toNat.toUInt64
    rw [exact, List.length_replicate] at read
    unfold answerTo withChunks
    dsimp only
    rw [read]
  set v := handle.value.contents with contents
  set count := min iAmt.toNat (v.length - iOfst.toNat) with counted
  have shown := honest.defined some inside count (congrArg Prod.fst answer) (by omega)
  refine ⟨code, w', run, ?_, ?_, ?_⟩
  · have length : (readAt v iOfst.toNat iAmt.toNat).length = count := length_readAt _ _ _
    rw [shown, congrArg (fun answer => answer.2.1) answer, List.take_left' length]
    have same : iAmt.toNat - count = iAmt.toNat - (v.length - iOfst.toNat) := by omega
    rw [same]
  · rw [honest.ok, congrArg Prod.fst answer, Except.ok.injEq]
    omega
  · rw [honest.short, congrArg Prod.fst answer]
    constructor
    · rintro ⟨-, -, count', same, less⟩
      obtain rfl := Except.ok.inj same
      omega
    · intro past
      exact ⟨some, inside, count, rfl, by omega⟩

/-- Whatever the backend does, `xRead` leaves a defined buffer and an honest code; with the
chunked file, these are the bytes of the file, and whether there are enough of them. -/
theorem xRead_yields_defined_buffer :
    (∀ (σ H : Type) (backend : Backend σ H) (w : World σ H) (pFile box : Nat) (handle : Handle H)
      (iAmt iOfst : Int), w.Live pFile box handle →
      ∃ code w', (xRead backend pFile iAmt iOfst).run w = (.ok code, w') ∧
        HonestRead backend w pFile handle iAmt iOfst code w') ∧
    ∀ (σ : Type) (bits : Nat) (store : VfsStore σ MemChunksFile) (rest : VfsFile σ MemChunksFile)
      (clock : StoreMethod σ Int) (w : World σ MemChunksFile) (pFile box : Nat)
      (handle : Handle MemChunksFile) (iAmt iOfst : Int), w.Live pFile box handle →
      handle.value.WellFormed bits → 0 < iAmt → 0 ≤ iOfst → iOfst < 2 ^ 63 →
      ∃ code w', (xRead ⟨store, withChunks bits rest, clock⟩ pFile iAmt iOfst).run w =
          (.ok code, w') ∧
        w'.buffer = readAt handle.value.contents iOfst.toNat iAmt.toNat ++
          List.replicate (iAmt.toNat - (handle.value.contents.length - iOfst.toNat)) 0 ++
          w.buffer.drop iAmt.toNat ∧
        (code = SQLITE_OK ↔ iOfst.toNat + iAmt.toNat ≤ handle.value.contents.length) ∧
        (code = SQLITE_IOERR_SHORT_READ ↔
          handle.value.contents.length < iOfst.toNat + iAmt.toNat) :=
  ⟨fun _ _ _ _ _ _ _ _ _ live => read_is_honest live,
    fun _ _ _ _ _ _ _ _ _ _ _ live wf some inside word => read_of_chunks live wf some inside word⟩

def World.nullFile : World Unit Unit :=
  { (World.start () : World Unit Unit) with
    boxes := fun _ => some ⟨0, ()⟩
    files := fun _ => ⟨true, ⟨0⟩, none, 0, some 0⟩ }

theorem xRead_of_null : ∃ code w', (xRead Backend.null 0 4 0).run World.nullFile = (.ok code, w') ∧
    HonestRead Backend.null World.nullFile 0 ⟨0, ()⟩ 4 0 code w' :=
  xRead_yields_defined_buffer.1 Unit Unit Backend.null World.nullFile 0 0 ⟨0, ()⟩ 4 0 ⟨rfl, rfl⟩

end Callbacks

end SqliteVfs
