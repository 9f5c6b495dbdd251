import SqliteVfs.Core.ExportReads
import SqliteVfs.Core.TransferStore

/-!
# Exports

A sequential export through buffers of any sizes returns the image in order, however
the source splits its answers.
-/

set_option autoImplicit false

namespace SqliteVfs

variable {σ ε : Type} [FromTransferError ε]

def readEach : List (List UInt8) → Prog (DbExport σ ε × σ) ε (List UInt8)
  | [] => pure []
  | buf :: rest => do
    let (count, filled) ← DbExport.read buf
    let more ← readEach rest
    pure (filled.take count ++ more)

/-- `begin_export`, the reads, and the drop; with the advertised size. -/
def DbTransfer.exportChunks (store : DbTransfer σ ε) (name : String)
    (buffers : List (List UInt8)) : Prog σ ε (Nat × List UInt8) := do
  let dbExport ← store.beginExport name
  Prog.ensure dbExport.drop do
    let (bytes, _) ← Prog.withState dbExport (readEach buffers)
    pure (dbExport.size, bytes)

namespace ExportStore

variable {store : DbTransfer σ ε} {name : String} {image : List UInt8}
  {laws : ExportStore store name image} {source : ExportSource σ ε} {s : σ}

omit [FromTransferError ε] in
theorem faithful (laws : ExportStore store name image) (source : ExportSource σ ε) :
    Faithful source image (laws.Reading source) where
  kept s offset buf reading nonempty within := by
    obtain ⟨count, next, run, _, _, reading'⟩ :=
      laws.readAt source s offset buf reading nonempty within
    rw [run]
    exact reading'
  bytes s offset buf count filled next reading nonempty within run _ := by
    obtain ⟨count', next', run', _, atMost, _⟩ :=
      laws.readAt source s offset buf reading nonempty within
    obtain ⟨same, -⟩ := Prod.mk.inj (run.symm.trans run')
    obtain ⟨rfl, rfl⟩ := Prod.mk.inj (Outcome.ok.inj same)
    refine List.take_left' ?_
    rw [List.length_take, List.length_drop]
    omega
  answers s offset buf reading nonempty within := by
    obtain ⟨count, next, run, positive, atMost, _⟩ :=
      laws.readAt source s offset buf reading nonempty within
    exact ⟨count, _, next, run, positive, atMost⟩
  drops s reading := by
    obtain ⟨next, run, _⟩ := laws.drop source s reading
    exact ⟨next, run⟩

/-- An export at `s` whose cursor stands inside the image. -/
structure Running (laws : ExportStore store name image) (dbExport : DbExport σ ε) (s : σ) :
    Prop where
  reading : laws.Reading dbExport.source s
  size_eq : dbExport.size = image.length
  offset_le : dbExport.offset ≤ image.length

variable {dbExport : DbExport σ ε}

/-- A read fills the buffer from the cursor on, up to the end of the image. -/
theorem Running.read_run (running : laws.Running dbExport s) (buf : List UInt8) :
    ∃ next, (DbExport.read buf).run (dbExport, s) =
        (.ok (min (image.length - dbExport.offset) buf.length,
          (image.drop dbExport.offset).take buf.length ++
            buf.drop (min (image.length - dbExport.offset) buf.length)),
          { dbExport with
            offset := dbExport.offset + min (image.length - dbExport.offset) buf.length }, next) ∧
      laws.Reading dbExport.source next := by
  have inside := running.offset_le
  have faithful := faithful laws dbExport.source
  obtain ⟨filled, next, run⟩ := faithful.read running.size_eq inside running.reading buf
  obtain ⟨kept, bytes⟩ := faithful.toTruthful.read running.size_eq inside running.reading run
  refine ⟨next, ?_, kept⟩
  obtain ⟨outcome, cursor, next', asks, ends⟩ := read_ends dbExport
    (running.size_eq ▸ inside) buf s
  obtain ⟨rfl, -⟩ := Prod.mk.inj (ends.run.symm.trans run)
  obtain ⟨-, -, -, past, -⟩ := ends.ends
  have front := bytes _ _ rfl
  have shorter : (image.drop dbExport.offset).take
      (min (image.length - dbExport.offset) buf.length) =
        (image.drop dbExport.offset).take buf.length := by
    rw [List.take_eq_take_iff, List.length_drop]
    omega
  rw [run, ← past, ← shorter, ← front, List.take_append_drop]

omit [FromTransferError ε] in
theorem Running.advance (running : laws.Running dbExport s) {next : σ}
    (reading : laws.Reading dbExport.source next) (wanted : Nat) :
    laws.Running { dbExport with
      offset := dbExport.offset + min (image.length - dbExport.offset) wanted } next where
  reading := reading
  size_eq := running.size_eq
  offset_le := by
    have := running.offset_le
    dsimp only
    omega

/-- Reads through any buffers return the image in order, up to what they hold. -/
theorem Running.readEach_run (buffers : List (List UInt8)) (running : laws.Running dbExport s) :
    ∃ dbExport' next, (readEach buffers).run (dbExport, s) =
        (.ok ((image.drop dbExport.offset).take buffers.flatten.length), dbExport', next) ∧
      laws.Running dbExport' next ∧ dbExport'.source = dbExport.source := by
  induction buffers generalizing dbExport s with
  | nil => exact ⟨dbExport, s, by simp [readEach], running, rfl⟩
  | cons buf rest ih =>
      obtain ⟨next, run, reading⟩ := running.read_run buf
      obtain ⟨dbExport', last, run', running', same⟩ := ih (running.advance reading buf.length)
      refine ⟨dbExport', last, ?_, running', same⟩
      have taken : (((image.drop dbExport.offset).take buf.length ++
          buf.drop (min (image.length - dbExport.offset) buf.length)).take
            (min (image.length - dbExport.offset) buf.length)) =
              (image.drop dbExport.offset).take buf.length :=
        List.take_left' (by rw [List.length_take, List.length_drop, Nat.min_comm])
      have rest_eq : (image.drop (dbExport.offset +
          min (image.length - dbExport.offset) buf.length)).take rest.flatten.length =
            ((image.drop dbExport.offset).drop buf.length).take rest.flatten.length := by
        rw [List.drop_drop]
        rcases Nat.le_total buf.length (image.length - dbExport.offset) with fits | past
        · rw [Nat.min_eq_right fits]
        · rw [Nat.min_eq_left past, List.drop_eq_nil_of_le (by omega),
            List.drop_eq_nil_of_le (by omega)]
      unfold readEach
      rw [Prog.bind_ok run]
      dsimp only
      rw [Prog.bind_ok run']
      dsimp only
      rw [taken, rest_eq, List.flatten_cons, List.length_append, List.take_add]
      rfl

/-- A whole export: the advertised size is the length of the image, and the reads return
the image up to what their buffers hold. -/
theorem exportChunks_run (laws : ExportStore store name image) (exportable : laws.Exportable s)
    (buffers : List (List UInt8)) :
    ∃ next, (store.exportChunks name buffers).run s =
        (.ok (image.length, image.take buffers.flatten.length), next) ∧ laws.Exportable next := by
  obtain ⟨source, opened, run, size, reading⟩ := laws.openExport s exportable
  have running : laws.Running (DbExport.new source) opened := ⟨reading, size, Nat.zero_le _⟩
  obtain ⟨dbExport', last, run', running', same⟩ := running.readEach_run buffers
  obtain ⟨next, dropped, exportable'⟩ := laws.drop dbExport'.source last running'.reading
  refine ⟨next, ?_, exportable'⟩
  unfold DbTransfer.exportChunks DbTransfer.beginExport
  have begun : (do
      let source ← store.openExport name
      pure (DbExport.new source) : Prog σ ε _).run s = (.ok (DbExport.new source), opened) := by
    rw [Prog.bind_ok run]
    rfl
  rw [Prog.bind_ok begun]
  rw [same] at dropped
  refine Prog.ensure_ok ?_ dropped
  rw [Prog.bind_ok (Prog.withState_ok run')]
  dsimp only
  rw [show (DbExport.new source).size = image.length from size]
  rfl

end ExportStore

end SqliteVfs
