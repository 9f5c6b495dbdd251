import SqliteVfs.Core.MemTransfersRun
import SqliteVfs.Core.TransferAcceptance
import SqliteVfs.Core.TransferExport

/-!
# Transfer round trips

A store whose operations do not fail is an archive: what is imported under a name is what
an export of that name returns, and what was exported can be imported again.  The round
trip is worked out once for every archive; the memory VFS is one, in every state that a
run of it reaches.
-/

set_option autoImplicit false

namespace SqliteVfs

variable {σ ε : Type}

abbrev Images : Type := String → Option (List UInt8)

/-- A store of images.  `Holds room images` are its states that hold exactly these, with
room for so many more. -/
structure Archive (store : DbTransfer σ ε) where
  read : σ → Images
  Holds : Nat → Images → σ → Prop
  /-- A new image of this size can come under the name. -/
  Takes : Images → String → Nat → Prop
  /-- The image of the name can be exported. -/
  Gives : Images → String → Prop
  read_eq : ∀ {room images s}, Holds room images s → read s = images
  imports : ∀ (_ : Nat) {images name size}, Takes images name size → ImportStore store name size
  importable : ∀ {room images name size s} (takes : Takes images name size),
    Holds (room + 1) images s ↔ (imports room takes).Importable s
  published : ∀ {room images name size s image} (takes : Takes images name size),
    (imports room takes).Published s image → Holds room (Function.update images name (some image)) s
  exports : ∀ (_ : Nat) {images name image}, images name = some image → Gives images name →
    ExportStore store name image
  exportable : ∀ {room images name image s} (found : images name = some image)
    (gives : Gives images name), Holds room images s ↔ (exports room found gives).Exportable s

/-- An image that was imported as `name` is exported as it was published, and what was
exported comes back the same through `copy`; no other image changes. -/
structure RoundTrip [FromTransferError ε] (store : DbTransfer σ ε) (read : σ → Images) (s : σ)
    (name copy : String) (bytes : List UInt8) : Prop where
  unchecked : ∀ chunks buffers, chunks.flatten = bytes → ∃ next last,
    (store.importChunksUnchecked name bytes.length chunks).run s = (.ok (), next) ∧
      read next = Function.update (read s) name (some bytes) ∧
      (store.exportChunks name buffers).run next =
        (.ok (bytes.length, bytes.take buffers.flatten.length), last) ∧
      read last = read next
  checked : Acceptable bytes → ∀ chunks buffers, chunks.flatten = bytes → ∃ next last,
    (store.importChunks name bytes.length chunks).run s = (.ok (), next) ∧
      read next = Function.update (read s) name (some (resetVersions bytes)) ∧
      (store.exportChunks name buffers).run next =
        (.ok (bytes.length, (resetVersions bytes).take buffers.flatten.length), last) ∧
      read last = read next ∧
      ∀ chunks' buffers', chunks'.flatten = resetVersions bytes → ∃ next' last',
        (store.importChunks copy bytes.length chunks').run last = (.ok (), next') ∧
          read next' = Function.update (read last) copy (some (resetVersions bytes)) ∧
          (store.exportChunks copy buffers').run next' =
            (.ok (bytes.length, (resetVersions bytes).take buffers'.flatten.length), last') ∧
          read last' = read next'
  refused : ¬ Acceptable bytes → ∀ chunks, chunks.flatten = bytes → ∃ error next,
    (store.importChunks name bytes.length chunks).run s =
      (.err (ofTransfer (.importDb error)), next) ∧ read next = read s

/-! ## Images with their versions reset -/

theorem take_resetVersions (image : List UInt8) :
    (resetVersions image).take 18 = image.take 18 := by
  apply List.ext_getElem?
  intro i
  rw [List.getElem?_take, List.getElem?_take]
  split
  · unfold resetVersions
    rw [List.getElem?_set_ne (by omega), List.getElem?_set_ne (by omega)]
  · rfl

@[simp] theorem resetVersions_idem (image : List UInt8) :
    resetVersions (resetVersions image) = resetVersions image := by
  apply List.ext_getElem?
  intro i
  simp only [resetVersions, List.getElem?_set, List.length_set]
  split <;> split <;> simp_all

theorem Acceptable.resetVersions {image : List UInt8} (acceptable : Acceptable image) :
    Acceptable (resetVersions image) := by
  rw [← checkImportHeader_ok_iff] at acceptable ⊢
  rw [← checkImportHeader_take, take_resetVersions, length_resetVersions, checkImportHeader_take]
  exact acceptable

theorem length_onePage : onePage.length = 512 := by
  rw [onePage, List.length_append, List.length_append, List.length_replicate]
  rfl

/-! ## Archives -/

namespace Archive

variable [FromTransferError ε] {store : DbTransfer σ ε} (archive : Archive store) {room : Nat}
  {images : Images} {name copy : String} {s : σ} {image bytes : List UInt8}

include archive

theorem exported (holds : archive.Holds room images s) (found : images name = some image)
    (gives : archive.Gives images name) (buffers : List (List UInt8)) :
    ∃ next, (store.exportChunks name buffers).run s =
        (.ok (image.length, image.take buffers.flatten.length), next) ∧
      archive.Holds room images next := by
  have exportable := (archive.exportable found gives).mp holds
  obtain ⟨next, run, after⟩ :=
    (archive.exports room found gives).exportChunks_run exportable buffers
  exact ⟨next, run, (archive.exportable found gives).mpr after⟩

theorem stays {next : σ} (takes : archive.Takes images name bytes.length)
    (gives : archive.Gives (Function.update images name (some image)) name)
    (published : (archive.imports room takes).Published next image)
    (buffers : List (List UInt8)) :
    archive.read next = Function.update images name (some image) ∧
      ∃ last, (store.exportChunks name buffers).run next =
          (.ok (image.length, image.take buffers.flatten.length), last) ∧
        archive.read last = archive.read next ∧
        archive.Holds room (Function.update images name (some image)) last := by
  have holds := archive.published takes published
  obtain ⟨last, run, after⟩ := archive.exported holds (Function.update_self _ _ _) gives buffers
  have same := archive.read_eq holds
  exact ⟨same, last, run, (archive.read_eq after).trans same.symm, after⟩

theorem unchecked_trip (holds : archive.Holds (room + 1) images s)
    (takes : archive.Takes images name bytes.length)
    (gives : archive.Gives (Function.update images name (some bytes)) name)
    (small : bytes.length < u64Size) (chunks buffers : List (List UInt8))
    (cut : chunks.flatten = bytes) : ∃ next last,
    (store.importChunksUnchecked name bytes.length chunks).run s = (.ok (), next) ∧
      archive.read next = Function.update (archive.read s) name (some bytes) ∧
      (store.exportChunks name buffers).run next =
        (.ok (bytes.length, bytes.take buffers.flatten.length), last) ∧
      archive.read last = archive.read next := by
  obtain ⟨next, run, published⟩ := (archive.imports room takes).importChunksUnchecked_settled
    ((archive.importable takes).mp holds) chunks small (by rw [cut])
  rw [cut] at published
  obtain ⟨read, last, exported, same, -⟩ := archive.stays takes gives published buffers
  rw [archive.read_eq holds]
  exact ⟨next, last, run, read, exported, same⟩

theorem checked_trip (holds : archive.Holds (room + 1) images s)
    (takes : archive.Takes images name bytes.length)
    (gives : archive.Gives (Function.update images name (some (resetVersions bytes))) name)
    (small : bytes.length < u64Size) (acceptable : Acceptable bytes)
    (chunks buffers : List (List UInt8)) (cut : chunks.flatten = bytes) : ∃ next last,
    (store.importChunks name bytes.length chunks).run s = (.ok (), next) ∧
      archive.read next = Function.update (archive.read s) name (some (resetVersions bytes)) ∧
      (store.exportChunks name buffers).run next =
        (.ok (bytes.length, (resetVersions bytes).take buffers.flatten.length), last) ∧
      archive.read last = archive.read next ∧
      archive.Holds room (Function.update images name (some (resetVersions bytes))) last := by
  have accepted : verdict .checked bytes = .ok () := (checkImportHeader_ok_iff bytes).mpr acceptable
  obtain ⟨next, run, settled⟩ := (archive.imports room takes).importChunks_settled
    ((archive.importable takes).mp holds) chunks small (by rw [cut])
  unfold ImportStore.Settled at settled
  rw [cut, accepted] at run settled
  obtain ⟨read, last, exported, same, after⟩ := archive.stays takes gives settled buffers
  rw [length_resetVersions] at exported
  rw [archive.read_eq holds]
  exact ⟨next, last, run, read, exported, same, after⟩

/-- Every archive with room for both gives back what it takes. -/
theorem round_trip (holds : archive.Holds (room + 1 + 1) images s)
    (takes : archive.Takes images name bytes.length)
    (gives : ∀ image, archive.Gives (Function.update images name (some image)) name)
    (again : ∀ image, archive.Takes (Function.update images name (some image)) copy bytes.length ∧
      archive.Gives (Function.update (Function.update images name (some image)) copy (some image))
        copy)
    (small : bytes.length < u64Size) : RoundTrip store archive.read s name copy bytes where
  unchecked := archive.unchecked_trip holds takes (gives _) small
  checked acceptable chunks buffers cut := by
    obtain ⟨next, last, run, read, exported, same, after⟩ :=
      archive.checked_trip holds takes (gives _) small acceptable chunks buffers cut
    refine ⟨next, last, run, read, exported, same, ?_⟩
    intro chunks' buffers' cut'
    obtain ⟨takes', gives'⟩ := again (resetVersions bytes)
    have length : (resetVersions bytes).length = bytes.length := length_resetVersions bytes
    rw [← length] at takes' small ⊢
    obtain ⟨next', last', run', read', exported', same', -⟩ := archive.checked_trip after takes'
      (by rw [resetVersions_idem]; exact gives') small acceptable.resetVersions chunks'
      buffers' cut'
    rw [resetVersions_idem] at read' exported'
    exact ⟨next', last', run', read', exported', same'⟩
  refused bad chunks cut := by
    obtain ⟨next, run, settled⟩ := (archive.imports (room + 1) takes).importChunks_settled
      ((archive.importable takes).mp holds) chunks small (by rw [cut])
    rw [← checkImportHeader_ok_iff] at bad
    unfold ImportStore.Settled at settled
    rw [cut] at run settled
    rcases verdict_eq : verdict .checked bytes with error | ⟨⟩
    · rw [verdict_eq] at run settled
      have same := archive.read_eq ((archive.importable takes).mpr settled)
      exact ⟨error, next, run, same.trans (archive.read_eq holds).symm⟩
    · exact absurd verdict_eq bad

end Archive

/-! ## The memory VFS -/

namespace MemVfs

variable {bits : Nat} {s : MemAppData} {name : String} {file : Nat} {content : MemChunksFile}

theorem not_mem_of_imageOf (sound : Sound bits s) (absent : imageOf s name = none) :
    name ∉ s.files := by
  intro member
  obtain ⟨file, mapped⟩ := Option.isSome_iff_exists.mp (AList.lookup_isSome.mpr member)
  have living := sound.mapped name file mapped
  rw [imageOf_mapped mapped (List.getElem?_eq_getElem living)] at absent
  cases absent

/-- A new file, and a change of one that no name leads to, are out of sight. -/
theorem imageOf_allocate (sound : Sound bits s) :
    imageOf { s with cells := s.cells ++ [content] } = imageOf s := by
  funext name
  unfold imageOf
  cases mapped : s.files.lookup name with
  | none => rfl
  | some file =>
      simp only [Option.bind_some]
      rw [List.getElem?_append_left (sound.mapped name file mapped)]

theorem imageOf_set (apart : ∀ name, s.files.lookup name ≠ some file) (writes : Nat) :
    imageOf { s with cells := s.cells.set file content, writes := writes } = imageOf s := by
  funext name
  unfold imageOf
  cases mapped : s.files.lookup name with
  | none => rfl
  | some other =>
      have different : file ≠ other := by
        intro same
        exact apart name (same ▸ mapped)
      simp only [Option.bind_some]
      rw [List.getElem?_set_ne different]

theorem imageOf_insert (found : s.cells[file]? = some content) :
    imageOf { s with files := s.files.insert name file } =
      Function.update (imageOf s) name (some content.contents) := by
  funext other
  by_cases same : other = name
  · subst same
    rw [Function.update_self]
    exact imageOf_mapped (AList.lookup_insert _) found
  · rw [Function.update_of_ne same]
    unfold imageOf
    rw [AList.lookup_insert_ne same]

structure Pending (bits : Nat) (images : Images) (name : String)
    (target : ImportTarget MemAppData MemVfsError) (s : MemAppData)
    (image : List UInt8) : Prop where
  sound : Sound bits s
  images_eq : imageOf s = images
  target_eq : ∃ file, target = importTarget bits (fun _ _ => true) name file ∧
    (∀ other, s.files.lookup other ≠ some file) ∧
    ∃ content, s.cells[file]? = some content ∧ content.contents = image

def archiveImports (images : Images) (name : String) (size : Nat) (width : bits ≤ 64)
    (vacant : images name = none) (valid : validateDbFilename name = .ok ())
    (fits : size < 2 ^ bits) : ImportStore (transfers bits fun _ _ => true) name size where
  Importable s := Sound bits s ∧ imageOf s = images
  Pending := Pending bits images name
  Published s image := Sound bits s ∧ imageOf s = Function.update images name (some image)
  unpublished s image importable published := by
    have taken := congrFun (importable.2.symm.trans published.2) name
    rw [vacant, Function.update_self] at taken
    cases taken
  unique s image other first second := by
    have same := congrFun (first.2.symm.trans second.2) name
    rw [Function.update_self, Function.update_self] at same
    exact Option.some.inj same
  createImport s importable := by
    obtain ⟨sound, rfl⟩ := importable
    have run : (createImport bits (fun _ _ => true) name size).run s = _ :=
      createImport_run valid fits (not_mem_of_imageOf sound vacant)
    refine ⟨_, _, run, sound.allocate (wellFormed_fresh bits).1, imageOf_allocate sound,
      s.cells.length, rfl, ?_, _, List.getElem?_concat_length, (wellFormed_fresh bits).2⟩
    intro other mapped
    exact (sound.mapped other _ mapped).ne rfl
  writeAt target s image offset bytes pending inside within := by
    obtain ⟨sound, same, file, rfl, apart, content, found, rfl⟩ := pending
    have granted (writes i : Nat) : (fun _ _ => true : Nat → Nat → Bool) writes i = true := rfl
    obtain ⟨content', run, wf, contents⟩ := writeFile_run sound found bytes granted inside
      (within.trans_lt fits) width
    have living := (List.getElem?_eq_some_iff.mp found).1
    exact ⟨_, Prog.mapErr_ok_iff.mpr run, sound.set file wf _, (imageOf_set apart _).trans same,
      file, rfl, apart, content', List.getElem?_set_self living, contents⟩
  commit target s image pending whole := by
    obtain ⟨sound, rfl, file, rfl, apart, content, found, rfl⟩ := pending
    have living := (List.getElem?_eq_some_iff.mp found).1
    have run : (importTarget bits (fun _ _ => true) name file).commit.run s = _ :=
      commit_run (not_mem_of_imageOf sound vacant)
    exact ⟨_, run, sound.insert living, imageOf_insert found⟩
  abortWithError target s image error pending := by
    obtain ⟨sound, same, file, rfl, -⟩ := pending
    exact ⟨s, rfl, sound, same⟩

theorem openExport_run (sound : Sound bits s) {image : List UInt8}
    (held : imageOf s name = some image) : ∃ file content,
    (openExport bits name).run s = (.ok (exportSource bits file image.length), s) ∧
      s.cells[file]? = some content ∧ content.contents = image := by
  obtain ⟨file, mapped, content, found, rfl⟩ := mapped_of_imageOf held
  refine ⟨file, content, ?_, found, rfl⟩
  have wf := sound.wellFormed content (List.mem_of_getElem? found)
  have size : (onFile file MemChunksFile.size).run s = (.ok content.contents.length, s) := by
    rw [wf.length_contents]
    exact onFile_pure found rfl
  unfold openExport
  rw [Prog.get_bind, mapped]
  exact Prog.bind_ok (Prog.mapErr_ok_iff.mpr size) _

theorem readExport_run (sound : Sound bits s) (width : bits ≤ 64)
    (found : s.cells[file]? = some content) {offset : Nat} {buf : List UInt8} (nonempty : buf ≠ [])
    (within : offset + buf.length ≤ content.contents.length) :
    ((exportSource bits file content.contents.length).readAt offset buf).run s =
      (.ok (buf.length, (content.contents.drop offset).take buf.length ++ buf.drop buf.length),
        s) := by
  have wf := sound.wellFormed content (List.mem_of_getElem? found)
  have positive : 0 < buf.length := List.length_pos_iff.mpr nonempty
  have bounded : content.contents.length < 2 ^ bits := by
    rw [wf.length_contents]
    exact wf.fits
  have range : offset < 2 ^ 64 :=
    (by omega : offset < 2 ^ bits).trans_le (Nat.pow_le_pow_right (by simp) width)
  have offset_eq : (UInt64.ofNat offset).toNat = offset := by
    simpa using Nat.mod_eq_of_lt range
  have read := MemChunksFile.read_eq wf buf (UInt64.ofNat offset)
  rw [offset_eq, show min buf.length (content.contents.length - offset) = buf.length by omega]
    at read
  exact Prog.mapErr_ok_iff.mpr (onFile_pure found read)

def archiveExports (images : Images) (name : String) (image : List UInt8) (width : bits ≤ 64)
    (found : images name = some image) :
    ExportStore (transfers bits fun _ _ => true) name image where
  Exportable s := Sound bits s ∧ imageOf s = images
  Reading source s := Sound bits s ∧ imageOf s = images ∧ ∃ file content,
    source = exportSource bits file image.length ∧ s.cells[file]? = some content ∧
      content.contents = image
  openExport s exportable := by
    obtain ⟨sound, rfl⟩ := exportable
    obtain ⟨file, content, run, cell, same⟩ := openExport_run sound found
    exact ⟨_, s, run, rfl, sound, rfl, file, content, rfl, cell, same⟩
  readAt source s offset buf reading nonempty within := by
    obtain ⟨sound, same, file, content, rfl, cell, rfl⟩ := reading
    have positive : 0 < buf.length := List.length_pos_iff.mpr nonempty
    exact ⟨buf.length, s, readExport_run sound width cell nonempty within, positive, le_rfl,
      sound, same, file, content, rfl, cell, rfl⟩
  drop source s reading := by
    obtain ⟨sound, same, file, content, rfl, -⟩ := reading
    exact ⟨s, rfl, sound, same⟩

def archive (width : bits ≤ 64) : Archive (transfers bits fun _ _ => true) where
  read := imageOf
  Holds _ images s := Sound bits s ∧ imageOf s = images
  Takes images name size :=
    images name = none ∧ validateDbFilename name = .ok () ∧ size < 2 ^ bits
  Gives _ _ := True
  read_eq holds := holds.2
  imports _ _ name size takes := archiveImports _ name size width takes.1 takes.2.1 takes.2.2
  importable _ := Iff.rfl
  published _ published := published
  exports _ _ name image found _ := archiveExports _ name image width found
  exportable _ _ := Iff.rfl

/-- In every state that a run of the memory VFS reaches, whatever allocations it was refused
before, a new database that now finds memory makes the round trip. -/
theorem memvfs_round_trip {alloc : Nat → Nat → Bool} (width : bits ≤ 64) {s : MemTransfers}
    (arises : s.Arises bits alloc) {name copy : String} (valid : validateDbFilename name = .ok ())
    (valid' : validateDbFilename copy = .ok ()) (vacant : name ∉ s.data.files)
    (vacant' : copy ∉ s.data.files) (distinct : copy ≠ name) {bytes : List UInt8}
    (fits : bytes.length < 2 ^ bits) :
    RoundTrip (transfers bits fun _ _ => true) imageOf s.data name copy bytes := by
  have sound : Sound bits s.data := (arises.good width).sound
  have absent {other : String} (unmapped : other ∉ s.data.files) : imageOf s.data other = none := by
    unfold imageOf
    rw [AList.lookup_eq_none.mpr unmapped]
    rfl
  have small : bytes.length < u64Size :=
    fits.trans_le (Nat.pow_le_pow_right (by simp) width)
  have holds : (archive width).Holds 2 (imageOf s.data) s.data := ⟨sound, rfl⟩
  refine (archive width).round_trip holds ⟨absent vacant, valid, fits⟩ (fun _ => trivial)
    (fun image => ⟨⟨?_, valid', fits⟩, trivial⟩) small
  rw [Function.update_of_ne distinct]
  exact absent vacant'

theorem memvfs_round_trip_new :
    RoundTrip (transfers 32 fun _ _ => true) imageOf MemTransfers.start.data "a" "b" onePage := by
  have arises : MemTransfers.start.Arises 32 fun _ _ => false := ⟨[], .refl⟩
  refine memvfs_round_trip (by decide) arises (by decide) (by decide) ?_ ?_ (by decide) ?_
  · exact AList.notMem_empty _
  · exact AList.notMem_empty _
  · rw [length_onePage]
    decide

end MemVfs

end SqliteVfs
