import SqliteVfs.Sahpool.SlotSpec

/-!
# What a slot stores

A slot seen from the namespace: free, being filled by an import, holding a named file, or
left unclear by a failure.  Each state is a property of everything that can be observed of
the slot: its contents, and in a strict run also what a crash would leave.  The lemmas say
how the operations of a slot lead from one state to another.
-/

set_option autoImplicit false

namespace SqliteVfs

namespace Sahpool

/-- What `associated_filename` makes of the contents of a slot. -/
def stored (contents : List UInt8) : Except String (Option String) :=
  if maxSafeInteger < contents.length then .error "invalid physical file size"
  else if contents.length = 0 then .ok none
  else if contents.length < headerOffsetData then
    if contents.any (· ≠ 0) then .error "file is shorter than its header" else .ok none
  else parseHeader (contents.take headerCorpusSize)

def dataOf (contents : List UInt8) : List UInt8 := contents.drop headerOffsetData

variable {mode : Mode}

/-! ## Observations -/

def Observable (mode : Mode) (file : SlotFile) (image : List UInt8) : Prop :=
  Journal.Image SlotOp.apply file image ∧ (mode = .strict ∨ image = file.contents)

/-- An observation after an operation: one from before it that a crash leaves, or the
operation's result on one. -/
theorem Observable.append {file : SlotFile} {operation : SlotOp} {image : List UInt8}
    (seen : Observable mode (Journal.append file operation) image) :
    Observable mode file image ∨
      ∃ earlier, Observable mode file earlier ∧ image = operation.apply earlier := by
  obtain ⟨found, here⟩ := seen
  by_cases strict : mode = .strict
  · rcases Journal.image_append _ found with unchanged | ⟨earlier, before, rfl⟩
    · exact .inl ⟨unchanged, .inl strict⟩
    · exact .inr ⟨earlier, ⟨before, .inl strict⟩, rfl⟩
  · refine .inr ⟨file.contents, ⟨Journal.image_contents _ _, .inr rfl⟩, ?_⟩
    rw [here.resolve_left strict, SlotFile.contents, Journal.contents_append]

theorem Observable.contents (file : SlotFile) : Observable mode file file.contents :=
  ⟨Journal.image_contents _ _, .inr rfl⟩

def Sees (mode : Mode) (Q : List UInt8 → Prop) (file : SlotFile) : Prop :=
  ∀ image, Observable mode file image → Q image

namespace Sees

variable {Q R : List UInt8 → Prop} {file : SlotFile}

theorem contents (sees : Sees mode Q file) : Q file.contents :=
  sees _ (Observable.contents file)

theorem settled {value : List UInt8} (holds : Q value) :
    Sees mode Q (Journal.settled value : SlotFile) := by
  rintro image ⟨found, -⟩
  rw [(Journal.image_settled _).mp found]
  exact holds

theorem flush (sees : Sees mode Q file) : Sees mode Q file.flush :=
  settled sees.contents

theorem mono (sees : Sees mode Q file) (weaken : ∀ image, Q image → R image) : Sees mode R file :=
  fun image seen => weaken image (sees image seen)

theorem append (sees : Sees mode Q file) {operation : SlotOp}
    (keeps : ∀ image, Q image → Q (operation.apply image)) :
    Sees mode Q (Journal.append file operation) := by
  intro image seen
  rcases seen.append with unchanged | ⟨earlier, before, rfl⟩
  · exact sees image unchanged
  · exact keeps earlier (sees earlier before)

theorem write (sees : Sees mode Q file) {start : Nat} {bytes : List UInt8}
    (keeps : bytes ≠ [] → ∀ image, Q image → Q (SparseVector.writeAt image start bytes)) :
    Sees mode Q (file.write start bytes) := by
  unfold SlotFile.write
  split
  · exact sees
  · exact sees.append (keeps ‹_›)

theorem truncate (sees : Sees mode Q file) {size : Nat}
    (keeps : ∀ image, Q image → Q (SparseVector.resize image size)) :
    Sees mode Q (file.truncate size) :=
  sees.append keeps

end Sees

/-! ## Contents that hold a whole header -/

structure Fits (contents : List UInt8) : Prop where
  low : headerOffsetData ≤ contents.length
  high : contents.length ≤ maxSafeInteger

theorem offsetData_le_maxSafe : headerOffsetData ≤ maxSafeInteger := by decide

theorem corpus_le_offsetData : headerCorpusSize ≤ headerOffsetData := by decide

theorem offsetData_pos : 0 < headerOffsetData := by decide

namespace Fits

variable {contents : List UInt8}

theorem stored_eq (fits : Fits contents) :
    stored contents = parseHeader (contents.take headerCorpusSize) := by
  have low := fits.low
  have high := fits.high
  have := offsetData_pos
  unfold stored
  rw [if_neg (by omega), if_neg (by omega), if_neg (by omega)]

theorem write (fits : Fits contents) {start : Nat} {bytes : List UInt8}
    (inside : start + bytes.length ≤ maxSafeInteger) :
    Fits (SparseVector.writeAt contents start bytes) := by
  have low := fits.low
  have high := fits.high
  constructor <;> rw [SparseVector.length_writeAt] <;> omega

theorem resize {size : Nat} (low : headerOffsetData ≤ size) (high : size ≤ maxSafeInteger)
    (contents : List UInt8) : Fits (SparseVector.resize contents size) := by
  constructor <;> rw [SparseVector.length_resize] <;> assumption

end Fits

theorem take_header_write {contents : List UInt8} (fits : Fits contents) (offset : Nat)
    (bytes : List UInt8) :
    (SparseVector.writeAt contents (offset + headerOffsetData) bytes).take headerCorpusSize =
      contents.take headerCorpusSize := by
  have low := fits.low
  have := corpus_le_offsetData
  exact SparseVector.take_writeAt_of_le _ _ _ _ (by omega) (by omega)

theorem take_header_resize {contents : List UInt8} (fits : Fits contents) {size : Nat}
    (low : headerOffsetData ≤ size) :
    (SparseVector.resize contents size).take headerCorpusSize = contents.take headerCorpusSize := by
  have := fits.low
  have := corpus_le_offsetData
  exact SparseVector.take_resize_of_le _ _ _ (by omega) (by omega)

theorem dataOf_write {contents : List UInt8} (fits : Fits contents) (offset : Nat)
    (bytes : List UInt8) :
    dataOf (SparseVector.writeAt contents (offset + headerOffsetData) bytes) =
      SparseVector.writeAt (dataOf contents) offset bytes := by
  rw [Nat.add_comm]
  exact SparseVector.drop_writeAt_shift _ _ _ _ fits.low

theorem dataOf_resize {contents : List UInt8} (fits : Fits contents) (size : Nat) :
    dataOf (SparseVector.resize contents (size + headerOffsetData)) =
      SparseVector.resize (dataOf contents) size := by
  rw [Nat.add_comm]
  exact SparseVector.drop_resize_shift _ _ _ fits.low

/-- Writing a header does not reach the data. -/
theorem dataOf_header {contents part : List UInt8} (fits : Fits contents)
    (short : part.length ≤ headerCorpusSize) :
    dataOf (SparseVector.writeAt contents 0 part) = dataOf contents := by
  have := fits.low
  have := corpus_le_offsetData
  exact SparseVector.drop_writeAt_of_le _ _ _ _ (by omega) (by omega)

theorem fits_header {contents part : List UInt8} (fits : Fits contents)
    (short : part.length ≤ headerCorpusSize) : Fits (SparseVector.writeAt contents 0 part) := by
  have := offsetData_le_maxSafe
  have := corpus_le_offsetData
  exact fits.write (by omega)

theorem take_whole_header {contents header : List UInt8}
    (whole : header.length = headerCorpusSize) :
    (SparseVector.writeAt contents 0 header).take headerCorpusSize = header :=
  SparseVector.take_writeAt_zero _ _ _ whole

@[simp] theorem length_emptyHeader : emptyHeader.length = headerCorpusSize := length_zeroBytes _

/-! ## Names in a slot -/

/-- An image that names no file but the owner's; only torn writes leave unreadable ones. -/
def Names (mode : Mode) (owner : Option String) (image : List UInt8) : Prop :=
  stored image = .ok none ∨ (∃ name, owner = some name ∧ stored image = .ok (some name)) ∨
    (mode.Torn ∧ ∃ reason, stored image = .error reason)

theorem Names.unowned {image : List UInt8} (names : Names mode none image)
    (owner : Option String) : Names mode owner image := by
  rcases names with none | ⟨name, ⟨⟩, -⟩ | unreadable
  · exact .inl none
  · exact .inr (.inr unreadable)

theorem Names.owner_eq {owner : Option String} {image : List UInt8} {name : String}
    (names : Names mode owner image) (found : stored image = .ok (some name)) :
    owner = some name := by
  rcases names with none | ⟨other, rfl, named⟩ | ⟨-, reason, unreadable⟩
  · exact nomatch none.symm.trans found
  · cases named.symm.trans found
    rfl
  · exact nomatch unreadable.symm.trans found

theorem stored_of_zero {image : List UInt8} {name : String} (zero : image[0]? = some 0) :
    stored image ≠ .ok (some name) := by
  intro found
  unfold stored at found
  split at found
  · exact nomatch found
  split at found
  · exact nomatch found
  split at found
  · split at found <;> exact nomatch found
  · refine parseHeader_zero ?_ found
    rw [List.getElem?_take_of_lt (by decide)]
    exact zero

theorem any_nonzero_writeAt {image : List UInt8} (zeros : image.any (· ≠ 0) = false) (n : Nat) :
    (SparseVector.writeAt image 0 (zeroBytes n)).any (· ≠ 0) = false := by
  rw [List.any_eq_false] at zeros ⊢
  intro byte member
  unfold SparseVector.writeAt at member
  rw [List.take_zero, Nat.zero_sub, List.replicate_zero, List.append_nil, List.nil_append,
    List.mem_append] at member
  rcases member with written | kept
  · have : byte = 0 := List.eq_of_mem_replicate written
    simp [this]
  · exact zeros byte (List.mem_of_mem_drop kept)

/-- A whole empty header takes the name away, and never makes an image unreadable. -/
theorem stored_emptyHeader {image : List UInt8} {owner : Option String}
    (names : Names mode owner image) (sound : ¬ mode.Torn) :
    stored (SparseVector.writeAt image 0 emptyHeader) = .ok none := by
  have corpus := corpus_le_offsetData
  have safe := offsetData_le_maxSafe
  have length : (SparseVector.writeAt image 0 emptyHeader).length =
      max image.length headerCorpusSize := by
    rw [SparseVector.length_writeAt, length_emptyHeader, Nat.zero_add]
  have bounded : image.length ≤ maxSafeInteger := by
    by_contra large
    have unreadable : stored image = .error "invalid physical file size" := if_pos (by omega)
    rcases names with none | ⟨name, -, named⟩ | ⟨torn, -⟩
    · cases unreadable.symm.trans none
    · cases unreadable.symm.trans named
    · exact sound torn
  by_cases low : headerOffsetData ≤ image.length
  · have fits : Fits image := ⟨low, bounded⟩
    rw [(fits_header fits length_emptyHeader.le).stored_eq, take_whole_header length_emptyHeader]
    exact parseHeader_empty
  · -- A short image is zero-filled, and stays so.
    have zeros : image.any (· ≠ 0) = false := by
      by_contra nonzero
      rw [Bool.not_eq_false] at nonzero
      have some : ¬ image.length = 0 := by
        intro empty
        rw [List.length_eq_zero_iff.mp empty] at nonzero
        exact Bool.false_ne_true nonzero
      have unreadable : stored image = .error "file is shorter than its header" := by
        unfold stored
        rw [if_neg (by omega), if_neg some, if_pos (by omega), if_pos nonzero]
      rcases names with none | ⟨name, -, named⟩ | ⟨torn, -⟩
      · cases unreadable.symm.trans none
      · cases unreadable.symm.trans named
      · exact sound torn
    have nonempty : 0 < headerCorpusSize := by decide
    have below : headerCorpusSize < headerOffsetData := by decide
    unfold stored
    rw [length, if_neg (by omega), if_neg (by omega), if_pos (by omega)]
    exact if_neg (by rw [emptyHeader, any_nonzero_writeAt zeros]; exact Bool.false_ne_true)

/-- Resetting the header, as a whole or in part, takes the name away. -/
theorem Names.erase {owner : Option String} {image part : List UInt8}
    (names : Names mode owner image) (cut : Cut mode emptyHeader part) (nonempty : part ≠ []) :
    Names mode none (SparseVector.writeAt image 0 part) := by
  obtain ⟨count, rfl, whole⟩ := cut
  by_cases torn : mode.Torn
  swap
  · rcases whole torn with rfl | all
    · exact absurd rfl nonempty
    · rw [List.take_of_length_le all]
      exact .inl (stored_emptyHeader names torn)
  · have positive : 0 < (emptyHeader.take count).length := List.length_pos_iff.mpr nonempty
    have zero : (SparseVector.writeAt image 0 (emptyHeader.take count))[0]? = some (0 : UInt8) := by
      rw [SparseVector.getElem?_writeAt, if_neg (by omega), if_pos (by omega), Nat.sub_self]
      rw [List.length_take] at positive
      rw [List.getElem?_take_of_lt (by omega), emptyHeader, zeroBytes, List.getElem?_replicate,
        if_pos (by decide)]
    rcases found : stored (SparseVector.writeAt image 0 (emptyHeader.take count)) with
      reason | name
    · exact .inr (.inr ⟨torn, reason, found⟩)
    · cases name with
      | none => exact .inl found
      | some name => exact absurd found (stored_of_zero zero)

/-! ## States of a slot -/

/-- A slot of `available_files`. -/
def Fresh (file : SlotFile) : Prop :=
  ∃ contents, file = Journal.settled contents ∧ contents.length = headerOffsetData ∧
    contents.take headerCorpusSize = emptyHeader

structure Staged (mode : Mode) (data : List UInt8) (file : SlotFile) : Prop where
  sees : Sees mode (fun image => Fits image ∧ image.take headerCorpusSize = emptyHeader) file
  data_eq : dataOf file.contents = data

structure StoredHeader (mode : Mode) (name : String) (temporary : Bool) (header : List UInt8) :
    Prop where
  storable : StorableName name
  length_eq : header.length = headerCorpusSize
  field : header.take headerMaxFilenameSize = nameField name
  parsed : mode ≠ .lax → parseHeader header = .ok (if temporary then none else some name)

/-- A slot that holds the file `name` with these bytes.  A `durable` name is one that no
crash can take away. -/
structure Named (mode : Mode) (name : String) (temporary durable : Bool) (data : List UInt8)
    (file : SlotFile) : Prop where
  header : ∃ header, StoredHeader mode name temporary header ∧
    file.contents.take headerCorpusSize = header ∧
    (durable → Sees mode (fun image => image.take headerCorpusSize = header) file)
  sees : Sees mode (fun image => Fits image ∧ Names mode (some name) image) file
  data_eq : dataOf file.contents = data

/-- A slot that a failure left with the file `name` or with nothing. -/
structure Unclear (mode : Mode) (name : String) (data : List UInt8) (file : SlotFile) : Prop where
  sees : Sees mode (fun image => Fits image ∧ Names mode (some name) image) file
  data_eq : stored file.contents = .ok (some name) → dataOf file.contents = data

def Blank (mode : Mode) (file : SlotFile) : Prop := Sees mode (Names mode none) file

variable {file : SlotFile} {name : String} {temporary durable : Bool} {data : List UInt8}

theorem Fresh.staged (fresh : Fresh file) : Staged mode [] file := by
  obtain ⟨contents, rfl, length, header⟩ := fresh
  refine ⟨Sees.settled ⟨⟨length.ge, length.le.trans offsetData_le_maxSafe⟩, header⟩, ?_⟩
  exact List.drop_eq_nil_of_le length.le

theorem Staged.blank (staged : Staged mode data file) : Blank mode file :=
  staged.sees.mono fun image seen => .inl (by
    rw [seen.1.stored_eq, seen.2]
    exact parseHeader_empty)

theorem Staged.readable (staged : Staged mode data file) : stored file.contents = .ok none := by
  obtain ⟨fits, empty⟩ := staged.sees.contents
  rw [fits.stored_eq, empty]
  exact parseHeader_empty

theorem Staged.unclear (staged : Staged mode data file) (name : String) :
    Unclear mode name data file where
  sees := fun image seen => ⟨(staged.sees image seen).1, (staged.blank image seen).unowned _⟩
  data_eq _ := staged.data_eq

theorem Named.unclear (named : Named mode name temporary durable data file) :
    Unclear mode name data file :=
  ⟨named.sees, fun _ => named.data_eq⟩

theorem erased_fresh (file : SlotFile) : Fresh (erased file) := by
  refine ⟨_, rfl, SparseVector.length_resize _ _, ?_⟩
  have long : headerCorpusSize ≤ (SparseVector.writeAt file.contents 0 emptyHeader).length := by
    rw [SparseVector.length_writeAt, length_emptyHeader]
    omega
  rw [SparseVector.take_resize_of_le _ _ _ corpus_le_offsetData long,
    take_whole_header length_emptyHeader]

theorem Fresh.blank (fresh : Fresh file) : Blank mode file := fresh.staged.blank

theorem Fresh.readable (fresh : Fresh file) : stored file.contents = .ok none := by
  have staged : Staged .loose [] file := fresh.staged
  exact staged.readable

/-! ## Resetting -/

theorem stored_resize_empty {contents : List UInt8} (long : headerCorpusSize ≤ contents.length)
    (empty : contents.take headerCorpusSize = emptyHeader) :
    stored (SparseVector.resize contents headerOffsetData) = .ok none := by
  rw [(Fits.resize le_rfl offsetData_le_maxSafe contents).stored_eq,
    SparseVector.take_resize_of_le _ _ _ corpus_le_offsetData long, empty]
  exact parseHeader_empty

/-- A stopped reset keeps what every image satisfies; it did nothing, or the contents name
no file. -/
theorem Erasing.keeps {Q : List UInt8 → Prop} {owner : Option String} {file' : SlotFile}
    (erasing : Erasing mode file file')
    (sees : Sees mode (fun image => Q image ∧ Names mode owner image) file)
    (header : ∀ image part, Q image → part.length ≤ headerCorpusSize →
      Q (SparseVector.writeAt image 0 part))
    (resized : ∀ image, Q (SparseVector.resize image headerOffsetData)) :
    Sees mode (fun image => Q image ∧ Names mode owner image) file' ∧
      (file' = file ∨ Names mode none file'.contents) := by
  have written {part : List UInt8} (cut : Cut mode emptyHeader part) :
      Sees mode (fun image => Q image ∧ Names mode owner image) (file.write 0 part) := by
    have short : part.length ≤ headerCorpusSize := by
      obtain ⟨count, rfl, -⟩ := cut
      rw [List.length_take, length_emptyHeader]
      omega
    refine sees.write fun nonempty image seen => ⟨header image part seen.1 short, ?_⟩
    exact (seen.2.erase cut nonempty).unowned owner
  have whole : (file.write 0 emptyHeader).contents =
      SparseVector.writeAt file.contents 0 emptyHeader := SlotFile.contents_write emptyHeader_ne_nil
  have named : Names mode none (file.write 0 emptyHeader).contents := by
    rw [whole]
    exact sees.contents.2.erase (Cut.everything _) emptyHeader_ne_nil
  have long : headerCorpusSize ≤ (file.write 0 emptyHeader).contents.length := by
    rw [whole, SparseVector.length_writeAt, length_emptyHeader]
    omega
  have empty : (file.write 0 emptyHeader).contents.take headerCorpusSize = emptyHeader := by
    rw [whole]
    exact take_whole_header length_emptyHeader
  have nameless (contents : List UInt8) (long : headerCorpusSize ≤ contents.length)
      (empty : contents.take headerCorpusSize = emptyHeader) :
      Names mode none (SparseVector.resize contents headerOffsetData) :=
    .inl (stored_resize_empty long empty)
  cases erasing with
  | header part cut =>
      refine ⟨written cut, ?_⟩
      by_cases nonempty : part = []
      · subst nonempty
        exact .inl (SlotFile.write_nil _ _)
      · rw [SlotFile.contents_write nonempty]
        exact .inr (sees.contents.2.erase cut nonempty)
  | headerFlushed => exact ⟨(written (Cut.everything _)).flush, .inr named⟩
  | truncated =>
      have flushed := (written (Cut.everything _)).flush.contents
      refine ⟨(Sees.append (Q := fun image => (Q image ∧ Names mode owner image) ∧
        headerCorpusSize ≤ image.length ∧ image.take headerCorpusSize = emptyHeader)
          (Sees.settled ⟨flushed, long, empty⟩) ?_).mono fun image seen => seen.1, .inr ?_⟩
      · rintro image ⟨-, long, empty⟩
        refine ⟨⟨resized image, (nameless image long empty).unowned owner⟩, ?_, ?_⟩
        · exact corpus_le_offsetData.trans (SparseVector.length_resize _ _).ge
        · exact (SparseVector.take_resize_of_le _ _ _ corpus_le_offsetData long).trans empty
      · rw [SlotFile.contents_truncate]
        exact nameless _ long empty
  | finished =>
      have settled : Names mode none (erased file).contents := by
        rw [whole] at long empty
        exact nameless _ long empty
      exact ⟨Sees.settled ⟨resized _, settled.unowned owner⟩, .inr settled⟩

theorem Blank.erasing {file' : SlotFile} (blank : Blank mode file)
    (erasing : Erasing mode file file') : Blank mode file' :=
  (erasing.keeps (Q := fun _ => True) (blank.mono fun _ names => ⟨trivial, names⟩)
    (fun _ _ _ _ => trivial) fun _ => trivial).1.mono fun _ seen => seen.2

theorem Unclear.erasing {file' : SlotFile} (unclear : Unclear mode name data file)
    (erasing : Erasing mode file file') : Unclear mode name data file' := by
  obtain ⟨sees, contents⟩ := erasing.keeps unclear.sees
    (fun _ _ fits short => fits_header fits short)
    fun image => Fits.resize le_rfl offsetData_le_maxSafe image
  refine ⟨sees, fun found => ?_⟩
  rcases contents with rfl | nameless
  · exact unclear.data_eq found
  · exact nomatch nameless.owner_eq found

/-! ## Publishing a name -/

theorem StoredHeader.stored_eq {header contents : List UInt8}
    (valid : StoredHeader mode name temporary header) (classified : mode ≠ .lax)
    (fits : Fits contents) (same : contents.take headerCorpusSize = header) :
    stored contents = .ok (if temporary then none else some name) := by
  rw [fits.stored_eq, same, valid.parsed classified]

/-- A header in the making names its file, nothing, or, if it is torn, is unreadable. -/
theorem Names.sign {flags : UInt32} {image part : List UInt8} (fits : Fits image)
    (empty : image.take headerCorpusSize = emptyHeader)
    (valid : StoredHeader mode name temporary (headerOf name flags))
    (cut : Cut mode (headerOf name flags) part) (nonempty : part ≠ []) :
    Names mode (some name) (SparseVector.writeAt image 0 part) := by
  have length := valid.length_eq
  obtain ⟨count, rfl, whole⟩ := cut
  have short : ((headerOf name flags).take count).length ≤ headerCorpusSize := by
    rw [List.length_take, length]
    omega
  have fits' := fits_header fits short
  have header : (SparseVector.writeAt image 0 ((headerOf name flags).take count)).take
      headerCorpusSize = (headerOf name flags).take count ++
        zeroBytes (headerCorpusSize - count) := by
    have low := fits.low
    have corpus := corpus_le_offsetData
    have rest : (image.drop ((headerOf name flags).take count).length).take
        (headerCorpusSize - ((headerOf name flags).take count).length) =
          zeroBytes (headerCorpusSize - count) := by
      rw [← List.drop_take, empty, emptyHeader, zeroBytes, List.drop_replicate, List.length_take,
        length]
      congr 1
      omega
    unfold SparseVector.writeAt
    rw [List.take_zero, Nat.zero_sub, List.replicate_zero, List.append_nil, List.nil_append,
      Nat.zero_add, List.take_append, List.take_of_length_le short, rest]
  have stored_header := fits'.stored_eq
  rw [header] at stored_header
  rcases parsed : parseHeader ((headerOf name flags).take count ++
      zeroBytes (headerCorpusSize - count)) with reason | found
  · refine .inr (.inr ⟨?_, reason, stored_header.trans parsed⟩)
    by_contra sound
    -- Without torn writes the header is whole, and a whole one can be read.
    rcases whole sound with rfl | complete
    · exact nonempty rfl
    · rw [List.take_of_length_le complete, Nat.sub_eq_zero_of_le (length ▸ complete), zeroBytes,
        List.replicate_zero, List.append_nil, valid.parsed (Mode.ne_lax sound)] at parsed
      cases parsed
  · cases found with
    | none => exact .inl (stored_header.trans parsed)
    | some other =>
        obtain rfl := parseHeader_cut valid.storable parsed
        exact .inr (.inl ⟨other, rfl, stored_header.trans parsed⟩)

theorem Staged.signed {flags : UInt32} (staged : Staged mode data file)
    (valid : StoredHeader mode name temporary (headerOf name flags)) :
    Named mode name temporary true data (signed (headerOf name flags) file) := by
  obtain ⟨fits, empty⟩ := staged.sees.contents
  have length := valid.length_eq
  have fits' := fits_header fits length.le
  refine ⟨⟨_, valid, take_whole_header length, fun _ => Sees.settled (take_whole_header length)⟩,
    Sees.settled ⟨fits', ?_⟩, ?_⟩
  · exact Names.sign fits empty valid (Cut.everything _) (headerOf_ne_nil valid.storable flags)
  · exact (dataOf_header fits length.le).trans staged.data_eq

theorem Staged.signing {flags : UInt32} {file' : SlotFile} (staged : Staged mode data file)
    (valid : StoredHeader mode name temporary (headerOf name flags))
    (signing : Signing mode (headerOf name flags) file file') : Unclear mode name data file' := by
  have written {part : List UInt8} (cut : Cut mode (headerOf name flags) part) :
      Unclear mode name data (file.write 0 part) := by
    have short : part.length ≤ headerCorpusSize := by
      obtain ⟨count, rfl, -⟩ := cut
      rw [List.length_take, valid.length_eq]
      omega
    constructor
    · by_cases nonempty : part = []
      · subst nonempty
        rw [SlotFile.write_nil]
        exact (staged.unclear name).sees
      · rw [SlotFile.write, if_neg nonempty]
        intro image seen
        rcases seen.append with unchanged | ⟨earlier, before, rfl⟩
        · exact (staged.unclear name).sees image unchanged
        · obtain ⟨fits, empty⟩ := staged.sees earlier before
          exact ⟨fits_header fits short, Names.sign fits empty valid cut nonempty⟩
    · intro _
      by_cases nonempty : part = []
      · subst nonempty
        rw [SlotFile.write_nil]
        exact staged.data_eq
      · rw [SlotFile.contents_write nonempty, dataOf_header staged.sees.contents.1 short]
        exact staged.data_eq
  cases signing with
  | header part cut => exact written cut
  | flushed => exact (staged.signed valid).unclear

/-! ## Reading and writing data -/

theorem Staged.flush (staged : Staged mode data file) : Staged mode data file.flush :=
  ⟨staged.sees.flush, staged.data_eq⟩

theorem Staged.write (staged : Staged mode data file) {offset : Nat} {bytes : List UInt8}
    (inside : offset + headerOffsetData + bytes.length ≤ maxSafeInteger) (nonempty : bytes ≠ []) :
    Staged mode (SparseVector.writeAt data offset bytes)
      (file.write (offset + headerOffsetData) bytes) where
  sees := staged.sees.write fun _ _ seen =>
    ⟨seen.1.write inside, (take_header_write seen.1 offset bytes).trans seen.2⟩
  data_eq := by
    rw [SlotFile.contents_write nonempty, dataOf_write staged.sees.contents.1, staged.data_eq]

theorem Fits.stored_same {image image' : List UInt8} (fits : Fits image) (fits' : Fits image')
    (same : image'.take headerCorpusSize = image.take headerCorpusSize) :
    stored image' = stored image := by
  rw [fits.stored_eq, fits'.stored_eq, same]

theorem Names.of_stored {owner : Option String} {image image' : List UInt8}
    (names : Names mode owner image) (same : stored image' = stored image) :
    Names mode owner image' := by
  unfold Names
  rw [same]
  exact names

theorem Named.flush (named : Named mode name temporary durable data file) :
    Named mode name temporary durable data file.flush where
  header := by
    obtain ⟨header, valid, here, always⟩ := named.header
    exact ⟨header, valid, here, fun durable => (always durable).flush⟩
  sees := named.sees.flush
  data_eq := named.data_eq

theorem Named.write (named : Named mode name temporary durable data file) {offset : Nat}
    {bytes : List UInt8} (inside : offset + headerOffsetData + bytes.length ≤ maxSafeInteger)
    (nonempty : bytes ≠ []) :
    Named mode name temporary durable (SparseVector.writeAt data offset bytes)
      (file.write (offset + headerOffsetData) bytes) where
  header := by
    obtain ⟨header, valid, here, always⟩ := named.header
    refine ⟨header, valid, ?_, fun durable => ?_⟩
    · rw [SlotFile.contents_write nonempty, take_header_write named.sees.contents.1, here]
    · have both : Sees mode (fun image => Fits image ∧ image.take headerCorpusSize = header) file :=
        fun image seen => ⟨(named.sees image seen).1, always durable image seen⟩
      exact (both.write fun _ _ seen => ⟨seen.1.write inside,
        (take_header_write seen.1 offset bytes).trans seen.2⟩).mono fun _ seen => seen.2
  sees := named.sees.write fun _ _ seen => ⟨seen.1.write inside,
    seen.2.of_stored (seen.1.stored_same (seen.1.write inside)
      (take_header_write seen.1 offset bytes))⟩
  data_eq := by
    rw [SlotFile.contents_write nonempty, dataOf_write named.sees.contents.1, named.data_eq]

theorem Named.truncate (named : Named mode name temporary durable data file) {size : Nat}
    (inside : size + headerOffsetData ≤ maxSafeInteger) :
    Named mode name temporary durable (SparseVector.resize data size)
      (file.truncate (size + headerOffsetData)) where
  header := by
    obtain ⟨header, valid, here, always⟩ := named.header
    refine ⟨header, valid, ?_, fun durable => ?_⟩
    · rw [SlotFile.contents_truncate, take_header_resize named.sees.contents.1 (by omega), here]
    · have both : Sees mode (fun image => Fits image ∧ image.take headerCorpusSize = header) file :=
        fun image seen => ⟨(named.sees image seen).1, always durable image seen⟩
      exact (both.truncate fun image seen => ⟨Fits.resize (by omega) inside image,
        (take_header_resize seen.1 (by omega)).trans seen.2⟩).mono fun _ seen => seen.2
  sees := named.sees.truncate fun image seen =>
    have fits := Fits.resize (by omega) inside image
    ⟨fits, seen.2.of_stored (seen.1.stored_same fits (take_header_resize seen.1 (by omega)))⟩
  data_eq := by
    rw [SlotFile.contents_truncate, dataOf_resize named.sees.contents.1, named.data_eq]

/-! ## Loading -/

theorem associatedFilename_does {slot : Slot}
    (allowed : ∀ reply ∈ slot.replies, reply.Allowed mode) (opaqueName : String) :
    Does mode (SyncAccessFile.associatedFilename opaqueName) slot
      (fun found file => file = slot.file ∧ stored slot.file.contents = .ok found)
      (fun file => file = slot.file ∧
        (mode = .quiet → ∃ reason, stored slot.file.contents = .error reason)) := by
  unfold SyncAccessFile.associatedFilename
  refine Does.bind ((physicalSize_does allowed opaqueName).mono (fun _ _ holds => holds) ?_) ?_
  · rintro file ⟨rfl, large⟩
    exact ⟨rfl, fun quiet => ⟨_, if_pos (large quiet)⟩⟩
  rintro size file replies rest ⟨rfl, rfl, bounded⟩
  have bounded' : ¬ maxSafeInteger < slot.file.contents.length := Nat.not_lt.mpr bounded
  refine Does.ite (fun empty => ?_) fun nonempty => Does.ite (fun short => ?_) fun long => ?_
  · refine Does.pure rest ⟨rfl, ?_⟩
    unfold stored
    rw [if_neg bounded', if_pos empty]
  · have whole : SparseVector.readAt slot.file.contents 0
        (List.replicate slot.file.contents.length (0 : UInt8)).length = slot.file.contents := by
      rw [List.length_replicate]
      exact SparseVector.readAt_all _
    refine Does.bind ((readAt_does rest _ 0).mono (fun _ _ holds => holds) ?_) ?_
    · rintro file ⟨loud, rfl⟩
      exact ⟨rfl, fun quiet => absurd quiet loud⟩
    rintro ⟨count, bytes⟩ file replies rest ⟨rfl, landed, all, count_eq, bytes_eq⟩
    dsimp only at count_eq bytes_eq ⊢
    rw [whole] at count_eq bytes_eq
    have length : bytes.length = slot.file.contents.length := by
      rw [bytes_eq, List.length_append, List.length_drop, List.length_replicate, ← count_eq]
      have := landed.length_take_le slot.file.contents
      omega
    have taken (full : count = bytes.length) : bytes = slot.file.contents := by
      have everything := landed.take_of_length_eq (by omega : _ = slot.file.contents.length)
      rw [bytes_eq, everything, List.drop_eq_nil_of_le, List.append_nil]
      rw [List.length_replicate, full, length]
    refine Does.ite (fun refused => ?_) fun accepted => ?_
    · refine Does.fail rest ⟨rfl, fun quiet => ?_⟩
      have full : count = bytes.length := by
        rw [length, count_eq, all quiet]
        rfl
      have nonzero := refused.resolve_left (fun short => short full)
      rw [taken full] at nonzero
      refine ⟨"file is shorter than its header", ?_⟩
      unfold stored
      rw [if_neg bounded', if_neg nonempty, if_pos short, if_pos nonzero]
    · push Not at accepted
      obtain ⟨full, zeros⟩ := accepted
      rw [taken full] at zeros
      refine Does.pure rest ⟨rfl, ?_⟩
      unfold stored
      rw [if_neg bounded', if_neg nonempty, if_pos short, if_neg zeros]
  · have fits : Fits slot.file.contents := ⟨Nat.le_of_not_lt long, bounded⟩
    have corpus := corpus_le_offsetData
    have low := fits.low
    refine Does.bind ((readAt_does rest _ 0).mono (fun _ _ holds => holds) ?_) ?_
    · rintro file ⟨loud, rfl⟩
      exact ⟨rfl, fun quiet => absurd quiet loud⟩
    rintro ⟨count, header⟩ file replies rest ⟨rfl, landed, all, count_eq, header_eq⟩
    dsimp only at count_eq header_eq ⊢
    have read : SparseVector.readAt slot.file.contents 0
        (List.replicate headerCorpusSize (0 : UInt8)).length =
          slot.file.contents.take headerCorpusSize := by
      rw [List.length_replicate]
      rfl
    have read_length : (slot.file.contents.take headerCorpusSize).length = headerCorpusSize := by
      rw [List.length_take]
      omega
    rw [read] at count_eq header_eq
    have length : header.length = headerCorpusSize := by
      rw [header_eq, List.length_append, List.length_drop, List.length_replicate, ← count_eq]
      have := landed.length_take_le (slot.file.contents.take headerCorpusSize)
      omega
    have taken (full : count = header.length) :
        header = slot.file.contents.take headerCorpusSize := by
      have everything := landed.take_of_length_eq
        (by omega : _ = (slot.file.contents.take headerCorpusSize).length)
      rw [header_eq, everything, List.drop_eq_nil_of_le, List.append_nil]
      rw [List.length_replicate, full, length]
    refine Does.ite (fun refused => ?_) fun accepted => ?_
    · refine Does.fail rest ⟨rfl, fun quiet => ?_⟩
      refine absurd ?_ refused
      rw [length, count_eq, all quiet]
      exact read_length
    · rw [taken (not_not.mp accepted), ← fits.stored_eq]
      rcases found : stored slot.file.contents with reason | name
      · exact Does.fail rest ⟨rfl, fun _ => ⟨reason, rfl⟩⟩
      · exact Does.pure rest ⟨rfl, rfl⟩

/-! ## New slots -/

theorem blank_created : Blank mode (Journal.settled [] : SlotFile) := Sees.settled (.inl rfl)

theorem stored_extend {contents : List UInt8} (nameless : stored contents = .ok none)
    (short : contents.length < headerOffsetData) :
    (SparseVector.resize contents headerOffsetData).take headerCorpusSize = emptyHeader := by
  have corpus := corpus_le_offsetData
  have zeros : contents = zeroBytes contents.length := by
    apply List.eq_replicate_iff.mpr ⟨rfl, fun byte member => ?_⟩
    by_contra nonzero
    have some : contents.length ≠ 0 := List.length_pos_iff_exists_mem.mpr ⟨byte, member⟩ |>.ne'
    have safe := offsetData_le_maxSafe
    unfold stored at nameless
    rw [if_neg (by omega), if_neg some, if_pos short, if_pos] at nameless
    · exact nomatch nameless
    · exact List.any_eq_true.mpr ⟨byte, member, by simpa using nonzero⟩
  have extended : SparseVector.resize contents headerOffsetData = zeroBytes headerOffsetData := by
    unfold SparseVector.resize
    rw [List.take_of_length_le short.le, zeros, length_zeroBytes]
    unfold zeroBytes
    rw [List.replicate_append_replicate]
    congr 1
    omega
  rw [extended, zeroBytes, List.take_replicate, Nat.min_eq_left corpus]
  rfl

theorem fresh_initialized (nameless : stored file.contents = .ok none)
    (short : file.contents.length < headerOffsetData) :
    Fresh (file.truncate headerOffsetData).flush := by
  refine ⟨_, SlotFile.flush_eq _, ?_, ?_⟩
  · rw [SlotFile.contents_truncate, SparseVector.length_resize]
  · rw [SlotFile.contents_truncate]
    exact stored_extend nameless short

theorem stored_resize_none {contents : List UInt8} (nameless : stored contents = .ok none) :
    stored (SparseVector.resize contents headerOffsetData) = .ok none := by
  have fits := Fits.resize le_rfl offsetData_le_maxSafe contents
  by_cases short : contents.length < headerOffsetData
  · rw [fits.stored_eq, stored_extend nameless short]
    exact parseHeader_empty
  · have bounded : contents.length ≤ maxSafeInteger := by
      by_contra large
      have unreadable : stored contents = .error "invalid physical file size" :=
        if_pos (by omega)
      exact nomatch unreadable.symm.trans nameless
    have fits' : Fits contents := ⟨by omega, bounded⟩
    exact (fits'.stored_same fits (take_header_resize fits' le_rfl)).trans nameless

theorem Blank.initializing {file' : SlotFile} (blank : Blank mode file)
    (readable : stored file.contents = .ok none) (initializing : Initializing file file') :
    Blank mode file' := by
  have truncated : Blank mode (file.truncate headerOffsetData) := by
    intro image seen
    by_cases strict : mode = .strict
    · rcases seen.append with unchanged | ⟨earlier, before, rfl⟩
      · exact blank image unchanged
      · rcases blank earlier before with nameless | ⟨_, ⟨⟩, -⟩ | ⟨torn, -⟩
        · exact .inl (stored_resize_none nameless)
        · exact absurd strict (Mode.not_strict_of_torn torn)
    · rw [seen.2.resolve_left strict, SlotFile.contents_truncate]
      exact .inl (stored_resize_none readable)
  cases initializing with
  | untouched => exact blank
  | truncated => exact truncated
  | flushed => exact truncated.flush

end Sahpool

end SqliteVfs
