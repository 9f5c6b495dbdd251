import SqliteVfs.Sahpool.SlotState

/-!
# The grammar of slot headers

Which contents of a slot `associated_filename` accepts, and as what.  The flag word of a
header is big-endian and loses nothing; a header that is accepted is the empty one or is
exactly what `associate` writes for its name and its flags.
-/

set_option autoImplicit false

namespace SqliteVfs

namespace Sahpool

/-! ## Flag words -/

theorem toNat_push (flags : UInt32) (byte : UInt8) (small : flags.toNat < 2 ^ 24) :
    (flags <<< 8 ||| byte.toUInt32).toNat = flags.toNat * 256 + byte.toNat := by
  have low : byte.toNat < 2 ^ 8 := byte.toNat_lt
  have shifted : flags.toNat <<< 8 < 2 ^ 32 := by
    rw [Nat.shiftLeft_eq]
    omega
  have eight : (8 : UInt32).toNat % 32 = 8 := rfl
  rw [UInt32.toNat_or, UInt32.toNat_shiftLeft, UInt8.toNat_toUInt32, eight,
    Nat.mod_eq_of_lt shifted, ← Nat.shiftLeft_add_eq_or_of_lt low, Nat.shiftLeft_eq]

theorem toNat_flagsOf (a b c d : UInt8) : (flagsOf [a, b, c, d]).toNat =
    ((a.toNat * 256 + b.toNat) * 256 + c.toNat) * 256 + d.toNat := by
  have := a.toNat_lt
  have := b.toNat_lt
  have := c.toNat_lt
  have first : ((0 : UInt32) <<< 8 ||| a.toUInt32).toNat = a.toNat := by
    rw [toNat_push 0 a (by decide)]
    exact Nat.zero_add _
  have second := toNat_push _ b (first.trans_lt (by omega))
  rw [first] at second
  have third := toNat_push _ c (second.trans_lt (by omega))
  rw [second] at third
  have fourth := toNat_push _ d (third.trans_lt (by omega))
  rw [third] at fourth
  exact fourth

theorem flagsOf_flagsBytes (flags : UInt32) : flagsOf (flagsBytes flags) = flags := by
  apply UInt32.toNat_inj.mp
  have := flags.toNat_lt
  rw [flagsBytes, toNat_flagsOf]
  simp only [UInt32.toNat_toUInt8, UInt32.toNat_shiftRight, Nat.shiftRight_eq_div_pow]
  simp only [UInt32.reduceToNat, Nat.reduceMod, Nat.reducePow]
  omega

theorem flagsBytes_flagsOf {bytes : List UInt8} (four : bytes.length = 4) :
    flagsBytes (flagsOf bytes) = bytes := by
  obtain ⟨a, b, c, d, rfl⟩ : ∃ a b c d, bytes = [a, b, c, d] := by
    match bytes, four with
    | [a, b, c, d], _ => exact ⟨a, b, c, d, rfl⟩
  have value := toNat_flagsOf a b c d
  have := a.toNat_lt
  have := b.toNat_lt
  have := c.toNat_lt
  have := d.toNat_lt
  unfold flagsBytes
  simp only [List.cons.injEq, and_true, ← UInt8.toNat_inj, UInt32.toNat_toUInt8,
    UInt32.toNat_shiftRight, Nat.shiftRight_eq_div_pow, UInt32.reduceToNat, Nat.reduceMod,
    Nat.reducePow, value]
  omega

/-! ## Headers -/

def OneKind (flags : UInt32) : Prop :=
  countOnes (flags &&& (persistentFileTypes ||| temporaryFileTypes)) = 1

def Temporary (flags : UInt32) : Prop := flags &&& temporaryFileTypes ≠ 0

def DeleteOnClose (flags : UInt32) : Prop := flags &&& SqliteOpen.deleteOnClose ≠ 0

instance (flags : UInt32) : Decidable (OneKind flags) := inferInstanceAs (Decidable (_ = _))

instance (flags : UInt32) : Decidable (Temporary flags) := inferInstanceAs (Decidable (_ ≠ _))

instance (flags : UInt32) : Decidable (DeleteOnClose flags) := inferInstanceAs (Decidable (_ ≠ _))

theorem kinds_temporary (flags : UInt32) :
    flags &&& (persistentFileTypes ||| temporaryFileTypes) &&& temporaryFileTypes =
      flags &&& temporaryFileTypes := by
  have absorbed : (persistentFileTypes ||| temporaryFileTypes) &&& temporaryFileTypes =
      temporaryFileTypes := by decide
  rw [UInt32.and_assoc, absorbed]

/-- What the header of a storable name reads back as depends on its flags alone. -/
theorem parseHeader_of_flags {name : String} (storable : StorableName name) (flags : UInt32) :
    parseHeader (headerOf name flags) =
      if ¬ OneKind flags then .error "missing or conflicting file types"
      else if DeleteOnClose flags then .ok none
      else if Temporary flags then .error "temporary file is missing DELETEONCLOSE"
      else .ok (some name) := by
  rw [parseHeader_headerOf storable, flagsOf_flagsBytes]
  dsimp only
  rw [kinds_temporary]
  rfl

/-- A header that is accepted is empty or the encoding of a name. -/
theorem header_of_parsed {header : List UInt8} {found : Option String}
    (whole : header.length = headerCorpusSize) (parsed : parseHeader header = .ok found) :
    header = emptyHeader ∨ ∃ name flags, StorableName name ∧ header = headerOf name flags := by
  have corpus : headerCorpusSize = headerMaxFilenameSize + 4 := rfl
  have length : (header.take headerMaxFilenameSize).length = headerMaxFilenameSize := by
    rw [List.length_take]
    omega
  have four : (header.drop headerMaxFilenameSize).length = 4 := by
    rw [List.length_drop]
    omega
  unfold parseHeader at parsed
  dsimp only at parsed
  split at parsed
  · exact nomatch parsed
  rename_i stop terminated
  split at parsed
  · exact nomatch parsed
  rename_i padded
  split at parsed
  · rename_i unnamed
    subst unnamed
    split at parsed
    · exact nomatch parsed
    rename_i clear
    left
    have field : header.take headerMaxFilenameSize = zeroBytes headerMaxFilenameSize := by
      refine List.eq_replicate_iff.mpr ⟨length, fun byte member => ?_⟩
      by_contra nonzero
      exact padded (List.any_eq_true.mpr ⟨byte, member, by simpa using nonzero⟩)
    have flags : header.drop headerMaxFilenameSize = zeroBytes 4 := by
      rw [← flagsBytes_flagsOf four, not_not.mp clear]
      exact flagsBytes_zero
    rw [← List.take_append_drop headerMaxFilenameSize header, field, flags]
    exact List.replicate_append_replicate
  · rename_i nonempty
    right
    split at parsed
    · exact nomatch parsed
    rename_i name decoded
    obtain ⟨storable, field⟩ := nameField_of_decoded length terminated padded nonempty decoded
    refine ⟨name, flagsOf (header.drop headerMaxFilenameSize), storable, ?_⟩
    rw [headerOf, ← field, flagsBytes_flagsOf four, List.take_append_drop]

theorem parseHeader_eq_some {header : List UInt8} {name : String}
    (whole : header.length = headerCorpusSize) :
    parseHeader header = .ok (some name) ↔ ∃ flags, OneKind flags ∧ ¬ Temporary flags ∧
      ¬ DeleteOnClose flags ∧ StorableName name ∧ header = headerOf name flags := by
  constructor
  · intro parsed
    rcases header_of_parsed whole parsed with rfl | ⟨other, flags, storable, rfl⟩
    · exact nomatch parseHeader_empty.symm.trans parsed
    · rw [parseHeader_of_flags storable] at parsed
      split at parsed
      · exact nomatch parsed
      rename_i kinds
      split at parsed
      · exact nomatch parsed
      rename_i kept
      split at parsed
      · exact nomatch parsed
      rename_i persistent
      cases parsed
      exact ⟨flags, not_not.mp kinds, persistent, kept, storable, rfl⟩
  · rintro ⟨flags, kinds, persistent, kept, storable, rfl⟩
    rw [parseHeader_of_flags storable, if_neg (not_not.mpr kinds), if_neg kept, if_neg persistent]

theorem parseHeader_eq_none {header : List UInt8} (whole : header.length = headerCorpusSize) :
    parseHeader header = .ok none ↔ header = emptyHeader ∨ ∃ name flags, OneKind flags ∧
      DeleteOnClose flags ∧ StorableName name ∧ header = headerOf name flags := by
  constructor
  · intro parsed
    rcases header_of_parsed whole parsed with rfl | ⟨name, flags, storable, rfl⟩
    · exact .inl rfl
    · rw [parseHeader_of_flags storable] at parsed
      split at parsed
      · exact nomatch parsed
      rename_i kinds
      split at parsed
      · rename_i dropped
        exact .inr ⟨name, flags, not_not.mp kinds, dropped, storable, rfl⟩
      · split at parsed <;> exact nomatch parsed
  · rintro (rfl | ⟨name, flags, kinds, dropped, storable, rfl⟩)
    · exact parseHeader_empty
    · rw [parseHeader_of_flags storable, if_neg (not_not.mpr kinds), if_pos dropped]

/-! ## Slots -/

theorem getSize_quiet (file : SlotFile) :
    AccessHandle.getSize.run ⟨file, []⟩ = (.ok file.contents.length, ⟨file, []⟩) := rfl

theorem read_quiet (buf : List UInt8) (start : Nat) (file : SlotFile) :
    (AccessHandle.read buf start).run ⟨file, []⟩ =
      (.ok ((SparseVector.readAt file.contents start buf.length).length,
        SparseVector.readAt file.contents start buf.length ++
          buf.drop (SparseVector.readAt file.contents start buf.length).length), ⟨file, []⟩) := rfl

theorem physicalSize_quiet (opaqueName : String) (file : SlotFile) :
    (SyncAccessFile.physicalSize opaqueName).run ⟨file, []⟩ =
      (if maxSafeInteger < file.contents.length then
        .err (.invalidHeader opaqueName "invalid physical file size")
      else .ok file.contents.length, ⟨file, []⟩) := by
  unfold SyncAccessFile.physicalSize
  rw [Prog.bind_ok (Prog.mapErr_ok_iff.mpr (getSize_quiet file))]
  split <;> rfl

theorem readAt_quiet (buf : List UInt8) (start : Nat) (file : SlotFile) :
    (SyncAccessFile.readAt buf start).run ⟨file, []⟩ =
      (.ok ((SparseVector.readAt file.contents start buf.length).length,
        SparseVector.readAt file.contents start buf.length ++
          buf.drop (SparseVector.readAt file.contents start buf.length).length), ⟨file, []⟩) := by
  unfold SyncAccessFile.readAt
  rw [Prog.bind_ok (Prog.mapErr_ok_iff.mpr (read_quiet buf start file))]
  dsimp only
  have bounded : ¬ buf.length < (SparseVector.readAt file.contents start buf.length).length := by
    rw [SparseVector.length_readAt]
    omega
  rw [if_neg bounded]
  rfl

theorem associatedFilename_quiet (opaqueName : String) (file : SlotFile) :
    (SyncAccessFile.associatedFilename opaqueName).run ⟨file, []⟩ =
      (match stored file.contents with
        | .ok found => .ok found
        | .error reason => .err (.invalidHeader opaqueName reason), ⟨file, []⟩) := by
  unfold SyncAccessFile.associatedFilename stored
  rw [Prog.bind_run, physicalSize_quiet]
  by_cases large : maxSafeInteger < file.contents.length
  · rw [if_pos large, if_pos large]
  rw [if_neg large, if_neg large]
  dsimp only
  by_cases empty : file.contents.length = 0
  · rw [if_pos empty, if_pos empty]
    rfl
  rw [if_neg empty, if_neg empty]
  by_cases short : file.contents.length < headerOffsetData
  · rw [if_pos short, if_pos short]
    have whole : SparseVector.readAt file.contents 0
        (List.replicate file.contents.length (0 : UInt8)).length = file.contents := by
      rw [List.length_replicate]
      exact SparseVector.readAt_all _
    rw [Prog.bind_ok (readAt_quiet _ 0 file), whole]
    dsimp only
    rw [List.drop_eq_nil_of_le (by rw [List.length_replicate]), List.append_nil]
    by_cases nonzero : file.contents.any (· ≠ 0)
    · rw [if_pos (.inr nonzero), if_pos nonzero]
      rfl
    · rw [if_neg (by simpa using nonzero), if_neg nonzero]
      rfl
  · rw [if_neg short, if_neg short]
    have corpus := corpus_le_offsetData
    have read : SparseVector.readAt file.contents 0
        (List.replicate headerCorpusSize (0 : UInt8)).length =
          file.contents.take headerCorpusSize := by
      rw [List.length_replicate]
      rfl
    have length : (file.contents.take headerCorpusSize).length = headerCorpusSize := by
      rw [List.length_take]
      omega
    rw [Prog.bind_ok (readAt_quiet _ 0 file), read]
    dsimp only
    rw [length, List.drop_eq_nil_of_le (by rw [List.length_replicate]), List.append_nil,
      if_neg (by rw [length]; exact not_not.mpr rfl)]
    rcases parseHeader (file.contents.take headerCorpusSize) with reason | found <;> rfl

/-- `associate(Some(name))` writes this header for these flags. -/
def Encodes (name : String) (flags : UInt32) (header : List UInt8) : Prop :=
  SyncAccessFile.header (some name) flags = pure header

theorem encodes_iff {name : String} {flags : UInt32} {header : List UInt8} :
    Encodes name flags header ↔ StorableName name ∧ header = headerOf name flags := by
  unfold Encodes
  by_cases storable : StorableName name
  · rw [header_some storable]
    constructor
    · intro same
      have run := congrArg (fun x => (Prog.run x ⟨Journal.settled [], []⟩).1) same
      exact ⟨storable, (Outcome.ok.inj run).symm⟩
    · rintro ⟨-, rfl⟩
      rfl
  · rw [header_refused storable]
    constructor
    · intro same
      have run := congrArg (fun x => (Prog.run x ⟨Journal.settled [], []⟩).1) same
      exact nomatch run
    · rintro ⟨storable', -⟩
      exact absurd storable' storable

theorem storableName_iff {name : String} : StorableName name ↔
    1 ≤ (nameBytes name).length ∧ (nameBytes name).length ≤ 511 ∧ 0 ∉ nameBytes name := by
  have limit : headerMaxFilenameSize = 512 := rfl
  constructor
  · intro storable
    have := storable.short
    exact ⟨List.length_pos_iff.mpr storable.nonempty, by omega, storable.noNul⟩
  · rintro ⟨some, short, noNul⟩
    exact ⟨List.length_pos_iff.mp some, noNul, by omega⟩

theorem headerOf_injective {first second : String} {flags flags' : UInt32}
    (storable : StorableName first) (storable' : StorableName second)
    (same : headerOf first flags = headerOf second flags') : first = second ∧ flags = flags' := by
  constructor
  · apply nameField_injective storable.noNul storable'.noNul
    rw [← storable.take_headerOf flags, same, storable'.take_headerOf]
  · have bytes : flagsBytes flags = flagsBytes flags' := by
      rw [← storable.drop_headerOf flags, same, storable'.drop_headerOf]
    rw [← flagsOf_flagsBytes flags, bytes, flagsOf_flagsBytes]

theorem stored_eq_some {contents : List UInt8} {name : String}
    (bounded : contents.length ≤ maxSafeInteger) :
    stored contents = .ok (some name) ↔ headerOffsetData ≤ contents.length ∧
      ∃ flags, OneKind flags ∧ ¬ Temporary flags ∧ ¬ DeleteOnClose flags ∧
        Encodes name flags (contents.take headerCorpusSize) := by
  have corpus := corpus_le_offsetData
  by_cases long : headerOffsetData ≤ contents.length
  · have whole : (contents.take headerCorpusSize).length = headerCorpusSize := by
      rw [List.length_take]
      omega
    rw [Fits.stored_eq ⟨long, bounded⟩, parseHeader_eq_some whole]
    simp only [encodes_iff, long, true_and]
  · refine iff_of_false (fun found => ?_) fun found => long found.1
    unfold stored at found
    rw [if_neg (by omega)] at found
    split at found
    · exact nomatch found
    · rw [if_pos (by omega)] at found
      split at found <;> exact nomatch found

theorem stored_eq_none {contents : List UInt8} (bounded : contents.length ≤ maxSafeInteger) :
    stored contents = .ok none ↔ contents = [] ∨
      (contents.length < headerOffsetData ∧ ∀ byte ∈ contents, byte = 0) ∨
      (headerOffsetData ≤ contents.length ∧
        (contents.take headerCorpusSize = List.replicate headerCorpusSize 0 ∨
          ∃ name flags, OneKind flags ∧ DeleteOnClose flags ∧
            Encodes name flags (contents.take headerCorpusSize))) := by
  have corpus := corpus_le_offsetData
  have positive := offsetData_pos
  by_cases long : headerOffsetData ≤ contents.length
  · have whole : (contents.take headerCorpusSize).length = headerCorpusSize := by
      rw [List.length_take]
      omega
    have some : contents ≠ [] := by
      rintro rfl
      rw [List.length_nil] at long
      omega
    rw [Fits.stored_eq ⟨long, bounded⟩, parseHeader_eq_none whole]
    simp only [encodes_iff, long, true_and, some, false_or, Nat.not_lt.mpr long, false_and]
    rfl
  · simp only [long, false_and, or_false, Nat.lt_of_not_le long, true_and]
    unfold stored
    rw [if_neg (by omega)]
    by_cases empty : contents.length = 0
    · rw [if_pos empty]
      exact iff_of_true rfl (.inl (List.length_eq_zero_iff.mp empty))
    · have some : contents ≠ [] := fun nil => empty (List.length_eq_zero_iff.mpr nil)
      rw [if_neg empty, if_pos (by omega)]
      simp only [some, false_or]
      by_cases nonzero : contents.any (· ≠ 0) = true
      · rw [if_pos nonzero]
        obtain ⟨byte, member, different⟩ := List.any_eq_true.mp nonzero
        exact iff_of_false (fun found => nomatch found)
          fun zeros => by simp [zeros byte member] at different
      · rw [if_neg nonzero]
        refine iff_of_true rfl fun byte member => ?_
        by_contra different
        exact nonzero (List.any_eq_true.mpr ⟨byte, member, by simpa using different⟩)

theorem stored_oversized {contents : List UInt8} (large : maxSafeInteger < contents.length) :
    stored contents = .error "invalid physical file size" := by
  unfold stored
  rw [if_pos large]

/-- The grammar of slot headers, for slots of at most 2^53 - 1 bytes; a longer slot is
refused whatever it holds. -/
theorem slot_header_grammar :
    (∀ (opaqueName : String) (file : SlotFile),
      let contents := file.contents
      let read := ((SyncAccessFile.associatedFilename opaqueName).run ⟨file, []⟩).1
      (contents.length ≤ maxSafeInteger →
        (∀ name, read = .ok (some name) ↔ 4096 ≤ contents.length ∧
          ∃ flags, OneKind flags ∧ ¬ Temporary flags ∧ ¬ DeleteOnClose flags ∧
            Encodes name flags (contents.take 516)) ∧
        (read = .ok none ↔ contents = [] ∨
          (contents.length < 4096 ∧ ∀ byte ∈ contents, byte = 0) ∨
          (4096 ≤ contents.length ∧
            (contents.take 516 = List.replicate 516 0 ∨
              ∃ name flags, OneKind flags ∧ DeleteOnClose flags ∧
                Encodes name flags (contents.take 516))))) ∧
      (maxSafeInteger < contents.length → ∀ found, read ≠ .ok found) ∧
      ((∃ found, read = .ok found) ∨ ∃ reason, read = .err (.invalidHeader opaqueName reason)) ∧
      (∀ name, read = .ok (some name) → ∃ flags, Encodes name flags (contents.take 516))) ∧
    (∀ (name : String) (flags : UInt32), 0 ∉ nameBytes name → 1 ≤ (nameBytes name).length →
      (nameBytes name).length ≤ 511 → OneKind flags → ¬ Temporary flags → ¬ DeleteOnClose flags →
      ∃ header, Encodes name flags header ∧ parseHeader header = .ok (some name)) ∧
    ∀ (first second : String) (flags flags' : UInt32) (header : List UInt8),
      Encodes first flags header → Encodes second flags' header → first = second := by
  refine ⟨fun opaqueName file => ?_, ?_, ?_⟩
  · dsimp only
    have run := congrArg Prod.fst (associatedFilename_quiet opaqueName file)
    dsimp only at run
    rw [run]
    have ok_iff (found : Option String) : ((match stored file.contents with
        | .ok found => (.ok found : Outcome OpfsSAHError (Option String))
        | .error reason => .err (.invalidHeader opaqueName reason)) = .ok found) ↔
          stored file.contents = .ok found := by
      rcases stored file.contents with reason | found' <;> simp
    have oversized (large : maxSafeInteger < file.contents.length) (found : Option String) :
        stored file.contents ≠ .ok found := by
      rw [stored_oversized large]
      exact nofun
    refine ⟨fun bounded => ⟨fun name => ?_, ?_⟩, fun large found => ?_, ?_, fun name found => ?_⟩
    · rw [ok_iff]
      exact stored_eq_some bounded
    · rw [ok_iff]
      exact stored_eq_none bounded
    · rw [Ne, ok_iff]
      exact oversized large found
    · rcases stored file.contents with reason | found
      · exact .inr ⟨reason, rfl⟩
      · exact .inl ⟨found, rfl⟩
    · rw [ok_iff] at found
      have bounded : file.contents.length ≤ maxSafeInteger := by
        by_contra large
        exact oversized (Nat.lt_of_not_le large) _ found
      obtain ⟨-, flags, -, -, -, encodes⟩ := (stored_eq_some bounded).mp found
      exact ⟨flags, encodes⟩
  · intro name flags noNul some short kinds persistent kept
    have storable := storableName_iff.mpr ⟨some, short, noNul⟩
    refine ⟨headerOf name flags, encodes_iff.mpr ⟨storable, rfl⟩, ?_⟩
    exact (parseHeader_eq_some (storable.length_headerOf flags)).mpr
      ⟨flags, kinds, persistent, kept, storable, rfl⟩
  · intro first second flags flags' header encodes encodes'
    obtain ⟨storable, rfl⟩ := encodes_iff.mp encodes
    obtain ⟨storable', same⟩ := encodes_iff.mp encodes'
    exact (headerOf_injective storable storable' same).1

def oversizedSlot : List UInt8 := headerOf "a" SqliteOpen.mainDb ++ zeroBytes (2 ^ 53 - 516)

-- Never to be evaluated.
attribute [irreducible] oversizedSlot

/-- A slot of 2^53 bytes is refused although its header names a file. -/
theorem oversized_slot_refused :
    4096 ≤ oversizedSlot.length ∧ OneKind SqliteOpen.mainDb ∧
      ¬ Temporary SqliteOpen.mainDb ∧ ¬ DeleteOnClose SqliteOpen.mainDb ∧
      Encodes "a" SqliteOpen.mainDb (oversizedSlot.take 516) ∧
      ((SyncAccessFile.associatedFilename "slot").run ⟨Journal.settled oversizedSlot, []⟩).1 =
        .err (.invalidHeader "slot" "invalid physical file size") := by
  have storable : StorableName "a" := ⟨by decide, by decide, by decide⟩
  have length : (headerOf "a" SqliteOpen.mainDb).length = 516 := storable.length_headerOf _
  have total : oversizedSlot.length = 2 ^ 53 := by
    rw [oversizedSlot, List.length_append, length, length_zeroBytes]
    omega
  have taken : oversizedSlot.take 516 = headerOf "a" SqliteOpen.mainDb := by
    rw [oversizedSlot]
    exact List.take_left' length
  have large : maxSafeInteger < (SlotFile.contents (Journal.settled oversizedSlot)).length := by
    rw [SlotFile.contents, Journal.contents_settled, total]
    decide
  refine ⟨by omega, by decide, by decide, by decide, encodes_iff.mpr ⟨storable, taken⟩, ?_⟩
  rw [associatedFilename_quiet, stored_oversized large]

/-! ## Torn writes -/

/-- A new header of which only the first `cut` bytes have reached the slot. -/
def torn (cut : Nat) (new old : List UInt8) : List UInt8 := new.take cut ++ old.drop cut

theorem torn_creation {name found : String} {flags : UInt32} {cut : Nat}
    (storable : StorableName name)
    (parsed : parseHeader (torn cut (headerOf name flags) emptyHeader) = .ok (some found)) :
    found = name := by
  have rest : emptyHeader.drop cut = zeroBytes (headerCorpusSize - cut) := List.drop_replicate
  rw [torn, rest] at parsed
  exact parseHeader_cut storable parsed

theorem torn_deletion {name found : String} {flags : UInt32} {cut : Nat}
    (storable : StorableName name)
    (parsed : parseHeader (torn cut emptyHeader (headerOf name flags)) = .ok (some found)) :
    found = name := by
  cases cut with
  | zero =>
      rw [torn, List.take_zero, List.drop_zero, List.nil_append] at parsed
      obtain ⟨flags', -, -, -, storable', same⟩ :=
        (parseHeader_eq_some (storable.length_headerOf flags)).mp parsed
      exact (headerOf_injective storable storable' same).1.symm
  | succ cut => exact absurd parsed (parseHeader_zero rfl)

/-- A header write that stopped after any number of bytes, over an empty header or by an
empty header, leaves a slot that stands for its own name, for none, or is refused.  This is
so for every flag word. -/
theorem torn_header_fails_closed (opaqueName name : String) (flags : UInt32)
    (noNul : 0 ∉ nameBytes name) (nonempty : 1 ≤ (nameBytes name).length)
    (short : (nameBytes name).length ≤ 511) :
    ∃ header, Encodes name flags header ∧ header.length = 516 ∧
      ∀ cut, cut ≤ 516 → ∀ file : SlotFile, 4096 ≤ file.contents.length →
        file.contents.take 516 = torn cut header (List.replicate 516 0) ∨
          file.contents.take 516 = torn cut (List.replicate 516 0) header →
        let read := ((SyncAccessFile.associatedFilename opaqueName).run ⟨file, []⟩).1
        read = .ok none ∨ read = .ok (some name) ∨
          ∃ reason, read = .err (.invalidHeader opaqueName reason) := by
  have storable := storableName_iff.mpr ⟨nonempty, short, noNul⟩
  refine ⟨headerOf name flags, encodes_iff.mpr ⟨storable, rfl⟩, storable.length_headerOf flags,
    fun cut _ file long left => ?_⟩
  dsimp only
  rw [associatedFilename_quiet]
  dsimp only
  have mine (found : String) (decoded : stored file.contents = .ok (some found)) :
      found = name := by
    have bounded : file.contents.length ≤ maxSafeInteger := by
      by_contra large
      rw [stored_oversized (Nat.lt_of_not_le large)] at decoded
      exact nomatch decoded
    rw [Fits.stored_eq ⟨long, bounded⟩] at decoded
    rcases left with created | deleted
    · have same : file.contents.take headerCorpusSize =
        torn cut (headerOf name flags) emptyHeader := created
      rw [same] at decoded
      exact torn_creation storable decoded
    · have same : file.contents.take headerCorpusSize =
        torn cut emptyHeader (headerOf name flags) := deleted
      rw [same] at decoded
      exact torn_deletion storable decoded
  rcases decoded : stored file.contents with reason | _ | found
  · exact .inr (.inr ⟨reason, rfl⟩)
  · exact .inl rfl
  · rw [mine found decoded]
    exact .inr (.inl rfl)

theorem torn_header_of_database :
    ∃ header, Encodes "a" SqliteOpen.mainDb header ∧ header.length = 516 ∧
      ∀ cut, cut ≤ 516 → ∀ file : SlotFile, 4096 ≤ file.contents.length →
        file.contents.take 516 = torn cut header (List.replicate 516 0) ∨
          file.contents.take 516 = torn cut (List.replicate 516 0) header →
        let read := ((SyncAccessFile.associatedFilename "slot").run ⟨file, []⟩).1
        read = .ok none ∨ read = .ok (some "a") ∨
          ∃ reason, read = .err (.invalidHeader "slot" reason) :=
  torn_header_fails_closed "slot" "a" SqliteOpen.mainDb (by decide) (by decide) (by decide)

end Sahpool

end SqliteVfs
