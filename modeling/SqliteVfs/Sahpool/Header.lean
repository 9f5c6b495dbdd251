import SqliteVfs.Sahpool.Slot

/-!
# Slot headers

The 516 bytes that `associate` writes, and what `associated_filename` reads in them.  A
header that names a file holds exactly that name; a header whose name field begins with
zero names none; and a header that was cut while it was being written over zeros names
its own file or none.
-/

set_option autoImplicit false

namespace SqliteVfs

namespace Sahpool

/-- What `associate` can store: SQLite's suffixes included, with room for the NUL. -/
structure StorableName (name : String) : Prop where
  nonempty : nameBytes name ≠ []
  noNul : 0 ∉ nameBytes name
  short : (nameBytes name).length < headerMaxFilenameSize

def zeroBytes (n : Nat) : List UInt8 := List.replicate n 0

def nameField (name : String) : List UInt8 :=
  nameBytes name ++ zeroBytes (headerMaxFilenameSize - (nameBytes name).length)

def headerOf (name : String) (flags : UInt32) : List UInt8 := nameField name ++ flagsBytes flags

def emptyHeader : List UInt8 := zeroBytes headerCorpusSize

@[simp] theorem length_zeroBytes (n : Nat) : (zeroBytes n).length = n := List.length_replicate

@[simp] theorem length_flagsBytes (flags : UInt32) : (flagsBytes flags).length = 4 := rfl

theorem StorableName.length_nameField {name : String} (storable : StorableName name) :
    (nameField name).length = headerMaxFilenameSize := by
  have := storable.short
  rw [nameField, List.length_append, length_zeroBytes]
  omega

theorem StorableName.length_headerOf {name : String} (storable : StorableName name)
    (flags : UInt32) : (headerOf name flags).length = headerCorpusSize := by
  rw [headerOf, List.length_append, storable.length_nameField, length_flagsBytes]
  rfl

theorem StorableName.take_headerOf {name : String} (storable : StorableName name)
    (flags : UInt32) : (headerOf name flags).take headerMaxFilenameSize = nameField name :=
  List.take_left' storable.length_nameField

theorem StorableName.drop_headerOf {name : String} (storable : StorableName name)
    (flags : UInt32) : (headerOf name flags).drop headerMaxFilenameSize = flagsBytes flags :=
  List.drop_left' storable.length_nameField

/-! ## Writing -/

theorem flagsBytes_zero : flagsBytes 0 = zeroBytes 4 := by decide

theorem header_none : SyncAccessFile.header none 0 = pure emptyHeader := by
  unfold SyncAccessFile.header
  dsimp only
  have corpus : headerCorpusSize = headerMaxFilenameSize + 4 := rfl
  have header : (List.replicate headerCorpusSize (0 : UInt8)).take headerMaxFilenameSize ++
      flagsBytes 0 ++ (List.replicate headerCorpusSize 0).drop headerCorpusSize = emptyHeader := by
    rw [List.take_replicate, List.drop_replicate, flagsBytes_zero, Nat.sub_self,
      List.replicate_zero, List.append_nil]
    exact List.replicate_append_replicate
  rw [Prog.pure_bind, Prog.copyInto_of_le (by omega) (by rw [List.length_replicate])
    (by rw [length_flagsBytes]; omega), header]

theorem header_some {name : String} (storable : StorableName name) (flags : UInt32) :
    SyncAccessFile.header (some name) flags = pure (headerOf name flags) := by
  have short := storable.short
  have accepted : ¬ (nameBytes name = [] ∨ 0 ∈ nameBytes name ∨
      headerMaxFilenameSize ≤ (nameBytes name).length) := by
    rintro (empty | nul | long)
    · exact storable.nonempty empty
    · exact storable.noNul nul
    · omega
  have corpus : headerCorpusSize = headerMaxFilenameSize + 4 := rfl
  have padded : (List.replicate headerCorpusSize (0 : UInt8)).drop (nameBytes name).length =
      zeroBytes (headerCorpusSize - (nameBytes name).length) := List.drop_replicate
  unfold SyncAccessFile.header
  dsimp only
  rw [if_neg accepted, Prog.copyInto_of_le (Nat.zero_le _)
    (by rw [List.length_replicate]; omega) (by omega), Prog.pure_bind, List.take_zero,
    List.nil_append, padded, Prog.copyInto_of_le (by omega)
    (by rw [List.length_append, length_zeroBytes]; omega) (by rw [length_flagsBytes]; omega)]
  congr 1
  have field : (nameBytes name ++ zeroBytes (headerCorpusSize - (nameBytes name).length)).take
      headerMaxFilenameSize = nameField name := by
    rw [List.take_append, List.take_of_length_le short.le, nameField]
    congr 1
    unfold zeroBytes
    rw [List.take_replicate]
    congr 1
    omega
  have past : (nameBytes name ++ zeroBytes (headerCorpusSize - (nameBytes name).length)).drop
      headerCorpusSize = [] := by
    apply List.drop_eq_nil_of_le
    rw [List.length_append, length_zeroBytes]
    omega
  rw [field, past, List.append_nil]
  rfl

/-- `associate` refuses a name that does not fit before it touches the slot. -/
theorem header_refused {name : String} (refused : ¬ StorableName name) (flags : UInt32) :
    SyncAccessFile.header (some name) flags =
      Prog.fail (.invalidFilename "filename cannot be stored in the pool header") := by
  have rejected : nameBytes name = [] ∨ 0 ∈ nameBytes name ∨
      headerMaxFilenameSize ≤ (nameBytes name).length := by
    by_contra accepted
    push Not at accepted
    exact refused ⟨accepted.1, accepted.2.1, accepted.2.2⟩
  unfold SyncAccessFile.header
  dsimp only
  rw [if_pos rejected]
  rfl

/-! ## Reading -/

theorem nameField_injective {first second : String} (noNul : 0 ∉ nameBytes first)
    (noNul' : 0 ∉ nameBytes second) (same : nameField first = nameField second) :
    first = second := by
  have strip (name : String) (noNul : 0 ∉ nameBytes name) :
      (nameField name).takeWhile (· ≠ 0) = nameBytes name := by
    unfold nameField
    rw [List.takeWhile_append_of_pos]
    · have : (zeroBytes (headerMaxFilenameSize - (nameBytes name).length)).takeWhile (· ≠ 0) =
          [] := by
        unfold zeroBytes
        simp
      rw [this, List.append_nil]
    · intro byte member
      have nonzero : byte ≠ 0 := fun zero => noNul (zero ▸ member)
      simpa using nonzero
  apply nameBytes_injective
  rw [← strip first noNul, ← strip second noNul', same]

theorem parseHeader_empty : parseHeader emptyHeader = .ok none := by
  have name : emptyHeader.take headerMaxFilenameSize = 0 :: zeroBytes 511 := List.take_replicate
  have flags : emptyHeader.drop headerMaxFilenameSize = zeroBytes 4 := List.drop_replicate
  have first : (0 :: zeroBytes 511).findIdx? (· = 0) = some 0 := rfl
  have rest : ((0 :: zeroBytes 511).drop 0).any (· ≠ 0) = false := by
    rw [List.drop_zero, List.any_eq_false]
    intro byte member
    have : byte = 0 := List.eq_of_mem_replicate (n := 512) member
    simp [this]
  unfold parseHeader
  simp only [name, flags, first, rest]
  decide

/-- A field that decodes is the field of its name. -/
theorem nameField_of_decoded {field : List UInt8} {stop : Nat} {name : String}
    (length : field.length = headerMaxFilenameSize) (found : field.findIdx? (· = 0) = some stop)
    (padded : ¬ (field.drop stop).any (· ≠ 0) = true) (nonempty : ¬ stop = 0)
    (decoded : String.fromUTF8? ⟨(field.take stop).toArray⟩ = some name) :
    StorableName name ∧ field = nameField name := by
  obtain ⟨inside, zero, before⟩ := List.findIdx?_eq_some_iff_getElem.mp found
  have bytes := nameBytes_of_fromUTF8? decoded
  have stop_eq : (nameBytes name).length = stop := by
    rw [bytes, List.length_take]
    omega
  have tail : field.drop stop = zeroBytes (headerMaxFilenameSize - stop) := by
    refine List.eq_replicate_iff.mpr ⟨by rw [List.length_drop, length], fun byte member => ?_⟩
    by_contra nonzero
    apply padded
    exact List.any_eq_true.mpr ⟨byte, member, by simpa using nonzero⟩
  refine ⟨⟨?_, ?_, ?_⟩, ?_⟩
  · intro empty
    rw [empty, List.length_nil] at stop_eq
    exact nonempty stop_eq.symm
  · rw [bytes]
    intro member
    obtain ⟨i, low, at_i⟩ := List.getElem_of_mem member
    rw [List.length_take] at low
    rw [List.getElem_take] at at_i
    exact before i (by omega) (by simp [at_i])
  · rw [stop_eq]
    omega
  · rw [nameField, stop_eq, bytes, ← tail, List.take_append_drop]

theorem parseHeader_some {header : List UInt8} {name : String}
    (parsed : parseHeader header = .ok (some name))
    (long : headerMaxFilenameSize ≤ header.length) :
    StorableName name ∧ header.take headerMaxFilenameSize = nameField name ∧
      countOnes (flagsOf (header.drop headerMaxFilenameSize) &&&
        (persistentFileTypes ||| temporaryFileTypes)) = 1 := by
  unfold parseHeader at parsed
  dsimp only at parsed
  split at parsed
  · exact nomatch parsed
  rename_i stop found
  split at parsed
  · exact nomatch parsed
  rename_i padded
  split at parsed
  · split at parsed <;> exact nomatch parsed
  rename_i nonempty
  split at parsed
  · exact nomatch parsed
  rename_i name' decoded
  split at parsed
  · exact nomatch parsed
  rename_i kinds
  split at parsed
  · exact nomatch parsed
  split at parsed
  · exact nomatch parsed
  obtain rfl : name' = name := Option.some.inj (Except.ok.inj parsed)
  have length : (header.take headerMaxFilenameSize).length = headerMaxFilenameSize := by
    rw [List.length_take]
    omega
  obtain ⟨storable, field⟩ := nameField_of_decoded length found padded nonempty decoded
  exact ⟨storable, field, by simpa using kinds⟩

/-- The header of a storable name reads back as that name, as nothing, or not at all. -/
theorem parseHeader_headerOf {name : String} (storable : StorableName name) (flags : UInt32) :
    parseHeader (headerOf name flags) =
      (let flags := flagsOf (flagsBytes flags)
      let kind := flags &&& (persistentFileTypes ||| temporaryFileTypes)
      if countOnes kind ≠ 1 then .error "missing or conflicting file types"
      else if flags &&& SqliteOpen.deleteOnClose ≠ 0 then .ok none
      else if kind &&& temporaryFileTypes ≠ 0 then
        .error "temporary file is missing DELETEONCLOSE"
      else .ok (some name)) := by
  have short := storable.short
  have found : (nameField name).findIdx? (· = 0) = some (nameBytes name).length := by
    rw [List.findIdx?_eq_some_iff_getElem]
    have inside : (nameBytes name).length < (nameField name).length := by
      rw [storable.length_nameField]
      exact short
    refine ⟨inside, ?_, ?_⟩
    · simp [nameField, zeroBytes]
    · intro i before
      have : (nameField name).get ⟨i, before.trans inside⟩ = (nameBytes name).get ⟨i, before⟩ := by
        simp [nameField, List.getElem_append_left before]
      have nonzero : (nameBytes name).get ⟨i, before⟩ ≠ 0 :=
        fun zero => storable.noNul (zero ▸ List.get_mem _ _)
      have first := this ▸ nonzero
      simpa using first
  have stripped : (nameField name).take (nameBytes name).length = nameBytes name := by
    simp [nameField]
  have padded : ¬ ((nameField name).drop (nameBytes name).length).any (· ≠ 0) = true := by
    simp [nameField, zeroBytes]
  have nonempty : ¬ (nameBytes name).length = 0 := by
    simpa using storable.nonempty
  unfold parseHeader
  simp only [storable.take_headerOf, storable.drop_headerOf, found, stripped, fromUTF8?_nameBytes]
  rw [if_neg padded, if_neg nonempty]

/-- A header whose first byte is zero names no file. -/
theorem parseHeader_zero {header : List UInt8} {name : String} (zero : header[0]? = some 0) :
    parseHeader header ≠ .ok (some name) := by
  intro parsed
  unfold parseHeader at parsed
  dsimp only at parsed
  have first : (header.take headerMaxFilenameSize).findIdx? (· = 0) = some 0 := by
    obtain ⟨rest, rfl⟩ : ∃ rest, header = 0 :: rest := by
      cases header with
      | nil => simp at zero
      | cons byte rest => exact ⟨rest, by simpa using zero⟩
    rfl
  rw [first] at parsed
  dsimp only at parsed
  rw [if_pos rfl] at parsed
  split at parsed
  · exact nomatch parsed
  · split at parsed <;> exact nomatch parsed

theorem flagsOf_zeroBytes : flagsOf (zeroBytes 4) = 0 := by decide

/-- A header cut while it was written over zeros names its own file, if any. -/
theorem parseHeader_cut {name other : String} {flags : UInt32} {cut : Nat}
    (storable : StorableName name)
    (parsed : parseHeader ((headerOf name flags).take cut ++
      zeroBytes (headerCorpusSize - cut)) = .ok (some other)) : other = name := by
  have corpus : headerCorpusSize = headerMaxFilenameSize + 4 := rfl
  have whole := storable.length_headerOf flags
  have length : ((headerOf name flags).take cut ++ zeroBytes (headerCorpusSize - cut)).length =
      headerCorpusSize := by
    rw [List.length_append, List.length_take, length_zeroBytes, whole]
    omega
  obtain ⟨storable', field, kinds⟩ := parseHeader_some parsed (by omega)
  by_cases inFlags : headerMaxFilenameSize < cut
  · -- The name field is whole, so it is the same field.
    have taken : ((headerOf name flags).take cut ++ zeroBytes (headerCorpusSize - cut)).take
        headerMaxFilenameSize = nameField name := by
      rw [List.take_append_of_le_length (by rw [List.length_take]; omega), List.take_take,
        Nat.min_eq_left inFlags.le, storable.take_headerOf]
    exact nameField_injective storable'.noNul storable.noNul (field.symm.trans taken)
  · -- No flag was written, so no kind is set.
    have dropped : ((headerOf name flags).take cut ++ zeroBytes (headerCorpusSize - cut)).drop
        headerMaxFilenameSize = zeroBytes 4 := by
      rw [List.drop_append, List.drop_eq_nil_of_le (by rw [List.length_take]; omega),
        List.nil_append, List.length_take, zeroBytes, List.drop_replicate]
      unfold zeroBytes
      congr 1
      omega
    rw [dropped, flagsOf_zeroBytes] at kinds
    exact absurd kinds (by decide)

end Sahpool

end SqliteVfs
