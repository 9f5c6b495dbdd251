import SqliteVfs.Core.Error

/-!
# Open options

`OpenOptions` of the core crate: SQLite's `xOpen` flag word with its validation and its
getters.  The word is an `i32` in the source and the same 32 bits here.
-/

set_option autoImplicit false

namespace SqliteVfs

def nameBytes (name : String) : List UInt8 := name.toUTF8.data.toList

theorem nameBytes_injective {first second : String} (same : nameBytes first = nameBytes second) :
    first = second := by
  apply String.toByteArray_inj.mp
  apply ByteArray.ext
  exact Array.ext' (by simpa [nameBytes] using same)

theorem nameBytes_of_fromUTF8? {bytes : List UInt8} {name : String}
    (read : String.fromUTF8? ⟨bytes.toArray⟩ = some name) : nameBytes name = bytes := by
  unfold String.fromUTF8? at read
  split at read
  · obtain rfl := Option.some.inj read
    simp [nameBytes, String.fromUTF8]
  · exact nomatch read

theorem fromUTF8?_nameBytes (name : String) :
    String.fromUTF8? ⟨(nameBytes name).toArray⟩ = some name := by
  have same : (⟨(nameBytes name).toArray⟩ : ByteArray) = name.toByteArray := by
    apply ByteArray.ext
    simp [nameBytes]
  unfold String.fromUTF8?
  have valid : (⟨(nameBytes name).toArray⟩ : ByteArray).IsValidUTF8 := by
    rw [same]
    exact name.isValidUTF8
  rw [dif_pos valid]
  exact congrArg some (String.toByteArray_inj.mp same)

namespace SqliteOpen

def readonly : UInt32 := 0x00000001
def readwrite : UInt32 := 0x00000002
def create : UInt32 := 0x00000004
def deleteOnClose : UInt32 := 0x00000008
def exclusive : UInt32 := 0x00000010
def mainDb : UInt32 := 0x00000100
def tempDb : UInt32 := 0x00000200
def transientDb : UInt32 := 0x00000400
def mainJournal : UInt32 := 0x00000800
def tempJournal : UInt32 := 0x00001000
def subJournal : UInt32 := 0x00002000
def superJournal : UInt32 := 0x00004000
def wal : UInt32 := 0x00080000

end SqliteOpen

/-- `u32::count_ones`. -/
def countOnes (word : UInt32) : Nat :=
  (List.range 32).countP fun bit => word.toNat.testBit bit

inductive OpenAccess where
  | readOnly
  | readWrite
  deriving DecidableEq, Repr

inductive FileKind where
  | mainDb
  | tempDb
  | transientDb
  | mainJournal
  | tempJournal
  | subJournal
  | superJournal
  | wal
  deriving DecidableEq, Repr

def fileKindMask : UInt32 :=
  SqliteOpen.mainDb ||| SqliteOpen.tempDb ||| SqliteOpen.transientDb ||| SqliteOpen.mainJournal |||
    SqliteOpen.tempJournal ||| SqliteOpen.subJournal ||| SqliteOpen.superJournal ||| SqliteOpen.wal

structure OpenOptions where
  rawFlags : UInt32
  deriving DecidableEq, Repr

namespace OpenOptions

def fromRawFlags (flags : UInt32) : Except VfsError OpenOptions :=
  let access := flags &&& (SqliteOpen.readonly ||| SqliteOpen.readwrite)
  if ¬ (access = SqliteOpen.readonly ∨ access = SqliteOpen.readwrite)
      ∨ (flags &&& SqliteOpen.create ≠ 0 ∧ access ≠ SqliteOpen.readwrite)
      ∨ (flags &&& SqliteOpen.exclusive ≠ 0 ∧ flags &&& SqliteOpen.create = 0)
      ∨ (flags &&& SqliteOpen.deleteOnClose ≠ 0 ∧ flags &&& SqliteOpen.create = 0)
      ∨ 1 < countOnes (flags &&& fileKindMask) then
    .error (VfsError.new .cantOpen "invalid SQLite open flags")
  else .ok ⟨flags⟩

def access (options : OpenOptions) : OpenAccess :=
  if options.rawFlags &&& SqliteOpen.readonly ≠ 0 then .readOnly else .readWrite

def kind (options : OpenOptions) : Option FileKind :=
  let bits := options.rawFlags &&& fileKindMask
  if bits = SqliteOpen.mainDb then some .mainDb
  else if bits = SqliteOpen.tempDb then some .tempDb
  else if bits = SqliteOpen.transientDb then some .transientDb
  else if bits = SqliteOpen.mainJournal then some .mainJournal
  else if bits = SqliteOpen.tempJournal then some .tempJournal
  else if bits = SqliteOpen.subJournal then some .subJournal
  else if bits = SqliteOpen.superJournal then some .superJournal
  else if bits = SqliteOpen.wal then some .wal
  else none

def create (options : OpenOptions) : Bool := options.rawFlags &&& SqliteOpen.create ≠ 0

def exclusive (options : OpenOptions) : Bool := options.rawFlags &&& SqliteOpen.exclusive ≠ 0

def deleteOnClose (options : OpenOptions) : Bool :=
  options.rawFlags &&& SqliteOpen.deleteOnClose ≠ 0

end OpenOptions

structure OpenRequest where
  filename : Option String
  options : OpenOptions
  deriving DecidableEq, Repr

end SqliteVfs
