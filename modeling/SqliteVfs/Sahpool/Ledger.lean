import SqliteVfs.Sahpool.Pool
import SqliteVfs.Sahpool.SlotState

/-!
# The ledger of a pool

What the pool is for: a namespace in which every file is its own byte array.  `Entry` is
the state of one name there.  The ledger adds which slot stands for which name, which one
an import is filling, and whether the directory has been read.  `Disk` and `Rep` say that
a directory and a pool are faithful to a ledger; both are stated slot by slot, and the
rest of the development only asks how an operation moves the ledger.
-/

set_option autoImplicit false

namespace SqliteVfs

namespace Sahpool

/-- A name of the namespace.  A file is `temporary` if loading the directory drops it, and
`durable` if no crash does.  After a failure a name may be left `uncertain`: it is absent,
or it has these bytes. -/
inductive Entry where
  | absent
  | present (temporary durable : Bool) (data : List UInt8)
  | uncertain (data : List UInt8)
  deriving DecidableEq

namespace Entry

def data : Entry → List UInt8
  | absent => []
  | present _ _ data => data
  | uncertain data => data

def map (f : List UInt8 → List UInt8) : Entry → Entry
  | absent => absent
  | present temporary durable data => present temporary durable (f data)
  | uncertain data => uncertain data

theorem map_id (entry : Entry) : entry.map id = entry := by
  cases entry <;> rfl

def Matches (mode : Mode) (name : String) : Entry → SlotFile → Prop
  | absent, _ => False
  | present temporary durable data, file => Named mode name temporary durable data file
  | uncertain data, file => Unclear mode name data file

theorem Matches.unclear {mode : Mode} {name : String} {entry : Entry} {file : SlotFile}
    (holds : entry.Matches mode name file) : Unclear mode name entry.data file := by
  cases entry with
  | absent => exact holds.elim
  | present temporary durable data => exact Named.unclear holds
  | uncertain data => exact holds

end Entry

structure Ledger where
  entry : String → Entry
  /-- The name that a slot stands for. -/
  owner : String → Option String
  /-- The slot that an import fills, with its bytes so far. -/
  staging : Option (String × List UInt8)
  /-- Whether the ledger accounts for the directory. -/
  known : Bool
  /-- Whether the pool holds the slots. -/
  loaded : Bool

namespace Ledger

variable (ledger : Ledger)

def setEntry (name : String) (entry : Entry) : Ledger :=
  { ledger with entry := Function.update ledger.entry name entry }

def setOwner (file : String) (owner : Option String) : Ledger :=
  { ledger with owner := Function.update ledger.owner file owner }

def unstage : Ledger := { ledger with staging := none }

def assign (name file : String) (entry : Entry) : Ledger :=
  ((ledger.setEntry name entry).setOwner file (some name)).unstage

def remove (name file : String) : Ledger := (ledger.setEntry name .absent).setOwner file none

def doubt (name : String) : Ledger :=
  ledger.setEntry name (.uncertain (ledger.entry name).data)

def write (name : String) (offset : Nat) (bytes : List UInt8) : Ledger :=
  if bytes = [] then ledger
  else ledger.setEntry name
    ((ledger.entry name).map fun data => SparseVector.writeAt data offset bytes)

def resize (name : String) (size : Nat) : Ledger :=
  ledger.setEntry name ((ledger.entry name).map fun data => SparseVector.resize data size)

def stage (file : String) (data : List UInt8) : Ledger :=
  { ledger with staging := some (file, data) }

def forget : Ledger := { ledger with entry := fun _ => .absent }

def release : Ledger := { ledger with loaded := false, staging := none }

end Ledger

/-! ## Directories -/

def Represents (mode : Mode) (ledger : Ledger) (file : String) (content : SlotFile) : Prop :=
  match ledger.owner file with
  | none => Blank mode content
  | some name => (ledger.entry name).Matches mode name content

structure Disk (mode : Mode) (directory : AList fun _ : String => SlotFile) (ledger : Ledger) :
    Prop where
  slot : ∀ file content, directory.lookup file = some content →
    Represents mode ledger file content
  inside : ∀ file name, ledger.owner file = some name → file ∈ directory
  injective : ∀ file other name, ledger.owner file = some name → ledger.owner other = some name →
    file = other
  kept : ∀ name temporary durable data, ledger.entry name = .present temporary durable data →
    ∃ file, ledger.owner file = some name

variable {mode : Mode} {directory : AList fun _ : String => SlotFile} {ledger : Ledger}
  {file name : String} {content : SlotFile}

theorem Represents.blank (represents : Represents mode ledger file content)
    (unowned : ledger.owner file = none) : Blank mode content := by
  unfold Represents at represents
  rw [unowned] at represents
  exact represents

theorem Represents.holds (represents : Represents mode ledger file content)
    (owned : ledger.owner file = some name) : (ledger.entry name).Matches mode name content := by
  unfold Represents at represents
  rw [owned] at represents
  exact represents

theorem represents_blank (unowned : ledger.owner file = none) (blank : Blank mode content) :
    Represents mode ledger file content := by
  unfold Represents
  rw [unowned]
  exact blank

theorem represents_owned (owned : ledger.owner file = some name)
    (holds : (ledger.entry name).Matches mode name content) :
    Represents mode ledger file content := by
  unfold Represents
  rw [owned]
  exact holds

namespace Disk

theorem exists_content (disk : Disk mode directory ledger) (owned : ledger.owner file = some name) :
    ∃ content, directory.lookup file = some content ∧
      (ledger.entry name).Matches mode name content := by
  obtain ⟨content, found⟩ := Option.isSome_iff_exists.mp
    (AList.lookup_isSome.mpr (disk.inside file name owned))
  exact ⟨content, found, (disk.slot file content found).holds owned⟩

/-- One slot changes, with its owner and the entries that no other slot stands for. -/
theorem insert (disk : Disk mode directory ledger) {ledger' : Ledger}
    (owners : ∀ other, other ≠ file → ledger'.owner other = ledger.owner other)
    (entries : ∀ other name, other ≠ file → ledger.owner other = some name →
      ledger'.entry name = ledger.entry name)
    (unique : ∀ name other, ledger'.owner file = some name → other ≠ file →
      ledger.owner other ≠ some name)
    (kept : ∀ name temporary durable data, ledger'.entry name = .present temporary durable data →
      ∃ file, ledger'.owner file = some name)
    (represents : Represents mode ledger' file content) :
    Disk mode (directory.insert file content) ledger' where
  slot other found here := by
    by_cases same : other = file
    · subst same
      rw [AList.lookup_insert] at here
      cases here
      exact represents
    · rw [AList.lookup_insert_ne same] at here
      have before := disk.slot other found here
      unfold Represents at before ⊢
      rw [owners other same]
      rcases owned : ledger.owner other with _ | name
      · rw [owned] at before
        exact before
      · rw [owned] at before
        dsimp only at before ⊢
        rw [entries other name same owned]
        exact before
  inside other name owned := by
    by_cases same : other = file
    · exact (AList.mem_insert _).mpr (.inl same)
    · rw [owners other same] at owned
      exact (AList.mem_insert _).mpr (.inr (disk.inside other name owned))
  injective first second name owned owned' := by
    by_cases same : first = file
    · by_cases same' : second = file
      · exact same.trans same'.symm
      · rw [owners second same'] at owned'
        exact absurd owned' (unique name second (same ▸ owned) same')
    · by_cases same' : second = file
      · rw [owners first same] at owned
        exact absurd owned (unique name first (same' ▸ owned') same)
      · rw [owners first same] at owned
        rw [owners second same'] at owned'
        exact disk.injective first second name owned owned'
  kept := kept

theorem blank (disk : Disk mode directory ledger) (unowned : ledger.owner file = none)
    (blank : Blank mode content) : Disk mode (directory.insert file content) ledger :=
  disk.insert (fun _ _ => rfl) (fun _ _ _ _ => rfl)
    (fun _ _ owned => nomatch unowned.symm.trans owned) disk.kept
    (represents_blank unowned blank)

theorem setEntry (disk : Disk mode directory ledger) (owned : ledger.owner file = some name)
    {entry : Entry} (holds : entry.Matches mode name content) :
    Disk mode (directory.insert file content) (ledger.setEntry name entry) := by
  refine disk.insert (fun _ _ => rfl) ?_ ?_ ?_ ?_
  · intro other name' different owned'
    have : name' ≠ name := fun same => different (disk.injective other file name
      (same ▸ owned') owned)
    exact Function.update_of_ne this _ _
  · intro name' other owned' different owned''
    exact different (disk.injective other file name' owned'' owned')
  · intro name' temporary durable data found
    by_cases same : name' = name
    · exact ⟨file, same ▸ owned⟩
    · refine disk.kept name' temporary durable data ?_
      rw [← found]
      exact (Function.update_of_ne same _ _).symm
  · refine represents_owned owned ?_
    have : (ledger.setEntry name entry).entry name = entry := Function.update_self _ _ _
    rw [this]
    exact holds

theorem assign (disk : Disk mode directory ledger) (unowned : ledger.owner file = none)
    (vacant : ∀ other, ledger.owner other ≠ some name) {entry : Entry}
    (holds : entry.Matches mode name content) :
    Disk mode (directory.insert file content) (ledger.assign name file entry) := by
  have others (other : String) (different : other ≠ file) :
      (ledger.assign name file entry).owner other = ledger.owner other :=
    Function.update_of_ne different _ _
  have here : (ledger.assign name file entry).owner file = some name := Function.update_self _ _ _
  refine disk.insert others ?_ ?_ ?_ ?_
  · intro other name' different owned
    have : name' ≠ name := fun same => vacant other (same ▸ owned)
    exact Function.update_of_ne this _ _
  · intro name' other owned different owned'
    rw [here] at owned
    cases owned
    exact vacant other owned'
  · intro name' temporary durable data found
    by_cases same : name' = name
    · exact ⟨file, same ▸ here⟩
    · have before : ledger.entry name' = .present temporary durable data := by
        rw [← found]
        exact (Function.update_of_ne same _ _).symm
      obtain ⟨other, owned⟩ := disk.kept name' temporary durable data before
      have different : other ≠ file := by
        rintro rfl
        exact nomatch unowned.symm.trans owned
      exact ⟨other, (others other different).trans owned⟩
  · refine represents_owned here ?_
    have : (ledger.assign name file entry).entry name = entry := Function.update_self _ _ _
    rw [this]
    exact holds

theorem remove (disk : Disk mode directory ledger) (owned : ledger.owner file = some name)
    (blank : Blank mode content) :
    Disk mode (directory.insert file content) (ledger.remove name file) := by
  have others (other : String) (different : other ≠ file) :
      (ledger.remove name file).owner other = ledger.owner other :=
    Function.update_of_ne different _ _
  have here : (ledger.remove name file).owner file = none := Function.update_self _ _ _
  refine disk.insert others ?_ ?_ ?_ (represents_blank here blank)
  · intro other name' different owned'
    have : name' ≠ name := fun same => different (disk.injective other file name
      (same ▸ owned') owned)
    exact Function.update_of_ne this _ _
  · intro name' other owned'
    exact nomatch here.symm.trans owned'
  · intro name' temporary durable data found
    have different : name' ≠ name := by
      rintro rfl
      have gone : (ledger.remove name' file).entry name' = .absent := Function.update_self _ _ _
      exact nomatch gone.symm.trans found
    have before : ledger.entry name' = .present temporary durable data := by
      rw [← found]
      exact (Function.update_of_ne different _ _).symm
    obtain ⟨other, owned'⟩ := disk.kept name' temporary durable data before
    have elsewhere : other ≠ file := by
      rintro rfl
      exact different (Option.some.inj (owned'.symm.trans owned))
    exact ⟨other, (others other elsewhere).trans owned'⟩

/-- A slot gives up a name that was uncertain anyway. -/
theorem abandon (disk : Disk mode directory ledger)
    (unsure : ∀ name, ledger.owner file = some name → ∃ data, ledger.entry name = .uncertain data)
    (blank : Blank mode content) :
    Disk mode (directory.insert file content) (ledger.setOwner file none) := by
  have others (other : String) (different : other ≠ file) :
      (ledger.setOwner file none).owner other = ledger.owner other :=
    Function.update_of_ne different _ _
  have here : (ledger.setOwner file none).owner file = none := Function.update_self _ _ _
  refine disk.insert others (fun _ _ _ _ => rfl) ?_ ?_ (represents_blank here blank)
  · intro name' other owned'
    exact nomatch here.symm.trans owned'
  · intro name' temporary durable data found
    obtain ⟨other, owned⟩ := disk.kept name' temporary durable data found
    have elsewhere : other ≠ file := by
      rintro rfl
      obtain ⟨data', uncertain⟩ := unsure name' owned
      exact nomatch uncertain.symm.trans found
    exact ⟨other, (others other elsewhere).trans owned⟩

theorem congr (disk : Disk mode directory ledger) {ledger' : Ledger}
    (owners : ledger'.owner = ledger.owner) (entries : ledger'.entry = ledger.entry) :
    Disk mode directory ledger' where
  slot other found here := by
    have before := disk.slot other found here
    unfold Represents at before ⊢
    rw [owners, entries]
    exact before
  inside := owners ▸ disk.inside
  injective := owners ▸ disk.injective
  kept := owners ▸ entries ▸ disk.kept

theorem create (disk : Disk mode directory ledger) (absent : file ∉ directory) :
    Disk mode (directory.insert file (Journal.settled [])) ledger := by
  refine disk.blank ?_ blank_created
  rcases owned : ledger.owner file with _ | name
  · rfl
  · exact absurd (disk.inside file name owned) absent

theorem erase (disk : Disk mode directory ledger) (unowned : ledger.owner file = none) :
    Disk mode (directory.erase file) ledger where
  slot other found here := by
    by_cases same : other = file
    · subst same
      rw [AList.lookup_erase] at here
      exact nomatch here
    · rw [AList.lookup_erase_ne same] at here
      exact disk.slot other found here
  inside other name owned := by
    refine AList.mem_erase.mpr ⟨?_, disk.inside other name owned⟩
    rintro rfl
    exact nomatch unowned.symm.trans owned
  injective := disk.injective
  kept := disk.kept

end Disk

/-! ## Pools -/

structure Rep (mode : Mode) (w : World) (ledger : Ledger) : Prop where
  allowed : ∀ reply ∈ w.env.replies, reply.Allowed mode
  disk : ledger.known = true → Disk mode w.directory ledger
  unknown : ledger.known = false → (∀ file, ledger.owner file = none) ∧ ledger.loaded = false
  unloaded : ledger.loaded = false → w.availableFiles = [] ∧ w.mapFilenameToFile = ∅ ∧
    w.quarantinedFiles = []
  nodup : (w.availableFiles ++ w.quarantinedFiles).Nodup
  mapped : ∀ name file, w.mapFilenameToFile.lookup name = some file →
    ledger.owner file = some name ∧ file ∉ w.quarantinedFiles
  owned : ledger.loaded = true → ∀ file name, ledger.owner file = some name →
    w.mapFilenameToFile.lookup name = some file ∨ file ∈ w.quarantinedFiles
  available : ∀ file ∈ w.availableFiles, ledger.owner file = none ∧
    ∃ content, w.directory.lookup file = some content ∧
      (Fresh content ∨ ∃ data, ledger.staging = some (file, data))
  guarded : ∀ staged, ledger.staging = some staged → w.busy = true
  staged : ∀ file data, ledger.staging = some (file, data) →
    w.availableFiles.getLast? = some file ∧
      ∃ content, w.directory.lookup file = some content ∧ Staged mode data content
  quarantined : ∀ file ∈ w.quarantinedFiles, w.needsRecovery = true ∧ file ∈ w.directory ∧
    ∀ name, ledger.owner file = some name → ∃ data, ledger.entry name = .uncertain data
  healthy : ledger.loaded = true → w.needsRecovery = false → ∀ name data,
    ledger.entry name ≠ .uncertain data
  opened : ∀ name file, w.mapFilenameToFile.lookup name = some file → w.openCount file ≠ 0 →
    ∃ temporary durable data, ledger.entry name = .present temporary durable data
  readable : ledger.loaded = true → ∀ file content, w.directory.lookup file = some content →
    ledger.owner file = none → file ∉ w.quarantinedFiles → stored content.contents = .ok none

end Sahpool

end SqliteVfs
