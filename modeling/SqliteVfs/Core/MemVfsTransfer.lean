import SqliteVfs.Core.MemVfs
import SqliteVfs.Core.TransferStore

/-!
# Transfers of the memory VFS

With memory to spare, the memory VFS takes every image that fits its address space under
every new valid name: it is an `ImportStore`.
-/

set_option autoImplicit false

namespace SqliteVfs

namespace MemVfs

variable (bits : Nat) (alloc : Nat → Nat → Bool)

def imageOf (s : MemAppData) (name : String) : Option (List UInt8) :=
  (s.files.lookup name).bind fun file => (s.cells[file]?).map MemChunksFile.contents

/-- Every file that lives is well formed, and every name maps to one that does. -/
structure Sound (s : MemAppData) : Prop where
  wellFormed : ∀ content ∈ s.cells, MemChunksFile.WellFormed bits content
  mapped : ∀ name file, s.files.lookup name = some file → file < s.cells.length

variable {bits alloc}

theorem imageOf_mapped {s : MemAppData} {name : String} {file : Nat} {content : MemChunksFile}
    (mapped : s.files.lookup name = some file) (found : s.cells[file]? = some content) :
    imageOf s name = some content.contents := by
  unfold imageOf
  rw [mapped, Option.bind_some, found, Option.map_some]

theorem onFile_run {α : Type} {file : Nat} {x : FileM α} {s : MemAppData}
    {content content' : MemChunksFile} {outcome : Outcome VfsError α}
    (found : s.cells[file]? = some content) (run : x.run content = (outcome, content')) :
    (onFile file x).run s = (outcome, { s with cells := s.cells.set file content' }) := by
  unfold onFile
  simp only [found, run]

/-- Replacing a living file by a well formed one keeps every file sound. -/
theorem Sound.set {s : MemAppData} (sound : Sound bits s) (file : Nat) {content : MemChunksFile}
    (wf : MemChunksFile.WellFormed bits content) (writes : Nat) :
    Sound bits { s with cells := s.cells.set file content, writes := writes } where
  wellFormed other member := by
    rcases List.mem_or_eq_of_mem_set member with member | rfl
    · exact sound.wellFormed other member
    · exact wf
  mapped name other found := by
    rw [List.length_set]
    exact sound.mapped name other found

theorem writeFile_run {s : MemAppData} (sound : Sound bits s) {file offset : Nat}
    {content : MemChunksFile} (found : s.cells[file]? = some content) (buf : List UInt8)
    (granted : ∀ call request, alloc call request = true)
    (inside : offset ≤ content.contents.length)
    (fits : offset + buf.length < 2 ^ bits) (width : bits ≤ 64) :
    ∃ content', (writeFile bits alloc file buf offset).run s =
        (.ok (), { s with cells := s.cells.set file content', writes := s.writes + 1 }) ∧
      MemChunksFile.WellFormed bits content' ∧
      content'.contents = SparseVector.writeAt content.contents offset buf := by
  have wf := sound.wellFormed content (List.mem_of_getElem? found)
  have range : offset < 2 ^ 64 :=
    (by omega : offset < 2 ^ bits).trans_le (Nat.pow_le_pow_right (by decide) width)
  have offset_eq : (UInt64.ofNat offset).toNat = offset := by
    simpa using Nat.mod_eq_of_lt range
  have cases := MemChunksFile.write_cases wf (alloc s.writes) buf (UInt64.ofNat offset)
  rw [offset_eq] at cases
  unfold writeFile
  rw [Prog.get_bind, Prog.modify_bind]
  rcases cases with ⟨rfl, run⟩ | ⟨-, far, -⟩ | ⟨-, -, ⟨request, refused⟩, -⟩ |
    ⟨-, -, content', run, wf', -, contents⟩
  · exact ⟨content, onFile_run found run, wf, (SparseVector.writeAt_nil _ _ inside).symm⟩
  · omega
  · rw [granted] at refused
    exact nomatch refused
  · exact ⟨content', onFile_run found run, wf', contents⟩

theorem wellFormed_fresh (bits : Nat) :
    MemChunksFile.WellFormed bits (⟨[], some 4096, 0⟩ : MemChunksFile) ∧
      MemChunksFile.contents ⟨[], some 4096, 0⟩ = [] :=
  ⟨MemChunksFile.wellFormed_new (c := 4096) rfl, rfl⟩

theorem Sound.allocate {s : MemAppData} (sound : Sound bits s) {content : MemChunksFile}
    (wf : MemChunksFile.WellFormed bits content) :
    Sound bits { s with cells := s.cells ++ [content] } where
  wellFormed other member := by
    rcases List.mem_append.mp member with member | member
    · exact sound.wellFormed other member
    · rw [List.mem_singleton.mp member]
      exact wf
  mapped name file found := by
    have := sound.mapped name file found
    rw [List.length_append]
    omega

theorem Sound.insert {s : MemAppData} (sound : Sound bits s) {name : String} {file : Nat}
    (living : file < s.cells.length) :
    Sound bits { s with files := s.files.insert name file } where
  wellFormed := sound.wellFormed
  mapped other found member := by
    dsimp only at member
    by_cases same : other = name
    · subst same
      rw [AList.lookup_insert] at member
      cases member
      exact living
    · rw [AList.lookup_insert_ne same] at member
      exact sound.mapped other found member

theorem createImport_run {s : MemAppData} {name : String} {size : Nat}
    (valid : validateDbFilename name = .ok ()) (fits : size < 2 ^ bits) (vacant : name ∉ s.files) :
    (createImport bits alloc name size).run s =
      (.ok (importTarget bits alloc name s.cells.length),
        { s with cells := s.cells ++ [⟨[], some 4096, 0⟩] }) := by
  unfold createImport
  rw [valid, Prog.ofExcept_ok, Prog.pure_bind, Prog.get_bind, if_neg vacant, if_neg (by omega)]
  rfl

theorem commit_run {s : MemAppData} {name : String} {file : Nat} (vacant : name ∉ s.files) :
    (importTarget bits alloc name file).commit.run s =
      (.ok (), { s with files := s.files.insert name file }) := by
  unfold importTarget
  dsimp only
  rw [Prog.get_bind, if_neg vacant]
  rfl

def importStore (name : String) (size : Nat) (valid : validateDbFilename name = .ok ())
    (granted : ∀ call request, alloc call request = true) (width : bits ≤ 64)
    (fits : size < 2 ^ bits) : ImportStore (transfers bits alloc) name size where
  Importable s := Sound bits s ∧ name ∉ s.files
  Pending target s image := ∃ file content, target = importTarget bits alloc name file ∧
    Sound bits s ∧ name ∉ s.files ∧ s.cells[file]? = some content ∧ content.contents = image
  Published s image := Sound bits s ∧ imageOf s name = some image
  unpublished s image importable published := by
    have absent := published.2
    unfold imageOf at absent
    rw [AList.lookup_eq_none.mpr importable.2] at absent
    exact nomatch absent
  unique s image other first second := Option.some.inj (first.2.symm.trans second.2)
  createImport s importable := by
    obtain ⟨sound, vacant⟩ := importable
    refine ⟨_, _, createImport_run valid fits vacant, s.cells.length, _, rfl,
      sound.allocate (wellFormed_fresh bits).1, vacant, ?_, (wellFormed_fresh bits).2⟩
    simp
  writeAt target s image offset bytes pending inside within := by
    obtain ⟨file, content, rfl, sound, vacant, found, rfl⟩ := pending
    obtain ⟨content', run, wf, contents⟩ := writeFile_run sound found bytes granted inside
      (by omega) width
    refine ⟨_, Prog.mapErr_ok_iff.mpr run, file, content', rfl, sound.set file wf _, vacant, ?_,
      contents⟩
    rw [List.getElem?_set_self (List.getElem?_eq_some_iff.mp found).1]
  commit target s image pending whole := by
    obtain ⟨file, content, rfl, sound, vacant, found, rfl⟩ := pending
    have living := (List.getElem?_eq_some_iff.mp found).1
    refine ⟨_, commit_run vacant, sound.insert living, ?_⟩
    exact imageOf_mapped (AList.lookup_insert _) found
  abortWithError target s image error pending := by
    obtain ⟨file, content, rfl, sound, vacant, found, rfl⟩ := pending
    exact ⟨s, rfl, sound, vacant⟩

theorem mapped_of_imageOf {s : MemAppData} {name : String} {image : List UInt8}
    (published : imageOf s name = some image) :
    ∃ file, s.files.lookup name = some file ∧
      ∃ content, s.cells[file]? = some content ∧ content.contents = image := by
  unfold imageOf at published
  obtain ⟨file, mapped, rest⟩ := Option.bind_eq_some_iff.mp published
  obtain ⟨content, found, contents⟩ := Option.map_eq_some_iff.mp rest
  exact ⟨file, mapped, content, found, contents⟩

theorem onFile_pure {α : Type} {file : Nat} {x : FileM α} {s : MemAppData}
    {content : MemChunksFile} {outcome : Outcome VfsError α}
    (found : s.cells[file]? = some content) (run : x.run content = (outcome, content)) :
    (onFile file x).run s = (outcome, s) := by
  rw [onFile_run found run]
  obtain ⟨living, rfl⟩ := List.getElem?_eq_some_iff.mp found
  rw [List.set_getElem_self]

end MemVfs

end SqliteVfs
