import SqliteVfs.Sahpool.Worker

/-!
# Directories in their one spelling

`normalize_directory` keeps the components of a path and drops everything else of it, and
`OpfsSAHPool::new` splits the result again to walk down from the root of OPFS.
-/

set_option autoImplicit false

namespace SqliteVfs

/-! ## Splitting -/

section Splitting

variable {α : Type} [BEq α] [LawfulBEq α] {separator : α}

theorem not_mem_of_mem_splitOn {text part : List α} (mem : part ∈ text.splitOn separator) :
    separator ∉ part := by
  induction text generalizing part with
  | nil =>
    rw [List.splitOn_nil, List.mem_singleton] at mem
    subst mem
    exact List.not_mem_nil
  | cons first rest ih =>
    rw [List.splitOn_cons_eq_if_modifyHead] at mem
    by_cases same : (first == separator) = true
    · rw [if_pos same] at mem
      rcases List.mem_cons.mp mem with rfl | mem
      · exact List.not_mem_nil
      · exact ih mem
    · rw [if_neg same] at mem
      obtain ⟨head, tail, split⟩ := List.exists_cons_of_ne_nil (List.splitOn_ne_nil separator rest)
      rw [split, List.modifyHead_cons] at mem
      rcases List.mem_cons.mp mem with rfl | mem
      · have headFree := ih (split ▸ List.mem_cons_self)
        intro inside
        rcases List.mem_cons.mp inside with rfl | inside
        · exact same (beq_self_eq_true _)
        · exact headFree inside
      · exact ih (split ▸ List.mem_cons_of_mem _ mem)

theorem nil_mem_splitOn_cons (rest : List α) : [] ∈ (separator :: rest).splitOn separator := by
  have split := List.splitOn_append_cons_self (a := separator) [] rest
  rw [List.nil_append, List.splitOn_nil] at split
  rw [split]
  exact List.mem_append_left _ (List.mem_singleton.mpr rfl)

theorem mem_splitOn_right {part rest : List α} (text : List α)
    (mem : part ∈ rest.splitOn separator) :
    part ∈ (text ++ separator :: rest).splitOn separator := by
  rw [List.splitOn_append_cons_self]
  exact List.mem_append_right _ mem

end Splitting

namespace Sahpool

def components (directory : String) : List (List Char) :=
  (directory.toList.splitOn '/').filter (· ≠ [])

/-- A component that `normalize_directory` takes. -/
def PlainName (part : List Char) : Prop :=
  part ≠ ['.'] ∧ part ≠ ['.', '.'] ∧ Char.ofNat 0 ∉ part

structure Tidy (directory : String) : Prop where
  leading : directory.toList.head? ≠ some '/'
  trailing : directory.toList.getLast? ≠ some '/'
  doubled : ¬ ['/', '/'] <:+: directory.toList

/-! ## The walk -/

/-- A directory of OPFS, by the names on the way to it. -/
abbrev DirectoryHandle : Type := List String

/-- What is no name of a file is refused, and a directory that is missing is created. -/
def getDirectoryHandle (handle : DirectoryHandle) (name : String) : Option DirectoryHandle :=
  if name = "" ∨ name = "." ∨ name = ".." ∨ '/' ∈ name.toList then none
  else some (handle ++ [name])

/-- The way of `OpfsSAHPool::new` from the root. -/
def walk (directory : String) : Option DirectoryHandle :=
  ((directory.toList.splitOn '/').map String.ofList).foldlM getDirectoryHandle []

/-! ## Components -/

theorem mem_components {directory : String} {part : List Char}
    (mem : part ∈ components directory) : part ≠ [] ∧ '/' ∉ part := by
  obtain ⟨among, nonempty⟩ := List.mem_filter.mp mem
  exact ⟨of_decide_eq_true nonempty, not_mem_of_mem_splitOn among⟩

theorem normalizeDirectory_eq (directory : String) :
    normalizeDirectory directory =
      if components directory = [] ∨
          ∃ part ∈ components directory, part = ['.'] ∨ part = ['.', '.'] ∨ Char.ofNat 0 ∈ part
      then .error .invalidDirectory
      else .ok (String.ofList (['/'].intercalate (components directory))) := rfl

theorem normalizeDirectory_ok_iff {directory normalized : String} :
    normalizeDirectory directory = .ok normalized ↔
      (components directory ≠ [] ∧ ∀ part ∈ components directory, PlainName part) ∧
        normalized = String.ofList (['/'].intercalate (components directory)) := by
  rw [normalizeDirectory_eq]
  have accepted : ¬ (components directory = [] ∨
      ∃ part ∈ components directory, part = ['.'] ∨ part = ['.', '.'] ∨ Char.ofNat 0 ∈ part) ↔
      components directory ≠ [] ∧ ∀ part ∈ components directory, PlainName part := by
    simp only [PlainName, not_or, not_exists, not_and, ne_eq]
  by_cases refused : components directory = [] ∨
      ∃ part ∈ components directory, part = ['.'] ∨ part = ['.', '.'] ∨ Char.ofNat 0 ∈ part
  · rw [if_pos refused]
    constructor
    · intro equal
      cases equal
    · rintro ⟨taken, -⟩
      exact absurd refused (accepted.mpr taken)
  · rw [if_neg refused]
    constructor
    · intro equal
      cases equal
      exact ⟨accepted.mp refused, rfl⟩
    · rintro ⟨-, rfl⟩
      rfl

theorem splitOn_normalized {directory normalized : String}
    (run : normalizeDirectory directory = .ok normalized) :
    normalized.toList.splitOn '/' = components directory := by
  obtain ⟨⟨nonempty, -⟩, rfl⟩ := normalizeDirectory_ok_iff.mp run
  rw [String.toList_ofList]
  exact List.splitOn_intercalate '/' (fun part mem => (mem_components mem).2) nonempty

theorem components_normalized {directory normalized : String}
    (run : normalizeDirectory directory = .ok normalized) :
    components normalized = components directory := by
  unfold components
  rw [splitOn_normalized run]
  refine List.filter_eq_self.mpr ?_
  intro part mem
  exact decide_eq_true (mem_components mem).1

theorem normalized_nonempty {directory normalized : String}
    (run : normalizeDirectory directory = .ok normalized) :
    [] ∉ normalized.toList.splitOn '/' := by
  intro mem
  rw [splitOn_normalized run] at mem
  exact (mem_components mem).1 rfl

theorem normalized_tidy {directory normalized : String}
    (run : normalizeDirectory directory = .ok normalized) : Tidy normalized := by
  have nonempty := normalized_nonempty run
  constructor
  · intro leading
    obtain ⟨rest, text⟩ := List.head?_eq_some_iff.mp leading
    rw [text] at nonempty
    exact nonempty (nil_mem_splitOn_cons rest)
  · intro trailing
    obtain ⟨front, text⟩ := List.getLast?_eq_some_iff.mp trailing
    rw [text] at nonempty
    refine nonempty (mem_splitOn_right front ?_)
    rw [List.splitOn_nil]
    exact List.mem_singleton.mpr rfl
  · rintro ⟨front, rest, text⟩
    rw [List.append_assoc] at text
    rw [← text] at nonempty
    exact nonempty (mem_splitOn_right front (nil_mem_splitOn_cons rest))

theorem normalizeDirectory_idem {directory normalized : String}
    (run : normalizeDirectory directory = .ok normalized) :
    normalizeDirectory normalized = .ok normalized := by
  have same := components_normalized run
  obtain ⟨taken, joined⟩ := normalizeDirectory_ok_iff.mp run
  refine normalizeDirectory_ok_iff.mpr ?_
  rw [same]
  exact ⟨taken, joined⟩

/-- The walk takes each name it comes to, so its end tells the names. -/
theorem foldlM_getDirectoryHandle {parts : List (List Char)} (handle : DirectoryHandle)
    (taken : ∀ part ∈ parts, PlainName part) (plain : ∀ part ∈ parts, part ≠ [] ∧ '/' ∉ part) :
    (parts.map String.ofList).foldlM getDirectoryHandle handle =
      some (handle ++ parts.map String.ofList) := by
  induction parts generalizing handle with
  | nil =>
    rw [List.map_nil, List.append_nil]
    rfl
  | cons part rest ih =>
    obtain ⟨dot, dots, -⟩ := taken part List.mem_cons_self
    obtain ⟨nonempty, slashFree⟩ := plain part List.mem_cons_self
    have named : ¬ (String.ofList part = "" ∨ String.ofList part = "." ∨
        String.ofList part = ".." ∨ '/' ∈ (String.ofList part).toList) := by
      simp only [← String.toList_inj, String.toList_ofList]
      rintro (empty | one | two | slash)
      · exact nonempty empty
      · exact dot one
      · exact dots two
      · exact slashFree slash
    have step : getDirectoryHandle handle (String.ofList part) =
        some (handle ++ [String.ofList part]) := if_neg named
    rw [List.map_cons, List.foldlM_cons, step]
    have restTaken := fun other mem => taken other (List.mem_cons_of_mem part mem)
    have restPlain := fun other mem => plain other (List.mem_cons_of_mem part mem)
    have walked := ih (handle ++ [String.ofList part]) restTaken restPlain
    rw [List.append_assoc] at walked
    exact walked

theorem walk_normalized {directory normalized : String}
    (run : normalizeDirectory directory = .ok normalized) :
    walk normalized = some ((components directory).map String.ofList) := by
  obtain ⟨⟨-, taken⟩, -⟩ := normalizeDirectory_ok_iff.mp run
  unfold walk
  rw [splitOn_normalized run]
  exact foldlM_getDirectoryHandle [] taken fun part mem => mem_components mem

theorem normalized_eq_iff {directory other normalized normalizedOther : String}
    (run : normalizeDirectory directory = .ok normalized)
    (runOther : normalizeDirectory other = .ok normalizedOther) :
    normalized = normalizedOther ↔ components directory = components other := by
  constructor
  · intro equal
    rw [← components_normalized run, ← components_normalized runOther, equal]
  · intro equal
    rw [(normalizeDirectory_ok_iff.mp run).2, (normalizeDirectory_ok_iff.mp runOther).2, equal]

theorem walk_eq_iff {directory other normalized normalizedOther : String}
    (run : normalizeDirectory directory = .ok normalized)
    (runOther : normalizeDirectory other = .ok normalizedOther) :
    walk normalized = walk normalizedOther ↔ components directory = components other := by
  rw [walk_normalized run, walk_normalized runOther, Option.some_inj]
  exact List.map_inj_right fun _ _ equal => String.ofList_injective equal

/-- Accepted spellings are compared as the directories they lead to. -/
theorem normalizeDirectory_canonical :
    (∀ directory : String, (∃ normalized, normalizeDirectory directory = .ok normalized) ↔
      components directory ≠ [] ∧ ∀ part ∈ components directory,
        part ≠ ['.'] ∧ part ≠ ['.', '.'] ∧ Char.ofNat 0 ∉ part) ∧
    (∀ directory normalized : String, normalizeDirectory directory = .ok normalized →
      Tidy normalized ∧ normalizeDirectory normalized = .ok normalized ∧
        walk normalized = some ((components directory).map String.ofList)) ∧
    ∀ directory other normalized normalizedOther : String,
      normalizeDirectory directory = .ok normalized →
      normalizeDirectory other = .ok normalizedOther →
        (normalized = normalizedOther ↔ components directory = components other) ∧
        (normalized = normalizedOther ↔ walk normalized = walk normalizedOther) := by
  refine ⟨?_, ?_, ?_⟩
  · intro directory
    constructor
    · rintro ⟨normalized, run⟩
      exact (normalizeDirectory_ok_iff.mp run).1
    · intro taken
      exact ⟨_, normalizeDirectory_ok_iff.mpr ⟨taken, rfl⟩⟩
  · intro directory normalized run
    exact ⟨normalized_tidy run, normalizeDirectory_idem run, walk_normalized run⟩
  · intro directory other normalized normalizedOther run runOther
    have spelled := normalized_eq_iff run runOther
    exact ⟨spelled, spelled.trans (walk_eq_iff run runOther).symm⟩

theorem normalizeDirectory_canonical_slashes :
    normalizeDirectory "/vfs//pool/" = .ok "vfs/pool" ∧
      walk "vfs/pool" = some ["vfs", "pool"] ∧
      ("vfs/pool" = "vfs/pool" ↔ components "/vfs//pool/" = components "vfs/pool") := by
  have run : normalizeDirectory "/vfs//pool/" = .ok "vfs/pool" := by decide
  have runOther : normalizeDirectory "vfs/pool" = .ok "vfs/pool" := by decide
  have walked := (normalizeDirectory_canonical.2.1 _ _ run).2.2
  refine ⟨run, ?_, (normalizeDirectory_canonical.2.2 _ _ _ _ run runOther).1⟩
  rw [walked]
  decide

end Sahpool

end SqliteVfs
