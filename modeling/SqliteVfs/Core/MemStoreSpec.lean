import SqliteVfs.Core.MemNamespace

/-!
# The memory VFS refines the namespace

`StoreSession.toNamespace` forgets the chunks.  `call_refines` is the simulation step and
`run_refines` the run.
-/

set_option autoImplicit false

namespace SqliteVfs

open MemVfs (Sound)

def MemAppData.inodes (s : MemAppData) : Inodes String Nat (List UInt8) where
  names name := s.files.lookup name
  contents file := (s.cells[file]?).map MemChunksFile.contents

def StoreSession.toNamespace (s : StoreSession) : Namespace :=
  ⟨s.data.inodes, s.handles, s.targets⟩

namespace MemAppData

variable {s : MemAppData} {name : String} {file : Nat} {content : MemChunksFile}

theorem inodes_fresh : s.inodes.contents s.cells.length = none := by
  unfold inodes
  dsimp only
  rw [List.getElem?_eq_none le_rfl, Option.map_none]

theorem inodes_allocate (content : MemChunksFile) :
    inodes { s with cells := s.cells ++ [content] } =
      s.inodes.hold s.cells.length content.contents := by
  unfold inodes Inodes.hold
  congr 1
  funext file
  dsimp only
  by_cases same : file = s.cells.length
  · subst same
    rw [Function.update_self, List.getElem?_append_right le_rfl, Nat.sub_self]
    rfl
  · rw [Function.update_of_ne same]
    by_cases old : file < s.cells.length
    · rw [List.getElem?_append_left old]
    · rw [List.getElem?_eq_none (by simp only [List.length_append, List.length_singleton]; omega),
        List.getElem?_eq_none (by omega)]

theorem inodes_set (found : s.cells[file]? = some content) (content' : MemChunksFile)
    (writes : Nat) :
    inodes { s with cells := s.cells.set file content', writes := writes } =
      s.inodes.hold file content'.contents := by
  unfold inodes Inodes.hold
  congr 1
  funext other
  dsimp only
  by_cases same : other = file
  · subst same
    rw [Function.update_self, List.getElem?_set_self (List.getElem?_eq_some_iff.mp found).1]
    rfl
  · rw [Function.update_of_ne same, List.getElem?_set_ne (Ne.symm same)]

theorem inodes_insert :
    inodes { s with files := s.files.insert name file } = s.inodes.bind name file := by
  unfold inodes Inodes.bind
  congr 1
  funext other
  dsimp only
  by_cases same : other = name
  · subst same
    rw [Function.update_self, AList.lookup_insert]
  · rw [Function.update_of_ne same, AList.lookup_insert_ne same]

theorem inodes_erase :
    inodes { s with files := s.files.erase name } = s.inodes.unbind name := by
  unfold inodes Inodes.unbind
  congr 1
  funext other
  dsimp only
  by_cases same : other = name
  · subst same
    rw [Function.update_self, AList.lookup_erase]
  · rw [Function.update_of_ne same, AList.lookup_erase_ne same]

theorem contents_eq_some {held : List UInt8} (present : s.inodes.contents file = some held) :
    ∃ content, s.cells[file]? = some content ∧ content.contents = held :=
  Option.map_eq_some_iff.mp present

theorem names_ne_none_iff : s.inodes.names name ≠ none ↔ name ∈ s.files.keys := by
  rw [← AList.mem_keys, ← AList.lookup_isSome, ← Option.isSome_iff_ne_none]
  rfl

end MemAppData

namespace MemVfs

variable {bits : Nat} {s : MemAppData}

theorem Sound.erase (sound : Sound bits s) (name : String) :
    Sound bits { s with files := s.files.erase name } where
  wellFormed := sound.wellFormed
  mapped other file found := by
    dsimp only at found
    by_cases same : other = name
    · subst same
      rw [AList.lookup_erase] at found
      exact nomatch found
    · rw [AList.lookup_erase_ne same] at found
      exact sound.mapped other file found

theorem Sound.clear (sound : Sound bits s) : Sound bits { s with files := ∅ } where
  wellFormed := sound.wellFormed
  mapped _ _ found := nomatch found

theorem wellFormed_default (bits : Nat) : MemChunksFile.WellFormed bits MemChunksFile.default :=
  MemChunksFile.wellFormed_new (c := 512) rfl

end MemVfs

namespace StoreSession

variable {bits : Nat} {alloc : Nat → Nat → Bool} {s : StoreSession} {ε α : Type}

structure Good (bits : Nat) (s : StoreSession) : Prop where
  sound : Sound bits s.data
  isolated : s.toNamespace.Isolated

/-- The call comes back, and a namespace of inodes may answer it so. -/
def Refines (bits : Nat) (s : StoreSession) (request : StoreRequest)
    (result : Option (StoreAnswer × StoreSession)) : Prop :=
  ∃ answer next, result = some (answer, next) ∧ Sound bits next.data ∧
    NamespaceStep bits s.toNamespace request answer next.toNamespace

theorem observe_ok {x : MemM ε α} {value : α} {data : MemAppData}
    (run : x.run s.data = (.ok value, data)) (failed : ε → StoreAnswer)
    (next : α → StoreSession → StoreAnswer × StoreSession) :
    s.observe x failed next = some (next value { s with data }) := by
  unfold observe
  rw [run]

theorem observe_err {x : MemM ε α} {error : ε} {data : MemAppData}
    (run : x.run s.data = (.err error, data)) (failed : ε → StoreAnswer)
    (next : α → StoreSession → StoreAnswer × StoreSession) :
    s.observe x failed next = some (failed error, { s with data }) := by
  unfold observe
  rw [run]

theorem Refines.intro {request : StoreRequest} {answer : StoreAnswer} {next : StoreSession}
    {last : Namespace} (sound : Sound bits next.data)
    (step : NamespaceStep bits s.toNamespace request answer last)
    (same : next.toNamespace = last) : Refines bits s request (some (answer, next)) := by
  subst same
  exact ⟨answer, next, rfl, sound, step⟩

/-! ## Opening and closing -/

theorem checkFilename_valid {name : String} (valid : ValidDbName name) :
    MemStore.checkFilename name = pure () := by
  unfold MemStore.checkFilename
  rw [valid]

theorem checkFilename_invalid {name : String} (invalid : ¬ ValidDbName name) :
    MemStore.checkFilename name = Prog.fail invalidDbName := by
  unfold MemStore.checkFilename
  rcases result : MemVfs.validateDbFilename name with error | ⟨⟩
  · rfl
  · exact absurd result invalid

theorem openFile_named {name : String} {options : OpenOptions} (data : MemAppData)
    (valid : options.kind = some .mainDb → ValidDbName name) :
    (MemStore.openFile ⟨some name, options⟩).run data =
      match data.files.lookup name with
      | some file =>
        if options.exclusive then (.err (MemStore.alreadyExists name), data)
        else (.ok (MemStore.openedFile file options), data)
      | none =>
        if options.create then
          (.ok (MemStore.openedFile data.cells.length options),
            { data with
              cells := data.cells ++
                [if options.kind = some .mainDb then .waitingForWrite else .default]
              files := data.files.insert name data.cells.length })
        else (.err (MemStore.notFound .cantOpen name), data) := by
  have checked : MemStore.openFile ⟨some name, options⟩ = MemStore.openNamed name options := by
    unfold MemStore.openFile
    dsimp only
    split
    · rw [checkFilename_valid (valid ‹_›), Prog.pure_bind]
    · rfl
  rw [checked]
  unfold MemStore.openNamed
  rw [Prog.get_bind]
  rcases data.files.lookup name with _ | file
  · dsimp only
    split <;> rfl
  · dsimp only
    split <;> rfl

theorem inodes_created (data : MemAppData) (name : String) (content : MemChunksFile) :
    MemAppData.inodes { data with
      cells := data.cells ++ [content]
      files := data.files.insert name data.cells.length } =
    (data.inodes.hold data.cells.length content.contents).bind name data.cells.length := by
  rw [← MemAppData.inodes_allocate, ← MemAppData.inodes_insert]

theorem open_refines (good : Good bits s) (request : OpenRequest) :
    Refines bits s (.openFile request) (call bits alloc s (.openFile request)) := by
  obtain ⟨filename, options⟩ := request
  have sound := good.sound
  have fresh : s.toNamespace.inodes.contents s.data.cells.length = none :=
    MemAppData.inodes_fresh
  unfold call
  dsimp only
  rcases filename with _ | name
  · have created : (MemStore.openFile ⟨none, options⟩).run s.data =
        (.ok (MemStore.openedFile s.data.cells.length options),
          { s.data with cells := s.data.cells ++ [.default] }) := rfl
    rw [observe_ok created]
    refine .intro (sound.allocate (MemVfs.wellFormed_default bits))
      (.openAnonymous options s.data.cells.length fresh) ?_
    unfold toNamespace
    rw [MemAppData.inodes_allocate]
    rfl
  · by_cases invalid : options.kind = some .mainDb ∧ ¬ ValidDbName name
    · have run : (MemStore.openFile ⟨some name, options⟩).run s.data =
          (.err invalidDbName, s.data) := by
        unfold MemStore.openFile
        dsimp only
        rw [if_pos invalid.1, checkFilename_invalid invalid.2]
        rfl
      rw [observe_err run]
      exact .intro sound (.openInvalid name options invalid.1 invalid.2) rfl
    · have valid : options.kind = some .mainDb → ValidDbName name := fun main =>
        not_not.mp fun wrong => invalid ⟨main, wrong⟩
      have run := openFile_named s.data valid
      rcases bound : s.data.files.lookup name with _ | file
      · rw [bound] at run
        dsimp only at run
        by_cases create : options.create = true
        · rw [if_pos create] at run
          rw [observe_ok run]
          have wellFormed : MemChunksFile.WellFormed bits
              (if options.kind = some .mainDb then .waitingForWrite else .default) := by
            split
            · exact MemChunksFile.wellFormed_waitingForWrite bits
            · exact MemVfs.wellFormed_default bits
          have created := sound.allocate wellFormed
          refine .intro (created.insert (by simp)) (.openCreated name options s.data.cells.length
            valid bound create fresh) ?_
          unfold toNamespace
          dsimp only
          rw [inodes_created]
          split <;> rfl
        · rw [if_neg create] at run
          rw [observe_err run]
          exact .intro sound (.openMissing name options valid bound (by simpa using create)) rfl
      · rw [bound] at run
        dsimp only at run
        by_cases exclusive : options.exclusive = true
        · rw [if_pos exclusive] at run
          rw [observe_err run]
          exact .intro sound (.openExclusive name options file valid bound exclusive) rfl
        · rw [if_neg exclusive] at run
          rw [observe_ok run]
          exact .intro sound (.openExisting name options file valid bound
            (by simpa using exclusive)) rfl

theorem close_refines (good : Good bits s) (handle : Nat) (name : Option String)
    (options : OpenOptions) :
    Refines bits s (.close handle name options)
    (call bits alloc s (.close handle name options)) := by
  have sound := good.sound
  unfold call
  dsimp only
  rcases live : s.handles.find handle with _ | found
  · exact .intro sound (.absentHandle handle _ (.inl ⟨name, options, rfl⟩) live) rfl
  · dsimp only
    rcases name with _ | name
    · have closed : (MemStore.closeFile none found.file options).run s.data =
        (.ok (), s.data) := rfl
      rw [observe_ok closed]
      exact .intro sound (.closeKeeping handle none options found live fun _ _ none => nomatch none)
        rfl
    · by_cases deleting : options.deleteOnClose = true ∧
          s.data.files.lookup name = some found.file.file
      · have run : (MemStore.closeFile (some name) found.file options).run s.data =
            (.ok (), { s.data with files := s.data.files.erase name }) := by
          unfold MemStore.closeFile
          dsimp only
          rw [if_pos deleting.1, Prog.modify_run, if_pos deleting.2]
        rw [observe_ok run]
        refine .intro (sound.erase name)
          (.closeDeleting handle name options found live deleting.1 deleting.2) ?_
        unfold toNamespace
        rw [MemAppData.inodes_erase]
      · have run : (MemStore.closeFile (some name) found.file options).run s.data =
            (.ok (), s.data) := by
          unfold MemStore.closeFile
          dsimp only
          split
          · rename_i deletes
            rw [Prog.modify_run, if_neg fun bound => deleting ⟨deletes, bound⟩]
          · rfl
        rw [observe_ok run]
        refine .intro sound (.closeKeeping handle (some name) options found live ?_) rfl
        rintro deletes own ⟨⟩ bound
        exact deleting ⟨deletes, bound⟩

/-! ## Bytes -/

theorem run_of_observe {α : Type} {x : FileM α} {shown : α → FileResult} {f f' : MemChunksFile}
    {result : FileResult} (observed : MemChunksFile.observe shown (x.run f) = some (result, f')) :
    (∃ value, x.run f = (.ok value, f') ∧ result = shown value) ∨
      ∃ error, x.run f = (.err error, f') ∧ result = .failed error := by
  rcases run : x.run f with ⟨value | error | why, last⟩
  · rw [run] at observed
    cases observed
    exact .inl ⟨value, rfl, rfl⟩
  · rw [run] at observed
    cases observed
    exact .inr ⟨error, rfl, rfl⟩
  · rw [run] at observed
    exact nomatch observed

theorem checkWritable_of {file : MemFileHandle} (writable : file.readOnly = false) :
    file.checkWritable = pure () := by
  unfold MemFileHandle.checkWritable
  rw [writable]
  rfl

theorem write_of_writable (bits : Nat) (alloc : Nat → Nat → Bool) {file : MemFileHandle}
    (writable : file.readOnly = false) (buf : List UInt8) (offset : UInt64) (data : MemAppData) :
    (file.write bits alloc buf offset).run data =
      (MemVfs.onFile file.file (MemChunksFile.write bits (alloc data.writes) buf offset)).run
        { data with writes := data.writes + 1 } := by
  unfold MemFileHandle.write MemVfs.writeFile
  rw [checkWritable_of writable, UInt64.ofNat_toNat]
  rfl

theorem truncate_of_writable (bits : Nat) {file : MemFileHandle} (writable : file.readOnly = false)
    (size : UInt64) (data : MemAppData) :
    (file.truncate bits size).run data =
      (MemVfs.onFile file.file (MemChunksFile.truncate bits size)).run data := by
  unfold MemFileHandle.truncate
  rw [checkWritable_of writable]
  rfl

theorem fileProgram_run {file : MemFileHandle} {data : MemAppData} {f f' : MemChunksFile}
    {request : FileRequest} {result : FileResult}
    (writable : request.changes = true → file.readOnly = false)
    (found : data.cells[file.file]? = some f)
    (called : MemChunksFile.call bits f (request, alloc data.writes) = some (result, f')) :
    ∃ writes data', data' = { data with cells := data.cells.set file.file f', writes := writes } ∧
      ((fileProgram bits alloc file request).run data = (.ok result, data') ∨
        ∃ error, result = .failed error ∧
          (fileProgram bits alloc file request).run data = (.err error, data')) := by
  cases request with
  | read buf offset =>
      refine ⟨data.writes, _, rfl, ?_⟩
      rcases run_of_observe called with ⟨⟨count, filled⟩, run, rfl⟩ | ⟨error, run, rfl⟩
      · exact .inl (Prog.bind_ok (MemVfs.onFile_run found run) _)
      · exact .inr ⟨error, rfl, Prog.bind_err (MemVfs.onFile_run found run) _⟩
  | write buf offset =>
      refine ⟨data.writes + 1, _, rfl, ?_⟩
      have written := write_of_writable bits alloc (writable rfl) buf offset data
      rcases run_of_observe called with ⟨value, run, rfl⟩ | ⟨error, run, rfl⟩
      · exact .inl (Prog.bind_ok (written.trans (MemVfs.onFile_run found run)) _)
      · exact .inr ⟨error, rfl, Prog.bind_err (written.trans (MemVfs.onFile_run found run)) _⟩
  | truncate size =>
      refine ⟨data.writes, _, rfl, ?_⟩
      have truncated := truncate_of_writable bits (writable rfl) size data
      rcases run_of_observe called with ⟨value, run, rfl⟩ | ⟨error, run, rfl⟩
      · exact .inl (Prog.bind_ok (truncated.trans (MemVfs.onFile_run found run)) _)
      · exact .inr ⟨error, rfl, Prog.bind_err (truncated.trans (MemVfs.onFile_run found run)) _⟩
  | size =>
      refine ⟨data.writes, _, rfl, ?_⟩
      rcases run_of_observe (x := MemChunksFile.size) called with
        ⟨bytes, run, rfl⟩ | ⟨error, run, rfl⟩
      · exact .inl (Prog.bind_ok (MemVfs.onFile_run found run) _)
      · exact .inr ⟨error, rfl, Prog.bind_err (MemVfs.onFile_run found run) _⟩

theorem io_refines (good : Good bits s) (handle : Nat) (request : FileRequest) :
    Refines bits s (.io handle request) (call bits alloc s (.io handle request)) := by
  unfold call
  dsimp only
  rcases live : s.handles.find handle with _ | found
  · exact .intro good.sound (.absentHandle handle _ (.inr ⟨request, rfl⟩) live) rfl
  · dsimp only
    by_cases readOnly : request.changes = true ∧ found.file.readOnly = true
    · have run : (fileProgram bits alloc found.file request).run s.data =
          (.err MemFileHandle.readOnlyError, s.data) := by
        have checked : found.file.checkWritable = Prog.fail MemFileHandle.readOnlyError :=
          if_pos readOnly.2
        cases request with
        | read | size => exact nomatch readOnly.1
        | write =>
            unfold fileProgram MemFileHandle.write
            rw [checked]
            rfl
        | truncate =>
            unfold fileProgram MemFileHandle.truncate
            rw [checked]
            rfl
      rw [observe_err run]
      exact .intro good.sound (.ioRefused handle request found live readOnly.2 readOnly.1) rfl
    · have writable : request.changes = true → found.file.readOnly = false := fun changes =>
        Bool.eq_false_iff.mpr fun only => readOnly ⟨changes, only⟩
      obtain ⟨held, present⟩ := Option.ne_none_iff_exists'.mp (good.isolated.held handle found live)
      obtain ⟨f, cell, rfl⟩ := MemAppData.contents_eq_some present
      obtain ⟨result, f', called, wf, step⟩ := MemChunksFile.step_refines
        (good.sound.wellFormed f (List.mem_of_getElem? cell)) (request, alloc s.data.writes)
      obtain ⟨writes, data', rfl, run⟩ := fileProgram_run writable cell called
      have observed : s.observe (fileProgram bits alloc found.file request) (.file ∘ .failed)
          (fun result s => (.file result, s)) = some (.file result, { s with
            data := { s.data with
              cells := s.data.cells.set found.file.file f', writes := writes } }) := by
        rcases run with run | ⟨error, rfl, run⟩
        · rw [observe_ok run]
        · rw [observe_err run]
          rfl
      rw [observed]
      refine .intro (good.sound.set _ wf writes) (.io handle request found (alloc s.data.writes)
        f.contents f'.contents result live writable present step) ?_
      unfold toNamespace
      rw [MemAppData.inodes_set cell]

/-! ## Names -/

theorem delete_refines (good : Good bits s) (name : String) :
    Refines bits s (.delete name) (call bits alloc s (.delete name)) := by
  unfold call
  dsimp only
  rcases bound : s.data.files.lookup name with _ | file
  · have run : (MemStore.deleteFile name).run s.data =
        (.err (MemStore.notFound .ioDelete name), s.data) := by
      unfold MemStore.deleteFile
      rw [Prog.get_bind, bound]
      rfl
    rw [observe_err run]
    exact .intro good.sound (.deleteMissing name bound) rfl
  · have run : (MemStore.deleteFile name).run s.data =
        (.ok (), { s.data with files := s.data.files.erase name }) := by
      unfold MemStore.deleteFile
      rw [Prog.get_bind, bound]
      rfl
    rw [observe_ok run]
    refine .intro (good.sound.erase name) (.delete name file bound) ?_
    unfold toNamespace
    rw [MemAppData.inodes_erase]

theorem remove_refines (good : Good bits s) (name : String) :
    Refines bits s (.remove name) (call bits alloc s (.remove name)) := by
  unfold call
  dsimp only
  have run : (MemVfsUtil.remove name).run s.data =
      (.ok (s.data.files.lookup name).isSome,
        { s.data with files := s.data.files.erase name }) := rfl
  rw [observe_ok run]
  refine .intro (good.sound.erase name) (.remove name) ?_
  unfold toNamespace
  rw [MemAppData.inodes_erase]

theorem fullPathname_refines (good : Good bits s) (name : String) :
    Refines bits s (.fullPathname name) (call bits alloc s (.fullPathname name)) := by
  unfold call
  dsimp only
  by_cases valid : ValidDbName name
  · have run : (MemStore.fullPathname name).run s.data = (.ok name, s.data) := by
      unfold MemStore.fullPathname
      rw [checkFilename_valid valid]
      rfl
    rw [observe_ok run]
    exact .intro good.sound (.fullPathname name valid) rfl
  · have run : (MemStore.fullPathname name).run s.data = (.err invalidDbName, s.data) := by
      unfold MemStore.fullPathname
      rw [checkFilename_invalid valid]
      rfl
    rw [observe_err run]
    exact .intro good.sound (.fullPathnameInvalid name valid) rfl

theorem names_refines (good : Good bits s) :
    Refines bits s .names (call bits alloc s .names) := by
  unfold call
  dsimp only
  have run : MemVfsUtil.names.run s.data =
      (.ok (s.data.files.keys.mergeSort fun a b => decide (a ≤ b)), s.data) := rfl
  rw [observe_ok run]
  have permuted := List.mergeSort_perm s.data.files.keys fun a b => decide (a ≤ b)
  have ordered : (s.data.files.keys.mergeSort fun a b => decide (a ≤ b)).Pairwise
      (fun a b => decide (a ≤ b) = true) :=
    List.pairwise_mergeSort
      (fun a b c le le' => decide_eq_true ((of_decide_eq_true le).trans (of_decide_eq_true le')))
      (fun a b => by simpa using le_total a b) _
  have distinct := (permuted.nodup_iff).mpr s.data.files.nodupKeys
  refine .intro good.sound (.names _ ?_ fun name => ?_) rfl
  · refine (ordered.and distinct).imp ?_
    rintro a b ⟨le, ne⟩
    exact lt_of_le_of_ne (of_decide_eq_true le) ne
  · rw [permuted.mem_iff]
    exact MemAppData.names_ne_none_iff.symm

/-! ## Imports -/

theorem createImport_refines (good : Good bits s) (name : String) (size : Nat) :
    Refines bits s (.createImport name size) (call bits alloc s (.createImport name size)) := by
  unfold call
  dsimp only
  by_cases valid : ValidDbName name
  · rcases bound : s.data.files.lookup name with _ | file
    · have vacant : name ∉ s.data.files := AList.lookup_eq_none.mp bound
      by_cases fits : size < 2 ^ bits
      · rw [observe_ok (MemVfs.createImport_run valid fits vacant)]
        refine .intro (good.sound.allocate (MemVfs.wellFormed_fresh bits).1)
          (.createImport name size s.data.cells.length valid bound fits MemAppData.inodes_fresh) ?_
        unfold toNamespace
        rw [MemAppData.inodes_allocate]
        rfl
      · have run : (MemVfs.createImport bits alloc name size).run s.data =
            (.err (.io sizeExceeds), s.data) := by
          unfold MemVfs.createImport
          rw [valid, Prog.ofExcept_ok, Prog.pure_bind, Prog.get_bind, if_neg vacant,
            if_pos (by omega)]
          rfl
        rw [observe_err run]
        exact .intro good.sound (.createTooLarge name size valid bound (by omega)) rfl
    · have present : name ∈ s.data.files := AList.lookup_isSome.mp (by rw [bound]; rfl)
      have run : (MemVfs.createImport bits alloc name size).run s.data =
          (.err (.alreadyExists name), s.data) := by
        unfold MemVfs.createImport
        rw [valid, Prog.ofExcept_ok, Prog.pure_bind, Prog.get_bind, if_pos present]
        rfl
      rw [observe_err run]
      exact .intro good.sound (.createExisting name size file valid bound) rfl
  · have refused : MemVfs.validateDbFilename name = .error .invalidFilename := by
      unfold ValidDbName MemVfs.validateDbFilename at valid
      unfold MemVfs.validateDbFilename
      split at valid
      · rw [if_pos ‹_›]
      · exact absurd rfl valid
    have run : (MemVfs.createImport bits alloc name size).run s.data =
        (.err .invalidFilename, s.data) := by
      unfold MemVfs.createImport
      rw [refused]
      rfl
    rw [observe_err run]
    exact .intro good.sound (.createInvalid name size valid) rfl

variable (alloc) in
/-- What a write of an import does to the files. -/
theorem importTarget_write {data : MemAppData} {file : Nat} {content : List UInt8}
    (sound : Sound bits data) (present : data.inodes.contents file = some content) (name : String)
    (offset : UInt64) (bytes : List UInt8) : ∃ data', Sound bits data' ∧
      ((∃ content',
          VectorStep bits content (.write bytes offset, alloc data.writes) .done content' ∧
          ((MemVfs.importTarget bits alloc name file).writeAt offset.toNat bytes).run data =
            (.ok (), data') ∧ data'.inodes = data.inodes.hold file content' ∧
          data'.files = data.files) ∨
        ∃ error, VectorStep bits content (.write bytes offset, alloc data.writes) (.failed error)
            content ∧
          ((MemVfs.importTarget bits alloc name file).writeAt offset.toNat bytes).run data =
            (.err (.io error), data') ∧ data'.inodes = data.inodes ∧ data'.files = data.files) := by
  obtain ⟨f, cell, rfl⟩ := MemAppData.contents_eq_some present
  have wf := sound.wellFormed f (List.mem_of_getElem? cell)
  obtain ⟨result, f', called, wf', step⟩ :=
    MemChunksFile.step_refines wf (.write bytes offset, alloc data.writes)
  have writable : (⟨file, false⟩ : MemFileHandle).readOnly = false := rfl
  have written := write_of_writable bits alloc writable bytes offset data
  have same := MemAppData.inodes_set (s := data) cell f' (data.writes + 1)
  refine ⟨_, sound.set file wf' (data.writes + 1), ?_⟩
  rcases run_of_observe called with ⟨⟨⟩, run, rfl⟩ | ⟨error, run, rfl⟩
  · exact .inl ⟨f'.contents, step, Prog.mapErr_ok_iff.mpr (written.trans
      (MemVfs.onFile_run (s := { data with writes := data.writes + 1 }) cell run)), same, rfl⟩
  · have kept : f'.contents = f.contents := by
      by_contra changed
      exact (step.changes changed).2 error rfl
    rw [kept] at step same
    refine .inr ⟨error, step, Prog.mapErr_err (written.trans
      (MemVfs.onFile_run (s := { data with writes := data.writes + 1 }) cell run)) _, ?_, rfl⟩
    exact same.trans (Inodes.hold_eq_self present)

theorem importWrite_refines (good : Good bits s) (target : Nat) (offset : UInt64)
    (bytes : List UInt8) :
    Refines bits s (.importWrite target offset bytes)
      (call bits alloc s (.importWrite target offset bytes)) := by
  unfold call
  dsimp only
  rcases live : s.targets.find target with _ | ⟨name, file⟩
  · exact .intro good.sound (.absentTarget target _ (.inl ⟨offset, bytes, rfl⟩) live) rfl
  · dsimp only
    obtain ⟨content, present⟩ :=
      Option.ne_none_iff_exists'.mp (good.isolated.pending target name file live)
    obtain ⟨data', sound, ⟨content', step, run, same, -⟩ | ⟨error, step, run, same, -⟩⟩ :=
      importTarget_write alloc good.sound present name offset bytes
    · rw [observe_ok run]
      refine .intro sound (.importWrite target offset bytes name file (alloc s.data.writes)
        content content' live present step) ?_
      unfold toNamespace
      rw [same]
    · rw [observe_err run]
      refine .intro sound (.importRefused target offset bytes name file (alloc s.data.writes)
        content error live present step) ?_
      unfold toNamespace
      rw [same]

theorem commit_refines (good : Good bits s) (target : Nat) :
    Refines bits s (.commit target) (call bits alloc s (.commit target)) := by
  unfold call
  dsimp only
  rcases live : s.targets.find target with _ | ⟨name, file⟩
  · exact .intro good.sound (.absentTarget target _ (.inr (.inl rfl)) live) rfl
  · dsimp only
    have living : file < s.data.cells.length := by
      obtain ⟨held, present⟩ :=
        Option.ne_none_iff_exists'.mp (good.isolated.pending target name file live)
      obtain ⟨f, cell, -⟩ := MemAppData.contents_eq_some present
      exact (List.getElem?_eq_some_iff.mp cell).1
    rcases bound : s.data.files.lookup name with _ | found
    · rw [observe_ok (s := { s with targets := s.targets.retire target })
        (MemVfs.commit_run (AList.lookup_eq_none.mp bound))]
      refine .intro (good.sound.insert living) (.commit target name file live bound) ?_
      unfold toNamespace
      dsimp only
      rw [MemAppData.inodes_insert]
    · have present : name ∈ s.data.files := AList.lookup_isSome.mp (by rw [bound]; rfl)
      have run : (MemVfs.importTarget bits alloc name file).commit.run s.data =
          (.err (.alreadyExists name), s.data) := by
        unfold MemVfs.importTarget
        dsimp only
        rw [Prog.get_bind, if_pos present]
        rfl
      rw [observe_err (s := { s with targets := s.targets.retire target }) run]
      exact .intro good.sound (.commitExisting target name file found live bound) rfl

theorem abort_refines (good : Good bits s) (target : Nat) :
    Refines bits s (.abort target) (call bits alloc s (.abort target)) := by
  unfold call
  dsimp only
  rcases live : s.targets.find target with _ | ⟨name, file⟩
  · exact .intro good.sound (.absentTarget target _ (.inr (.inr rfl)) live) rfl
  · exact .intro good.sound (.abort target name file live) rfl

/-! ## Runs -/

theorem call_refines (alloc : Nat → Nat → Bool) (good : Good bits s) (request : StoreRequest) :
    Refines bits s request (call bits alloc s request) := by
  cases request with
  | openFile request => exact open_refines good request
  | close handle name options => exact close_refines good handle name options
  | io handle request => exact io_refines good handle request
  | access name => exact .intro good.sound (.access name) rfl
  | fullPathname name => exact fullPathname_refines good name
  | delete name => exact delete_refines good name
  | remove name => exact remove_refines good name
  | clear => exact .intro good.sound.clear .clear rfl
  | contains name => exact .intro good.sound (.contains name) rfl
  | names => exact names_refines good
  | len =>
      exact .intro good.sound (.len _ s.data.files.nodupKeys fun _ =>
        MemAppData.names_ne_none_iff.symm) rfl
  | createImport name size => exact createImport_refines good name size
  | importWrite target offset bytes => exact importWrite_refines good target offset bytes
  | commit target => exact commit_refines good target
  | abort target => exact abort_refines good target

theorem run_refines (alloc : Nat → Nat → Bool) (requests : List StoreRequest) :
    ∀ {s : StoreSession}, Good bits s → ∃ answers last,
      run bits alloc s requests = some (answers, last) ∧
        NamespaceRun bits s.toNamespace requests answers last.toNamespace := by
  induction requests with
  | nil =>
      intro s _
      exact ⟨[], s, rfl, .nil _⟩
  | cons request rest ih =>
      intro s good
      obtain ⟨answer, next, called, sound, step⟩ := call_refines alloc good request
      obtain ⟨answers, last, ran, steps⟩ := ih ⟨sound, step.isolated good.isolated⟩
      refine ⟨answer :: answers, last, ?_, .cons step steps⟩
      simp [run, called, ran]

theorem good_start (bits : Nat) : Good bits start where
  sound :=
    { wellFormed := fun _ member => nomatch member
      mapped := fun _ _ found => nomatch found }
  isolated := Namespace.isolated_nil

end StoreSession

/-- Every session of the memory VFS answers as a namespace of inodes does, without a
panic.  In such a namespace a request changes only what it reaches, one that fails
changes nothing, and anonymous files and the files of pending imports have one way in. -/
theorem memStore_refines_namespace (bits : Nat) (alloc : Nat → Nat → Bool)
    (requests : List StoreRequest) :
    (∃ answers last, StoreSession.run bits alloc .start requests = some (answers, last) ∧
      NamespaceRun bits StoreSession.start.toNamespace requests answers last.toNamespace ∧
      last.toNamespace.Isolated) ∧
    ∀ (s t : Namespace) (request : StoreRequest) (answer : StoreAnswer),
      NamespaceStep bits s request answer t → s.Frame request answer t := by
  refine ⟨?_, fun s t request answer step => step.frame⟩
  have good := StoreSession.good_start bits
  obtain ⟨answers, last, ran, steps⟩ := StoreSession.run_refines alloc requests good
  exact ⟨answers, last, ran, steps, steps.isolated good.isolated⟩

/-- A late delete-on-close leaves the replacement alone. -/
example :
    (StoreSession.run 32 (fun _ _ => true) .start
      [.openFile ⟨some "t", ⟨0x20E⟩⟩, .delete "t", .openFile ⟨some "t", ⟨0x206⟩⟩,
        .close 0 (some "t") ⟨0x20E⟩, .contains "t"]).map Prod.fst =
      some [.opened 0 .readWrite, .done, .opened 1 .readWrite, .done, .flag true] := by
  decide

end SqliteVfs
