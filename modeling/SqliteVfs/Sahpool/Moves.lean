import SqliteVfs.Sahpool.Ledger

/-!
# Moves of a pool

Everything the calls on a loaded pool can do to its slots, with what each does to the
ledger.  `Rep.move` shows once for every move that the pool stays faithful; the functions
of the pool are then shown to be sequences of moves.
-/

set_option autoImplicit false

namespace SqliteVfs

namespace Sahpool

def World.held (w : World) : List String :=
  w.availableFiles ++ w.mapFilenameToFile.entries.map Sigma.snd ++ w.quarantinedFiles

inductive Move (mode : Mode) : World → Ledger → World → Ledger → Prop
  | env (w g env) (allowed : ∀ reply ∈ env.replies, Reply.Allowed mode reply) :
    Move mode w g { w with env } g
  | suspect (w g) : Move mode w g { w with needsRecovery := true } g
  | trust (w g) (loaded : g.loaded = true) (noFiles : w.mapFilenameToFile = ∅)
      (noneLeft : w.quarantinedFiles = []) :
    Move mode w g { w with needsRecovery := false } g.forget
  | touch (w g) (file : String) (content : SlotFile) (held : file ∈ w.held)
      (found : w.directory.lookup file = some content) :
    Move mode w g { w with directory := w.directory.insert file content } g
  | flush (w g) (file : String) (content : SlotFile)
      (held : file ∈ w.held) (found : w.directory.lookup file = some content) :
    Move mode w g { w with directory := w.directory.insert file content.flush } g
  | write (w g) (name file : String) (content : SlotFile) (offset : Nat) (bytes : List UInt8)
      (mapped : w.mapFilenameToFile.lookup name = some file) (inUse : w.openCount file ≠ 0)
      (found : w.directory.lookup file = some content)
      (inside : offset + headerOffsetData + bytes.length ≤ maxSafeInteger)
      (nonempty : bytes ≠ []) :
    Move mode w g
      { w with
        directory := w.directory.insert file (content.write (offset + headerOffsetData) bytes) }
      (g.write name offset bytes)
  | resize (w g) (name file : String) (content : SlotFile) (size : Nat)
      (mapped : w.mapFilenameToFile.lookup name = some file) (inUse : w.openCount file ≠ 0)
      (found : w.directory.lookup file = some content)
      (inside : size + headerOffsetData ≤ maxSafeInteger) :
    Move mode w g
      { w with
        directory := w.directory.insert file (content.truncate (size + headerOffsetData)) }
      (g.resize name size)
  | fill (w g) (file : String) (data : List UInt8) (content : SlotFile) (offset : Nat)
      (bytes : List UInt8) (staging : g.staging = some (file, data))
      (found : w.directory.lookup file = some content)
      (inside : offset + headerOffsetData + bytes.length ≤ maxSafeInteger)
      (nonempty : bytes ≠ []) :
    Move mode w g
      { w with
        directory := w.directory.insert file (content.write (offset + headerOffsetData) bytes) }
      (g.stage file (SparseVector.writeAt data offset bytes))
  | assign (w g) (name file : String) (rest : List String) (temporary : Bool)
      (data : List UInt8) (content : SlotFile) (healthy : w.needsRecovery = false)
      (top : w.availableFiles = rest ++ [file]) (vacant : name ∉ w.mapFilenameToFile)
      (named : Named mode name temporary true data content) :
    Move mode w g
      { w with
        directory := w.directory.insert file content
        availableFiles := rest
        mapFilenameToFile := w.mapFilenameToFile.insert name file }
      (g.assign name file (.present temporary true data))
  | renew (w g) (file : String) (content : SlotFile) (member : file ∈ w.availableFiles)
      (only : ∀ other data, g.staging = some (other, data) → other = file)
      (fresh : Fresh content) :
    Move mode w g { w with directory := w.directory.insert file content } g.unstage
  | quarantine (w g) (file : String) (rest : List String) (content : SlotFile)
      (top : w.availableFiles = rest ++ [file]) (blank : Blank mode content) :
    Move mode w g
      { w with
        directory := w.directory.insert file content
        availableFiles := rest
        quarantinedFiles := w.quarantinedFiles ++ [file]
        needsRecovery := true }
      g.unstage
  | mislay (w g) (name file : String) (rest : List String) (data : List UInt8)
      (content : SlotFile) (healthy : w.needsRecovery = false)
      (top : w.availableFiles = rest ++ [file]) (vacant : name ∉ w.mapFilenameToFile)
      (unclear : Unclear mode name data content) :
    Move mode w g
      { w with
        directory := w.directory.insert file content
        availableFiles := rest
        quarantinedFiles := w.quarantinedFiles ++ [file]
        needsRecovery := true }
      (g.assign name file (.uncertain data))
  | free (w g) (name file : String) (content : SlotFile)
      (mapped : w.mapFilenameToFile.lookup name = some file) (closed : w.openCount file = 0)
      (idle : g.staging = none) (fresh : Fresh content) :
    Move mode w g
      { w with
        directory := w.directory.insert file content
        mapFilenameToFile := w.mapFilenameToFile.erase name
        availableFiles := w.availableFiles ++ [file] }
      (g.remove name file)
  | doubt (w g) (name file : String) (content content' : SlotFile)
      (mapped : w.mapFilenameToFile.lookup name = some file) (closed : w.openCount file = 0)
      (found : w.directory.lookup file = some content) (erasing : Erasing mode content content') :
    Move mode w g
      { w with directory := w.directory.insert file content', needsRecovery := true }
      (g.doubt name)
  | restore (w g) (file : String) (rest : List String) (content : SlotFile)
      (top : w.quarantinedFiles = rest ++ [file]) (idle : g.staging = none)
      (fresh : Fresh content) :
    Move mode w g
      { w with
        directory := w.directory.insert file content
        quarantinedFiles := rest
        availableFiles := w.availableFiles ++ [file] }
      (g.setOwner file none)
  | shake (w g) (file : String) (content content' : SlotFile) (member : file ∈ w.quarantinedFiles)
      (found : w.directory.lookup file = some content) (erasing : Erasing mode content content') :
    Move mode w g { w with directory := w.directory.insert file content' } g

variable {mode : Mode} {w w' : World} {g g' : Ledger} {file name : String} {content : SlotFile}

/-! ## Faithful pools -/

namespace Rep

theorem known (rep : Rep mode w g) (loaded : g.loaded = true) : g.known = true := by
  by_contra unknown
  have := (rep.unknown (Bool.eq_false_iff.mpr unknown)).2
  rw [loaded] at this
  exact nomatch this

theorem loaded_of_available (rep : Rep mode w g) (member : file ∈ w.availableFiles) :
    g.loaded = true := by
  by_contra unloaded
  rw [(rep.unloaded (Bool.eq_false_iff.mpr unloaded)).1] at member
  exact nomatch member

theorem loaded_of_mapped (rep : Rep mode w g)
    (mapped : w.mapFilenameToFile.lookup name = some file) : g.loaded = true := by
  by_contra unloaded
  rw [(rep.unloaded (Bool.eq_false_iff.mpr unloaded)).2.1, AList.lookup_empty] at mapped
  exact nomatch mapped

theorem loaded_of_quarantined (rep : Rep mode w g) (member : file ∈ w.quarantinedFiles) :
    g.loaded = true := by
  by_contra unloaded
  rw [(rep.unloaded (Bool.eq_false_iff.mpr unloaded)).2.2] at member
  exact nomatch member

theorem content_of_mapped (rep : Rep mode w g)
    (mapped : w.mapFilenameToFile.lookup name = some file) :
    ∃ content, w.directory.lookup file = some content ∧
      (g.entry name).Matches mode name content :=
  (rep.disk (rep.known (rep.loaded_of_mapped mapped))).exists_content
    (rep.mapped name file mapped).1

theorem mapped_ne_available (rep : Rep mode w g) {other : String}
    (mapped : w.mapFilenameToFile.lookup name = some file) (member : other ∈ w.availableFiles) :
    file ≠ other := by
  rintro rfl
  exact nomatch (rep.available file member).1.symm.trans (rep.mapped name file mapped).1

/-- In a healthy pool no slot stands for a name that is not mapped. -/
theorem vacant (rep : Rep mode w g) (loaded : g.loaded = true) (healthy : w.needsRecovery = false)
    (absent : name ∉ w.mapFilenameToFile) (other : String) : g.owner other ≠ some name := by
  intro owned
  rcases rep.owned loaded other name owned with mapped | lost
  · exact absent (AList.lookup_isSome.mp (by rw [mapped]; rfl))
  · exact nomatch healthy.symm.trans (rep.quarantined other lost).1

theorem mem_directory_insert {other : String} (member : other ∈ w.directory) :
    other ∈ w.directory.insert file content :=
  (AList.mem_insert _).mpr (.inr member)

/-- What is known of an available slot survives a change of another one. -/
theorem available_insert (rep : Rep mode w g) {other : String} (member : other ∈ w.availableFiles)
    (different : other ≠ file) :
    ∃ found, (w.directory.insert file content).lookup other = some found ∧
      (Fresh found ∨ ∃ data, g.staging = some (other, data)) := by
  obtain ⟨-, found, here, state⟩ := rep.available other member
  exact ⟨found, (AList.lookup_insert_ne different).trans here, state⟩

theorem staged_insert (rep : Rep mode w g) {other : String} {data : List UInt8}
    (staging : g.staging = some (other, data)) (different : other ≠ file) :
    w.availableFiles.getLast? = some other ∧
      ∃ found, (w.directory.insert file content).lookup other = some found ∧
        Staged mode data found := by
  obtain ⟨top, found, here, staged⟩ := rep.staged other data staging
  exact ⟨top, found, (AList.lookup_insert_ne different).trans here, staged⟩

/-- Slots that no name stands for stay readable when one slot changes. -/
theorem readable_insert (rep : Rep mode w g) {owner : String → Option String}
    {quarantined : List String}
    (others : ∀ other, other ≠ file → owner other = none → other ∉ quarantined →
      g.owner other = none ∧ other ∉ w.quarantinedFiles)
    (here : owner file = none → file ∉ quarantined → stored content.contents = .ok none)
    (loaded : g.loaded = true) (other : String) (found : SlotFile)
    (there : (w.directory.insert file content).lookup other = some found)
    (unowned : owner other = none) (healthy : other ∉ quarantined) :
    stored found.contents = .ok none := by
  by_cases same : other = file
  · subst same
    rw [AList.lookup_insert] at there
    cases there
    exact here unowned healthy
  · rw [AList.lookup_insert_ne same] at there
    obtain ⟨unowned', healthy'⟩ := others other same unowned healthy
    exact rep.readable loaded other found there unowned' healthy'

theorem setEntry (rep : Rep mode w g) (mapped : w.mapFilenameToFile.lookup name = some file)
    (entry : Entry) (holds : entry.Matches mode name content)
    (sure : w.needsRecovery = false → ∀ data, entry ≠ .uncertain data)
    (opened : w.openCount file ≠ 0 → ∃ temporary durable data,
      entry = .present temporary durable data) :
    Rep mode { w with directory := w.directory.insert file content } (g.setEntry name entry) where
  allowed := rep.allowed
  disk known := (rep.disk known).setEntry (rep.mapped name file mapped).1 holds
  unknown := rep.unknown
  unloaded := rep.unloaded
  nodup := rep.nodup
  mapped := rep.mapped
  owned := rep.owned
  available other member := ⟨(rep.available other member).1,
    rep.available_insert member (rep.mapped_ne_available mapped member).symm⟩
  guarded := rep.guarded
  staged other data staging := by
    have member := List.mem_of_getLast? (rep.staged other data staging).1
    exact rep.staged_insert staging (rep.mapped_ne_available mapped member).symm
  quarantined other member := by
    obtain ⟨suspect, present, unsure⟩ := rep.quarantined other member
    refine ⟨suspect, mem_directory_insert present, fun name' owned => ?_⟩
    have different : name' ≠ name := by
      rintro rfl
      have same := (rep.disk (rep.known (rep.loaded_of_mapped mapped))).injective other file _
        owned (rep.mapped _ file mapped).1
      exact (rep.mapped _ file mapped).2 (same ▸ member)
    have same : (g.setEntry name entry).entry name' = g.entry name' :=
      Function.update_of_ne different _ _
    rw [same]
    exact unsure name' owned
  healthy loaded sane name' data := by
    by_cases same : name' = name
    · subst same
      have : (g.setEntry name' entry).entry name' = entry := Function.update_self _ _ _
      rw [this]
      exact sure sane data
    · have : (g.setEntry name entry).entry name' = g.entry name' := Function.update_of_ne same _ _
      rw [this]
      exact rep.healthy loaded sane name' data
  opened name' other mapped' inUse := by
    by_cases same : name' = name
    · subst same
      obtain rfl : file = other := Option.some.inj (mapped.symm.trans mapped')
      have : (g.setEntry name' entry).entry name' = entry := Function.update_self _ _ _
      rw [this]
      exact opened inUse
    · have : (g.setEntry name entry).entry name' = g.entry name' := Function.update_of_ne same _ _
      rw [this]
      exact rep.opened name' other mapped' inUse
  readable := rep.readable_insert (fun _ _ unowned calm => ⟨unowned, calm⟩)
    fun unowned => nomatch unowned.symm.trans (rep.mapped name file mapped).1

theorem touch (rep : Rep mode w g) (found : w.directory.lookup file = some content) :
    Rep mode { w with directory := w.directory.insert file content } g := by
  have same (other : String) :
      (w.directory.insert file content).lookup other = w.directory.lookup other := by
    by_cases here : other = file
    · subst here
      rw [AList.lookup_insert, found]
    · exact AList.lookup_insert_ne here
  exact {
    allowed := rep.allowed
    disk := fun known => {
      slot := fun other content' here => (rep.disk known).slot other content' (same other ▸ here)
      inside := fun other name owned => mem_directory_insert
        ((rep.disk known).inside other name owned)
      injective := (rep.disk known).injective
      kept := (rep.disk known).kept }
    unknown := rep.unknown
    unloaded := rep.unloaded
    nodup := rep.nodup
    mapped := rep.mapped
    owned := rep.owned
    available := fun other member => by
      obtain ⟨unowned, content', here, state⟩ := rep.available other member
      exact ⟨unowned, content', (same other).trans here, state⟩
    guarded := rep.guarded
    staged := fun other data staging => by
      obtain ⟨top, content', here, staged⟩ := rep.staged other data staging
      exact ⟨top, content', (same other).trans here, staged⟩
    quarantined := fun other member => by
      obtain ⟨suspect, present, unsure⟩ := rep.quarantined other member
      exact ⟨suspect, mem_directory_insert present, unsure⟩
    healthy := rep.healthy
    opened := rep.opened
    readable := fun loaded other content' here =>
      rep.readable loaded other content' ((same other).symm.trans here) }

theorem flush (rep : Rep mode w g) (found : w.directory.lookup file = some content) :
    Rep mode { w with directory := w.directory.insert file content.flush } g where
  allowed := rep.allowed
  disk known := by
    have disk := rep.disk known
    have represents := disk.slot file content found
    refine disk.insert (fun _ _ => rfl) (fun _ _ _ _ => rfl)
      (fun name' other owned different owned' =>
        different (disk.injective other file name' owned' owned)) disk.kept ?_
    unfold Represents at represents ⊢
    rcases owned : g.owner file with _ | name'
    · rw [owned] at represents
      exact Sees.flush represents
    · rw [owned] at represents
      dsimp only at represents ⊢
      cases state : g.entry name' with
      | absent =>
          rw [state] at represents
          exact represents.elim
      | present temporary durable data =>
          rw [state] at represents
          exact Named.flush represents
      | uncertain data =>
          rw [state] at represents
          exact ⟨Sees.flush represents.sees, represents.data_eq⟩
  unknown := rep.unknown
  unloaded := rep.unloaded
  nodup := rep.nodup
  mapped := rep.mapped
  owned := rep.owned
  available other member := by
    obtain ⟨unowned, content', here, state⟩ := rep.available other member
    refine ⟨unowned, ?_⟩
    by_cases same : other = file
    · subst same
      obtain rfl : content = content' := Option.some.inj (found.symm.trans here)
      refine ⟨content.flush, AList.lookup_insert _, state.imp ?_ id⟩
      rintro ⟨bytes, rfl, length, header⟩
      exact ⟨bytes, rfl, length, header⟩
    · exact ⟨content', (AList.lookup_insert_ne same).trans here, state⟩
  guarded := rep.guarded
  staged other data staging := by
    obtain ⟨top, content', here, staged⟩ := rep.staged other data staging
    refine ⟨top, ?_⟩
    by_cases same : other = file
    · subst same
      obtain rfl : content = content' := Option.some.inj (found.symm.trans here)
      exact ⟨content.flush, AList.lookup_insert _, staged.flush⟩
    · exact ⟨content', (AList.lookup_insert_ne same).trans here, staged⟩
  quarantined other member := by
    obtain ⟨suspect, present, unsure⟩ := rep.quarantined other member
    exact ⟨suspect, mem_directory_insert present, unsure⟩
  healthy := rep.healthy
  opened := rep.opened
  readable loaded := rep.readable_insert (fun _ _ unowned calm => ⟨unowned, calm⟩)
    (fun unowned calm => rep.readable loaded file content found unowned calm) loaded

theorem fill (rep : Rep mode w g) {data data' : List UInt8}
    (staging : g.staging = some (file, data)) (staged : Staged mode data' content) :
    Rep mode { w with directory := w.directory.insert file content } (g.stage file data') where
  allowed := rep.allowed
  disk known := ((rep.disk known).blank
    (rep.available file (List.mem_of_getLast? (rep.staged file data staging).1)).1
    staged.blank).congr rfl rfl
  unknown := rep.unknown
  unloaded := rep.unloaded
  nodup := rep.nodup
  mapped := rep.mapped
  owned := rep.owned
  available other member := by
    refine ⟨(rep.available other member).1, ?_⟩
    by_cases same : other = file
    · subst same
      exact ⟨content, AList.lookup_insert _, .inr ⟨data', rfl⟩⟩
    · obtain ⟨found, here, fresh | ⟨data'', elsewhere⟩⟩ := rep.available_insert member same
      · exact ⟨found, here, .inl fresh⟩
      · rw [staging] at elsewhere
        cases elsewhere
        exact absurd rfl same
  guarded _ _ := rep.guarded _ staging
  staged other data'' here := by
    cases here
    exact ⟨(rep.staged file data staging).1, content, AList.lookup_insert _, staged⟩
  quarantined other member := by
    obtain ⟨suspect, present, unsure⟩ := rep.quarantined other member
    exact ⟨suspect, mem_directory_insert present, unsure⟩
  healthy := rep.healthy
  opened := rep.opened
  readable := rep.readable_insert (fun _ _ unowned calm => ⟨unowned, calm⟩)
    fun _ _ => staged.readable

theorem reserve (rep : Rep mode w g) (top : w.availableFiles.getLast? = some file)
    (free : g.staging = none) (guarded : w.busy = true) : Rep mode w (g.stage file []) where
  allowed := rep.allowed
  disk known := (rep.disk known).congr rfl rfl
  unknown := rep.unknown
  unloaded := rep.unloaded
  nodup := rep.nodup
  mapped := rep.mapped
  owned := rep.owned
  available other member := by
    obtain ⟨unowned, content, here, fresh | ⟨data, staging⟩⟩ := rep.available other member
    · exact ⟨unowned, content, here, .inl fresh⟩
    · exact nomatch free.symm.trans staging
  guarded _ _ := guarded
  staged other data here := by
    cases here
    obtain ⟨-, content, found, fresh | ⟨data, staging⟩⟩ :=
      rep.available file (List.mem_of_getLast? top)
    · exact ⟨top, content, found, fresh.staged⟩
    · exact nomatch free.symm.trans staging
  quarantined := rep.quarantined
  healthy := rep.healthy
  opened := rep.opened
  readable := rep.readable

theorem nodup_top (rep : Rep mode w g) {rest : List String}
    (top : w.availableFiles = rest ++ [file]) :
    (rest ++ w.quarantinedFiles).Nodup ∧ file ∉ rest ∧ file ∉ w.quarantinedFiles := by
  have nodup := rep.nodup
  rw [top, List.append_assoc, List.nodup_append] at nodup
  obtain ⟨before, after, apart⟩ := nodup
  rw [List.singleton_append, List.nodup_cons] at after
  refine ⟨List.nodup_append.mpr ⟨before, after.2, fun x member y member' => ?_⟩, ?_, after.1⟩
  · exact apart x member y (List.mem_cons_of_mem _ member')
  · exact fun member => apart file member file List.mem_cons_self rfl

theorem staging_top (rep : Rep mode w g) {rest : List String}
    (top : w.availableFiles = rest ++ [file]) {other : String} {data : List UInt8}
    (staging : g.staging = some (other, data)) : other = file := by
  have last := (rep.staged other data staging).1
  rw [top, List.getLast?_append, List.getLast?_singleton] at last
  exact (Option.some.inj last).symm

theorem available_rest (rep : Rep mode w g) {rest : List String}
    (top : w.availableFiles = rest ++ [file]) {other : String} (member : other ∈ rest) :
    other ≠ file ∧ g.owner other = none ∧ ∃ found,
      (w.directory.insert file content).lookup other = some found ∧ Fresh found := by
  have still : other ∈ w.availableFiles := by
    rw [top]
    exact List.mem_append_left _ member
  have different : other ≠ file := by
    rintro rfl
    exact (rep.nodup_top top).2.1 member
  obtain ⟨found, here, fresh | ⟨data, staging⟩⟩ := rep.available_insert still different
  · exact ⟨different, (rep.available other still).1, found, here, fresh⟩
  · exact absurd (rep.staging_top top staging) different

theorem mem_top {rest : List String} (top : w.availableFiles = rest ++ [file]) :
    file ∈ w.availableFiles := by
  rw [top]
  exact List.mem_append_right _ (List.mem_singleton.mpr rfl)

theorem assign (rep : Rep mode w g) {rest : List String} {temporary : Bool}
    {data : List UInt8} (healthy : w.needsRecovery = false)
    (top : w.availableFiles = rest ++ [file]) (vacant : name ∉ w.mapFilenameToFile)
    (named : Named mode name temporary true data content) :
    Rep mode
      { w with
        directory := w.directory.insert file content
        availableFiles := rest
        mapFilenameToFile := w.mapFilenameToFile.insert name file }
      (g.assign name file (.present temporary true data)) := by
  have loaded := rep.loaded_of_available (mem_top top)
  have unowned := (rep.available file (mem_top top)).1
  have free := rep.vacant loaded healthy vacant
  have here : (g.assign name file (.present temporary true data)).owner file = some name :=
    Function.update_self _ _ _
  have others (other : String) (different : other ≠ file) :
      (g.assign name file (.present temporary true data)).owner other = g.owner other :=
    Function.update_of_ne different _ _
  have entry : (g.assign name file (.present temporary true data)).entry name =
      .present temporary true data := Function.update_self _ _ _
  have entries (other : String) (different : other ≠ name) :
      (g.assign name file (.present temporary true data)).entry other = g.entry other :=
    Function.update_of_ne different _ _
  have calm : w.quarantinedFiles = [] := by
    by_contra some
    obtain ⟨other, member⟩ := List.exists_mem_of_ne_nil _ some
    exact nomatch healthy.symm.trans (rep.quarantined other member).1
  refine {
    allowed := rep.allowed
    disk := fun known => (rep.disk known).assign unowned free named
    unknown := fun unknown => nomatch unknown.symm.trans (rep.known loaded)
    unloaded := fun unloaded => nomatch unloaded.symm.trans loaded
    nodup := (rep.nodup_top top).1
    mapped := ?_
    owned := ?_
    available := ?_
    guarded := fun _ staging => nomatch staging
    staged := fun _ _ staging => nomatch staging
    quarantined := fun other member => ?_
    healthy := ?_
    opened := ?_
    readable := rep.readable_insert
      (fun other different unowned calm => ⟨(others other different).symm.trans unowned, calm⟩)
      fun unowned => nomatch unowned.symm.trans here }
  · intro name' other mapped
    refine ⟨?_, by rw [calm]; exact List.not_mem_nil⟩
    by_cases same : name' = name
    · subst same
      rw [AList.lookup_insert] at mapped
      cases mapped
      exact here
    · rw [AList.lookup_insert_ne same] at mapped
      rw [others other (rep.mapped_ne_available mapped (mem_top top))]
      exact (rep.mapped name' other mapped).1
  · intro _ other name' owned
    refine .inl ?_
    by_cases same : other = file
    · subst same
      cases here.symm.trans owned
      exact AList.lookup_insert _
    · rw [others other same] at owned
      have different : name' ≠ name := fun same => free other (same ▸ owned)
      rw [AList.lookup_insert_ne different]
      exact (rep.owned loaded other name' owned).resolve_right
        (by rw [calm]; exact List.not_mem_nil)
  · intro other member
    obtain ⟨different, unowned', found, there, fresh⟩ := rep.available_rest top member
    exact ⟨(others other different).trans unowned', found, there, .inl fresh⟩
  · rw [calm] at member
    exact nomatch member
  · intro _ _ name' data'
    by_cases same : name' = name
    · subst same
      rw [entry]
      exact nofun
    · rw [entries name' same]
      exact rep.healthy loaded healthy name' data'
  · intro name' other mapped inUse
    by_cases same : name' = name
    · subst same
      exact ⟨temporary, true, data, entry⟩
    · rw [AList.lookup_insert_ne same] at mapped
      rw [entries name' same]
      exact rep.opened name' other mapped inUse

theorem suspect (rep : Rep mode w g) : Rep mode { w with needsRecovery := true } g where
  allowed := rep.allowed
  disk := rep.disk
  unknown := rep.unknown
  unloaded := rep.unloaded
  nodup := rep.nodup
  mapped := rep.mapped
  owned := rep.owned
  available := rep.available
  guarded := rep.guarded
  staged := rep.staged
  quarantined other member := ⟨rfl, (rep.quarantined other member).2⟩
  healthy _ sane := nomatch sane
  opened := rep.opened
  readable := rep.readable

theorem noOwners (rep : Rep mode w g) (loaded : g.loaded = true) (noFiles : w.mapFilenameToFile = ∅)
    (noneLeft : w.quarantinedFiles = []) (file : String) : g.owner file = none := by
  rcases owned : g.owner file with _ | name
  · rfl
  · rcases rep.owned loaded file name owned with mapped | lost
    · rw [noFiles, AList.lookup_empty] at mapped
      exact nomatch mapped
    · rw [noneLeft] at lost
      exact nomatch lost

theorem trust (rep : Rep mode w g) (loaded : g.loaded = true) (noFiles : w.mapFilenameToFile = ∅)
    (noneLeft : w.quarantinedFiles = []) :
    Rep mode { w with needsRecovery := false } g.forget where
  allowed := rep.allowed
  disk known := {
    slot := fun file content found => represents_blank (rep.noOwners loaded noFiles noneLeft file)
      (((rep.disk known).slot file content found).blank (rep.noOwners loaded noFiles noneLeft file))
    inside := (rep.disk known).inside
    injective := (rep.disk known).injective
    kept := fun _ _ _ _ found => nomatch found }
  unknown := rep.unknown
  unloaded := rep.unloaded
  nodup := rep.nodup
  mapped := rep.mapped
  owned := rep.owned
  available := rep.available
  guarded := rep.guarded
  staged := rep.staged
  quarantined other member := by
    rw [noneLeft] at member
    exact nomatch member
  healthy _ _ _ _ := nofun
  opened name file mapped := by
    rw [noFiles, AList.lookup_empty] at mapped
    exact nomatch mapped
  readable := rep.readable

theorem renew (rep : Rep mode w g) (member : file ∈ w.availableFiles)
    (only : ∀ other data, g.staging = some (other, data) → other = file) (fresh : Fresh content) :
    Rep mode { w with directory := w.directory.insert file content } g.unstage where
  allowed := rep.allowed
  disk known := ((rep.disk known).blank (rep.available file member).1 fresh.blank).congr rfl rfl
  unknown := rep.unknown
  unloaded := rep.unloaded
  nodup := rep.nodup
  mapped := rep.mapped
  owned := rep.owned
  available other member' := by
    refine ⟨(rep.available other member').1, ?_⟩
    by_cases same : other = file
    · subst same
      exact ⟨content, AList.lookup_insert _, .inl fresh⟩
    · obtain ⟨found, here, fresh' | ⟨data, staging⟩⟩ := rep.available_insert member' same
      · exact ⟨found, here, .inl fresh'⟩
      · exact absurd (only other data staging) same
  guarded _ staging := nomatch staging
  staged _ _ staging := nomatch staging
  quarantined other member' := by
    obtain ⟨suspect, present, unsure⟩ := rep.quarantined other member'
    exact ⟨suspect, mem_directory_insert present, unsure⟩
  healthy := rep.healthy
  opened := rep.opened
  readable := rep.readable_insert (fun _ _ unowned calm => ⟨unowned, calm⟩) fun _ _ =>
    fresh.readable

theorem nodup_quarantine (rep : Rep mode w g) {rest : List String}
    (top : w.availableFiles = rest ++ [file]) :
    (rest ++ (w.quarantinedFiles ++ [file])).Nodup := by
  obtain ⟨nodup, fresh, healthy⟩ := rep.nodup_top top
  rw [← List.append_assoc, List.nodup_append]
  refine ⟨nodup, List.nodup_singleton file, ?_⟩
  rintro other member _ last rfl
  rw [List.mem_singleton] at last
  subst last
  exact (List.mem_append.mp member).elim fresh healthy

theorem quarantine (rep : Rep mode w g) {rest : List String}
    (top : w.availableFiles = rest ++ [file]) (blank : Blank mode content) :
    Rep mode
      { w with
        directory := w.directory.insert file content
        availableFiles := rest
        quarantinedFiles := w.quarantinedFiles ++ [file]
        needsRecovery := true }
      g.unstage where
  allowed := rep.allowed
  disk known := ((rep.disk known).blank (rep.available file (mem_top top)).1 blank).congr rfl rfl
  unknown := rep.unknown
  unloaded unloaded := nomatch unloaded.symm.trans (rep.loaded_of_available (mem_top top))
  nodup := rep.nodup_quarantine top
  mapped name other mapped := by
    obtain ⟨owned, healthy⟩ := rep.mapped name other mapped
    refine ⟨owned, fun member => ?_⟩
    rcases List.mem_append.mp member with before | last
    · exact healthy before
    · exact rep.mapped_ne_available mapped (mem_top top) (List.mem_singleton.mp last)
  owned loaded other name owned := (rep.owned loaded other name owned).imp_right
    (List.mem_append_left _)
  available other member := by
    obtain ⟨-, unowned, found, here, fresh⟩ := rep.available_rest top member
    exact ⟨unowned, found, here, .inl fresh⟩
  guarded _ staging := nomatch staging
  staged _ _ staging := nomatch staging
  quarantined other member := by
    refine ⟨rfl, ?_⟩
    rcases List.mem_append.mp member with before | last
    · obtain ⟨-, present, unsure⟩ := rep.quarantined other before
      exact ⟨mem_directory_insert present, unsure⟩
    · obtain rfl := List.mem_singleton.mp last
      exact ⟨(AList.mem_insert _).mpr (.inl rfl), fun name owned =>
        nomatch (rep.available other (mem_top top)).1.symm.trans owned⟩
  healthy _ sane := nomatch sane
  opened := rep.opened
  readable := rep.readable_insert
    (fun _ _ unowned calm => ⟨unowned, fun member => calm (List.mem_append_left _ member)⟩)
    fun _ calm => absurd (List.mem_append_right _ (List.mem_singleton.mpr rfl)) calm

theorem mislay (rep : Rep mode w g) {rest : List String} {data : List UInt8}
    (healthy : w.needsRecovery = false) (top : w.availableFiles = rest ++ [file])
    (vacant : name ∉ w.mapFilenameToFile) (unclear : Unclear mode name data content) :
    Rep mode
      { w with
        directory := w.directory.insert file content
        availableFiles := rest
        quarantinedFiles := w.quarantinedFiles ++ [file]
        needsRecovery := true }
      (g.assign name file (.uncertain data)) := by
  have loaded := rep.loaded_of_available (mem_top top)
  have unowned := (rep.available file (mem_top top)).1
  have free := rep.vacant loaded healthy vacant
  have here : (g.assign name file (.uncertain data)).owner file = some name :=
    Function.update_self _ _ _
  have others (other : String) (different : other ≠ file) :
      (g.assign name file (.uncertain data)).owner other = g.owner other :=
    Function.update_of_ne different _ _
  have entry : (g.assign name file (.uncertain data)).entry name = .uncertain data :=
    Function.update_self _ _ _
  have entries (other : String) (different : other ≠ name) :
      (g.assign name file (.uncertain data)).entry other = g.entry other :=
    Function.update_of_ne different _ _
  have absent (name' other : String) (mapped : w.mapFilenameToFile.lookup name' = some other) :
      name' ≠ name := by
    rintro rfl
    exact vacant (AList.lookup_isSome.mp (by rw [mapped]; rfl))
  refine {
    allowed := rep.allowed
    disk := fun known => (rep.disk known).assign unowned free unclear
    unknown := fun unknown => nomatch unknown.symm.trans (rep.known loaded)
    unloaded := fun unloaded => nomatch unloaded.symm.trans loaded
    nodup := rep.nodup_quarantine top
    mapped := ?_
    owned := ?_
    available := ?_
    guarded := fun _ staging => nomatch staging
    staged := fun _ _ staging => nomatch staging
    quarantined := ?_
    healthy := fun _ sane => nomatch sane
    opened := ?_
    readable := rep.readable_insert
      (fun other different unowned calm => ⟨(others other different).symm.trans unowned,
        fun member => calm (List.mem_append_left _ member)⟩)
      fun unowned => nomatch unowned.symm.trans here }
  · intro name' other mapped
    have different := rep.mapped_ne_available mapped (mem_top top)
    refine ⟨(others other different).trans (rep.mapped name' other mapped).1, fun member => ?_⟩
    rcases List.mem_append.mp member with before | last
    · exact (rep.mapped name' other mapped).2 before
    · exact different (List.mem_singleton.mp last)
  · intro _ other name' owned
    by_cases same : other = file
    · exact .inr (List.mem_append_right _ (List.mem_singleton.mpr same))
    · rw [others other same] at owned
      exact (rep.owned loaded other name' owned).imp_right (List.mem_append_left _)
  · intro other member
    obtain ⟨different, unowned', found, there, fresh⟩ := rep.available_rest top member
    exact ⟨(others other different).trans unowned', found, there, .inl fresh⟩
  · intro other member
    refine ⟨rfl, ?_⟩
    rcases List.mem_append.mp member with before | last
    · exact nomatch healthy.symm.trans (rep.quarantined other before).1
    · obtain rfl := List.mem_singleton.mp last
      refine ⟨(AList.mem_insert _).mpr (.inl rfl), fun name' owned => ?_⟩
      cases here.symm.trans owned
      exact ⟨data, entry⟩
  · intro name' other mapped inUse
    rw [entries name' (absent name' other mapped)]
    exact rep.opened name' other mapped inUse

theorem free (rep : Rep mode w g) (mapped : w.mapFilenameToFile.lookup name = some file)
    (idle : g.staging = none) (fresh : Fresh content) :
    Rep mode
      { w with
        directory := w.directory.insert file content
        mapFilenameToFile := w.mapFilenameToFile.erase name
        availableFiles := w.availableFiles ++ [file] }
      (g.remove name file) := by
  have loaded := rep.loaded_of_mapped mapped
  obtain ⟨owned, calm⟩ := rep.mapped name file mapped
  have disk := rep.disk (rep.known loaded)
  have here : (g.remove name file).owner file = none := Function.update_self _ _ _
  have others (other : String) (different : other ≠ file) :
      (g.remove name file).owner other = g.owner other := Function.update_of_ne different _ _
  have entries (other : String) (different : other ≠ name) :
      (g.remove name file).entry other = g.entry other := Function.update_of_ne different _ _
  have elsewhere {name' other : String} (owned' : g.owner other = some name')
      (different : name' ≠ name) : other ≠ file := by
    rintro rfl
    exact different (Option.some.inj (owned'.symm.trans owned))
  have erased {name' other : String} (there : (w.mapFilenameToFile.erase name).lookup name' =
      some other) : name' ≠ name ∧ w.mapFilenameToFile.lookup name' = some other := by
    by_cases same : name' = name
    · subst same
      rw [AList.lookup_erase] at there
      exact nomatch there
    · exact ⟨same, (AList.lookup_erase_ne same).symm.trans there⟩
  refine {
    allowed := rep.allowed
    disk := fun _ => disk.remove owned fresh.blank
    unknown := fun unknown => nomatch unknown.symm.trans (rep.known loaded)
    unloaded := fun unloaded => nomatch unloaded.symm.trans loaded
    nodup := ?_
    mapped := ?_
    owned := ?_
    available := ?_
    guarded := fun _ staging => nomatch idle.symm.trans staging
    staged := fun _ _ staging => nomatch idle.symm.trans staging
    quarantined := ?_
    healthy := ?_
    opened := ?_
    readable := ?_ }
  · rw [List.append_assoc, List.nodup_append]
    have nodup := rep.nodup
    rw [List.nodup_append] at nodup
    refine ⟨nodup.1, List.nodup_cons.mpr ⟨calm, nodup.2.1⟩, ?_⟩
    rintro other member _ last rfl
    rcases List.mem_cons.mp last with rfl | last
    · exact rep.mapped_ne_available mapped member rfl
    · exact nodup.2.2 other member other last rfl
  · intro name' other there
    obtain ⟨different, before⟩ := erased there
    obtain ⟨owned', calm'⟩ := rep.mapped name' other before
    exact ⟨(others other (elsewhere owned' different)).trans owned', calm'⟩
  · intro _ other name' owned'
    have different : other ≠ file := by
      rintro rfl
      exact nomatch here.symm.trans owned'
    rw [others other different] at owned'
    refine (rep.owned loaded other name' owned').imp_left fun there => ?_
    have apart : name' ≠ name := by
      rintro rfl
      exact different (Option.some.inj (there.symm.trans mapped))
    exact (AList.lookup_erase_ne apart).trans there
  · intro other member
    rcases List.mem_append.mp member with before | last
    · have different : other ≠ file := fun same => rep.mapped_ne_available mapped before same.symm
      exact ⟨(others other different).trans (rep.available other before).1,
        rep.available_insert before different⟩
    · obtain rfl := List.mem_singleton.mp last
      exact ⟨here, content, AList.lookup_insert _, .inl fresh⟩
  · intro other member
    obtain ⟨suspect, present, unsure⟩ := rep.quarantined other member
    refine ⟨suspect, mem_directory_insert present, fun name' owned' => ?_⟩
    have different : other ≠ file := by
      rintro rfl
      exact calm member
    rw [others other different] at owned'
    have apart : name' ≠ name := by
      rintro rfl
      exact different (disk.injective other file name' owned' owned)
    rw [entries name' apart]
    exact unsure name' owned'
  · intro _ sane name' data
    by_cases same : name' = name
    · subst same
      have gone : (g.remove name' file).entry name' = .absent := Function.update_self _ _ _
      rw [gone]
      exact nofun
    · rw [entries name' same]
      exact rep.healthy loaded sane name' data
  · intro name' other there inUse
    obtain ⟨different, before⟩ := erased there
    rw [entries name' different]
    exact rep.opened name' other before inUse
  · exact rep.readable_insert
      (fun other different unowned calm' => ⟨(others other different).symm.trans unowned, calm'⟩)
      fun _ _ => fresh.readable

theorem doubt (rep : Rep mode w g) {content' : SlotFile}
    (mapped : w.mapFilenameToFile.lookup name = some file) (closed : w.openCount file = 0)
    (found : w.directory.lookup file = some content) (erasing : Erasing mode content content') :
    Rep mode { w with directory := w.directory.insert file content', needsRecovery := true }
      (g.doubt name) := by
  obtain ⟨content'', here, holds⟩ := rep.content_of_mapped mapped
  obtain rfl : content = content'' := Option.some.inj (found.symm.trans here)
  exact rep.suspect.setEntry mapped (.uncertain (g.entry name).data)
    (holds.unclear.erasing erasing) (fun sane => nomatch sane) fun inUse => absurd closed inUse

theorem restore (rep : Rep mode w g) {rest : List String}
    (top : w.quarantinedFiles = rest ++ [file]) (idle : g.staging = none) (fresh : Fresh content) :
    Rep mode
      { w with
        directory := w.directory.insert file content
        quarantinedFiles := rest
        availableFiles := w.availableFiles ++ [file] }
      (g.setOwner file none) := by
  have member : file ∈ w.quarantinedFiles := by
    rw [top]
    exact List.mem_append_right _ (List.mem_singleton.mpr rfl)
  have loaded := rep.loaded_of_quarantined member
  have within {other : String} (early : other ∈ rest) : other ∈ w.quarantinedFiles := by
    rw [top]
    exact List.mem_append_left _ early
  have nodup := rep.nodup
  rw [top, ← List.append_assoc, List.nodup_append] at nodup
  obtain ⟨front, -, apart⟩ := nodup
  have fresh' (other : String) (early : other ∈ w.availableFiles ++ rest) : other ≠ file :=
    apart other early file (List.mem_singleton.mpr rfl)
  have here : (g.setOwner file none).owner file = none := Function.update_self _ _ _
  have others (other : String) (different : other ≠ file) :
      (g.setOwner file none).owner other = g.owner other := Function.update_of_ne different _ _
  have notMapped {name' other : String} (mapped : w.mapFilenameToFile.lookup name' = some other) :
      other ≠ file := by
    rintro rfl
    exact (rep.mapped name' other mapped).2 member
  refine {
    allowed := rep.allowed
    disk := fun known => (rep.disk known).abandon (rep.quarantined file member).2.2 fresh.blank
    unknown := fun unknown => nomatch unknown.symm.trans (rep.known loaded)
    unloaded := fun unloaded => nomatch unloaded.symm.trans loaded
    nodup := ?_
    mapped := ?_
    owned := ?_
    available := ?_
    guarded := fun _ staging => nomatch idle.symm.trans staging
    staged := fun _ _ staging => nomatch idle.symm.trans staging
    quarantined := ?_
    healthy := rep.healthy
    opened := rep.opened
    readable := ?_ }
  · rw [List.nodup_append] at front
    rw [List.append_assoc, List.nodup_append]
    refine ⟨front.1, List.nodup_cons.mpr ⟨fun early => ?_, front.2.1⟩, ?_⟩
    · exact fresh' file (List.mem_append_right _ early) rfl
    · rintro other early _ late rfl
      rcases List.mem_cons.mp late with rfl | late
      · exact fresh' other (List.mem_append_left _ early) rfl
      · exact front.2.2 other early other late rfl
  · intro name' other mapped
    obtain ⟨owned, calm⟩ := rep.mapped name' other mapped
    exact ⟨(others other (notMapped mapped)).trans owned, fun early => calm (within early)⟩
  · intro _ other name' owned
    have different : other ≠ file := by
      rintro rfl
      exact nomatch here.symm.trans owned
    rw [others other different] at owned
    refine (rep.owned loaded other name' owned).imp_right fun lost => ?_
    rw [top] at lost
    exact (List.mem_append.mp lost).resolve_right fun last =>
      different (List.mem_singleton.mp last)
  · intro other member'
    rcases List.mem_append.mp member' with before | last
    · have different := fresh' other (List.mem_append_left _ before)
      exact ⟨(others other different).trans (rep.available other before).1,
        rep.available_insert before different⟩
    · obtain rfl := List.mem_singleton.mp last
      exact ⟨here, content, AList.lookup_insert _, .inl fresh⟩
  · intro other early
    obtain ⟨suspect, present, unsure⟩ := rep.quarantined other (within early)
    refine ⟨suspect, mem_directory_insert present, fun name' owned => unsure name' ?_⟩
    exact (others other (fresh' other (List.mem_append_right _ early))).symm.trans owned
  · refine rep.readable_insert (fun other different unowned calm => ?_) fun _ _ => fresh.readable
    refine ⟨(others other different).symm.trans unowned, fun lost => ?_⟩
    rw [top] at lost
    rcases List.mem_append.mp lost with early | last
    · exact calm early
    · exact different (List.mem_singleton.mp last)

theorem shake (rep : Rep mode w g) {content' : SlotFile} (member : file ∈ w.quarantinedFiles)
    (found : w.directory.lookup file = some content) (erasing : Erasing mode content content') :
    Rep mode { w with directory := w.directory.insert file content' } g where
  allowed := rep.allowed
  disk known := by
    have disk := rep.disk known
    have represents := disk.slot file content found
    refine disk.insert (fun _ _ => rfl) (fun _ _ _ _ => rfl)
      (fun name' other owned different owned' =>
        different (disk.injective other file name' owned' owned)) disk.kept ?_
    rcases owned : g.owner file with _ | name'
    · exact represents_blank owned ((represents.blank owned).erasing erasing)
    · refine represents_owned owned ?_
      obtain ⟨data, unsure⟩ := (rep.quarantined file member).2.2 name' owned
      have unclear := represents.holds owned
      rw [unsure] at unclear ⊢
      exact Unclear.erasing unclear erasing
  unknown := rep.unknown
  unloaded := rep.unloaded
  nodup := rep.nodup
  mapped := rep.mapped
  owned := rep.owned
  available other member' := by
    have different : other ≠ file := by
      rintro rfl
      exact (List.nodup_append.mp rep.nodup).2.2 other member' other member rfl
    exact ⟨(rep.available other member').1, rep.available_insert member' different⟩
  guarded := rep.guarded
  staged other data staging := by
    have different : other ≠ file := by
      rintro rfl
      have member' := List.mem_of_getLast? (rep.staged other data staging).1
      exact (List.nodup_append.mp rep.nodup).2.2 other member' other member rfl
    exact rep.staged_insert staging different
  quarantined other member' := by
    obtain ⟨suspect, present, unsure⟩ := rep.quarantined other member'
    exact ⟨suspect, mem_directory_insert present, unsure⟩
  healthy := rep.healthy
  opened := rep.opened
  readable := rep.readable_insert (fun _ _ unowned calm => ⟨unowned, calm⟩)
    fun _ calm => absurd member calm

/-! ## Handles and operations -/

/-- The count of a slot changes, with a file behind it if the slot has a name. -/
theorem counted (rep : Rep mode w g) {openCount : String → Nat}
    (opened : ∀ name file, w.mapFilenameToFile.lookup name = some file → openCount file ≠ 0 →
      ∃ temporary durable data, g.entry name = .present temporary durable data) :
    Rep mode { w with openCount } g where
  allowed := rep.allowed
  disk := rep.disk
  unknown := rep.unknown
  unloaded := rep.unloaded
  nodup := rep.nodup
  mapped := rep.mapped
  owned := rep.owned
  available := rep.available
  guarded := rep.guarded
  staged := rep.staged
  quarantined := rep.quarantined
  healthy := rep.healthy
  opened := opened
  readable := rep.readable

theorem opening (rep : Rep mode w g) (mapped : w.mapFilenameToFile.lookup name = some file)
    (present : ∃ temporary durable data, g.entry name = .present temporary durable data) :
    Rep mode
      { w with openCount := Function.update w.openCount file (w.openCount file + 1) } g := by
  refine rep.counted fun name' other mapped' inUse => ?_
  by_cases same : other = file
  · subst same
    have owned := (rep.mapped name other mapped).1
    obtain rfl := Option.some.inj (owned.symm.trans (rep.mapped name' other mapped').1)
    exact present
  · rw [Function.update_of_ne same] at inUse
    exact rep.opened name' other mapped' inUse

theorem closing (rep : Rep mode w g) (file : String) :
    Rep mode
      { w with openCount := Function.update w.openCount file (w.openCount file - 1) } g := by
  refine rep.counted fun name other mapped inUse => rep.opened name other mapped ?_
  by_cases same : other = file
  · subst same
    rw [Function.update_self] at inUse
    omega
  · rw [Function.update_of_ne same] at inUse
    exact inUse

theorem guard (rep : Rep mode w g) {busy : Bool} (idle : busy = false → g.staging = none) :
    Rep mode { w with busy } g where
  allowed := rep.allowed
  disk := rep.disk
  unknown := rep.unknown
  unloaded := rep.unloaded
  nodup := rep.nodup
  mapped := rep.mapped
  owned := rep.owned
  available := rep.available
  guarded staged staging := by
    by_contra free
    exact nomatch staging.symm.trans (idle (Bool.eq_false_iff.mpr free))
  staged := rep.staged
  quarantined := rep.quarantined
  healthy := rep.healthy
  opened := rep.opened
  readable := rep.readable

end Rep

/-! ## Every move keeps a pool faithful -/

theorem Rep.move (rep : Rep mode w g) (move : Move mode w g w' g') : Rep mode w' g' := by
  cases move with
  | env env allowed => exact { rep with allowed }
  | suspect => exact rep.suspect
  | trust loaded noFiles noneLeft => exact rep.trust loaded noFiles noneLeft
  | touch file content held found => exact rep.touch found
  | flush file content held found => exact rep.flush found
  | write name file content offset bytes mapped inUse found inside nonempty =>
      obtain ⟨temporary, durable, data, entry⟩ := rep.opened name file mapped inUse
      obtain ⟨content', here, holds⟩ := rep.content_of_mapped mapped
      obtain rfl : content = content' := Option.some.inj (found.symm.trans here)
      rw [entry] at holds
      unfold Ledger.write
      rw [if_neg nonempty, entry]
      exact rep.setEntry mapped _ (Named.write holds inside nonempty) (fun _ _ => nofun)
        fun _ => ⟨_, _, _, rfl⟩
  | resize name file content size mapped inUse found inside =>
      obtain ⟨temporary, durable, data, entry⟩ := rep.opened name file mapped inUse
      obtain ⟨content', here, holds⟩ := rep.content_of_mapped mapped
      obtain rfl : content = content' := Option.some.inj (found.symm.trans here)
      rw [entry] at holds
      unfold Ledger.resize
      rw [entry]
      exact rep.setEntry mapped _ (Named.truncate holds inside) (fun _ _ => nofun)
        fun _ => ⟨_, _, _, rfl⟩
  | fill file data content offset bytes staging found inside nonempty =>
      obtain ⟨-, content', here, staged⟩ := rep.staged file data staging
      obtain rfl : content = content' := Option.some.inj (found.symm.trans here)
      exact rep.fill staging (staged.write inside nonempty)
  | assign name file rest temporary data content healthy top vacant named =>
      exact rep.assign healthy top vacant named
  | renew file content member only fresh => exact rep.renew member only fresh
  | quarantine file rest content top blank => exact rep.quarantine top blank
  | mislay name file rest data content healthy top vacant unclear =>
      exact rep.mislay healthy top vacant unclear
  | free name file content mapped closed idle fresh => exact rep.free mapped idle fresh
  | doubt name file content content' mapped closed found erasing =>
      exact rep.doubt mapped closed found erasing
  | restore file rest content top idle fresh => exact rep.restore top idle fresh
  | shake file content content' member found erasing => exact rep.shake member found erasing

end Sahpool

end SqliteVfs
