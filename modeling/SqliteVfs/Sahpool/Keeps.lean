import SqliteVfs.Sahpool.HandleRun
import SqliteVfs.Sahpool.Moves

/-!
# What the calls on a pool keep

`Frame` is what no move changes: the slots that the pool holds stay the same, everything
outside them stays as it is, and a slot with open handles keeps its name and its header.
`Evolves` is a faithful pool that has changed within that frame, with the names whose
entries may have changed.  `Keeps` says that a program ends so; when the run is ended from
outside, the directory is that of some pool that has evolved so.
-/

set_option autoImplicit false

namespace SqliteVfs

namespace Sahpool

def Only (name : String) : String → Prop := fun other => other = name

theorem only_self (name : String) : Only name name := rfl

variable {mode : Mode} {reach reach' : String → Prop} {w w' w'' : World} {g g' g'' : Ledger}
  {file name : String} {content : SlotFile}

/-! ## What a move leaves alone -/

/-- Everything but the slots and what is remembered about them. -/
structure SameSettings (w w' : World) : Prop where
  openCount : w'.openCount = w.openCount
  busy : w'.busy = w.busy
  state : w'.state = w.state
  registry : w'.registry = w.registry
  lease : w'.lease = w.lease
  name : w'.name = w.name
  makeDefault : w'.makeDefault = w.makeDefault
  registration : w'.registration = w.registration

theorem SameSettings.refl (w : World) : SameSettings w w := ⟨rfl, rfl, rfl, rfl, rfl, rfl, rfl, rfl⟩

theorem SameSettings.trans (first : SameSettings w w') (second : SameSettings w' w'') :
    SameSettings w w'' where
  openCount := second.openCount.trans first.openCount
  busy := second.busy.trans first.busy
  state := second.state.trans first.state
  registry := second.registry.trans first.registry
  lease := second.lease.trans first.lease
  name := second.name.trans first.name
  makeDefault := second.makeDefault.trans first.makeDefault
  registration := second.registration.trans first.registration

/-- A mapped slot with open handles keeps its name and its header. -/
def Pinned (w w' : World) : Prop :=
  ∀ name file content, w.mapFilenameToFile.lookup name = some file → w.openCount file ≠ 0 →
    w.directory.lookup file = some content →
    w'.mapFilenameToFile.lookup name = some file ∧
      ∃ content', w'.directory.lookup file = some content' ∧ SameHeader content content'

theorem SameHeader.trans {content' content'' : SlotFile} (first : SameHeader content content')
    (second : SameHeader content' content'') : SameHeader content content'' :=
  ⟨second.fits, second.header.trans first.header⟩

structure Frame (w : World) (g : Ledger) (w' : World) (g' : Ledger) : Prop where
  settings : SameSettings w w'
  held : w'.held.Perm w.held
  elsewhere : ∀ file, file ∉ w.held → w'.directory.lookup file = w.directory.lookup file
  files : ∀ file, file ∈ w'.directory ↔ file ∈ w.directory
  loaded : g'.loaded = g.loaded
  known : g'.known = g.known
  idle : g.staging = none → g'.staging = none
  pinned : Pinned w w'

theorem Rep.fits_of_open (rep : Rep mode w g) (mapped : w.mapFilenameToFile.lookup name = some file)
    (inUse : w.openCount file ≠ 0) (found : w.directory.lookup file = some content) :
    Fits content.contents := by
  obtain ⟨temporary, durable, data, entry⟩ := rep.opened name file mapped inUse
  obtain ⟨content', here, holds⟩ := rep.content_of_mapped mapped
  obtain rfl : content = content' := Option.some.inj (found.symm.trans here)
  rw [entry] at holds
  exact (Named.sees holds).contents.1

theorem Pinned.refl (rep : Rep mode w g) : Pinned w w :=
  fun _ _ content mapped inUse found =>
    ⟨mapped, content, found, .refl (rep.fits_of_open mapped inUse found)⟩

theorem Frame.refl (rep : Rep mode w g) : Frame w g w g where
  settings := .refl w
  held := .refl _
  elsewhere _ _ := rfl
  files _ := Iff.rfl
  loaded := rfl
  known := rfl
  idle := id
  pinned := .refl rep

theorem Frame.trans (first : Frame w g w' g') (second : Frame w' g' w'' g'') :
    Frame w g w'' g'' where
  settings := first.settings.trans second.settings
  held := second.held.trans first.held
  elsewhere file absent := by
    have absent' : file ∉ w'.held := fun member => absent (first.held.subset member)
    exact (second.elsewhere file absent').trans (first.elsewhere file absent)
  files file := (second.files file).trans (first.files file)
  loaded := second.loaded.trans first.loaded
  known := second.known.trans first.known
  idle free := second.idle (first.idle free)
  pinned name file content mapped inUse found := by
    obtain ⟨mapped', content', found', same⟩ := first.pinned name file content mapped inUse found
    have inUse' : w'.openCount file ≠ 0 := by
      rw [first.settings.openCount]
      exact inUse
    obtain ⟨mapped'', content'', found'', same'⟩ :=
      second.pinned name file content' mapped' inUse' found'
    exact ⟨mapped'', content'', found'', same.trans same'⟩

theorem mem_held_available (member : file ∈ w.availableFiles) : file ∈ w.held :=
  List.mem_append_left _ (List.mem_append_left _ member)

theorem mem_held_quarantined (member : file ∈ w.quarantinedFiles) : file ∈ w.held :=
  List.mem_append_right _ member

theorem mem_held_mapped (mapped : w.mapFilenameToFile.lookup name = some file) :
    file ∈ w.held := by
  refine List.mem_append_left _ (List.mem_append_right _ ?_)
  exact List.mem_map.mpr ⟨⟨name, file⟩, AList.mem_lookup_iff.mp mapped, rfl⟩

theorem mem_held : file ∈ w.held ↔ file ∈ w.availableFiles ∨
    (∃ name, w.mapFilenameToFile.lookup name = some file) ∨ file ∈ w.quarantinedFiles := by
  constructor
  · intro member
    rcases List.mem_append.mp member with member | quarantined
    · rcases List.mem_append.mp member with available | mapped
      · exact .inl available
      · obtain ⟨⟨name, other⟩, entry, rfl⟩ := List.mem_map.mp mapped
        exact .inr (.inl ⟨name, AList.mem_lookup_iff.mpr entry⟩)
    · exact .inr (.inr quarantined)
  · rintro (available | ⟨name, mapped⟩ | quarantined)
    · exact mem_held_available available
    · exact mem_held_mapped mapped
    · exact mem_held_quarantined quarantined

theorem Rep.mem_directory (rep : Rep mode w g) (member : file ∈ w.held) : file ∈ w.directory := by
  rcases mem_held.mp member with available | ⟨name, mapped⟩ | quarantined
  · obtain ⟨-, content, found, -⟩ := rep.available file available
    exact AList.lookup_isSome.mp (by rw [found]; rfl)
  · obtain ⟨content, found, -⟩ := rep.content_of_mapped mapped
    exact AList.lookup_isSome.mp (by rw [found]; rfl)
  · exact (rep.quarantined file quarantined).2.1

theorem elsewhere_insert (member : file ∈ w.held) (other : String) (absent : other ∉ w.held) :
    (w.directory.insert file content).lookup other = w.directory.lookup other :=
  AList.lookup_insert_ne fun same => absent (same ▸ member)

theorem files_insert (there : file ∈ w.directory) (other : String) :
    other ∈ w.directory.insert file content ↔ other ∈ w.directory := by
  rw [AList.mem_insert]
  exact ⟨fun either => either.elim (fun same => same ▸ there) id, .inr⟩

theorem pinned_insert (rep : Rep mode w g) {content' : SlotFile}
    (directory : w'.directory = w.directory.insert file content')
    (names : ∀ name other, w.mapFilenameToFile.lookup name = some other →
      w.openCount other ≠ 0 → w'.mapFilenameToFile.lookup name = some other)
    (same : ∀ name content, w.mapFilenameToFile.lookup name = some file →
      w.openCount file ≠ 0 → w.directory.lookup file = some content →
      SameHeader content content') : Pinned w w' := by
  intro name other content mapped inUse found
  refine ⟨names name other mapped inUse, ?_⟩
  rw [directory]
  by_cases here : other = file
  · subst here
    exact ⟨content', AList.lookup_insert _, same name content mapped inUse found⟩
  · exact ⟨content, (AList.lookup_insert_ne here).trans found,
      .refl (rep.fits_of_open mapped inUse found)⟩

/-- A slot that the pool holds changes, and nothing else that the frame is about. -/
theorem Frame.insert (rep : Rep mode w g) (member : file ∈ w.held) {content' : SlotFile}
    (settings : SameSettings w w') (directory : w'.directory = w.directory.insert file content')
    (held : w'.held.Perm w.held) (ledger : g'.loaded = g.loaded ∧ g'.known = g.known)
    (idle : g.staging = none → g'.staging = none)
    (names : ∀ name other, w.mapFilenameToFile.lookup name = some other →
      w.openCount other ≠ 0 → w'.mapFilenameToFile.lookup name = some other)
    (same : ∀ name content, w.mapFilenameToFile.lookup name = some file →
      w.openCount file ≠ 0 → w.directory.lookup file = some content →
      SameHeader content content') : Frame w g w' g' where
  settings := settings
  held := held
  elsewhere other absent := by
    rw [directory]
    exact elsewhere_insert member other absent
  files other := by
    rw [directory]
    exact files_insert (rep.mem_directory member) other
  loaded := ledger.1
  known := ledger.2
  idle := idle
  pinned := pinned_insert rep directory names same

/-! ## The slots of a pool, rearranged -/

theorem values_insert {map : AList fun _ : String => String} (vacant : name ∉ map) :
    (map.insert name file).entries.map Sigma.snd = file :: map.entries.map Sigma.snd := by
  rw [AList.entries_insert_of_notMem vacant]
  rfl

theorem values_erase {map : AList fun _ : String => String} (mapped : map.lookup name = some file) :
    (map.entries.map Sigma.snd).Perm (file :: (map.erase name).entries.map Sigma.snd) := by
  have entry : (⟨name, file⟩ : Sigma fun _ : String => String) ∈ map.entries :=
    AList.mem_lookup_iff.mp mapped
  obtain ⟨other, before, after, absent, split, erased⟩ :=
    List.exists_of_kerase (List.mem_keys_of_mem entry)
  have same : other = file := by
    have there : (⟨name, other⟩ : Sigma fun _ : String => String) ∈ map.entries := by
      rw [split]
      exact List.mem_append_right _ List.mem_cons_self
    exact Option.some.inj ((AList.mem_lookup_iff.mpr there).symm.trans mapped)
  have rest : (map.erase name).entries = before ++ after := erased
  rw [rest, split, same, List.map_append, List.map_append, List.map_cons]
  exact List.perm_middle

theorem held_assign {rest : List String} (top : w.availableFiles = rest ++ [file])
    (vacant : name ∉ w.mapFilenameToFile) :
    (rest ++ (w.mapFilenameToFile.insert name file).entries.map Sigma.snd ++
      w.quarantinedFiles).Perm w.held := by
  unfold World.held
  rw [top, values_insert vacant, List.append_assoc rest [file]]
  rfl

theorem held_quarantine {rest : List String} (top : w.availableFiles = rest ++ [file]) :
    (rest ++ w.mapFilenameToFile.entries.map Sigma.snd ++
      (w.quarantinedFiles ++ [file])).Perm w.held := by
  unfold World.held
  rw [top, ← List.append_assoc]
  refine List.perm_append_comm.trans ?_
  rw [List.singleton_append, List.append_assoc rest [file], List.append_assoc rest,
    List.append_assoc rest]
  exact List.perm_middle.symm

theorem held_free (mapped : w.mapFilenameToFile.lookup name = some file) :
    (w.availableFiles ++ [file] ++ (w.mapFilenameToFile.erase name).entries.map Sigma.snd ++
      w.quarantinedFiles).Perm w.held := by
  unfold World.held
  rw [List.append_assoc w.availableFiles [file]]
  exact ((values_erase mapped).symm.append_left _).append_right _

theorem held_restore {rest : List String} (top : w.quarantinedFiles = rest ++ [file]) :
    (w.availableFiles ++ [file] ++ w.mapFilenameToFile.entries.map Sigma.snd ++ rest).Perm
      w.held := by
  unfold World.held
  rw [top, ← List.append_assoc _ rest [file]]
  refine List.Perm.trans ?_ List.perm_append_comm
  rw [List.singleton_append, List.append_assoc w.availableFiles [file], List.singleton_append,
    List.append_assoc, List.cons_append, List.append_assoc w.availableFiles]
  exact List.perm_middle

/-! ## The frame of a move -/

theorem SameSettings.slots (w : World) (env : Env) (directory : AList fun _ : String => SlotFile)
    (available : List String) (files : AList fun _ : String => String)
    (quarantined : List String) (suspect : Bool) :
    SameSettings w { w with
      env := env, directory := directory, availableFiles := available,
      mapFilenameToFile := files, quarantinedFiles := quarantined, needsRecovery := suspect } :=
  ⟨rfl, rfl, rfl, rfl, rfl, rfl, rfl, rfl⟩

theorem Frame.of_same (rep : Rep mode w g) (settings : SameSettings w w')
    (directory : w'.directory = w.directory) (available : w'.availableFiles = w.availableFiles)
    (files : w'.mapFilenameToFile = w.mapFilenameToFile)
    (quarantined : w'.quarantinedFiles = w.quarantinedFiles)
    (ledger : g'.loaded = g.loaded ∧ g'.known = g.known ∧
      (g.staging = none → g'.staging = none)) : Frame w g w' g' where
  settings := settings
  held := by
    unfold World.held
    rw [available, files, quarantined]
  elsewhere _ _ := by rw [directory]
  files _ := by rw [directory]
  loaded := ledger.1
  known := ledger.2.1
  idle := ledger.2.2
  pinned name file content mapped inUse found := by
    rw [directory, files]
    exact ⟨mapped, content, found, .refl (rep.fits_of_open mapped inUse found)⟩

theorem Move.frame (rep : Rep mode w g) (move : Move mode w g w' g') : Frame w g w' g' := by
  have slots {env : Env} {directory : AList fun _ : String => SlotFile} {available : List String}
      {files : AList fun _ : String => String} {quarantined : List String} {suspect : Bool} :=
    SameSettings.slots w env directory available files quarantined suspect
  -- A slot that is not mapped is not open, and one that is closed is not pinned.
  have unnamed {file : String} {content' : SlotFile}
      (unmapped : ∀ name, w.mapFilenameToFile.lookup name ≠ some file) :
      ∀ name content, w.mapFilenameToFile.lookup name = some file → w.openCount file ≠ 0 →
        w.directory.lookup file = some content → SameHeader content content' :=
    fun name _ mapped => absurd mapped (unmapped name)
  have spare {file : String} (member : file ∈ w.availableFiles) (name : String) :
      w.mapFilenameToFile.lookup name ≠ some file :=
    fun mapped => rep.mapped_ne_available mapped member rfl
  have lost {file : String} (member : file ∈ w.quarantinedFiles) (name : String) :
      w.mapFilenameToFile.lookup name ≠ some file :=
    fun mapped => (rep.mapped name file mapped).2 member
  have shut {file : String} {content' : SlotFile} (closed : w.openCount file = 0) :
      ∀ name content, w.mapFilenameToFile.lookup name = some file → w.openCount file ≠ 0 →
        w.directory.lookup file = some content → SameHeader content content' :=
    fun _ _ _ inUse => absurd closed inUse
  cases move with
  | env env allowed => exact .of_same rep slots rfl rfl rfl rfl ⟨rfl, rfl, id⟩
  | suspect => exact .of_same rep slots rfl rfl rfl rfl ⟨rfl, rfl, id⟩
  | trust loaded noFiles noneLeft =>
      exact .of_same rep slots rfl rfl rfl rfl ⟨rfl, rfl, id⟩
  | touch file content held found =>
      refine .insert rep held slots rfl (.refl _) ⟨rfl, rfl⟩ id (fun _ _ mapped _ => mapped)
        fun name content' mapped inUse here => ?_
      obtain rfl : content = content' := Option.some.inj (found.symm.trans here)
      exact .refl (rep.fits_of_open mapped inUse here)
  | flush file content held found =>
      refine .insert rep held slots rfl (.refl _) ⟨rfl, rfl⟩ id
        (fun _ _ mapped _ => mapped) fun name content' mapped inUse here => ?_
      obtain rfl : content = content' := Option.some.inj (found.symm.trans here)
      exact .flush (rep.fits_of_open mapped inUse here)
  | write name file content offset bytes mapped inUse found inside nonempty =>
      refine .insert rep (mem_held_mapped mapped) slots rfl
        (.refl _) ?_ ?_ (fun _ _ mapped _ => mapped) fun name content' mapped inUse here => ?_
      · unfold Ledger.write
        rw [if_neg nonempty]
        exact ⟨rfl, rfl⟩
      · unfold Ledger.write
        rw [if_neg nonempty]
        exact id
      · obtain rfl : content = content' := Option.some.inj (found.symm.trans here)
        exact .write (rep.fits_of_open mapped inUse here) (inRange_iff.mpr inside)
  | resize name file content size mapped inUse found inside =>
      refine .insert rep (mem_held_mapped mapped) slots rfl
        (.refl _) ⟨rfl, rfl⟩ id (fun _ _ mapped _ => mapped)
        fun name content' mapped inUse here => ?_
      obtain rfl : content = content' := Option.some.inj (found.symm.trans here)
      exact .truncate (rep.fits_of_open mapped inUse here) (inRange_iff.mpr inside)
  | fill file data content offset bytes staging found inside nonempty =>
      have member := List.mem_of_getLast? (rep.staged file data staging).1
      exact .insert rep (mem_held_available member) slots rfl
        (.refl _) ⟨rfl, rfl⟩ (fun free => nomatch free.symm.trans staging)
        (fun _ _ mapped _ => mapped) (unnamed (spare member))
  | assign name file rest temporary data content healthy top vacant named =>
      have member := Rep.mem_top top
      refine .insert rep (mem_held_available member) slots rfl
        (held_assign top vacant) ⟨rfl, rfl⟩ (fun _ => rfl) (fun other slot mapped _ => ?_)
        (unnamed (spare member))
      refine (AList.lookup_insert_ne ?_).trans mapped
      rintro rfl
      exact vacant (AList.lookup_isSome.mp (by rw [mapped]; rfl))
  | renew file content member only fresh =>
      exact .insert rep (mem_held_available member) slots rfl
        (.refl _) ⟨rfl, rfl⟩ (fun _ => rfl) (fun _ _ mapped _ => mapped) (unnamed (spare member))
  | quarantine file rest content top blank =>
      have member := Rep.mem_top top
      exact .insert rep (mem_held_available member) slots rfl
        (held_quarantine top) ⟨rfl, rfl⟩ (fun _ => rfl) (fun _ _ mapped _ => mapped)
        (unnamed (spare member))
  | mislay name file rest data content healthy top vacant unclear =>
      have member := Rep.mem_top top
      exact .insert rep (mem_held_available member) slots rfl
        (held_quarantine top) ⟨rfl, rfl⟩ (fun _ => rfl) (fun _ _ mapped _ => mapped)
        (unnamed (spare member))
  | free name file content mapped closed idle fresh =>
      refine .insert rep (mem_held_mapped mapped) slots rfl
        (held_free mapped) ⟨rfl, rfl⟩ id (fun other slot mapped' inUse => ?_) (shut closed)
      refine (AList.lookup_erase_ne ?_).trans mapped'
      rintro rfl
      obtain rfl : file = slot := Option.some.inj (mapped.symm.trans mapped')
      exact inUse closed
  | doubt name file content content' mapped closed found erasing =>
      exact .insert rep (mem_held_mapped mapped) slots rfl
        (.refl _) ⟨rfl, rfl⟩ id (fun _ _ mapped _ => mapped) (shut closed)
  | restore file rest content top idle fresh =>
      have member : file ∈ w.quarantinedFiles := by
        rw [top]
        exact List.mem_append_right _ (List.mem_singleton.mpr rfl)
      exact .insert rep (mem_held_quarantined member) slots rfl
        (held_restore top) ⟨rfl, rfl⟩ id (fun _ _ mapped _ => mapped) (unnamed (lost member))
  | shake file content content' member found erasing =>
      exact .insert rep (mem_held_quarantined member) slots rfl
        (.refl _) ⟨rfl, rfl⟩ id (fun _ _ mapped _ => mapped) (unnamed (lost member))

/-! ## Slots that a move leaves alone -/

theorem apart_touch (found : w.directory.lookup file = some content) (other : String) :
    (w.directory.insert file content).lookup other = w.directory.lookup other := by
  by_cases same : other = file
  · subst same
    rw [AList.lookup_insert, found]
  · exact AList.lookup_insert_ne same

theorem apart_slot {content' : SlotFile}
    (unmapped : ∀ name, ¬ reach name → w.mapFilenameToFile.lookup name ≠ some file)
    (name other : String) (outside : ¬ reach name)
    (mapped : w.mapFilenameToFile.lookup name = some other) :
    (w.directory.insert file content').lookup other = w.directory.lookup other := by
  apply AList.lookup_insert_ne
  rintro rfl
  exact unmapped name outside mapped

theorem Rep.apart_mapped (rep : Rep mode w g) (mapped : w.mapFilenameToFile.lookup name = some file)
    (inside : reach name) {content' : SlotFile} (name' other : String) (outside : ¬ reach name')
    (mapped' : w.mapFilenameToFile.lookup name' = some other) :
    (w.directory.insert file content').lookup other = w.directory.lookup other := by
  refine apart_slot (fun another out here => ?_) name' other outside mapped'
  have owned := (rep.mapped another file here).1
  rw [(rep.mapped name file mapped).1] at owned
  cases owned
  exact out inside

theorem Rep.apart_available (rep : Rep mode w g) (member : file ∈ w.availableFiles)
    {content' : SlotFile} (name other : String) (outside : ¬ reach name)
    (mapped : w.mapFilenameToFile.lookup name = some other) :
    (w.directory.insert file content').lookup other = w.directory.lookup other :=
  apart_slot (fun _ _ here => rep.mapped_ne_available here member rfl) name other outside mapped

theorem Rep.apart_quarantined (rep : Rep mode w g) (member : file ∈ w.quarantinedFiles)
    {content' : SlotFile} (name other : String) (outside : ¬ reach name)
    (mapped : w.mapFilenameToFile.lookup name = some other) :
    (w.directory.insert file content').lookup other = w.directory.lookup other :=
  apart_slot (fun another _ here => (rep.mapped another file here).2 member) name other outside
    mapped

theorem Move.mapped (rep : Rep mode w g) (move : Move mode w g w' g')
    (mapped : w.mapFilenameToFile.lookup name = some file) (same : g'.entry name = g.entry name) :
    w'.mapFilenameToFile.lookup name = some file := by
  cases move with
  | assign name' file' rest temporary data content healthy top vacant named =>
      have different : name ≠ name' := by
        rintro rfl
        exact vacant (AList.lookup_isSome.mp (by rw [mapped]; rfl))
      exact (AList.lookup_insert_ne different).trans mapped
  | free name' file' content mapped' closed idle fresh =>
      have different : name ≠ name' := by
        rintro rfl
        obtain ⟨content', found, holds⟩ := rep.content_of_mapped mapped
        have absent : g.entry name = .absent := by
          rw [← same]
          exact Function.update_self _ _ _
        rw [absent] at holds
        exact holds
      exact (AList.lookup_erase_ne different).trans mapped
  | _ => exact mapped

/-! ## Pools that have changed -/

structure Evolves (mode : Mode) (reach : String → Prop) (w : World) (g : Ledger) (w' : World)
    (g' : Ledger) : Prop where
  rep : Rep mode w' g'
  frame : Frame w g w' g'
  entries : ∀ name, ¬ reach name → g'.entry name = g.entry name
  slots : ∀ name file, ¬ reach name → w.mapFilenameToFile.lookup name = some file →
    w'.mapFilenameToFile.lookup name = some file ∧
      w'.directory.lookup file = w.directory.lookup file

namespace Evolves

theorem refl (rep : Rep mode w g) : Evolves mode reach w g w g :=
  ⟨rep, .refl rep, fun _ _ => rfl, fun _ _ _ mapped => ⟨mapped, rfl⟩⟩

theorem move (rep : Rep mode w g) (move : Move mode w g w' g')
    (outside : ∀ name, ¬ reach name → g'.entry name = g.entry name)
    (apart : ∀ name file, ¬ reach name → w.mapFilenameToFile.lookup name = some file →
      w'.directory.lookup file = w.directory.lookup file) :
    Evolves mode reach w g w' g' where
  rep := rep.move move
  frame := move.frame rep
  entries := outside
  slots name file out mapped := ⟨move.mapped rep mapped (outside name out),
    apart name file out mapped⟩

theorem trans (first : Evolves mode reach w g w' g') (second : Evolves mode reach w' g' w'' g'') :
    Evolves mode reach w g w'' g'' where
  rep := second.rep
  frame := first.frame.trans second.frame
  entries name outside := (second.entries name outside).trans (first.entries name outside)
  slots name file outside mapped := by
    obtain ⟨mapped', same⟩ := first.slots name file outside mapped
    obtain ⟨mapped'', same'⟩ := second.slots name file outside mapped'
    exact ⟨mapped'', same'.trans same⟩

theorem wider (evolves : Evolves mode reach w g w' g') (wider : ∀ name, reach name → reach' name) :
    Evolves mode reach' w g w' g' :=
  ⟨evolves.rep, evolves.frame, fun name outside => evolves.entries name (mt (wider name) outside),
    fun name file outside => evolves.slots name file (mt (wider name) outside)⟩

/-- An answer of the surroundings has been used up. -/
theorem asked (rep : Rep mode w g) {env : Env}
    (allowed : ∀ reply ∈ env.replies, Reply.Allowed mode reply) :
    Evolves mode reach w g { w with env } g :=
  .move rep (.env w g env allowed) (fun _ _ => rfl) fun _ _ _ _ => rfl

theorem rep_asked (rep : Rep mode w g) {env : Env}
    (allowed : ∀ reply ∈ env.replies, Reply.Allowed mode reply) : Rep mode { w with env } g := by
  have evolves : Evolves mode (fun _ => True) w g { w with env } g := .asked rep allowed
  exact evolves.rep

end Evolves

theorem update_outside (inside : reach name) (entry : Entry) (other : String)
    (outside : ¬ reach other) : Function.update g.entry name entry other = g.entry other := by
  have different : other ≠ name := by
    rintro rfl
    exact outside inside
  exact Function.update_of_ne different _ _

/-! ## Programs that keep a pool faithful -/

/-- `x` ends on a pool that has evolved within `reach`. -/
def Keeps {ε α : Type} (mode : Mode) (reach : String → Prop) (x : Prog World ε α) (w : World)
    (g : Ledger) (returns : α → World → Ledger → Prop) (fails : ε → World → Ledger → Prop) : Prop :=
  Prog.Ends x w (fun value w' => ∃ g', Evolves mode reach w g w' g' ∧ returns value w' g')
    (fun error w' => ∃ g', Evolves mode reach w g w' g' ∧ fails error w' g')
    (fun w' => ∃ w₁ g₁, Evolves mode reach w g w₁ g₁ ∧ w₁.directory = w'.directory)

namespace Keeps

variable {ε ε' α β : Type} {x : Prog World ε α} {returns returns' : α → World → Ledger → Prop}
  {fails fails' : ε → World → Ledger → Prop}

theorem pure {value : α} (rep : Rep mode w g) (holds : returns value w g) :
    Keeps mode reach (Pure.pure value : Prog World ε α) w g returns fails :=
  Prog.Ends.pure ⟨g, .refl rep, holds⟩

theorem fail {error : ε} (rep : Rep mode w g) (holds : fails error w g) :
    Keeps mode reach (Prog.fail error : Prog World ε α) w g returns fails :=
  Prog.Ends.fail ⟨g, .refl rep, holds⟩

theorem mono (keeps : Keeps mode reach x w g returns fails)
    (onReturn : ∀ value w' g', returns value w' g' → returns' value w' g')
    (onFail : ∀ error w' g', fails error w' g' → fails' error w' g') :
    Keeps mode reach x w g returns' fails' := by
  refine Prog.Ends.mono keeps ?_ ?_ fun _ crashed => crashed
  · rintro value w' ⟨g', evolves, holds⟩
    exact ⟨g', evolves, onReturn value w' g' holds⟩
  · rintro error w' ⟨g', evolves, holds⟩
    exact ⟨g', evolves, onFail error w' g' holds⟩

theorem wider (keeps : Keeps mode reach x w g returns fails)
    (wider : ∀ name, reach name → reach' name) : Keeps mode reach' x w g returns fails := by
  refine Prog.Ends.mono keeps ?_ ?_ ?_
  · rintro value w' ⟨g', evolves, holds⟩
    exact ⟨g', evolves.wider wider, holds⟩
  · rintro error w' ⟨g', evolves, holds⟩
    exact ⟨g', evolves.wider wider, holds⟩
  · rintro w' ⟨w₁, g₁, evolves, same⟩
    exact ⟨w₁, g₁, evolves.wider wider, same⟩

theorem after (before : Evolves mode reach w g w' g')
    (keeps : Keeps mode reach x w' g' returns fails) :
    Prog.Ends x w' (fun value last => ∃ g', Evolves mode reach w g last g' ∧ returns value last g')
      (fun error last => ∃ g', Evolves mode reach w g last g' ∧ fails error last g')
      (fun last => ∃ w₁ g₁, Evolves mode reach w g w₁ g₁ ∧ w₁.directory = last.directory) := by
  refine Prog.Ends.mono keeps ?_ ?_ ?_
  · rintro value last ⟨g', later, holds⟩
    exact ⟨g', before.trans later, holds⟩
  · rintro error last ⟨g', later, holds⟩
    exact ⟨g', before.trans later, holds⟩
  · rintro last ⟨w₁, g₁, later, same⟩
    exact ⟨w₁, g₁, before.trans later, same⟩

theorem bind {f : α → Prog World ε β} {result : β → World → Ledger → Prop}
    (first : Keeps mode reach x w g returns fails)
    (rest : ∀ value w' g', Evolves mode reach w g w' g' → returns value w' g' →
      Keeps mode reach (f value) w' g' result fails) :
    Keeps mode reach (x >>= f) w g result fails := by
  refine Prog.Ends.bind first ?_
  rintro value w' ⟨g', evolves, holds⟩
  exact (rest value w' g' evolves holds).after evolves

theorem get_bind {f : World → Prog World ε β} {result : β → World → Ledger → Prop}
    (rest : Keeps mode reach (f w) w g result fails) :
    Keeps mode reach (Prog.get >>= f) w g result fails := rest

theorem mapErr {f : ε → ε'} {fails' : ε' → World → Ledger → Prop}
    (keeps : Keeps mode reach x w g returns (fun error => fails' (f error))) :
    Keeps mode reach (Prog.mapErr f x) w g returns fails' :=
  Prog.Ends.mapErr keeps

theorem ite {c : Prop} [Decidable c] {y : Prog World ε α}
    (yes : c → Keeps mode reach x w g returns fails)
    (no : ¬ c → Keeps mode reach y w g returns fails) :
    Keeps mode reach (if c then x else y) w g returns fails :=
  Prog.Ends.ite yes no

end Keeps

/-! ## Calls on one slot -/

/-- What an operation of a slot does to the world around it. -/
theorem onSlot_ends {ε α : Type} {x : SlotM ε α} {returns : α → SlotFile → Prop}
    {stops : SlotFile → Prop} (found : w.directory.lookup file = some content)
    (does : Does mode x ⟨content, w.env.replies⟩ returns stops) :
    Prog.Ends (onSlot file x) w
      (fun value w' => ∃ content' replies, (∀ reply ∈ replies, Reply.Allowed mode reply) ∧
        w' = w.after file content' replies ∧ returns value content')
      (fun _ w' => ∃ content' replies, (∀ reply ∈ replies, Reply.Allowed mode reply) ∧
        w' = w.after file content' replies ∧ stops content')
      (fun w' => ∃ content' replies, w' = w.after file content' replies ∧ stops content') := by
  unfold Prog.Ends Prog.wp onSlot
  dsimp only
  rw [found]
  dsimp only
  unfold Does Prog.Ends Prog.wp at does
  rcases run : x.run ⟨content, w.env.replies⟩ with ⟨value | error | ⟨⟨⟩⟩, next⟩
  · rw [run] at does
    exact ⟨next.file, next.replies, does.1, rfl, does.2⟩
  · rw [run] at does
    exact ⟨next.file, next.replies, does.1, rfl, does.2⟩
  · rw [run] at does
    exact does.elim
  · rw [run] at does
    exact ⟨next.file, next.replies, rfl, does⟩

end Sahpool

end SqliteVfs
