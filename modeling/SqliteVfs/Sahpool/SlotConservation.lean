import SqliteVfs.Sahpool.PinnedSlots

/-!
# Conservation of slots

A slot that the pool holds is in exactly one of its three collections.  Turns move slots
between the collections; only work on the capacity and on the lifecycle of the pool changes
which slots it holds.
-/

set_option autoImplicit false

namespace SqliteVfs

namespace Sahpool

variable {mode : Mode} {s s' : System} {w w' : World} {g g' : Ledger} {file filename : String}
  {event : Event} {outcome : Outcome Failure Answer}

/-! ## Once each -/

theorem World.capacity_eq (w : World) : w.capacity = w.held.length := by
  unfold World.capacity World.held
  rw [List.length_append, List.length_append, List.length_map]
  omega

/-- No slot is held twice: not in two collections, nor under two names. -/
theorem Rep.held_nodup (rep : Rep mode w g) : w.held.Nodup := by
  have values : (w.mapFilenameToFile.entries.map Sigma.snd).Nodup := by
    refine (List.nodup_map_iff_inj_on w.mapFilenameToFile.nodupKeys.nodup).mpr ?_
    rintro ⟨name, file⟩ member ⟨other, file'⟩ member' same
    obtain rfl : file = file' := same
    have one := (rep.mapped name file (AList.mem_lookup_iff.mpr member)).1
    have two := (rep.mapped other file (AList.mem_lookup_iff.mpr member')).1
    cases one.symm.trans two
    rfl
  obtain ⟨available, quarantined, apart⟩ := List.nodup_append.mp rep.nodup
  have named {file : String} (member : file ∈ w.mapFilenameToFile.entries.map Sigma.snd) :
      ∃ name, w.mapFilenameToFile.lookup name = some file := by
    obtain ⟨⟨name, _⟩, entry, rfl⟩ := List.mem_map.mp member
    exact ⟨name, AList.mem_lookup_iff.mpr entry⟩
  refine List.nodup_append.mpr ⟨List.nodup_append.mpr ⟨available, values, ?_⟩, quarantined, ?_⟩
  · intro file free other member
    obtain ⟨name, mapped⟩ := named member
    exact (rep.mapped_ne_available mapped free).symm
  · rintro file member other lost rfl
    rcases List.mem_append.mp member with free | member
    · exact apart file free file lost rfl
    · obtain ⟨name, mapped⟩ := named member
      exact (rep.mapped name file mapped).2 lost

theorem Sound.held_of_inactive (sound : Sound mode s g) (inactive : s.world.state ≠ .active) :
    s.world.held = [] := by
  have unloaded : g.loaded = false := by
    rw [← Bool.not_eq_true]
    exact fun loaded => inactive (sound.loaded.mp loaded)
  obtain ⟨available, names, quarantined⟩ := sound.rep.unloaded unloaded
  unfold World.held
  rw [available, names, quarantined]
  rfl

/-! ## Events by what they may do to the slots -/

def System.AddsSlots (s : System) (event : Event) : Prop :=
  (∃ n, event = .addCapacity n) ∨ (∃ min, event = .ensureCapacity min) ∨
    ∃ i growth, event = .poll i ∧ .adding growth ∈ s.operations

def System.RemovesSlots (s : System) (event : Event) : Prop :=
  (∃ n, event = .reduceCapacity n) ∨ ∃ i shrink, event = .poll i ∧ .reducing shrink ∈ s.operations

def System.LoadsSlots (s : System) (event : Event) : Prop :=
  event = .resume ∨ ∃ i resuming, event = .poll i ∧ .resuming resuming ∈ s.operations

def Event.ReleasesSlots (event : Event) : Prop := event = .pause ∨ event = .uninstall

inductive System.MovesSlots (s : System) (event : Event) (outcome : Outcome Failure Answer)
    (s' : System) : Prop
  | kept (same : s'.world.held.Perm s.world.held)
  | added (files : List String) (adds : s.AddsSlots event)
      (more : s'.world.held.Perm (s.world.held ++ files))
  | removed (file : String) (removes : s.RemovesSlots event)
      (spare : file ∈ s.world.availableFiles) (less : s.world.held.Perm (file :: s'.world.held))
  | loaded (loads : s.LoadsSlots event) (before : s.world.held = [])
      (done : outcome = .ok .done)
  | released (releases : event.ReleasesSlots) (after : s'.world.held = [])

/-! ## Turns -/

theorem World.Still.held_perm (still : w.Still w') : w'.held.Perm w.held := by
  rw [still.held]

theorem Adding.adds (adding : Adding s event w) : s.AddsSlots event := by
  cases adding with
  | add n ready => exact .inl ⟨n, rfl⟩
  | ensure min ready => exact .inr (.inl ⟨min, rfl⟩)
  | poll i growth there => exact .inr (.inr ⟨i, growth, rfl, there ▸ List.mem_singleton_self _⟩)

theorem Reducing.removes {count left : Nat} (reducing : Reducing s event w count left) :
    s.RemovesSlots event := by
  cases reducing with
  | reduce n ready => exact .inl ⟨n, rfl⟩
  | poll i shrink there => exact .inr ⟨i, shrink, rfl, there ▸ List.mem_singleton_self _⟩

/-- The slots that were added come last among the available ones. -/
theorem held_extended (added : List String) (busy : Bool) :
    (World.held { w with availableFiles := w.availableFiles ++ added, busy }).Perm
      (w.held ++ added) := by
  unfold World.held
  dsimp only
  rw [List.append_assoc, List.append_assoc, List.append_assoc w.availableFiles,
    List.append_assoc w.availableFiles]
  exact List.perm_append_comm.append_left _

theorem held_topless {rest : List String} (top : w.availableFiles = rest ++ [file]) :
    w.held.Perm (file :: World.held { w with availableFiles := rest }) := by
  unfold World.held
  dsimp only
  rw [top, List.append_assoc rest, List.append_assoc, List.append_assoc, List.append_assoc]
  exact List.perm_middle

theorem GivenUp.held_perm (result : GivenUp mode w g w') : w'.held.Perm w.held := by
  obtain ⟨w₁, -, beyond, -, rfl⟩ := result
  exact beyond.still.held_perm

theorem Turn.movesSlots (turn : Turn mode s g event outcome s' g') (good : Good mode s g) :
    s.MovesSlots event outcome s' := by
  have inactive (suspended : Suspended mode s.world g) : s.world.held = [] :=
    good.held_of_inactive fun active => PoolState.noConfusion (suspended.paused.symm.trans active)
  cases turn with
  | idle _ nothing => exact .kept (.refl _)
  | looked _ _ w' query looked rep => exact .kept looked.still.held_perm
  | refused _ error w' guarded looked rep => exact .kept looked.still.held_perm
  | opened request opened w₁ _ name file evolves result => exact .kept evolves.frame.held
  | unopened request error w' _ ready evolves result => exact .kept evolves.frame.held
  | called i made f name content content' _ w' _ there named mapped found effect altered evolves
      same => exact .kept evolves.frame.held
  | closed i f name _ w₁ w' _ there named mapped flushed evolves result done =>
      exact .kept (evolves.frame.held.trans flushed.evolves.frame.held)
  | deleted _ name answer w' _ deletes evolves result => exact .kept evolves.frame.held
  | undeleted _ name error w' _ deletes evolves result => exact .kept evolves.frame.held
  | importing filename size file target w' created =>
      obtain ⟨w₁, consulted, rfl⟩ := created.reserved
      exact .kept consulted.viewed.looked.still.held_perm
  | filled i offset bytes file filename data content content' data' _ w' there importing
      found filled whole altered evolves => exact .kept evolves.frame.held
  | committed i file filename data w' _ there importing evolves result =>
      exact .kept evolves.frame.held
  | unimported _ i _ file filename data w' _ ends there importing evolves result failed aborted =>
      exact .kept evolves.frame.held
  | exporting name file source w' opened =>
      obtain ⟨w₁, -, looked, rfl⟩ := opened.reserved
      exact .kept looked.still.held_perm
  | exported i file name size there exporting => exact .kept (.refl _)
  | growing _ w growth w' adding resizable reached =>
      obtain ⟨busy, rfl⟩ := adding.same
      exact .kept reached.2.1.still.held_perm
  | grown _ w count w' adding resizable reached =>
      obtain ⟨busy, rfl⟩ := id adding.same
      obtain ⟨w₁, added, -, beyond, -, -, -, rfl⟩ := reached
      refine .added added adding.adds ((held_extended added false).trans ?_)
      exact beyond.still.held_perm.append_right added
  | shrinking _ w count left shrink w' reducing resizable reached =>
      obtain ⟨busy, rfl⟩ := id reducing.same
      obtain ⟨w₁, rest, beyond, top, rfl⟩ := reached.1.from_top
      refine .removed shrink.file reducing.removes ?_ ?_
      · have same : w₁.availableFiles = s.world.availableFiles := beyond.still.available
        rw [← same, top]
        exact List.mem_append_right _ (List.mem_singleton_self _)
      · exact beyond.still.held_perm.symm.trans (held_topless top)
  | shrunk _ w count left removed w' reducing resizable reached =>
      obtain ⟨busy, rfl⟩ := reducing.same
      exact .kept reached.1.held_perm
  | givenUp _ w _ w' stopping resizable result =>
      obtain ⟨busy, rfl⟩ := stopping.same
      exact .kept result.held_perm
  | resuming vfs suspended free registered => exact .kept (.refl _)
  | pending i resuming resuming' w' there suspended consulted resumes =>
      exact .kept consulted.viewed.looked.still.held_perm
  | resumed i resuming w' _ there suspended result =>
      refine .loaded (.inr ⟨i, resuming, rfl, ?_⟩) (inactive suspended) rfl
      rw [there]
      exact List.mem_singleton_self _
  | unresumed _ i _ resuming w' _ stops there suspended result =>
      have after : w'.held = [] := by
        obtain ⟨available, names, quarantined⟩ :=
          result.suspended.rep.unloaded result.suspended.unloaded
        unfold World.held
        rw [available, names, quarantined]
        rfl
      refine .kept ?_
      rw [inactive suspended]
      exact after ▸ .refl _
  | paused w' result rep =>
      obtain ⟨env, registry, -, -, -, rfl⟩ := result.result
      exact .released (.inl rfl) rfl
  | cleared w' _ evolves clearable result => exact .kept evolves.frame.held
  | uncleared error w' _ evolves clearable suspect => exact .kept evolves.frame.held
  | uninstalled w' result rep =>
      obtain ⟨pointer, env, -, -, rfl⟩ := result.result
      exact .released (.inr rfl) rfl

/-! ## The slot of an import -/

theorem importTarget_writes (file filename : String) :
    (importTarget file filename).writeAt 0 [] =
      onSlot file (SyncAccessFile.writeAt [] headerOffsetData) := by
  have offset : (physicalOffset 0 0 .ioWrite : Prog World VfsError Nat) =
    pure headerOffsetData := by
    rw [physicalOffset_eq, if_pos (by decide)]
    rfl
  change ImportTarget.writeAt file 0 [] = _
  unfold ImportTarget.writeAt
  rw [List.length_nil, offset]
  rfl

/-- The slot is part of the target: on another one it writes somewhere else. -/
theorem importTarget_slot {file' filename' : String}
    (same : importTarget file filename = importTarget file' filename') : file = file' := by
  by_contra different
  let w := World.start (AList.insert file (Journal.settled []) ∅) ""
  have there : w.directory.lookup file = some (Journal.settled []) := AList.lookup_insert _
  have absent : w.directory.lookup file' = none :=
    (AList.lookup_insert_ne (Ne.symm different)).trans (AList.lookup_empty _)
  have writes : (((importTarget file filename).writeAt 0 []).run w).1 =
      (((importTarget file' filename').writeAt 0 []).run w).1 := by rw [same]
  rw [importTarget_writes, importTarget_writes] at writes
  unfold onSlot at writes
  dsimp only at writes
  rw [there, absent] at writes
  cases writes

theorem Event.EndsImport.apart {i : Nat} (ends : event.EndsImport i) : ¬ event.Queries ∧
    ¬ event.Guarded ∧ (∀ name, ¬ event.Deletes name) ∧ ∀ j, event ≠ .poll j ∧
    event ≠ .cancel j := by
  rcases ends with rfl | rfl | ⟨error, rfl⟩ | rfl
  all_goals
    refine ⟨id, id, ?_, fun j => ⟨?_, ?_⟩⟩
    · rintro name (impossible | impossible) <;> cases impossible
    · intro impossible
      cases impossible
    · intro impossible
      cases impossible

theorem Adding.guarded (adding : Adding s event w) : event.Guarded ∨ ∃ i, event = .poll i := by
  cases adding with
  | add n ready => exact .inl trivial
  | ensure min ready => exact .inl trivial
  | poll i growth there => exact .inr ⟨i, rfl⟩

theorem Reducing.guarded {count left : Nat} (reducing : Reducing s event w count left) :
    event.Guarded ∨ ∃ i, event = .poll i := by
  cases reducing with
  | reduce n ready => exact .inl trivial
  | poll i shrink there => exact .inr ⟨i, rfl⟩

theorem Stopping.guarded (stopping : Stopping s event w) :
    event.Guarded ∨ ∃ i, event = .poll i ∨ event = .cancel i := by
  cases stopping with
  | adding event w adding => exact adding.guarded.imp id fun ⟨i, polls⟩ => ⟨i, .inl polls⟩
  | reducing i shrink there => exact .inr ⟨i, .inl rfl⟩
  | dropAdding i growth there => exact .inr ⟨i, .inr rfl⟩
  | dropReducing i shrink there => exact .inr ⟨i, .inr rfl⟩

/-- A call that consumes an import commits it, or gives it up. -/
theorem Turn.import_cases {i : Nat} (turn : Turn mode s g event outcome s' g')
    (ends : event.EndsImport i) : (s.Idle event ∧ s' = s) ∨ ∃ file filename data w',
      s.operations = [.importing (importTarget file filename)] ∧
      Importing s.world g file filename data ∧
      s' = { s with world := { w' with busy := false }, operations := [] } ∧
      Evolves mode (Only filename) s.world g w' g' ∧
      ((event = .commit i ∧ outcome = .ok .done ∧ Committed filename file data s.world w' g') ∨
        Unimported mode (∀ j, event ≠ .commit j) file filename data s.world g w' g') := by
  obtain ⟨noQuery, unguarded, noDelete, noPoll⟩ := ends.apart
  have unpolled (either : event.Guarded ∨ ∃ j, event = .poll j) : False := by
    rcases either with guarded | ⟨j, polls⟩
    · exact unguarded guarded
    · exact (noPoll j).1 polls
  cases turn with
  | idle _ nothing => exact .inl ⟨nothing, rfl⟩
  | looked _ _ w' query looked rep => exact absurd query noQuery
  | refused _ error w' guarded looked rep => exact absurd guarded unguarded
  | deleted _ name answer w' _ deletes => exact absurd deletes (noDelete name)
  | undeleted _ name error w' _ deletes => exact absurd deletes (noDelete name)
  | committed j file filename data w' _ there importing evolves result =>
      have same : Event.commit j = .commit i := by
        rcases ends with same | impossible | ⟨error, impossible⟩ | impossible
        · exact same
        all_goals cases impossible
      exact .inr ⟨file, filename, data, w', there, importing, rfl, evolves,
        .inl ⟨same, rfl, result⟩⟩
  | unimported _ j _ file filename data w' _ ends' there importing evolves result failed aborted =>
      exact .inr ⟨file, filename, data, w', there, importing, rfl, evolves, .inr result⟩
  | growing _ w growth w' adding => exact (unpolled adding.guarded).elim
  | grown _ w count w' adding => exact (unpolled adding.guarded).elim
  | shrinking _ w count left shrink w' reducing => exact (unpolled reducing.guarded).elim
  | shrunk _ w count left removed w' reducing => exact (unpolled reducing.guarded).elim
  | givenUp _ w _ w' stopping =>
      rcases stopping.guarded with guarded | ⟨j, polls | cancels⟩
      · exact absurd guarded unguarded
      · exact absurd polls (noPoll j).1
      · exact absurd cancels (noPoll j).2
  | unresumed _ j _ resuming w' _ stops =>
      rcases stops with polls | cancels
      · exact absurd polls (noPoll j).1
      · exact absurd cancels (noPoll j).2
  | _ => rcases ends with impossible | impossible | ⟨error, impossible⟩ | impossible <;>
      cases impossible

theorem Turn.import_created {name : String} {size : Nat}
    (turn : Turn mode s g (.createImport name size) (.ok .pending) s' g') :
    ∃ file, s.world.availableFiles.getLast? = some file ∧
      s'.operations = [.importing (importTarget file name)] := by
  cases turn with
  | looked _ _ w' query => exact query.elim
  | importing filename size file target w' created =>
      obtain rfl := created.target_eq
      exact ⟨file, created.top, rfl⟩
  | deleted _ name answer w' _ deletes =>
      rcases deletes with impossible | impossible <;> cases impossible
  | unimported _ i _ file filename data w' _ ends =>
      rcases ends with impossible | impossible | ⟨error, impossible⟩ | impossible <;>
        cases impossible
  | growing _ w growth w' adding => cases adding
  | shrinking _ w count left shrink w' reducing => cases reducing
  | givenUp _ w _ w' stopping =>
      cases stopping with
      | adding event w adding => cases adding
  | unresumed _ i _ resuming w' _ stops =>
      rcases stops with impossible | impossible <;> cases impossible

/-! ## Conservation -/

structure System.ConservesSlots (s : System) : Prop where
  once : s.world.held.Nodup
  counted : s.world.capacity = s.world.held.length
  calm : ∀ moment, (s.run moment).1 ≠ .halt .panic
  inactive : s.world.state ≠ .active → s.world.held = []
  kept : ∀ moment s', s.Step moment s' → ¬ s.AddsSlots moment.event →
    ¬ s.RemovesSlots moment.event → ¬ s.LoadsSlots moment.event → ¬ moment.event.ReleasesSlots →
    s'.world.held.Perm s.world.held ∧ s'.world.capacity = s.world.capacity
  gained : ∀ moment s', s.Step moment s' → ∀ file ∈ s'.world.held, file ∉ s.world.held →
    s.AddsSlots moment.event ∨ s.LoadsSlots moment.event
  lost : ∀ moment s', s.Step moment s' → ∀ file ∈ s.world.held, file ∉ s'.world.held →
    (s.RemovesSlots moment.event ∧ file ∈ s.world.availableFiles ∧
      s.world.held.Perm (file :: s'.world.held)) ∨
    (moment.event.ReleasesSlots ∧ s'.world.held = [])
  unresumed : ∀ moment error s', s.run moment = (.err error, s') → s.LoadsSlots moment.event →
    s.world.state ≠ .active → s'.world.held = []
  reserved : ∀ file filename, .importing (importTarget file filename) ∈ s.operations →
    s.world.availableFiles.getLast? = some file
  reserves : ∀ around name size s',
    s.run ⟨around, .createImport name size⟩ = (.ok .pending, s') →
    ∃ file, s.world.availableFiles.getLast? = some file ∧
      s'.operations = [.importing (importTarget file name)]
  popped : ∀ moment s' i file filename, s.Step moment s' → moment.event.EndsImport i →
    s.operations[i]? = some (.importing (importTarget file filename)) →
    s'.world.availableFiles = s.world.availableFiles ∨
      (s.world.availableFiles = s'.world.availableFiles ++ [file] ∧
        ((∃ name, s'.world.mapFilenameToFile = s.world.mapFilenameToFile.insert name file) ∨
          s'.world.quarantinedFiles = s.world.quarantinedFiles ++ [file]))

theorem Good.alone (good : Good mode s g) {first second : Operation}
    (one : first ∈ s.operations) (other : second ∈ s.operations) : first = second := by
  obtain ⟨i, there⟩ := List.getElem?_of_mem one
  rw [(good.operation there).1] at one other
  exact (List.mem_singleton.mp one).trans (List.mem_singleton.mp other).symm

theorem Good.loads_only (good : Good mode s g) (loads : s.LoadsSlots event) :
    ¬ s.AddsSlots event ∧ ¬ s.RemovesSlots event ∧ ¬ event.ReleasesSlots := by
  rcases loads with rfl | ⟨i, resuming, rfl, there⟩
  · refine ⟨?_, ?_, ?_⟩
    · rintro (⟨n, impossible⟩ | ⟨min, impossible⟩ | ⟨i, growth, impossible, -⟩) <;> cases impossible
    · rintro (⟨n, impossible⟩ | ⟨i, shrink, impossible, -⟩) <;> cases impossible
    · rintro (impossible | impossible) <;> cases impossible
  · refine ⟨?_, ?_, ?_⟩
    · rintro (⟨n, impossible⟩ | ⟨min, impossible⟩ | ⟨j, growth, -, other⟩)
      · cases impossible
      · cases impossible
      · cases good.alone there other
    · rintro (⟨n, impossible⟩ | ⟨j, shrink, -, other⟩)
      · cases impossible
      · cases good.alone there other
    · rintro (impossible | impossible) <;> cases impossible

theorem Good.conserves (good : Good .lax s g) : s.ConservesSlots where
  once := good.rep.held_nodup
  counted := s.world.capacity_eq
  calm moment := good.calm moment.allowed_lax
  inactive := good.held_of_inactive
  kept := by
    intro moment s' step notAdds notRemoves notLoads notReleases
    obtain ⟨outcome, g', -, ⟨around, s₂, answers, -, turn, rfl⟩, -⟩ :=
      good.step moment.allowed_lax step
    have same : s₂.world.held.Perm s.world.held := by
      cases turn.movesSlots (good.facing answers) with
      | kept same => exact same
      | added files adds more => exact absurd adds notAdds
      | removed file removes spare less => exact absurd removes notRemoves
      | loaded loads before done => exact absurd loads notLoads
      | released releases after => exact absurd releases notReleases
    refine ⟨same, ?_⟩
    rw [World.capacity_eq, World.capacity_eq]
    exact same.length_eq
  gained := by
    intro moment s' step file after before
    obtain ⟨outcome, g', -, ⟨around, s₂, answers, -, turn, rfl⟩, -⟩ :=
      good.step moment.allowed_lax step
    cases turn.movesSlots (good.facing answers) with
    | kept same => exact absurd (same.subset after) before
    | added files adds more => exact .inl adds
    | removed other removes spare less => exact absurd (less.symm.subset (.tail _ after)) before
    | loaded loads empty done => exact .inr loads
    | released releases empty =>
        have nothing : s₂.world.held = [] := empty
        have member : file ∈ s₂.world.held := after
        rw [nothing] at member
        exact absurd member List.not_mem_nil
  lost := by
    intro moment s' step file before after
    obtain ⟨outcome, g', -, ⟨around, s₂, answers, -, turn, rfl⟩, -⟩ :=
      good.step moment.allowed_lax step
    cases turn.movesSlots (good.facing answers) with
    | kept same => exact absurd (same.symm.subset before) after
    | added files adds more =>
        exact absurd (more.symm.subset (List.mem_append_left _ before)) after
    | removed other removes spare less =>
        rcases List.mem_cons.mp (less.subset before) with rfl | still
        · exact .inl ⟨removes, spare, less⟩
        · exact absurd still after
    | loaded loads empty done =>
        have nothing : s.world.held = [] := empty
        rw [nothing] at before
        exact absurd before List.not_mem_nil
    | released releases empty => exact .inr ⟨releases, empty⟩
  unresumed := by
    intro moment error s' run loads inactive
    have before := good.held_of_inactive inactive
    obtain ⟨outcome, g', ran, ⟨around, s₂, answers, -, turn, rfl⟩, -⟩ :=
      good.step moment.allowed_lax ⟨.err error, run, fun _ impossible => by cases impossible⟩
    obtain rfl : outcome = .err error := congrArg Prod.fst (ran.symm.trans run)
    obtain ⟨notAdds, notRemoves, notReleases⟩ := good.loads_only loads
    cases turn.movesSlots (good.facing answers) with
    | kept same =>
        have nothing : s₂.world.held.Perm [] := before ▸ same
        exact nothing.eq_nil
    | added files adds more => exact absurd adds notAdds
    | removed file removes spare less => exact absurd removes notRemoves
    | loaded loads empty done => cases done
    | released releases after => exact absurd releases notReleases
  reserved := by
    intro file filename member
    obtain ⟨i, there⟩ := List.getElem?_of_mem member
    obtain ⟨slot, name, data, -, same, importing, -⟩ := good.importing_of there
    obtain rfl := importTarget_slot same
    exact (good.rep.staged file data importing.staging).1
  reserves := by
    intro around name size s' run
    obtain ⟨outcome, g', ran, ⟨around', s₂, answers, -, turn, rfl⟩, -⟩ :=
      good.step (Moment.allowed_lax _) ⟨_, run, fun _ impossible => by cases impossible⟩
    obtain rfl : outcome = .ok .pending := congrArg Prod.fst (ran.symm.trans run)
    exact turn.import_created
  popped := by
    rintro ⟨around, event⟩ s' i file filename step ends there
    obtain ⟨slot, name, data, alone, same, -⟩ := good.importing_of there
    obtain rfl := importTarget_slot same
    obtain ⟨outcome, g', -, ⟨around', s₂, answers, -, turn, rfl⟩, -⟩ :=
      good.step (Moment.allowed_lax _) step
    rcases turn.import_cases ends with ⟨idle, -⟩ | ⟨slot, name', data', w', alone', -, rfl,
      -, result⟩
    · have absent : ∀ target, s.operations[i]? ≠ some (.importing target) := by
        rcases ends with rfl | rfl | ⟨error, rfl⟩ | rfl
        all_goals exact idle
      exact absurd there (absent _)
    · obtain rfl : file = slot := by
        injection alone.symm.trans alone' with same
        injection same with same
        exact importTarget_slot same
      rcases result with ⟨-, -, committed⟩ | ⟨reclaimed | lost, -⟩
      · exact .inr ⟨committed.available, .inl ⟨name', committed.names⟩⟩
      · exact .inl reclaimed.still.available
      · exact .inr ⟨lost.available, .inr lost.quarantined⟩

/-- In every state of every run the slots of the pool are conserved. -/
theorem slots_are_conserved (arises : s.Arises) : s.ConservesSlots := by
  obtain ⟨g, good⟩ := arises.good
  exact good.conserves

/-- The pool that the runs start from has one slot, and SQLite has taken it. -/
theorem slots_are_conserved_opened : ∃ s : System, s.files.length = 1 ∧ s.ConservesSlots := by
  obtain ⟨s, arises, opened⟩ := exists_arises
  exact ⟨s, opened, slots_are_conserved arises⟩

end Sahpool

end SqliteVfs
