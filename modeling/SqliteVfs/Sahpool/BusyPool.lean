import SqliteVfs.Sahpool.PinnedSlots

/-!
# Calls beside an operation

While an operation has the guard, every other call finds the pool busy.  Only handles that
are open already can be used: reads, writes and truncates go through to their own slots,
and a close flushes its slot but deletes nothing.
-/

set_option autoImplicit false

namespace SqliteVfs

namespace Sahpool

variable {mode : Mode} {s s' : System} {w w' : World} {g g' : Ledger} {file : String}
  {event : Event} {outcome : Outcome Failure Answer}

def World.contentsOf (w : World) (file : String) : Option (List UInt8) :=
  (w.directory.lookup file).map SlotFile.contents

theorem World.contentsOf_some {content : SlotFile}
    (found : w.directory.lookup file = some content) :
    w.contentsOf file = some content.contents := by
  unfold World.contentsOf
  rw [found]
  rfl

theorem World.contentsOf_congr (same : w'.directory.lookup file = w.directory.lookup file) :
    w'.contentsOf file = w.contentsOf file := by
  unfold World.contentsOf
  rw [same]

/-- The event works on the operation: it can change or end it. -/
def Event.WorksOn : Event → Operation → Prop
  | .importWrite _ _ _, .importing _ | .commit _, .importing _ | .abort _, .importing _
  | .abortWithError _ _, .importing _ | .dropImport _, .importing _ | .dropExport _, .exporting _
  | .poll _, .adding _ | .poll _, .reducing _ | .poll _, .resuming _ | .cancel _, .adding _
  | .cancel _, .reducing _ | .cancel _, .resuming _ => True
  | _, _ => False

theorem Event.EndsImport.worksOn {i : Nat} (ends : event.EndsImport i)
    (target : SqliteVfs.ImportTarget World OpfsSAHError) : event.WorksOn (.importing target) := by
  rcases ends with rfl | rfl | ⟨error, rfl⟩ | rfl
  all_goals trivial

structure System.Beside (s : System) (event : Event) (s' : System) : Prop where
  still : s.world.Still s'.world
  operations : s'.operations = s.operations
  busy : s'.world.busy = s.world.busy
  state : s'.world.state = s.world.state
  lease : s'.world.lease = s.world.lease
  registration : s'.world.registration = s.world.registration
  handles : ∀ f ∈ s'.files, f ∈ s.files
  directory : ∀ file, file ∈ s'.world.directory ↔ file ∈ s.world.directory
  /-- Slots without handles are not touched. -/
  unopened : ∀ file, (∀ f ∈ s.files, f.handle.file ≠ file) →
    s'.world.directory.lookup file = s.world.directory.lookup file
  /-- Contents change by calls on the slot's own handles. -/
  contents : ∀ file, s'.world.contentsOf file = s.world.contentsOf file ∨
    ∃ i made f content content', event = .call i made ∧ s.files[i]? = some f ∧
      f.handle.file = file ∧ s.world.directory.lookup file = some content ∧
      s'.world.directory.lookup file = some content' ∧
      made.Effect f.handle.readOnly content content'

namespace System.Beside

theorem of_looked (looked : s.world.Looked w') : s.Beside event { s with world := w' } where
  still := looked.still
  operations := rfl
  busy := looked.settings.busy
  state := looked.settings.state
  lease := looked.settings.lease
  registration := looked.settings.registration
  handles _ member := member
  directory := mem_of_lookup looked.contents
  unopened file _ := looked.contents file
  contents file := .inl (World.contentsOf_congr (looked.contents file))

theorem facing {around : Surroundings} (beside : (s.facing around).Beside event s') :
    s.Beside event s'.silenced :=
  { beside with
    still := ⟨beside.still.available, beside.still.names, beside.still.quarantined,
      beside.still.suspect⟩ }

end System.Beside

theorem mem_of_altered {content content' : SlotFile} (altered : w.Altered file content' w')
    (found : w.directory.lookup file = some content) (other : String) :
    other ∈ w'.directory ↔ other ∈ w.directory := by
  rw [← AList.lookup_isSome, ← AList.lookup_isSome]
  by_cases same : other = file
  · rw [same, altered.here, found]
    exact Iff.rfl
  · rw [altered.others other same]

theorem beside_called {i : Nat} {made : FileCall} {f : VfsFile} {content content' : SlotFile}
    (there : s.files[i]? = some f) (found : s.world.directory.lookup f.handle.file = some content)
    (effect : made.Effect f.handle.readOnly content content')
    (altered : s.world.Altered f.handle.file content' w') :
    s.Beside (.call i made) { s with world := w' } where
  still := altered.still
  operations := rfl
  busy := altered.settings.busy
  state := altered.settings.state
  lease := altered.settings.lease
  registration := altered.settings.registration
  handles _ member := member
  directory := mem_of_altered altered found
  unopened file unopened := altered.others file
    fun same => unopened f (List.mem_of_getElem? there) same.symm
  contents file := by
    by_cases same : file = f.handle.file
    · subst same
      exact .inr ⟨i, made, f, content, content', rfl, there, rfl, found, altered.here, effect⟩
    · exact .inl (World.contentsOf_congr (altered.others file same))

/-- A close whose file is not deleted. -/
theorem beside_closed {i : Nat} {f : VfsFile} {name : String} (there : s.files[i]? = some f)
    (flushed : Flushed mode s.world g name f.handle.file w') :
    s.Beside (.closeFile i) { s with world := w', files := s.files.eraseIdx i } := by
  have settings := flushed.evolves.frame.settings
  have still := flushed.still
  exact {
    still := ⟨still.available, still.names, still.quarantined, still.suspect⟩
    operations := rfl
    busy := settings.busy
    state := settings.state
    lease := settings.lease
    registration := settings.registration
    handles := fun _ member => List.mem_of_mem_eraseIdx member
    directory := flushed.evolves.frame.files
    unopened := fun file unopened => flushed.others file
      fun same => unopened f (List.mem_of_getElem? there) same.symm
    contents := fun file => by
      refine .inl ?_
      by_cases same : file = f.handle.file
      · subst same
        obtain ⟨content, content', found, found', rfl | rfl⟩ := flushed.here
        · exact World.contentsOf_congr (found'.trans found.symm)
        · rw [World.contentsOf_some found', World.contentsOf_some found, SlotFile.contents_flush]
      · exact World.contentsOf_congr (flushed.others file same) }

/-- The event begins with the pool free, or works on the operation that has the guard. -/
def System.Works (s : System) (event : Event) : Prop :=
  s.world.Ready ∨ ∃ operation, s.operations = [operation] ∧ event.WorksOn operation

theorem Adding.works (adding : Adding s event w) : s.Works event := by
  cases adding with
  | add n ready => exact .inl ready
  | ensure min ready => exact .inl ready
  | poll i growth there => exact .inr ⟨_, there, trivial⟩

theorem Reducing.works {count left : Nat} (reducing : Reducing s event w count left) :
    s.Works event := by
  cases reducing with
  | reduce n ready => exact .inl ready
  | poll i shrink there => exact .inr ⟨_, there, trivial⟩

theorem Stopping.works (stopping : Stopping s event w) : s.Works event := by
  cases stopping with
  | adding event w adding => exact adding.works
  | reducing i shrink there => exact .inr ⟨_, there, trivial⟩
  | dropAdding i growth there => exact .inr ⟨_, there, trivial⟩
  | dropReducing i shrink there => exact .inr ⟨_, there, trivial⟩

/-- What an event can do that does not work on the operation that has the guard. -/
theorem Turn.beside {operation : Operation} (turn : Turn mode s g event outcome s' g')
    (busy : s.world.busy = true) (there : s.operations = [operation])
    (foreign : ¬ event.WorksOn operation) : s.Beside event s' := by
  have unready (ready : s.world.Ready) : False := Bool.false_ne_true (ready.free.symm.trans busy)
  have taken (free : s.world.busy = false) : False := Bool.false_ne_true (free.symm.trans busy)
  have never (works : s.Works event) : False := by
    rcases works with ready | ⟨other, alone, works⟩
    · exact unready ready
    · cases there.symm.trans alone
      exact foreign works
  cases turn with
  | idle _ nothing => exact .of_looked (.refl _)
  | looked _ _ w' query looked rep => exact .of_looked looked
  | refused _ error w' guarded looked rep => exact .of_looked looked
  | opened request opened w₁ _ name file evolves result => exact (unready result.ready).elim
  | unopened request error w' _ ready evolves result => exact (unready ready).elim
  | called i made f name content content' _ w' _ there named mapped found effect altered evolves
      same => exact beside_called there found effect altered
  | closed i f name _ w₁ w' _ there named mapped flushed evolves result done =>
      have settings := flushed.evolves.frame.settings
      have unready' (ready : w₁.Ready) : False := taken (settings.busy.symm.trans ready.free)
      rcases result with (⟨-, rfl, -⟩ | ⟨-, deleted⟩) | ⟨-, ⟨rfl, -⟩ | ⟨ready, -⟩⟩
      · exact beside_closed there flushed
      · exact (unready' deleted.ready).elim
      · exact beside_closed there flushed
      · exact (unready' ready).elim
  | deleted _ name answer w' _ deletes evolves result => exact (unready result.ready).elim
  | undeleted _ name error w' _ deletes evolves result =>
      rcases result with ⟨rfl, -⟩ | ⟨ready, -⟩
      · exact .of_looked (.refl _)
      · exact (unready ready).elim
  | importing filename size file target w' created => exact (unready created.ready).elim
  | filled i offset bytes file filename data content content' data' _ w' alone =>
      exact (never (.inr ⟨_, alone, trivial⟩)).elim
  | committed i file filename data w' _ alone => exact (never (.inr ⟨_, alone, trivial⟩)).elim
  | unimported _ i _ file filename data w' _ ends alone =>
      exact (never (.inr ⟨_, alone, ends.worksOn _⟩)).elim
  | exporting name file source w' opened => exact (unready opened.ready).elim
  | exported i file name size alone => exact (never (.inr ⟨_, alone, trivial⟩)).elim
  | growing _ w growth w' adding => exact (never adding.works).elim
  | grown _ w count w' adding => exact (never adding.works).elim
  | shrinking _ w count left shrink w' reducing => exact (never reducing.works).elim
  | shrunk _ w count left removed w' reducing => exact (never reducing.works).elim
  | givenUp _ w _ w' stopping => exact (never stopping.works).elim
  | resuming vfs suspended free registered => exact (taken free).elim
  | pending i resuming resuming' w' alone => exact (never (.inr ⟨_, alone, trivial⟩)).elim
  | resumed i resuming w' _ alone => exact (never (.inr ⟨_, alone, trivial⟩)).elim
  | unresumed _ i _ resuming w' _ stops alone =>
      rcases stops with rfl | rfl
      all_goals exact (never (.inr ⟨_, alone, trivial⟩)).elim
  | paused w' result rep => exact (taken result.free).elim
  | cleared w' _ evolves clearable result => exact (taken clearable.free).elim
  | uncleared error w' _ evolves clearable suspect => exact (taken clearable.free).elim
  | uninstalled w' result rep => exact (taken result.free).elim

theorem Good.beside {operation : Operation} (good : Good mode s g) {moment : Moment}
    (allowed : moment.Allowed mode) (there : s.operations = [operation])
    (foreign : ¬ moment.event.WorksOn operation) (step : s.Step moment s') :
    s.Beside moment.event s' := by
  have first : s.operations[0]? = some operation := by
    rw [there]
    rfl
  obtain ⟨outcome, run, returns⟩ := step
  obtain ⟨around, s₂, g', answers, turn, rfl⟩ := good.took allowed run returns
  exact (turn.beside (s := s.facing around) (good.operation first).2.1 there foreign).facing

end Sahpool

end SqliteVfs
