import SqliteVfs.Sahpool.InstallSpec

/-!
# Runs of a pool and its users

`Good` is the invariant of a pool together with all that is held of it.  `Turn` says, for
each event that comes back, everything it can have done; the invariant and the results
about runs are derived from that.
-/

set_option autoImplicit false

namespace SqliteVfs

namespace Sahpool

variable {mode : Mode} {reach : String → Prop} {s s' : System} {w w' w'' : World}
  {g g' g'' : Ledger} {file name filename : String} {content content' : SlotFile} {α β ε : Type}

/-! ## What is held of a pool -/

def VfsFile.opened (f : VfsFile) : Option String := f.name.or f.handle.temporaryName

def System.handles (s : System) (file : String) : Nat :=
  s.files.countP fun f => f.handle.file = file

/-- What is true while an operation holds the guard. -/
def Duty (mode : Mode) (w : World) (g : Ledger) : Operation → Prop
  | .importing target => ∃ file filename data, target = importTarget file filename ∧
      Importing w g file filename data
  | .exporting source => ∃ file name size, source = exportSource file size ∧
      Exporting w g file name
  | .adding growth => Resizable mode w g ∧ Grows w growth
  | .reducing shrink => Resizable mode w g ∧ Shrinks w shrink
  | .resuming resuming => Suspended mode w g ∧ Resumes w resuming

def Duties (mode : Mode) (w : World) (g : Ledger) : List Operation → Prop
  | [] => w.busy = false
  | [operation] => w.busy = true ∧ Duty mode w g operation
  | _ => False

/-- The pool is faithful, and its open files are those that are counted. -/
structure Sound (mode : Mode) (s : System) (g : Ledger) : Prop where
  rep : Rep mode s.world g
  known : g.known = true
  loaded : g.loaded = true ↔ s.world.state = .active
  lease : s.world.lease = true ↔ s.world.state = .active
  registration : s.world.state = .removed ↔ s.world.registration = none
  readable : 0 ∉ nameBytes s.world.name
  counts : ∀ file, s.world.openCount file = s.handles file
  live : ∀ f ∈ s.files, ∃ name, f.opened = some name ∧
    s.world.mapFilenameToFile.lookup name = some f.handle.file

structure Good (mode : Mode) (s : System) (g : Ledger) : Prop extends Sound mode s g where
  duties : Duties mode s.world g s.operations

def System.facing (s : System) (around : Surroundings) : System :=
  { s with world := s.world.facing around }

def System.silenced (s : System) : System := { s with world := s.world.silenced }

theorem Importing.facing {data : List UInt8} (importing : Importing w g file filename data)
    (around : Surroundings) : Importing (w.facing around) g file filename data :=
  ⟨importing.active, importing.healthy, importing.staging, importing.vacant⟩

theorem Exporting.facing (exporting : Exporting w g file name) (around : Surroundings) :
    Exporting (w.facing around) g file name :=
  ⟨exporting.active, exporting.healthy, exporting.idle, exporting.mapped, exporting.closed⟩

theorem Suspended.facing (suspended : Suspended mode w g) {around : Surroundings}
    (allowed : around.Allowed mode) : Suspended mode (w.facing around) g :=
  { suspended with rep := suspended.rep.facing allowed }

theorem Resumes.facing {resuming : Resuming} (resumes : Resumes w resuming)
    (around : Surroundings) : Resumes (w.facing around) resuming := by
  cases resuming with
  | lease vfs => exact resumes
  | loading vfs loading => exact ⟨resumes.1, ⟨resumes.2.1.distinct, resumes.2.1.all⟩, resumes.2.2⟩

theorem Duty.facing {operation : Operation} (duty : Duty mode w g operation)
    {around : Surroundings} (allowed : around.Allowed mode) :
    Duty mode (w.facing around) g operation := by
  cases operation with
  | importing target =>
      obtain ⟨file, filename, data, same, importing⟩ := duty
      exact ⟨file, filename, data, same, importing.facing around⟩
  | exporting source =>
      obtain ⟨file, name, size, same, exporting⟩ := duty
      exact ⟨file, name, size, same, exporting.facing around⟩
  | adding growth => exact ⟨duty.1.facing allowed, duty.2.facing around⟩
  | reducing shrink => exact ⟨duty.1.facing allowed, duty.2.apart, duty.2.enough⟩
  | resuming resuming => exact ⟨duty.1.facing allowed, duty.2.facing around⟩

theorem Duties.facing {operations : List Operation} (duties : Duties mode w g operations)
    {around : Surroundings} (allowed : around.Allowed mode) :
    Duties mode (w.facing around) g operations := by
  rcases operations with _ | ⟨operation, _ | ⟨other, rest⟩⟩
  · exact duties
  · exact ⟨duties.1, duties.2.facing allowed⟩
  · exact duties

theorem Good.facing (good : Good mode s g) {around : Surroundings}
    (allowed : around.Allowed mode) : Good mode (s.facing around) g :=
  { good with
    rep := good.rep.facing allowed
    duties := good.duties.facing allowed }

theorem Good.silenced (good : Good mode s g) : Good mode s.silenced g := by
  have facing : Good mode (s.facing ⟨Env.silent, s.world.registry⟩) g := good.facing nofun
  exact facing

theorem Installed.good {config : PoolConfig} (installed : Installed mode config w g) :
    Good mode ⟨w, [], []⟩ g where
  rep := installed.building.rep
  known := installed.building.rep.known installed.loaded
  loaded := iff_of_true installed.loaded installed.building.active
  lease := iff_of_true installed.building.leased installed.building.active
  registration := by
    have active := installed.building.active
    have registered := installed.registration
    refine iff_of_false (fun removed => ?_) fun absent => ?_
    · exact nomatch active.symm.trans removed
    · exact nomatch registered.symm.trans absent
  readable := installed.building.prepared.readable
  counts := installed.building.prepared.shut
  live := nofun
  duties := installed.free

namespace Sound

variable (sound : Sound mode s g)

include sound

theorem active_loaded (active : s.world.state = .active) : g.loaded = true :=
  sound.loaded.mpr active

/-- Only an active pool has open files. -/
theorem files_of_inactive (inactive : s.world.state ≠ .active) : s.files = [] := by
  refine List.eq_nil_iff_forall_not_mem.mpr fun f member => ?_
  obtain ⟨name, -, mapped⟩ := sound.live f member
  exact inactive (sound.loaded.mp (sound.rep.loaded_of_mapped mapped))

theorem shut_of_closed (closed : s.world.AllClosed) : s.files = [] := by
  refine List.eq_nil_iff_forall_not_mem.mpr fun f member => ?_
  obtain ⟨name, -, mapped⟩ := sound.live f member
  have none := closed name _ mapped
  rw [sound.counts] at none
  exact absurd (decide_eq_true rfl) (List.countP_eq_zero.mp none f member)

theorem inUse {f : VfsFile} (member : f ∈ s.files) : s.world.openCount f.handle.file ≠ 0 := by
  rw [sound.counts]
  exact (List.countP_pos_iff.mpr ⟨f, member, decide_eq_true rfl⟩).ne'

/-- Slots that no name is mapped to have no live handles. -/
theorem unmapped_shut (unmapped : ∀ name, s.world.mapFilenameToFile.lookup name ≠ some file) :
    s.world.openCount file = 0 := by
  rw [sound.counts, System.handles, List.countP_eq_zero]
  intro f member here
  obtain ⟨name, -, mapped⟩ := sound.live f member
  rw [of_decide_eq_true here] at mapped
  exact unmapped name mapped

end Sound

/-- Whoever has the pool to himself is the only one. -/
theorem Good.free_alone (good : Good mode s g) (free : s.world.busy = false) :
    s.operations = [] := by
  have duties := good.duties
  rcases operations : s.operations with _ | ⟨operation, _ | ⟨other, rest⟩⟩
  · rfl
  · rw [operations] at duties
    exact nomatch free.symm.trans duties.1
  · rw [operations] at duties
    exact duties.elim

/-! ## What an event can do -/

structure World.Altered (w : World) (file : String) (content' : SlotFile) (w' : World) : Prop where
  still : w.Still w'
  settings : SameSettings w w'
  here : w'.directory.lookup file = some content'
  others : ∀ other, other ≠ file → w'.directory.lookup other = w.directory.lookup other

def Event.Queries : Event → Prop
  | .access _ | .fullPathname _ | .contains _ | .names | .len | .exportRead _ _ _ => True
  | _ => False

/-- Calls that can be refused before they begin. -/
def Event.Guarded : Event → Prop
  | .openFile _ | .createImport _ _ | .openExport _
  | .addCapacity _ | .ensureCapacity _ | .reduceCapacity _
  | .resume | .pause | .clear | .uninstall => True
  | _ => False

def Event.Deletes (name : String) (event : Event) : Prop :=
  event = .deleteFile name ∨ event = .remove name

def Event.EndsImport (i : Nat) (event : Event) : Prop :=
  event = .commit i ∨ event = .abort i ∨ (∃ error, event = .abortWithError i error) ∨
    event = .dropImport i

def System.Idle (s : System) : Event → Prop
  | .call i _ | .closeFile i => s.files[i]? = none
  | .importWrite i _ _ | .commit i | .abort i | .abortWithError i _ | .dropImport i =>
    ∀ target, s.operations[i]? ≠ some (.importing target)
  | .exportRead i _ _ | .dropExport i => ∀ source, s.operations[i]? ≠ some (.exporting source)
  | .poll i | .cancel i => ∀ operation, s.operations[i]? = some operation → ¬ operation.IsFuture
  | .resume => s.world.Ready
  | .pause => s.world.state = .paused ∧ s.world.busy = false
  | .uninstall => s.world.state = .removed
  | _ => False

/-- The event works on growing the pool, which has the guard in `w`. -/
inductive Adding (s : System) : Event → World → Prop
  | add (n) (ready : s.world.Ready) : Adding s (.addCapacity n) { s.world with busy := true }
  | ensure (min) (ready : s.world.Ready) :
      Adding s (.ensureCapacity min) { s.world with busy := true }
  | poll (i growth) (there : s.operations = [.adding growth]) : Adding s (.poll i) s.world

/-- The event works on shrinking the pool, which has the guard in `w`; of `count` slots,
`left` are to be popped. -/
inductive Reducing (s : System) : Event → World → Nat → Nat → Prop
  | reduce (n) (ready : s.world.Ready) :
    Reducing s (.reduceCapacity n) { s.world with busy := true }
      (min n s.world.availableFiles.length) (min n s.world.availableFiles.length)
  | poll (i shrink) (there : s.operations = [.reducing shrink]) :
    Reducing s (.poll i) s.world shrink.count shrink.remaining

inductive Stopping (s : System) : Event → World → Prop
  | adding (event w) (adding : Adding s event w) : Stopping s event w
  | reducing (i shrink) (there : s.operations = [.reducing shrink]) : Stopping s (.poll i) s.world
  | dropAdding (i growth) (there : s.operations = [.adding growth]) : Stopping s (.cancel i) s.world
  | dropReducing (i shrink) (there : s.operations = [.reducing shrink]) :
    Stopping s (.cancel i) s.world

inductive Turn (mode : Mode) (s : System) (g : Ledger) :
    Event → Outcome Failure Answer → System → Ledger → Prop
  | idle (event : Event) (nothing : s.Idle event) : Turn mode s g event (.ok .done) s g
  | looked (event outcome w') (query : event.Queries) (looked : s.world.Looked w')
      (rep : Rep mode w' g) : Turn mode s g event outcome { s with world := w' } g
  | refused (event error w') (guarded : event.Guarded) (looked : s.world.Looked w')
      (rep : Rep mode w' g) : Turn mode s g event (.err error) { s with world := w' } g
  | opened (request opened w₁ g₁ name file)
      (evolves : Evolves mode (Opens s.world request) s.world g w₁ g₁)
      (result : Opened mode request s.world g opened w₁ g₁ name file) :
    Turn mode s g (.openFile request) (.ok (.opened opened.access))
      { s with
        world := w₁.opening file
        files := ⟨request.filename, request.options, opened.file⟩ :: s.files } g₁
  | unopened (request error w' g') (ready : s.world.Ready)
      (evolves : Evolves mode (Opens s.world request) s.world g w' g')
      (result : NotCreated s.world g w' g') :
    Turn mode s g (.openFile request) (.err error) { s with world := w' } g'
  | called (i made f name content content' outcome w' g') (there : s.files[i]? = some f)
      (named : f.opened = some name)
      (mapped : s.world.mapFilenameToFile.lookup name = some f.handle.file)
      (found : s.world.directory.lookup f.handle.file = some content)
      (effect : FileCall.Effect f.handle.readOnly content made content')
      (altered : s.world.Altered f.handle.file content' w')
      (evolves : Evolves mode (Only name) s.world g w' g') (same : g'.staging = g.staging)
      (rewritten : ∃ f, g'.entry name = (g.entry name).map f) :
    Turn mode s g (.call i made) outcome { s with world := w' } g'
  | closed (i f name outcome w₁ w' g') (there : s.files[i]? = some f)
      (named : f.opened = some name)
      (mapped : s.world.mapFilenameToFile.lookup name = some f.handle.file)
      (flushed : Flushed mode s.world g name f.handle.file w₁)
      (evolves : Evolves mode (Only name) w₁ g w' g')
      (result : Closed name f.options w₁ g w' g' ∨
        (f.options.deleteOnClose = true ∧ DeleteFailed mode name w₁ g w' g'))
      (done : outcome = .ok .done → Closed name f.options w₁ g w' g')
      (answered : outcome = .ok .done ∨ ∃ error, outcome = .err error) :
    Turn mode s g (.closeFile i) outcome
      { s with world := w', files := s.files.eraseIdx i } g'
  | deleted (event name answer w' g') (deletes : event.Deletes name)
      (evolves : Evolves mode (Only name) s.world g w' g')
      (result : Deleted name s.world w' g')
      (told : ∀ removed, answer = .flag removed →
        (removed = true ↔ name ∈ s.world.mapFilenameToFile)) :
    Turn mode s g event (.ok answer) { s with world := w' } g'
  | undeleted (event name error w' g') (deletes : event.Deletes name)
      (evolves : Evolves mode (Only name) s.world g w' g')
      (result : DeleteFailed mode name s.world g w' g') :
    Turn mode s g event (.err error) { s with world := w' } g'
  | importing (filename size file target w')
      (created : ImportCreated mode s.world file filename target w') :
    Turn mode s g (.createImport filename size) (.ok .pending)
      { s with world := w', operations := [.importing target] } (g.stage file [])
  | filled (i offset bytes file filename data content content' data' outcome w')
      (there : s.operations = [.importing (importTarget file filename)])
      (importing : Importing s.world g file filename data)
      (found : s.world.directory.lookup file = some content)
      (filled : Filled content offset bytes content')
      (whole : outcome = .ok .done → InRange offset bytes.length ∧
        content' = content.write (offset + headerOffsetData) bytes)
      (altered : s.world.Altered file content' w')
      (evolves : Evolves mode (fun _ => False) s.world g w' (g.stage file data'))
      (answered : outcome = .ok .done ∨ ∃ error, outcome = .err error) (first : i = 0) :
    Turn mode s g (.importWrite i offset bytes) outcome { s with world := w' }
      (g.stage file data')
  | committed (i file filename data w' g')
      (there : s.operations = [.importing (importTarget file filename)])
      (importing : Importing s.world g file filename data)
      (evolves : Evolves mode (Only filename) s.world g w' g')
      (result : Committed filename file data s.world w' g') (first : i = 0) :
    Turn mode s g (.commit i) (.ok .done)
      { s with world := { w' with busy := false }, operations := [] } g'
  | unimported (event i outcome file filename data w' g') (ends : event.EndsImport i)
      (there : s.operations = [.importing (importTarget file filename)])
      (importing : Importing s.world g file filename data)
      (evolves : Evolves mode (Only filename) s.world g w' g')
      (result : Unimported mode (∀ j, event ≠ .commit j) file filename data s.world g w' g')
      (failed : event = .commit i → ∃ error, outcome = .err error)
      (aborted : event = .abort i → outcome = .ok .done → Reclaimed s.world g w' g')
      (first : i = 0) :
    Turn mode s g event outcome
      { s with world := { w' with busy := false }, operations := [] } g'
  | exporting (name file source w')
      (opened : ExportOpened mode s.world g file name source w') :
    Turn mode s g (.openExport name) (.ok .pending)
      { s with world := w', operations := [.exporting source] } g
  | exported (i file name size) (there : s.operations = [.exporting (exportSource file size)])
      (exporting : Exporting s.world g file name) (first : i = 0) :
    Turn mode s g (.dropExport i) (.ok .done)
      { s with world := { s.world with busy := false }, operations := [] } g
  | growing (event w growth w') (adding : Adding s event w) (resizable : Resizable mode w g)
      (reached : AddReaches mode w g (.pending growth) w') :
    Turn mode s g event (.ok .pending) { s with world := w', operations := [.adding growth] } g
  | grown (event w count w') (adding : Adding s event w) (resizable : Resizable mode w g)
      (reached : AddReaches mode w g (.ready count) w') :
    Turn mode s g event (.ok (.number count)) { s with world := w', operations := [] } g
  | shrinking (event w count left shrink w') (reducing : Reducing s event w count left)
      (resizable : Resizable mode w g)
      (reached : ReduceReaches mode w g count left (.pending shrink) w') :
    Turn mode s g event (.ok .pending) { s with world := w', operations := [.reducing shrink] } g
  | shrunk (event w count left removed w') (reducing : Reducing s event w count left)
      (resizable : Resizable mode w g)
      (reached : ReduceReaches mode w g count left (.ready removed) w') :
    Turn mode s g event (.ok (.number removed)) { s with world := w', operations := [] } g
  | givenUp (event w outcome w') (stopping : Stopping s event w) (resizable : Resizable mode w g)
      (result : GivenUp mode w g w') (ended : outcome ≠ .ok .pending)
      (answered : (outcome = .ok .done ∧ ∃ i, event = .cancel i) ∨ ∃ error, outcome = .err error) :
    Turn mode s g event outcome { s with world := w', operations := [] } g
  | resuming (vfs : Nat) (suspended : Suspended mode { s.world with busy := true } g)
      (free : s.world.busy = false) (registered : s.world.registration = some vfs) :
    Turn mode s g .resume (.ok .pending)
      { s with
        world := { s.world with busy := true }
        operations := [.resuming (.lease vfs)] } g
  | pending (i resuming resuming' w') (there : s.operations = [.resuming resuming])
      (suspended : Suspended mode s.world g) (consulted : s.world.Consulted mode w')
      (resumes : Resumes w' resuming') :
    Turn mode s g (.poll i) (.ok .pending)
      { s with world := w', operations := [.resuming resuming'] } g
  | resumed (i resuming w' g') (there : s.operations = [.resuming resuming])
      (suspended : Suspended mode s.world g) (result : Resumed mode s.world w' g') :
    Turn mode s g (.poll i) (.ok .done) { s with world := w', operations := [] } g'
  | unresumed (event i outcome resuming w' g') (stops : event = .poll i ∨ event = .cancel i)
      (there : s.operations = [.resuming resuming]) (suspended : Suspended mode s.world g)
      (result : ResumeFailed mode s.world g w' g') (ended : outcome ≠ .ok .pending)
      (failed : outcome = .ok .done → event = .cancel i) :
    Turn mode s g event outcome { s with world := w', operations := [] } g'
  | paused (w' : World) (result : Paused mode s.world w') (rep : Rep mode w' g.release) :
    Turn mode s g .pause (.ok .done) { s with world := w' } g.release
  | cleared (w' : World) (g' : Ledger) (evolves : Evolves mode Everything s.world g w' g')
      (clearable : s.world.Clearable) (result : Cleared w' g') :
    Turn mode s g .clear (.ok .done) { s with world := w' } g'
  | uncleared (error w' g') (evolves : Evolves mode Everything s.world g w' g')
      (clearable : s.world.Clearable) (suspect : w'.needsRecovery = true) (faded : Faded g g') :
    Turn mode s g .clear (.err error) { s with world := w' } g'
  | uninstalled (w' : World) (result : Removed mode s.world w') (rep : Rep mode w' g.release) :
    Turn mode s g .uninstall (.ok .done) { s with world := w' } g.release

/-! ## Every event takes a turn -/

def Turns (mode : Mode) (s : System) (g : Ledger) (event : Event) (x : SystemM Answer)
    (from_state : System) : Prop :=
  Prog.Ends x from_state (fun answer s' => ∃ g', Turn mode s g event (.ok answer) s' g')
    (fun error s' => ∃ g', Turn mode s g event (.err error) s' g') fun _ => True

theorem onWorld_bind {x : Prog World ε α} {fail : ε → Failure} {f : α → SystemM β}
    {returns : α → World → Prop} {fails : ε → World → Prop} {crashes : World → Prop}
    {result : β → System → Prop} {fails' : Failure → System → Prop}
    (ends : Prog.Ends x s.world returns fails crashes)
    (rest : ∀ value w', returns value w' →
      Prog.Ends (f value) { s with world := w' } result fails' fun _ => True)
    (onFail : ∀ error w', fails error w' → fails' (fail error) { s with world := w' }) :
    Prog.Ends (onWorld fail x >>= f) s result fails' fun _ => True := by
  have called : Prog.Ends (onWorld fail x) s
      (fun value s' => ∃ w', returns value w' ∧ s' = { s with world := w' })
      fails' fun _ => True := by
    unfold Prog.Ends Prog.wp at ends ⊢
    unfold onWorld
    dsimp only
    rcases run : x.run s.world with ⟨value | error | ⟨⟨⟩⟩, w'⟩
    · rw [run] at ends
      exact ⟨w', ends, rfl⟩
    · rw [run] at ends
      exact onFail error w' ends
    · rw [run] at ends
      exact ends.elim
    · trivial
  refine Prog.Ends.bind called ?_
  rintro value _ ⟨w', holds, rfl⟩
  exact rest value w' holds

theorem onWorld_err {x : Prog World ε α} {error : ε} (fail : ε → Failure)
    (run : x.run s.world = (.err error, w')) (f : α → SystemM β) :
    (onWorld fail x >>= f).run s = (.err (fail error), { s with world := w' }) := by
  refine Prog.bind_err ?_ f
  unfold onWorld
  dsimp only
  rw [run]

theorem onWorld_ok {x : Prog World ε α} {value : α} (fail : ε → Failure)
    (run : x.run s.world = (.ok value, w')) (f : α → SystemM β) :
    (onWorld fail x >>= f).run s = (f value).run { s with world := w' } := by
  refine Prog.bind_ok ?_ f
  unfold onWorld
  dsimp only
  rw [run]

theorem turns_deletion {x : Prog World ε α} {fail : ε → Failure} (answer : α → Answer)
    {event : Event} (deletes : event.Deletes name)
    (keeps : Keeps mode (Only name) x s.world g (fun value w' g' => Deleted name s.world w' g' ∧
        ∀ removed, answer value = .flag removed →
          (removed = true ↔ name ∈ s.world.mapFilenameToFile))
      fun _ w' g' => DeleteFailed mode name s.world g w' g') :
    Turns mode s g event (do
      let value ← onWorld fail x
      pure (answer value)) s := by
  refine onWorld_bind keeps ?_ ?_
  · rintro value w' ⟨g', evolves, deleted, told⟩
    exact Prog.Ends.pure ⟨g', .deleted event name _ w' g' deletes evolves deleted told⟩
  · rintro error w' ⟨g', evolves, failed⟩
    exact ⟨g', .undeleted event name _ w' g' deletes evolves failed⟩

namespace Good

variable (good : Good mode s g)

include good

theorem operation {i : Nat} {operation : Operation} (there : s.operations[i]? = some operation) :
    s.operations = [operation] ∧ s.world.busy = true ∧ Duty mode s.world g operation := by
  have duties := good.duties
  rcases operations : s.operations with _ | ⟨first, _ | ⟨second, rest⟩⟩
  · rw [operations] at there
    exact nomatch there
  · rw [operations] at there duties
    cases i with
    | zero =>
        cases there
        exact ⟨rfl, duties⟩
    | succ i => exact nomatch there
  · rw [operations] at duties
    exact duties.elim

/-- The queries of a pool look at nothing but its names. -/
theorem turns_query (event : Event) (query : event.Queries) (f : World → α)
    (answer : α → Answer) :
    Turns mode s g event (do
      let value ← onWorld .pool (do
        checkActive
        let w ← Prog.get
        pure (f w))
      pure (answer value)) s := by
  have looked : s.world.Looked s.world := .refl _
  have asked : Prog.Ends (do
      checkActive
      let w ← Prog.get
      pure (f w) : PoolM α) s.world (fun _ w' => w' = s.world) (fun _ w' => w' = s.world)
      fun _ => False := by
    rcases checkActive_run (w := s.world) with ⟨run, -⟩ | ⟨error, run, -⟩
    · exact Prog.Ends.after_ok run (Prog.Ends.get_bind (Prog.Ends.pure rfl))
    · exact Prog.Ends.of_err (Prog.bind_err run _) rfl
  refine onWorld_bind asked ?_ ?_
  · rintro value _ rfl
    exact Prog.Ends.pure ⟨g, .looked event _ _ query looked good.rep⟩
  · rintro error _ rfl
    exact ⟨g, .looked event _ _ query looked good.rep⟩

theorem turns_access (name : String) :
    Turns mode s g (.access name) (Event.access name).program s := by
  have looked : s.world.Looked s.world := .refl _
  have asked : Prog.Ends (VfsStore.access name) s.world (fun _ w' => w' = s.world)
      (fun _ w' => w' = s.world) fun _ => False := by
    unfold VfsStore.access
    rcases checkActive_run (w := s.world) with ⟨run, -⟩ | ⟨error, run, -⟩
    · exact Prog.Ends.after_ok (Prog.mapErr_ok_iff.mpr run)
        (Prog.Ends.get_bind (Prog.Ends.pure rfl))
    · exact Prog.Ends.of_err (Prog.bind_err (Prog.mapErr_err run _) _) rfl
  refine onWorld_bind asked ?_ ?_
  · rintro value _ rfl
    exact Prog.Ends.pure ⟨g, .looked _ _ _ trivial looked good.rep⟩
  · rintro error _ rfl
    exact ⟨g, .looked _ _ _ trivial looked good.rep⟩

theorem turns_fullPathname (name : String) :
    Turns mode s g (.fullPathname name) (Event.fullPathname name).program s := by
  have looked : s.world.Looked s.world := .refl _
  have asked : Prog.Ends (VfsStore.fullPathname name) s.world (fun _ w' => w' = s.world)
      (fun _ w' => w' = s.world) fun _ => False := by
    unfold VfsStore.fullPathname
    cases validateFilename name with
    | ok _ => exact Prog.Ends.pure rfl
    | error error => exact Prog.Ends.fail rfl
  refine onWorld_bind asked ?_ ?_
  · rintro value _ rfl
    exact Prog.Ends.pure ⟨g, .looked _ _ _ trivial looked good.rep⟩
  · rintro error _ rfl
    exact ⟨g, .looked _ _ _ trivial looked good.rep⟩

theorem turns_openFile (request : OpenRequest)
    (classified : Introduces s.world request → mode ≠ .lax → Classified request.options.rawFlags) :
    Turns mode s g (.openFile request) (Event.openFile request).program s := by
  by_cases ready : s.world.Ready
  swap
  · obtain ⟨error, run⟩ := openFile_refuses ready request
    have refused : Prog.Ends (openFile request) s.world (fun _ _ => False)
        (fun _ w' => w' = s.world) fun _ => False := Prog.Ends.of_err run rfl
    refine onWorld_bind refused (fun _ _ impossible => impossible.elim) ?_
    rintro error w' rfl
    exact ⟨g, .refused _ _ _ trivial (.refl _) good.rep⟩
  refine onWorld_bind (openFile_ends good.rep request classified) ?_ ?_
  · rintro opened _ ⟨w₁, g₁, name, file, evolves, result, rfl⟩
    refine Prog.Ends.modify_bind (Prog.Ends.pure ⟨g₁, ?_⟩)
    exact .opened request opened w₁ g₁ name file evolves result
  · rintro error w' ⟨g', evolves, failed⟩
    exact ⟨g', .unopened request _ w' g' ready evolves failed⟩

/-- A pool that is not active has nothing that could be deleted. -/
theorem refused_deletion {x : Prog World ε α} {error : ε} {returns : α → World → Ledger → Prop}
    (run : x.run s.world = (.err error, s.world)) :
    Keeps mode (Only name) x s.world g returns
      fun _ w' g' => DeleteFailed mode name s.world g w' g' :=
  .of_err run ⟨g, .refl good.rep, .inl ⟨rfl, rfl⟩⟩

theorem turns_deleteFile (name : String) :
    Turns mode s g (.deleteFile name) (Event.deleteFile name).program s := by
  refine turns_deletion (fun _ => .done) (.inl rfl) ?_
  by_cases active : s.world.state = .active
  · exact (storeDelete_keeps good.rep (good.active_loaded active) name).mono
      (fun _ _ _ deleted => ⟨deleted, nofun⟩) fun _ _ _ failed => failed
  · obtain ⟨error, run⟩ := deleteFile_refuses (fun ready => active ready.active) name
    exact good.refused_deletion (Prog.bind_err (Prog.mapErr_err run _) _)

theorem turns_remove (name : String) :
    Turns mode s g (.remove name) (Event.remove name).program s := by
  refine turns_deletion .flag (.inr rfl) ?_
  by_cases active : s.world.state = .active
  · refine (deleteFile_keeps good.rep (good.active_loaded active) name).mono ?_
      fun _ _ _ failed => failed
    intro removed w' g' deleted
    refine ⟨deleted.1, fun flag same => ?_⟩
    cases same
    exact deleted.2
  · obtain ⟨error, run⟩ := deleteFile_refuses (fun ready => active ready.active) name
    exact good.refused_deletion run

theorem turns_closeFile (i : Nat) :
    Turns mode s g (.closeFile i) (Event.closeFile i).program s := by
  refine Prog.Ends.get_bind ?_
  rcases there : s.files[i]? with _ | f
  · exact Prog.Ends.pure ⟨g, .idle _ there⟩
  have member := List.mem_of_getElem? there
  obtain ⟨name, named, mapped⟩ := good.live f member
  have loaded := good.rep.loaded_of_mapped mapped
  refine Prog.Ends.modify_bind (onWorld_bind (s := { s with files := s.files.eraseIdx i })
    (closeFile_ends good.rep loaded f.options named mapped (good.inUse member)) ?_ ?_)
  · rintro _ w' ⟨w₁, g', flushed, evolves, closed⟩
    exact Prog.Ends.pure ⟨g', .closed i f name _ w₁ w' g' there named mapped flushed evolves
      (.inl closed) (fun _ => closed) (.inl rfl)⟩
  · rintro error w' ⟨w₁, g', flushed, evolves, result⟩
    exact ⟨g', .closed i f name _ w₁ w' g' there named mapped flushed evolves result nofun
      (.inr ⟨_, rfl⟩)⟩

theorem turns_createImport (filename : String) (size : Nat) :
    Turns mode s g (.createImport filename size) (Event.createImport filename size).program s := by
  refine onWorld_bind (createImport_ends good.rep.allowed filename size) ?_ ?_
  · rintro target w' ⟨file, created⟩
    refine Prog.Ends.modify_bind (Prog.Ends.pure ⟨g.stage file [], ?_⟩)
    have alone := good.free_alone created.ready.free
    have turn := Turn.importing (g := g) filename size file target w' created
    dsimp only
    rw [alone]
    exact turn
  · rintro error w' consulted
    exact ⟨g, .refused _ _ w' trivial consulted.viewed.looked (consulted.rep good.rep)⟩

omit good in
theorem first_of_alone {i : Nat} {operation other : Operation} (alone : s.operations = [operation])
    (there : s.operations[i]? = some other) : i = 0 := by
  rw [alone] at there
  cases i with
  | zero => rfl
  | succ i => cases there

theorem importing_of {i : Nat} {target : SqliteVfs.ImportTarget World OpfsSAHError}
    (there : s.operations[i]? = some (.importing target)) :
    ∃ file filename data, s.operations = [.importing (importTarget file filename)] ∧
      target = importTarget file filename ∧ Importing s.world g file filename data ∧
      s.operations.eraseIdx i = [] := by
  obtain ⟨alone, -, file, filename, data, rfl, importing⟩ := good.operation there
  refine ⟨file, filename, data, alone, rfl, importing, ?_⟩
  rw [alone] at there ⊢
  cases i with
  | zero => rfl
  | succ i => exact nomatch there

theorem turns_consuming {i : Nat} {event : Event} {fail : ε → Failure}
    {call : SqliteVfs.ImportTarget World OpfsSAHError → Prog World ε α}
    (idle : (∀ target, s.operations[i]? ≠ some (.importing target)) → s.Idle event)
    (turns : ∀ file filename data, s.operations = [.importing (importTarget file filename)] →
      Importing s.world g file filename data → i = 0 →
      Prog.Ends (call (importTarget file filename)) s.world
        (fun _ w' => ∃ g', Turn mode s g event (.ok .done)
          { s with world := w', operations := [] } g')
        (fun error w' => ∃ g', Turn mode s g event (.err (fail error))
          { s with world := w', operations := [] } g') fun _ => True) :
    Turns mode s g event (consumeImport i fail call) s := by
  refine Prog.Ends.get_bind ?_
  rcases there : s.operations[i]? with _ | operation
  · exact Prog.Ends.pure ⟨g, .idle _ (idle fun target here => nomatch there.symm.trans here)⟩
  by_cases imports : ∃ target, operation = .importing target
  swap
  · have nothing : s.Idle event := idle fun target here =>
      imports ⟨target, Option.some.inj (there.symm.trans here)⟩
    cases operation with
    | importing target => exact absurd ⟨target, rfl⟩ imports
    | _ => exact Prog.Ends.pure ⟨g, .idle _ nothing⟩
  obtain ⟨target, rfl⟩ := imports
  obtain ⟨file, filename, data, alone, rfl, importing, erased⟩ := good.importing_of there
  refine Prog.Ends.modify_bind (onWorld_bind (s := { s with operations := s.operations.eraseIdx i })
    (turns file filename data alone importing (first_of_alone alone there)) ?_ ?_)
  · rintro _ w' turn
    rw [erased]
    exact Prog.Ends.pure turn
  · rintro error w' turn
    rw [erased]
    exact turn

theorem turns_commit (i : Nat) : Turns mode s g (.commit i) (Event.commit i).program s := by
  refine good.turns_consuming id fun file filename data there importing first => ?_
  refine Prog.Ends.ensure ((commit_ends good.rep importing).mono ?_ ?_ fun _ _ => trivial)
  · rintro _ w' ⟨g', evolves, committed⟩
    exact ⟨g', .committed i file filename data w' g' there importing evolves committed first⟩
  · rintro error w' ⟨g', evolves, result, -⟩
    exact ⟨g', .unimported _ i _ file filename data w' g' (.inl rfl) there importing evolves
      ⟨result, fun never => absurd rfl (never i)⟩ (fun _ => ⟨_, rfl⟩) nofun first⟩

/-- A slot that an import fills holds nothing that has a name. -/
theorem unpublished {data : List UInt8} (importing : Importing s.world g file filename data) :
    ∃ content, s.world.directory.lookup file = some content ∧ Blank mode content := by
  obtain ⟨-, content, found, staged⟩ := good.rep.staged file data importing.staging
  exact ⟨content, found, staged.blank⟩

theorem turns_abort (i : Nat) : Turns mode s g (.abort i) (Event.abort i).program s := by
  refine good.turns_consuming id fun file filename data there importing first => ?_
  obtain ⟨content, found, blank⟩ := good.unpublished importing
  have left : Unpublished mode filename data content := .inl blank
  have cleaned := cleanup_ends good.rep importing.healthy importing.staging importing.vacant.1
    left found (.inl ⟨rfl, rfl⟩) good.rep.allowed
  refine Prog.Ends.ensure (cleaned.mono ?_ ?_ fun _ _ => trivial)
  · rintro _ w' ⟨g', evolves, reclaimed⟩
    exact ⟨g', .unimported _ i _ file filename data w' g' (.inr (.inl rfl)) there importing evolves
      ⟨.inl reclaimed, fun _ => reclaimed.ledger⟩ nofun (fun _ _ => reclaimed) first⟩
  · rintro error w' ⟨g', evolves, lost, unstaged⟩
    exact ⟨g', .unimported _ i _ file filename data w' g' (.inr (.inl rfl)) there importing evolves
      ⟨.inr lost, fun _ => unstaged blank⟩ nofun nofun first⟩

theorem turns_abortWithError (i : Nat) (error : OpfsSAHError) :
    Turns mode s g (.abortWithError i error) (Event.abortWithError i error).program s := by
  refine good.turns_consuming id fun file filename data there importing first => ?_
  obtain ⟨content, found, blank⟩ := good.unpublished importing
  have left : Unpublished mode filename data content := .inl blank
  have cleaned := abortWithError_ends good.rep importing.healthy importing.staging
    importing.vacant.1 left found (.inl ⟨rfl, rfl⟩) good.rep.allowed error
  refine Prog.Ends.ensure (cleaned.mono ?_ (fun error => error.elim) fun _ _ => trivial)
  rintro _ w' ⟨g', evolves, result, unstaged⟩
  exact ⟨g', .unimported _ i _ file filename data w' g' (.inr (.inr (.inl ⟨error, rfl⟩))) there
    importing evolves ⟨result, fun _ => unstaged blank⟩ nofun nofun first⟩

theorem turns_dropImport (i : Nat) :
    Turns mode s g (.dropImport i) (Event.dropImport i).program s := by
  refine good.turns_consuming id fun file filename data there importing first => ?_
  obtain ⟨content, found, blank⟩ := good.unpublished importing
  have left : Unpublished mode filename data content := .inl blank
  have cleaned := drop_ends good.rep importing.healthy importing.staging importing.vacant.1
    left found (.inl ⟨rfl, rfl⟩) good.rep.allowed
  refine Prog.Ends.ensure (cleaned.mono ?_ (fun error => error.elim) fun _ _ => trivial)
  rintro _ w' ⟨g', evolves, result, unstaged⟩
  exact ⟨g', .unimported _ i _ file filename data w' g' (.inr (.inr (.inr rfl))) there
    importing evolves ⟨result, fun _ => unstaged blank⟩ nofun nofun first⟩

theorem turns_openExport (name : String) :
    Turns mode s g (.openExport name) (Event.openExport name).program s := by
  refine onWorld_bind (openExport_ends good.rep name) ?_ ?_
  · rintro source w' ⟨file, opened⟩
    refine Prog.Ends.modify_bind (Prog.Ends.pure ⟨g, ?_⟩)
    have alone := good.free_alone opened.ready.free
    have turn := Turn.exporting (s := s) name file source w' opened
    dsimp only
    rw [alone]
    exact turn
  · rintro error w' ⟨rep, looked⟩
    exact ⟨g, .refused _ _ w' trivial looked rep⟩

theorem turns_dropExport (i : Nat) :
    Turns mode s g (.dropExport i) (Event.dropExport i).program s := by
  refine Prog.Ends.get_bind ?_
  rcases there : s.operations[i]? with _ | operation
  · exact Prog.Ends.pure ⟨g, .idle _ fun source here => nomatch there.symm.trans here⟩
  by_cases exports : ∃ source, operation = .exporting source
  swap
  · have nothing : s.Idle (.dropExport i) := fun source here =>
      exports ⟨source, Option.some.inj (there.symm.trans here)⟩
    cases operation with
    | exporting source => exact absurd ⟨source, rfl⟩ exports
    | _ => exact Prog.Ends.pure ⟨g, .idle _ nothing⟩
  obtain ⟨source, rfl⟩ := exports
  obtain ⟨alone, -, file, name, size, rfl, exporting⟩ := good.operation there
  have first := first_of_alone alone there
  have erased : s.operations.eraseIdx i = [] := by
    rw [alone, first]
    rfl
  have ended : Prog.Ends endOperation s.world (fun _ w' => w' = { s.world with busy := false })
      (fun _ _ => False) fun _ => False := Prog.Ends.modify rfl
  refine Prog.Ends.modify_bind (onWorld_bind (s := { s with operations := s.operations.eraseIdx i })
    ended ?_ fun error => error.elim)
  rintro _ _ rfl
  rw [erased]
  exact Prog.Ends.pure ⟨g, .exported i file name size alone exporting first⟩

/-! ### Growing and shrinking -/

theorem resizable_ready (ready : s.world.Ready) :
    Resizable mode { s.world with busy := true } g where
  rep := good.rep.guard nofun
  active := ready.active
  healthy := ready.healthy
  loaded := good.active_loaded ready.active
  idle := good.rep.idle ready.free
  shut _ apart := good.unmapped_shut fun _ mapped => apart (mem_held_mapped mapped)

end Good

/-- A future that is not ready is kept; it is the only operation. -/
theorem suspend_turns {τ : Type} {wrap : τ → Operation} {answer : α → Answer} {event : Event}
    {polled : Poll τ α} {from_state : System} (alone : from_state.operations = [])
    (pending : ∀ state, polled = .pending state → ∃ g', Turn mode s g event (.ok .pending)
      { from_state with operations := [wrap state] } g')
    (ready : ∀ value, polled = .ready value → ∃ g', Turn mode s g event (.ok (answer value))
      from_state g') :
    Turns mode s g event (suspend wrap answer polled) from_state := by
  cases polled with
  | pending state =>
      refine Prog.Ends.modify_bind (Prog.Ends.pure ?_)
      rw [alone]
      exact pending state rfl
  | ready value => exact Prog.Ends.pure (ready value rfl)

theorem added_turns {event : Event} {w : World} (adding : Adding s event w)
    (resizable : Resizable mode w g) {polled : Poll Growth Nat} {w' : World}
    (reached : AddReaches mode w g polled w') :
    Turns mode s g event (suspend .adding .number polled)
      { s with world := w', operations := [] } := by
  refine suspend_turns rfl ?_ ?_
  · rintro growth rfl
    exact ⟨g, .growing event w growth w' adding resizable reached⟩
  · rintro count rfl
    exact ⟨g, .grown event w count w' adding resizable reached⟩

theorem reduced_turns {event : Event} {w : World} {count left : Nat}
    (reducing : Reducing s event w count left) (resizable : Resizable mode w g)
    {polled : Poll Shrink Nat} {w' : World}
    (reached : ReduceReaches mode w g count left polled w') :
    Turns mode s g event (suspend .reducing .number polled)
      { s with world := w', operations := [] } := by
  refine suspend_turns rfl ?_ ?_
  · rintro shrink rfl
    exact ⟨g, .shrinking event w count left shrink w' reducing resizable reached⟩
  · rintro removed rfl
    exact ⟨g, .shrunk event w count left removed w' reducing resizable reached⟩

theorem addCapacity_refuses (unready : ¬ w.Ready) (n : Nat) :
    ∃ error, (addCapacity n).run w = (.err error, w) := by
  unfold addCapacity
  exact checkActive_refuses unready _

theorem reduceCapacity_refuses (unready : ¬ w.Ready) (n : Nat) :
    ∃ error, (reduceCapacity n).run w = (.err error, w) := by
  unfold reduceCapacity
  exact checkActive_refuses unready _

namespace Good

variable (good : Good mode s g)

include good

theorem turns_adding (event : Event) (n : Nat) (guarded : event.Guarded)
    (adding : s.world.Ready → Adding s event { s.world with busy := true })
    {x : PoolM (Poll Growth Nat)} (same : x.run s.world = (addCapacity n).run s.world) :
    Turns mode s g event (do
      let polled ← onWorld .pool x
      suspend .adding .number polled) s := by
  by_cases ready : s.world.Ready
  · have resizable := good.resizable_ready ready
    have called := addCapacity_ends ready resizable n
    unfold Prog.Ends Prog.wp at called
    rw [← same] at called
    have alone := good.free_alone ready.free
    obtain ⟨world, files, operations⟩ := s
    obtain rfl : operations = [] := alone
    refine onWorld_bind called (fun polled w' reached => ?_) fun error w' result => ?_
    · exact added_turns (adding ready) resizable reached
    · exact ⟨g, .givenUp event _ _ w' (.adding _ _ (adding ready)) resizable result (by simp)
        (.inr ⟨_, rfl⟩)⟩
  · obtain ⟨error, run⟩ := addCapacity_refuses ready n
    have refused : Prog.Ends x s.world (fun _ _ => False) (fun _ w' => w' = s.world)
        fun _ => False := Prog.Ends.of_err (same.trans run) rfl
    refine onWorld_bind refused (fun _ _ impossible => impossible.elim) ?_
    rintro error w' rfl
    exact ⟨g, .refused _ _ _ guarded (.refl _) good.rep⟩

theorem turns_addCapacity (n : Nat) :
    Turns mode s g (.addCapacity n) (Event.addCapacity n).program s :=
  good.turns_adding (.addCapacity n) n trivial (.add n) rfl

theorem turns_ensureCapacity (min : Nat) :
    Turns mode s g (.ensureCapacity min) (Event.ensureCapacity min).program s :=
  good.turns_adding (.ensureCapacity min) (min - s.world.capacity) trivial (.ensure min) rfl

theorem turns_reduceCapacity (n : Nat) :
    Turns mode s g (.reduceCapacity n) (Event.reduceCapacity n).program s := by
  by_cases ready : s.world.Ready
  · have resizable := good.resizable_ready ready
    have called := reduceCapacity_ends ready resizable n
    have alone := good.free_alone ready.free
    obtain ⟨world, files, operations⟩ := s
    obtain rfl : operations = [] := alone
    refine onWorld_bind called (fun polled w' reached => ?_) fun _ _ impossible => impossible.elim
    exact reduced_turns (.reduce n ready) resizable reached
  · obtain ⟨error, run⟩ := reduceCapacity_refuses ready n
    have refused : Prog.Ends (Sahpool.reduceCapacity n) s.world (fun _ _ => False)
        (fun _ w' => w' = s.world) fun _ => False := Prog.Ends.of_err run rfl
    refine onWorld_bind refused (fun _ _ impossible => impossible.elim) ?_
    rintro error w' rfl
    exact ⟨g, .refused _ _ _ trivial (.refl _) good.rep⟩

/-! ### Futures -/

theorem turns_resume : Turns mode s g .resume Event.resume.program s := by
  refine onWorld_bind (resume_ends good.readable) ?_ ?_
  · rintro polled w' (⟨rfl, ready, rfl⟩ | ⟨vfs, rfl, paused, free, registered, -, rfl⟩)
    · exact Prog.Ends.pure ⟨g, .idle _ ready⟩
    · have inactive : s.world.state ≠ .active := by
        rw [paused]
        exact nofun
      have unloaded : g.loaded = false :=
        Bool.eq_false_iff.mpr fun loaded => inactive (good.loaded.mp loaded)
      have suspended : Suspended mode { s.world with busy := true } g := {
        rep := good.rep.guard nofun
        paused := paused
        unloaded := unloaded
        known := good.known
        idle := good.rep.idle free
        shut := fun file => by
          change s.world.openCount file = 0
          rw [good.counts, System.handles, good.files_of_inactive inactive]
          rfl
        unleased := Bool.eq_false_iff.mpr fun leased => inactive (good.lease.mp leased)
        readable := good.readable }
      have duties := good.duties
      obtain ⟨world, files, operations⟩ := s
      obtain rfl : operations = [] := by
        rcases operations with _ | ⟨operation, _ | ⟨other, rest⟩⟩
        · rfl
        · exact nomatch free.symm.trans duties.1
        · exact duties.elim
      exact Prog.Ends.modify_bind (Prog.Ends.pure ⟨g, .resuming vfs suspended free registered⟩)
  · rintro error w' ⟨rfl, -⟩
    exact ⟨g, .refused _ _ _ trivial (.refl _) good.rep⟩

theorem turns_future {event : Event} (i : Nat) (next : Operation → SystemM Answer)
    (idle : (∀ operation, s.operations[i]? = some operation → ¬ operation.IsFuture) → s.Idle event)
    (otherwise : ∀ operation : Operation, ¬ operation.IsFuture → next operation = pure .done)
    (turns : ∀ operation : Operation, operation.IsFuture → s.operations = [operation] →
      Duty mode s.world g operation →
      Turns mode s g event (next operation) { s with operations := [] }) :
    Turns mode s g event (withTransfer i fun operation => do
      if operation.IsFuture then forgetOperation i
      next operation) s := by
  refine Prog.Ends.get_bind ?_
  rcases there : s.operations[i]? with _ | operation
  · exact Prog.Ends.pure ⟨g, .idle _ (idle fun other here => nomatch there.symm.trans here)⟩
  obtain ⟨alone, -, duty⟩ := good.operation there
  dsimp only
  by_cases future : operation.IsFuture
  · rw [if_pos future]
    have erased : s.operations.eraseIdx i = [] := by
      rw [alone] at there ⊢
      cases i with
      | zero => rfl
      | succ i => exact nomatch there
    refine Prog.Ends.modify_bind ?_
    rw [erased]
    exact turns operation future alone duty
  · rw [if_neg future, otherwise operation future]
    refine Prog.Ends.pure ⟨g, .idle _ (idle fun other here => ?_)⟩
    obtain rfl := Option.some.inj (there.symm.trans here)
    exact future

theorem turns_poll (i : Nat) : Turns mode s g (.poll i) (Event.poll i).program s := by
  refine good.turns_future i Operation.poll id (fun operation static => ?_)
    fun operation future alone duty => ?_
  · cases operation with
    | importing target => rfl
    | exporting source => rfl
    | _ => exact absurd trivial static
  cases operation with
  | importing target => exact future.elim
  | exporting source => exact future.elim
  | adding growth =>
      refine onWorld_bind (pollAddCapacity_ends duty.1 duty.2) (fun polled w' reached => ?_)
        fun error w' result => ?_
      · exact added_turns (.poll i growth alone) duty.1 reached
      · exact ⟨g, .givenUp _ _ _ w' (.adding _ _ (.poll i growth alone)) duty.1 result (by simp)
          (.inr ⟨_, rfl⟩)⟩
  | reducing shrink =>
      refine onWorld_bind (pollReduceCapacity_ends duty.1 duty.2) (fun polled w' reached => ?_)
        fun error w' result => ?_
      · exact reduced_turns (.poll i shrink alone) duty.1 reached
      · exact ⟨g, .givenUp _ _ _ w' (.reducing i shrink alone) duty.1 result (by simp)
          (.inr ⟨_, rfl⟩)⟩
  | resuming resuming =>
      refine onWorld_bind (pollResume_ends duty.1 duty.2) (fun polled w' reached => ?_)
        fun error w' failed => ?_
      · refine suspend_turns rfl ?_ ?_
        · rintro resuming' rfl
          exact ⟨g, .pending i resuming resuming' w' alone duty.1 reached.1 reached.2⟩
        · rintro _ rfl
          obtain ⟨g', result⟩ := reached
          exact ⟨g', .resumed i resuming w' g' alone duty.1 result⟩
      · obtain ⟨⟨g', result⟩, -⟩ := failed
        exact ⟨g', .unresumed _ i _ resuming w' g' (.inl rfl) alone duty.1 result (by simp)
          (by simp)⟩

theorem turns_cancel (i : Nat) : Turns mode s g (.cancel i) (Event.cancel i).program s := by
  refine good.turns_future i Operation.cancel id (fun operation static => ?_)
    fun operation future alone duty => ?_
  · cases operation with
    | importing target => rfl
    | exporting source => rfl
    | _ => exact absurd trivial static
  cases operation with
  | importing target => exact future.elim
  | exporting source => exact future.elim
  | adding growth =>
      refine onWorld_bind (cancelAddCapacity_ends duty.1 duty.2) (fun _ w' result => ?_)
        fun _ _ impossible => impossible.elim
      exact Prog.Ends.pure ⟨g, .givenUp _ _ _ w' (.dropAdding i growth alone) duty.1 result
        (by simp) (.inl ⟨rfl, i, rfl⟩)⟩
  | reducing shrink =>
      refine onWorld_bind (cancelReduceCapacity_ends duty.1 duty.2) (fun _ w' result => ?_)
        fun _ _ impossible => impossible.elim
      exact Prog.Ends.pure ⟨g, .givenUp _ _ _ w' (.dropReducing i shrink alone) duty.1 result
        (by simp) (.inl ⟨rfl, i, rfl⟩)⟩
  | resuming resuming =>
      have dropped : Prog.Ends cancelResume s.world
          (fun _ w' => w' = { s.world with busy := false }) (fun _ _ => False) fun _ => False :=
        Prog.Ends.widen (Prog.Ends.modify rfl)
      refine onWorld_bind dropped ?_ fun _ _ impossible => impossible.elim
      rintro _ _ rfl
      have untouched := duty.1.unawaited (.refl good.rep.allowed)
      exact Prog.Ends.pure ⟨g, .unresumed _ i _ resuming _ g (.inr rfl) alone duty.1
        (duty.1.stopped untouched) (by simp) fun _ => rfl⟩

/-! ### The lifecycle -/

theorem turns_pause : Turns mode s g .pause Event.pause.program s := by
  refine onWorld_bind (pause_ends good.rep.allowed) ?_ ?_
  · rintro _ w' (⟨paused, free, rfl⟩ | result)
    · exact Prog.Ends.pure ⟨g, .idle _ ⟨paused, free⟩⟩
    · refine Prog.Ends.pure ⟨g.release, .paused w' result ?_⟩
      obtain ⟨env, registry, allowed, -, -, rfl⟩ := result.result
      exact { good.rep.release with allowed := allowed }
  · rintro error w' ⟨consulted, -⟩
    exact ⟨g, .refused _ _ w' trivial consulted.viewed.looked (consulted.rep good.rep)⟩

theorem turns_clear : Turns mode s g .clear Event.clear.program s := by
  refine onWorld_bind (clear_keeps good.rep good.active_loaded) ?_ ?_
  · rintro _ w' ⟨g', evolves, clearable, cleared⟩
    exact Prog.Ends.pure ⟨g', .cleared w' g' evolves clearable cleared⟩
  · rintro error w' ⟨g', evolves, ⟨rfl, rfl, -⟩ | ⟨clearable, -, suspect, faded⟩⟩
    · exact ⟨_, .refused _ _ _ trivial (.refl _) good.rep⟩
    · exact ⟨g', .uncleared _ w' g' evolves clearable suspect faded⟩

theorem turns_uninstall : Turns mode s g .uninstall Event.uninstall.program s := by
  refine onWorld_bind (uninstall_ends good.rep.allowed) ?_ ?_
  · rintro _ w' (⟨removed, rfl⟩ | result)
    · exact Prog.Ends.pure ⟨g, .idle _ removed⟩
    · refine Prog.Ends.pure ⟨g.release, .uninstalled w' result ?_⟩
      obtain ⟨pointer, env, allowed, -, rfl⟩ := result.result
      exact { good.rep.release with allowed := allowed }
  · rintro error w' ⟨consulted, -⟩
    exact ⟨g, .refused _ _ w' trivial consulted.viewed.looked (consulted.rep good.rep)⟩

end Good

/-! ### Calls on data -/

def Surroundings.spent (around : Surroundings) : Surroundings := ⟨Env.silent, around.registry⟩

def TurnsSpent (mode : Mode) (s : System) (g : Ledger) (around : Surroundings) (event : Event)
    (x : SystemM Answer) : Prop :=
  Prog.Ends x (s.facing around)
    (fun answer s' => ∃ g' s₂, Turn mode (s.facing around.spent) g event (.ok answer) s₂ g' ∧
      s'.silenced = s₂.silenced)
    (fun error s' => ∃ g' s₂, Turn mode (s.facing around.spent) g event (.err error) s₂ g' ∧
      s'.silenced = s₂.silenced) fun _ => True

theorem World.Reached.altered {around : Surroundings}
    (reached : (w.facing around).Reached file content content' w')
    (found : w.directory.lookup file = some content) :
    (w.facing around.spent).Altered file content' w'.silenced := by
  rcases reached with ⟨rfl, rfl⟩ | ⟨replies, rfl⟩
  · exact ⟨⟨rfl, rfl, rfl, rfl⟩, .refl _, found, fun _ _ => rfl⟩
  · exact ⟨⟨rfl, rfl, rfl, rfl⟩, .slots _ _ _ _ _ _ _, AList.lookup_insert _,
      fun _ different => AList.lookup_insert_ne different⟩

theorem World.Reached.evolves {around : Surroundings} {P : Ledger → Prop}
    (reached : (w.facing around).Reached file content content' w')
    (rep : Rep mode (w.facing around.spent) g) (still : P g)
    (changed : ∃ g', Evolves mode reach (w.facing around.spent) g
      { w.facing around.spent with directory := w.directory.insert file content' } g' ∧ P g') :
    ∃ g', Evolves mode reach (w.facing around.spent) g w'.silenced g' ∧ P g' := by
  rcases reached with ⟨rfl, -⟩ | ⟨replies, rfl⟩
  · exact ⟨g, .refl rep, still⟩
  · exact changed

theorem Surroundings.spent_allowed (around : Surroundings) : around.spent.Allowed mode := nofun

namespace Good

variable (good : Good mode s g)

include good

theorem turns_call (around : Surroundings) (i : Nat) (made : FileCall) :
    TurnsSpent mode s g around (.call i made) (Event.call i made).program := by
  have rep := good.rep.facing around.spent_allowed
  refine Prog.Ends.get_bind ?_
  rcases there : (s.facing around).files[i]? with _ | f
  · exact Prog.Ends.pure ⟨g, _, .idle _ there, rfl⟩
  have member : f ∈ s.files := List.mem_of_getElem? there
  obtain ⟨name, named, mapped⟩ := good.live f member
  obtain ⟨content, found, -⟩ := good.rep.content_of_mapped mapped
  have turned {w' : World} (reached : ∃ content', made.Effect f.handle.readOnly content content' ∧
      (s.world.facing around).Reached f.handle.file content content' w')
      (outcome : Outcome Failure Answer) :
      ∃ g' s₂, Turn mode (s.facing around.spent) g (.call i made) outcome s₂ g' ∧
        ({ s with world := w' } : System).silenced = s₂.silenced := by
    obtain ⟨content', effect, reached⟩ := reached
    obtain ⟨g', evolves, same, rewritten⟩ := reached.evolves
      (P := fun g' => g'.staging = g.staging ∧ ∃ f, g'.entry name = (g.entry name).map f) rep
      ⟨rfl, id, (Entry.map_id _).symm⟩ (rep.call mapped (good.inUse member) found effect)
    exact ⟨g', _, .called i made f name content content' outcome _ g' there named mapped
      found effect (reached.altered found) evolves same rewritten, rfl⟩
  refine onWorld_bind (made.affects f.handle (w := s.world.facing around) found) ?_ ?_
  · exact fun answer w' reached => Prog.Ends.pure (turned reached _)
  · exact fun error w' reached => turned reached _

theorem turns_importWrite (around : Surroundings) (i offset : Nat) (bytes : List UInt8) :
    TurnsSpent mode s g around (.importWrite i offset bytes)
      (Event.importWrite i offset bytes).program := by
  have rep := good.rep.facing around.spent_allowed
  refine Prog.Ends.get_bind ?_
  rcases there : (s.facing around).operations[i]? with _ | operation
  · exact Prog.Ends.pure ⟨g, _, .idle _ (fun target here => nomatch there.symm.trans here), rfl⟩
  by_cases imports : ∃ target, operation = .importing target
  swap
  · have nothing : (s.facing around.spent).Idle (.importWrite i offset bytes) := fun target here =>
      imports ⟨target, Option.some.inj (there.symm.trans here)⟩
    cases operation with
    | importing target => exact absurd ⟨target, rfl⟩ imports
    | _ => exact Prog.Ends.pure ⟨g, _, .idle _ nothing, rfl⟩
  obtain ⟨target, rfl⟩ := imports
  obtain ⟨file, filename, data, alone, rfl, importing, -⟩ := good.importing_of there
  obtain ⟨-, content, found, -⟩ := good.rep.staged file data importing.staging
  have turned {w' : World} {content' : SlotFile} (filled : Filled content offset bytes content')
      (reached : (s.world.facing around).Reached file content content' w')
      (outcome : Outcome Failure Answer) (whole : outcome = .ok .done →
        InRange offset bytes.length ∧ content' = content.write (offset + headerOffsetData) bytes)
      (answered : outcome = .ok .done ∨ ∃ error, outcome = .err error) :
      ∃ g' s₂, Turn mode (s.facing around.spent) g (.importWrite i offset bytes) outcome s₂ g' ∧
        ({ s with world := w' } : System).silenced = s₂.silenced := by
    have same : g.stage file data = g := by
      have staging := importing.staging
      obtain ⟨⟩ := g
      cases staging
      rfl
    have filling : ∃ data', Evolves mode (fun _ => False) _ _ _ (g.stage file data') :=
      rep.filled importing.staging found filled
    obtain ⟨data', changed⟩ := filling
    obtain ⟨g', evolves, data', rfl⟩ := reached.evolves
      (P := fun g' => ∃ data', g' = g.stage file data') rep ⟨data, same.symm⟩
      ⟨_, changed, data', rfl⟩
    exact ⟨_, _, .filled i offset bytes file filename data content content' data' outcome _ alone
      (importing.facing _) found filled whole (reached.altered found) evolves answered
      (first_of_alone alone there), rfl⟩
  refine onWorld_bind (importWrite_ends (w := s.world.facing around) offset bytes found) ?_ ?_
  · rintro _ w' ⟨inside, reached⟩
    refine Prog.Ends.pure (turned (.inr ⟨inside, bytes.length, ?_⟩) reached _
      (fun _ => ⟨inside, rfl⟩) (.inl rfl))
    rw [List.take_length]
  · rintro error w' ⟨content', filled, reached⟩
    exact turned filled reached _ nofun (.inr ⟨_, rfl⟩)

theorem turns_exportRead (around : Surroundings) (i offset : Nat) (buf : List UInt8) :
    TurnsSpent mode s g around (.exportRead i offset buf)
      (Event.exportRead i offset buf).program := by
  have rep := good.rep.facing around.spent_allowed
  refine Prog.Ends.get_bind ?_
  rcases there : (s.facing around).operations[i]? with _ | operation
  · exact Prog.Ends.pure ⟨g, _, .idle _ (fun source here => nomatch there.symm.trans here), rfl⟩
  by_cases exports : ∃ source, operation = .exporting source
  swap
  · have nothing : (s.facing around.spent).Idle (.exportRead i offset buf) := fun source here =>
      exports ⟨source, Option.some.inj (there.symm.trans here)⟩
    cases operation with
    | exporting source => exact absurd ⟨source, rfl⟩ exports
    | _ => exact Prog.Ends.pure ⟨g, _, .idle _ nothing, rfl⟩
  obtain ⟨source, rfl⟩ := exports
  obtain ⟨-, -, file, name, size, rfl, exporting⟩ := good.operation there
  obtain ⟨content, found, -⟩ := good.rep.content_of_mapped exporting.mapped
  have turned {w' : World} (reached : ∃ content', content' = content ∧
      (s.world.facing around).Reached file content content' w')
      (outcome : Outcome Failure Answer) :
      ∃ g' s₂, Turn mode (s.facing around.spent) g (.exportRead i offset buf) outcome s₂ g' ∧
        ({ s with world := w' } : System).silenced = s₂.silenced := by
    obtain ⟨content', rfl, reached⟩ := reached
    have altered := reached.altered found
    obtain ⟨g', evolves, rfl⟩ : ∃ g', Evolves mode Everything _ g _ g' ∧ g' = g :=
      reached.evolves (P := fun g' => g' = g) rep rfl ⟨g, .move rep
        (.touch _ g file content' (mem_held_mapped exporting.mapped) found) (fun _ _ => rfl)
        fun _ other _ _ => apart_touch (w := s.world) found other, rfl⟩
    refine ⟨g', _, .looked _ outcome _ trivial ⟨altered.still, altered.settings, fun other => ?_⟩
      evolves.rep, rfl⟩
    by_cases same : other = file
    · rw [same, altered.here]
      exact found.symm
    · exact altered.others other same
  refine onWorld_bind (exportRead_affects (w := s.world.facing around) offset buf found) ?_ ?_
  · exact fun answer w' reached => Prog.Ends.pure (turned reached _)
  · exact fun error w' reached => turned reached _

end Good

/-! ## Steps -/

def Event.OnData : Event → Prop
  | .call _ _ | .importWrite _ _ _ | .exportRead _ _ _ => True
  | _ => False

/-- The browser answers as the mode says, except that calls on data may be answered in any
way; and open flags are as SQLite supplies them, unless the mode is lax. -/
structure Moment.Allowed (mode : Mode) (moment : Moment) : Prop where
  answers : ¬ moment.event.OnData → moment.around.Allowed mode
  flags : ∀ request, moment.event = .openFile request → mode ≠ .lax →
    Classified request.options.rawFlags

/-- The moment is allowed in this system: only the flags of new files matter. -/
structure System.Admits (mode : Mode) (s : System) (moment : Moment) : Prop where
  answers : ¬ moment.event.OnData → moment.around.Allowed mode
  flags : ∀ request, moment.event = .openFile request → Introduces s.world request →
    mode ≠ .lax → Classified request.options.rawFlags

theorem Moment.Allowed.admitted {moment : Moment} (allowed : moment.Allowed mode) :
    s.Admits mode moment :=
  ⟨allowed.answers, fun request same _ => allowed.flags request same⟩

def Turned (mode : Mode) (s : System) (g : Ledger) (moment : Moment)
    (outcome : Outcome Failure Answer) (s' : System) (g' : Ledger) : Prop :=
  ∃ around s₂, around.Allowed mode ∧ around.registry = moment.around.registry ∧
    Turn mode (s.facing around) g moment.event outcome s₂ g' ∧ s' = s₂.silenced

theorem Turns.turned {event : Event} {x : SystemM Answer} {around : Surroundings}
    (allowed : around.Allowed mode)
    (turns : Turns mode (s.facing around) g event x (s.facing around)) :
    Prog.Ends x (s.facing around)
      (fun answer s' => ∃ g', Turned mode s g ⟨around, event⟩ (.ok answer) s'.silenced g')
      (fun error s' => ∃ g', Turned mode s g ⟨around, event⟩ (.err error) s'.silenced g')
      fun _ => True := by
  refine turns.mono ?_ ?_ fun _ _ => trivial
  · exact fun answer s' ⟨g', turn⟩ => ⟨g', around, s', allowed, rfl, turn, rfl⟩
  · exact fun error s' ⟨g', turn⟩ => ⟨g', around, s', allowed, rfl, turn, rfl⟩

theorem TurnsSpent.turned {event : Event} {x : SystemM Answer} {around : Surroundings}
    (turns : TurnsSpent mode s g around event x) :
    Prog.Ends x (s.facing around)
      (fun answer s' => ∃ g', Turned mode s g ⟨around, event⟩ (.ok answer) s'.silenced g')
      (fun error s' => ∃ g', Turned mode s g ⟨around, event⟩ (.err error) s'.silenced g')
      fun _ => True := by
  refine turns.mono ?_ ?_ fun _ _ => trivial
  · exact fun answer s' ⟨g', s₂, turn, same⟩ =>
      ⟨g', around.spent, s₂, around.spent_allowed, rfl, turn, same⟩
  · exact fun error s' ⟨g', s₂, turn, same⟩ =>
      ⟨g', around.spent, s₂, around.spent_allowed, rfl, turn, same⟩

/-- No event panics, and each that comes back has taken a turn. -/
theorem Good.turned (good : Good mode s g) {moment : Moment} (admitted : s.Admits mode moment) :
    Prog.Ends moment.event.program (s.facing moment.around)
      (fun answer s' => ∃ g', Turned mode s g moment (.ok answer) s'.silenced g')
      (fun error s' => ∃ g', Turned mode s g moment (.err error) s'.silenced g')
      fun _ => True := by
  obtain ⟨around, event⟩ := moment
  obtain ⟨answers, flags⟩ := admitted
  cases event with
  | call i made => exact (good.turns_call around i made).turned
  | importWrite i offset bytes => exact (good.turns_importWrite around i offset bytes).turned
  | exportRead i offset buf => exact (good.turns_exportRead around i offset buf).turned
  | openFile request =>
      have answered : around.Allowed mode := answers id
      exact ((good.facing answered).turns_openFile request (flags request rfl)).turned answered
  | closeFile i => exact ((good.facing (answers id)).turns_closeFile i).turned (answers id)
  | deleteFile name => exact ((good.facing (answers id)).turns_deleteFile name).turned (answers id)
  | access name => exact ((good.facing (answers id)).turns_access name).turned (answers id)
  | fullPathname name =>
      exact ((good.facing (answers id)).turns_fullPathname name).turned (answers id)
  | remove name => exact ((good.facing (answers id)).turns_remove name).turned (answers id)
  | contains name =>
      exact ((good.facing (answers id)).turns_query (.contains name) trivial
        (fun w => w.hasFilename name) .flag).turned (answers id)
  | names =>
      exact ((good.facing (answers id)).turns_query .names trivial World.getFilenames
        .names).turned (answers id)
  | len =>
      exact ((good.facing (answers id)).turns_query .len trivial World.getFileCount
        .number).turned (answers id)
  | createImport name size =>
      exact ((good.facing (answers id)).turns_createImport name size).turned (answers id)
  | commit i => exact ((good.facing (answers id)).turns_commit i).turned (answers id)
  | abort i => exact ((good.facing (answers id)).turns_abort i).turned (answers id)
  | abortWithError i error =>
      exact ((good.facing (answers id)).turns_abortWithError i error).turned (answers id)
  | dropImport i => exact ((good.facing (answers id)).turns_dropImport i).turned (answers id)
  | openExport name => exact ((good.facing (answers id)).turns_openExport name).turned (answers id)
  | dropExport i => exact ((good.facing (answers id)).turns_dropExport i).turned (answers id)
  | addCapacity n => exact ((good.facing (answers id)).turns_addCapacity n).turned (answers id)
  | ensureCapacity min =>
      exact ((good.facing (answers id)).turns_ensureCapacity min).turned (answers id)
  | reduceCapacity n =>
      exact ((good.facing (answers id)).turns_reduceCapacity n).turned (answers id)
  | resume => exact (good.facing (answers id)).turns_resume.turned (answers id)
  | poll i => exact ((good.facing (answers id)).turns_poll i).turned (answers id)
  | cancel i => exact ((good.facing (answers id)).turns_cancel i).turned (answers id)
  | pause => exact (good.facing (answers id)).turns_pause.turned (answers id)
  | clear => exact (good.facing (answers id)).turns_clear.turned (answers id)
  | uninstall => exact (good.facing (answers id)).turns_uninstall.turned (answers id)

end Sahpool

end SqliteVfs
