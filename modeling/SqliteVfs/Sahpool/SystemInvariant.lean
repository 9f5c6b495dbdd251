import SqliteVfs.Base.Runs
import SqliteVfs.Sahpool.SystemSpec

/-!
# The invariant of a pool and its users

Every turn leads from a good system to a good one, so every run of an installed pool does.
-/

set_option autoImplicit false

namespace SqliteVfs

namespace Sahpool

variable {mode : Mode} {reach : String → Prop} {s s' : System} {w w' w'' : World}
  {g g' g'' : Ledger} {file name filename : String} {content content' : SlotFile} {α β ε : Type}

/-! ## Turns keep the invariant -/

theorem Sound.framed (sound : Sound mode s g) (settings : SameSettings s.world w')
    (rep : Rep mode w' g') (same : g'.known = g.known ∧ g'.loaded = g.loaded)
    (kept : ∀ f ∈ s.files, ∀ name, f.opened = some name →
      s.world.mapFilenameToFile.lookup name = some f.handle.file →
      w'.mapFilenameToFile.lookup name = some f.handle.file) (operations : List Operation) :
    Sound mode ⟨w', s.files, operations⟩ g' where
  rep := rep
  known := same.1.trans sound.known
  loaded := by
    rw [same.2, settings.state]
    exact sound.loaded
  lease := by
    rw [settings.lease, settings.state]
    exact sound.lease
  registration := by
    rw [settings.state, settings.registration]
    exact sound.registration
  readable := by
    rw [settings.name]
    exact sound.readable
  counts file := by
    rw [settings.openCount]
    exact sound.counts file
  live f member := by
    obtain ⟨name, named, mapped⟩ := sound.live f member
    exact ⟨name, named, kept f member name named mapped⟩

theorem Sound.evolved (sound : Sound mode s g) (evolves : Evolves mode reach s.world g w' g')
    (operations : List Operation) : Sound mode ⟨w', s.files, operations⟩ g' := by
  have frame := evolves.frame
  refine sound.framed frame.settings evolves.rep ⟨frame.known, frame.loaded⟩ ?_ operations
  intro f member name named mapped
  obtain ⟨content, found, -⟩ := sound.rep.content_of_mapped mapped
  exact (frame.pinned name _ content mapped (sound.inUse member) found).1

theorem Sound.stilled (sound : Sound mode s g) (still : s.world.Still w')
    (settings : SameSettings s.world w') (rep : Rep mode w' g) (operations : List Operation) :
    Sound mode ⟨w', s.files, operations⟩ g := by
  refine sound.framed settings rep ⟨rfl, rfl⟩ (fun f _ name _ mapped => ?_) operations
  rw [still.names]
  exact mapped

theorem Sound.guard (sound : Sound mode s g) (busy : Bool) (idle : busy = false → g.staging = none)
    (operations : List Operation) :
    Sound mode ⟨{ s.world with busy }, s.files, operations⟩ g :=
  { sound with rep := sound.rep.guard idle }

theorem World.Looked.beyond (looked : w.Looked w') : w.Beyond w' :=
  ⟨looked.still, looked.settings, fun file _ => looked.contents file⟩

/-- What an operation relies on is not touched by calls beside it. -/
theorem Duty.framed {operation : Operation} (duty : Duty mode w g operation) (still : w.Still w')
    (settings : SameSettings w w') (rep : Rep mode w' g')
    (same : g'.loaded = g.loaded ∧ g'.known = g.known ∧ g'.staging = g.staging)
    (apart : ∀ file, file ∉ w.held → w'.directory.lookup file = w.directory.lookup file) :
    Duty mode w' g' operation := by
  have resizable (before : Resizable mode w g) : Resizable mode w' g' := {
    rep := rep
    active := settings.state.trans before.active
    healthy := still.suspect.trans before.healthy
    loaded := same.1.trans before.loaded
    idle := same.2.2.trans before.idle
    shut := fun file beside => by
      rw [still.held] at beside
      rw [settings.openCount]
      exact before.shut file beside }
  cases operation with
  | importing target =>
      obtain ⟨file, filename, data, eq, importing⟩ := duty
      refine ⟨file, filename, data, eq, settings.state.trans importing.active,
        still.suspect.trans importing.healthy, same.2.2.trans importing.staging, ?_⟩
      unfold Vacant
      rw [still.names]
      exact importing.vacant
  | exporting source =>
      obtain ⟨file, name, size, eq, exporting⟩ := duty
      refine ⟨file, name, size, eq, settings.state.trans exporting.active,
        still.suspect.trans exporting.healthy, same.2.2.trans exporting.idle, ?_, ?_⟩
      · rw [still.names]
        exact exporting.mapped
      · rw [settings.openCount]
        exact exporting.closed
  | adding growth =>
      obtain ⟨before, grows⟩ := duty
      refine ⟨resizable before, ⟨grows.spare.nodup, ?_, ?_⟩, ?_, grows.fresh, ?_⟩
      · intro file member
        rw [still.held]
        exact grows.spare.apart file member
      · intro file member
        obtain ⟨content, found, fresh⟩ := grows.spare.fresh file member
        exact ⟨content, (apart file (grows.spare.apart file member)).trans found, fresh⟩
      · rw [still.held]
        exact grows.apart
      · intro file acquiring
        have beside : file ∉ w.held := by
          have beside := grows.apart
          rw [acquiring] at beside
          exact beside
        rw [← AList.lookup_isSome, apart file beside, AList.lookup_isSome]
        exact grows.there file acquiring
  | reducing shrink =>
      obtain ⟨before, shrinks⟩ := duty
      refine ⟨resizable before, ?_, ?_⟩
      · rw [still.held]
        exact shrinks.apart
      · rw [still.available]
        exact shrinks.enough
  | resuming resuming =>
      obtain ⟨before, resumes⟩ := duty
      have nothing (file : String) : file ∉ w.held := by
        obtain ⟨available, names, quarantined⟩ := before.rep.unloaded before.unloaded
        unfold World.held
        rw [available, names, quarantined]
        exact List.not_mem_nil
      have looked : w.Looked w' := ⟨still, settings, fun file => apart file (nothing file)⟩
      refine ⟨?_, resumes.of_looked looked⟩
      exact {
        rep := rep
        paused := settings.state.trans before.paused
        unloaded := same.1.trans before.unloaded
        known := same.2.1.trans before.known
        idle := same.2.2.trans before.idle
        shut := fun file => (congrFun settings.openCount file).trans (before.shut file)
        unleased := settings.lease.trans before.unleased
        readable := by
          rw [settings.name]
          exact before.readable }

theorem Duties.framed {operations : List Operation} (duties : Duties mode w g operations)
    (still : w.Still w') (settings : SameSettings w w') (rep : Rep mode w' g')
    (same : g'.loaded = g.loaded ∧ g'.known = g.known ∧ g'.staging = g.staging)
    (apart : ∀ file, file ∉ w.held → w'.directory.lookup file = w.directory.lookup file) :
    Duties mode w' g' operations := by
  rcases operations with _ | ⟨operation, _ | ⟨other, rest⟩⟩
  · exact settings.busy.trans duties
  · exact ⟨settings.busy.trans duties.1, duties.2.framed still settings rep same apart⟩
  · exact duties

/-- Closing a handle is not in the way of an operation. -/
theorem Duty.closing {operation : Operation} (duty : Duty mode w g operation) (file : String) :
    Duty mode (w.closing file) g operation := by
  have shut {other : String} (closed : w.openCount other = 0) :
      (w.closing file).openCount other = 0 := by
    change Function.update w.openCount file (w.openCount file - 1) other = 0
    by_cases same : other = file
    · subst same
      rw [Function.update_self, closed]
    · rw [Function.update_of_ne same]
      exact closed
  have resizable (before : Resizable mode w g) : Resizable mode (w.closing file) g :=
    { before with
      rep := before.rep.closing file
      shut := fun other beside => shut (before.shut other beside) }
  cases operation with
  | importing target =>
      obtain ⟨slot, filename, data, eq, importing⟩ := duty
      exact ⟨slot, filename, data, eq, importing.active, importing.healthy, importing.staging,
        importing.vacant⟩
  | exporting source =>
      obtain ⟨slot, name, size, eq, exporting⟩ := duty
      exact ⟨slot, name, size, eq, exporting.active, exporting.healthy, exporting.idle,
        exporting.mapped, shut exporting.closed⟩
  | adding growth =>
      obtain ⟨before, grows⟩ := duty
      exact ⟨resizable before, ⟨grows.spare.nodup, grows.spare.apart, grows.spare.fresh⟩,
        grows.apart, grows.fresh, grows.there⟩
  | reducing shrink => exact ⟨resizable duty.1, duty.2.apart, duty.2.enough⟩
  | resuming resuming =>
      obtain ⟨before, resumes⟩ := duty
      refine ⟨{ before with
        rep := before.rep.closing file
        shut := fun other => shut (before.shut other) }, ?_⟩
      cases resuming with
      | lease vfs => exact resumes
      | loading vfs loading =>
          exact ⟨resumes.1, ⟨resumes.2.1.distinct, resumes.2.1.all⟩, resumes.2.2⟩

/-! ### The cases of a turn -/

theorem Good.looked (good : Good mode s g) (looked : s.world.Looked w') (rep : Rep mode w' g) :
    Good mode { s with world := w' } g where
  toSound := good.toSound.stilled looked.still looked.settings rep s.operations
  duties := good.duties.framed looked.still looked.settings rep ⟨rfl, rfl, rfl⟩
    fun file _ => looked.contents file

theorem Good.evolved (good : Good mode s g) (free : s.world.busy = false)
    (evolves : Evolves mode reach s.world g w' g') : Good mode { s with world := w' } g' where
  toSound := good.toSound.evolved evolves s.operations
  duties := by
    rw [good.free_alone free]
    exact evolves.frame.settings.busy.trans free

theorem Sound.over (sound : Sound mode ⟨w, s.files, []⟩ g) (idle : g.staging = none) :
    Good mode { s with world := { w with busy := false }, operations := [] } g :=
  ⟨sound.guard false (fun _ => idle) [], rfl⟩

theorem Sound.opening (sound : Sound mode s g) (f : VfsFile) (named : f.opened = some name)
    (mapped : s.world.mapFilenameToFile.lookup name = some f.handle.file)
    (present : ∃ temporary durable data, g.entry name = .present temporary durable data) :
    Sound mode ⟨s.world.opening f.handle.file, f :: s.files, s.operations⟩ g :=
  { sound with
    rep := sound.rep.opening mapped present
    counts := fun file => by
      change Function.update s.world.openCount f.handle.file (s.world.openCount f.handle.file + 1)
        file = (f :: s.files).countP _
      rw [List.countP_cons]
      by_cases same : file = f.handle.file
      · subst same
        rw [Function.update_self, sound.counts, if_pos (decide_eq_true rfl)]
        rfl
      · rw [Function.update_of_ne same, sound.counts, if_neg (mt of_decide_eq_true (Ne.symm same))]
        rfl
    live := fun other member => by
      rcases List.mem_cons.mp member with rfl | before
      · exact ⟨name, named, mapped⟩
      · exact sound.live other before }

theorem Sound.closing (sound : Sound mode s g) {i : Nat} {f : VfsFile}
    (there : s.files[i]? = some f) :
    Sound mode ⟨s.world.closing f.handle.file, s.files.eraseIdx i, s.operations⟩ g :=
  { sound with
    rep := sound.rep.closing f.handle.file
    counts := fun file => by
      obtain ⟨inside, here⟩ := List.getElem?_eq_some_iff.mp there
      have erased := (List.getElem_cons_eraseIdx_perm inside).countP_eq
        fun other => other.handle.file = file
      rw [List.countP_cons, here] at erased
      change Function.update s.world.openCount f.handle.file (s.world.openCount f.handle.file - 1)
        file = (s.files.eraseIdx i).countP _
      by_cases same : file = f.handle.file
      · subst same
        rw [if_pos (decide_eq_true rfl)] at erased
        rw [Function.update_self, sound.counts, System.handles]
        omega
      · rw [if_neg (mt of_decide_eq_true (Ne.symm same))] at erased
        rw [Function.update_of_ne same, sound.counts, System.handles]
        omega
    live := fun other member => sound.live other (List.mem_of_mem_eraseIdx member) }

theorem Adding.sound {event : Event} (adding : Adding s event w) (good : Good mode s g) :
    Sound mode ⟨w, s.files, []⟩ g ∧ w.busy = true := by
  cases adding with
  | add n ready => exact ⟨good.toSound.guard true nofun [], rfl⟩
  | ensure min ready => exact ⟨good.toSound.guard true nofun [], rfl⟩
  | poll i growth there =>
      have duties := good.duties
      rw [there] at duties
      exact ⟨{ good.toSound with }, duties.1⟩

theorem Reducing.sound {event : Event} {count left : Nat} (reducing : Reducing s event w count left)
    (good : Good mode s g) : Sound mode ⟨w, s.files, []⟩ g ∧ w.busy = true := by
  cases reducing with
  | reduce n ready => exact ⟨good.toSound.guard true nofun [], rfl⟩
  | poll i shrink there =>
      have duties := good.duties
      rw [there] at duties
      exact ⟨{ good.toSound with }, duties.1⟩

theorem Stopping.sound {event : Event} (stopping : Stopping s event w) (good : Good mode s g) :
    Sound mode ⟨w, s.files, []⟩ g := by
  cases stopping with
  | adding event w adding => exact (adding.sound good).1
  | reducing i shrink there => exact { good.toSound with }
  | dropAdding i growth there => exact { good.toSound with }
  | dropReducing i shrink there => exact { good.toSound with }

theorem GivenUp.good (result : GivenUp mode w g w') (sound : Sound mode ⟨w, s.files, []⟩ g)
    (idle : g.staging = none) : Good mode { s with world := w', operations := [] } g := by
  obtain ⟨w₁, rep, beyond, -, rfl⟩ := result
  have after : Sound mode ⟨w₁, s.files, []⟩ g := sound.stilled beyond.still beyond.settings rep []
  exact after.over idle

theorem Sound.unguarded (sound : Sound mode ⟨w, s.files, []⟩ g)
    (settings : SameSettings { w with busy := false } w') (rep : Rep mode w' g')
    (same : g'.known = g.known ∧ g'.loaded = g.loaded)
    (names : w'.mapFilenameToFile = w.mapFilenameToFile)
    (idle : g.staging = none) : Good mode { s with world := w', operations := [] } g' where
  toSound := by
    have ended : Sound mode ⟨{ w with busy := false }, s.files, []⟩ g :=
      sound.guard false (fun _ => idle) []
    refine ended.framed settings rep same (fun f _ name _ mapped => ?_) []
    rw [names]
    exact mapped
  duties := settings.busy

theorem Sound.of_closed (rep : Rep mode w g) (known : g.known = true)
    (loaded : g.loaded = true ↔ w.state = .active) (lease : w.lease = true ↔ w.state = .active)
    (registration : w.state = .removed ↔ w.registration = none) (readable : 0 ∉ nameBytes w.name)
    (shut : ∀ file, w.openCount file = 0) : Sound mode ⟨w, [], []⟩ g :=
  ⟨rep, known, loaded, lease, registration, readable, shut, nofun⟩

theorem Good.released (good : Good mode s g) (closed : s.world.AllClosed)
    (free : s.world.busy = false) (rep : Rep mode w' g.release)
    (counts : w'.openCount = s.world.openCount) (name : w'.name = s.world.name)
    (busy : w'.busy = s.world.busy) (inactive : w'.state ≠ .active) (unleased : w'.lease = false)
    (registration : w'.state = .removed ↔ w'.registration = none) :
    Good mode { s with world := w' } g.release := by
  have alone := good.free_alone free
  have shut := good.shut_of_closed closed
  refine ⟨?_, ?_⟩
  · rw [alone, shut]
    refine .of_closed rep good.known (iff_of_false Bool.false_ne_true inactive) ?_
      registration ?_ ?_
    · rw [unleased]
      exact iff_of_false Bool.false_ne_true inactive
    · rw [name]
      exact good.readable
    · intro file
      rw [counts, good.counts, System.handles, shut]
      rfl
  · rw [alone]
    exact busy.trans free

/-- What is held beside a pool survives calls on one of its slots. -/
theorem World.Altered.apart (altered : w.Altered file content' w') (held : file ∈ w.held) :
    ∀ other, other ∉ w.held → w'.directory.lookup other = w.directory.lookup other := by
  intro other beside
  refine altered.others other ?_
  rintro rfl
  exact beside held

theorem Sound.beginning (sound : Sound mode s g) (looked : s.world.Looked w)
    (rep : Rep mode { w with busy := true } g')
    (same : g'.known = g.known ∧ g'.loaded = g.loaded) (operations : List Operation) :
    Sound mode ⟨{ w with busy := true }, s.files, operations⟩ g' := by
  have guarded : Sound mode ⟨{ s.world with busy := true }, s.files, operations⟩ g :=
    sound.guard true nofun operations
  have settings : SameSettings { s.world with busy := true } { w with busy := true } :=
    { looked.settings with busy := rfl }
  refine guarded.framed settings rep same (fun f _ name _ mapped => ?_) operations
  change w.mapFilenameToFile.lookup name = some f.handle.file
  rw [looked.still.names]
  exact mapped

/-- A suspended pool has no open file, and none is opened by resuming it. -/
theorem Good.suspended (good : Good mode s g) {resuming : Resuming}
    (there : s.operations = [.resuming resuming]) : s.files = [] := by
  have duties := good.duties
  rw [there] at duties
  refine good.files_of_inactive ?_
  rw [duties.2.1.paused]
  exact nofun

theorem Suspended.sound (suspended : Suspended mode w g) (registration : w.registration ≠ none)
    (operations : List Operation) : Sound mode ⟨w, [], operations⟩ g where
  rep := suspended.rep
  known := suspended.known
  loaded := by
    rw [suspended.unloaded, suspended.paused]
    exact iff_of_false nofun nofun
  lease := by
    rw [suspended.unleased, suspended.paused]
    exact iff_of_false nofun nofun
  registration := by
    rw [suspended.paused]
    exact iff_of_false nofun registration
  readable := suspended.readable
  counts := suspended.shut
  live := nofun

namespace Turn

variable {event : Event} {outcome : Outcome Failure Answer}

/-- A file is closed by taking its handle away, flushing its slot, and deleting it if that was
asked for; only the last needs the pool to itself. -/
theorem closed_good (before : Good mode s g) {i : Nat} {f : VfsFile} (there : s.files[i]? = some f)
    {w₁ : World} (flushed : Flushed mode s.world g name f.handle.file w₁)
    (evolves : Evolves mode (Only name) w₁ g w' g')
    (result : Closed name f.options w₁ g w' g' ∨
      (f.options.deleteOnClose = true ∧ DeleteFailed mode name w₁ g w' g')) :
    Good mode { s with world := w', files := s.files.eraseIdx i } g' := by
  have closing := before.toSound.closing there
  have settings := flushed.evolves.frame.settings
  have flushing : Good mode ⟨w₁, s.files.eraseIdx i, s.operations⟩ g := {
    toSound := closing.evolved flushed.evolves s.operations
    duties := by
      have duties : Duties mode (s.world.closing f.handle.file) g s.operations := by
        have duties := before.duties
        rcases operations : s.operations with _ | ⟨operation, _ | ⟨other, rest⟩⟩
        · rw [operations] at duties
          exact duties
        · rw [operations] at duties
          exact ⟨duties.1, duties.2.closing f.handle.file⟩
        · rw [operations] at duties
          exact duties
      exact duties.framed flushed.still settings flushed.evolves.rep ⟨rfl, rfl, rfl⟩
        flushed.evolves.frame.elsewhere }
  rcases result with (⟨-, rfl, rfl⟩ | ⟨-, deleted⟩) | ⟨-, ⟨rfl, rfl⟩ | ⟨ready, -⟩⟩
  · exact flushing
  · exact flushing.evolved deleted.ready.free evolves
  · exact flushing
  · exact flushing.evolved ready.free evolves

theorem good (turn : Turn mode s g event outcome s' g') (before : Good mode s g) :
    Good mode s' g' := by
  cases turn with
  | idle _ nothing => exact before
  | looked _ _ w' query looked rep => exact before.looked looked rep
  | refused _ error w' guarded looked rep => exact before.looked looked rep
  | opened request opened w₁ _ name file evolves result =>
      have created := before.evolved result.ready.free evolves
      obtain rfl := result.slot
      have loaded := created.active_loaded (evolves.frame.settings.state.trans result.ready.active)
      have present := created.rep.present_of_mapped loaded result.healthy result.mapped
      have alone := before.free_alone result.ready.free
      refine ⟨created.toSound.opening ⟨request.filename, request.options, opened.file⟩
        result.named result.mapped present, ?_⟩
      rw [alone]
      exact result.free
  | unopened request error w' _ ready evolves result => exact before.evolved ready.free evolves
  | called i made f name content content' _ w' _ there named mapped found effect altered evolves
      same =>
      refine ⟨before.toSound.evolved evolves s.operations, ?_⟩
      exact before.duties.framed altered.still altered.settings evolves.rep
        ⟨evolves.frame.loaded, evolves.frame.known, same⟩ (altered.apart (mem_held_mapped mapped))
  | closed i f name _ w₁ w' _ there named mapped flushed evolves result done =>
      exact closed_good before there flushed evolves result
  | deleted _ name answer w' _ deletes evolves result =>
      exact before.evolved result.ready.free evolves
  | undeleted _ name error w' _ deletes evolves result =>
      rcases result with ⟨rfl, rfl⟩ | ⟨ready, -⟩
      · exact before
      · exact before.evolved ready.free evolves
  | importing filename size file target w' created =>
      obtain ⟨rep, importing⟩ := created.importing before.rep
      obtain ⟨w₁, consulted, rfl⟩ := created.reserved
      have sound := before.toSound.beginning consulted.viewed.looked rep ⟨rfl, rfl⟩
        [.importing target]
      exact ⟨sound, rfl, file, filename, [], created.target_eq, importing⟩
  | filled i offset bytes file filename data content content' data' _ w' there importing
      found filled whole altered evolves =>
      have duties := before.duties
      rw [there] at duties
      refine ⟨before.toSound.evolved evolves s.operations, ?_⟩
      rw [there]
      refine ⟨altered.settings.busy.trans duties.1, file, filename, data', rfl,
        altered.settings.state.trans importing.active,
        altered.still.suspect.trans importing.healthy, rfl, ?_⟩
      unfold Vacant
      rw [altered.still.names]
      exact importing.vacant
  | committed i file filename data w' _ there importing evolves result =>
      exact (before.toSound.evolved evolves []).over result.idle
  | unimported _ i _ file filename data w' _ ends there importing evolves result failed aborted =>
      exact (before.toSound.evolved evolves []).over result.idle
  | exporting name file source w' opened =>
      obtain ⟨rep, exporting⟩ := opened.exporting before.rep
      obtain ⟨content, -, eq⟩ := opened.source_eq
      obtain ⟨w₁, -, looked, rfl⟩ := opened.reserved
      have sound := before.toSound.beginning looked rep ⟨rfl, rfl⟩ [.exporting source]
      exact ⟨sound, rfl, file, name, _, eq, exporting⟩
  | exported i file name size there exporting =>
      exact ⟨before.toSound.guard false (fun _ => exporting.idle) [], rfl⟩
  | growing _ w growth w' adding resizable reached =>
      obtain ⟨sound, busy⟩ := adding.sound before
      obtain ⟨rep, beyond, grows⟩ := reached
      have after : Sound mode ⟨w', s.files, [.adding growth]⟩ g :=
        sound.stilled beyond.still beyond.settings rep [.adding growth]
      exact ⟨after, beyond.settings.busy.trans busy, resizable.of_beyond beyond rep, grows⟩
  | grown _ w count w' adding resizable reached =>
      obtain ⟨w₁, added, rep₁, beyond, spare, rep, -, rfl⟩ := reached
      refine (adding.sound before).1.unguarded { beyond.settings with busy := rfl } rep
        ⟨rfl, rfl⟩ ?_ resizable.idle
      exact beyond.still.names
  | shrinking _ w count left shrink w' reducing resizable reached =>
      obtain ⟨sound, busy⟩ := reducing.sound before
      obtain ⟨popped, -, -⟩ := reached
      obtain ⟨w₁, rest, beyond, top, rfl⟩ := popped.from_top
      have settings : SameSettings w { w₁ with availableFiles := rest } := { beyond.settings with }
      have after :
          Sound mode ⟨{ w₁ with availableFiles := rest }, s.files, [.reducing shrink]⟩ g := by
        refine sound.framed settings popped.rep ⟨rfl, rfl⟩ (fun f _ name _ mapped => ?_) _
        change w₁.mapFilenameToFile.lookup name = some f.handle.file
        rw [beyond.still.names]
        exact mapped
      refine ⟨after, settings.busy.trans busy, ?_, popped.shrinks⟩
      exact {
        rep := popped.rep
        active := beyond.settings.state.trans resizable.active
        healthy := beyond.still.suspect.trans resizable.healthy
        loaded := resizable.loaded
        idle := resizable.idle
        shut := fun file apart => after.unmapped_shut fun _ mapped =>
          apart (mem_held_mapped mapped) }
  | shrunk _ w count left removed w' reducing resizable reached =>
      exact reached.1.good (reducing.sound before).1 resizable.idle
  | givenUp _ w _ w' stopping resizable result =>
      exact result.good (stopping.sound before) resizable.idle
  | resuming vfs suspended free registered =>
      exact ⟨before.toSound.guard true nofun _, rfl, suspended, registered⟩
  | pending i resuming resuming' w' there suspended consulted resumes =>
      have looked := consulted.viewed.looked
      have rep := consulted.rep suspended.rep
      have duties := before.duties
      rw [there] at duties
      exact ⟨before.toSound.stilled looked.still looked.settings rep _,
        looked.settings.busy.trans duties.1, suspended.consulted consulted, resumes⟩
  | resumed i resuming w' _ there suspended result =>
      have closed := before.suspended there
      obtain ⟨w₁, vfs, env, loaded, registered, -, -, rfl⟩ := result.loading
      have active : g'.loaded = true := by
        rw [loaded.ledger]
        rfl
      refine ⟨?_, rfl⟩
      rw [closed]
      refine .of_closed result.rep (result.rep.known active) (iff_of_true active rfl)
        (iff_of_true rfl rfl) (iff_of_false PoolState.noConfusion fun absent => ?_) ?_ fun file =>
        ?_
      · cases registered.symm.trans (loaded.settings.registration.symm.trans absent)
      · change 0 ∉ nameBytes w₁.name
        rw [loaded.settings.name]
        exact suspended.readable
      · change w₁.openCount file = 0
        rw [loaded.settings.openCount]
        exact suspended.shut file
  | unresumed _ i _ resuming w' _ stops there suspended result =>
      have closed := before.suspended there
      refine ⟨?_, result.settings.busy⟩
      rw [closed]
      refine result.suspended.sound (fun absent => ?_) []
      have removed := before.registration.mpr (result.settings.registration.symm.trans absent)
      cases suspended.paused.symm.trans removed
  | paused w' result rep =>
      have registered : s.world.registration ≠ none := fun absent => by
        cases result.active.symm.trans (before.registration.mpr absent)
      have closed := result.closed
      have free := result.free
      obtain ⟨env, registry, -, -, -, rfl⟩ := result.result
      exact before.released closed free rep rfl rfl rfl PoolState.noConfusion rfl
        (iff_of_false PoolState.noConfusion registered)
  | cleared w' _ evolves clearable result => exact before.evolved clearable.free evolves
  | uncleared error w' _ evolves clearable suspect => exact before.evolved clearable.free evolves
  | uninstalled w' result rep =>
      have closed := result.closed
      have free := result.free
      obtain ⟨pointer, env, -, -, rfl⟩ := result.result
      exact before.released closed free rep rfl rfl rfl PoolState.noConfusion rfl
        (iff_of_true rfl rfl)

end Turn

/-! ## Steps and runs -/

/-- A step of a good system is a turn of it, and leads to a good system. -/
theorem Good.advance (good : Good mode s g) {moment : Moment} (admitted : s.Admits mode moment)
    (step : s.Step moment s') : ∃ outcome g', s.run moment = (outcome, s') ∧
      Turned mode s g moment outcome s' g' ∧ Good mode s' g' := by
  obtain ⟨outcome, run, goes⟩ := step
  have turned := good.turned admitted
  have kept (g' : Ledger) (turn : Turned mode s g moment outcome s' g') :
      Good mode s' g' := by
    obtain ⟨around, s₂, answers, -, turn, rfl⟩ := turn
    exact (turn.good (good.facing answers)).silenced
  rcases ran : moment.event.program.run (s.facing moment.around) with ⟨answer | error | why, s₁⟩
  · obtain ⟨g', turn⟩ := turned.ok ran
    obtain ⟨rfl, rfl⟩ : Outcome.ok answer = outcome ∧ s₁.silenced = s' := by
      have same : s.run moment = (.ok answer, s₁.silenced) := by
        unfold System.run
        exact congrArg (fun r => (r.1, r.2.silenced)) ran
      exact Prod.mk.inj (same.symm.trans run)
    exact ⟨_, g', run, turn, kept g' turn⟩
  · obtain ⟨g', turn⟩ := turned.err ran
    obtain ⟨rfl, rfl⟩ : Outcome.err error = outcome ∧ s₁.silenced = s' := by
      have same : s.run moment = (.err error, s₁.silenced) := by
        unfold System.run
        exact congrArg (fun r => (r.1, r.2.silenced)) ran
      exact Prod.mk.inj (same.symm.trans run)
    exact ⟨_, g', run, turn, kept g' turn⟩
  · have same : s.run moment = (.halt why, s₁.silenced) := by
      unfold System.run
      exact congrArg (fun r => (r.1, r.2.silenced)) ran
    exact absurd (congrArg Prod.fst (run.symm.trans same)) (goes why)

theorem Good.step (good : Good mode s g) {moment : Moment} (allowed : moment.Allowed mode)
    (step : s.Step moment s') : ∃ outcome g', s.run moment = (outcome, s') ∧
      Turned mode s g moment outcome s' g' ∧ Good mode s' g' :=
  good.advance allowed.admitted step

theorem Good.took (good : Good mode s g) {moment : Moment} (allowed : moment.Allowed mode)
    {outcome : Outcome Failure Answer} (run : s.run moment = (outcome, s'))
    (returns : ∀ why, outcome ≠ .halt why) : ∃ around s₂ g', around.Allowed mode ∧
      Turn mode (s.facing around) g moment.event outcome s₂ g' ∧ s' = s₂.silenced := by
  obtain ⟨outcome', g', again, ⟨around, s₂, answers, -, turn, same⟩, -⟩ :=
    good.step allowed ⟨outcome, run, returns⟩
  obtain rfl : outcome' = outcome := congrArg Prod.fst (again.symm.trans run)
  exact ⟨around, s₂, g', answers, turn, same⟩

/-- No event panics. -/
theorem Good.calm (good : Good mode s g) {moment : Moment} (allowed : moment.Allowed mode) :
    (s.run moment).1 ≠ .halt .panic := by
  have turned := good.turned allowed.admitted
  unfold Prog.Ends Prog.wp at turned
  intro panics
  have ran : (moment.event.program.run (s.facing moment.around)).1 = .halt .panic := panics
  rw [ran] at turned
  exact turned

/-- The systems that runs lead to from a pool that was just installed.  `answers` restricts
what the browser and SQLite say to the installation. -/
inductive Reachable (mode : Mode) : System → Prop
  | run (answers : Surroundings → Prop) (config directory name w moments s)
      (startable : Startable mode directory)
      (allowed : ∀ around, answers around → around.Allowed mode)
      (installed : InstalledFrom answers config directory name w)
      (moment_allowed : ∀ moment ∈ moments, moment.Allowed mode)
      (runs : Runs System.Step ⟨w, [], []⟩ moments s) : Reachable mode s

theorem Reachable.good (reachable : Reachable mode s) : ∃ g, Good mode s g := by
  obtain ⟨answers, config, directory, name, w, moments, s, startable, allowed, installed, each,
    runs⟩ := reachable
  refine runs.invariant (P := fun s => ∃ g, Good mode s g) ?_ ?_ each
  · rintro s moment s' ⟨g, good⟩ here step
    obtain ⟨outcome, g', -, -, good'⟩ := good.step here step
    exact ⟨g', good'⟩
  · obtain ⟨g, installed⟩ := installed.installed allowed startable
    exact ⟨g, installed.good⟩

/-- The systems that some run leads to from some installed pool; nothing is assumed of what
the browser and SQLite answer. -/
def System.Arises (s : System) : Prop :=
  ∃ config directory name w moments, InstalledFrom (fun _ => True) config directory name w ∧
    Runs System.Step ⟨w, [], []⟩ moments s

theorem Moment.allowed_lax (moment : Moment) : moment.Allowed .lax :=
  ⟨fun _ reply _ => reply.allowed_lax, fun _ _ strict => absurd rfl strict⟩

theorem System.Arises.reachable (arises : s.Arises) : Reachable .lax s := by
  obtain ⟨config, directory, name, w, moments, installed, runs⟩ := arises
  exact .run _ config directory name w moments s nofun (fun _ _ reply _ => reply.allowed_lax)
    installed (fun moment _ => moment.allowed_lax) runs

theorem System.Arises.step (arises : s.Arises) {moment : Moment} (step : s.Step moment s') :
    s'.Arises := by
  obtain ⟨config, directory, name, w, moments, installed, runs⟩ := arises
  exact ⟨config, directory, name, w, _, installed, runs.snoc step⟩

theorem System.Arises.good (arises : s.Arises) : ∃ g, Good .lax s g := arises.reachable.good

/-! ### A run -/

/-- Surroundings in which every call succeeds, with random bytes for one slot. -/
def untroubled : Surroundings := ⟨⟨[], [(32, List.replicate 32 0)], [], []⟩, []⟩

/-- The pool of one slot that they lead to in an empty directory. -/
def onePool : World :=
  let random : List UInt8 := (List.range 32).map fun i => (List.replicate 32 0).getD i 0
  let slot := String.ofList (random.map fun byte => charset.getD (byte.toNat % 62) 'A')
  let contents := SparseVector.resize [] headerOffsetData
  { World.start (AList.insert slot (Journal.settled contents) ∅) "opfs" with
    registry := [⟨1, "opfs"⟩]
    availableFiles := [slot]
    openCount := Function.update (fun _ => 0) slot 0
    state := .active
    lease := true
    registration := some 1 }

set_option maxRecDepth 20000 in
theorem onePool_installed :
    InstalledFrom (fun around => around = untroubled) ⟨false, 1, false, 1⟩ ∅ "opfs" onePool := by
  have begun : Installation (fun around => around = untroubled) ⟨false, 1, false, 1⟩ ∅ "opfs" _ _ :=
    .begin untroubled _ _ rfl rfl
  have root := Installation.poll _ _ untroubled _ _ begun rfl rfl
  have directory := Installation.poll _ _ untroubled _ _ root rfl rfl
  have lock := Installation.poll _ _ untroubled _ _ directory rfl rfl
  have lease := Installation.poll _ _ untroubled _ _ lock rfl rfl
  have slots := Installation.poll _ _ untroubled _ _ lease rfl rfl
  have creating := Installation.poll _ _ untroubled _ _ slots rfl rfl
  have acquiring := Installation.poll _ _ untroubled _ _ creating rfl rfl
  exact InstalledFrom.finish _ _ untroubled _ acquiring rfl rfl

theorem onePool_reaches {moments : List Moment} (allowed : ∀ moment ∈ moments, moment.Allowed mode)
    (runs : Runs System.Step ⟨onePool, [], []⟩ moments s) : Reachable mode s := by
  refine .run _ _ _ _ _ moments s ?_ ?_ onePool_installed allowed runs
  · intro _ file content found
    change AList.lookup file (∅ : AList fun _ : String => SlotFile) = some content at found
    rw [AList.lookup_empty] at found
    exact nomatch found
  · rintro around rfl
    exact nofun

theorem onePool_arises {moments : List Moment}
    (runs : Runs System.Step ⟨onePool, [], []⟩ moments s) :
    s.Arises :=
  ⟨_, _, _, _, _, onePool_installed.mono fun _ _ => trivial, runs⟩

set_option maxRecDepth 20000 in
theorem opening_run : ∃ s, Runs System.Step ⟨onePool, [], []⟩
      [⟨untroubled, .openFile ⟨some "a.db", ⟨0x106⟩⟩⟩] s ∧ s.files.length = 1 :=
  ⟨_, .single ⟨.ok (.opened .readWrite), rfl, nofun⟩, rfl⟩

theorem exists_arises : ∃ s : System, s.Arises ∧ s.files.length = 1 := by
  obtain ⟨s, runs, opened⟩ := opening_run
  exact ⟨s, onePool_arises runs, opened⟩

end Sahpool

end SqliteVfs
