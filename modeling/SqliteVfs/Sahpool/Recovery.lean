import SqliteVfs.Sahpool.QuietMode

/-!
# Recovery

A pool without open files and without an operation can be recovered, whatever failures led
there: by `clear`, which can be repeated until it succeeds, and by `pause` and `resume`.
-/

set_option autoImplicit false

namespace SqliteVfs

namespace Sahpool

variable {mode : Mode} {s s' : System} {w w' : World} {g g' : Ledger} {file name : String}
  {around : Surroundings}

/-- The pool is active, no handle is open and no operation goes on. -/
structure System.Settled (s : System) : Prop where
  active : s.world.state = .active
  closed : s.files = []
  alone : s.operations = []

/-- Nothing fails in these surroundings, and no other VFS has taken the name of the pool. -/
structure Surroundings.Calm (around : Surroundings) (s : System) : Prop where
  replies : around.Allowed .quiet
  grants : false ∉ around.env.grants
  codes : ∀ code, some code ∉ around.env.codes
  unrivalled : ∀ other, found around.registry s.world.name = some other →
    s.world.registration = some other

/-! ## Clearing -/

structure System.Emptied (s s' : System) : Prop where
  healthy : s'.world.needsRecovery = false
  names : s'.world.mapFilenameToFile = ∅
  quarantined : s'.world.quarantinedFiles = []
  capacity : s'.world.capacity = s.world.capacity
  held : s'.world.held.Perm s.world.held
  blank : ∀ file ∈ s'.world.held, ∃ content, s'.world.directory.lookup file = some content ∧
    Fresh content

theorem Good.clearable (good : Good mode s g) (settled : s.Settled) : s.world.Clearable where
  active := settled.active
  free := by
    have duties := good.duties
    rw [settled.alone] at duties
    exact duties
  closed name file _ := by
    rw [good.counts, System.handles, settled.closed]
    rfl

theorem clear_returns (rep : Rep .quiet w g) (loaded : g.loaded = true) (clearable : w.Clearable) :
    ∃ w' g', clear.run w = (.ok (), w') ∧ Evolves .quiet Everything w g w' g' ∧ Cleared w' g' := by
  have cleared := (clear_keeps rep fun _ => loaded).preserving clear_calm rep.allowed
  obtain ⟨⟨⟩, w', run, ⟨g', evolves, -, cleared⟩, -⟩ := cleared.returned_of
    (by
      rintro error w' ⟨⟨g', -, ⟨-, -, refused⟩ | ⟨-, loud, -⟩⟩, -⟩
      · exact refused clearable
      · exact loud rfl)
    fun _ crashed => crashed.2
  exact ⟨w', g', run, evolves, cleared⟩

theorem Good.clears (good : Good mode s g) (whole : ¬ mode.Torn) (settled : s.Settled)
    {around : Surroundings} (calm : around.Calm s) :
    ∃ s', s.run ⟨around, .clear⟩ = (.ok .done, s') ∧ s.Emptied s' := by
  have clearable := good.clearable settled
  have rep : Rep .quiet (s.world.facing around) g := good.rep.quieter whole calm.replies
  have loaded := good.active_loaded settled.active
  obtain ⟨w', g', run, evolves, cleared⟩ := clear_returns rep loaded
    ⟨clearable.active, clearable.free, clearable.closed⟩
  have held : w'.held.Perm s.world.held := evolves.frame.held
  refine ⟨⟨w'.silenced, s.files, s.operations⟩, ?_, ?_⟩
  · have ran : (Event.clear.program).run (s.facing around) = (.ok .done, { s with world := w' }) :=
      onWorld_ok (s := s.facing around) .pool run _
    unfold System.run
    exact congrArg (fun r => (r.1, r.2.silenced)) ran
  · exact {
      healthy := cleared.healthy
      names := cleared.names
      quarantined := cleared.quarantined
      capacity := by
        rw [World.capacity_eq, World.capacity_eq]
        exact held.length_eq
      held := held
      blank := by
        intro file member
        have available : file ∈ w'.availableFiles := by
          rcases mem_held.mp member with available | ⟨name, mapped⟩ | quarantined
          · exact available
          · have absent : w'.mapFilenameToFile.lookup name = some file := mapped
            rw [cleared.names, AList.lookup_empty] at absent
            exact nomatch absent
          · have nothing : file ∈ w'.quarantinedFiles := quarantined
            rw [cleared.quarantined] at nothing
            exact absurd nothing List.not_mem_nil
        obtain ⟨-, content, found, fresh | ⟨data, staging⟩⟩ := evolves.rep.available file available
        · exact ⟨content, found, fresh⟩
        · have idle := evolves.frame.idle (rep.idle clearable.free)
          exact nomatch idle.symm.trans staging }

inductive System.Retries (s : System) : System → Prop
  | start : s.Retries s
  | again (s₁ around error s₂) (before : s.Retries s₁)
      (allowed : Surroundings.Allowed .whole around)
      (failed : s₁.run ⟨around, .clear⟩ = (.err error, s₂)) : s.Retries s₂

theorem Turn.clear_failed {error : Failure} (turn : Turn mode s g .clear (.err error) s' g')
    (settled : s.Settled) : s'.world.held.Perm s.world.held ∧ s'.Settled := by
  cases turn with
  | looked _ _ w' query => exact query.elim
  | refused _ error w' guarded looked rep =>
      exact ⟨looked.still.held_perm, looked.settings.state.trans settled.active, settled.closed,
        settled.alone⟩
  | undeleted _ name error w' _ deletes => simp [Event.Deletes] at deletes
  | unimported _ i _ file filename data w' _ ends => simp [Event.EndsImport] at ends
  | givenUp _ w _ w' stopping =>
      cases stopping with
      | adding event w adding => cases adding
  | unresumed _ i _ resuming w' _ stops => simp at stops
  | uncleared error w' _ evolves clearable suspect =>
      exact ⟨evolves.frame.held, evolves.frame.settings.state.trans settled.active, settled.closed,
        settled.alone⟩

theorem Moment.allowed_of (around : Surroundings) {event : Event} (allowed : around.Allowed mode)
    (opens : ∀ request, event ≠ .openFile request) : Moment.Allowed mode ⟨around, event⟩ :=
  ⟨fun _ => allowed, fun request same _ => absurd same (opens request)⟩

theorem System.Retries.good (retries : s.Retries s') (good : Good .whole s g)
    (settled : s.Settled) :
    (∃ g', Good .whole s' g') ∧ s'.Settled ∧ s'.world.held.Perm s.world.held := by
  induction retries with
  | start => exact ⟨⟨g, good⟩, settled, .refl _⟩
  | again s₁ around error s₂ before allowed failed ih =>
      obtain ⟨⟨g₁, good₁⟩, settled₁, held⟩ := ih
      have moment : Moment.Allowed .whole ⟨around, .clear⟩ :=
        Moment.allowed_of around allowed (by simp)
      obtain ⟨outcome, g₂, -, -, good₂⟩ := good₁.step moment ⟨_, failed, by simp⟩
      obtain ⟨around', s₃, g₃, answers, turn, rfl⟩ := good₁.took moment failed (by simp)
      obtain ⟨held', settled'⟩ := turn.clear_failed
        ⟨settled₁.active, settled₁.closed, settled₁.alone⟩
      exact ⟨⟨g₂, good₂⟩, ⟨settled'.active, settled'.closed, settled'.alone⟩, held'.trans held⟩

/-! ## Reloading -/

def Loading.left (loading : Loading) : Nat :=
  2 * loading.entries.length + match loading.point with
    | .listing => 0
    | .acquiring _ => 1

def Resuming.left (directory : AList fun _ : String => SlotFile) : Resuming → Nat
  | .lease _ => 2 * directory.keys.length + 1
  | .loading _ state => state.left

theorem Loading.poll_left {loading loading' : Loading}
    (run : loading.poll.run w = (.ok (.pending loading'), w')) : loading'.left < loading.left := by
  obtain ⟨clear, entries, acquired, point⟩ := loading
  cases point with
  | listing =>
      obtain ⟨_, w₁, -, rest⟩ := Prog.bind_ok_cases run
      cases entries with
      | nil =>
          obtain ⟨_, w₂, -, done⟩ := Prog.bind_ok_cases rest
          cases done
      | cons file entries =>
          obtain ⟨_, w₂, -, done⟩ := Prog.bind_ok_cases rest
          cases done
          simp only [Loading.left, List.length_cons]
          omega
  | acquiring file =>
      obtain ⟨_, w₁, -, done⟩ := Prog.bind_ok_cases run
      cases done
      simp only [Loading.left]
      omega

theorem guardPoll_pending {τ α : Type} {body : PoolM (Poll τ α)} {state : τ}
    (run : (guardPoll body).run w = (.ok (.pending state), w')) :
    body.run w = (.ok (.pending state), w') := by
  unfold guardPoll at run
  rcases ran : body.run w with ⟨polled | error | why, w₁⟩
  · rw [Prog.bind_ok (Prog.attempt_ok ran)] at run
    cases polled with
    | pending state' => exact run
    | ready value => cases run
  · rw [Prog.bind_ok (Prog.attempt_err ran)] at run
    cases run
  · unfold Prog.attempt at run
    rw [Prog.bind_run] at run
    dsimp only at run
    rw [ran] at run
    cases run

theorem waiting_directory {directory : AList fun _ : String => SlotFile} :
    Prog.Preserves (fun w => w.directory = directory) True (directoryCall id) := by
  intro w before
  refine ⟨?_, fun _ => trivial⟩
  unfold directoryCall
  dsimp only
  split
  · exact before
  · split <;> dsimp only
    · exact before
    · exact before
    · rw [id, ite_self]
      exact before
    · rw [id, ite_self]
      exact before

theorem pollResume_left {resuming resuming' : Resuming}
    (run : (pollResume resuming).run w = (.ok (.pending resuming'), w')) :
    resuming'.left w'.directory < resuming.left w.directory := by
  have ran := guardPoll_pending run
  cases resuming with
  | lease vfs =>
      obtain ⟨_, w₁, waited, rest⟩ := Prog.bind_ok_cases ran
      cases rest
      have same : w'.directory = w.directory := (waiting_directory.mapErr.of_run rfl waited).1
      simp only [Resuming.left, Loading.left, same]
      omega
  | loading vfs loading =>
      obtain ⟨polled, w₁, polls, rest⟩ := Prog.bind_ok_cases ran
      cases polled with
      | pending loading' =>
          cases rest
          exact Loading.poll_left polls
      | ready value =>
          obtain ⟨_, w₂, -, done⟩ := Prog.bind_ok_cases rest
          cases done

def System.polls (s : System) : List Surroundings → Outcome Failure Answer × System
  | [] => (.ok .pending, s)
  | around :: rest => match s.run ⟨around, .poll 0⟩ with
    | (.ok .pending, s') => s'.polls rest
    | ended => ended

structure System.Reloaded (s s' : System) : Prop where
  active : s'.world.state = .active
  healthy : s'.world.needsRecovery = false
  free : s'.world.busy = false ∧ s'.operations = []
  held : ∀ file, file ∈ s'.world.held ↔ file ∈ s.world.directory
  names : ∀ name file, s'.world.mapFilenameToFile.lookup name = some file ↔
    decoded s'.world.directory file = some (.ok (some name))
  read : ∀ name file, s'.world.mapFilenameToFile.lookup name = some file ↔
    decoded s.world.directory file = some (.ok (some name))
  contents : ∀ name file, s'.world.mapFilenameToFile.lookup name = some file →
    s'.world.directory.lookup file = s.world.directory.lookup file

/-- No name is stored twice in a directory of slots that were written as a whole. -/
theorem Disk.sorted {directory : AList fun _ : String => SlotFile} (disk : Disk .quiet directory g)
    {files : List String} (distinct : files.Nodup) : ¬ Unsorted directory files := by
  have names (file : String) (found : Except String (Option String))
      (here : decoded directory file = some found) :
      ∃ content : SlotFile, stored content.contents = found ∧
        Names .quiet (g.owner file) content.contents := by
    obtain ⟨content, there, rfl⟩ := Option.map_eq_some_iff.mp here
    refine ⟨content, rfl, ?_⟩
    have represents := disk.slot file content there
    rcases owned : g.owner file with _ | name
    · exact Sees.contents (represents.blank owned)
    · exact (represents.holds owned).unclear.sees.contents.2
  rintro (⟨file, reason, -, broken⟩ |
    ⟨name, first, second, ⟨before, after, rfl, earlier⟩, one, other⟩)
  · obtain ⟨content, here, free | ⟨name, -, named⟩ | ⟨torn, -⟩⟩ := names file _ broken
    · exact nomatch here.symm.trans free
    · exact nomatch here.symm.trans named
    · exact quiet_not_torn torn
  · obtain ⟨content, here, owned⟩ := names first _ one
    obtain ⟨content', here', owned'⟩ := names second _ other
    have same := disk.injective first second name (owned.owner_eq here) (owned'.owner_eq here')
    subst same
    have twice := List.nodup_append.mp distinct
    exact twice.2.2 first earlier first List.mem_cons_self rfl

/-- One poll in which nothing fails. -/
theorem Good.poll_returns (good : Good mode s g) (whole : ¬ mode.Torn) {resuming : Resuming}
    (there : s.operations = [.resuming resuming]) {around : Surroundings} (calm : around.Calm s) :
    (∃ resuming' env, s.run ⟨around, .poll 0⟩ = (.ok .pending,
        ⟨World.silenced { s.world.facing around with env }, s.files, [.resuming resuming']⟩) ∧
      resuming'.left s.world.directory < resuming.left s.world.directory) ∨
    ∃ w' g', s.run ⟨around, .poll 0⟩ = (.ok .done, ⟨w'.silenced, s.files, []⟩) ∧
      Resumed .quiet (s.world.facing around) w' g' := by
  have duties := good.duties
  rw [there] at duties
  obtain ⟨-, suspended, resumes⟩ := duties
  have suspended' : Suspended .quiet (s.world.facing around) g :=
    suspended.quieter whole calm.replies
  have resumes' : Resumes (s.world.facing around) resuming := resumes.facing around
  have polled := (pollResume_ends suspended' resumes').preserving (pollResume_calm resuming)
    calm.replies
  obtain ⟨result, w', run, reached, -⟩ := polled.returned_of
    (by
      rintro error w' ⟨⟨-, refused⟩, -⟩
      rcases refused rfl with ungranted | ⟨files, distinct, unsorted⟩ | ⟨vfs, here, rivalled⟩ |
        ⟨code, coded⟩
      · exact calm.grants ungranted
      · exact (suspended'.rep.disk suspended'.known).sorted distinct unsorted
      · refine rivalled fun other taken => ?_
        exact Option.some.inj ((calm.unrivalled other taken).symm.trans here)
      · exact calm.codes code coded)
    fun _ crashed => crashed.2
  have program : (Event.poll 0).program.run (s.facing around) =
      (suspend .resuming (fun _ => .done) result).run ⟨w', s.files, []⟩ := by
    unfold Event.program withTransfer
    rw [Prog.get_bind]
    unfold System.facing
    rw [there]
    exact onWorld_ok (s := ⟨s.world.facing around, s.files, []⟩) .pool run _
  cases result with
  | pending resuming' =>
      have fewer := pollResume_left run
      obtain ⟨⟨⟨env, rfl⟩, -⟩, -⟩ := reached
      refine .inl ⟨resuming', env, ?_, fewer⟩
      unfold System.run
      exact congrArg (fun r => (r.1, r.2.silenced)) program
  | ready value =>
      obtain ⟨g', resumed⟩ := reached
      refine .inr ⟨w', g', ?_, resumed⟩
      unfold System.run
      exact congrArg (fun r => (r.1, r.2.silenced)) program

theorem Resumed.reloaded (resumed : Resumed .quiet (s.world.facing around) w' g')
    (files : List VfsFile) : s.Reloaded ⟨w'.silenced, files, []⟩ := by
  obtain ⟨w₁, vfs, env, loaded, -, -, -, rfl⟩ := resumed.loading
  exact {
    active := rfl
    healthy := loaded.healthy
    free := ⟨rfl, rfl⟩
    held := loaded.held
    names := loaded.names
    read := fun name file => by
      refine ⟨fun mapped => ?_, loaded.found rfl name file⟩
      have here := (loaded.names name file).mp mapped
      unfold decoded at here ⊢
      rw [loaded.kept name file mapped] at here
      exact here
    contents := loaded.kept }

theorem Good.resumes (whole : ¬ mode.Torn) (arounds : List Surroundings) :
    ∀ {s : System} {g : Ledger} (_ : Good mode s g) {resuming : Resuming}
      (_ : s.operations = [.resuming resuming]) (_ : ∀ around ∈ arounds, around.Calm s)
      (_ : resuming.left s.world.directory < arounds.length),
      ∃ s', s.polls arounds = (.ok .done, s') ∧ s.Reloaded s' := by
  induction arounds with
  | nil =>
      intro s g good resuming there calm enough
      exact absurd enough (Nat.not_lt_zero _)
  | cons around arounds ih =>
      intro s g good resuming there calm enough
      rw [List.length_cons] at enough
      have now := calm around List.mem_cons_self
      unfold System.polls
      rcases good.poll_returns whole there now with
        ⟨resuming', env, run, fewer⟩ | ⟨w', g', run, resumed⟩
      · rw [run]
        have moment : Moment.Allowed mode ⟨around, .poll 0⟩ :=
          Moment.allowed_of around (fun reply member => (now.replies reply member).quiet ▸ trivial)
            (by simp)
        obtain ⟨outcome, g', -, -, good'⟩ := good.step moment ⟨_, run, by simp⟩
        have later : resuming'.left s.world.directory < arounds.length := by omega
        obtain ⟨s', polls, reloaded⟩ := ih good' rfl
          (fun other member => { calm other (.tail _ member) with }) later
        exact ⟨s', polls, { reloaded with }⟩
      · rw [run]
        exact ⟨_, rfl, resumed.reloaded s.files⟩

theorem pause_returns (clearable : w.Clearable) (calm : ∀ code, some code ∉ w.env.codes)
    (allowed : ∀ reply ∈ w.env.replies, Reply.Allowed mode reply) :
    ∃ env registry, pause.run w =
    (.ok (), { w.released with env, registry, state := .paused }) := by
  obtain ⟨⟨⟩, w', run, ⟨paused, -, -⟩ | paused⟩ := (pause_ends allowed).returned_of
    (by
      rintro error w' ⟨-, removed | busy | opened | ⟨code, coded⟩⟩
      · exact PoolState.noConfusion (clearable.active.symm.trans removed)
      · exact Bool.false_ne_true (clearable.free.symm.trans busy)
      · exact opened clearable.closed
      · exact calm code coded)
    fun _ impossible => impossible
  · exact PoolState.noConfusion (clearable.active.symm.trans paused)
  · obtain ⟨env, registry, -, -, -, rfl⟩ := paused.result
    exact ⟨env, registry, run⟩

theorem resume_returns (paused : w.state = .paused) (free : w.busy = false) {vfs : Nat}
    (registered : w.registration = some vfs) (unrivalled : w.Unrivalled vfs)
    (readable : 0 ∉ nameBytes w.name) :
    resume.run w = (.ok (.pending (.lease vfs)), { w with busy := true }) := by
  obtain ⟨polled, w', run, begun⟩ := (resume_ends readable).returned_of
    (by
      rintro error w' ⟨-, removed | busy | ⟨active, -⟩ | absent | ⟨other, here, rivalled⟩⟩
      · exact PoolState.noConfusion (paused.symm.trans removed)
      · exact Bool.false_ne_true (free.symm.trans busy)
      · exact PoolState.noConfusion (paused.symm.trans active)
      · exact nomatch registered.symm.trans absent
      · obtain rfl := Option.some.inj (registered.symm.trans here)
        exact rivalled unrivalled)
    fun _ impossible => impossible
  rcases begun with ⟨-, ready, -⟩ | ⟨other, rfl, -, -, here, -, rfl⟩
  · exact PoolState.noConfusion (paused.symm.trans ready.active)
  · obtain rfl := Option.some.inj (registered.symm.trans here)
    exact run

def System.Reloads (s : System) (pausing resuming : Surroundings) (arounds : List Surroundings)
    (s' : System) : Prop :=
  ∃ s₁ s₂, s.run ⟨pausing, .pause⟩ = (.ok .done, s₁) ∧
    s₁.run ⟨resuming, .resume⟩ = (.ok .pending, s₂) ∧ s₂.polls arounds = (.ok .done, s')

theorem Good.reloads (good : Good mode s g) (whole : ¬ mode.Torn) (settled : s.Settled)
    {pausing resuming : Surroundings} {arounds : List Surroundings} (calm : pausing.Calm s)
    (calm' : resuming.Calm s) (each : ∀ around ∈ arounds, around.Calm s)
    (enough : 2 * s.world.directory.keys.length + 1 < arounds.length) :
    ∃ s', s.Reloads pausing resuming arounds s' ∧ s.Reloaded s' := by
  have clearable := good.clearable settled
  have milder {around : Surroundings} (quiet : around.Allowed .quiet) : around.Allowed mode :=
    fun reply member => (quiet reply member).quiet ▸ trivial
  obtain ⟨vfs, registered⟩ : ∃ vfs, s.world.registration = some vfs := by
    refine Option.ne_none_iff_exists'.mp fun absent => ?_
    exact PoolState.noConfusion (settled.active.symm.trans (good.registration.mpr absent))
  obtain ⟨env, registry, run⟩ := pause_returns (w := s.world.facing pausing)
    ⟨clearable.active, clearable.free, clearable.closed⟩ calm.codes calm.replies
  have pauses : s.run ⟨pausing, .pause⟩ = (.ok .done, ⟨World.silenced { s.world.released with
      env, registry, state := .paused }, s.files, s.operations⟩) := by
    have ran := onWorld_ok (s := s.facing pausing) .pool run fun _ => (pure .done : SystemM Answer)
    unfold System.run
    exact congrArg (fun r => (r.1, r.2.silenced)) ran
  have pause_allowed : Moment.Allowed mode ⟨pausing, .pause⟩ :=
    Moment.allowed_of pausing (milder calm.replies) (by simp)
  obtain ⟨-, g₁, -, -, good₁⟩ := good.step pause_allowed ⟨_, pauses, by simp⟩
  have resumed := resume_returns (w := World.facing { s.world.released with
      env := Env.silent, registry, state := .paused } resuming) rfl clearable.free registered
    (fun other taken => Option.some.inj ((calm'.unrivalled other taken).symm.trans registered))
    good.readable
  have resumes : System.run ⟨World.silenced { s.world.released with
      env, registry, state := .paused }, s.files, s.operations⟩ ⟨resuming, .resume⟩ =
      (.ok .pending, ⟨World.silenced { World.facing { s.world.released with
        env := Env.silent, registry, state := .paused } resuming with busy := true }, s.files,
          .resuming (.lease vfs) :: s.operations⟩) := by
    have ran := onWorld_ok (s := ⟨World.facing { s.world.released with
      env := Env.silent, registry, state := .paused } resuming, s.files, s.operations⟩)
        .pool resumed
      fun polled => suspend .resuming (fun _ => .done) polled
    unfold System.run
    exact congrArg (fun r => (r.1, r.2.silenced)) ran
  have resume_allowed : Moment.Allowed mode ⟨resuming, .resume⟩ :=
    Moment.allowed_of resuming (milder calm'.replies) (by simp)
  obtain ⟨-, g₂, -, -, good₂⟩ := good₁.step resume_allowed ⟨_, resumes, by simp⟩
  rw [settled.alone] at good₂ resumes
  obtain ⟨s₃, polls, reloaded⟩ := good₂.resumes whole arounds rfl
    (fun around member => { each around member with }) enough
  refine ⟨s₃, ⟨_, _, pauses, ?_, polls⟩, { reloaded with }⟩
  rw [settled.alone]
  exact resumes

/-! ## Both ways -/

structure System.Recovers (s : System) : Prop where
  clears : ∀ s', s.Retries s' → s'.world.held.Perm s.world.held ∧
    s'.world.capacity = s.world.capacity ∧
    ∀ around, around.Calm s' → ∃ s'', s'.run ⟨around, .clear⟩ = (.ok .done, s'') ∧ s.Emptied s''
  reloads : ∀ pausing resuming arounds, pausing.Calm s → resuming.Calm s →
    (∀ around ∈ arounds, around.Calm s) →
    2 * s.world.directory.keys.length + 1 < arounds.length →
    ∃ s', s.Reloads pausing resuming arounds s' ∧ s.Reloaded s'

/-- Whatever failures of whole calls have led to a pool that is settled, it can be recovered. -/
theorem pools_recover (reachable : Reachable .whole s) (settled : s.Settled) : s.Recovers := by
  obtain ⟨g, good⟩ := reachable.good
  have whole : ¬ Mode.whole.Torn := by
    rintro (impossible | impossible) <;> cases impossible
  refine ⟨fun s' retries => ?_, fun pausing resuming arounds calm calm' each enough =>
    good.reloads whole settled calm calm' each enough⟩
  obtain ⟨⟨g', good'⟩, settled', held⟩ := retries.good good settled
  have capacity : s'.world.capacity = s.world.capacity := by
    rw [World.capacity_eq, World.capacity_eq]
    exact held.length_eq
  refine ⟨held, capacity, fun around calm => ?_⟩
  obtain ⟨s'', run, emptied⟩ := good'.clears whole settled' calm
  exact ⟨s'', run, { emptied with
    capacity := emptied.capacity.trans capacity
    held := emptied.held.trans held }⟩

def refusing : Surroundings := ⟨⟨[.thrown ⟨none, none, ""⟩ .nothing], [], [], []⟩, []⟩

theorem refusing_allowed (loud : mode ≠ .quiet) : refusing.Allowed mode := by
  intro reply member
  obtain rfl := List.mem_singleton.mp member
  exact ⟨loud, trivial⟩

theorem untroubled_allowed {event : Event} (opens : ∀ request, event = .openFile request →
    Classified request.options.rawFlags) : Moment.Allowed mode ⟨untroubled, event⟩ :=
  ⟨fun _ => nofun, fun request same _ => opens request same⟩

theorem opening_allowed {request : OpenRequest} (classified : Classified request.options.rawFlags) :
    Moment.Allowed mode ⟨untroubled, .openFile request⟩ := by
  apply untroubled_allowed
  intro asked same
  cases same
  exact classified

/-- A database is made and closed, and the browser refuses to clear its header. -/
def refusedRemoval : List Moment :=
  [⟨untroubled, .openFile ⟨some "a.db", ⟨0x106⟩⟩⟩, ⟨untroubled, .closeFile 0⟩,
    ⟨refusing, .remove "a.db"⟩]

theorem refusedRemoval_allowed (loud : mode ≠ .quiet) :
    ∀ moment ∈ refusedRemoval, moment.Allowed mode := by
  intro moment member
  simp only [refusedRemoval, List.mem_cons, List.not_mem_nil, or_false] at member
  rcases member with rfl | rfl | rfl
  · exact opening_allowed ⟨by decide, by decide⟩
  · apply untroubled_allowed
    simp
  · exact Moment.allowed_of refusing (refusing_allowed loud) (by simp)

set_option maxRecDepth 20000 in
theorem refusedRemoval_run : ∃ s, Runs System.Step ⟨onePool, [], []⟩ refusedRemoval s ∧
    s.Settled ∧ s.world.needsRecovery = true := by
  have opened : Runs System.Step ⟨onePool, [], []⟩ (refusedRemoval.take 1) _ :=
    .single ⟨.ok (.opened .readWrite), rfl, by simp⟩
  have closed : Runs System.Step ⟨onePool, [], []⟩ (refusedRemoval.take 2) _ :=
    opened.snoc ⟨.ok .done, rfl, by simp⟩
  have refused : Runs System.Step ⟨onePool, [], []⟩ refusedRemoval _ :=
    closed.snoc ⟨.err _, rfl, by simp⟩
  exact ⟨_, refused, ⟨rfl, rfl, rfl⟩, rfl⟩

theorem pools_recover_refused : ∃ s : System, Reachable .whole s ∧
    s.world.needsRecovery = true ∧ s.Recovers := by
  obtain ⟨s, run, settled, suspect⟩ := refusedRemoval_run
  have reached : Reachable .whole s := onePool_reaches (refusedRemoval_allowed (by decide)) run
  exact ⟨s, reached, suspect, pools_recover reached settled⟩

end Sahpool

end SqliteVfs
