import SqliteVfs.Core.MemVfsInstallSpec
import SqliteVfs.Sahpool.WorkerInvariant

/-!
# Installing again

What `install` hands out is what SQLite finds, however the pool lost its registration, and
the files are the ones from before.  `sahpool::install` misses one case: a pool that is
active and that SQLite no longer knows stays unknown when it is not to be the default.
-/

set_option autoImplicit false

namespace SqliteVfs

/-! ## The memory VFS -/

namespace MemVfsInstall

variable {s t : State}

/-- A doubled `install` that does not make its VFS the default leaves another one in front. -/
theorem doubled_found {makeDflt : Bool} {index other : Nat} {rest : List Vfs}
    (different : other ≠ index)
    (list : t.vfsList = LinkedList.link id (.own index) makeDflt (.own other :: rest)) :
    t.found = some (.own index) ↔ makeDflt = true := by
  unfold State.found
  rw [list]
  cases makeDflt with
  | true => exact iff_of_true (LinkedList.find_link_front rfl) rfl
  | false =>
    have distinct : Vfs.own other ≠ .own index := by
      intro same
      injection same with same
      exact different same
    have first : LinkedList.find Vfs.name vfsName
        (LinkedList.link id (Vfs.own index) false (.own other :: rest)) = some (.own other) :=
      LinkedList.find_link_behind rfl distinct
    refine iff_of_false (fun found => ?_) Bool.false_ne_true
    exact distinct (Option.some.inj (first.symm.trans found))

/-- SQLite finds what `install` hands out, unless the install is a doubled one of a VFS that
is not to be the default. -/
theorem install_finds {event : Event} {index : Nat} (good : Good s) (allowed : event.Allowed s)
    (stepped : step s event = some (.handle index, t)) :
    t.found = some (.own index) ↔ ¬ (event.Doubled s ∧ event.call = .install false) := by
  by_cases doubled : event.Doubled s
  · obtain ⟨makeDflt, called⟩ := doubled.1
    have facing : Good (s.facing event.replies) :=
      ⟨good.holds.of_eq rfl rfl rfl rfl, good.idle⟩
    obtain ⟨allocation, t', run, -, other, rest, different, list⟩ :=
      install_doubled_run makeDflt facing doubled.2
    have ends : step s event = some (.handle allocation, t') := by
      unfold step
      rw [called]
      exact observe_ok run _ _
    cases ends.symm.trans stepped
    rw [doubled_found different list, called]
    cases makeDflt with
    | true => exact iff_of_true rfl fun overlooked => nomatch overlooked.2
    | false => exact iff_of_false Bool.false_ne_true fun sound => sound ⟨doubled, rfl⟩
  · obtain ⟨result, t', ends, -, ok⟩ := step_sound good allowed doubled
    cases ends.symm.trans stepped
    exact iff_of_true (ok.handed index rfl).2 fun overlooked => doubled overlooked.1

end MemVfsInstall

namespace Sahpool

variable {worker worker' : Worker} {i j : Nat} {pool pool' : Pool} {env : Env} {request : Request}
  {outcome : WorkerOutcome} {s s' : System} {g g' : Ledger} {w w' : World} {name file : String}
  {content : SlotFile}

/-! ## What SQLite finds -/

/-- The reuse of a pool that SQLite does not know, and that is not made the default. -/
def Occasion.Overlooked (worker : Worker) (occasion : Occasion) : Prop :=
  ∃ request i, occasion.request = .install request ∧ request.defaultVfs = false ∧
    worker.registeredPools.lookup request.options.vfsName = some i ∧
    found worker.registry request.options.vfsName = none

structure Occasion.Hands (worker : Worker) (occasion : Occasion) (worker' : Worker) (pool : Pool)
    (vfs : Nat) : Prop where
  owned : pool.system.world.registration = some vfs
  finds : pool.system.world.state ≠ .paused →
    (found worker'.registry pool.system.world.name = some vfs ↔ ¬ occasion.Overlooked worker)

theorem found_eq (registry : List Vfs) (name : String) :
    found registry name = (LinkedList.find Vfs.name name registry).map Vfs.pointer := rfl

theorem found_link_front (registry : List Vfs) (vfs : Nat) (name : String) :
    found (LinkedList.link Vfs.pointer ⟨vfs, name⟩ true registry) name = some vfs := by
  have front : LinkedList.find Vfs.name name
      (LinkedList.link Vfs.pointer ⟨vfs, name⟩ true registry) = some ⟨vfs, name⟩ :=
    LinkedList.find_link_front rfl
  rw [found_eq, front]
  rfl

theorem found_link_free {registry : List Vfs} (free : found registry name = none) (vfs : Nat)
    (front : Bool) :
    found (LinkedList.link Vfs.pointer ⟨vfs, name⟩ front registry) name = some vfs := by
  have others := LinkedList.find_eq_none.mp (Option.map_eq_none_iff.mp free)
  have linked : LinkedList.find Vfs.name name
      (LinkedList.link Vfs.pointer ⟨vfs, name⟩ front registry) = some ⟨vfs, name⟩ :=
    LinkedList.find_link_of_others rfl fun other member _ => others other member
  rw [found_eq, linked]
  rfl

theorem Reused.finds {install : InstallRequest} {vfs : Nat} {registry : List Vfs}
    (named : w.name = install.options.vfsName)
    (known : worker.registeredPools.lookup install.options.vfsName = some i)
    (active : w.state = .active) (same : w.registry = worker.registry)
    (unrivalled : w.Unrivalled vfs)
    (after : registry = if install.defaultVfs then w.promoted vfs else w.registry) :
    found registry w.name = some vfs ↔
      ¬ Occasion.Overlooked worker ⟨env, .install install⟩ := by
  cases default : install.defaultVfs with
  | true =>
    rw [default, if_pos rfl] at after
    unfold World.promoted at after
    rw [if_pos active] at after
    refine iff_of_true ?_ ?_
    · rw [after]
      exact found_link_front w.registry vfs w.name
    · rintro ⟨other, j, asked, plain, -⟩
      cases asked
      exact nomatch default.symm.trans plain
  | false =>
    rw [default, if_neg Bool.false_ne_true] at after
    rw [after]
    cases here : found w.registry w.name with
    | none =>
      refine iff_of_false (Option.some_ne_none vfs).symm fun seen => seen ?_
      rw [named, same] at here
      exact ⟨install, i, rfl, default, known, here⟩
    | some other =>
      obtain rfl := unrivalled other here
      refine iff_of_true rfl ?_
      rintro ⟨request, j, asked, -, -, missing⟩
      cases asked
      rw [named, same, missing] at here
      exact nomatch here

theorem Worker.Turn.hands (good : worker.Good)
    (turn : Worker.Turn worker env request (.ok (.handle i)) worker') :
    ∃ pool vfs, worker'.pools[i]? = some pool ∧
      Occasion.Hands worker ⟨env, request⟩ worker' pool vfs := by
  generalize same : (Outcome.ok (.handle i) : WorkerOutcome) = outcome at turn
  cases turn with
  | idle _ _ unanswered => exact absurd same.symm (unanswered i)
  | called _ _ result => cases result <;> nomatch same
  | ended _ _ unanswered ends => exact absurd same.symm (unanswered i)
  | reused install directory j pool w normalized named there matches_request result =>
    cases same
    obtain ⟨present, -, vfs, env', owned, unrivalled, -, eq⟩ := result
    obtain ⟨other, here, called, -⟩ := (good.registered _ i).mp named
    obtain rfl := Option.some.inj (there.symm.trans here)
    have registration : ({ pool.system with world := w.silenced } : System).world.registration =
        pool.system.world.registration := by
      rw [eq]
      rfl
    have name : w.silenced.name = (pool.system.world.facing ⟨env, worker.registry⟩).name := by
      rw [eq]
      rfl
    refine ⟨{ pool with system := { pool.system with world := w.silenced } }, vfs, ?_,
      registration.trans owned, fun awake => ?_⟩
    · rw [Worker.record_pools]
      exact (pools_set there).mpr (.inl ⟨rfl, rfl⟩)
    · rw [Worker.record_kept registration]
      dsimp only at awake ⊢
      rw [name]
      have active : (pool.system.world.facing ⟨env, worker.registry⟩).state = .active := by
        have state : w.silenced.state =
            (pool.system.world.facing ⟨env, worker.registry⟩).state := by
          rw [eq]
          rfl
        rw [state] at awake
        cases standing : (pool.system.world.facing ⟨env, worker.registry⟩).state with
        | active => rfl
        | paused => exact absurd standing awake
        | removed => exact absurd standing present
      refine Reused.finds called named active rfl unrivalled ?_
      rw [eq]
      rfl
  | published pending w there run registers =>
    cases same
    have before := good.pending pending there
    have lax : ∀ reply ∈ (pending.world.facing ⟨env, worker.registry⟩).env.replies,
        reply.Allowed .lax := fun reply _ => reply.allowed_lax
    obtain ⟨g, installed⟩ := (pollInstall_ends (before.installs.facing lax) lax).ok run
    refine ⟨_, _, pools_snoc.mpr (.inr ⟨rfl, rfl⟩), installed.registration, fun _ => ?_⟩
    refine iff_of_true ?_ ?_
    · change found w.registry w.name = _
      rw [registers.registry, registers.name]
      exact found_link_free registers.free _ _
    · rintro ⟨request, j, asked, -⟩
      exact nomatch asked
  | _ => cases same

/-! ## The files -/

/-- The slot of a persistent file, which the pool maps while it is active. -/
structure World.Manages (w : World) (name file : String) (content : SlotFile) : Prop where
  kept : w.directory.lookup file = some content
  named : stored content.contents = .ok (some name)
  mapped : w.state = .active → w.mapFilenameToFile.lookup name = some file

def Event.Lifecycle : Event → Prop
  | .pause | .resume | .poll _ | .cancel _ | .uninstall => True
  | _ => False

def System.Calm (s : System) : Prop :=
  s.operations = [] ∨ ∃ resuming, s.operations = [.resuming resuming]

theorem World.Manages.looked (manages : w.Manages name file content) (looked : w.Looked w') :
    w'.Manages name file content where
  kept := (looked.contents file).trans manages.kept
  named := manages.named
  mapped active := by
    have before : w.state = .active := looked.settings.state.symm.trans active
    rw [looked.still.names]
    exact manages.mapped before

theorem World.Manages.of_inactive (manages : w.Manages name file content)
    (kept : w'.directory.lookup file = w.directory.lookup file) (inactive : w'.state ≠ .active) :
    w'.Manages name file content :=
  ⟨kept.trans manages.kept, manages.named, fun active => absurd active inactive⟩

theorem System.Calm.resumes (calm : s.Calm) {operation : Operation}
    (there : s.operations = [operation]) : ∃ resuming, operation = .resuming resuming := by
  rcases calm with none | ⟨resuming, one⟩
  · exact absurd (none.symm.trans there) (List.cons_ne_nil _ _).symm
  · exact ⟨resuming, (List.cons.inj (there.symm.trans one)).1⟩

theorem Adding.restless {event : Event} (adding : Adding s event w) (lifecycle : event.Lifecycle) :
    ¬ s.Calm := by
  intro calm
  cases adding with
  | add n ready => exact lifecycle
  | ensure min ready => exact lifecycle
  | poll i growth there =>
    obtain ⟨resuming, same⟩ := calm.resumes there
    exact nomatch same

theorem Reducing.restless {event : Event} {count left : Nat}
    (reducing : Reducing s event w count left) (lifecycle : event.Lifecycle) : ¬ s.Calm := by
  intro calm
  cases reducing with
  | reduce n ready => exact lifecycle
  | poll i shrink there =>
    obtain ⟨resuming, same⟩ := calm.resumes there
    exact nomatch same

theorem Stopping.restless {event : Event} (stopping : Stopping s event w)
    (lifecycle : event.Lifecycle) : ¬ s.Calm := by
  intro calm
  cases stopping with
  | adding event w adding => exact adding.restless lifecycle calm
  | reducing i shrink there =>
    obtain ⟨resuming, same⟩ := calm.resumes there
    exact nomatch same
  | dropAdding i growth there =>
    obtain ⟨resuming, same⟩ := calm.resumes there
    exact nomatch same
  | dropReducing i shrink there =>
    obtain ⟨resuming, same⟩ := calm.resumes there
    exact nomatch same

/-- No event of the lifecycle loses a file, but for the one that removes the pool. -/
theorem Turn.manages {event : Event} {result : Outcome Failure Answer}
    (turn : Turn .lax s g event result s' g') (lifecycle : event.Lifecycle) (calm : s.Calm)
    (present : s'.world.state ≠ .removed) : s'.Calm ∧ ∀ name file content,
      s.world.Manages name file content → s'.world.Manages name file content := by
  cases turn with
  | idle _ nothing => exact ⟨calm, fun _ _ _ manages => manages⟩
  | looked _ _ w' query looked rep => exact ⟨calm, fun _ _ _ manages => manages.looked looked⟩
  | refused _ error w' guarded looked rep =>
      exact ⟨calm, fun _ _ _ manages => manages.looked looked⟩
  | opened => exact lifecycle.elim
  | unopened => exact lifecycle.elim
  | called => exact lifecycle.elim
  | closed => exact lifecycle.elim
  | deleted _ _ _ _ _ deletes =>
    rcases deletes with rfl | rfl
    · exact lifecycle.elim
    · exact lifecycle.elim
  | undeleted _ _ _ _ _ deletes =>
    rcases deletes with rfl | rfl
    · exact lifecycle.elim
    · exact lifecycle.elim
  | importing => exact lifecycle.elim
  | filled => exact lifecycle.elim
  | committed => exact lifecycle.elim
  | unimported _ i _ file filename data w' _ ends =>
    rcases ends with rfl | rfl | ⟨error, rfl⟩ | rfl
    · exact lifecycle.elim
    · exact lifecycle.elim
    · exact lifecycle.elim
    · exact lifecycle.elim
  | exporting => exact lifecycle.elim
  | exported => exact lifecycle.elim
  | growing _ w growth w' adding => exact absurd calm (adding.restless lifecycle)
  | grown _ w count w' adding => exact absurd calm (adding.restless lifecycle)
  | shrinking _ w count left shrink w' reducing => exact absurd calm (reducing.restless lifecycle)
  | shrunk _ w count left removed w' reducing => exact absurd calm (reducing.restless lifecycle)
  | givenUp _ w _ w' stopping => exact absurd calm (stopping.restless lifecycle)
  | resuming vfs suspended free registered =>
    refine ⟨.inr ⟨_, rfl⟩, fun name file content manages => ?_⟩
    exact ⟨manages.kept, manages.named, manages.mapped⟩
  | pending i resuming resuming' w' there suspended consulted resumes =>
    obtain ⟨⟨env, rfl⟩, -⟩ := consulted
    refine ⟨.inr ⟨_, rfl⟩, fun name file content manages => ?_⟩
    exact ⟨manages.kept, manages.named, manages.mapped⟩
  | resumed i resuming w' _ there suspended result =>
    obtain ⟨w₁, vfs, env, loaded, -, -, -, rfl⟩ := result.loading
    refine ⟨.inl rfl, fun name file content manages => ?_⟩
    have decodes : decoded s.world.directory file = some (.ok (some name)) := by
      rw [decoded_of_found manages.kept, manages.named]
    have mapped := loaded.found rfl name file decodes
    exact ⟨(loaded.kept name file mapped).trans manages.kept, manages.named, fun _ => mapped⟩
  | unresumed _ i _ resuming w' _ stops there suspended result =>
    refine ⟨.inl rfl, fun name file content manages => ?_⟩
    have decodes : decoded s.world.directory file = some (.ok (some name)) := by
      rw [decoded_of_found manages.kept, manages.named]
    refine manages.of_inactive (result.named file name decodes) fun active => ?_
    exact nomatch active.symm.trans result.suspended.paused
  | paused w' result rep =>
    obtain ⟨env, registry, -, -, -, rfl⟩ := result.result
    exact ⟨calm, fun _ _ _ manages => manages.of_inactive rfl nofun⟩
  | cleared => exact lifecycle.elim
  | uncleared => exact lifecycle.elim
  | uninstalled w' result rep =>
    obtain ⟨pointer, env, -, -, rfl⟩ := result.result
    exact absurd rfl present

theorem Shifts.stays_removed {event : Event} {result : Outcome Failure Answer}
    (shifts : Shifts event result w w') (removed : w.state = .removed) :
    w'.state = .removed := by
  cases shifts with
  | stays same => exact same.state.trans removed
  | pauses vfs active owned after => exact nomatch active.symm.trans removed
  | resumes vfs paused owned unrivalled after => exact nomatch paused.symm.trans removed
  | uninstalls vfs asked answered present owned after => exact absurd removed present

theorem Shifts.same_name {event : Event} {result : Outcome Failure Answer}
    (shifts : Shifts event result w w') : w'.name = w.name := by
  cases shifts with
  | stays same => exact same.name
  | pauses vfs active owned after => exact after.name
  | resumes vfs paused owned unrivalled after => exact after.name
  | uninstalls vfs asked answered present owned after => exact after.name

structure System.Retains (s s' : System) : Prop where
  name : s'.world.name = s.world.name
  present : s'.world.state ≠ .removed → s.world.state ≠ .removed
  files : s'.world.state ≠ .removed → s.Calm → s'.Calm ∧ ∀ name file content,
    s.world.Manages name file content → s'.world.Manages name file content

theorem System.Retains.refl (s : System) : s.Retains s :=
  ⟨rfl, id, fun _ calm => ⟨calm, fun _ _ _ manages => manages⟩⟩

theorem System.Retains.trans {s'' : System} (first : s.Retains s') (second : s'.Retains s'') :
    s.Retains s'' where
  name := second.name.trans first.name
  present present := first.present (second.present present)
  files present calm := by
    obtain ⟨between, kept⟩ := first.files (second.present present) calm
    obtain ⟨after, kept'⟩ := second.files present between
    exact ⟨after, fun name file content manages => kept' _ _ _ (kept name file content manages)⟩

theorem Good.step_retains (good : Good .lax s g) {moment : Moment} (step : s.Step moment s')
    (lifecycle : moment.event.Lifecycle) : s.Retains s' := by
  obtain ⟨outcome, g', -, ⟨around, s₂, answers, -, turn, rfl⟩, -⟩ :=
    good.step moment.allowed_lax step
  have shifts := turn.shifts (good.facing answers)
  refine ⟨shifts.same_name, ?_, fun present calm => ?_⟩
  · exact fun present removed => present (shifts.stays_removed removed)
  · obtain ⟨still, kept⟩ := turn.manages lifecycle calm present
    refine ⟨still, fun name file content manages => ?_⟩
    have after := kept name file content ⟨manages.kept, manages.named, manages.mapped⟩
    exact ⟨after.kept, after.named, after.mapped⟩

theorem Pool.Rests.retains (rests : pool.Rests pool') : pool.system.Retains pool'.system where
  name := rests.name
  present present removed := present (rests.state.trans removed)
  files _ calm := by
    refine ⟨?_, fun name file content manages => ⟨?_, manages.named, fun active => ?_⟩⟩
    · unfold System.Calm
      rw [rests.operations]
      exact calm
    · exact rests.slots file content manages.kept
    · rw [rests.still.names]
      exact manages.mapped (rests.state.symm.trans active)

def Occasion.Spares (i : Nat) (occasion : Occasion) : Prop :=
  ∀ event, occasion.request = .pool i event → event.Lifecycle

theorem Pool.Goes.retains (goes : Pool.Goes worker env request i pool pool') (good : worker.Good)
    (there : worker.pools[i]? = some pool) (spares : Occasion.Spares i ⟨env, request⟩) :
    pool.system.Retains pool'.system := by
  rcases goes.how with ⟨event, asked, step⟩ | rests
  · obtain ⟨g, pool_good⟩ := good.pools i pool there
    exact pool_good.step_retains step (spares event asked)
  · exact rests.retains

/-- Over a run in which nobody uses its files, a pool keeps them. -/
theorem WorkerRun.retains {log : List (Occasion × WorkerOutcome)}
    (runs : WorkerRun (fun worker occasion => occasion.Allowed worker ∧ occasion.Spares i) worker
      log worker') (good : worker.Good) (there : worker.pools[i]? = some pool) :
    ∃ pool', worker'.pools[i]? = some pool' ∧ pool.system.Retains pool'.system := by
  induction runs with
  | refl => exact ⟨pool, there, .refl pool.system⟩
  | @snoc log middle last occasion outcome before here run returns ih =>
    obtain ⟨between, there', retains⟩ := ih
    have middle_good := before.good good fun _ _ allowed => allowed.1
    obtain ⟨pool', after, goes⟩ := (middle_good.turned run returns).goes there'
    have kept : between.system.Retains pool'.system := goes.retains middle_good there' here.2
    exact ⟨pool', after, retains.trans kept⟩

/-- Who installs a pool under its name again gets that pool. -/
theorem Worker.Good.same_pool (good : worker.Good) {install : InstallRequest}
    (there : worker.pools[i]? = some pool) (present : pool.Present)
    (named : install.options.vfsName = pool.system.world.name)
    (turn : Worker.Turn worker env (.install install) (.ok (.handle j)) worker') : j = i := by
  have known : worker.registeredPools.lookup install.options.vfsName = some i :=
    (good.registered _ i).mpr ⟨pool, there, named.symm, present⟩
  generalize same : (Outcome.ok (.handle j) : WorkerOutcome) = outcome at turn
  cases turn with
  | idle _ _ unanswered => exact absurd same.symm (unanswered j)
  | ended _ _ unanswered ends => exact absurd same.symm (unanswered j)
  | reused _ directory _ _ w normalized found_name =>
    cases same
    exact Option.some.inj (found_name.symm.trans known)
  | _ => cases same

end Sahpool

open Sahpool in
/-- In every run of either library, except a doubled `install` of the memory VFS: SQLite finds
what `install` returns, unless an active pool was overlooked; until a removal every `install`
returns the same VFS, and its files are the ones from before. -/
theorem reinstalling_restores (entries : List (MemVfsInstall.Event × MemVfsInstall.Answer))
    (s : MemVfsInstall.State) (log : List (Occasion × WorkerOutcome)) (worker : Worker) :
    (MemVfsInstall.Run .start entries s →
      (∀ (event : MemVfsInstall.Event) (index : Nat) (t : MemVfsInstall.State),
        event.Allowed s → MemVfsInstall.step s event = some (.handle index, t) →
          (t.found = some (.own index) ↔ ¬ (event.Doubled s ∧ event.call = .install false))) ∧
      ∀ (later : List (MemVfsInstall.Event × MemVfsInstall.Answer)) (t : MemVfsInstall.State)
        (index : Nat), MemVfsInstall.Run s later t → s.memVfs = some (.own index) →
        (∀ entry ∈ later, ¬ MemVfsInstall.Removes entry.1.call entry.2) →
        (∀ entry ∈ later, ∀ used data, entry.1.call ≠ .use used data) →
          t.allocations[index]? = s.allocations[index]? ∧
          ∀ entry ∈ later, ∀ handed, entry.2 = .handle handed → handed = index) ∧
    (WorkerRun (fun worker occasion => occasion.Allowed worker) .start log worker →
      (∀ (occasion : Occasion) (i : Nat) (worker' : Worker), occasion.Allowed worker →
        worker.run occasion = (.ok (.handle i), worker') →
          ∃ pool vfs, worker'.pools[i]? = some pool ∧ occasion.Hands worker worker' pool vfs) ∧
      ∀ (later : List (Occasion × WorkerOutcome)) (worker' : Worker) (i : Nat) (pool : Pool),
        WorkerRun (fun worker occasion => occasion.Allowed worker ∧ occasion.Spares i) worker
          later worker' → worker.pools[i]? = some pool → pool.system.Calm →
          ∃ pool', worker'.pools[i]? = some pool' ∧ (pool'.Present →
            (∀ name file content, pool.system.world.Manages name file content →
              pool'.system.world.Manages name file content) ∧
            ∀ (occasion : Occasion) (install : InstallRequest) (j : Nat) (last : Worker),
              occasion.request = .install install →
              install.options.vfsName = pool.system.world.name →
              worker'.run occasion = (.ok (.handle j), last) → j = i)) := by
  constructor
  · intro run
    have good := run.good MemVfsInstall.good_start
    refine ⟨fun event index t allowed stepped => ?_, fun later t index on owner stays unused => ?_⟩
    · exact MemVfsInstall.install_finds good allowed stepped
    · obtain ⟨-, handles, files⟩ := on.owner good owner stays
      exact ⟨files unused, handles⟩
  · intro runs
    have good := runs.good good_start fun _ _ allowed => allowed
    refine ⟨fun occasion i worker' allowed run => ?_, fun later worker' i pool on there calm => ?_⟩
    · exact (good.turned run nofun).hands good
    · obtain ⟨pool', after, retains⟩ := on.retains good there
      refine ⟨pool', after, fun present => ⟨(retains.files present calm).2, ?_⟩⟩
      intro occasion install j last asked named run
      have good' := on.good good fun _ _ allowed => allowed.1
      have turn := good'.turned run nofun
      rw [asked] at turn
      exact good'.same_pool after present (named.trans retains.name.symm) turn

namespace Sahpool

def installing (vfs : Nat) (defaultVfs : Bool) : Occasion :=
  ⟨Env.silent, .install ⟨⟨"opfs", "pool", false, 0⟩, 0, defaultVfs, vfs, ∅⟩⟩

def polling : Occasion := ⟨Env.silent, .pollInstall⟩

set_option maxRecDepth 20000 in
/-- A pool is installed, somebody unregisters its VFS from SQLite, and it is installed again,
with and without making it the default. -/
theorem detached_run : ∃ log worker,
    WorkerRun (fun worker occasion => occasion.Allowed worker) .start log worker ∧
    (installing 2 false).Allowed worker ∧ (installing 2 true).Allowed worker ∧
    (∃ last pool, worker.run (installing 2 false) = (.ok (.handle 0), last) ∧
      last.pools[0]? = some pool ∧ pool.system.world.state = .active ∧
      pool.system.world.registration = some 1 ∧
      found last.registry pool.system.world.name = none) ∧
    ∃ last pool, worker.run (installing 2 true) = (.ok (.handle 0), last) ∧
      last.pools[0]? = some pool ∧ pool.system.world.state = .active := by
  have begun : WorkerRun (fun worker occasion => occasion.Allowed worker) .start
      ([] ++ [(installing 1 false, .ok .pending)]) _ :=
    .snoc .refl ⟨List.not_mem_nil, fun _ member => absurd member List.not_mem_nil⟩ rfl nofun
  have root : WorkerRun _ _ (_ ++ [(polling, .ok .pending)]) _ := begun.snoc trivial rfl nofun
  have directory : WorkerRun _ _ (_ ++ [(polling, .ok .pending)]) _ := root.snoc trivial rfl nofun
  have lock : WorkerRun _ _ (_ ++ [(polling, .ok .pending)]) _ := directory.snoc trivial rfl nofun
  have lease : WorkerRun _ _ (_ ++ [(polling, .ok .pending)]) _ := lock.snoc trivial rfl nofun
  have slots : WorkerRun _ _ (_ ++ [(polling, .ok .pending)]) _ := lease.snoc trivial rfl nofun
  have ready : WorkerRun _ _ (_ ++ [(polling, .ok (.handle 0))]) _ := slots.snoc trivial rfl nofun
  have detached : WorkerRun _ _ (_ ++ [(⟨Env.silent, .unregister 1⟩, .ok .done)]) _ :=
    ready.snoc trivial rfl nofun
  have other : 2 ∉ [1] := by decide
  have unknown : ∀ entry ∈ ([] : List Vfs), entry.pointer ≠ 2 :=
    fun _ member => absurd member List.not_mem_nil
  exact ⟨_, _, detached, ⟨other, unknown⟩, ⟨other, unknown⟩,
    ⟨_, _, rfl, rfl, rfl, rfl, rfl⟩, ⟨_, _, rfl, rfl, rfl⟩⟩

theorem detached_pool_stays_lost : ¬ ∀ (log : List (Occasion × WorkerOutcome)) (worker : Worker),
    WorkerRun (fun worker occasion => occasion.Allowed worker) .start log worker →
    ∀ (occasion : Occasion) (i : Nat) (worker' : Worker) (pool : Pool) (vfs : Nat),
      occasion.Allowed worker → worker.run occasion = (.ok (.handle i), worker') →
      worker'.pools[i]? = some pool → pool.system.world.registration = some vfs →
      pool.system.world.state ≠ .paused →
      found worker'.registry pool.system.world.name = some vfs := by
  intro claimed
  obtain ⟨log, worker, runs, allowed, -, ⟨last, pool, run, there, active, owned, lost⟩, -⟩ :=
    detached_run
  have awake : pool.system.world.state ≠ .paused := fun paused => nomatch active.symm.trans paused
  have finds := claimed log worker runs _ 0 last pool 1 allowed run there owned awake
  exact nomatch lost.symm.trans finds

theorem reinstalling_restores_promoted : ∃ log worker last pool vfs,
    WorkerRun (fun worker occasion => occasion.Allowed worker) .start log worker ∧
    worker.run (installing 2 true) = (.ok (.handle 0), last) ∧ last.pools[0]? = some pool ∧
    found last.registry pool.system.world.name = some vfs := by
  obtain ⟨log, worker, runs, -, allowed, -, last, pool, run, there, active⟩ := detached_run
  have restores := (reinstalling_restores [] .start log worker).2 runs
  obtain ⟨other, vfs, here, hands⟩ := restores.1 (installing 2 true) 0 last allowed run
  obtain rfl := Option.some.inj (here.symm.trans there)
  refine ⟨log, worker, last, other, vfs, runs, run, here, (hands.finds ?_).mpr ?_⟩
  · exact fun paused => nomatch active.symm.trans paused
  · rintro ⟨request, i, asked, plain, -⟩
    cases asked
    exact nomatch plain

end Sahpool

end SqliteVfs
