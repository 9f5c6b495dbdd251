import SqliteVfs.Sahpool.Reinstall

/-!
# The lifecycle of a pool and the registry

A pool is in `REGISTERED_POOLS` until it is uninstalled, and in SQLite's list while it is
active, as long as other code registers and unregisters VFSs of its own only.  An uninstalled
pool answers every call with that error or does nothing, and holds nothing.
-/

set_option autoImplicit false

namespace SqliteVfs

namespace Sahpool

variable {mode : Mode} {worker worker' : Worker} {i j : Nat} {pool pool' other : Pool} {env : Env}
  {request : Request} {outcome : WorkerOutcome} {event : Event} {result : Outcome Failure Answer}
  {s : System} {g : Ledger} {w : World} {vfs : Nat} {α β ε : Type}

/-! ## Uninstalled pools -/

/-- The error of a pool that was uninstalled, as it is or as SQLite is told. -/
def Failure.Uninstalled : Failure → Prop
  | .vfs error => ∃ code, error = OpfsSAHError.uninstalled.vfsErr code
  | .pool error => error = .uninstalled
  | .slot _ => False

def Event.Vain (event : Event) (result : Outcome Failure Answer) : Prop :=
  (∃ failure, result = .err failure ∧ failure.Uninstalled) ∨ result = .ok .done ∨
    ∃ name, event = .fullPathname name

theorem checkState_removed (removed : w.state = .removed) :
    checkState.run w = (.err .uninstalled, w) := by
  unfold checkState
  rw [Prog.get_bind, removed]
  rfl

theorem checkActive_removed (removed : w.state = .removed) :
    checkActive.run w = (.err .uninstalled, w) :=
  Prog.bind_err (checkState_removed removed) _

theorem beginOperation_removed (removed : w.state = .removed) :
    beginOperation.run w = (.err .uninstalled, w) := by
  unfold beginOperation
  rw [Prog.get_bind, if_pos removed]
  rfl

theorem uninstall_removed (removed : w.state = .removed) : uninstall.run w = (.ok (), w) := by
  unfold uninstall
  rw [Prog.get_bind, if_pos removed]
  rfl

theorem fullPathname_stays (name : String) (w : World) :
    (∃ error, (VfsStore.fullPathname name).run w = (.err error, w)) ∨
      (VfsStore.fullPathname name).run w = (.ok name, w) := by
  unfold VfsStore.fullPathname
  rcases validateFilename name with error | ⟨⟩
  · exact .inl ⟨_, rfl⟩
  · exact .inr rfl

theorem withFile_nothing (shut : s.files = []) (i : Nat) (use : VfsFile → SystemM Answer) :
    (withFile i use).run s = (.ok .done, s) := by
  unfold withFile
  rw [Prog.get_bind, shut]
  rfl

theorem withTransfer_nothing (alone : s.operations = []) (i : Nat)
    (use : Operation → SystemM Answer) : (withTransfer i use).run s = (.ok .done, s) := by
  unfold withTransfer
  rw [Prog.get_bind, alone]
  rfl

theorem Event.program_removed (removed : s.world.state = .removed) (shut : s.files = [])
    (alone : s.operations = []) (event : Event) :
    ∃ result, event.program.run s = (result, s) ∧ event.Vain result := by
  have inactive := checkActive_removed removed
  have begins := beginOperation_removed removed
  have refused {α ε : Type} {x : Prog World ε α} {error : ε} (fail : ε → Failure)
      (vain : (fail error).Uninstalled) (run : x.run s.world = (.err error, s.world))
      (f : α → SystemM Answer) :
      ∃ result, (onWorld fail x >>= f).run s = (result, s) ∧ event.Vain result :=
    ⟨_, onWorld_err fail run f, .inl ⟨_, rfl, vain⟩⟩
  have file (i : Nat) (use : VfsFile → SystemM Answer) :
      ∃ result, (withFile i use).run s = (result, s) ∧ event.Vain result :=
    ⟨_, withFile_nothing shut i use, .inr (.inl rfl)⟩
  have transfer (i : Nat) (use : Operation → SystemM Answer) :
      ∃ result, (withTransfer i use).run s = (result, s) ∧ event.Vain result :=
    ⟨_, withTransfer_nothing alone i use, .inr (.inl rfl)⟩
  cases event with
  | openFile request => exact refused .vfs ⟨_, rfl⟩ (Prog.mapErr_err (Prog.bind_err inactive _) _) _
  | call i made => exact file i _
  | closeFile i => exact file i _
  | deleteFile name =>
    have run : (Sahpool.deleteFile name).run s.world = (.err .uninstalled, s.world) :=
      Prog.bind_err inactive _
    exact refused .vfs ⟨_, rfl⟩ (Prog.bind_err (Prog.mapErr_err run _) _) _
  | access name => exact refused .vfs ⟨_, rfl⟩ (Prog.bind_err (Prog.mapErr_err inactive _) _) _
  | fullPathname name =>
    rcases fullPathname_stays name s.world with ⟨error, run⟩ | run
    · exact ⟨_, onWorld_err .vfs run _, .inr (.inr ⟨name, rfl⟩)⟩
    · exact ⟨_, onWorld_ok .vfs run _, .inr (.inr ⟨name, rfl⟩)⟩
  | remove name => exact refused .pool rfl (Prog.bind_err inactive _) _
  | contains name => exact refused .pool rfl (Prog.bind_err inactive _) _
  | names => exact refused .pool rfl (Prog.bind_err inactive _) _
  | len => exact refused .pool rfl (Prog.bind_err inactive _) _
  | createImport name size => exact refused .pool rfl (Prog.bind_err inactive _) _
  | importWrite i offset bytes => exact transfer i _
  | commit i => exact transfer i _
  | abort i => exact transfer i _
  | abortWithError i error => exact transfer i _
  | dropImport i => exact transfer i _
  | openExport name => exact refused .pool rfl (Prog.bind_err inactive _) _
  | exportRead i offset buf => exact transfer i _
  | dropExport i => exact transfer i _
  | addCapacity n => exact refused .pool rfl (Prog.bind_err inactive _) _
  | ensureCapacity min => exact refused .pool rfl (Prog.bind_err inactive _) _
  | reduceCapacity n => exact refused .pool rfl (Prog.bind_err inactive _) _
  | resume => exact refused .pool rfl (Prog.bind_err begins _) _
  | poll i => exact transfer i _
  | cancel i => exact transfer i _
  | pause => exact refused .pool rfl (Prog.bind_err begins _) _
  | clear => exact refused .pool rfl (Prog.bind_err (checkState_removed removed) _) _
  | uninstall => exact ⟨_, onWorld_ok .pool (uninstall_removed removed) _, .inr (.inl rfl)⟩

structure System.Gone (s : System) : Prop where
  files : s.files = []
  operations : s.operations = []
  held : s.world.held = []
  lease : s.world.lease = false

theorem Good.gone (good : Good mode s g) (removed : s.world.state = .removed) : s.Gone := by
  have inactive : s.world.state ≠ .active := fun active => by cases removed.symm.trans active
  have unloaded : g.loaded = false := Bool.eq_false_iff.mpr fun loaded =>
    inactive (good.loaded.mp loaded)
  obtain ⟨available, names, quarantined⟩ := good.rep.unloaded unloaded
  refine ⟨good.files_of_inactive inactive, ?_, ?_, ?_⟩
  · have duties := good.duties
    rcases operations : s.operations with _ | ⟨operation, _ | ⟨next, rest⟩⟩
    · rfl
    · rw [operations] at duties
      cases operation with
      | importing target =>
        obtain ⟨-, file, filename, data, -, importing⟩ := duties
        exact absurd importing.active inactive
      | exporting source =>
        obtain ⟨-, file, name, size, -, exporting⟩ := duties
        exact absurd exporting.active inactive
      | adding growth => exact absurd duties.2.1.active inactive
      | reducing shrink => exact absurd duties.2.1.active inactive
      | resuming resuming => cases removed.symm.trans duties.2.1.paused
    · rw [operations] at duties
      exact duties.elim
  · unfold World.held
    rw [available, names, quarantined]
    rfl
  · exact Bool.eq_false_iff.mpr fun leased => inactive (good.lease.mp leased)

theorem Worker.callPool_run {system : System} (there : worker.pools[i]? = some pool)
    (ran : pool.system.run ⟨⟨env, worker.registry⟩, event⟩ = (result, system)) :
    worker.callPool env i event = (answered result, worker.record i pool system) := by
  unfold Worker.callPool
  rw [there]
  dsimp only
  rw [ran]
  cases result with
  | ok answer => rfl
  | err error => rfl
  | halt why => rfl

theorem Worker.Good.callPool_removed (good : worker.Good) (there : worker.pools[i]? = some pool)
    (removed : pool.system.world.state = .removed) (env : Env) (event : Event) :
    ∃ result pool', worker.callPool env i event =
        (answered result, { worker with pools := worker.pools.set i pool' }) ∧
      event.Vain result ∧ pool.Rests pool' := by
  obtain ⟨g, pool_good⟩ := good.pools i pool there
  obtain ⟨shut, alone, -, -⟩ := pool_good.gone removed
  obtain ⟨result, ran, vain⟩ := Event.program_removed
    (s := pool.system.facing ⟨env, worker.registry⟩) removed shut alone event
  have call : pool.system.run ⟨⟨env, worker.registry⟩, event⟩ =
      (result, (pool.system.facing ⟨env, worker.registry⟩).silenced) :=
    congrArg (fun r => (r.1, r.2.silenced)) ran
  refine ⟨result, { pool with system := (pool.system.facing ⟨env, worker.registry⟩).silenced },
    (Worker.callPool_run there call).trans ?_, vain, ?_⟩
  · have same : (pool.system.facing ⟨env, worker.registry⟩).silenced.world.registration =
        pool.system.world.registration := rfl
    rw [Worker.record_kept same]
    rfl
  · exact ⟨rfl, rfl, ⟨rfl, rfl, rfl, rfl⟩, rfl, rfl, rfl, fun _ _ found => found⟩

/-! ## Registered pools -/

/-- Other code registers and unregisters VFSs of its own. -/
def Occasion.Fair (worker : Worker) (occasion : Occasion) : Prop :=
  occasion.Allowed worker ∧
    ∀ pointer, occasion.request = .unregister pointer → pointer ∉ worker.allocated

def Lists (registry : List Vfs) (vfs : Nat) : Prop := ∃ entry ∈ registry, entry.pointer = vfs

def Worker.Shown (worker : Worker) : Prop :=
  ∀ (i : Nat) (pool : Pool) (vfs : Nat), worker.pools[i]? = some pool →
    pool.system.world.registration = some vfs → pool.system.world.state = .active →
    Lists worker.registry vfs

theorem lists_promoted {defaultVfs : Bool} (vfs : Nat) {other : Nat}
    (listed : Lists w.registry other) :
    Lists (if defaultVfs then w.promoted vfs else w.registry) other := by
  unfold World.promoted
  cases defaultVfs with
  | false => exact listed
  | true =>
    by_cases active : w.state = .active
    · rw [if_pos rfl, if_pos active]
      exact LinkedList.listed_link listed
    · rw [if_pos rfl, if_neg active]
      exact listed

theorem Worker.Shown.set (shown : worker.Shown) (good : worker.Good)
    (there : worker.pools[i]? = some pool) {system : System}
    (pools : worker'.pools = worker.pools.set i { pool with system })
    (own : ∀ vfs, system.world.registration = some vfs → system.world.state = .active →
      Lists worker'.registry vfs)
    (others : ∀ vfs, pool.system.world.registration ≠ some vfs → Lists worker.registry vfs →
      Lists worker'.registry vfs) : worker'.Shown := by
  intro j now vfs here owned active
  rw [pools] at here
  rcases (pools_set there).mp here with ⟨rfl, rfl⟩ | ⟨different, here⟩
  · exact own vfs owned active
  · refine others vfs (fun same => ?_) (shown j now vfs here owned active)
    exact different (good.owners j i now pool vfs here there owned same)

theorem Worker.Shown.recorded (shown : worker.Shown) (good : worker.Good)
    (there : worker.pools[i]? = some pool) {system : System}
    (shifts : Shifts event result (pool.system.world.facing ⟨env, worker.registry⟩) system.world) :
    (worker.record i pool system).Shown := by
  refine shown.set good there (Worker.record_pools system) ?_ ?_
  · intro vfs owned active
    rw [Worker.record_registry]
    cases shifts with
    | stays same =>
      rw [same.registry]
      exact shown i pool vfs there (same.registration.symm.trans owned)
        (same.state.symm.trans active)
    | pauses vfs' running mine after => cases active.symm.trans after.state
    | resumes vfs' paused mine unrivalled after =>
      obtain rfl := Option.some.inj ((after.registration.trans mine).symm.trans owned)
      rw [after.registry]
      exact ⟨_, LinkedList.mem_link.mpr (.inl rfl), rfl⟩
    | uninstalls vfs' asked done present mine after => cases active.symm.trans after.state
  · intro vfs foreign listed
    rw [Worker.record_registry]
    cases shifts with
    | stays same =>
      rw [same.registry]
      exact listed
    | pauses vfs' running mine after =>
      rw [after.registry]
      exact LinkedList.listed_unlink (fun same => foreign (by rw [same]; exact mine)) listed
    | resumes vfs' paused mine unrivalled after =>
      rw [after.registry]
      exact LinkedList.listed_link listed
    | uninstalls vfs' asked done present mine after =>
      rw [after.registry]
      exact LinkedList.listed_unlink (fun same => foreign (by rw [same]; exact mine)) listed

theorem Worker.Turn.shown (turn : Worker.Turn worker env request outcome worker')
    (good : worker.Good) (fair : Occasion.Fair worker ⟨env, request⟩) (shown : worker.Shown) :
    worker'.Shown := by
  cases turn with
  | idle => exact shown
  | called i event result pool system there ran returns =>
    obtain ⟨g, pool_good⟩ := good.pools i pool there
    obtain ⟨-, env', shifts⟩ := pool_good.shifts ran returns
    exact shown.recorded good there shifts
  | kept request error i pool w there consulted =>
    obtain ⟨⟨env', rfl⟩, -⟩ := consulted
    refine shown.set good there (Worker.record_pools _) ?_ ?_
    · intro vfs owned active
      rw [Worker.record_registry]
      exact shown i pool vfs there owned active
    · intro vfs foreign listed
      rw [Worker.record_registry]
      exact listed
  | reused request directory i pool w normalized named there same result =>
    obtain ⟨-, -, vfs, env', owned, -, -, rfl⟩ := result
    refine shown.set good there (Worker.record_pools _) ?_ ?_
    · intro vfs' owned' active
      rw [Worker.record_registry]
      refine lists_promoted (w := pool.system.world.facing ⟨env, worker.registry⟩) vfs ?_
      exact shown i pool vfs' there owned' active
    · intro vfs' foreign listed
      rw [Worker.record_registry]
      exact lists_promoted (w := pool.system.world.facing ⟨env, worker.registry⟩) vfs listed
  | begun => exact shown
  | polled => exact shown
  | published pending w there run registers =>
    intro j now vfs here owned active
    change Lists w.registry vfs
    rw [registers.registry]
    rcases pools_snoc.mp here with here | ⟨-, rfl⟩
    · exact LinkedList.listed_link (shown j now vfs here owned active)
    · have before := good.pending pending there
      have lax : ∀ reply ∈ (pending.world.facing ⟨env, worker.registry⟩).env.replies,
          reply.Allowed .lax := fun reply _ => reply.allowed_lax
      obtain ⟨g, installed⟩ := (pollInstall_ends (before.installs.facing lax) lax).ok run
      obtain rfl := Option.some.inj (installed.registration.symm.trans owned)
      exact ⟨_, LinkedList.mem_link.mpr (.inl rfl), rfl⟩
  | ended => exact shown
  | registered vfs makeDflt =>
    exact fun j now vfs' here owned active =>
      LinkedList.listed_link (shown j now vfs' here owned active)
  | unregistered pointer =>
    intro j now vfs here owned active
    refine LinkedList.listed_unlink ?_ (shown j now vfs here owned active)
    rintro rfl
    exact fair.2 vfs rfl ((good.allocated vfs).mpr (.inr ⟨j, now, here, owned⟩))
  | appeared i file =>
    unfold Worker.appear
    rcases there : worker.pools[i]? with _ | pool
    · exact shown
    · have same : SameStanding pool.system.world (createEntry file pool.system.world) :=
        createEntry_standing file pool.system.world
      refine shown.set good there rfl ?_ fun vfs _ listed => listed
      intro vfs owned active
      exact shown i pool vfs there (same.registration.symm.trans owned)
        (same.state.symm.trans active)

/-! ## The VFSs of other code -/

def Request.Raw : Request → Prop
  | .register _ _ | .unregister _ => True
  | _ => False

theorem Worker.record_allocated (system : System) :
    (worker.record i pool system).allocated = worker.allocated := by
  unfold Worker.record
  split <;> rfl

theorem Shifts.foreign {w' : World} (shifts : Shifts event result w w') {entry : Vfs}
    (foreign : w.registration ≠ some entry.pointer) :
    entry ∈ w'.registry ↔ entry ∈ w.registry := by
  cases shifts with
  | stays same => rw [same.registry]
  | pauses vfs active owned after =>
    rw [after.registry]
    exact LinkedList.mem_unlink_of_ne fun same => foreign (by rw [same]; exact owned)
  | resumes vfs paused owned unrivalled after =>
    rw [after.registry]
    exact LinkedList.mem_link_of_ne fun same => foreign (by rw [same]; exact owned)
  | uninstalls vfs asked answered present owned after =>
    rw [after.registry]
    exact LinkedList.mem_unlink_of_ne fun same => foreign (by rw [same]; exact owned)

/-- No request of ours registers or unregisters a VFS of other code. -/
theorem Worker.Turn.foreign (turn : Worker.Turn worker env request outcome worker')
    (good : worker.Good) (ours : ¬ request.Raw) {entry : Vfs}
    (foreign : entry.pointer ∉ worker'.allocated) :
    entry ∈ worker'.registry ↔ entry ∈ worker.registry := by
  have unowned {i : Nat} {pool : Pool} (there : worker.pools[i]? = some pool)
      (same : worker'.allocated = worker.allocated) :
      pool.system.world.registration ≠ some entry.pointer := by
    rw [same] at foreign
    exact fun owned => foreign ((good.allocated _).mpr (.inr ⟨i, pool, there, owned⟩))
  cases turn with
  | idle => exact .rfl
  | called i event result pool system there ran returns =>
    obtain ⟨g, pool_good⟩ := good.pools i pool there
    obtain ⟨-, env', shifts⟩ := pool_good.shifts ran returns
    rw [Worker.record_registry]
    exact shifts.foreign (unowned there (Worker.record_allocated system))
  | kept request error i pool w there consulted =>
    obtain ⟨⟨env', rfl⟩, -⟩ := consulted
    rw [Worker.record_registry]
    exact .rfl
  | reused request directory i pool w normalized named there same result =>
    have apart := unowned there (Worker.record_allocated _)
    obtain ⟨-, -, vfs, env', owned, -, -, rfl⟩ := result
    rw [Worker.record_registry]
    change entry ∈ (if request.defaultVfs then World.promoted _ vfs else worker.registry) ↔ _
    unfold World.promoted
    split
    · split
      · exact LinkedList.mem_link_of_ne fun same => apart (by rw [same]; exact owned)
      · exact .rfl
    · exact .rfl
  | begun => exact .rfl
  | polled => exact .rfl
  | published pending w there run registers =>
    have before := good.pending pending there
    have lax : ∀ reply ∈ (pending.world.facing ⟨env, worker.registry⟩).env.replies,
        reply.Allowed .lax := fun reply _ => reply.allowed_lax
    obtain ⟨g, installed⟩ := (pollInstall_ends (before.installs.facing lax) lax).ok run
    change entry ∈ w.registry ↔ _
    rw [registers.registry]
    refine LinkedList.mem_link_of_ne fun same => foreign ?_
    change entry.pointer ∈ worker.allocated ++ w.registration.toList
    rw [installed.registration, same]
    exact List.mem_append_right _ (List.mem_singleton_self _)
  | ended => exact .rfl
  | registered => exact absurd trivial ours
  | unregistered => exact absurd trivial ours
  | appeared i file =>
    unfold Worker.appear
    split <;> exact .rfl

/-! ## The memory of a registration -/

def Request.Uninstalls (worker : Worker) (request : Request) (outcome : WorkerOutcome) (vfs : Nat) :
    Prop :=
  ∃ i pool, request = .pool i .uninstall ∧ outcome = .ok (.answer .done) ∧
    worker.pools[i]? = some pool ∧ pool.system.world.registration = some vfs

theorem Worker.record_spares {system : System}
    (same : system.world.registration = pool.system.world.registration) :
    (worker.record i pool system).freed = worker.freed := by
  rw [Worker.record_kept same]

/-- A call on a pool keeps its registration, or frees it. -/
theorem Worker.record_cases {system : System}
    (shifts : Shifts event result (pool.system.world.facing ⟨env, worker.registry⟩) system.world) :
    ((worker.record i pool system).freed = worker.freed ∧
      system.world.registration = pool.system.world.registration) ∨
    ∃ vfs, event = .uninstall ∧ result = .ok .done ∧
      pool.system.world.registration = some vfs ∧ system.world.registration = none ∧
      (worker.record i pool system).freed = worker.freed ++ [vfs] := by
  cases shifts with
  | stays same => exact .inl ⟨Worker.record_spares same.registration, same.registration⟩
  | pauses vfs active owned after =>
    exact .inl ⟨Worker.record_spares after.registration, after.registration⟩
  | resumes vfs paused owned unrivalled after =>
    exact .inl ⟨Worker.record_spares after.registration, after.registration⟩
  | uninstalls vfs asked done present owned after =>
    refine .inr ⟨vfs, asked, done, owned, after.registration, ?_⟩
    rw [Worker.record_freed owned after.registration]

/-- Memory is freed by a successful uninstallation, and by nothing else. -/
theorem Worker.Turn.freed (turn : Worker.Turn worker env request outcome worker')
    (good : worker.Good) : worker'.freed = worker.freed ∨
      ∃ vfs, request.Uninstalls worker outcome vfs ∧ worker'.freed = worker.freed ++ [vfs] := by
  cases turn with
  | called i event result pool system there ran returns =>
    obtain ⟨g, pool_good⟩ := good.pools i pool there
    obtain ⟨-, env', shifts⟩ := pool_good.shifts ran returns
    rcases Worker.record_cases shifts with ⟨same, -⟩ | ⟨vfs, rfl, rfl, owned, -, after⟩
    · exact .inl same
    · exact .inr ⟨vfs, ⟨i, pool, rfl, rfl, there, owned⟩, after⟩
  | kept request error i pool w there consulted =>
    obtain ⟨⟨env', rfl⟩, -⟩ := consulted
    exact .inl (Worker.record_spares rfl)
  | reused request directory i pool w normalized named there same result =>
    obtain ⟨-, -, vfs, env', -, -, -, rfl⟩ := result
    exact .inl (Worker.record_spares rfl)
  | appeared i file =>
    unfold Worker.appear
    split <;> exact .inl rfl
  | _ => exact .inl rfl

theorem Worker.Turn.registration (turn : Worker.Turn worker env request outcome worker')
    (good : worker.Good) (there : worker.pools[i]? = some pool) :
    ∃ pool', worker'.pools[i]? = some pool' ∧
      (pool'.system.world.registration = pool.system.world.registration ∨
        ∃ vfs, pool.system.world.registration = some vfs ∧
          pool'.system.world.registration = none ∧ vfs ∈ worker'.freed) := by
  obtain ⟨pool', here, goes⟩ := turn.goes there
  refine ⟨pool', here, ?_⟩
  rcases goes.how with ⟨event, rfl, -⟩ | rests
  · cases turn with
    | idle =>
      obtain rfl := Option.some.inj (there.symm.trans here)
      exact .inl rfl
    | called _ _ result other system there' ran returns =>
      obtain rfl := Option.some.inj (there.symm.trans there')
      rw [Worker.record_pools] at here
      rcases (pools_set there).mp here with ⟨-, rfl⟩ | ⟨different, -⟩
      · obtain ⟨g, pool_good⟩ := good.pools i pool there
        obtain ⟨-, env', shifts⟩ := pool_good.shifts ran returns
        rcases Worker.record_cases shifts with ⟨-, same⟩ | ⟨vfs, -, -, owned, gone, after⟩
        · exact .inl same
        · refine .inr ⟨vfs, owned, gone, ?_⟩
          rw [after]
          exact List.mem_append_right _ (List.mem_singleton_self vfs)
      · exact absurd rfl different
    | ended _ _ unanswered ends => rcases ends with impossible | impossible <;> cases impossible
  · exact .inl rests.registration

/-- The pool was handed out with this VFS, which it owns until that is freed. -/
def Worker.Lends (worker : Worker) (i vfs : Nat) : Prop :=
  ∃ pool, worker.pools[i]? = some pool ∧ (pool.system.world.registration = some vfs ∨
    (pool.system.world.registration = none ∧ vfs ∈ worker.freed))

theorem Worker.Turn.lends (turn : Worker.Turn worker env request outcome worker')
    (good : worker.Good) (lends : worker.Lends i vfs) : worker'.Lends i vfs := by
  obtain ⟨pool, there, owned⟩ := lends
  obtain ⟨pool', here, same | ⟨vfs', owned', gone, freed⟩⟩ := turn.registration good there
  · refine ⟨pool', here, ?_⟩
    rw [same]
    refine owned.imp_right fun gone => ⟨gone.1, ?_⟩
    rcases turn.freed good with kept | ⟨other, -, more⟩
    · rw [kept]
      exact gone.2
    · rw [more]
      exact List.mem_append_left _ gone.2
  · rcases owned with owned | ⟨none, -⟩
    · obtain rfl := Option.some.inj (owned.symm.trans owned')
      exact ⟨pool', here, .inr ⟨gone, freed⟩⟩
    · cases none.symm.trans owned'

/-! ## One request -/

theorem Stopping.not_uninstall (stopping : Stopping s .uninstall w) : False := by
  cases stopping with
  | adding event w adding => cases adding

theorem Turn.uninstall_done {s' : System} {g' : Ledger}
    (turn : Turn mode s g .uninstall (.ok .done) s' g') (present : s.world.state ≠ .removed) :
    s'.world.registration = none := by
  cases turn with
  | idle _ removed => exact absurd removed present
  | looked _ _ w' query => exact query.elim
  | deleted _ name answer w' _ deletes =>
      rcases deletes with impossible | impossible <;> cases impossible
  | unimported _ i _ file filename data w' _ ends =>
    rcases ends with impossible | impossible | ⟨error, impossible⟩ | impossible <;> cases impossible
  | givenUp _ w _ w' stopping => exact stopping.not_uninstall.elim
  | unresumed _ i _ resuming w' _ stops =>
    rcases stops with impossible | impossible <;> cases impossible
  | uninstalled w' result rep =>
    obtain ⟨pointer, env, -, -, rfl⟩ := result.result
    rfl

/-- A successful uninstallation frees the registration of the pool. -/
theorem Worker.Good.uninstalled (good : worker.Good) (there : worker.pools[i]? = some pool)
    (owned : pool.system.world.registration = some vfs)
    (run : worker.callPool env i .uninstall = (.ok (.answer .done), worker')) :
    worker'.freed = worker.freed ++ [vfs] := by
  obtain ⟨g, pool_good⟩ := good.pools i pool there
  rcases ran : pool.system.run ⟨⟨env, worker.registry⟩, .uninstall⟩ with ⟨result, system⟩
  obtain ⟨answer, rfl⟩ := Prod.mk.inj ((Worker.callPool_run there ran).symm.trans run)
  have done : result = .ok .done := by
    cases result with
    | ok value =>
      injection answer with same
      injection same with same
      rw [same]
    | err error => cases answer
    | halt why => cases answer
  subst done
  have returns (why : Halt) : (Outcome.ok .done : Outcome Failure Answer) ≠ .halt why := nofun
  have present : pool.system.world.state ≠ .removed := fun removed => by
    cases owned.symm.trans (pool_good.registration.mp removed)
  obtain ⟨outcome, g', again, ⟨around, s₂, answers, -, turn, rfl⟩, -⟩ :=
    pool_good.step (Moment.allowed_lax _) ⟨_, ran, returns⟩
  obtain rfl : outcome = .ok .done := congrArg Prod.fst (again.symm.trans ran)
  obtain ⟨-, env', shifts⟩ := pool_good.shifts ran returns
  rcases Worker.record_cases shifts with ⟨-, same⟩ | ⟨vfs', -, -, owned', -, freed⟩
  · have gone : s₂.world.registration = none := turn.uninstall_done present
    cases (same.trans owned).symm.trans gone
  · obtain rfl := Option.some.inj (owned.symm.trans owned')
    exact freed

theorem Worker.Turn.stays_removed (turn : Worker.Turn worker env request outcome worker')
    (good : worker.Good) (there : worker.pools[i]? = some pool)
    (removed : pool.system.world.state = .removed) :
    ∃ pool', worker'.pools[i]? = some pool' ∧ pool'.system.world.state = .removed := by
  obtain ⟨pool', here, goes⟩ := turn.goes there
  refine ⟨pool', here, ?_⟩
  rcases goes.how with ⟨event, -, result, ran, returns⟩ | rests
  · obtain ⟨g, pool_good⟩ := good.pools i pool there
    obtain ⟨-, env', shifts⟩ := pool_good.shifts ran returns
    exact shifts.stays_removed removed
  · exact rests.state.trans removed

/-- Only a pool of ours is handed out, and no other VFS answered to its name. -/
theorem Worker.Turn.unrivalled (good : worker.Good)
    (turn : Worker.Turn worker env request (.ok (.handle i)) worker') :
    ∃ pool vfs, worker'.pools[i]? = some pool ∧ pool.system.world.registration = some vfs ∧
      ∀ entry, found worker.registry pool.system.world.name = some entry → entry = vfs := by
  generalize same : (Outcome.ok (.handle i) : WorkerOutcome) = outcome at turn
  cases turn with
  | idle _ _ unanswered => exact absurd same.symm (unanswered i)
  | called _ _ result => cases result <;> cases same
  | ended _ _ unanswered ends => exact absurd same.symm (unanswered i)
  | reused install directory j pool w normalized named there _ result =>
    cases same
    obtain ⟨-, -, vfs, env', owned, single, -, eq⟩ := result
    refine ⟨{ pool with system := { pool.system with world := w.silenced } }, vfs, ?_, ?_, ?_⟩
    · rw [Worker.record_pools]
      exact (pools_set there).mpr (.inl ⟨rfl, rfl⟩)
    · rw [eq]
      exact owned
    · rw [eq]
      exact single
  | published pending w there run registers =>
    cases same
    have before := good.pending pending there
    have lax : ∀ reply ∈ (pending.world.facing ⟨env, worker.registry⟩).env.replies,
        reply.Allowed .lax := fun reply _ => reply.allowed_lax
    obtain ⟨g, installed⟩ := (pollInstall_ends (before.installs.facing lax) lax).ok run
    refine ⟨_, _, pools_snoc.mpr (.inr ⟨rfl, rfl⟩), installed.registration, fun entry here => ?_⟩
    have free : found worker.registry pending.world.name = none := registers.free
    have name : w.silenced.name = pending.world.name := registers.name
    dsimp only at here
    rw [name, free] at here
    cases here
  | _ => cases same

structure Worker.Minds (worker : Worker) (occasion : Occasion) (outcome : WorkerOutcome)
    (worker' : Worker) : Prop where
  foreign : ¬ occasion.request.Raw → ∀ entry : Vfs, entry.pointer ∉ worker'.allocated →
    (entry ∈ worker'.registry ↔ entry ∈ worker.registry)
  own : ∀ i, outcome = .ok (.handle i) → ∃ pool vfs, worker'.pools[i]? = some pool ∧
    pool.system.world.registration = some vfs ∧
    ∀ entry, found worker.registry pool.system.world.name = some entry → entry = vfs
  freed : worker'.freed = worker.freed ∨
    ∃ vfs, occasion.request.Uninstalls worker outcome vfs ∧ worker'.freed = worker.freed ++ [vfs]
  uninstalled : ∀ vfs, occasion.request.Uninstalls worker outcome vfs →
    worker'.freed = worker.freed ++ [vfs]
  removed : ∀ (i : Nat) (pool : Pool), worker.pools[i]? = some pool →
    pool.system.world.state = .removed →
    (∃ pool', worker'.pools[i]? = some pool' ∧ pool'.system.world.state = .removed) ∧
    ∀ event, occasion.request = .pool i event → ∃ result pool', outcome = answered result ∧
      event.Vain result ∧ worker' = { worker with pools := worker.pools.set i pool' } ∧
      pool.Rests pool'

theorem Worker.Good.minds (good : worker.Good) {occasion : Occasion}
    (run : worker.run occasion = (outcome, worker')) (returns : ∀ why, outcome ≠ .halt why) :
    worker.Minds occasion outcome worker' := by
  have turn := good.turned run returns
  refine ⟨fun ours entry foreign => turn.foreign good ours foreign, ?_, turn.freed good, ?_, ?_⟩
  · rintro i rfl
    exact turn.unrivalled good
  · rintro vfs ⟨i, pool, asked, rfl, there, owned⟩
    obtain ⟨env, request⟩ := occasion
    cases asked
    exact good.uninstalled there owned run
  · intro i pool there removed
    refine ⟨turn.stays_removed good there removed, fun event asked => ?_⟩
    obtain ⟨env, request⟩ := occasion
    cases asked
    obtain ⟨result, pool', ran, vain, rests⟩ := good.callPool_removed there removed env event
    obtain ⟨rfl, rfl⟩ := Prod.mk.inj (ran.symm.trans run)
    exact ⟨result, pool', rfl, vain, rfl, rests⟩

/-! ## Runs -/

structure Worker.Stands (worker : Worker) (i vfs : Nat) (pool : Pool) : Prop where
  there : worker.pools[i]? = some pool
  registered : worker.registeredPools.lookup pool.system.world.name = some i ↔ pool.Present
  listed : Lists worker.registry vfs ↔ pool.system.world.state = .active
  freed : worker.freed.count vfs = if pool.system.world.state = .removed then 1 else 0
  gone : pool.system.world.state = .removed → pool.system.Gone

theorem Worker.Lends.stands (lends : worker.Lends i vfs) (good : worker.Good)
    (shown : worker.Shown) : ∃ pool, worker.Stands i vfs pool := by
  obtain ⟨pool, there, owned⟩ := lends
  obtain ⟨g, pool_good⟩ := good.pools i pool there
  refine ⟨pool, there, ?_, ?_, ?_, pool_good.gone⟩
  · rw [good.registered]
    constructor
    · rintro ⟨other, here, -, present⟩
      obtain rfl := Option.some.inj (there.symm.trans here)
      exact present
    · exact fun present => ⟨pool, there, rfl, present⟩
  · constructor
    · rintro ⟨entry, member, rfl⟩
      rcases owned with owned | ⟨-, freed⟩
      · exact (good.owner there member owned).2
      · obtain ⟨j, other, here, living, -⟩ :=
          good.listed entry member ((good.allocated _).mpr (.inl freed))
        exact absurd freed (good.living j other entry.pointer here living)
    · intro active
      rcases owned with owned | ⟨none, -⟩
      · exact shown i pool vfs there owned active
      · cases active.symm.trans (pool_good.registration.mpr none)
  · rcases owned with owned | ⟨none, freed⟩
    · rw [if_neg fun removed => by cases owned.symm.trans (pool_good.registration.mp removed)]
      exact List.count_eq_zero_of_not_mem (good.living i pool vfs there owned)
    · rw [if_pos (pool_good.registration.mpr none)]
      exact List.count_eq_one_of_mem good.once freed

theorem shown_start : Worker.start.Shown := fun _ pool _ there =>
  absurd there.symm (Option.some_ne_none pool)

theorem WorkerRun.shown {log : List (Occasion × WorkerOutcome)}
    (runs : WorkerRun Occasion.Fair worker log worker') (good : worker.Good)
    (shown : worker.Shown) : worker'.Good ∧ worker'.Shown := by
  induction runs with
  | refl => exact ⟨good, shown⟩
  | snoc before here run returns ih =>
    have turn := ih.1.turned run returns
    exact ⟨turn.good ih.1 here.1, turn.shown ih.1 here ih.2⟩

theorem WorkerRun.lends {log : List (Occasion × WorkerOutcome)}
    (runs : WorkerRun Occasion.Fair worker log worker') (good : worker.Good)
    (lends : worker.Lends i vfs) : worker'.Lends i vfs := by
  induction runs with
  | refl => exact lends
  | snoc before here run returns ih =>
    have between := before.good good fun _ _ fair => fair.1
    exact (between.turned run returns).lends between ih

/-- In every run in which other code keeps to its own VFSs: the registered pools are the ones
that are not removed, and no two of them share a name or a directory; every request minds the
VFSs of others; and a pool that was handed out is listed while it is active, and its memory is
freed when it is removed. -/
theorem lifecycle_agrees (log : List (Occasion × WorkerOutcome)) (worker : Worker)
    (runs : WorkerRun Occasion.Fair .start log worker) :
    (∀ (name : String) (i : Nat), worker.registeredPools.lookup name = some i →
      ∃ pool, worker.pools[i]? = some pool ∧ pool.system.world.name = name ∧ pool.Present) ∧
    (∀ (i j : Nat) (pool other : Pool), worker.pools[i]? = some pool →
      worker.pools[j]? = some other → pool.Present → other.Present →
      (pool.system.world.name = other.system.world.name ∨ pool.directory = other.directory) →
        i = j) ∧
    ∀ (occasion : Occasion) (outcome : WorkerOutcome) (worker' : Worker), occasion.Fair worker →
      worker.run occasion = (outcome, worker') → (∀ why, outcome ≠ .halt why) →
        worker.Minds occasion outcome worker' ∧ ∀ i, outcome = .ok (.handle i) →
          ∃ vfs, ∀ (later : List (Occasion × WorkerOutcome)) (last : Worker),
            WorkerRun Occasion.Fair worker' later last → ∃ pool, last.Stands i vfs pool := by
  obtain ⟨good, shown⟩ := runs.shown good_start shown_start
  refine ⟨fun name i => (good.registered name i).mp, ?_, ?_⟩
  · rintro i j pool other there there' present present' (same | same)
    · have first := (good.registered _ i).mpr ⟨pool, there, same, present⟩
      have second := (good.registered _ j).mpr ⟨other, there', rfl, present'⟩
      exact Option.some.inj (first.symm.trans second)
    · exact good.directories i j pool other there there' present present' same
  · intro occasion outcome worker' fair run returns
    have minds := good.minds run returns
    refine ⟨minds, fun i handed => ?_⟩
    obtain ⟨pool, vfs, there, owned, -⟩ := minds.own i handed
    have turn := good.turned run returns
    have good' := turn.good good fair.1
    refine ⟨vfs, fun later last on => ?_⟩
    obtain ⟨last_good, last_shown⟩ := on.shown good' (turn.shown good fair shown)
    exact (on.lends good' ⟨pool, there, .inl owned⟩).stands last_good last_shown

set_option maxRecDepth 20000 in
theorem installed_run : ∃ log worker worker', WorkerRun Occasion.Fair .start log worker ∧
    polling.Fair worker ∧ worker.run polling = (.ok (.handle 0), worker') := by
  have fair {worker : Worker} : polling.Fair worker := ⟨trivial, nofun⟩
  have begun : WorkerRun Occasion.Fair .start ([] ++ [(installing 1 false, .ok .pending)]) _ :=
    .snoc .refl ⟨⟨List.not_mem_nil, fun _ member => absurd member List.not_mem_nil⟩, nofun⟩
      rfl nofun
  have root : WorkerRun _ _ (_ ++ [(polling, .ok .pending)]) _ := begun.snoc fair rfl nofun
  have directory : WorkerRun _ _ (_ ++ [(polling, .ok .pending)]) _ := root.snoc fair rfl nofun
  have lock : WorkerRun _ _ (_ ++ [(polling, .ok .pending)]) _ := directory.snoc fair rfl nofun
  have lease : WorkerRun _ _ (_ ++ [(polling, .ok .pending)]) _ := lock.snoc fair rfl nofun
  have slots : WorkerRun _ _ (_ ++ [(polling, .ok .pending)]) _ := lease.snoc fair rfl nofun
  exact ⟨_, _, _, slots, fair, rfl⟩

theorem lifecycle_agrees_installed : ∃ log worker vfs pool,
    WorkerRun Occasion.Fair .start log worker ∧ worker.Stands 0 vfs pool := by
  obtain ⟨log, worker, worker', runs, fair, run⟩ := installed_run
  obtain ⟨-, vfs, stands⟩ :=
    (lifecycle_agrees log worker runs).2.2 polling _ worker' fair run nofun |>.imp_right (· 0 rfl)
  obtain ⟨pool, stand⟩ := stands [] worker' .refl
  exact ⟨_, worker', vfs, pool, runs.snoc fair run nofun, stand⟩

end Sahpool

end SqliteVfs
