import SqliteVfs.Base.Preserves
import SqliteVfs.Sahpool.LoadingSpec

/-!
# Pausing, resuming and uninstalling

What the lifecycle calls do to a faithful pool and to SQLite's registry.  A pool that is
not active holds no slot; what its directory says is kept by the ledger meanwhile.
-/

set_option autoImplicit false

namespace SqliteVfs

namespace Sahpool

variable {mode : Mode} {w w' w'' : World} {g g' : Ledger} {file name : String}
  {content content' : SlotFile} {ε ε' α β τ : Type}

/-! ## Registration -/

/-- The surroundings may have answered, and SQLite's registry may have changed. -/
def World.Registered (mode : Mode) (w w' : World) : Prop :=
  ∃ env registry, (∀ reply ∈ env.replies, Reply.Allowed mode reply) ∧
    w' = { w with env, registry }

theorem Rep.registered (rep : Rep mode w g) (registered : w.Registered mode w') :
    Rep mode w' g := by
  obtain ⟨env, registry, allowed, rfl⟩ := registered
  exact { rep with allowed := allowed }

theorem sqliteCode_ends (allowed : ∀ reply ∈ w.env.replies, Reply.Allowed mode reply) :
    Prog.Ends sqliteCode w
      (fun code w' => w.Consulted mode w' ∧ ∀ c, code = some c → some c ∈ w.env.codes)
      (fun _ _ => False) fun _ => False := by
  unfold Prog.Ends Prog.wp sqliteCode
  dsimp only
  rcases w.env.codes with _ | ⟨code, rest⟩
  · exact ⟨.refl allowed, nofun⟩
  · refine ⟨⟨⟨_, rfl⟩, allowed⟩, ?_⟩
    rintro c rfl
    exact List.mem_cons_self

theorem vfsUnregister_ends (allowed : ∀ reply ∈ w.env.replies, Reply.Allowed mode reply)
    (pointer : Nat) : Prog.Ends (vfsUnregister pointer) w
      (fun code w' =>
        (code = none ∧ ∃ env : Env, (∀ reply ∈ env.replies, Reply.Allowed mode reply) ∧
          w' = { w with
            env, registry := w.registry.filter fun vfs => vfs.pointer ≠ pointer }) ∨
        ∃ c, code = some c ∧ some c ∈ w.env.codes ∧ w.Consulted mode w')
      (fun _ _ => False) fun _ => False := by
  unfold vfsUnregister
  refine Prog.Ends.bind (sqliteCode_ends allowed) ?_
  rintro code next ⟨consulted, why⟩
  cases code with
  | some code => exact Prog.Ends.pure (.inr ⟨code, rfl, why code rfl, consulted⟩)
  | none =>
      obtain ⟨⟨env, rfl⟩, allowed'⟩ := consulted
      exact Prog.Ends.modify_bind (Prog.Ends.pure (.inl ⟨rfl, env, allowed', rfl⟩))

def registering (registry : List Vfs) (vfs : Vfs) (default : Bool) : List Vfs :=
  match default, registry.filter fun other => other.pointer ≠ vfs.pointer with
  | true, others => vfs :: others
  | false, [] => [vfs]
  | false, first :: rest => first :: vfs :: rest

theorem vfsRegister_ends (allowed : ∀ reply ∈ w.env.replies, Reply.Allowed mode reply)
    (pointer : Nat) (default : Bool) : Prog.Ends (vfsRegister pointer default) w
      (fun code w' =>
        (code = none ∧ ∃ env : Env, (∀ reply ∈ env.replies, Reply.Allowed mode reply) ∧
          w' = { w with env, registry := registering w.registry ⟨pointer, w.name⟩ default }) ∨
        ∃ c, code = some c ∧ some c ∈ w.env.codes ∧ w.Consulted mode w')
      (fun _ _ => False) fun _ => False := by
  unfold vfsRegister
  refine Prog.Ends.bind (sqliteCode_ends allowed) ?_
  rintro code next ⟨consulted, why⟩
  cases code with
  | some code => exact Prog.Ends.pure (.inr ⟨code, rfl, why code rfl, consulted⟩)
  | none =>
      obtain ⟨⟨env, rfl⟩, allowed'⟩ := consulted
      exact Prog.Ends.modify_bind (Prog.Ends.pure (.inl ⟨rfl, env, allowed', rfl⟩))

def found (registry : List Vfs) (name : String) : Option Nat :=
  (registry.find? fun vfs => vfs.name = name).map Vfs.pointer

theorem registeredVfs_run (readable : 0 ∉ nameBytes name) :
    (registeredVfs name).run w = (.ok (found w.registry name), w) := by
  unfold registeredVfs
  rw [if_neg readable]
  rfl

/-! ## What SQLite will answer -/

section

open Prog (Preserves)

variable {kept : World → Prop} {dies : Prop}

structure LoadsPreserving (kept : World → Prop) (dies : Prop) : Prop where
  reserves : Preserves kept dies tryReserve
  waits : Preserves kept dies (directoryCall id)
  reads : ∀ file, Preserves kept dies (onSlot file (SyncAccessFile.associatedFilename file))
  measures : ∀ file, Preserves kept dies (onSlot file (SyncAccessFile.physicalSize file))
  initializes : ∀ file, Preserves kept dies (onSlot file SyncAccessFile.initializeSlot)
  erases : ∀ file, Preserves kept dies (associate file none 0)
  counts : ∀ w openCount, kept w → kept { w with openCount }
  publishes : ∀ w mapFilenameToFile availableFiles needsRecovery, kept w →
    kept { w with mapFilenameToFile, availableFiles, needsRecovery }

namespace LoadsPreserving

variable (loads : LoadsPreserving kept dies)

include loads

theorem classify (clear : Bool) (files : List String) : ∀ assigned available,
    Preserves kept dies (classify clear assigned available files) := by
  induction files with
  | nil => exact fun _ _ => .pure _
  | cons file rest ih =>
      intro assigned available
      have unnamed := ih assigned (available ++ [file])
      have named (filename : String) : Preserves kept dies (
          if filename ∈ assigned then Prog.fail (.duplicateFilename filename)
          else Sahpool.classify clear (assigned.insert filename file) available rest) :=
        .ite (fun _ => .fail _) fun _ => ih _ _
      cases clear with
      | true => exact unnamed
      | false =>
        refine (loads.reads file).bind fun found => ?_
        cases found with
        | none => exact unnamed
        | some filename => exact named filename

theorem resetSlots (clear : Bool) (files : List String) :
    Preserves kept dies (resetSlots clear files) := by
  induction files with
  | nil => exact .pure _
  | cons file rest ih =>
      have reset (incomplete : Bool) : Preserves kept dies ((if incomplete then
          onSlot file SyncAccessFile.initializeSlot else associate file none 0) >>= fun _ =>
            Sahpool.resetSlots clear rest) :=
        (Preserves.ite (fun _ => loads.initializes file) fun _ => loads.erases file).bind fun _ =>
        ih
      cases clear with
      | true => exact reset false
      | false =>
          refine (loads.measures file).bind fun size => ?_
          rw [Prog.pure_bind]
          by_cases short : size < headerOffsetData
          · rw [decide_eq_true short]
            exact reset true
          · rw [decide_eq_false short]
            exact reset false

theorem poll (loading : Loading) : Preserves kept dies loading.poll := by
  obtain ⟨clear, entries, acquired, point⟩ := loading
  cases point with
  | listing =>
      refine loads.waits.mapErr.bind fun _ => ?_
      cases entries with
      | nil =>
          refine .bind ?_ fun _ => .pure _
          exact loads.reserves.bind fun _ => loads.reserves.bind fun _ =>
            (loads.classify _ _ _ _).bind fun _ => (loads.resetSlots _ _).bind fun _ =>
              .modify fun w before => loads.publishes w _ _ _ before
      | cons file entries => exact loads.reserves.bind fun _ => .pure _
  | acquiring file =>
      refine .bind (loads.waits.mapErr.bind fun _ => ?_) fun _ => .pure _
      exact .modify fun w before => loads.counts w _ before

end LoadsPreserving

def World.codes (w : World) : List (Option VfsErrorCode) := w.env.codes

variable {codes : List (Option VfsErrorCode)}

theorem onSlot_codes (file : String) (x : SlotM ε α) :
    Preserves (fun w => w.codes = codes) True (onSlot file x) := by
  intro w before
  refine ⟨?_, fun _ => trivial⟩
  unfold onSlot
  dsimp only
  split <;> exact before

theorem tryReserve_codes : Preserves (fun w => w.codes = codes) True tryReserve := by
  intro w before
  refine ⟨?_, fun _ => trivial⟩
  unfold tryReserve
  dsimp only
  split <;> exact before

theorem waiting_codes : Preserves (fun w => w.codes = codes) True (directoryCall id) := by
  intro w before
  refine ⟨?_, fun _ => trivial⟩
  unfold directoryCall
  dsimp only
  split
  · exact before
  · split <;> dsimp only
    · exact before
    · exact before
    · rw [id, ite_self]
      exact before
    · rw [id, ite_self]
      exact before

theorem loads_codes : LoadsPreserving (fun w => w.codes = codes) True where
  reserves := tryReserve_codes
  waits := waiting_codes
  reads _ := onSlot_codes _ _
  measures _ := onSlot_codes _ _
  initializes _ := onSlot_codes _ _
  erases _ := onSlot_codes _ _
  counts _ _ before := before
  publishes _ _ _ _ before := before

end

/-! ## Releasing -/

def World.released (w : World) : World :=
  { w with availableFiles := [], mapFilenameToFile := ∅, quarantinedFiles := [], lease := false }

theorem releaseAccessHandles_run (closed : w.AllClosed) :
    releaseAccessHandles.run w = (.ok (), w.released) := by
  unfold releaseAccessHandles
  rcases checkClosed_run (w := w) with ⟨run, -⟩ | ⟨-, opened⟩
  · rw [Prog.bind_ok run]
    rfl
  · exact absurd closed opened

theorem Rep.release (rep : Rep mode w g) : Rep mode w.released g.release where
  allowed := rep.allowed
  disk known := (rep.disk known).congr rfl rfl
  unknown unknown := ⟨(rep.unknown unknown).1, rfl⟩
  unloaded _ := ⟨rfl, rfl, rfl⟩
  nodup := List.nodup_nil
  mapped name file mapped := by
    change AList.lookup name (∅ : AList fun _ : String => String) = some file at mapped
    rw [AList.lookup_empty] at mapped
    exact nomatch mapped
  owned := nofun
  available := nofun
  guarded := nofun
  staged := nofun
  quarantined := nofun
  healthy := nofun
  opened name file mapped := by
    change AList.lookup name (∅ : AList fun _ : String => String) = some file at mapped
    rw [AList.lookup_empty] at mapped
    exact nomatch mapped
  readable := nofun

theorem Rep.lifecycle (rep : Rep mode w g) {busy lease : Bool} {state : PoolState}
    {registration : Option Nat} (idle : g.staging = none) :
    Rep mode { w with busy, lease, state, registration } g :=
  { rep with guarded := fun _ staging => nomatch idle.symm.trans staging }

/-! ## Pausing -/

structure Paused (mode : Mode) (w w' : World) : Prop where
  active : w.state = .active
  free : w.busy = false
  closed : w.AllClosed
  result : ∃ env registry, (∀ reply ∈ env.replies, Reply.Allowed mode reply) ∧
    (w.registration = none → registry = w.registry) ∧
    (∀ pointer, w.registration = some pointer →
      registry = w.registry.filter fun vfs => vfs.pointer ≠ pointer) ∧
    w' = { w.released with env, registry, state := .paused }

def PauseRefused (w : World) : Prop :=
  w.state = .removed ∨ w.busy = true ∨ ¬ w.AllClosed ∨ ∃ code, some code ∈ w.env.codes

theorem World.unguarded (free : w.busy = false) :
    { w with busy := false } = w := by
  obtain ⟨⟩ := w
  cases free
  rfl

theorem World.Consulted.unguarded {busy : Bool} (free : w.busy = false)
    (consulted : World.Consulted mode { w with busy } w') :
    w.Consulted mode { w' with busy := false } := by
  obtain ⟨⟨env, rfl⟩, allowed⟩ := consulted
  refine ⟨⟨env, ?_⟩, allowed⟩
  obtain ⟨⟩ := w
  cases free
  rfl

theorem pause_ends (allowed : ∀ reply ∈ w.env.replies, Reply.Allowed mode reply) :
    Prog.Ends pause w
      (fun _ w' => (w.state = .paused ∧ w.busy = false ∧ w' = w) ∨ Paused mode w w')
      (fun _ w' => w.Consulted mode w' ∧ PauseRefused w) fun _ => False := by
  unfold pause
  refine withOperation_ends (fun error refused => ⟨.refl allowed, ?_⟩) fun present free => ?_
  · by_cases removed : w.state = .removed
    · exact .inl removed
    · refine .inr (.inl ?_)
      by_contra free
      exact refused ⟨removed, Bool.eq_false_iff.mpr free⟩
  refine Prog.Ends.get_bind (Prog.Ends.ite (fun paused => ?_) fun unpaused => ?_)
  · exact Prog.Ends.pure (.inl ⟨paused, free, World.unguarded free⟩)
  have active : w.state = .active := by
    rcases state : w.state with _ | _ | _
    · rfl
    · exact absurd state unpaused
    · exact absurd state present
  rcases checkClosed_run (w := { w with busy := true }) with ⟨run, closed⟩ | ⟨run, opened⟩
  swap
  · refine Prog.Ends.of_err (Prog.bind_err run _) ⟨?_, .inr (.inr (.inl opened))⟩
    exact World.Consulted.unguarded free (.refl allowed)
  refine Prog.Ends.after_ok run ?_
  -- What follows the call on the registry.
  have rest {w₁ : World} (env : Env) (registry : List Vfs)
      (allowed' : ∀ reply ∈ env.replies, Reply.Allowed mode reply)
      (kept : w.registration = none → registry = w.registry)
      (removed : ∀ pointer, w.registration = some pointer →
        registry = w.registry.filter fun vfs => vfs.pointer ≠ pointer)
      (same : w₁ = { w with busy := true, env, registry }) :
      Prog.Ends (releaseAccessHandles >>= fun _ => Prog.modify fun w => { w with state := .paused })
        w₁
        (fun _ w' => (w.state = .paused ∧ w.busy = false ∧ { w' with busy := false } = w) ∨
          Paused mode w { w' with busy := false })
        (fun _ w' => w.Consulted mode { w' with busy := false } ∧ PauseRefused w)
        fun _ => False := by
    subst same
    refine Prog.Ends.after_ok (releaseAccessHandles_run closed) (Prog.Ends.modify (.inr ?_))
    refine ⟨active, free, closed, env, registry, allowed', kept, removed, ?_⟩
    obtain ⟨⟩ := w
    cases free
    rfl
  rcases registered : w.registration with _ | pointer
  · exact rest w.env w.registry allowed (fun _ => rfl)
      (fun _ there => nomatch registered.symm.trans there) (by rw [registered])
  · have called := vfsUnregister_ends (w := { w with busy := true }) allowed pointer
    rw [registered] at called
    refine Prog.Ends.bind_sure called ?_
    rintro code next (⟨rfl, env, allowed', rfl⟩ | ⟨code, rfl, coded, consulted⟩)
    · refine rest env _ allowed' (fun absent => nomatch registered.symm.trans absent) ?_
        (by rw [registered])
      intro other there
      obtain rfl := Option.some.inj (registered.symm.trans there)
      rfl
    · rw [← registered] at consulted
      refine Prog.Ends.fail ⟨World.Consulted.unguarded free consulted, ?_⟩
      exact .inr (.inr (.inr ⟨code, coded⟩))

/-! ## Uninstalling -/

structure Removed (mode : Mode) (w w' : World) : Prop where
  present : w.state ≠ .removed
  free : w.busy = false
  closed : w.AllClosed
  result : ∃ pointer env, (∀ reply ∈ env.replies, Reply.Allowed mode reply) ∧
    w.registration = some pointer ∧
    w' = { w.released with
      env
      registry := w.registry.filter fun vfs => vfs.pointer ≠ pointer
      registration := none
      state := .removed }

def UninstallRefused (w : World) : Prop :=
  w.busy = true ∨ ¬ w.AllClosed ∨ w.registration = none ∨ ∃ code, some code ∈ w.env.codes

theorem uninstall_ends (allowed : ∀ reply ∈ w.env.replies, Reply.Allowed mode reply) :
    Prog.Ends uninstall w
      (fun _ w' => (w.state = .removed ∧ w' = w) ∨ Removed mode w w')
      (fun _ w' => w.Consulted mode w' ∧ UninstallRefused w) fun _ => False := by
  unfold uninstall
  refine Prog.Ends.get_bind (Prog.Ends.ite (fun removed => ?_) fun present => ?_)
  · exact Prog.Ends.pure (.inl ⟨removed, rfl⟩)
  refine withOperation_ends (fun error refused => ⟨.refl allowed, .inl ?_⟩) fun _ free => ?_
  · by_contra free
    exact refused ⟨present, Bool.eq_false_iff.mpr free⟩
  rcases checkClosed_run (w := { w with busy := true }) with ⟨run, closed⟩ | ⟨run, opened⟩
  swap
  · refine Prog.Ends.of_err (Prog.bind_err run _) ⟨?_, .inr (.inl opened)⟩
    exact World.Consulted.unguarded free (.refl allowed)
  refine Prog.Ends.after_ok run (Prog.Ends.get_bind ?_)
  dsimp only
  rcases registered : w.registration with _ | pointer
  · refine Prog.Ends.of_err (Prog.bind_err (Prog.fail_run _ _) _)
      ⟨?_, .inr (.inr (.inl registered))⟩
    rw [← registered]
    exact World.Consulted.unguarded free (.refl allowed)
  refine Prog.Ends.after_ok (x := ofOption .uninstalled (some pointer)) rfl
    (Prog.Ends.modify_bind ?_)
  have called := vfsUnregister_ends (w := { w with busy := true, registration := none }) allowed
    pointer
  refine Prog.Ends.bind_sure called ?_
  rintro code next (⟨rfl, env, allowed', rfl⟩ | ⟨code, rfl, coded, consulted⟩)
  · refine Prog.Ends.after_ok (releaseAccessHandles_run closed) (Prog.Ends.modify (.inr ?_))
    refine ⟨present, free, closed, pointer, env, allowed', registered, ?_⟩
    obtain ⟨⟩ := w
    cases free
    rfl
  · obtain ⟨⟨env, rfl⟩, allowed'⟩ := consulted
    refine Prog.Ends.modify_bind (Prog.Ends.fail ⟨⟨⟨env, ?_⟩, allowed'⟩,
      .inr (.inr (.inr ⟨code, coded⟩))⟩)
    obtain ⟨⟩ := w
    cases free
    cases registered
    rfl

/-! ## Resuming -/

/-- A pool whose slots are released; its ledger still accounts for the directory. -/
structure Suspended (mode : Mode) (w : World) (g : Ledger) : Prop where
  rep : Rep mode w g
  paused : w.state = .paused
  unloaded : g.loaded = false
  known : g.known = true
  idle : g.staging = none
  shut : ∀ file, w.openCount file = 0
  unleased : w.lease = false
  readable : 0 ∉ nameBytes w.name

def Resumes (w : World) : Resuming → Prop
  | .lease vfs => w.registration = some vfs
  | .loading vfs loading => w.registration = some vfs ∧ Loads w loading ∧ loading.clear = false

theorem Resumes.of_looked {resuming : Resuming} (resumes : Resumes w resuming)
    (looked : w.Looked w') : Resumes w' resuming := by
  cases resuming with
  | lease vfs => exact looked.settings.registration.trans resumes
  | loading vfs loading =>
      obtain ⟨registered, loads, clear⟩ := resumes
      exact ⟨looked.settings.registration.trans registered, loads.of_looked looked, clear⟩

/-- No other VFS has the name of the pool. -/
def World.Unrivalled (w : World) (vfs : Nat) : Prop :=
  ∀ other, found w.registry w.name = some other → other = vfs

/-- The pool when its slots are loaded and it is registered again. -/
def World.resumed (w : World) (env : Env) (vfs : Nat) : World :=
  { w with
    env
    registry := registering w.registry ⟨vfs, w.name⟩ w.makeDefault
    busy := false
    lease := true
    state := .active }

structure Resumed (mode : Mode) (w w' : World) (g' : Ledger) : Prop where
  rep : Rep mode w' g'
  loading : ∃ w₁ vfs env, Loaded mode false w w₁ g' ∧ w.registration = some vfs ∧
    w.Unrivalled vfs ∧ (∀ reply ∈ env.replies, Reply.Allowed mode reply) ∧
    w' = w₁.resumed env vfs

/-- A resumption that failed: the pool is still paused and holds nothing, and no slot with a
name has changed. -/
structure ResumeFailed (mode : Mode) (w : World) (g : Ledger) (w' : World) (g' : Ledger) :
    Prop where
  suspended : Suspended mode w' g'
  settings : SameSettings { w with busy := false } w'
  files : ∀ file, file ∈ w'.directory ↔ file ∈ w.directory
  named : ∀ file name, decoded w.directory file = some (.ok (some name)) →
    w'.directory.lookup file = w.directory.lookup file
  halfRead : mode ≠ .lax → ∀ name, (g.entry name).HalfRead (g'.entry name)

/-- Why a resumption fails when no call of the browser does. -/
def ResumeRefused (mode : Mode) (w : World) : Prop :=
  mode = .quiet → false ∈ w.env.grants ∨ (∃ files, files.Nodup ∧ Unsorted w.directory files) ∨
    (∃ vfs, w.registration = some vfs ∧ ¬ w.Unrivalled vfs) ∨ ∃ code, some code ∈ w.env.codes

theorem LoadStops.stopped (rep : Rep mode w g) (unloaded : g.loaded = false)
    (stops : LoadStops mode false w w') : ∃ g', LoadStopped mode w g w' g' := by
  obtain ⟨allowed, files, remakes, nameless⟩ := stops
  exact ⟨_, .of_remakes rep unloaded (nameless rfl) remakes allowed⟩

theorem Suspended.stopped (suspended : Suspended mode w g) (stopped : LoadStopped mode w g w' g') :
    ResumeFailed mode w g { w' with busy := false } g' := by
  have settings := stopped.settings
  have idle : g'.staging = none := by
    obtain ⟨files, rfl, -⟩ := stopped.ledger
    exact suspended.idle
  constructor
  · exact {
      rep := stopped.rep.guard fun _ => idle
      paused := settings.state.trans suspended.paused
      unloaded := stopped.loaded.trans suspended.unloaded
      known := stopped.known.trans suspended.known
      idle := idle
      shut := fun file => (congrFun settings.openCount file).trans (suspended.shut file)
      unleased := settings.lease.trans suspended.unleased
      readable := by
        have same : w'.name = w.name := settings.name
        change 0 ∉ nameBytes w'.name
        rw [same]
        exact suspended.readable }
  · exact { settings with openCount := settings.openCount, busy := rfl }
  · exact stopped.files
  · exact stopped.named
  · intro classified name
    obtain ⟨files, rfl, nameless⟩ := stopped.ledger
    exact Ledger.halfRead_doubtAll (suspended.rep.disk suspended.known) classified nameless name

theorem Suspended.consulted (suspended : Suspended mode w g) (consulted : w.Consulted mode w') :
    Suspended mode w' g := by
  have rep := consulted.rep suspended.rep
  obtain ⟨⟨env, rfl⟩, -⟩ := consulted
  exact { suspended with rep := rep }

/-- The slots are loaded, and the pool is not registered again. -/
theorem Suspended.withdrawn (suspended : Suspended mode w g) (loaded : Loaded mode false w w' g')
    {env : Env} (allowed : ∀ reply ∈ env.replies, Reply.Allowed mode reply) :
    ResumeFailed mode w g { World.released { w' with env } with busy := false } g'.release := by
  have rep : Rep mode { w' with env } g' := Evolves.rep_asked loaded.rep allowed
  have settings := loaded.settings
  constructor
  · exact {
      rep := rep.release.guard fun _ => rfl
      paused := settings.state.trans suspended.paused
      unloaded := rfl
      known := by
        rw [loaded.ledger]
        rfl
      idle := rfl
      shut := fun file => (congrFun settings.openCount file).trans (suspended.shut file)
      unleased := rfl
      readable := by
        have same : w'.name = w.name := settings.name
        change 0 ∉ nameBytes w'.name
        rw [same]
        exact suspended.readable }
  · exact {
      openCount := settings.openCount
      busy := rfl
      state := settings.state
      registry := settings.registry
      lease := suspended.unleased.symm
      name := settings.name
      makeDefault := settings.makeDefault
      registration := settings.registration }
  · exact loaded.files
  · intro file name named
    exact loaded.kept name file (loaded.found rfl name file named)
  · intro classified name
    exact .read _ (loaded.reread (suspended.rep.disk suspended.known) classified name)

theorem Suspended.closed (suspended : Suspended mode w g) (settings : SameSettings w w') :
    w'.AllClosed := by
  intro name file _
  rw [settings.openCount]
  exact suspended.shut file

/-- What SQLite answers when the VFS is registered again. -/
theorem register_again_ends (allowed : ∀ reply ∈ w.env.replies, Reply.Allowed mode reply)
    (vfs : Nat) (makeDflt : Bool) :
    Prog.Ends (do
        let code ← vfsRegister vfs makeDflt
        match code with
        | none => pure ()
        | some code => Prog.fail (.sqlite "register VFS" code)) w
      (fun _ next => ∃ env : Env, (∀ reply ∈ env.replies, Reply.Allowed mode reply) ∧
        next = { w with env, registry := registering w.registry ⟨vfs, w.name⟩ makeDflt })
      (fun _ next => ∃ env : Env, (∀ reply ∈ env.replies, Reply.Allowed mode reply) ∧
        next = { w with env } ∧ ∃ code, some code ∈ w.env.codes) fun _ => False := by
  refine Prog.Ends.bind_sure (vfsRegister_ends allowed vfs makeDflt) ?_
  rintro code next (⟨rfl, env, allowed, rfl⟩ | ⟨code, rfl, coded, ⟨env, rfl⟩, allowed⟩)
  · exact Prog.Ends.pure ⟨env, allowed, rfl⟩
  · exact Prog.Ends.fail ⟨env, allowed, rfl, code, coded⟩

theorem reregister_ends (suspended : Suspended mode w g) (loaded : Loaded mode false w w' g')
    {vfs : Nat} (registered : w.registration = some vfs) :
    Prog.Ends (reregister vfs) w'
      (fun _ w'' => ∃ g', Resumed mode w { w'' with busy := false } g')
      (fun _ w'' => (∃ g', ResumeFailed mode w g { w'' with busy := false } g') ∧
        (¬ w.Unrivalled vfs ∨ ∃ code, some code ∈ w'.env.codes)) fun _ => False := by
  have settings := loaded.settings
  have readable : 0 ∉ nameBytes w'.name := by
    rw [settings.name]
    exact suspended.readable
  have idle : g'.staging = none := by
    rw [loaded.ledger]
    rfl
  -- The error path of the function.
  have withdraw (error : OpfsSAHError) {env : Env}
      (allowed : ∀ reply ∈ env.replies, Reply.Allowed mode reply)
      (why : ¬ w.Unrivalled vfs ∨ ∃ code, some code ∈ w'.env.codes) :
      Prog.Ends (releaseAccessHandles >>= fun _ => (Prog.fail error : PoolM Unit))
        { w' with env } (fun _ w'' => ∃ g', Resumed mode w { w'' with busy := false } g')
        (fun _ w'' => (∃ g', ResumeFailed mode w g { w'' with busy := false } g') ∧
          (¬ w.Unrivalled vfs ∨ ∃ code, some code ∈ w'.env.codes)) fun _ => False := by
    have closed : w'.AllClosed := suspended.closed settings
    exact Prog.Ends.after_ok (releaseAccessHandles_run (w := { w' with env }) closed)
      (Prog.Ends.fail ⟨⟨_, suspended.withdrawn loaded allowed⟩, why⟩)
  unfold reregister
  refine Prog.Ends.get_bind (Prog.Ends.after_ok (registeredVfs_run readable) ?_)
  have rivals : found w'.registry w'.name = found w.registry w.name := by
    rw [settings.registry, settings.name]
  by_cases rivalled : ((found w'.registry w'.name).any (· ≠ vfs)) = true
  · rw [if_pos rivalled]
    refine Prog.Ends.after_ok (Prog.attempt_err (Prog.fail_run _ _))
      (withdraw (.vfs (.nameConflict w'.name)) loaded.rep.allowed (.inl fun unrivalled => ?_))
    obtain ⟨other, here, different⟩ := (Option.any_eq_true _ _).mp rivalled
    rw [rivals] at here
    exact absurd (unrivalled other here) (of_decide_eq_true different)
  · rw [if_neg rivalled]
    have unrivalled : w.Unrivalled vfs := by
      intro other here
      by_contra different
      refine rivalled ((Option.any_eq_true _ _).mpr ⟨other, rivals.trans here, ?_⟩)
      exact decide_eq_true different
    refine Prog.Ends.attempt_bind (register_again_ends loaded.rep.allowed vfs w'.makeDefault)
      ?_ ?_ fun _ impossible => impossible
    · rintro _ next ⟨env, allowed, rfl⟩
      refine Prog.Ends.modify ⟨g', ?_, w', vfs, env, loaded, registered, unrivalled, allowed, rfl⟩
      have asked : Rep mode { w' with
          env, registry := registering w'.registry ⟨vfs, w'.name⟩ w'.makeDefault } g' :=
        loaded.rep.registered ⟨env, _, allowed, rfl⟩
      exact asked.lifecycle idle
    · rintro error next ⟨env, allowed, rfl, coded⟩
      exact withdraw error allowed (.inr coded)

def ResumeReaches (mode : Mode) (w : World) : Poll Resuming Unit → World → Prop :=
  Poll.Holds (fun resuming w' => w.Consulted mode w' ∧ Resumes w' resuming)
    fun _ w' => ∃ g', Resumed mode w w' g'

theorem Suspended.legible (suspended : Suspended mode w g) (file : String) (content : SlotFile)
    (found : w.directory.lookup file = some content) : Legible mode content :=
  (suspended.rep.disk suspended.known).legible found

theorem Suspended.unawaited (suspended : Suspended mode w g) (consulted : w.Consulted mode w') :
    LoadStopped mode w g w' g := by
  have viewed := consulted.viewed
  exact {
    rep := consulted.rep suspended.rep
    still := viewed.looked.still
    settings := viewed.looked.settings
    files := mem_of_lookup viewed.looked.contents
    named := fun file _ _ => viewed.looked.contents file
    loaded := rfl
    known := rfl
    ledger := by
      refine ⟨[], ?_, nofun⟩
      unfold Ledger.doubtAll
      simp }

theorem pollResume_ends (suspended : Suspended mode w g) {resuming : Resuming}
    (resumes : Resumes w resuming) :
    Prog.Ends (pollResume resuming) w (ResumeReaches mode w)
      (fun _ w' => (∃ g', ResumeFailed mode w g w' g') ∧ ResumeRefused mode w)
      fun w' => ∃ w₁ g₁, LoadStopped mode w g w₁ g₁ ∧ w₁.directory = w'.directory := by
  refine guardPoll_ends _ ?_
  cases resuming with
  | lease vfs =>
      refine Prog.Ends.bind_of (awaited_looks suspended.rep.allowed) ?_ ?_ ?_
      · rintro _ w₁ ⟨consulted, -⟩
        have registered := consulted.viewed.looked.settings.registration.trans resumes
        exact Prog.Ends.get_bind (Prog.Ends.pure ⟨consulted, registered, loads_start false, rfl⟩)
      · rintro _ w₁ ⟨consulted, loud⟩
        exact ⟨⟨g, suspended.stopped (suspended.unawaited consulted)⟩, fun quiet =>
          absurd quiet loud⟩
      · exact fun w₁ consulted => ⟨w₁, g, suspended.unawaited consulted, rfl⟩
  | loading vfs loading =>
      obtain ⟨registered, loads, clear⟩ := resumes
      have polled := Loading.poll_ends suspended.rep suspended.unloaded suspended.shut
        suspended.legible loads
      rw [clear] at polled
      refine Prog.Ends.bind_of (polled.preserving (loads_codes.poll loading) rfl) ?_ ?_ ?_
      · rintro (loading' | ⟨⟩) w₁ ⟨reached, same⟩
        · obtain ⟨consulted, loads', clear'⟩ := reached
          have registered' := consulted.viewed.looked.settings.registration.trans registered
          exact Prog.Ends.pure ⟨consulted, registered', loads', clear'⟩
        · obtain ⟨g', loaded⟩ := reached
          refine Prog.Ends.bind_of (reregister_ends suspended loaded registered) ?_ ?_
            fun _ impossible => impossible.elim
          · exact fun _ w₂ resumed => Prog.Ends.pure resumed
          · rintro _ w₂ ⟨failed, why⟩
            refine ⟨failed, fun _ => .inr (.inr ?_)⟩
            rcases why with rivalled | ⟨code, coded⟩
            · exact .inl ⟨vfs, registered, rivalled⟩
            · have here : some code ∈ w₁.codes := coded
              rw [same] at here
              exact .inr ⟨code, here⟩
      · rintro _ w₁ ⟨⟨stops, refused⟩, -⟩
        obtain ⟨g', stopped⟩ := stops.stopped suspended.rep suspended.unloaded
        refine ⟨⟨g', suspended.stopped stopped⟩, fun quiet => ?_⟩
        rcases refused quiet with ungranted | ⟨-, files, distinct, unsorted⟩
        · exact .inl ungranted
        · exact .inr (.inl ⟨files, distinct, unsorted⟩)
      · rintro w' ⟨⟨w₁, stops, same⟩, -⟩
        obtain ⟨g', stopped⟩ := stops.stopped suspended.rep suspended.unloaded
        exact ⟨w₁, g', stopped, same⟩

def ResumeUnbegun (w : World) : Prop :=
  w.state = .removed ∨ w.busy = true ∨ (w.state = .active ∧ w.needsRecovery = true) ∨
    w.registration = none ∨ ∃ vfs, w.registration = some vfs ∧ ¬ w.Unrivalled vfs

/-- A resumption that has begun, or had nothing to do. -/
def ResumeBegun (w : World) (polled : Poll Resuming Unit) (w' : World) : Prop :=
  (polled = .ready () ∧ w.Ready ∧ w' = w) ∨
    ∃ vfs, polled = .pending (.lease vfs) ∧ w.state = .paused ∧ w.busy = false ∧
      w.registration = some vfs ∧ w.Unrivalled vfs ∧ w' = { w with busy := true }

theorem resume_ends (readable : 0 ∉ nameBytes w.name) :
    Prog.Ends resume w (ResumeBegun w) (fun _ w' => w' = w ∧ ResumeUnbegun w)
      fun _ => False := by
  unfold resume
  by_cases accepted : w.state ≠ .removed ∧ w.busy = false
  swap
  · obtain ⟨error, run⟩ := beginOperation_refused accepted
    refine Prog.Ends.of_err (Prog.bind_err run _) ⟨rfl, ?_⟩
    by_cases removed : w.state = .removed
    · exact .inl removed
    · refine .inr (.inl ?_)
      by_contra free
      exact accepted ⟨removed, Bool.eq_false_iff.mpr free⟩
  obtain ⟨present, free⟩ := accepted
  have begun : beginOperation.run w = (.ok (), { w with busy := true }) := by
    unfold beginOperation
    rw [Prog.get_bind, if_neg present, if_neg (by rw [free]; exact nofun)]
    rfl
  have ended : { w with busy := false } = w := World.unguarded free
  refine Prog.Ends.after_ok begun ?_
  have inside : Prog.Ends (do
      let w ← Prog.get
      if w.state = .active then
        if w.needsRecovery then Prog.fail .needsRecovery else pure (.ready ())
      else do
        let vfs ← ofOption .uninstalled w.registration
        let existing ← registeredVfs w.name
        if existing.any (· ≠ vfs) then Prog.fail (.vfs (.nameConflict w.name))
        else pure (.pending (.lease vfs))) { w with busy := true }
      (Poll.Holds (fun (state : Resuming) w' => ResumeBegun w (.pending state) w')
        fun value w' => ResumeBegun w (.ready value) { w' with busy := false })
      (fun _ w' => { w' with busy := false } = w ∧ ResumeUnbegun w) fun _ => False := by
    refine Prog.Ends.get_bind (Prog.Ends.ite (fun active => ?_) fun inactive => ?_)
    · refine Prog.Ends.ite (fun suspect => ?_) fun healthy => ?_
      · exact Prog.Ends.fail ⟨ended, .inr (.inr (.inl ⟨active, suspect⟩))⟩
      · exact Prog.Ends.pure (.inl ⟨rfl, ⟨active, free, Bool.eq_false_iff.mpr healthy⟩, ended⟩)
    have paused : w.state = .paused := by
      rcases state : w.state with _ | _ | _
      · exact absurd state inactive
      · rfl
      · exact absurd state present
    dsimp only
    rcases registered : w.registration with _ | vfs
    · refine Prog.Ends.of_err (Prog.bind_err (Prog.fail_run _ _) _) ⟨?_, ?_⟩
      · rw [← registered]
        exact ended
      · exact .inr (.inr (.inr (.inl registered)))
    refine Prog.Ends.after_ok (x := ofOption .uninstalled (some vfs)) rfl
      (Prog.Ends.after_ok (registeredVfs_run readable) ?_)
    rw [← registered]
    refine Prog.Ends.ite (fun rivalled => ?_) fun alone => ?_
    · refine Prog.Ends.fail
        ⟨ended, .inr (.inr (.inr (.inr ⟨vfs, registered, fun unrivalled => ?_⟩)))⟩
      obtain ⟨other, here, different⟩ := (Option.any_eq_true _ _).mp rivalled
      exact absurd (unrivalled other here) (of_decide_eq_true different)
    · refine Prog.Ends.pure (.inr ⟨vfs, rfl, paused, free, registered, fun other here => ?_, rfl⟩)
      by_contra different
      exact alone ((Option.any_eq_true _ _).mpr ⟨other, here, decide_eq_true different⟩)
  refine (guardPoll_ends (fun _ w' => w' = w ∧ ResumeUnbegun w) inside).mono ?_
    (fun _ _ failed => failed) fun _ impossible => impossible
  rintro (resuming | ⟨⟩) w' begun
  · exact begun
  · exact begun

end Sahpool

end SqliteVfs
