import SqliteVfs.Sahpool.SystemInvariant
import SqliteVfs.Sahpool.Worker

/-!
# Pools and the registry

`Shifts` says what an event of a pool can do to its registration and to the registry.  The
other lemmas say what the registry shows of a pool that is reused or installed.
-/

set_option autoImplicit false

namespace SqliteVfs

namespace Sahpool

variable {mode : Mode} {reach : String → Prop} {s s' : System} {w w' w'' : World}
  {g g' : Ledger} {name : String} {registry : List Vfs}

/-! ## The registry -/

theorem registering_eq (registry : List Vfs) (vfs : Vfs) (makeDflt : Bool) :
    registering registry vfs makeDflt = LinkedList.link Vfs.pointer vfs makeDflt registry := by
  unfold registering LinkedList.link LinkedList.unlink
  generalize List.filter _ registry = others
  rcases others with _ | ⟨first, rest⟩ <;> cases makeDflt <;> rfl

/-! ## The standing of a pool -/

/-- The pool is known to SQLite and to its handles as before. -/
structure SameStanding (w w' : World) : Prop where
  registry : w'.registry = w.registry
  state : w'.state = w.state
  registration : w'.registration = w.registration
  name : w'.name = w.name
  makeDefault : w'.makeDefault = w.makeDefault
  lease : w'.lease = w.lease

theorem SameStanding.refl (w : World) : SameStanding w w := ⟨rfl, rfl, rfl, rfl, rfl, rfl⟩

theorem SameSettings.standing (settings : SameSettings w w') : SameStanding w w' :=
  ⟨settings.registry, settings.state, settings.registration, settings.name,
    settings.makeDefault, settings.lease⟩

inductive Shifts (event : Event) (outcome : Outcome Failure Answer) (w w' : World) : Prop
  | stays (same : SameStanding w w')
  | pauses (vfs : Nat) (active : w.state = .active) (owned : w.registration = some vfs)
      (after : SameStanding { w with
        registry := LinkedList.unlink Vfs.pointer vfs w.registry
        state := .paused
        lease := false } w')
  | resumes (vfs : Nat) (paused : w.state = .paused) (owned : w.registration = some vfs)
      (unrivalled : w.Unrivalled vfs)
      (after : SameStanding { w with
        registry := LinkedList.link Vfs.pointer ⟨vfs, w.name⟩ w.makeDefault w.registry
        state := .active
        lease := true } w')
  | uninstalls (vfs : Nat) (asked : event = .uninstall) (answered : outcome = .ok .done)
      (present : w.state ≠ .removed) (owned : w.registration = some vfs)
      (after : SameStanding { w with
        registry := LinkedList.unlink Vfs.pointer vfs w.registry
        state := .removed
        registration := none
        lease := false } w')

theorem Adding.standing {event : Event} (adding : Adding s event w) : SameStanding s.world w := by
  cases adding with
  | add n ready => exact ⟨rfl, rfl, rfl, rfl, rfl, rfl⟩
  | ensure min ready => exact ⟨rfl, rfl, rfl, rfl, rfl, rfl⟩
  | poll i growth there => exact .refl _

theorem Reducing.standing {event : Event} {count left : Nat}
    (reducing : Reducing s event w count left) : SameStanding s.world w := by
  cases reducing with
  | reduce n ready => exact ⟨rfl, rfl, rfl, rfl, rfl, rfl⟩
  | poll i shrink there => exact .refl _

theorem Stopping.standing {event : Event} (stopping : Stopping s event w) :
    SameStanding s.world w := by
  cases stopping with
  | adding event w adding => exact adding.standing
  | reducing i shrink there => exact .refl _
  | dropAdding i growth there => exact .refl _
  | dropReducing i shrink there => exact .refl _

theorem SameStanding.trans (first : SameStanding w w') (second : SameStanding w' w'') :
    SameStanding w w'' where
  registry := second.registry.trans first.registry
  state := second.state.trans first.state
  registration := second.registration.trans first.registration
  name := second.name.trans first.name
  makeDefault := second.makeDefault.trans first.makeDefault
  lease := second.lease.trans first.lease

theorem GivenUp.standing (result : GivenUp mode w g w') : SameStanding w w' := by
  obtain ⟨w₁, -, beyond, -, rfl⟩ := result
  exact { beyond.settings.standing with }

/-- Apart from its lifecycle, nothing that happens to a pool changes its standing. -/
theorem Turn.shifts {event : Event} {outcome : Outcome Failure Answer}
    (turn : Turn mode s g event outcome s' g') (before : Good mode s g) :
    Shifts event outcome s.world s'.world := by
  cases turn with
  | idle _ nothing => exact .stays (.refl _)
  | looked _ _ w' query looked rep => exact .stays looked.settings.standing
  | refused _ error w' guarded looked rep => exact .stays looked.settings.standing
  | opened request opened w₁ g₁ name file evolves result =>
      exact .stays { evolves.frame.settings.standing with }
  | unopened request error w' _ ready evolves result => exact .stays evolves.frame.settings.standing
  | called i made f name content content' _ w' _ there named mapped found effect altered evolves
      same => exact .stays altered.settings.standing
  | closed i f name _ w₁ w' _ there named mapped flushed evolves result done =>
      have flushing := flushed.evolves.frame.settings.standing
      have closing : SameStanding s.world w₁ := { flushing with }
      exact .stays (closing.trans evolves.frame.settings.standing)
  | deleted _ name answer w' _ deletes evolves result =>
      exact .stays evolves.frame.settings.standing
  | undeleted _ name error w' _ deletes evolves result =>
      exact .stays evolves.frame.settings.standing
  | importing filename size file target w' created =>
      obtain ⟨w₁, consulted, rfl⟩ := created.reserved
      exact .stays { consulted.viewed.looked.settings.standing with }
  | filled i offset bytes file filename data content content' data' _ w' there importing
      found filled whole altered evolves => exact .stays altered.settings.standing
  | committed i file filename data w' _ there importing evolves result =>
      exact .stays { evolves.frame.settings.standing with }
  | unimported _ i _ file filename data w' _ ends there importing evolves result failed aborted =>
      exact .stays { evolves.frame.settings.standing with }
  | exporting name file source w' opened =>
      obtain ⟨w₁, -, looked, rfl⟩ := opened.reserved
      exact .stays { looked.settings.standing with }
  | exported i file name size there exporting => exact .stays ⟨rfl, rfl, rfl, rfl, rfl, rfl⟩
  | growing _ w growth w' adding resizable reached =>
      obtain ⟨-, beyond, -⟩ := reached
      exact .stays (adding.standing.trans beyond.settings.standing)
  | grown _ w count w' adding resizable reached =>
      obtain ⟨w₁, added, -, beyond, -, -, -, rfl⟩ := reached
      have adds : SameStanding w { w₁ with
          availableFiles := w₁.availableFiles ++ added, busy := false } :=
        { beyond.settings.standing with }
      exact .stays (adding.standing.trans adds)
  | shrinking _ w count left shrink w' reducing resizable reached =>
      obtain ⟨w₁, rest, beyond, -, rfl⟩ := reached.1.from_top
      have pops : SameStanding w { w₁ with availableFiles := rest } :=
        { beyond.settings.standing with }
      exact .stays (reducing.standing.trans pops)
  | shrunk _ w count left removed w' reducing resizable reached =>
      exact .stays (reducing.standing.trans reached.1.standing)
  | givenUp _ w _ w' stopping resizable result =>
      exact .stays (stopping.standing.trans result.standing)
  | resuming vfs suspended free registered => exact .stays ⟨rfl, rfl, rfl, rfl, rfl, rfl⟩
  | pending i resuming resuming' w' there suspended consulted resumes =>
      exact .stays consulted.viewed.looked.settings.standing
  | resumed i resuming w' _ there suspended result =>
      obtain ⟨w₁, vfs, env, loaded, owned, unrivalled, -, rfl⟩ := result.loading
      have same := loaded.settings
      refine .resumes vfs suspended.paused owned unrivalled ⟨?_, rfl, same.registration, same.name,
        same.makeDefault, rfl⟩
      change registering w₁.registry ⟨vfs, w₁.name⟩ w₁.makeDefault = _
      rw [same.registry, same.name, same.makeDefault]
      exact registering_eq _ _ _
  | unresumed _ i _ resuming w' _ stops there suspended result =>
      exact .stays { result.settings.standing with }
  | paused w' result rep =>
      obtain ⟨env, registry, -, -, unlinked, rfl⟩ := result.result
      rcases owned : s.world.registration with _ | vfs
      · exact nomatch result.active.symm.trans (before.registration.mpr owned)
      · exact .pauses vfs result.active owned ⟨unlinked vfs owned, rfl, rfl, rfl, rfl, rfl⟩
  | cleared w' _ evolves clearable result => exact .stays evolves.frame.settings.standing
  | uncleared error w' _ evolves clearable suspect => exact .stays evolves.frame.settings.standing
  | uninstalled w' result rep =>
      obtain ⟨vfs, env, -, owned, rfl⟩ := result.result
      exact .uninstalls vfs rfl rfl result.present owned ⟨rfl, rfl, rfl, rfl, rfl, rfl⟩

/-! ## Reusing a pool -/

/-- The registry when the pool is made the default, which only an active pool can be. -/
def World.promoted (w : World) (vfs : Nat) : List Vfs :=
  if w.state = .active then LinkedList.link Vfs.pointer ⟨vfs, w.name⟩ true w.registry
  else w.registry

theorem mem_promoted {defaultVfs : Bool} {vfs : Nat} {entry : Vfs}
    (member : entry ∈ if defaultVfs then w.promoted vfs else w.registry) :
    entry ∈ w.registry ∨ (entry = ⟨vfs, w.name⟩ ∧ w.state = .active) := by
  unfold World.promoted at member
  by_cases promotes : defaultVfs = true ∧ w.state = .active
  · rw [if_pos promotes.1, if_pos promotes.2] at member
    rcases LinkedList.mem_link.mp member with rfl | ⟨member, -⟩
    · exact .inr ⟨rfl, promotes.2⟩
    · exact .inl member
  · refine .inl ?_
    split at member
    · rename_i optional
      rwa [if_neg fun active => promotes ⟨optional, active⟩] at member
    · exact member

theorem promote_ends (allowed : ∀ reply ∈ w.env.replies, Reply.Allowed mode reply) (vfs : Nat) :
    Prog.Ends (promote vfs) w
      (fun _ w' => ∃ env : Env, (∀ reply ∈ env.replies, Reply.Allowed mode reply) ∧
        w' = { w with env, registry := w.promoted vfs })
      (fun _ w' => w.Consulted mode w') fun _ => False := by
  unfold promote World.promoted
  refine Prog.Ends.get_bind (Prog.Ends.ite (fun active => ?_) fun inactive => ?_)
  · refine Prog.Ends.bind_sure (vfsRegister_ends allowed vfs true) ?_
    rintro code next (⟨rfl, env, allowed', rfl⟩ | ⟨code, rfl, -, consulted⟩)
    · refine Prog.Ends.pure ⟨env, allowed', ?_⟩
      rw [if_pos active, registering_eq]
    · exact Prog.Ends.fail consulted
  · refine Prog.Ends.pure ⟨w.env, allowed, ?_⟩
    rw [if_neg inactive]

structure Reused (mode : Mode) (defaultVfs : Bool) (w w' : World) : Prop where
  present : w.state ≠ .removed
  free : w.busy = false
  result : ∃ vfs env, w.registration = some vfs ∧ w.Unrivalled vfs ∧
    (∀ reply ∈ env.replies, Reply.Allowed mode reply) ∧
    w' = { w with
      env
      registry := if defaultVfs then w.promoted vfs else w.registry
      makeDefault := w.makeDefault || defaultVfs }

theorem reuse_ends (allowed : ∀ reply ∈ w.env.replies, Reply.Allowed mode reply)
    (readable : 0 ∉ nameBytes w.name) (mismatch defaultVfs : Bool) :
    Prog.Ends (reuse mismatch defaultVfs) w
      (fun _ w' => mismatch = false ∧ Reused mode defaultVfs w w')
      (fun _ w' => w.Consulted mode w') fun _ => False := by
  unfold reuse
  refine Prog.Ends.get_bind (Prog.Ends.after_ok (registeredVfs_run readable)
    (Prog.Ends.ite (fun _ => Prog.Ends.fail (.refl allowed)) fun matching => ?_))
  refine withOperation_ends (fun _ _ => .refl allowed) fun present free => ?_
  have unchanged : w.Consulted mode { w with busy := false } := by
    rw [World.unguarded free]
    exact .refl allowed
  refine Prog.Ends.get_bind ?_
  dsimp only
  rcases owned : w.registration with _ | vfs
  · refine Prog.Ends.of_err rfl ?_
    rw [← owned]
    exact unchanged
  refine Prog.Ends.after_ok (rfl : (ofOption _ (some vfs)).run _ = _)
    (Prog.Ends.ite (fun _ => Prog.Ends.fail ?_) fun unrivalled => ?_)
  · rw [← owned]
    exact unchanged
  have single : w.Unrivalled vfs := by
    intro other there
    by_contra different
    refine unrivalled ?_
    rw [there]
    exact decide_eq_true different
  have reused (env : Env) (registry : List Vfs) (makeDefault : Bool)
      (allowed' : ∀ reply ∈ env.replies, Reply.Allowed mode reply)
      (registered : registry = if defaultVfs then w.promoted vfs else w.registry)
      (flagged : makeDefault = (w.makeDefault || defaultVfs)) :
      mismatch = false ∧ Reused mode defaultVfs w
        { w with env, registry, makeDefault, busy := false } := by
    refine ⟨Bool.eq_false_iff.mpr matching, present, free, vfs, env, owned, single, allowed', ?_⟩
    rw [registered, flagged]
    obtain ⟨⟩ := w
    cases free
    rfl
  refine Prog.Ends.ite (fun default => ?_) fun optional => ?_
  · refine Prog.Ends.bind_of (promote_ends (w := { w with registration := some vfs, busy := true })
      allowed vfs) ?_ ?_ fun _ impossible => impossible
    · rintro _ _ ⟨env, allowed', rfl⟩
      refine Prog.Ends.modify ?_
      rw [← owned]
      exact reused env _ true allowed' (by rw [if_pos default]; rfl) (by rw [default, Bool.or_true])
    · rintro error w₁ consulted
      rw [← owned] at consulted
      exact World.Consulted.unguarded free consulted
  · refine Prog.Ends.pure ?_
    rw [← owned]
    exact reused w.env w.registry w.makeDefault allowed (by rw [if_neg optional])
      (by rw [Bool.eq_false_iff.mpr optional, Bool.or_false])

/-! ## The registry during an installation -/

structure SameEntry (w w' : World) : Prop where
  registry : w'.registry = w.registry
  name : w'.name = w.name

theorem SameEntry.refl (w : World) : SameEntry w w := ⟨rfl, rfl⟩

theorem SameEntry.trans (first : SameEntry w w') (second : SameEntry w' w'') : SameEntry w w'' :=
  ⟨second.registry.trans first.registry, second.name.trans first.name⟩

theorem SameSettings.entry (settings : SameSettings w w') : SameEntry w w' :=
  ⟨settings.registry, settings.name⟩

structure Registers (config : PoolConfig) (w w' : World) : Prop where
  free : found w.registry w.name = none
  name : w'.name = w.name
  registry : w'.registry =
    LinkedList.link Vfs.pointer ⟨config.vfs, w.name⟩ config.defaultVfs w.registry

def InstallShows (config : PoolConfig) (w : World) : Poll Installing Unit → World → Prop :=
  Poll.Holds (fun _ w' => SameEntry w w') fun _ w' => Registers config w w'

theorem InstallShows.after {config : PoolConfig} {polled : Poll Installing Unit}
    (shows_later : InstallShows config w' polled w'') (same : SameEntry w w') :
    InstallShows config w polled w'' := by
  cases polled with
  | pending installing => exact same.trans shows_later
  | ready value =>
      obtain ⟨free, name, registry⟩ := shows_later
      rw [same.registry, same.name] at free registry
      exact ⟨free, name.trans same.name, registry⟩

theorem registerPool_shows (allowed : ∀ reply ∈ w.env.replies, Reply.Allowed mode reply)
    (readable : 0 ∉ nameBytes w.name) (config : PoolConfig) :
    Prog.Ends (registerPool config) w (fun _ w' => Registers config w w')
      (fun _ w' => SameEntry w w') fun _ => True := by
  unfold registerPool
  refine Prog.Ends.get_bind (Prog.Ends.ite (fun _ => Prog.Ends.fail (.refl w)) fun _ => ?_)
  refine Prog.Ends.after_ok (registeredVfs_run readable)
    (Prog.Ends.ite (fun _ => Prog.Ends.fail (.refl w)) fun vacant => ?_)
  refine Prog.Ends.bind_sure (vfsRegister_ends allowed config.vfs config.defaultVfs) ?_
  rintro code next (⟨rfl, env, -, rfl⟩ | ⟨code, rfl, -, consulted⟩)
  · refine Prog.Ends.modify ⟨?_, rfl, registering_eq _ _ _⟩
    rcases here : found w.registry w.name with _ | vfs
    · rfl
    · rw [here] at vacant
      exact absurd rfl vacant
  · exact Prog.Ends.fail consulted.viewed.looked.settings.entry

theorem afterGrowth_shows (config : PoolConfig) {polled : Poll Growth Nat}
    (readable : 0 ∉ nameBytes w.name) (reaches : AddReaches mode w g polled w') :
    Prog.Ends (afterGrowth config polled) w' (InstallShows config w) (fun _ w' => SameEntry w w')
      fun _ => True := by
  cases polled with
  | pending growth => exact Prog.Ends.pure reaches.2.1.settings.entry
  | ready count =>
      obtain ⟨w₁, added, -, beyond, -, rep, -, rfl⟩ := reaches
      have same : SameEntry w { w₁ with
          availableFiles := w₁.availableFiles ++ added, busy := false } :=
        { beyond.settings.entry with }
      have readable' : 0 ∉ nameBytes w₁.name := by
        rw [beyond.settings.name]
        exact readable
      refine Prog.Ends.bind_of (registerPool_shows rep.allowed readable' config) ?_
        (fun _ _ later => same.trans later) fun _ _ => trivial
      intro _ w₂ registers
      have shows_registry : InstallShows config _ (.ready ()) w₂ := registers
      exact Prog.Ends.pure (shows_registry.after same)

theorem orDropPool_shows {α : Type} {body : PoolM α} {returns : α → World → Prop}
    (ends : Prog.Ends body w returns (fun _ w' => SameEntry w w') fun _ => True) :
    Prog.Ends (orDropPool body) w returns (fun _ w' => SameEntry w w') fun _ => True := by
  unfold orDropPool
  refine Prog.Ends.attempt_bind ends ?_ ?_ fun _ _ => trivial
  · exact fun _ _ holds => Prog.Ends.pure holds
  · exact fun _ _ same => Prog.Ends.modify_bind (Prog.Ends.fail { same with })

theorem pollInstall_shows {installing : Installing} (installs : Installs mode w installing)
    (allowed : ∀ reply ∈ w.env.replies, Reply.Allowed mode reply) :
    Prog.Ends (pollInstall installing) w (InstallShows installing.config w)
      (fun _ w' => SameEntry w w') fun _ => True := by
  unfold pollInstall
  refine orDropPool_shows ?_
  cases installing with
  | opening config operation calls =>
      refine Prog.Ends.bind_of (awaited_looks allowed) ?_
        (fun _ _ failed => failed.1.viewed.looked.settings.entry) fun _ _ => trivial
      rintro _ w₁ ⟨consulted, -⟩
      have same := consulted.viewed.looked.settings.entry
      cases calls with
      | cons next calls => exact Prog.Ends.pure same
      | nil => exact Prog.Ends.modify_bind (Prog.Ends.get_bind (Prog.Ends.pure { same with }))
  | loading config loading =>
      obtain ⟨⟨g, building, unloaded⟩, free, startable, loads⟩ := installs
      refine Prog.Ends.bind_of (Loading.poll_ends building.rep unloaded building.prepared.shut
        (fun _ _ found => startable.legible found) loads) ?_ ?_ fun _ _ => trivial
      swap
      · rintro error w₁ ⟨⟨-, files, remakes, -⟩, -⟩
        exact remakes.settings.entry
      rintro (loading' | ⟨⟩) w₁ reached
      · exact Prog.Ends.pure reached.1.viewed.looked.settings.entry
      · obtain ⟨g', loaded⟩ := reached
        have idle : g'.staging = none := by
          rw [loaded.ledger]
          rfl
        have full : g'.loaded = true := by
          rw [loaded.ledger]
          rfl
        have built := building.of_settings loaded.settings loaded.rep idle
        have ready : w₁.Ready :=
          ⟨built.active, loaded.settings.busy.trans free, loaded.healthy⟩
        have same := loaded.settings.entry
        have resizable := built.resizable full loaded.healthy
        refine Prog.Ends.bind_of (Prog.Ends.get_bind (addCapacity_ends ready resizable _)) ?_ ?_
          fun _ impossible => impossible.elim
        · intro polled w₂ reaches
          refine (afterGrowth_shows (w := { w₁ with busy := true }) config
            built.prepared.readable reaches).mono ?_ ?_ fun _ _ => trivial
          · intro polled' w₃ later
            have before : SameEntry w { w₁ with busy := true } := { same with }
            exact InstallShows.after later before
          · exact fun _ _ later => same.trans { later with }
        · intro error w₂ givenUp
          exact same.trans { givenUp.standing with }
  | growing config growth =>
      obtain ⟨g, building, resizable, grows⟩ := installs
      refine Prog.Ends.bind_of (pollAddCapacity_ends resizable grows) ?_
        (fun _ _ givenUp => { givenUp.standing with }) fun _ _ => trivial
      exact fun polled w₁ reaches =>
        afterGrowth_shows config building.prepared.readable reaches

theorem createEntry_standing (file : String) (w : World) :
    SameStanding w (createEntry file w) := by
  unfold createEntry
  split
  · exact .refl w
  · exact ⟨rfl, rfl, rfl, rfl, rfl, rfl⟩

theorem createEntry_entry (file : String) (w : World) : SameEntry w (createEntry file w) := by
  unfold createEntry
  split
  · exact .refl w
  · exact ⟨rfl, rfl⟩

theorem Growth.inFlight_entry (growth : Growth) (w : World) : SameEntry w (growth.inFlight w) := by
  unfold Growth.inFlight
  cases growth.point with
  | creating file => exact createEntry_entry file w
  | acquiring file => exact .refl w
  | removing file error => exact ⟨rfl, rfl⟩

theorem cancelInstall_shows (allowed : ∀ reply ∈ w.env.replies, Reply.Allowed mode reply)
    (installing : Installing) : Prog.Ends (cancelInstall installing) w
      (fun _ w' => SameEntry w w') (fun _ _ => False) fun _ => True := by
  cases installing with
  | opening config operation calls => exact Prog.Ends.pure (.refl w)
  | loading config loading => exact Prog.Ends.modify ⟨rfl, rfl⟩
  | growing config growth =>
      have landed (env : Env) : SameEntry w (growth.inFlight { w with env }) := by
        have asked : SameEntry w { w with env } := ⟨rfl, rfl⟩
        exact asked.trans (growth.inFlight_entry _)
      have dropped {w' : World} (same : SameEntry w w') : Prog.Ends
          (Prog.modify dropPool : PoolM Unit) w' (fun _ w' => SameEntry w w') (fun _ _ => False)
          fun _ => True := Prog.Ends.modify { same with }
      refine Prog.Ends.attempt_bind (directoryCall_ends growth.inFlight allowed) ?_ ?_
        fun _ _ => trivial
      · rintro _ w' ⟨env, -, rfl⟩
        exact dropped (landed env)
      · rintro _ w' ⟨-, env, -, rfl | rfl⟩
        · exact dropped ⟨rfl, rfl⟩
        · exact dropped (landed env)

/-! ## Files that appear -/

def Pool.Iterates (pool : Pool) : Prop :=
  ∃ vfs loading, .resuming (.loading vfs loading) ∈ pool.system.operations

theorem Rep.appear (rep : Rep mode w g) {file : String} (absent : file ∉ w.directory) :
    Rep mode { w with directory := w.directory.insert file (Journal.settled []) } g := by
  have other_file {other : String} {content : SlotFile}
      (found : w.directory.lookup other = some content) : other ≠ file := by
    rintro rfl
    exact absent (AList.lookup_isSome.mp (by rw [found]; rfl))
  exact {
    allowed := rep.allowed
    disk := fun known => (rep.disk known).create absent
    unknown := rep.unknown
    unloaded := rep.unloaded
    nodup := rep.nodup
    mapped := rep.mapped
    owned := rep.owned
    available := fun other member => by
      obtain ⟨unowned, content, found, state⟩ := rep.available other member
      exact ⟨unowned, content, (AList.lookup_insert_ne (other_file found)).trans found, state⟩
    guarded := rep.guarded
    staged := fun other data staging => by
      obtain ⟨top, content, found, staged⟩ := rep.staged other data staging
      exact ⟨top, content, (AList.lookup_insert_ne (other_file found)).trans found, staged⟩
    quarantined := fun other member => by
      obtain ⟨suspect, present, unsure⟩ := rep.quarantined other member
      exact ⟨suspect, Rep.mem_directory_insert present, unsure⟩
    healthy := rep.healthy
    opened := rep.opened
    readable := rep.readable_insert (fun _ _ unowned calm => ⟨unowned, calm⟩) fun _ _ => rfl }

theorem Duty.appear {operation : Operation} (duty : Duty mode w g operation)
    (still : ∀ vfs loading, operation ≠ .resuming (.loading vfs loading)) {file : String}
    (absent : file ∉ w.directory) :
    Duty mode { w with directory := w.directory.insert file (Journal.settled []) } g operation := by
  cases operation with
  | importing target =>
      obtain ⟨slot, filename, data, eq, importing⟩ := duty
      exact ⟨slot, filename, data, eq, importing.active, importing.healthy, importing.staging,
        importing.vacant⟩
  | exporting source =>
      obtain ⟨slot, name, size, eq, exporting⟩ := duty
      exact ⟨slot, name, size, eq, exporting.active, exporting.healthy, exporting.idle,
        exporting.mapped, exporting.closed⟩
  | adding growth =>
      obtain ⟨resizable, grows⟩ := duty
      refine ⟨{ resizable with rep := resizable.rep.appear absent }, ?_⟩
      refine ⟨⟨grows.spare.nodup, grows.spare.apart, fun other member => ?_⟩, grows.apart,
        grows.fresh, fun other acquiring => ?_⟩
      · obtain ⟨content, found, fresh⟩ := grows.spare.fresh other member
        refine ⟨content, (AList.lookup_insert_ne ?_).trans found, fresh⟩
        rintro rfl
        exact absent (AList.lookup_isSome.mp (by rw [found]; rfl))
      · exact Rep.mem_directory_insert (grows.there other acquiring)
  | reducing shrink =>
      exact ⟨{ duty.1 with rep := duty.1.rep.appear absent }, duty.2.apart, duty.2.enough⟩
  | resuming resuming =>
      refine ⟨{ duty.1 with rep := duty.1.rep.appear absent }, ?_⟩
      cases resuming with
      | lease vfs => exact duty.2
      | loading vfs loading => exact absurd rfl (still vfs loading)

theorem Good.appear (good : Good mode s g) (file : String)
    (still : ∀ vfs loading, .resuming (.loading vfs loading) ∉ s.operations) :
    Good mode { s with world := createEntry file s.world } g := by
  unfold createEntry
  by_cases there : file ∈ s.world.directory
  · rw [if_pos there]
    exact good
  · rw [if_neg there]
    refine ⟨{ good.toSound with rep := good.rep.appear there }, ?_⟩
    have duties := good.duties
    change Duties mode _ g s.operations
    rcases operations : s.operations with _ | ⟨operation, _ | ⟨other, rest⟩⟩
    · rw [operations] at duties
      exact duties
    · rw [operations] at duties still
      refine ⟨duties.1, duties.2.appear (fun vfs loading same => ?_) there⟩
      exact still vfs loading (List.mem_singleton.mpr same.symm)
    · rw [operations] at duties
      exact duties.elim

end Sahpool

end SqliteVfs
