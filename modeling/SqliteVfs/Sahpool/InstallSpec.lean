import SqliteVfs.Sahpool.LifecycleSpec
import SqliteVfs.Sahpool.System

/-!
# Installing a pool

The runs of an installation from any directory, and the pool that a caller is handed at
their end.
-/

set_option autoImplicit false

namespace SqliteVfs

namespace Sahpool

variable {mode : Mode} {w w' w'' : World} {g g' : Ledger} {file name : String}
  {content content' : SlotFile}

/-! ## Runs of an installation -/

inductive Installation (allowed : Surroundings → Prop) (config : PoolConfig)
    (directory : AList fun _ : String => SlotFile) (name : String) : World → Installing → Prop
  | begin (around installing w) (here : allowed around)
      (run : (install config).run ((World.start directory name).facing around) =
        (.ok (.pending installing), w)) :
    Installation allowed config directory name w.silenced installing
  | poll (w installing around installing' w')
      (before : Installation allowed config directory name w installing) (here : allowed around)
      (run : (pollInstall installing).run (w.facing around) = (.ok (.pending installing'), w')) :
    Installation allowed config directory name w'.silenced installing'

inductive InstalledFrom (allowed : Surroundings → Prop) (config : PoolConfig)
    (directory : AList fun _ : String => SlotFile) (name : String) : World → Prop
  | finish (w installing around w')
      (before : Installation allowed config directory name w installing) (here : allowed around)
      (run : (pollInstall installing).run (w.facing around) = (.ok (.ready ()), w')) :
    InstalledFrom allowed config directory name w'.silenced

/-! ## What an installation keeps -/

/-- What is true all along: no handle is open, and SQLite can be asked for the name. -/
structure Prepared (w : World) : Prop where
  shut : ∀ file, w.openCount file = 0
  readable : 0 ∉ nameBytes w.name

structure Building (mode : Mode) (w : World) (g : Ledger) : Prop where
  prepared : Prepared w
  rep : Rep mode w g
  active : w.state = .active
  leased : w.lease = true
  idle : g.staging = none

/-- What a directory must be like for an installation to start on it: where crashes count,
nothing in it waits to be flushed. -/
def Startable (mode : Mode) (directory : AList fun _ : String => SlotFile) : Prop :=
  mode = .strict → ∀ file content, directory.lookup file = some content →
    ∃ contents, content = Journal.settled contents

theorem Startable.legible {directory : AList fun _ : String => SlotFile}
    (startable : Startable mode directory) (found : directory.lookup file = some content) :
    Legible mode content := by
  by_cases strict : mode = .strict
  · obtain ⟨contents, rfl⟩ := startable strict file content found
    exact legible_settled contents
  · exact legible_of_contents strict content

def Installs (mode : Mode) (w : World) : Installing → Prop
  | .opening _ _ _ => Prepared w ∧ Startable mode w.directory
  | .loading _ loading => (∃ g, Building mode w g ∧ g.loaded = false) ∧ w.busy = false ∧
      Startable mode w.directory ∧ Loads w loading
  | .growing _ growth => ∃ g, Building mode w g ∧ Resizable mode w g ∧ Grows w growth

structure Installed (mode : Mode) (config : PoolConfig) (w : World) (g : Ledger) : Prop where
  building : Building mode w g
  loaded : g.loaded = true
  free : w.busy = false
  healthy : w.needsRecovery = false
  registration : w.registration = some config.vfs

theorem Rep.facing (rep : Rep mode w g) {around : Surroundings}
    (allowed : ∀ reply ∈ around.env.replies, Reply.Allowed mode reply) :
    Rep mode (w.facing around) g :=
  rep.registered ⟨around.env, around.registry, allowed, rfl⟩

theorem Building.facing (building : Building mode w g) {around : Surroundings}
    (allowed : ∀ reply ∈ around.env.replies, Reply.Allowed mode reply) :
    Building mode (w.facing around) g where
  prepared := ⟨building.prepared.shut, building.prepared.readable⟩
  rep := building.rep.facing allowed
  active := building.active
  leased := building.leased
  idle := building.idle

theorem Resizable.facing (resizable : Resizable mode w g) {around : Surroundings}
    (allowed : ∀ reply ∈ around.env.replies, Reply.Allowed mode reply) :
    Resizable mode (w.facing around) g where
  rep := resizable.rep.facing allowed
  active := resizable.active
  healthy := resizable.healthy
  loaded := resizable.loaded
  idle := resizable.idle
  shut := resizable.shut

theorem Spare.facing {files : List String} (spare : Spare w files) (around : Surroundings) :
    Spare (w.facing around) files := ⟨spare.nodup, spare.apart, spare.fresh⟩

theorem Grows.facing {growth : Growth} (grows : Grows w growth) (around : Surroundings) :
    Grows (w.facing around) growth :=
  ⟨grows.spare.facing around, grows.apart, grows.fresh, grows.there⟩

theorem Installs.facing {installing : Installing} (installs : Installs mode w installing)
    {around : Surroundings} (allowed : ∀ reply ∈ around.env.replies, Reply.Allowed mode reply) :
    Installs mode (w.facing around) installing := by
  cases installing with
  | opening config operation calls =>
      exact ⟨⟨installs.1.shut, installs.1.readable⟩, installs.2⟩
  | loading config loading =>
      obtain ⟨⟨g, building, unloaded⟩, free, startable, loads⟩ := installs
      exact ⟨⟨g, building.facing allowed, unloaded⟩, free, startable, loads.distinct, loads.all⟩
  | growing config growth =>
      obtain ⟨g, building, resizable, grows⟩ := installs
      exact ⟨g, building.facing allowed, resizable.facing allowed, grows.facing around⟩

theorem Installs.silenced {installing : Installing} (installs : Installs mode w installing) :
    Installs mode w.silenced installing := by
  have facing : Installs mode (w.facing ⟨Env.silent, w.registry⟩) installing :=
    installs.facing nofun
  exact facing

theorem Building.silenced (building : Building mode w g) : Building mode w.silenced g := by
  have facing : Building mode (w.facing ⟨Env.silent, w.registry⟩) g := building.facing nofun
  exact facing

/-! ## The polls -/

def unread : Ledger where
  entry _ := .absent
  owner _ := none
  staging := none
  known := false
  loaded := false

theorem rep_newPool (allowed : ∀ reply ∈ w.env.replies, Reply.Allowed mode reply) :
    Rep mode (newPool w) unread where
  allowed := allowed
  disk := nofun
  unknown _ := ⟨fun _ => rfl, rfl⟩
  unloaded _ := ⟨rfl, rfl, rfl⟩
  nodup := List.nodup_nil
  mapped name file mapped := by
    change AList.lookup name (∅ : AList fun _ : String => String) = some file at mapped
    rw [AList.lookup_empty] at mapped
    exact nomatch mapped
  owned := nofun
  available := nofun
  guarded := nofun
  staged := nofun
  quarantined := nofun
  healthy := nofun
  opened name file mapped := by
    change AList.lookup name (∅ : AList fun _ : String => String) = some file at mapped
    rw [AList.lookup_empty] at mapped
    exact nomatch mapped
  readable := nofun

def Installing.config : Installing → PoolConfig
  | .opening config _ _ => config
  | .loading config _ => config
  | .growing config _ => config

def InstallReaches (mode : Mode) (config : PoolConfig) : Poll Installing Unit → World → Prop :=
  Poll.Holds (fun installing w' => Installs mode w' installing ∧ installing.config = config)
    fun _ w' => ∃ g', Installed mode config w' g'

theorem Building.resizable (building : Building mode w g) (loaded : g.loaded = true)
    (healthy : w.needsRecovery = false) : Resizable mode { w with busy := true } g where
  rep := building.rep.guard nofun
  active := building.active
  healthy := healthy
  loaded := loaded
  idle := building.idle
  shut file _ := building.prepared.shut file

theorem Building.of_settings (building : Building mode w g) (settings : SameSettings w w')
    (rep : Rep mode w' g') (idle : g'.staging = none) : Building mode w' g' where
  prepared := {
    shut := fun file => (congrFun settings.openCount file).trans (building.prepared.shut file)
    readable := by
      rw [settings.name]
      exact building.prepared.readable }
  rep := rep
  active := settings.state.trans building.active
  leased := settings.lease.trans building.leased
  idle := idle

theorem registerPool_ends (building : Building mode w g) (loaded : g.loaded = true)
    (free : w.busy = false) (healthy : w.needsRecovery = false) (config : PoolConfig) :
    Prog.Ends (registerPool config) w
      (fun _ w' => Installed mode config w' g ∧ w'.directory = w.directory)
      (fun _ w' => w'.directory = w.directory) fun _ => False := by
  unfold registerPool
  refine Prog.Ends.get_bind (Prog.Ends.ite (fun _ => Prog.Ends.fail rfl) fun _ => ?_)
  refine Prog.Ends.after_ok (registeredVfs_run building.prepared.readable)
    (Prog.Ends.ite (fun _ => Prog.Ends.fail rfl) fun _ => ?_)
  refine Prog.Ends.bind_sure (vfsRegister_ends building.rep.allowed config.vfs config.defaultVfs) ?_
  rintro code next (⟨rfl, env, allowed, rfl⟩ | ⟨code, rfl, -, consulted⟩)
  · refine Prog.Ends.modify ⟨⟨?_, loaded, free, healthy, rfl⟩, rfl⟩
    exact {
      prepared := ⟨building.prepared.shut, building.prepared.readable⟩
      rep := { building.rep with allowed := allowed }
      active := building.active
      leased := building.leased
      idle := building.idle }
  · exact Prog.Ends.fail consulted.directory

/-- The directory of a pool that has got no further than other slots. -/
def Extends (mode : Mode) (w : World) (g : Ledger) (directory : AList fun _ : String => SlotFile) :
    Prop :=
  ∃ w₁, Rep mode w₁ g ∧ w.Beyond w₁ ∧ w₁.directory = directory

def FinishReaches (mode : Mode) (config : PoolConfig) (w : World) (g : Ledger) :
    Poll Installing Unit → World → Prop :=
  Poll.Holds
    (fun installing w' => ∃ growth, installing = .growing config growth ∧ Building mode w' g ∧
      Resizable mode w' g ∧ Grows w' growth ∧ Extends mode w g w'.directory)
    fun _ w' => Installed mode config w' g ∧ Extends mode w g w'.directory

theorem afterGrowth_ends (building : Building mode w g) (resizable : Resizable mode w g)
    (config : PoolConfig) {polled : Poll Growth Nat} (reaches : AddReaches mode w g polled w') :
    Prog.Ends (afterGrowth config polled) w' (FinishReaches mode config w g)
      (fun _ w' => Extends mode w g w'.directory) fun _ => False := by
  cases polled with
  | pending growth =>
      obtain ⟨rep, beyond, grows⟩ := reaches
      refine Prog.Ends.pure ⟨growth, rfl, building.of_settings beyond.settings rep building.idle,
        resizable.of_beyond beyond rep, grows, w', rep, beyond, rfl⟩
  | ready count =>
      obtain ⟨w₁, added, rep₁, beyond, spare, rep, -, rfl⟩ := reaches
      have settings := beyond.settings
      have built : Building mode
          { w₁ with availableFiles := w₁.availableFiles ++ added, busy := false } g := {
        prepared := {
          shut := fun file =>
            (congrFun settings.openCount file).trans (building.prepared.shut file)
          readable := by
            have same : w₁.name = w.name := settings.name
            change 0 ∉ nameBytes w₁.name
            rw [same]
            exact building.prepared.readable }
        rep := rep
        active := settings.state.trans building.active
        leased := settings.lease.trans building.leased
        idle := building.idle }
      have healthy := beyond.still.suspect.trans resizable.healthy
      refine Prog.Ends.bind_of (registerPool_ends built resizable.loaded rfl healthy config) ?_
        (fun _ w' same => ⟨w₁, rep₁, beyond, same.symm⟩) fun _ impossible => impossible.elim
      exact fun _ w' installed =>
        Prog.Ends.pure ⟨installed.1, w₁, rep₁, beyond, installed.2.symm⟩

theorem orDropPool_ends {α : Type} {body : PoolM α} {returns : α → World → Prop}
    {P : (AList fun _ : String => SlotFile) → Prop}
    (ends : Prog.Ends body w returns (fun _ w' => P w'.directory) fun w' => P w'.directory) :
    Prog.Ends (orDropPool body) w returns (fun _ w' => P w'.directory)
      fun w' => P w'.directory := by
  unfold orDropPool
  refine Prog.Ends.attempt_bind ends ?_ ?_ fun _ left => left
  · exact fun _ _ holds => Prog.Ends.pure holds
  · exact fun _ _ left => Prog.Ends.modify_bind (Prog.Ends.fail left)

/-- What an installation makes of the directory it started on: of the pool, once the directory
has been read, and of the directory, wherever it stops. -/
structure InstallRule (mode : Mode) (directory : AList fun _ : String => SlotFile) (clear : Bool)
    (P : (AList fun _ : String => SlotFile) → Ledger → Prop)
    (Q : (AList fun _ : String => SlotFile) → Prop) : Prop where
  start : Q directory
  stops : ∀ w w', w.directory = directory → LoadStops mode clear w w' → Q w'.directory
  reads : ∀ w w' g, w.directory = directory → Loaded mode clear w w' g → P w'.directory g
  further : ∀ w g directory', P w.directory g → Rep mode w g → g.loaded = true →
    Extends mode w g directory' → P directory' g
  keeps : ∀ directory' g, P directory' g → Q directory'

def InstallsOn (mode : Mode) (directory : AList fun _ : String => SlotFile) (clear : Bool)
    (P : (AList fun _ : String => SlotFile) → Ledger → Prop) (w : World) : Installing → Prop
  | .opening config _ _ => Prepared w ∧ w.directory = directory ∧ config.clearOnInit = clear
  | .loading _ loading => (∃ g, Building mode w g ∧ g.loaded = false) ∧ w.busy = false ∧
      w.directory = directory ∧ Loads w loading ∧ loading.clear = clear
  | .growing _ growth => ∃ g, Building mode w g ∧ Resizable mode w g ∧ Grows w growth ∧
      P w.directory g

def OnReaches (mode : Mode) (directory : AList fun _ : String => SlotFile) (clear : Bool)
    (P : (AList fun _ : String => SlotFile) → Ledger → Prop) (config : PoolConfig) :
    Poll Installing Unit → World → Prop :=
  Poll.Holds (fun installing w' => InstallsOn mode directory clear P w' installing ∧
      installing.config = config)
    fun _ w' => ∃ g, Installed mode config w' g ∧ P w'.directory g

namespace InstallRule

variable {directory : AList fun _ : String => SlotFile} {clear : Bool}
  {P : (AList fun _ : String => SlotFile) → Ledger → Prop}
  {Q : (AList fun _ : String => SlotFile) → Prop} {installing : Installing}
  (rule : InstallRule mode directory clear P Q)

include rule

theorem here (installs : InstallsOn mode directory clear P w installing) : Q w.directory := by
  cases installing with
  | opening config operation calls =>
      rw [installs.2.1]
      exact rule.start
  | loading config loading =>
      rw [installs.2.2.1]
      exact rule.start
  | growing config growth =>
      obtain ⟨g, -, -, -, known⟩ := installs
      exact rule.keeps _ g known

theorem finish {config : PoolConfig} {polled : Poll Installing Unit} (known : P w.directory g)
    (rep : Rep mode w g) (loaded : g.loaded = true)
    (reaches : FinishReaches mode config w g polled w') :
    OnReaches mode directory clear P config polled w' := by
  cases polled with
  | pending installing =>
      obtain ⟨growth, rfl, building, resizable, grows, further⟩ := reaches
      exact ⟨⟨g, building, resizable, grows, rule.further w g _ known rep loaded further⟩, rfl⟩
  | ready value => exact ⟨g, reaches.1, rule.further w g _ known rep loaded reaches.2⟩

/-- The last part of an installation, from a pool that has read its directory. -/
theorem grow {config : PoolConfig} {x : PoolM (Poll Growth Nat)} {w₀ : World}
    (building : Building mode w g) (resizable : Resizable mode w g) (known : P w.directory g)
    (grows : Prog.Ends x w₀ (AddReaches mode w g) (fun _ w' => GivenUp mode w g w')
      fun w' => ∃ w₁, Rep mode w₁ g ∧ w.Beyond w₁ ∧ w₁.directory = w'.directory) :
    Prog.Ends (x >>= afterGrowth config) w₀ (OnReaches mode directory clear P config)
      (fun _ w' => Q w'.directory) fun w' => Q w'.directory := by
  have stopped {w' : World} (further : Extends mode w g w'.directory) : Q w'.directory :=
    rule.keeps _ g (rule.further w g _ known resizable.rep resizable.loaded further)
  apply Prog.Ends.bind_of grows
  · intro polled w₁ reaches
    apply (afterGrowth_ends building resizable config reaches).mono
    · intro polled' w₂ finished
      exact rule.finish known resizable.rep resizable.loaded finished
    · exact fun _ _ further => stopped further
    · exact fun _ impossible => impossible.elim
  · rintro _ w₁ ⟨w₂, rep, beyond, -, rfl⟩
    exact stopped ⟨w₂, rep, beyond, rfl⟩
  · exact fun _ further => stopped further

theorem poll (installs : InstallsOn mode directory clear P w installing)
    (startable : Startable mode directory)
    (allowed : ∀ reply ∈ w.env.replies, Reply.Allowed mode reply) :
    Prog.Ends (pollInstall installing) w (OnReaches mode directory clear P installing.config)
      (fun _ w' => Q w'.directory) fun w' => Q w'.directory := by
  unfold pollInstall
  apply orDropPool_ends
  cases installing with
  | opening config operation calls =>
      obtain ⟨prepared, same, clears⟩ := installs
      have looked {w' : World} (consulted : w.Consulted mode w') : Q w'.directory := by
        rw [consulted.directory, same]
        exact rule.start
      apply Prog.Ends.bind_of (awaited_looks allowed)
      · rintro _ w₁ ⟨⟨⟨env, rfl⟩, allowed₁⟩, -⟩
        cases calls with
        | cons next calls =>
            exact Prog.Ends.pure ⟨⟨⟨prepared.shut, prepared.readable⟩, same, clears⟩, rfl⟩
        | nil =>
            refine Prog.Ends.modify_bind (Prog.Ends.get_bind (Prog.Ends.pure ?_))
            exact ⟨⟨⟨unread, ⟨⟨prepared.shut, prepared.readable⟩, rep_newPool allowed₁, rfl, rfl,
              rfl⟩, rfl⟩, rfl, same, loads_start _, clears⟩, rfl⟩
      · exact fun _ _ failed => looked failed.1
      · exact fun _ consulted => looked consulted
  | loading config loading =>
      obtain ⟨⟨g, building, unloaded⟩, free, same, loads, clears⟩ := installs
      have legible (file : String) (content : SlotFile)
          (found : w.directory.lookup file = some content) : Legible mode content := by
        rw [same] at found
        exact startable.legible found
      have polls := Loading.poll_ends building.rep unloaded building.prepared.shut legible loads
      rw [clears] at polls
      apply Prog.Ends.bind_of polls
      · rintro (loading' | ⟨⟩) w₁ reached
        · obtain ⟨consulted, loads', clears'⟩ := reached
          have looked := consulted.viewed.looked
          exact Prog.Ends.pure ⟨⟨⟨g, building.of_settings looked.settings
            (consulted.rep building.rep) building.idle, unloaded⟩,
            looked.settings.busy.trans free, consulted.directory.trans same, loads', clears'⟩, rfl⟩
        · obtain ⟨g', loaded⟩ := reached
          have idle : g'.staging = none := by
            rw [loaded.ledger]
            rfl
          have full : g'.loaded = true := by
            rw [loaded.ledger]
            rfl
          have built := building.of_settings loaded.settings loaded.rep idle
          have ready : w₁.Ready :=
            ⟨built.active, loaded.settings.busy.trans free, loaded.healthy⟩
          have resizable := built.resizable full loaded.healthy
          have guarded : Building mode { w₁ with busy := true } g' :=
            ⟨⟨built.prepared.shut, built.prepared.readable⟩, resizable.rep, built.active,
              built.leased, idle⟩
          apply rule.grow guarded resizable (rule.reads w w₁ g' same loaded)
          apply Prog.Ends.get_bind
          exact (addCapacity_ends ready resizable _).mono (fun _ _ grown => grown)
            (fun _ _ stopped => stopped) fun _ impossible => impossible.elim
      · exact fun _ w₁ failed => rule.stops w w₁ same failed.1
      · rintro w₁ ⟨w₂, stops, landed⟩
        rw [← landed]
        exact rule.stops w w₂ same stops
  | growing config growth =>
      obtain ⟨g, building, resizable, grows, known⟩ := installs
      exact rule.grow building resizable known (pollAddCapacity_ends resizable grows)

theorem cancel (installs : InstallsOn mode directory clear P w installing) :
    Prog.Ends (cancelInstall installing) w (fun _ w' => Q w'.directory) (fun _ _ => False)
      fun w' => Q w'.directory := by
  have here := rule.here installs
  cases installing with
  | opening config operation calls => exact Prog.Ends.pure here
  | loading config loading => exact Prog.Ends.modify here
  | growing config growth =>
      obtain ⟨g, building, resizable, grows, known⟩ := installs
      have stopped {w' : World} (further : Extends mode w g w'.directory) : Q w'.directory :=
        rule.keeps _ g (rule.further w g _ known resizable.rep resizable.loaded further)
      have dropped {w' : World} (landed : Rep mode w' g ∧ w.Beyond w') :
          Prog.Ends (Prog.modify dropPool : PoolM Unit) w' (fun _ w' => Q w'.directory)
            (fun _ _ => False) fun w' => Q w'.directory := by
        have left : Q w'.directory := stopped ⟨w', landed.1, landed.2, rfl⟩
        exact Prog.Ends.modify left
      apply Prog.Ends.attempt_bind (inFlight_ends resizable grows)
      · exact fun _ _ landed => dropped landed
      · exact fun _ _ landed => dropped landed
      · exact fun _ further => stopped further

end InstallRule

theorem installRule_any (directory : AList fun _ : String => SlotFile) (clear : Bool) :
    InstallRule mode directory clear (fun _ _ => True) fun _ => True where
  start := trivial
  stops _ _ _ _ := trivial
  reads _ _ _ _ _ := trivial
  further _ _ _ _ _ _ _ := trivial
  keeps _ _ _ := trivial

theorem startable_empty : Startable mode ∅ := by
  intro _ file content found
  rw [AList.lookup_empty] at found
  cases found

theorem Installs.started {installing : Installing} (installs : Installs mode w installing) :
    ∃ directory clear, Startable mode directory ∧
      InstallsOn mode directory clear (fun _ _ => True) w installing := by
  cases installing with
  | opening config operation calls => exact ⟨_, _, installs.2, installs.1, rfl, rfl⟩
  | loading config loading =>
      obtain ⟨building, free, startable, loads⟩ := installs
      exact ⟨_, _, startable, building, free, rfl, loads, rfl⟩
  | growing config growth =>
      obtain ⟨g, building, resizable, grows⟩ := installs
      exact ⟨∅, true, startable_empty, g, building, resizable, grows, trivial⟩

theorem InstallsOn.installs {directory : AList fun _ : String => SlotFile} {clear : Bool}
    {P : (AList fun _ : String => SlotFile) → Ledger → Prop} {installing : Installing}
    (installs : InstallsOn mode directory clear P w installing)
    (startable : Startable mode directory) : Installs mode w installing := by
  cases installing with
  | opening config operation calls =>
      obtain ⟨prepared, rfl, -⟩ := installs
      exact ⟨prepared, startable⟩
  | loading config loading =>
      obtain ⟨building, free, rfl, loads, -⟩ := installs
      exact ⟨building, free, startable, loads⟩
  | growing config growth =>
      obtain ⟨g, building, resizable, grows, -⟩ := installs
      exact ⟨g, building, resizable, grows⟩

theorem pollInstall_ends {installing : Installing} (installs : Installs mode w installing)
    (allowed : ∀ reply ∈ w.env.replies, Reply.Allowed mode reply) :
    Prog.Ends (pollInstall installing) w (InstallReaches mode installing.config)
      (fun _ _ => True) fun _ => True := by
  obtain ⟨directory, clear, startable, started⟩ := installs.started
  apply ((installRule_any directory clear).poll started startable allowed).mono
  · intro polled w' reaches
    cases polled with
    | pending installing' => exact ⟨reaches.1.installs startable, reaches.2⟩
    | ready value =>
        obtain ⟨g, installed, -⟩ := reaches
        exact ⟨g, installed⟩
  · exact fun _ _ _ => trivial
  · exact fun _ _ => trivial

/-! ## The whole installation -/

def Surroundings.Allowed (mode : Mode) (around : Surroundings) : Prop :=
  ∀ reply ∈ around.env.replies, Reply.Allowed mode reply

variable {allowed : Surroundings → Prop} {config : PoolConfig}
  {directory : AList fun _ : String => SlotFile} {installing : Installing}

/-- The name was looked up once, so it can be looked up. -/
theorem install_pending (run : (install config).run w = (.ok (.pending installing), w')) :
    0 ∉ nameBytes w.name ∧ w' = w ∧
      installing = .opening config "get OPFS root" openingCalls := by
  unfold install at run
  rw [Prog.get_bind] at run
  by_cases unreadable : 0 ∈ nameBytes w.name
  · have refused : (registeredVfs w.name).run w = (.err (.vfs .toCStr), w) := by
      unfold registeredVfs
      rw [if_pos unreadable]
      rfl
    rw [Prog.bind_err refused] at run
    exact nomatch congrArg Prod.fst run
  · rw [Prog.bind_ok (registeredVfs_run unreadable)] at run
    split at run
    · exact nomatch congrArg Prod.fst run
    · cases run
      exact ⟨unreadable, rfl, rfl⟩

theorem Installation.installs (running : Installation allowed config directory name w installing)
    (answers : ∀ around, allowed around → around.Allowed mode)
    (startable : Startable mode directory) :
    Installs mode w installing ∧ installing.config = config := by
  induction running with
  | begin around installing w here run =>
      obtain ⟨readable, rfl, rfl⟩ := install_pending run
      exact ⟨⟨⟨fun _ => rfl, readable⟩, startable⟩, rfl⟩
  | poll w installing around installing' w' before here run ih =>
      obtain ⟨installs, same⟩ := ih
      obtain ⟨installs', same'⟩ := (pollInstall_ends (installs.facing (answers around here))
        (answers around here)).ok run
      exact ⟨installs'.silenced, same'.trans same⟩

theorem Installed.silenced (installed : Installed mode config w g) :
    Installed mode config w.silenced g where
  building := installed.building.silenced
  loaded := installed.loaded
  free := installed.free
  healthy := installed.healthy
  registration := installed.registration

section

variable {clear : Bool} {P : (AList fun _ : String => SlotFile) → Ledger → Prop}
  {Q : (AList fun _ : String => SlotFile) → Prop}

theorem InstallsOn.facing (installs : InstallsOn mode directory clear P w installing)
    {around : Surroundings} (allowed : around.Allowed mode) :
    InstallsOn mode directory clear P (w.facing around) installing := by
  cases installing with
  | opening config operation calls =>
      exact ⟨⟨installs.1.shut, installs.1.readable⟩, installs.2⟩
  | loading config loading =>
      obtain ⟨⟨g, building, unloaded⟩, free, same, loads, clears⟩ := installs
      exact ⟨⟨g, building.facing allowed, unloaded⟩, free, same, ⟨loads.distinct, loads.all⟩,
        clears⟩
  | growing config growth =>
      obtain ⟨g, building, resizable, grows, known⟩ := installs
      exact ⟨g, building.facing allowed, resizable.facing allowed, grows.facing around, known⟩

theorem Surroundings.allowed_silent (w : World) :
    Surroundings.Allowed mode ⟨Env.silent, w.registry⟩ := by
  intro reply member
  cases member

theorem InstallRule.installation (rule : InstallRule mode directory config.clearOnInit P Q)
    (running : Installation allowed config directory name w installing)
    (answers : ∀ around, allowed around → around.Allowed mode)
    (startable : Startable mode directory) :
    InstallsOn mode directory config.clearOnInit P w installing ∧ installing.config = config := by
  induction running with
  | begin around installing w here run =>
      obtain ⟨readable, rfl, rfl⟩ := install_pending run
      exact ⟨⟨⟨fun _ => rfl, readable⟩, rfl, rfl⟩, rfl⟩
  | poll w installing around installing' w' before here run ih =>
      obtain ⟨installs, same⟩ := ih
      obtain ⟨installs', same'⟩ := (rule.poll (installs.facing (answers around here)) startable
        (answers around here)).ok run
      exact ⟨installs'.facing (Surroundings.allowed_silent w'), same'.trans same⟩

theorem InstallRule.installed (rule : InstallRule mode directory config.clearOnInit P Q)
    (from_directory : InstalledFrom allowed config directory name w)
    (answers : ∀ around, allowed around → around.Allowed mode)
    (startable : Startable mode directory) :
    ∃ g, Installed mode config w g ∧ P w.directory g := by
  cases from_directory with
  | finish w installing around w' before here run =>
      obtain ⟨installs, rfl⟩ := rule.installation before answers startable
      obtain ⟨g, installed, known⟩ := (rule.poll (installs.facing (answers around here)) startable
        (answers around here)).ok run
      exact ⟨g, installed.silenced, known⟩

end

theorem Installation.mono {allowed' : Surroundings → Prop}
    (running : Installation allowed config directory name w installing)
    (wider : ∀ around, allowed around → allowed' around) :
    Installation allowed' config directory name w installing := by
  induction running with
  | begin around installing w here run => exact .begin around installing w (wider around here) run
  | poll w installing around installing' w' before here run ih =>
      exact .poll w installing around installing' w' ih (wider around here) run

theorem InstalledFrom.mono {allowed' : Surroundings → Prop}
    (from_directory : InstalledFrom allowed config directory name w)
    (wider : ∀ around, allowed around → allowed' around) :
    InstalledFrom allowed' config directory name w := by
  cases from_directory with
  | finish w installing around w' before here run =>
      exact .finish w installing around w' (before.mono wider) (wider around here) run

/-- Whatever was in the directory, an installed pool is a faithful one. -/
theorem InstalledFrom.installed (from_directory : InstalledFrom allowed config directory name w)
    (answers : ∀ around, allowed around → around.Allowed mode)
    (startable : Startable mode directory) : ∃ g, Installed mode config w g := by
  cases from_directory with
  | finish w installing around w' before here run =>
      obtain ⟨installs, rfl⟩ := before.installs answers startable
      obtain ⟨g, installed⟩ := (pollInstall_ends (installs.facing (answers around here))
        (answers around here)).ok run
      exact ⟨g, installed.silenced⟩

end Sahpool

end SqliteVfs
