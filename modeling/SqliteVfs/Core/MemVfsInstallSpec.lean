import SqliteVfs.Core.MemVfsInstallRun

/-!
# What an installation does

Where SQLite need not be initialized, `install` either meets a foreign VFS of its name and
changes nothing, or ends with its own allocation registered first under that name.  From
this follow the automatic initialization, and every call that may start one.
-/

set_option autoImplicit false

namespace SqliteVfs

namespace MemVfsInstall

variable {s t : State} {pending : Option Nat} {makeDflt : Bool}

def State.created (s : State) : State :=
  { s with allocations := s.allocations ++ [⟨∅, [], 0⟩] }

abbrev State.Quiet (s : State) : Prop := s.isInit = true ∨ s.inProgress = true

theorem initialize_quiet {o : M Empty (Option VfsErrorCode)} (quiet : s.Quiet) :
    (initializeWith o).run s = (.ok none, s) := by
  unfold initializeWith
  rw [Prog.get_bind, if_pos quiet]
  rfl

/-! ## Allocating -/

theorem created_own (s : State) : s.created.Dangling (.own s.allocations.length) = false ∨
    s.allocations.length ∈ s.freed := by
  by_cases freed : s.allocations.length ∈ s.freed
  · exact .inr freed
  · refine .inl (dangling_own.mpr ⟨?_, freed⟩)
    unfold State.created
    simp

theorem Holds.fresh (holds : Holds pending s) : s.allocations.length ∉ s.freed :=
  fun member => (holds.known _ member).false

theorem Holds.created_alive (holds : Holds pending s) :
    s.created.Dangling (.own s.allocations.length) = false :=
  (created_own s).resolve_right holds.fresh

theorem created_dangling {vfs : Vfs} (alive : s.Dangling vfs = false) :
    s.created.Dangling vfs = false := by
  cases vfs with
  | own allocation =>
      obtain ⟨inside, kept⟩ := dangling_own.mp alive
      refine dangling_own.mpr ⟨?_, kept⟩
      unfold State.created
      rw [List.length_append]
      omega
  | foreign => rfl

theorem Holds.unlisted (holds : Holds pending s) : .own s.allocations.length ∉ s.vfsList :=
  fun member => (dangling_own.mp (holds.clean _ member)).1.false

theorem Holds.unowned (holds : Holds pending s) : s.memVfs ≠ some (.own s.allocations.length) := by
  intro same
  obtain ⟨allocation, -, alive⟩ := holds.living _ same
  exact (dangling_own.mp alive).1.false

theorem Holds.created (holds : Holds none s) : Holds (some s.allocations.length) s.created where
  living vfs same := by
    obtain ⟨allocation, own, alive⟩ := holds.living vfs same
    exact ⟨allocation, own, created_dangling alive⟩
  accounted allocation inside := by
    unfold State.created at inside
    rw [List.length_append, List.length_singleton] at inside
    rcases Nat.lt_succ_iff_lt_or_eq.mp inside with inside | rfl
    · exact (holds.accounted allocation inside).imp_right fun rest =>
        .inl (rest.resolve_right nofun)
    · exact .inr (.inr rfl)
  known allocation member := by
    unfold State.created
    rw [List.length_append]
    have := holds.known allocation member
    omega
  once := holds.once
  clean vfs member := created_dangling (holds.clean vfs member)
  spare allocation same := by
    cases same
    exact ⟨holds.created_alive, holds.unowned, holds.unlisted⟩

/-- A pending allocation that is freed leaves nothing behind. -/
theorem Holds.freed {allocation : Nat} (holds : Holds (some allocation) s) :
    Holds none { s with freed := s.freed ++ [allocation] } := by
  obtain ⟨alive, unowned, unlisted⟩ := holds.spare allocation rfl
  obtain ⟨inside, kept⟩ := dangling_own.mp alive
  have still : ∀ vfs, s.Dangling vfs = false → vfs ≠ .own allocation →
      State.Dangling { s with freed := s.freed ++ [allocation] } vfs = false := by
    intro vfs alive different
    cases vfs with
    | own other =>
        obtain ⟨inside, kept⟩ := dangling_own.mp alive
        refine dangling_own.mpr ⟨inside, fun member => ?_⟩
        rcases List.mem_append.mp member with member | member
        · exact kept member
        · exact different (congrArg Vfs.own (List.mem_singleton.mp member))
    | foreign => rfl
  constructor
  · intro vfs same
    obtain ⟨other, own, alive⟩ := holds.living vfs same
    refine ⟨other, own, still vfs alive ?_⟩
    rintro rfl
    exact unowned same
  · intro other inside
    rcases holds.accounted other inside with same | member | same
    · exact .inl same
    · exact .inr (.inl (List.mem_append_left _ member))
    · cases same
      exact .inr (.inl (List.mem_append_right _ (List.mem_singleton_self _)))
  · intro other member
    rcases List.mem_append.mp member with member | member
    · exact holds.known other member
    · rw [List.mem_singleton.mp member]
      exact inside
  · refine holds.once.append (by simp) ?_
    simpa using kept
  · intro vfs member
    refine still vfs (holds.clean vfs member) ?_
    rintro rfl
    exact unlisted member
  · exact nofun

theorem Holds.adopted (makeDflt : Bool) (holds : Holds pending s) (vacant : s.memVfs = none) :
    Holds pending { s.created with
      vfsList := LinkedList.link id (.own s.allocations.length) makeDflt s.vfsList
      memVfs := some (.own s.allocations.length) } where
  living vfs same := by
    cases same
    exact ⟨_, rfl, holds.created_alive⟩
  accounted allocation inside := by
    simp only [State.created, List.length_append, List.length_singleton] at inside
    rcases Nat.lt_succ_iff_lt_or_eq.mp inside with inside | rfl
    · refine .inr ((holds.accounted allocation inside).resolve_left ?_)
      rw [vacant]
      exact nofun
    · exact .inl rfl
  known allocation member := by
    simp only [State.created, List.length_append]
    have := holds.known allocation member
    omega
  once := holds.once
  clean vfs member := by
    rcases LinkedList.mem_link.mp member with rfl | ⟨member, -⟩
    · exact holds.created_alive
    · exact created_dangling (holds.clean vfs member)
  spare allocation same := by
    obtain ⟨alive, -, absent⟩ := holds.spare allocation same
    have different : allocation ≠ s.allocations.length := by
      rintro rfl
      exact (dangling_own.mp alive).1.false
    refine ⟨created_dangling alive, fun owned => ?_, fun member => ?_⟩
    · injection owned with owned
      injection owned with owned
      exact different owned.symm
    · rcases LinkedList.mem_link.mp member with same | ⟨member, -⟩
      · injection same with same
        exact different same
      · exact absent member

/-! ## Installing where SQLite need not be initialized -/

/-- The library's own VFS is `allocation`, and the first one of its name. -/
structure Installed (s t : State) (allocation : Nat) : Prop extends Keeps s t where
  owned : t.memVfs = some (.own allocation)
  found : t.found = some (.own allocation)
  isInit : t.isInit = s.isInit
  inProgress : t.inProgress = s.inProgress
  replies : t.replies = s.replies
  freed : t.freed = s.freed

variable {o : M Empty (Option VfsErrorCode)} {allocation : Nat}

theorem checkRegistered_run (registered : Option Vfs)
    (owned : ∀ vfs ∈ registered, s.memVfs = some vfs) :
    (checkRegistered registered).run s = (.ok (), s) := by
  rcases registered with _ | vfs
  · rfl
  · unfold checkRegistered checkOwned
    rw [Prog.get_bind, if_neg (not_not.mpr (owned vfs rfl))]
    rfl

theorem checkRegistered_conflict {vfs : Vfs} (foreign : s.memVfs ≠ some vfs) :
    (checkRegistered (some vfs)).run s = (.err (.nameConflict vfsName), s) := by
  unfold checkRegistered checkOwned
  rw [Prog.get_bind, if_pos foreign]
  rfl

theorem installNew_quiet (quiet : s.Quiet) (holds : Holds pending s) :
    (installNew (initializeWith o) makeDflt).run s =
      (.ok (.own s.allocations.length), { s.created with
        vfsList := LinkedList.link id (.own s.allocations.length) makeDflt s.vfsList
        memVfs := some (.own s.allocations.length) }) := by
  have run : (initializeWith o).run s.created = (.ok none, s.created) := initialize_quiet quiet
  have clean : ∀ vfs ∈ s.created.vfsList, s.created.Dangling vfs = false :=
    fun vfs member => created_dangling (holds.clean vfs member)
  unfold installNew
  rw [Prog.bind_ok (show allocate.run s = (.ok (.own s.allocations.length), s.created) from rfl),
    Prog.bind_ok (vfsRegister_ok run clean)]
  rfl

theorem installOwned_quiet (quiet : s.Quiet) (holds : Holds pending s) {registered : Option Vfs}
    {vfs : Vfs} :
    (installOwned (initializeWith o) makeDflt registered vfs).run s = (.ok vfs,
      if registered = none ∨ makeDflt = true then
        { s with vfsList := LinkedList.link id vfs makeDflt s.vfsList }
      else s) := by
  unfold installOwned
  split
  · rw [Prog.bind_ok (vfsRegister_ok (initialize_quiet quiet) holds.clean)]
    rfl
  · rfl

/-- Either a foreign VFS has the name, or the library's own one is the first of that name. -/
theorem install_quiet (makeDflt : Bool) (quiet : s.Quiet) (holds : Holds pending s) :
    ((∃ vfs, s.found = some vfs ∧ s.memVfs ≠ some vfs) ∧
      (install (initializeWith o) makeDflt).run s = (.err (.nameConflict vfsName), s)) ∨
    ((s.found = none ∨ s.found = s.memVfs) ∧
      ∃ allocation t, (install (initializeWith o) makeDflt).run s = (.ok allocation, t) ∧
        Holds pending t ∧ Installed s t allocation ∧
        (makeDflt = true → ∃ rest, t.vfsList = .own allocation :: rest)) := by
  have looked : (vfsFind (initializeWith o) vfsName : M RegisterVfsError _).run s =
      (.ok s.found, s) := vfsFind_ok _ (initialize_quiet quiet) holds.clean
  unfold install
  rw [Prog.bind_ok looked]
  by_cases conflict : ∃ vfs, s.found = some vfs ∧ s.memVfs ≠ some vfs
  · obtain ⟨vfs, found, foreign⟩ := conflict
    rw [found]
    exact .inl ⟨⟨vfs, rfl, foreign⟩, Prog.bind_err (checkRegistered_conflict foreign) _⟩
  · have ours : ∀ vfs ∈ s.found, s.memVfs = some vfs := fun vfs found =>
      not_not.mp fun foreign => conflict ⟨vfs, found, foreign⟩
    have same : s.found = none ∨ s.found = s.memVfs := by
      rcases found : s.found with _ | vfs
      · exact .inl rfl
      · exact .inr (ours vfs found).symm
    refine .inr ⟨same, ?_⟩
    rw [Prog.bind_ok (checkRegistered_run _ ours), Prog.get_bind]
    rcases owner : s.memVfs with _ | vfs
    · have absent : s.found = none := same.elim id (owner ▸ ·)
      have others := LinkedList.find_eq_none.mp absent
      have adopted := holds.adopted makeDflt owner
      obtain ⟨_, own, alive⟩ := adopted.living _ rfl
      cases own
      refine ⟨s.allocations.length, _, ?_, adopted, ⟨⟨⟨?_, ?_⟩, ?_⟩, rfl, ?_, rfl, rfl,
        rfl, rfl⟩, ?_⟩
      · dsimp only
        rw [Prog.bind_ok (installNew_quiet quiet holds), appData_run alive]
      · exact (Spares.link _ _).foreign
      · exact List.prefix_append _ _
      · rw [owner]
        exact nofun
      · exact LinkedList.find_link_of_others rfl fun other member _ => others other member
      · rintro rfl
        exact ⟨_, rfl⟩
    · obtain ⟨allocation, rfl, alive⟩ := holds.living vfs owner
      dsimp only
      rw [Prog.bind_ok (installOwned_quiet quiet holds)]
      by_cases register : s.found = none ∨ makeDflt = true
      · rw [if_pos register]
        have linked := holds.link makeDflt alive fun other pending same =>
          (holds.spare other pending).2.1 (same ▸ owner)
        refine ⟨allocation, _, appData_run alive, linked,
          ⟨.link _ _, owner, ?_, rfl, rfl, rfl, rfl⟩, ?_⟩
        · rcases register with absent | rfl
          · have others := LinkedList.find_eq_none.mp absent
            exact LinkedList.find_link_of_others rfl fun other member _ => others other member
          · exact LinkedList.find_link_front rfl
        · rintro rfl
          exact ⟨_, rfl⟩
      · rw [if_neg register]
        obtain ⟨listed, front⟩ := not_or.mp register
        refine ⟨allocation, s, appData_run alive, holds,
          ⟨.of_eq rfl rfl rfl, owner, ?_, rfl, rfl, rfl, rfl⟩, fun default => absurd default front⟩
        rw [same.resolve_left listed, owner]

/-! ## Initializing SQLite -/

theorem nextReply_run {ε : Type} : (nextReply : M ε _).run s = (.ok s.next, s.decided) := by
  obtain ⟨vfsList, isInit, inProgress, memVfs, allocations, freed, replies⟩ := s
  cases replies <;> rfl

structure Initialized (pending : Option Nat) (s t : State) (allocation : Nat) : Prop
    extends Keeps s t where
  holds : Holds pending t
  owned : t.memVfs = some (.own allocation)
  listed : ∃ rest, t.vfsList = .own allocation :: memdb :: rest
  idle : t.inProgress = false
  isInit : t.isInit = s.next.after.isNone
  replies : t.replies = s.replies.tail

theorem Holds.decided (holds : Holds pending s) : Holds pending s.decided :=
  holds.of_eq rfl rfl rfl rfl

theorem Keeps.decided : Keeps s s.decided := .of_eq rfl rfl rfl

/-- An initialization fails before the library is asked, or because a foreign VFS has the
library's name, or it installs the memory VFS. -/
theorem initialize_cases (idle : s.inProgress = false) (loud : s.isInit = false)
    (holds : Holds pending s) :
    (∃ code, s.next.before = some code ∧ sqlite3Initialize.run s = (.ok (some code), s.decided)) ∨
    ((∃ vfs, s.found = some vfs ∧ s.memVfs ≠ some vfs) ∧
      sqlite3Initialize.run s = (.ok (some .error), s.decided)) ∨
    (s.next.before = none ∧ (s.found = none ∨ s.found = s.memVfs) ∧
      ∃ allocation t, sqlite3Initialize.run s = (.ok s.next.after, t) ∧
        Initialized pending s t allocation) := by
  unfold sqlite3Initialize initializeWith
  rw [Prog.get_bind, if_neg (by rw [loud, idle]; exact not_or.mpr ⟨nofun, nofun⟩),
    Prog.bind_ok nextReply_run]
  rcases early : s.next.before with _ | code
  · dsimp only
    rw [Prog.modify_bind]
    let started : State := { s.decided with inProgress := true }
    have startedHolds : Holds pending started := holds.of_eq rfl rfl rfl rfl
    have back : { started with inProgress := false } = s.decided := by
      unfold started State.decided
      rw [← idle]
    rcases install_quiet (o := Prog.halt .panic) true (.inr rfl) startedHolds with
      ⟨conflict, run⟩ | ⟨same, allocation, t, run, tHolds, installed, front⟩
    · have os : osInit.run started = (.ok (some .error), started) := by
        unfold osInit nestedInitialize
        rw [Prog.bind_ok (Prog.attempt_err run)]
        rfl
      refine .inr (.inl ⟨conflict, ?_⟩)
      rw [Prog.bind_ok os]
      exact congrArg _ back
    · obtain ⟨rest, list⟩ := front rfl
      have os : osInit.run started = (.ok none, t) := by
        unfold osInit nestedInitialize
        rw [Prog.bind_ok (Prog.attempt_ok run)]
        rfl
      refine .inr (.inr ⟨rfl, same, allocation, { t with
        vfsList := LinkedList.link id memdb false t.vfsList
        inProgress := false
        isInit := s.next.after.isNone }, ?_, ?_⟩)
      · rw [Prog.bind_ok os]
        dsimp only
        rw [Prog.bind_ok (readList_run tHolds.clean)]
        rfl
      · have linked := tHolds.link false (show t.Dangling memdb = false from rfl) fun _ _ => nofun
        have keeps : Keeps started _ := installed.toKeeps.trans (.link memdb false)
        refine ⟨⟨⟨keeps.foreign, keeps.data⟩, keeps.owner⟩,
          linked.of_eq (s := { t with vfsList := _ }) rfl rfl rfl rfl,
          installed.owned, ?_, rfl, rfl, installed.replies⟩
        dsimp only
        rw [list]
        have different : (Vfs.own allocation) ≠ memdb := nofun
        refine ⟨LinkedList.unlink id memdb rest, ?_⟩
        unfold LinkedList.link LinkedList.unlink
        rw [List.filter_cons_of_pos (by simpa using different)]
        rfl
  · exact .inl ⟨code, rfl, rfl⟩

/-- What any call of `sqlite3_initialize` from outside leaves. -/
theorem initialize_run (idle : s.inProgress = false) (holds : Holds pending s) :
    ∃ code t, sqlite3Initialize.run s = (.ok code, t) ∧ Holds pending t ∧ Keeps s t ∧
      t.inProgress = false ∧ (code = none → t.isInit = true) := by
  by_cases init : s.isInit = true
  · exact ⟨none, s, initialize_quiet (.inl init), holds, .of_eq rfl rfl rfl, idle, fun _ => init⟩
  · rcases initialize_cases idle (Bool.eq_false_iff.mpr init) holds with
      ⟨code, -, run⟩ | ⟨-, run⟩ | ⟨-, -, allocation, t, run, initialized⟩
    · exact ⟨_, _, run, holds.decided, .decided, idle, nofun⟩
    · exact ⟨_, _, run, holds.decided, .decided, idle, nofun⟩
    · refine ⟨_, t, run, initialized.holds, initialized.toKeeps, initialized.idle, fun ok => ?_⟩
      rw [initialized.isInit, ok]
      rfl

/-! ## Calls from outside -/

/-- `x` returns or fails, and keeps what every state keeps. -/
def Sound {ε α : Type} (x : M ε α) (s : State) (post : α → State → Prop) : Prop :=
  ∃ t, Holds none t ∧ Keeps s t ∧ t.inProgress = false ∧
    ((∃ value, x.run s = (.ok value, t) ∧ post value t) ∨ ∃ error, x.run s = (.err error, t))

def Owns (allocation : Nat) (t : State) : Prop :=
  t.memVfs = some (.own allocation) ∧ t.found = some (.own allocation)

/-- Registering the VFS of an earlier installation where SQLite is not initialized. -/
theorem installOwned_run {allocation : Nat} (idle : s.inProgress = false) (loud : s.isInit = false)
    (holds : Holds none s) (owner : s.memVfs = some (.own allocation)) :
    Sound (installOwned sqlite3Initialize makeDflt none (.own allocation)) s fun vfs t =>
      vfs = .own allocation ∧ Owns allocation t := by
  have failed : ∀ {code : VfsErrorCode} {t : State},
      sqlite3Initialize.run s = (.ok (some code), t) →
      (installOwned sqlite3Initialize makeDflt none (.own allocation)).run s =
        (.err (.registerVfs code), t) := by
    intro code t run
    unfold installOwned
    rw [if_pos (.inl rfl), Prog.bind_ok (vfsRegister_failed run)]
    rfl
  rcases initialize_cases idle loud holds with
    ⟨code, -, run⟩ | ⟨-, run⟩ | ⟨-, -, other, t, run, initialized⟩
  · exact ⟨_, holds.decided, .decided, idle, .inr ⟨_, failed run⟩⟩
  · exact ⟨_, holds.decided, .decided, idle, .inr ⟨_, failed run⟩⟩
  · rcases late : s.next.after with _ | code
    · rw [late] at run
      have owned := initialized.owner _ owner
      obtain ⟨found, own, alive⟩ := initialized.holds.living _ owned
      have ran : (installOwned sqlite3Initialize makeDflt none (.own allocation)).run s =
          (.ok (.own allocation),
            { t with vfsList := LinkedList.link id (.own allocation) makeDflt t.vfsList }) := by
        unfold installOwned
        rw [if_pos (.inl rfl), Prog.bind_ok (vfsRegister_ok run initialized.holds.clean)]
        rfl
      refine ⟨_, initialized.holds.link makeDflt alive nofun, initialized.toKeeps.trans (.link _ _),
        initialized.idle, .inl ⟨_, ran, rfl, owned, ?_⟩⟩
      obtain ⟨rest, list⟩ := initialized.listed
      obtain rfl : allocation = other := by
        have same := owned.symm.trans initialized.owned
        injection same with same
        injection same
      have front : LinkedList.unlink id (.own allocation) t.vfsList =
          memdb :: LinkedList.unlink id (.own allocation) rest := by
        rw [list]
        unfold LinkedList.unlink
        rw [List.filter_cons_of_neg (by simp), List.filter_cons_of_pos (by simp [memdb])]
      unfold State.found LinkedList.link
      dsimp only [id]
      rw [front]
      cases makeDflt
      · exact (LinkedList.find_cons_ne (by decide)).trans (LinkedList.find_cons_self rfl)
      · exact LinkedList.find_cons_self rfl
    · rw [late] at run
      exact ⟨t, initialized.holds, initialized.toKeeps, initialized.idle, .inr ⟨_, failed run⟩⟩

/-- A registration that fails takes its new allocation with it. -/
theorem installNew_failed {code : VfsErrorCode}
    (run : sqlite3Initialize.run s.created = (.ok (some code), t))
    (holds : Holds (some s.allocations.length) t) :
    (installNew sqlite3Initialize makeDflt).run s =
      (.err (.registerVfs code), { t with freed := t.freed ++ [s.allocations.length] }) := by
  unfold installNew
  rw [Prog.bind_ok (show allocate.run s = (.ok (.own s.allocations.length), s.created) from rfl),
    Prog.bind_ok (vfsRegister_failed run)]
  dsimp only
  rw [Prog.bind_ok (free_run (holds.spare _ rfl).1)]
  rfl

theorem Keeps.created : Keeps s s.created :=
  ⟨⟨fun _ _ => id, List.prefix_append _ _⟩, fun _ => id⟩

/-- Where SQLite is not initialized, a new VFS is registered only by an initialization
that has installed another one. -/
theorem installNew_run (idle : s.inProgress = false) (loud : s.isInit = false)
    (holds : Holds none s) (vacant : s.memVfs = none)
    (single : ¬ (s.found = none ∧ s.next = ⟨none, none⟩)) :
    Sound (installNew sqlite3Initialize makeDflt) s fun _ _ => False := by
  have ended : ∀ {code : VfsErrorCode} {t : State},
      sqlite3Initialize.run s.created = (.ok (some code), t) →
      Holds (some s.allocations.length) t → Keeps s.created t → t.inProgress = false →
      Sound (installNew sqlite3Initialize makeDflt) s fun _ _ => False :=
    fun run tHolds keeps tIdle =>
      ⟨_, tHolds.freed, Keeps.created.trans ⟨⟨keeps.foreign, keeps.data⟩, keeps.owner⟩, tIdle,
        .inr ⟨_, installNew_failed run tHolds⟩⟩
  rcases initialize_cases (s := s.created) idle loud holds.created with
    ⟨code, -, run⟩ | ⟨-, run⟩ | ⟨early, same, other, t, run, initialized⟩
  · exact ended run holds.created.decided .decided idle
  · exact ended run holds.created.decided .decided idle
  · rcases late : s.created.next.after with _ | code
    · refine absurd ⟨same.elim id fun same => same.trans vacant, ?_⟩ single
      exact congrArg₂ InitReply.mk early late
    · rw [late] at run
      exact ended run initialized.holds initialized.toKeeps initialized.idle

theorem Sound.bind {ε α β : Type} {x : M ε α} {f : α → M ε β} {post : α → State → Prop}
    {post' : β → State → Prop} (sound : Sound x s post)
    (next : ∀ value t, Holds none t → t.inProgress = false → post value t →
      Sound (f value) t post') : Sound (x >>= f) s post' := by
  obtain ⟨t, holds, keeps, idle, ⟨value, run, held⟩ | ⟨error, run⟩⟩ := sound
  · obtain ⟨u, uHolds, uKeeps, uIdle, ended⟩ := next value t holds idle held
    refine ⟨u, uHolds, keeps.trans uKeeps, uIdle, ?_⟩
    rw [Prog.bind_ok run]
    exact ended
  · exact ⟨t, holds, keeps, idle, .inr ⟨error, Prog.bind_err run f⟩⟩

theorem Sound.after {ε α : Type} {x y : M ε α} {post : α → State → Prop} (keeps : Keeps s t)
    (same : x.run s = y.run t) (sound : Sound y t post) : Sound x s post := by
  obtain ⟨u, holds, later, idle, ended⟩ := sound
  rw [← same] at ended
  exact ⟨u, holds, keeps.trans later, idle, ended⟩

theorem appData_sound {ε : Type} {allocation : Nat} (idle : s.inProgress = false)
    (holds : Holds none s) (owns : Owns allocation s) :
    Sound (appData (.own allocation) : M ε Nat) s Owns := by
  obtain ⟨_, own, alive⟩ := holds.living _ owns.1
  exact ⟨s, holds, .of_eq rfl rfl rfl, idle, .inl ⟨allocation, appData_run alive, owns⟩⟩

theorem install_sound_quiet (quiet : s.isInit = true) (idle : s.inProgress = false)
    (holds : Holds none s) : Sound (install sqlite3Initialize makeDflt) s Owns := by
  rcases install_quiet (o := osInit) makeDflt (.inl quiet) holds with
    ⟨-, run⟩ | ⟨-, allocation, t, run, tHolds, installed, -⟩
  · exact ⟨s, holds, .of_eq rfl rfl rfl, idle, .inr ⟨_, run⟩⟩
  · exact ⟨t, tHolds, installed.toKeeps, installed.inProgress.trans idle,
      .inl ⟨allocation, run, installed.owned, installed.found⟩⟩

theorem install_sound_failed {code : VfsErrorCode} (keeps : Keeps s t)
    (run : sqlite3Initialize.run s = (.ok (some code), t)) (holds : Holds none t)
    (idle : t.inProgress = false) (loud : t.isInit = false)
    (single : t.memVfs = none → ¬ (t.found = none ∧ t.next = ⟨none, none⟩)) :
    Sound (install sqlite3Initialize makeDflt) s Owns := by
  have unregistered : (checkRegistered none).run t = (.ok (), t) := rfl
  rcases owner : t.memVfs with _ | vfs
  · have same : (install sqlite3Initialize makeDflt).run s =
        (installNew sqlite3Initialize makeDflt >>= appData).run t := by
      unfold install
      rw [Prog.bind_ok (vfsFind_failed run), Prog.bind_ok unregistered, Prog.get_bind, owner]
    refine .after keeps same ?_
    exact (installNew_run idle loud holds owner (single owner)).bind
      fun _ _ _ _ impossible => impossible.elim
  · have same : (install sqlite3Initialize makeDflt).run s =
        (installOwned sqlite3Initialize makeDflt none vfs >>= appData).run t := by
      unfold install
      rw [Prog.bind_ok (vfsFind_failed run), Prog.bind_ok unregistered, Prog.get_bind, owner]
    refine .after keeps same ?_
    obtain ⟨allocation, rfl, -⟩ := holds.living vfs owner
    refine (installOwned_run idle loud holds owner).bind fun vfs u uHolds uIdle ended => ?_
    obtain ⟨rfl, owns⟩ := ended
    exact appData_sound uIdle uHolds owns

theorem install_sound (idle : s.inProgress = false) (holds : Holds none s) (single : ¬ s.Doubled) :
    Sound (install sqlite3Initialize makeDflt) s Owns := by
  by_cases quiet : s.isInit = true
  · exact install_sound_quiet quiet idle holds
  · have loud := Bool.eq_false_iff.mpr quiet
    rcases initialize_cases idle loud holds with
      ⟨code, early, run⟩ | ⟨⟨vfs, found, -⟩, run⟩ | ⟨-, -, allocation, t, run, initialized⟩
    · refine install_sound_failed .decided run holds.decided idle loud fun vacant second => ?_
      exact single ⟨loud, vacant, second.1, by rw [early]; exact Option.some_ne_none _, second.2⟩
    · refine install_sound_failed .decided run holds.decided idle loud fun vacant second => ?_
      exact nomatch found.symm.trans second.1
    · rcases late : s.next.after with _ | code
      · rw [late] at run
        have ready : t.isInit = true := by rw [initialized.isInit, late]; rfl
        have same : (install sqlite3Initialize makeDflt).run s =
            (install sqlite3Initialize makeDflt).run t := by
          have there := vfsFind_ok (ε := RegisterVfsError) vfsName run initialized.holds.clean
          have again := vfsFind_ok (ε := RegisterVfsError) vfsName
            (initialize_quiet (o := osInit) (.inl ready)) initialized.holds.clean
          unfold install
          rw [Prog.bind_ok there, Prog.bind_ok (x := vfsFind sqlite3Initialize vfsName) again]
        exact .after initialized.toKeeps same
          (install_sound_quiet ready initialized.idle initialized.holds)
      · rw [late] at run
        refine install_sound_failed initialized.toKeeps run initialized.holds initialized.idle
          (by rw [initialized.isInit, late]; rfl) fun vacant => ?_
        exact nomatch initialized.owned.symm.trans vacant

/-! ## Every call -/

theorem vfsFind_sound {ε : Type} (idle : s.inProgress = false) (holds : Holds none s) :
    ∃ registered t, (vfsFind sqlite3Initialize vfsName : M ε _).run s = (.ok registered, t) ∧
      Holds none t ∧ Keeps s t ∧ t.inProgress = false ∧ ∀ vfs, registered = some vfs →
        t.found = some vfs := by
  obtain ⟨code, t, run, tHolds, keeps, tIdle, -⟩ := initialize_run idle holds
  rcases code with _ | code
  · exact ⟨t.found, t, vfsFind_ok _ run tHolds.clean, tHolds, keeps, tIdle, fun _ => id⟩
  · exact ⟨none, t, vfsFind_failed run, tHolds, keeps, tIdle, nofun⟩

theorem get_sound (idle : s.inProgress = false) (holds : Holds none s) :
    Sound (get sqlite3Initialize) s Owns := by
  obtain ⟨registered, t, run, tHolds, keeps, tIdle, found⟩ := vfsFind_sound idle holds
  unfold get
  rcases registered with _ | vfs
  · refine ⟨t, tHolds, keeps, tIdle, .inr ⟨.notInstalled, ?_⟩⟩
    rw [Prog.bind_ok run]
    rfl
  · by_cases foreign : t.memVfs = some vfs
    · obtain ⟨allocation, rfl, alive⟩ := tHolds.living vfs foreign
      refine ⟨t, tHolds, keeps, tIdle, .inl ⟨allocation, ?_, foreign, found _ rfl⟩⟩
      have checked : (checkOwned (.own allocation)).run t = (.ok (), t) :=
        checkRegistered_run (some (.own allocation)) fun vfs same => by
          cases same
          exact foreign
      rw [Prog.bind_ok run]
      dsimp only
      rw [Prog.bind_ok (Prog.mapErr_ok_iff.mpr checked), appData_run alive]
    · refine ⟨t, tHolds, keeps, tIdle, .inr ⟨.registration (.nameConflict vfsName), ?_⟩⟩
      rw [Prog.bind_ok run]
      dsimp only
      exact Prog.bind_err (Prog.mapErr_err (checkRegistered_conflict foreign) _) _

theorem vfsRegister_sound {vfs : Vfs} (makeDflt : Bool) (idle : s.inProgress = false)
    (holds : Holds none s) (alive : ∀ t, Keeps s t → Holds none t → t.Dangling vfs = false) :
    Sound (vfsRegister sqlite3Initialize vfs makeDflt : M Empty _) s fun _ _ => True := by
  obtain ⟨code, t, run, tHolds, keeps, tIdle, -⟩ := initialize_run idle holds
  rcases code with _ | code
  · exact ⟨_, tHolds.link makeDflt (alive t keeps tHolds) nofun, keeps.trans (.link _ _), tIdle,
      .inl ⟨_, vfsRegister_ok run tHolds.clean, trivial⟩⟩
  · exact ⟨t, tHolds, keeps, tIdle, .inl ⟨_, vfsRegister_failed run, trivial⟩⟩

theorem alive_later {vfs : Vfs} (holds : Holds none s) (alive : s.Dangling vfs = false)
    (keeps : Keeps s t) (later : Holds none t) : t.Dangling vfs = false := by
  cases vfs with
  | own allocation =>
      obtain ⟨inside, kept⟩ := dangling_own.mp alive
      have owned := (holds.accounted allocation inside).resolve_right (not_or.mpr ⟨kept, nofun⟩)
      obtain ⟨_, -, still⟩ := later.living _ (keeps.owner _ owned)
      exact still
  | foreign => rfl

theorem Holds.unlink {vfs : Vfs} (holds : Holds pending s) :
    Holds pending { s with vfsList := LinkedList.unlink id vfs s.vfsList } :=
  holds.relist rfl rfl rfl fun _ member => .inl (LinkedList.mem_unlink.mp member).1

/-- The library's own VFS leaves the registry, and then its memory is freed. -/
theorem Holds.released {allocation : Nat} (holds : Holds none s)
    (owner : s.memVfs = some (.own allocation)) :
    Holds none { s with
      vfsList := LinkedList.unlink id (.own allocation) s.vfsList
      memVfs := none
      freed := s.freed ++ [allocation] } := by
  obtain ⟨_, own, alive⟩ := holds.living _ owner
  cases own
  have pending : Holds (some allocation) { s with
      vfsList := LinkedList.unlink id (.own allocation) s.vfsList
      memVfs := none } :=
    { living := nofun
      accounted := fun found inside => by
        rcases holds.accounted found inside with same | freed | impossible
        · rw [owner] at same
          cases same
          exact .inr (.inr rfl)
        · exact .inr (.inl freed)
        · exact nomatch impossible
      known := holds.known
      once := holds.once
      clean := fun vfs member => holds.clean vfs (LinkedList.mem_unlink.mp member).1
      spare := fun found same => by
        cases same
        exact ⟨alive, nofun, fun member => (LinkedList.mem_unlink.mp member).2 rfl⟩ }
  exact pending.freed

theorem Spares.unlink (allocation : Nat) :
    Spares s { s with vfsList := LinkedList.unlink id (.own allocation) s.vfsList } where
  foreign _ _ member := LinkedList.mem_unlink.mpr ⟨member, nofun⟩
  data := List.prefix_refl _

theorem uninstall_sound (idle : s.inProgress = false) (holds : Holds none s) :
    ∃ t, Holds none t ∧ Spares s t ∧ t.inProgress = false ∧
      ((uninstall sqlite3Initialize).run s = (.ok (), t) ∨
        Keeps s t ∧ ∃ error, (uninstall sqlite3Initialize).run s = (.err error, t)) := by
  obtain ⟨registered, t, run, tHolds, keeps, tIdle, found⟩ :=
    vfsFind_sound (ε := RegisterVfsError) idle holds
  unfold uninstall
  rw [Prog.bind_ok run, Prog.get_bind]
  rcases owner : t.memVfs with _ | vfs
  · refine ⟨t, tHolds, keeps.toSpares, tIdle, ?_⟩
    rcases registered with _ | vfs
    · exact .inl rfl
    · exact .inr ⟨keeps, _, checkRegistered_conflict (by rw [owner]; exact nofun)⟩
  · obtain ⟨allocation, rfl, -⟩ := tHolds.living vfs owner
    obtain ⟨code, u, again, uHolds, later, uIdle, -⟩ := initialize_run tIdle tHolds
    have owned := later.owner _ owner
    rcases code with _ | code
    · obtain ⟨_, own, alive⟩ := uHolds.living _ owned
      cases own
      refine ⟨_, uHolds.released owned,
        ⟨(keeps.toSpares.trans (later.toSpares.trans (.unlink allocation))).foreign,
          (keeps.trans later).data⟩, uIdle, .inl ?_⟩
      dsimp only
      rw [Prog.bind_ok (vfsUnregister_ok again uHolds.clean)]
      dsimp only
      rw [show storeMemVfs none = Prog.modify fun s : State => { s with memVfs := none } from rfl,
        Prog.modify_bind]
      exact free_run (s := { u with
        vfsList := LinkedList.unlink id (.own allocation) u.vfsList, memVfs := none }) alive
    · refine ⟨u, uHolds, (keeps.trans later).toSpares, uIdle, .inr ⟨keeps.trans later,
        .unregisterVfs code, ?_⟩⟩
      dsimp only
      rw [Prog.bind_ok (vfsUnregister_failed again)]
      rfl

theorem shutdown_sound (idle : s.inProgress = false) (holds : Holds none s) :
    ∃ t, Holds none t ∧ Spares s t ∧ t.inProgress = false ∧
      (shutdown : M Empty Unit).run s = (.ok (), t) := by
  unfold shutdown
  rw [Prog.get_bind]
  by_cases init : s.isInit = true
  · obtain ⟨t, tHolds, spares, tIdle, ended⟩ := uninstall_sound idle holds
    refine ⟨{ t with isInit := false }, tHolds.of_eq rfl rfl rfl rfl, ⟨spares.foreign, spares.data⟩,
      tIdle, ?_⟩
    rw [if_pos init]
    rcases ended with run | ⟨-, error, run⟩
    · rw [Prog.bind_ok (Prog.attempt_ok run)]
      rfl
    · rw [Prog.bind_ok (Prog.attempt_err run)]
      rfl
  · refine ⟨s, holds, ⟨fun _ _ => id, List.prefix_refl _⟩, idle, ?_⟩
    rw [if_neg init]
    rfl

def Removes (call : Call) (result : Answer) : Prop :=
  call = .uninstall ∧ result = .done ∨ call = .shutdown

structure StepOk (s : State) (call : Call) (result : Answer) (t : State) : Prop where
  /-- No foreign VFS is unregistered but by a call that asks for it. -/
  foreign : ∀ id name, call ≠ .unregister (.foreign id name) →
    .foreign id name ∈ s.vfsList → .foreign id name ∈ t.vfsList
  /-- `install` and `get` hand out the VFS that SQLite finds, which is the library's own. -/
  handed : ∀ allocation, result = .handle allocation → Owns allocation t
  owner : ¬ Removes call result → ∀ vfs, s.memVfs = some vfs → t.memVfs = some vfs
  files : (∀ index data, call ≠ .use index data) → s.allocations <+: t.allocations

theorem observe_ok {ε α : Type} {x : M ε α} {value : α} (run : x.run s = (.ok value, t))
    (ok : α → Answer) (err : ε → Answer) : observe x ok err s = some (ok value, t) := by
  unfold observe
  rw [run]

theorem observe_err {ε α : Type} {x : M ε α} {error : ε} (run : x.run s = (.err error, t))
    (ok : α → Answer) (err : ε → Answer) : observe x ok err s = some (err error, t) := by
  unfold observe
  rw [run]

theorem StepOk.of_keeps {call : Call} {result : Answer} (keeps : Keeps s t)
    (silent : ∀ allocation, result ≠ .handle allocation) : StepOk s call result t where
  foreign id name _ := keeps.foreign id name
  handed allocation same := absurd same (silent allocation)
  owner _ := keeps.owner
  files _ := keeps.data

theorem StepOk.of_owns {call : Call} {allocation : Nat} (keeps : Keeps s t)
    (owns : Owns allocation t) : StepOk s call (.handle allocation) t where
  foreign id name _ := keeps.foreign id name
  handed _ same := by
    cases same
    exact owns
  owner _ := keeps.owner
  files _ := keeps.data

structure Good (s : State) : Prop where
  holds : Holds none s
  idle : s.inProgress = false

def Steps (s : State) (call : Call) (result : Option (Answer × State)) : Prop :=
  ∃ answer t, result = some (answer, t) ∧ Good t ∧ StepOk s call answer t

theorem Sound.steps {ε : Type} {x : M ε Nat} {call : Call} {err : ε → Answer}
    (sound : Sound x s Owns) (silent : ∀ error allocation, err error ≠ .handle allocation) :
    Steps s call (observe x .handle err s) := by
  obtain ⟨t, holds, keeps, idle, ⟨allocation, run, owns⟩ | ⟨error, run⟩⟩ := sound
  · exact ⟨_, t, observe_ok run _ _, ⟨holds, idle⟩, .of_owns keeps owns⟩
  · exact ⟨_, t, observe_err run _ _, ⟨holds, idle⟩, .of_keeps keeps (silent error)⟩

theorem answer_steps (good : Good s) (call : Call)
    (alive : match call with
      | .register vfs _ | .unregister vfs => s.Dangling vfs = false
      | _ => True)
    (single : (∃ defaultVfs, call = .install defaultVfs) → ¬ s.Doubled) :
    Steps s call (answer call s) := by
  obtain ⟨holds, idle⟩ := good
  cases call with
  | install defaultVfs => exact (install_sound idle holds (single ⟨_, rfl⟩)).steps nofun
  | get => exact (get_sound idle holds).steps nofun
  | uninstall =>
      obtain ⟨t, tHolds, spares, tIdle, run | ⟨keeps, error, run⟩⟩ := uninstall_sound idle holds
      · refine ⟨_, t, observe_ok run _ _, ⟨tHolds, tIdle⟩, ?_⟩
        exact ⟨fun id name _ => spares.foreign id name, nofun,
          fun stays => absurd (.inl ⟨rfl, rfl⟩) stays, fun _ => spares.data⟩
      · exact ⟨_, t, observe_err run _ _, ⟨tHolds, tIdle⟩, .of_keeps keeps nofun⟩
  | register vfs makeDflt =>
      obtain ⟨t, tHolds, keeps, tIdle, ⟨code, run, -⟩ | ⟨none, -⟩⟩ :=
        vfsRegister_sound makeDflt idle holds fun t keeps later =>
          alive_later holds alive keeps later
      · exact ⟨_, t, observe_ok run _ _, ⟨tHolds, tIdle⟩, .of_keeps keeps nofun⟩
      · exact none.elim
  | unregister vfs =>
      obtain ⟨code, t, run, tHolds, keeps, tIdle, -⟩ := initialize_run idle holds
      rcases code with _ | code
      · refine ⟨_, _, observe_ok (vfsUnregister_ok (ε := Empty) run tHolds.clean) _ _,
          ⟨tHolds.unlink, tIdle⟩, ?_⟩
        refine ⟨fun id name other member => ?_, nofun, fun _ => keeps.owner,
          fun _ => keeps.data⟩
        refine LinkedList.mem_unlink.mpr ⟨keeps.foreign id name member, ?_⟩
        rintro rfl
        exact other rfl
      · exact ⟨_, t, observe_ok (vfsUnregister_failed (ε := Empty) run) _ _, ⟨tHolds, tIdle⟩,
          .of_keeps keeps nofun⟩
  | init =>
      obtain ⟨code, t, run, tHolds, keeps, tIdle, -⟩ := initialize_run idle holds
      exact ⟨_, t, observe_ok run _ _, ⟨tHolds, tIdle⟩, .of_keeps keeps nofun⟩
  | shutdown =>
      obtain ⟨t, tHolds, spares, tIdle, run⟩ := shutdown_sound idle holds
      refine ⟨_, t, observe_ok run _ _, ⟨tHolds, tIdle⟩, ?_⟩
      exact ⟨fun id name _ => spares.foreign id name, nofun,
        fun stays => absurd (.inr rfl) stays, fun _ => spares.data⟩
  | use index data =>
      refine ⟨.done, { s with allocations := s.allocations.set index data }, rfl,
        ⟨?_, idle⟩, ?_⟩
      · have same : State.Dangling { s with
            allocations := s.allocations.set index data } = s.Dangling := by
          funext vfs
          unfold State.Dangling
          dsimp only
          rw [List.length_set]
        constructor
        · rw [same]
          exact holds.living
        · dsimp only
          rw [List.length_set]
          exact holds.accounted
        · dsimp only
          rw [List.length_set]
          exact holds.known
        · exact holds.once
        · rw [same]
          exact holds.clean
        · exact nofun
      · exact ⟨fun _ _ _ => id, nofun, fun _ _ => id, fun other => absurd rfl (other _ _)⟩

theorem step_sound (good : Good s) {event : Event} (allowed : event.Allowed s)
    (single : ¬ event.Doubled s) : Steps s event.call (step s event) := by
  have facing : Good (s.facing event.replies) :=
    ⟨good.holds.of_eq rfl rfl rfl rfl, good.idle⟩
  obtain ⟨result, t, stepped, later, ok⟩ := answer_steps facing event.call allowed
    fun install doubled => single ⟨install, doubled⟩
  exact ⟨result, t, stepped, later, ok.foreign, ok.handed, ok.owner, ok.files⟩

theorem Run.good {log : List (Event × Answer)} (run : Run s log t) (good : Good s) : Good t := by
  induction run with
  | nil => exact good
  | snoc _ allowed single stepped ih =>
      obtain ⟨result, next, same, later, -⟩ := step_sound ih allowed single
      cases stepped.symm.trans same
      exact later

theorem good_start : Good .start where
  holds :=
    { living := nofun
      accounted := fun _ inside => nomatch inside
      known := fun _ member => nomatch member
      once := List.nodup_nil
      clean := fun _ member => nomatch member
      spare := nofun }
  idle := rfl

/-- While nothing removes it, the library's VFS stays the same one, every handle shares
its namespace, and only the use of its files changes them. -/
theorem Run.owner {log : List (Event × Answer)} {allocation : Nat} (run : Run s log t)
    (good : Good s) (owner : s.memVfs = some (.own allocation))
    (stays : ∀ entry ∈ log, ¬ Removes entry.1.call entry.2) :
    t.memVfs = some (.own allocation) ∧
    (∀ entry ∈ log, ∀ found, entry.2 = .handle found → found = allocation) ∧
    ((∀ entry ∈ log, ∀ index data, entry.1.call ≠ .use index data) →
      t.allocations[allocation]? = s.allocations[allocation]?) := by
  induction run with
  | nil => exact ⟨owner, nofun, fun _ => rfl⟩
  | @snoc u next log event result run allowed single stepped ih =>
      obtain ⟨owned, handles, files⟩ := ih fun entry member =>
        stays entry (List.mem_append_left _ member)
      have here := run.good good
      obtain ⟨answer, t, same, -, ok⟩ := step_sound here allowed single
      cases stepped.symm.trans same
      have last := stays _ (List.mem_append_right _ (List.mem_singleton_self _))
      refine ⟨ok.owner last _ owned, fun entry member found handle => ?_, fun unused => ?_⟩
      · rcases List.mem_append.mp member with member | member
        · exact handles entry member found handle
        · obtain rfl := List.mem_singleton.mp member
          have same := (ok.handed found handle).1.symm.trans (ok.owner last _ owned)
          injection same with same
          injection same
      · have prefix' := ok.files fun index data =>
          unused _ (List.mem_append_right _ (List.mem_singleton_self _)) index data
        rw [← files fun entry member => unused entry (List.mem_append_left _ member)]
        obtain ⟨_, own, alive⟩ := here.holds.living _ owned
        cases own
        have inside := (dangling_own.mp alive).1
        obtain ⟨rest, extended⟩ := prefix'
        rw [← extended, List.getElem?_append_left inside]

/-! ## The state machine -/

/-- `MEM_VFS` is null or points to the one living allocation, every other allocation was
freed once, and SQLite's list holds none of those. -/
structure WellOwned (s : State) : Prop where
  pointer : ∀ vfs, s.memVfs = some vfs → ∃ allocation, vfs = .own allocation ∧
    allocation < s.allocations.length ∧ allocation ∉ s.freed
  allocated : ∀ allocation < s.allocations.length, s.memVfs = some (.own allocation) ∨
    s.freed.count allocation = 1 ∧ .own allocation ∉ s.vfsList
  registered : ∀ allocation, .own allocation ∈ s.vfsList → s.memVfs = some (.own allocation)

theorem Good.wellOwned (good : Good s) : WellOwned s where
  pointer vfs same := by
    obtain ⟨allocation, own, alive⟩ := good.holds.living vfs same
    subst own
    exact ⟨allocation, rfl, dangling_own.mp alive⟩
  allocated allocation inside := by
    rcases good.holds.accounted allocation inside with same | freed | impossible
    · exact .inl same
    · refine .inr ⟨List.count_eq_one_of_mem good.holds.once freed, fun member => ?_⟩
      exact (dangling_own.mp (good.holds.clean _ member)).2 freed
    · exact nomatch impossible
  registered _ := good.holds.registered

/-- A doubled `install` registers its VFS beside the one that its registration had SQLite
install. -/
theorem install_doubled_run (makeDflt : Bool) (good : Good s) (doubled : s.Doubled) :
    ∃ allocation t, (install sqlite3Initialize makeDflt).run s = (.ok allocation, t) ∧
      t.memVfs = some (.own allocation) ∧ ∃ other rest, other ≠ allocation ∧
        t.vfsList = LinkedList.link id (.own allocation) makeDflt (.own other :: rest) := by
  obtain ⟨holds, idle⟩ := good
  obtain ⟨loud, vacant, absent, early, second⟩ := doubled
  obtain ⟨code, first⟩ : ∃ code, sqlite3Initialize.run s = (.ok (some code), s.decided) := by
    rcases initialize_cases idle loud holds with
      ⟨code, -, run⟩ | ⟨⟨vfs, found, -⟩, -⟩ | ⟨on, -⟩
    · exact ⟨code, run⟩
    · exact nomatch found.symm.trans absent
    · exact absurd on early
  have before : s.decided.created.next.before = none := congrArg InitReply.before second
  have after : s.decided.created.next.after = none := congrArg InitReply.after second
  obtain ⟨other, t, run, initialized⟩ : ∃ other t,
      sqlite3Initialize.run s.decided.created = (.ok none, t) ∧
        Initialized (some s.allocations.length) s.decided.created t other := by
    rcases initialize_cases (s := s.decided.created) idle loud holds.decided.created with
      ⟨code, late, -⟩ | ⟨⟨vfs, found, -⟩, -⟩ | ⟨-, -, other, t, run, initialized⟩
    · exact nomatch late.symm.trans before
    · exact nomatch found.symm.trans absent
    · rw [after] at run
      exact ⟨other, t, run, initialized⟩
  obtain ⟨alive, unowned, -⟩ := initialized.holds.spare _ rfl
  have different : other ≠ s.allocations.length := by
    rintro rfl
    exact unowned initialized.owned
  obtain ⟨rest, list⟩ := initialized.listed
  refine ⟨s.allocations.length, { t with
    vfsList := LinkedList.link id (.own s.allocations.length) makeDflt t.vfsList
    memVfs := some (.own s.allocations.length) }, ?_, rfl, other, memdb :: rest, different, ?_⟩
  · have new : (installNew sqlite3Initialize makeDflt).run s.decided =
        (.ok (.own s.allocations.length), { t with
          vfsList := LinkedList.link id (.own s.allocations.length) makeDflt t.vfsList
          memVfs := some (.own s.allocations.length) }) := by
      unfold installNew
      rw [Prog.bind_ok (show allocate.run s.decided =
          (.ok (.own s.allocations.length), s.decided.created) from rfl),
        Prog.bind_ok (vfsRegister_ok run initialized.holds.clean)]
      rfl
    unfold install
    rw [Prog.bind_ok (vfsFind_failed first),
      Prog.bind_ok (show (checkRegistered none).run s.decided = (.ok (), s.decided) from rfl),
      Prog.get_bind, show s.decided.memVfs = none from vacant]
    dsimp only
    rw [Prog.bind_ok new]
    exact appData_run (s := { t with vfsList := _, memVfs := _ }) alive
  · dsimp only
    rw [list]

theorem install_doubled (makeDflt : Bool) (good : Good s) (doubled : s.Doubled) :
    ∃ allocation t, (install sqlite3Initialize makeDflt).run s = (.ok allocation, t) ∧
      ¬ WellOwned t := by
  obtain ⟨allocation, t, run, owner, other, rest, different, list⟩ :=
    install_doubled_run makeDflt good doubled
  refine ⟨allocation, t, run, fun owned => ?_⟩
  have listed : Vfs.own other ∈ t.vfsList := by
    rw [list]
    refine LinkedList.mem_link.mpr (.inr ⟨List.mem_cons_self, fun same => ?_⟩)
    injection same with same
    exact different same
  have same := owner.symm.trans (owned.registered other listed)
  injection same with same
  injection same with same
  exact different same.symm

/-- In every run without a doubled `install`, the installation stays well owned, every
call comes back without touching what is freed or foreign, what `install` and `get` hand
out is what SQLite finds, and all of it shares one namespace until a removal.  After a
doubled `install` the installation is not well owned. -/
theorem memvfs_installation {log : List (Event × Answer)} (run : Run .start log s) :
    WellOwned s ∧
    (∀ event : Event, event.Allowed s → ¬ event.Doubled s →
      ∃ result t, step s event = some (result, t) ∧ StepOk s event.call result t) ∧
    (∀ event : Event, event.Doubled s → ∃ result t, step s event = some (result, t) ∧
      ¬ WellOwned t) ∧
    ∀ (later : List (Event × Answer)) (t : State) (allocation : Nat), Run s later t →
      s.memVfs = some (.own allocation) →
      (∀ entry ∈ later, ¬ Removes entry.1.call entry.2) →
      (∀ entry ∈ later, ∀ found, entry.2 = .handle found → found = allocation) ∧
      ((∀ entry ∈ later, ∀ index data, entry.1.call ≠ .use index data) →
        t.allocations[allocation]? = s.allocations[allocation]?) := by
  have good := run.good good_start
  refine ⟨good.wellOwned, fun event allowed single => ?_, fun event doubled => ?_,
    fun later t allocation on owner stays => ?_⟩
  · obtain ⟨result, t, stepped, -, ok⟩ := step_sound good allowed single
    exact ⟨result, t, stepped, ok⟩
  · obtain ⟨⟨defaultVfs, called⟩, doubled⟩ := doubled
    have facing : Good (s.facing event.replies) :=
      ⟨good.holds.of_eq rfl rfl rfl rfl, good.idle⟩
    obtain ⟨allocation, t, run, broken⟩ := install_doubled defaultVfs facing doubled
    refine ⟨.handle allocation, t, ?_, broken⟩
    unfold step
    rw [called]
    exact observe_ok run _ _
  · exact (on.owner good owner stays).2

theorem memvfs_installation_installed : ∃ t, Run .start
    [(⟨.install false, []⟩, .handle 0)] t ∧ WellOwned t := by
  have run : Run .start ([] ++ [(⟨.install false, []⟩, .handle 0)]) _ :=
    .snoc (.nil _) trivial (by rintro ⟨-, -, -, -, early, -⟩; exact early rfl) rfl
  exact ⟨_, run, (memvfs_installation run).1⟩

/-- A first initialization that runs out of memory and a second one that succeeds leave two
VFSs behind, and SQLite finds the one that the library has lost. -/
theorem doubled_install_leaks : ∃ t,
    step .start ⟨.install false, [⟨some .noMemory, none⟩]⟩ = some (.handle 0, t) ∧
    t.memVfs = some (.own 0) ∧ .own 1 ∈ t.vfsList ∧ t.freed = [] ∧ t.found = some (.own 1) ∧
    ¬ WellOwned t := by
  refine ⟨_, rfl, rfl, List.mem_cons_self, rfl, rfl, fun owned => ?_⟩
  exact nomatch owned.registered 1 List.mem_cons_self

end MemVfsInstall

end SqliteVfs
