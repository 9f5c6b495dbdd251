import SqliteVfs.Core.MemVfsInstall

/-!
# Runs of the memory VFS's installation

Any calls of the library, of SQLite and of other code, with initializations of SQLite that
fail or succeed as they like.  `Doubled` is the one kind of `install` that goes wrong: its
lookup fails to initialize SQLite, and its registration then does so and installs the
memory VFS a first time.  `Holds` says that every allocation has its place.
-/

set_option autoImplicit false

namespace SqliteVfs

namespace MemVfsInstall

inductive Call where
  | install (defaultVfs : Bool)
  | uninstall
  | get
  | register (vfs : Vfs) (makeDflt : Bool)
  | unregister (vfs : Vfs)
  | init
  | shutdown
  /-- Any change to the files of a namespace. -/
  | use (index : Nat) (data : MemAppData)

inductive Answer where
  | handle (index : Nat)
  | done
  | code (code : Option VfsErrorCode)
  | refused (error : RegisterVfsError)
  | failed (error : MemVfsError)
  deriving DecidableEq, Repr

def observe {ε α : Type} (x : M ε α) (ok : α → Answer) (err : ε → Answer) (s : State) :
    Option (Answer × State) :=
  match x.run s with
  | (.ok value, next) => some (ok value, next)
  | (.err error, next) => some (err error, next)
  | (.halt _, _) => none

def answer : Call → State → Option (Answer × State)
  | .install defaultVfs => observe (install sqlite3Initialize defaultVfs) .handle .refused
  | .uninstall => observe (uninstall sqlite3Initialize) (fun _ => .done) .refused
  | .get => observe (get sqlite3Initialize) .handle .failed
  | .register vfs makeDflt =>
    observe (vfsRegister sqlite3Initialize vfs makeDflt) .code Empty.elim
  | .unregister vfs => observe (vfsUnregister sqlite3Initialize vfs) .code Empty.elim
  | .init => observe sqlite3Initialize .code Empty.elim
  | .shutdown => observe (shutdown (ε := Empty)) (fun _ => .done) Empty.elim
  | .use index data => observe (ε := Empty)
    (Prog.modify fun s => { s with allocations := s.allocations.set index data })
    (fun _ => .done) Empty.elim

structure Event where
  call : Call
  replies : List InitReply

def State.facing (s : State) (replies : List InitReply) : State := { s with replies }

def step (s : State) (event : Event) : Option (Answer × State) :=
  answer event.call (s.facing event.replies)

def State.start : State := ⟨[], false, false, none, [], [], []⟩

/-- Other code may register its own VFSs, and the library's as long as it lives. -/
def Event.Allowed (s : State) (event : Event) : Prop :=
  match event.call with
  | .register vfs _ | .unregister vfs => s.Dangling vfs = false
  | _ => True

def State.found (s : State) : Option Vfs := LinkedList.find Vfs.name vfsName s.vfsList

def State.next (s : State) : InitReply := s.replies.headD ⟨none, none⟩

def State.decided (s : State) : State := { s with replies := s.replies.tail }

/-- The first initialization from here fails before it gets to install the memory VFS, the
second one succeeds, and nothing keeps it from installing the memory VFS. -/
def State.Doubled (s : State) : Prop :=
  s.isInit = false ∧ s.memVfs = none ∧ s.found = none ∧ s.next.before ≠ none ∧
    s.decided.next = ⟨none, none⟩

/-- An `install` whose lookup makes the first of these initializations and whose
registration makes the second. -/
def Event.Doubled (s : State) (event : Event) : Prop :=
  (∃ defaultVfs, event.call = .install defaultVfs) ∧ (s.facing event.replies).Doubled

inductive Run : State → List (Event × Answer) → State → Prop
  | nil (s : State) : Run s [] s
  | snoc {s t next : State} {log : List (Event × Answer)} {event : Event} {result : Answer} :
      Run s log t → event.Allowed t → ¬ event.Doubled t → step t event = some (result, next) →
      Run s (log ++ [(event, result)]) next

/-! ## What every state keeps -/

/-- Every allocation has its place.  `pending` is one that is not registered yet. -/
structure Holds (pending : Option Nat) (s : State) : Prop where
  living : ∀ vfs, s.memVfs = some vfs → ∃ allocation, vfs = .own allocation ∧
    s.Dangling vfs = false
  accounted : ∀ allocation < s.allocations.length,
    s.memVfs = some (.own allocation) ∨ allocation ∈ s.freed ∨ pending = some allocation
  known : ∀ allocation ∈ s.freed, allocation < s.allocations.length
  once : s.freed.Nodup
  clean : ∀ vfs ∈ s.vfsList, s.Dangling vfs = false
  spare : ∀ allocation, pending = some allocation → s.Dangling (.own allocation) = false ∧
    s.memVfs ≠ some (.own allocation) ∧ .own allocation ∉ s.vfsList

structure Spares (s t : State) : Prop where
  foreign : ∀ id name, .foreign id name ∈ s.vfsList → .foreign id name ∈ t.vfsList
  data : s.allocations <+: t.allocations

structure Keeps (s t : State) : Prop extends Spares s t where
  owner : ∀ vfs, s.memVfs = some vfs → t.memVfs = some vfs

theorem Spares.trans {s t u : State} (first : Spares s t) (second : Spares t u) : Spares s u :=
  ⟨fun id name member => second.foreign id name (first.foreign id name member),
    first.data.trans second.data⟩

theorem Keeps.trans {s t u : State} (first : Keeps s t) (second : Keeps t u) : Keeps s u :=
  ⟨first.toSpares.trans second.toSpares, fun vfs same => second.owner vfs (first.owner vfs same)⟩

variable {s t : State} {pending : Option Nat}

/-- States that differ in what no `Vfs` depends on. -/
theorem Keeps.of_eq (vfsList : t.vfsList = s.vfsList) (memVfs : t.memVfs = s.memVfs)
    (allocations : t.allocations = s.allocations) : Keeps s t :=
  ⟨⟨fun _ _ member => vfsList ▸ member, allocations ▸ List.prefix_refl _⟩,
    fun _ same => memVfs ▸ same⟩

theorem dangling_own {allocation : Nat} :
    s.Dangling (.own allocation) = false ↔
      allocation < s.allocations.length ∧ allocation ∉ s.freed := by
  unfold State.Dangling
  dsimp only
  rw [decide_eq_false_iff_not, not_or, Nat.not_le]

theorem dangling_congr (allocations : t.allocations = s.allocations) (freed : t.freed = s.freed) :
    t.Dangling = s.Dangling := by
  funext vfs
  unfold State.Dangling
  rw [allocations, freed]

/-- An allocation that the registry holds is the one that `MEM_VFS` points to. -/
theorem Holds.registered (holds : Holds none s) {allocation : Nat}
    (member : .own allocation ∈ s.vfsList) : s.memVfs = some (.own allocation) := by
  obtain ⟨inside, kept⟩ := dangling_own.mp (holds.clean _ member)
  exact (holds.accounted allocation inside).resolve_right (not_or.mpr ⟨kept, nofun⟩)

theorem Holds.relist (holds : Holds pending s) (memVfs : t.memVfs = s.memVfs)
    (allocations : t.allocations = s.allocations) (freed : t.freed = s.freed)
    (living : ∀ vfs ∈ t.vfsList, vfs ∈ s.vfsList ∨ s.Dangling vfs = false ∧
      ∀ allocation, pending = some allocation → vfs ≠ .own allocation) : Holds pending t := by
  have dangling := dangling_congr allocations freed
  constructor
  · rw [memVfs, dangling]
    exact holds.living
  · rw [memVfs, allocations, freed]
    exact holds.accounted
  · rw [allocations, freed]
    exact holds.known
  · rw [freed]
    exact holds.once
  · intro vfs member
    rw [dangling]
    exact (living vfs member).elim (holds.clean vfs) And.left
  · intro allocation same
    obtain ⟨alive, other, absent⟩ := holds.spare allocation same
    rw [dangling, memVfs]
    refine ⟨alive, other, fun member => ?_⟩
    rcases living _ member with member | ⟨-, different⟩
    · exact absent member
    · exact different allocation same rfl

theorem Holds.of_eq (holds : Holds pending s) (vfsList : t.vfsList = s.vfsList)
    (memVfs : t.memVfs = s.memVfs) (allocations : t.allocations = s.allocations)
    (freed : t.freed = s.freed) : Holds pending t :=
  holds.relist memVfs allocations freed fun _ member => .inl (vfsList ▸ member)

/-! ## Calls of SQLite -/

variable {ε : Type} {init : Initialize} {name : String} {vfs : Vfs} {makeDflt : Bool}
  {code : VfsErrorCode}

theorem readList_run (clean : ∀ vfs ∈ s.vfsList, s.Dangling vfs = false) :
    (readList : M ε _).run s = (.ok s.vfsList, s) := by
  unfold readList
  rw [Prog.get_bind, if_neg]
  · rfl
  · intro any
    obtain ⟨vfs, member, dangling⟩ := List.any_eq_true.mp any
    exact Bool.false_ne_true ((clean vfs member).symm.trans dangling)

theorem vfsFind_ok (name : String) (run : init.run s = (.ok none, t))
    (clean : ∀ vfs ∈ t.vfsList, t.Dangling vfs = false) :
    (vfsFind init name : M ε _).run s = (.ok (LinkedList.find Vfs.name name t.vfsList), t) := by
  unfold vfsFind
  rw [Prog.bind_ok (Prog.widen_ok run)]
  dsimp only
  rw [Prog.bind_ok (readList_run clean)]
  rfl

theorem vfsFind_failed (run : init.run s = (.ok (some code), t)) :
    (vfsFind init name : M ε _).run s = (.ok none, t) := by
  unfold vfsFind
  rw [Prog.bind_ok (Prog.widen_ok run)]
  rfl

theorem vfsRegister_ok (run : init.run s = (.ok none, t))
    (clean : ∀ vfs ∈ t.vfsList, t.Dangling vfs = false) :
    (vfsRegister init vfs makeDflt : M ε _).run s =
      (.ok none, { t with vfsList := LinkedList.link id vfs makeDflt t.vfsList }) := by
  unfold vfsRegister
  rw [Prog.bind_ok (Prog.widen_ok run)]
  dsimp only
  rw [Prog.bind_ok (readList_run clean)]
  rfl

theorem vfsRegister_failed (run : init.run s = (.ok (some code), t)) :
    (vfsRegister init vfs makeDflt : M ε _).run s = (.ok (some code), t) := by
  unfold vfsRegister
  rw [Prog.bind_ok (Prog.widen_ok run)]
  rfl

theorem vfsUnregister_ok (run : init.run s = (.ok none, t))
    (clean : ∀ vfs ∈ t.vfsList, t.Dangling vfs = false) :
    (vfsUnregister init vfs : M ε _).run s =
      (.ok none, { t with vfsList := LinkedList.unlink id vfs t.vfsList }) := by
  unfold vfsUnregister
  rw [Prog.bind_ok (Prog.widen_ok run)]
  dsimp only
  rw [Prog.bind_ok (readList_run clean)]
  rfl

theorem vfsUnregister_failed (run : init.run s = (.ok (some code), t)) :
    (vfsUnregister init vfs : M ε _).run s = (.ok (some code), t) := by
  unfold vfsUnregister
  rw [Prog.bind_ok (Prog.widen_ok run)]
  rfl

theorem free_run {allocation : Nat} (alive : s.Dangling (.own allocation) = false) :
    (free (.own allocation) : M ε _).run s =
      (.ok (), { s with freed := s.freed ++ [allocation] }) := by
  unfold free
  rw [Prog.get_bind]
  dsimp only
  rw [alive]
  rfl

theorem appData_run {allocation : Nat} (alive : s.Dangling (.own allocation) = false) :
    (appData (.own allocation) : M ε _).run s = (.ok allocation, s) := by
  unfold appData
  rw [Prog.get_bind]
  dsimp only
  rw [alive]
  rfl

theorem Holds.link (makeDflt : Bool) (holds : Holds pending s) (alive : s.Dangling vfs = false)
    (other : ∀ allocation, pending = some allocation → vfs ≠ .own allocation) :
    Holds pending { s with vfsList := LinkedList.link id vfs makeDflt s.vfsList } := by
  refine holds.relist rfl rfl rfl fun found member => ?_
  rcases LinkedList.mem_link.mp member with rfl | ⟨member, -⟩
  · exact .inr ⟨alive, other⟩
  · exact .inl member

theorem Spares.link (vfs : Vfs) (makeDflt : Bool) :
    Spares s { s with vfsList := LinkedList.link id vfs makeDflt s.vfsList } where
  foreign id' name member := by
    rw [LinkedList.mem_link]
    by_cases same : Vfs.foreign id' name = vfs
    · exact .inl same
    · exact .inr ⟨member, same⟩
  data := List.prefix_refl _

theorem Keeps.link (vfs : Vfs) (makeDflt : Bool) :
    Keeps s { s with vfsList := LinkedList.link id vfs makeDflt s.vfsList } :=
  ⟨.link vfs makeDflt, fun _ same => same⟩

end MemVfsInstall

end SqliteVfs
