import SqliteVfs.Sahpool.WorkerSpec

/-!
# The invariant of a worker

`Worker.Good` says that every name, directory and registration has its pool.  `Worker.Turn`
says, for each request that comes back, everything it can have done; every turn leads from a
good worker to a good one, so every run does.
-/

set_option autoImplicit false

namespace SqliteVfs

namespace Sahpool

variable {mode : Mode} {s s' : System} {w w' : World} {g g' : Ledger}

/-! ## What holds of a worker -/

def Pool.Present (pool : Pool) : Prop := pool.system.world.state ≠ .removed

/-- An installation that has begun takes neither a name, nor a directory, nor an allocation
from anyone. -/
structure Worker.Pending (worker : Worker) (pending : PendingInstall) : Prop where
  installs : Installs .lax pending.world pending.installing
  unnamed : worker.registeredPools.lookup pending.world.name = none
  vacant : ∀ (i : Nat) (pool : Pool), worker.pools[i]? = some pool → pool.Present →
    pool.directory ≠ pending.directory
  fresh : pending.installing.config.vfs ∉ worker.allocated
  unlisted : ∀ entry ∈ worker.registry, entry.pointer ≠ pending.installing.config.vfs

structure Worker.Good (worker : Worker) : Prop where
  pools : ∀ (i : Nat) (pool : Pool), worker.pools[i]? = some pool →
    ∃ g, Sahpool.Good .lax pool.system g
  registered : ∀ (name : String) (i : Nat), worker.registeredPools.lookup name = some i ↔
    ∃ pool, worker.pools[i]? = some pool ∧ pool.system.world.name = name ∧ pool.Present
  directories : ∀ (i j : Nat) (pool other : Pool), worker.pools[i]? = some pool →
    worker.pools[j]? = some other → pool.Present → other.Present →
    pool.directory = other.directory → i = j
  owners : ∀ (i j : Nat) (pool other : Pool) (vfs : Nat), worker.pools[i]? = some pool →
    worker.pools[j]? = some other → pool.system.world.registration = some vfs →
    other.system.world.registration = some vfs → i = j
  allocated : ∀ vfs, vfs ∈ worker.allocated ↔ vfs ∈ worker.freed ∨ ∃ (i : Nat) (pool : Pool),
    worker.pools[i]? = some pool ∧ pool.system.world.registration = some vfs
  living : ∀ (i : Nat) (pool : Pool) (vfs : Nat), worker.pools[i]? = some pool →
    pool.system.world.registration = some vfs → vfs ∉ worker.freed
  once : worker.freed.Nodup
  listed : ∀ entry ∈ worker.registry, entry.pointer ∈ worker.allocated →
    ∃ (i : Nat) (pool : Pool), worker.pools[i]? = some pool ∧
      pool.system.world.registration = some entry.pointer ∧
      pool.system.world.name = entry.name ∧ pool.system.world.state = .active
  pending : ∀ pending, worker.installing = some pending → worker.Pending pending

variable {worker worker' : Worker} {i j : Nat} {pool other : Pool}

theorem pools_set {pools : List Pool} {changed : Pool} (there : pools[i]? = some pool) :
    (pools.set i changed)[j]? = some other ↔
      (j = i ∧ other = changed) ∨ (j ≠ i ∧ pools[j]? = some other) := by
  obtain ⟨inside, -⟩ := List.getElem?_eq_some_iff.mp there
  by_cases same : j = i
  · subst same
    rw [List.getElem?_set_self inside]
    constructor
    · exact fun here => .inl ⟨rfl, (Option.some.inj here).symm⟩
    · rintro (⟨-, rfl⟩ | ⟨different, -⟩)
      · rfl
      · exact absurd rfl different
  · rw [List.getElem?_set_ne (Ne.symm same)]
    constructor
    · exact fun here => .inr ⟨same, here⟩
    · rintro (⟨same', -⟩ | ⟨-, here⟩)
      · exact absurd same' same
      · exact here

theorem pools_snoc {pools : List Pool} {new : Pool} : (pools ++ [new])[j]? = some other ↔
    pools[j]? = some other ∨ (j = pools.length ∧ other = new) := by
  rcases Nat.lt_trichotomy j pools.length with inside | rfl | beyond
  · rw [List.getElem?_append_left inside]
    refine ⟨.inl, ?_⟩
    rintro (here | ⟨rfl, -⟩)
    · exact here
    · exact absurd inside (Nat.lt_irrefl _)
  · rw [List.getElem?_concat_length, List.getElem?_eq_none (Nat.le_refl _)]
    constructor
    · exact fun here => .inr ⟨rfl, (Option.some.inj here).symm⟩
    · rintro (impossible | ⟨-, rfl⟩)
      · exact nomatch impossible
      · rfl
  · rw [List.getElem?_eq_none (by rw [List.length_append]; exact beyond),
      List.getElem?_eq_none (Nat.le_of_lt beyond)]
    refine iff_of_false nofun ?_
    rintro (impossible | ⟨rfl, -⟩)
    · exact nomatch impossible
    · exact Nat.lt_irrefl _ beyond

theorem Worker.record_kept {system : System}
    (same : system.world.registration = pool.system.world.registration) :
    worker.record i pool system = { worker with
      registry := system.world.registry
      pools := worker.pools.set i { pool with system } } := by
  unfold Worker.record
  rcases owned : pool.system.world.registration with _ | vfs
  · rfl
  · rw [same, owned]

theorem Worker.record_freed {system : System} {vfs : Nat}
    (owned : pool.system.world.registration = some vfs)
    (gone : system.world.registration = none) :
    worker.record i pool system = { worker with
      registry := system.world.registry
      pools := worker.pools.set i { pool with system }
      registeredPools := worker.registeredPools.erase pool.system.world.name
      freed := worker.freed ++ [vfs] } := by
  unfold Worker.record
  rw [owned, gone]

namespace Worker.Good

variable (good : worker.Good)

include good

theorem owner (there : worker.pools[i]? = some pool) {entry : Vfs}
    (member : entry ∈ worker.registry)
    (owned : pool.system.world.registration = some entry.pointer) :
    pool.system.world.name = entry.name ∧ pool.system.world.state = .active := by
  have allocated := (good.allocated entry.pointer).mpr (.inr ⟨i, pool, there, owned⟩)
  obtain ⟨j, other, here, owned', named, active⟩ := good.listed entry member allocated
  obtain rfl := good.owners i j pool other entry.pointer there here owned owned'
  obtain rfl := Option.some.inj (there.symm.trans here)
  exact ⟨named, active⟩

theorem replaced (there : worker.pools[i]? = some pool) {system : System}
    (pool_good : ∃ g, Sahpool.Good .lax system g)
    (name : system.world.name = pool.system.world.name)
    (registration : system.world.registration = pool.system.world.registration)
    (present : system.world.state = .removed ↔ pool.system.world.state = .removed)
    (registry : List Vfs)
    (others : ∀ entry ∈ registry, pool.system.world.registration ≠ some entry.pointer →
      entry ∈ worker.registry)
    (own : ∀ entry ∈ registry, pool.system.world.registration = some entry.pointer →
      pool.system.world.name = entry.name ∧ system.world.state = .active) :
    Worker.Good { worker with registry, pools := worker.pools.set i { pool with system } } := by
  -- Every pool has one that stands for it on the other side.
  have back (j : Nat) (now : Pool)
      (here : (worker.pools.set i { pool with system })[j]? = some now) :
      ∃ old, worker.pools[j]? = some old ∧ now.directory = old.directory ∧
        now.system.world.name = old.system.world.name ∧
        now.system.world.registration = old.system.world.registration ∧
        (now.Present ↔ old.Present) := by
    rcases (pools_set there).mp here with ⟨rfl, rfl⟩ | ⟨-, here⟩
    · exact ⟨pool, there, rfl, name, registration, not_congr present⟩
    · exact ⟨now, here, rfl, rfl, rfl, .rfl⟩
  have forth (j : Nat) (old : Pool) (here : worker.pools[j]? = some old) :
      ∃ now, (worker.pools.set i { pool with system })[j]? = some now ∧
        now.system.world.name = old.system.world.name ∧
        now.system.world.registration = old.system.world.registration ∧
        (now.Present ↔ old.Present) := by
    by_cases same : j = i
    · subst same
      obtain rfl := Option.some.inj (there.symm.trans here)
      exact ⟨_, (pools_set there).mpr (.inl ⟨rfl, rfl⟩), name, registration, not_congr present⟩
    · exact ⟨old, (pools_set there).mpr (.inr ⟨same, here⟩), rfl, rfl, .rfl⟩
  constructor
  case pools =>
    intro j now here
    rcases (pools_set there).mp here with ⟨rfl, rfl⟩ | ⟨-, here⟩
    · exact pool_good
    · exact good.pools j now here
  case registered =>
    intro name' j
    rw [good.registered name' j]
    constructor
    · rintro ⟨old, here, named, stays⟩
      obtain ⟨now, here', name, -, present⟩ := forth j old here
      exact ⟨now, here', name.trans named, present.mpr stays⟩
    · rintro ⟨now, here, named, stays⟩
      obtain ⟨old, here', -, name, -, present⟩ := back j now here
      exact ⟨old, here', name.symm.trans named, present.mp stays⟩
  case directories =>
    intro j k first second here here' stays stays' same
    obtain ⟨old, before, directory, -, -, present⟩ := back j first here
    obtain ⟨old', before', directory', -, -, present'⟩ := back k second here'
    refine good.directories j k old old' before before' (present.mp stays) (present'.mp stays') ?_
    rw [← directory, ← directory']
    exact same
  case owners =>
    intro j k first second vfs here here' owned owned'
    obtain ⟨old, before, -, -, registration, -⟩ := back j first here
    obtain ⟨old', before', -, -, registration', -⟩ := back k second here'
    exact good.owners j k old old' vfs before before' (registration.symm.trans owned)
      (registration'.symm.trans owned')
  case allocated =>
    intro vfs
    rw [good.allocated vfs]
    refine or_congr .rfl ⟨?_, ?_⟩
    · rintro ⟨j, old, here, owned⟩
      obtain ⟨now, here', -, registration, -⟩ := forth j old here
      exact ⟨j, now, here', registration.trans owned⟩
    · rintro ⟨j, now, here, owned⟩
      obtain ⟨old, here', -, -, registration, -⟩ := back j now here
      exact ⟨j, old, here', registration.symm.trans owned⟩
  case living =>
    intro j now vfs here owned
    obtain ⟨old, here', -, -, registration, -⟩ := back j now here
    exact good.living j old vfs here' (registration.symm.trans owned)
  case once => exact good.once
  case listed =>
    intro entry member allocated
    by_cases mine : pool.system.world.registration = some entry.pointer
    · obtain ⟨named, active⟩ := own entry member mine
      exact ⟨i, _, (pools_set there).mpr (.inl ⟨rfl, rfl⟩), registration.trans mine,
        name.trans named, active⟩
    · obtain ⟨j, old, here, owned, named, active⟩ :=
        good.listed entry (others entry member mine) allocated
      refine ⟨j, old, (pools_set there).mpr (.inr ⟨?_, here⟩), owned, named, active⟩
      rintro rfl
      obtain rfl := Option.some.inj (there.symm.trans here)
      exact mine owned
  case pending =>
    intro pending underway
    have before := good.pending pending underway
    refine ⟨before.installs, before.unnamed, ?_, before.fresh, ?_⟩
    · intro j now here stays
      obtain ⟨old, here', directory, -, -, present⟩ := back j now here
      rw [directory]
      exact before.vacant j old here' (present.mp stays)
    · intro entry member same
      by_cases mine : pool.system.world.registration = some entry.pointer
      · refine before.fresh ?_
        rw [← same]
        exact (good.allocated entry.pointer).mpr (.inr ⟨i, pool, there, mine⟩)
      · exact before.unlisted entry (others entry member mine) same

/-- A pool gives up its registration for good. -/
theorem removed (there : worker.pools[i]? = some pool) (present : pool.Present) {system : System}
    (pool_good : ∃ g, Sahpool.Good .lax system g) {vfs : Nat}
    (owned : pool.system.world.registration = some vfs)
    (registration : system.world.registration = none) (state : system.world.state = .removed) :
    Worker.Good { worker with
      registry := LinkedList.unlink Vfs.pointer vfs worker.registry
      pools := worker.pools.set i { pool with system }
      registeredPools := worker.registeredPools.erase pool.system.world.name
      freed := worker.freed ++ [vfs] } := by
  have named : worker.registeredPools.lookup pool.system.world.name = some i :=
    (good.registered _ i).mpr ⟨pool, there, rfl, present⟩
  -- The pools that are left, and the pools that own an allocation, are the other ones.
  have stays {j : Nat} {now : Pool}
    (here : (worker.pools.set i { pool with system })[j]? = some now)
      (still : now.Present) : j ≠ i ∧ worker.pools[j]? = some now := by
    rcases (pools_set there).mp here with ⟨rfl, rfl⟩ | beside
    · exact absurd state still
    · exact beside
  have owns {j : Nat} {now : Pool} {entry : Nat}
      (here : (worker.pools.set i { pool with system })[j]? = some now)
      (mine : now.system.world.registration = some entry) :
      j ≠ i ∧ worker.pools[j]? = some now := by
    rcases (pools_set there).mp here with ⟨rfl, rfl⟩ | beside
    · exact nomatch registration.symm.trans mine
    · exact beside
  constructor
  case pools =>
    intro j now here
    rcases (pools_set there).mp here with ⟨rfl, rfl⟩ | ⟨-, here⟩
    · exact pool_good
    · exact good.pools j now here
  case registered =>
    intro name j
    by_cases same : name = pool.system.world.name
    · subst same
      rw [AList.lookup_erase]
      refine iff_of_false nofun ?_
      rintro ⟨now, here, named', still⟩
      obtain ⟨different, before⟩ := stays here still
      have again := (good.registered _ j).mpr ⟨now, before, named', still⟩
      exact different (Option.some.inj (again.symm.trans named))
    · rw [AList.lookup_erase_ne same, good.registered name j]
      constructor
      · rintro ⟨old, here, named', still⟩
        refine ⟨old, (pools_set there).mpr (.inr ⟨?_, here⟩), named', still⟩
        rintro rfl
        obtain rfl := Option.some.inj (there.symm.trans here)
        exact same named'.symm
      · rintro ⟨now, here, named', still⟩
        exact ⟨now, (stays here still).2, named', still⟩
  case directories =>
    intro j k first second here here' still still' same
    exact good.directories j k first second (stays here still).2 (stays here' still').2 still
      still' same
  case owners =>
    intro j k first second entry here here' mine mine'
    exact good.owners j k first second entry (owns here mine).2 (owns here' mine').2 mine mine'
  case allocated =>
    intro entry
    rw [good.allocated entry, List.mem_append, List.mem_singleton]
    constructor
    · rintro (freed | ⟨j, old, here, mine⟩)
      · exact .inl (.inl freed)
      · by_cases same : j = i
        · subst same
          obtain rfl := Option.some.inj (there.symm.trans here)
          exact .inl (.inr (Option.some.inj (mine.symm.trans owned)))
        · exact .inr ⟨j, old, (pools_set there).mpr (.inr ⟨same, here⟩), mine⟩
    · rintro ((freed | rfl) | ⟨j, now, here, mine⟩)
      · exact .inl freed
      · exact .inr ⟨i, pool, there, owned⟩
      · exact .inr ⟨j, now, (owns here mine).2, mine⟩
  case living =>
    intro j now entry here mine freed
    obtain ⟨different, before⟩ := owns here mine
    rcases List.mem_append.mp freed with freed | last
    · exact good.living j now entry before mine freed
    · obtain rfl := List.mem_singleton.mp last
      exact different (good.owners j i now pool entry before there mine owned)
  case once =>
    refine List.nodup_append.mpr ⟨good.once, List.nodup_singleton vfs, ?_⟩
    rintro entry freed last member rfl
    obtain rfl := List.mem_singleton.mp member
    exact good.living i pool entry there owned freed
  case listed =>
    intro entry member allocated
    obtain ⟨member, different⟩ := LinkedList.mem_unlink.mp member
    obtain ⟨j, old, here, mine, named', active⟩ := good.listed entry member allocated
    refine ⟨j, old, (pools_set there).mpr (.inr ⟨?_, here⟩), mine, named', active⟩
    rintro rfl
    obtain rfl := Option.some.inj (there.symm.trans here)
    exact different (Option.some.inj (mine.symm.trans owned))
  case pending =>
    intro pending underway
    have before := good.pending pending underway
    refine ⟨before.installs, ?_, ?_, before.fresh, ?_⟩
    · by_cases same : pending.world.name = pool.system.world.name
      · rw [same, AList.lookup_erase]
      · rw [AList.lookup_erase_ne same]
        exact before.unnamed
    · exact fun j now here still => before.vacant j now (stays here still).2 still
    · exact fun entry member => before.unlisted entry (LinkedList.mem_unlink.mp member).1

theorem recorded (there : worker.pools[i]? = some pool) {system : System}
    (pool_good : ∃ g, Sahpool.Good .lax system g) {env : Env} {event : Event}
    {result : Outcome Failure Answer}
    (shifts : Shifts event result (pool.system.world.facing ⟨env, worker.registry⟩) system.world) :
    (worker.record i pool system).Good := by
  cases shifts with
  | stays same =>
      rw [Worker.record_kept same.registration]
      refine good.replaced there pool_good same.name same.registration ?_ _ ?_ ?_
      · rw [same.state]
        exact .rfl
      · intro entry member _
        rw [same.registry] at member
        exact member
      · intro entry member mine
        rw [same.registry] at member
        obtain ⟨named, active⟩ := good.owner there member mine
        exact ⟨named, same.state.trans active⟩
  | pauses vfs active owned after =>
      rw [Worker.record_kept after.registration]
      have registry : system.world.registry = LinkedList.unlink Vfs.pointer vfs worker.registry :=
        after.registry
      refine good.replaced there pool_good after.name after.registration ?_ _ ?_ ?_
      · rw [after.state]
        refine iff_of_false nofun fun removed => ?_
        exact nomatch removed.symm.trans active
      · intro entry member _
        rw [registry] at member
        exact (LinkedList.mem_unlink.mp member).1
      · intro entry member mine
        rw [registry] at member
        have same := Option.some.inj (mine.symm.trans owned)
        exact absurd same (LinkedList.mem_unlink.mp member).2
  | resumes vfs paused owned unrivalled after =>
      rw [Worker.record_kept after.registration]
      have registry : system.world.registry = LinkedList.link Vfs.pointer
          ⟨vfs, pool.system.world.name⟩ pool.system.world.makeDefault worker.registry :=
        after.registry
      refine good.replaced there pool_good after.name after.registration ?_ _ ?_ ?_
      · rw [after.state]
        refine iff_of_false nofun fun removed => ?_
        exact nomatch removed.symm.trans paused
      · intro entry member foreign
        rw [registry] at member
        rcases LinkedList.mem_link.mp member with rfl | ⟨member, -⟩
        · exact absurd owned foreign
        · exact member
      · intro entry member mine
        rw [registry] at member
        have same := Option.some.inj (mine.symm.trans owned)
        rcases LinkedList.mem_link.mp member with rfl | ⟨-, different⟩
        · exact ⟨rfl, after.state⟩
        · exact absurd same different
  | uninstalls vfs asked answered present owned after =>
      have registry : system.world.registry = LinkedList.unlink Vfs.pointer vfs worker.registry :=
        after.registry
      rw [Worker.record_freed owned after.registration, registry]
      exact good.removed there present pool_good owned after.registration after.state

/-- A pool is published under a name that is free. -/
theorem published {pending : PendingInstall} (underway : worker.Pending pending) {w : World}
    (pool_good : ∃ g, Sahpool.Good .lax ⟨w, [], []⟩ g) (name : w.name = pending.world.name)
    (active : w.state = .active)
    (registration : w.registration = some pending.installing.config.vfs) {registry : List Vfs}
    {makeDflt : Bool} (linked : registry = LinkedList.link Vfs.pointer
      ⟨pending.installing.config.vfs, w.name⟩ makeDflt worker.registry) :
    (Worker.publish { worker with registry } pending w).Good := by
  set new : Pool := ⟨⟨w, [], []⟩, pending.directory, pending.callbackType⟩
  have places {j : Nat} {now : Pool} : (worker.pools ++ [new])[j]? = some now ↔
      worker.pools[j]? = some now ∨ (j = worker.pools.length ∧ now = new) := pools_snoc
  have early {j : Nat} {now : Pool} (here : worker.pools[j]? = some now) :
      j ≠ worker.pools.length := Nat.ne_of_lt (List.getElem?_eq_some_iff.mp here).1
  have unused {j : Nat} {now : Pool} (here : worker.pools[j]? = some now) :
      now.system.world.registration ≠ some pending.installing.config.vfs := fun owned =>
    underway.fresh ((good.allocated _).mpr (.inr ⟨j, now, here, owned⟩))
  unfold Worker.publish
  rw [registration]
  constructor
  case pools =>
    intro j now here
    rcases places.mp here with here | ⟨-, rfl⟩
    · exact good.pools j now here
    · exact pool_good
  case registered =>
    intro name' j
    dsimp only
    by_cases same : name' = w.name
    · subst same
      rw [AList.lookup_insert]
      constructor
      · intro here
        obtain rfl := Option.some.inj here
        exact ⟨new, places.mpr (.inr ⟨rfl, rfl⟩), rfl, fun removed =>
          nomatch active.symm.trans removed⟩
      · rintro ⟨now, here, named, present⟩
        rcases places.mp here with here | ⟨rfl, -⟩
        · have taken := (good.registered _ j).mpr ⟨now, here, named.trans name, present⟩
          exact nomatch underway.unnamed.symm.trans taken
        · rfl
    · rw [AList.lookup_insert_ne same, good.registered name' j]
      constructor
      · rintro ⟨now, here, named, present⟩
        exact ⟨now, places.mpr (.inl here), named, present⟩
      · rintro ⟨now, here, named, present⟩
        rcases places.mp here with here | ⟨-, rfl⟩
        · exact ⟨now, here, named, present⟩
        · exact absurd named.symm same
  case directories =>
    intro j k first second here here' present present' same
    rcases places.mp here with here | ⟨rfl, rfl⟩ <;> rcases places.mp here' with here' | ⟨rfl, rfl⟩
    · exact good.directories j k first second here here' present present' same
    · exact absurd same (underway.vacant j first here present)
    · exact absurd same.symm (underway.vacant k second here' present')
    · rfl
  case owners =>
    intro j k first second vfs here here' owned owned'
    rcases places.mp here with here | ⟨rfl, rfl⟩ <;> rcases places.mp here' with here' | ⟨rfl, rfl⟩
    · exact good.owners j k first second vfs here here' owned owned'
    · obtain rfl := Option.some.inj (registration.symm.trans owned')
      exact absurd owned (unused here)
    · obtain rfl := Option.some.inj (registration.symm.trans owned)
      exact absurd owned' (unused here')
    · rfl
  case allocated =>
    intro vfs
    change vfs ∈ worker.allocated ++ [pending.installing.config.vfs] ↔ _
    rw [List.mem_append, List.mem_singleton, good.allocated vfs]
    constructor
    · rintro ((freed | ⟨j, now, here, owned⟩) | rfl)
      · exact .inl freed
      · exact .inr ⟨j, now, places.mpr (.inl here), owned⟩
      · exact .inr ⟨_, new, places.mpr (.inr ⟨rfl, rfl⟩), registration⟩
    · rintro (freed | ⟨j, now, here, owned⟩)
      · exact .inl (.inl freed)
      · rcases places.mp here with here | ⟨-, rfl⟩
        · exact .inl (.inr ⟨j, now, here, owned⟩)
        · exact .inr (Option.some.inj (registration.symm.trans owned)).symm
  case living =>
    intro j now vfs here owned freed
    rcases places.mp here with here | ⟨-, rfl⟩
    · exact good.living j now vfs here owned freed
    · obtain rfl := Option.some.inj (registration.symm.trans owned)
      exact underway.fresh ((good.allocated _).mpr (.inl freed))
  case once => exact good.once
  case listed =>
    intro entry member allocated
    change entry.pointer ∈ worker.allocated ++ [pending.installing.config.vfs] at allocated
    change entry ∈ registry at member
    rw [linked] at member
    rcases LinkedList.mem_link.mp member with rfl | ⟨member, different⟩
    · exact ⟨_, new, places.mpr (.inr ⟨rfl, rfl⟩), registration, rfl, active⟩
    · rcases List.mem_append.mp allocated with allocated | last
      · obtain ⟨j, now, here, found⟩ := good.listed entry member allocated
        exact ⟨j, now, places.mpr (.inl here), found⟩
      · exact absurd (List.mem_singleton.mp last) different
  case pending => exact fun _ underway => nomatch underway

end Worker.Good

/-! ## What a request can do -/

/-- A pointer stands for one allocation, so a new one is none of those before and none of other
code; what appears in a directory appears after an iterator that is going over it. -/
def Occasion.Allowed (worker : Worker) (occasion : Occasion) : Prop :=
  match occasion.request with
  | .install request => request.vfs ∉ worker.allocated ∧
    ∀ entry ∈ worker.registry, entry.pointer ≠ request.vfs
  | .register vfs _ => vfs.pointer ∉ worker.allocated ∧
    ∀ pending, worker.installing = some pending → vfs.pointer ≠ pending.installing.config.vfs
  | .appear i _ => ∀ pool, worker.pools[i]? = some pool → ¬ pool.Iterates
  | _ => True

def Worker.pendingOf (worker : Worker) (env : Env) (request : InstallRequest) (directory : String) :
    PendingInstall where
  world := ((World.start request.slots request.options.vfsName).facing
    ⟨env, worker.registry⟩).silenced
  installing := .opening request.config "get OPFS root" openingCalls
  directory := directory
  callbackType := request.callbackType

def answered : Outcome Failure Answer → WorkerOutcome
  | .ok answer => .ok (.answer answer)
  | .err error => .err error
  | .halt why => .halt why

inductive Worker.Turn (worker : Worker) (env : Env) :
    Request → WorkerOutcome → Worker → Prop
  | idle (request outcome) (unanswered : ∀ i, outcome ≠ .ok (.handle i)) :
    Turn worker env request outcome worker
  | called (i event result pool system) (there : worker.pools[i]? = some pool)
      (ran : pool.system.run ⟨⟨env, worker.registry⟩, event⟩ = (result, system))
      (returns : ∀ why, result ≠ .halt why) :
    Turn worker env (.pool i event) (answered result) (worker.record i pool system)
  | kept (request error i pool w) (there : worker.pools[i]? = some pool)
      (consulted : (pool.system.world.facing ⟨env, worker.registry⟩).Consulted .lax w) :
    Turn worker env (.install request) (.err error)
      (worker.record i pool { pool.system with world := w.silenced })
  | reused (request directory i pool w)
      (normalized : normalizeDirectory request.options.directory = .ok directory)
      (named : worker.registeredPools.lookup request.options.vfsName = some i)
      (there : worker.pools[i]? = some pool)
      (same : pool.directory = directory ∧ pool.callbackType = request.callbackType)
      (result : Reused .lax request.defaultVfs
        (pool.system.world.facing ⟨env, worker.registry⟩) w) :
    Turn worker env (.install request) (.ok (.handle i))
      (worker.record i pool { pool.system with world := w.silenced })
  | begun (request directory)
      (normalized : normalizeDirectory request.options.directory = .ok directory)
      (readable : 0 ∉ nameBytes request.options.vfsName)
      (alone : worker.installing = none)
      (unnamed : worker.registeredPools.lookup request.options.vfsName = none)
      (vacant : worker.owns directory = false) :
    Turn worker env (.install request) (.ok .pending)
      { worker with installing := some (worker.pendingOf env request directory) }
  | polled (pending installing w) (there : worker.installing = some pending)
      (run : (Sahpool.pollInstall pending.installing).run
        (pending.world.facing ⟨env, worker.registry⟩) = (.ok (.pending installing), w))
      (same : SameEntry (pending.world.facing ⟨env, worker.registry⟩) w) :
    Turn worker env .pollInstall (.ok .pending)
      { worker with installing := some { pending with world := w.silenced, installing } }
  | published (pending w) (there : worker.installing = some pending)
      (run : (Sahpool.pollInstall pending.installing).run
        (pending.world.facing ⟨env, worker.registry⟩) = (.ok (.ready ()), w))
      (registers : Registers pending.installing.config
        (pending.world.facing ⟨env, worker.registry⟩) w) :
    Turn worker env .pollInstall (.ok (.handle worker.pools.length))
      (Worker.publish { worker with registry := w.registry } pending w.silenced)
  | ended (request outcome) (unanswered : ∀ i, outcome ≠ .ok (.handle i))
      (ends : request = .pollInstall ∨ request = .cancelInstall) :
    Turn worker env request outcome { worker with installing := none }
  | registered (vfs makeDflt) : Turn worker env (.register vfs makeDflt) (.ok .done)
      { worker with registry := LinkedList.link Vfs.pointer vfs makeDflt worker.registry }
  | unregistered (pointer) : Turn worker env (.unregister pointer) (.ok .done)
      { worker with registry := LinkedList.unlink Vfs.pointer pointer worker.registry }
  | appeared (i file) : Turn worker env (.appear i file) (.ok .done) (worker.appear i file)

namespace Worker.Good

variable (good : worker.Good) {env : Env} {outcome : WorkerOutcome}

theorem call_turned {event : Event} (run : worker.callPool env i event = (outcome, worker'))
    (returns : ∀ why, outcome ≠ .halt why) :
    Worker.Turn worker env (.pool i event) outcome worker' := by
  unfold Worker.callPool at run
  rcases there : worker.pools[i]? with _ | pool
  · rw [there] at run
    cases run
    exact .idle _ _ nofun
  · rw [there] at run
    rcases ran : pool.system.run ⟨⟨env, worker.registry⟩, event⟩ with
      ⟨answer | error | why, system⟩
    · simp only [ran] at run
      cases run
      exact .called i event _ pool system there ran nofun
    · simp only [ran] at run
      cases run
      exact .called i event _ pool system there ran nofun
    · simp only [ran] at run
      exact absurd (congrArg Prod.fst run).symm (returns why)

include good

theorem reuse_turned {request : InstallRequest} {directory : String}
    (normalized : normalizeDirectory request.options.directory = .ok directory)
    (named : worker.registeredPools.lookup request.options.vfsName = some i)
    (run : worker.reuse env i directory request.callbackType request.defaultVfs =
      (outcome, worker')) (returns : ∀ why, outcome ≠ .halt why) :
    Worker.Turn worker env (.install request) outcome worker' := by
  unfold Worker.reuse at run
  obtain ⟨pool, there, -, -⟩ := (good.registered _ i).mp named
  obtain ⟨g, pool_good⟩ := good.pools i pool there
  rw [there] at run
  change worker.reusePool _ _ _ _ _ = _ at run
  unfold Worker.reusePool at run
  have lax (reply : Reply) (_ : reply ∈ env.replies) : reply.Allowed .lax := reply.allowed_lax
  have readable : 0 ∉ nameBytes (pool.system.world.facing ⟨env, worker.registry⟩).name :=
    pool_good.readable
  have ends := reuse_ends lax readable
    (decide (pool.directory ≠ directory ∨ pool.callbackType ≠ request.callbackType))
    request.defaultVfs
  rcases ran : (Sahpool.reuse (decide (pool.directory ≠ directory ∨
    pool.callbackType ≠ request.callbackType)) request.defaultVfs).run
      (pool.system.world.facing ⟨env, worker.registry⟩) with ⟨⟨⟩ | error | why, w⟩
  · rw [ran] at run
    obtain ⟨rfl, rfl⟩ := Prod.mk.inj run
    obtain ⟨matching, result⟩ := ends.ok ran
    have same := of_decide_eq_false matching
    rw [not_or, not_not, not_not] at same
    exact .reused request directory i pool w normalized named there same result
  · rw [ran] at run
    obtain ⟨rfl, rfl⟩ := Prod.mk.inj run
    exact .kept request _ i pool w there (ends.err ran)
  · rw [ran] at run
    exact absurd (congrArg Prod.fst run).symm (returns why)

omit good in
theorem begin_turned {request : InstallRequest} {directory : String}
    (normalized : normalizeDirectory request.options.directory = .ok directory)
    (alone : worker.installing = none)
    (unnamed : worker.registeredPools.lookup request.options.vfsName = none)
    (run : worker.begin env request directory = (outcome, worker'))
    (returns : ∀ why, outcome ≠ .halt why) :
    Worker.Turn worker env (.install request) outcome worker' := by
  unfold Worker.begin at run
  rcases ran : (Sahpool.install request.config).run ((World.start request.slots
    request.options.vfsName).facing ⟨env, worker.registry⟩) with
    ⟨(installing | ⟨⟩) | error | why, w⟩
  · simp only [ran] at run
    obtain ⟨readable, rfl, rfl⟩ := install_pending ran
    by_cases owned : worker.owns directory = true
    · rw [if_pos owned] at run
      cases run
      exact .idle _ _ nofun
    · rw [if_neg owned] at run
      cases run
      exact .begun request directory normalized readable alone unnamed
        (Bool.eq_false_iff.mpr owned)
  · simp only [ran] at run
    cases run
    exact .idle _ _ nofun
  · simp only [ran] at run
    cases run
    exact .idle _ _ nofun
  · simp only [ran] at run
    exact absurd (congrArg Prod.fst run).symm (returns why)

theorem install_turned {request : InstallRequest}
    (run : worker.install env request = (outcome, worker'))
    (returns : ∀ why, outcome ≠ .halt why) :
    Worker.Turn worker env (.install request) outcome worker' := by
  unfold Worker.install at run
  by_cases empty : request.options.vfsName = ""
  · rw [if_pos empty] at run
    cases run
    exact .idle _ _ nofun
  rw [if_neg empty] at run
  by_cases unreadable : 0 ∈ nameBytes request.options.vfsName
  · rw [if_pos unreadable] at run
    cases run
    exact .idle _ _ nofun
  rw [if_neg unreadable] at run
  rcases normalized : normalizeDirectory request.options.directory with error | directory
  · rw [normalized] at run
    cases run
    exact .idle _ _ nofun
  rw [normalized] at run
  dsimp only at run
  by_cases waits : worker.installing.isSome = true
  · rw [if_pos waits] at run
    cases run
    exact .idle _ _ nofun
  rw [if_neg waits] at run
  have alone : worker.installing = none := Option.not_isSome_iff_eq_none.mp waits
  rcases named : worker.registeredPools.lookup request.options.vfsName with _ | i
  · rw [named] at run
    exact begin_turned normalized alone named run returns
  · rw [named] at run
    exact good.reuse_turned normalized named run returns

theorem pollInstall_turned (run : worker.pollInstall env = (outcome, worker'))
    (returns : ∀ why, outcome ≠ .halt why) :
    Worker.Turn worker env .pollInstall outcome worker' := by
  unfold Worker.pollInstall at run
  rcases there : worker.installing with _ | pending
  · rw [there] at run
    cases run
    exact .idle _ _ nofun
  rw [there] at run
  change worker.pollPending _ _ = _ at run
  unfold Worker.pollPending at run
  have lax (reply : Reply) (_ : reply ∈ env.replies) : reply.Allowed .lax := reply.allowed_lax
  have installs : Installs .lax (pending.world.facing ⟨env, worker.registry⟩) pending.installing :=
    (good.pending pending there).installs.facing lax
  have shows_registry := pollInstall_shows installs lax
  rcases ran : (Sahpool.pollInstall pending.installing).run
    (pending.world.facing ⟨env, worker.registry⟩) with ⟨(installing | ⟨⟩) | error | why, w⟩
  · have same : SameEntry _ w := shows_registry.ok ran
    rw [ran] at run
    obtain ⟨rfl, rfl⟩ := Prod.mk.inj run
    have registry : w.registry = worker.registry := same.registry
    dsimp only
    rw [registry]
    exact .polled pending installing w there ran same
  · have registers : Registers _ _ w := shows_registry.ok ran
    rw [ran] at run
    obtain ⟨rfl, rfl⟩ := Prod.mk.inj run
    exact .published pending w there ran registers
  · have same : SameEntry _ w := shows_registry.err ran
    rw [ran] at run
    obtain ⟨rfl, rfl⟩ := Prod.mk.inj run
    have registry : w.registry = worker.registry := same.registry
    dsimp only
    rw [registry]
    exact .ended _ _ nofun (.inl rfl)
  · rw [ran] at run
    exact absurd (congrArg Prod.fst run).symm (returns why)

omit good in
theorem cancelInstall_turned (run : worker.cancelInstall env = (outcome, worker'))
    (returns : ∀ why, outcome ≠ .halt why) :
    Worker.Turn worker env .cancelInstall outcome worker' := by
  unfold Worker.cancelInstall at run
  rcases there : worker.installing with _ | pending
  · rw [there] at run
    cases run
    exact .idle _ _ nofun
  rw [there] at run
  change worker.cancelPending _ _ = _ at run
  unfold Worker.cancelPending at run
  have lax : ∀ reply ∈ (pending.world.facing ⟨env, worker.registry⟩).env.replies,
      reply.Allowed .lax := fun reply _ => reply.allowed_lax
  have shows_registry := cancelInstall_shows lax pending.installing
  rcases ran : (Sahpool.cancelInstall pending.installing).run
    (pending.world.facing ⟨env, worker.registry⟩) with ⟨⟨⟩ | error | why, w⟩
  · have same : SameEntry _ w := shows_registry.ok ran
    rw [ran] at run
    obtain ⟨rfl, rfl⟩ := Prod.mk.inj run
    have registry : w.registry = worker.registry := same.registry
    dsimp only
    rw [registry]
    exact .ended _ _ nofun (.inr rfl)
  · exact (shows_registry.err ran).elim
  · rw [ran] at run
    exact absurd (congrArg Prod.fst run).symm (returns why)

theorem turned {occasion : Occasion} (run : worker.run occasion = (outcome, worker'))
    (returns : ∀ why, outcome ≠ .halt why) :
    Worker.Turn worker occasion.env occasion.request outcome worker' := by
  obtain ⟨env, request⟩ := occasion
  cases request with
  | pool i event => exact call_turned run returns
  | install request => exact good.install_turned run returns
  | pollInstall => exact good.pollInstall_turned run returns
  | cancelInstall => exact cancelInstall_turned run returns
  | register vfs makeDflt =>
      cases run
      exact .registered vfs makeDflt
  | unregister pointer =>
      cases run
      exact .unregistered pointer
  | appear i file =>
      cases run
      exact .appeared i file

end Worker.Good

/-! ## Turns keep what holds -/

/-- What SQLite and the browser will say does not matter to the standing of a pool. -/
theorem Shifts.silenced {event : Event} {result : Outcome Failure Answer}
    (shifts : Shifts event result w w') : Shifts event result w w'.silenced := by
  cases shifts with
  | stays same => exact .stays { same with }
  | pauses vfs active owned after => exact .pauses vfs active owned { after with }
  | resumes vfs paused owned unrivalled after =>
      exact .resumes vfs paused owned unrivalled { after with }
  | uninstalls vfs asked answered present owned after =>
      exact .uninstalls vfs asked answered present owned { after with }

theorem Good.shifts (good : Good .lax s g) {around : Surroundings} {event : Event}
    {result : Outcome Failure Answer} (ran : s.run ⟨around, event⟩ = (result, s'))
    (returns : ∀ why, result ≠ .halt why) : (∃ g', Good .lax s' g') ∧
      ∃ env, Shifts event result (s.world.facing ⟨env, around.registry⟩) s'.world := by
  obtain ⟨outcome, g', run, ⟨around', s₂, answers, same, turn, rfl⟩, good'⟩ :=
    good.step (Moment.allowed_lax _) ⟨result, ran, returns⟩
  obtain rfl : outcome = result := congrArg Prod.fst (run.symm.trans ran)
  refine ⟨⟨g', good'⟩, around'.env, ?_⟩
  have shifts := (turn.shifts (good.facing answers)).silenced
  obtain ⟨env', registry'⟩ := around'
  cases same
  exact shifts

namespace Worker.Good

variable (good : worker.Good) {env : Env} {outcome : WorkerOutcome}

include good

theorem called (there : worker.pools[i]? = some pool) {system : System} {event : Event}
    {result : Outcome Failure Answer}
    (ran : pool.system.run ⟨⟨env, worker.registry⟩, event⟩ = (result, system))
    (returns : ∀ why, result ≠ .halt why) : (worker.record i pool system).Good := by
  obtain ⟨g, pool_good⟩ := good.pools i pool there
  obtain ⟨after, env', shifts⟩ := pool_good.shifts ran returns
  exact good.recorded there after shifts

theorem consulted (there : worker.pools[i]? = some pool) {w : World}
    (consulted : (pool.system.world.facing ⟨env, worker.registry⟩).Consulted .lax w) :
    (worker.record i pool { pool.system with world := w.silenced }).Good := by
  obtain ⟨⟨env', rfl⟩, -⟩ := consulted
  obtain ⟨g, pool_good⟩ := good.pools i pool there
  have after : Sahpool.Good .lax (pool.system.facing ⟨Env.silent, worker.registry⟩) g :=
    pool_good.facing nofun
  have shifts : Shifts .names (.ok .done) (pool.system.world.facing ⟨env, worker.registry⟩)
      { pool.system.world with
        registry := worker.registry
        env := Env.silent } := .stays ⟨rfl, rfl, rfl, rfl, rfl, rfl⟩
  exact good.recorded there ⟨g, after⟩ shifts

theorem reused (there : worker.pools[i]? = some pool) {defaultVfs : Bool} {w : World}
    (result : Reused .lax defaultVfs (pool.system.world.facing ⟨env, worker.registry⟩) w) :
    (worker.record i pool { pool.system with world := w.silenced }).Good := by
  obtain ⟨present, free, vfs, env', owned, unrivalled, -, eq⟩ := result
  obtain ⟨g, pool_good⟩ := good.pools i pool there
  have after : Sahpool.Good .lax { pool.system with world := w.silenced } g := by
    subst eq
    refine ⟨{ pool_good.toSound with rep := { pool_good.rep with allowed := nofun } }, ?_⟩
    change Duties _ _ _ pool.system.operations
    rw [pool_good.free_alone free]
    exact free
  have name : w.name = pool.system.world.name := by rw [eq]; rfl
  have state : w.state = pool.system.world.state := by rw [eq]; rfl
  have registration : w.registration = pool.system.world.registration := by rw [eq]; rfl
  have held {entry : Vfs} (member : entry ∈ w.registry) : entry ∈ worker.registry ∨
      (entry = ⟨vfs, pool.system.world.name⟩ ∧ pool.system.world.state = .active) := by
    rw [eq] at member
    exact mem_promoted member
  have same : ({ pool.system with world := w.silenced } : System).world.registration =
      pool.system.world.registration := registration
  rw [Worker.record_kept same]
  refine good.replaced there ⟨g, after⟩ name registration ?_ w.registry ?_ ?_
  · change w.state = .removed ↔ _
    rw [state]
  · intro entry member foreign
    rcases held member with kept | ⟨rfl, -⟩
    · exact kept
    · exact absurd owned foreign
  · intro entry member mine
    rcases held member with kept | ⟨rfl, active⟩
    · obtain ⟨named, active⟩ := good.owner there kept mine
      exact ⟨named, state.trans active⟩
    · exact ⟨rfl, state.trans active⟩

theorem begun {request : InstallRequest} {directory : String}
    (readable : 0 ∉ nameBytes request.options.vfsName)
    (unnamed : worker.registeredPools.lookup request.options.vfsName = none)
    (vacant : worker.owns directory = false) (fresh : request.vfs ∉ worker.allocated)
    (unlisted : ∀ entry ∈ worker.registry, entry.pointer ≠ request.vfs) :
    Worker.Good { worker with installing := some (worker.pendingOf env request directory) } := by
  refine { good with pending := ?_ }
  rintro _ ⟨⟩
  refine ⟨⟨⟨fun _ => rfl, readable⟩, nofun⟩, unnamed, ?_, fresh, unlisted⟩
  intro i pool there present same
  have listed := (good.registered _ i).mpr ⟨pool, there, rfl, present⟩
  have owns : worker.owns directory = true := by
    unfold Worker.owns
    refine List.any_eq_true.mpr ⟨⟨_, i⟩, AList.mem_lookup_iff.mp listed, ?_⟩
    dsimp only
    rw [there]
    exact decide_eq_true same
  exact Bool.false_ne_true (vacant.symm.trans owns)

theorem polled {pending : PendingInstall} {installing : Installing} {w : World}
    (underway : worker.installing = some pending)
    (run : (Sahpool.pollInstall pending.installing).run
      (pending.world.facing ⟨env, worker.registry⟩) = (.ok (.pending installing), w))
    (same : SameEntry (pending.world.facing ⟨env, worker.registry⟩) w) :
    Worker.Good
      { worker with installing := some { pending with world := w.silenced, installing } } := by
  have before := good.pending pending underway
  have lax (reply : Reply) (_ : reply ∈ env.replies) : reply.Allowed .lax := reply.allowed_lax
  have faced : Installs .lax (pending.world.facing ⟨env, worker.registry⟩) pending.installing :=
    before.installs.facing lax
  obtain ⟨installs, config⟩ := (pollInstall_ends faced lax).ok run
  refine { good with pending := ?_ }
  rintro _ ⟨⟩
  refine ⟨installs.silenced, ?_, before.vacant, ?_, ?_⟩
  · have name : w.name = pending.world.name := same.name
    change worker.registeredPools.lookup w.name = none
    rw [name]
    exact before.unnamed
  · change installing.config.vfs ∉ worker.allocated
    rw [config]
    exact before.fresh
  · change ∀ entry ∈ worker.registry, entry.pointer ≠ installing.config.vfs
    rw [config]
    exact before.unlisted

/-- Other code links a VFS of its own. -/
theorem linked {vfs : Vfs} (makeDflt : Bool) (foreign : vfs.pointer ∉ worker.allocated)
    (apart : ∀ pending, worker.installing = some pending →
      vfs.pointer ≠ pending.installing.config.vfs) :
    Worker.Good { worker with
      registry := LinkedList.link Vfs.pointer vfs makeDflt worker.registry } := by
  refine { good with listed := ?_, pending := ?_ }
  · intro entry member allocated
    rcases LinkedList.mem_link.mp member with rfl | ⟨member, -⟩
    · exact absurd allocated foreign
    · exact good.listed entry member allocated
  · intro pending underway
    have before := good.pending pending underway
    refine { before with unlisted := ?_ }
    intro entry member
    rcases LinkedList.mem_link.mp member with rfl | ⟨member, -⟩
    · exact apart pending underway
    · exact before.unlisted entry member

theorem unlinked (pointer : Nat) : Worker.Good { worker with
    registry := LinkedList.unlink Vfs.pointer pointer worker.registry } := by
  refine { good with listed := ?_, pending := ?_ }
  · exact fun entry member => good.listed entry (LinkedList.mem_unlink.mp member).1
  · intro pending underway
    have before := good.pending pending underway
    exact { before with
      unlisted := fun entry member => before.unlisted entry (LinkedList.mem_unlink.mp member).1 }

theorem appeared {file : String} (still : ∀ pool, worker.pools[i]? = some pool → ¬ pool.Iterates) :
    (worker.appear i file).Good := by
  unfold Worker.appear
  rcases there : worker.pools[i]? with _ | pool
  · exact good
  obtain ⟨g, pool_good⟩ := good.pools i pool there
  have after := pool_good.appear file fun vfs loading member =>
    still pool there ⟨vfs, loading, member⟩
  have same := createEntry_standing file pool.system.world
  refine good.replaced there ⟨g, after⟩ same.name same.registration ?_ worker.registry ?_ ?_
  · dsimp only
    rw [same.state]
  · exact fun entry member _ => member
  · intro entry member mine
    obtain ⟨named, active⟩ := good.owner there member mine
    exact ⟨named, same.state.trans active⟩

end Worker.Good

theorem Worker.Turn.good {env : Env} {request : Request} {outcome : WorkerOutcome}
    (turn : Worker.Turn worker env request outcome worker') (good : worker.Good)
    (allowed : Occasion.Allowed worker ⟨env, request⟩) : worker'.Good := by
  cases turn with
  | idle unanswered => exact good
  | called i event result pool system there ran returns => exact good.called there ran returns
  | kept request error i pool w there consulted => exact good.consulted there consulted
  | reused request directory i pool w normalized named there same result =>
      exact good.reused there result
  | begun request directory normalized readable alone unnamed vacant =>
      exact good.begun readable unnamed vacant allowed.1 allowed.2
  | polled pending installing w there run same => exact good.polled there run same
  | published pending w there run registers =>
      have before := good.pending pending there
      have lax : ∀ reply ∈ (pending.world.facing ⟨env, worker.registry⟩).env.replies,
          reply.Allowed .lax := fun reply _ => reply.allowed_lax
      obtain ⟨g, installed⟩ := (pollInstall_ends (before.installs.facing lax) lax).ok run
      have built := installed.silenced
      have name : w.silenced.name = pending.world.name := registers.name
      have linked : w.registry = LinkedList.link Vfs.pointer
          ⟨pending.installing.config.vfs, w.silenced.name⟩ pending.installing.config.defaultVfs
          worker.registry := by
        rw [name]
        exact registers.registry
      exact good.published before ⟨g, built.good⟩ name built.building.active built.registration
        linked
  | ended _ unanswered ends =>
      exact { good with pending := fun _ underway => nomatch (id underway : none = some _) }
  | registered vfs makeDflt => exact good.linked makeDflt allowed.1 allowed.2
  | unregistered pointer => exact good.unlinked pointer
  | appeared i file => exact good.appeared allowed

theorem good_start : Worker.Good .start := by
  have nowhere {i : Nat} {pool : Pool} : Worker.start.pools[i]? ≠ some pool := fun there =>
    Option.some_ne_none pool there.symm
  constructor
  case pools => exact fun i pool there => absurd there nowhere
  case registered =>
    intro name i
    refine iff_of_false (fun there => ?_) fun ⟨pool, there, _⟩ => nowhere there
    have empty : AList.lookup name (∅ : AList fun _ : String => Nat) = none :=
      AList.lookup_empty name
    exact Option.some_ne_none i (there.symm.trans empty)
  case directories => exact fun i j pool other there => absurd there nowhere
  case owners => exact fun i j pool other vfs there => absurd there nowhere
  case allocated =>
    intro vfs
    refine iff_of_false List.not_mem_nil ?_
    rintro (member | ⟨i, pool, there, -⟩)
    · exact List.not_mem_nil member
    · exact nowhere there
  case living => exact fun i pool vfs there => absurd there nowhere
  case once => exact List.nodup_nil
  case listed => exact fun entry member => absurd member List.not_mem_nil
  case pending => exact fun pending underway => absurd underway.symm (Option.some_ne_none pending)

inductive WorkerRun (allowed : Worker → Occasion → Prop) (worker : Worker) :
    List (Occasion × WorkerOutcome) → Worker → Prop
  | refl : WorkerRun allowed worker [] worker
  | snoc {log : List (Occasion × WorkerOutcome)} {middle last : Worker} {occasion : Occasion}
      {outcome : WorkerOutcome} : WorkerRun allowed worker log middle → allowed middle occasion →
      middle.run occasion = (outcome, last) → (∀ why, outcome ≠ .halt why) →
      WorkerRun allowed worker (log ++ [(occasion, outcome)]) last

theorem WorkerRun.good {allowed : Worker → Occasion → Prop}
    {log : List (Occasion × WorkerOutcome)} (runs : WorkerRun allowed worker log worker')
    (good : worker.Good) (fair : ∀ worker occasion, allowed worker occasion →
      occasion.Allowed worker) : worker'.Good := by
  induction runs with
  | refl => exact good
  | snoc before here run returns ih => exact (ih.turned run returns).good ih (fair _ _ here)

/-! ## One pool among the others -/

/-- The pool itself is left alone, but its registration may be looked at or made the default,
and files may appear in its directory. -/
structure Pool.Rests (pool pool' : Pool) : Prop where
  files : pool'.system.files = pool.system.files
  operations : pool'.system.operations = pool.system.operations
  still : pool.system.world.Still pool'.system.world
  state : pool'.system.world.state = pool.system.world.state
  registration : pool'.system.world.registration = pool.system.world.registration
  name : pool'.system.world.name = pool.system.world.name
  slots : ∀ slot content, pool.system.world.directory.lookup slot = some content →
    pool'.system.world.directory.lookup slot = some content

theorem Pool.Rests.refl (pool : Pool) : pool.Rests pool :=
  ⟨rfl, rfl, .refl _, rfl, rfl, rfl, fun _ _ found => found⟩

theorem createEntry_rests (file : String) (pool : Pool) : pool.Rests
    { pool with system := { pool.system with world := createEntry file pool.system.world } } := by
  unfold createEntry
  by_cases present : file ∈ pool.system.world.directory
  · rw [if_pos present]
    exact .refl pool
  · rw [if_neg present]
    refine ⟨rfl, rfl, ⟨rfl, rfl, rfl, rfl⟩, rfl, rfl, rfl, fun slot content found => ?_⟩
    refine (AList.lookup_insert_ne ?_).trans found
    rintro rfl
    exact present (AList.lookup_isSome.mp (by rw [found]; rfl))

structure Pool.Goes (worker : Worker) (env : Env) (request : Request) (i : Nat)
    (pool pool' : Pool) : Prop where
  directory : pool'.directory = pool.directory
  callbackType : pool'.callbackType = pool.callbackType
  how : (∃ event, request = .pool i event ∧
    pool.system.Step ⟨⟨env, worker.registry⟩, event⟩ pool'.system) ∨ pool.Rests pool'

theorem Pool.Goes.refl (worker : Worker) (env : Env) (request : Request) (i : Nat) (pool : Pool) :
    Pool.Goes worker env request i pool pool := ⟨rfl, rfl, .inr (.refl pool)⟩

theorem Worker.record_pools (system : System) :
    (worker.record i pool system).pools = worker.pools.set i { pool with system } := by
  unfold Worker.record
  split <;> rfl

theorem Worker.record_registry (system : System) :
    (worker.record i pool system).registry = system.world.registry := by
  unfold Worker.record
  split <;> rfl

theorem Pool.Goes.set {env : Env} {request : Request} {pools : List Pool} {changed : Pool}
    (set : pools = worker.pools.set j changed) (here : worker.pools[j]? = some other)
    (goes : Pool.Goes worker env request j other changed) (there : worker.pools[i]? = some pool) :
    ∃ pool', pools[i]? = some pool' ∧ Pool.Goes worker env request i pool pool' := by
  subst set
  by_cases same : i = j
  · subst same
    obtain rfl := Option.some.inj (here.symm.trans there)
    exact ⟨changed, (pools_set here).mpr (.inl ⟨rfl, rfl⟩), goes⟩
  · exact ⟨pool, (pools_set here).mpr (.inr ⟨same, there⟩), .refl worker env request i pool⟩

/-- A request is an event of one pool at most, and leaves the others alone. -/
theorem Worker.Turn.goes {env : Env} {request : Request} {outcome : WorkerOutcome}
    (turn : Worker.Turn worker env request outcome worker')
    (there : worker.pools[i]? = some pool) : ∃ pool', worker'.pools[i]? = some pool' ∧
      Pool.Goes worker env request i pool pool' := by
  have stays : ∃ pool', worker.pools[i]? = some pool' ∧
      Pool.Goes worker env request i pool pool' := ⟨pool, there, .refl worker env request i pool⟩
  cases turn with
  | idle unanswered => exact stays
  | called j event result other system here ran returns =>
      exact Pool.Goes.set (Worker.record_pools system) here
        ⟨rfl, rfl, .inl ⟨event, rfl, result, ran, returns⟩⟩ there
  | kept request error j other w here consulted =>
      obtain ⟨⟨env', rfl⟩, -⟩ := consulted
      refine Pool.Goes.set (Worker.record_pools _) here ⟨rfl, rfl, .inr ?_⟩ there
      exact ⟨rfl, rfl, ⟨rfl, rfl, rfl, rfl⟩, rfl, rfl, rfl, fun _ _ found => found⟩
  | reused request directory j other w normalized named here same result =>
      obtain ⟨-, -, vfs, env', -, -, -, rfl⟩ := result
      refine Pool.Goes.set (Worker.record_pools _) here ⟨rfl, rfl, .inr ?_⟩ there
      exact ⟨rfl, rfl, ⟨rfl, rfl, rfl, rfl⟩, rfl, rfl, rfl, fun _ _ found => found⟩
  | begun request directory normalized readable alone unnamed vacant => exact stays
  | polled pending installing w here run same => exact stays
  | published pending w here run registers =>
      exact ⟨pool, pools_snoc.mpr (.inl there), .refl worker env _ i pool⟩
  | ended _ unanswered ends => exact stays
  | registered vfs makeDflt => exact stays
  | unregistered pointer => exact stays
  | appeared j file =>
      unfold Worker.appear
      rcases here : worker.pools[j]? with _ | other
      · exact stays
      · exact Pool.Goes.set rfl here ⟨rfl, rfl, .inr (createEntry_rests file other)⟩ there

end Sahpool

end SqliteVfs
