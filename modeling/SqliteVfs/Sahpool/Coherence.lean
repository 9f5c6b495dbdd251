import SqliteVfs.Sahpool.Recovery
import SqliteVfs.Sahpool.TransferIsolation

/-!
# The map and the headers

As long as a pool does not need recovery, its map, its free slots and the headers in the
directory say the same.  So a pause and a resumption restore the map, except for files that
are marked to be deleted; and they bring back slot files that the pool had let go of.
-/

set_option autoImplicit false

namespace SqliteVfs

namespace Sahpool

variable {mode : Mode} {s s' : System} {w w' : World} {g g' : Ledger} {file name : String}
  {content : SlotFile} {data : List UInt8}

/-! ## Healthy pools -/

structure Stores (content : SlotFile) (name : String) (flags : UInt32) : Prop where
  storable : StorableName name
  kinds : OneKind flags
  marked : Temporary flags → DeleteOnClose flags
  header : content.contents.take headerCorpusSize = headerOf name flags
  fits : Fits content.contents

theorem Named.stores {temporary durable : Bool}
    (named : Named mode name temporary durable data content) (classified : mode ≠ .lax) :
    ∃ flags, Stores content name flags ∧ (temporary = true ↔ DeleteOnClose flags) := by
  obtain ⟨header, stored, taken, -⟩ := named.header
  have corpus : headerCorpusSize = headerMaxFilenameSize + 4 := rfl
  have four : (header.drop headerMaxFilenameSize).length = 4 := by
    rw [List.length_drop, stored.length_eq]
    omega
  obtain ⟨flags, rfl⟩ : ∃ flags, header = headerOf name flags := by
    refine ⟨flagsOf (header.drop headerMaxFilenameSize), ?_⟩
    rw [headerOf, ← stored.field, flagsBytes_flagsOf four, List.take_append_drop]
  have parsed := stored.parsed classified
  rw [parseHeader_of_flags stored.storable] at parsed
  have kinds : OneKind flags := by
    by_contra kinds
    rw [if_pos kinds] at parsed
    cases parsed
  rw [if_neg (not_not.mpr kinds)] at parsed
  refine ⟨flags, ⟨stored.storable, kinds, fun kind => ?_, taken, named.sees.contents.1⟩, ?_⟩
  · by_contra kept
    rw [if_neg kept, if_pos kind] at parsed
    cases parsed
  · by_cases marked : DeleteOnClose flags
    · rw [if_pos marked] at parsed
      refine iff_of_true ?_ marked
      by_contra kept
      rw [if_neg kept] at parsed
      cases parsed
    · rw [if_neg marked] at parsed
      refine iff_of_false (fun temporary => ?_) marked
      rw [if_pos temporary] at parsed
      split at parsed <;> cases parsed

theorem Stores.stored_eq {flags : UInt32} (stores : Stores content name flags) :
    stored content.contents = .ok (if DeleteOnClose flags then none else some name) := by
  rw [stores.fits.stored_eq, stores.header, parseHeader_of_flags stores.storable,
    if_neg (not_not.mpr stores.kinds)]
  by_cases marked : DeleteOnClose flags
  · rw [if_pos marked, if_pos marked]
  · rw [if_neg marked, if_neg marked, if_neg (mt stores.marked marked)]

/-- The slot of a name in a healthy pool. -/
theorem Rep.stores_of_mapped (rep : Rep mode w g) (classified : mode ≠ .lax)
    (loaded : g.loaded = true)
    (healthy : w.needsRecovery = false) (mapped : w.mapFilenameToFile.lookup name = some file) :
    ∃ content flags, w.directory.lookup file = some content ∧ Stores content name flags := by
  obtain ⟨content, found, holds⟩ := rep.content_of_mapped mapped
  rcases entry : g.entry name with _ | ⟨temporary, durable, data⟩ | data
  · rw [entry] at holds
    exact holds.elim
  · rw [entry] at holds
    obtain ⟨flags, stores, -⟩ := Named.stores holds classified
    exact ⟨content, flags, found, stores⟩
  · exact absurd entry (rep.healthy loaded healthy name data)

theorem Rep.quarantined_of_healthy (rep : Rep mode w g) (healthy : w.needsRecovery = false) :
    w.quarantinedFiles = [] := by
  refine List.eq_nil_iff_forall_not_mem.mpr fun file member => ?_
  exact Bool.false_ne_true (healthy.symm.trans (rep.quarantined file member).1)

/-! ## Reloading a healthy pool -/

theorem Sees.of_contents {Q : List UInt8 → Prop} (holds : Q content.contents) :
    Sees .quiet Q content := by
  rintro image ⟨-, strict | rfl⟩
  · cases strict
  · exact holds

theorem Named.healthier {temporary durable : Bool}
    (named : Named mode name temporary durable data content) (classified : mode ≠ .lax) :
    Named .quiet name temporary durable data content where
  header := by
    obtain ⟨header, stored, taken, lasting⟩ := named.header
    exact ⟨header, ⟨stored.storable, stored.length_eq, stored.field,
      fun _ => stored.parsed classified⟩, taken, fun durable => (lasting durable).quieter⟩
  sees := by
    obtain ⟨flags, stores, -⟩ := named.stores classified
    refine Sees.of_contents ⟨stores.fits, ?_⟩
    have read := stores.stored_eq
    by_cases marked : DeleteOnClose flags
    · rw [if_pos marked] at read
      exact .inl read
    · rw [if_neg marked] at read
      exact .inr (.inl ⟨name, rfl, read⟩)
  data_eq := named.data_eq

/-- The slots of a healthy pool are as they would be if no call had failed. -/
theorem Rep.healthy_disk (rep : Rep mode w g) (classified : mode ≠ .lax) (loaded : g.loaded = true)
    (healthy : w.needsRecovery = false) : Disk .quiet w.directory g := by
  have disk := rep.disk (rep.known loaded)
  have nothing := rep.quarantined_of_healthy healthy
  refine ⟨fun file content found => ?_, disk.inside, disk.injective, disk.kept⟩
  have represents := disk.slot file content found
  rcases owned : g.owner file with _ | name
  · refine represents_blank owned (Sees.of_contents (.inl ?_))
    exact rep.readable loaded file content found owned (by rw [nothing]; exact List.not_mem_nil)
  · refine represents_owned owned ?_
    have holds := represents.holds owned
    rcases entry : g.entry name with _ | ⟨temporary, durable, data⟩ | data
    · rw [entry] at holds
      exact holds.elim
    · rw [entry] at holds
      exact Named.healthier holds classified
    · exact absurd entry (rep.healthy loaded healthy name data)

theorem Rep.healthier (rep : Rep mode w g) (classified : mode ≠ .lax) (loaded : g.loaded = true)
    (healthy : w.needsRecovery = false) (idle : g.staging = none) {around : Surroundings}
    (calm : around.Allowed .quiet) : Rep .quiet (w.facing around) g :=
  { rep with
    allowed := calm
    disk := fun _ => rep.healthy_disk classified loaded healthy
    staged := fun _ _ staging => nomatch idle.symm.trans staging }

/-- The map after a reload, and all else that it brings back. -/
structure System.Restored (s s' : System) : Prop where
  active : s'.world.state = .active
  healthy : s'.world.needsRecovery = false
  held : ∀ file, file ∈ s'.world.held ↔ file ∈ s.world.directory
  again : ∀ file ∈ s.world.held, file ∈ s'.world.held
  names : ∀ name file, s'.world.mapFilenameToFile.lookup name = some file ↔
    s.world.mapFilenameToFile.lookup name = some file ∧ ∃ content flags,
      s.world.directory.lookup file = some content ∧ Stores content name flags ∧
      ¬ DeleteOnClose flags
  contents : ∀ name file, s'.world.mapFilenameToFile.lookup name = some file →
    s'.world.directory.lookup file = s.world.directory.lookup file

theorem Good.restored (good : Good mode s g) (classified : mode ≠ .lax) (settled : s.Settled)
    (healthy : s.world.needsRecovery = false) (reloaded : s.Reloaded s') : s.Restored s' := by
  have loaded := good.active_loaded settled.active
  have nothing := good.rep.quarantined_of_healthy healthy
  refine ⟨reloaded.active, reloaded.healthy, reloaded.held,
    fun file member => (reloaded.held file).mpr (good.rep.mem_directory member),
    fun name file => ?_, reloaded.contents⟩
  rw [reloaded.read name file]
  constructor
  · intro read
    obtain ⟨content, found, named⟩ := Option.map_eq_some_iff.mp read
    have owned : g.owner file = some name := by
      have represents := (good.rep.disk (good.rep.known loaded)).slot file content found
      rcases owner : g.owner file with _ | other
      · exact nomatch (Sees.contents (represents.blank owner)).owner_eq named
      · have names := (represents.holds owner).unclear.sees.contents.2
        exact names.owner_eq named
    have mapped : s.world.mapFilenameToFile.lookup name = some file := by
      refine (good.rep.owned loaded file name owned).resolve_right fun member => ?_
      rw [nothing] at member
      exact absurd member List.not_mem_nil
    obtain ⟨content', flags, found', stores⟩ :=
      good.rep.stores_of_mapped classified loaded healthy mapped
    obtain rfl : content = content' := Option.some.inj (found.symm.trans found')
    refine ⟨mapped, content, flags, found, stores, fun marked => ?_⟩
    have dropped := stores.stored_eq
    rw [if_pos marked] at dropped
    exact nomatch dropped.symm.trans named
  · rintro ⟨-, content, flags, found, stores, kept⟩
    rw [decoded_of_found found, stores.stored_eq, if_neg kept]

/-! ## Coherence -/

structure System.Coherent (s : System) : Prop where
  mapped : s.world.state = .active → s.world.needsRecovery = false →
    ∀ name file, s.world.mapFilenameToFile.lookup name = some file →
      ∃ content flags, s.world.directory.lookup file = some content ∧ Stores content name flags
  available : s.world.state = .active → s.world.needsRecovery = false → s.operations = [] →
    ∀ file ∈ s.world.availableFiles, ∃ content, s.world.directory.lookup file = some content ∧
      content.contents.take headerCorpusSize = emptyHeader ∧ content.contents.length = sectorSize
  settled : s.world.needsRecovery = false → s.world.quarantinedFiles = []
  suspect : s.world.quarantinedFiles ≠ [] → s.world.needsRecovery = true
  refused : s.world.needsRecovery = true → ∀ moment, moment.event.Checks →
    ∃ error, s.run moment = (.err error, (s.facing moment.around).silenced)
  reloads : s.Settled → s.world.needsRecovery = false → ∀ pausing resuming arounds,
    pausing.Calm s → resuming.Calm s → (∀ around ∈ arounds, around.Calm s) →
    2 * s.world.directory.keys.length + 1 < arounds.length →
    ∃ s', s.Reloads pausing resuming arounds s' ∧ s.Restored s'

theorem Good.healthier (good : Good mode s g) (classified : mode ≠ .lax) (settled : s.Settled)
    (healthy : s.world.needsRecovery = false) : Good .quiet s.silenced g := by
  have duties := good.duties
  rw [settled.alone] at duties
  have rep : Rep .quiet (s.world.facing ⟨Env.silent, s.world.registry⟩) g :=
    good.rep.healthier classified (good.active_loaded settled.active) healthy
      (good.rep.idle duties) nofun
  exact {
    good with
    rep := rep
    duties := by
      change Duties .quiet s.silenced.world g s.operations
      rw [settled.alone]
      exact duties }

/-- A healthy pool that is settled can be reloaded, and its map is restored. -/
theorem Good.restores (good : Good mode s g) (classified : mode ≠ .lax) (settled : s.Settled)
    (healthy : s.world.needsRecovery = false) {pausing resuming : Surroundings}
    {arounds : List Surroundings} (calm : pausing.Calm s) (calm' : resuming.Calm s)
    (each : ∀ around ∈ arounds, around.Calm s)
    (enough : 2 * s.world.directory.keys.length + 1 < arounds.length) :
    ∃ s', s.Reloads pausing resuming arounds s' ∧ s.Restored s' := by
  have quiet := good.healthier classified settled healthy
  obtain ⟨s', reloads, reloaded⟩ := quiet.reloads quiet_not_torn
    ⟨settled.active, settled.closed, settled.alone⟩ { calm with } { calm' with }
    (fun around member => { each around member with }) enough
  have here : s.Reloaded s' := { reloaded with }
  exact ⟨s', reloads, good.restored classified settled healthy here⟩

theorem pools_are_coherent (reachable : Reachable .loose s) : s.Coherent := by
  obtain ⟨g, good⟩ := reachable.good
  have classified : Mode.loose ≠ .lax := by simp
  refine ⟨fun active healthy name file mapped => ?_, fun active healthy alone file member => ?_,
    good.rep.quarantined_of_healthy, fun some => ?_, fun suspect moment checks => ?_,
    fun settled healthy pausing resuming arounds calm calm' each enough => ?_⟩
  · exact good.rep.stores_of_mapped classified (good.active_loaded active) healthy mapped
  · have free := good.duties
    rw [alone] at free
    obtain ⟨-, content, found, fresh | ⟨data, staging⟩⟩ := good.rep.available file member
    · obtain ⟨contents, rfl, length, header⟩ := fresh
      refine ⟨_, found, ?_⟩
      rw [SlotFile.contents, Journal.contents_settled]
      exact ⟨header, length⟩
    · cases (good.rep.idle free).symm.trans staging
  · by_contra healthy
    exact some (good.rep.quarantined_of_healthy (Bool.eq_false_iff.mpr healthy))
  · have unready (ready : (s.facing moment.around).world.Ready) : False :=
      Bool.false_ne_true (ready.healthy.symm.trans suspect)
    obtain ⟨error, run⟩ := checks.refused unready
    refine ⟨error, ?_⟩
    unfold System.run
    exact congrArg (fun ran => (ran.1, ran.2.silenced)) run
  · exact good.restores classified settled healthy calm calm' each enough

/-! ### Reloads that do not restore the pool as it was -/

theorem untroubled_calm (s : System) : untroubled.Calm s where
  replies := nofun
  grants := List.not_mem_nil
  codes _ := List.not_mem_nil
  unrivalled _ taken := nomatch taken

set_option maxRecDepth 20000 in
theorem removal_fails : ∃ s s', Reachable .loose s ∧ s.Settled ∧ s.world.needsRecovery = false ∧
    s.Reloads untroubled untroubled (List.replicate 4 untroubled) s' ∧
    s.world.held.length = 0 ∧ s'.world.held.length = 1 := by
  refine ⟨_, _, onePool_reaches ?_ (.trans (.single ⟨.ok .pending, rfl, nofun⟩)
    (.single ⟨.err _, rfl, nofun⟩) : Runs System.Step ⟨onePool, [], []⟩
      [⟨untroubled, .reduceCapacity 1⟩, ⟨refusing, .poll 0⟩] _), ⟨rfl, rfl, rfl⟩, rfl,
    ⟨_, _, rfl, rfl, rfl⟩, rfl, rfl⟩
  intro moment member
  rcases List.mem_pair.mp member with rfl | rfl
  · exact untroubled_allowed nofun
  · exact Moment.allowed_of refusing (refusing_allowed nofun) nofun

set_option maxRecDepth 20000 in
/-- A file that outlives the handle that was to delete it. -/
theorem flagged_file_left : ∃ s s', Reachable .loose s ∧ s.Settled ∧ s.world.needsRecovery = false ∧
    s.Reloads untroubled untroubled (List.replicate 4 untroubled) s' ∧
    s.world.getFilenames = ["a.db"] ∧ s'.world.getFilenames = [] := by
  have opened : Runs System.Step ⟨onePool, [], []⟩
      [⟨untroubled, .openFile ⟨some "a.db", ⟨0x10E⟩⟩⟩,
        ⟨untroubled, .openFile ⟨some "a.db", ⟨0x102⟩⟩⟩] _ :=
    .trans (.single ⟨.ok (.opened .readWrite), rfl, nofun⟩)
      (.single ⟨.ok (.opened .readWrite), rfl, nofun⟩)
  have refused : Runs System.Step ⟨onePool, [], []⟩ (_ ++ [⟨untroubled, .closeFile 1⟩]) _ :=
    opened.snoc ⟨.err _, rfl, nofun⟩
  have closed : Runs System.Step ⟨onePool, [], []⟩ (_ ++ [⟨untroubled, .closeFile 0⟩]) _ :=
    refused.snoc ⟨.ok .done, rfl, nofun⟩
  refine ⟨_, _, onePool_reaches ?_ closed, ⟨rfl, rfl, rfl⟩, rfl, ⟨_, _, rfl, rfl, rfl⟩, rfl, rfl⟩
  intro moment member
  simp only [List.cons_append, List.nil_append, List.mem_cons, List.not_mem_nil, or_false] at member
  rcases member with rfl | rfl | rfl | rfl
  · exact opening_allowed ⟨by decide, by decide⟩
  · exact opening_allowed ⟨by decide, by decide⟩
  · exact untroubled_allowed nofun
  · exact untroubled_allowed nofun

/-- A reload need not bring back just the slots that were held, nor just the map. -/
theorem reloads_are_not_exact :
    (¬ ∀ s s' pausing resuming arounds, Reachable .loose s → s.Settled →
      s.world.needsRecovery = false → pausing.Calm s → resuming.Calm s →
      (∀ around ∈ arounds, around.Calm s) → s.Reloads pausing resuming arounds s' →
      ∀ file, file ∈ s'.world.held ↔ file ∈ s.world.held) ∧
    ¬ ∀ s s' pausing resuming arounds, Reachable .loose s → s.Settled →
      s.world.needsRecovery = false → pausing.Calm s → resuming.Calm s →
      (∀ around ∈ arounds, around.Calm s) → s.Reloads pausing resuming arounds s' →
      ∀ name file, s'.world.mapFilenameToFile.lookup name = some file ↔
        s.world.mapFilenameToFile.lookup name = some file := by
  have calm (s : System) : ∀ around ∈ List.replicate 4 untroubled, around.Calm s := by
    intro around member
    obtain rfl := List.eq_of_mem_replicate member
    exact untroubled_calm s
  constructor
  · intro claimed
    obtain ⟨s, s', reachable, settled, healthy, reloads, before, after⟩ := removal_fails
    have same := claimed s s' _ _ _ reachable settled healthy (untroubled_calm s)
      (untroubled_calm s) (calm s) reloads
    obtain ⟨file, there⟩ := List.length_eq_one_iff.mp after
    have member : file ∈ s.world.held :=
      (same file).mp (by rw [there]; exact List.mem_singleton_self _)
    rw [List.length_eq_zero_iff.mp before] at member
    exact absurd member List.not_mem_nil
  · intro claimed
    obtain ⟨s, s', reachable, settled, healthy, reloads, before, after⟩ := flagged_file_left
    have same := claimed s s' _ _ _ reachable settled healthy (untroubled_calm s)
      (untroubled_calm s) (calm s) reloads
    have present : "a.db" ∈ s.world.mapFilenameToFile := by
      refine AList.mem_keys.mpr ?_
      change "a.db" ∈ s.world.getFilenames
      rw [before]
      exact List.mem_singleton_self _
    obtain ⟨file, mapped⟩ := Option.isSome_iff_exists.mp (AList.lookup_isSome.mpr present)
    have still : "a.db" ∈ s'.world.mapFilenameToFile := by
      rw [← AList.lookup_isSome, (same "a.db" file).mpr mapped]
      rfl
    have listed : "a.db" ∈ s'.world.getFilenames := AList.mem_keys.mp still
    rw [after] at listed
    exact absurd listed List.not_mem_nil

/-- A database is made, written and closed, and one flush of it is refused. -/
def refusedFlush : List Moment :=
  [⟨untroubled, .openFile ⟨some "a.db", ⟨0x106⟩⟩⟩, ⟨untroubled, .call 0 (.write [7, 8, 9] 0)⟩,
    ⟨refusing, .call 0 .sync⟩, ⟨untroubled, .closeFile 0⟩]

theorem refusedFlush_allowed : ∀ moment ∈ refusedFlush, moment.Allowed .loose := by
  intro moment member
  simp only [refusedFlush, List.mem_cons, List.not_mem_nil, or_false] at member
  rcases member with rfl | rfl | rfl | rfl
  · exact opening_allowed ⟨by decide, by decide⟩
  · apply untroubled_allowed
    simp
  · exact Moment.allowed_of refusing (refusing_allowed (by decide)) (by simp)
  · apply untroubled_allowed
    simp

set_option maxRecDepth 20000 in
theorem refusedFlush_run : ∃ s, Runs System.Step ⟨onePool, [], []⟩ refusedFlush s ∧
    s.Settled ∧ s.world.needsRecovery = false ∧ s.world.getFilenames = ["a.db"] := by
  have opened : Runs System.Step ⟨onePool, [], []⟩ (refusedFlush.take 1) _ :=
    .single ⟨.ok (.opened .readWrite), rfl, by simp⟩
  have written : Runs System.Step ⟨onePool, [], []⟩ (refusedFlush.take 2) _ :=
    opened.snoc ⟨.ok _, by with_unfolding_all rfl, by simp⟩
  have refused : Runs System.Step ⟨onePool, [], []⟩ (refusedFlush.take 3) _ :=
    written.snoc ⟨.err _, by with_unfolding_all rfl, by simp⟩
  have closed : Runs System.Step ⟨onePool, [], []⟩ refusedFlush _ :=
    refused.snoc ⟨.ok .done, by with_unfolding_all rfl, by simp⟩
  refine ⟨_, closed, ⟨?_, ?_, ?_⟩, ?_, ?_⟩
  all_goals with_unfolding_all rfl

theorem pools_are_coherent_refused : ∃ s s' : System,
    (s.Settled ∧ s.world.needsRecovery = false ∧ s.world.getFilenames = ["a.db"] ∧ s.Coherent) ∧
      s'.world.needsRecovery = true ∧ s'.Coherent := by
  obtain ⟨s, run, settled, healthy, names⟩ := refusedFlush_run
  obtain ⟨s', run', -, suspect⟩ := refusedRemoval_run
  have reached : Reachable .loose s := onePool_reaches refusedFlush_allowed run
  have reached' : Reachable .loose s' :=
    onePool_reaches (refusedRemoval_allowed (by decide)) run'
  exact ⟨s, s', ⟨settled, healthy, names, pools_are_coherent reached⟩, suspect,
    pools_are_coherent reached'⟩

end Sahpool

end SqliteVfs
