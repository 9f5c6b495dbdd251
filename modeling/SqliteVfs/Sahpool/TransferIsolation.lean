import SqliteVfs.Sahpool.AsyncSafety

/-!
# Transfers in isolation

An export or an import has the guard of the pool from the call that begins it until it is
consumed or dropped.  Nothing that other calls do in between reaches the exported file, the
reserved slot or the names that the import keeps vacant.
-/

set_option autoImplicit false

namespace SqliteVfs

namespace Sahpool

variable {mode : Mode} {s₀ s s' : System} {w w' : World} {g g' : Ledger} {file name : String}
  {event : Event} {outcome : Outcome Failure Answer} {operation : Operation} {content : SlotFile}
  {ε α β : Type}

/-! ## Refusals -/

theorem beginOperation_busy (busy : w.busy = true) :
    ∃ error, beginOperation.run w = (.err error, w) :=
  beginOperation_refused fun possible => Bool.false_ne_true (possible.2.symm.trans busy)

theorem onWorld_fails {x : Prog World ε α} (fail : ε → Failure)
    (refused : ∃ error, x.run s.world = (.err error, s.world)) (f : α → SystemM β) :
    ∃ error, (onWorld fail x >>= f).run s = (.err error, s) := by
  obtain ⟨error, run⟩ := refused
  exact ⟨_, onWorld_err fail run f⟩

theorem beginOperation_fails (busy : w.busy = true) (f : Unit → PoolM α) :
    ∃ error, (beginOperation >>= f).run w = (.err error, w) := by
  obtain ⟨error, run⟩ := beginOperation_busy busy
  exact ⟨error, Prog.bind_err run f⟩

/-- The calls that begin by checking that the pool is ready. -/
def Event.Checks : Event → Prop
  | .openFile _ | .deleteFile _ | .access _ | .remove _ | .contains _ | .names | .len
  | .createImport _ _ | .openExport _ | .addCapacity _ | .ensureCapacity _ | .reduceCapacity _ =>
    True
  | _ => False

theorem Event.Checks.refused (checks : event.Checks) (unready : ¬ s.world.Ready) :
    ∃ error, event.program.run s = (.err error, s) := by
  have checked {α : Type} (f : Unit → PoolM α) := checkActive_refuses unready f
  cases event with
  | openFile request => exact onWorld_fails .vfs (openFile_refuses unready request) _
  | deleteFile name =>
      obtain ⟨error, run⟩ := deleteFile_refuses unready name
      exact onWorld_fails .vfs ⟨_, Prog.bind_err (Prog.mapErr_err run _) _⟩ _
  | access name =>
      refine onWorld_fails .vfs ?_ _
      rcases checkActive_run (w := s.world) with ⟨-, ready⟩ | ⟨error, run, -⟩
      · exact absurd ready unready
      · exact ⟨_, Prog.bind_err (Prog.mapErr_err run _) _⟩
  | remove name => exact onWorld_fails .pool (deleteFile_refuses unready name) _
  | contains name => exact onWorld_fails .pool (checked _) _
  | names => exact onWorld_fails .pool (checked _) _
  | len => exact onWorld_fails .pool (checked _) _
  | createImport name size => exact onWorld_fails .pool (checked _) _
  | openExport name => exact onWorld_fails .pool (checked _) _
  | addCapacity n => exact onWorld_fails .pool (addCapacity_refuses unready n) _
  | ensureCapacity min =>
      obtain ⟨error, run⟩ := addCapacity_refuses unready (min - s.world.capacity)
      exact onWorld_fails .pool ⟨error, run⟩ _
  | reduceCapacity n => exact onWorld_fails .pool (reduceCapacity_refuses unready n) _
  | _ => exact checks.elim

/-- A guarded call of a busy pool is refused before it does anything. -/
theorem Event.Guarded.refused (guarded : event.Guarded) (active : s.world.state = .active)
    (busy : s.world.busy = true) : ∃ error, event.program.run s = (.err error, s) := by
  have unready (ready : s.world.Ready) : False := Bool.false_ne_true (ready.free.symm.trans busy)
  cases event with
  | resume => exact onWorld_fails .pool (beginOperation_fails busy _) _
  | pause => exact onWorld_fails .pool (beginOperation_fails busy _) _
  | clear =>
      refine onWorld_fails .pool ?_ _
      have checked : checkState.run s.world = (.ok (), s.world) := by
        unfold checkState
        rw [Prog.get_bind, active]
        rfl
      obtain ⟨error, run⟩ := beginOperation_busy busy
      exact ⟨error, (Prog.bind_ok checked _).trans (Prog.bind_err run _)⟩
  | uninstall =>
      refine onWorld_fails .pool ?_ _
      obtain ⟨error, run⟩ := beginOperation_busy busy
      refine ⟨error, ?_⟩
      unfold Sahpool.uninstall
      rw [Prog.get_bind, if_neg (by rw [active]; exact nofun)]
      exact Prog.bind_err run _
  | openFile request => exact Event.Checks.refused trivial unready
  | createImport name size => exact Event.Checks.refused trivial unready
  | openExport name => exact Event.Checks.refused trivial unready
  | addCapacity n => exact Event.Checks.refused trivial unready
  | ensureCapacity min => exact Event.Checks.refused trivial unready
  | reduceCapacity n => exact Event.Checks.refused trivial unready
  | _ => exact guarded.elim

/-! ## Turns beside a transfer -/

def Event.BeginsTransfer : Event → Prop
  | .createImport _ _ | .openExport _ => True
  | _ => False

def System.Transferring (s : System) : Prop :=
  ∃ operation ∈ s.operations, ¬ operation.IsFuture

def Event.Consumes (event : Event) (i : Nat) : Operation → Prop
  | .importing _ => event.EndsImport i
  | .exporting _ => event = .dropExport i
  | _ => False

inductive System.Attends (s : System) (operation : Operation) (event : Event) (s' : System) : Prop
  | beside (beside : s.Beside event s') : s.Attends operation event s'
  | filled (i offset bytes file filename) (event_eq : event = .importWrite i offset bytes)
      (operation_eq : operation = .importing (importTarget file filename))
      (still : s.world.Still s'.world) (same : s'.operations = s.operations) :
      s.Attends operation event s'
  | consumed (forgotten : s'.operations = [])
      (released : s'.world.busy = false) : s.Attends operation event s'

theorem Turn.importWrite_cases {i offset : Nat} {bytes : List UInt8}
    (turn : Turn mode s g (.importWrite i offset bytes) outcome s' g')
    (there : s.operations = [operation]) :
    s.Attends operation (.importWrite i offset bytes) s' := by
  cases turn with
  | idle _ nothing => exact .beside (.of_looked (.refl _))
  | looked _ _ w' query => exact query.elim
  | refused _ error w' guarded => exact guarded.elim
  | deleted _ name answer w' _ deletes => simp [Event.Deletes] at deletes
  | undeleted _ name error w' _ deletes => simp [Event.Deletes] at deletes
  | filled i offset bytes file filename data content content' data' _ w' alone importing
      found filled whole altered =>
      exact .filled i offset bytes file filename rfl
        (List.singleton_injective (there.symm.trans alone)) altered.still rfl
  | unimported _ i _ file filename data w' _ ends => simp [Event.EndsImport] at ends
  | growing _ w growth w' adding => cases adding
  | grown _ w count w' adding => cases adding
  | shrinking _ w count left shrink w' reducing => cases reducing
  | shrunk _ w count left removed w' reducing => cases reducing
  | givenUp _ w _ w' stopping =>
      cases stopping with
      | adding event w adding => cases adding
  | unresumed _ i _ resuming w' _ stops => simp at stops

theorem Turn.dropExport_cases {i : Nat} (turn : Turn mode s g (.dropExport i) outcome s' g') :
    (s.Idle (.dropExport i) ∧ s' = s) ∨ (s'.operations = [] ∧ s'.world.busy = false) := by
  cases turn with
  | idle _ nothing => exact .inl ⟨nothing, rfl⟩
  | looked _ _ w' query => exact query.elim
  | refused _ error w' guarded => exact guarded.elim
  | deleted _ name answer w' _ deletes => simp [Event.Deletes] at deletes
  | undeleted _ name error w' _ deletes => simp [Event.Deletes] at deletes
  | unimported _ i _ file filename data w' _ ends => simp [Event.EndsImport] at ends
  | exported i file name size alone exporting => exact .inr ⟨rfl, rfl⟩
  | growing _ w growth w' adding => cases adding
  | grown _ w count w' adding => cases adding
  | shrinking _ w count left shrink w' reducing => cases reducing
  | shrunk _ w count left removed w' reducing => cases reducing
  | givenUp _ w _ w' stopping =>
      cases stopping with
      | adding event w adding => cases adding
  | unresumed _ i _ resuming w' _ stops => simp at stops

/-- Everything that can happen while a transfer has the guard. -/
theorem Turn.attends (turn : Turn mode s g event outcome s' g') (busy : s.world.busy = true)
    (there : s.operations = [operation]) (transfer : ¬ operation.IsFuture) :
    s.Attends operation event s' := by
  have consumed {i : Nat} {target : SqliteVfs.ImportTarget World OpfsSAHError}
      (ends : event.EndsImport i) : s.Attends (.importing target) event s' := by
    rcases turn.import_cases ends with ⟨-, rfl⟩ | ⟨file, filename, data, w', -, -, rfl, -⟩
    · exact .beside (.of_looked (.refl _))
    · exact .consumed rfl rfl
  by_cases works : event.WorksOn operation
  swap
  · exact .beside (turn.beside busy there works)
  cases operation with
  | importing target =>
      cases event with
      | importWrite i offset bytes => exact turn.importWrite_cases there
      | commit i => exact consumed (.inl rfl)
      | abort i => exact consumed (.inr (.inl rfl))
      | abortWithError i error => exact consumed (.inr (.inr (.inl ⟨error, rfl⟩)))
      | dropImport i => exact consumed (.inr (.inr (.inr rfl)))
      | _ => exact works.elim
  | exporting source =>
      cases event with
      | dropExport i =>
          rcases turn.dropExport_cases with ⟨-, rfl⟩ | ⟨forgotten, released⟩
          · exact .beside (.of_looked (.refl _))
          · exact .consumed forgotten released
      | _ => exact works.elim
  | _ => exact absurd trivial transfer

theorem Good.attends (good : Good mode s g) {moment : Moment} (allowed : moment.Allowed mode)
    (there : s.operations = [operation]) (transfer : ¬ operation.IsFuture)
    (step : s.Step moment s') : s.Attends operation moment.event s' := by
  have first : s.operations[0]? = some operation := by
    rw [there]
    rfl
  obtain ⟨outcome, run, returns⟩ := step
  obtain ⟨around, s₂, g', answers, turn, rfl⟩ := good.took allowed run returns
  cases turn.attends (s := s.facing around) (good.operation first).2.1 there transfer with
  | beside beside => exact .beside beside.facing
  | filled i offset bytes file filename event_eq operation_eq still same =>
      exact .filled i offset bytes file filename event_eq operation_eq
        ⟨still.available, still.names, still.quarantined, still.suspect⟩ same
  | consumed forgotten released => exact .consumed forgotten released

/-- A transfer that is consumed is over. -/
theorem Good.consumes (good : Good mode s g) {moment : Moment} (allowed : moment.Allowed mode)
    {i : Nat} (there : s.operations[i]? = some operation)
    (consumes : moment.event.Consumes i operation) (step : s.Step moment s') :
    s'.operations = [] ∧ s'.world.busy = false := by
  obtain ⟨around, event⟩ := moment
  obtain ⟨outcome, run, returns⟩ := step
  obtain ⟨around', s₂, g', answers, turn, rfl⟩ := good.took allowed run returns
  cases operation with
  | importing target =>
      rcases turn.import_cases consumes with ⟨idle, -⟩ | ⟨file, filename, data, w', -, -, rfl, -⟩
      · have absent : ∀ target, s.operations[i]? ≠ some (.importing target) := by
          rcases consumes with rfl | rfl | ⟨error, rfl⟩ | rfl
          all_goals exact idle
        exact absurd there (absent target)
      · exact ⟨rfl, rfl⟩
  | exporting source =>
      obtain rfl : event = .dropExport i := consumes
      rcases turn.dropExport_cases with ⟨idle, -⟩ | ended
      · exact absurd there (idle source)
      · exact ended
  | _ => exact consumes.elim

/-! ## Transfers that go on -/

/-- The transfer that `event` began in `s₀` goes on; calls of any kind came in between. -/
inductive InFlight (s₀ : System) (event : Event) : System → Prop
  | begun (around s) (begins : event.BeginsTransfer)
      (run : s₀.run ⟨around, event⟩ = (.ok .pending, s)) : InFlight s₀ event s
  | step (s moment s') (before : InFlight s₀ event s) (step : s.Step moment s')
      (held : s'.Transferring) : InFlight s₀ event s'

/-- The file that was exported is as it was found, and nobody has it open. -/
structure System.Exports (s₀ : System) (name file : String) (content : SlotFile) (s : System) :
    Prop where
  found : s₀.world.mapFilenameToFile.lookup name = some file
  unopened : s₀.handles file = 0
  contents : s₀.world.directory.lookup file = some content
  sidecars : ∀ suffix ∈ sidecars, ∀ sidecar other,
    s₀.world.mapFilenameToFile.lookup (name ++ suffix) = some sidecar →
    s₀.world.directory.lookup sidecar = some other → dataOf other.contents = []
  source : s.operations = [.exporting (exportSource file (dataOf content.contents).length)]
  mapped : s.world.mapFilenameToFile.lookup name = some file
  shut : s.handles file = 0
  kept : s.world.directory.lookup file = some content

/-- The slot that an import has reserved is still the top one, and the names of the file and
its companions are still free. -/
structure System.Imports (s₀ : System) (name file : String) (s : System) : Prop where
  reserved : s₀.world.availableFiles.getLast? = some file
  target : s.operations = [.importing (importTarget file name)]
  top : s.world.availableFiles.getLast? = some file
  vacant : Vacant s.world name

theorem System.handles_eq_zero : s.handles file = 0 ↔ ∀ f ∈ s.files, f.handle.file ≠ file := by
  unfold System.handles
  rw [List.countP_eq_zero]
  exact forall₂_congr fun f _ => not_congr decide_eq_true_iff

theorem System.Beside.shut (beside : s.Beside event s') (shut : s.handles file = 0) :
    s'.handles file = 0 := by
  rw [System.handles_eq_zero] at shut ⊢
  exact fun f member => shut f (beside.handles f member)

theorem Vacant.still (vacant : Vacant w name) (still : w.Still w') : Vacant w' name := by
  unfold Vacant
  rw [still.names]
  exact vacant

theorem Sound.available_shut (sound : Sound mode s g) (member : file ∈ s.world.availableFiles) :
    s.handles file = 0 := by
  refine (sound.counts file).symm.trans (sound.unmapped_shut fun name mapped => ?_)
  exact nomatch ((sound.rep.available file member).1).symm.trans
    (sound.rep.mapped name file mapped).1

namespace System.Exports

variable (exports : s₀.Exports name file content s)

include exports

theorem step (good : Good .lax s g) {moment : Moment} (step : s.Step moment s')
    (held : s'.Transferring) : s₀.Exports name file content s' := by
  cases good.attends moment.allowed_lax exports.source id step with
  | beside beside =>
      exact { exports with
        source := beside.operations.trans exports.source
        mapped := by
          rw [beside.still.names]
          exact exports.mapped
        shut := beside.shut exports.shut
        kept := (beside.unopened file (System.handles_eq_zero.mp exports.shut)).trans exports.kept }
  | filled i offset bytes file filename event_eq operation_eq => cases operation_eq
  | consumed forgotten released =>
      obtain ⟨operation, member, -⟩ := held
      rw [forgotten] at member
      exact absurd member List.not_mem_nil

end System.Exports

namespace System.Imports

variable (imports : s₀.Imports name file s)

include imports

theorem shut (good : Good mode s g) : ∀ f ∈ s.files, f.handle.file ≠ file :=
  System.handles_eq_zero.mp (good.available_shut (List.mem_of_getLast? imports.top))

theorem step (good : Good .lax s g) {moment : Moment} (step : s.Step moment s')
    (held : s'.Transferring) : s₀.Imports name file s' := by
  cases good.attends moment.allowed_lax imports.target id step with
  | beside beside =>
      exact { imports with
        target := beside.operations.trans imports.target
        top := by
          rw [beside.still.available]
          exact imports.top
        vacant := imports.vacant.still beside.still }
  | filled i offset bytes file filename event_eq operation_eq still same =>
      exact { imports with
        target := same.trans imports.target
        top := by
          rw [still.available]
          exact imports.top
        vacant := imports.vacant.still still }
  | consumed forgotten released =>
      obtain ⟨operation, member, -⟩ := held
      rw [forgotten] at member
      exact absurd member List.not_mem_nil

end System.Imports

/-! ## Isolation -/

structure Isolated (s₀ : System) (event : Event) (s : System) : Prop where
  exported : ∀ name, event = .openExport name → ∃ file content, s₀.Exports name file content s
  imported : ∀ name size, event = .createImport name size → ∃ file, s₀.Imports name file s ∧
    ∀ moment s', s.Step moment s' → ¬ moment.event.WorksOn (.importing (importTarget file name)) →
      s'.world.directory.lookup file = s.world.directory.lookup file
  refused : ∀ moment, moment.event.Guarded →
    ∃ error, s.run moment = (.err error, (s.facing moment.around).silenced)
  held : ∀ moment s', s.Step moment s' →
    s'.Transferring ∨ (s'.operations = [] ∧ s'.world.busy = false)
  consumed : ∀ moment s' i operation, s.operations[i]? = some operation →
    moment.event.Consumes i operation → s.Step moment s' →
    s'.operations = [] ∧ s'.world.busy = false
  calm : ∀ moment, (s.run moment).1 ≠ .halt .panic

theorem Turn.export_opened (turn : Turn mode s g (.openExport name) (.ok .pending) s' g')
    (good : Good mode s g) : ∃ file content, s.Exports name file content s' := by
  cases turn with
  | looked _ _ w' query => exact query.elim
  | deleted _ name answer w' _ deletes => simp [Event.Deletes] at deletes
  | unimported _ i _ file filename data w' _ ends => simp [Event.EndsImport] at ends
  | exporting name file source w' opened =>
      obtain ⟨content, found, rfl⟩ := opened.source_eq
      obtain ⟨w₁, rep, looked, rfl⟩ := opened.reserved
      have unopened : s.handles file = 0 := (good.counts file).symm.trans opened.closed
      exact ⟨file, content, {
        found := opened.mapped
        unopened := unopened
        contents := found
        sidecars := opened.sidecars
        source := rfl
        mapped := by
          change w₁.mapFilenameToFile.lookup name = some file
          rw [looked.still.names]
          exact opened.mapped
        shut := unopened
        kept := (looked.contents file).trans found }⟩
  | growing _ w growth w' adding => cases adding
  | shrinking _ w count left shrink w' reducing => cases reducing
  | givenUp _ w _ w' stopping =>
      cases stopping with
      | adding event w adding => cases adding
  | unresumed _ i _ resuming w' _ stops => simp at stops

theorem Turn.import_opened {size : Nat}
    (turn : Turn mode s g (.createImport name size) (.ok .pending) s' g') :
    ∃ file, s.Imports name file s' := by
  cases turn with
  | looked _ _ w' query => exact query.elim
  | deleted _ name answer w' _ deletes => simp [Event.Deletes] at deletes
  | unimported _ i _ file filename data w' _ ends => simp [Event.EndsImport] at ends
  | importing filename size file target w' created =>
      obtain rfl := created.target_eq
      obtain ⟨w₁, ⟨⟨env, rfl⟩, -⟩, rfl⟩ := created.reserved
      exact ⟨file, created.top, rfl, created.top, created.vacant⟩
  | growing _ w growth w' adding => cases adding
  | shrinking _ w count left shrink w' reducing => cases reducing
  | givenUp _ w _ w' stopping =>
      cases stopping with
      | adding event w adding => cases adding
  | unresumed _ i _ resuming w' _ stops => simp at stops

structure Carried (s₀ : System) (event : Event) (s : System) : Prop where
  arises : s.Arises
  alone : ∃ operation, s.operations = [operation] ∧ ¬ operation.IsFuture
  exported : ∀ name, event = .openExport name → ∃ file content, s₀.Exports name file content s
  imported : ∀ name size, event = .createImport name size → ∃ file, s₀.Imports name file s

theorem InFlight.carried (inFlight : InFlight s₀ event s) (arises : s₀.Arises) :
    Carried s₀ event s := by
  induction inFlight with
  | begun around s begins run =>
      obtain ⟨g, good⟩ := arises.good
      have after := arises.step ⟨_, run, by simp⟩
      cases event with
      | openExport name =>
          obtain ⟨around', s₂, g', answers, turn, rfl⟩ :=
            good.took (Moment.allowed_lax _) run (by simp)
          obtain ⟨file, content, exports⟩ := turn.export_opened (good.facing answers)
          refine ⟨after, ⟨_, exports.source, id⟩, ?_, nofun⟩
          rintro _ ⟨⟩
          exact ⟨file, content, { exports with }⟩
      | createImport name size =>
          obtain ⟨around', s₂, g', answers, turn, rfl⟩ :=
            good.took (Moment.allowed_lax _) run (by simp)
          obtain ⟨file, imports⟩ := turn.import_opened
          refine ⟨after, ⟨_, imports.target, id⟩, nofun, ?_⟩
          rintro _ _ ⟨⟩
          exact ⟨file, { imports with }⟩
      | _ => exact begins.elim
  | step s moment s' before step held ih =>
      obtain ⟨g, good⟩ := ih.arises.good
      refine ⟨ih.arises.step step, ?_, fun name began => ?_, fun name size began => ?_⟩
      · obtain ⟨operation, there, transfer⟩ := ih.alone
        cases good.attends moment.allowed_lax there transfer step with
        | beside beside => exact ⟨operation, beside.operations.trans there, transfer⟩
        | filled i offset bytes file filename event_eq operation_eq still same =>
            exact ⟨operation, same.trans there, transfer⟩
        | consumed forgotten released =>
            obtain ⟨operation, member, -⟩ := held
            rw [forgotten] at member
            exact absurd member List.not_mem_nil
      · obtain ⟨file, content, exports⟩ := ih.exported name began
        exact ⟨file, content, exports.step good step held⟩
      · obtain ⟨file, imports⟩ := ih.imported name size began
        exact ⟨file, imports.step good step held⟩

/-- Transfers are isolated from all other calls, in whatever order these come. -/
theorem transfers_are_isolated (arises : s₀.Arises) (inFlight : InFlight s₀ event s) :
    Isolated s₀ event s := by
  have carried := inFlight.carried arises
  obtain ⟨g, good⟩ := carried.arises.good
  obtain ⟨operation, there, transfer⟩ := carried.alone
  have first : s.operations[0]? = some operation := by
    rw [there]
    rfl
  obtain ⟨-, busy, duty⟩ := good.operation first
  have active : s.world.state = .active := by
    cases operation with
    | importing target =>
        obtain ⟨file, filename, data, -, importing⟩ := duty
        exact importing.active
    | exporting source =>
        obtain ⟨file, name, size, -, exporting⟩ := duty
        exact exporting.active
    | _ => exact absurd trivial transfer
  refine ⟨carried.exported, fun name size began => ?_, fun moment guarded => ?_,
    fun moment s' step => ?_, fun moment s' i operation present consumes step => ?_,
    fun moment => good.calm moment.allowed_lax⟩
  · obtain ⟨file, imports⟩ := carried.imported name size began
    refine ⟨file, imports, fun moment s' step foreign => ?_⟩
    have beside := good.beside moment.allowed_lax imports.target foreign step
    exact beside.unopened file (imports.shut good)
  · obtain ⟨error, run⟩ := guarded.refused (s := s.facing moment.around) active busy
    refine ⟨error, ?_⟩
    unfold System.run
    exact congrArg (fun ran => (ran.1, ran.2.silenced)) run
  · cases good.attends moment.allowed_lax there transfer step with
    | beside beside =>
        exact .inl ⟨operation, by rw [beside.operations, there]; exact List.mem_singleton_self _,
          transfer⟩
    | filled i offset bytes file filename event_eq operation_eq still same =>
        exact .inl ⟨operation, by rw [same, there]; exact List.mem_singleton_self _, transfer⟩
    | consumed forgotten released => exact .inr ⟨forgotten, released⟩
  · exact good.consumes moment.allowed_lax present consumes step

theorem System.Transferring.of_importing {target : ImportTarget World OpfsSAHError}
    (alone : s.operations = [.importing target]) : s.Transferring := by
  refine ⟨.importing target, ?_, id⟩
  rw [alone]
  exact List.mem_singleton_self _

set_option maxRecDepth 100000 in
/-- An import into the pool of one slot takes a chunk, and meets a call. -/
theorem importing_run : ∃ s file content, InFlight ⟨onePool, [], []⟩ (.createImport "a.db" 512) s ∧
    s.world.directory.lookup file = some content ∧
    content.contents.drop headerOffsetData = [7, 8, 9] := by
  have begun : InFlight ⟨onePool, [], []⟩ (.createImport "a.db" 512) _ :=
    .begun untroubled _ trivial (by with_unfolding_all rfl)
  have written : InFlight ⟨onePool, [], []⟩ (.createImport "a.db" 512) _ :=
    .step _ ⟨untroubled, .importWrite 0 0 [7, 8, 9]⟩ _ begun
      ⟨.ok .done, by with_unfolding_all rfl, by simp⟩ (.of_importing (by with_unfolding_all rfl))
  have refused : InFlight ⟨onePool, [], []⟩ (.createImport "a.db" 512) _ :=
    .step _ ⟨untroubled, .remove "b.db"⟩ _ written
      ⟨.err _, by with_unfolding_all rfl, by simp⟩ (.of_importing (by with_unfolding_all rfl))
  exact ⟨_, onePool.availableFiles.headD "", _, refused, by with_unfolding_all rfl,
    by with_unfolding_all rfl⟩

theorem transfers_are_isolated_importing : ∃ s file content,
    Isolated ⟨onePool, [], []⟩ (.createImport "a.db" 512) s ∧
      s.world.directory.lookup file = some content ∧
      content.contents.drop headerOffsetData = [7, 8, 9] := by
  have arises : System.Arises ⟨onePool, [], []⟩ := onePool_arises .refl
  obtain ⟨s, file, content, inFlight, found, written⟩ := importing_run
  exact ⟨s, file, content, transfers_are_isolated arises inFlight, found, written⟩

end Sahpool

end SqliteVfs
