import SqliteVfs.Sahpool.FilesSpec

/-!
# Runs of a pool are runs of independent files

The calls that answer from bytes or names, and the commit of an import; then every call,
and by induction every run, of a pool that was just installed.
-/

set_option autoImplicit false

namespace SqliteVfs

namespace Sahpool

variable {mode : Mode} {s s' : System} {w w' : World} {g g' : Ledger} {f f' : Files}
  {file name : String} {content content' : SlotFile} {data : List UInt8} {event : Event}
  {outcome : Outcome Failure Answer} {moment : Moment}

/-! ## Calls through handles -/

theorem Named.fits {temporary durable : Bool}
    (named : Named mode name temporary durable data content) :
    Fits content.contents := named.sees.contents.1

theorem call_answers {i : Nat} {made : FileCall} {opened : VfsFile} (around : Surroundings)
    (there : s.files[i]? = some opened)
    (found : s.world.directory.lookup opened.handle.file = some content)
    (fits : Fits content.contents) :
    Prog.Ends (Event.call i made).program (s.facing around)
      (fun answer s' => ∃ told, answer = .slot told ∧ s'.world.Bytes opened.handle.file
        (made.Answers opened.handle.readOnly (dataOf content.contents) told))
      (fun _ s' => s'.world.Bytes opened.handle.file
        (made.Fails opened.handle.readOnly (dataOf content.contents))) fun _ => True := by
  have there' : (s.facing around).files[i]? = some opened := there
  refine Prog.Ends.get_bind ?_
  rw [there']
  refine onWorld_bind (made.bytes (w := s.world.facing around) opened.handle found fits) ?_ ?_
  · intro told w' holds
    exact Prog.Ends.pure ⟨told, rfl, holds⟩
  · intro failure w' holds
    exact holds

theorem System.run_ends {around : Surroundings} {returns : Answer → System → Prop}
    {fails : Failure → System → Prop}
    (ends : Prog.Ends event.program (s.facing around) returns fails fun _ => True)
    (run : s.run ⟨around, event⟩ = (outcome, s')) (goes : ∀ why, outcome ≠ .halt why) :
    ∃ s₁, s' = s₁.silenced ∧ ((∃ answer, outcome = .ok answer ∧ returns answer s₁) ∨
      ∃ error, outcome = .err error ∧ fails error s₁) := by
  have first : (event.program.run (s.facing around)).1 = outcome := congrArg Prod.fst run
  have last : (event.program.run (s.facing around)).2.silenced = s' := congrArg Prod.snd run
  have ran : event.program.run (s.facing around) =
      (outcome, (event.program.run (s.facing around)).2) := Prod.ext first rfl
  refine ⟨_, last.symm, ?_⟩
  cases outcome with
  | ok answer => exact .inl ⟨answer, rfl, ends.ok ran⟩
  | err error => exact .inr ⟨error, rfl, ends.err ran⟩
  | halt why => exact absurd rfl (goes why)

theorem Depicts.calls (depicts : Depicts mode s g f) {around : Surroundings} {i : Nat}
    {made : FileCall} (run : s.run ⟨around, .call i made⟩ = (outcome, s'))
    (goes : ∀ why, outcome ≠ .halt why) :
    ∃ g' f', f.Step (.call i made) outcome f' ∧ Depicts mode s' g' f' := by
  have allowed : (⟨around, .call i made⟩ : Moment).Allowed mode := by
    refine ⟨fun off => absurd trivial off, ?_⟩
    intro request same
    cases same
  obtain ⟨around', s₂, g', answers, turn, rfl⟩ := depicts.good.took allowed run goes
  have facing := depicts.facing answers
  have after := turn.good facing.good
  have carried := turn.transfers facing.good facing.transfers id
  refine ⟨g', ?_⟩
  cases turn with
  | idle _ nothing => exact ⟨f, .idle _ (facing.idle nothing), facing.silenced⟩
  | looked _ _ w' query => exact query.elim
  | refused _ error w' guarded => exact guarded.elim
  | called i made opened name content content' _ w' _ there named mapped found effect
      altered evolves same rewritten =>
      have member := List.mem_of_getElem? there
      obtain ⟨temporary, durable, data, present⟩ :=
        facing.good.rep.opened name _ mapped (facing.good.inUse member)
      obtain ⟨before, found', holds⟩ := facing.good.rep.content_of_mapped mapped
      cases found.symm.trans found'
      rw [present] at holds
      obtain ⟨change, rewritten⟩ := rewritten
      rw [present] at rewritten
      -- What the ledger says of the slot after the call is what its bytes are.
      have mapped' : w'.mapFilenameToFile.lookup name = some opened.handle.file := by
        rw [altered.still.names]
        exact mapped
      obtain ⟨later, stored, holds'⟩ := after.rep.content_of_mapped mapped'
      cases altered.here.symm.trans stored
      rw [rewritten] at holds'
      have changed : change data = dataOf content'.contents := (Named.data_eq holds').symm
      obtain ⟨s₁, same', ended⟩ := System.run_ends (call_answers around there found
        (Named.fits holds)) run goes
      have there' : s₁.world.directory.lookup opened.handle.file = some content' := by
        have directory : w'.directory = s₁.world.directory :=
          congrArg (fun system => system.world.directory) same'
        rw [← directory]
        exact altered.here
      have makes : made.Makes opened.handle.readOnly data outcome (change data) := by
        rw [changed, ← Named.data_eq holds]
        rcases ended with ⟨answer, rfl, told, rfl, bytes⟩ | ⟨error, rfl, bytes⟩
        · obtain ⟨other, found'', answered⟩ := bytes
          cases there'.symm.trans found''
          exact .answered told _ answered
        · obtain ⟨other, found'', failed⟩ := bytes
          cases there'.symm.trans found''
          exact .failed error _ failed
      have present' : f.entry name = .present temporary durable data := by
        rw [depicts.entry]
        exact present
      have related : Depicts mode { s.facing around' with world := w' } g'
          (f.set name (.present temporary durable (change data))) := by
        refine ⟨after, ?_, depicts.opened, (carried id).congr rfl rfl⟩
        change Function.update f.entry name _ = _
        rw [depicts.entry, evolves.entry_eq rewritten]
        rfl
      exact ⟨_, .called i made outcome _ temporary durable data _
        (facing.handle there named) present' makes, related.silenced⟩
  | deleted _ name answer w' _ deletes => simp [Event.Deletes] at deletes
  | undeleted _ name error w' _ deletes => simp [Event.Deletes] at deletes
  | unimported _ i _ file filename data w' _ ends => simp [Event.EndsImport] at ends
  | growing _ w growth w' adding => cases adding
  | grown _ w count w' adding => cases adding
  | shrinking _ w count left shrink w' reducing => cases reducing
  | shrunk _ w count left removed w' reducing => cases reducing
  | givenUp _ w _ w' stopping =>
      cases stopping with
      | adding event w adding => cases adding
  | unresumed _ i _ resuming w' _ stops => simp at stops

/-! ## Queries -/

theorem look_ends {α : Type} (around : Surroundings) (look : World → α) (answer : α → Answer) :
    Prog.Ends (do
        let value ← onWorld .pool (do
          checkActive
          let w ← Prog.get
          pure (look w))
        pure (answer value)) (s.facing around)
      (fun told _ => s.world.Ready ∧ told = answer (look (s.world.facing around)))
      (fun _ _ => True) fun _ => True := by
  have looked : Prog.Ends (do
      checkActive
      let w ← Prog.get
      pure (look w) : PoolM α) (s.world.facing around)
      (fun value _ => s.world.Ready ∧ value = look (s.world.facing around))
      (fun _ _ => True) fun _ => True := by
    rcases checkActive_run (w := s.world.facing around) with ⟨run, ready⟩ | ⟨error, run, -⟩
    · exact Prog.Ends.after_ok run (Prog.Ends.get_bind (Prog.Ends.pure
        ⟨⟨ready.active, ready.free, ready.healthy⟩, rfl⟩))
    · exact Prog.Ends.of_err (Prog.bind_err run _) trivial
  refine onWorld_bind looked ?_ fun _ _ holds => holds
  rintro value w' ⟨ready, rfl⟩
  exact Prog.Ends.pure ⟨ready, rfl⟩

theorem exportRead_ends {i offset : Nat} {buf : List UInt8} {size : Nat} (around : Surroundings)
    (there : s.operations[i]? = some (.exporting (exportSource file size)))
    (found : s.world.directory.lookup file = some content) :
    Prog.Ends (Event.exportRead i offset buf).program (s.facing around)
      (fun answer _ => ∃ bytes,
        bytes <+: SparseVector.readAt (dataOf content.contents) offset buf.length ∧
        answer = .bytes bytes.length (bytes ++ buf.drop bytes.length))
      (fun _ _ => True) fun _ => True := by
  have there' : (s.facing around).operations[i]? = some (.exporting (exportSource file size)) :=
    there
  have found' : (s.world.facing around).directory.lookup file = some content := found
  refine Prog.Ends.get_bind ?_
  rw [there']
  have answered : Prog.Ends (exportReadAt file offset buf) (s.world.facing around)
      (fun result _ => ∃ bytes,
        bytes <+: SparseVector.readAt (dataOf content.contents) offset buf.length ∧
        result = (bytes.length, bytes ++ buf.drop bytes.length))
      (fun _ _ => True) fun _ => True := by
    unfold exportReadAt
    by_cases inside : InRange offset buf.length
    swap
    · rw [physicalOffset_beyond inside]
      exact Prog.Ends.fail trivial
    rw [physicalOffset_inside inside]
    refine (onSlot_ends found' readAt_bytes).mono ?_ (fun _ _ _ => trivial) fun _ _ => trivial
    rintro result _ ⟨content', replies, -, rfl, -, bytes, some, same⟩
    exact ⟨bytes, some, same⟩
  refine onWorld_bind answered ?_ fun _ _ _ => trivial
  rintro _ w' ⟨bytes, some, rfl⟩
  exact Prog.Ends.pure ⟨bytes, some, rfl⟩

namespace Depicts

variable (depicts : Depicts mode s g f)

include depicts

theorem told (ready : s.world.Ready) (name : String) :
    decide (name ∈ s.world.mapFilenameToFile) = true ↔ f.entry name ≠ .absent := by
  rw [decide_eq_true_iff]
  exact depicts.mapped_iff (depicts.good.active_loaded ready.active) ready.healthy

/-- Queries are answered from the names, and reads of an export from its source. -/
theorem tells (query : event.Queries) (around : Surroundings) :
    Prog.Ends event.program (s.facing around)
      (fun answer _ => (answer = .done ∧ f.Idle event) ∨ f.Tells event answer)
      (fun _ _ => True) fun _ => True := by
  have listed (ready : s.world.Ready) (name : String) :
      name ∈ s.world.mapFilenameToFile.keys ↔ f.entry name ≠ .absent := by
    rw [← AList.mem_keys]
    exact depicts.mapped_iff (depicts.good.active_loaded ready.active) ready.healthy
  cases event with
  | access name =>
      have looked : Prog.Ends (VfsStore.access name) (s.world.facing around)
          (fun found _ => s.world.Ready ∧ found = decide (name ∈ s.world.mapFilenameToFile))
          (fun _ _ => True) fun _ => True := by
        unfold VfsStore.access
        rcases checkActive_run (w := s.world.facing around) with ⟨run, ready⟩ | ⟨error, run, -⟩
        · exact Prog.Ends.after_ok (Prog.mapErr_ok_iff.mpr run) (Prog.Ends.get_bind (Prog.Ends.pure
            ⟨⟨ready.active, ready.free, ready.healthy⟩, rfl⟩))
        · exact Prog.Ends.of_err (Prog.bind_err (Prog.mapErr_err run _) _) trivial
      refine onWorld_bind looked ?_ fun _ _ holds => holds
      rintro _ w' ⟨ready, rfl⟩
      exact Prog.Ends.pure (.inr (.access name _ (depicts.told ready name)))
  | fullPathname name =>
      have asked : Prog.Ends (VfsStore.fullPathname name) (s.world.facing around)
          (fun told _ => told = name) (fun _ _ => True) fun _ => True := by
        unfold VfsStore.fullPathname
        cases validateFilename name with
        | ok _ => exact Prog.Ends.pure rfl
        | error error => exact Prog.Ends.fail trivial
      refine onWorld_bind asked ?_ fun _ _ holds => holds
      rintro _ w' rfl
      exact Prog.Ends.pure (.inr (.fullPathname _))
  | contains name =>
      refine (look_ends around (fun w => w.hasFilename name) .flag).mono ?_ (fun _ _ holds => holds)
        fun _ holds => holds
      rintro _ s₁ ⟨ready, rfl⟩
      exact .inr (.contains name _ (depicts.told ready name))
  | names =>
      refine (look_ends around World.getFilenames .names).mono ?_ (fun _ _ holds => holds)
        fun _ holds => holds
      rintro _ s₁ ⟨ready, rfl⟩
      exact .inr (.names _ (AList.keys_nodup _) (listed ready))
  | len =>
      refine (look_ends around World.getFileCount .number).mono ?_ (fun _ _ holds => holds)
        fun _ holds => holds
      rintro _ s₁ ⟨ready, rfl⟩
      have counted : s.world.mapFilenameToFile.keys.length =
          (s.world.facing around).getFileCount := List.length_map _
      rw [← counted]
      exact .inr (.len _ (AList.keys_nodup _) (listed ready))
  | exportRead i offset buf =>
      by_cases idle : s.Idle (.exportRead i offset buf)
      · have nothing := depicts.idle idle
        refine Prog.Ends.get_bind ?_
        rcases there : (s.facing around).operations[i]? with _ | operation
        · exact Prog.Ends.pure (.inl ⟨rfl, nothing⟩)
        cases operation with
        | exporting source => exact absurd there (idle source)
        | _ => exact Prog.Ends.pure (.inl ⟨rfl, nothing⟩)
      · have exports : ∃ source, s.operations[i]? = some (.exporting source) := by
          by_contra none
          exact idle fun source here => none ⟨source, here⟩
        obtain ⟨source, there⟩ := exports
        have member := List.mem_of_getElem? there
        cases sourced : f.source with
        | none => exact absurd member (depicts.transfers.unsourced sourced source)
        | some pair =>
            obtain ⟨file, alone, exporting, temporary, durable, present⟩ :=
              depicts.transfers.source pair.1 pair.2 sourced
            obtain rfl := Good.first_of_alone alone there
            rw [alone] at there
            obtain ⟨content, found, holds⟩ :=
              depicts.good.rep.content_of_mapped exporting.mapped
            rw [present] at holds
            have first : s.operations[0]? =
                some (.exporting (exportSource file pair.2.length)) := by
              rw [alone]
              rfl
            refine (exportRead_ends around first found).mono ?_ (fun _ _ holds => holds)
              fun _ holds => holds
            rintro _ s₁ ⟨bytes, some, rfl⟩
            rw [Named.data_eq holds] at some
            exact .inr (.exportRead offset buf pair.1 pair.2 bytes sourced some)
  | _ => exact query.elim

theorem asks (query : event.Queries) {around : Surroundings}
    (allowed : (⟨around, event⟩ : Moment).Allowed mode)
    (run : s.run ⟨around, event⟩ = (outcome, s')) (goes : ∀ why, outcome ≠ .halt why) :
    ∃ g' f', f.Step event outcome f' ∧ Depicts mode s' g' f' := by
  obtain ⟨around', s₂, g', answers, turn, rfl⟩ := depicts.good.took allowed run goes
  have facing := depicts.facing answers
  have after := turn.good facing.good
  have foreign : ¬ event.OnTransfer := by
    cases event <;> first | exact id | exact query.elim
  have carried := turn.transfers facing.good facing.transfers foreign
  obtain ⟨s₁, -, ended⟩ := System.run_ends (depicts.tells query around) run goes
  have step : f.Step event outcome f := by
    rcases ended with ⟨answer, rfl, ⟨rfl, idle⟩ | told⟩ | ⟨error, rfl, -⟩
    · exact .idle event idle
    · exact .told event answer told
    · refine .refused event error ?_
      cases event <;> trivial
  have still : g' = g ∧ s₂.files = s.files ∧ s₂.operations = s.operations := by
    cases turn with
    | idle _ nothing => exact ⟨rfl, rfl, rfl⟩
    | looked _ _ w' query => exact ⟨rfl, rfl, rfl⟩
    | refused _ error w' guarded => exact ⟨rfl, rfl, rfl⟩
    | deleted _ name answer w' _ deletes => rcases deletes with rfl | rfl <;> exact query.elim
    | undeleted _ name error w' _ deletes => rcases deletes with rfl | rfl <;> exact query.elim
    | unimported _ i _ file filename data w' _ ends =>
        rcases ends with rfl | rfl | ⟨error, rfl⟩ | rfl <;> exact query.elim
    | growing _ w growth w' adding => cases adding <;> exact query.elim
    | grown _ w count w' adding => cases adding <;> exact query.elim
    | shrinking _ w count left shrink w' reducing => cases reducing <;> exact query.elim
    | shrunk _ w count left removed w' reducing => cases reducing <;> exact query.elim
    | givenUp _ w _ w' stopping =>
        cases stopping with
        | adding event w adding => cases adding <;> exact query.elim
        | _ => exact query.elim
    | unresumed _ i _ resuming w' _ stops => rcases stops with rfl | rfl <;> exact query.elim
    | _ => exact query.elim
  obtain ⟨rfl, files, operations⟩ := still
  have kept : (∀ operation ∈ (s.facing around').operations, operation.IsFuture) →
      ∀ operation ∈ s₂.operations, operation.IsFuture := by
    rw [operations]
    exact id
  have related : Depicts mode s₂ g' f := facing.same after rfl files (carried kept)
  exact ⟨g', f, step, related.silenced⟩

/-! ## The commit of an import -/

/-- An import that was published. -/
theorem committed (drafted : f.draft = some (name, data)) (unsourced : f.source = none)
    (importing : Importing s.world g file name data)
    (evolves : Evolves mode (Only name) s.world g w' g')
    (result : Committed name file data s.world w' g')
    (after : Good mode { s with world := { w' with busy := false }, operations := [] } g') :
    ∃ f', f.Step (.commit 0) (.ok .done) f' ∧
      Depicts mode { s with world := { w' with busy := false }, operations := [] } g' f' := by
  have loaded := depicts.good.active_loaded importing.active
  have absent := depicts.absent loaded importing.healthy importing.vacant.1
  refine ⟨{ f.set name (.present false true data) with draft := none },
    .committed name data drafted absent, after, ?_, depicts.opened, ?_⟩
  · change Function.update f.entry name _ = _
    rw [depicts.entry, evolves.entry_eq result.entry]
  · apply Transfers.of_futures
    · intro operation member
      cases member
    · exact ⟨rfl, unsourced⟩

/-- An import that could not be published: at most its own name is in doubt. -/
theorem uncommitted {error : Failure} (drafted : f.draft = some (name, data))
    (unsourced : f.source = none)
    (importing : Importing s.world g file name data)
    (result : Reclaimed s.world g w' g' ∨ Lost mode file name data s.world g w' g')
    (after : Good mode { s with world := { w' with busy := false }, operations := [] } g') :
    ∃ f', f.Step (.commit 0) (.err error) f' ∧
      Depicts mode { s with world := { w' with busy := false }, operations := [] } g' f' := by
  have loaded := depicts.good.active_loaded importing.active
  have absent := depicts.absent loaded importing.healthy importing.vacant.1
  have idle (f' : Files) (undrafted : f'.draft = none) (same : f'.source = f.source) :
      Transfers { s with world := { w' with busy := false }, operations := [] } g' f' := by
    apply Transfers.of_futures
    · intro operation member
      cases member
    · exact ⟨undrafted, same.trans unsourced⟩
  have left : g' = g.unstage ∨ g' = g.assign name file (.uncertain data) := by
    rcases result with reclaimed | lost
    · exact .inl reclaimed.ledger
    · exact lost.ledger
  rcases left with rfl | rfl
  · exact ⟨{ f with draft := none }, .discarded _ _ (.inl rfl) (by simp [drafted])
      (fun _ => ⟨error, rfl⟩), after, depicts.entry, depicts.opened, idle _ rfl rfl⟩
  · refine ⟨{ f.set name (.uncertain data) with draft := none },
      .mislaid error name data drafted absent, after, ?_, depicts.opened, idle _ rfl rfl⟩
    change Function.update f.entry name _ = Function.update g.entry name _
    rw [depicts.entry]

theorem commits (i : Nat) : Prog.Ends (Event.commit i).program s
    (fun answer s' => ∃ g' f', f.Step (.commit i) (.ok answer) f' ∧ Depicts mode s' g' f')
    (fun error s' => ∃ g' f', f.Step (.commit i) (.err error) f' ∧ Depicts mode s' g' f')
    fun _ => True := by
  by_cases idle : s.Idle (.commit i)
  · have nothing : f.Step (.commit i) (.ok .done) f := .idle _ (depicts.idle idle)
    refine Prog.Ends.get_bind ?_
    rcases there : s.operations[i]? with _ | operation
    · exact Prog.Ends.pure ⟨g, f, nothing, depicts⟩
    cases operation with
    | importing target => exact absurd there (idle target)
    | _ => exact Prog.Ends.pure ⟨g, f, nothing, depicts⟩
  have imports : ∃ target, s.operations[i]? = some (.importing target) := by
    by_contra none
    exact idle fun target here => none ⟨target, here⟩
  obtain ⟨target, there⟩ := imports
  have alone := (depicts.good.operation there).1
  obtain rfl := Good.first_of_alone alone there
  obtain ⟨name, data, file, drafted, unsourced, rfl, importing⟩ := depicts.drafting alone
  have erased : s.operations.eraseIdx 0 = [] := by
    rw [alone]
    rfl
  refine Prog.Ends.get_bind ?_
  rw [there]
  have published : Prog.Ends ((importTarget file name).commit) s.world
      (fun _ w' => ∃ g' f', f.Step (.commit 0) (.ok .done) f' ∧
        Depicts mode { s with world := w', operations := [] } g' f')
      (fun error w' => ∃ g' f', f.Step (.commit 0) (.err (.pool error)) f' ∧
        Depicts mode { s with world := w', operations := [] } g' f') fun _ => True := by
    refine Prog.Ends.ensure ((commit_ends depicts.good.rep importing).mono ?_ ?_ fun _ _ => trivial)
    · rintro _ w' ⟨g', evolves, result⟩
      have turn : Turn mode s g (.commit 0) (.ok .done) _ g' :=
        .committed 0 file name data w' g' alone importing evolves result rfl
      exact ⟨g', depicts.committed drafted unsourced importing evolves result
        (turn.good depicts.good)⟩
    · rintro error w' ⟨g', evolves, result, -⟩
      have turn : Turn mode s g (.commit 0) (.err (.pool error)) _ g' :=
        .unimported _ 0 _ file name data w' g' (.inl rfl) alone importing evolves
          ⟨result, fun never => absurd rfl (never 0)⟩ (fun _ => ⟨_, rfl⟩) nofun rfl
      exact ⟨g', depicts.uncommitted drafted unsourced importing result
        (turn.good depicts.good)⟩
  refine Prog.Ends.modify_bind (onWorld_bind (s := { s with operations := s.operations.eraseIdx 0 })
    published ?_ ?_)
  · intro _ w' holds
    rw [erased]
    exact Prog.Ends.pure holds
  · intro error w' holds
    rw [erased]
    exact holds

/-- Every call of a pool is one of its files, with the same outcome. -/
theorem step (classified : mode ≠ .lax) (allowed : moment.Allowed mode)
    (run : s.run moment = (outcome, s')) (goes : ∀ why, outcome ≠ .halt why) :
    ∃ g' f', f.Step moment.event outcome f' ∧ Depicts mode s' g' f' := by
  obtain ⟨around, event⟩ := moment
  by_cases query : event.Queries
  · exact depicts.asks query allowed run goes
  by_cases call : ∃ i made, event = .call i made
  · obtain ⟨i, made, rfl⟩ := call
    exact depicts.calls run goes
  by_cases commit : ∃ i, event = .commit i
  · obtain ⟨i, rfl⟩ := commit
    have facing := depicts.facing (allowed.answers id)
    obtain ⟨s₁, rfl, ended⟩ := System.run_ends (facing.commits i) run goes
    rcases ended with ⟨answer, rfl, g', f', step, related⟩ | ⟨error, rfl, g', f', step, related⟩
    · exact ⟨g', f', step, related.silenced⟩
    · exact ⟨g', f', step, related.silenced⟩
  · obtain ⟨around', s₂, g', answers, turn, rfl⟩ := depicts.good.took allowed run goes
    obtain ⟨f', step, related⟩ := turn.depicted (depicts.facing answers) classified query
      (fun i made same => call ⟨i, made, same⟩) fun i same => commit ⟨i, same⟩
    exact ⟨g', f', step, related.silenced⟩

end Depicts

/-! ## Runs -/

def System.Answers (s : System) (label : Moment × Outcome Failure Answer) (s' : System) : Prop :=
  s.run label.1 = (label.2, s') ∧ ∀ why, label.2 ≠ .halt why

def Files.Acts (f : Files) (label : Event × Outcome Failure Answer) (f' : Files) : Prop :=
  f.Step label.1 label.2 f'

def called (label : Moment × Outcome Failure Answer) : Event × Outcome Failure Answer :=
  (label.1.event, label.2)

/-- A directory holds no other names than these, and all persistent files. -/
structure Files.Stored (f : Files) (directory : AList fun _ : String => SlotFile) : Prop where
  sound : ∀ file content name, directory.lookup file = some content →
    stored content.contents = .ok (some name) →
    (∃ durable, f.entry name = .present false durable (dataOf content.contents)) ∨
      f.entry name = .uncertain (dataOf content.contents)
  complete : ∀ name durable data, f.entry name = .present false durable data →
    ∃ file content, directory.lookup file = some content ∧
      stored content.contents = .ok (some name) ∧ dataOf content.contents = data

/-- What a system shows of its files: to SQLite, to its users, and in its directory. -/
structure Files.Shown (f : Files) (s : System) : Prop where
  opened : f.opened = s.files.map VfsFile.view
  images : s.world.state = .active → s.world.needsRecovery = false →
    ∀ name, s.world.imageOf name = (f.entry name).image
  stored : f.Stored s.world.directory

theorem Disk.stored {directory : AList fun _ : String => SlotFile} (disk : Disk mode directory g)
    (classified : mode ≠ .lax) (entry : f.entry = g.entry) : f.Stored directory where
  sound file content name found reading := by
    have named : decoded directory file = some (.ok (some name)) := by
      unfold decoded
      rw [found, Option.map_some, reading]
    obtain ⟨content', found', -, holds⟩ := disk.matches_of_decoded named
    cases found.symm.trans found'
    rw [entry]
    cases state : g.entry name with
    | absent =>
        rw [state] at holds
        exact holds.elim
    | present temporary durable data =>
        rw [state] at holds
        have read := Named.stored_eq holds classified
        rw [reading] at read
        rw [Named.data_eq holds]
        cases temporary with
        | true => cases read
        | false => exact .inl ⟨durable, rfl⟩
    | uncertain data =>
        rw [state] at holds
        rw [holds.data_eq reading]
        exact .inr rfl
  complete name durable data present := by
    rw [entry] at present
    obtain ⟨file, content, -, found, same, named⟩ := disk.decoded_of_present classified present
    unfold decoded at named
    rw [found, Option.map_some] at named
    exact ⟨file, content, found, Option.some.inj named, same⟩

theorem Depicts.shown (depicts : Depicts mode s g f) (classified : mode ≠ .lax) : f.Shown s where
  opened := depicts.opened
  images active healthy name := by
    rw [depicts.entry]
    exact depicts.good.rep.imageOf_eq (depicts.good.active_loaded active) healthy name
  stored := (depicts.good.rep.disk depicts.good.known).stored classified depicts.entry

theorem Moment.allowed_loose (moment : Moment)
    (classified : ∀ request, moment.event = .openFile request →
      Classified request.options.rawFlags) : moment.Allowed .loose :=
  ⟨fun _ reply _ => reply.allowed_torn (.inl rfl), fun request same _ => classified request same⟩

/-- The flags of every open are as SQLite supplies them. -/
def Classifies (label : Moment × Outcome Failure Answer) : Prop :=
  ∀ request, label.1.event = .openFile request → Classified request.options.rawFlags

theorem InstalledFrom.depicts {config : PoolConfig} {directory : AList fun _ : String => SlotFile}
    (installed : InstalledFrom (fun _ => True) config directory name w) :
    ∃ g, Installed .loose config w g ∧ Depicts .loose ⟨w, [], []⟩ g ⟨g.entry, none, none, []⟩ := by
  have allowed : ∀ around : Surroundings, True → around.Allowed .loose :=
    fun _ _ reply _ => reply.allowed_torn (.inl rfl)
  have startable : Startable .loose directory := by
    intro strict
    cases strict
  obtain ⟨g, installed⟩ := installed.installed allowed startable
  have idle : Transfers ⟨w, [], []⟩ g ⟨g.entry, none, none, []⟩ := by
    apply Transfers.of_futures
    · intro operation member
      cases member
    · exact ⟨rfl, rfl⟩
  exact ⟨g, installed, installed.good, rfl, rfl, idle⟩

/-- Whatever the browser answers, a run of an installed pool is a run of independent files with
the same calls and the same outcomes. -/
theorem pool_refines_files {config : PoolConfig} {directory : AList fun _ : String => SlotFile}
    {labels : List (Moment × Outcome Failure Answer)}
    (installed : InstalledFrom (fun _ => True) config directory name w)
    (runs : Runs System.Answers ⟨w, [], []⟩ labels s)
    (classified : ∀ label ∈ labels, Classifies label) :
    ∃ start f, start.Free ∧ start.Shown ⟨w, [], []⟩ ∧ f.Shown s ∧
      Runs Files.Acts start (labels.map called) f := by
  have loose : Mode.loose ≠ .lax := by decide
  obtain ⟨g, -, start⟩ := installed.depicts
  have square : ∀ s label s' f, (∃ g, Depicts .loose s g f) → Classifies label →
      System.Answers s label s' →
      ∃ f', Files.Acts f (called label) f' ∧ ∃ g', Depicts .loose s' g' f' := by
    rintro s ⟨moment, outcome⟩ s' f ⟨g, depicts⟩ here ⟨run, goes⟩
    obtain ⟨g', f', step, depicts'⟩ := depicts.step loose (moment.allowed_loose here) run goes
    exact ⟨f', step, g', depicts'⟩
  obtain ⟨f, run, g', depicts⟩ := runs.simulates square ⟨g, start⟩ classified
  exact ⟨_, f, ⟨rfl, rfl⟩, start.shown loose, depicts.shown loose, run⟩

/-- The browser lets one byte of a write land, and throws. -/
def tearing : Surroundings := ⟨⟨[.thrown ⟨none, none, ""⟩ (.part 1)], [], [], []⟩, []⟩

/-- SQLite opens a database, a write of it is torn, and the part that landed is read. -/
def tornCalls : List (Moment × Outcome Failure Answer) :=
  [(⟨untroubled, .openFile ⟨some "a.db", ⟨0x106⟩⟩⟩, .ok (.opened .readWrite)),
    (⟨tearing, .call 0 (.write [1, 2] 0)⟩,
      .err (.slot (.failed ((OpfsSAHError.js "write file" ⟨none, none, ""⟩).vfsErr .ioWrite)))),
    (⟨untroubled, .call 0 (.read [9, 9] 0)⟩, .ok (.slot (.read 1 [1, 9])))]

set_option maxRecDepth 20000 in
theorem torn_run : ∃ s, Runs System.Answers ⟨onePool, [], []⟩ tornCalls s := by
  have opened : Runs System.Answers ⟨onePool, [], []⟩
      [(⟨untroubled, .openFile ⟨some "a.db", ⟨0x106⟩⟩⟩, .ok (.opened .readWrite))] _ :=
    .single ⟨rfl, by simp⟩
  have torn : Runs System.Answers ⟨onePool, [], []⟩ (tornCalls.take 2) _ :=
    opened.snoc ⟨by with_unfolding_all rfl, by simp⟩
  have read : Runs System.Answers ⟨onePool, [], []⟩ tornCalls _ :=
    torn.snoc ⟨by with_unfolding_all rfl, by simp⟩
  exact ⟨_, read⟩

theorem pool_refines_files_torn : ∃ s start f, start.Free ∧ start.Shown ⟨onePool, [], []⟩ ∧
    f.Shown s ∧ Runs Files.Acts start (tornCalls.map called) f := by
  obtain ⟨s, runs⟩ := torn_run
  have classified : ∀ label ∈ tornCalls, Classifies label := by
    intro label member request opens
    simp only [tornCalls, List.mem_cons, List.not_mem_nil, or_false] at member
    rcases member with rfl | rfl | rfl
    · cases opens
      decide
    · cases opens
    · cases opens
  exact ⟨s, pool_refines_files (onePool_installed.mono fun _ _ => trivial) runs classified⟩

end Sahpool

end SqliteVfs
