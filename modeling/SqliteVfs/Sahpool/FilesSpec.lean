import SqliteVfs.Sahpool.Files

/-!
# A pool refines independent files

Whatever a pool does, with any failures of the browser, independent files can do with the
same outcomes.  What the browser answered is gone from the simulating step: a write that
fails may have landed in part, and an operation that fails may leave a file in doubt.
-/

set_option autoImplicit false

namespace SqliteVfs

namespace Sahpool

variable {mode : Mode} {s s' : System} {w w' : World} {g g' : Ledger} {f f' : Files}
  {file name : String} {content content' : SlotFile} {data : List UInt8} {event : Event}
  {outcome : Outcome Failure Answer} {ε α β : Type}

/-! ## The bytes of a slot -/

def World.Bytes (w : World) (file : String) (P : List UInt8 → Prop) : Prop :=
  ∃ content, w.directory.lookup file = some content ∧ P (dataOf content.contents)

theorem onSlot_bytes {x : SlotM ε α} {R : α → List UInt8 → Prop} {S : List UInt8 → Prop}
    (found : w.directory.lookup file = some content)
    (does : Does .lax x ⟨content, w.env.replies⟩ (fun value file => R value (dataOf file.contents))
      fun file => S (dataOf file.contents)) :
    Prog.Ends (onSlot file x) w (fun value w' => w'.Bytes file (R value))
      (fun _ w' => w'.Bytes file S) fun _ => True := by
  refine (onSlot_ends found does).mono ?_ ?_ fun _ _ => trivial
  · rintro value _ ⟨content', replies, -, rfl, holds⟩
    exact ⟨content', AList.lookup_insert _, holds⟩
  · rintro _ _ ⟨content', replies, -, rfl, holds⟩
    exact ⟨content', AList.lookup_insert _, holds⟩

theorem Landed.take_prefix (landed : Landed) (bytes : List UInt8) :
    landed.take bytes <+: bytes := by
  cases landed with
  | nothing => exact List.nil_prefix
  | everything => exact List.prefix_rfl
  | part count => exact List.take_prefix count bytes

theorem SlotFile.dataOf_write (fits : Fits content.contents) (offset : Nat) (bytes : List UInt8) :
    dataOf (content.write (offset + headerOffsetData) bytes).contents =
      if bytes = [] then dataOf content.contents
      else SparseVector.writeAt (dataOf content.contents) offset bytes := by
  by_cases empty : bytes = []
  · rw [if_pos empty, empty, SlotFile.write_nil]
  · rw [if_neg empty, SlotFile.contents_write empty, Sahpool.dataOf_write fits]

theorem SlotFile.dataOf_truncate (fits : Fits content.contents) (size : Nat) :
    dataOf (content.truncate (size + headerOffsetData)).contents =
      SparseVector.resize (dataOf content.contents) size := by
  rw [SlotFile.contents_truncate, dataOf_resize fits]

theorem readAt_bytes {buf : List UInt8} {offset : Nat} {replies : List Reply} :
    Does .lax (SyncAccessFile.readAt buf (offset + headerOffsetData)) ⟨content, replies⟩
      (fun result file => dataOf file.contents = dataOf content.contents ∧
        ∃ bytes, bytes <+: SparseVector.readAt (dataOf content.contents) offset buf.length ∧
          result = (bytes.length, bytes ++ buf.drop bytes.length))
      fun file => dataOf file.contents = dataOf content.contents := by
  refine (readAt_does (lax_replies _) buf _).mono ?_ fun _ holds => by rw [holds.2]
  rintro ⟨count, filled⟩ _ ⟨rfl, landed, -, count_eq, filled_eq⟩
  dsimp only at count_eq filled_eq
  subst count_eq filled_eq
  rw [readAt_dataOf]
  exact ⟨rfl, _, landed.take_prefix _, rfl⟩

theorem truncate_bytes {self : SyncAccessFileHandle} {size : Nat}
    (found : w.directory.lookup self.file = some content) (fits : Fits content.contents)
    {R S : List UInt8 → Prop} (nothing : S (dataOf content.contents))
    (truncated : self.readOnly = false → R (SparseVector.resize (dataOf content.contents) size) ∧
      S (SparseVector.resize (dataOf content.contents) size)) :
    Prog.Ends (self.truncate size) w (fun _ w' => w'.Bytes self.file R)
      (fun _ w' => w'.Bytes self.file S) fun _ => True := by
  by_cases readOnly : self.readOnly = true
  · rw [truncate_readOnly readOnly]
    exact Prog.Ends.fail ⟨content, found, nothing⟩
  have writable := Bool.eq_false_iff.mpr readOnly
  by_cases inside : InRange size 0
  swap
  · rw [truncate_beyond writable inside]
    exact Prog.Ends.fail ⟨content, found, nothing⟩
  rw [truncate_inside writable inside]
  have done := truncated writable
  rw [← SlotFile.dataOf_truncate fits] at done
  refine onSlot_bytes (R := fun _ => R) found
    (Does.mapErr ((truncate_does (lax_replies _) _).mono ?_ ?_))
  · rintro _ _ rfl
    exact done.1
  · rintro _ ⟨-, rfl | rfl⟩
    · exact nothing
    · exact done.2

theorem size_bytes {self : SyncAccessFileHandle}
    (found : w.directory.lookup self.file = some content) :
    Prog.Ends self.size w
      (fun size w' => ∃ content', w'.directory.lookup self.file = some content' ∧
        content' = content ∧ size = (dataOf content.contents).length)
      (fun _ w' => ∃ content', w'.directory.lookup self.file = some content' ∧ content' = content)
      fun _ => True := by
  have does : Does .lax (SyncAccessFile.size self.file) ⟨content, w.env.replies⟩
      (fun size file => file = content ∧ size = (dataOf content.contents).length)
      fun file => file = content := size_does (lax_replies _) _
  refine (onSlot_ends found does).mono ?_ ?_ fun _ _ => trivial
  · rintro size _ ⟨content', replies, -, rfl, holds⟩
    exact ⟨content', AList.lookup_insert _, holds⟩
  · rintro _ _ ⟨content', replies, -, rfl, holds⟩
    exact ⟨content', AList.lookup_insert _, holds⟩

/-- Each call through a handle answers from the bytes of its slot. -/
theorem FileCall.bytes (call : FileCall) (self : SyncAccessFileHandle)
    (found : w.directory.lookup self.file = some content) (fits : Fits content.contents) :
    Prog.Ends (call.request self).program w
      (fun answer w' => w'.Bytes self.file
        (call.Answers self.readOnly (dataOf content.contents) answer))
      (fun _ w' => w'.Bytes self.file (call.Fails self.readOnly (dataOf content.contents)))
      fun _ => True := by
  have refusal : w.Bytes self.file (call.Fails self.readOnly (dataOf content.contents)) :=
    ⟨content, found, .nothing call⟩
  cases call with
  | read buf offset =>
      have answered : Prog.Ends (self.read buf offset) w
          (fun result w' => w'.Bytes self.file (FileCall.Answers self.readOnly
            (dataOf content.contents) (.read buf offset) (.read result.1 result.2)))
          (fun _ w' => w'.Bytes self.file
            (FileCall.Fails self.readOnly (dataOf content.contents) (.read buf offset)))
          fun _ => True := by
        by_cases empty : buf = []
        · subst empty
          exact Prog.Ends.pure ⟨content, found, .read [] offset [] List.nil_prefix⟩
        by_cases inside : InRange offset buf.length
        swap
        · rw [read_beyond empty inside]
          exact Prog.Ends.fail refusal
        rw [read_inside empty inside]
        refine Prog.Ends.mapErr (onSlot_bytes found (readAt_bytes.mono ?_ ?_))
        · rintro _ file ⟨same, bytes, some, rfl⟩
          rw [same]
          exact .read buf offset bytes some
        · intro file same
          rw [same]
          exact .nothing _
      refine Prog.Ends.bind (Prog.Ends.mapErr answered) ?_
      intro result next holds
      exact Prog.Ends.pure holds
  | write buf offset =>
      have answered : Prog.Ends (self.write buf offset) w
          (fun _ w' => w'.Bytes self.file (FileCall.Answers self.readOnly
            (dataOf content.contents) (.write buf offset) .done))
          (fun _ w' => w'.Bytes self.file
            (FileCall.Fails self.readOnly (dataOf content.contents) (.write buf offset)))
          fun _ => True := by
        by_cases readOnly : self.readOnly = true
        · rw [write_readOnly readOnly]
          exact Prog.Ends.fail refusal
        have writable := Bool.eq_false_iff.mpr readOnly
        by_cases empty : buf = []
        · subst empty
          rw [write_empty writable]
          exact Prog.Ends.pure ⟨content, found, .written [] offset writable⟩
        by_cases inside : InRange offset buf.length
        swap
        · rw [write_beyond writable empty inside]
          exact Prog.Ends.fail refusal
        rw [write_inside writable empty inside]
        refine Prog.Ends.mapErr (onSlot_bytes (R := fun _ => FileCall.Answers self.readOnly
          (dataOf content.contents) (.write buf offset) .done) found
          ((writeAt_does (lax_replies _) buf _).mono ?_ ?_))
        · rintro _ _ rfl
          rw [SlotFile.dataOf_write fits]
          exact .written buf offset writable
        · rintro _ ⟨-, _, ⟨count, rfl, -⟩, rfl⟩
          rw [SlotFile.dataOf_write fits]
          by_cases some : buf.take count = []
          · rw [if_pos some]
            exact .nothing _
          · rw [if_neg some]
            exact .written buf offset count writable some
      refine Prog.Ends.bind (Prog.Ends.mapErr answered) ?_
      intro _ next holds
      exact Prog.Ends.pure holds
  | truncate size =>
      refine Prog.Ends.bind (Prog.Ends.mapErr (truncate_bytes found fits (.nothing _)
        fun writable => ⟨FileCall.Answers.truncated size writable, .truncated size writable⟩)) ?_
      intro _ next holds
      exact Prog.Ends.pure holds
  | sizeHint size =>
      have answered : Prog.Ends (self.sizeHint size) w
          (fun known w' => w'.Bytes self.file (FileCall.Answers self.readOnly
            (dataOf content.contents) (.sizeHint size) (.hinted known)))
          (fun _ w' => w'.Bytes self.file
            (FileCall.Fails self.readOnly (dataOf content.contents) (.sizeHint size)))
          fun _ => True := by
        unfold SyncAccessFileHandle.sizeHint
        refine Prog.Ends.bind_of (size_bytes found) ?_ ?_ fun _ _ => trivial
        · rintro _ next ⟨content, there, rfl, rfl⟩
          by_cases large : (dataOf content.contents).length < size
          · rw [if_pos large]
            refine Prog.Ends.bind (truncate_bytes there fits (.nothing _) fun writable =>
              ⟨FileCall.Answers.extended size large writable, .extended size writable⟩) ?_
            intro _ last holds
            exact Prog.Ends.pure holds
          · rw [if_neg large]
            exact Prog.Ends.pure ⟨content, there, .small size (Nat.le_of_not_lt large)⟩
        · rintro _ next ⟨_, there, rfl⟩
          exact ⟨_, there, .nothing _⟩
      refine Prog.Ends.bind (Prog.Ends.mapErr answered) ?_
      intro known next holds
      exact Prog.Ends.pure holds
  | sync =>
      refine Prog.Ends.bind (Prog.Ends.mapErr (Prog.Ends.mapErr (onSlot_bytes
        (R := fun _ => FileCall.Answers self.readOnly (dataOf content.contents) .sync .done) found
        ((flush_does (lax_replies _)).mono ?_ ?_)))) ?_
      · rintro _ _ rfl
        rw [SlotFile.contents_flush]
        exact .synced
      · rintro _ ⟨-, rfl | rfl⟩
        · exact .nothing _
        · rw [SlotFile.contents_flush]
          exact .nothing _
      · intro _ next holds
        exact Prog.Ends.pure holds
  | size =>
      have answered : Prog.Ends self.size w
          (fun size w' => w'.Bytes self.file (FileCall.Answers self.readOnly
            (dataOf content.contents) .size (.size size)))
          (fun _ w' => w'.Bytes self.file
            (FileCall.Fails self.readOnly (dataOf content.contents) .size)) fun _ => True := by
        refine (size_bytes found).mono ?_ ?_ fun _ holds => holds
        · rintro _ next ⟨content, there, rfl, rfl⟩
          exact ⟨content, there, .sized⟩
        · rintro _ next ⟨content, there, rfl⟩
          exact ⟨content, there, .nothing _⟩
      refine Prog.Ends.bind (Prog.Ends.mapErr answered) ?_
      intro size next holds
      exact Prog.Ends.pure holds

/-! ## What a pool depicts -/

def VfsFile.view (file : VfsFile) : FileHandle :=
  ⟨file.opened.getD "", file.handle.readOnly, file.options.deleteOnClose⟩

structure Transfers (s : System) (g : Ledger) (f : Files) : Prop where
  draft : ∀ name data, f.draft = some (name, data) → ∃ file,
    s.operations = [.importing (importTarget file name)] ∧ Importing s.world g file name data
  undrafted : f.draft = none → ∀ target, .importing target ∉ s.operations
  source : ∀ name data, f.source = some (name, data) → ∃ file,
    s.operations = [.exporting (exportSource file data.length)] ∧ Exporting s.world g file name ∧
      ∃ temporary durable, g.entry name = .present temporary durable data
  unsourced : f.source = none → ∀ source, .exporting source ∉ s.operations

structure Depicts (mode : Mode) (s : System) (g : Ledger) (f : Files) : Prop where
  good : Good mode s g
  entry : f.entry = g.entry
  opened : f.opened = s.files.map VfsFile.view
  transfers : Transfers s g f

namespace Transfers

theorem of_futures (futures : ∀ operation ∈ s.operations, operation.IsFuture) (free : f.Free) :
    Transfers s g f where
  draft name data there := by
    rw [free.1] at there
    cases there
  undrafted _ target member := futures _ member
  source name data there := by
    rw [free.2] at there
    cases there
  unsourced _ source member := futures _ member

theorem free (transfers : Transfers s g f)
    (futures : ∀ operation ∈ s.operations, operation.IsFuture) : f.Free := by
  constructor
  · cases there : f.draft with
    | none => rfl
    | some draft =>
        obtain ⟨file, alone, -⟩ := transfers.draft draft.1 draft.2 there
        rw [alone] at futures
        exact absurd (futures _ (List.mem_singleton_self _)) id
  · cases there : f.source with
    | none => rfl
    | some source =>
        obtain ⟨file, alone, -⟩ := transfers.source source.1 source.2 there
        rw [alone] at futures
        exact absurd (futures _ (List.mem_singleton_self _)) id

theorem idle (transfers : Transfers s g f) (idle : s.operations = []) : f.Free := by
  apply transfers.free
  intro operation member
  rw [idle] at member
  cases member

theorem ready (transfers : Transfers s g f) (good : Good mode s g) (ready : s.world.Ready) :
    f.Free :=
  transfers.idle (good.free_alone ready.free)

theorem beside (transfers : Transfers s g f) (good : Good mode s g) (after : Good mode s' g')
    (beside : s.Beside event s') : Transfers s' g' f where
  draft name data there := by
    obtain ⟨file, alone, importing⟩ := transfers.draft name data there
    obtain ⟨top, content, found, staged⟩ := good.rep.staged file data importing.staging
    have alone' := beside.operations.trans alone
    have first : s'.operations[0]? = some (.importing (importTarget file name)) := by
      rw [alone']
      rfl
    obtain ⟨-, -, file', filename', data', -, importing'⟩ := after.operation first
    obtain ⟨top', content', found', staged'⟩ := after.rep.staged file' data' importing'.staging
    rw [beside.still.available, top] at top'
    obtain rfl := Option.some.inj top'
    have shut := good.available_shut (List.mem_of_getLast? top)
    rw [beside.unopened file (System.handles_eq_zero.mp shut), found] at found'
    obtain rfl := Option.some.inj found'
    obtain rfl : data' = data := staged'.data_eq.symm.trans staged.data_eq
    exact ⟨file, alone', beside.state.trans importing.active,
      beside.still.suspect.trans importing.healthy, importing'.staging,
      importing.vacant.still beside.still⟩
  undrafted there target := by
    rw [beside.operations]
    exact transfers.undrafted there target
  source name data there := by
    obtain ⟨file, alone, exporting, temporary, durable, present⟩ := transfers.source name data there
    obtain ⟨content, found, holds⟩ := good.rep.content_of_mapped exporting.mapped
    rw [present] at holds
    have alone' := beside.operations.trans alone
    have first : s'.operations[0]? = some (.exporting (exportSource file data.length)) := by
      rw [alone']
      rfl
    obtain ⟨-, -, file', name', size', -, exporting'⟩ := after.operation first
    have mapped : s'.world.mapFilenameToFile.lookup name = some file := by
      rw [beside.still.names]
      exact exporting.mapped
    have healthy : s'.world.needsRecovery = false :=
      beside.still.suspect.trans exporting.healthy
    have active : s'.world.state = .active := beside.state.trans exporting.active
    have shut : s.handles file = 0 := (good.counts file).symm.trans exporting.closed
    obtain ⟨temporary', durable', data', present'⟩ :=
      after.rep.present_of_mapped (after.active_loaded active) healthy mapped
    obtain ⟨content', found', holds'⟩ := after.rep.content_of_mapped mapped
    rw [beside.unopened file (System.handles_eq_zero.mp shut), found] at found'
    obtain rfl := Option.some.inj found'
    rw [present'] at holds'
    obtain rfl : data' = data := (Named.data_eq holds').symm.trans (Named.data_eq holds)
    refine ⟨file, alone', ⟨active, healthy, exporting'.idle, mapped, ?_⟩, temporary', durable',
      present'⟩
    exact (after.counts file).trans (beside.shut shut)
  unsourced there source := by
    rw [beside.operations]
    exact transfers.unsourced there source

end Transfers

def Event.OnTransfer : Event → Prop
  | .importWrite _ _ _ | .commit _ | .abort _ | .abortWithError _ _ | .dropImport _
  | .dropExport _ => True
  | _ => False

theorem Event.WorksOn.onTransfer {operation : Operation} (works : event.WorksOn operation)
    (transfer : ¬ operation.IsFuture) : event.OnTransfer := by
  cases operation with
  | importing target => cases event <;> first | exact trivial | exact works.elim
  | exporting source => cases event <;> first | exact trivial | exact works.elim
  | _ => exact absurd trivial transfer

/-- The operations of a good pool are all futures, or there is one transfer. -/
theorem Good.futures_or (good : Good mode s g) :
    (∀ operation ∈ s.operations, operation.IsFuture) ∨
      ∃ operation, s.operations = [operation] ∧ s.world.busy = true ∧ ¬ operation.IsFuture := by
  by_cases futures : ∀ operation ∈ s.operations, operation.IsFuture
  · exact .inl futures
  · push Not at futures
    obtain ⟨operation, member, transfer⟩ := futures
    obtain ⟨i, there⟩ := List.mem_iff_getElem?.mp member
    obtain ⟨alone, busy, -⟩ := good.operation there
    exact .inr ⟨operation, alone, busy, transfer⟩

theorem Turn.transfers (turn : Turn mode s g event outcome s' g') (good : Good mode s g)
    (transfers : Transfers s g f) (foreign : ¬ event.OnTransfer)
    (kept : (∀ operation ∈ s.operations, operation.IsFuture) →
      ∀ operation ∈ s'.operations, operation.IsFuture) : Transfers s' g' f := by
  rcases good.futures_or with futures | ⟨operation, alone, busy, transfer⟩
  · exact .of_futures (kept futures) (transfers.free futures)
  · have beside := turn.beside busy alone fun works => foreign (works.onTransfer transfer)
    exact transfers.beside good (turn.good good) beside

/-! ## What each turn depicts -/

theorem VfsFile.view_name {file : VfsFile} (named : file.opened = some name) :
    file.view.name = name := by
  unfold VfsFile.view
  rw [named]
  rfl

theorem Good.unopened (good : Good mode s g) (opened : f.opened = s.files.map VfsFile.view)
    (shut : ∀ file, s.world.mapFilenameToFile.lookup name = some file → s.handles file = 0) :
    f.Unopened name := by
  intro handle member same
  rw [opened] at member
  obtain ⟨file, there, rfl⟩ := List.mem_map.mp member
  obtain ⟨other, named, mapped⟩ := good.live file there
  rw [VfsFile.view_name named] at same
  subst same
  exact System.handles_eq_zero.mp (shut _ mapped) file there rfl

namespace Depicts

variable (depicts : Depicts mode s g f)

include depicts

theorem facing {around : Surroundings} (allowed : around.Allowed mode) :
    Depicts mode (s.facing around) g f where
  good := depicts.good.facing allowed
  entry := depicts.entry
  opened := depicts.opened
  transfers := {
    draft := fun name data there => by
      obtain ⟨file, alone, importing⟩ := depicts.transfers.draft name data there
      exact ⟨file, alone, importing.facing around⟩
    undrafted := depicts.transfers.undrafted
    source := fun name data there => by
      obtain ⟨file, alone, exporting, present⟩ := depicts.transfers.source name data there
      exact ⟨file, alone, exporting.facing around, present⟩
    unsourced := depicts.transfers.unsourced }

theorem silenced : Depicts mode s.silenced g f := by
  have quiet : Surroundings.Allowed mode ⟨Env.silent, s.world.registry⟩ := by
    intro reply member
    cases member
  exact depicts.facing quiet

theorem absent (loaded : g.loaded = true) (healthy : s.world.needsRecovery = false)
    (unmapped : name ∉ s.world.mapFilenameToFile) : f.entry name = .absent := by
  rw [depicts.entry]
  exact depicts.good.rep.absent_of_unmapped loaded healthy unmapped

theorem present (loaded : g.loaded = true) (healthy : s.world.needsRecovery = false)
    (member : name ∈ s.world.mapFilenameToFile) :
    ∃ temporary durable data, f.entry name = .present temporary durable data := by
  obtain ⟨file, mapped⟩ := Option.isSome_iff_exists.mp (AList.lookup_isSome.mpr member)
  rw [depicts.entry]
  exact depicts.good.rep.present_of_mapped loaded healthy mapped

theorem mapped_iff (loaded : g.loaded = true) (healthy : s.world.needsRecovery = false) :
    name ∈ s.world.mapFilenameToFile ↔ f.entry name ≠ .absent := by
  constructor
  · intro member absent
    obtain ⟨temporary, durable, data, present⟩ := depicts.present loaded healthy member
    rw [absent] at present
    cases present
  · intro there
    by_contra unmapped
    exact there (depicts.absent loaded healthy unmapped)

theorem handle {i : Nat} {file : VfsFile} (there : s.files[i]? = some file)
    (named : file.opened = some name) : f.opened[i]? = some ⟨name, file.handle.readOnly,
      file.options.deleteOnClose⟩ := by
  rw [depicts.opened, List.getElem?_map, there, Option.map_some]
  unfold VfsFile.view
  rw [named]
  rfl

theorem closing (i : Nat) :
    (f.closing i).opened = (s.files.eraseIdx i).map VfsFile.view := by
  rw [← List.eraseIdx_map, ← depicts.opened]
  rfl

theorem opened_nil (empty : s.files = []) : f.opened = [] := by
  rw [depicts.opened, empty, List.map_nil]

end Depicts

theorem Evolves.entry_eq {entry : Entry} (evolves : Evolves mode (Only name) w g w' g')
    (here : g'.entry name = entry) : g'.entry = Function.update g.entry name entry := by
  funext other
  by_cases same : other = name
  · subst same
    rw [Function.update_self, here]
  · rw [Function.update_of_ne same]
    exact evolves.entries other same

/-- What a deletion that failed has made of the file. -/
theorem DeleteFailed.depicted (failed : DeleteFailed mode name w g w' g') (after : Good mode s' g')
    (opened : f.opened = s'.files.map VfsFile.view) :
    ∃ entry, (g.entry name).Deletes false entry ∧ g'.entry = Function.update g.entry name entry ∧
      (entry ≠ g.entry name → w.Ready ∧ f.Unopened name) := by
  rcases failed with ⟨rfl, rfl⟩ | ⟨ready, -, member, suspect, names, -, rfl⟩
  · exact ⟨_, .kept, (Function.update_eq_self _ _).symm, fun changed => absurd rfl changed⟩
  · refine ⟨_, .doubted, rfl, fun changed => ⟨ready, ?_⟩⟩
    apply after.unopened opened
    intro file mapped
    by_contra handles
    have inUse : s'.world.openCount file ≠ 0 := by
      rw [after.counts]
      exact handles
    obtain ⟨temporary, durable, data, present⟩ := after.rep.opened name file mapped inUse
    have doubted : (g.doubt name).entry name = .uncertain (g.entry name).data :=
      Function.update_self _ _ _
    rw [doubted] at present
    cases present

theorem Deleted.unopened (deleted : Deleted name w s'.world g') (after : Good mode s' g')
    (opened : f.opened = s'.files.map VfsFile.view) : f.Unopened name := by
  apply after.unopened opened
  intro file mapped
  have member : name ∈ s'.world.mapFilenameToFile := AList.lookup_isSome.mp (by rw [mapped]; rfl)
  exact absurd member deleted.gone

theorem Transfers.congr (transfers : Transfers s g f) (draft : f'.draft = f.draft)
    (source : f'.source = f.source) : Transfers s g f' where
  draft := draft ▸ transfers.draft
  undrafted := draft ▸ transfers.undrafted
  source := source ▸ transfers.source
  unsourced := source ▸ transfers.unsourced

namespace Depicts

variable (depicts : Depicts mode s g f)

include depicts

theorem opens {request : OpenRequest} {opened : OpenedFile} {w₁ : World} {g₁ : Ledger}
    (evolves : Evolves mode (Opens s.world request) s.world g w₁ g₁)
    (result : Opened mode request s.world g opened w₁ g₁ name file)
    (files : s'.files = ⟨request.filename, request.options, opened.file⟩ :: s.files)
    (after : Good mode s' g₁) (transfers : Transfers s' g₁ f) :
    ∃ f', f.Step (.openFile request) (.ok (.opened opened.access)) f' ∧
      Depicts mode s' g₁ f' := by
  have loaded := depicts.good.active_loaded result.ready.active
  have healthy := result.ready.healthy
  have free := depicts.transfers.ready depicts.good result.ready
  have named : ∀ requested, request.filename = some requested → requested = name := by
    intro requested same
    have chosen := result.named
    rw [same] at chosen
    exact Option.some.inj chosen
  have views (f' : Files) (same : f'.opened = f.opened) :
      (f'.opening name request.options).opened = s'.files.map VfsFile.view := by
    unfold Files.opening
    rw [files, List.map_cons, ← depicts.opened, same]
    unfold VfsFile.view VfsFile.opened
    rw [result.named, result.readOnly]
    rfl
  rw [result.access]
  rcases result.existing with ⟨member, -, rfl⟩ | ⟨create, w₀, consulted, created⟩
  · obtain ⟨temporary, durable, data, present⟩ := depicts.present loaded healthy member
    have requested : request.filename = some name := by
      cases asked : request.filename with
      | none => exact absurd member (result.anonymous asked)
      | some requested => rw [named requested asked]
    exact ⟨f.opening name request.options, .opened request name temporary durable data free
      requested (result.shared member) present, after, depicts.entry, views f rfl,
      transfers.congr rfl rfl⟩
  · have unmapped : name ∉ s.world.mapFilenameToFile := by
      rw [← consulted.names]
      exact created.fresh
    refine ⟨_, .created request name free create named (depicts.absent loaded healthy unmapped),
      after, ?_, views _ rfl, transfers.congr rfl rfl⟩
    change Function.update f.entry name _ = _
    rw [depicts.entry]
    funext other
    by_cases same : other = name
    · subst same
      rw [Function.update_self, created.entry]
    · rw [Function.update_of_ne same]
      by_cases mapped : other ∈ s.world.mapFilenameToFile
      · exact (evolves.entries other fun opens => opens.vacant mapped).symm
      · -- The request may have chosen the name itself, so the reach says nothing here.
        obtain ⟨rest, file', content, -, -, inserted, -⟩ := created.slot
        have unmapped' : other ∉ w₁.mapFilenameToFile := by
          rw [inserted, AList.mem_insert, consulted.names]
          exact fun either => either.elim same mapped
        have loaded₁ : g₁.loaded = true := evolves.frame.loaded.trans loaded
        rw [depicts.good.rep.absent_of_unmapped loaded healthy mapped,
          evolves.rep.absent_of_unmapped loaded₁ created.healthy unmapped']

theorem misses {request : OpenRequest} {error : Failure} (ready : s.world.Ready)
    (evolves : Evolves mode (Opens s.world request) s.world g w' g')
    (result : NotCreated s.world g w' g') (files : s'.files = s.files)
    (after : Good mode s' g') (transfers : Transfers s' g' f) :
    ∃ f', f.Step (.openFile request) (.err error) f' ∧ Depicts mode s' g' f' := by
  have views : f.opened = s'.files.map VfsFile.view := by
    rw [files]
    exact depicts.opened
  obtain ⟨name, others, left⟩ := result.left
  by_cases same : g'.entry name = g.entry name
  · refine ⟨f, .refused _ error trivial, after, ?_, views, transfers⟩
    rw [depicts.entry]
    funext other
    by_cases here : other = name
    · rw [here, same]
    · exact (others other here).symm
  · have reached : Opens s.world request name := by
      by_contra outside
      exact same (evolves.entries name outside)
    have absent := depicts.absent (depicts.good.active_loaded ready.active) ready.healthy
      reached.vacant
    have free := depicts.transfers.ready depicts.good ready
    refine ⟨f.set name (.uncertain []), .lost request error name free reached.create
      reached.requested absent, after, ?_, views,
      transfers.congr rfl rfl⟩
    change Function.update f.entry name _ = _
    rw [depicts.entry]
    funext other
    by_cases here : other = name
    · subst here
      rw [Function.update_self]
      exact (left.resolve_left same).symm
    · rw [Function.update_of_ne here]
      exact (others other here).symm

theorem closes {i : Nat} {file : VfsFile} {w₁ : World} (there : s.files[i]? = some file)
    (named : file.opened = some name)
    (flushed : Flushed mode s.world g name file.handle.file w₁)
    (evolves : Evolves mode (Only name) w₁ g s'.world g')
    (result : Closed name file.options w₁ g s'.world g' ∨
      (file.options.deleteOnClose = true ∧ DeleteFailed mode name w₁ g s'.world g'))
    (done : outcome = .ok .done → Closed name file.options w₁ g s'.world g')
    (answered : outcome = .ok .done ∨ ∃ error, outcome = .err error)
    (files : s'.files = s.files.eraseIdx i) (after : Good mode s' g')
    (transfers : Transfers s' g' f) :
    ∃ f', f.Step (.closeFile i) outcome f' ∧ Depicts mode s' g' f' := by
  have handle := depicts.handle there named
  have views : (f.closing i).opened = s'.files.map VfsFile.view := by
    rw [files]
    exact depicts.closing i
  -- A file is deleted with the pool ready, and nobody has it open any more.
  have ready_free (ready : w₁.Ready) : f.Free := by
    have settings := flushed.evolves.frame.settings
    exact depicts.transfers.ready depicts.good ⟨settings.state.symm.trans ready.active,
      settings.busy.symm.trans ready.free, flushed.still.suspect.symm.trans ready.healthy⟩
  have dropping (deletes : file.options.deleteOnClose = true) {entry : Entry}
      (deleted : (f.entry name).Deletes (Succeeded outcome) entry)
      (moved : g'.entry = Function.update g.entry name entry)
      (unopened : entry ≠ f.entry name → f.Free ∧ (f.closing i).Unopened name) :
      ∃ f', f.Step (.closeFile i) outcome f' ∧ Depicts mode s' g' f' := by
    refine ⟨(f.closing i).set name entry,
      .dropped i outcome _ entry handle deletes deleted unopened, after, ?_, views,
      transfers.congr rfl rfl⟩
    change Function.update f.entry name entry = g'.entry
    rw [moved, depicts.entry]
  have gone (deletes : file.options.deleteOnClose = true) (deleted : Deleted name w₁ s'.world g') :
      ∃ f', f.Step (.closeFile i) outcome f' ∧ Depicts mode s' g' f' :=
    dropping deletes (.gone _) (evolves.entry_eq deleted.absent) fun _ =>
      ⟨ready_free deleted.ready, deleted.unopened after views⟩
  have kept (keeps : file.options.deleteOnClose = false) (same : g' = g) :
      ∃ f', f.Step (.closeFile i) outcome f' ∧ Depicts mode s' g' f' := by
    subst same
    exact ⟨f.closing i, .closed i outcome _ handle keeps, after, depicts.entry, views,
      transfers.congr rfl rfl⟩
  rcases result with (⟨keeps, -, same⟩ | ⟨deletes, deleted⟩) | ⟨deletes, failed⟩
  · exact kept keeps same
  · exact gone deletes deleted
  · rcases answered with rfl | ⟨error, rfl⟩
    · rcases done rfl with ⟨keeps, -, same⟩ | ⟨-, deleted⟩
      · exact kept keeps same
      · exact gone deletes deleted
    · obtain ⟨entry, deleted, moved, unopened⟩ := failed.depicted after views
      rw [← depicts.entry] at deleted unopened
      refine dropping deletes deleted moved fun changed => ?_
      obtain ⟨ready, unopened⟩ := unopened changed
      exact ⟨ready_free ready, unopened⟩

theorem drafting {target : SqliteVfs.ImportTarget World OpfsSAHError}
    (there : s.operations = [.importing target]) :
    ∃ name data file, f.draft = some (name, data) ∧ f.source = none ∧
      target = importTarget file name ∧ Importing s.world g file name data := by
  have member : .importing target ∈ s.operations := by
    rw [there]
    exact List.mem_singleton_self _
  cases drafted : f.draft with
  | none => exact absurd member (depicts.transfers.undrafted drafted target)
  | some draft =>
      obtain ⟨file, alone, importing⟩ := depicts.transfers.draft draft.1 draft.2 drafted
      rw [there] at alone
      cases alone
      refine ⟨draft.1, draft.2, file, rfl, ?_, rfl, importing⟩
      cases sourced : f.source with
      | none => rfl
      | some source =>
          obtain ⟨file', alone', -⟩ := depicts.transfers.source source.1 source.2 sourced
          rw [there] at alone'
          cases alone'

theorem drafts {size : Nat} {target : SqliteVfs.ImportTarget World OpfsSAHError}
    (created : ImportCreated mode s.world file name target w')
    (after : Good mode { s with world := w', operations := [.importing target] }
      (g.stage file [])) :
    ∃ f', f.Step (.createImport name size) (.ok .pending) f' ∧
      Depicts mode { s with world := w', operations := [.importing target] }
        (g.stage file []) f' := by
  have loaded := depicts.good.active_loaded created.ready.active
  have free := depicts.transfers.ready depicts.good created.ready
  have absent {name : String} (unmapped : name ∉ s.world.mapFilenameToFile) :=
    depicts.absent loaded created.ready.healthy unmapped
  have importing := (created.importing depicts.good.rep).2
  refine ⟨{ f with draft := some (name, []) }, .drafted name size free
    ⟨absent created.vacant.1, fun suffix member => absent (created.vacant.2 suffix member)⟩,
    after, depicts.entry, depicts.opened, ?_⟩
  constructor
  · intro name' data' there
    cases there
    exact ⟨file, by rw [created.target_eq], importing⟩
  · intro there
    cases there
  · intro name' data' there
    rw [free.2] at there
    cases there
  · intro _ source member
    simp at member

theorem fills {offset : Nat} {bytes data' : List UInt8} {target : SqliteVfs.ImportTarget World
      OpfsSAHError} {filename : String}
    (there : s.operations = [.importing target])
    (importing : Importing s.world g file filename data)
    (found : s.world.directory.lookup file = some content)
    (filled : Filled content offset bytes content')
    (whole : outcome = .ok .done → InRange offset bytes.length ∧
      content' = content.write (offset + headerOffsetData) bytes)
    (altered : s.world.Altered file content' w')
    (answered : outcome = .ok .done ∨ ∃ error, outcome = .err error)
    (after : Good mode { s with world := w' } (g.stage file data')) :
    ∃ f', f.Step (.importWrite 0 offset bytes) outcome f' ∧
      Depicts mode { s with world := w' } (g.stage file data') f' := by
  obtain ⟨name, data₀, file₀, drafted, unsourced, rfl, importing₀⟩ := depicts.drafting there
  cases importing.staging.symm.trans importing₀.staging
  obtain ⟨-, content₀, found₀, staged⟩ := depicts.good.rep.staged file data importing.staging
  cases found.symm.trans found₀
  have fits : Fits content.contents := staged.sees.contents.1
  obtain ⟨-, content₁, found₁, staged'⟩ := after.rep.staged file data' rfl
  cases altered.here.symm.trans found₁
  have bytes_eq : data' = dataOf content'.contents := staged'.data_eq.symm
  have fills : Fills data offset bytes outcome data' := by
    rcases answered with rfl | ⟨error, rfl⟩
    · rw [bytes_eq, (whole rfl).2, SlotFile.dataOf_write fits, staged.data_eq]
      exact .whole
    · rcases filled with rfl | ⟨-, count, rfl⟩
      · rw [bytes_eq, staged.data_eq]
        exact .nothing error
      · rw [bytes_eq, SlotFile.dataOf_write fits, staged.data_eq]
        by_cases some : bytes.take count = []
        · rw [if_pos some]
          exact .nothing error
        · rw [if_neg some]
          exact .part error count some
  refine ⟨{ f with draft := some (name, data') },
    .filled offset bytes outcome name data data' drafted fills, after, depicts.entry,
    depicts.opened, ?_⟩
  constructor
  · intro name' data'' same
    cases same
    exact ⟨file, there, altered.settings.state.trans importing₀.active,
      altered.still.suspect.trans importing₀.healthy, rfl, importing₀.vacant.still altered.still⟩
  · intro same
    cases same
  · intro name' data'' same
    rw [unsourced] at same
    cases same
  · intro _ source member
    rw [there] at member
    simp at member

theorem discards {i : Nat} {target : SqliteVfs.ImportTarget World OpfsSAHError}
    (there : s.operations = [.importing target]) (ends : event.EndsImport i) (first : i = 0)
    (failed : event = .commit i → ∃ error, outcome = .err error)
    (after : Good mode { s with world := w', operations := [] } g.unstage) :
    ∃ f', f.Step event outcome f' ∧
      Depicts mode { s with world := w', operations := [] } g.unstage f' := by
  obtain ⟨name, data, file, drafted, unsourced, -⟩ := depicts.drafting there
  subst first
  refine ⟨{ f with draft := none }, .discarded event outcome ends (by simp [drafted]) failed, after,
    depicts.entry, depicts.opened, ?_⟩
  apply Transfers.of_futures
  · intro operation member
    cases member
  · exact ⟨rfl, unsourced⟩

theorem sources {source : ExportSource World OpfsSAHError}
    (opened : ExportOpened mode s.world g file name source w')
    (after : Good mode { s with world := w', operations := [.exporting source] } g) :
    ∃ f', f.Step (.openExport name) (.ok .pending) f' ∧
      Depicts mode { s with world := w', operations := [.exporting source] } g f' := by
  have loaded := depicts.good.active_loaded opened.ready.active
  have healthy := opened.ready.healthy
  have free := depicts.transfers.ready depicts.good opened.ready
  have rep := depicts.good.rep
  obtain ⟨temporary, durable, data, present⟩ := rep.present_of_mapped loaded healthy opened.mapped
  obtain ⟨content, found, same⟩ := opened.source_eq
  obtain ⟨content', found', holds⟩ := rep.content_of_mapped opened.mapped
  cases found.symm.trans found'
  rw [present] at holds
  have data_eq := Named.data_eq holds
  have unopened : f.Unopened name := by
    apply depicts.good.unopened depicts.opened
    intro file' mapped
    cases opened.mapped.symm.trans mapped
    exact (depicts.good.counts file).symm.trans opened.closed
  have alone : ∀ suffix ∈ sidecars, (f.entry (name ++ suffix)).data = [] := by
    intro suffix member
    by_cases mapped : name ++ suffix ∈ s.world.mapFilenameToFile
    · obtain ⟨sidecar, there⟩ := Option.isSome_iff_exists.mp (AList.lookup_isSome.mpr mapped)
      obtain ⟨temporary', durable', data', present'⟩ := rep.present_of_mapped loaded healthy there
      obtain ⟨other, stored, holds'⟩ := rep.content_of_mapped there
      rw [present'] at holds'
      rw [depicts.entry, present', Entry.data, ← Named.data_eq holds']
      exact opened.sidecars suffix member sidecar other there stored
    · rw [depicts.absent loaded healthy mapped, Entry.data]
  refine ⟨{ f with source := some (name, data) }, .sourced name temporary durable data free ?_
    unopened alone, after, depicts.entry, depicts.opened, ?_⟩
  · rw [depicts.entry]
    exact present
  · constructor
    · intro name' data' there
      rw [free.1] at there
      cases there
    · intro _ target member
      simp at member
    · intro name' data' there
      cases there
      refine ⟨file, ?_, (opened.exporting rep).2, temporary, durable, present⟩
      rw [same, data_eq]
    · intro there
      cases there

theorem releases {source : ExportSource World OpfsSAHError}
    (there : s.operations = [.exporting source])
    (after : Good mode { s with world := w', operations := [] } g) :
    ∃ f', f.Step (.dropExport 0) (.ok .done) f' ∧
      Depicts mode { s with world := w', operations := [] } g f' := by
  have sourced : f.source ≠ none := by
    intro unsourced
    refine depicts.transfers.unsourced unsourced source ?_
    rw [there]
    exact List.mem_singleton_self _
  have undrafted : f.draft = none := by
    cases drafted : f.draft with
    | none => rfl
    | some draft =>
        obtain ⟨file, alone, -⟩ := depicts.transfers.draft draft.1 draft.2 drafted
        rw [there] at alone
        cases alone
  refine ⟨{ f with source := none }, .released sourced, after, depicts.entry, depicts.opened, ?_⟩
  apply Transfers.of_futures
  · intro operation member
    cases member
  · exact ⟨undrafted, rfl⟩

theorem inactive (inactive : s.world.state ≠ .active) : f.opened = [] ∧ f.Free := by
  constructor
  · exact depicts.opened_nil (depicts.good.files_of_inactive inactive)
  rcases depicts.good.futures_or with futures | ⟨operation, alone, -, transfer⟩
  · exact depicts.transfers.free futures
  · have first : s.operations[0]? = some operation := by
      rw [alone]
      rfl
    obtain ⟨-, -, duty⟩ := depicts.good.operation first
    cases operation with
    | importing target =>
        obtain ⟨file, filename, data, -, importing⟩ := duty
        exact absurd importing.active inactive
    | exporting source =>
        obtain ⟨file, name, size, -, exporting⟩ := duty
        exact absurd exporting.active inactive
    | _ => exact absurd trivial transfer

theorem unused (closed : s.world.AllClosed) (free : s.world.busy = false) :
    f.opened = [] ∧ f.Free :=
  ⟨depicts.opened_nil (depicts.good.shut_of_closed closed),
    depicts.transfers.idle (depicts.good.free_alone free)⟩

theorem undrafted {i : Nat} (unused : ∀ target, s.operations[i]? ≠ some (.importing target))
    (first : i = 0) : f.draft = none := by
  cases drafted : f.draft with
  | none => rfl
  | some draft =>
      obtain ⟨file, alone, -⟩ := depicts.transfers.draft draft.1 draft.2 drafted
      rw [alone, first] at unused
      exact absurd rfl (unused _)

theorem unsourced {i : Nat} (unused : ∀ source, s.operations[i]? ≠ some (.exporting source))
    (first : i = 0) : f.source = none := by
  cases sourced : f.source with
  | none => rfl
  | some source =>
      obtain ⟨file, alone, -⟩ := depicts.transfers.source source.1 source.2 sourced
      rw [alone, first] at unused
      exact absurd rfl (unused _)

theorem idle (nothing : s.Idle event) : f.Idle event := by
  have unopened {i : Nat} (absent : s.files[i]? = none) : f.opened[i]? = none := by
    rw [depicts.opened, List.getElem?_map, absent, Option.map_none]
  cases event with
  | call i made => exact unopened nothing
  | closeFile i => exact unopened nothing
  | importWrite i offset bytes => exact depicts.undrafted nothing
  | commit i => exact depicts.undrafted nothing
  | abort i => exact depicts.undrafted nothing
  | abortWithError i error => exact depicts.undrafted nothing
  | dropImport i => exact depicts.undrafted nothing
  | exportRead i offset buf => exact depicts.unsourced nothing
  | dropExport i => exact depicts.unsourced nothing
  | poll i => trivial
  | cancel i => trivial
  | resume => trivial
  | pause =>
      apply depicts.inactive
      rw [nothing.1]
      simp
  | uninstall =>
      have removed : s.world.state = .removed := nothing
      apply depicts.inactive
      rw [removed]
      simp
  | _ => exact nothing.elim

theorem same (after : Good mode s' g') (entries : g'.entry = g.entry) (files : s'.files = s.files)
    (transfers : Transfers s' g' f) : Depicts mode s' g' f where
  good := after
  entry := depicts.entry.trans entries.symm
  opened := by
    rw [files]
    exact depicts.opened
  transfers := transfers

theorem all (after : Good mode s' g') (files : s'.files = s.files)
    (transfers : Transfers s' g' f) : Depicts mode s' g' { f with entry := g'.entry } where
  good := after
  entry := rfl
  opened := by
    rw [files]
    exact depicts.opened
  transfers := transfers.congr rfl rfl

end Depicts

theorem Adding.manages (adding : Adding s event w) : event.Manages := by
  cases adding with
  | add n ready => trivial
  | ensure min ready => trivial
  | poll i growth there => trivial

theorem Adding.foreign (adding : Adding s event w) : ¬ event.OnTransfer := by
  cases adding with
  | add n ready => exact id
  | ensure min ready => exact id
  | poll i growth there => exact id

theorem Reducing.manages {count left : Nat} (reducing : Reducing s event w count left) :
    event.Manages := by
  cases reducing with
  | reduce n ready => trivial
  | poll i shrink there => trivial

theorem Reducing.foreign {count left : Nat} (reducing : Reducing s event w count left) :
    ¬ event.OnTransfer := by
  cases reducing with
  | reduce n ready => exact id
  | poll i shrink there => exact id

theorem Stopping.foreign (stopping : Stopping s event w) : ¬ event.OnTransfer := by
  cases stopping with
  | adding event w adding => exact adding.foreign
  | reducing i shrink there => exact id
  | dropAdding i growth there => exact id
  | dropReducing i shrink there => exact id

theorem Stopping.refusable (stopping : Stopping s event w) : event.Refusable := by
  cases stopping with
  | adding event w adding =>
      cases adding with
      | add n ready => trivial
      | ensure min ready => trivial
      | poll i growth there => trivial
  | reducing i shrink there => trivial
  | dropAdding i growth there => trivial
  | dropReducing i shrink there => trivial

theorem Event.Guarded.refusable (guarded : event.Guarded) : event.Refusable := by
  cases event <;> trivial

theorem Event.Guarded.foreign (guarded : event.Guarded) : ¬ event.OnTransfer := by
  cases event <;> first | exact id | exact guarded.elim

theorem Event.Deletes.foreign (deletes : event.Deletes name) : ¬ event.OnTransfer := by
  rcases deletes with rfl | rfl <;> exact id

/-- Each call that is not about bytes, answers no query and publishes no import. -/
theorem Turn.depicted (turn : Turn mode s g event outcome s' g') (depicts : Depicts mode s g f)
    (classified : mode ≠ .lax) (unasked : ¬ event.Queries)
    (uncalled : ∀ i made, event ≠ .call i made) (uncommitted : ∀ i, event ≠ .commit i) :
    ∃ f', f.Step event outcome f' ∧ Depicts mode s' g' f' := by
  have good := depicts.good
  have after := turn.good good
  have carried := turn.transfers good depicts.transfers
  have nothing {operations : List Operation} (empty : operations = []) :
      ∀ operation ∈ operations, operation.IsFuture := by
    intro operation member
    rw [empty] at member
    cases member
  cases turn with
  | idle _ nothing =>
      exact ⟨f, .idle event (depicts.idle nothing), depicts⟩
  | looked _ _ w' query => exact absurd query unasked
  | refused _ error w' guarded looked rep =>
      exact ⟨f, .refused event error guarded.refusable, depicts.same after rfl rfl
        (carried guarded.foreign id)⟩
  | opened request opened w₁ _ name file evolves result =>
      exact depicts.opens evolves result rfl after (carried id id)
  | unopened request error w' _ ready evolves result =>
      exact depicts.misses ready evolves result rfl after (carried id id)
  | called i made => exact absurd rfl (uncalled i made)
  | closed i file name _ w₁ w' _ there named mapped flushed evolves result done answered =>
      exact depicts.closes there named flushed evolves result done answered rfl after
        (carried id id)
  | deleted _ name answer w' _ deletes evolves result told =>
      have loaded := good.active_loaded result.ready.active
      have opened : f.opened = s.files.map VfsFile.view := depicts.opened
      refine ⟨f.set name .absent, .deleted event _ name .absent deletes (.gone _) (fun _ =>
        ⟨depicts.transfers.ready good result.ready, result.unopened after opened⟩) ?_, after, ?_,
        opened, (carried deletes.foreign id).congr rfl rfl⟩
      · intro removed same
        rw [told removed (Outcome.ok.inj same), depicts.mapped_iff loaded result.ready.healthy]
      · change Function.update f.entry name .absent = _
        rw [depicts.entry, evolves.entry_eq result.absent]
  | undeleted _ name error w' _ deletes evolves result =>
      obtain ⟨entry, deleted, moved, unopened⟩ := result.depicted after depicts.opened
      rw [← depicts.entry] at deleted unopened
      refine ⟨f.set name entry, .deleted event _ name entry deletes deleted (fun changed => ?_)
        (by simp), after, ?_, depicts.opened, (carried deletes.foreign id).congr rfl rfl⟩
      · obtain ⟨ready, unopened⟩ := unopened changed
        exact ⟨depicts.transfers.ready good ready, unopened⟩
      · change Function.update f.entry name entry = _
        rw [depicts.entry, moved]
  | importing filename size file target w' created => exact depicts.drafts created after
  | filled i offset bytes file filename data content content' data' _ w' there importing
      found filled whole altered evolves answered first =>
      subst first
      exact depicts.fills there importing found filled whole altered answered after
  | committed i => exact absurd rfl (uncommitted i)
  | unimported _ i _ file filename data w' _ ends there importing evolves result failed
      aborted first =>
      obtain rfl := result.2 uncommitted
      exact depicts.discards there ends first failed after
  | exporting name file source w' opened => exact depicts.sources opened after
  | exported i file name size there exporting first =>
      subst first
      exact depicts.releases there after
  | growing _ w growth w' adding resizable reached =>
      refine ⟨f, .managed event _ adding.manages (.inl rfl), depicts.same after rfl rfl
        (carried adding.foreign fun _ operation member => ?_)⟩
      rw [List.mem_singleton.mp member]
      trivial
  | grown _ w count w' adding resizable reached =>
      exact ⟨f, .managed event _ adding.manages (.inr ⟨count, rfl⟩), depicts.same after rfl rfl
        (carried adding.foreign fun _ => nothing rfl)⟩
  | shrinking _ w count left shrink w' reducing resizable reached =>
      refine ⟨f, .managed event _ reducing.manages (.inl rfl), depicts.same after rfl rfl
        (carried reducing.foreign fun _ operation member => ?_)⟩
      rw [List.mem_singleton.mp member]
      trivial
  | shrunk _ w count left removed w' reducing resizable reached =>
      exact ⟨f, .managed event _ reducing.manages (.inr ⟨removed, rfl⟩), depicts.same after rfl rfl
        (carried reducing.foreign fun _ => nothing rfl)⟩
  | givenUp _ w _ w' stopping resizable result ended answered =>
      have related : Depicts mode { s with world := w', operations := [] } g f :=
        depicts.same after rfl rfl (carried stopping.foreign fun _ => nothing rfl)
      rcases answered with ⟨rfl, i, rfl⟩ | ⟨error, rfl⟩
      · exact ⟨f, .idle _ trivial, related⟩
      · exact ⟨f, .refused event error stopping.refusable, related⟩
  | resuming vfs suspended free registered =>
      refine ⟨f, .managed _ _ trivial (.inl rfl), depicts.same after rfl rfl
        (carried id fun _ operation member => ?_)⟩
      rw [List.mem_singleton.mp member]
      trivial
  | pending i resuming resuming' w' there suspended consulted resumes =>
      refine ⟨f, .managed _ _ trivial (.inl rfl), depicts.same after rfl rfl
        (carried id fun _ operation member => ?_)⟩
      rw [List.mem_singleton.mp member]
      trivial
  | resumed i resuming w' _ there suspended result =>
      have paused : s.world.state ≠ .active := by
        rw [suspended.paused]
        simp
      obtain ⟨unopened, free⟩ := depicts.inactive paused
      obtain ⟨w₁, vfs, env, loaded, -⟩ := result.loading
      refine ⟨{ f with entry := _ }, .reread i _ unopened free fun name => ?_,
        depicts.all after rfl (carried id fun _ => nothing rfl)⟩
      rw [depicts.entry]
      exact loaded.reread (suspended.rep.disk suspended.known) classified name
  | unresumed _ i _ resuming w' _ stops there suspended result ended failed =>
      have paused : s.world.state ≠ .active := by
        rw [suspended.paused]
        simp
      obtain ⟨unopened, free⟩ := depicts.inactive paused
      have foreign : ¬ event.OnTransfer := by
        rcases stops with rfl | rfl <;> exact id
      refine ⟨{ f with entry := _ }, .halfRead event i outcome _ stops failed unopened free
        fun name => ?_, depicts.all after rfl (carried foreign fun _ => nothing rfl)⟩
      rw [depicts.entry]
      exact result.halfRead classified name
  | paused w' result rep =>
      obtain ⟨unopened, free⟩ := depicts.unused result.closed result.free
      exact ⟨f, .shelved _ (.inl rfl) unopened free, depicts.same after rfl rfl (carried id id)⟩
  | cleared w' _ evolves clearable result =>
      obtain ⟨unopened, free⟩ := depicts.unused clearable.closed clearable.free
      have related := depicts.all after rfl (carried id id)
      rw [funext result.entries] at related
      exact ⟨_, .cleared unopened free, related⟩
  | uncleared error w' _ evolves clearable suspect faded =>
      obtain ⟨unopened, free⟩ := depicts.unused clearable.closed clearable.free
      refine ⟨{ f with entry := _ }, .faded error _ unopened free fun name => ?_,
        depicts.all after rfl (carried id id)⟩
      rw [depicts.entry]
      exact faded name
  | uninstalled w' result rep =>
      obtain ⟨unopened, free⟩ := depicts.unused result.closed result.free
      exact ⟨f, .shelved _ (.inr rfl) unopened free, depicts.same after rfl rfl (carried id id)⟩

end Sahpool

end SqliteVfs
