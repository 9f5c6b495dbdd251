import SqliteVfs.Sahpool.Coherence

/-!
# What is written and what is read

`open_file` stores the flags it is given in the header of a new slot, and the reader of the
header asks more of them than `from_raw_flags` does: one kind of file, and DELETEONCLOSE for a
temporary one.  A pool whose new files have such flags can be loaded again; one other file is
enough to have its directory rejected.
-/

set_option autoImplicit false

namespace SqliteVfs

namespace Sahpool

variable {mode : Mode} {s s' : System} {w w' : World} {g g' : Ledger} {file name : String}
  {content : SlotFile} {flags : UInt32}

/-! ## The header of a new file -/

/-- What `associated_filename` makes of a slot when no call fails. -/
def readBack (file : String) (content : SlotFile) : Outcome OpfsSAHError (Option String) :=
  ((SyncAccessFile.associatedFilename file).run ⟨content, []⟩).1

theorem readBack_ok {named : Option String} :
    readBack file content = .ok named ↔ stored content.contents = .ok named := by
  unfold readBack
  rw [associatedFilename_quiet]
  rcases stored content.contents with reason | found <;> simp

/-- The header that makes a fresh slot the file `name`. -/
theorem Fresh.stored_signed (fresh : Fresh content) (storable : StorableName name)
    (flags : UInt32) : stored (signed (headerOf name flags) content).contents =
      parseHeader (headerOf name flags) := by
  obtain ⟨contents, rfl, length, -⟩ := fresh
  have header := storable.length_headerOf flags
  have corpus := corpus_le_offsetData
  have long : (SparseVector.writeAt contents 0 (headerOf name flags)).length =
    headerOffsetData := by
    rw [SparseVector.length_writeAt, header, length]
    omega
  have fits : Fits (SparseVector.writeAt contents 0 (headerOf name flags)) :=
    ⟨long.ge, long.le.trans offsetData_le_maxSafe⟩
  unfold signed SlotFile.contents
  rw [Journal.contents_settled, Journal.contents_settled, fits.stored_eq, take_whole_header header]

/-- The slot durably holds a header that is read as the flags of its file say. -/
def System.Persists (s : System) (file name : String) (flags : UInt32) : Prop :=
  ∃ contents, s.world.directory.lookup file = some (Journal.settled contents) ∧
    readBack file (Journal.settled contents) = .ok (if DeleteOnClose flags then none else some name)

/-- The reader agrees with the writer on these flags, and on no others. -/
theorem persists_iff (fresh : Fresh content) (storable : StorableName name)
    (found : s.world.directory.lookup file = some (signed (headerOf name flags) content)) :
    s.Persists file name flags ↔ Classified flags := by
  have read := fresh.stored_signed storable flags
  constructor
  · rintro ⟨contents, here, back⟩
    rw [← Option.some.inj (found.symm.trans here)] at back
    have parsed := read.symm.trans (readBack_ok.mp back)
    rw [parseHeader_of_flags storable] at parsed
    have kinds : OneKind flags := by
      by_contra kinds
      rw [if_pos kinds] at parsed
      cases parsed
    refine ⟨kinds, fun temporary => ?_⟩
    by_contra kept
    rw [if_neg (not_not.mpr kinds), if_neg kept, if_pos temporary] at parsed
    cases parsed
  · intro classified
    refine ⟨_, found, readBack_ok.mpr (read.trans ?_)⟩
    exact parseHeader_classified storable classified

theorem Turn.created {request : OpenRequest} {access : OpenAccess}
    (turn : Turn mode s g (.openFile request) (.ok (.opened access)) s' g')
    (absent : name ∉ s.world.mapFilenameToFile)
    (mapped : s'.world.mapFilenameToFile.lookup name = some file) :
    ∃ content, Fresh content ∧ StorableName name ∧ s'.world.directory.lookup file =
      some (signed (headerOf name request.options.rawFlags) content) := by
  cases turn with
  | looked _ _ w' query => exact query.elim
  | opened _ opened w₁ g₁ other slot evolves result =>
      have listed : w₁.mapFilenameToFile.lookup name = some file := mapped
      rcases result.existing with ⟨-, same, -⟩ | ⟨-, w₀, consulted, created⟩
      · rw [same] at listed
        exact absurd (AList.lookup_isSome.mp (by rw [listed]; rfl)) absent
      · obtain ⟨rest, free, content, -, -, inserted, fresh, found⟩ := created.slot
        have here : name = other := by
          by_contra different
          rw [inserted, AList.lookup_insert_ne different, consulted.names] at listed
          exact absurd (AList.lookup_isSome.mp (by rw [listed]; rfl)) absent
        subst here
        rw [inserted, AList.lookup_insert] at listed
        obtain rfl := Option.some.inj listed
        exact ⟨content, fresh, created.storable, found⟩
  | deleted _ name answer w' _ deletes => simp [Event.Deletes] at deletes
  | unimported _ i _ file filename data w' _ ends => simp [Event.EndsImport] at ends
  | givenUp _ w _ w' stopping =>
      cases stopping with
      | adding event w adding => cases adding
  | unresumed _ i _ resuming w' _ stops => simp at stops

/-! ## Runs -/

/-- A step in which a file is created with flags that the reader accepts, if one is. -/
def System.Proper (s : System) (moment : Moment) (s' : System) : Prop :=
  s.Step moment s' ∧ ∀ request, moment.event = .openFile request →
    Introduces s.world request → Classified request.options.rawFlags

def System.Orderly (s : System) : Prop :=
  ∃ config directory name w moments, InstalledFrom (fun _ => True) config directory name w ∧
    Runs System.Proper ⟨w, [], []⟩ moments s

theorem System.Proper.admitted {moment : Moment} (proper : s.Proper moment s') :
    s.Admits .loose moment :=
  ⟨fun _ reply _ => reply.allowed_torn (.inl rfl),
    fun request same introduces _ => proper.2 request same introduces⟩

theorem System.Orderly.good (orderly : s.Orderly) : ∃ g, Good .loose s g := by
  obtain ⟨config, directory, name, w, moments, installed, runs⟩ := orderly
  refine runs.invariant (P := fun s => ∃ g, Good .loose s g) (A := fun _ => True) ?_ ?_
    fun _ _ => trivial
  · rintro s moment s' ⟨g, good⟩ - proper
    obtain ⟨outcome, g', -, -, good'⟩ := good.advance proper.admitted proper.1
    exact ⟨g', good'⟩
  · have startable : Startable .loose directory := fun strict => nomatch strict
    obtain ⟨g, installed⟩ := installed.installed
      (fun _ _ reply _ => reply.allowed_torn (.inl rfl)) startable
    exact ⟨g, installed.good⟩

inductive System.Succeeds (s : System) : Moment → System → Prop
  | opened (around request access s') (run : s.run ⟨around, .openFile request⟩ =
      (.ok (.opened access), s')) : s.Succeeds ⟨around, .openFile request⟩ s'
  | closed (around i s') (run : s.run ⟨around, .closeFile i⟩ = (.ok .done, s')) :
    s.Succeeds ⟨around, .closeFile i⟩ s'

/-- The pool is active, and no failure has put its names in doubt. -/
def System.Sane (s : System) : Prop := s.world.state = .active ∧ s.world.needsRecovery = false

theorem Turn.opened_sane {request : OpenRequest} {access : OpenAccess}
    (turn : Turn mode s g (.openFile request) (.ok (.opened access)) s' g') (sane : s.Sane) :
    s'.Sane := by
  cases turn with
  | looked _ _ w' query => exact query.elim
  | opened _ opened w₁ g₁ other slot evolves result =>
      exact ⟨evolves.frame.settings.state.trans sane.1, result.healthy⟩
  | deleted _ name answer w' _ deletes => simp [Event.Deletes] at deletes
  | unimported _ i _ file filename data w' _ ends => simp [Event.EndsImport] at ends
  | givenUp _ w _ w' stopping =>
      cases stopping with
      | adding event w adding => cases adding
  | unresumed _ i _ resuming w' _ stops => simp at stops

theorem Turn.closed_sane {i : Nat} (turn : Turn mode s g (.closeFile i) (.ok .done) s' g')
    (sane : s.Sane) : s'.Sane := by
  cases turn with
  | idle => exact sane
  | looked _ _ w' query => exact query.elim
  | closed _ f name _ w₁ w' _ there named mapped flushed evolves result done =>
      have before : w₁.state = .active := flushed.evolves.frame.settings.state.trans sane.1
      rcases done rfl with ⟨-, rfl, -⟩ | ⟨-, deleted⟩
      · exact ⟨before, flushed.still.suspect.trans sane.2⟩
      · exact ⟨evolves.frame.settings.state.trans before, deleted.healthy⟩
  | deleted _ name answer w' _ deletes => simp [Event.Deletes] at deletes
  | unimported _ i _ file filename data w' _ ends => simp [Event.EndsImport] at ends
  | givenUp _ w _ w' stopping =>
      cases stopping with
      | adding event w adding => cases adding
  | unresumed _ i _ resuming w' _ stops => simp at stops

theorem System.Orderly.arises (orderly : s.Orderly) : s.Arises := by
  obtain ⟨config, directory, name, w, moments, installed, runs⟩ := orderly
  exact ⟨config, directory, name, w, moments, installed, runs.mono fun _ _ _ proper => proper.1⟩

theorem System.Orderly.step (orderly : s.Orderly) {moment : Moment}
    (proper : s.Proper moment s') : s'.Orderly := by
  obtain ⟨config, directory, name, w, moments, installed, runs⟩ := orderly
  exact ⟨config, directory, name, w, _, installed, runs.snoc proper⟩

theorem System.Succeeds.sane {moment : Moment} (succeeds : s.Succeeds moment s')
    (arises : s.Arises) (sane : s.Sane) : s'.Sane := by
  obtain ⟨g, good⟩ := arises.good
  cases succeeds with
  | opened around request access _ run =>
      obtain ⟨around', s₂, g', -, turn, rfl⟩ := good.took (Moment.allowed_lax _) run (by simp)
      exact turn.opened_sane sane
  | closed around i _ run =>
      obtain ⟨around', s₂, g', -, turn, rfl⟩ := good.took (Moment.allowed_lax _) run (by simp)
      exact turn.closed_sane sane

/-- The classification of `acquire_access_handles` accepts the headers of a directory when no
call fails. -/
def Accepted (directory : AList fun _ : String => SlotFile) : Prop :=
  ∀ w files, w.directory = directory → w.Unfailing → files.Nodup →
    (∀ file ∈ files, file ∈ directory) →
      ∃ sorted w', (classify false ∅ [] files).run w = (.ok sorted, w')

theorem Good.accepted (good : Good mode s g) (classified : mode ≠ .lax) (sane : s.Sane) :
    Accepted s.world.directory := by
  rintro w files same unfailing distinct there
  have disk := good.rep.healthy_disk classified (good.active_loaded sane.1) sane.2
  rw [← same] at disk there
  have sorts := (classify_ends files unfailing there (Sorted.nil w.directory)).preserving
    (loads_calm.classify false files ∅ []) unfailing
  obtain ⟨sorted, w', run, -⟩ := sorts.returned_of
    (by
      rintro error w' ⟨⟨-, unsorted⟩, -⟩
      exact disk.sorted distinct (unsorted rfl))
    fun _ crashed => crashed.2
  exact ⟨sorted, w', run⟩

/-! ## Both parts -/

structure System.Agrees (s : System) : Prop where
  created : ∀ around request access s' name file,
    s.run ⟨around, .openFile request⟩ = (.ok (.opened access), s') →
    name ∉ s.world.mapFilenameToFile → s'.world.mapFilenameToFile.lookup name = some file →
    (s'.Persists file name request.options.rawFlags ↔ Classified request.options.rawFlags)
  accepted : s.Orderly → s.Sane → ∀ moments s',
    Runs (fun s moment s' => s.Proper moment s' ∧ s.Succeeds moment s') s moments s' →
    Accepted s'.world.directory
  resumes : s.Orderly → s.Sane → ∀ moments s',
    Runs (fun s moment s' => s.Proper moment s' ∧ s.Succeeds moment s') s moments s' →
    s'.Settled → ∀ pausing resuming arounds, pausing.Calm s' → resuming.Calm s' →
    (∀ around ∈ arounds, around.Calm s') →
    2 * s'.world.directory.keys.length + 1 < arounds.length →
    ∃ s'', s'.Reloads pausing resuming arounds s'' ∧ s'.Restored s''

theorem System.Orderly.after {moments : List Moment} (orderly : s.Orderly) (sane : s.Sane)
    (runs : Runs (fun s moment s' => s.Proper moment s' ∧ s.Succeeds moment s') s moments s') :
    s'.Orderly ∧ s'.Sane := by
  refine runs.invariant (P := fun s => s.Orderly ∧ s.Sane) (A := fun _ => True) ?_ ⟨orderly, sane⟩
    fun _ _ => trivial
  rintro s moment s' ⟨orderly, sane⟩ - ⟨proper, succeeds⟩
  exact ⟨orderly.step proper, succeeds.sane orderly.arises sane⟩

theorem System.Arises.persists_iff {around : Surroundings} {request : OpenRequest}
    {access : OpenAccess} (arises : s.Arises)
    (run : s.run ⟨around, .openFile request⟩ = (.ok (.opened access), s'))
    (absent : name ∉ s.world.mapFilenameToFile)
    (mapped : s'.world.mapFilenameToFile.lookup name = some file) :
    s'.Persists file name request.options.rawFlags ↔ Classified request.options.rawFlags := by
  obtain ⟨g, good⟩ := arises.good
  obtain ⟨around', s₂, g', -, turn, rfl⟩ := good.took (Moment.allowed_lax _) run (by simp)
  obtain ⟨content, fresh, storable, found⟩ := turn.created absent mapped
  exact Sahpool.persists_iff fresh storable found

theorem headers_agree (arises : s.Arises) : s.Agrees := by
  refine ⟨fun around request access s' name file run absent mapped =>
      arises.persists_iff run absent mapped,
    fun orderly sane moments s' runs => ?_,
    fun orderly sane moments s' runs settled pausing resuming arounds calm calm' each enough => ?_⟩
  · obtain ⟨orderly', sane'⟩ := orderly.after sane runs
    obtain ⟨g', good'⟩ := orderly'.good
    exact good'.accepted (by simp) sane'
  · obtain ⟨orderly', sane'⟩ := orderly.after sane runs
    obtain ⟨g', good'⟩ := orderly'.good
    exact good'.restores (by simp) settled sane'.2 calm calm' each enough

/-! ### A file without a kind -/

set_option maxRecDepth 20000 in
/-- A file that is opened without a kind, and closed; the pool is then paused and resumed. -/
theorem kindless_run : ∃ s₁ s₂ s₃ s₄ s₅ file,
    System.run ⟨onePool, [], []⟩ ⟨untroubled, .openFile ⟨some "a.db", ⟨0x6⟩⟩⟩ =
      (.ok (.opened .readWrite), s₁) ∧
    s₁.run ⟨untroubled, .closeFile 0⟩ = (.ok .done, s₂) ∧
    s₂.run ⟨untroubled, .pause⟩ = (.ok .done, s₃) ∧
    s₃.run ⟨untroubled, .resume⟩ = (.ok .pending, s₄) ∧
    s₄.polls (List.replicate 4 untroubled) = (.err (.pool (.invalidHeader file
      "missing or conflicting file types")), s₅) ∧
    s₁.world.mapFilenameToFile.lookup "a.db" = some file :=
  ⟨_, _, _, _, _, _, rfl, rfl, rfl, rfl, rfl, rfl⟩

/-- Not every header that is written is read back, and not every directory that successful opens
and closes lead to can be loaded. -/
theorem headers_are_rejected :
    (¬ ∀ (s : System) around name options access (s' : System) file, s.Arises →
      OpenOptions.fromRawFlags options.rawFlags = .ok options →
      s.run ⟨around, .openFile ⟨some name, options⟩⟩ = (.ok (.opened access), s') →
      name ∉ s.world.mapFilenameToFile → s'.world.mapFilenameToFile.lookup name = some file →
      s'.Persists file name options.rawFlags) ∧
    ¬ ∀ (s : System) moments (s₂ s₃ s₄ s₅ : System) arounds file reason, s.Arises → s.Sane →
      Runs System.Succeeds s moments s₂ → s₂.run ⟨untroubled, .pause⟩ = (.ok .done, s₃) →
      s₃.run ⟨untroubled, .resume⟩ = (.ok .pending, s₄) →
      (∀ around ∈ arounds, around = untroubled) →
      s₄.polls arounds ≠ (.err (.pool (.invalidHeader file reason)), s₅) := by
  obtain ⟨s₁, s₂, s₃, s₄, s₅, file, opened, closed, paused, resumed, polled, mapped⟩ := kindless_run
  have arises : System.Arises ⟨onePool, [], []⟩ := onePool_arises .refl
  have absent : "a.db" ∉ onePool.mapFilenameToFile := AList.notMem_empty "a.db"
  constructor
  · intro claimed
    have persists := claimed _ _ _ _ _ _ _ arises rfl opened absent mapped
    have classified := (arises.persists_iff opened absent mapped).mp persists
    exact absurd classified (by decide)
  · intro claimed
    refine claimed _ _ _ _ _ _ (List.replicate 4 untroubled) _ _ arises ⟨rfl, rfl⟩
      (.snoc (.single (.opened _ _ _ _ opened)) (.closed _ _ _ closed)) paused resumed ?_ polled
    exact fun around member => List.eq_of_mem_replicate member

theorem headers_agree_written : ∃ s : System, s.Sane ∧ s.world.getFilenames = ["a.db"] ∧
    s.Agrees := by
  obtain ⟨s, run, settled, healthy, names⟩ := refusedFlush_run
  exact ⟨s, ⟨settled.active, healthy⟩, names, headers_agree (onePool_arises run)⟩

end Sahpool

end SqliteVfs
