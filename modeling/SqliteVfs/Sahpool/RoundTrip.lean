import SqliteVfs.Sahpool.Images

/-!
# Round trips through a pool

A healthy pool with free slots, while no call on it fails, is an archive of images.  An
incoming database takes one of the free slots and leaves every other file as it was, and an
export reads the slot behind its header.
-/

set_option autoImplicit false

namespace SqliteVfs

namespace Sahpool

variable {mode : Mode} {w w' : World} {g g' : Ledger} {file name : String}
  {content content' : SlotFile} {data image : List UInt8} {opened : String → Prop} {room : Nat}
  {images : Images}

theorem storableName_of_valid (valid : validateFilename name = .ok ()) : StorableName name := by
  unfold validateFilename at valid
  split at valid
  · cases valid
  split at valid
  · cases valid
  split at valid
  · cases valid
  rename_i nonempty terminated short
  refine ⟨nonempty, terminated, ?_⟩
  have bounds : maxDbFilenameSize < headerMaxFilenameSize := by decide
  omega

theorem checkActive_ready (ready : w.Ready) : checkActive.run w = (.ok (), w) := by
  rcases checkActive_run (w := w) with ⟨run, -⟩ | ⟨error, -, unready⟩
  · exact run
  · exact absurd ready unready

/-! ## What holds beside the operations -/

/-- The images of a pool whose allocations are granted.  Only names in `opened` have open
handles. -/
structure Stock (opened : String → Prop) (images : Images) (w : World) : Prop where
  grants : false ∉ w.env.grants
  images_eq : w.imageOf = images
  spare : ∀ file ∈ w.availableFiles, w.openCount file = 0
  closed : ∀ name file, w.mapFilenameToFile.lookup name = some file → ¬ opened name →
    w.openCount file = 0

structure Stocked (opened : String → Prop) (room : Nat) (images : Images) (w : World) : Prop
    extends Stock opened images w where
  ready : w.Ready
  rep : ∃ g, Rep .quiet w g ∧ g.loaded = true
  slots : room ≤ w.availableFiles.length

structure Filling (opened : String → Prop) (room : Nat) (images : Images) (name : String)
    (target : SqliteVfs.ImportTarget World OpfsSAHError) (w : World) (image : List UInt8) : Prop
    extends Stock opened images w where
  slots : room + 1 ≤ w.availableFiles.length
  busy : w.busy = true
  importing : ∃ file g, target = importTarget file name ∧ Rep .quiet w g ∧ g.loaded = true ∧
    Importing w g file name image

theorem World.Still.after {replies : List Reply} (content : SlotFile) :
    w.Still (w.after file content replies) := ⟨rfl, rfl, rfl, rfl⟩

theorem Stock.still (stock : Stock opened images w) (still : w.Still w')
    (settings : SameSettings w w') (grants : w'.env.grants = w.env.grants)
    (same : w'.imageOf = w.imageOf) : Stock opened images w' where
  grants := by
    rw [grants]
    exact stock.grants
  images_eq := same.trans stock.images_eq
  spare file member := by
    rw [settings.openCount]
    rw [still.available] at member
    exact stock.spare file member
  closed other file mapped := by
    rw [settings.openCount]
    rw [still.names] at mapped
    exact stock.closed other file mapped

theorem Stock.guard (stock : Stock opened images w) (busy : Bool) :
    Stock opened images { w with busy } :=
  ⟨stock.grants, stock.images_eq, stock.spare, stock.closed⟩

/-! ## Importing -/

theorem tryReserve_granted (grants : false ∉ w.env.grants) :
    ∃ rest, tryReserve.run w = (.ok (), { w with env := { w.env with grants := rest } }) ∧
      false ∉ rest := by
  unfold tryReserve
  cases answers : w.env.grants with
  | nil =>
      refine ⟨[], ?_, List.not_mem_nil⟩
      simp only [answers]
      rw [← answers]
  | cons granted rest =>
      rw [answers] at grants
      simp only [answers]
      cases granted with
      | true => exact ⟨rest, rfl, fun member => grants (.tail _ member)⟩
      | false => exact absurd List.mem_cons_self grants

theorem createImport_returns (ready : w.Ready) (valid : validateFilename name = .ok ())
    {size : Nat} (inside : InRange size 0) (vacant : Vacant w name)
    (grants : false ∉ w.env.grants) (top : w.availableFiles.getLast? = some file) :
    ∃ rest, false ∉ rest ∧ (createImport name size).run w = (.ok (importTarget file name),
      { w with env := { w.env with grants := rest }, busy := true }) := by
  obtain ⟨rest, reserved, granted⟩ := tryReserve_granted grants
  refine ⟨rest, granted, ?_⟩
  have absent : ¬ w.hasFilename name = true := by
    simpa [World.hasFilename] using vacant.1
  have alone : ¬ (sidecars.any fun suffix => w.hasFilename (name ++ suffix)) = true := by
    intro found
    obtain ⟨suffix, member, there⟩ := List.any_eq_true.mp found
    exact vacant.2 suffix member (by simpa [World.hasFilename] using there)
  have measured : (Prog.mapErr OpfsSAHError.backend (physicalOffset size 0 .ioWrite)).run w =
      (.ok (size + headerOffsetData), w) := by
    rw [physicalOffset_inside inside]
    rfl
  have picked (w' : World) : (ofOption OpfsSAHError.noCapacity (some file)).run w' =
      (.ok file, w') := rfl
  unfold createImport
  rw [Prog.bind_ok (checkActive_ready ready), valid, Prog.ofExcept_ok, Prog.pure_bind,
    Prog.bind_ok measured, Prog.get_bind, if_neg absent, if_neg alone, Prog.bind_ok reserved,
    Prog.get_bind]
  simp only [top]
  have ready' : World.Ready { w with env := { w.env with grants := rest } } :=
    ⟨ready.active, ready.free, ready.healthy⟩
  rw [Prog.bind_ok (picked _)]
  exact Prog.bind_ok (beginOperation_ready ready') _

theorem importWrite_returns (rep : Rep .quiet w g) (importing : Importing w g file name data)
    {offset : Nat} {bytes : List UInt8} (inside : InRange offset bytes.length) :
    ∃ content replies, w.directory.lookup file = some content ∧
      (∀ reply ∈ replies, Reply.Allowed .quiet reply) ∧
      ((importTarget file name).writeAt offset bytes).run w = (.ok (),
        w.after file (content.write (offset + headerOffsetData) bytes) replies) := by
  obtain ⟨-, content, found, staged⟩ := rep.staged file data importing.staging
  have does : Does .quiet (SyncAccessFile.writeAt bytes (offset + headerOffsetData))
      ⟨content, w.env.replies⟩ _ _ := writeAt_does rep.allowed bytes (offset + headerOffsetData)
  obtain ⟨⟨⟩, w', run, content', replies, allowed, rfl, rfl⟩ := (onSlot_ends found does).returned_of
    (fun _ _ failed => failed.choose_spec.choose_spec.2.2.1 rfl)
    fun _ crashed => crashed.choose_spec.choose_spec.2.1 rfl
  refine ⟨content, replies, found, allowed, ?_⟩
  change (ImportTarget.writeAt file offset bytes).run w = _
  unfold ImportTarget.writeAt
  rw [physicalOffset_inside inside]
  exact run

theorem seal_returns (rep : Rep .quiet w g) (importing : Importing w g file name data)
    (storable : StorableName name) : ∃ content replies,
    (onSlot file do
      SyncAccessFile.flush
      SyncAccessFile.associate (some name) SqliteOpen.mainDb).run w =
        (.ok (), w.after file content replies) := by
  obtain ⟨-, content, found, staged⟩ := rep.staged file data importing.staging
  have does : Does .quiet (do
        SyncAccessFile.flush
        SyncAccessFile.associate (some name) SqliteOpen.mainDb) ⟨content, w.env.replies⟩
      (fun _ _ => True) fun _ => False := by
    refine Does.bind ((flush_does rep.allowed).mono (fun _ _ holds => holds) ?_) ?_
    · intro _ failed
      exact failed.1 rfl
    · intro _ content' replies allowed _
      refine (associate_some_does allowed name SqliteOpen.mainDb).mono (fun _ _ _ => trivial) ?_
      intro _ failed
      rcases failed with ⟨refused, -⟩ | ⟨loud, -⟩
      · exact refused storable
      · exact loud rfl
  obtain ⟨⟨⟩, w', run, content', replies, -, rfl, -⟩ := (onSlot_ends found does).returned_of
    (fun _ _ failed => failed.choose_spec.choose_spec.2.2)
    fun _ crashed => crashed.choose_spec.choose_spec.2
  exact ⟨content', replies, run⟩

theorem commit_returns (rep : Rep .quiet w g) (importing : Importing w g file name data)
    (storable : StorableName name) : ∃ content replies rest, w.availableFiles = rest ++ [file] ∧
    (ImportTarget.commit file name).run w = (.ok (), { w.after file content replies with
      availableFiles := rest
      mapFilenameToFile := w.mapFilenameToFile.insert name file }) := by
  obtain ⟨rest, top⟩ := List.getLast?_eq_some_iff.mp (rep.staged file data importing.staging).1
  obtain ⟨content, replies, sealed⟩ := seal_returns rep importing storable
  refine ⟨content, replies, rest, top, ?_⟩
  have popped := popAvailable_some (w := w.after file content replies) top
  unfold ImportTarget.commit
  rw [Prog.bind_ok (Prog.attempt_ok sealed)]
  simp only
  rw [Prog.bind_ok popped]
  rfl

theorem abortWithError_returns (rep : Rep .quiet w g) (importing : Importing w g file name data)
    (error : OpfsSAHError) : ∃ content replies,
    (ImportTarget.abortWithError file error).run w = (.ok error, w.after file content replies) := by
  obtain ⟨-, content, found, staged⟩ := rep.staged file data importing.staging
  obtain ⟨⟨⟩, w', run, content', replies, -, rfl, -⟩ :=
    (associate_none_ends rep.allowed found).returned_of
      (fun _ _ failed => failed.choose_spec.choose_spec.2.2.1 rfl)
      fun _ crashed => crashed.choose_spec.choose_spec.2.1 rfl
  refine ⟨content', replies, ?_⟩
  have cleaned : (ImportTarget.cleanup file).run w = (.ok (), w.after file content' replies) := by
    unfold ImportTarget.cleanup
    rw [Prog.bind_ok (Prog.attempt_ok run)]
    rfl
  unfold ImportTarget.abortWithError
  rw [Prog.bind_ok (Prog.attempt_ok cleaned)]
  rfl

theorem Rep.unmapped_of_imageOf (rep : Rep mode w g) (absent : w.imageOf name = none) :
    name ∉ w.mapFilenameToFile := by
  intro member
  obtain ⟨file, mapped⟩ := Option.isSome_iff_exists.mp (AList.lookup_isSome.mpr member)
  obtain ⟨content, found, -⟩ := rep.content_of_mapped mapped
  rw [World.imageOf_mapped mapped found] at absent
  cases absent

structure Admissible (images : Images) (name : String) (size : Nat) : Prop where
  valid : validateFilename name = .ok ()
  inside : InRange size 0
  vacant : images name = none
  alone : ∀ suffix ∈ sidecars, images (name ++ suffix) = none

theorem Stocked.begins (stocked : Stocked opened (room + 1) images w) {size : Nat}
    (admissible : Admissible images name size) : ∃ target w',
    (createImport name size).run w = (.ok target, w') ∧
      Filling opened room images name target w' [] := by
  obtain ⟨g, rep, loaded⟩ := stocked.rep
  have absent {other : String} (none : images other = none) : other ∉ w.mapFilenameToFile :=
    rep.unmapped_of_imageOf ((congrFun stocked.images_eq other).trans none)
  have vacant : Vacant w name :=
    ⟨absent admissible.vacant, fun suffix member => absent (admissible.alone suffix member)⟩
  have some : w.availableFiles ≠ [] := by
    intro empty
    have slots := stocked.slots
    rw [empty] at slots
    simp at slots
  obtain ⟨top, atTop⟩ := Option.ne_none_iff_exists'.mp fun none =>
    some (List.getLast?_eq_none_iff.mp none)
  obtain ⟨grants, granted, run⟩ := createImport_returns stocked.ready admissible.valid
    admissible.inside vacant stocked.grants atTop
  obtain ⟨file, created⟩ := (createImport_ends rep.allowed name size).ok run
  obtain ⟨rep', importing⟩ := created.importing rep
  exact ⟨_, _, run, {
    grants := granted
    images_eq := stocked.images_eq
    spare := stocked.spare
    closed := stocked.closed
    slots := stocked.slots
    busy := rfl
    importing := ⟨file, _, created.target_eq, rep', loaded, importing⟩ }⟩

theorem Rep.fills (rep : Rep mode w g) (staging : g.staging = some (file, data))
    (found : w.directory.lookup file = some content) {offset : Nat} {bytes : List UInt8}
    (inside : InRange offset bytes.length) (before : offset ≤ data.length) {replies : List Reply}
    (allowed : ∀ reply ∈ replies, Reply.Allowed mode reply) :
    Evolves mode (fun _ => False) w g
      (w.after file (content.write (offset + headerOffsetData) bytes) replies)
      (g.stage file (SparseVector.writeAt data offset bytes)) := by
  have asked : Evolves mode (fun _ => False) w g { w with env := { w.env with replies } } g :=
    .asked rep allowed
  refine asked.trans ?_
  by_cases nothing : bytes = []
  · subst nothing
    have member := List.mem_of_getLast? (rep.staged file data staging).1
    have same : g.stage file data = g := by
      obtain ⟨⟩ := g
      cases staging
      rfl
    rw [SlotFile.write_nil, SparseVector.writeAt_nil _ _ before, same]
    exact .move asked.rep (.touch _ g file content (mem_held_available member) found)
      (fun _ _ => rfl) fun _ other _ _ => apart_touch (w := w) found other
  · exact .move asked.rep (.fill _ g file data content offset bytes staging found
      (inRange_iff.mp inside) nothing) (fun _ _ => rfl)
      (asked.rep.apart_available (List.mem_of_getLast? (rep.staged file data staging).1))

theorem Filling.fills {target : SqliteVfs.ImportTarget World OpfsSAHError} {size : Nat}
    (filling : Filling opened room images name target w image)
    (admissible : Admissible images name size) {offset : Nat} {bytes : List UInt8}
    (before : offset ≤ image.length) (within : offset + bytes.length ≤ size) : ∃ w',
    (target.writeAt offset bytes).run w = (.ok (), w') ∧
      Filling opened room images name target w' (SparseVector.writeAt image offset bytes) := by
  obtain ⟨file, g, rfl, rep, loaded, importing⟩ := filling.importing
  have range : InRange offset bytes.length := by
    have whole := inRange_iff.mp admissible.inside
    rw [inRange_iff]
    omega
  obtain ⟨content, replies, found, allowed, run⟩ := importWrite_returns rep importing range
  have evolves := rep.fills importing.staging found range before allowed
  have stock := filling.toStock.still (.after _) evolves.frame.settings rfl (funext fun _ =>
    evolves.imageOf_eq rep loaded importing.healthy importing.healthy id)
  exact ⟨_, run, {
    toStock := stock
    slots := filling.slots
    busy := filling.busy
    importing := ⟨file, _, rfl, evolves.rep, loaded, importing.active, importing.healthy, rfl,
      importing.vacant⟩ }⟩

theorem Filling.commits {target : SqliteVfs.ImportTarget World OpfsSAHError} {size : Nat}
    (filling : Filling opened room images name target w image)
    (admissible : Admissible images name size) : ∃ w', target.commit.run w = (.ok (), w') ∧
      Stocked opened room (Function.update images name (some image)) w' := by
  obtain ⟨file, g, rfl, rep, loaded, importing⟩ := filling.importing
  obtain ⟨content, replies, rest, top, run⟩ := commit_returns rep importing
    (storableName_of_valid admissible.valid)
  obtain ⟨g', evolves, committed⟩ := (commit_ends rep importing).ok run
  have ended := Prog.ensure_ok run (rfl : endOperation.run _ = (.ok (), _))
  have images_eq := evolves.imageOf_update rep loaded importing.healthy committed.healthy
    committed.entry
  have available : rest ++ [file] = w.availableFiles := top.symm
  refine ⟨_, ended, {
    grants := filling.grants
    images_eq := ?_
    spare := ?_
    closed := ?_
    ready := ⟨importing.active, rfl, importing.healthy⟩
    rep := ⟨g', evolves.rep.guard fun _ => committed.idle, evolves.frame.loaded.trans loaded⟩
    slots := ?_ }⟩
  · rw [← filling.images_eq]
    exact images_eq
  · intro other member
    exact filling.spare other (by rw [top]; exact List.mem_append_left _ member)
  · intro other slot mapped shut
    by_cases same : other = name
    · subst same
      have here : file = slot := Option.some.inj ((AList.lookup_insert _).symm.trans mapped)
      subst here
      exact filling.spare file (by rw [top]; simp)
    · exact filling.closed other slot ((AList.lookup_insert_ne same).symm.trans mapped) shut
  · have slots := filling.slots
    rw [top, List.length_append] at slots
    simpa using slots

theorem Filling.aborts {target : SqliteVfs.ImportTarget World OpfsSAHError}
    (filling : Filling opened room images name target w image) (error : OpfsSAHError) : ∃ w',
    (target.abortWithError error).run w = (.ok error, w') ∧
      Stocked opened (room + 1) images w' := by
  obtain ⟨file, g, rfl, rep, loaded, importing⟩ := filling.importing
  obtain ⟨-, content, found, staged⟩ := rep.staged file image importing.staging
  obtain ⟨content', replies, run⟩ := abortWithError_returns rep importing error
  have left : Unpublished .quiet name image content := .inl staged.blank
  obtain ⟨g', evolves, unimported⟩ := (abortWithError_ends rep importing.healthy importing.staging
    importing.vacant.1 left found (.inl ⟨rfl, rfl⟩) rep.allowed error).ok run
  have ended := Prog.ensure_ok run (rfl : endOperation.run _ = (.ok (), _))
  rcases unimported.1 with reclaimed | lost
  · have stock := filling.toStock.still reclaimed.still evolves.frame.settings rfl (funext fun _ =>
      evolves.imageOf_same rep loaded importing.healthy importing.healthy
        (by rw [reclaimed.ledger]; rfl))
    refine ⟨_, ended, {
      toStock := stock.guard false
      ready := ⟨importing.active, rfl, importing.healthy⟩
      rep := ⟨g', evolves.rep.guard fun _ => unimported.idle, evolves.frame.loaded.trans loaded⟩
      slots := filling.slots }⟩
  · exact absurd rfl lost.loud

/-! ## Exporting -/

theorem size_returns (rep : Rep .quiet w g) (member : file ∈ w.held)
    (found : w.directory.lookup file = some content) (fits : Fits content.contents) :
    ∃ replies, Rep .quiet (w.after file content replies) g ∧
      (onSlot file (SyncAccessFile.size file)).run w =
        (.ok (dataOf content.contents).length, w.after file content replies) := by
  have does : Does .quiet (SyncAccessFile.size file) ⟨content, w.env.replies⟩
      (fun size file => file = content ∧ size = (dataOf content.contents).length)
      fun _ => False := by
    refine Does.mapErr (Does.bind ((physicalSize_does rep.allowed file).mono
      (fun _ _ holds => holds) ?_) ?_)
    · intro _ failed
      exact absurd (failed.2 rfl) (Nat.not_lt.mpr fits.high)
    · intro size _ replies rest held
      obtain ⟨rfl, rfl, -⟩ := held
      refine Does.ite (fun short => ?_) fun _ => Does.pure rest ⟨rfl, ?_⟩
      · exact absurd short (Nat.not_lt.mpr fits.low)
      · rw [dataOf, List.length_drop]
  obtain ⟨size, w', run, content', replies, allowed, rfl, rfl, rfl⟩ :=
    (onSlot_ends found does).returned_of (fun _ _ failed => failed.choose_spec.choose_spec.2.2)
      fun _ crashed => crashed.choose_spec.choose_spec.2
  have asked : Evolves .quiet (fun _ => False) w g { w with env := { w.env with replies } } g :=
    .asked rep allowed
  have touched := asked.trans (.move asked.rep (.touch _ g file content' member found)
    (fun _ _ => rfl) fun _ other _ _ => apart_touch (w := w) found other)
  exact ⟨replies, touched.rep, run⟩

structure Backed (w : World) (name file : String) (content : SlotFile) : Prop where
  mapped : w.mapFilenameToFile.lookup name = some file
  found : w.directory.lookup file = some content
  fits : Fits content.contents

theorem Rep.backed (rep : Rep mode w g) (loaded : g.loaded = true)
    (healthy : w.needsRecovery = false) (mapped : w.mapFilenameToFile.lookup name = some file) :
    ∃ content, Backed w name file content := by
  obtain ⟨content, found, holds⟩ := rep.content_of_mapped mapped
  obtain ⟨temporary, durable, data, present⟩ := rep.present_of_mapped loaded healthy mapped
  rw [present] at holds
  have named : Named mode name temporary durable data content := holds
  exact ⟨content, mapped, found, named.sees.contents.1⟩

theorem Backed.imageOf (backed : Backed w name file content) :
    w.imageOf name = some (dataOf content.contents) :=
  World.imageOf_mapped backed.mapped backed.found

def Alone (images : Images) (name : String) : Prop :=
  ∀ suffix ∈ sidecars, (images (name ++ suffix)).getD [] = []

theorem World.Looked.imageOf (looked : w.Looked w') : w'.imageOf = w.imageOf := by
  funext name
  unfold World.imageOf
  rw [looked.still.names]
  cases mapped : w.mapFilenameToFile.lookup name with
  | none => rfl
  | some file => simp only [Option.bind_some, looked.contents]

theorem checkSidecars_returns (suffixes : List String) : ∀ {w : World}, Rep .quiet w g →
    g.loaded = true → w.needsRecovery = false →
    (∀ suffix ∈ suffixes, (w.imageOf (name ++ suffix)).getD [] = []) →
    ∃ w', (checkSidecars name suffixes).run w = (.ok (), w') ∧ Rep .quiet w' g ∧ w.Looked w' ∧
      w'.env.grants = w.env.grants := by
  induction suffixes with
  | nil => exact fun rep _ _ _ => ⟨_, rfl, rep, .refl _, rfl⟩
  | cons suffix suffixes ih =>
      intro w rep loaded healthy empty
      have first := empty suffix List.mem_cons_self
      unfold checkSidecars
      rw [Prog.get_bind]
      rcases mapped : w.mapFilenameToFile.lookup (name ++ suffix) with _ | sidecar
      · exact ih rep loaded healthy fun other member => empty other (.tail _ member)
      · obtain ⟨content, backed⟩ := rep.backed loaded healthy mapped
        rw [backed.imageOf] at first
        have nothing : (dataOf content.contents).length = 0 := List.length_eq_zero_iff.mpr first
        obtain ⟨replies, rep', sized⟩ := size_returns rep (mem_held_mapped mapped) backed.found
          backed.fits
        have looked : w.Looked (w.after sidecar content replies) := .after backed.found replies
        obtain ⟨w', run, rep'', looked', grants⟩ := ih rep' loaded
          (looked.still.suspect.trans healthy) (by
            intro other member
            rw [looked.imageOf]
            exact empty other (.tail _ member))
        refine ⟨w', ?_, rep'', looked.trans looked', grants⟩
        rw [nothing] at sized
        dsimp only
        rw [Prog.bind_ok (Prog.mapErr_ok_iff.mpr sized), if_neg (by simp)]
        exact run

structure Exportable (opened : String → Prop) (images : Images) (name : String) : Prop where
  valid : validateFilename name = .ok ()
  shut : ¬ opened name
  alone : Alone images name

structure Yielding (opened : String → Prop) (room : Nat) (images : Images) (name : String)
    (image : List UInt8) (source : ExportSource World OpfsSAHError) (w : World) : Prop
    extends Stock opened images w where
  slots : room ≤ w.availableFiles.length
  busy : w.busy = true
  reading : ∃ file content g, source = exportSource file image.length ∧ Rep .quiet w g ∧
    g.loaded = true ∧ Exporting w g file name ∧ Backed w name file content ∧
    dataOf content.contents = image

theorem openExport_returns (rep : Rep .quiet w g) (loaded : g.loaded = true) (ready : w.Ready)
    (valid : validateFilename name = .ok ()) (backed : Backed w name file content)
    (closed : w.openCount file = 0) (alone : Alone w.imageOf name) : ∃ w',
    (openExport name).run w =
        (.ok (exportSource file (dataOf content.contents).length), { w' with busy := true }) ∧
      Rep .quiet w' g ∧ w.Looked w' ∧ w'.env.grants = w.env.grants := by
  obtain ⟨w₁, checked, rep₁, looked₁, grants₁⟩ := checkSidecars_returns sidecars rep loaded
    ready.healthy alone
  have mapped₁ : w₁.mapFilenameToFile.lookup name = some file := by
    rw [looked₁.still.names]
    exact backed.mapped
  have found₁ : w₁.directory.lookup file = some content := by
    rw [looked₁.contents]
    exact backed.found
  obtain ⟨replies, rep₂, sized⟩ := size_returns rep₁ (mem_held_mapped mapped₁) found₁ backed.fits
  have looked : w.Looked (w₁.after file content replies) := looked₁.trans (.after found₁ replies)
  have ready' : (w₁.after file content replies).Ready :=
    ⟨looked.settings.state.trans ready.active, looked.settings.busy.trans ready.free,
      looked.still.suspect.trans ready.healthy⟩
  refine ⟨w₁.after file content replies, ?_, rep₂, looked, grants₁⟩
  unfold openExport
  rw [Prog.bind_ok (checkActive_ready ready), valid, Prog.ofExcept_ok, Prog.pure_bind,
    Prog.get_bind]
  simp only [backed.mapped]
  rw [if_neg (by simp [closed]), Prog.bind_ok checked, Prog.bind_ok (Prog.mapErr_ok_iff.mpr sized)]
  exact Prog.bind_ok (beginOperation_ready ready') _

theorem exportReadAt_returns (rep : Rep .quiet w g) (member : file ∈ w.held)
    (found : w.directory.lookup file = some content) (fits : Fits content.contents) {offset : Nat}
    {buf : List UInt8} (nonempty : buf ≠ [])
    (within : offset + buf.length ≤ (dataOf content.contents).length) :
    ∃ replies, Rep .quiet (w.after file content replies) g ∧
      (exportReadAt file offset buf).run w =
        (.ok (buf.length, ((dataOf content.contents).drop offset).take buf.length ++
          buf.drop buf.length), w.after file content replies) := by
  have positive : 0 < buf.length := List.length_pos_iff.mpr nonempty
  have size : (dataOf content.contents).length = content.contents.length - headerOffsetData := by
    rw [dataOf, List.length_drop]
  have inside : InRange offset buf.length := by
    have low := fits.low
    have high := fits.high
    rw [inRange_iff]
    omega
  have bytes : SparseVector.readAt content.contents (offset + headerOffsetData) buf.length =
      ((dataOf content.contents).drop offset).take buf.length := readAt_dataOf _ _ _
  have count : (((dataOf content.contents).drop offset).take buf.length).length = buf.length := by
    rw [List.length_take, List.length_drop]
    omega
  obtain ⟨result, w', run, content', replies, allowed, rfl, rfl, landed, every, first, second⟩ :=
    (onSlot_ends found (readAt_does rep.allowed buf (offset + headerOffsetData))).returned_of
      (fun _ _ failed => failed.choose_spec.choose_spec.2.2.1 rfl)
      fun _ crashed => crashed.choose_spec.choose_spec.2.1 rfl
  rw [every rfl, bytes] at first second
  have asked : Evolves .quiet (fun _ => False) w g { w with env := { w.env with replies } } g :=
    .asked rep allowed
  have touched := asked.trans (.move asked.rep (.touch _ g file content' member found)
    (fun _ _ => rfl) fun _ other _ _ => apart_touch (w := w) found other)
  refine ⟨replies, touched.rep, ?_⟩
  unfold exportReadAt
  rw [physicalOffset_inside inside]
  have same : result = (buf.length, ((dataOf content'.contents).drop offset).take buf.length ++
      buf.drop buf.length) := by
    have fst : result.1 = buf.length := first.trans count
    refine Prod.ext fst ?_
    rw [second, fst]
    rfl
  rw [← same]
  exact run

theorem Stocked.yields (stocked : Stocked opened room images w)
    (exportable : Exportable opened images name) (held : images name = some image) :
    ∃ source w', (openExport name).run w = (.ok source, w') ∧ source.size = image.length ∧
      Yielding opened room images name image source w' := by
  obtain ⟨g, rep, loaded⟩ := stocked.rep
  have same : w.imageOf = images := stocked.images_eq
  have here : w.imageOf name = some image := (congrFun same name).trans held
  obtain ⟨file, content, mapped, found, data_eq⟩ := World.mapped_of_imageOf here
  obtain ⟨content', backed⟩ := rep.backed loaded stocked.ready.healthy mapped
  obtain rfl : content = content' := Option.some.inj (found.symm.trans backed.found)
  have closed := stocked.closed name file mapped exportable.shut
  have alone : Alone w.imageOf name := same ▸ exportable.alone
  obtain ⟨w', run, rep', looked, grants⟩ := openExport_returns rep loaded stocked.ready
    exportable.valid backed closed alone
  have stock := stocked.toStock.still looked.still looked.settings grants looked.imageOf
  have exporting : Exporting { w' with busy := true } g file name :=
    ⟨looked.settings.state.trans stocked.ready.active,
      looked.still.suspect.trans stocked.ready.healthy, rep.idle stocked.ready.free,
      looked.still.names ▸ mapped, looked.settings.openCount ▸ closed⟩
  subst data_eq
  refine ⟨_, _, run, rfl, {
    toStock := stock.guard true
    slots := ?_
    busy := rfl
    reading := ⟨file, content, g, rfl, rep'.guard nofun, loaded, exporting,
      ⟨looked.still.names ▸ mapped, (looked.contents file).trans found, backed.fits⟩, rfl⟩ }⟩
  change room ≤ w'.availableFiles.length
  rw [looked.still.available]
  exact stocked.slots

theorem Yielding.reads {source : ExportSource World OpfsSAHError}
    (yielding : Yielding opened room images name image source w) {offset : Nat} {buf : List UInt8}
    (nonempty : buf ≠ []) (within : offset + buf.length ≤ image.length) : ∃ w',
    (source.readAt offset buf).run w =
        (.ok (buf.length, (image.drop offset).take buf.length ++ buf.drop buf.length), w') ∧
      Yielding opened room images name image source w' := by
  obtain ⟨file, content, g, rfl, rep, loaded, exporting, backed, rfl⟩ := yielding.reading
  obtain ⟨replies, rep', run⟩ := exportReadAt_returns rep (mem_held_mapped backed.mapped)
    backed.found backed.fits nonempty within
  have looked : w.Looked (w.after file content replies) := .after backed.found replies
  have stock := yielding.toStock.still looked.still looked.settings rfl looked.imageOf
  exact ⟨_, run, {
    toStock := stock
    slots := yielding.slots
    busy := yielding.busy
    reading := ⟨file, content, g, rfl, rep', loaded,
      ⟨exporting.active, exporting.healthy, exporting.idle, exporting.mapped, exporting.closed⟩,
      ⟨backed.mapped, AList.lookup_insert _, backed.fits⟩, rfl⟩ }⟩

theorem Yielding.ends {source : ExportSource World OpfsSAHError}
    (yielding : Yielding opened room images name image source w) : ∃ w',
    source.drop.run w = (.ok (), w') ∧ Stocked opened room images w' := by
  obtain ⟨file, content, g, rfl, rep, loaded, exporting, -⟩ := yielding.reading
  exact ⟨_, rfl, {
    toStock := yielding.toStock.guard false
    ready := ⟨exporting.active, rfl, exporting.healthy⟩
    rep := ⟨g, rep.guard fun _ => exporting.idle, loaded⟩
    slots := yielding.slots }⟩

/-! ## The pool as an archive -/

def archiveImports (opened : String → Prop) (room : Nat) {images : Images} {name : String}
    {size : Nat} (admissible : Admissible images name size) :
    ImportStore transfers name size where
  Importable := Stocked opened (room + 1) images
  Pending := Filling opened room images name
  Published w image := Stocked opened room (Function.update images name (some image)) w
  unpublished w image importable published := by
    have taken := congrFun (importable.images_eq.symm.trans published.images_eq) name
    rw [admissible.vacant, Function.update_self] at taken
    cases taken
  unique w image other first second := by
    have same := congrFun (first.images_eq.symm.trans second.images_eq) name
    rw [Function.update_self, Function.update_self] at same
    exact Option.some.inj same
  createImport w importable := importable.begins admissible
  writeAt target w image offset bytes pending before within :=
    pending.fills admissible before within
  commit target w image pending _ := pending.commits admissible
  abortWithError target w image error pending := pending.aborts error

def archiveExports (opened : String → Prop) (room : Nat) {images : Images} {name : String}
    {image : List UInt8} (held : images name = some image)
    (exportable : Exportable opened images name) : ExportStore transfers name image where
  Exportable := Stocked opened room images
  Reading := Yielding opened room images name image
  openExport w stocked := stocked.yields exportable held
  readAt source w offset buf yielding nonempty within := by
    have positive : 0 < buf.length := List.length_pos_iff.mpr nonempty
    obtain ⟨w', run, reading⟩ := yielding.reads nonempty within
    exact ⟨buf.length, w', run, positive, le_rfl, reading⟩
  drop source w yielding := yielding.ends

def archive (opened : String → Prop) : Archive transfers where
  read := World.imageOf
  Holds := Stocked opened
  Takes := Admissible
  Gives := Exportable opened
  read_eq stocked := stocked.images_eq
  imports room _ _ _ admissible := archiveImports opened room admissible
  importable _ := Iff.rfl
  published _ stocked := stocked
  exports room _ _ _ held exportable := archiveExports opened room held exportable
  exportable _ _ := Iff.rfl

def World.Opens (w : World) (name : String) : Prop :=
  ∃ file, w.mapFilenameToFile.lookup name = some file ∧ w.openCount file ≠ 0

theorem Good.stocked {s : System} (good : Good mode s g) (whole : ¬ mode.Torn)
    (ready : s.world.Ready) {around : Surroundings} (calm : around.Allowed .quiet)
    (granted : false ∉ around.env.grants) (slots : room ≤ s.world.availableFiles.length) :
    Stocked s.world.Opens room s.world.imageOf (s.world.facing around) where
  grants := granted
  images_eq := rfl
  spare file member := by
    refine good.unmapped_shut fun name mapped => ?_
    have unowned := (good.rep.available file member).1
    rw [(good.rep.mapped name file mapped).1] at unowned
    cases unowned
  closed name file mapped shut := by
    by_contra inUse
    exact shut ⟨file, mapped, inUse⟩
  ready := ⟨ready.active, ready.free, ready.healthy⟩
  rep := ⟨g, good.rep.quieter whole calm, good.active_loaded ready.active⟩
  slots := slots

theorem sidecar_ne {suffix : String} (member : suffix ∈ sidecars) (name : String) :
    name ++ suffix ≠ name := by
  intro same
  have length := congrArg String.length same
  rw [String.length_append] at length
  simp only [sidecars, List.mem_cons, List.not_mem_nil, or_false] at member
  rcases member with rfl | rfl <;> simp at length

theorem Alone.update (alone : ∀ suffix ∈ sidecars, images (name ++ suffix) = none)
    (image : List UInt8) : Alone (Function.update images name (some image)) name := by
  intro suffix member
  rw [Function.update_of_ne (sidecar_ne member name), alone suffix member]
  rfl

/-- A healthy pool with two free slots makes the round trip while no call fails, whatever
failures of whole calls it has seen before. -/
theorem pool_round_trip {s : System} (reachable : Reachable .whole s) (ready : s.world.Ready)
    (slots : 2 ≤ s.world.availableFiles.length) {around : Surroundings}
    (calm : around.Allowed .quiet) (granted : false ∉ around.env.grants) {name copy : String}
    (valid : validateFilename name = .ok ()) (valid' : validateFilename copy = .ok ())
    (vacant : Vacant s.world name) (vacant' : Vacant s.world copy) (distinct : copy ≠ name)
    (apart : ∀ suffix ∈ sidecars, copy ++ suffix ≠ name) {bytes : List UInt8}
    (inside : InRange bytes.length 0) :
    RoundTrip transfers World.imageOf (s.world.facing around) name copy bytes := by
  obtain ⟨g, good⟩ := reachable.good
  have whole : ¬ Mode.whole.Torn := by
    rintro (impossible | impossible) <;> cases impossible
  have stocked := good.stocked whole ready calm granted slots
  have absent {other : String} (unmapped : other ∉ s.world.mapFilenameToFile) :
      s.world.imageOf other = none := World.imageOf_unmapped unmapped
  have shut {other : String} (unmapped : other ∉ s.world.mapFilenameToFile) :
      ¬ s.world.Opens other := by
    intro opened
    obtain ⟨file, mapped, -⟩ := opened
    rw [AList.lookup_eq_none.mpr unmapped] at mapped
    cases mapped
  have small : bytes.length < u64Size := by
    have bound := inRange_iff.mp inside
    simp only [u64Size, maxSafeInteger] at *
    omega
  have alone : ∀ suffix ∈ sidecars, s.world.imageOf (name ++ suffix) = none :=
    fun suffix member => absent (vacant.2 suffix member)
  have again (image : List UInt8) : ∀ suffix ∈ sidecars,
      Function.update s.world.imageOf name (some image) (copy ++ suffix) = none := by
    intro suffix member
    rw [Function.update_of_ne (apart suffix member)]
    exact absent (vacant'.2 suffix member)
  apply (archive s.world.Opens).round_trip stocked
  · exact ⟨valid, inside, absent vacant.1, alone⟩
  · exact fun image => ⟨valid, shut vacant.1, .update alone image⟩
  · intro image
    refine ⟨⟨valid', inside, ?_, again image⟩, valid', shut vacant'.1, .update (again image) image⟩
    rw [Function.update_of_ne distinct]
    exact absent vacant'.1
  · exact small

/-- Surroundings in which every call succeeds, with random bytes for another slot. -/
def unstinting : Surroundings := ⟨⟨[], [(32, List.replicate 32 1)], [], []⟩, [⟨1, "opfs"⟩]⟩

theorem unstinting_calm : unstinting.Allowed .quiet :=
  fun _ member => absurd member List.not_mem_nil

set_option maxRecDepth 20000 in
theorem growing_run : ∃ s, Runs System.Step ⟨onePool, [], []⟩
      [⟨unstinting, .addCapacity 1⟩, ⟨unstinting, .poll 0⟩, ⟨unstinting, .poll 0⟩] s ∧
      s.world.Ready ∧ s.world.availableFiles.length = 2 ∧ s.world.mapFilenameToFile = ∅ := by
  have begun : Runs System.Step ⟨onePool, [], []⟩ [⟨unstinting, .addCapacity 1⟩] _ :=
    .single ⟨.ok .pending, rfl, by simp⟩
  have created : Runs System.Step ⟨onePool, [], []⟩
      [⟨unstinting, .addCapacity 1⟩, ⟨unstinting, .poll 0⟩] _ :=
    begun.snoc ⟨.ok .pending, rfl, by simp⟩
  have acquired : Runs System.Step ⟨onePool, [], []⟩
      [⟨unstinting, .addCapacity 1⟩, ⟨unstinting, .poll 0⟩, ⟨unstinting, .poll 0⟩] _ :=
    created.snoc ⟨.ok (.number 2), rfl, by simp⟩
  exact ⟨_, acquired, ⟨rfl, rfl, rfl⟩, rfl, rfl⟩

theorem pool_round_trip_grown : ∃ s : System, Reachable .whole s ∧
    RoundTrip transfers World.imageOf (s.world.facing unstinting) "a.db" "b.db" onePage := by
  obtain ⟨s, runs, ready, slots, empty⟩ := growing_run
  have reachable : Reachable .whole s := by
    refine onePool_reaches (fun moment member => ?_) runs
    simp only [List.mem_cons, List.not_mem_nil, or_false] at member
    have opens (event : Event) (not : ∀ request, event ≠ .openFile request) :
        Moment.Allowed .whole ⟨unstinting, event⟩ :=
      ⟨fun _ _ here => absurd here List.not_mem_nil,
        fun request same _ => absurd same (not request)⟩
    rcases member with rfl | rfl | rfl <;> exact opens _ (by simp)
  have vacant (name : String) : Vacant s.world name := by
    unfold Vacant
    rw [empty]
    simp
  refine ⟨s, reachable, pool_round_trip reachable ready slots.ge unstinting_calm List.not_mem_nil
    (by decide) (by decide) (vacant _) (vacant _) (by decide) (by decide) ?_⟩
  rw [length_onePage, inRange_iff]
  decide

end Sahpool

end SqliteVfs
