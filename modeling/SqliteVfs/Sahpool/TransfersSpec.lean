import SqliteVfs.Sahpool.StoreSpec

/-!
# Imports and exports

What the calls of a transfer do to a faithful pool: how it begins, how its target or its
source is used, and how it ends.  A transfer holds the `Operation` guard in between.
-/

set_option autoImplicit false

namespace SqliteVfs

namespace Sahpool

variable {mode : Mode} {reach : String → Prop} {w w' w'' : World} {g g' : Ledger}
  {file name filename : String} {content content' : SlotFile} {ε ε' α β : Type}

/-! ## Looking at slots -/

structure World.Looked (w w' : World) : Prop where
  still : w.Still w'
  settings : SameSettings w w'
  contents : ∀ file, w'.directory.lookup file = w.directory.lookup file

namespace World.Looked

theorem refl (w : World) : w.Looked w := ⟨.refl w, .refl w, fun _ => rfl⟩

theorem trans (first : w.Looked w') (second : w'.Looked w'') : w.Looked w'' where
  still := first.still.trans second.still
  settings := first.settings.trans second.settings
  contents file := (second.contents file).trans (first.contents file)

theorem after (found : w.directory.lookup file = some content) (replies : List Reply) :
    w.Looked (w.after file content replies) where
  still := ⟨rfl, rfl, rfl, rfl⟩
  settings := .slots w _ _ _ _ _ _
  contents other := by
    by_cases same : other = file
    · subst same
      exact (AList.lookup_insert _).trans found.symm
    · exact AList.lookup_insert_ne same

theorem asked (w : World) (env : Env) : w.Looked { w with env } :=
  ⟨⟨rfl, rfl, rfl, rfl⟩, .slots w _ _ _ _ _ _, fun _ => rfl⟩

end World.Looked

theorem onSlot_looks {x : SlotM ε α} {Q : α → Prop} (rep : Rep mode w g)
    (member : file ∈ w.held) (found : w.directory.lookup file = some content)
    (does : Does mode x ⟨content, w.env.replies⟩ (fun value file => file = content ∧ Q value)
      fun file => file = content) :
    Keeps mode reach (onSlot file x) w g (fun value w' g' => g' = g ∧ w.Looked w' ∧ Q value)
      fun _ w' g' => g' = g ∧ w.Looked w' := by
  have touched (replies : List Reply) (allowed : ∀ reply ∈ replies, Reply.Allowed mode reply) :
      Evolves mode reach w g (w.after file content replies) g := by
    have asked : Evolves mode reach w g { w with env := { w.env with replies } } g :=
      .asked rep allowed
    exact asked.trans (.move asked.rep (.touch _ g file content member found) (fun _ _ => rfl)
      fun _ other _ _ => apart_touch (w := w) found other)
  refine (onSlot_ends found does).mono ?_ ?_ ?_
  · rintro value w' ⟨_, replies, allowed, rfl, rfl, holds⟩
    exact ⟨g, touched replies allowed, rfl, .after found replies, holds⟩
  · rintro _ w' ⟨_, replies, allowed, rfl, rfl⟩
    exact ⟨g, touched replies allowed, rfl, .after found replies⟩
  · rintro w' ⟨_, replies, rfl, rfl⟩
    exact ⟨_, g, touched [] noReplies, rfl⟩

theorem size_does {slot : Slot} (allowed : ∀ reply ∈ slot.replies, reply.Allowed mode)
    (opaqueName : String) : Does mode (SyncAccessFile.size opaqueName) slot
      (fun size file => file = slot.file ∧ size = (dataOf slot.file.contents).length)
      fun file => file = slot.file := by
  refine Does.mapErr (Does.bind ((physicalSize_does allowed opaqueName).mono
    (fun _ _ holds => holds) fun _ holds => holds.1) ?_)
  rintro size file replies rest ⟨rfl, rfl, -⟩
  refine Does.ite (fun _ => Does.fail rest rfl) fun _ => Does.pure rest ⟨rfl, ?_⟩
  rw [dataOf, List.length_drop]

/-! ## Beginning -/

/-- The names that an import keeps from coming into existence. -/
def Vacant (w : World) (filename : String) : Prop :=
  filename ∉ w.mapFilenameToFile ∧ ∀ suffix ∈ sidecars, filename ++ suffix ∉ w.mapFilenameToFile

structure Importing (w : World) (g : Ledger) (file filename : String) (data : List UInt8) :
    Prop where
  active : w.state = .active
  healthy : w.needsRecovery = false
  staging : g.staging = some (file, data)
  vacant : Vacant w filename

theorem beginOperation_ready (ready : w.Ready) :
    beginOperation.run w = (.ok (), { w with busy := true }) := by
  unfold beginOperation
  rw [Prog.get_bind, if_neg (by rw [ready.active]; exact nofun),
    if_neg (by rw [ready.free]; exact nofun)]
  rfl

theorem beginOperation_refused (refused : ¬ (w.state ≠ .removed ∧ w.busy = false)) :
    ∃ error, beginOperation.run w = (.err error, w) := by
  unfold beginOperation
  rw [Prog.get_bind]
  by_cases removed : w.state = .removed
  · rw [if_pos removed]
    exact ⟨_, rfl⟩
  · have busy : w.busy = true := by
      by_contra free
      exact refused ⟨removed, Bool.eq_false_iff.mpr free⟩
    rw [if_neg removed, if_pos busy]
    exact ⟨_, rfl⟩

structure ImportCreated (mode : Mode) (w : World) (file filename : String)
    (target : SqliteVfs.ImportTarget World OpfsSAHError) (w' : World) : Prop where
  ready : w.Ready
  target_eq : target = importTarget file filename
  top : w.availableFiles.getLast? = some file
  vacant : Vacant w filename
  reserved : ∃ w₁, w.Consulted mode w₁ ∧ w' = { w₁ with busy := true }

theorem createImport_ends (allowed : ∀ reply ∈ w.env.replies, Reply.Allowed mode reply)
    (filename : String) (size : Nat) : Prog.Ends (createImport filename size) w
      (fun target w' => ∃ file, ImportCreated mode w file filename target w')
      (fun _ w' => w.Consulted mode w') fun _ => False := by
  unfold createImport
  rcases checkActive_run (w := w) with ⟨run, ready⟩ | ⟨error, run, -⟩
  swap
  · exact Prog.Ends.of_err (Prog.bind_err run _) (.refl allowed)
  refine Prog.Ends.after_ok run ?_
  cases validateFilename filename with
  | error error => exact Prog.Ends.fail (.refl allowed)
  | ok _ =>
    rw [Prog.ofExcept_ok, Prog.pure_bind]
    by_cases inside : InRange size 0
    swap
    · rw [physicalOffset_beyond inside]
      exact Prog.Ends.fail (.refl allowed)
    rw [physicalOffset_inside inside]
    refine Prog.Ends.get_bind (Prog.Ends.ite (fun _ => Prog.Ends.fail (.refl allowed)) fun absent =>
      Prog.Ends.ite (fun _ => Prog.Ends.fail (.refl allowed)) fun alone => ?_)
    have vacant : Vacant w filename := by
      refine ⟨by simpa [World.hasFilename] using absent, fun suffix member there => alone ?_⟩
      exact List.any_eq_true.mpr ⟨suffix, member, by simpa [World.hasFilename] using there⟩
    refine Prog.Ends.bind (tryReserve_ends allowed) ?_
    intro _ w₁ consulted
    have ready₁ := ready.consulted consulted
    refine Prog.Ends.get_bind ?_
    rcases top : w₁.availableFiles.getLast? with _ | file
    · exact Prog.Ends.fail consulted
    have top' : w.availableFiles.getLast? = some file := by
      obtain ⟨⟨env, rfl⟩, -⟩ := consulted
      exact top
    exact Prog.Ends.after_ok (x := ofOption OpfsSAHError.noCapacity (some file)) rfl
      (Prog.Ends.after_ok (beginOperation_ready ready₁) (Prog.Ends.pure
        ⟨file, ready, rfl, top', vacant, w₁, consulted, rfl⟩))

theorem ImportCreated.importing {target : SqliteVfs.ImportTarget World OpfsSAHError}
    (created : ImportCreated mode w file filename target w') (rep : Rep mode w g) :
    Rep mode w' (g.stage file []) ∧ Importing w' (g.stage file []) file filename [] := by
  obtain ⟨w₁, consulted, rfl⟩ := created.reserved
  have evolves : Evolves mode Everything w g w₁ g := consulted.evolves rep
  have rep₁ : Rep mode w₁ g := evolves.rep
  obtain ⟨⟨env, rfl⟩, -⟩ := consulted
  have guarded : Rep mode { w with env, busy := true } g := rep₁.guard nofun
  exact ⟨guarded.reserve created.top (rep.idle created.ready.free) rfl, created.ready.active,
    created.ready.healthy, rfl, created.vacant⟩

structure Exporting (w : World) (g : Ledger) (file name : String) : Prop where
  active : w.state = .active
  healthy : w.needsRecovery = false
  idle : g.staging = none
  mapped : w.mapFilenameToFile.lookup name = some file
  closed : w.openCount file = 0

structure ExportOpened (mode : Mode) (w : World) (g : Ledger) (file name : String)
    (source : ExportSource World OpfsSAHError) (w' : World) : Prop where
  ready : w.Ready
  mapped : w.mapFilenameToFile.lookup name = some file
  closed : w.openCount file = 0
  source_eq : ∃ content, w.directory.lookup file = some content ∧
    source = exportSource file (dataOf content.contents).length
  sidecars : ∀ suffix ∈ sidecars, ∀ sidecar content,
    w.mapFilenameToFile.lookup (name ++ suffix) = some sidecar →
    w.directory.lookup sidecar = some content → dataOf content.contents = []
  reserved : ∃ w₁, Rep mode w₁ g ∧ w.Looked w₁ ∧ w' = { w₁ with busy := true }

theorem checkSidecars_keeps (suffixes : List String) : ∀ {w : World}, Rep mode w g →
    Keeps mode reach (checkSidecars name suffixes) w g
      (fun _ w' g' => g' = g ∧ w.Looked w' ∧ ∀ suffix ∈ suffixes, ∀ sidecar content,
        w.mapFilenameToFile.lookup (name ++ suffix) = some sidecar →
        w.directory.lookup sidecar = some content → dataOf content.contents = [])
      fun _ w' g' => g' = g ∧ w.Looked w' := by
  induction suffixes with
  | nil => exact fun rep => .pure rep ⟨rfl, .refl _, nofun⟩
  | cons suffix suffixes ih =>
      intro w rep
      unfold checkSidecars
      refine .get_bind ?_
      rcases mapped : w.mapFilenameToFile.lookup (name ++ suffix) with _ | sidecar
      · refine (ih rep).mono ?_ fun _ _ _ failed => failed
        rintro _ w' g' ⟨same, looked, rest⟩
        refine ⟨same, looked, fun other member => ?_⟩
        rcases List.mem_cons.mp member with rfl | later
        · intro sidecar content here
          exact nomatch mapped.symm.trans here
        · exact rest other later
      obtain ⟨content, found, -⟩ := rep.content_of_mapped mapped
      refine .bind (.mapErr (onSlot_looks rep (mem_held_mapped mapped) found
        (size_does rep.allowed sidecar))) ?_
      rintro size w₁ g₁ evolves ⟨rfl, looked, rfl⟩
      refine .ite (fun _ => .fail evolves.rep ⟨rfl, looked⟩) fun small => ?_
      have empty : dataOf content.contents = [] := by
        rw [ne_eq, not_not] at small
        exact List.length_eq_zero_iff.mp small
      refine (ih evolves.rep).mono ?_ fun _ _ _ failed => ⟨failed.1, looked.trans failed.2⟩
      rintro _ w' g' ⟨same, looked', rest⟩
      refine ⟨same, looked.trans looked', fun other member => ?_⟩
      rcases List.mem_cons.mp member with rfl | later
      · intro sidecar' content' here there
        obtain rfl := Option.some.inj (mapped.symm.trans here)
        obtain rfl := Option.some.inj (found.symm.trans there)
        exact empty
      · intro sidecar' content' here there
        refine rest other later sidecar' content' ?_ ?_
        · rw [looked.still.names]
          exact here
        · rw [looked.contents]
          exact there

theorem openExport_ends (rep : Rep mode w g) (name : String) :
    Prog.Ends (openExport name) w
      (fun source w' => ∃ file, ExportOpened mode w g file name source w')
      (fun _ w' => Rep mode w' g ∧ w.Looked w')
      fun w' => ∃ w₁ g₁, Evolves mode (fun _ => False) w g w₁ g₁ ∧ w₁.directory = w'.directory := by
  unfold openExport
  rcases checkActive_run (w := w) with ⟨run, ready⟩ | ⟨error, run, -⟩
  swap
  · exact Prog.Ends.of_err (Prog.bind_err run _) ⟨rep, .refl w⟩
  refine Prog.Ends.after_ok run ?_
  cases validateFilename name with
  | error error => exact Prog.Ends.fail ⟨rep, .refl w⟩
  | ok _ =>
    rw [Prog.ofExcept_ok, Prog.pure_bind]
    refine Prog.Ends.get_bind ?_
    rcases mapped : w.mapFilenameToFile.lookup name with _ | file
    · exact Prog.Ends.fail ⟨rep, .refl w⟩
    dsimp only
    refine Prog.Ends.ite (fun _ => Prog.Ends.fail ⟨rep, .refl w⟩) fun closed => ?_
    rw [ne_eq, not_not] at closed
    obtain ⟨content, found, -⟩ := rep.content_of_mapped mapped
    have checked : Keeps mode (fun _ => False) (checkSidecars name sidecars) w g _ _ :=
      checkSidecars_keeps sidecars rep
    refine Prog.Ends.bind_of checked ?_ ?_ fun _ crashed => crashed
    swap
    · rintro _ w' ⟨g', evolves, rfl, looked⟩
      exact ⟨evolves.rep, looked⟩
    rintro _ w₁ ⟨g₁, evolves, rfl, looked, empty⟩
    have mapped₁ : w₁.mapFilenameToFile.lookup name = some file := by
      rw [looked.still.names]
      exact mapped
    have found₁ : w₁.directory.lookup file = some content := by
      rw [looked.contents]
      exact found
    have sized : Keeps mode (fun _ => False)
        (Prog.mapErr OpfsSAHError.backend (onSlot file (SyncAccessFile.size file))) w₁ g₁
        (fun size w' g' => g' = g₁ ∧ w₁.Looked w' ∧ size = (dataOf content.contents).length)
        fun _ w' g' => g' = g₁ ∧ w₁.Looked w' :=
      .mapErr (onSlot_looks evolves.rep (mem_held_mapped mapped₁) found₁
        (size_does evolves.rep.allowed file))
    refine Prog.Ends.bind_of (Keeps.after evolves sized) ?_ ?_ fun _ crashed => crashed
    · rintro size w₂ ⟨g₂, evolves₂, rfl, looked₂, rfl⟩
      have settings := (looked.trans looked₂).settings
      have ready₂ : w₂.Ready := ⟨settings.state.trans ready.active, settings.busy.trans ready.free,
        ((looked.trans looked₂).still.suspect).trans ready.healthy⟩
      exact Prog.Ends.after_ok (beginOperation_ready ready₂) (Prog.Ends.pure
        ⟨file, ready, mapped, closed, ⟨content, found, rfl⟩, empty, w₂, evolves₂.rep,
          looked.trans looked₂, rfl⟩)
    · rintro _ w' ⟨g', evolves', rfl, looked'⟩
      exact ⟨evolves'.rep, looked.trans looked'⟩

theorem ExportOpened.exporting {source : ExportSource World OpfsSAHError}
    (opened : ExportOpened mode w g file name source w') (rep : Rep mode w g) :
    Rep mode w' g ∧ Exporting w' g file name := by
  obtain ⟨w₁, rep₁, looked, rfl⟩ := opened.reserved
  refine ⟨rep₁.guard nofun, looked.settings.state.trans opened.ready.active,
    looked.still.suspect.trans opened.ready.healthy, rep.idle opened.ready.free, ?_, ?_⟩
  · change w₁.mapFilenameToFile.lookup name = some file
    rw [looked.still.names]
    exact opened.mapped
  · change w₁.openCount file = 0
    rw [looked.settings.openCount]
    exact opened.closed

/-! ## Ending an import -/

structure Reclaimed (w : World) (g : Ledger) (w' : World) (g' : Ledger) : Prop where
  still : w.Still w'
  ledger : g' = g.unstage

/-- The slot of an import could not be reset, and is set apart. -/
structure Lost (mode : Mode) (file filename : String) (data : List UInt8) (w : World) (g : Ledger)
    (w' : World) (g' : Ledger) : Prop where
  loud : mode ≠ .quiet
  suspect : w'.needsRecovery = true
  names : w'.mapFilenameToFile = w.mapFilenameToFile
  available : w.availableFiles = w'.availableFiles ++ [file]
  quarantined : w'.quarantinedFiles = w.quarantinedFiles ++ [file]
  ledger : g' = g.unstage ∨ g' = g.assign filename file (.uncertain data)

def Unimported (mode : Mode) (blank : Prop) (file filename : String) (data : List UInt8) (w : World)
    (g : Ledger) (w' : World) (g' : Ledger) : Prop :=
  (Reclaimed w g w' g' ∨ Lost mode file filename data w g w' g') ∧ (blank → g' = g.unstage)

theorem Unimported.idle {blank : Prop} {data : List UInt8}
    (left : Unimported mode blank file filename data w g w' g') : g'.staging = none := by
  obtain ⟨reclaimed | lost, -⟩ := left
  · rw [reclaimed.ledger]
    rfl
  · rcases lost.ledger with same | assigned
    · rw [same]
      rfl
    · rw [assigned]
      rfl

section

variable {rest : List String} {data : List UInt8} {w₀ : World}

theorem cleanup_ends (rep : Rep mode w g) (healthy : w.needsRecovery = false)
    (staging : g.staging = some (file, data)) (vacant : filename ∉ w.mapFilenameToFile)
    {stored : List UInt8} (left : Unpublished mode filename stored content')
    (found : w.directory.lookup file = some content) (reached : w.Reached file content content' w₀)
    (allowed : ∀ reply ∈ w₀.env.replies, Reply.Allowed mode reply) :
    Prog.Ends (ImportTarget.cleanup file) w₀
      (fun _ w' => ∃ g', Evolves mode (Only filename) w g w' g' ∧ Reclaimed w g w' g')
      (fun _ w' => ∃ g', Evolves mode (Only filename) w g w' g' ∧
        Lost mode file filename stored w g w' g' ∧ (Blank mode content' → g' = g.unstage))
      fun w' => ∃ w₁ g₁, Evolves mode (Only filename) w g w₁ g₁ ∧
        w₁.directory = w'.directory ∧ (Blank mode content' → g₁ = g.unstage) := by
  obtain ⟨rest, top⟩ := List.getLast?_eq_some_iff.mp (rep.staged file data staging).1
  have there : w₀.directory.lookup file = some content' := reached.there found
  unfold ImportTarget.cleanup
  refine Prog.Ends.attempt_bind (associate_none_ends allowed there) ?_ ?_ ?_
  · rintro _ last ⟨content'', replies', allowed', rfl, rfl⟩
    rw [reached.after]
    have renewed : Evolves mode (Only filename) w g _ g.unstage :=
      evolves_renew rep top (erased_fresh content') allowed'
    rw [← top] at renewed
    exact Prog.Ends.pure ⟨g.unstage, renewed, ⟨rfl, rfl, rfl, rfl⟩, rfl⟩
  · rintro error last ⟨content'', replies', allowed', rfl, loud, erasing⟩
    rw [reached.after]
    obtain ⟨g', moves, ledger⟩ := evolves_quarantine rep healthy top vacant (only_self _)
      (left.erasing erasing) allowed'
    have popped := popAvailable_some (w := w.after file content'' replies') top
    refine Prog.Ends.after_ok popped ?_
    rw [Prog.unwrap_some, Prog.pure_bind]
    refine Prog.Ends.modify_bind (Prog.Ends.modify_bind (Prog.Ends.fail
      ⟨g', moves, ⟨loud, rfl, rfl, top, rfl, ledger.imp id And.right⟩, fun blank => ?_⟩))
    exact ledger.resolve_right fun assigned => assigned.1 (blank.erasing erasing)
  · rintro last ⟨content'', replies', rfl, -, erasing⟩
    obtain ⟨g', moves, ledger⟩ := evolves_quarantine rep healthy top vacant (only_self _)
      (left.erasing erasing) noReplies
    refine ⟨_, g', moves, by rw [reached.after]; rfl, fun blank => ?_⟩
    exact ledger.resolve_right fun assigned => assigned.1 (blank.erasing erasing)

theorem abortWithError_ends (rep : Rep mode w g) (healthy : w.needsRecovery = false)
    (staging : g.staging = some (file, data)) (vacant : filename ∉ w.mapFilenameToFile)
    {stored : List UInt8} (left : Unpublished mode filename stored content')
    (found : w.directory.lookup file = some content) (reached : w.Reached file content content' w₀)
    (allowed : ∀ reply ∈ w₀.env.replies, Reply.Allowed mode reply) (error : OpfsSAHError) :
    Prog.Ends (ImportTarget.abortWithError file error) w₀
      (fun _ w' => ∃ g', Evolves mode (Only filename) w g w' g' ∧
        Unimported mode (Blank mode content') file filename stored w g w' g')
      (fun _ _ => False)
      fun w' => ∃ w₁ g₁, Evolves mode (Only filename) w g w₁ g₁ ∧
        w₁.directory = w'.directory ∧ (Blank mode content' → g₁ = g.unstage) := by
  unfold ImportTarget.abortWithError
  refine Prog.Ends.attempt_bind (cleanup_ends rep healthy staging vacant left found reached
    allowed) ?_ ?_
    fun _ crashed => crashed
  · rintro _ w' ⟨g', evolves, reclaimed⟩
    exact Prog.Ends.pure ⟨g', evolves, .inl reclaimed, fun _ => reclaimed.ledger⟩
  · rintro cleanup w' ⟨g', evolves, lost, blank⟩
    exact Prog.Ends.pure ⟨g', evolves, .inr lost, blank⟩

theorem drop_ends (rep : Rep mode w g) (healthy : w.needsRecovery = false)
    (staging : g.staging = some (file, data)) (vacant : filename ∉ w.mapFilenameToFile)
    {stored : List UInt8} (left : Unpublished mode filename stored content')
    (found : w.directory.lookup file = some content) (reached : w.Reached file content content' w₀)
    (allowed : ∀ reply ∈ w₀.env.replies, Reply.Allowed mode reply) :
    Prog.Ends (ImportTarget.drop file) w₀
      (fun _ w' => ∃ g', Evolves mode (Only filename) w g w' g' ∧
        Unimported mode (Blank mode content') file filename stored w g w' g')
      (fun _ _ => False)
      fun w' => ∃ w₁ g₁, Evolves mode (Only filename) w g w₁ g₁ ∧
        w₁.directory = w'.directory ∧ (Blank mode content' → g₁ = g.unstage) := by
  unfold ImportTarget.drop
  refine Prog.Ends.attempt_bind (cleanup_ends rep healthy staging vacant left found reached
    allowed) ?_ ?_
    fun _ crashed => crashed
  · rintro _ w' ⟨g', evolves, reclaimed⟩
    exact Prog.Ends.pure ⟨g', evolves, .inl reclaimed, fun _ => reclaimed.ledger⟩
  · rintro cleanup w' ⟨g', evolves, lost, blank⟩
    exact Prog.Ends.pure ⟨g', evolves, .inr lost, blank⟩

theorem classified_mainDb : Classified SqliteOpen.mainDb := by decide

theorem seal_does (staged : Staged mode data content) {replies : List Reply}
    (allowed : ∀ reply ∈ replies, Reply.Allowed mode reply) (filename : String) :
    Does mode (do
        SyncAccessFile.flush
        SyncAccessFile.associate (some filename) SqliteOpen.mainDb) ⟨content, replies⟩
      (fun _ file => StorableName filename ∧ Named mode filename false true data file ∧
        ∃ contents, file = Journal.settled contents)
      fun file => Unpublished mode filename data file := by
  refine Does.bind ((flush_does allowed).mono (fun _ _ holds => holds) ?_) ?_
  · rintro _ ⟨-, rfl | rfl⟩
    · exact .inl staged.blank
    · exact .inl staged.flush.blank
  · rintro _ _ replies' allowed' rfl
    refine (associate_some_does allowed' filename SqliteOpen.mainDb).mono ?_ ?_
    · rintro _ _ ⟨storable, rfl⟩
      exact ⟨storable, staged.flush.signed (storedHeader_of storable fun _ => classified_mainDb),
        _, rfl⟩
    · exact fun file stopped => staged.flush.unpublished (fun _ => classified_mainDb) stopped

structure Committed (filename file : String) (data : List UInt8) (w w' : World) (g' : Ledger) :
    Prop where
  healthy : w'.needsRecovery = false
  storable : StorableName filename
  names : w'.mapFilenameToFile = w.mapFilenameToFile.insert filename file
  available : w.availableFiles = w'.availableFiles ++ [file]
  entry : g'.entry filename = .present false true data
  settled : ∃ contents, w'.directory.lookup file = some (Journal.settled contents)
  idle : g'.staging = none

theorem commit_ends (rep : Rep mode w g) (importing : Importing w g file filename data) :
    Prog.Ends (ImportTarget.commit file filename) w
      (fun _ w' => ∃ g', Evolves mode (Only filename) w g w' g' ∧
        Committed filename file data w w' g')
      (fun _ w' => ∃ g', Evolves mode (Only filename) w g w' g' ∧
        Unimported mode False file filename data w g w' g')
      fun w' => ∃ w₁ g₁, Evolves mode (Only filename) w g w₁ g₁ ∧
        w₁.directory = w'.directory := by
  obtain ⟨atTop, content, found, staged⟩ := rep.staged file data importing.staging
  obtain ⟨rest, top⟩ := List.getLast?_eq_some_iff.mp atTop
  unfold ImportTarget.commit
  refine Prog.Ends.attempt_bind (onSlot_ends found (seal_does staged rep.allowed filename))
    ?_ ?_ ?_
  · rintro _ next ⟨_, replies, allowed, rfl, storable, named, contents, rfl⟩
    have popped := popAvailable_some (w := w.after file (Journal.settled contents) replies) top
    refine Prog.Ends.after_ok popped ?_
    rw [Prog.unwrap_some, Prog.pure_bind]
    have asked : Evolves mode (Only filename) w g { w with env := { w.env with replies } } g :=
      .asked rep allowed
    exact Prog.Ends.modify ⟨_, asked.trans (.move asked.rep (.assign _ g filename file rest false
      data (Journal.settled contents) importing.healthy top importing.vacant.1 named)
      (update_outside (only_self _) _) (asked.rep.apart_available (Rep.mem_top top))),
      importing.healthy, storable, rfl, top, Function.update_self _ _ _,
      ⟨contents, AList.lookup_insert _⟩, rfl⟩
  · rintro error next ⟨content', replies, allowed, rfl, left⟩
    refine Prog.Ends.bind_of (Prog.Ends.widen ((abortWithError_ends rep importing.healthy
      importing.staging importing.vacant.1 left found (.inr ⟨replies, rfl⟩) allowed error).mono
      (fun _ _ holds => holds) (fun _ _ impossible => impossible.elim) ?_)) ?_
      (fun _ _ impossible => impossible) fun _ crashed => crashed
    · exact fun w' ⟨w₁, g₁, evolves, same, _⟩ => ⟨w₁, g₁, evolves, same⟩
    · exact fun _ w' ⟨g', evolves, result, _⟩ => Prog.Ends.fail ⟨g', evolves, result, False.elim⟩
  · rintro next ⟨content', replies, rfl, left⟩
    obtain ⟨g', moves, -⟩ := evolves_quarantine rep importing.healthy top importing.vacant.1
      (only_self _) left noReplies
    exact ⟨_, g', moves, rfl⟩

end

end Sahpool

end SqliteVfs
