import SqliteVfs.Sahpool.DataSpec

/-!
# Opening and closing

What `open_file` and `close_file` do to a faithful pool, with every failure on the way.
-/

set_option autoImplicit false

namespace SqliteVfs

namespace Sahpool

variable {mode : Mode} {reach : String → Prop} {w w' : World} {g g' : Ledger}
  {file name : String} {content content' : SlotFile} {ε ε' α β : Type}

/-! ## Opening -/

theorem checkActive_refuses (unready : ¬ w.Ready) (f : Unit → PoolM α) :
    ∃ error, (checkActive >>= f).run w = (.err error, w) := by
  rcases checkActive_run (w := w) with ⟨-, ready⟩ | ⟨error, run, -⟩
  · exact absurd ready unready
  · exact ⟨error, Prog.bind_err run f⟩

theorem deleteFile_refuses (unready : ¬ w.Ready) (name : String) :
    ∃ error, (deleteFile name).run w = (.err error, w) := by
  unfold deleteFile
  exact checkActive_refuses unready _

theorem openFile_refuses (unready : ¬ w.Ready) (request : OpenRequest) :
    ∃ error, (openFile request).run w = (.err error, w) := by
  unfold openFile
  rcases checkActive_run (w := w) with ⟨-, ready⟩ | ⟨error, run, -⟩
  · exact absurd ready unready
  · exact ⟨_, Prog.mapErr_err (Prog.bind_err run _) _⟩

theorem openExport_refuses (unready : ¬ w.Ready) (name : String) :
    ∃ error, (openExport name).run w = (.err error, w) := by
  unfold openExport
  exact checkActive_refuses unready _

theorem World.Ready.consulted (ready : w.Ready) (consulted : w.Consulted mode w') : w'.Ready := by
  obtain ⟨⟨env, rfl⟩, -⟩ := consulted
  exact ⟨ready.active, ready.free, ready.healthy⟩

theorem World.Consulted.refl (allowed : ∀ reply ∈ w.env.replies, Reply.Allowed mode reply) :
    w.Consulted mode w := ⟨⟨w.env, rfl⟩, allowed⟩

theorem World.Consulted.trans {w'' : World} (first : w.Consulted mode w')
    (second : w'.Consulted mode w'') : w.Consulted mode w'' := by
  obtain ⟨⟨env, rfl⟩, -⟩ := first
  obtain ⟨⟨env', rfl⟩, allowed⟩ := second
  exact ⟨⟨env', rfl⟩, allowed⟩

theorem tryReserve_ends (allowed : ∀ reply ∈ w.env.replies, Reply.Allowed mode reply) :
    Prog.Ends tryReserve w (fun _ w' => w.Consulted mode w') (fun _ w' => w.Consulted mode w')
      fun _ => False := by
  unfold Prog.Ends Prog.wp tryReserve
  dsimp only
  rcases w.env.grants with _ | ⟨granted, rest⟩
  · exact .refl allowed
  · cases granted <;> exact ⟨⟨_, rfl⟩, allowed⟩

theorem World.Consulted.names (consulted : w.Consulted mode w') :
    w'.mapFilenameToFile = w.mapFilenameToFile := by
  obtain ⟨⟨env, rfl⟩, -⟩ := consulted
  rfl

def Generated (name : String) : Prop := ∀ letter ∈ name.toList, letter ∈ charset

theorem generated_ofList (bytes : List UInt8) :
    Generated (String.ofList (bytes.map fun byte => charset.getD (byte.toNat % 62) 'A')) := by
  intro letter member
  rw [String.toList_ofList] at member
  obtain ⟨byte, -, rfl⟩ := List.mem_map.mp member
  have inside : byte.toNat % 62 < charset.length := Nat.mod_lt _ (by decide)
  rw [List.getD_eq_getElem?_getD, List.getElem?_eq_getElem inside, Option.getD_some]
  exact List.getElem_mem inside

theorem randomName_ends (allowed : ∀ reply ∈ w.env.replies, Reply.Allowed mode reply) :
    Prog.Ends randomName w (fun name w' => w.Consulted mode w' ∧ Generated name)
      (fun _ w' => w.Consulted mode w') fun _ => False := by
  have asked : Prog.Ends osRandom w (fun _ w' => w.Consulted mode w')
      (fun _ w' => w.Consulted mode w') fun _ => False := by
    unfold Prog.Ends Prog.wp osRandom
    dsimp only
    rcases w.env.randomness with _ | ⟨⟨count, bytes⟩, rest⟩
    · exact .refl allowed
    · exact ⟨⟨_, rfl⟩, allowed⟩
  refine Prog.Ends.bind asked ?_
  intro answer next consulted
  exact Prog.Ends.ite (fun _ => Prog.Ends.fail consulted) fun _ =>
    Prog.Ends.pure ⟨consulted, generated_ofList answer.2⟩

theorem temporaryName_ends (attempts : Nat) : ∀ {w : World},
    (∀ reply ∈ w.env.replies, Reply.Allowed mode reply) →
    Prog.Ends (temporaryName attempts) w
      (fun name w' => w.Consulted mode w' ∧ name ∉ w.mapFilenameToFile ∧ Generated name)
      (fun _ w' => w.Consulted mode w') fun _ => False := by
  induction attempts with
  | zero => exact fun allowed => Prog.Ends.fail (.refl allowed)
  | succ attempts ih =>
      intro w allowed
      refine Prog.Ends.bind (Prog.Ends.mapErr (randomName_ends allowed)) ?_
      rintro candidate next ⟨consulted, generated⟩
      refine Prog.Ends.get_bind (Prog.Ends.ite (fun _ => ?_) fun unused => ?_)
      · refine (ih consulted.allowed).mono ?_ ?_ fun _ impossible => impossible
        · rintro name last ⟨later, fresh, generated⟩
          rw [consulted.names] at fresh
          exact ⟨consulted.trans later, fresh, generated⟩
        · exact fun _ last later => consulted.trans later
      · rw [World.hasFilename, consulted.names, decide_eq_true_eq] at unused
        exact Prog.Ends.pure ⟨consulted, unused, generated⟩

theorem requestedName_ends (allowed : ∀ reply ∈ w.env.replies, Reply.Allowed mode reply)
    (request : OpenRequest) : Prog.Ends (requestedName request) w
      (fun temporary w' => w.Consulted mode w' ∧ ∃ name,
        request.filename.or temporary = some name ∧
        (request.filename = none → name ∉ w.mapFilenameToFile ∧ Generated name))
      (fun _ w' => w.Consulted mode w') fun _ => False := by
  unfold requestedName
  rcases named : request.filename with _ | name
  · refine Prog.Ends.bind_of (temporaryName_ends maxFilenameAttempts allowed) ?_
      (fun _ _ holds => holds) fun _ impossible => impossible
    rintro name next ⟨consulted, fresh⟩
    exact Prog.Ends.pure ⟨consulted, name, rfl, fun _ => fresh⟩
  · exact Prog.Ends.pure ⟨.refl allowed, name, rfl, nofun⟩

def Creates (w : World) (name : String) (options : OpenOptions) : String → Prop :=
  fun other => other = name ∧ name ∉ w.mapFilenameToFile ∧ options.create = true

theorem openOrCreate_keeps (rep : Rep mode w g) (filename : String) (options : OpenOptions)
    (classified : options.create = true → filename ∉ w.mapFilenameToFile → mode ≠ .lax →
      Classified options.rawFlags) :
    Keeps mode (Creates w filename options) (openOrCreate filename options) w g
      (fun _ w' g' => ((filename ∈ w.mapFilenameToFile ∧ w' = w ∧ g' = g) ∨
          (options.create = true ∧ Created mode filename options.rawFlags w w' g')) ∧
        (filename ∈ w.mapFilenameToFile → options.exclusive = false))
      fun _ w' g' => NotCreated w g w' g' := by
  unfold openOrCreate
  refine .get_bind (.ite (fun present => ?_) fun absent => ?_)
  · have member : filename ∈ w.mapFilenameToFile := by simpa [World.hasFilename] using present
    refine .ite (fun _ => .fail rep (.of_same rfl rfl)) fun shared => ?_
    exact .pure rep ⟨.inl ⟨member, rfl, rfl⟩, fun _ => Bool.eq_false_iff.mpr shared⟩
  · have unmapped : filename ∉ w.mapFilenameToFile := by simpa [World.hasFilename] using absent
    refine .ite (fun _ => .fail rep (.of_same rfl rfl)) fun creating => ?_
    have created : options.create = true := by simpa using creating
    refine ((withNewFile_keeps rep filename options.rawFlags (classified created unmapped)).mono ?_
      fun _ _ _ failed => failed).wider fun other only => ⟨only, unmapped, created⟩
    exact fun _ w' g' made => ⟨.inr ⟨created, made⟩, fun member => absurd member unmapped⟩

def World.opening (w : World) (file : String) : World :=
  { w with openCount := Function.update w.openCount file (w.openCount file + 1) }

structure Opens (w : World) (request : OpenRequest) (name : String) : Prop where
  create : request.options.create = true
  vacant : name ∉ w.mapFilenameToFile
  requested : ∀ asked, request.filename = some asked → asked = name
  generated : request.filename = none → Generated name

def Introduces (w : World) (request : OpenRequest) : Prop :=
  request.options.create = true ∧
    ∀ name, request.filename = some name → name ∉ w.mapFilenameToFile

/-- What an open that returned has done to the names, before it counted the handle. -/
structure Opened (mode : Mode) (request : OpenRequest) (w : World) (g : Ledger)
    (opened : OpenedFile) (w' : World) (g' : Ledger) (name file : String) : Prop where
  ready : w.Ready
  free : w'.busy = false
  healthy : w'.needsRecovery = false
  named : request.filename.or opened.file.temporaryName = some name
  mapped : w'.mapFilenameToFile.lookup name = some file
  slot : opened.file.file = file
  access : opened.access = request.options.access
  readOnly : opened.file.readOnly = decide (request.options.access = .readOnly)
  anonymous : request.filename = none → name ∉ w.mapFilenameToFile
  shared : name ∈ w.mapFilenameToFile → request.options.exclusive = false
  existing : (name ∈ w.mapFilenameToFile ∧ w'.mapFilenameToFile = w.mapFilenameToFile ∧ g' = g) ∨
    (request.options.create = true ∧
      ∃ w₀, w.Consulted mode w₀ ∧ Created mode name request.options.rawFlags w₀ w' g')

theorem openFile_ends (rep : Rep mode w g) (request : OpenRequest)
    (classified : Introduces w request → mode ≠ .lax → Classified request.options.rawFlags) :
    Prog.Ends (openFile request) w
      (fun opened w' => ∃ w₁ g₁ name file, Evolves mode (Opens w request) w g w₁ g₁ ∧
        Opened mode request w g opened w₁ g₁ name file ∧ w' = w₁.opening file)
      (fun _ w' => ∃ g', Evolves mode (Opens w request) w g w' g' ∧ NotCreated w g w' g')
      fun w' => ∃ w₁ g₁, Evolves mode (Opens w request) w g w₁ g₁ ∧
        w₁.directory = w'.directory := by
  unfold openFile
  refine Prog.Ends.mapErr ?_
  rcases checkActive_run (w := w) with ⟨run, ready⟩ | ⟨error, run, -⟩
  swap
  · exact Prog.Ends.of_err (Prog.bind_err run _) ⟨g, .refl rep, .of_same rfl rfl⟩
  refine Prog.Ends.after_ok run (Prog.Ends.bind_of (requestedName_ends rep.allowed request) ?_ ?_
    fun _ impossible => impossible.elim)
  swap
  · rintro _ w₀ consulted
    refine ⟨g, consulted.evolves rep, ?_⟩
    obtain ⟨⟨env, rfl⟩, -⟩ := consulted
    exact .of_same rfl rfl
  rintro temporary w₀ ⟨consulted, name, named, unused⟩
  have before : Evolves mode (Opens w request) w g w₀ g := consulted.evolves rep
  have ready₀ := ready.consulted consulted
  have names := consulted.names
  have inside (other : String) (creates : Creates w₀ name request.options other) :
      Opens w request other := by
    obtain ⟨rfl, absent, creating⟩ := creates
    rw [names] at absent
    refine ⟨creating, absent, fun requested same => ?_, fun anonymous => (unused anonymous).2⟩
    rw [same] at named
    exact Option.some.inj named
  rw [named, Prog.unwrap_some, Prog.pure_bind]
  have refusal : ∃ g', Evolves mode (Opens w request) w g w₀ g' ∧ NotCreated w g w₀ g' :=
    ⟨g, before, .of_same names rfl⟩
  have introduces (creating : request.options.create = true)
    (absent : name ∉ w₀.mapFilenameToFile) :
      Introduces w request := by
    refine ⟨creating, fun requested same => ?_⟩
    rw [same] at named
    obtain rfl : requested = name := Option.some.inj named
    rw [← names]
    exact absent
  have rest : Prog.Ends (openOrCreate name request.options >>= fun _ =>
      openHandle name >>= fun file =>
        pure (⟨⟨temporary, file, request.options.access = .readOnly⟩, request.options.access⟩ :
          OpenedFile)) w₀
      (fun opened w' => ∃ w₁ g₁ name file, Evolves mode (Opens w request) w g w₁ g₁ ∧
        Opened mode request w g opened w₁ g₁ name file ∧ w' = w₁.opening file)
      (fun _ w' => ∃ g', Evolves mode (Opens w request) w g w' g' ∧ NotCreated w g w' g')
      fun w' => ∃ w₁ g₁, Evolves mode (Opens w request) w g w₁ g₁ ∧
        w₁.directory = w'.directory := by
    refine Prog.Ends.bind_of (Keeps.after before ((openOrCreate_keeps before.rep name
      request.options fun creating absent => classified (introduces creating absent)).wider inside))
      ?_ ?_ fun _ crashed => crashed
    · rintro _ w₁ ⟨g₁, evolves, done, shared⟩
      obtain ⟨file, mapped, healthy⟩ : ∃ file, w₁.mapFilenameToFile.lookup name = some file ∧
          w₁.needsRecovery = false := by
        rcases done with ⟨member, rfl, -⟩ | ⟨-, created⟩
        · obtain ⟨file, mapped⟩ := Option.isSome_iff_exists.mp (AList.lookup_isSome.mpr member)
          exact ⟨file, mapped, ready₀.healthy⟩
        · obtain ⟨rest, file, content, -, -, inserted, -⟩ := created.slot
          exact ⟨file, by rw [inserted, AList.lookup_insert], created.healthy⟩
      unfold openHandle
      rw [Prog.bind_assoc]
      refine Prog.Ends.get_bind ?_
      rw [mapped, Prog.unwrap_some, Prog.pure_bind, Prog.bind_assoc]
      refine Prog.Ends.modify_bind (Prog.Ends.pure ⟨w₁, g₁, name, file, evolves, ?_, rfl⟩)
      rw [names] at shared
      refine ⟨ready, evolves.frame.settings.busy.trans ready.free, healthy, named, mapped, rfl, rfl,
        rfl, fun anonymous => (unused anonymous).1, shared, ?_⟩
      rcases done with ⟨member, rfl, rfl⟩ | ⟨creating, created⟩
      · rw [names] at member
        exact .inl ⟨member, names, rfl⟩
      · exact .inr ⟨creating, w₀, consulted, created⟩
    · rintro _ w₁ ⟨g₁, evolves, failed⟩
      exact ⟨g₁, evolves, { failed with names := failed.names.trans names }⟩
  split
  · cases validateFilename name with
    | ok _ => exact rest
    | error error => exact Prog.Ends.fail refusal
  · exact rest

/-! ## Closing -/

def World.closing (w : World) (file : String) : World :=
  { w with openCount := Function.update w.openCount file (w.openCount file - 1) }

structure World.Still (w w' : World) : Prop where
  available : w'.availableFiles = w.availableFiles
  names : w'.mapFilenameToFile = w.mapFilenameToFile
  quarantined : w'.quarantinedFiles = w.quarantinedFiles
  suspect : w'.needsRecovery = w.needsRecovery

theorem World.Still.refl (w : World) : w.Still w := ⟨rfl, rfl, rfl, rfl⟩

theorem World.Still.trans {w'' : World} (first : w.Still w') (second : w'.Still w'') :
    w.Still w'' where
  available := second.available.trans first.available
  names := second.names.trans first.names
  quarantined := second.quarantined.trans first.quarantined
  suspect := second.suspect.trans first.suspect

/-- What a close has done once its handle is gone: it has flushed the slot, or tried to. -/
structure Flushed (mode : Mode) (w : World) (g : Ledger) (name file : String) (w' : World) :
    Prop where
  evolves : Evolves mode (Only name) (w.closing file) g w' g
  still : (w.closing file).Still w'
  here : ∃ content content', w.directory.lookup file = some content ∧
    w'.directory.lookup file = some content' ∧ (content' = content ∨ content' = content.flush)
  others : ∀ other, other ≠ file → w'.directory.lookup other = w.directory.lookup other

theorem flushed_after (rep : Rep mode w g) (mapped : w.mapFilenameToFile.lookup name = some file)
    (found : w.directory.lookup file = some content)
    (flushed : content' = content ∨ content' = content.flush) {replies : List Reply}
    (allowed : ∀ reply ∈ replies, Reply.Allowed mode reply) :
    Flushed mode w g name file ((w.after file content' replies).closing file) := by
  have closed : Rep mode (w.closing file) g := rep.closing file
  have asked : Evolves mode (Only name) (w.closing file) g
      { w.closing file with env := { w.env with replies } } g := .asked closed allowed
  refine ⟨?_, ⟨rfl, rfl, rfl, rfl⟩, ⟨content, content', found, AList.lookup_insert _, flushed⟩,
    fun other different => AList.lookup_insert_ne different⟩
  rcases flushed with rfl | rfl
  · exact asked.trans (.move asked.rep
      (.touch _ g file content' (mem_held_mapped (w := { w.closing file with
        env := { w.env with replies } }) mapped) found) (fun _ _ => rfl)
      fun _ other _ _ => apart_touch (w := w) found other)
  · exact asked.trans (.move asked.rep
      (.flush _ g file content (mem_held_mapped (w := { w.closing file with
        env := { w.env with replies } }) mapped) found) (fun _ _ => rfl)
      (asked.rep.apart_mapped mapped (only_self name)))

def Closed (name : String) (options : OpenOptions) (w : World) (g : Ledger) (w' : World)
    (g' : Ledger) : Prop :=
  (options.deleteOnClose = false ∧ w' = w ∧ g' = g) ∨
    (options.deleteOnClose = true ∧ Deleted name w w' g')

theorem storeDelete_keeps (rep : Rep mode w g) (loaded : g.loaded = true) (name : String) :
    Keeps mode (Only name) (VfsStore.deleteFile name) w g
      (fun _ w' g' => Deleted name w w' g') fun _ w' g' => DeleteFailed mode name w g w' g' := by
  unfold VfsStore.deleteFile
  refine .bind (.mapErr (deleteFile_keeps rep loaded name)) ?_
  intro _ w' g' evolves deleted
  exact .pure evolves.rep deleted.1

theorem deleteOnClose_ends (rep : Rep mode w g) (loaded : g.loaded = true) (name : String)
    (options : OpenOptions) : Prog.Ends
      (if options.deleteOnClose then VfsStore.deleteFile name else pure ()) w
      (fun _ w' => ∃ g', Evolves mode (Only name) w g w' g' ∧ Closed name options w g w' g')
      (fun _ w' => ∃ g', Evolves mode (Only name) w g w' g' ∧
        options.deleteOnClose = true ∧ DeleteFailed mode name w g w' g')
      fun w' => options.deleteOnClose = true ∧
        ∃ w₁ g₁, Evolves mode (Only name) w g w₁ g₁ ∧ w₁.directory = w'.directory := by
  refine Prog.Ends.ite (fun deleting => ?_) fun keeping => ?_
  · refine Prog.Ends.mono (storeDelete_keeps rep loaded name) ?_ ?_ fun _ crashed =>
      ⟨deleting, crashed⟩
    · rintro _ w' ⟨g', evolves, deleted⟩
      exact ⟨g', evolves, .inr ⟨deleting, deleted⟩⟩
    · rintro _ w' ⟨g', evolves, failed⟩
      exact ⟨g', evolves, deleting, failed⟩
  · exact Prog.Ends.pure ⟨g, .refl rep, .inl ⟨Bool.eq_false_iff.mpr keeping, rfl, rfl⟩⟩

theorem dropHandle_run {handle : SyncAccessFileHandle} (inUse : w.openCount handle.file ≠ 0) :
    (VfsStore.dropHandle handle).run w = (.ok (), w.closing handle.file) := by
  unfold VfsStore.dropHandle
  rw [Prog.get_bind, Prog.checkedSub_of_le (Nat.one_le_iff_ne_zero.mpr inUse)]
  rfl

theorem flushed_ends (rep : Rep mode w g) (loaded : g.loaded = true)
    {handle : SyncAccessFileHandle} (options : OpenOptions)
    (mapped : w.mapFilenameToFile.lookup name = some handle.file)
    (inUse : w.openCount handle.file ≠ 0)
    (found : w.directory.lookup handle.file = some content) (flushed : Except VfsError Unit)
    {content' : SlotFile} {replies : List Reply}
    (allowed : ∀ reply ∈ replies, Reply.Allowed mode reply)
    (state : content' = content ∨ content' = content.flush) :
    Prog.Ends (VfsStore.dropHandle handle >>= fun _ => Prog.attempt (if options.deleteOnClose then
        VfsStore.deleteFile name else pure ()) >>= fun deleted => match flushed with
          | .error error => Prog.fail error
          | .ok () => Prog.ofExcept deleted) (w.after handle.file content' replies)
      (fun _ w' => ∃ w₁ g', Flushed mode w g name handle.file w₁ ∧
        Evolves mode (Only name) w₁ g w' g' ∧ Closed name options w₁ g w' g')
      (fun _ w' => ∃ w₁ g', Flushed mode w g name handle.file w₁ ∧
        Evolves mode (Only name) w₁ g w' g' ∧ (Closed name options w₁ g w' g' ∨
          (options.deleteOnClose = true ∧ DeleteFailed mode name w₁ g w' g')))
      fun w' => options.deleteOnClose = true ∧ ∃ w₁ g₁ w₂, Flushed mode w g name handle.file w₁ ∧
        Evolves mode (Only name) w₁ g w₂ g₁ ∧ w₂.directory = w'.directory := by
  have done := flushed_after rep mapped found state allowed
  have dropped := dropHandle_run (w := w.after handle.file content' replies) inUse
  refine Prog.Ends.after_ok dropped (Prog.Ends.attempt_bind
    (deleteOnClose_ends done.evolves.rep loaded name options) ?_ ?_ ?_)
  · rintro _ w' ⟨g', evolves, closed⟩
    cases flushed with
    | ok _ => exact Prog.Ends.pure ⟨_, g', done, evolves, closed⟩
    | error error => exact Prog.Ends.fail ⟨_, g', done, evolves, .inl closed⟩
  · rintro error w' ⟨g', evolves, failed⟩
    cases flushed with
    | ok _ => exact Prog.Ends.fail ⟨_, g', done, evolves, .inr failed⟩
    | error error => exact Prog.Ends.fail ⟨_, g', done, evolves, .inr failed⟩
  · rintro w' ⟨deletes, w₂, g₁, evolves, same⟩
    exact ⟨deletes, _, g₁, w₂, done, evolves, same⟩

/-- What a close leaves that never came back: the slot as it was or flushed, or a deletion that
had begun. -/
def ClosingStopped (mode : Mode) (name file : String) (options : OpenOptions) (w : World)
    (g : Ledger) (w' : World) : Prop :=
  (∃ w₁, Evolves mode (Only name) w g w₁ g ∧ w₁.directory = w'.directory ∧
    ∃ content content', w.directory.lookup file = some content ∧
      w'.directory.lookup file = some content' ∧ (content' = content ∨ content' = content.flush) ∧
      ∀ other, other ≠ file → w'.directory.lookup other = w.directory.lookup other) ∨
    (options.deleteOnClose = true ∧ ∃ w₁ g₁ w₂, Flushed mode w g name file w₁ ∧
      Evolves mode (Only name) w₁ g w₂ g₁ ∧ w₂.directory = w'.directory)

theorem closeFile_ends (rep : Rep mode w g) (loaded : g.loaded = true)
    {handle : SyncAccessFileHandle} {given : Option String} (options : OpenOptions)
    (named : given.or handle.temporaryName = some name)
    (mapped : w.mapFilenameToFile.lookup name = some handle.file)
    (inUse : w.openCount handle.file ≠ 0) :
    Prog.Ends (VfsStore.closeFile given handle options) w
      (fun _ w' => ∃ w₁ g', Flushed mode w g name handle.file w₁ ∧
        Evolves mode (Only name) w₁ g w' g' ∧ Closed name options w₁ g w' g')
      (fun _ w' => ∃ w₁ g', Flushed mode w g name handle.file w₁ ∧
        Evolves mode (Only name) w₁ g w' g' ∧ (Closed name options w₁ g w' g' ∨
          (options.deleteOnClose = true ∧ DeleteFailed mode name w₁ g w' g')))
      fun w' => ClosingStopped mode name handle.file options w g w' := by
  obtain ⟨content, found, -⟩ := rep.content_of_mapped mapped
  unfold VfsStore.closeFile
  rw [named, Prog.unwrap_some, Prog.pure_bind]
  have synced : Prog.Ends handle.sync w
      (fun _ w' => ∃ content' replies, (∀ reply ∈ replies, Reply.Allowed mode reply) ∧
        w' = w.after handle.file content' replies ∧
        (content' = content ∨ content' = content.flush))
      (fun _ w' => ∃ content' replies, (∀ reply ∈ replies, Reply.Allowed mode reply) ∧
        w' = w.after handle.file content' replies ∧
        (content' = content ∨ content' = content.flush))
      fun w' => ∃ content' replies, w' = w.after handle.file content' replies ∧
        (content' = content ∨ content' = content.flush) := by
    have does : Does mode SyncAccessFile.flush ⟨content, w.env.replies⟩
        (fun _ file => file = content ∨ file = content.flush)
        fun file => file = content ∨ file = content.flush :=
      (flush_does rep.allowed).mono (fun _ _ flushed => .inr flushed) fun _ stopped => stopped.2
    exact Prog.Ends.mapErr (onSlot_ends found does)
  refine Prog.Ends.attempt_bind synced ?_ ?_ ?_
  · rintro _ next ⟨content', replies, allowed, rfl, state⟩
    exact (flushed_ends rep loaded options mapped inUse found (.ok ()) allowed state).mono
      (fun _ _ holds => holds) (fun _ _ holds => holds) fun _ => .inr
  · rintro error next ⟨content', replies, allowed, rfl, state⟩
    exact (flushed_ends rep loaded options mapped inUse found (.error error) allowed state).mono
      (fun _ _ holds => holds) (fun _ _ holds => holds) fun _ => .inr
  · rintro next ⟨content', replies, rfl, state⟩
    -- The run was ended inside the flush, before the handle was dropped.
    refine .inl ⟨w.after handle.file content' [], ?_, rfl, content, content', found,
      AList.lookup_insert _, state, fun other different => AList.lookup_insert_ne different⟩
    have asked : Evolves mode (Only name) w g { w with env := { w.env with replies := [] } } g :=
      .asked rep noReplies
    rcases state with rfl | rfl
    · exact asked.trans (.move asked.rep (.touch _ g _ content' (mem_held_mapped mapped) found)
        (fun _ _ => rfl) fun _ other _ _ => apart_touch (w := w) found other)
    · exact asked.trans (.move asked.rep (.flush _ g _ content (mem_held_mapped mapped) found)
        (fun _ _ => rfl) (asked.rep.apart_mapped mapped (only_self name)))

end Sahpool

end SqliteVfs
