import SqliteVfs.Sahpool.HeaderGrammar
import SqliteVfs.Sahpool.Keeps

/-!
# Names that come and go

The guards of the pool, and the calls that give a slot its name or take it away:
`delete_file`, `with_new_file` and `clear`.
-/

set_option autoImplicit false

namespace SqliteVfs

namespace Sahpool

variable {mode : Mode} {reach : String → Prop} {w w' : World} {g g' : Ledger}
  {file name : String} {content : SlotFile} {ε α : Type}

/-! ## Guards -/

/-- A pool that `check_active` accepts. -/
structure World.Ready (w : World) : Prop where
  active : w.state = .active
  free : w.busy = false
  healthy : w.needsRecovery = false

theorem checkState_run : (checkState.run w = (.ok (), w) ∧ w.state = .active) ∨
    ∃ error, checkState.run w = (.err error, w) ∧ w.state ≠ .active := by
  unfold checkState
  rw [Prog.get_bind]
  rcases state : w.state with _ | _ | _
  · exact .inl ⟨rfl, rfl⟩
  · exact .inr ⟨_, rfl, nofun⟩
  · exact .inr ⟨_, rfl, nofun⟩

theorem checkActive_run : (checkActive.run w = (.ok (), w) ∧ w.Ready) ∨
    ∃ error, checkActive.run w = (.err error, w) ∧ ¬ w.Ready := by
  unfold checkActive
  rcases checkState_run (w := w) with ⟨run, active⟩ | ⟨error, run, inactive⟩
  · rw [Prog.bind_ok run, Prog.get_bind]
    by_cases busy : w.busy = true
    · rw [if_pos busy]
      exact .inr ⟨_, rfl, fun ready => nomatch busy.symm.trans ready.free⟩
    · rw [if_neg busy]
      by_cases suspect : w.needsRecovery = true
      · rw [if_pos suspect]
        exact .inr ⟨_, rfl, fun ready => nomatch suspect.symm.trans ready.healthy⟩
      · rw [if_neg suspect]
        exact .inl ⟨rfl, active, Bool.eq_false_iff.mpr busy, Bool.eq_false_iff.mpr suspect⟩
  · rw [Prog.bind_err run]
    exact .inr ⟨error, rfl, fun ready => inactive ready.active⟩

theorem checkActive_keeps (rep : Rep mode w g) : Keeps mode reach checkActive w g
    (fun _ w' g' => w' = w ∧ g' = g ∧ w.Ready) fun _ w' g' => w' = w ∧ g' = g ∧ ¬ w.Ready := by
  rcases checkActive_run (w := w) with ⟨run, ready⟩ | ⟨error, run, unready⟩
  · exact .of_ok run ⟨g, .refl rep, rfl, rfl, ready⟩
  · exact .of_err run ⟨g, .refl rep, rfl, rfl, unready⟩

def World.AllClosed (w : World) : Prop :=
  ∀ name file, w.mapFilenameToFile.lookup name = some file → w.openCount file = 0

theorem checkClosed_run : (checkClosed.run w = (.ok (), w) ∧ w.AllClosed) ∨
    (checkClosed.run w = (.err .filesInUse, w) ∧ ¬ w.AllClosed) := by
  unfold checkClosed
  rw [Prog.get_bind]
  by_cases inUse : (w.mapFilenameToFile.entries.any fun entry => w.openCount entry.2 ≠ 0) = true
  · rw [if_pos inUse]
    refine .inr ⟨rfl, fun closed => ?_⟩
    obtain ⟨entry, member, opened⟩ := List.any_eq_true.mp inUse
    have mapped : w.mapFilenameToFile.lookup entry.1 = some entry.2 :=
      AList.mem_lookup_iff.mpr member
    simp [closed entry.1 entry.2 mapped] at opened
  · rw [if_neg inUse]
    refine .inl ⟨rfl, fun name file mapped => ?_⟩
    by_contra opened
    refine inUse (List.any_eq_true.mpr ⟨⟨name, file⟩, AList.mem_lookup_iff.mp mapped, ?_⟩)
    simp [opened]

/-- A program that only asks its surroundings. -/
structure World.Consulted (mode : Mode) (w w' : World) : Prop where
  eq : ∃ env, w' = { w with env }
  allowed : ∀ reply ∈ w'.env.replies, Reply.Allowed mode reply

theorem World.Consulted.evolves (consulted : w.Consulted mode w') (rep : Rep mode w g) :
    Evolves mode reach w g w' g := by
  obtain ⟨⟨env, rfl⟩, allowed⟩ := consulted
  exact .asked rep allowed

theorem tryReserve_keeps (rep : Rep mode w g) : Keeps mode reach tryReserve w g
    (fun _ w' g' => w.Consulted mode w' ∧ g' = g)
    fun _ w' g' => w.Consulted mode w' ∧ g' = g ∧ false ∈ w.env.grants := by
  unfold Keeps Prog.Ends Prog.wp tryReserve
  dsimp only
  rcases grants : w.env.grants with _ | ⟨granted, rest⟩
  · exact ⟨g, .refl rep, ⟨⟨w.env, rfl⟩, rep.allowed⟩, rfl⟩
  · have consulted : w.Consulted mode { w with env := { w.env with grants := rest } } :=
      ⟨⟨_, rfl⟩, rep.allowed⟩
    cases granted with
    | true => exact ⟨g, consulted.evolves rep, consulted, rfl⟩
    | false => exact ⟨g, consulted.evolves rep, consulted, rfl, List.mem_cons_self⟩

theorem noReplies : ∀ reply ∈ ([] : List Reply), Reply.Allowed mode reply := nofun

/-! ## Deleting -/

theorem Rep.absent_of_unmapped (rep : Rep mode w g) (loaded : g.loaded = true)
    (healthy : w.needsRecovery = false) (unmapped : name ∉ w.mapFilenameToFile) :
    g.entry name = .absent := by
  cases state : g.entry name with
  | absent => rfl
  | present temporary durable data =>
      obtain ⟨file, owned⟩ := (rep.disk (rep.known loaded)).kept name temporary durable data state
      exact absurd owned (rep.vacant loaded healthy unmapped file)
  | uncertain data => exact absurd state (rep.healthy loaded healthy name data)

theorem Rep.present_of_mapped (rep : Rep mode w g) (loaded : g.loaded = true)
    (healthy : w.needsRecovery = false) (mapped : w.mapFilenameToFile.lookup name = some file) :
    ∃ temporary durable data, g.entry name = .present temporary durable data := by
  obtain ⟨content, -, holds⟩ := rep.content_of_mapped mapped
  cases state : g.entry name with
  | absent =>
      rw [state] at holds
      exact holds.elim
  | present temporary durable data => exact ⟨temporary, durable, data, rfl⟩
  | uncertain data => exact absurd state (rep.healthy loaded healthy name data)

theorem associate_none_ends (allowed : ∀ reply ∈ w.env.replies, reply.Allowed mode)
    (found : w.directory.lookup file = some content) :
    Prog.Ends (associate file none 0) w
      (fun _ w' => ∃ content' replies, (∀ reply ∈ replies, Reply.Allowed mode reply) ∧
        w' = w.after file content' replies ∧ content' = erased content)
      (fun _ w' => ∃ content' replies, (∀ reply ∈ replies, Reply.Allowed mode reply) ∧
        w' = w.after file content' replies ∧ mode ≠ .quiet ∧ Erasing mode content content')
      (fun w' => ∃ content' replies, w' = w.after file content' replies ∧ mode ≠ .quiet ∧
        Erasing mode content content') := by
  have does : Does mode (SyncAccessFile.associate none 0) ⟨content, w.env.replies⟩
      (fun _ file => file = erased content)
      (fun file => mode ≠ .quiet ∧ Erasing mode content file) :=
    associate_none_does allowed
  exact onSlot_ends found does

/-- The slot of a closed file is reset, but only in part. -/
theorem evolves_doubt (rep : Rep mode w g)
    (mapped : w.mapFilenameToFile.lookup name = some file)
    (closed : w.openCount file = 0) (found : w.directory.lookup file = some content)
    (inside : reach name) {content' : SlotFile} {replies : List Reply}
    (rest : ∀ reply ∈ replies, Reply.Allowed mode reply) (erasing : Erasing mode content content') :
    Evolves mode reach w g { w.after file content' replies with needsRecovery := true }
      (g.doubt name) := by
  have asked : Evolves mode reach w g { w with env := { w.env with replies } } g := .asked rep rest
  exact asked.trans (.move asked.rep
    (.doubt _ g name file content content' mapped closed found erasing) (update_outside inside _)
    (asked.rep.apart_mapped mapped inside))

theorem evolves_free (rep : Rep mode w g) (content : SlotFile)
    (mapped : w.mapFilenameToFile.lookup name = some file)
    (closed : w.openCount file = 0) (idle : g.staging = none) (inside : reach name)
    {replies : List Reply} (rest : ∀ reply ∈ replies, Reply.Allowed mode reply) :
    Evolves mode reach w g
      { w.after file (erased content) replies with
        mapFilenameToFile := w.mapFilenameToFile.erase name
        availableFiles := w.availableFiles ++ [file] }
      (g.remove name file) := by
  have asked : Evolves mode reach w g { w with env := { w.env with replies } } g := .asked rep rest
  exact asked.trans (.move asked.rep (.free _ g name file (erased content) mapped closed idle
    (erased_fresh content)) (update_outside inside _) (asked.rep.apart_mapped mapped inside))

structure Deleted (name : String) (w w' : World) (g' : Ledger) : Prop where
  ready : w.Ready
  healthy : w'.needsRecovery = false
  absent : g'.entry name = .absent
  gone : name ∉ w'.mapFilenameToFile
  others : ∀ other, other ≠ name →
    w'.mapFilenameToFile.lookup other = w.mapFilenameToFile.lookup other

/-- What a deletion that failed has done: nothing, or the file may be gone. -/
def DeleteFailed (mode : Mode) (name : String) (w : World) (g : Ledger) (w' : World)
    (g' : Ledger) : Prop :=
  (w' = w ∧ g' = g) ∨ (w.Ready ∧ mode ≠ .quiet ∧ name ∈ w.mapFilenameToFile ∧
    w'.needsRecovery = true ∧ w'.mapFilenameToFile = w.mapFilenameToFile ∧
    w'.quarantinedFiles = w.quarantinedFiles ∧ g' = g.doubt name)

theorem Rep.idle (rep : Rep mode w g) (free : w.busy = false) : g.staging = none := by
  rcases staging : g.staging with _ | staged
  · rfl
  · exact nomatch free.symm.trans (rep.guarded staged staging)

theorem recycle_ends {β : Type} {f : Unit → PoolM β} {returns : β → World → Prop}
    {fails : OpfsSAHError → World → Prop} {crashes : World → Prop}
    (mapped : w.mapFilenameToFile.lookup name = some file)
    (rest : Prog.Ends (f ()) { w with
      mapFilenameToFile := w.mapFilenameToFile.erase name
      availableFiles := w.availableFiles ++ [file] } returns fails crashes) :
    Prog.Ends (removeFile name >>= fun file => Prog.unwrap file >>= fun file =>
      pushAvailable file >>= f) w returns fails crashes := by
  unfold removeFile
  rw [Prog.bind_assoc]
  refine Prog.Ends.get_bind ?_
  rw [Prog.bind_assoc]
  refine Prog.Ends.modify_bind ?_
  rw [Prog.pure_bind, mapped, Prog.unwrap_some, Prog.pure_bind]
  exact Prog.Ends.modify_bind rest

theorem deleteFile_keeps (rep : Rep mode w g) (loaded : g.loaded = true) (filename : String) :
    Keeps mode (Only filename) (deleteFile filename) w g
      (fun removed w' g' => Deleted filename w w' g' ∧
        (removed = true ↔ filename ∈ w.mapFilenameToFile))
      fun _ w' g' => DeleteFailed mode filename w g w' g' := by
  unfold deleteFile
  refine .bind ((checkActive_keeps rep).mono (fun _ _ _ holds => holds) ?_) ?_
  · rintro _ w' g' ⟨rfl, rfl, -⟩
    exact .inl ⟨rfl, rfl⟩
  rintro _ w' g' - ⟨rfl, rfl, ready⟩
  refine .get_bind ?_
  rcases mapped : w'.mapFilenameToFile.lookup filename with _ | file
  · have unmapped : filename ∉ w'.mapFilenameToFile := AList.lookup_eq_none.mp mapped
    refine .pure rep ⟨⟨ready, ready.healthy, ?_, unmapped, fun _ _ => rfl⟩, nofun, fun member =>
      absurd member unmapped⟩
    exact rep.absent_of_unmapped loaded ready.healthy unmapped
  have member : filename ∈ w'.mapFilenameToFile := AList.lookup_isSome.mp (by rw [mapped]; rfl)
  obtain ⟨content, found, -⟩ := rep.content_of_mapped mapped
  refine .ite (fun _ => .fail rep (.inl ⟨rfl, rfl⟩)) fun closed => ?_
  rw [ne_eq, not_not] at closed
  refine Prog.Ends.attempt_bind (associate_none_ends rep.allowed found) ?_ ?_ ?_
  · rintro _ next ⟨content', replies, rest, rfl, rfl⟩
    have moves : Evolves mode (Only filename) w' g' _ _ :=
      evolves_free rep content mapped closed (rep.idle ready.free) (only_self _) rest
    refine recycle_ends mapped (Prog.Ends.pure ⟨_, moves, ⟨ready, ready.healthy, ?_, ?_, ?_⟩,
      fun _ => member, fun _ => rfl⟩)
    · exact Function.update_self _ _ _
    · exact fun still => (AList.mem_erase.mp still).1 rfl
    · exact fun other different => AList.lookup_erase_ne different
  · rintro error next ⟨content', replies, rest, rfl, loud, erasing⟩
    exact Prog.Ends.modify_bind (Prog.Ends.fail
      ⟨_, evolves_doubt rep mapped closed found (only_self _) rest erasing,
        .inr ⟨ready, loud, member, rfl, rfl, rfl, rfl⟩⟩)
  · rintro next ⟨content', replies, rfl, -, erasing⟩
    exact ⟨_, _, evolves_doubt rep mapped closed found (only_self _) noReplies erasing, rfl⟩

/-! ## Creating -/

/-- Flags that a header reader accepts. -/
def Classified (flags : UInt32) : Prop := OneKind flags ∧ (Temporary flags → DeleteOnClose flags)

instance (flags : UInt32) : Decidable (Classified flags) :=
  inferInstanceAs (Decidable (_ ∧ (_ → _)))

theorem parseHeader_classified {flags : UInt32} (storable : StorableName name)
    (classified : Classified flags) : parseHeader (headerOf name flags) =
      .ok (if DeleteOnClose flags then none else some name) := by
  rw [parseHeader_of_flags storable, if_neg (not_not.mpr classified.1)]
  by_cases deleted : DeleteOnClose flags
  · rw [if_pos deleted, if_pos deleted]
  · rw [if_neg deleted, if_neg deleted, if_neg (mt classified.2 deleted)]

theorem storedHeader_of {flags : UInt32} (storable : StorableName name)
    (classified : mode ≠ .lax → Classified flags) :
    StoredHeader mode name (decide (DeleteOnClose flags)) (headerOf name flags) where
  storable := storable
  length_eq := storable.length_headerOf flags
  field := storable.take_headerOf flags
  parsed strict := by
    rw [parseHeader_classified storable (classified strict)]
    simp only [decide_eq_true_eq]

theorem associate_some_ends (allowed : ∀ reply ∈ w.env.replies, reply.Allowed mode)
    (found : w.directory.lookup file = some content) (filename : String) (flags : UInt32) :
    Prog.Ends (associate file (some filename) flags) w
      (fun _ w' => ∃ content' replies, (∀ reply ∈ replies, Reply.Allowed mode reply) ∧
        w' = w.after file content' replies ∧ StorableName filename ∧
        content' = signed (headerOf filename flags) content)
      (fun _ w' => ∃ content' replies, (∀ reply ∈ replies, Reply.Allowed mode reply) ∧
        w' = w.after file content' replies ∧ ((¬ StorableName filename ∧ content' = content) ∨
          (mode ≠ .quiet ∧ StorableName filename ∧
            Signing mode (headerOf filename flags) content content')))
      (fun w' => ∃ content' replies, w' = w.after file content' replies ∧
        ((¬ StorableName filename ∧ content' = content) ∨ (mode ≠ .quiet ∧
          StorableName filename ∧ Signing mode (headerOf filename flags) content content'))) := by
  have does : Does mode (SyncAccessFile.associate (some filename) flags) ⟨content, w.env.replies⟩
      (fun _ file => StorableName filename ∧ file = signed (headerOf filename flags) content)
      (fun file => (¬ StorableName filename ∧ file = content) ∨ (mode ≠ .quiet ∧
        StorableName filename ∧ Signing mode (headerOf filename flags) content file)) :=
    associate_some_does allowed filename flags
  exact onSlot_ends found does

structure Created (mode : Mode) (filename : String) (flags : UInt32) (w w' : World) (g' : Ledger) :
    Prop where
  ready : w.Ready
  fresh : filename ∉ w.mapFilenameToFile
  healthy : w'.needsRecovery = false
  storable : StorableName filename
  entry : g'.entry filename = .present (decide (DeleteOnClose flags)) true []
  slot : ∃ rest file content, w.availableFiles = rest ++ [file] ∧ w'.availableFiles = rest ∧
    w'.mapFilenameToFile = w.mapFilenameToFile.insert filename file ∧ Fresh content ∧
    w'.directory.lookup file = some (signed (headerOf filename flags) content)

/-- What is left of a slot when a creation stops before its name is published. -/
def Unpublished (mode : Mode) (filename : String) (data : List UInt8) (content' : SlotFile) :
    Prop :=
  Blank mode content' ∨ (StorableName filename ∧ Unclear mode filename data content')

theorem Staged.unpublished {flags : UInt32} {data : List UInt8} {content' : SlotFile}
    (staged : Staged mode data content) (classified : mode ≠ .lax → Classified flags)
    (stopped : (¬ StorableName name ∧ content' = content) ∨ (mode ≠ .quiet ∧ StorableName name ∧
      Signing mode (headerOf name flags) content content')) :
    Unpublished mode name data content' := by
  rcases stopped with ⟨-, rfl⟩ | ⟨-, storable, signing⟩
  · exact .inl staged.blank
  · exact .inr ⟨storable, staged.signing (storedHeader_of storable classified) signing⟩

theorem Unpublished.erasing {data : List UInt8} {content' : SlotFile}
    (left : Unpublished mode name data content) (erasing : Erasing mode content content') :
    Unpublished mode name data content' :=
  left.imp (fun blank => blank.erasing erasing) fun unclear =>
    ⟨unclear.1, unclear.2.erasing erasing⟩

theorem evolves_quarantine {rest : List String} {data : List UInt8} (rep : Rep mode w g)
    (healthy : w.needsRecovery = false) (top : w.availableFiles = rest ++ [file])
    (vacant : name ∉ w.mapFilenameToFile) (inside : reach name)
    (left : Unpublished mode name data content) {replies : List Reply}
    (allowed : ∀ reply ∈ replies, Reply.Allowed mode reply) :
    ∃ g', Evolves mode reach w g
      { w.after file content replies with
        availableFiles := rest
        quarantinedFiles := w.quarantinedFiles ++ [file]
        needsRecovery := true } g' ∧
      (g' = g.unstage ∨ (¬ Blank mode content ∧ g' = g.assign name file (.uncertain data))) := by
  have asked : Evolves mode reach w g { w with env := { w.env with replies } } g :=
    .asked rep allowed
  by_cases blank : Blank mode content
  · exact ⟨_, asked.trans (.move asked.rep (.quarantine _ g file rest content top blank)
      (fun _ _ => rfl) (asked.rep.apart_available (Rep.mem_top top))), .inl rfl⟩
  · obtain ⟨-, unclear⟩ := left.resolve_left blank
    exact ⟨_, asked.trans (.move asked.rep
      (.mislay _ g name file rest data content healthy top vacant unclear)
      (update_outside inside _) (asked.rep.apart_available (Rep.mem_top top))), .inr ⟨blank, rfl⟩⟩

/-- The top slot is reset and goes back. -/
theorem evolves_renew {rest : List String} (rep : Rep mode w g)
    (top : w.availableFiles = rest ++ [file]) (fresh : Fresh content) {replies : List Reply}
    (allowed : ∀ reply ∈ replies, Reply.Allowed mode reply) :
    Evolves mode reach w g { w.after file content replies with availableFiles := rest ++ [file] }
      g.unstage := by
  have asked : Evolves mode reach w g { w with env := { w.env with replies } } g :=
    .asked rep allowed
  rw [← top]
  exact asked.trans (.move asked.rep (.renew _ g file content (Rep.mem_top top)
    (fun _ _ staging => rep.staging_top top staging) fresh) (fun _ _ => rfl)
    (asked.rep.apart_available (Rep.mem_top top)))

theorem popAvailable_none (empty : w.availableFiles = []) : popAvailable.run w = (.ok none, w) := by
  unfold popAvailable
  rw [Prog.get_bind, Prog.modify_bind, empty]
  obtain ⟨⟩ := w
  cases empty
  rfl

theorem popAvailable_some {rest : List String} (top : w.availableFiles = rest ++ [file]) :
    popAvailable.run w = (.ok (some file), { w with availableFiles := rest }) := by
  unfold popAvailable
  rw [Prog.get_bind, Prog.modify_bind, top, List.dropLast_concat, List.getLast?_concat]
  rfl

/-- The part of a creation that may touch the slot. -/
theorem publish_ends {flags : UInt32} (allowed : ∀ reply ∈ w.env.replies, reply.Allowed mode)
    (found : w.directory.lookup file = some content) (fresh : Fresh content)
    (classified : mode ≠ .lax → Classified flags) :
    Prog.Ends (do
        onSlot file (pure ())
        associate file (some name) flags) w
      (fun _ w' => ∃ replies, (∀ reply ∈ replies, Reply.Allowed mode reply) ∧
        w' = w.after file (signed (headerOf name flags) content) replies ∧ StorableName name)
      (fun _ w' => ∃ content' replies, (∀ reply ∈ replies, Reply.Allowed mode reply) ∧
        w' = w.after file content' replies ∧ Unpublished mode name [] content')
      (fun w' => ∃ content' replies, w' = w.after file content' replies ∧
        Unpublished mode name [] content') := by
  have looked : (onSlot file (pure () : SyncAccessFile.M Unit)).run w =
      (.ok (), w.after file content w.env.replies) := by
    unfold onSlot
    dsimp only
    rw [found]
    rfl
  have staged : Staged mode [] content := fresh.staged
  have still : (w.after file content w.env.replies).directory.lookup file = some content :=
    AList.lookup_insert _
  refine Prog.Ends.after_ok looked (Prog.Ends.mono
    (associate_some_ends (w := w.after file content w.env.replies) allowed still name flags)
    ?_ ?_ ?_)
  · rintro _ w' ⟨content', replies, rest, rfl, storable, rfl⟩
    rw [World.after_after]
    exact ⟨replies, rest, rfl, storable⟩
  · rintro _ w' ⟨content', replies, rest, rfl, stopped⟩
    rw [World.after_after]
    exact ⟨content', replies, rest, rfl, staged.unpublished classified stopped⟩
  · rintro w' ⟨content', replies, rfl, stopped⟩
    rw [World.after_after]
    exact ⟨content', replies, rfl, staged.unpublished classified stopped⟩

/-- What a creation that failed leaves alone.  The file that it may leave is empty. -/
structure NotCreated (w : World) (g : Ledger) (w' : World) (g' : Ledger) : Prop where
  names : w'.mapFilenameToFile = w.mapFilenameToFile
  entries : w'.needsRecovery = false → g'.entry = g.entry
  left : ∃ name, (∀ other, other ≠ name → g'.entry other = g.entry other) ∧
    (g'.entry name = g.entry name ∨ g'.entry name = .uncertain [])

theorem NotCreated.of_same (names : w'.mapFilenameToFile = w.mapFilenameToFile)
    (same : g'.entry = g.entry) : NotCreated w g w' g' :=
  ⟨names, fun _ => same, "", fun _ _ => congrFun same _, .inl (congrFun same _)⟩

theorem NotCreated.of_lost (names : w'.mapFilenameToFile = w.mapFilenameToFile)
    (suspect : w'.needsRecovery = true) {file name : String}
    (ledger : g' = g.unstage ∨ g' = g.assign name file (.uncertain [])) :
    NotCreated w g w' g' where
  names := names
  entries healthy := by
    rw [suspect] at healthy
    cases healthy
  left := by
    rcases ledger with rfl | rfl
    · exact ⟨name, fun _ _ => rfl, .inl rfl⟩
    · exact ⟨name, fun other different => Function.update_of_ne different _ _,
        .inr (Function.update_self _ _ _)⟩

theorem withNewFile_keeps (rep : Rep mode w g) (filename : String) (flags : UInt32)
    (classified : mode ≠ .lax → Classified flags) :
    Keeps mode (Only filename) (withNewFile filename flags (pure ())) w g
      (fun _ w' g' => Created mode filename flags w w' g')
      fun _ w' g' => NotCreated w g w' g' := by
  unfold withNewFile
  refine .bind ((checkActive_keeps rep).mono (fun _ _ _ holds => holds) ?_) ?_
  · rintro _ w' g' ⟨rfl, rfl, -⟩
    exact .of_same rfl rfl
  rintro _ w' g' - ⟨rfl, rfl, ready⟩
  refine .get_bind (.ite (fun _ => .fail rep (.of_same rfl rfl)) fun unmapped => ?_)
  have vacant : filename ∉ w'.mapFilenameToFile := by simpa [World.hasFilename] using unmapped
  refine .bind ((tryReserve_keeps rep).mono (fun _ _ _ holds => holds) ?_) ?_
  · rintro _ next g'' ⟨⟨⟨env, rfl⟩, -⟩, rfl, -⟩
    exact .of_same rfl rfl
  rintro _ next g'' evolves ⟨⟨⟨env, rfl⟩, allowed⟩, rfl⟩
  have rep' := evolves.rep
  have idle := rep'.idle ready.free
  rcases List.eq_nil_or_concat w'.availableFiles with empty | ⟨rest, file, top⟩
  · have run := popAvailable_none (w := { w' with env }) empty
    exact Prog.Ends.of_err (Prog.bind_ok run _) ⟨g'', .refl rep', .of_same rfl rfl⟩
  rw [List.concat_eq_append] at top
  obtain ⟨unowned, content, found, state⟩ := rep'.available file (Rep.mem_top top)
  have fresh : Fresh content := by
    rcases state with fresh | ⟨data, staging⟩
    · exact fresh
    · exact nomatch idle.symm.trans staging
  have popped := popAvailable_some (w := { w' with env }) top
  refine Prog.Ends.after_ok popped (Prog.Ends.attempt_bind
    (publish_ends (w := { w' with env, availableFiles := rest }) allowed found fresh classified)
    ?_ ?_ ?_)
  · rintro _ next ⟨replies, rest', rfl, storable⟩
    have staged : Staged mode [] content := fresh.staged
    have stored : StoredHeader mode filename _ (headerOf filename flags) :=
      storedHeader_of storable classified
    have named := staged.signed stored
    have asked : Evolves mode (Only filename) { w' with env } g''
        { w' with env := { env with replies } } g'' := .asked rep' rest'
    have moves := asked.trans (.move asked.rep (.assign _ g'' filename file rest _ [] _
      ready.healthy top vacant named) (update_outside (only_self _) _)
      (asked.rep.apart_available (Rep.mem_top top)))
    refine Prog.Ends.modify ⟨_, moves, ⟨ready, vacant, ready.healthy, storable,
      Function.update_self _ _ _, rest, file, content, top, rfl, rfl, fresh,
      AList.lookup_insert _⟩⟩
  · rintro error next ⟨content', replies, rest', rfl, left⟩
    have there : (World.after { w' with env, availableFiles := rest } file content'
      replies).directory.lookup file = some content' := AList.lookup_insert _
    refine Prog.Ends.attempt_bind (associate_none_ends rest' there) ?_ ?_ ?_
    · rintro _ last ⟨content'', replies', rest'', rfl, rfl⟩
      rw [World.after_after]
      exact Prog.Ends.modify_bind (Prog.Ends.fail ⟨g''.unstage,
        evolves_renew rep' top (erased_fresh content') rest'', .of_same rfl rfl⟩)
    · rintro cleanup last ⟨content'', replies', rest'', rfl, -, erasing⟩
      rw [World.after_after]
      obtain ⟨g', moves, ledger⟩ := evolves_quarantine rep' ready.healthy top
        vacant (only_self _) (left.erasing erasing) rest''
      exact Prog.Ends.modify_bind (Prog.Ends.modify_bind (Prog.Ends.fail
        ⟨g', moves, .of_lost rfl rfl (ledger.imp_right fun assigned => assigned.2)⟩))
    · rintro last ⟨content'', replies', rfl, -, erasing⟩
      obtain ⟨g', moves, -⟩ := evolves_quarantine rep' ready.healthy top
        vacant (only_self _) (left.erasing erasing) noReplies
      exact ⟨_, g', moves, by rw [World.after_after]; rfl⟩
  · rintro next ⟨content', replies, rfl, left⟩
    obtain ⟨g', moves, -⟩ := evolves_quarantine rep' ready.healthy top vacant
      (only_self _) left noReplies
    exact ⟨_, g', moves, rfl⟩

/-! ## Operations -/

/-- An operation that is refused changes nothing; its end is the end of its guard. -/
theorem withOperation_ends {body : PoolM α} {returns : α → World → Prop}
    {fails : OpfsSAHError → World → Prop} {crashes : World → Prop}
    (refused : ∀ error, ¬ (w.state ≠ .removed ∧ w.busy = false) → fails error w)
    (inside : w.state ≠ .removed → w.busy = false → Prog.Ends body { w with busy := true }
      (fun value w' => returns value { w' with busy := false })
      (fun error w' => fails error { w' with busy := false }) crashes) :
    Prog.Ends (withOperation body) w returns fails crashes := by
  unfold withOperation beginOperation
  rw [Prog.bind_assoc]
  refine Prog.Ends.get_bind ?_
  by_cases removed : w.state = .removed
  · rw [if_pos removed]
    exact Prog.Ends.fail (refused _ fun accepted => accepted.1 removed)
  rw [if_neg removed]
  by_cases busy : w.busy = true
  · rw [if_pos busy]
    exact Prog.Ends.fail (refused _ fun accepted => nomatch busy.symm.trans accepted.2)
  rw [if_neg busy]
  exact Prog.Ends.modify_bind (Prog.Ends.ensure (inside removed (Bool.eq_false_iff.mpr busy)))

theorem Evolves.finish (evolves : Evolves mode reach { w with busy := true } g w' g')
    (free : w.busy = false) (idle : g'.staging = none) :
    Evolves mode reach w g { w' with busy := false } g' where
  rep := evolves.rep.guard fun _ => idle
  frame := {
    settings :=
      { evolves.frame.settings with
        openCount := evolves.frame.settings.openCount
        busy := free.symm }
    held := evolves.frame.held
    elsewhere := evolves.frame.elsewhere
    files := evolves.frame.files
    loaded := evolves.frame.loaded
    known := evolves.frame.known
    idle := evolves.frame.idle
    pinned := evolves.frame.pinned }
  entries := evolves.entries
  slots := evolves.slots

/-! ## Clearing -/

/-- What a clear that failed can make of a file: it is as it was, gone, or in doubt. -/
inductive Entry.Fades (entry : Entry) : Entry → Prop
  | kept : Fades entry entry
  | gone : Fades entry .absent
  | doubted (there : entry ≠ .absent) : Fades entry (.uncertain entry.data)

theorem Entry.Fades.trans {first second third : Entry} (before : first.Fades second)
    (after : second.Fades third) : first.Fades third := by
  cases before with
  | kept => exact after
  | gone =>
      cases after with
      | kept => exact .gone
      | gone => exact .gone
      | doubted there => exact absurd rfl there
  | doubted there =>
      cases after with
      | kept => exact .doubted there
      | gone => exact .gone
      | doubted _ => exact .doubted there

def Faded (g g' : Ledger) : Prop := ∀ name, (g.entry name).Fades (g'.entry name)

theorem Faded.of_same {g g' : Ledger} (same : g'.entry = g.entry) : Faded g g' := by
  intro name
  rw [same]
  exact .kept

theorem Faded.trans {g g' g'' : Ledger} (first : Faded g g') (second : Faded g' g'') :
    Faded g g'' :=
  fun name => (first name).trans (second name)

theorem Faded.remove (g : Ledger) (name file : String) : Faded g (g.remove name file) := by
  intro other
  by_cases same : other = name
  · subst same
    have gone : (g.remove other file).entry other = .absent := Function.update_self _ _ _
    rw [gone]
    exact .gone
  · have kept : (g.remove name file).entry other = g.entry other := Function.update_of_ne same _ _
    rw [kept]
    exact .kept

theorem Rep.doubted (rep : Rep mode w g) (mapped : w.mapFilenameToFile.lookup name = some file) :
    Faded g (g.doubt name) := by
  intro other
  by_cases same : other = name
  · subst same
    have doubted : (g.doubt other).entry other = .uncertain (g.entry other).data :=
      Function.update_self _ _ _
    obtain ⟨content, -, holds⟩ := rep.content_of_mapped mapped
    rw [doubted]
    refine .doubted fun absent => ?_
    rw [absent] at holds
    exact holds
  · have kept : (g.doubt name).entry other = g.entry other := Function.update_of_ne same _ _
    rw [kept]
    exact .kept

def Everything : String → Prop := fun _ => True

theorem everything (name : String) : Everything name := trivial

theorem World.eq_suspect (suspect : w.needsRecovery = true) :
    { w with needsRecovery := true } = w := by
  obtain ⟨⟩ := w
  cases suspect
  rfl

theorem World.AllClosed.of_frame (closed : w.AllClosed) (frame : Frame w g w' g')
    (fewer : ∀ name file, w'.mapFilenameToFile.lookup name = some file →
      w.mapFilenameToFile.lookup name = some file) : w'.AllClosed := by
  intro name file mapped
  rw [frame.settings.openCount]
  exact closed name file (fewer name file mapped)

theorem clearNames_keeps (names : List String) : ∀ {w : World} {g : Ledger}, Rep mode w g →
    g.staging = none → w.AllClosed → w.needsRecovery = true → names.Nodup →
    (∀ name ∈ names, name ∈ w.mapFilenameToFile) → (∀ name ∈ names, reach name) →
    Keeps mode reach (clearNames names) w g
      (fun _ w' g' => g'.staging = none ∧ w'.needsRecovery = true ∧
        w'.quarantinedFiles = w.quarantinedFiles ∧
        (∀ name, name ∈ w'.mapFilenameToFile ↔ name ∈ w.mapFilenameToFile ∧ name ∉ names) ∧
        Faded g g')
      fun _ w' g' => g'.staging = none ∧ mode ≠ .quiet ∧ w'.needsRecovery = true ∧ Faded g g' := by
  induction names with
  | nil =>
      intro w g rep idle _ suspect _ _ _
      exact .pure rep ⟨idle, suspect, rfl, fun name => by simp, .of_same rfl⟩
  | cons name names ih =>
      intro w g rep idle closed suspect distinct present inside
      obtain ⟨fresh, distinct⟩ := List.nodup_cons.mp distinct
      have here := inside name List.mem_cons_self
      obtain ⟨file, mapped⟩ := Option.isSome_iff_exists.mp
        (AList.lookup_isSome.mpr (present name List.mem_cons_self))
      obtain ⟨content, found, -⟩ := rep.content_of_mapped mapped
      have shut := closed name file mapped
      unfold clearNames
      refine .get_bind ?_
      rw [mapped, Prog.unwrap_some, Prog.pure_bind]
      refine Prog.Ends.bind_of (associate_none_ends rep.allowed found) ?_ ?_ ?_
      · rintro _ next ⟨content', replies, rest, rfl, rfl⟩
        have freed := evolves_free rep content mapped shut idle here rest
        refine recycle_ends mapped (Keeps.after freed ((ih freed.rep (freed.frame.idle idle)
          (closed.of_frame freed.frame ?_) suspect distinct ?_ fun other member =>
            inside other (List.mem_cons_of_mem _ member)).mono ?_ ?_))
        · exact fun other slot there => (AList.lookup_erase_ne (by
            rintro rfl
            rw [AList.lookup_erase] at there
            exact nomatch there)).symm.trans there
        · exact fun other member => AList.mem_erase.mpr
            ⟨fun same => fresh (same ▸ member), present other (List.mem_cons_of_mem _ member)⟩
        · rintro _ last g' ⟨idle', suspect', same, left, faded⟩
          refine ⟨idle', suspect', same, fun other => (left other).trans ?_,
            (Faded.remove g name file).trans faded⟩
          rw [List.mem_cons]
          constructor
          · rintro ⟨still, absent⟩
            obtain ⟨different, there⟩ := AList.mem_erase.mp still
            exact ⟨there, fun either => either.elim different absent⟩
          · rintro ⟨there, absent⟩
            exact ⟨AList.mem_erase.mpr ⟨fun same => absent (.inl same), there⟩,
              fun member => absent (.inr member)⟩
        · rintro _ last g' ⟨idle', loud, suspect', faded⟩
          exact ⟨idle', loud, suspect', (Faded.remove g name file).trans faded⟩
      · rintro error next ⟨content', replies, rest, rfl, loud, erasing⟩
        have doubted := evolves_doubt rep mapped shut found here rest erasing
        rw [World.eq_suspect (w := w.after file content' replies) suspect] at doubted
        exact ⟨_, doubted, idle, loud, suspect, rep.doubted mapped⟩
      · rintro next ⟨content', replies, rfl, -, erasing⟩
        exact ⟨_, _, evolves_doubt rep mapped shut found here noReplies erasing, rfl⟩

theorem popQuarantined_none (empty : w.quarantinedFiles = []) :
    popQuarantined.run w = (.ok none, w) := by
  unfold popQuarantined
  rw [Prog.get_bind, Prog.modify_bind, empty]
  obtain ⟨⟩ := w
  cases empty
  rfl

theorem popQuarantined_some {rest : List String} (top : w.quarantinedFiles = rest ++ [file]) :
    popQuarantined.run w = (.ok (some file), { w with quarantinedFiles := rest }) := by
  unfold popQuarantined
  rw [Prog.get_bind, Prog.modify_bind, top, List.dropLast_concat, List.getLast?_concat]
  rfl

theorem clearQuarantined_keeps (rounds : Nat) : ∀ {w : World} {g : Ledger}, Rep mode w g →
    g.staging = none → w.needsRecovery = true → w.quarantinedFiles.length ≤ rounds →
    Keeps mode reach (clearQuarantined rounds) w g
      (fun _ w' g' => g'.staging = none ∧ w'.needsRecovery = true ∧ w'.quarantinedFiles = [] ∧
        w'.mapFilenameToFile = w.mapFilenameToFile)
      fun _ w' g' => g'.staging = none ∧ mode ≠ .quiet ∧ w'.needsRecovery = true ∧ Faded g g' := by
  induction rounds with
  | zero =>
      intro w g rep idle suspect few
      exact .pure rep ⟨idle, suspect, List.length_eq_zero_iff.mp (Nat.le_zero.mp few), rfl⟩
  | succ rounds ih =>
      intro w g rep idle suspect few
      unfold clearQuarantined
      rcases List.eq_nil_or_concat w.quarantinedFiles with empty | ⟨rest, file, top⟩
      · exact Prog.Ends.after_ok (popQuarantined_none empty)
          (Keeps.pure rep ⟨idle, suspect, empty, rfl⟩)
      rw [List.concat_eq_append] at top
      have member : file ∈ w.quarantinedFiles := by
        rw [top]
        exact List.mem_append_right _ (List.mem_singleton.mpr rfl)
      obtain ⟨content, found⟩ := Option.isSome_iff_exists.mp
        (AList.lookup_isSome.mpr (rep.quarantined file member).2.1)
      -- A stopped reset leaves the slot where it was.
      have shaken {content' : SlotFile} {replies : List Reply}
          (rest' : ∀ reply ∈ replies, Reply.Allowed mode reply)
          (erasing : Erasing mode content content') : Evolves mode reach w g
            { w.after file content' replies with quarantinedFiles := rest ++ [file] } g := by
        rw [← top]
        have asked : Evolves mode reach w g { w with env := { w.env with replies } } g :=
          .asked rep rest'
        exact asked.trans (.move asked.rep (.shake _ g file content content' member found erasing)
          (fun _ _ => rfl) (asked.rep.apart_quarantined member))
      refine Prog.Ends.after_ok (popQuarantined_some top) (Prog.Ends.attempt_bind
        (associate_none_ends (w := { w with quarantinedFiles := rest }) rep.allowed found) ?_ ?_ ?_)
      · rintro _ next ⟨content', replies, rest', rfl, rfl⟩
        have asked : Evolves mode reach w g { w with env := { w.env with replies } } g :=
          .asked rep rest'
        have restored := asked.trans (.move asked.rep (.restore _ g file rest (erased content) top
          idle (erased_fresh content)) (fun _ _ => rfl) (asked.rep.apart_quarantined member))
        refine Prog.Ends.modify_bind (Keeps.after restored
          (ih restored.rep (restored.frame.idle idle) suspect ?_))
        rw [top, List.length_append, List.length_singleton] at few
        exact Nat.le_of_succ_le_succ few
      · rintro error next ⟨content', replies, rest', rfl, loud, erasing⟩
        exact Prog.Ends.modify_bind (Prog.Ends.fail
          ⟨g, shaken rest' erasing, idle, loud, suspect, .of_same rfl⟩)
      · rintro next ⟨content', replies, rfl, -, erasing⟩
        exact ⟨_, g, shaken noReplies erasing, rfl⟩

structure World.Clearable (w : World) : Prop where
  active : w.state = .active
  free : w.busy = false
  closed : w.AllClosed

structure Cleared (w' : World) (g' : Ledger) : Prop where
  healthy : w'.needsRecovery = false
  names : w'.mapFilenameToFile = ∅
  quarantined : w'.quarantinedFiles = []
  entries : ∀ name, g'.entry name = .absent

def Ledger.Filled (g : Ledger) : String → Prop := fun name => g.entry name ≠ .absent

theorem Rep.filled_of_mapped (rep : Rep mode w g) (member : name ∈ w.mapFilenameToFile) :
    g.Filled name := by
  intro absent
  obtain ⟨file, mapped⟩ := Option.isSome_iff_exists.mp (AList.lookup_isSome.mpr member)
  obtain ⟨content, -, holds⟩ := rep.content_of_mapped mapped
  rw [absent] at holds
  exact holds

/-- Clearing a pool brings no file about. -/
theorem clear_keeps_filled (rep : Rep mode w g) (loaded : w.state = .active → g.loaded = true) :
    Keeps mode g.Filled clear w g (fun _ w' g' => w.Clearable ∧ Cleared w' g')
      fun _ w' g' => (w' = w ∧ g' = g ∧ ¬ w.Clearable) ∨
        (w.Clearable ∧ mode ≠ .quiet ∧ w'.needsRecovery = true ∧ Faded g g') := by
  unfold clear
  rcases checkState_run (w := w) with ⟨run, active⟩ | ⟨error, run, inactive⟩
  swap
  · exact Prog.Ends.of_err (Prog.bind_err run _)
      ⟨g, .refl rep, .inl ⟨rfl, rfl, fun clearable => inactive clearable.active⟩⟩
  refine Prog.Ends.after_ok run
    (withOperation_ends (fun error refused => ?_) fun running free => ?_)
  · refine ⟨g, .refl rep, .inl ⟨rfl, rfl, fun clearable => refused ⟨?_, clearable.free⟩⟩⟩
    rw [active]
    exact nofun
  have idle := rep.idle free
  have guarded : Rep mode { w with busy := true } g := rep.guard nofun
  rcases checkClosed_run (w := { w with busy := true }) with ⟨run, closed⟩ | ⟨run, opened⟩
  swap
  · refine Prog.Ends.of_err (Prog.bind_err run _) ⟨g, ?_, .inl ⟨?_, rfl, ?_⟩⟩
    · exact (Evolves.refl guarded).finish free idle
    · obtain ⟨⟩ := w
      cases free
      rfl
    · exact fun clearable => opened clearable.closed
  have clearable : w.Clearable := ⟨active, free, closed⟩
  refine Prog.Ends.after_ok run (Prog.Ends.modify_bind ?_)
  have suspected : Evolves mode g.Filled { w with busy := true } g
      { w with busy := true, needsRecovery := true } g :=
    .move guarded (.suspect _ g) (fun _ _ => rfl) fun _ _ _ _ => rfl
  have emptied : Keeps mode g.Filled (do
      let w ← Prog.get
      clearNames w.getFilenames
      let w ← Prog.get
      clearQuarantined w.quarantinedFiles.length
      setNeedsRecovery false) { w with busy := true, needsRecovery := true } g
      (fun _ w' g' => g'.staging = none ∧ Cleared w' g')
      fun _ w' g' => g'.staging = none ∧ mode ≠ .quiet ∧ w'.needsRecovery = true ∧ Faded g g' := by
    refine .get_bind (.bind (clearNames_keeps _ suspected.rep idle closed rfl
      (AList.keys_nodup _) (fun _ member => AList.mem_keys.mpr member)
      fun _ member => rep.filled_of_mapped (AList.mem_keys.mpr member)) ?_)
    rintro _ w₁ g₁ evolves₁ ⟨idle₁, suspect₁, -, left, faded⟩
    have unnamed : w₁.mapFilenameToFile = ∅ := by
      refine AList.ext ?_
      refine List.eq_nil_iff_forall_not_mem.mpr fun entry member => ?_
      have key := List.mem_keys_of_mem member
      have both := (left entry.1).mp (AList.mem_keys.mpr key)
      exact both.2 (AList.mem_keys.mp both.1)
    refine .get_bind (.bind ((clearQuarantined_keeps _ evolves₁.rep idle₁ suspect₁ le_rfl).mono
      (fun _ _ _ done => done) fun _ _ _ failed =>
        ⟨failed.1, failed.2.1, failed.2.2.1, faded.trans failed.2.2.2⟩) ?_)
    rintro _ w₂ g₂ evolves₂ ⟨idle₂, -, calm, same⟩
    have active₂ : g₂.loaded = true := by
      rw [evolves₂.frame.loaded, evolves₁.frame.loaded]
      exact loaded active
    have empty : w₂.mapFilenameToFile = ∅ := same.trans unnamed
    have trusted : Evolves mode g.Filled w₂ g₂ { w₂ with needsRecovery := false } g₂.forget := by
      refine .move evolves₂.rep (.trust w₂ g₂ active₂ empty calm) (fun name outside => ?_)
        fun _ _ _ _ => rfl
      rw [evolves₂.entries name outside, evolves₁.entries name outside]
      exact (not_not.mp outside).symm
    exact Prog.Ends.modify ⟨_, trusted, idle₂, rfl, empty, calm, fun _ => rfl⟩
  refine Prog.Ends.mono (Keeps.after suspected emptied) ?_ ?_ ?_
  · rintro _ w' ⟨g', evolves, idle', cleared⟩
    exact ⟨g', evolves.finish free idle', clearable, cleared.1, cleared.2, cleared.3, cleared.4⟩
  · rintro error w' ⟨g', evolves, idle', loud, suspect, faded⟩
    exact ⟨g', evolves.finish free idle', .inr ⟨clearable, loud, suspect, faded⟩⟩
  · rintro w' ⟨w₁, g₁, evolves, same⟩
    exact ⟨_, g₁, evolves.finish free (evolves.frame.idle idle), same⟩

theorem clear_keeps (rep : Rep mode w g) (loaded : w.state = .active → g.loaded = true) :
    Keeps mode Everything clear w g (fun _ w' g' => w.Clearable ∧ Cleared w' g')
      fun _ w' g' => (w' = w ∧ g' = g ∧ ¬ w.Clearable) ∨
        (w.Clearable ∧ mode ≠ .quiet ∧ w'.needsRecovery = true ∧ Faded g g') :=
  (clear_keeps_filled rep loaded).wider fun name _ => everything name

end Sahpool

end SqliteVfs
