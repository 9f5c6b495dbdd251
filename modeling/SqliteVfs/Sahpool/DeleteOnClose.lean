import SqliteVfs.Core.MemDeleteOnClose
import SqliteVfs.Sahpool.PinnedSlots

/-!
# Delete-on-close in the access handle pool

A slot that still has handles is not deleted, and only the options of the handle at hand
are asked.  So a flag counts if it is that of the handle that is closed last, and no other.
-/

set_option autoImplicit false

namespace SqliteVfs

namespace Sahpool

variable {mode : Mode} {s s' : System} {w w' : World} {g g' : Ledger} {file name : String}
  {content : SlotFile}

/-! ## Closes without failures -/

def World.Unfailing (w : World) : Prop := ∀ reply ∈ w.env.replies, reply.Allowed .quiet

theorem deleteFile_succeeds (ready : w.Ready) (unfailing : w.Unfailing)
    (mapped : w.mapFilenameToFile.lookup name = some file) (shut : w.openCount file = 0)
    (found : w.directory.lookup file = some content) :
    Prog.Ends (VfsStore.deleteFile name) w
      (fun _ w' => file ∈ w'.availableFiles ∧ name ∉ w'.mapFilenameToFile ∧
        w'.directory.lookup file = some (erased content)) (fun _ _ => False) fun _ => False := by
  unfold VfsStore.deleteFile deleteFile
  obtain ⟨run, -⟩ | ⟨error, -, unready⟩ := checkActive_run (w := w)
  swap
  · exact absurd ready unready
  refine Prog.Ends.bind (Prog.Ends.mapErr (Prog.Ends.after_ok run (Prog.Ends.get_bind ?_)))
    fun _ _ holds => Prog.Ends.pure holds
  rw [mapped]
  dsimp only
  rw [if_neg (not_not.mpr shut)]
  refine Prog.Ends.attempt_bind (associate_none_ends unfailing found) ?_ ?_ ?_
  · rintro _ next ⟨content', replies, -, rfl, rfl⟩
    refine recycle_ends mapped (Prog.Ends.pure ⟨?_, ?_, ?_⟩)
    · exact List.mem_append_right _ (List.mem_singleton.mpr rfl)
    · exact fun member => (AList.mem_erase.mp member).1 rfl
    · exact AList.lookup_insert _
  · rintro _ _ ⟨_, _, _, _, loud, _⟩
    exact absurd rfl loud
  · rintro _ ⟨_, _, _, loud, _⟩
    exact absurd rfl loud

def World.Recycled (w : World) (file : String) : Prop :=
  file ∈ w.availableFiles ∧ ∃ content, w.directory.lookup file = some content ∧ Fresh content

/-- The last close of a slot deletes its file if its own options ask for that. -/
theorem closeFile_succeeds {handle : SyncAccessFileHandle} {given : Option String}
    {options : OpenOptions} (ready : w.Ready) (unfailing : w.Unfailing)
    (named : given.or handle.temporaryName = some name)
    (mapped : w.mapFilenameToFile.lookup name = some handle.file)
    (last : w.openCount handle.file = 1)
    (found : w.directory.lookup handle.file = some content) :
    Prog.Ends (VfsStore.closeFile given handle options) w
      (fun _ w' => options.deleteOnClose = true →
        name ∉ w'.mapFilenameToFile ∧ w'.Recycled handle.file)
      (fun _ _ => False) fun _ => False := by
  unfold VfsStore.closeFile
  rw [named, Prog.unwrap_some, Prog.pure_bind]
  have synced : Prog.Ends handle.sync w
      (fun _ w' => ∃ content' replies, (∀ reply ∈ replies, Reply.Allowed .quiet reply) ∧
        w' = w.after handle.file content' replies ∧ content' = content.flush)
      (fun _ w' => ∃ content' replies, (∀ reply ∈ replies, Reply.Allowed .quiet reply) ∧
        w' = w.after handle.file content' replies ∧ Mode.quiet ≠ .quiet)
      fun w' => ∃ content' replies, w' = w.after handle.file content' replies ∧
        Mode.quiet ≠ .quiet := by
    have flushes : Does .quiet SyncAccessFile.flush ⟨content, w.env.replies⟩
        (fun _ file => file = content.flush)
        fun file => Mode.quiet ≠ .quiet ∧ (file = content ∨ file = content.flush) :=
      flush_does unfailing
    have does : Does .quiet SyncAccessFile.flush ⟨content, w.env.replies⟩
        (fun _ file => file = content.flush) fun _ => Mode.quiet ≠ .quiet :=
      flushes.mono (fun _ _ flushed => flushed) fun _ stopped => stopped.1
    exact Prog.Ends.mapErr (onSlot_ends found does)
  refine Prog.Ends.attempt_bind synced ?_ ?_ ?_
  · rintro _ next ⟨content', replies, unfailing', rfl, rfl⟩
    have inUse : (w.after handle.file content.flush replies).openCount handle.file ≠ 0 :=
      ne_of_eq_of_ne last Nat.one_ne_zero
    have dropped := dropHandle_run inUse
    refine Prog.Ends.after_ok dropped ?_
    have shut : ((w.after handle.file content.flush replies).closing handle.file).openCount
        handle.file = 0 := by
      change Function.update w.openCount handle.file (w.openCount handle.file - 1) handle.file = 0
      rw [Function.update_self, last]
    by_cases deleting : options.deleteOnClose = true
    · rw [if_pos deleting]
      refine Prog.Ends.attempt_bind (deleteFile_succeeds ⟨ready.active, ready.free, ready.healthy⟩
        unfailing' mapped shut (AList.lookup_insert _)) ?_ (fun _ _ => False.elim) fun _ => id
      rintro _ w' ⟨available, gone, here⟩
      exact Prog.Ends.pure fun _ => ⟨gone, available, _, here, erased_fresh _⟩
    · rw [if_neg deleting]
      have nothing : Prog.Ends (pure () : StoreM Unit)
          ((w.after handle.file content.flush replies).closing handle.file) (fun _ _ => True)
          (fun _ _ => False) fun _ => False := Prog.Ends.pure trivial
      exact Prog.Ends.attempt_bind nothing
        (fun _ _ _ => Prog.Ends.pure fun asked => absurd asked deleting)
        (fun _ _ => False.elim) fun _ => id
  · rintro _ _ ⟨_, _, _, _, loud⟩
    exact absurd rfl loud
  · rintro _ ⟨_, _, _, loud⟩
    exact absurd rfl loud

/-! ## The pool as a store of handles -/

namespace System

def Undisturbed (s : System) (around : Surroundings) : Prop :=
  s.world.Ready ∧ around.Allowed .quiet

/-- A slot with its handles; `usable` ones stand for one name and have their header. -/
def handleStore : HandleStore System String String where
  handles := handles
  names s name := s.world.mapFilenameToFile.lookup name
  Step s s' := ∃ moment, s.Step moment s'
  Close file mark s s' := ∃ around i f, s.files[i]? = some f ∧ f.handle.file = file ∧
    f.options.deleteOnClose = mark ∧ s.Undisturbed around ∧ s.Step ⟨around, .closeFile i⟩ s'
  Usable s file := ∃ name content, s.world.mapFilenameToFile.lookup name = some file ∧
    s.world.directory.lookup file = some content ∧ Fits content.contents ∧
    file ∉ s.world.availableFiles ∧ file ∉ s.world.quarantinedFiles
  Recycled s file := s.world.Recycled file

end System

/-! ## What a close does to the names -/

theorem System.Step.ends {moment : Moment} (step : s.Step moment s')
    {returns : Answer → System → Prop} {fails : Failure → System → Prop}
    {crashes : System → Prop}
    (ends : Prog.Ends moment.event.program (s.facing moment.around) returns fails crashes) :
    ∃ s₂, s' = s₂.silenced ∧ ((∃ answer, returns answer s₂) ∨ ∃ error, fails error s₂) := by
  obtain ⟨outcome, run, goes⟩ := step
  rcases ran : moment.event.program.run (s.facing moment.around) with ⟨answer | error | why, s₂⟩
  · exact ⟨s₂, (congrArg (fun ran => ran.2.silenced) ran).symm.trans (Prod.mk.inj run).2 |>.symm,
      .inl ⟨answer, ends.ok ran⟩⟩
  · exact ⟨s₂, (congrArg (fun ran => ran.2.silenced) ran).symm.trans (Prod.mk.inj run).2 |>.symm,
      .inr ⟨error, ends.err ran⟩⟩
  · have halted : outcome = .halt why := (Prod.mk.inj run).1.symm.trans (congrArg Prod.fst ran)
    exact absurd halted (goes why)

/-- A close takes away the name of its own slot, if its options ask for that, or none. -/
theorem Turn.close_names {i : Nat} {outcome : Outcome Failure Answer}
    (turn : Turn mode s g (.closeFile i) outcome s' g') {f : VfsFile}
    (there : s.files[i]? = some f) : ∃ name, f.opened = some name ∧
      s.world.mapFilenameToFile.lookup name = some f.handle.file ∧
      ∀ other, s'.world.mapFilenameToFile.lookup other = s.world.mapFilenameToFile.lookup other ∨
        (other = name ∧ f.options.deleteOnClose = true ∧
          s'.world.mapFilenameToFile.lookup other = none) := by
  obtain ⟨name, w₁, w', rfl, named, mapped, flushed, -, result⟩ := turn.closed_cases there
  have names : w₁.mapFilenameToFile = s.world.mapFilenameToFile := flushed.still.names
  refine ⟨name, named, mapped, fun other => ?_⟩
  rcases result with (⟨-, rfl, -⟩ | ⟨deleting, deleted⟩) | ⟨-, ⟨rfl, -⟩ | ⟨-, -, -, -, same, -⟩⟩
  · exact .inl (congrArg (AList.lookup other) names)
  · by_cases own : other = name
    · subst own
      exact .inr ⟨rfl, deleting, AList.lookup_eq_none.mpr deleted.gone⟩
    · exact .inl ((deleted.others other own).trans (congrArg (AList.lookup other) names))
  · exact .inl (congrArg (AList.lookup other) names)
  · exact .inl (congrArg (AList.lookup other) (same.trans names))

/-! ## Sittings -/

namespace System

variable {file : String} {mark : Bool} {marks : List Bool} {last : System}

theorem usable_of_handles (arises : s.Arises) (held : s.handles file ≠ 0) :
    handleStore.Usable s file := by
  obtain ⟨g, good⟩ := arises.good
  obtain ⟨f, member, here⟩ := List.countP_pos_iff.mp (Nat.pos_of_ne_zero held)
  obtain rfl := of_decide_eq_true here
  obtain ⟨name, -, mapped⟩ := good.live f member
  obtain ⟨content, found, -⟩ := good.rep.content_of_mapped mapped
  refine ⟨name, content, mapped, found, good.rep.fits_of_open mapped (good.inUse member) found,
    fun available => ?_, (good.rep.mapped name _ mapped).2⟩
  exact good.rep.mapped_ne_available mapped available rfl

theorem close_names (good : Good mode s g) {moment : Moment} (allowed : moment.Allowed mode)
    {i : Nat} (closing : moment.event = .closeFile i) (step : s.Step moment s') {f : VfsFile}
    (there : s.files[i]? = some f) : ∃ name, f.opened = some name ∧
      s.world.mapFilenameToFile.lookup name = some f.handle.file ∧
      ∀ other, s'.world.mapFilenameToFile.lookup other = s.world.mapFilenameToFile.lookup other ∨
        (other = name ∧ f.options.deleteOnClose = true ∧
          s'.world.mapFilenameToFile.lookup other = none) := by
  obtain ⟨_, g', -, ⟨around', s₂, answers, -, turn, rfl⟩, -⟩ := good.step allowed step
  rw [closing] at turn
  exact turn.close_names there

/-- Closing a handle takes no name from another slot. -/
theorem spares (arises : s.Arises) (closed : handleStore.Close file mark s s') (name other : String)
    (different : other ≠ file) : handleStore.names s' name = some other ↔
      handleStore.names s name = some other := by
  obtain ⟨around, i, f, there, rfl, -, -, step⟩ := closed
  obtain ⟨g, good⟩ := arises.good
  obtain ⟨own, -, mapped, names⟩ := close_names good (Moment.allowed_lax _) rfl step there
  rcases names name with same | ⟨rfl, -, gone⟩
  · exact Eq.congr_left same
  · refine iff_of_false (fun bound => ?_) fun bound => ?_
    · exact nomatch bound.symm.trans gone
    · exact different (Option.some.inj (bound.symm.trans mapped))

/-- After the last close the slot is free if that close asked for it, and else it is not. -/
theorem gone_iff (arises : s.Arises) (closed : handleStore.Close file mark s s')
    (shut : s'.handles file = 0) : handleStore.Gone s' file ↔ mark = true := by
  obtain ⟨around, i, f, there, rfl, rfl, ⟨ready, answers⟩, step⟩ := closed
  obtain ⟨g, good⟩ := arises.good
  have last : s.world.openCount f.handle.file = 1 := by
    obtain ⟨-, counted, -⟩ := (handles_pin_slots arises).closes around i f s' there step
    rw [(handles_pin_slots (arises.step step)).counts, shut] at counted
    exact counted.symm
  obtain ⟨name, named, mapped, names⟩ :=
    close_names good (Moment.allowed_lax _) rfl step there
  constructor
  · rintro ⟨nameless, -⟩
    rcases names name with same | ⟨-, deleting, -⟩
    · exact absurd (same.trans mapped) (nameless name)
    · exact deleting
  · intro deleting
    obtain ⟨content, found, -⟩ := good.rep.content_of_mapped mapped
    have ends : Prog.Ends (Event.closeFile i).program (s.facing around)
        (fun _ s' => name ∉ s'.world.mapFilenameToFile ∧ s'.world.Recycled f.handle.file)
        (fun _ _ => False) fun _ => True := by
      refine Prog.Ends.get_bind ?_
      have here : (s.facing around).files[i]? = some f := there
      simp only [here]
      refine Prog.Ends.modify_bind (onWorld_bind
        (s := { s.facing around with files := s.files.eraseIdx i })
        (closeFile_succeeds ⟨ready.active, ready.free, ready.healthy⟩ answers named mapped last
          found) ?_ fun _ _ => False.elim)
      exact fun _ w' gone => Prog.Ends.pure (gone deleting)
    have gone : name ∉ s'.world.mapFilenameToFile ∧ s'.world.Recycled f.handle.file := by
      obtain ⟨s₂, rfl, ⟨-, gone⟩ | ⟨-, impossible⟩⟩ := step.ends ends
      · exact gone
      · exact impossible.elim
    refine ⟨fun other bound => ?_, gone.2⟩
    rcases names other with same | ⟨rfl, -, none⟩
    · have bound' : s.world.mapFilenameToFile.lookup other = some f.handle.file :=
        same.symm.trans bound
      obtain rfl : other = name := Option.some.inj
        ((good.rep.mapped other _ bound').1.symm.trans (good.rep.mapped name _ mapped).1)
      exact gone.1 (AList.lookup_isSome.mp (Option.isSome_of_eq_some bound))
    · exact nomatch bound.symm.trans none

/-- Nothing but the flag of the last close matters. -/
theorem honours_iff (arises : s.Arises) (held : s.handles file ≠ 0)
    (sitting : handleStore.Sitting file s marks last) :
    handleStore.Honours file marks last ↔
      (last.handles file = 0 → true ∈ marks → marks.getLast? = some true) := by
  have arisen {s last : System} {marks : List Bool} (arises : s.Arises)
      (sitting : handleStore.Sitting file s marks last) : last.Arises := by
    refine sitting.invariant ?_ ?_ arises
    · rintro s s' arises ⟨moment, step⟩
      exact arises.step step
    · rintro mark s s' arises ⟨around, i, f, -, -, -, -, step⟩
      exact arises.step step
  constructor
  · intro honours shut marked
    obtain ⟨earlier, mark, s₁, rfl, before, closed⟩ := sitting.closing held shut
    have gone := (gone_iff (arisen arises before) closed shut).mp (honours.gone shut marked)
    rw [gone, List.getLast?_concat]
  · intro asked
    refine ⟨fun shut marked => ?_, fun mark next closed => spares (arisen arises sitting) closed,
      fun other => usable_of_handles (arisen arises sitting)⟩
    obtain ⟨earlier, mark, s₁, rfl, before, closed⟩ := sitting.closing held shut
    have flag := asked shut marked
    rw [List.getLast?_concat] at flag
    exact (gone_iff (arisen arises before) closed shut).mpr (Option.some.inj flag)

end System

end Sahpool

/-- The memory VFS honours the delete-on-close flags of all handles on a file.  The access
handle pool honours them if the handle that is closed last has the flag, or none has. -/
theorem deleteOnClose_honoured_iff (bits : Nat) (alloc : Nat → Nat → Bool) (m : MemSystem)
    (s : Sahpool.System) (file : String) :
    (m.Arises bits alloc → ∀ inode marks last,
      (MemSystem.handleStore bits alloc).Sitting inode m marks last →
        (MemSystem.handleStore bits alloc).Honours inode marks last) ∧
    (s.Arises → s.handles file ≠ 0 →
      ∀ marks last, Sahpool.System.handleStore.Sitting file s marks last →
        (Sahpool.System.handleStore.Honours file marks last ↔
          (last.handles file = 0 → true ∈ marks → marks.getLast? = some true))) :=
  ⟨fun arises _ _ _ sitting => MemSystem.honours arises.good sitting,
    fun arises held _ _ sitting => Sahpool.System.honours_iff arises held sitting⟩

namespace Sahpool

set_option maxRecDepth 20000 in
/-- A file is opened with the flag and again without it; the handle with the flag is closed
first. -/
theorem flagged_first_run : ∃ s s₁ last file, s.Arises ∧ s.handles file = 2 ∧
    System.handleStore.Close file true s s₁ ∧ System.handleStore.Close file false s₁ last ∧
    last.handles file = 0 := by
  refine ⟨_, _, _, _, ⟨_, _, _, _, [⟨untroubled, .openFile ⟨some "a.db", ⟨0x10E⟩⟩⟩,
    ⟨untroubled, .openFile ⟨some "a.db", ⟨0x102⟩⟩⟩], onePool_installed.mono fun _ _ => trivial,
    .trans (.single ⟨.ok (.opened .readWrite), rfl, nofun⟩)
      (.single ⟨.ok (.opened .readWrite), rfl, nofun⟩)⟩, rfl,
    ⟨untroubled, 1, _, rfl, rfl, rfl, ⟨⟨rfl, rfl, rfl⟩, nofun⟩, ⟨.err _, rfl, nofun⟩⟩,
    ⟨untroubled, 0, _, rfl, rfl, rfl, ⟨⟨rfl, rfl, rfl⟩, nofun⟩, ⟨.ok .done, rfl, nofun⟩⟩, rfl⟩

theorem flagged_first_survives : ¬ ∀ s : System, s.Arises → ∀ file, s.handles file ≠ 0 →
    ∀ marks last, System.handleStore.Sitting file s marks last →
      System.handleStore.Honours file marks last := by
  intro claimed
  obtain ⟨s, s₁, last, file, arises, two, flagged, plain, shut⟩ := flagged_first_run
  have held : s.handles file ≠ 0 := by
    rw [two]
    exact Nat.succ_ne_zero 1
  have sitting := (HandleStore.Sitting.refl.close flagged).close plain
  have honours := claimed s arises file held _ last sitting
  have asked := (System.honours_iff arises held sitting).mp honours shut List.mem_cons_self
  exact nomatch asked

end Sahpool

/-- On the same calls the memory VFS removes the file and the pool does not. -/
theorem flagged_first_told_apart :
    (∃ s last inode, (MemSystem.handleStore 32 fun _ _ => true).Sitting inode s [true, false] last ∧
      (MemSystem.handleStore 32 fun _ _ => true).Honours inode [true, false] last) ∧
    ∃ s last file, Sahpool.System.handleStore.Sitting file s [true, false] last ∧
      ¬ Sahpool.System.handleStore.Honours file [true, false] last := by
  obtain ⟨s, s₁, after, file, arises, two, flagged, plain, shut⟩ := Sahpool.flagged_first_run
  constructor
  · have first := (MemSystem.arises_start 32 fun _ _ => true).opened ⟨some "a.db", ⟨0x10E⟩⟩ rfl
    have second := first.opened ⟨some "a.db", ⟨0x102⟩⟩ rfl
    obtain ⟨between, flagged⟩ := second.closed 0 rfl rfl rfl
    obtain ⟨-, plain⟩ := between.closed 1 rfl rfl rfl
    have sitting := (HandleStore.Sitting.refl.close flagged).close plain
    exact ⟨_, _, _, sitting,
      (deleteOnClose_honoured_iff 32 _ _ s file).1 second _ _ _ sitting⟩
  · have held : s.handles file ≠ 0 := by
      rw [two]
      exact Nat.succ_ne_zero 1
    have sitting := (HandleStore.Sitting.refl.close flagged).close plain
    refine ⟨s, after, file, sitting, fun honours => ?_⟩
    have asked := ((deleteOnClose_honoured_iff 32 (fun _ _ => true) MemSystem.start s file).2 arises
      held _ after sitting).mp honours shut List.mem_cons_self
    exact nomatch asked

end SqliteVfs
