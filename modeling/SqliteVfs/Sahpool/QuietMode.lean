import SqliteVfs.Sahpool.AsyncSafety
import SqliteVfs.Sahpool.DeleteOnClose

/-!
# A browser that has stopped failing

A pool that was faithful while calls could fail as a whole is faithful when none fails any
more, and calls that do not fail do not end the run.
-/

set_option autoImplicit false

namespace SqliteVfs

namespace Sahpool

variable {mode : Mode} {s s' : System} {w w' : World} {g g' : Ledger} {file name : String}
  {content : SlotFile} {data : List UInt8} {ε α β : Type}

/-! ## From one mode to another -/

theorem quiet_not_torn : ¬ Mode.quiet.Torn := by
  rintro (impossible | impossible) <;> cases impossible

theorem Sees.quieter {Q : List UInt8 → Prop} (sees : Sees mode Q content) :
    Sees .quiet Q content := by
  rintro image ⟨found, strict | rfl⟩
  · cases strict
  · exact sees _ ⟨found, .inr rfl⟩

theorem Staged.quieter (staged : Staged mode data content) : Staged .quiet data content :=
  ⟨staged.sees.quieter, staged.data_eq⟩

section

variable (whole : ¬ mode.Torn)

include whole

theorem Names.quieter {owner : Option String} {image : List UInt8}
    (names : Names mode owner image) : Names .quiet owner image :=
  names.imp id (Or.imp id fun unreadable => absurd unreadable.1 whole)

theorem Blank.quieter (blank : Blank mode content) : Blank .quiet content := by
  have seen : Sees .quiet (Names mode none) content := Sees.quieter blank
  exact seen.mono fun _ names => names.quieter whole

theorem Named.quieter {temporary durable : Bool}
    (named : Named mode name temporary durable data content) :
    Named .quiet name temporary durable data content where
  header := by
    obtain ⟨header, stored, taken, lasting⟩ := named.header
    refine ⟨header, ⟨stored.storable, stored.length_eq, stored.field, fun _ => ?_⟩, taken,
      fun durable => (lasting durable).quieter⟩
    exact stored.parsed (Mode.ne_lax whole)
  sees := named.sees.quieter.mono fun _ seen => ⟨seen.1, seen.2.quieter whole⟩
  data_eq := named.data_eq

theorem Unclear.quieter (unclear : Unclear mode name data content) :
    Unclear .quiet name data content where
  sees := unclear.sees.quieter.mono fun _ seen => ⟨seen.1, seen.2.quieter whole⟩
  data_eq := unclear.data_eq

theorem Entry.Matches.quieter {entry : Entry} (holds : entry.Matches mode name content) :
    entry.Matches .quiet name content := by
  cases entry with
  | absent => exact holds
  | present temporary durable data => exact Named.quieter whole holds
  | uncertain data => exact Unclear.quieter whole holds

theorem Disk.quieter {directory : AList fun _ : String => SlotFile}
    (disk : Disk mode directory g) : Disk .quiet directory g where
  slot file content found := by
    have represents := disk.slot file content found
    rcases owned : g.owner file with _ | name
    · exact represents_blank owned ((represents.blank owned).quieter whole)
    · exact represents_owned owned ((represents.holds owned).quieter whole)
  inside := disk.inside
  injective := disk.injective
  kept := disk.kept

theorem Rep.quieter (rep : Rep mode w g) {around : Surroundings} (calm : around.Allowed .quiet) :
    Rep .quiet (w.facing around) g :=
  { rep with
    allowed := calm
    disk := fun known => (rep.disk known).quieter whole
    staged := fun file data staging => by
      obtain ⟨top, content, found, staged⟩ := rep.staged file data staging
      exact ⟨top, content, found, staged.quieter⟩ }

theorem Suspended.quieter (suspended : Suspended mode w g) {around : Surroundings}
    (calm : around.Allowed .quiet) : Suspended .quiet (w.facing around) g :=
  { suspended with rep := suspended.rep.quieter whole calm }

end

/-! ## Calls that end the run -/

section

open Prog (Preserves)

def Slot.Calm (slot : Slot) : Prop := ∀ reply ∈ slot.replies, Reply.Allowed .quiet reply

theorem Reply.Allowed.quiet {reply : Reply} (allowed : reply.Allowed .quiet) : reply = .done := by
  cases reply with
  | done => rfl
  | short count => exact absurd rfl allowed.1
  | thrown error landed => exact absurd rfl allowed.1
  | crash landed => exact absurd rfl allowed.1

theorem call_calm {effect : Landed → SlotFile → SlotFile} {result : Landed → SlotFile → α} :
    Preserves Slot.Calm False (call effect result) := by
  rintro ⟨file, replies⟩ calm
  unfold call
  dsimp only
  rcases replies with _ | ⟨reply, rest⟩
  · exact ⟨nofun, by simp⟩
  · obtain rfl := Reply.Allowed.quiet (calm reply List.mem_cons_self)
    exact ⟨fun other member => calm other (.tail _ member), by simp⟩

theorem physicalSize_calm (file : String) :
    Preserves Slot.Calm False (SyncAccessFile.physicalSize file) :=
  (call_calm.mapErr).bind fun _ => .ite (fun _ => .fail _) fun _ => .pure _

theorem readAt_calm (buf : List UInt8) (start : Nat) :
    Preserves Slot.Calm False (SyncAccessFile.readAt buf start) := by
  refine call_calm.mapErr.bind ?_
  rintro ⟨count, filled⟩
  exact .ite (fun _ => .fail _) fun _ => .pure _

theorem flush_calm : Preserves Slot.Calm False SyncAccessFile.flush := call_calm.mapErr

theorem associatedFilename_calm (file : String) :
    Preserves Slot.Calm False (SyncAccessFile.associatedFilename file) := by
  refine (physicalSize_calm file).bind fun size => .ite (fun _ => .pure _) fun _ =>
    .ite (fun _ => (readAt_calm _ _).bind ?_) fun _ => (readAt_calm _ _).bind ?_
  · rintro ⟨count, bytes⟩
    exact .ite (fun _ => .fail _) fun _ => .pure _
  · rintro ⟨count, bytes⟩
    exact .ite (fun _ => .fail _) fun _ => .ofExcept _

theorem initializeSlot_calm : Preserves Slot.Calm False SyncAccessFile.initializeSlot :=
  call_calm.mapErr.bind fun _ => flush_calm

theorem erase_calm : Preserves Slot.Calm False (SyncAccessFile.associate none 0) := by
  unfold SyncAccessFile.associate SyncAccessFile.header Prog.copyInto
  refine .bind ((Preserves.pure _).bind fun _ => .ite (fun _ => .pure _) fun _ => .panic)
    fun header => ?_
  refine .bind (call_calm.mapErr.bind fun _ => .ite (fun _ => .fail _) fun _ => .pure _) fun _ => ?_
  exact flush_calm.bind fun _ => .ite (fun _ => call_calm.mapErr.bind fun _ => flush_calm)
    fun _ => .pure _

theorem onSlot_calm {x : SlotM ε α} (calm : Preserves Slot.Calm False x) (file : String) :
    Preserves World.Unfailing False (onSlot file x) := by
  intro w before
  unfold onSlot
  dsimp only
  rcases w.directory.lookup file with _ | content
  · exact ⟨before, by simp⟩
  · exact calm ⟨content, w.env.replies⟩ before

theorem tryReserve_calm : Preserves World.Unfailing False tryReserve := by
  intro w before
  unfold tryReserve
  dsimp only
  rcases w.env.grants with _ | ⟨granted, rest⟩
  · exact ⟨before, by simp⟩
  · cases granted <;> exact ⟨before, by simp⟩

theorem waiting_calm : Preserves World.Unfailing False (directoryCall id) := by
  intro w before
  unfold directoryCall
  dsimp only
  rcases replies : w.env.replies with _ | ⟨reply, rest⟩
  · exact ⟨before, by simp⟩
  · unfold World.Unfailing at before
    rw [replies] at before
    obtain rfl := Reply.Allowed.quiet (before reply List.mem_cons_self)
    exact ⟨fun other member => before other (.tail _ member), by simp⟩

theorem loads_calm : LoadsPreserving World.Unfailing False where
  reserves := tryReserve_calm
  waits := waiting_calm
  reads file := onSlot_calm (associatedFilename_calm file) file
  measures file := onSlot_calm (physicalSize_calm file) file
  initializes := onSlot_calm initializeSlot_calm
  erases := onSlot_calm erase_calm
  counts _ _ before := before
  publishes _ _ _ _ before := before

theorem sqliteCode_calm : Preserves World.Unfailing False sqliteCode := by
  intro w before
  unfold sqliteCode
  dsimp only
  rcases w.env.codes with _ | ⟨code, rest⟩
  · exact ⟨before, by simp⟩
  · exact ⟨before, by simp⟩

theorem checkClosed_calm : Preserves World.Unfailing False checkClosed :=
  Preserves.get.bind fun _ => .ite (fun _ => .fail _) fun _ => .pure _

theorem guardPoll_calm {τ : Type} {body : PoolM (Poll τ α)}
    (calm : Preserves World.Unfailing False body) :
    Preserves World.Unfailing False (guardPoll body) := by
  have ended : Preserves (ε := Empty) World.Unfailing False endOperation :=
    .modify fun _ before => before
  refine calm.attempt.bind fun result => ?_
  rcases result with error | (state | value)
  · exact ended.widen.bind fun _ => .fail _
  · exact .pure _
  · exact ended.widen.bind fun _ => .pure _

theorem reregister_calm (vfs : Nat) : Preserves World.Unfailing False (reregister vfs) := by
  unfold reregister
  refine Preserves.get.bind fun w => .bind ?_ fun registered => .bind (Preserves.attempt ?_) ?_
  · exact .ite (fun _ => .fail _) fun _ => Preserves.get.bind fun _ => .pure _
  · refine .ite (fun _ => .fail _) fun _ => .bind ?_ fun code => ?_
    · unfold vfsRegister
      refine sqliteCode_calm.bind fun code => ?_
      exact .ite (fun _ => .bind (.modify fun _ before => before) fun _ => .pure _) fun _ => .pure _
    · cases code with
      | none => exact .pure _
      | some code => exact .fail _
  · rintro (error | ⟨⟩)
    · exact .bind (checkClosed_calm.bind fun _ => .modify fun _ before => before) fun _ => .fail _
    · exact .modify fun _ before => before

theorem pollResume_calm (resuming : Resuming) :
    Preserves World.Unfailing False (pollResume resuming) := by
  refine guardPoll_calm ?_
  cases resuming with
  | lease vfs =>
      refine waiting_calm.mapErr.bind fun _ => ?_
      exact .bind (Preserves.get.bind fun _ => .pure _) fun _ => .pure _
  | loading vfs loading =>
      refine (loads_calm.poll loading).bind ?_
      rintro (loading | ⟨⟩)
      · exact .pure _
      · exact (reregister_calm vfs).bind fun _ => .pure _

theorem clearNames_calm (names : List String) :
    Preserves World.Unfailing False (clearNames names) := by
  induction names with
  | nil => exact .pure _
  | cons name names ih =>
      refine Preserves.get.bind fun w => (Preserves.unwrap _).bind fun file => ?_
      refine (onSlot_calm erase_calm file).bind fun _ => ?_
      refine .bind (Preserves.get.bind fun _ => .bind (.modify fun _ before => before) fun _ =>
        .pure _) fun _ => (Preserves.unwrap _).bind fun _ => ?_
      exact .bind (.modify fun _ before => before) fun _ => ih

theorem clearQuarantined_calm (rounds : Nat) :
    Preserves World.Unfailing False (clearQuarantined rounds) := by
  induction rounds with
  | zero => exact .pure _
  | succ rounds ih =>
      refine .bind (Preserves.get.bind fun _ => .bind (.modify fun _ before => before) fun _ =>
        .pure _) fun file => ?_
      cases file with
      | none => exact .pure _
      | some file =>
          refine (onSlot_calm erase_calm file).attempt.bind ?_
          rintro (error | ⟨⟩)
          · exact .bind (.modify fun _ before => before) fun _ => .fail _
          · exact .bind (.modify fun _ before => before) fun _ => ih

theorem clear_calm : Preserves World.Unfailing False clear := by
  have checked : Preserves World.Unfailing False checkState := by
    refine Preserves.get.bind fun w => ?_
    rcases w.state with _ | _ | _
    · exact .pure _
    · exact .fail _
    · exact .fail _
  have begun : Preserves World.Unfailing False beginOperation := by
    refine Preserves.get.bind fun w => .ite (fun _ => .fail _) fun _ => .ite (fun _ => .fail _)
      fun _ => .modify fun _ before => before
  refine checked.bind fun _ => begun.bind fun _ => .ensure (.modify fun _ before => before) ?_
  refine checkClosed_calm.bind fun _ => .bind (.modify fun _ before => before) fun _ => ?_
  refine Preserves.get.bind fun w => (clearNames_calm _).bind fun _ =>
    Preserves.get.bind fun w => ?_
  exact (clearQuarantined_calm _).bind fun _ => .modify fun _ before => before

end

end Sahpool

end SqliteVfs
