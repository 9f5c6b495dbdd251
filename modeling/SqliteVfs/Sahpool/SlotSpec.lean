import SqliteVfs.Base.Ending
import SqliteVfs.Sahpool.Header

/-!
# What a slot can become

The assumptions on the browser, and for each operation of a slot the files it can leave:
one when it returns, and those between the old file and that one when it stops short.
-/

set_option autoImplicit false

namespace SqliteVfs

namespace Sahpool

/-- What a run assumes of the browser.  In a `loose` run a failing write may land in part;
in a `lax` one, moreover, an open need not say what kind of file it creates.  In a `whole`
run a failing call has its full effect or none; a `strict` run also considers the images
that a crash can leave.  In a `quiet` run no call fails. -/
inductive Mode where
  | strict
  | whole
  | loose
  | lax
  | quiet
  deriving DecidableEq, Repr

/-- A write may land in part. -/
def Mode.Torn (mode : Mode) : Prop := mode = .loose ∨ mode = .lax

theorem Mode.ne_lax {mode : Mode} (sound : ¬ mode.Torn) : mode ≠ .lax :=
  fun lax => sound (.inr lax)

theorem Mode.not_strict_of_torn {mode : Mode} (torn : mode.Torn) : mode ≠ .strict := by
  rintro rfl
  rcases torn with impossible | impossible <;> exact nomatch impossible

def Landed.Allowed (mode : Mode) : Landed → Prop
  | .part count => ¬ mode.Torn → count = 0
  | _ => True

def Reply.Allowed (mode : Mode) : Reply → Prop
  | .done => True
  | .short count => mode ≠ .quiet ∧ (Landed.part count).Allowed mode
  | .thrown _ landed => mode ≠ .quiet ∧ landed.Allowed mode
  | .crash landed => mode ≠ .quiet ∧ landed.Allowed mode

theorem Landed.length_take_le {α : Type} (landed : Landed) (xs : List α) :
    (landed.take xs).length ≤ xs.length := by
  cases landed with
  | nothing => exact Nat.zero_le _
  | everything => exact le_rfl
  | part count => exact List.length_take_le' count xs

theorem Landed.take_of_length_eq {α : Type} (landed : Landed) {xs : List α}
    (whole : (landed.take xs).length = xs.length) : landed.take xs = xs := by
  cases landed with
  | nothing => exact (List.length_eq_zero_iff.mp whole.symm).symm
  | everything => rfl
  | part count =>
      rw [Landed.take, List.length_take] at whole
      exact List.take_of_length_le (by omega)

/-- What of `whole` a stopped write may have left. -/
def Cut (mode : Mode) (whole part : List UInt8) : Prop :=
  ∃ count, part = whole.take count ∧ (¬ mode.Torn → count = 0 ∨ whole.length ≤ count)

variable {mode : Mode}

theorem Cut.nothing (whole : List UInt8) : Cut mode whole [] := ⟨0, rfl, fun _ => .inl rfl⟩

theorem Cut.everything (whole : List UInt8) : Cut mode whole whole :=
  ⟨whole.length, List.take_length.symm, fun _ => .inr le_rfl⟩

theorem Landed.Allowed.cut {landed : Landed} (allowed : landed.Allowed mode)
    (whole : List UInt8) : Cut mode whole (landed.take whole) := by
  cases landed with
  | nothing => exact Cut.nothing whole
  | everything => exact Cut.everything whole
  | part count => exact ⟨count, rfl, fun sound => .inl (allowed sound)⟩

/-! ## Calls -/

/-- `x` ends on a slot whose browser is as assumed: it returns, or it stops short by an
error or with the run. -/
def Does {ε α : Type} (mode : Mode) (x : SlotM ε α) (slot : Slot)
    (returns : α → SlotFile → Prop) (stops : SlotFile → Prop) : Prop :=
  Prog.Ends x slot
    (fun value next => (∀ reply ∈ next.replies, reply.Allowed mode) ∧ returns value next.file)
    (fun _ next => (∀ reply ∈ next.replies, reply.Allowed mode) ∧ stops next.file)
    (fun next => stops next.file)

namespace Does

variable {ε ε' α β : Type} {x : SlotM ε α} {slot : Slot} {returns returns' : α → SlotFile → Prop}
  {stops stops' : SlotFile → Prop}

theorem mono (does : Does mode x slot returns stops)
    (onReturn : ∀ value file, returns value file → returns' value file)
    (onStop : ∀ file, stops file → stops' file) : Does mode x slot returns' stops' :=
  Prog.Ends.mono does (fun value _ holds => ⟨holds.1, onReturn value _ holds.2⟩)
    (fun _ _ holds => ⟨holds.1, onStop _ holds.2⟩) fun _ holds => onStop _ holds

theorem bind {f : α → SlotM ε β} {Q : α → SlotFile → Prop} {result : β → SlotFile → Prop}
    (first : Does mode x slot Q stops)
    (rest : ∀ value file replies, (∀ reply ∈ replies, Reply.Allowed mode reply) →
      Q value file → Does mode (f value) ⟨file, replies⟩ result stops) :
    Does mode (x >>= f) slot result stops :=
  Prog.Ends.bind first fun value next holds => rest value next.file next.replies holds.1 holds.2

theorem mapErr {f : ε → ε'} (does : Does mode x slot returns stops) :
    Does mode (Prog.mapErr f x) slot returns stops :=
  Prog.Ends.mapErr does

theorem pure {value : α} (allowed : ∀ reply ∈ slot.replies, reply.Allowed mode)
    (holds : returns value slot.file) :
    Does mode (Pure.pure value : SlotM ε α) slot returns stops :=
  ⟨allowed, holds⟩

theorem fail {error : ε} (allowed : ∀ reply ∈ slot.replies, reply.Allowed mode)
    (holds : stops slot.file) : Does mode (Prog.fail error : SlotM ε α) slot returns stops :=
  ⟨allowed, holds⟩

theorem ite {c : Prop} [Decidable c] {y : SlotM ε α} (yes : c → Does mode x slot returns stops)
    (no : ¬ c → Does mode y slot returns stops) :
    Does mode (if c then x else y) slot returns stops :=
  Prog.Ends.ite yes no

end Does

theorem call_does {α : Type} {effect : Landed → SlotFile → SlotFile}
    {result : Landed → SlotFile → α} {slot : Slot}
    (allowed : ∀ reply ∈ slot.replies, reply.Allowed mode) :
    Does mode (call effect result) slot
      (fun value file => ∃ landed, landed.Allowed mode ∧ landed ≠ .nothing ∧
        (mode = .quiet → landed = .everything) ∧
        value = result landed slot.file ∧ file = effect landed slot.file)
      (fun file => mode ≠ .quiet ∧
        ∃ landed, landed.Allowed mode ∧ file = effect landed slot.file) := by
  obtain ⟨landed, remaining, shorter, reason, outcome, run, cases⟩ := call_run effect result slot
  have rest : ∀ reply ∈ remaining, reply.Allowed mode :=
    fun reply member => allowed reply (shorter.subset member)
  have here : landed.Allowed mode ∧ (mode = .quiet → landed = .everything) := by
    rcases reason with rfl | ⟨count, rfl, member⟩ | ⟨error, member⟩ | member
    · exact ⟨trivial, fun _ => rfl⟩
    · exact ⟨(allowed _ member).2, fun quiet => absurd quiet (allowed _ member).1⟩
    · exact ⟨(allowed _ member).2, fun quiet => absurd quiet (allowed _ member).1⟩
    · exact ⟨(allowed _ member).2, fun quiet => absurd quiet (allowed _ member).1⟩
  rcases cases with ⟨rfl, some⟩ | stopped
  · exact Prog.Ends.of_ok run ⟨rest, landed, here.1, some, here.2, rfl, rfl⟩
  · have loud : mode ≠ .quiet := by
      rintro rfl
      obtain ⟨file, replies⟩ := slot
      unfold call at run
      dsimp only at run
      rcases replies with _ | ⟨reply, replies⟩
      · obtain rfl := (Prod.mk.inj run).1
        rcases stopped with ⟨error, stopped⟩ | stopped <;> exact nomatch stopped
      · cases reply with
        | done =>
            obtain rfl := (Prod.mk.inj run).1
            rcases stopped with ⟨error, stopped⟩ | stopped <;> exact nomatch stopped
        | short count => exact (allowed _ List.mem_cons_self).1 rfl
        | thrown error landed => exact (allowed _ List.mem_cons_self).1 rfl
        | crash landed => exact (allowed _ List.mem_cons_self).1 rfl
    rcases stopped with ⟨error, rfl⟩ | rfl
    · unfold Does Prog.Ends Prog.wp
      rw [run]
      exact ⟨rest, loud, landed, here.1, rfl⟩
    · unfold Does Prog.Ends Prog.wp
      rw [run]
      exact ⟨loud, landed, here.1, rfl⟩

@[simp] theorem SlotFile.write_nil (file : SlotFile) (start : Nat) : file.write start [] = file :=
  if_pos rfl

theorem SlotFile.contents_write {file : SlotFile} {start : Nat} {bytes : List UInt8}
    (some : bytes ≠ []) :
    (file.write start bytes).contents = SparseVector.writeAt file.contents start bytes := by
  unfold SlotFile.write
  rw [if_neg some]
  exact Journal.contents_append _ _ _

@[simp] theorem SlotFile.contents_truncate (file : SlotFile) (size : Nat) :
    (file.truncate size).contents = SparseVector.resize file.contents size :=
  Journal.contents_append _ _ _

@[simp] theorem SlotFile.contents_flush (file : SlotFile) :
    file.flush.contents = file.contents := rfl

theorem SlotFile.flush_eq (file : SlotFile) : file.flush = Journal.settled file.contents := rfl

variable {slot : Slot}

theorem flush_does (allowed : ∀ reply ∈ slot.replies, reply.Allowed mode) :
    Does mode SyncAccessFile.flush slot (fun _ file => file = slot.file.flush)
      (fun file => mode ≠ .quiet ∧ (file = slot.file ∨ file = slot.file.flush)) := by
  refine (call_does allowed).mapErr.mono ?_ ?_
  · rintro _ file ⟨landed, -, some, -, -, rfl⟩
    exact if_neg some
  · rintro file ⟨loud, landed, -, rfl⟩
    refine ⟨loud, ?_⟩
    by_cases nothing : landed = .nothing
    · exact .inl (if_pos nothing)
    · exact .inr (if_neg nothing)

theorem truncate_does (allowed : ∀ reply ∈ slot.replies, reply.Allowed mode) (size : Nat) :
    Does mode (AccessHandle.truncate size) slot (fun _ file => file = slot.file.truncate size)
      (fun file => mode ≠ .quiet ∧ (file = slot.file ∨ file = slot.file.truncate size)) := by
  refine (call_does allowed).mono ?_ ?_
  · rintro _ file ⟨landed, -, some, -, -, rfl⟩
    exact if_neg some
  · rintro file ⟨loud, landed, -, rfl⟩
    refine ⟨loud, ?_⟩
    by_cases nothing : landed = .nothing
    · exact .inl (if_pos nothing)
    · exact .inr (if_neg nothing)

theorem writeAt_does (allowed : ∀ reply ∈ slot.replies, reply.Allowed mode) (bytes : List UInt8)
    (start : Nat) : Does mode (SyncAccessFile.writeAt bytes start) slot
      (fun _ file => file = slot.file.write start bytes)
      (fun file => mode ≠ .quiet ∧ ∃ part, Cut mode bytes part ∧
        file = slot.file.write start part) := by
  refine Does.bind (Q := fun count file => ∃ landed : Landed, landed.Allowed mode ∧
    (mode = .quiet → landed = .everything) ∧ count = (landed.take bytes).length ∧
      file = slot.file.write start (landed.take bytes)) ((call_does allowed).mapErr.mono ?_ ?_) ?_
  · rintro count file ⟨landed, here, -, all, rfl, rfl⟩
    exact ⟨landed, here, all, rfl, rfl⟩
  · rintro file ⟨loud, landed, here, rfl⟩
    exact ⟨loud, landed.take bytes, here.cut bytes, rfl⟩
  · rintro count file replies rest ⟨landed, here, all, rfl, rfl⟩
    refine Does.ite (fun short => ?_) fun whole => ?_
    · refine Does.fail rest ⟨fun quiet => ?_, landed.take bytes, here.cut bytes, rfl⟩
      rw [all quiet] at short
      exact short rfl
    · refine Does.pure rest ?_
      push Not at whole
      dsimp only
      rw [landed.take_of_length_eq whole]

theorem readAt_does (allowed : ∀ reply ∈ slot.replies, reply.Allowed mode) (buf : List UInt8)
    (start : Nat) : Does mode (SyncAccessFile.readAt buf start) slot
      (fun result file => file = slot.file ∧ ∃ landed : Landed,
        (mode = .quiet → landed = .everything) ∧
        result.1 = (landed.take (SparseVector.readAt slot.file.contents start buf.length)).length ∧
        result.2 = landed.take (SparseVector.readAt slot.file.contents start buf.length) ++
          buf.drop result.1)
      (fun file => mode ≠ .quiet ∧ file = slot.file) := by
  refine Does.bind (Q := fun result file => file = slot.file ∧ ∃ landed : Landed,
    (mode = .quiet → landed = .everything) ∧
    result.1 = (landed.take (SparseVector.readAt slot.file.contents start buf.length)).length ∧
    result.2 = landed.take (SparseVector.readAt slot.file.contents start buf.length) ++
      buf.drop result.1) ((call_does allowed).mapErr.mono ?_ ?_) ?_
  · rintro result file ⟨landed, -, -, all, rfl, rfl⟩
    exact ⟨rfl, landed, all, rfl, rfl⟩
  · rintro file ⟨loud, landed, -, rfl⟩
    exact ⟨loud, rfl⟩
  · rintro ⟨count, filled⟩ file replies rest ⟨rfl, landed, all, count_eq, filled_eq⟩
    dsimp only at count_eq filled_eq ⊢
    have bounded : ¬ buf.length < count := by
      have := landed.length_take_le (SparseVector.readAt slot.file.contents start buf.length)
      rw [SparseVector.length_readAt] at this
      omega
    rw [if_neg bounded]
    exact Does.pure rest ⟨rfl, landed, all, count_eq, filled_eq⟩

theorem physicalSize_does (allowed : ∀ reply ∈ slot.replies, reply.Allowed mode)
    (opaqueName : String) : Does mode (SyncAccessFile.physicalSize opaqueName) slot
      (fun size file => file = slot.file ∧ size = slot.file.contents.length ∧
        size ≤ maxSafeInteger)
      (fun file => file = slot.file ∧
        (mode = .quiet → maxSafeInteger < slot.file.contents.length)) := by
  refine Does.bind (Q := fun size file => file = slot.file ∧
    size = slot.file.contents.length) ((call_does allowed).mapErr.mono ?_ ?_) ?_
  · rintro size file ⟨landed, -, -, -, rfl, rfl⟩
    exact ⟨rfl, rfl⟩
  · rintro file ⟨loud, landed, -, rfl⟩
    exact ⟨rfl, fun quiet => absurd quiet loud⟩
  · rintro size file replies rest ⟨rfl, rfl⟩
    refine Does.ite (fun large => ?_) fun fits => ?_
    · exact Does.fail rest ⟨rfl, fun _ => large⟩
    · exact Does.pure rest ⟨rfl, rfl, Nat.le_of_not_lt fits⟩

/-! ## Namespace updates -/

def erased (file : SlotFile) : SlotFile :=
  Journal.settled (SparseVector.resize
    (SparseVector.writeAt file.contents 0 emptyHeader) headerOffsetData)

inductive Erasing (mode : Mode) (file : SlotFile) : SlotFile → Prop
  | header (part : List UInt8) (cut : Cut mode emptyHeader part) :
    Erasing mode file (file.write 0 part)
  | headerFlushed : Erasing mode file (file.write 0 emptyHeader).flush
  | truncated : Erasing mode file ((file.write 0 emptyHeader).flush.truncate headerOffsetData)
  | finished : Erasing mode file (erased file)

def signed (header : List UInt8) (file : SlotFile) : SlotFile :=
  Journal.settled (SparseVector.writeAt file.contents 0 header)

inductive Signing (mode : Mode) (header : List UInt8) (file : SlotFile) : SlotFile → Prop
  | header (part : List UInt8) (cut : Cut mode header part) :
    Signing mode header file (file.write 0 part)
  | flushed : Signing mode header file (signed header file)

theorem emptyHeader_ne_nil : emptyHeader ≠ [] := by
  intro empty
  have := congrArg List.length empty
  rw [emptyHeader, length_zeroBytes] at this
  exact absurd this (by decide)

theorem headerOf_ne_nil {name : String} (storable : StorableName name) (flags : UInt32) :
    headerOf name flags ≠ [] := by
  intro empty
  have := storable.length_headerOf flags
  rw [empty] at this
  exact absurd this (by decide)

theorem associate_none_does (allowed : ∀ reply ∈ slot.replies, reply.Allowed mode) :
    Does mode (SyncAccessFile.associate none 0) slot (fun _ file => file = erased slot.file)
      (fun file => mode ≠ .quiet ∧ Erasing mode slot.file file) := by
  have written : (slot.file.write 0 emptyHeader).contents =
      SparseVector.writeAt slot.file.contents 0 emptyHeader :=
    SlotFile.contents_write emptyHeader_ne_nil
  have finished : ((slot.file.write 0 emptyHeader).flush.truncate headerOffsetData).flush =
      erased slot.file := by
    rw [SlotFile.flush_eq, SlotFile.contents_truncate, SlotFile.contents_flush, written]
    rfl
  unfold SyncAccessFile.associate
  rw [header_none, Prog.pure_bind]
  refine Does.bind ((writeAt_does allowed emptyHeader 0).mono (fun _ _ holds => holds) ?_) ?_
  · rintro file ⟨loud, part, cut, rfl⟩
    exact ⟨loud, .header part cut⟩
  rintro _ file replies rest rfl
  refine Does.bind ((flush_does rest).mono (fun _ _ holds => holds) ?_) ?_
  · rintro file ⟨loud, rfl | rfl⟩
    · exact ⟨loud, .header emptyHeader (Cut.everything _)⟩
    · exact ⟨loud, .headerFlushed⟩
  rintro _ file replies rest rfl
  rw [if_pos rfl]
  refine Does.bind ((truncate_does rest headerOffsetData).mapErr.mono
    (fun _ _ holds => holds) ?_) ?_
  · rintro file ⟨loud, rfl | rfl⟩
    · exact ⟨loud, .headerFlushed⟩
    · exact ⟨loud, .truncated⟩
  rintro _ file replies rest rfl
  refine (flush_does rest).mono ?_ ?_
  · rintro _ file rfl
    exact finished
  · rintro file ⟨loud, rfl | rfl⟩
    · exact ⟨loud, .truncated⟩
    · exact ⟨loud, finished ▸ .finished⟩

theorem associate_some_does (allowed : ∀ reply ∈ slot.replies, reply.Allowed mode)
    (name : String) (flags : UInt32) : Does mode (SyncAccessFile.associate (some name) flags) slot
      (fun _ file => StorableName name ∧ file = signed (headerOf name flags) slot.file)
      (fun file => (¬ StorableName name ∧ file = slot.file) ∨
        (mode ≠ .quiet ∧ StorableName name ∧
          Signing mode (headerOf name flags) slot.file file)) := by
  unfold SyncAccessFile.associate
  by_cases storable : StorableName name
  · have finished : (slot.file.write 0 (headerOf name flags)).flush =
        signed (headerOf name flags) slot.file := by
      rw [SlotFile.flush_eq, SlotFile.contents_write (headerOf_ne_nil storable flags)]
      rfl
    rw [header_some storable, Prog.pure_bind]
    refine Does.bind ((writeAt_does allowed (headerOf name flags) 0).mono
      (fun _ _ holds => holds) ?_) ?_
    · rintro file ⟨loud, part, cut, rfl⟩
      exact .inr ⟨loud, storable, .header part cut⟩
    rintro _ file replies rest rfl
    refine Does.bind ((flush_does rest).mono (fun _ _ holds => holds) ?_) ?_
    · rintro file ⟨loud, rfl | rfl⟩
      · exact .inr ⟨loud, storable, .header _ (Cut.everything _)⟩
      · exact .inr ⟨loud, storable, finished ▸ .flushed⟩
    rintro _ file replies rest rfl
    rw [if_neg nofun]
    exact Does.pure rest ⟨storable, finished⟩
  · rw [header_refused storable, Prog.fail_bind]
    exact Does.fail allowed (.inl ⟨storable, rfl⟩)

inductive Initializing (file : SlotFile) : SlotFile → Prop
  | untouched : Initializing file file
  | truncated : Initializing file (file.truncate headerOffsetData)
  | flushed : Initializing file (file.truncate headerOffsetData).flush

theorem initializeSlot_does (allowed : ∀ reply ∈ slot.replies, reply.Allowed mode) :
    Does mode SyncAccessFile.initializeSlot slot
      (fun _ file => file = (slot.file.truncate headerOffsetData).flush)
      (fun file => mode ≠ .quiet ∧ Initializing slot.file file) := by
  unfold SyncAccessFile.initializeSlot
  refine Does.bind ((truncate_does allowed headerOffsetData).mapErr.mono
    (fun _ _ holds => holds) ?_) ?_
  · rintro file ⟨loud, rfl | rfl⟩
    · exact ⟨loud, .untouched⟩
    · exact ⟨loud, .truncated⟩
  rintro _ file replies rest rfl
  refine (flush_does rest).mono (fun _ _ holds => holds) ?_
  rintro file ⟨loud, rfl | rfl⟩
  · exact ⟨loud, .truncated⟩
  · exact ⟨loud, .flushed⟩

-- From here on only its rules are used, and a program in it is never to be evaluated.
attribute [irreducible] Does

end Sahpool

end SqliteVfs
