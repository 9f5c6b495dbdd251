import SqliteVfs.Base.Runs
import SqliteVfs.Core.Transfer

/-!
# Reading an export

Whatever counts a source returns, and wherever it fails, the reads that succeed return the
image in order.
-/

set_option autoImplicit false

namespace SqliteVfs

/-- A call of `read_at`: what was asked for, and the answer. -/
structure Ask (ε : Type) where
  offset : Nat
  requested : Nat
  answer : Outcome ε Nat

variable {σ ε : Type} [FromTransferError ε]

namespace Ask

omit [FromTransferError ε] in
def Good (ask : Ask ε) : Prop :=
  ∃ count, ask.answer = .ok count ∧ 0 < count ∧ count ≤ ask.requested

/-- The source failed with this error, or it is the error for the count that it returned. -/
def Blamed (ask : Ask ε) (error : ε) : Prop :=
  ask.answer = .err error ∨ ∃ count, ask.answer = .ok count ∧
    (count = 0 ∨ ask.requested < count) ∧ error = ofTransfer (.shortRead ask.requested count)

end Ask

def counted : Outcome ε (Nat × List UInt8) → Outcome ε Nat
  | .ok (count, _) => .ok count
  | .err error => .err error
  | .halt why => .halt why

omit [FromTransferError ε] in
/-- The same source, with a record of the calls of its `read_at`. -/
def ExportSource.watched (source : ExportSource σ ε) : ExportSource (σ × List (Ask ε)) ε where
  size := source.size
  readAt offset buf := ⟨fun s =>
    (((source.readAt offset buf).run s.1).1, ((source.readAt offset buf).run s.1).2,
      s.2 ++ [⟨offset, buf.length, counted ((source.readAt offset buf).run s.1).1⟩])⟩
  drop := ⟨fun s => ((source.drop.run s.1).1, (source.drop.run s.1).2, s.2)⟩
  keepsLength offset buf s count filled next run := by
    have answer : ((source.readAt offset buf).run s.1).1 = .ok (count, filled) :=
      congrArg Prod.fst run
    exact source.keepsLength offset buf s.1 count filled _ (Prod.ext answer rfl)

/-- A source that returns bytes of this image, if it returns any. -/
structure Truthful (source : ExportSource σ ε) (image : List UInt8) (Inv : σ → Prop) : Prop where
  kept : ∀ s offset buf, Inv s → buf ≠ [] → offset + buf.length ≤ image.length →
    Inv ((source.readAt offset buf).run s).2
  bytes : ∀ s offset buf count filled next, Inv s → buf ≠ [] →
    offset + buf.length ≤ image.length →
    (source.readAt offset buf).run s = (.ok (count, filled), next) → count ≤ buf.length →
    filled.take count = (image.drop offset).take count

/-- A source that returns between one and the requested number of bytes of this image. -/
structure Faithful (source : ExportSource σ ε) (image : List UInt8) (Inv : σ → Prop) : Prop
    extends Truthful source image Inv where
  answers : ∀ s offset buf, Inv s → buf ≠ [] → offset + buf.length ≤ image.length →
    ∃ count filled next, (source.readAt offset buf).run s = (.ok (count, filled), next) ∧
      0 < count ∧ count ≤ buf.length
  drops : ∀ s, Inv s → ∃ next, source.drop.run s = (.ok (), next)

variable {source : ExportSource σ ε} {image buf : List UInt8} {Inv : σ → Prop} {s : σ}
  {offset length done : Nat} {log asks : List (Ask ε)} {outcome : Outcome ε (List UInt8)}

omit [FromTransferError ε] in
theorem watched_readAt (s : σ) (log : List (Ask ε)) :
    (source.watched.readAt offset buf).run (s, log) =
      (((source.readAt offset buf).run s).1, ((source.readAt offset buf).run s).2,
        log ++ [⟨offset, buf.length, counted ((source.readAt offset buf).run s).1⟩]) := rfl

/-! ## The loop -/

theorem readLoop_round (more : done < length) (room : length ≤ buf.length) :
    (DbExport.readLoop source offset length buf done).run s =
      match (source.readAt (offset + done) ((buf.take length).drop done)).run s with
      | (.ok (count, part), next) =>
        if count = 0 ∨ length - done < count then
          (.err (ofTransfer (.shortRead (length - done) count)), next)
        else (DbExport.readLoop source offset length (buf.take done ++ part ++ buf.drop length)
          (done + count)).run next
      | (.err error, next) => (.err error, next)
      | (.halt why, next) => (.halt why, next) := by
  rw [DbExport.readLoop, if_pos more, Prog.slice_of_le (Nat.le_of_lt more) room, Prog.pure_bind,
    Prog.bind_run]
  rcases answer : (source.readAt (offset + done) ((buf.take length).drop done)).run s with
    ⟨⟨count, part⟩ | error | why, next⟩
  · have same := source.keepsLength _ _ _ _ _ _ answer
    rw [List.length_drop, List.length_take, Nat.min_eq_left room] at same
    dsimp only
    rw [Prog.copyInto_of_le (Nat.le_of_lt more) room same, Prog.pure_bind]
    split <;> rfl
  · rfl
  · rfl

def LoopEnd (length : Nat) (buf : List UInt8) (asks : List (Ask ε)) :
    Outcome ε (List UInt8) → Prop
  | .ok filled => filled.length = buf.length ∧ filled.drop length = buf.drop length ∧
      ∀ ask ∈ asks, ask.Good
  | .err error => ∃ earlier last, asks = earlier ++ [last] ∧ (∀ ask ∈ earlier, ask.Good) ∧
      last.Blamed error
  | .halt why => ∃ earlier last, asks = earlier ++ [last] ∧ (∀ ask ∈ earlier, ask.Good) ∧
      last.answer = .halt why

theorem LoopEnd.cons {ask : Ask ε} {before : List UInt8} (good : ask.Good)
    (same : before.length = buf.length) (past : before.drop length = buf.drop length)
    (ends : LoopEnd length before asks outcome) : LoopEnd length buf (ask :: asks) outcome := by
  cases outcome with
  | ok filled =>
      obtain ⟨length, rest, all⟩ := ends
      refine ⟨length.trans same, rest.trans past, ?_⟩
      rintro ask' (_ | ⟨_, member⟩)
      · exact good
      · exact all ask' member
  | err error =>
      obtain ⟨earlier, last, rfl, all, blamed⟩ := ends
      refine ⟨ask :: earlier, last, rfl, ?_, blamed⟩
      rintro ask' (_ | ⟨_, member⟩)
      · exact good
      · exact all ask' member
  | halt why =>
      obtain ⟨earlier, last, rfl, all, halted⟩ := ends
      refine ⟨ask :: earlier, last, rfl, ?_, halted⟩
      rintro ask' (_ | ⟨_, member⟩)
      · exact good
      · exact all ask' member

/-- The loop ends for every source, and asks it for no byte outside its range. -/
theorem readLoop_ends (source : ExportSource σ ε) (offset : Nat) (started : done ≤ length)
    (room : length ≤ buf.length) (s : σ) (log : List (Ask ε)) :
    ∃ outcome next asks,
      (DbExport.readLoop source offset length buf done).run s = (outcome, next) ∧
      (DbExport.readLoop source.watched offset length buf done).run (s, log) =
        (outcome, next, log ++ asks) ∧
      asks.length ≤ length - done ∧
      (∀ ask ∈ asks, 0 < ask.requested ∧ offset + done ≤ ask.offset ∧
        ask.offset + ask.requested = offset + length) ∧
      LoopEnd length buf asks outcome := by
  induction remaining : length - done using Nat.strongRecOn generalizing done buf s log with
  | ind n ih =>
    by_cases more : done < length
    swap
    · refine ⟨.ok buf, s, [], ?_, ?_, by simp, nofun, rfl, rfl, nofun⟩
      · rw [DbExport.readLoop, if_neg more]
        rfl
      · rw [DbExport.readLoop, if_neg more, List.append_nil]
        rfl
    have asked : ((buf.take length).drop done).length = length - done := by
      rw [List.length_drop, List.length_take, Nat.min_eq_left room]
    rw [readLoop_round more room, readLoop_round more room, watched_readAt, asked]
    rcases answer : (source.readAt (offset + done) ((buf.take length).drop done)).run s with
      ⟨⟨count, part⟩ | error | why, next⟩
    · have same := source.keepsLength _ _ _ _ _ _ answer
      rw [asked] at same
      dsimp only [counted]
      by_cases wrong : count = 0 ∨ length - done < count
      · rw [if_pos wrong, if_pos wrong]
        refine ⟨_, next, [⟨offset + done, length - done, .ok count⟩], rfl, rfl, ?_, ?_, [], _, rfl,
          nofun, .inr ⟨count, rfl, wrong, rfl⟩⟩
        · rw [List.length_singleton]
          omega
        · intro ask member
          obtain rfl := List.mem_singleton.mp member
          exact ⟨Nat.sub_pos_of_lt more, Nat.le_refl _, by dsimp only; omega⟩
      · rw [if_neg wrong, if_neg wrong]
        have positive : 0 < count := by omega
        have atMost : count ≤ length - done := by omega
        have whole : (buf.take done ++ part ++ buf.drop length).length = buf.length := by
          simp only [List.length_append, List.length_take, List.length_drop, same]
          omega
        have past : (buf.take done ++ part ++ buf.drop length).drop length = buf.drop length := by
          refine List.drop_left' ?_
          rw [List.length_append, List.length_take, same]
          omega
        obtain ⟨outcome, last, asks, run, watched, few, inside, ends⟩ :=
          ih (length - (done + count)) (by omega) (by omega) (whole.symm ▸ room) next
            (log ++ [⟨offset + done, length - done, .ok count⟩]) rfl
        refine ⟨outcome, last, ⟨offset + done, length - done, .ok count⟩ :: asks, run, ?_, ?_, ?_,
          ends.cons ⟨count, rfl, positive, atMost⟩ whole past⟩
        · rw [watched, List.append_assoc]
          rfl
        · rw [List.length_cons]
          omega
        · rintro ask (_ | ⟨_, member⟩)
          · exact ⟨Nat.sub_pos_of_lt more, Nat.le_refl _, by dsimp only; omega⟩
          · obtain ⟨positive, above, upTo⟩ := inside ask member
            exact ⟨positive, by omega, upTo⟩
    · refine ⟨.err error, next, [⟨offset + done, length - done, .err error⟩], rfl, rfl, ?_,
        ?_, [], _, rfl, nofun, .inl rfl⟩
      · rw [List.length_singleton]
        omega
      · intro ask member
        obtain rfl := List.mem_singleton.mp member
        exact ⟨Nat.sub_pos_of_lt more, Nat.le_refl _, by dsimp only; omega⟩
    · refine ⟨.halt why, next, [⟨offset + done, length - done, .halt why⟩], rfl, rfl, ?_, ?_, [], _,
        rfl, nofun, rfl⟩
      · rw [List.length_singleton]
        omega
      · intro ask member
        obtain rfl := List.mem_singleton.mp member
        exact ⟨Nat.sub_pos_of_lt more, Nat.le_refl _, by dsimp only; omega⟩

/-- Whatever a truthful source does, the loop fills its range with bytes of the image. -/
theorem Truthful.readLoop (truthful : Truthful source image Inv) (started : done ≤ length)
    (room : length ≤ buf.length) (within : offset + length ≤ image.length) (holds : Inv s)
    (filled : buf.take done = (image.drop offset).take done) :
    Inv ((DbExport.readLoop source offset length buf done).run s).2 ∧
      ∀ result, ((DbExport.readLoop source offset length buf done).run s).1 = .ok result →
        result.take length = (image.drop offset).take length := by
  induction remaining : length - done using Nat.strongRecOn generalizing done buf s with
  | ind n ih =>
    by_cases more : done < length
    swap
    · obtain rfl : done = length := by omega
      rw [DbExport.readLoop, if_neg more]
      refine ⟨holds, fun result same => ?_⟩
      obtain rfl := Outcome.ok.inj same
      exact filled
    have asked : ((buf.take length).drop done).length = length - done := by
      rw [List.length_drop, List.length_take, Nat.min_eq_left room]
    have nonempty : (buf.take length).drop done ≠ [] := by
      rw [← List.length_pos_iff, asked]
      omega
    have inside : offset + done + ((buf.take length).drop done).length ≤ image.length := by
      rw [asked]
      omega
    have kept := truthful.kept s (offset + done) _ holds nonempty inside
    rw [readLoop_round more room]
    rcases answer : (source.readAt (offset + done) ((buf.take length).drop done)).run s with
      ⟨⟨count, part⟩ | error | why, next⟩
    · rw [answer] at kept
      dsimp only
      by_cases wrong : count = 0 ∨ length - done < count
      · rw [if_pos wrong]
        exact ⟨kept, nofun⟩
      rw [if_neg wrong]
      have same := source.keepsLength _ _ _ _ _ _ answer
      rw [asked] at same
      have read := truthful.bytes s (offset + done) _ count part next holds nonempty inside answer
        (by omega)
      have front : (buf.take done).length = done := List.length_take_of_le (by omega)
      refine ih (length - (done + count)) (by omega) (by omega) ?_ kept ?_ rfl
      · simp only [List.length_append, List.length_take, List.length_drop, same]
        omega
      · have whole : (buf.take done).take (done + count) = buf.take done :=
          List.take_of_length_le (by omega)
        rw [List.take_append_of_le_length (by rw [List.length_append, front, same]; omega),
          List.take_append, front, whole, Nat.add_sub_cancel_left, read, filled, List.take_add,
          List.drop_drop]
    · rw [answer] at kept
      exact ⟨kept, nofun⟩
    · rw [answer] at kept
      exact ⟨kept, nofun⟩

theorem Faithful.readLoop (faithful : Faithful source image Inv) (started : done ≤ length)
    (room : length ≤ buf.length) (within : offset + length ≤ image.length) (holds : Inv s) :
    ∃ result next, (DbExport.readLoop source offset length buf done).run s =
    (.ok result, next) := by
  induction remaining : length - done using Nat.strongRecOn generalizing done buf s with
  | ind n ih =>
    by_cases more : done < length
    swap
    · refine ⟨buf, s, ?_⟩
      rw [DbExport.readLoop, if_neg more]
      rfl
    have asked : ((buf.take length).drop done).length = length - done := by
      rw [List.length_drop, List.length_take, Nat.min_eq_left room]
    have nonempty : (buf.take length).drop done ≠ [] := by
      rw [← List.length_pos_iff, asked]
      omega
    have inside : offset + done + ((buf.take length).drop done).length ≤ image.length := by
      rw [asked]
      omega
    have kept := faithful.kept s (offset + done) _ holds nonempty inside
    obtain ⟨count, part, next, answer, positive, atMost⟩ :=
      faithful.answers s (offset + done) _ holds nonempty inside
    have same := source.keepsLength _ _ _ _ _ _ answer
    rw [asked] at atMost same
    rw [answer] at kept
    rw [readLoop_round more room, answer]
    dsimp only
    rw [if_neg (by omega)]
    refine ih (length - (done + count)) (by omega) (by omega) ?_ kept rfl
    simp only [List.length_append, List.length_take, List.length_drop, same]
    omega

/-! ## Reads -/

omit [FromTransferError ε] in
def DbExport.watched (dbExport : DbExport σ ε) : DbExport (σ × List (Ask ε)) ε :=
  ⟨dbExport.source.watched, dbExport.size, dbExport.offset⟩

/-- What a read returns, where it leaves the cursor, and which call is to blame if it failed. -/
def CursorEnd (dbExport : DbExport σ ε) (buf : List UInt8)
    (asks : List (Ask ε)) (cursor : Nat) : Outcome ε (Nat × List UInt8) → Prop
  | .ok (count, filled) => count = min (dbExport.size - dbExport.offset) buf.length ∧
      cursor = dbExport.offset + count ∧ filled.length = buf.length ∧
      filled.drop count = buf.drop count ∧ ∀ ask ∈ asks, ask.Good
  | .err error => cursor = dbExport.offset ∧ ∃ earlier last, asks = earlier ++ [last] ∧
      (∀ ask ∈ earlier, ask.Good) ∧ last.Blamed error
  | .halt why => cursor = dbExport.offset ∧ ∃ earlier last, asks = earlier ++ [last] ∧
      (∀ ask ∈ earlier, ask.Good) ∧ last.answer = .halt why

structure ReadEnd (dbExport : DbExport σ ε) (s : σ) (buf : List UInt8)
    (outcome : Outcome ε (Nat × List UInt8)) (cursor : Nat) (next : σ) (asks : List (Ask ε)) :
    Prop where
  run : (DbExport.read buf).run (dbExport, s) = (outcome, { dbExport with offset := cursor }, next)
  watched : (DbExport.read buf).run (dbExport.watched, s, []) =
    (outcome, ⟨dbExport.source.watched, dbExport.size, cursor⟩, next, asks)
  few : asks.length ≤ buf.length
  inside : ∀ ask ∈ asks, 0 < ask.requested ∧ dbExport.offset ≤ ask.offset ∧
    ask.offset + ask.requested ≤ dbExport.size
  ends : CursorEnd dbExport buf asks cursor outcome

theorem read_of_loop (dbExport : DbExport σ ε) (within : dbExport.offset ≤ dbExport.size)
    (buf : List UInt8) (s : σ) :
    (DbExport.read buf).run (dbExport, s) =
      match (DbExport.readLoop dbExport.source dbExport.offset
        (min (dbExport.size - dbExport.offset) buf.length) buf 0).run s with
      | (.ok filled, next) => (.ok (min (dbExport.size - dbExport.offset) buf.length, filled),
          { dbExport with
            offset := dbExport.offset + min (dbExport.size - dbExport.offset) buf.length }, next)
      | (.err error, next) => (.err error, dbExport, next)
      | (.halt why, next) => (.halt why, dbExport, next) := by
  unfold DbExport.read
  rw [Prog.get_bind]
  dsimp only
  rw [Prog.checkedSub_of_le within, Prog.pure_bind, Prog.bind_run]
  unfold Prog.onSnd
  dsimp only
  rcases (DbExport.readLoop dbExport.source dbExport.offset
    (min (dbExport.size - dbExport.offset) buf.length) buf 0).run s with
    ⟨filled | error | why, next⟩ <;> rfl

theorem read_ends (dbExport : DbExport σ ε) (within : dbExport.offset ≤ dbExport.size)
    (buf : List UInt8) (s : σ) :
    ∃ outcome cursor next asks, ReadEnd dbExport s buf outcome cursor next asks := by
  obtain ⟨outcome, next, asks, run, watched, few, inside, ends⟩ :=
    readLoop_ends dbExport.source dbExport.offset (Nat.zero_le _)
      (Nat.min_le_right (dbExport.size - dbExport.offset) buf.length) s []
  have ranges : ∀ ask ∈ asks, 0 < ask.requested ∧ dbExport.offset ≤ ask.offset ∧
      ask.offset + ask.requested ≤ dbExport.size := by
    intro ask member
    obtain ⟨positive, above, upTo⟩ := inside ask member
    exact ⟨positive, by omega, by omega⟩
  have read := read_of_loop dbExport within buf s
  have read' := read_of_loop dbExport.watched within buf (s, [])
  have watched' : (DbExport.readLoop dbExport.watched.source dbExport.watched.offset
      (min (dbExport.watched.size - dbExport.watched.offset) buf.length) buf 0).run (s, []) =
        (outcome, next, asks) := watched
  rw [run] at read
  rw [watched'] at read'
  have fewer : asks.length ≤ buf.length := by omega
  cases outcome with
  | ok filled =>
      obtain ⟨length, past, good⟩ := ends
      exact ⟨_, _, next, asks, read, read', fewer, ranges, rfl, rfl, length, past, good⟩
  | err error => exact ⟨_, dbExport.offset, next, asks, read, read', fewer, ranges, rfl, ends⟩
  | halt why => exact ⟨_, dbExport.offset, next, asks, read, read', fewer, ranges, rfl, ends⟩

theorem Truthful.read {dbExport : DbExport σ ε} (truthful : Truthful dbExport.source image Inv)
    (size : dbExport.size = image.length) (within : dbExport.offset ≤ image.length) (holds : Inv s)
    {outcome : Outcome ε (Nat × List UInt8)} {dbExport' : DbExport σ ε} {next : σ}
    (run : (DbExport.read buf).run (dbExport, s) = (outcome, dbExport', next)) :
    Inv next ∧ ∀ count filled, outcome = .ok (count, filled) →
      filled.take count = (image.drop dbExport.offset).take count := by
  have ended := read_of_loop dbExport (size ▸ within) buf s
  rw [run] at ended
  obtain ⟨kept, bytes⟩ := truthful.readLoop (Nat.zero_le _)
    (Nat.min_le_right (dbExport.size - dbExport.offset) buf.length)
    (show dbExport.offset + _ ≤ image.length by omega) holds rfl
  rcases loop : (DbExport.readLoop dbExport.source dbExport.offset
    (min (dbExport.size - dbExport.offset) buf.length) buf 0).run s with
    ⟨filled | error | why, last⟩
  · rw [loop] at ended kept bytes
    obtain ⟨rfl, same⟩ := Prod.mk.inj ended
    obtain ⟨-, rfl⟩ := Prod.mk.inj same
    refine ⟨kept, fun count filled' same => ?_⟩
    obtain ⟨rfl, rfl⟩ := Prod.mk.inj (Outcome.ok.inj same)
    exact bytes filled rfl
  · rw [loop] at ended kept
    obtain ⟨rfl, same⟩ := Prod.mk.inj ended
    obtain ⟨-, rfl⟩ := Prod.mk.inj same
    exact ⟨kept, nofun⟩
  · rw [loop] at ended kept
    obtain ⟨rfl, same⟩ := Prod.mk.inj ended
    obtain ⟨-, rfl⟩ := Prod.mk.inj same
    exact ⟨kept, nofun⟩

theorem Faithful.read {dbExport : DbExport σ ε} (faithful : Faithful dbExport.source image Inv)
    (size : dbExport.size = image.length) (within : dbExport.offset ≤ image.length) (holds : Inv s)
    (buf : List UInt8) :
    ∃ filled next, (DbExport.read buf).run (dbExport, s) =
      (.ok (min (image.length - dbExport.offset) buf.length, filled),
        { dbExport with
          offset := dbExport.offset + min (image.length - dbExport.offset) buf.length }, next) := by
  obtain ⟨filled, next, run⟩ := faithful.readLoop (Nat.zero_le _)
    (Nat.min_le_right (dbExport.size - dbExport.offset) buf.length)
    (show dbExport.offset + _ ≤ image.length by omega) holds
  refine ⟨filled, next, ?_⟩
  rw [read_of_loop dbExport (size ▸ within), run, size]

/-! ## Sequences of reads -/

structure ReadCall (ε : Type) where
  buf : List UInt8
  outcome : Outcome ε (Nat × List UInt8)

omit [FromTransferError ε] in
def ReadCall.returned (call : ReadCall ε) : List UInt8 :=
  match call.outcome with
  | .ok (count, filled) => filled.take count
  | _ => []

inductive ReadStep (state : DbExport σ ε × σ) (call : ReadCall ε) : DbExport σ ε × σ → Prop
  | intro {state' : DbExport σ ε × σ} : (∀ why, call.outcome ≠ .halt why) →
      (DbExport.read call.buf).run state = (call.outcome, state') → ReadStep state call state'

/-- The cursor of an export stays inside what its source advertised. -/
theorem reads_inside {calls : List (ReadCall ε)} {state : DbExport σ ε × σ}
    (runs : Runs ReadStep (DbExport.new source, s) calls state) :
    state.1.source = source ∧ state.1.size = source.size ∧ state.1.offset ≤ source.size := by
  induction runs with
  | refl => exact ⟨rfl, rfl, Nat.zero_le _⟩
  | @snoc calls before after call _ step ih =>
      obtain ⟨same, size, within⟩ := ih
      obtain ⟨dbExport, t⟩ := before
      cases step with
      | intro _ run =>
      obtain ⟨outcome, cursor, next, asks, ends⟩ := read_ends dbExport
        (size ▸ within) call.buf t
      obtain ⟨rfl, rfl⟩ := Prod.mk.inj (ends.run.symm.trans run)
      refine ⟨same, size, ?_⟩
      have last := ends.ends
      rcases result : call.outcome with ⟨count, filled⟩ | error | why
      · rw [result] at last
        obtain ⟨rfl, rfl, -⟩ := last
        dsimp only at size within ⊢
        omega
      · rw [result] at last
        obtain ⟨rfl, -⟩ := last
        exact within
      · rw [result] at last
        obtain ⟨rfl, -⟩ := last
        exact within

/-- The reads that succeed return what is before the cursor, each byte once and in order. -/
theorem Truthful.reads (truthful : Truthful source image Inv)
    (advertised : source.size = image.length) (holds : Inv s)
    {calls : List (ReadCall ε)} {state : DbExport σ ε × σ}
    (runs : Runs ReadStep (DbExport.new source, s) calls state) :
    Inv state.2 ∧ calls.flatMap ReadCall.returned = image.take state.1.offset := by
  induction runs with
  | refl => exact ⟨holds, rfl⟩
  | @snoc calls before after call runs step ih =>
      obtain ⟨same, size, within⟩ := reads_inside runs
      obtain ⟨kept, returned⟩ := ih
      obtain ⟨dbExport, t⟩ := before
      dsimp only at same size within kept returned
      subst same
      cases step with
      | intro stays run =>
      obtain ⟨outcome, cursor, next, asks, ends⟩ := read_ends dbExport
        (size ▸ within) call.buf t
      obtain ⟨rfl, rfl⟩ := Prod.mk.inj (ends.run.symm.trans run)
      rw [advertised] at size within
      obtain ⟨kept', bytes⟩ := truthful.read size within kept run
      refine ⟨kept', ?_⟩
      rw [List.flatMap_append, returned]
      have last := ends.ends
      change _ ++ ([call].flatMap ReadCall.returned) = image.take cursor
      rw [List.flatMap_singleton]
      unfold ReadCall.returned
      rcases result : call.outcome with ⟨count, filled⟩ | error | why
      · rw [result] at last
        obtain ⟨-, rfl, -⟩ := last
        dsimp only
        rw [bytes count filled result, List.take_add]
      · rw [result] at last
        obtain ⟨rfl, -⟩ := last
        exact List.append_nil _
      · exact absurd result (stays why)

/-! ## Collecting the rest -/

theorem Truthful.readToVec {dbExport : DbExport σ ε} (truthful : Truthful dbExport.source image Inv)
    (size : dbExport.size = image.length) (within : dbExport.offset ≤ image.length) (holds : Inv s)
    {bits : Nat} {granted : Bool} {bytes : List UInt8} {next : σ}
    (run : (dbExport.readToVec bits granted).run s = (.ok bytes, next)) :
    bytes = image.drop dbExport.offset := by
  unfold DbExport.readToVec at run
  obtain ⟨dropped, body⟩ := Prog.ensure_ok_cases run
  rw [size, Prog.checkedSub_of_le within, Prog.pure_bind] at body
  by_cases large : 2 ^ (bits - 1) ≤ image.length - dbExport.offset
  · rw [if_pos large] at body
    exact nomatch congrArg Prod.fst body
  rw [if_neg large] at body
  cases granted with
  | false => exact nomatch congrArg Prod.fst body
  | true =>
      rw [if_pos rfl] at body
      obtain ⟨⟨⟨count, filled⟩, dbExport'⟩, last, read, rest⟩ := Prog.bind_ok_cases body
      obtain rfl : filled = bytes := Outcome.ok.inj (congrArg Prod.fst rest)
      have read' := Prog.withState_ok_cases read
      have whole : min (dbExport.size - dbExport.offset)
          (List.replicate (image.length - dbExport.offset) (0 : UInt8)).length =
            image.length - dbExport.offset := by
        rw [List.length_replicate, size, Nat.min_self]
      obtain ⟨outcome, cursor, t, asks, ends⟩ := read_ends dbExport (size ▸ within)
        (List.replicate (image.length - dbExport.offset) 0) s
      obtain ⟨rfl, -⟩ := Prod.mk.inj (ends.run.symm.trans read')
      obtain ⟨counts, -, length, -⟩ := ends.ends
      obtain ⟨-, bytes⟩ := truthful.read size within holds read'
      have same := bytes count filled rfl
      rw [counts, whole] at same
      rw [List.length_replicate] at length
      have rest : (image.drop dbExport.offset).take (image.length - dbExport.offset) =
          image.drop dbExport.offset :=
        List.take_of_length_le (Nat.le_of_eq List.length_drop)
      rw [List.take_of_length_le (Nat.le_of_eq length), rest] at same
      exact same

/-- `read_to_vec` returns the rest of the image of a faithful source, if it fits. -/
theorem Faithful.readToVec {dbExport : DbExport σ ε} (faithful : Faithful dbExport.source image Inv)
    (size : dbExport.size = image.length) (within : dbExport.offset ≤ image.length) (holds : Inv s)
    {bits : Nat} (fits : image.length - dbExport.offset < 2 ^ (bits - 1)) :
    ∃ next, (dbExport.readToVec bits true).run s = (.ok (image.drop dbExport.offset), next) := by
  obtain ⟨filled, next, read⟩ := faithful.read size within holds
    (List.replicate (image.length - dbExport.offset) 0)
  obtain ⟨kept, -⟩ := faithful.toTruthful.read size within holds read
  obtain ⟨last, dropped⟩ := faithful.drops next kept
  have run : (dbExport.readToVec bits true).run s = (.ok filled, last) := by
    unfold DbExport.readToVec
    refine Prog.ensure_ok ?_ dropped
    rw [size, Prog.checkedSub_of_le within, Prog.pure_bind, if_neg (by omega), if_pos rfl,
      Prog.bind_ok (Prog.withState_ok read)]
    rfl
  refine ⟨last, ?_⟩
  rw [run, faithful.toTruthful.readToVec size within holds run]

/-- For every source and every sequence of reads, the cursor stays in range, a read that fails
leaves it where it was, and what was read is the image up to it. -/
theorem reads_reassemble_image (source : ExportSource σ ε) (s : σ) {calls : List (ReadCall ε)}
    {state : DbExport σ ε × σ} (runs : Runs ReadStep (DbExport.new source, s) calls state) :
    (state.1.source = source ∧ state.1.size = source.size ∧ state.1.offset ≤ source.size) ∧
      (∀ buf, ∃ outcome cursor next asks, ReadEnd state.1 state.2 buf outcome cursor next asks) ∧
      (∀ (image : List UInt8) (Inv : σ → Prop), Truthful source image Inv →
        source.size = image.length → Inv s →
        calls.flatMap ReadCall.returned = image.take state.1.offset ∧
        ∀ bits granted bytes next, (state.1.readToVec bits granted).run state.2 =
          (.ok bytes, next) → calls.flatMap ReadCall.returned ++ bytes = image) ∧
      ∀ (image : List UInt8) (Inv : σ → Prop), Faithful source image Inv →
        source.size = image.length → Inv s →
        (∀ buf, ∃ filled next, (DbExport.read buf).run state =
          (.ok (min (image.length - state.1.offset) buf.length, filled),
            { state.1 with
              offset := state.1.offset + min (image.length - state.1.offset) buf.length }, next)) ∧
        ∀ bits, image.length - state.1.offset < 2 ^ (bits - 1) →
          ∃ next, (state.1.readToVec bits true).run state.2 =
            (.ok (image.drop state.1.offset), next) := by
  obtain ⟨same, size, within⟩ := reads_inside runs
  refine ⟨reads_inside runs, fun buf => read_ends state.1 (size ▸ within) buf state.2,
    fun image Inv truthful advertised holds => ?_, fun image Inv faithful advertised holds => ?_⟩
  · obtain ⟨kept, returned⟩ := truthful.reads advertised holds runs
    refine ⟨returned, fun bits granted bytes next run => ?_⟩
    rw [advertised] at size within
    obtain rfl := (same ▸ truthful : Truthful state.1.source image Inv).readToVec size
      within kept run
    rw [returned, List.take_append_drop]
  · obtain ⟨kept, -⟩ := faithful.toTruthful.reads advertised holds runs
    rw [advertised] at size within
    have faithful' : Faithful state.1.source image Inv := same ▸ faithful
    exact ⟨faithful'.read size within kept, fun bits => faithful'.readToVec size within kept⟩

omit [FromTransferError ε] in
def ExportSource.slow (image : List UInt8) : ExportSource Unit ε where
  size := image.length
  readAt offset buf := ⟨fun s => (.ok (min 1 buf.length, match buf with
    | [] => []
    | _ :: rest => image.getD offset 0 :: rest), s)⟩
  drop := ⟨fun s => (.ok (), s)⟩
  keepsLength offset buf s count filled next run := by
    obtain ⟨-, rfl⟩ := Prod.mk.inj (Outcome.ok.inj (congrArg Prod.fst run))
    cases buf <;> rfl

omit [FromTransferError ε] in
theorem faithful_slow (image : List UInt8) :
    Faithful (ExportSource.slow image : ExportSource Unit ε) image fun _ => True where
  kept _ _ _ _ _ _ := trivial
  bytes s offset buf count filled next _ nonempty within run _ := by
    obtain ⟨rfl, rfl⟩ := Prod.mk.inj (Outcome.ok.inj (congrArg Prod.fst run))
    obtain ⟨byte, rest, rfl⟩ := List.exists_cons_of_ne_nil nonempty
    have inside : offset < image.length := by
      rw [List.length_cons] at within
      omega
    have one : min 1 (byte :: rest).length = 1 := by
      rw [List.length_cons]
      omega
    rw [one, List.drop_eq_getElem_cons inside, List.getD_eq_getElem?_getD,
      List.getElem?_eq_getElem inside]
    rfl
  answers s offset buf _ nonempty _ := by
    refine ⟨_, _, s, rfl, ?_, Nat.min_le_right _ _⟩
    have := List.length_pos_iff.mpr nonempty
    omega
  drops s _ := ⟨s, rfl⟩

instance : FromTransferError TransferError := ⟨id⟩

theorem slow_reads_reassemble : ∃ calls : List (ReadCall TransferError),
    calls.flatMap ReadCall.returned = [7, 8] := by
  have faithful : Faithful (ExportSource.slow [7, 8, 9] : ExportSource Unit TransferError)
      [7, 8, 9] fun _ => True := faithful_slow [7, 8, 9]
  have reading : Faithful (DbExport.new (ExportSource.slow [7, 8, 9] :
      ExportSource Unit TransferError)).source [7, 8, 9] fun _ => True := faithful
  obtain ⟨filled, next, run⟩ := reading.read (s := ()) rfl (Nat.zero_le _) trivial [0, 0]
  have step : ReadStep _ ⟨[0, 0], .ok (2, filled)⟩ _ := .intro nofun run
  exact ⟨_, ((reads_reassemble_image _ _ (.single step)).2.2.1 _ _ faithful.toTruthful rfl
    trivial).1⟩

end SqliteVfs
