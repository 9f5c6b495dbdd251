import SqliteVfs.Base.Blocks
import SqliteVfs.Core.ChunksFile

/-!
# The representation invariant of the chunked file

`WellFormed` is what every call keeps: chunks of one fixed size, exactly as many as the
file size needs, and zeros from the file size on.  `contents` is the byte vector a file
stands for.  Each operation has one specification: what it returns, and what it does to
the contents.
-/

set_option autoImplicit false

namespace SqliteVfs.MemChunksFile

open SparseVector Blocks

def contents (f : MemChunksFile) : List UInt8 := f.chunks.flatten.take f.fileSize

def chunksFor (n c : Nat) : Nat := (n + c - 1) / c

structure WellFormed (bits : Nat) (f : MemChunksFile) : Prop where
  unset : f.chunkSize = none → f.chunks = [] ∧ f.fileSize = 0
  positive : ∀ c, f.chunkSize = some c → 0 < c
  uniform : ∀ c, f.chunkSize = some c → Uniform c f.chunks
  tight : ∀ c, f.chunkSize = some c → f.chunks.length = chunksFor f.fileSize c
  zeroTail : ∀ byte ∈ f.chunks.flatten.drop f.fileSize, byte = 0
  fits : f.fileSize < 2 ^ bits

theorem chunksFor_zero (c : Nat) : chunksFor 0 c = 0 := by
  unfold chunksFor
  rcases c with - | c
  · rfl
  · exact Nat.div_eq_of_lt (by omega)

theorem chunksFor_pos {n c : Nat} (hn : 0 < n) (hc : 0 < c) :
    chunksFor n c = (n - 1) / c + 1 := by
  unfold chunksFor
  rw [show n + c - 1 = n - 1 + c by omega, Nat.add_div_right _ hc]

theorem le_chunksFor_mul (n : Nat) {c : Nat} (hc : 0 < c) : n ≤ chunksFor n c * c := by
  rcases Nat.eq_zero_or_pos n with rfl | hn
  · simp
  · rw [chunksFor_pos hn hc, Nat.add_mul, Nat.one_mul]
    have division := Nat.div_add_mod' (n - 1) c
    have remainder := Nat.mod_lt (n - 1) hc
    omega

theorem chunksFor_max (m n c : Nat) :
    chunksFor (max m n) c = max (chunksFor m c) (chunksFor n c) := by
  unfold chunksFor
  rcases Nat.le_total m n with h | h
  · rw [Nat.max_eq_right h, Nat.max_eq_right (Nat.div_le_div_right (by omega))]
  · rw [Nat.max_eq_left h, Nat.max_eq_left (Nat.div_le_div_right (by omega))]

namespace WellFormed

variable {bits : Nat} {f : MemChunksFile}

theorem size_le (wf : WellFormed bits f) : f.fileSize ≤ f.chunks.flatten.length := by
  cases set : f.chunkSize with
  | none => simp [(wf.unset set).2]
  | some c =>
      rw [length_flatten (wf.uniform c set), wf.tight c set]
      exact le_chunksFor_mul _ (wf.positive c set)

theorem length_contents (wf : WellFormed bits f) : f.contents.length = f.fileSize := by
  rw [contents, List.length_take, Nat.min_eq_left wf.size_le]

/-- The joined chunks are the contents followed by zeros. -/
theorem flatten_eq (wf : WellFormed bits f) :
    f.chunks.flatten =
      f.contents ++ zeros (f.chunks.flatten.length - f.fileSize) := by
  conv_lhs => rw [← List.take_append_drop f.fileSize f.chunks.flatten]
  rw [contents]
  congr 1
  exact List.eq_replicate_iff.mpr ⟨List.length_drop, wf.zeroTail⟩

end WellFormed

theorem wellFormed_new {bits c : Nat} {f : MemChunksFile} (made : new c = some f) :
    WellFormed bits f := by
  unfold new at made
  split at made
  · cases made
  · rename_i positive
    cases made
    refine ⟨by simp, ?_, ?_, ?_, by simp, by simp⟩
    · rintro c ⟨⟩
      omega
    · rintro c ⟨⟩ block member
      cases member
    · rintro c ⟨⟩
      exact (chunksFor_zero _).symm

theorem wellFormed_waitingForWrite (bits : Nat) : WellFormed bits waitingForWrite := by
  refine ⟨by simp [waitingForWrite], ?_, ?_, ?_, by simp [waitingForWrite],
    by simp [waitingForWrite]⟩ <;>
  · intro c set
    cases set

/-! ## Reading -/

/-- The loop fills `buf` with the bytes of the joined chunks from `r` on. -/
theorem readLoop_eq {c : Nat} (f : MemChunksFile) :
    ∀ (rest : List (List UInt8)) (buf : List UInt8) (offset size r : Nat),
      Uniform c rest → r < c → r + size ≤ rest.flatten.length →
      offset + size ≤ buf.length →
      (readLoop c rest buf offset size r).run f =
        (.ok (offset + size,
          buf.take offset ++ readAt rest.flatten r size ++ buf.drop (offset + size)), f) := by
  intro rest
  induction rest with
  | nil =>
      intro buf offset size r _ _ available _
      have empty : size = 0 := by simp at available; omega
      subst empty
      simp [readLoop, Prog.pure_run, readAt]
  | cons chunk rest ih =>
      intro buf offset size r uniform rBound available room
      have headLength : chunk.length = c := uniform chunk (List.mem_cons_self ..)
      have tailUniform : Uniform c rest := fun b h => uniform b (List.mem_cons_of_mem _ h)
      rw [List.flatten_cons, List.length_append, headLength] at available
      have nLe : min (c - r) size ≤ size := Nat.min_le_right ..
      have partLength : ((chunk.take (r + min (c - r) size)).drop r).length
          = min (c - r) size := by
        rw [List.length_drop, List.length_take]
        omega
      rw [readLoop, Prog.checkedSub_of_le rBound.le, Prog.pure_bind]
      dsimp only
      rw [Prog.slice_of_le (by omega) (by omega), Prog.pure_bind,
        Prog.copyInto_of_le (by omega) (by omega) (by omega), Prog.pure_bind,
        Prog.checkedSub_of_le nLe, Prog.pure_bind]
      -- either this chunk ends the range, or the rest starts on a chunk boundary
      by_cases last : size - min (c - r) size = 0
      · have whole : min (c - r) size = size := by omega
        rw [if_pos last, whole, Prog.pure_run]
        congr 5
        rw [readAt, List.flatten_cons, List.drop_append_of_le_length (by omega),
          List.take_append_of_le_length (by rw [List.length_drop]; omega), List.drop_take]
        congr 1
        omega
      · have whole : min (c - r) size = c - r := by omega
        rw [if_neg last, whole]
        rw [whole] at partLength
        have more : size = (c - r) + (size - (c - r)) := by omega
        have bufLength : (buf.take offset ++ (chunk.take (r + (c - r))).drop r ++
            buf.drop (offset + (c - r))).length = buf.length := by
          simp only [List.length_append, partLength, List.length_take, List.length_drop]
          omega
        rw [ih _ _ _ _ tailUniform (by omega) (by omega) (by rw [bufLength]; omega)]
        have chunkTail : (chunk.take (r + (c - r))).drop r =
            readAt (chunk ++ rest.flatten) r (c - r) := by
          rw [readAt, List.drop_append_of_le_length (by omega),
            List.take_append_of_le_length (by rw [List.length_drop]; omega), List.drop_take]
          congr 1
          omega
        have restPart : readAt rest.flatten 0 (size - (c - r)) =
            readAt (chunk ++ rest.flatten) (r + (c - r)) (size - (c - r)) := by
          rw [readAt, readAt, show r + (c - r) = chunk.length by omega, List.drop_left,
            List.drop_zero]
        have total : offset + (c - r) + (size - (c - r)) = offset + size := by omega
        have keptPrefix : (buf.take offset ++ (chunk.take (r + (c - r))).drop r ++
            buf.drop (offset + (c - r))).take (offset + (c - r)) =
            buf.take offset ++ (chunk.take (r + (c - r))).drop r := by
          apply List.take_left'
          rw [List.length_append, List.length_take, partLength]
          omega
        have keptSuffix : (buf.take offset ++ (chunk.take (r + (c - r))).drop r ++
            buf.drop (offset + (c - r))).drop (offset + size) = buf.drop (offset + size) := by
          rw [List.drop_append, List.drop_eq_nil_of_le, List.nil_append, List.drop_drop]
          · congr 1
            simp only [List.length_append, List.length_take, partLength]
            omega
          · simp only [List.length_append, List.length_take, partLength]
            omega
        rw [keptPrefix, total, keptSuffix, chunkTail, restPart, List.append_assoc (buf.take offset),
          readAt_append, ← more, List.flatten_cons]

theorem length_of_readLoop (chunkSize : Nat) (chunks : List (List UInt8)) {buf : List UInt8}
    {offset size remainingIdx count : Nat} {filled : List UInt8} {f next : MemChunksFile}
    (run : (readLoop chunkSize chunks buf offset size remainingIdx).run f =
      (.ok (count, filled), next)) : filled.length = buf.length := by
  induction chunks generalizing buf offset size remainingIdx f with
  | nil =>
      exact congrArg (fun result => result.2.length) (Outcome.ok.inj (congrArg Prod.fst run)).symm
  | cons chunk rest ih =>
      unfold readLoop at run
      obtain ⟨room, _, _, run⟩ := Prog.bind_ok_cases run
      obtain ⟨part, _, _, run⟩ := Prog.bind_ok_cases run
      obtain ⟨copied, s, copy, run⟩ := Prog.bind_ok_cases run
      obtain ⟨left, _, _, run⟩ := Prog.bind_ok_cases run
      rw [← Prog.length_of_copyInto copy]
      split at run
      · exact congrArg (fun result => result.2.length)
          (Outcome.ok.inj (congrArg Prod.fst run)).symm
      · exact ih run

theorem length_of_read {bits : Nat} {buf : List UInt8} {offset : UInt64} {count : Nat}
    {filled : List UInt8} {f next : MemChunksFile}
    (run : (read bits buf offset).run f = (.ok (count, filled), next)) :
    filled.length = buf.length := by
  unfold read at run
  rw [Prog.get_bind] at run
  split at run
  · exact congrArg (fun result => result.2.length)
      (Outcome.ok.inj (congrArg Prod.fst run)).symm
  · dsimp only at run
    split at run
    · exact congrArg (fun result => result.2.length)
        (Outcome.ok.inj (congrArg Prod.fst run)).symm
    · obtain ⟨phase, _, _, run⟩ := Prog.bind_ok_cases run
      obtain ⟨rest, _, _, run⟩ := Prog.bind_ok_cases run
      obtain ⟨chunkIdx, _, _, run⟩ := Prog.bind_ok_cases run
      split at run
      · obtain ⟨chunk, _, _, run⟩ := Prog.bind_ok_cases run
        obtain ⟨copied, s, copy, run⟩ := Prog.bind_ok_cases run
        rw [← Prog.length_of_copyInto copy]
        exact congrArg (fun result => result.2.length)
          (Outcome.ok.inj (congrArg Prod.fst run)).symm
      · obtain ⟨touched, _, _, run⟩ := Prog.bind_ok_cases run
        exact length_of_readLoop _ _ run

/-- A read returns the bytes that exist in the range and leaves the rest of the buffer. -/
theorem read_eq {bits : Nat} {f : MemChunksFile} (wf : WellFormed bits f) (buf : List UInt8)
    (offset : UInt64) :
    (read bits buf offset).run f =
      (.ok (min buf.length (f.contents.length - offset.toNat),
        readAt f.contents offset.toNat buf.length ++
          buf.drop (min buf.length (f.contents.length - offset.toNat))), f) := by
  rw [wf.length_contents, read, Prog.get_bind]
  by_cases nothing : buf.length = 0 ∨ f.fileSize ≤ offset.toNat
  · have count : min buf.length (f.fileSize - offset.toNat) = 0 := by omega
    have empty : readAt f.contents offset.toNat buf.length = [] := by
      rw [← List.length_eq_zero_iff, length_readAt, wf.length_contents, count]
    rw [if_pos nothing, count, empty, Prog.pure_run]
    simp
  · have inside : offset.toNat < f.fileSize := by omega
    have exact : offset.toNat % 2 ^ bits = offset.toNat :=
      Nat.mod_eq_of_lt (inside.trans wf.fits)
    rw [if_neg nothing, exact]
    cases set : f.chunkSize with
    | none => exact absurd (wf.unset set).2 (by omega)
    | some c =>
        have positive := wf.positive c set
        have uniform := wf.uniform c set
        have division := Nat.div_add_mod' offset.toNat c
        have phaseLt := Nat.mod_lt offset.toNat positive
        have enough := wf.size_le
        rw [length_flatten uniform] at enough
        have chunkBound : offset.toNat / c < f.chunks.length := by
          rw [Nat.div_lt_iff_lt_mul positive]
          omega
        simp only [Prog.checkedRem_of_pos positive, Prog.checkedSub_of_le inside.le,
          Prog.checkedDiv_of_pos positive, Prog.pure_bind]
        by_cases aligned : c = buf.length ∧ offset.toNat % c = 0 ∧
            buf.length ≤ f.fileSize - offset.toNat
        · -- one whole chunk is the answer
          obtain ⟨whole, phase, fullRead⟩ := aligned
          obtain ⟨chunk, found⟩ : ∃ chunk, f.chunks[offset.toNat / c]? = some chunk :=
            ⟨_, List.getElem?_eq_getElem chunkBound⟩
          have chunkLength : chunk.length = buf.length := by
            rw [uniform chunk (List.mem_of_getElem? found), whole]
          rw [if_pos ⟨whole, phase, fullRead⟩, found, Prog.unwrap_some, Prog.pure_bind,
            Prog.copyInto_of_le (Nat.zero_le _) le_rfl (by omega), Prog.pure_bind, Prog.pure_run,
            Nat.min_eq_left fullRead]
          have sameStart : offset.toNat / c * c = offset.toNat := by omega
          have block := block_eq uniform found
          rw [sameStart, whole] at block
          have range : readAt f.contents offset.toNat buf.length = chunk := by
            rw [← block, contents, readAt, readAt, List.drop_take, List.take_take,
              Nat.min_eq_left (by omega)]
          rw [range, List.take_zero, List.nil_append, List.length_append, chunkLength,
            List.drop_length, List.length_nil, Nat.add_zero]
        · rw [if_neg aligned, Prog.slice_of_le chunkBound.le le_rfl, Prog.pure_bind,
            List.take_length, readLoop_eq f _ _ _ _ _ (uniform.drop _) phaseLt _ (by omega)]
          · rw [← drop_flatten uniform, Nat.zero_add, List.take_zero, List.nil_append, contents]
            congr 3
            rw [readAt, readAt, List.drop_drop, division, List.drop_take, List.take_take]
          · rw [← drop_flatten uniform, List.length_drop, length_flatten uniform]
            omega

/-! ## Writing -/

/-- The growth loop either appends all the chunks or puts the original list back. -/
theorem growLoop_cases (alloc : Nat → Bool) (c original : Nat) :
    ∀ (n request : Nat) (f : MemChunksFile),
      (growLoop alloc c original request n).run f =
          (.ok (), { f with chunks := f.chunks ++ List.replicate n (zeros c) }) ∨
        (∃ refused, alloc refused = false) ∧
          ∃ added, (growLoop alloc c original request n).run f =
            (.err noMemory, { f with chunks := (f.chunks ++ added).take original }) := by
  intro n
  induction n with
  | zero =>
      intro request f
      left
      simp [growLoop, Prog.pure_run]
  | succ n ih =>
      intro request f
      by_cases granted : alloc request
      · rw [growLoop, if_pos granted]
        rcases ih (request + 1) { f with chunks := f.chunks ++ [zeros c] } with grown | failed
        · left
          rw [Prog.modify_bind]
          refine grown.trans ?_
          rw [List.replicate_succ, List.append_assoc, List.singleton_append]
        · right
          obtain ⟨refused, added, failed⟩ := failed
          refine ⟨refused, zeros c :: added, ?_⟩
          rw [Prog.modify_bind]
          refine failed.trans ?_
          rw [List.append_assoc, List.singleton_append]
      · right
        refine ⟨⟨request, by simpa using granted⟩, [], ?_⟩
        rw [growLoop, if_neg granted, List.append_nil]
        rfl

/-- With every chunk in place the copy loop is a write into the joined chunks. -/
theorem writeLoop_eq {c : Nat} (buf : List UInt8) :
    ∀ (k i offset r : Nat) (f : MemChunksFile),
      Uniform c f.chunks → r < c → offset < buf.length → i + k ≤ f.chunks.length →
      buf.length - offset + r ≤ k * c →
      ∃ chunks, (writeLoop c buf (List.range' i k) offset (buf.length - offset) r).run f =
          (.ok (), { f with chunks := chunks }) ∧
        Uniform c chunks ∧ chunks.length = f.chunks.length ∧
        chunks.flatten = writeAt f.chunks.flatten (i * c + r) (buf.drop offset) := by
  intro k
  induction k with
  | zero =>
      intro i offset r f _ _ _ _ enough
      simp at enough
      omega
  | succ k ih =>
      intro i offset r f uniform rBound more bound enough
      obtain ⟨chunk, found⟩ : ∃ chunk, f.chunks[i]? = some chunk :=
        ⟨_, List.getElem?_eq_getElem (by omega)⟩
      have chunkLength : chunk.length = c := uniform chunk (List.mem_of_getElem? found)
      set n := min (c - r) (buf.length - offset) with nDef
      set part := (buf.take (offset + n)).drop offset with partDef
      have partLength : part.length = n := by
        rw [partDef, List.length_drop, List.length_take]
        omega
      set stored := chunk.take r ++ part ++ chunk.drop (r + n) with storedDef
      have storedLength : stored.length = c := by
        simp only [storedDef, List.length_append, List.length_take, List.length_drop, partLength]
        omega
      have storedFlatten : (f.chunks.set i stored).flatten =
          writeAt f.chunks.flatten (i * c + r) part := by
        rw [storedDef, ← partLength]
        exact flatten_set uniform found r part (by omega)
      have sliced : (Prog.slice buf offset (offset + n) : FileM _) = pure part :=
        Prog.slice_of_le (by omega) (by omega)
      have copied : (Prog.copyInto chunk r (r + n) part : FileM _) = pure stored :=
        Prog.copyInto_of_le (by omega) (by omega) (by omega)
      rw [List.range'_succ, writeLoop, Prog.get_bind,
        Prog.checkedSub_of_le rBound.le, Prog.pure_bind, found,
        Prog.unwrap_some, Prog.pure_bind, sliced, Prog.pure_bind, copied, Prog.pure_bind,
        Prog.modify_bind,
        Prog.checkedSub_of_le (Nat.min_le_right ..), Prog.pure_bind]
      by_cases last : buf.length - offset - n = 0
      · refine ⟨f.chunks.set i stored, ?_, uniform.set i storedLength, List.length_set, ?_⟩
        · rw [if_pos last]
          rfl
        · rw [storedFlatten, partDef, List.take_of_length_le (by omega)]
      · -- the chunk is filled up, and the rest starts on the next boundary
        have filled : n = c - r := by omega
        have rest : buf.length - offset - n = buf.length - (offset + n) := by omega
        have product : (k + 1) * c = k * c + c := by ring
        obtain ⟨chunks, run, uniform', sameLength, flatten⟩ :=
          ih (i + 1) (offset + n) 0 { f with chunks := f.chunks.set i stored }
            (uniform.set i storedLength) (by omega) (by omega)
            (by simp only [List.length_set]; omega) (by omega)
        refine ⟨chunks, ?_, uniform', sameLength.trans List.length_set, ?_⟩
        · rw [if_neg last, rest]
          exact run
        · have next : (i + 1) * c + 0 = i * c + r + part.length := by
            rw [partLength, filled, Nat.add_mul]
            omega
          rw [flatten, storedFlatten, next, writeAt_writeAt, partDef]
          congr 1
          rw [List.drop_take, Nat.add_sub_cancel_left, ← List.drop_drop, List.take_append_drop]

theorem store_eq {c : Nat} (f : MemChunksFile) (buf : List UInt8) (offset : Nat)
    (uniform : Uniform c f.chunks) (positive : 0 < c) (nonempty : 0 < buf.length)
    (room : offset + buf.length ≤ f.chunks.length * c) :
    ∃ chunks, (store c buf offset (offset + buf.length)).run f =
    (.ok (), { f with chunks := chunks }) ∧
      Uniform c chunks ∧ chunks.length = f.chunks.length ∧
      chunks.flatten = writeAt f.chunks.flatten offset buf := by
  have division := Nat.div_add_mod' offset c
  have phaseLt := Nat.mod_lt offset positive
  have startBound : offset / c < f.chunks.length := by
    rw [Nat.div_lt_iff_lt_mul positive]
    omega
  rw [store, Prog.get_bind, Prog.checkedRem_of_pos positive,
    Prog.pure_bind, Prog.checkedDiv_of_pos positive, Prog.pure_bind]
  by_cases aligned : c = buf.length ∧ offset % c = 0
  · obtain ⟨whole, phase⟩ := aligned
    obtain ⟨chunk, found⟩ : ∃ chunk, f.chunks[offset / c]? = some chunk :=
      ⟨_, List.getElem?_eq_getElem startBound⟩
    have chunkLength : chunk.length = c := uniform chunk (List.mem_of_getElem? found)
    have replaced := flatten_set uniform found 0 buf (by omega)
    rw [if_pos ⟨whole, phase⟩, found, Prog.unwrap_some, Prog.pure_bind,
      Prog.copyInto_of_le (Nat.zero_le _) le_rfl (by omega), Prog.pure_bind]
    have stored : chunk.take 0 ++ buf ++ chunk.drop chunk.length = buf := by simp
    have sameBlock : chunk.take 0 ++ buf ++ chunk.drop (0 + buf.length) = buf := by
      rw [Nat.zero_add, List.drop_eq_nil_of_le (by omega)]
      simp
    rw [sameBlock] at replaced
    refine ⟨f.chunks.set (offset / c) buf, ?_, uniform.set _ whole.symm, List.length_set, ?_⟩
    · rw [stored]
      rfl
    · rw [replaced, show offset / c * c + 0 = offset by omega]
  · have lastBound : (offset + buf.length - 1) / c < f.chunks.length := by
      rw [Nat.div_lt_iff_lt_mul positive]
      omega
    have ordered : offset / c ≤ (offset + buf.length - 1) / c :=
      Nat.div_le_div_right (by omega)
    have lastDivision := Nat.div_add_mod' (offset + buf.length - 1) c
    have lastLt := Nat.mod_lt (offset + buf.length - 1) positive
    have span : ((offset + buf.length - 1) / c + 1 - offset / c) * c =
        (offset + buf.length - 1) / c * c + c - offset / c * c := by
      rw [Nat.sub_mul, Nat.add_mul, Nat.one_mul]
    have scaled : offset / c * c ≤ (offset + buf.length - 1) / c * c :=
      Nat.mul_le_mul_right c ordered
    obtain ⟨chunks, run, uniform', sameLength, flatten⟩ :=
      writeLoop_eq buf ((offset + buf.length - 1) / c + 1 - offset / c) (offset / c) 0
        (offset % c) f uniform phaseLt nonempty (by omega) (by omega)
    refine ⟨chunks, ?_, uniform', sameLength, ?_⟩
    · rw [if_neg aligned, Prog.checkedSub_of_le (by omega), Prog.pure_bind,
        Prog.checkedDiv_of_pos positive, Prog.pure_bind]
      exact run
    · rw [flatten, division, List.drop_zero]

theorem WellFormed.grown {bits : Nat} {f : MemChunksFile} (wf : WellFormed bits f)
    {c endOffset : Nat} (positive : 0 < c) (uniform : Uniform c f.chunks)
    (tight : f.chunks.length = chunksFor f.fileSize c) (nonempty : 0 < endOffset) :
    ∃ k, (f.chunks ++ List.replicate ((endOffset - 1) / c + 1 - f.chunks.length) (zeros c)).flatten
        = f.contents ++ zeros k ∧
      (f.chunks ++ List.replicate ((endOffset - 1) / c + 1 - f.chunks.length) (zeros c)).length =
        chunksFor (max f.fileSize endOffset) c ∧
      Uniform c (f.chunks ++
        List.replicate ((endOffset - 1) / c + 1 - f.chunks.length) (zeros c)) ∧
      max f.fileSize endOffset ≤ f.fileSize + k := by
  set added := (endOffset - 1) / c + 1 - f.chunks.length with addedDef
  have uniform' : Uniform c (f.chunks ++ List.replicate added (zeros c)) :=
    uniform.append (Uniform.replicate (length_zeros c) added)
  have count : (f.chunks ++ List.replicate added (zeros c)).length =
      chunksFor (max f.fileSize endOffset) c := by
    rw [chunksFor_max, chunksFor_pos nonempty positive, ← tight, List.length_append,
      List.length_replicate]
    omega
  have addedZeros : (List.replicate added (zeros c : List UInt8)).flatten = zeros (added * c) := by
    simp only [zeros, List.flatten_replicate_replicate]
  have joined : (f.chunks ++ List.replicate added (zeros c)).flatten =
      f.contents ++ zeros (f.chunks.flatten.length - f.fileSize + added * c) := by
    rw [List.flatten_append, addedZeros, wf.flatten_eq, List.append_assoc, ← wf.flatten_eq,
      zeros_append]
  refine ⟨_, joined, count, uniform', ?_⟩
  have total := congrArg List.length joined
  rw [length_flatten uniform', count, List.length_append, length_zeros, wf.length_contents] at total
  rw [← total]
  exact le_chunksFor_mul _ positive

def rangeError (bits : Nat) (offset : UInt64) : VfsError :=
  if 2 ^ bits ≤ offset.toNat then offsetExceeds else sizeExceeds

/-- What a write can do: nothing for an empty buffer, refuse for want of address space or
memory and leave the file as it was, or place the buffer. -/
theorem write_cases {bits : Nat} {f : MemChunksFile} (wf : WellFormed bits f)
    (alloc : Nat → Bool) (buf : List UInt8) (offset : UInt64) :
    (buf = [] ∧ (write bits alloc buf offset).run f = (.ok (), f)) ∨
    (buf ≠ [] ∧ 2 ^ bits ≤ offset.toNat + buf.length ∧
      (write bits alloc buf offset).run f = (.err (rangeError bits offset), f)) ∨
    (buf ≠ [] ∧ offset.toNat + buf.length < 2 ^ bits ∧ (∃ refused, alloc refused = false) ∧
      (write bits alloc buf offset).run f = (.err noMemory, f)) ∨
    (buf ≠ [] ∧ offset.toNat + buf.length < 2 ^ bits ∧
      ∃ f', (write bits alloc buf offset).run f = (.ok (), f') ∧ WellFormed bits f' ∧
        f'.chunkSize = some (f.chunkSize.getD buf.length) ∧
        f'.contents = writeAt f.contents offset.toNat buf) := by
  unfold write
  by_cases empty : buf.length = 0
  · left
    rw [if_pos empty]
    exact ⟨List.length_eq_zero_iff.mp empty, rfl⟩
  have nonempty : buf ≠ [] := fun h => empty (by simp [h])
  rw [if_neg empty]
  right
  by_cases far : 2 ^ bits ≤ offset.toNat
  · left
    rw [if_pos far, rangeError, if_pos far]
    exact ⟨nonempty, by omega, rfl⟩
  rw [if_neg far]
  by_cases long : 2 ^ bits ≤ offset.toNat + buf.length
  · left
    rw [if_pos long, rangeError, if_neg far]
    exact ⟨nonempty, long, rfl⟩
  rw [if_neg long]
  right
  set c := f.chunkSize.getD buf.length with cDef
  have positive : 0 < c := by
    cases set : f.chunkSize with
    | none => rw [cDef, set, Option.getD_none]; omega
    | some size => rw [cDef, set, Option.getD_some]; exact wf.positive size set
  have uniform : Uniform c f.chunks := by
    cases set : f.chunkSize with
    | none => simp [(wf.unset set).1, Uniform]
    | some size => rw [cDef, set, Option.getD_some]; exact wf.uniform size set
  have tight : f.chunks.length = chunksFor f.fileSize c := by
    cases set : f.chunkSize with
    | none => simp [(wf.unset set).1, (wf.unset set).2, chunksFor_zero]
    | some size => rw [cDef, set, Option.getD_some]; exact wf.tight size set
  simp only []
  rw [Prog.get_bind, ← cDef, Prog.checkedSub_of_le (by omega),
    Prog.pure_bind, Prog.checkedDiv_of_pos positive, Prog.pure_bind]
  set required := (offset.toNat + buf.length - 1) / c + 1 with requiredDef
  by_cases reserved : required - f.chunks.length = 0 ∨ alloc 0 = true
  · have reserve : (tryReserve (required - f.chunks.length) (alloc 0)).run f = (.ok (), f) := by
      rw [tryReserve, if_pos reserved]
      rfl
    rw [Prog.bind_ok reserve]
    rcases growLoop_cases alloc c f.chunks.length (required - f.chunks.length) 1 f with
      grown | ⟨refused, added, failed⟩
    · right
      refine ⟨nonempty, by omega, ?_⟩
      obtain ⟨k, joined, count, uniform', room⟩ :=
        wf.grown positive uniform tight (show 0 < offset.toNat + buf.length by omega)
      rw [← requiredDef] at joined count uniform'
      set chunks := f.chunks ++ List.replicate (required - f.chunks.length) (zeros c)
      have capacity : offset.toNat + buf.length ≤ chunks.length * c := by
        rw [count]
        exact (Nat.le_max_right ..).trans (le_chunksFor_mul _ positive)
      obtain ⟨stored, run, storedUniform, sameLength, flatten⟩ :=
        store_eq { f with chunks := chunks, chunkSize := some c } buf offset.toNat uniform'
          positive (by omega) capacity
      have stop : max f.fileSize (offset.toNat + buf.length) =
          max f.contents.length (offset.toNat + buf.length) := by rw [wf.length_contents]
      rw [Prog.bind_ok grown, Prog.modify_bind, Prog.bind_ok run]
      refine ⟨_, rfl, ⟨?_, ?_, ?_, ?_, ?_, ?_⟩, rfl, ?_⟩
      · intro set
        cases set
      · rintro size ⟨⟩
        exact positive
      · rintro size ⟨⟩
        exact storedUniform
      · rintro size ⟨⟩
        exact sameLength.trans count
      · intro byte member
        simp only at member
        rw [flatten, joined, stop, drop_writeAt_append_zeros] at member
        exact mem_zeros member
      · have old := wf.fits
        simp only
        omega
      · simp only [contents]
        rw [flatten, joined, stop, take_writeAt_append_zeros]
        rfl
    · left
      refine ⟨nonempty, by omega, refused, ?_⟩
      -- the refused chunk and those before it are dropped again
      rw [Prog.bind_err failed]
      congr 1
      rw [List.take_left]
  · left
    have refuse : (tryReserve (required - f.chunks.length) (alloc 0)).run f =
      (.err noMemory, f) := by
      rw [tryReserve, if_neg reserved]
      rfl
    have refused : alloc 0 = false := by simpa using fun h => reserved (Or.inr h)
    exact ⟨nonempty, by omega, ⟨0, refused⟩, Prog.bind_err refuse _⟩

/-! ## Truncation -/

/-- Clearing the rest of the last chunk from `size` on. -/
theorem clearTail_eq {c size : Nat} (f : MemChunksFile) (uniform : Uniform c f.chunks)
    (positive : 0 < c) (tail : size % c ≠ 0) (count : f.chunks.length = (size - 1) / c + 1) :
    ∃ chunks, (clearTail ((size - 1) / c + 1) (size % c)).run f =
        (.ok (), { f with chunks := chunks }) ∧
      Uniform c chunks ∧ chunks.length = f.chunks.length ∧
      chunks.flatten = writeAt f.chunks.flatten size (zeros (c - size % c)) := by
  have tailLt := Nat.mod_lt size positive
  have division := Nat.div_add_mod' size c
  have sameChunk : (size - 1) / c = size / c := by
    rw [Nat.div_eq_iff positive]
    omega
  obtain ⟨chunk, found⟩ : ∃ chunk, f.chunks[(size - 1) / c]? = some chunk :=
    ⟨_, List.getElem?_eq_getElem (by omega)⟩
  have chunkLength : chunk.length = c := uniform chunk (List.mem_of_getElem? found)
  have replaced := flatten_set uniform found (size % c) (zeros (c - size % c)) (by simp; omega)
  have cleared : chunk.take (size % c) ++ zeros (c - size % c) ++
      chunk.drop (size % c + (zeros (c - size % c) : List UInt8).length) =
      chunk.take (size % c) ++ List.replicate (chunk.length - size % c) 0 := by
    rw [length_zeros, List.drop_eq_nil_of_le (by omega), List.append_nil, zeros, chunkLength]
  rw [cleared] at replaced
  have sliced : (Prog.slice chunk 0 (size % c) : FileM _) = pure ((chunk.take (size % c)).drop 0) :=
    Prog.slice_of_le (Nat.zero_le _) (by omega)
  refine ⟨f.chunks.set ((size - 1) / c)
    (chunk.take (size % c) ++ List.replicate (chunk.length - size % c) 0), ?_, ?_, ?_, ?_⟩
  · rw [clearTail, Prog.get_bind, Prog.checkedSub_of_le (Nat.le_add_left 1 _),
      Prog.pure_bind, Nat.add_sub_cancel, found, Prog.unwrap_some, Prog.pure_bind, sliced,
      Prog.pure_bind, List.drop_zero]
    rfl
  · apply uniform.set
    simp only [List.length_append, List.length_take, List.length_replicate]
    omega
  · exact List.length_set
  · rw [replaced, sameChunk, division]

theorem truncate_cases {bits : Nat} {f : MemChunksFile} (wf : WellFormed bits f)
    (size : UInt64) :
    (f.contents.length < size.toNat ∧
      (truncate bits size).run f = (.err cannotExtend, f)) ∨
    (size.toNat ≤ f.contents.length ∧
      ∃ f', (truncate bits size).run f = (.ok (), f') ∧ WellFormed bits f' ∧
        f'.chunkSize = f.chunkSize ∧ f'.contents = f.contents.take size.toNat) := by
  rw [wf.length_contents, truncate, Prog.get_bind]
  by_cases extend : f.fileSize < size.toNat
  · left
    rw [if_pos extend]
    exact ⟨extend, rfl⟩
  right
  have fits := wf.fits
  rw [if_neg extend, if_neg (by omega)]
  refine ⟨by omega, ?_⟩
  cases set : f.chunkSize with
  | none =>
      obtain ⟨noChunks, noBytes⟩ := wf.unset set
      have sizeZero : size.toNat = 0 := by omega
      refine ⟨f, ?_, wf, set, ?_⟩
      · rw [sizeZero]
        dsimp only
        rw [← noBytes]
        rfl
      · simp [contents, noChunks]
  | some c =>
      have positive := wf.positive c set
      have uniform := wf.uniform c set
      simp only []
      by_cases sizeZero : size.toNat = 0
      · rw [if_pos sizeZero, Prog.modify_bind, sizeZero]
        refine ⟨_, rfl, ⟨?_, ?_, ?_, ?_, ?_, ?_⟩, set, ?_⟩
        · simp [set]
        · simpa [set] using positive
        · intro size _ chunk member
          cases member
        · intro size _
          exact (chunksFor_zero _).symm
        · simp
        · simp
        · simp [contents]
      · rw [if_neg sizeZero]
        have count : (size.toNat - 1) / c + 1 ≤ f.chunks.length := by
          rw [wf.tight c set, chunksFor_pos (by omega) positive]
          have := Nat.div_le_div_right (c := c) (show size.toNat - 1 ≤ f.fileSize - 1 by omega)
          omega
        have keptFlatten : (f.chunks.take ((size.toNat - 1) / c + 1)).flatten =
            f.chunks.flatten.take (((size.toNat - 1) / c + 1) * c) := (take_flatten uniform _).symm
        set kept := f.chunks.take ((size.toNat - 1) / c + 1) with keptDef
        have keptUniform : Uniform c kept := uniform.take _
        have keptLength : kept.length = (size.toNat - 1) / c + 1 := by
          rw [keptDef, List.length_take]
          omega
        have sizeLe : size.toNat ≤ ((size.toNat - 1) / c + 1) * c := by
          have := le_chunksFor_mul size.toNat positive
          rwa [chunksFor_pos (by omega) positive] at this
        -- a file whose chunks end in zeros after `size` is what truncation has to produce
        have finish : ∀ chunks : List (List UInt8), Uniform c chunks →
            chunks.length = (size.toNat - 1) / c + 1 →
            chunks.flatten.take size.toNat = f.chunks.flatten.take size.toNat →
            (∀ byte ∈ chunks.flatten.drop size.toNat, byte = 0) →
            WellFormed bits { f with chunks := chunks, fileSize := size.toNat } ∧
              f.chunkSize = some c ∧ contents { f with chunks := chunks, fileSize := size.toNat } =
                f.contents.take size.toNat := by
          intro chunks chunksUniform chunksLength sameBytes zeroTail
          refine ⟨⟨?_, ?_, ?_, ?_, zeroTail, ?_⟩, set, ?_⟩
          · simp [set]
          · simpa [set] using positive
          · intro size found
            rw [← Option.some.inj (set.symm.trans found)]
            exact chunksUniform
          · intro size found
            rw [← Option.some.inj (set.symm.trans found), chunksFor_pos (by simp; omega) positive]
            exact chunksLength
          · simp only
            omega
          · rw [contents, contents, List.take_take, Nat.min_eq_left (by omega)]
            exact sameBytes
        rw [Prog.checkedSub_of_le (by omega), Prog.pure_bind, Prog.checkedDiv_of_pos positive,
          Prog.pure_bind, Prog.slice_of_le (Nat.zero_le _) count, Prog.pure_bind, List.drop_zero,
          ← keptDef, Prog.checkedRem_of_pos positive, Prog.pure_bind]
        by_cases shrink : size.toNat < f.fileSize ∧ size.toNat % c ≠ 0
        · obtain ⟨chunks, run, chunksUniform, sameLength, flatten⟩ :=
            clearTail_eq { f with chunks := kept } keptUniform positive shrink.2 keptLength
          have division := Nat.div_add_mod' size.toNat c
          have sameChunk : (size.toNat - 1) / c = size.toNat / c := by
            have tailLt := Nat.mod_lt size.toNat positive
            rw [Nat.div_eq_iff positive]
            omega
          have total : kept.flatten.length = size.toNat + (c - size.toNat % c) := by
            have tailLt := Nat.mod_lt size.toNat positive
            rw [length_flatten keptUniform, keptLength, sameChunk, Nat.add_mul, Nat.one_mul]
            omega
          rw [if_pos shrink]
          refine ⟨_, ?_, finish chunks chunksUniform (sameLength.trans keptLength) ?_ ?_⟩
          · rw [Prog.modify_bind, Prog.bind_ok run]
            rfl
          · rw [flatten, take_writeAt_of_le _ _ _ _ le_rfl (by simp only; omega), keptFlatten,
              List.take_take, Nat.min_eq_left sizeLe]
          · intro byte member
            rw [flatten] at member
            have tailZeros : (writeAt kept.flatten size.toNat
                (zeros (c - size.toNat % c))).drop size.toNat = zeros (c - size.toNat % c) := by
              have shifted := drop_writeAt_shift kept.flatten size.toNat 0
                (zeros (c - size.toNat % c)) (by omega)
              rw [Nat.add_zero] at shifted
              rw [shifted, writeAt_zero_of_length_le _ _
                (by rw [List.length_drop, length_zeros]; omega)]
            rw [tailZeros] at member
            exact mem_zeros member
        · rw [if_neg shrink]
          refine ⟨_, ?_, finish kept keptUniform keptLength ?_ ?_⟩
          · rfl
          · rw [keptFlatten, List.take_take, Nat.min_eq_left sizeLe]
          · intro byte member
            rw [keptFlatten] at member
            by_cases sameSize : size.toNat = f.fileSize
            · rw [sameSize] at member
              apply wf.zeroTail byte
              rw [List.drop_take] at member
              exact List.mem_of_mem_take member
            · -- the cut is on a chunk boundary, so nothing is kept behind it
              have phase : size.toNat % c = 0 := by
                by_contra h
                exact shrink ⟨by omega, h⟩
              have division := Nat.div_add_mod' size.toNat c
              have boundary : ((size.toNat - 1) / c + 1) * c = size.toNat := by
                have lastDivision := Nat.div_add_mod' (size.toNat - 1) c
                have lastLt := Nat.mod_lt (size.toNat - 1) positive
                have dvd : c ∣ size.toNat := Nat.dvd_of_mod_eq_zero phase
                obtain ⟨q, hq⟩ := dvd
                have qPos : 0 < q := by
                  rcases Nat.eq_zero_or_pos q with rfl | h
                  · simp at hq; omega
                  · exact h
                have quotient : (size.toNat - 1) / c = q - 1 := by
                  rw [Nat.div_eq_iff positive, hq, Nat.sub_mul, Nat.mul_comm q c]
                  have : c ≤ c * q := Nat.le_mul_of_pos_right c qPos
                  omega
                rw [quotient, hq, Nat.mul_comm c q, Nat.sub_add_cancel qPos]
              rw [boundary, List.drop_eq_nil_of_le (by rw [List.length_take]; omega)] at member
              cases member

end SqliteVfs.MemChunksFile
