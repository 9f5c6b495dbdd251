import SqliteVfs.Core.ChunksFileRun

/-!
# The representation over whole runs

The chunk size of a file is set once: by `new`, or by the first nonempty write that
succeeds.  A write that fails leaves the representation as it was.
-/

set_option autoImplicit false

namespace SqliteVfs

namespace MemChunksFile

variable {bits c : Nat} {f f' : MemChunksFile}

def firstWrite : List (FileCall × FileResult) → Option Nat
  | ((.write (_ :: buf) _, _), .done) :: _ => some (buf.length + 1)
  | _ :: rest => firstWrite rest
  | [] => none

theorem call_chunkSize (wf : WellFormed bits f) {request : FileCall} {result : FileResult}
    (called : call bits f request = some (result, f')) :
    f'.chunkSize = f.chunkSize.or (firstWrite [(request, result)]) := by
  have kept {size : Option Nat} (same : f' = f) (silent : firstWrite [(request, result)] = none) :
      f'.chunkSize = f.chunkSize.or (firstWrite [(request, result)]) := by
    rw [same, silent, Option.or_none]
  obtain ⟨request, alloc⟩ := request
  cases request with
  | read buf offset =>
    rw [call, read_eq wf] at called
    obtain ⟨rfl, rfl⟩ := Prod.mk.inj (Option.some.inj called)
    exact (Option.or_none).symm
  | size =>
    obtain ⟨rfl, rfl⟩ := Prod.mk.inj (Option.some.inj called)
    exact (Option.or_none).symm
  | write buf offset =>
    rw [call] at called
    rcases write_cases wf alloc buf offset with ⟨rfl, run⟩ | ⟨nonempty, -, run⟩ |
      ⟨nonempty, -, -, run⟩ | ⟨nonempty, -, next, run, -, chunkSize, -⟩
    · rw [run] at called
      obtain ⟨rfl, rfl⟩ := Prod.mk.inj (Option.some.inj called)
      exact (Option.or_none).symm
    · rw [run] at called
      obtain ⟨rfl, rfl⟩ := Prod.mk.inj (Option.some.inj called)
      cases buf <;> exact (Option.or_none).symm
    · rw [run] at called
      obtain ⟨rfl, rfl⟩ := Prod.mk.inj (Option.some.inj called)
      cases buf <;> exact (Option.or_none).symm
    · rw [run] at called
      obtain ⟨rfl, rfl⟩ := Prod.mk.inj (Option.some.inj called)
      rw [chunkSize]
      cases buf with
      | nil => exact absurd rfl nonempty
      | cons byte buf => cases f.chunkSize <;> rfl
  | truncate size =>
    rw [call] at called
    rcases truncate_cases wf size with ⟨-, run⟩ | ⟨-, next, run, -, chunkSize, -⟩
    · rw [run] at called
      obtain ⟨rfl, rfl⟩ := Prod.mk.inj (Option.some.inj called)
      exact (Option.or_none).symm
    · rw [run] at called
      obtain ⟨rfl, rfl⟩ := Prod.mk.inj (Option.some.inj called)
      rw [chunkSize]
      exact (Option.or_none).symm

theorem firstWrite_cons (entry : FileCall × FileResult) (rest : List (FileCall × FileResult)) :
    firstWrite (entry :: rest) = (firstWrite [entry]).or (firstWrite rest) := by
  obtain ⟨⟨request, alloc⟩, result⟩ := entry
  cases request with
  | write buf offset =>
    cases buf with
    | nil => rfl
    | cons byte buf => cases result <;> rfl
  | read buf offset => rfl
  | truncate size => rfl
  | size => rfl

/-- A run keeps the invariant, and its first write sets a chunk size that is not set yet. -/
theorem run_represents (calls : List FileCall) (wf : WellFormed bits f) :
    ∃ results f', run bits f calls = some (results, f') ∧ WellFormed bits f' ∧
      f'.chunkSize = f.chunkSize.or (firstWrite (calls.zip results)) := by
  induction calls generalizing f with
  | nil => exact ⟨[], f, rfl, wf, (Option.or_none).symm⟩
  | cons request rest ih =>
    obtain ⟨result, next, called, nextWf, -⟩ := step_refines wf request
    obtain ⟨results, last, ran, lastWf, later⟩ := ih nextWf
    refine ⟨result :: results, last, ?_, lastWf, ?_⟩
    · simp [run, called, ran]
    · rw [later, call_chunkSize wf called, Option.or_assoc, List.zip_cons_cons,
        firstWrite_cons (request, result) (rest.zip results)]

/-- A write that fails has dropped every chunk that it added. -/
theorem write_failed (wf : WellFormed bits f) {alloc : Nat → Bool} {buf : List UInt8}
    {offset : UInt64} {error : VfsError}
    (failed : (write bits alloc buf offset).run f = (.err error, f')) : f' = f := by
  rcases write_cases wf alloc buf offset with ⟨-, run⟩ | ⟨-, -, run⟩ | ⟨-, -, -, run⟩ |
    ⟨-, -, next, run, -⟩
  · exact nomatch (Prod.mk.inj (run.symm.trans failed)).1
  · exact (Prod.mk.inj (run.symm.trans failed)).2.symm
  · exact (Prod.mk.inj (run.symm.trans failed)).2.symm
  · exact nomatch (Prod.mk.inj (run.symm.trans failed)).1

end MemChunksFile

open MemChunksFile

/-- In every state that a file comes to, whatever memory was refused on the way: the chunk
size is that of the constructor or of the first write, the chunks are as many and as long
as it says, and zero beyond the size; it stays from then on, and what fails changes
nothing. -/
theorem chunksFile_representation (bits : Nat) (f : MemChunksFile) (initial : Initial f)
    (calls : List FileCall) :
    ∃ results f', run bits f calls = some (results, f') ∧ WellFormed bits f' ∧
      f'.chunkSize = f.chunkSize.or (firstWrite (calls.zip results)) ∧
      (∀ c, f'.chunkSize = some c → ∀ later : List FileCall,
        ∃ answers g, run bits f' later = some (answers, g) ∧ g.chunkSize = some c) ∧
      ∀ (alloc : Nat → Bool) (buf : List UInt8) (offset : UInt64) (error : VfsError)
        (g : MemChunksFile), (write bits alloc buf offset).run f' = (.err error, g) → g = f' := by
  obtain ⟨results, f', ran, wf, chunkSize⟩ := run_represents calls (initial.wellFormed bits)
  refine ⟨results, f', ran, wf, chunkSize, ?_, ?_⟩
  · intro c set later
    obtain ⟨answers, g, after, -, same⟩ := run_represents later wf
    refine ⟨answers, g, after, ?_⟩
    rw [same, set, Option.some_or]
  · intro alloc buf offset error g failed
    exact write_failed wf failed

theorem chunksFile_representation_refused :
    ∃ results f', run 32 waitingForWrite [(.write [1, 2] 3, fun request => request ≠ 2),
        (.write [1, 2] 3, fun _ => true)] = some (results, f') ∧
      results = [.failed noMemory, .done] ∧ f'.chunks = [[0, 0], [0, 1], [2, 0]] ∧
      f'.chunkSize = some 2 ∧
      ∀ later : List FileCall,
        ∃ answers g, run 32 f' later = some (answers, g) ∧ g.chunkSize = some 2 := by
  obtain ⟨results, f', ran, -, -, stays, -⟩ := chunksFile_representation 32 waitingForWrite
    (.inr rfl) [(.write [1, 2] 3, fun request => request ≠ 2), (.write [1, 2] 3, fun _ => true)]
  have ends : run 32 waitingForWrite [(.write [1, 2] 3, fun request => request ≠ 2),
      (.write [1, 2] 3, fun _ => true)] =
        some ([.failed noMemory, .done], ⟨[[0, 0], [0, 1], [2, 0]], some 2, 5⟩) := by rfl
  obtain ⟨rfl, rfl⟩ := Prod.mk.inj (Option.some.inj (ran.symm.trans ends))
  exact ⟨_, _, ends, rfl, rfl, rfl, stays 2 rfl⟩

end SqliteVfs
