import SqliteVfs.Core.ChunksFileSpec

/-!
# Runs of the chunked file against a plain byte vector

`call` and `run` drive a `MemChunksFile` with any sequence of requests, each with its own
allocator.  `VectorStep` says what a plain byte vector answers.  `step_refines` is the
simulation step, `run_refines` the run, and `VectorRun.unique` says that the vector's
answers are fixed once it is known which writes ran out of memory.
-/

set_option autoImplicit false

namespace SqliteVfs

open SparseVector

inductive FileRequest where
  | read (buf : List UInt8) (offset : UInt64)
  | write (buf : List UInt8) (offset : UInt64)
  | truncate (size : UInt64)
  | size
  deriving DecidableEq, Repr

inductive FileResult where
  | read (count : Nat) (buf : List UInt8)
  | done
  | size (bytes : Nat)
  | failed (error : VfsError)
  deriving DecidableEq, Repr

abbrev FileCall : Type := FileRequest × (Nat → Bool)

namespace MemChunksFile

/-- What the caller sees; `none` when the call panicked. -/
def observe {α : Type} (shown : α → FileResult) :
    Outcome VfsError α × MemChunksFile → Option (FileResult × MemChunksFile)
  | (.ok value, f) => some (shown value, f)
  | (.err error, f) => some (.failed error, f)
  | (.halt _, _) => none

def call (bits : Nat) (f : MemChunksFile) : FileCall → Option (FileResult × MemChunksFile)
  | (.read buf offset, _) => observe (fun r => .read r.1 r.2) ((read bits buf offset).run f)
  | (.write buf offset, alloc) => observe (fun _ => .done) ((write bits alloc buf offset).run f)
  | (.truncate size, _) => observe (fun _ => .done) ((truncate bits size).run f)
  | (.size, _) => observe .size (MemChunksFile.size.run f)

def run (bits : Nat) : MemChunksFile → List FileCall → Option (List FileResult × MemChunksFile)
  | f, [] => some ([], f)
  | f, request :: rest => do
    let (result, next) ← call bits f request
    let (results, last) ← run bits next rest
    some (result :: results, last)

def Initial (f : MemChunksFile) : Prop := (∃ c, new c = some f) ∨ f = waitingForWrite

end MemChunksFile

/-! ## The byte vector -/

/-- The answers of a plain byte vector.  Only memory and the width of `usize` can make a
nonempty write fail, and an empty write changes nothing. -/
inductive VectorStep (bits : Nat) :
    List UInt8 → FileCall → FileResult → List UInt8 → Prop where
  | read (v buf : List UInt8) (offset : UInt64) (alloc : Nat → Bool) :
      VectorStep bits v (.read buf offset, alloc)
        (.read (min buf.length (v.length - offset.toNat))
          (readAt v offset.toNat buf.length ++
            buf.drop (min buf.length (v.length - offset.toNat)))) v
  | size (v : List UInt8) (alloc : Nat → Bool) :
      VectorStep bits v (.size, alloc) (.size v.length) v
  | writeEmpty (v : List UInt8) (offset : UInt64) (alloc : Nat → Bool) :
      VectorStep bits v (.write [] offset, alloc) .done v
  | write (v buf : List UInt8) (offset : UInt64) (alloc : Nat → Bool) :
      buf ≠ [] → offset.toNat + buf.length < 2 ^ bits →
      VectorStep bits v (.write buf offset, alloc) .done (writeAt v offset.toNat buf)
  | writeTooFar (v buf : List UInt8) (offset : UInt64) (alloc : Nat → Bool) :
      buf ≠ [] → 2 ^ bits ≤ offset.toNat + buf.length →
      VectorStep bits v (.write buf offset, alloc)
        (.failed (MemChunksFile.rangeError bits offset)) v
  | writeNoMemory (v buf : List UInt8) (offset : UInt64) (alloc : Nat → Bool) :
      buf ≠ [] → offset.toNat + buf.length < 2 ^ bits → (∃ refused, alloc refused = false) →
      VectorStep bits v (.write buf offset, alloc) (.failed noMemory) v
  | truncate (v : List UInt8) (size : UInt64) (alloc : Nat → Bool) :
      size.toNat ≤ v.length →
      VectorStep bits v (.truncate size, alloc) .done (v.take size.toNat)
  | truncateTooLong (v : List UInt8) (size : UInt64) (alloc : Nat → Bool) :
      v.length < size.toNat →
      VectorStep bits v (.truncate size, alloc) (.failed MemChunksFile.cannotExtend) v

inductive VectorRun (bits : Nat) :
    List UInt8 → List FileCall → List FileResult → List UInt8 → Prop where
  | nil (v : List UInt8) : VectorRun bits v [] [] v
  | cons {v next last : List UInt8} {request : FileCall} {rest : List FileCall}
      {result : FileResult} {results : List FileResult} :
      VectorStep bits v request result next → VectorRun bits next rest results last →
      VectorRun bits v (request :: rest) (result :: results) last

namespace MemChunksFile

theorem Initial.wellFormed {f : MemChunksFile} (initial : Initial f) (bits : Nat) :
    WellFormed bits f := by
  rcases initial with ⟨c, made⟩ | rfl
  · exact wellFormed_new made
  · exact wellFormed_waitingForWrite bits

theorem Initial.contents_eq {f : MemChunksFile} (initial : Initial f) : f.contents = [] := by
  rcases initial with ⟨c, made⟩ | rfl
  · unfold new at made
    split at made
    · cases made
    · cases made
      rfl
  · rfl

theorem step_refines {bits : Nat} {f : MemChunksFile} (wf : WellFormed bits f)
    (request : FileCall) :
    ∃ result f', call bits f request = some (result, f') ∧ WellFormed bits f' ∧
      VectorStep bits f.contents request result f'.contents := by
  obtain ⟨request, alloc⟩ := request
  cases request with
  | read buf offset =>
      refine ⟨_, f, ?_, wf, .read f.contents buf offset alloc⟩
      rw [call, read_eq wf]
      rfl
  | size =>
      refine ⟨_, f, ?_, wf, .size f.contents alloc⟩
      rw [wf.length_contents]
      rfl
  | write buf offset =>
      rcases write_cases wf alloc buf offset with
        ⟨rfl, run⟩ | ⟨nonempty, long, run⟩ | ⟨nonempty, short, refused, run⟩ |
          ⟨nonempty, short, f', run, wf', -, stored⟩
      · exact ⟨_, f, by rw [call, run]; rfl, wf, .writeEmpty f.contents offset alloc⟩
      · exact ⟨_, f, by rw [call, run]; rfl, wf,
          .writeTooFar f.contents buf offset alloc nonempty long⟩
      · exact ⟨_, f, by rw [call, run]; rfl, wf,
          .writeNoMemory f.contents buf offset alloc nonempty short refused⟩
      · refine ⟨_, f', by rw [call, run]; rfl, wf', ?_⟩
        rw [stored]
        exact .write f.contents buf offset alloc nonempty short
  | truncate size =>
      rcases truncate_cases wf size with ⟨long, run⟩ | ⟨short, f', run, wf', -, kept⟩
      · exact ⟨_, f, by rw [call, run]; rfl, wf,
          .truncateTooLong f.contents size alloc long⟩
      · refine ⟨_, f', by rw [call, run]; rfl, wf', ?_⟩
        rw [kept]
        exact .truncate f.contents size alloc short

theorem run_refines {bits : Nat} (calls : List FileCall) :
    ∀ {f : MemChunksFile}, WellFormed bits f →
      ∃ results f', run bits f calls = some (results, f') ∧ WellFormed bits f' ∧
        VectorRun bits f.contents calls results f'.contents := by
  induction calls with
  | nil =>
      intro f wf
      exact ⟨[], f, rfl, wf, .nil f.contents⟩
  | cons request rest ih =>
      intro f wf
      obtain ⟨result, next, called, nextWf, step⟩ := step_refines wf request
      obtain ⟨results, last, ran, lastWf, steps⟩ := ih nextWf
      refine ⟨result :: results, last, ?_, lastWf, .cons step steps⟩
      simp [run, called, ran]

end MemChunksFile

/-! ## The vector's answers do not depend on the chunks -/

def FileResult.outOfMemory : FileResult → Bool
  | .failed error => error.code == .noMemory
  | _ => false

@[simp] theorem outOfMemory_rangeError (bits : Nat) (offset : UInt64) :
    (FileResult.failed (MemChunksFile.rangeError bits offset)).outOfMemory = false := by
  unfold MemChunksFile.rangeError
  split <;> rfl

/-- One request has one answer, given whether memory ran out. -/
theorem VectorStep.unique {bits : Nat} {v next next' : List UInt8} {request : FileRequest}
    {alloc alloc' : Nat → Bool} {result result' : FileResult}
    (step : VectorStep bits v (request, alloc) result next)
    (step' : VectorStep bits v (request, alloc') result' next')
    (memory : result.outOfMemory = result'.outOfMemory) : result = result' ∧ next = next' := by
  cases step <;> cases step' <;>
    first
    | exact ⟨rfl, rfl⟩
    | contradiction
    | omega

theorem VectorRun.unique {bits : Nat} {calls : List FileCall} :
    ∀ {calls' : List FileCall} {v last last' : List UInt8} {results results' : List FileResult},
      VectorRun bits v calls results last → VectorRun bits v calls' results' last' →
      calls.map Prod.fst = calls'.map Prod.fst →
      results.map FileResult.outOfMemory = results'.map FileResult.outOfMemory →
      results = results' ∧ last = last' := by
  induction calls with
  | nil =>
      intro calls' v last last' results results' steps steps' same _
      cases steps
      cases calls' with
      | nil => cases steps'; exact ⟨rfl, rfl⟩
      | cons => cases same
  | cons request rest ih =>
      intro calls' v last last' results results' steps steps' same memory
      cases steps with
      | cons step steps =>
          cases steps' with
          | nil => cases same
          | @cons _ _ _ request' _ _ _ step' steps' =>
              obtain ⟨request, alloc⟩ := request
              obtain ⟨request', alloc'⟩ := request'
              obtain ⟨rfl, sameRest⟩ := List.cons.inj same
              obtain ⟨memoryHead, memoryRest⟩ := List.cons.inj memory
              obtain ⟨rfl, rfl⟩ := step.unique step' memoryHead
              obtain ⟨rfl, rfl⟩ := ih steps steps' sameRest memoryRest
              exact ⟨rfl, rfl⟩

/-- An allocator that grants everything never makes a call run out of memory. -/
theorem VectorRun.memory_of_granted {bits : Nat} {calls : List FileCall} :
    ∀ {v last : List UInt8} {results : List FileResult}, VectorRun bits v calls results last →
      (∀ request ∈ calls, ∀ n, request.2 n = true) →
      results.map FileResult.outOfMemory = List.replicate calls.length false := by
  induction calls with
  | nil =>
      intro v last results steps _
      cases steps
      rfl
  | cons request rest ih =>
      intro v last results steps granted
      cases steps with
      | cons step steps =>
          have tail := ih steps fun other member => granted other (List.mem_cons_of_mem _ member)
          have head := granted request (List.mem_cons_self ..)
          rw [List.map_cons, tail, List.length_cons, List.replicate_succ]
          congr 1
          cases step with
          | writeNoMemory _ _ _ _ _ refused =>
              obtain ⟨n, refused⟩ := refused
              exact absurd (head n) (by simp [refused])
          | writeTooFar _ offset _ _ _ => exact outOfMemory_rangeError bits offset
          | _ => rfl

/-! ## The file is a sparse byte array -/

/-- Every run of every initial file under every allocator answers as a byte vector does,
without a panic.  Runs of the same requests on two initial files, whatever their chunk
sizes and allocators, answer alike when the same writes ran out of memory, and always
when no allocation is refused. -/
theorem chunksFile_refines_vector (bits : Nat) (f g : MemChunksFile)
    (initial : MemChunksFile.Initial f) (initial' : MemChunksFile.Initial g)
    (calls calls' : List FileCall) (same : calls.map Prod.fst = calls'.map Prod.fst) :
    ∃ results f' results' g',
      MemChunksFile.run bits f calls = some (results, f') ∧
      VectorRun bits [] calls results f'.contents ∧
      MemChunksFile.run bits g calls' = some (results', g') ∧
      VectorRun bits [] calls' results' g'.contents ∧
      (results.map FileResult.outOfMemory = results'.map FileResult.outOfMemory →
        results = results') ∧
      ((∀ request ∈ calls ++ calls', ∀ n, request.2 n = true) → results = results') := by
  obtain ⟨results, f', ran, _, steps⟩ :=
    MemChunksFile.run_refines calls (initial.wellFormed bits)
  obtain ⟨results', g', ran', _, steps'⟩ :=
    MemChunksFile.run_refines calls' (initial'.wellFormed bits)
  rw [initial.contents_eq] at steps
  rw [initial'.contents_eq] at steps'
  refine ⟨results, f', results', g', ran, steps, ran', steps', ?_, ?_⟩
  · intro memory
    exact (steps.unique steps' same memory).1
  · intro granted
    have sameLength : calls.length = calls'.length := by
      simpa using congrArg List.length same
    have quiet := steps.memory_of_granted fun request member =>
      granted request (List.mem_append_left _ member)
    have quiet' := steps'.memory_of_granted fun request member =>
      granted request (List.mem_append_right _ member)
    exact (steps.unique steps' same (by rw [quiet, quiet', sameLength])).1

theorem chunksFile_refines_vector_inferred :
    ∃ results f' results' g',
      MemChunksFile.run 32 MemChunksFile.waitingForWrite
        [(.write [7, 7] 1, fun _ => true), (.size, fun _ => true)] = some (results, f') ∧
      VectorRun 32 [] [(.write [7, 7] 1, fun _ => true), (.size, fun _ => true)] results
        f'.contents ∧
      MemChunksFile.run 32 ⟨[], some 8, 0⟩
        [(.write [7, 7] 1, fun _ => true), (.size, fun _ => true)] = some (results', g') ∧
      VectorRun 32 [] [(.write [7, 7] 1, fun _ => true), (.size, fun _ => true)] results'
        g'.contents ∧
      (results.map FileResult.outOfMemory = results'.map FileResult.outOfMemory →
        results = results') ∧
      ((∀ request ∈ [(.write [7, 7] 1, fun _ => true), (.size, fun _ => true)] ++
          ([(.write [7, 7] 1, fun _ => true), (.size, fun _ => true)] : List FileCall),
        ∀ n, request.2 n = true) → results = results') :=
  chunksFile_refines_vector 32 MemChunksFile.waitingForWrite ⟨[], some 8, 0⟩ (Or.inr rfl)
    (Or.inl ⟨8, rfl⟩) _ _ rfl

/-- An empty write past the end succeeds and leaves the gap unfilled. -/
theorem empty_write_fills_no_gap :
    (MemChunksFile.write 32 (fun _ => true) [] 5).run MemChunksFile.waitingForWrite =
        (.ok (), MemChunksFile.waitingForWrite) ∧
      MemChunksFile.waitingForWrite.contents ≠
        writeAt MemChunksFile.waitingForWrite.contents 5 [] := by
  refine ⟨rfl, ?_⟩
  decide

end SqliteVfs
