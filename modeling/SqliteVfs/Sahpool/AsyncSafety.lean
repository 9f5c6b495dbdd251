import SqliteVfs.Sahpool.BusyPool
import SqliteVfs.Sahpool.SlotConservation

/-!
# Futures that fail or are dropped

From the call that begins work on the capacity, or a resumption, to its failure or the drop
of its future.  Other calls may come between any two awaits.  `World.Works` is what the
operation itself does to the pool on the way, `System.Beside` what the others do.
-/

set_option autoImplicit false

namespace SqliteVfs

namespace Sahpool

variable {mode : Mode} {s₀ s s' : System} {w w' w'' : World} {g g' : Ledger} {file name : String}
  {event : Event} {outcome : Outcome Failure Answer} {operation : Operation}

/-! ## Calls in between -/

structure HandleCall where
  file : String
  readOnly : Bool
  made : FileCall

inductive Rewritten : List HandleCall → List UInt8 → List UInt8 → Prop
  | nothing (contents) : Rewritten [] contents contents
  | called (calls : List HandleCall) (call : HandleCall) (before content content')
      (earlier : Rewritten calls before (SlotFile.contents content))
      (effect : call.made.Effect call.readOnly content content') :
    Rewritten (calls ++ [call]) before content'.contents

def Event.Begins : Event → Prop
  | .addCapacity _ | .ensureCapacity _ | .reduceCapacity _ | .resume => True
  | _ => False

def Event.Awaits : Event → Operation → Prop
  | .addCapacity _, .adding _ | .ensureCapacity _, .adding _ => True
  | .reduceCapacity _, .reducing shrink => shrink.remaining < shrink.count
  | .resume, .resuming _ => True
  | _, _ => False

def System.popped (s : System) : Nat :=
  match s.operations with
  | [.reducing shrink] => shrink.count - shrink.remaining
  | _ => 0

/-- The future of `event`, called in `s₀`, is pending; `calls` were made in the meantime. -/
inductive Underway (s₀ : System) (event : Event) : List HandleCall → System → Prop
  | begun (around s) (begins : event.Begins) (run : s₀.run ⟨around, event⟩ = (.ok .pending, s)) :
    Underway s₀ event [] s
  | polled (calls s around i s') (before : Underway s₀ event calls s)
      (run : s.run ⟨around, .poll i⟩ = (.ok .pending, s')) : Underway s₀ event calls s'
  | called (calls s around i made f s') (before : Underway s₀ event calls s)
      (there : s.files[i]? = some f) (step : s.Step ⟨around, .call i made⟩ s') :
    Underway s₀ event (calls ++ [⟨f.handle.file, f.handle.readOnly, made⟩]) s'
  | beside (calls s moment s') (before : Underway s₀ event calls s)
      (unpolled : ∀ i, moment.event ≠ .poll i ∧ moment.event ≠ .cancel i)
      (uncalled : ∀ i made, moment.event = .call i made → s.files[i]? = none)
      (step : s.Step moment s') : Underway s₀ event calls s'

/-- It has failed, or its future was dropped; `popped` slots were popped by then. -/
inductive Stopped (s₀ : System) (event : Event) : List HandleCall → Nat → System → Prop
  | refused (around error s) (begins : event.Begins)
      (run : s₀.run ⟨around, event⟩ = (.err error, s)) : Stopped s₀ event [] 0 s
  | failed (calls s around i error s') (before : Underway s₀ event calls s)
      (run : s.run ⟨around, .poll i⟩ = (.err error, s')) : Stopped s₀ event calls s.popped s'
  | dropped (calls s around i s') (before : Underway s₀ event calls s)
      (there : s.operations[i]? ≠ none) (step : s.Step ⟨around, .cancel i⟩ s') :
    Stopped s₀ event calls s.popped s'

/-! ## The work of an operation -/

structure World.Works (w : World) (popped : List String) (w' : World) : Prop where
  available : w.availableFiles = w'.availableFiles ++ popped
  names : w'.mapFilenameToFile = w.mapFilenameToFile
  quarantined : w'.quarantinedFiles = w.quarantinedFiles
  suspect : w.state = .active → w'.needsRecovery = w.needsRecovery
  state : w'.state = w.state
  lease : w'.lease = w.lease
  registration : w'.registration = w.registration
  contents : ∀ file ∈ w.held, w'.directory.lookup file = w.directory.lookup file
  disk : w.state = .paused → ∀ file name, decoded w.directory file = some (.ok (some name)) →
    w'.directory.lookup file = w.directory.lookup file

theorem World.Beyond.works (beyond : w.Beyond w') (active : w.state = .active) : w.Works [] w' where
  available := by rw [List.append_nil, beyond.still.available]
  names := beyond.still.names
  quarantined := beyond.still.quarantined
  suspect _ := beyond.still.suspect
  state := beyond.settings.state
  lease := beyond.settings.lease
  registration := beyond.settings.registration
  contents := beyond.contents
  disk paused := PoolState.noConfusion (active.symm.trans paused)

theorem World.Looked.works (looked : w.Looked w') : w.Works [] w' where
  available := by rw [List.append_nil, looked.still.available]
  names := looked.still.names
  quarantined := looked.still.quarantined
  suspect _ := looked.still.suspect
  state := looked.settings.state
  lease := looked.settings.lease
  registration := looked.settings.registration
  contents file _ := looked.contents file
  disk _ file _ _ := looked.contents file

theorem GivenUp.works (result : GivenUp mode w g w') (active : w.state = .active) :
    w.Works [] w' ∧ w'.busy = false := by
  obtain ⟨w₁, -, beyond, -, rfl⟩ := result
  have works := beyond.works active
  exact ⟨{ works with }, rfl⟩

theorem Popped.works {shrink : Shrink} (popped : Popped mode w g shrink w')
    (active : w.state = .active) : w.Works [shrink.file] w' := by
  obtain ⟨w₁, rest, beyond, top, rfl⟩ := popped.from_top
  have works := beyond.works active
  exact {
    works with
    available := beyond.still.available.symm.trans top
    contents := works.contents }

theorem ResumeFailed.works (result : ResumeFailed mode w g w' g') (suspended : Suspended mode w g) :
    w.Works [] w' ∧ w'.busy = false := by
  obtain ⟨available, names, quarantined⟩ := suspended.rep.unloaded suspended.unloaded
  obtain ⟨available', names', quarantined'⟩ :=
    result.suspended.rep.unloaded result.suspended.unloaded
  refine ⟨?_, result.settings.busy⟩
  exact {
    available := by
      rw [available, available']
      rfl
    names := names'.trans names.symm
    quarantined := quarantined'.trans quarantined.symm
    suspect := fun active => PoolState.noConfusion (active.symm.trans suspended.paused)
    state := result.settings.state
    lease := result.settings.lease
    registration := result.settings.registration
    contents := fun file member => by
      unfold World.held at member
      rw [available, names, quarantined] at member
      exact absurd member List.not_mem_nil
    disk := fun _ => result.named }

/-! ## Turns of an operation -/

theorem Event.Begins.apart (begins : event.Begins) : ¬ event.Queries ∧
    (∀ name, ¬ event.Deletes name) ∧ (∀ i, ¬ event.EndsImport i) ∧
    ∀ i, event ≠ .poll i ∧ event ≠ .cancel i := by
  refine ⟨?_, ?_, ?_, fun i => ⟨?_, ?_⟩⟩
  · intro queries
    cases event
    all_goals first | exact begins.elim | exact queries.elim
  · rintro name (rfl | rfl) <;> exact begins.elim
  · rintro i (rfl | rfl | ⟨error, rfl⟩ | rfl) <;> exact begins.elim
  · rintro rfl
    exact begins.elim
  · rintro rfl
    exact begins.elim

theorem Turn.begun (turn : Turn mode s g event (.ok .pending) s' g') (begins : event.Begins) :
    s.world.busy = false ∧ ∃ operation popped,
      s'.operations = [operation] ∧ event.Awaits operation ∧ s'.popped = popped.length ∧
      s.world.Works popped s'.world ∧ s'.files = s.files := by
  obtain ⟨noQuery, noDelete, noEnd, noPoll⟩ := begins.apart
  cases turn with
  | looked _ _ w' query => exact absurd query noQuery
  | deleted _ name answer w' _ deletes => exact absurd deletes (noDelete name)
  | unimported _ i _ file filename data w' _ ends => exact absurd ends (noEnd i)
  | growing _ w growth w' adding resizable reached =>
      have active : w.state = .active := resizable.active
      have works := reached.2.1.works active
      cases adding with
      | add n ready =>
          exact ⟨ready.free, .adding growth, [], rfl, trivial, rfl, { works with }, rfl⟩
      | ensure min ready =>
          exact ⟨ready.free, .adding growth, [], rfl, trivial, rfl, { works with }, rfl⟩
      | poll i growth there => exact begins.elim
  | shrinking _ w count left shrink w' reducing resizable reached =>
      obtain ⟨popped, counted, leftover⟩ := reached
      have works := popped.works resizable.active
      cases reducing with
      | reduce n ready =>
          generalize min n s.world.availableFiles.length = count at counted leftover
          refine ⟨ready.free, .reducing shrink, [shrink.file], rfl, ?_, ?_, { works with }, rfl⟩
          · change shrink.remaining < shrink.count
            omega
          · change shrink.count - shrink.remaining = 1
            omega
      | poll i shrink there => exact begins.elim
  | givenUp _ w _ w' stopping resizable result ended => exact absurd rfl ended
  | resuming vfs suspended free registered =>
      have looked : s.world.Looked s.world := .refl _
      have works := looked.works
      exact ⟨free, .resuming (.lease vfs), [], rfl, trivial, rfl, { works with }, rfl⟩
  | unresumed _ i _ resuming w' _ stops there suspended result ended => exact absurd rfl ended
  | _ => exact begins.elim

theorem Event.Awaits.adding {growth : Growth} (awaits : event.Awaits (.adding growth))
    (growth' : Growth) : event.Awaits (.adding growth') := by
  cases event <;> exact awaits

theorem Event.Awaits.resuming {resuming : Resuming} (awaits : event.Awaits (.resuming resuming))
    (resuming' : Resuming) : event.Awaits (.resuming resuming') := by
  cases event <;> exact awaits

theorem Event.Awaits.reducing {shrink : Shrink} (awaits : event.Awaits (.reducing shrink)) :
    shrink.remaining < shrink.count ∧ ∀ shrink' : Shrink, shrink'.remaining < shrink'.count →
      event.Awaits (.reducing shrink') := by
  cases event with
  | reduceCapacity n => exact ⟨awaits, fun _ less => less⟩
  | _ => exact awaits.elim

theorem Event.Awaits.isFuture (awaits : event.Awaits operation) : operation.IsFuture := by
  cases operation with
  | importing target => cases event <;> exact awaits.elim
  | exporting source => cases event <;> exact awaits.elim
  | _ => trivial

theorem Turn.polled {i : Nat} (turn : Turn mode s g (.poll i) (.ok .pending) s' g')
    (there : s.operations = [operation]) (awaits : event.Awaits operation) :
    ∃ operation' popped, s'.operations = [operation'] ∧ event.Awaits operation' ∧
      s'.popped = s.popped + popped.length ∧ s.world.Works popped s'.world ∧
      s'.files = s.files := by
  cases turn with
  | looked _ _ w' query => exact query.elim
  | deleted _ name answer w' _ deletes =>
      rcases deletes with impossible | impossible <;> cases impossible
  | unimported _ i _ file filename data w' _ ends =>
      rcases ends with impossible | impossible | ⟨error, impossible⟩ | impossible <;>
        cases impossible
  | growing _ w growth w' adding resizable reached =>
      cases adding with
      | poll i growth₀ alone =>
          obtain rfl := List.singleton_injective (there.symm.trans alone)
          refine ⟨.adding growth, [], rfl, awaits.adding growth, ?_,
            reached.2.1.works resizable.active, rfl⟩
          unfold System.popped
          rw [alone]
          rfl
  | shrinking _ w count left shrink w' reducing resizable reached =>
      cases reducing with
      | poll i shrink₀ alone =>
          obtain rfl := List.singleton_injective (there.symm.trans alone)
          obtain ⟨popped, counted, leftover⟩ := reached
          obtain ⟨less, any⟩ := awaits.reducing
          refine ⟨.reducing shrink, [shrink.file], rfl, any shrink (by omega), ?_,
            popped.works resizable.active, rfl⟩
          unfold System.popped
          rw [alone]
          change shrink.count - shrink.remaining = shrink₀.count - shrink₀.remaining + 1
          omega
  | givenUp _ w _ w' stopping resizable result ended => exact absurd rfl ended
  | pending i resuming resuming' w' alone suspended consulted resumes =>
      obtain rfl := List.singleton_injective (there.symm.trans alone)
      refine ⟨.resuming resuming', [], rfl, awaits.resuming resuming', ?_,
        consulted.viewed.looked.works, rfl⟩
      unfold System.popped
      rw [alone]
      rfl
  | unresumed _ i _ resuming w' _ stops alone suspended result ended => exact absurd rfl ended

theorem Turn.failed {i : Nat} {error : Failure}
    (turn : Turn mode s g (.poll i) (.err error) s' g') :
    s'.operations = [] ∧ s'.world.busy = false ∧ s.world.Works [] s'.world := by
  cases turn with
  | looked _ _ w' query => exact query.elim
  | refused _ error w' guarded => exact guarded.elim
  | undeleted _ name error w' _ deletes =>
      rcases deletes with impossible | impossible <;> cases impossible
  | unimported _ i _ file filename data w' _ ends =>
      rcases ends with impossible | impossible | ⟨error, impossible⟩ | impossible <;>
        cases impossible
  | givenUp _ w _ w' stopping resizable result ended =>
      obtain ⟨works, free⟩ := result.works resizable.active
      cases stopping with
      | adding event w adding =>
          cases adding with
          | poll i growth there => exact ⟨rfl, free, works⟩
      | reducing i shrink there => exact ⟨rfl, free, works⟩
  | unresumed _ i _ resuming w' _ stops there suspended result ended =>
      obtain ⟨works, free⟩ := result.works suspended
      exact ⟨rfl, free, works⟩

theorem Turn.dropped {i : Nat} (turn : Turn mode s g (.cancel i) outcome s' g')
    (there : s.operations[i]? = some operation) (future : operation.IsFuture) :
    s'.operations = [] ∧ s'.world.busy = false ∧ s.world.Works [] s'.world := by
  cases turn with
  | idle _ nothing => exact absurd future (nothing operation there)
  | looked _ _ w' query => exact query.elim
  | refused _ error w' guarded => exact guarded.elim
  | deleted _ name answer w' _ deletes =>
      rcases deletes with impossible | impossible <;> cases impossible
  | undeleted _ name error w' _ deletes =>
      rcases deletes with impossible | impossible <;> cases impossible
  | unimported _ i _ file filename data w' _ ends =>
      rcases ends with impossible | impossible | ⟨error, impossible⟩ | impossible <;>
        cases impossible
  | growing _ w growth w' adding => cases adding
  | grown _ w count w' adding => cases adding
  | shrinking _ w count left shrink w' reducing => cases reducing
  | shrunk _ w count left removed w' reducing => cases reducing
  | givenUp _ w _ w' stopping resizable result ended =>
      obtain ⟨works, free⟩ := result.works resizable.active
      cases stopping with
      | adding event w adding => cases adding
      | dropAdding i growth there => exact ⟨rfl, free, works⟩
      | dropReducing i shrink there => exact ⟨rfl, free, works⟩
  | unresumed _ i _ resuming w' _ stops there suspended result ended =>
      obtain ⟨works, free⟩ := result.works suspended
      exact ⟨rfl, free, works⟩

theorem Turn.unbegun {error : Failure} (turn : Turn mode s g event (.err error) s' g')
    (good : Good mode s g) (begins : event.Begins) : s'.operations = s.operations ∧
      s'.world.busy = s.world.busy ∧ s.world.Works [] s'.world := by
  obtain ⟨noQuery, noDelete, noEnd, noPoll⟩ := begins.apart
  cases turn with
  | looked _ _ w' query => exact absurd query noQuery
  | refused _ error w' guarded looked rep => exact ⟨rfl, looked.settings.busy, looked.works⟩
  | undeleted _ name error w' _ deletes => exact absurd deletes (noDelete name)
  | unimported _ i _ file filename data w' _ ends => exact absurd ends (noEnd i)
  | givenUp _ w _ w' stopping resizable result ended =>
      have active : w.state = .active := resizable.active
      obtain ⟨works, free⟩ := result.works active
      cases stopping with
      | adding event w adding =>
          cases adding with
          | add n ready =>
              exact ⟨(good.free_alone ready.free).symm, free.trans ready.free.symm, { works with }⟩
          | ensure min ready =>
              exact ⟨(good.free_alone ready.free).symm, free.trans ready.free.symm, { works with }⟩
          | poll i growth there => exact begins.elim
      | reducing i shrink there => exact begins.elim
      | dropAdding i growth there => exact begins.elim
      | dropReducing i shrink there => exact begins.elim
  | unresumed _ i _ resuming w' _ stops there suspended result ended =>
      rcases stops with polls | cancels
      · exact absurd polls (noPoll i).1
      · exact absurd cancels (noPoll i).2
  | _ => exact begins.elim

/-- A future is only polled or dropped. -/
theorem Event.Awaits.foreign {origin : Event} (awaits : origin.Awaits operation)
    (unpolled : ∀ i, event ≠ .poll i ∧ event ≠ .cancel i) : ¬ event.WorksOn operation := by
  have future := awaits.isFuture
  intro works
  cases operation with
  | importing target => exact future
  | exporting source => exact future
  | _ =>
      cases event
      all_goals first | exact works | exact (unpolled _).1 rfl | exact (unpolled _).2 rfl

/-! ## Runs -/

/-- What is left of the pool, when `popped` slots were popped and these calls were made on its
handles; nothing else has changed. -/
structure System.Leaves (s₀ : System) (calls : List HandleCall) (popped : Nat) (s : System) :
    Prop where
  available : ∃ removed, removed.length = popped ∧
    s₀.world.availableFiles = s.world.availableFiles ++ removed
  names : s.world.mapFilenameToFile = s₀.world.mapFilenameToFile
  quarantined : s.world.quarantinedFiles = s₀.world.quarantinedFiles
  suspect : s₀.world.state = .active → s.world.needsRecovery = s₀.world.needsRecovery
  state : s.world.state = s₀.world.state
  lease : s.world.lease = s₀.world.lease
  registration : s.world.registration = s₀.world.registration
  contents : ∀ name file, s₀.world.mapFilenameToFile.lookup name = some file →
    ∃ before after, s₀.world.contentsOf file = some before ∧ s.world.contentsOf file = some after ∧
      Rewritten (calls.filter fun call => call.file = file) before after
  disk : s₀.world.state = .paused →
    ∀ file name, decoded s₀.world.directory file = some (.ok (some name)) →
      s.world.directory.lookup file = s₀.world.directory.lookup file

namespace System.Leaves

variable {calls : List HandleCall} {n : Nat}

theorem start (rep : Rep mode s.world g) : s.Leaves [] 0 s where
  available := ⟨[], rfl, (List.append_nil _).symm⟩
  names := rfl
  quarantined := rfl
  suspect _ := rfl
  state := rfl
  lease := rfl
  registration := rfl
  contents name file mapped := by
    obtain ⟨content, found, -⟩ := rep.content_of_mapped mapped
    exact ⟨_, _, World.contentsOf_some found, World.contentsOf_some found, .nothing _⟩
  disk _ _ _ _ := rfl

theorem works (leaves : s₀.Leaves calls n s) {popped : List String}
    (works : s.world.Works popped s'.world) : s₀.Leaves calls (n + popped.length) s' where
  available := by
    obtain ⟨removed, length, before⟩ := leaves.available
    refine ⟨popped ++ removed, ?_, ?_⟩
    · rw [List.length_append, length, Nat.add_comm]
    · rw [before, works.available, List.append_assoc]
  names := works.names.trans leaves.names
  quarantined := works.quarantined.trans leaves.quarantined
  suspect active := (works.suspect (leaves.state.trans active)).trans (leaves.suspect active)
  state := works.state.trans leaves.state
  lease := works.lease.trans leaves.lease
  registration := works.registration.trans leaves.registration
  contents name file mapped := by
    obtain ⟨before, after, one, other, rewritten⟩ := leaves.contents name file mapped
    have held : file ∈ s.world.held := mem_held_mapped (leaves.names ▸ mapped)
    exact ⟨before, after, one, (World.contentsOf_congr (works.contents file held)).trans other,
      rewritten⟩
  disk paused file name named := by
    have same := leaves.disk paused file name named
    refine (works.disk (leaves.state.trans paused) file name ?_).trans same
    unfold decoded at named ⊢
    rw [same]
    exact named

/-- What the other calls change is in the list of calls. -/
theorem rewritten (leaves : s₀.Leaves calls n s) {calls' : List HandleCall}
    (beside : s.Beside event s') (shut : s.world.state = .paused → s.files = [])
    (contents : ∀ name file before after, s₀.world.mapFilenameToFile.lookup name = some file →
      s.world.contentsOf file = some after →
      Rewritten (calls.filter fun call => call.file = file) before after →
      ∃ after', s'.world.contentsOf file = some after' ∧
        Rewritten (calls'.filter fun call => call.file = file) before after') :
    s₀.Leaves calls' n s' where
  available := by
    rw [beside.still.available]
    exact leaves.available
  names := beside.still.names.trans leaves.names
  quarantined := beside.still.quarantined.trans leaves.quarantined
  suspect active := beside.still.suspect.trans (leaves.suspect active)
  state := beside.state.trans leaves.state
  lease := beside.lease.trans leaves.lease
  registration := beside.registration.trans leaves.registration
  contents name file mapped := by
    obtain ⟨before, after, one, other, rewritten⟩ := leaves.contents name file mapped
    obtain ⟨after', there, rewritten'⟩ := contents name file before after mapped other rewritten
    exact ⟨before, after', one, there, rewritten'⟩
  disk paused file name named := by
    refine (beside.unopened file ?_).trans (leaves.disk paused file name named)
    rw [shut (leaves.state.trans paused)]
    exact fun f member => absurd member List.not_mem_nil

theorem beside (leaves : s₀.Leaves calls n s) (beside : s.Beside event s')
    (shut : s.world.state = .paused → s.files = [])
    (uncalled : ∀ i made, event = .call i made → s.files[i]? = none) : s₀.Leaves calls n s' := by
  refine leaves.rewritten beside shut fun name file before after _ there rewritten => ?_
  rcases beside.contents file with same | ⟨i, made, f, content, content', called, here, -⟩
  · exact ⟨after, same.trans there, rewritten⟩
  · exact absurd (here.symm.trans (uncalled i made called)) (Option.some_ne_none f)

theorem called (leaves : s₀.Leaves calls n s) {i : Nat} {made : FileCall} {f : VfsFile}
    (there : s.files[i]? = some f) (beside : s.Beside (.call i made) s')
    (shut : s.world.state = .paused → s.files = []) :
    s₀.Leaves (calls ++ [⟨f.handle.file, f.handle.readOnly, made⟩]) n s' := by
  refine leaves.rewritten beside shut fun name file before after _ present rewritten => ?_
  rw [List.filter_append]
  by_cases here : f.handle.file = file
  · rw [List.filter_cons_of_pos (by simp [here]), List.filter_nil]
    rcases beside.contents file with same | ⟨j, made', f', content, content', called,
      there', -, found, found', effect⟩
    · obtain ⟨content, found, rfl⟩ := Option.map_eq_some_iff.mp present
      exact ⟨_, same.trans present, .called _ _ before content content rewritten (.nothing _)⟩
    · cases called
      obtain rfl : f = f' := Option.some.inj (there.symm.trans there')
      obtain rfl : content.contents = after :=
        Option.some.inj ((World.contentsOf_some found).symm.trans present)
      exact ⟨_, World.contentsOf_some found', .called _ _ before content content' rewritten effect⟩
  · rw [List.filter_cons_of_neg (by simp [here]), List.filter_nil, List.append_nil]
    rcases beside.contents file with same | ⟨j, made', f', content, content', called, there',
      elsewhere, -⟩
    · exact ⟨after, same.trans present, rewritten⟩
    · cases called
      obtain rfl : f = f' := Option.some.inj (there.symm.trans there')
      exact absurd elsewhere here

end System.Leaves

structure Between (s₀ : System) (event : Event) (calls : List HandleCall) (s : System) : Prop where
  arises : s.Arises
  free : s₀.world.busy = false
  alone : s₀.operations = []
  future : ∃ operation, s.operations = [operation] ∧ event.Awaits operation
  leaves : s₀.Leaves calls s.popped s

variable {calls : List HandleCall}

theorem Between.step (between : Between s₀ event calls s) {moment : Moment}
    (unpolled : ∀ i, moment.event ≠ .poll i ∧ moment.event ≠ .cancel i) (step : s.Step moment s') :
    s'.Arises ∧ s.Beside moment.event s' ∧ s'.popped = s.popped ∧
      (s.world.state = .paused → s.files = []) := by
  obtain ⟨g, good⟩ := between.arises.good
  obtain ⟨operation, there, awaits⟩ := between.future
  have beside := good.beside moment.allowed_lax there (awaits.foreign unpolled) step
  refine ⟨between.arises.step step, beside, ?_, fun paused => ?_⟩
  · unfold System.popped
    rw [beside.operations]
  · exact good.files_of_inactive fun active => PoolState.noConfusion (active.symm.trans paused)

/-- Only `reduce_capacity` pops slots. -/
theorem Between.unpopped (between : Between s₀ event calls s)
    (other : ∀ n, event ≠ .reduceCapacity n) : s.popped = 0 := by
  obtain ⟨operation, there, awaits⟩ := between.future
  unfold System.popped
  rw [there]
  cases operation with
  | reducing shrink =>
      cases event with
      | reduceCapacity n => exact absurd rfl (other n)
      | _ => exact awaits.elim
  | _ => rfl

theorem Underway.between (underway : Underway s₀ event calls s) (arises : s₀.Arises) :
    Between s₀ event calls s := by
  induction underway with
  | begun around s begins run =>
      obtain ⟨g, good⟩ := arises.good
      have returns (why : Halt) :
          (Outcome.ok .pending : Outcome Failure Answer) ≠ .halt why := by simp
      obtain ⟨around', s₂, g', answers, turn, rfl⟩ := good.took (Moment.allowed_lax _) run returns
      obtain ⟨free, operation, popped, there, awaits, counted, works, -⟩ := turn.begun begins
      refine ⟨arises.step ⟨_, run, returns⟩, free, good.free_alone free,
        ⟨operation, there, awaits⟩, ?_⟩
      have after : s₀.world.Works popped s₂.silenced.world := { works with }
      have leaves := (System.Leaves.start good.rep).works after
      rw [Nat.zero_add, ← counted] at leaves
      exact leaves
  | polled calls s around i s' before run ih =>
      obtain ⟨g, good⟩ := ih.arises.good
      have returns (why : Halt) :
          (Outcome.ok .pending : Outcome Failure Answer) ≠ .halt why := by simp
      obtain ⟨around', s₂, g', answers, turn, rfl⟩ := good.took (Moment.allowed_lax _) run returns
      obtain ⟨operation, there, awaits⟩ := ih.future
      obtain ⟨operation', popped, there', awaits', counted, works, -⟩ := turn.polled there awaits
      refine ⟨ih.arises.step ⟨_, run, returns⟩, ih.free, ih.alone,
        ⟨operation', there', awaits'⟩, ?_⟩
      have after : s.world.Works popped s₂.silenced.world := { works with }
      have leaves := ih.leaves.works after
      have same : s₂.silenced.popped = s.popped + popped.length := counted
      rw [same]
      exact leaves
  | called calls s around i made f s' before there step ih =>
      obtain ⟨arises', beside, counted, shut⟩ := ih.step (fun _ => ⟨by simp, by simp⟩) step
      have future : ∃ operation, s'.operations = [operation] ∧ event.Awaits operation := by
        rw [beside.operations]
        exact ih.future
      refine ⟨arises', ih.free, ih.alone, future, ?_⟩
      rw [counted]
      exact ih.leaves.called there beside shut
  | beside calls s moment s' before unpolled uncalled step ih =>
      obtain ⟨arises', beside, counted, shut⟩ := ih.step unpolled step
      have future : ∃ operation, s'.operations = [operation] ∧ event.Awaits operation := by
        rw [beside.operations]
        exact ih.future
      refine ⟨arises', ih.free, ih.alone, future, ?_⟩
      rw [counted]
      exact ih.leaves.beside beside shut uncalled

/-! ## Safety -/

theorem Turn.reloaded {i : Nat} {resuming : Resuming}
    (turn : Turn mode s g (.poll i) (.ok .done) s' g')
    (there : s.operations[i]? = some (.resuming resuming)) :
    ∀ file, file ∈ s'.world.held ↔ file ∈ s'.world.directory := by
  have member := List.mem_of_getElem? there
  cases turn with
  | idle _ nothing => exact absurd trivial (nothing _ there)
  | looked _ _ w' query => exact query.elim
  | deleted _ name answer w' _ deletes =>
      rcases deletes with impossible | impossible <;> cases impossible
  | unimported _ i _ file filename data w' _ ends =>
      rcases ends with impossible | impossible | ⟨error, impossible⟩ | impossible <;>
        cases impossible
  | givenUp _ w _ w' stopping resizable result ended =>
      cases stopping with
      | adding event w adding =>
          cases adding with
          | poll i growth alone =>
              rw [alone] at member
              cases List.mem_singleton.mp member
      | reducing i shrink alone =>
          rw [alone] at member
          cases List.mem_singleton.mp member
  | resumed i resuming w' _ there suspended result =>
      obtain ⟨w₁, vfs, env, loaded, -, -, -, rfl⟩ := result.loading
      intro file
      exact (loaded.held file).trans (loaded.files file).symm
  | unresumed _ i _ resuming w' _ stops there suspended result ended failed =>
      cases failed rfl

structure StoppedSafely (s₀ : System) (event : Event) (calls : List HandleCall) (popped : Nat)
    (s : System) : Prop extends s₀.Leaves calls popped s where
  released : s.world.busy = s₀.world.busy
  forgotten : s.operations = s₀.operations
  counted : s.world.capacity + popped = s₀.world.capacity
  unpopped : (∀ n, event ≠ .reduceCapacity n) →
    popped = 0 ∧ s.world.availableFiles = s₀.world.availableFiles
  suspended : s₀.world.state = .paused →
    s.world.state = .paused ∧ s.world.held = [] ∧ s.world.capacity = 0 ∧ s.world.lease = false
  reloads : ∀ moments s₁, Runs System.Step s moments s₁ → ∀ around i resuming s₂,
    s₁.operations[i]? = some (.resuming resuming) → s₁.run ⟨around, .poll i⟩ = (.ok .done, s₂) →
      ∀ file, file ∈ s₂.world.held ↔ file ∈ s₂.world.directory

namespace StoppedSafely

variable {popped : Nat}

/-- What follows from what is left of the pool. -/
theorem of_leaves (arises : s₀.Arises) (after : s.Arises) (leaves : s₀.Leaves calls popped s)
    (released : s.world.busy = s₀.world.busy) (forgotten : s.operations = s₀.operations)
    (unpopped : (∀ n, event ≠ .reduceCapacity n) → popped = 0) :
    StoppedSafely s₀ event calls popped s where
  toLeaves := leaves
  released := released
  forgotten := forgotten
  counted := by
    obtain ⟨removed, rfl, before⟩ := leaves.available
    unfold World.capacity
    rw [before, List.length_append, leaves.names, leaves.quarantined]
    omega
  unpopped other := by
    obtain ⟨removed, rfl, before⟩ := leaves.available
    have nothing := unpopped other
    rw [List.length_eq_zero_iff.mp nothing, List.append_nil] at before
    exact ⟨nothing, before.symm⟩
  suspended paused := by
    obtain ⟨g₀, good₀⟩ := arises.good
    obtain ⟨g, good⟩ := after.good
    have paused' : s.world.state = .paused := leaves.state.trans paused
    have inactive : s.world.state ≠ .active := fun active =>
      PoolState.noConfusion (active.symm.trans paused')
    have nothing := good.held_of_inactive inactive
    refine ⟨paused', nothing, ?_, ?_⟩
    · rw [World.capacity_eq, nothing]
      rfl
    · exact Bool.eq_false_iff.mpr fun leased => inactive (good.lease.mp leased)
  reloads moments s₁ runs around i resuming s₂ there run := by
    have arises₁ : s₁.Arises := by
      obtain ⟨config, directory, name, w, before, installed, began⟩ := after
      exact ⟨config, directory, name, w, _, installed, began.trans runs⟩
    obtain ⟨g, good⟩ := arises₁.good
    obtain ⟨around', s₃, g', answers, turn, rfl⟩ := good.took (Moment.allowed_lax _) run (by simp)
    exact turn.reloaded there

end StoppedSafely

/-- However an operation stops halfway, the pool is safe. -/
theorem async_operations_stop_safely (arises : s₀.Arises) {popped : Nat}
    (stopped : Stopped s₀ event calls popped s) : StoppedSafely s₀ event calls popped s := by
  cases stopped with
  | refused around error s begins run =>
      obtain ⟨g, good⟩ := arises.good
      obtain ⟨around', s₂, g', answers, turn, rfl⟩ := good.took (Moment.allowed_lax _) run (by simp)
      obtain ⟨forgotten, released, works⟩ := turn.unbegun (good.facing answers) begins
      have after : s₀.world.Works [] s₂.silenced.world := { works with }
      have leaves := (System.Leaves.start good.rep).works after
      exact .of_leaves arises (arises.step ⟨_, run, by simp⟩) leaves released forgotten fun _ => rfl
  | failed calls s₁ around i error s before run =>
      have between := before.between arises
      obtain ⟨g, good⟩ := between.arises.good
      obtain ⟨around', s₂, g', answers, turn, rfl⟩ := good.took (Moment.allowed_lax _) run (by simp)
      obtain ⟨forgotten, released, works⟩ := turn.failed
      have ended : s₁.world.Works [] s₂.silenced.world := { works with }
      have leaves := between.leaves.works ended
      exact .of_leaves arises (between.arises.step ⟨_, run, by simp⟩) leaves
        (released.trans between.free.symm) (forgotten.trans between.alone.symm) between.unpopped
  | dropped calls s₁ around i s before there step =>
      have between := before.between arises
      obtain ⟨g, good⟩ := between.arises.good
      obtain ⟨operation, alone, awaits⟩ := between.future
      have here : s₁.operations[i]? = some operation := by
        obtain ⟨other, here⟩ := Option.ne_none_iff_exists'.mp there
        have member := List.mem_of_getElem? here
        rw [alone] at member
        rw [here, List.mem_singleton.mp member]
      have after := between.arises.step step
      obtain ⟨outcome, run, returns⟩ := step
      obtain ⟨around', s₂, g', answers, turn, rfl⟩ := good.took (Moment.allowed_lax _) run returns
      obtain ⟨forgotten, released, works⟩ := turn.dropped here awaits.isFuture
      have ended : s₁.world.Works [] s₂.silenced.world := { works with }
      have leaves := between.leaves.works ended
      exact .of_leaves arises after leaves (released.trans between.free.symm)
        (forgotten.trans between.alone.symm) between.unpopped

set_option maxRecDepth 20000 in
/-- A reduction of the pool of one slot whose removal of the slot file throws. -/
theorem reduction_fails : ∃ s, Stopped ⟨onePool, [], []⟩ (.reduceCapacity 1) [] 1 s := by
  have begun : Underway ⟨onePool, [], []⟩ (.reduceCapacity 1) [] _ :=
    .begun untroubled _ trivial rfl
  exact ⟨_, .failed [] _ ⟨⟨[.thrown ⟨none, none, ""⟩ .nothing], [], [], []⟩, []⟩ 0 _ _ begun rfl⟩

theorem async_operations_stop_safely_reduced :
    ∃ s, StoppedSafely ⟨onePool, [], []⟩ (.reduceCapacity 1) [] 1 s := by
  have arises : System.Arises ⟨onePool, [], []⟩ := onePool_arises .refl
  obtain ⟨s, stopped⟩ := reduction_fails
  exact ⟨s, async_operations_stop_safely arises stopped⟩

end Sahpool

end SqliteVfs
