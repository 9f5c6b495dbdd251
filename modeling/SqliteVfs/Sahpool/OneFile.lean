import SqliteVfs.Sahpool.FilesRefinement

/-!
# One file among the others

What a run can make of a single file.  Its bytes are zeros and what was written under its own
name, whatever its slot held before; and a file that nobody changes stays as it is.
-/

set_option autoImplicit false

namespace SqliteVfs

namespace Sahpool

variable {mode : Mode} {s s' : System} {g : Ledger} {f f' : Files} {w : World} {name : String}
  {event : Event} {outcome : Outcome Failure Answer} {data data' : List UInt8}

/-! ## Bytes -/

/-- Which bytes may stand under which name. -/
abbrev Policy : Type := String → UInt8 → Prop

def Policy.Admits (P : Policy) (name : String) (data : List UInt8) : Prop :=
  ∀ byte ∈ data, P name byte

namespace Policy.Admits

variable {P : Policy}

theorem nil : P.Admits name [] := by
  intro byte member
  cases member

theorem mono (admits : P.Admits name data) (subset : data' ⊆ data) : P.Admits name data' :=
  fun byte member => admits byte (subset member)

theorem writeAt (admits : P.Admits name data) (zero : P name 0) {bytes : List UInt8} {offset : Nat}
    (written : P.Admits name bytes) : P.Admits name (SparseVector.writeAt data offset bytes) := by
  intro byte member
  rcases SparseVector.mem_writeAt member with kept | new | rfl
  · exact admits byte kept
  · exact written byte new
  · exact zero

theorem resize (admits : P.Admits name data) (zero : P name 0) (size : Nat) :
    P.Admits name (SparseVector.resize data size) := by
  intro byte member
  rcases SparseVector.mem_resize member with kept | rfl
  · exact admits byte kept
  · exact zero

end Policy.Admits

theorem FileCall.Makes.admits {P : Policy} {readOnly : Bool} {made : FileCall}
    (makes : made.Makes readOnly data outcome data') (admits : P.Admits name data) (zero : P name 0)
    (writes : ∀ buf offset, made = .write buf offset → P.Admits name buf) :
    P.Admits name data' := by
  cases makes with
  | answered answer _ answers =>
      cases answers with
      | written buf offset writable =>
          by_cases empty : buf = []
          · rw [if_pos empty]
            exact admits
          · rw [if_neg empty]
            exact admits.writeAt zero (writes buf offset rfl)
      | truncated size writable => exact admits.resize zero size
      | extended size large writable => exact admits.resize zero size
      | _ => exact admits
  | failed failure _ fails =>
      cases fails with
      | nothing => exact admits
      | written buf offset count writable some =>
          have written := writes buf offset rfl
          exact admits.writeAt zero (written.mono (List.take_subset count buf))
      | truncated size writable => exact admits.resize zero size
      | extended size writable => exact admits.resize zero size

theorem Fills.admits {P : Policy} {offset : Nat} {bytes : List UInt8}
    (fills : Fills data offset bytes outcome data') (admits : P.Admits name data) (zero : P name 0)
    (written : P.Admits name bytes) : P.Admits name data' := by
  cases fills with
  | whole =>
      by_cases empty : bytes = []
      · rw [if_pos empty]
        exact admits
      · rw [if_neg empty]
        exact admits.writeAt zero written
  | nothing failure => exact admits
  | part failure count some =>
      exact admits.writeAt zero (written.mono (List.take_subset count bytes))

/-! ## The bytes of independent files -/

/-- A change that brings no bytes of its own. -/
def Entry.Sheds (entry after : Entry) : Prop := after.data ⊆ entry.data

theorem Entry.Sheds.refl (entry : Entry) : entry.Sheds entry := List.Subset.refl _

theorem Entry.Sheds.absent (entry : Entry) : entry.Sheds .absent := List.nil_subset _

theorem Entry.Deletes.sheds {entry after : Entry} {returned : Bool}
    (deletes : entry.Deletes returned after) : entry.Sheds after := by
  cases deletes with
  | gone => exact .absent entry
  | kept => exact .refl entry
  | doubted => exact List.Subset.refl _

theorem Entry.Fades.sheds {entry after : Entry} (fades : entry.Fades after) :
    entry.Sheds after := by
  cases fades with
  | kept => exact .refl entry
  | gone => exact .absent entry
  | doubted there => exact List.Subset.refl _

theorem Entry.Reread.sheds {entry after : Entry} (reread : entry.Reread after) :
    entry.Sheds after := by
  cases reread with
  | absent => exact .absent _
  | dropped durable data => exact .absent _
  | lost data => exact .absent _
  | found durable durable' data kept => exact List.Subset.refl _
  | recovered durable data => exact List.Subset.refl _

theorem Entry.HalfRead.sheds {entry after : Entry} (halfRead : entry.HalfRead after) :
    entry.Sheds after := by
  cases halfRead with
  | kept => exact .refl entry
  | read after reread => exact reread.sheds
  | doubted durable data temporary =>
      rw [temporary]
      exact List.Subset.refl _

namespace Files

inductive Writes (f : Files) : Event → String → List UInt8 → Prop
  | call (i buf offset handle) (there : f.opened[i]? = some handle) :
    Writes f (.call i (.write buf offset)) handle.name buf
  | chunk (offset bytes name data) (there : f.draft = some (name, data)) :
    Writes f (.importWrite 0 offset bytes) name bytes

structure Obeys (f : Files) (P : Policy) : Prop where
  entry : ∀ name, P.Admits name (f.entry name).data
  draft : ∀ name data, f.draft = some (name, data) → P.Admits name data
  source : ∀ name data, f.source = some (name, data) → P.Admits name data

variable {P : Policy}

theorem Obeys.set (obeys : f.Obeys P) {entry : Entry} (admits : P.Admits name entry.data) :
    (f.set name entry).Obeys P where
  entry other := by
    by_cases same : other = name
    · subst same
      change P.Admits other (Function.update f.entry other entry other).data
      rw [Function.update_self]
      exact admits
    · change P.Admits other (Function.update f.entry name entry other).data
      rw [Function.update_of_ne same]
      exact obeys.entry other
  draft := obeys.draft
  source := obeys.source

theorem Obeys.opening (obeys : f.Obeys P) (name : String) (options : OpenOptions) :
    (f.opening name options).Obeys P := ⟨obeys.entry, obeys.draft, obeys.source⟩

theorem Obeys.closing (obeys : f.Obeys P) (i : Nat) : (f.closing i).Obeys P :=
  ⟨obeys.entry, obeys.draft, obeys.source⟩

theorem Obeys.sheds (obeys : f.Obeys P) {after : Entry} (sheds : (f.entry name).Sheds after) :
    (f.set name after).Obeys P :=
  obeys.set ((obeys.entry name).mono sheds)

theorem Obeys.faded (obeys : f.Obeys P) {entry : String → Entry}
    (sheds : ∀ name, (f.entry name).Sheds (entry name)) : Obeys { f with entry } P :=
  ⟨fun name => (obeys.entry name).mono (sheds name), obeys.draft, obeys.source⟩

theorem Obeys.undrafted (obeys : f.Obeys P) : Obeys { f with draft := none } P where
  entry := obeys.entry
  draft name data there := by cases there
  source := obeys.source

theorem Obeys.drafting (obeys : f.Obeys P) (admits : P.Admits name data) :
    Obeys { f with draft := some (name, data) } P where
  entry := obeys.entry
  draft other data' there := by
    cases there
    exact admits
  source := obeys.source

theorem Step.obeys (step : f.Step event outcome f') (obeys : f.Obeys P) (zero : ∀ name, P name 0)
    (writes : ∀ name bytes, f.Writes event name bytes → P.Admits name bytes) : f'.Obeys P := by
  cases step with
  | idle _ nothing => exact obeys
  | refused _ error refusable => exact obeys
  | told _ answer tells => exact obeys
  | managed _ answer manages moves => exact obeys
  | opened request name temporary durable data free named shared there =>
      exact obeys.opening name request.options
  | created request name free create named absent =>
      exact (obeys.set .nil).opening name request.options
  | lost request error name free create named absent => exact obeys.set .nil
  | called i made _ handle temporary durable data data' there present makes =>
      have admits := obeys.entry handle.name
      rw [present] at admits
      refine obeys.set (makes.admits admits (zero _) ?_)
      rintro buf offset rfl
      exact writes _ _ (.call i buf offset handle there)
  | closed i _ handle there keeps => exact obeys.closing i
  | dropped i _ handle after there deletes deleted unopened =>
      have sheds : ((f.closing i).entry handle.name).Sheds after := deleted.sheds
      exact (obeys.closing i).sheds sheds
  | deleted _ _ name after deletes deleted unopened told => exact obeys.sheds deleted.sheds
  | drafted name size free unused => exact obeys.drafting .nil
  | filled offset bytes _ name data data' there fills =>
      have written := writes _ _ (.chunk offset bytes name data there)
      exact obeys.drafting (fills.admits (obeys.draft name data there) (zero name) written)
  | committed name data there absent =>
      have set : (f.set name (.present false true data)).Obeys P :=
        obeys.set (obeys.draft name data there)
      exact set.undrafted
  | mislaid error name data there absent =>
      have set : (f.set name (.uncertain data)).Obeys P := obeys.set (obeys.draft name data there)
      exact set.undrafted
  | discarded _ _ ends there failed => exact obeys.undrafted
  | sourced name temporary durable data free there unopened alone =>
      refine ⟨obeys.entry, obeys.draft, ?_⟩
      intro other bytes same
      cases same
      have admits := obeys.entry name
      rw [there] at admits
      exact admits
  | released there =>
      refine ⟨obeys.entry, obeys.draft, ?_⟩
      intro other bytes same
      cases same
  | shelved _ shelves unused free => exact obeys
  | cleared unused free => exact obeys.faded fun name => .absent _
  | faded error entry unused free faded => exact obeys.faded fun name => (faded name).sheds
  | reread i entry unused free reread => exact obeys.faded fun name => (reread name).sheds
  | halfRead _ i _ entry stops failed unused free halfRead =>
      exact obeys.faded fun name => (halfRead name).sheds

theorem Step.read_admits {i offset count : Nat} {buf bytes : List UInt8}
    (step : f.Step (.call i (.read buf offset)) (.ok (.slot (.read count bytes))) f')
    (obeys : f.Obeys P) :
    ∃ handle, f.opened[i]? = some handle ∧ P.Admits handle.name (bytes.take count) := by
  cases step with
  | told _ answer tells => cases tells
  | managed _ answer manages moves => exact manages.elim
  | called i _ _ handle temporary durable data data' there present makes =>
      refine ⟨handle, there, ?_⟩
      have admits := obeys.entry handle.name
      rw [present] at admits
      cases makes with
      | answered answer _ answers =>
          cases answers with
          | read _ _ taken some =>
              rw [List.take_left]
              exact admits.mono fun byte member => SparseVector.mem_readAt (some.subset member)
  | deleted _ _ name after deletes => simp [Event.Deletes] at deletes
  | discarded _ _ ends => simp [Event.EndsImport] at ends
  | halfRead _ i _ entry stops => simp at stops

theorem Step.export_admits {i offset count : Nat} {buf bytes : List UInt8}
    (step : f.Step (.exportRead i offset buf) (.ok (.bytes count bytes)) f') (obeys : f.Obeys P) :
    i = 0 ∧ ∃ name data, f.source = some (name, data) ∧ P.Admits name (bytes.take count) := by
  cases step with
  | told _ answer tells =>
      cases tells with
      | exportRead _ _ name data taken there some =>
          refine ⟨rfl, name, data, there, ?_⟩
          rw [List.take_left]
          exact (obeys.source name data there).mono fun byte member =>
            SparseVector.mem_readAt (some.subset member)
  | managed _ answer manages moves => exact manages.elim
  | deleted _ _ name after deletes => simp [Event.Deletes] at deletes
  | discarded _ _ ends => simp [Event.EndsImport] at ends
  | halfRead _ i _ entry stops => simp at stops

end Files

/-! ## The bytes of a pool -/

inductive System.Writes (s : System) : Event → String → List UInt8 → Prop
  | call (i buf offset file name) (there : s.files[i]? = some file)
      (named : file.opened = some name) : s.Writes (.call i (.write buf offset)) name buf
  | chunk (i offset bytes file name)
      (there : s.operations[i]? = some (.importing (importTarget file name))) :
    s.Writes (.importWrite i offset bytes) name bytes

def System.Writing (P : Policy) (s : System) (label : Moment × Outcome Failure Answer)
    (s' : System) : Prop :=
  s.Answers label s' ∧ ∀ name bytes, s.Writes label.1.event name bytes → P.Admits name bytes

/-- Wherever the bytes of a file show, each is one that may stand under its name. -/
structure System.Obeys (s : System) (P : Policy) : Prop where
  images : s.world.state = .active → s.world.needsRecovery = false →
    ∀ name data, s.world.imageOf name = some data → P.Admits name data
  stored : ∀ file content name, s.world.directory.lookup file = some content →
    stored content.contents = .ok (some name) → P.Admits name (dataOf content.contents)
  reads : ∀ around i buf offset count bytes s',
    s.Answers (⟨around, .call i (.read buf offset)⟩, .ok (.slot (.read count bytes))) s' →
    ∃ file name, s.files[i]? = some file ∧ file.opened = some name ∧
      P.Admits name (bytes.take count)
  exports : ∀ around i offset buf count bytes s',
    s.Answers (⟨around, .exportRead i offset buf⟩, .ok (.bytes count bytes)) s' →
    ∃ name file size, s.operations[i]? = some (.exporting (exportSource file size)) ∧
      s.world.mapFilenameToFile.lookup name = some file ∧ P.Admits name (bytes.take count)

namespace Depicts

variable {P : Policy} (depicts : Depicts mode s g f)

include depicts

theorem writes {bytes : List UInt8} (writes : f.Writes event name bytes) :
    s.Writes event name bytes := by
  cases writes with
  | call i buf offset handle there =>
      rw [depicts.opened, List.getElem?_map] at there
      obtain ⟨file, found, rfl⟩ := Option.map_eq_some_iff.mp there
      obtain ⟨other, named, -⟩ := depicts.good.live file (List.mem_of_getElem? found)
      rw [VfsFile.view_name named]
      exact .call i bytes offset file other found named
  | chunk offset _ _ data there =>
      obtain ⟨file, alone, -⟩ := depicts.transfers.draft name data there
      refine .chunk 0 offset bytes file name ?_
      rw [alone]
      rfl

theorem obeys_images (obeys : f.Obeys P) (active : s.world.state = .active)
    (healthy : s.world.needsRecovery = false) (image : s.world.imageOf name = some data) :
    P.Admits name data := by
  rw [depicts.good.rep.imageOf_eq (depicts.good.active_loaded active) healthy name,
    ← depicts.entry] at image
  have admits := obeys.entry name
  cases entry : f.entry name with
  | present temporary durable bytes =>
      rw [entry] at image admits
      cases image
      exact admits
  | _ =>
      rw [entry] at image
      cases image

theorem obeys_stored (classified : mode ≠ .lax) (obeys : f.Obeys P) {file : String}
    {content : SlotFile} (found : s.world.directory.lookup file = some content)
    (reading : stored content.contents = .ok (some name)) :
    P.Admits name (dataOf content.contents) := by
  have admits := obeys.entry name
  rcases (depicts.shown classified).stored.sound file content name found reading with
    ⟨durable, present⟩ | uncertain
  · rw [present] at admits
    exact admits
  · rw [uncertain] at admits
    exact admits

theorem obeys_exports (classified : mode ≠ .lax) (obeys : f.Obeys P) {around : Surroundings}
    {i offset count : Nat} {buf bytes : List UInt8}
    (allowed : (⟨around, .exportRead i offset buf⟩ : Moment).Allowed mode)
    (answers : s.Answers (⟨around, .exportRead i offset buf⟩, .ok (.bytes count bytes)) s') :
    ∃ name file size, s.operations[i]? = some (.exporting (exportSource file size)) ∧
      s.world.mapFilenameToFile.lookup name = some file ∧ P.Admits name (bytes.take count) := by
  obtain ⟨g', f', step, -⟩ := depicts.step classified allowed answers.1 answers.2
  obtain ⟨rfl, name, data, there, admits⟩ := step.export_admits obeys
  obtain ⟨file, alone, exporting, -⟩ := depicts.transfers.source name data there
  refine ⟨name, file, data.length, ?_, exporting.mapped, admits⟩
  rw [alone]
  rfl

theorem obeys_reads (classified : mode ≠ .lax) (obeys : f.Obeys P) {around : Surroundings}
    {i offset count : Nat} {buf bytes : List UInt8}
    (allowed : (⟨around, .call i (.read buf offset)⟩ : Moment).Allowed mode)
    (answers : s.Answers
      (⟨around, .call i (.read buf offset)⟩, .ok (.slot (.read count bytes))) s') :
    ∃ file name, s.files[i]? = some file ∧ file.opened = some name ∧
      P.Admits name (bytes.take count) := by
  obtain ⟨g', f', step, -⟩ := depicts.step classified allowed answers.1 answers.2
  obtain ⟨handle, there, admits⟩ := step.read_admits obeys
  rw [depicts.opened, List.getElem?_map] at there
  obtain ⟨file, found, rfl⟩ := Option.map_eq_some_iff.mp there
  obtain ⟨name, named, -⟩ := depicts.good.live file (List.mem_of_getElem? found)
  rw [VfsFile.view_name named] at admits
  exact ⟨file, name, found, named, admits⟩

theorem obeys (obeys : f.Obeys P) (classified : mode = .loose) : s.Obeys P := by
  have here : mode ≠ .lax := by
    rw [classified]
    decide
  refine ⟨?_, ?_, ?_, ?_⟩
  · intro active healthy name data image
    exact depicts.obeys_images obeys active healthy image
  · intro file content name found reading
    exact depicts.obeys_stored here obeys found reading
  · intro around i buf offset count bytes s' answers
    subst classified
    exact depicts.obeys_reads here obeys (Moment.allowed_loose _ (by simp)) answers
  · intro around i offset buf count bytes s' answers
    subst classified
    exact depicts.obeys_exports here obeys (Moment.allowed_loose _ (by simp)) answers

end Depicts

/-- No byte of one file ever shows in another: whatever fails, the bytes under a name are those
that were there at the start, those written under that name, and zeros. -/
theorem pool_keeps_bytes_apart {P : Policy} {config : PoolConfig}
    {directory : AList fun _ : String => SlotFile}
    {labels : List (Moment × Outcome Failure Answer)} (zero : ∀ name, P name 0)
    (installed : InstalledFrom (fun _ => True) config directory name w)
    (initially : ∀ name data, w.imageOf name = some data → P.Admits name data)
    (runs : Runs (System.Writing P) ⟨w, [], []⟩ labels s)
    (classified : ∀ label ∈ labels, Classifies label) : s.Obeys P := by
  have loose : Mode.loose ≠ .lax := by decide
  obtain ⟨g, installed, start⟩ := installed.depicts
  have obeys : Files.Obeys ⟨g.entry, none, none, []⟩ P := by
    refine ⟨?_, ?_, ?_⟩
    · intro name
      have image := initially name
      rw [start.good.rep.imageOf_eq installed.loaded installed.healthy name] at image
      have certain := start.good.rep.healthy installed.loaded installed.healthy name
      change P.Admits name (g.entry name).data
      cases entry : g.entry name with
      | absent => exact .nil
      | present temporary durable data =>
          apply image
          rw [entry]
          rfl
      | uncertain data => exact absurd entry (certain data)
    · intro name data there
      cases there
    · intro name data there
      cases there
  have kept : ∀ s label s', (∃ g f, Depicts .loose s g f ∧ f.Obeys P) → Classifies label →
      System.Writing P s label s' → ∃ g' f', Depicts .loose s' g' f' ∧ f'.Obeys P := by
    rintro s ⟨moment, outcome⟩ s' ⟨g, f, depicts, obeys⟩ here ⟨⟨run, goes⟩, writes⟩
    obtain ⟨g', f', step, depicts'⟩ := depicts.step loose (moment.allowed_loose here) run goes
    have obeys' := step.obeys obeys zero fun name bytes written =>
      writes name bytes (depicts.writes written)
    exact ⟨g', f', depicts', obeys'⟩
  obtain ⟨g, f, depicts, obeys⟩ := runs.invariant kept ⟨g, _, start, obeys⟩ classified
  exact depicts.obeys obeys rfl

def onlyFirst : Policy := fun name byte => byte = 0 ∨ name = "a.db"

/-- A slot that `a.db` has written to is used again for `b.db`, which reads zeros. -/
def reusedCalls : List (Moment × Outcome Failure Answer) :=
  [(⟨untroubled, .openFile ⟨some "a.db", ⟨0x106⟩⟩⟩, .ok (.opened .readWrite)),
    (⟨untroubled, .call 0 (.write [1, 2] 0)⟩, .ok (.slot .done)),
    (⟨untroubled, .closeFile 0⟩, .ok .done),
    (⟨untroubled, .deleteFile "a.db"⟩, .ok .done),
    (⟨untroubled, .openFile ⟨some "b.db", ⟨0x106⟩⟩⟩, .ok (.opened .readWrite)),
    (⟨untroubled, .call 0 (.truncate 2)⟩, .ok (.slot .done)),
    (⟨untroubled, .call 0 (.read [9, 9] 0)⟩, .ok (.slot (.read 2 [0, 0])))]

theorem System.Writes.through {buf bytes : List UInt8} {offset : Nat} {first : String}
    (writes : s.Writes (.call 0 (.write buf offset)) name bytes)
    (there : (s.files[0]?.map VfsFile.opened) = some (some first)) : name = first := by
  cases writes with
  | call _ _ _ file _ found named =>
      rw [found, Option.map_some, named] at there
      cases there
      rfl

set_option maxRecDepth 100000 in
theorem reused_run : ∃ s, Runs (System.Writing onlyFirst) ⟨onePool, [], []⟩ reusedCalls s := by
  have opened : Runs (System.Writing onlyFirst) ⟨onePool, [], []⟩ (reusedCalls.take 1) _ :=
    .single ⟨⟨rfl, by simp⟩, by rintro name bytes ⟨⟩⟩
  have written : Runs (System.Writing onlyFirst) ⟨onePool, [], []⟩ (reusedCalls.take 2) _ :=
    opened.snoc ⟨⟨by with_unfolding_all rfl, by simp⟩, fun name bytes writes byte _ =>
      .inr (writes.through (by with_unfolding_all rfl))⟩
  have closed : Runs (System.Writing onlyFirst) ⟨onePool, [], []⟩ (reusedCalls.take 3) _ :=
    written.snoc ⟨⟨by with_unfolding_all rfl, by simp⟩, by rintro name bytes ⟨⟩⟩
  have deleted : Runs (System.Writing onlyFirst) ⟨onePool, [], []⟩ (reusedCalls.take 4) _ :=
    closed.snoc ⟨⟨by with_unfolding_all rfl, by simp⟩, by rintro name bytes ⟨⟩⟩
  have again : Runs (System.Writing onlyFirst) ⟨onePool, [], []⟩ (reusedCalls.take 5) _ :=
    deleted.snoc ⟨⟨by with_unfolding_all rfl, by simp⟩, by rintro name bytes ⟨⟩⟩
  have longer : Runs (System.Writing onlyFirst) ⟨onePool, [], []⟩ (reusedCalls.take 6) _ :=
    again.snoc ⟨⟨by with_unfolding_all rfl, by simp⟩, by rintro name bytes ⟨⟩⟩
  have read : Runs (System.Writing onlyFirst) ⟨onePool, [], []⟩ reusedCalls _ :=
    longer.snoc ⟨⟨by with_unfolding_all rfl, by simp⟩, by rintro name bytes ⟨⟩⟩
  exact ⟨_, read⟩

theorem pool_keeps_bytes_apart_reused :
    ∃ s, Runs (System.Writing onlyFirst) ⟨onePool, [], []⟩ reusedCalls s ∧ s.Obeys onlyFirst := by
  obtain ⟨s, runs⟩ := reused_run
  have initially : ∀ name data, onePool.imageOf name = some data → onlyFirst.Admits name data := by
    intro name data image
    cases image
  have classified : ∀ label ∈ reusedCalls, Classifies label := by
    intro label member request opens
    simp only [reusedCalls, List.mem_cons, List.not_mem_nil, or_false] at member
    rcases member with rfl | rfl | rfl | rfl | rfl | rfl | rfl
    all_goals cases opens
    all_goals decide
  exact ⟨s, runs, pool_keeps_bytes_apart (fun _ => .inl rfl)
    (onePool_installed.mono fun _ _ => trivial) initially runs classified⟩

end Sahpool

end SqliteVfs
