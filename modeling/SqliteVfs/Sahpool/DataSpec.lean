import SqliteVfs.Sahpool.NamesSpec
import SqliteVfs.Sahpool.System

/-!
# What calls on the data of a file do

The calls of a file handle, the writes of an import and the reads of an export, with any
answers of the browser: a write may land in part even where headers may not.
-/

set_option autoImplicit false

namespace SqliteVfs

namespace Sahpool

variable {mode : Mode} {reach : String → Prop} {w w' : World} {g g' : Ledger}
  {file name : String} {content content' : SlotFile} {ε ε' α β : Type}

theorem Reply.allowed_torn (torn : mode.Torn) (reply : Reply) : reply.Allowed mode := by
  have loud : mode ≠ .quiet := by
    rintro rfl
    rcases torn with impossible | impossible <;> cases impossible
  cases reply with
  | done => trivial
  | short count => exact ⟨loud, fun sound => absurd torn sound⟩
  | thrown _ landed | crash landed =>
      refine ⟨loud, ?_⟩
      cases landed with
      | part count => exact fun sound => absurd torn sound
      | nothing => trivial
      | everything => trivial

theorem Reply.allowed_lax (reply : Reply) : reply.Allowed .lax := reply.allowed_torn (.inr rfl)

def World.Reached (w : World) (file : String) (content content' : SlotFile) (w' : World) : Prop :=
  (w' = w ∧ content' = content) ∨ ∃ replies, w' = w.after file content' replies

theorem World.Reached.there (reached : w.Reached file content content' w')
    (found : w.directory.lookup file = some content) :
    w'.directory.lookup file = some content' := by
  rcases reached with ⟨rfl, rfl⟩ | ⟨replies, rfl⟩
  · exact found
  · exact AList.lookup_insert _

/-- The last call on the slot decides. -/
theorem World.Reached.after (reached : w.Reached file content content' w')
    (content'' : SlotFile) (replies : List Reply) :
    w'.after file content'' replies = w.after file content'' replies := by
  rcases reached with ⟨rfl, -⟩ | ⟨replies', rfl⟩
  · rfl
  · exact World.after_after _ _ _ _ _ _

/-- `x` leads to a world where one slot has changed as `effect` allows. -/
def Affects (effect : SlotFile → Prop) (file : String) (content : SlotFile)
    (x : Prog World ε α) (w : World) : Prop :=
  Prog.Ends x w (fun _ w' => ∃ content', effect content' ∧ w.Reached file content content' w')
    (fun _ w' => ∃ content', effect content' ∧ w.Reached file content content' w')
    fun w' => ∃ content', effect content' ∧ w.Reached file content content' w'

namespace Affects

variable {effect : SlotFile → Prop} {x : Prog World ε α}

theorem early {value : α} (still : effect content) :
    Affects effect file content (pure value : Prog World ε α) w :=
  Prog.Ends.pure ⟨content, still, .inl ⟨rfl, rfl⟩⟩

theorem refused {error : ε} (still : effect content) :
    Affects effect file content (Prog.fail error : Prog World ε α) w :=
  Prog.Ends.fail ⟨content, still, .inl ⟨rfl, rfl⟩⟩

theorem onSlot {x : SlotM ε α} (found : w.directory.lookup file = some content)
    (does : Does .lax x ⟨content, w.env.replies⟩ (fun _ file => effect file) effect) :
    Affects effect file content (Sahpool.onSlot file x) w := by
  refine (onSlot_ends found does).mono ?_ ?_ ?_
  · rintro _ w' ⟨content', replies, -, rfl, holds⟩
    exact ⟨content', holds, .inr ⟨replies, rfl⟩⟩
  · rintro _ w' ⟨content', replies, -, rfl, holds⟩
    exact ⟨content', holds, .inr ⟨replies, rfl⟩⟩
  · rintro w' ⟨content', replies, rfl, holds⟩
    exact ⟨content', holds, .inr ⟨replies, rfl⟩⟩

theorem mapErr {f : ε → ε'} (affects : Affects effect file content x w) :
    Affects effect file content (Prog.mapErr f x) w :=
  Prog.Ends.mapErr affects

theorem answer {f : α → β} (affects : Affects effect file content x w) :
    Affects effect file content (x >>= fun value => pure (f value)) w :=
  Prog.Ends.bind affects fun _ _ holds => Prog.Ends.pure holds

end Affects

/-! ## File handles -/

inductive FileCall.Effect (readOnly : Bool) (content : SlotFile) : FileCall → SlotFile → Prop
  | nothing (call) : Effect readOnly content call content
  | flushed : Effect readOnly content .sync content.flush
  | written (buf offset count) (writable : readOnly = false)
      (inside : InRange offset buf.length) (some : buf.take count ≠ []) :
    Effect readOnly content (.write buf offset)
      (content.write (offset + headerOffsetData) (buf.take count))
  | truncated (size) (writable : readOnly = false) (inside : InRange size 0) :
    Effect readOnly content (.truncate size) (content.truncate (size + headerOffsetData))
  | extended (size) (writable : readOnly = false) (inside : InRange size 0) :
    Effect readOnly content (.sizeHint size) (content.truncate (size + headerOffsetData))

theorem lax_replies (replies : List Reply) : ∀ reply ∈ replies, Reply.Allowed .lax reply :=
  fun reply _ => reply.allowed_lax

theorem truncate_affects {self : SyncAccessFileHandle} {size : Nat} {effect : SlotFile → Prop}
    (found : w.directory.lookup self.file = some content) (still : effect content)
    (truncated : self.readOnly = false → InRange size 0 →
      effect (content.truncate (size + headerOffsetData))) :
    Affects effect self.file content (self.truncate size) w := by
  by_cases readOnly : self.readOnly = true
  · rw [truncate_readOnly readOnly]
    exact .refused still
  have writable := Bool.eq_false_iff.mpr readOnly
  by_cases inside : InRange size 0
  · rw [truncate_inside writable inside]
    have done := truncated writable inside
    refine .onSlot found (Does.mapErr ((truncate_does (lax_replies _) _).mono ?_ ?_))
    · rintro _ _ rfl
      exact done
    · rintro _ ⟨-, rfl | rfl⟩
      · exact still
      · exact done
  · rw [truncate_beyond writable inside]
    exact .refused still

theorem physicalSize_still {opaqueName : String} {replies : List Reply} :
    Does .lax (SyncAccessFile.physicalSize opaqueName) ⟨content, replies⟩
      (fun _ file => file = content) fun file => file = content :=
  (physicalSize_does (lax_replies _) opaqueName).mono (fun _ _ holds => holds.1)
    fun _ holds => holds.1

theorem size_still {opaqueName : String} {replies : List Reply} :
    Does .lax (SyncAccessFile.size opaqueName) ⟨content, replies⟩
      (fun _ file => file = content) fun file => file = content := by
  refine Does.mapErr (Does.bind physicalSize_still ?_)
  rintro size file replies rest rfl
  exact Does.ite (fun _ => Does.fail rest rfl) fun _ => Does.pure rest rfl

theorem size_affects {self : SyncAccessFileHandle}
    (found : w.directory.lookup self.file = some content) :
    Affects (fun content' => content' = content) self.file content self.size w :=
  .onSlot found size_still

theorem FileCall.affects (call : FileCall) (self : SyncAccessFileHandle)
    (found : w.directory.lookup self.file = some content) :
    Affects (call.Effect self.readOnly content) self.file content
    (call.request self).program w := by
  cases call with
  | read buf offset =>
      refine Affects.answer (Affects.mapErr ?_)
      by_cases empty : buf = []
      · subst empty
        exact .early (.nothing _)
      by_cases inside : InRange offset buf.length
      · rw [read_inside empty inside]
        refine .mapErr (.onSlot found ((readAt_does (lax_replies _) _ _).mono ?_ ?_))
        · rintro _ _ ⟨rfl, -⟩
          exact .nothing _
        · rintro _ ⟨-, rfl⟩
          exact .nothing _
      · rw [read_beyond empty inside]
        exact .refused (.nothing _)
  | write buf offset =>
      refine Affects.answer (Affects.mapErr ?_)
      by_cases readOnly : self.readOnly = true
      · rw [write_readOnly readOnly]
        exact .refused (.nothing _)
      have writable := Bool.eq_false_iff.mpr readOnly
      by_cases empty : buf = []
      · subst empty
        rw [write_empty writable]
        exact .early (.nothing _)
      by_cases inside : InRange offset buf.length
      · rw [write_inside writable empty inside]
        have landed (count : Nat) : FileCall.Effect self.readOnly content (.write buf offset)
            (content.write (offset + headerOffsetData) (buf.take count)) := by
          by_cases some : buf.take count = []
          · rw [some, SlotFile.write_nil]
            exact .nothing _
          · exact .written buf offset count writable inside some
        refine .mapErr (.onSlot found ((writeAt_does (lax_replies _) _ _).mono ?_ ?_))
        · rintro _ _ rfl
          have whole := landed buf.length
          rw [List.take_length] at whole
          exact whole
        · rintro _ ⟨-, _, ⟨count, rfl, -⟩, rfl⟩
          exact landed count
      · rw [write_beyond writable empty inside]
        exact .refused (.nothing _)
  | truncate size =>
      refine Affects.answer (Affects.mapErr (truncate_affects found (.nothing _) ?_))
      exact fun writable inside => .truncated size writable inside
  | sizeHint size =>
      refine Affects.answer (Affects.mapErr ?_)
      unfold SyncAccessFileHandle.sizeHint
      refine Prog.Ends.bind_of (size_affects found) ?_ ?_ ?_
      · rintro current next ⟨content, rfl, reached⟩
        have there : next.directory.lookup self.file = some content := by
          rcases reached with ⟨rfl, -⟩ | ⟨replies, rfl⟩
          · exact found
          · exact AList.lookup_insert _
        -- What is reached from there is reached from here.
        have onward {last : World} : (∃ content', FileCall.Effect self.readOnly content
              (.sizeHint size) content' ∧ next.Reached self.file content content' last) →
            ∃ content', FileCall.Effect self.readOnly content (.sizeHint size) content' ∧
              w.Reached self.file content content' last := by
          rintro ⟨content', effect, ⟨rfl, rfl⟩ | ⟨replies, rfl⟩⟩
          · exact ⟨_, effect, reached⟩
          · refine ⟨content', effect, .inr ?_⟩
            rcases reached with ⟨rfl, -⟩ | ⟨replies', rfl⟩
            · exact ⟨replies, rfl⟩
            · exact ⟨replies, World.after_after _ _ _ _ _ _⟩
        by_cases large : current < size
        · dsimp only
          rw [if_pos large]
          have resized : Affects (FileCall.Effect self.readOnly content (.sizeHint size)) self.file
              content (self.truncate size) next :=
            truncate_affects there (.nothing _) fun writable inside =>
              .extended size writable inside
          refine Prog.Ends.bind_of resized ?_ (fun _ _ holds => onward holds) fun _ holds =>
            onward holds
          intro _ last holds
          exact Prog.Ends.pure (onward holds)
        · dsimp only
          rw [if_neg large]
          exact Prog.Ends.pure ⟨content, .nothing _, reached⟩
      · rintro _ next ⟨_, rfl, reached⟩
        exact ⟨_, .nothing _, reached⟩
      · rintro next ⟨_, rfl, reached⟩
        exact ⟨_, .nothing _, reached⟩
  | sync =>
      refine Affects.answer (Affects.mapErr (.mapErr (.onSlot found
        ((flush_does (lax_replies _)).mono ?_ ?_))))
      · rintro _ _ rfl
        exact .flushed
      · rintro _ ⟨-, rfl | rfl⟩
        · exact .nothing _
        · exact .flushed
  | size =>
      refine Affects.answer (Affects.mapErr (.onSlot found (size_still.mono ?_ ?_)))
      · rintro _ _ rfl
        exact .nothing _
      · rintro _ rfl
        exact .nothing _

/-- A call through a handle moves the pool within the name of its file. -/
theorem Rep.call (rep : Rep mode w g) (mapped : w.mapFilenameToFile.lookup name = some file)
    (inUse : w.openCount file ≠ 0) (found : w.directory.lookup file = some content)
    {readOnly : Bool} {call : FileCall} (effect : call.Effect readOnly content content') :
    ∃ g', Evolves mode (Only name) w g { w with directory := w.directory.insert file content' } g' ∧
      g'.staging = g.staging ∧ ∃ f, g'.entry name = (g.entry name).map f := by
  have held := mem_held_mapped mapped
  have same : g.entry name = (g.entry name).map id := (Entry.map_id _).symm
  cases effect with
  | nothing =>
      exact ⟨g, .move rep (.touch w g file content held found) (fun _ _ => rfl)
        fun _ other _ _ => apart_touch found other, rfl, id, same⟩
  | flushed =>
      exact ⟨g, .move rep (.flush w g file content held found) (fun _ _ => rfl)
        (rep.apart_mapped mapped (only_self name)), rfl, id, same⟩
  | written buf offset count writable inside some =>
      have bounded : offset + headerOffsetData + (buf.take count).length ≤ maxSafeInteger := by
        have whole := inRange_iff.mp inside
        have := List.length_take_le' count buf
        omega
      refine ⟨_, .move rep (.write w g name file content offset _ mapped inUse found bounded some)
        ?_ (rep.apart_mapped mapped (only_self name)), ?_,
        fun data => SparseVector.writeAt data offset (buf.take count), ?_⟩
      · intro other outside
        unfold Ledger.write
        rw [if_neg some]
        exact update_outside (only_self _) _ other outside
      · unfold Ledger.write
        rw [if_neg some]
        rfl
      · unfold Ledger.write
        rw [if_neg some]
        exact Function.update_self _ _ _
  | truncated size writable inside =>
      exact ⟨_, .move rep (.resize w g name file content size mapped inUse found
        (inRange_iff.mp inside)) (update_outside (only_self _) _)
        (rep.apart_mapped mapped (only_self name)), rfl,
        fun data => SparseVector.resize data size, Function.update_self _ _ _⟩
  | extended size writable inside =>
      exact ⟨_, .move rep (.resize w g name file content size mapped inUse found
        (inRange_iff.mp inside)) (update_outside (only_self _) _)
        (rep.apart_mapped mapped (only_self name)), rfl,
        fun data => SparseVector.resize data size, Function.update_self _ _ _⟩

/-! ## Imports and exports -/

def Filled (content : SlotFile) (offset : Nat) (bytes : List UInt8) (content' : SlotFile) : Prop :=
  content' = content ∨ (InRange offset bytes.length ∧
    ∃ count, content' = content.write (offset + headerOffsetData) (bytes.take count))

theorem importWrite_ends (offset : Nat) (bytes : List UInt8)
    (found : w.directory.lookup file = some content) :
    Prog.Ends (ImportTarget.writeAt file offset bytes) w
      (fun _ w' => InRange offset bytes.length ∧
        w.Reached file content (content.write (offset + headerOffsetData) bytes) w')
      (fun _ w' => ∃ content', Filled content offset bytes content' ∧
        w.Reached file content content' w')
      fun w' => ∃ content', Filled content offset bytes content' ∧
        w.Reached file content content' w' := by
  unfold ImportTarget.writeAt
  by_cases inside : InRange offset bytes.length
  · rw [physicalOffset_inside inside]
    refine (onSlot_ends found (writeAt_does (lax_replies _) bytes _)).mono ?_ ?_ ?_
    · rintro _ w' ⟨_, replies, -, rfl, rfl⟩
      exact ⟨inside, .inr ⟨replies, rfl⟩⟩
    · rintro _ w' ⟨_, replies, -, rfl, -, _, ⟨count, rfl, -⟩, rfl⟩
      exact ⟨_, .inr ⟨inside, count, rfl⟩, .inr ⟨replies, rfl⟩⟩
    · rintro w' ⟨_, replies, rfl, -, _, ⟨count, rfl, -⟩, rfl⟩
      exact ⟨_, .inr ⟨inside, count, rfl⟩, .inr ⟨replies, rfl⟩⟩
  · rw [physicalOffset_beyond inside]
    exact Prog.Ends.fail ⟨content, .inl rfl, .inl ⟨rfl, rfl⟩⟩

theorem exportRead_affects (offset : Nat) (buf : List UInt8)
    (found : w.directory.lookup file = some content) :
    Affects (fun content' => content' = content) file content (exportReadAt file offset buf) w := by
  unfold exportReadAt
  by_cases inside : InRange offset buf.length
  · rw [physicalOffset_inside inside]
    exact .onSlot found ((readAt_does (lax_replies _) _ _).mono (fun _ _ holds => holds.1)
      fun _ holds => holds.2)
  · rw [physicalOffset_beyond inside]
    exact .refused rfl

/-- A write of an import moves the pool to one where the import holds more. -/
theorem Rep.filled (rep : Rep mode w g) {data : List UInt8}
    (staging : g.staging = some (file, data)) (found : w.directory.lookup file = some content)
    {offset : Nat} {bytes : List UInt8} (filled : Filled content offset bytes content') :
    ∃ data', Evolves mode reach w g { w with directory := w.directory.insert file content' }
      (g.stage file data') := by
  have member := List.mem_of_getLast? (rep.staged file data staging).1
  have still : Evolves mode reach w g { w with directory := w.directory.insert file content }
      (g.stage file data) := by
    have same : g.stage file data = g := by
      obtain ⟨⟩ := g
      cases staging
      rfl
    rw [same]
    exact .move rep (.touch w g file content (mem_held_available member) found) (fun _ _ => rfl)
      fun _ other _ _ => apart_touch found other
  rcases filled with rfl | ⟨inside, count, rfl⟩
  · exact ⟨data, still⟩
  by_cases some : bytes.take count = []
  · rw [some, SlotFile.write_nil]
    exact ⟨data, still⟩
  have bounded : offset + headerOffsetData + (bytes.take count).length ≤ maxSafeInteger := by
    have whole := inRange_iff.mp inside
    have := List.length_take_le' count bytes
    omega
  exact ⟨_, .move rep (.fill w g file data content offset _ staging found bounded some)
    (fun _ _ => rfl) (rep.apart_available member)⟩

end Sahpool

end SqliteVfs
