import SqliteVfs.Base.Runs
import SqliteVfs.Base.Sittings
import SqliteVfs.Core.MemStoreSpec

/-!
# Delete-on-close in the memory VFS

The memory VFS takes the name away from a file when the first of its handles that asks for
it is closed.  A file that has lost its name does not get one again.
-/

set_option autoImplicit false

namespace SqliteVfs

/-- A session as SQLite drives it, with the options that each handle was opened with. -/
structure MemSystem where
  session : StoreSession
  options : Nat → OpenOptions

namespace MemSystem

def start : MemSystem := ⟨.start, fun _ => ⟨0⟩⟩

def Passes (s : MemSystem) : StoreRequest → Prop
  | .close handle name options => ∀ found, s.session.handles.find handle = some found →
    name = found.name ∧ options = s.options handle
  | _ => True

def kept (options : Nat → OpenOptions) : StoreRequest → StoreAnswer → Nat → OpenOptions
  | .openFile request, .opened handle _ => Function.update options handle request.options
  | _, _ => options

variable (bits : Nat) (alloc : Nat → Nat → Bool)

def Step (s : MemSystem) (request : StoreRequest) (s' : MemSystem) : Prop :=
  s.Passes request ∧ ∃ answer, s.session.call bits alloc request = some (answer, s'.session) ∧
    s'.options = kept s.options request answer

def Arises (s : MemSystem) : Prop := ∃ requests, Runs (Step bits alloc) start requests s

/-- A named file, with its handles and the flags that they close with. -/
def handleStore : HandleStore MemSystem Nat String where
  handles s inode := s.session.handles.countP fun entry =>
    entry.any fun found => decide (found.file.file = inode)
  names s name := s.session.data.files.lookup name
  Step s s' := ∃ request, s.Step bits alloc request s'
  Close inode mark s s' := ∃ handle found name, s.session.handles.find handle = some found ∧
    found.file.file = inode ∧ found.name = some name ∧ (s.options handle).deleteOnClose = mark ∧
    s.Step bits alloc (.close handle (some name) (s.options handle)) s'
  Usable s inode := inode < s.session.data.cells.length
  Recycled _ _ := True

end MemSystem

/-! ## Files with one name -/

namespace Namespace

variable {s t : Namespace} {name : String} {inode : Nat}

/-- An inode has one name at most, which is the one that its handles were opened under. -/
structure Single (s : Namespace) : Prop where
  names : ∀ name other inode, s.inodes.names name = some inode →
    s.inodes.names other = some inode → name = other
  own : ∀ token found name other, s.handles.find token = some found → found.name = some name →
    s.inodes.names other = some found.file.file → other = name

theorem Single.shrink (single : s.Single)
    (names : ∀ name inode, t.inodes.names name = some inode → s.inodes.names name = some inode)
    (handles : ∀ token found, t.handles.find token = some found → found.name = none ∨
      s.handles.find token = some found) : t.Single where
  names name other inode bound bound' :=
    single.names name other inode (names _ _ bound) (names _ _ bound')
  own token found name other live named bound := by
    rcases handles token found live with unnamed | live
    · exact nomatch unnamed.symm.trans named
    · exact single.own token found name other live named (names _ _ bound)

/-- An inode that nothing leads to gets its name, and perhaps a handle. -/
theorem Single.bound (single : s.Single) (nameless : ∀ other, s.inodes.names other ≠ some inode)
    (unheld : ∀ token found, s.handles.find token = some found → found.file.file ≠ inode)
    (names : t.inodes.names = (s.inodes.bind name inode).names)
    (handles : ∀ token found, t.handles.find token = some found →
      s.handles.find token = some found ∨ found.name = some name ∧ found.file.file = inode) :
    t.Single := by
  have here (other : String) (bound : t.inodes.names other = some inode) : other = name := by
    by_contra different
    rw [names, Inodes.names_bind_ne different] at bound
    exact nameless other bound
  have before (other : String) (found : Nat) (different : found ≠ inode)
      (bound : t.inodes.names other = some found) : s.inodes.names other = some found := by
    rw [names] at bound
    exact (Inodes.names_bind_eq bound).resolve_right different
  refine ⟨fun first second found bound bound' => ?_,
    fun token found own other live named bound => ?_⟩
  · by_cases same : found = inode
    · subst same
      exact (here first bound).trans (here second bound').symm
    · exact single.names first second found (before first found same bound)
        (before second found same bound')
  · rcases handles token found live with live | ⟨opened, same⟩
    · have different := unheld token found live
      exact single.own token found own other live named (before other _ different bound)
    · rw [same] at bound
      exact (here other bound).trans (Option.some.inj (opened.symm.trans named))

end Namespace

theorem NamespaceStep.single {bits : Nat} {s t : Namespace} {request : StoreRequest}
    {answer : StoreAnswer} (step : NamespaceStep bits s request answer t)
    (isolated : s.Isolated) (single : s.Single) : t.Single := by
  cases step with
  | openAnonymous options inode fresh =>
      refine single.shrink (fun _ _ => id) fun token found live => ?_
      rcases Tokens.find_issue_cases live with live | ⟨-, rfl⟩
      · exact .inr live
      · exact .inl rfl
  | openExisting name options inode valid bound shared =>
      refine ⟨single.names, fun token found own other live named bound' => ?_⟩
      rcases Tokens.find_issue_cases live with live | ⟨-, rfl⟩
      · exact single.own token found own other live named bound'
      · exact (single.names other name inode bound' bound).trans (Option.some.inj named)
  | openCreated name options inode valid vacant create fresh =>
      have nameless (other : String) : s.inodes.names other ≠ some inode :=
        fun bound => isolated.closed other inode bound fresh
      have unheld (token : Nat) (found : Instance) (live : s.handles.find token = some found) :
          found.file.file ≠ inode := Inodes.ne_of_fresh fresh (isolated.held token found live)
      refine single.bound nameless unheld rfl ?_
      · intro token found live
        rcases Tokens.find_issue_cases live with live | ⟨-, rfl⟩
        · exact .inl live
        · exact .inr ⟨rfl, rfl⟩
  | commit target name inode live vacant =>
      obtain ⟨nameless, unheld, -⟩ := isolated.unpublished target name inode live
      exact single.bound nameless unheld rfl fun _ _ => .inl
  | closeDeleting handle name options found live deleting bound =>
      exact single.shrink (fun _ _ => Inodes.names_unbind_eq)
        fun _ _ live => .inr (Tokens.find_retire_cases live).2
  | closeKeeping =>
      exact single.shrink (fun _ _ => id) fun _ _ live => .inr (Tokens.find_retire_cases live).2
  | delete | remove =>
      exact single.shrink (fun _ _ => Inodes.names_unbind_eq) fun _ _ => .inr
  | clear => exact single.shrink (fun _ _ bound => nomatch bound) fun _ _ => .inr
  | _ => exact single.shrink (fun _ _ => id) fun _ _ => .inr

/-! ## Files that have lost their name -/

namespace Namespace

variable {s t : Namespace} {inode : Nat}

structure Unlinked (s : Namespace) (inode : Nat) : Prop where
  created : s.inodes.contents inode ≠ none
  nameless : ∀ name, s.inodes.names name ≠ some inode
  unclaimed : ∀ token name, s.targets.find token ≠ some (name, inode)

theorem Unlinked.mono (unlinked : s.Unlinked inode)
    (contents : s.inodes.contents inode ≠ none → t.inodes.contents inode ≠ none)
    (names : ∀ name, t.inodes.names name = some inode → s.inodes.names name = some inode)
    (targets : ∀ token name, t.targets.find token = some (name, inode) →
      s.targets.find token = some (name, inode)) : t.Unlinked inode where
  created := contents unlinked.created
  nameless name bound := unlinked.nameless name (names name bound)
  unclaimed token name live := unlinked.unclaimed token name (targets token name live)

end Namespace

theorem NamespaceStep.unlinked {bits : Nat} {s t : Namespace} {request : StoreRequest}
    {answer : StoreAnswer} {inode : Nat} (step : NamespaceStep bits s request answer t)
    (unlinked : s.Unlinked inode) : t.Unlinked inode := by
  cases step with
  | openAnonymous options fresh =>
      exact unlinked.mono Inodes.contents_hold_ne_none (fun _ => id) fun _ _ => id
  | openCreated name options inode' valid vacant create fresh =>
      refine unlinked.mono Inodes.contents_hold_ne_none (fun other bound => ?_) fun _ _ => id
      rcases Inodes.names_bind_eq bound with bound | rfl
      · exact bound
      · exact absurd fresh unlinked.created
  | createImport name size inode' valid vacant fits fresh =>
      refine unlinked.mono Inodes.contents_hold_ne_none (fun _ => id) fun token own live => ?_
      rcases Tokens.find_issue_cases live with live | ⟨-, same⟩
      · exact live
      · obtain rfl : inode = inode' := congrArg Prod.snd same
        exact absurd fresh unlinked.created
  | commit target name inode' live vacant =>
      refine unlinked.mono id (fun other bound => ?_) fun _ _ live =>
        (Tokens.find_retire_cases live).2
      rcases Inodes.names_bind_eq bound with bound | rfl
      · exact bound
      · exact absurd live (unlinked.unclaimed target name)
  | closeDeleting => exact unlinked.mono id (fun _ => Inodes.names_unbind_eq) fun _ _ => id
  | delete | remove => exact unlinked.mono id (fun _ => Inodes.names_unbind_eq) fun _ _ => id
  | clear => exact unlinked.mono id (fun _ bound => nomatch bound) fun _ _ => id
  | io | importWrite =>
      exact unlinked.mono Inodes.contents_hold_ne_none (fun _ => id) fun _ _ => id
  | commitExisting | abort =>
      exact unlinked.mono id (fun _ => id) fun _ _ live => (Tokens.find_retire_cases live).2
  | _ => exact unlinked.mono id (fun _ => id) fun _ _ => id

section Closing

variable {bits : Nat} {s t : Namespace} {answer : StoreAnswer} {handle : Nat} {name : String}
  {options : OpenOptions} {found : Instance}

theorem NamespaceStep.close_cases
    (step : NamespaceStep bits s (.close handle (some name) options) answer t)
    (live : s.handles.find handle = some found) :
    t.inodes.contents = s.inodes.contents ∧ t.targets = s.targets ∧
      ((options.deleteOnClose = true ∧ s.inodes.names name = some found.file.file ∧
          t.inodes.names = (s.inodes.unbind name).names) ∨
        (t.inodes.names = s.inodes.names ∧
          (options.deleteOnClose = true → s.inodes.names name ≠ some found.file.file))) := by
  cases step with
  | closeDeleting _ _ _ found' live' deleting bound =>
      obtain rfl : found = found' := Option.some.inj (live.symm.trans live')
      exact ⟨rfl, rfl, .inl ⟨deleting, bound, rfl⟩⟩
  | closeKeeping _ _ _ found' live' kept =>
      obtain rfl : found = found' := Option.some.inj (live.symm.trans live')
      exact ⟨rfl, rfl, .inr ⟨rfl, fun deleting => kept deleting name rfl⟩⟩
  | absentHandle _ _ absent gone =>
      rcases absent with ⟨_, _, same⟩ | ⟨_, impossible⟩
      · cases same
        exact nomatch live.symm.trans gone
      · exact nomatch impossible
  | absentTarget _ _ named _ =>
      rcases named with ⟨_, _, impossible⟩ | impossible | impossible <;> exact nomatch impossible

/-- Closing a handle that asks for it takes the name away. -/
theorem NamespaceStep.unlinks
    (step : NamespaceStep bits s (.close handle (some name) options) answer t)
    (isolated : s.Isolated) (single : s.Single) (live : s.handles.find handle = some found)
    (named : found.name = some name) (deleting : options.deleteOnClose = true) :
    t.Unlinked found.file.file := by
  obtain ⟨contents, targets, result⟩ := step.close_cases live
  refine ⟨?_, fun other bound => ?_, fun token own pending => ?_⟩
  · rw [contents]
    exact isolated.held handle found live
  · rcases result with ⟨-, -, names⟩ | ⟨names, kept⟩
    · rw [names] at bound
      obtain rfl := single.own handle found name other live named (Inodes.names_unbind_eq bound)
      rw [Inodes.names_unbind_self] at bound
      exact nomatch bound
    · rw [names] at bound
      obtain rfl := single.own handle found name other live named bound
      exact kept deleting bound
  · rw [targets] at pending
    exact (isolated.unpublished token own _ pending).2.1 handle found live rfl

theorem NamespaceStep.spares
    (step : NamespaceStep bits s (.close handle (some name) options) answer t)
    (live : s.handles.find handle = some found) (other : String) {inode : Nat}
    (different : inode ≠ found.file.file) :
    t.inodes.names other = some inode ↔ s.inodes.names other = some inode := by
  obtain ⟨-, -, ⟨-, bound, names⟩ | ⟨names, -⟩⟩ := step.close_cases live
  · rw [names]
    by_cases same : other = name
    · subst same
      rw [Inodes.names_unbind_self, bound]
      exact iff_of_false nofun fun same => different (Option.some.inj same).symm
    · rw [Inodes.names_unbind_ne same]
  · rw [names]

end Closing

/-! ## Runs -/

namespace MemSystem

variable {bits : Nat} {alloc : Nat → Nat → Bool} {s s' : MemSystem} {request : StoreRequest}
  {inode : Nat}

structure Good (bits : Nat) (s : MemSystem) : Prop where
  session : StoreSession.Good bits s.session
  single : s.session.toNamespace.Single

theorem good_start (bits : Nat) : Good bits start where
  session := StoreSession.good_start bits
  single := ⟨fun _ _ _ bound => (nomatch bound), fun _ _ _ _ live => (nomatch live)⟩

theorem Good.step (good : Good bits s) (step : s.Step bits alloc request s') :
    Good bits s' ∧ ∃ answer, NamespaceStep bits s.session.toNamespace request answer
      s'.session.toNamespace := by
  obtain ⟨-, answer, called, -⟩ := step
  obtain ⟨answer', next, called', sound, namespaceStep⟩ :=
    StoreSession.call_refines alloc good.session request
  obtain ⟨rfl, rfl⟩ := Prod.mk.inj (Option.some.inj (called.symm.trans called'))
  refine ⟨⟨⟨sound, namespaceStep.isolated good.session.isolated⟩, ?_⟩, answer, namespaceStep⟩
  exact namespaceStep.single good.session.isolated good.single

def Unlinked (s : MemSystem) (inode : Nat) : Prop := s.session.toNamespace.Unlinked inode

theorem Arises.good (arises : s.Arises bits alloc) : Good bits s := by
  obtain ⟨requests, runs⟩ := arises
  refine runs.invariant (P := Good bits) (A := fun _ => True) ?_ (good_start bits)
    fun _ _ => trivial
  exact fun s request s' good _ step => (good.step step).1

theorem arises_start (bits : Nat) (alloc : Nat → Nat → Bool) : Arises bits alloc start :=
    ⟨[], .refl⟩

theorem Arises.opened (arises : s.Arises bits alloc) (request : OpenRequest) {answer : StoreAnswer}
    {next : StoreSession}
    (called : s.session.call bits alloc (.openFile request) = some (answer, next)) :
    Arises bits alloc ⟨next, kept s.options (.openFile request) answer⟩ := by
  obtain ⟨requests, runs⟩ := arises
  have step : s.Step bits alloc (.openFile request) ⟨next, kept s.options _ answer⟩ :=
    ⟨trivial, answer, called, rfl⟩
  exact ⟨_, runs.snoc step⟩

theorem Arises.closed (arises : s.Arises bits alloc) (handle : Nat) {found : Instance}
    {name : String} {answer : StoreAnswer} {next : StoreSession}
    (live : s.session.handles.find handle = some found) (named : found.name = some name)
    (called : s.session.call bits alloc (.close handle (some name) (s.options handle)) =
      some (answer, next)) : Arises bits alloc ⟨next, s.options⟩ ∧
      (handleStore bits alloc).Close found.file.file (s.options handle).deleteOnClose s
        ⟨next, s.options⟩ := by
  have step : s.Step bits alloc (.close handle (some name) (s.options handle))
      ⟨next, s.options⟩ := by
    refine ⟨fun found' live' => ⟨?_, rfl⟩, answer, called, rfl⟩
    rw [← Option.some.inj (live.symm.trans live'), named]
  obtain ⟨requests, runs⟩ := arises
  exact ⟨⟨_, runs.snoc step⟩, handle, found, name, live, rfl, named, rfl, step⟩

theorem Good.usable (good : Good bits s) (held : (handleStore bits alloc).handles s inode ≠ 0) :
    (handleStore bits alloc).Usable s inode := by
  obtain ⟨entry, member, here⟩ := List.countP_pos_iff.mp (Nat.pos_of_ne_zero held)
  obtain ⟨found, rfl, same⟩ : ∃ found, entry = some found ∧ found.file.file = inode := by
    cases entry with
    | none => exact nomatch here
    | some found => exact ⟨found, rfl, of_decide_eq_true here⟩
  subst same
  obtain ⟨token, bound, there⟩ := List.mem_iff_getElem.mp member
  have live : s.session.handles.find token = some found :=
    Tokens.find_eq_some.mpr (List.getElem?_eq_some_iff.mpr ⟨bound, there⟩)
  have created := good.session.isolated.held token found live
  by_contra outside
  refine created ?_
  change (s.session.data.cells[found.file.file]?).map MemChunksFile.contents = none
  rw [List.getElem?_eq_none (Nat.le_of_not_lt outside), Option.map_none]

/-- The memory VFS honours the flags of any handles on a named file. -/
theorem honours {start last : MemSystem} {marks : List Bool} (good : Good bits start)
    (sitting : (handleStore bits alloc).Sitting inode start marks last) :
    (handleStore bits alloc).Honours inode marks last := by
  have steps (s s' : MemSystem) (good : Good bits s)
      (once : (handleStore bits alloc).Step s s') :
      Good bits s' ∧ (s.Unlinked inode → s'.Unlinked inode) := by
    obtain ⟨request, step⟩ := once
    obtain ⟨good', answer, step⟩ := good.step step
    exact ⟨good', step.unlinked⟩
  have closes (mark : Bool) (s s' : MemSystem) (good : Good bits s)
      (closed : (handleStore bits alloc).Close inode mark s s') :
      Good bits s' ∧ (s.Unlinked inode ∨ mark = true → s'.Unlinked inode) := by
    obtain ⟨handle, found, name, live, rfl, named, rfl, step⟩ := closed
    obtain ⟨good', answer, step⟩ := good.step step
    refine ⟨good', fun before => ?_⟩
    rcases before with before | deleting
    · exact step.unlinked before
    · exact step.unlinks good.session.isolated good.single live named deleting
  obtain ⟨good, unlinked⟩ := sitting.of_marked steps closes good
  refine ⟨fun _ marked => ⟨(unlinked marked).nameless, trivial⟩, ?_, fun _ => good.usable⟩
  rintro mark next ⟨handle, found, name, live, rfl, -, -, step⟩ other file different
  obtain ⟨-, answer, step⟩ := good.step step
  exact step.spares live other different

end MemSystem

end SqliteVfs
