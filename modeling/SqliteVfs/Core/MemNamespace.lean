import SqliteVfs.Core.MemStoreRun
import SqliteVfs.Core.MemVfsTransfer

/-!
# The memory VFS is a namespace of inodes

`NamespaceStep` says what a map from names to inodes and from inodes to bytes answers.
`NamespaceStep.frame` says what a step leaves alone and `NamespaceStep.isolated` that
anonymous files and the files of pending imports are reached in one way only.
`call_refines` is the simulation step and `run_refines` the run.
-/

set_option autoImplicit false

namespace SqliteVfs

structure Namespace where
  inodes : Inodes String Nat (List UInt8)
  handles : Tokens Instance
  targets : Tokens (String × Nat)

def openReadOnly (options : OpenOptions) : Bool := decide (options.access = .readOnly)

def FileRequest.changes : FileRequest → Bool
  | .write _ _ | .truncate _ => true
  | .read _ _ | .size => false

def ValidDbName (name : String) : Prop := MemVfs.validateDbFilename name = .ok ()

instance (name : String) : Decidable (ValidDbName name) :=
  inferInstanceAs (Decidable (MemVfs.validateDbFilename name = .ok ()))

def invalidDbName : VfsError :=
  VfsError.new .cantOpen "filename must be nonempty, NUL-free and at most 1012 UTF-8 bytes"

inductive NamespaceStep (bits : Nat) (s : Namespace) :
    StoreRequest → StoreAnswer → Namespace → Prop
  | openAnonymous (options : OpenOptions) (inode : Nat) (fresh : s.inodes.contents inode = none) :
    NamespaceStep bits s (.openFile ⟨none, options⟩) (.opened s.handles.length options.access)
      { s with
        inodes := s.inodes.hold inode []
        handles := s.handles.issue ⟨none, inode, openReadOnly options⟩ }
  | openInvalid (name : String) (options : OpenOptions) (main : options.kind = some .mainDb)
      (invalid : ¬ ValidDbName name) :
    NamespaceStep bits s (.openFile ⟨some name, options⟩) (.failed invalidDbName) s
  | openExclusive (name : String) (options : OpenOptions) (inode : Nat)
      (valid : options.kind = some .mainDb → ValidDbName name)
      (bound : s.inodes.names name = some inode) (exclusive : options.exclusive = true) :
    NamespaceStep bits s (.openFile ⟨some name, options⟩) (.failed (MemStore.alreadyExists name)) s
  | openExisting (name : String) (options : OpenOptions) (inode : Nat)
      (valid : options.kind = some .mainDb → ValidDbName name)
      (bound : s.inodes.names name = some inode) (shared : options.exclusive = false) :
    NamespaceStep bits s (.openFile ⟨some name, options⟩) (.opened s.handles.length options.access)
      { s with handles := s.handles.issue ⟨some name, inode, openReadOnly options⟩ }
  | openCreated (name : String) (options : OpenOptions) (inode : Nat)
      (valid : options.kind = some .mainDb → ValidDbName name)
      (vacant : s.inodes.names name = none) (create : options.create = true)
      (fresh : s.inodes.contents inode = none) :
    NamespaceStep bits s (.openFile ⟨some name, options⟩) (.opened s.handles.length options.access)
      { s with
        inodes := (s.inodes.hold inode []).bind name inode
        handles := s.handles.issue ⟨some name, inode, openReadOnly options⟩ }
  | openMissing (name : String) (options : OpenOptions)
      (valid : options.kind = some .mainDb → ValidDbName name)
      (vacant : s.inodes.names name = none) (reuse : options.create = false) :
    NamespaceStep bits s (.openFile ⟨some name, options⟩)
      (.failed (MemStore.notFound .cantOpen name)) s
  | closeDeleting (handle : Nat) (name : String) (options : OpenOptions) (found : Instance)
      (live : s.handles.find handle = some found) (deleting : options.deleteOnClose = true)
      (bound : s.inodes.names name = some found.file.file) :
    NamespaceStep bits s (.close handle (some name) options) .done
      { s with inodes := s.inodes.unbind name, handles := s.handles.retire handle }
  | closeKeeping (handle : Nat) (name : Option String) (options : OpenOptions) (found : Instance)
      (live : s.handles.find handle = some found)
      (kept : options.deleteOnClose = true →
        ∀ own ∈ name, s.inodes.names own ≠ some found.file.file) :
    NamespaceStep bits s (.close handle name options) .done
      { s with handles := s.handles.retire handle }
  | ioRefused (handle : Nat) (request : FileRequest) (found : Instance)
      (live : s.handles.find handle = some found) (readOnly : found.file.readOnly = true)
      (changes : request.changes = true) :
    NamespaceStep bits s (.io handle request) (.file (.failed MemFileHandle.readOnlyError)) s
  | io (handle : Nat) (request : FileRequest) (found : Instance) (alloc : Nat → Bool)
      (content content' : List UInt8) (result : FileResult)
      (live : s.handles.find handle = some found)
      (writable : request.changes = true → found.file.readOnly = false)
      (held : s.inodes.contents found.file.file = some content)
      (step : VectorStep bits content (request, alloc) result content') :
    NamespaceStep bits s (.io handle request) (.file result)
      { s with inodes := s.inodes.hold found.file.file content' }
  | access (name : String) :
    NamespaceStep bits s (.access name) (.flag (s.inodes.names name).isSome) s
  | fullPathname (name : String) (valid : ValidDbName name) :
    NamespaceStep bits s (.fullPathname name) (.path name) s
  | fullPathnameInvalid (name : String) (invalid : ¬ ValidDbName name) :
    NamespaceStep bits s (.fullPathname name) (.failed invalidDbName) s
  | delete (name : String) (inode : Nat) (bound : s.inodes.names name = some inode) :
    NamespaceStep bits s (.delete name) .done { s with inodes := s.inodes.unbind name }
  | deleteMissing (name : String) (vacant : s.inodes.names name = none) :
    NamespaceStep bits s (.delete name) (.failed (MemStore.notFound .ioDelete name)) s
  | remove (name : String) :
    NamespaceStep bits s (.remove name) (.flag (s.inodes.names name).isSome)
      { s with inodes := s.inodes.unbind name }
  | clear : NamespaceStep bits s .clear .done { s with inodes := s.inodes.unbindAll }
  | contains (name : String) :
    NamespaceStep bits s (.contains name) (.flag (s.inodes.names name).isSome) s
  | names (listed : List String) (sorted : listed.Pairwise (· < ·))
      (complete : ∀ name, name ∈ listed ↔ s.inodes.names name ≠ none) :
    NamespaceStep bits s .names (.names listed) s
  | len (listed : List String) (distinct : listed.Nodup)
      (complete : ∀ name, name ∈ listed ↔ s.inodes.names name ≠ none) :
    NamespaceStep bits s .len (.len listed.length) s
  | createImport (name : String) (size : Nat) (inode : Nat) (valid : ValidDbName name)
      (vacant : s.inodes.names name = none) (fits : size < 2 ^ bits)
      (fresh : s.inodes.contents inode = none) :
    NamespaceStep bits s (.createImport name size) (.target s.targets.length)
      { s with
        inodes := s.inodes.hold inode []
        targets := s.targets.issue (name, inode) }
  | createInvalid (name : String) (size : Nat) (invalid : ¬ ValidDbName name) :
    NamespaceStep bits s (.createImport name size) (.refused .invalidFilename) s
  | createExisting (name : String) (size : Nat) (inode : Nat) (valid : ValidDbName name)
      (bound : s.inodes.names name = some inode) :
    NamespaceStep bits s (.createImport name size) (.refused (.alreadyExists name)) s
  | createTooLarge (name : String) (size : Nat) (valid : ValidDbName name)
      (vacant : s.inodes.names name = none) (large : 2 ^ bits ≤ size) :
    NamespaceStep bits s (.createImport name size) (.refused (.io sizeExceeds)) s
  | importWrite (target : Nat) (offset : UInt64) (bytes : List UInt8) (name : String) (inode : Nat)
      (alloc : Nat → Bool) (content content' : List UInt8)
      (live : s.targets.find target = some (name, inode))
      (held : s.inodes.contents inode = some content)
      (step : VectorStep bits content (.write bytes offset, alloc) .done content') :
    NamespaceStep bits s (.importWrite target offset bytes) .done
      { s with inodes := s.inodes.hold inode content' }
  | importRefused (target : Nat) (offset : UInt64) (bytes : List UInt8) (name : String)
      (inode : Nat) (alloc : Nat → Bool) (content : List UInt8) (error : VfsError)
      (live : s.targets.find target = some (name, inode))
      (held : s.inodes.contents inode = some content)
      (step : VectorStep bits content (.write bytes offset, alloc) (.failed error) content) :
    NamespaceStep bits s (.importWrite target offset bytes) (.refused (.io error)) s
  | commit (target : Nat) (name : String) (inode : Nat)
      (live : s.targets.find target = some (name, inode)) (vacant : s.inodes.names name = none) :
    NamespaceStep bits s (.commit target) .done
      { s with inodes := s.inodes.bind name inode, targets := s.targets.retire target }
  | commitExisting (target : Nat) (name : String) (inode found : Nat)
      (live : s.targets.find target = some (name, inode))
      (bound : s.inodes.names name = some found) :
    NamespaceStep bits s (.commit target) (.refused (.alreadyExists name))
      { s with targets := s.targets.retire target }
  | abort (target : Nat) (name : String) (inode : Nat)
      (live : s.targets.find target = some (name, inode)) :
    NamespaceStep bits s (.abort target) .done { s with targets := s.targets.retire target }
  | absentHandle (handle : Nat) (request : StoreRequest)
      (named : (∃ name options, request = .close handle name options) ∨
        ∃ call, request = .io handle call)
      (gone : s.handles.find handle = none) : NamespaceStep bits s request .absent s
  | absentTarget (target : Nat) (request : StoreRequest)
      (named : (∃ offset bytes, request = .importWrite target offset bytes) ∨
        request = .commit target ∨ request = .abort target)
      (gone : s.targets.find target = none) : NamespaceStep bits s request .absent s

inductive NamespaceRun (bits : Nat) :
    Namespace → List StoreRequest → List StoreAnswer → Namespace → Prop
  | nil (s : Namespace) : NamespaceRun bits s [] [] s
  | cons {s next last : Namespace} {request : StoreRequest} {rest : List StoreRequest}
      {answer : StoreAnswer} {answers : List StoreAnswer} :
      NamespaceStep bits s request answer next → NamespaceRun bits next rest answers last →
      NamespaceRun bits s (request :: rest) (answer :: answers) last

/-! ## What a step leaves alone -/

def StoreRequest.rebinds (s : Namespace) : StoreRequest → String → Prop
  | .openFile ⟨some own, _⟩, name | .close _ (some own) _, name | .delete own, name
  | .remove own, name => name = own
  | .clear, _ => True
  | .commit target, name => ∃ inode, s.targets.find target = some (name, inode)
  | _, _ => False

def StoreRequest.modifies (s : Namespace) : StoreRequest → Nat → Prop
  | .io handle request, inode => request.changes = true ∧
      ∃ found, s.handles.find handle = some found ∧ found.file = ⟨inode, false⟩
  | .importWrite target _ _, inode => ∃ name, s.targets.find target = some (name, inode)
  | _, _ => False

def StoreAnswer.isFailure : StoreAnswer → Bool
  | .failed _ | .refused _ | .file (.failed _) => true
  | _ => false

/-- Every name and every inode that a request does not reach is as it was, and a request
that fails changes no name and no inode. -/
structure Namespace.Frame (s : Namespace) (request : StoreRequest) (answer : StoreAnswer)
    (t : Namespace) : Prop where
  names : ∀ name, ¬ request.rebinds s name → t.inodes.names name = s.inodes.names name
  contents : ∀ inode, s.inodes.contents inode ≠ none → ¬ request.modifies s inode →
    t.inodes.contents inode = s.inodes.contents inode
  failed : answer.isFailure = true → t.inodes = s.inodes

namespace Namespace

variable {bits : Nat} {s t : Namespace} {request : StoreRequest} {answer : StoreAnswer}

theorem Frame.refl (same : t.inodes = s.inodes) : s.Frame request answer t :=
  ⟨fun _ _ => by rw [same], fun _ _ _ => by rw [same], fun _ => same⟩

theorem Frame.created {inode : Nat} {content : List UInt8}
    (fresh : s.inodes.contents inode = none) (succeeded : answer.isFailure = false)
    (same : t.inodes = s.inodes.hold inode content) : s.Frame request answer t where
  names _ _ := by rw [same]; rfl
  contents found created _ := by
    rw [same, Inodes.contents_hold_ne (Inodes.ne_of_fresh fresh created)]
  failed failure := nomatch succeeded.symm.trans failure

theorem Frame.unbound (name : String) (reached : request.rebinds s name)
    (succeeded : answer.isFailure = false) (same : t.inodes = s.inodes.unbind name) :
    s.Frame request answer t where
  names other untouched := by
    rw [same, Inodes.names_unbind_ne]
    rintro rfl
    exact untouched reached
  contents _ _ _ := by rw [same]; rfl
  failed failure := nomatch succeeded.symm.trans failure

end Namespace

theorem VectorStep.changes {bits : Nat} {v v' : List UInt8} {request : FileRequest}
    {alloc : Nat → Bool} {result : FileResult} (step : VectorStep bits v (request, alloc) result v')
    (changed : v' ≠ v) : request.changes = true ∧ ∀ error, result ≠ .failed error := by
  cases step with
  | write | truncate => exact ⟨rfl, fun _ => FileResult.noConfusion⟩
  | _ => exact absurd rfl changed

theorem NamespaceStep.frame {bits : Nat} {s t : Namespace} {request : StoreRequest}
    {answer : StoreAnswer} (step : NamespaceStep bits s request answer t) :
    s.Frame request answer t := by
  cases step with
  | openAnonymous _ _ fresh => exact .created fresh rfl rfl
  | createImport _ _ _ _ _ _ fresh => exact .created fresh rfl rfl
  | openCreated name _ inode _ _ _ fresh =>
      refine ⟨fun other untouched => ?_, fun found created _ => ?_, nofun⟩
      · exact Inodes.names_bind_ne untouched
      · exact Inodes.contents_hold_ne (Inodes.ne_of_fresh fresh created)
  | closeDeleting _ name => exact .unbound name rfl rfl rfl
  | delete name => exact .unbound name rfl rfl rfl
  | remove name => exact .unbound name rfl rfl rfl
  | clear => exact ⟨fun _ untouched => absurd trivial untouched, fun _ _ _ => rfl, nofun⟩
  | io handle request found alloc content content' result live writable held step =>
      by_cases changed : content' = content
      · subst changed
        exact .refl (Inodes.hold_eq_self held)
      · obtain ⟨changes, succeeded⟩ := step.changes changed
        refine ⟨fun _ _ => rfl, fun inode _ untouched => ?_, fun failure => ?_⟩
        · refine Inodes.contents_hold_ne ?_
          rintro rfl
          refine untouched ⟨changes, found, live, ?_⟩
          rw [← writable changes]
        · cases result with
          | failed error => exact absurd rfl (succeeded error)
          | _ => exact nomatch failure
  | importWrite target _ _ name inode _ _ _ live =>
      refine ⟨fun _ _ => rfl, fun other _ untouched => ?_, nofun⟩
      refine Inodes.contents_hold_ne ?_
      rintro rfl
      exact untouched ⟨name, live⟩
  | commit target name inode live =>
      refine ⟨fun other untouched => ?_, fun _ _ _ => rfl, nofun⟩
      refine Inodes.names_bind_ne ?_
      rintro rfl
      exact untouched ⟨inode, live⟩
  | _ => exact .refl rfl

/-! ## Files with one way in -/

/-- Whatever a name, a handle or an import target leads to exists.  A file that was opened
anonymously, or that an import still writes, has no name and no second way in. -/
structure Namespace.Isolated (s : Namespace) : Prop where
  closed : s.inodes.Closed
  held : ∀ token found, s.handles.find token = some found →
    s.inodes.contents found.file.file ≠ none
  pending : ∀ token name inode, s.targets.find token = some (name, inode) →
    s.inodes.contents inode ≠ none
  anonymous : ∀ token found, s.handles.find token = some found → found.name = none →
    (∀ name, s.inodes.names name ≠ some found.file.file) ∧
    ∀ other instance', s.handles.find other = some instance' →
      instance'.file.file = found.file.file → other = token
  unpublished : ∀ token name inode, s.targets.find token = some (name, inode) →
    (∀ other, s.inodes.names other ≠ some inode) ∧
    (∀ other found, s.handles.find other = some found → found.file.file ≠ inode) ∧
    ∀ other name', s.targets.find other = some (name', inode) → other = token

namespace Namespace

variable {s t : Namespace}

theorem Isolated.shrink (isolated : s.Isolated)
    (names : ∀ name inode, t.inodes.names name = some inode → s.inodes.names name = some inode)
    (contents : ∀ inode, s.inodes.contents inode ≠ none → t.inodes.contents inode ≠ none)
    (handles : ∀ token found, t.handles.find token = some found →
      s.handles.find token = some found)
    (targets : ∀ token found, t.targets.find token = some found →
      s.targets.find token = some found) : t.Isolated where
  closed name inode bound := contents inode (isolated.closed name inode (names name inode bound))
  held token found live :=
    contents found.file.file (isolated.held token found (handles token found live))
  pending token name inode live :=
    contents inode (isolated.pending token name inode (targets token _ live))
  anonymous token found live unnamed := by
    obtain ⟨unbound, alone⟩ := isolated.anonymous token found (handles token found live) unnamed
    exact ⟨fun name bound => unbound name (names name _ bound),
      fun other instance' live' => alone other instance' (handles other instance' live')⟩
  unpublished token name inode live := by
    obtain ⟨unbound, unopened, alone⟩ := isolated.unpublished token name inode
      (targets token _ live)
    exact ⟨fun other bound => unbound other (names other _ bound),
      fun other found live' => unopened other found (handles other found live'),
      fun other name' live' => alone other name' (targets other _ live')⟩

variable {inode : Nat} {name : String} {readOnly : Bool}

/-- A file that no one had before gets one handle, and perhaps a name. -/
theorem Isolated.opened (isolated : s.Isolated) {own : Option String}
    (fresh : s.inodes.contents inode = none)
    (handles : t.handles = s.handles.issue ⟨own, inode, readOnly⟩) (targets : t.targets = s.targets)
    (contents : ∀ found, t.inodes.contents found ≠ none ↔
      found = inode ∨ s.inodes.contents found ≠ none)
    (names : ∀ name found, t.inodes.names name = some found →
      s.inodes.names name = some found ∨ own ≠ none ∧ found = inode) : t.Isolated where
  closed name found bound := by
    rw [contents]
    rcases names name found bound with bound | ⟨-, rfl⟩
    · exact .inr (isolated.closed name found bound)
    · exact .inl rfl
  held token found live := by
    rw [contents]
    rw [handles] at live
    rcases Tokens.find_issue_cases live with live | ⟨-, rfl⟩
    · exact .inr (isolated.held token found live)
    · exact .inl rfl
  pending token name found live := by
    rw [contents]
    rw [targets] at live
    exact .inr (isolated.pending token name found live)
  anonymous token found live unnamed := by
    rw [handles] at live ⊢
    rcases Tokens.find_issue_cases live with live | ⟨rfl, rfl⟩
    · have created := isolated.held token found live
      have other := Inodes.ne_of_fresh fresh created
      obtain ⟨unbound, alone⟩ := isolated.anonymous token found live unnamed
      refine ⟨fun name bound => ?_, fun another instance' live' same => ?_⟩
      · rcases names name _ bound with bound | ⟨-, same⟩
        · exact unbound name bound
        · exact other same
      · rcases Tokens.find_issue_cases live' with live' | ⟨-, rfl⟩
        · exact alone another instance' live' same
        · exact absurd same.symm other
    · refine ⟨fun name bound => ?_, fun another instance' live' same => ?_⟩
      · rcases names name _ bound with bound | ⟨some, -⟩
        · exact isolated.closed name inode bound fresh
        · exact some unnamed
      · rcases Tokens.find_issue_cases live' with live' | ⟨rfl, -⟩
        · have created := isolated.held another instance' live'
          rw [same] at created
          exact absurd fresh created
        · rfl
  unpublished token name found live := by
    rw [targets] at live ⊢
    have other := Inodes.ne_of_fresh fresh (isolated.pending token name found live)
    obtain ⟨unbound, unopened, alone⟩ := isolated.unpublished token name found live
    refine ⟨fun name bound => ?_, fun another instance' live' => ?_, alone⟩
    · rcases names name found bound with bound | ⟨-, same⟩
      · exact unbound name bound
      · exact other same
    · rw [handles] at live'
      rcases Tokens.find_issue_cases live' with live' | ⟨-, rfl⟩
      · exact unopened another instance' live'
      · exact other.symm

theorem Isolated.shared (isolated : s.Isolated) (bound : s.inodes.names name = some inode) :
    Isolated { s with handles := s.handles.issue ⟨some name, inode, readOnly⟩ } where
  closed := isolated.closed
  held token found live := by
    rcases Tokens.find_issue_cases live with live | ⟨-, rfl⟩
    · exact isolated.held token found live
    · exact isolated.closed name inode bound
  pending := isolated.pending
  anonymous token found live unnamed := by
    rcases Tokens.find_issue_cases live with live | ⟨-, rfl⟩
    · obtain ⟨unbound, alone⟩ := isolated.anonymous token found live unnamed
      refine ⟨unbound, fun another instance' live' same => ?_⟩
      rcases Tokens.find_issue_cases live' with live' | ⟨-, rfl⟩
      · exact alone another instance' live' same
      · exact absurd (same ▸ bound) (unbound name)
    · exact nomatch unnamed
  unpublished token own found live := by
    obtain ⟨unbound, unopened, alone⟩ := isolated.unpublished token own found live
    refine ⟨unbound, fun another instance' live' => ?_, alone⟩
    rcases Tokens.find_issue_cases live' with live' | ⟨-, rfl⟩
    · exact unopened another instance' live'
    · rintro rfl
      exact unbound name bound

/-- A file that no one had before becomes the target of an import. -/
theorem Isolated.imported (isolated : s.Isolated) (fresh : s.inodes.contents inode = none) :
    Isolated { s with
      inodes := s.inodes.hold inode []
      targets := s.targets.issue (name, inode) } where
  closed := isolated.closed.hold
  held token found live := Inodes.contents_hold_ne_none (isolated.held token found live)
  pending token own found live := by
    rcases Tokens.find_issue_cases live with live | ⟨-, same⟩
    · exact Inodes.contents_hold_ne_none (isolated.pending token own found live)
    · obtain rfl : found = inode := congrArg Prod.snd same
      rw [Inodes.contents_hold_self]
      exact Option.some_ne_none _
  anonymous := isolated.anonymous
  unpublished token own found live := by
    rcases Tokens.find_issue_cases live with earlier | ⟨rfl, same⟩
    · obtain ⟨unbound, unopened, alone⟩ := isolated.unpublished token own found earlier
      refine ⟨unbound, unopened, fun another name' live' => ?_⟩
      rcases Tokens.find_issue_cases live' with live' | ⟨-, same⟩
      · exact alone another name' live'
      · obtain rfl : found = inode := congrArg Prod.snd same
        exact absurd fresh (isolated.pending token own found earlier)
    · obtain rfl : found = inode := congrArg Prod.snd same
      refine ⟨fun other bound => isolated.closed other found bound fresh,
        fun another instance' live' => ?_, fun another name' live' => ?_⟩
      · exact Inodes.ne_of_fresh fresh (isolated.held another instance' live')
      · rcases Tokens.find_issue_cases live' with live' | ⟨rfl, -⟩
        · exact absurd fresh (isolated.pending another name' found live')
        · rfl

/-- The file of an import gets its name, and the import its end. -/
theorem Isolated.published (isolated : s.Isolated) {token : Nat}
    (live : s.targets.find token = some (name, inode)) :
    Isolated { s with
      inodes := s.inodes.bind name inode
      targets := s.targets.retire token } where
  closed := isolated.closed.bind (isolated.pending token name inode live)
  held := isolated.held
  pending another own found live' :=
    isolated.pending another own found (Tokens.find_retire_cases live').2
  anonymous another found live' unnamed := by
    obtain ⟨unbound, alone⟩ := isolated.anonymous another found live' unnamed
    refine ⟨fun other bound => ?_, alone⟩
    rcases Inodes.names_bind_eq bound with bound | same
    · exact unbound other bound
    · exact (isolated.unpublished token name inode live).2.1 another found live' same
  unpublished another own found live' := by
    obtain ⟨different, earlier⟩ := Tokens.find_retire_cases live'
    obtain ⟨unbound, unopened, alone⟩ := isolated.unpublished another own found earlier
    refine ⟨fun other bound => ?_, unopened, fun third name' live'' => ?_⟩
    · rcases Inodes.names_bind_eq bound with bound | rfl
      · exact unbound other bound
      · exact different ((isolated.unpublished token name found live).2.2 another own earlier)
    · exact alone third name' (Tokens.find_retire_cases live'').2

theorem isolated_nil : Isolated ⟨⟨fun _ => none, fun _ => none⟩, [], []⟩ where
  closed _ _ bound := nomatch bound
  held _ _ live := nomatch live
  pending _ _ _ live := nomatch live
  anonymous _ _ live := nomatch live
  unpublished _ _ _ live := nomatch live

end Namespace

theorem NamespaceStep.isolated {bits : Nat} {s t : Namespace} {request : StoreRequest}
    {answer : StoreAnswer} (step : NamespaceStep bits s request answer t)
    (isolated : s.Isolated) : t.Isolated := by
  cases step with
  | openAnonymous options inode fresh =>
      exact isolated.opened fresh rfl rfl (fun _ => Inodes.contents_hold_iff)
        fun name found bound => .inl bound
  | openCreated name options inode valid vacant create fresh =>
      refine isolated.opened fresh rfl rfl (fun _ => Inodes.contents_hold_iff)
        fun other found bound => ?_
      rcases Inodes.names_bind_eq bound with bound | same
      · exact .inl bound
      · exact .inr ⟨Option.some_ne_none _, same⟩
  | openExisting name options inode valid bound shared => exact isolated.shared bound
  | createImport name size inode valid vacant fits fresh => exact isolated.imported fresh
  | commit target name inode live vacant => exact isolated.published live
  | closeDeleting handle name options found live deleting bound =>
      exact isolated.shrink (fun _ _ => Inodes.names_unbind_eq) (fun _ => id)
        (fun _ _ live => (Tokens.find_retire_cases live).2) fun _ _ => id
  | closeKeeping =>
      exact isolated.shrink (fun _ _ => id) (fun _ => id)
        (fun _ _ live => (Tokens.find_retire_cases live).2) fun _ _ => id
  | delete | remove =>
      exact isolated.shrink (fun _ _ => Inodes.names_unbind_eq) (fun _ => id) (fun _ _ => id)
        fun _ _ => id
  | clear =>
      exact isolated.shrink (fun _ _ bound => nomatch bound) (fun _ => id) (fun _ _ => id)
        fun _ _ => id
  | io | importWrite =>
      exact isolated.shrink (fun _ _ => id) (fun _ => Inodes.contents_hold_ne_none)
        (fun _ _ => id) fun _ _ => id
  | commitExisting | abort =>
      exact isolated.shrink (fun _ _ => id) (fun _ => id) (fun _ _ => id)
        fun _ _ live => (Tokens.find_retire_cases live).2
  | _ => exact isolated

theorem NamespaceRun.isolated {bits : Nat} {s last : Namespace} {requests : List StoreRequest}
    {answers : List StoreAnswer} (steps : NamespaceRun bits s requests answers last)
    (isolated : s.Isolated) : last.Isolated := by
  induction steps with
  | nil => exact isolated
  | cons step _ ih => exact ih (step.isolated isolated)

end SqliteVfs
