import Mathlib.Data.List.Basic
import Mathlib.Logic.Function.Basic

/-!
# Names, inodes and tokens

A namespace maps names to inodes and inodes to what they hold.  An inode without
contents was never created.  A `Tokens` list holds the values that callers keep: the
token of a value is its position, which is never given out again.
-/

set_option autoImplicit false

universe u v w

structure Inodes (Name : Type u) (Inode : Type v) (Content : Type w) where
  names : Name → Option Inode
  contents : Inode → Option Content

namespace Inodes

variable {Name : Type u} {Inode : Type v} {Content : Type w}

def Closed (s : Inodes Name Inode Content) : Prop :=
  ∀ name inode, s.names name = some inode → s.contents inode ≠ none

variable {s : Inodes Name Inode Content} {name other : Name} {inode found : Inode}
  {content : Content}

theorem ne_of_fresh (fresh : s.contents inode = none) (created : s.contents found ≠ none) :
    found ≠ inode := by
  rintro rfl
  exact created fresh

/-! ## Names -/

section Names

variable [DecidableEq Name]

def bind (s : Inodes Name Inode Content) (name : Name) (inode : Inode) :
    Inodes Name Inode Content :=
  { s with names := Function.update s.names name (some inode) }

def unbind (s : Inodes Name Inode Content) (name : Name) : Inodes Name Inode Content :=
  { s with names := Function.update s.names name none }

@[simp] theorem names_bind_self : (s.bind name inode).names name = some inode :=
  Function.update_self _ _ _

@[simp] theorem names_unbind_self : (s.unbind name).names name = none :=
  Function.update_self _ _ _

theorem names_bind_ne (different : other ≠ name) :
    (s.bind name inode).names other = s.names other := Function.update_of_ne different _ _

theorem names_unbind_ne (different : other ≠ name) :
    (s.unbind name).names other = s.names other := Function.update_of_ne different _ _

/-- A name that leads somewhere after a binding led there before, or to the inode bound. -/
theorem names_bind_eq (bound : (s.bind name inode).names other = some found) :
    s.names other = some found ∨ found = inode := by
  by_cases same : other = name
  · subst same
    rw [names_bind_self] at bound
    exact .inr (Option.some.inj bound).symm
  · rw [names_bind_ne same] at bound
    exact .inl bound

theorem names_unbind_eq (bound : (s.unbind name).names other = some found) :
    s.names other = some found := by
  by_cases same : other = name
  · subst same
    rw [names_unbind_self] at bound
    exact nomatch bound
  · rwa [names_unbind_ne same] at bound

theorem Closed.bind (closed : s.Closed) (created : s.contents inode ≠ none) :
    (s.bind name inode).Closed := by
  intro other found bound
  rcases names_bind_eq bound with bound | rfl
  · exact closed other found bound
  · exact created

end Names

def unbindAll (s : Inodes Name Inode Content) : Inodes Name Inode Content :=
  { s with names := fun _ => none }

/-! ## Contents -/

section Contents

variable [DecidableEq Inode]

def hold (s : Inodes Name Inode Content) (inode : Inode) (content : Content) :
    Inodes Name Inode Content :=
  { s with contents := Function.update s.contents inode (some content) }

@[simp] theorem contents_hold_self : (s.hold inode content).contents inode = some content :=
  Function.update_self _ _ _

theorem contents_hold_ne (different : found ≠ inode) :
    (s.hold inode content).contents found = s.contents found :=
  Function.update_of_ne different _ _

theorem contents_hold_iff :
    (s.hold inode content).contents found ≠ none ↔ found = inode ∨ s.contents found ≠ none := by
  by_cases same : found = inode
  · subst same
    simp
  · rw [contents_hold_ne same]
    simp [same]

theorem contents_hold_ne_none (created : s.contents found ≠ none) :
    (s.hold inode content).contents found ≠ none := contents_hold_iff.mpr (.inr created)

theorem hold_eq_self (held : s.contents inode = some content) : s.hold inode content = s := by
  unfold hold
  rw [← held, Function.update_eq_self]

theorem Closed.hold (closed : s.Closed) : (s.hold inode content).Closed :=
  fun other found bound => contents_hold_ne_none (closed other found bound)

end Contents

end Inodes

/-! ## Tokens -/

/-- The values that were handed out, in order; `none` where one was given back. -/
abbrev Tokens (α : Type u) : Type u := List (Option α)

namespace Tokens

variable {α : Type u} {tokens : Tokens α} {token other : Nat} {value found : α}

def find (tokens : Tokens α) (token : Nat) : Option α := (tokens[token]?).join

def issue (tokens : Tokens α) (value : α) : Tokens α := tokens ++ [some value]

def retire (tokens : Tokens α) (token : Nat) : Tokens α := tokens.set token none

def replace (tokens : Tokens α) (token : Nat) (value : α) : Tokens α :=
  tokens.set token (some value)

theorem find_eq_some : tokens.find token = some value ↔ tokens[token]? = some (some value) := by
  unfold find
  rcases tokens[token]? with _ | _ | found <;> simp

theorem find_issue_cases (held : (tokens.issue value).find token = some found) :
    tokens.find token = some found ∨ token = tokens.length ∧ found = value := by
  unfold issue at held
  rw [find_eq_some] at held
  by_cases old : token < tokens.length
  · rw [List.getElem?_append_left old] at held
    exact .inl (find_eq_some.mpr held)
  · rw [List.getElem?_append_right (by omega)] at held
    obtain ⟨bound, same⟩ := List.getElem?_eq_some_iff.mp held
    rw [List.length_singleton] at bound
    simp only [List.getElem_singleton, Option.some.injEq] at same
    exact .inr ⟨by omega, same.symm⟩

theorem find_retire_cases (held : (tokens.retire token).find other = some found) :
    other ≠ token ∧ tokens.find other = some found := by
  unfold retire at held
  rw [find_eq_some] at held
  by_cases same : other = token
  · subst same
    rw [List.getElem?_set] at held
    simp only [if_true] at held
    split at held
    · exact nomatch held
    · exact nomatch held
  · rw [List.getElem?_set_ne (Ne.symm same)] at held
    exact ⟨same, find_eq_some.mpr held⟩

theorem find_replace_cases (held : (tokens.replace token value).find other = some found) :
    other = token ∧ found = value ∨ other ≠ token ∧ tokens.find other = some found := by
  unfold replace at held
  rw [find_eq_some] at held
  by_cases same : other = token
  · subst same
    obtain ⟨inside, here⟩ := List.getElem?_eq_some_iff.mp held
    rw [List.getElem_set_self] at here
    exact .inl ⟨rfl, (Option.some.inj here).symm⟩
  · rw [List.getElem?_set_ne (Ne.symm same)] at held
    exact .inr ⟨same, find_eq_some.mpr held⟩

theorem find_replace_self (held : tokens.find token = some found) :
    (tokens.replace token value).find token = some value := by
  obtain ⟨inside, -⟩ := List.getElem?_eq_some_iff.mp (find_eq_some.mp held)
  exact find_eq_some.mpr (List.getElem?_set_self inside)

/-! ### Views of the values -/

section View

variable {β : Type w} {f : α → β}

def view (f : α → β) (tokens : Tokens α) : Tokens β := tokens.map (Option.map f)

theorem find_view : (tokens.view f).find token = (tokens.find token).map f := by
  unfold view find
  rw [List.getElem?_map]
  rcases tokens[token]? with _ | _ | value <;> rfl

theorem view_issue : (tokens.issue value).view f = (tokens.view f).issue (f value) := by
  unfold view issue
  rw [List.map_append]
  rfl

theorem view_retire : (tokens.retire token).view f = (tokens.view f).retire token := by
  unfold view retire
  rw [List.map_set]
  rfl

theorem view_replace (held : tokens.find token = some found) (same : f value = f found) :
    (tokens.replace token value).view f = tokens.view f := by
  unfold view replace
  obtain ⟨inside, here⟩ := List.getElem?_eq_some_iff.mp (find_eq_some.mp held)
  rw [List.map_set, Option.map_some, same]
  refine List.ext_getElem (List.length_set ..) fun i bound bound' => ?_
  rw [List.getElem_set]
  split
  · rename_i at_token
    subst at_token
    rw [List.getElem_map, here]
    rfl
  · rfl

end View

end Tokens
