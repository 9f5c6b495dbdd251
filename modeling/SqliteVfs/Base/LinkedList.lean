import Mathlib.Data.List.Basic

/-!
# Lists of registered objects

A registry keeps its objects in a list.  Linking an object unlinks it first and puts it
at the front, or behind the front if another object is to stay the default.  An object is
recognised by its key; several objects may have one name, and the first one answers to it.
-/

set_option autoImplicit false

universe u v w

namespace LinkedList

variable {α : Type u} {κ : Type v} {ν : Type w} [DecidableEq κ] [DecidableEq ν]

def unlink (key : α → κ) (k : κ) (list : List α) : List α :=
  list.filter fun entry => key entry ≠ k

def link (key : α → κ) (entry : α) (front : Bool) (list : List α) : List α :=
  match front, unlink key (key entry) list with
  | true, others => entry :: others
  | false, [] => [entry]
  | false, first :: rest => first :: entry :: rest

def find (name : α → ν) (n : ν) (list : List α) : Option α :=
  list.find? fun entry => name entry = n

variable {key : α → κ} {name : α → ν} {k : κ} {n : ν} {entry other : α} {front : Bool}
  {list : List α}

section Keys

omit [DecidableEq ν]

theorem mem_unlink : other ∈ unlink key k list ↔ other ∈ list ∧ key other ≠ k := by
  unfold unlink
  rw [List.mem_filter, decide_eq_true_iff]

theorem mem_link :
    other ∈ link key entry front list ↔ other = entry ∨ other ∈ list ∧ key other ≠ key entry := by
  unfold link
  rcases rest : unlink key (key entry) list with _ | ⟨first, rest'⟩
  · rw [← mem_unlink, rest]
    cases front <;> simp
  · rw [← mem_unlink, rest]
    cases front
    · simp only [List.mem_cons]
      tauto
    · simp only [List.mem_cons]

theorem mem_unlink_of_ne (different : key other ≠ k) : other ∈ unlink key k list ↔ other ∈ list :=
  mem_unlink.trans (and_iff_left different)

theorem mem_link_of_ne (different : key other ≠ key entry) :
    other ∈ link key entry front list ↔ other ∈ list := by
  rw [mem_link]
  constructor
  · rintro (rfl | ⟨member, -⟩)
    · exact absurd rfl different
    · exact member
  · exact fun member => .inr ⟨member, different⟩

/-- What is listed stays listed beside a new entry, and under the key of the entry itself. -/
theorem listed_link (listed : ∃ other ∈ list, key other = k) :
    ∃ other ∈ link key entry front list, key other = k := by
  obtain ⟨other, member, rfl⟩ := listed
  by_cases same : key other = key entry
  · exact ⟨entry, mem_link.mpr (.inl rfl), same.symm⟩
  · exact ⟨other, (mem_link_of_ne same).mpr member, rfl⟩

theorem listed_unlink {k' : κ} (different : k ≠ k') (listed : ∃ other ∈ list, key other = k) :
    ∃ other ∈ unlink key k' list, key other = k := by
  obtain ⟨other, member, rfl⟩ := listed
  exact ⟨other, (mem_unlink_of_ne different).mpr member, rfl⟩

end Keys

section Names

omit [DecidableEq κ]

theorem find_eq_none : find name n list = none ↔ ∀ other ∈ list, name other ≠ n := by
  unfold find
  rw [List.find?_eq_none]
  simp

theorem find_cons_self (named : name entry = n) : find name n (entry :: list) = some entry := by
  unfold find
  rw [List.find?_cons_of_pos (by simpa using named)]

theorem find_cons_ne (named : name entry ≠ n) :
    find name n (entry :: list) = find name n list := by
  unfold find
  rw [List.find?_cons_of_neg (by simpa using named)]

end Names

theorem find_link_front (named : name entry = n) :
    find name n (link key entry true list) = some entry := find_cons_self named

/-- What is linked among objects of other names answers to its own. -/
theorem find_link_of_others (named : name entry = n)
    (others : ∀ other ∈ list, key other ≠ key entry → name other ≠ n) :
    find name n (link key entry front list) = some entry := by
  cases front with
  | true => exact find_link_front named
  | false =>
      unfold link
      rcases rest : unlink key (key entry) list with _ | ⟨first, rest'⟩
      · exact find_cons_self named
      · have member : first ∈ unlink key (key entry) list := by
          rw [rest]
          exact List.mem_cons_self
        obtain ⟨member, different⟩ := mem_unlink.mp member
        exact (find_cons_ne (others first member different)).trans (find_cons_self named)

theorem find_link_behind (named : name other = n) (different : key other ≠ key entry) :
    find name n (link key entry false (other :: list)) = some other := by
  unfold link unlink
  rw [List.filter_cons_of_pos (by simpa using different)]
  exact find_cons_self named

end LinkedList
