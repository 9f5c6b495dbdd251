import SqliteVfs.Base.Ending

/-!
# What a program leaves alone

`Preserves kept dies x` says that the program `x`, begun in a state that is `kept`, leaves
one, however it ends, and that it is ended from outside only if `dies`.  The rules do not
look at what the program computes; that is for `Ends` to say.
-/

set_option autoImplicit false

namespace Prog

variable {σ ε ε' α β : Type}

def Preserves (kept : σ → Prop) (dies : Prop) (x : Prog σ ε α) : Prop :=
  ∀ s, kept s → kept (x.run s).2 ∧ ((x.run s).1 = .halt .crash → dies)

namespace Preserves

variable {kept : σ → Prop} {dies : Prop} {x y : Prog σ ε α}

theorem of_run (preserves : Preserves kept dies x) {s next : σ} {outcome : Outcome ε α}
    (before : kept s) (run : x.run s = (outcome, next)) :
    kept next ∧ (outcome = .halt .crash → dies) := by
  have after := preserves s before
  rw [run] at after
  exact after

theorem pure (value : α) : Preserves kept dies (Pure.pure value : Prog σ ε α) :=
  fun _ before => ⟨before, by simp⟩

theorem fail (error : ε) : Preserves kept dies (Prog.fail error : Prog σ ε α) :=
  fun _ before => ⟨before, by simp⟩

theorem get : Preserves kept dies (Prog.get : Prog σ ε σ) := fun _ before => ⟨before, by simp⟩

theorem panic : Preserves kept dies (Prog.halt .panic : Prog σ ε α) :=
  fun _ before => ⟨before, by simp⟩

theorem modify {f : σ → σ} (keeps : ∀ s, kept s → kept (f s)) :
    Preserves kept dies (Prog.modify f : Prog σ ε Unit) :=
  fun s before => ⟨keeps s before, by simp⟩

theorem bind {f : α → Prog σ ε β} (first : Preserves kept dies x)
    (rest : ∀ value, Preserves kept dies (f value)) : Preserves kept dies (x >>= f) := by
  intro s before
  rw [bind_run]
  rcases run : x.run s with ⟨value | error | why, next⟩
  · exact rest value next (first.of_run before run).1
  · exact ⟨(first.of_run before run).1, by simp⟩
  · obtain ⟨after, ended⟩ := first.of_run before run
    refine ⟨after, fun crashed => ended ?_⟩
    rw [Outcome.halt.inj crashed]

theorem attempt (preserves : Preserves kept dies x) :
    Preserves kept dies (Prog.attempt x : Prog σ ε' _) := by
  intro s before
  unfold Prog.attempt
  dsimp only
  rcases run : x.run s with ⟨value | error | why, next⟩
  · exact ⟨(preserves.of_run before run).1, by simp⟩
  · exact ⟨(preserves.of_run before run).1, by simp⟩
  · obtain ⟨after, ended⟩ := preserves.of_run before run
    refine ⟨after, fun crashed => ended ?_⟩
    rw [Outcome.halt.inj crashed]

theorem mapErr {f : ε → ε'} (preserves : Preserves kept dies x) :
    Preserves kept dies (Prog.mapErr f x) := by
  intro s before
  unfold Prog.mapErr
  dsimp only
  rcases run : x.run s with ⟨value | error | why, next⟩
  · exact ⟨(preserves.of_run before run).1, by simp⟩
  · exact ⟨(preserves.of_run before run).1, by simp⟩
  · obtain ⟨after, ended⟩ := preserves.of_run before run
    refine ⟨after, fun crashed => ended ?_⟩
    rw [Outcome.halt.inj crashed]

theorem widen {x : Prog σ Empty α} (preserves : Preserves kept dies x) :
    Preserves kept dies (Prog.widen x : Prog σ ε α) := preserves.mapErr

theorem ite {c : Prop} [Decidable c] (yes : c → Preserves kept dies x)
    (no : ¬ c → Preserves kept dies y) : Preserves kept dies (if c then x else y) := by
  split
  · exact yes ‹_›
  · exact no ‹_›

theorem ofExcept (result : Except ε α) :
    Preserves kept dies (Prog.ofExcept result : Prog σ ε α) := by
  cases result with
  | ok value => exact pure value
  | error error => exact fail error

theorem unwrap (value : Option α) : Preserves kept dies (Prog.unwrap value : Prog σ ε α) := by
  cases value with
  | some value => exact pure value
  | none => exact panic

theorem ensure {cleanup : Prog σ Empty Unit} (cleans : Preserves kept dies cleanup)
    (preserves : Preserves kept dies x) : Preserves kept dies (Prog.ensure cleanup x) :=
  preserves.attempt.bind fun result => (widen cleans).bind fun _ => ofExcept result

end Preserves

theorem Ends.preserving {x : Prog σ ε α} {kept : σ → Prop} {dies : Prop} {s : σ}
    {returns : α → σ → Prop} {fails : ε → σ → Prop} {crashes : σ → Prop}
    (ends : Ends x s returns fails crashes) (preserves : Preserves kept dies x) (before : kept s) :
    Ends x s (fun value next => returns value next ∧ kept next)
      (fun error next => fails error next ∧ kept next) fun next => crashes next ∧ dies := by
  obtain ⟨after, ended⟩ := preserves s before
  unfold Ends wp at ends ⊢
  rcases run : x.run s with ⟨value | error | ⟨⟨⟩⟩, next⟩
  · rw [run] at ends after
    exact ⟨ends, after⟩
  · rw [run] at ends after
    exact ⟨ends, after⟩
  · rw [run] at ends
    exact ends
  · rw [run] at ends ended
    exact ⟨ends, ended rfl⟩

end Prog
