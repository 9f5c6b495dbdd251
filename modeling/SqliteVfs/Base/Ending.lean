import SqliteVfs.Base.Program

/-!
# Specifications by ending

`Ends x s returns fails crashes` says how `x` may end from `s`: it returns a value that
`returns` allows, fails as `fails` allows, or is ended from outside where `crashes`
holds; it does not panic.  The rules follow the program text.
-/

set_option autoImplicit false

namespace Prog

variable {σ τ ε ε' α β : Type}

/-- One postcondition for each way to end; a panic has none. -/
def ending (returns : α → σ → Prop) (fails : ε → σ → Prop) (crashes : σ → Prop) :
    Outcome ε α → σ → Prop
  | .ok value, s => returns value s
  | .err error, s => fails error s
  | .halt .crash, s => crashes s
  | .halt .panic, _ => False

def Ends (x : Prog σ ε α) (s : σ) (returns : α → σ → Prop) (fails : ε → σ → Prop)
    (crashes : σ → Prop) : Prop :=
  wp x (ending returns fails crashes) s

variable {x : Prog σ ε α} {s : σ} {returns returns' : α → σ → Prop} {fails fails' : ε → σ → Prop}
  {crashes crashes' : σ → Prop}

namespace Ends

theorem ok {value : α} {next : σ} (ends : Ends x s returns fails crashes)
    (run : x.run s = (.ok value, next)) : returns value next := by
  unfold Ends wp at ends
  rw [run] at ends
  exact ends

theorem err {error : ε} {next : σ} (ends : Ends x s returns fails crashes)
    (run : x.run s = (.err error, next)) : fails error next := by
  unfold Ends wp at ends
  rw [run] at ends
  exact ends

theorem crash {next : σ} (ends : Ends x s returns fails crashes)
    (run : x.run s = (.halt .crash, next)) : crashes next := by
  unfold Ends wp at ends
  rw [run] at ends
  exact ends

theorem noPanic {next : σ} (ends : Ends x s returns fails crashes) :
    x.run s ≠ (.halt .panic, next) := by
  intro run
  unfold Ends wp at ends
  rw [run] at ends
  exact ends

theorem returned (ends : Ends x s returns (fun _ _ => False) fun _ => False) :
    ∃ value next, x.run s = (.ok value, next) ∧ returns value next := by
  unfold Ends wp at ends
  rcases run : x.run s with ⟨value | error | why, next⟩
  · rw [run] at ends
    exact ⟨value, next, rfl, ends⟩
  · rw [run] at ends
    exact ends.elim
  · rw [run] at ends
    cases why <;> exact ends.elim

theorem of_ok {value : α} {next : σ} (run : x.run s = (.ok value, next))
    (holds : returns value next) : Ends x s returns fails crashes := by
  unfold Ends wp
  rw [run]
  exact holds

theorem of_err {error : ε} {next : σ} (run : x.run s = (.err error, next))
    (holds : fails error next) : Ends x s returns fails crashes := by
  unfold Ends wp
  rw [run]
  exact holds

theorem after_ok {f : α → Prog σ ε β} {value : α} {next : σ} {result : β → σ → Prop}
    (run : x.run s = (.ok value, next)) (rest : Ends (f value) next result fails crashes) :
    Ends (x >>= f) s result fails crashes := by
  unfold Ends wp at rest ⊢
  rw [bind_ok run]
  exact rest

theorem pure {value : α} (holds : returns value s) :
    Ends (Pure.pure value) s returns fails crashes := holds

theorem fail {error : ε} (holds : fails error s) :
    Ends (Prog.fail error : Prog σ ε α) s returns fails crashes := holds

theorem modify {f : σ → σ} {returns : Unit → σ → Prop} (holds : returns () (f s)) :
    Ends (Prog.modify f) s returns fails crashes := holds

theorem mono (ends : Ends x s returns fails crashes)
    (onReturn : ∀ value next, returns value next → returns' value next)
    (onFail : ∀ error next, fails error next → fails' error next)
    (onCrash : ∀ next, crashes next → crashes' next) : Ends x s returns' fails' crashes' := by
  refine wp_mono ends ?_
  rintro (value | error | ⟨⟨⟩⟩) next holds
  · exact onReturn value next holds
  · exact onFail error next holds
  · exact holds.elim
  · exact onCrash next holds

/-- A program that can neither fail nor be ended from outside returns. -/
theorem returned_of (ends : Ends x s returns fails crashes)
    (neverFails : ∀ error next, ¬ fails error next) (neverCrashes : ∀ next, ¬ crashes next) :
    ∃ value next, x.run s = (.ok value, next) ∧ returns value next :=
  (ends.mono (fun _ _ holds => holds) neverFails neverCrashes).returned

theorem bind {f : α → Prog σ ε β} {result : β → σ → Prop}
    (first : Ends x s returns fails crashes)
    (rest : ∀ value next, returns value next → Ends (f value) next result fails crashes) :
    Ends (x >>= f) s result fails crashes := by
  unfold Ends
  rw [wp_bind]
  refine wp_mono first ?_
  rintro (value | error | ⟨⟨⟩⟩) next holds
  · exact rest value next holds
  · exact holds
  · exact holds
  · exact holds

/-- A sequence whose first part leaves the state alone when it does not return. -/
theorem bind_of {f : α → Prog σ ε β} {result : β → σ → Prop}
    (first : Ends x s returns fails' crashes')
    (rest : ∀ value next, returns value next → Ends (f value) next result fails crashes)
    (onFail : ∀ error next, fails' error next → fails error next)
    (onCrash : ∀ next, crashes' next → crashes next) :
    Ends (x >>= f) s result fails crashes :=
  bind (first.mono (fun _ _ holds => holds) onFail onCrash) rest

theorem bind_sure {f : α → Prog σ ε β} {result : β → σ → Prop}
    (first : Ends x s returns (fun _ _ => False) fun _ => False)
    (rest : ∀ value next, returns value next → Ends (f value) next result fails crashes) :
    Ends (x >>= f) s result fails crashes :=
  bind_of first rest (fun _ _ impossible => impossible.elim) fun _ impossible => impossible.elim

theorem get_bind {f : σ → Prog σ ε β} {result : β → σ → Prop}
    (rest : Ends (f s) s result fails crashes) : Ends (Prog.get >>= f) s result fails crashes :=
  rest

theorem modify_bind {g : σ → σ} {f : Unit → Prog σ ε β} {result : β → σ → Prop}
    (rest : Ends (f ()) (g s) result fails crashes) :
    Ends (Prog.modify g >>= f) s result fails crashes :=
  rest

/-- A sequence that goes on whether its first part returned or failed. -/
theorem attempt_bind {f : Except ε α → Prog σ ε' β} {result : β → σ → Prop}
    {fails' : ε' → σ → Prop} (first : Ends x s returns fails crashes')
    (onReturn : ∀ value next, returns value next → Ends (f (.ok value)) next result fails' crashes)
    (onFail : ∀ error next, fails error next → Ends (f (.error error)) next result fails' crashes)
    (onCrash : ∀ next, crashes' next → crashes next) :
    Ends (Prog.attempt x >>= f) s result fails' crashes := by
  unfold Ends
  rw [wp_bind, wp_attempt]
  refine wp_mono first ?_
  rintro (value | error | ⟨⟨⟩⟩) next holds
  · exact onReturn value next holds
  · exact onFail error next holds
  · exact holds
  · exact onCrash next holds

theorem mapErr {f : ε → ε'} {fails' : ε' → σ → Prop}
    (ends : Ends x s returns (fun error => fails' (f error)) crashes) :
    Ends (Prog.mapErr f x) s returns fails' crashes := by
  unfold Ends
  rw [wp_mapErr]
  refine wp_mono ends ?_
  rintro (value | error | ⟨⟨⟩⟩) next holds <;> exact holds

theorem widen {x : Prog σ Empty α} {fails' : ε → σ → Prop}
    (ends : Ends x s returns (fun error => error.elim) crashes) :
    Ends (Prog.widen x) s returns fails' crashes := by
  unfold Ends
  rw [wp_widen]
  refine wp_mono ends ?_
  rintro (value | error | ⟨⟨⟩⟩) next holds
  · exact holds
  · exact error.elim
  · exact holds
  · exact holds

/-- A cleanup that only changes the state runs on both endings. -/
theorem ensure {f : σ → σ}
    (ends : Ends x s (fun value next => returns value (f next))
      (fun error next => fails error (f next)) crashes) :
    Ends (Prog.ensure (Prog.modify f) x) s returns fails crashes := by
  unfold Prog.ensure
  refine attempt_bind ends ?_ ?_ fun _ crashed => crashed
  · exact fun value next holds => holds
  · exact fun error next holds => holds

theorem ite {c : Prop} [Decidable c] {y : Prog σ ε α}
    (yes : c → Ends x s returns fails crashes) (no : ¬ c → Ends y s returns fails crashes) :
    Ends (if c then x else y) s returns fails crashes :=
  wp_ite yes no

end Ends

/-! ## Ends from outside -/

/-- Where `x` is ended from outside, `crashes` holds. -/
def Stops (x : Prog σ ε α) (s : σ) (crashes : σ → Prop) : Prop :=
  Ends x s (fun _ _ => True) (fun _ _ => True) crashes

theorem Ends.stops (ends : Ends x s returns fails crashes)
    (onCrash : ∀ next, crashes next → crashes' next) : Stops x s crashes' :=
  ends.mono (fun _ _ _ => trivial) (fun _ _ _ => trivial) onCrash

namespace Stops

theorem of_err {error : ε} {next : σ} (run : x.run s = (.err error, next)) : Stops x s crashes :=
  Ends.of_err run trivial

theorem pure (value : α) : Stops (Pure.pure value : Prog σ ε α) s crashes :=
  Ends.pure trivial

theorem mono (stops : Stops x s crashes) (onCrash : ∀ next, crashes next → crashes' next) :
    Stops x s crashes' :=
  Ends.stops stops onCrash

theorem bind {f : α → Prog σ ε β} (first : Stops x s crashes)
    (rest : ∀ value next, Stops (f value) next fun _ => False) : Stops (x >>= f) s crashes :=
  Ends.bind first fun value next _ => (rest value next).mono fun _ impossible => impossible.elim

theorem mapErr {f : ε → ε'} (stops : Stops x s crashes) : Stops (Prog.mapErr f x) s crashes :=
  Ends.mapErr stops

theorem ensure {f : σ → σ} (stops : Stops x s crashes) :
    Stops (Prog.ensure (Prog.modify f) x) s crashes :=
  Ends.ensure stops

theorem crash {next : σ} (stops : Stops x s crashes) (run : x.run s = (.halt .crash, next)) :
    crashes next :=
  Ends.crash stops run

end Stops

end Prog
