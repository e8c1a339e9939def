import Ensemble.Error.Basic
import Ensemble.Proofs.Except

/-!
# Causes of failure

A computation fails as its parts do: `ErrorsAre P x` says that every error of `x` has the property
`P`.  The place of an error changes while the error travels outwards, its cause does not.  So the
causes for which a computation can fail are those of its parts: `FailsOnly P x` says that every error
of `x` has a cause with the property `P`, and there is one rule for each way to put computations
together.
-/

namespace Ensemble

namespace Error

variable (e : Error)

@[simp] theorem cause_withRule (rule : String) : (e.withRule rule).cause = e.cause := rfl

@[simp] theorem cause_withOperator (op : String) : (e.withOperator op).cause = e.cause := rfl

@[simp] theorem cause_inFrame (frame : String) : (e.inFrame frame).cause = e.cause := rfl

end Error

/-! ## Errors with a property -/

/-- Every error of a computation has a property. -/
def ErrorsAre {α : Type} (P : Error → Prop) (x : Except Error α) : Prop :=
  ∀ e, x = .error e → P e

/-- Every error of a computation has a cause with a property. -/
def FailsOnly {α : Type} (P : Cause → Prop) (x : Except Error α) : Prop :=
  ∀ e, x = .error e → P e.cause

section

variable {P : Error → Prop} {α β : Type} {x : Except Error α}

theorem errorsAre_ok (a : α) : ErrorsAre P (.ok a : Except Error α) := by
  intro e he
  cases he

theorem errorsAre_pure (a : α) : ErrorsAre P (pure a : Except Error α) := errorsAre_ok a

theorem errorsAre_error {e : Error} (h : P e) : ErrorsAre P (.error e : Except Error α) := by
  intro e' he
  obtain rfl := Except.error.inj he
  exact h

theorem ErrorsAre.bind {f : α → Except Error β} (hx : ErrorsAre P x)
    (hf : ∀ a, x = .ok a → ErrorsAre P (f a)) : ErrorsAre P (x >>= f) := by
  cases x with
  | error e => exact errorsAre_error (hx e rfl)
  | ok a => exact hf a rfl

end

section

variable {P Q : Cause → Prop} {α β : Type} {x : Except Error α}

theorem failsOnly_ok (a : α) : FailsOnly P (.ok a : Except Error α) := errorsAre_ok a

theorem failsOnly_pure (a : α) : FailsOnly P (pure a : Except Error α) := failsOnly_ok a

theorem failsOnly_error {e : Error} (h : P e.cause) : FailsOnly P (.error e : Except Error α) :=
  errorsAre_error h

theorem FailsOnly.mono (h : FailsOnly P x) (hPQ : ∀ c, P c → Q c) : FailsOnly Q x :=
  fun e he => hPQ _ (h e he)

/-- A computation that can fail for no cause at all succeeds. -/
theorem failsOnly_false_iff : FailsOnly (fun _ => False) x ↔ ∃ a, x = .ok a := by
  cases x with
  | error e =>
    constructor
    · intro h
      exact absurd rfl (h e)
    · rintro ⟨a, ha⟩
      cases ha
  | ok a => exact ⟨fun _ => ⟨a, rfl⟩, fun _ => failsOnly_ok a⟩

theorem failsOnly_of_exists (h : ∃ a, x = .ok a) : FailsOnly P x := by
  obtain ⟨a, rfl⟩ := h
  exact failsOnly_ok a

/-! ## Computations in parts -/

theorem FailsOnly.bind {f : α → Except Error β} (hx : FailsOnly P x)
    (hf : ∀ a, x = .ok a → FailsOnly P (f a)) : FailsOnly P (x >>= f) :=
  ErrorsAre.bind hx hf

theorem FailsOnly.mapError {f : Error → Error} (h : FailsOnly P x)
    (hf : ∀ e, (f e).cause = e.cause) : FailsOnly P (x.mapError f) := by
  cases x with
  | error e =>
    refine failsOnly_error ?_
    rw [hf]
    exact h e rfl
  | ok a => exact failsOnly_ok a

theorem failsOnly_mapM {f : α → Except Error β} {xs : List α}
    (h : ∀ a ∈ xs, FailsOnly P (f a)) : FailsOnly P (xs.mapM f) := by
  induction xs with
  | nil => exact failsOnly_pure []
  | cons a xs ih =>
    obtain ⟨ha, hxs⟩ := List.forall_mem_cons.1 h
    rw [List.mapM_cons]
    exact ha.bind fun b _ => (ih hxs).bind fun bs _ => failsOnly_pure _

theorem failsOnly_filterM {p : α → Except Error Bool} {xs : List α}
    (h : ∀ a ∈ xs, FailsOnly P (p a)) : FailsOnly P (xs.filterM p) := by
  induction xs with
  | nil =>
    rw [filterM_nil]
    exact failsOnly_pure []
  | cons a xs ih =>
    obtain ⟨ha, hxs⟩ := List.forall_mem_cons.1 h
    rw [filterM_cons]
    exact ha.bind fun b _ => (ih hxs).bind fun bs _ => failsOnly_pure _

theorem failsOnly_foldlM {f : β → α → Except Error β} {xs : List α}
    (h : ∀ a ∈ xs, ∀ b, FailsOnly P (f b a)) (init : β) : FailsOnly P (xs.foldlM f init) := by
  induction xs generalizing init with
  | nil => exact failsOnly_pure init
  | cons a xs ih =>
    obtain ⟨ha, hxs⟩ := List.forall_mem_cons.1 h
    rw [List.foldlM_cons]
    exact (ha init).bind fun b _ => ih hxs b

end

end Ensemble
