import Mathlib.Data.List.Forall2

/-!
# Computations that may fail

What it takes for a sequence, a traversal or a selection of computations to succeed, and what it
then gives.  A computation that keeps a state has one also when it fails.
-/

namespace Ensemble

section

variable {ε α β : Type}

theorem bind_eq_ok_iff {x : Except ε α} {f : α → Except ε β} {b : β} :
    x >>= f = .ok b ↔ ∃ a, x = .ok a ∧ f a = .ok b := by
  cases x with
  | error e => simp [bind, Except.bind]
  | ok a => simp [bind, Except.bind]

theorem bind_eq_error_iff {x : Except ε α} {f : α → Except ε β} {e : ε} :
    x >>= f = .error e ↔ x = .error e ∨ ∃ a, x = .ok a ∧ f a = .error e := by
  cases x with
  | error e' => simp [bind, Except.bind]
  | ok a => simp [bind, Except.bind]

@[simp] theorem ok_bind {a : α} {f : α → Except ε β} : (Except.ok a >>= f) = f a := rfl

@[simp] theorem error_bind {e : ε} {f : α → Except ε β} : (Except.error e >>= f) = .error e := rfl

theorem pure_eq_ok {a : α} : (pure a : Except ε α) = .ok a := rfl

theorem throw_eq_error {e : ε} : (throw e : Except ε α) = .error e := rfl

theorem toOption_eq_some_iff {x : Except ε α} {a : α} : x.toOption = some a ↔ x = .ok a := by
  cases x <;> simp [Except.toOption]

theorem toOption_beq_some_iff [BEq α] [LawfulBEq α] {x : Except ε α} {a : α} :
    (x.toOption == some a) = true ↔ x = .ok a := by
  rw [beq_iff_eq, toOption_eq_some_iff]

theorem exists_error_iff {x : Except ε α} : (∃ e, x = .error e) ↔ x.toOption.isNone = true := by
  cases x <;> simp [Except.toOption]

/-- Errors aside, a sequence of computations is a sequence of optional values. -/
theorem toOption_bind (x : Except ε α) (f : α → Except ε β) :
    (x >>= f).toOption = x.toOption.bind fun a => (f a).toOption := by
  cases x <;> rfl

theorem toOption_map (x : Except ε α) (f : α → β) : (x.map f).toOption = x.toOption.map f := by
  cases x <;> rfl

theorem toOption_mapError {ε' : Type} (x : Except ε α) (f : ε → ε') :
    (x.mapError f).toOption = x.toOption := by
  cases x <;> rfl

/-- Errors aside, what a traversal gives is given by what its steps give. -/
theorem toOption_mapM {γ : Type} (f : α → Except ε β) (k : β → γ) (xs : List α) :
    (xs.mapM f).toOption.map (List.map k) = xs.mapM fun x => (f x).toOption.map k := by
  induction xs with
  | nil => rfl
  | cons x xs ih =>
    rw [List.mapM_cons, List.mapM_cons, ← ih]
    cases f x with
    | error e => rfl
    | ok y => cases xs.mapM f <;> rfl

theorem mapError_eq_ok_iff {ε' : Type} {x : Except ε α} {f : ε → ε'} {a : α} :
    x.mapError f = .ok a ↔ x = .ok a := by
  cases x <;> simp [Except.mapError]

theorem map_eq_ok_iff {x : Except ε α} {f : α → β} {b : β} :
    x.map f = .ok b ↔ ∃ a, x = .ok a ∧ f a = b := by
  cases x <;> simp [Except.map]

/-- A traversal succeeds if every step does, and lists what the steps give. -/
theorem mapM_eq_ok_iff {f : α → Except ε β} {xs : List α} {ys : List β} :
    xs.mapM f = .ok ys ↔ List.Forall₂ (fun x y => f x = .ok y) xs ys := by
  induction xs generalizing ys with
  | nil => cases ys <;> simp [pure, Except.pure]
  | cons x xs ih =>
    rw [List.mapM_cons, bind_eq_ok_iff]
    constructor
    · rintro ⟨y, hy, h⟩
      obtain ⟨rest, hrest, h⟩ := bind_eq_ok_iff.1 h
      obtain rfl : y :: rest = ys := Except.ok.inj h
      exact .cons hy (ih.1 hrest)
    · rintro (_ | ⟨hy, hrest⟩)
      exact ⟨_, hy, bind_eq_ok_iff.2 ⟨_, ih.2 hrest, rfl⟩⟩

/-- A list of checks succeeds if every check does. -/
theorem forM_eq_ok_iff {f : α → Except ε Unit} {xs : List α} :
    xs.forM f = .ok () ↔ ∀ x ∈ xs, f x = .ok () := by
  induction xs with
  | nil => simp [List.forM, pure_eq_ok]
  | cons x xs ih =>
    show (f x >>= fun _ => xs.forM f) = .ok () ↔ _
    rw [bind_eq_ok_iff, List.forall_mem_cons, ih]
    constructor
    · rintro ⟨⟨⟩, hx, hxs⟩
      exact ⟨hx, hxs⟩
    · rintro ⟨hx, hxs⟩
      exact ⟨(), hx, hxs⟩

section

variable {f : α → Except ε β} {xs : List α} {ys : List β}

theorem exists_mem_of_mapM (h : xs.mapM f = .ok ys) {x : α} (hx : x ∈ xs) :
    ∃ y ∈ ys, f x = .ok y := by
  have hsteps := mapM_eq_ok_iff.1 h
  clear h
  induction hsteps with
  | nil => cases hx
  | cons hy _ ih =>
    rcases List.mem_cons.1 hx with rfl | hx
    · exact ⟨_, List.mem_cons_self, hy⟩
    · obtain ⟨y, hmem, hy⟩ := ih hx
      exact ⟨y, List.mem_cons_of_mem _ hmem, hy⟩

theorem mem_of_mapM (h : xs.mapM f = .ok ys) {y : β} : y ∈ ys ↔ ∃ x ∈ xs, f x = .ok y := by
  have hsteps := mapM_eq_ok_iff.1 h
  clear h
  induction hsteps with
  | nil => simp
  | @cons x z xs zs hz _ ih =>
    have hhead : f x = .ok y ↔ y = z := by
      rw [hz, Except.ok.injEq]
      exact eq_comm
    rw [List.mem_cons, List.exists_mem_cons_iff, hhead]
    exact or_congr_right ih

/-- A traversal succeeds if every step does. -/
theorem exists_mapM (h : ∀ x ∈ xs, ∃ y, f x = .ok y) : ∃ ys, xs.mapM f = .ok ys := by
  induction xs with
  | nil => exact ⟨[], rfl⟩
  | cons x xs ih =>
    obtain ⟨⟨y, hy⟩, hrest⟩ := List.forall_mem_cons.1 h
    obtain ⟨ys, hys⟩ := ih hrest
    exact ⟨y :: ys, by rw [List.mapM_cons, hy, ok_bind, hys, ok_bind, pure_eq_ok]⟩

/-- Where a traversal of a list succeeds, so does one of a part of the list. -/
theorem exists_mapM_of_sublist {ws : List α} (h : xs.mapM f = .ok ys) (hsub : ws.Sublist xs) :
    ∃ zs, ws.mapM f = .ok zs ∧ zs.Sublist ys := by
  have hsteps := mapM_eq_ok_iff.1 h
  simp only [mapM_eq_ok_iff]
  clear h
  induction hsub generalizing ys with
  | slnil => exact ⟨[], .nil, List.nil_sublist ys⟩
  | cons x _ ih =>
    obtain _ | ⟨-, hrest⟩ := hsteps
    obtain ⟨zs, hzs, hsub⟩ := ih hrest
    exact ⟨zs, hzs, hsub.cons _⟩
  | cons_cons x _ ih =>
    obtain _ | ⟨hy, hrest⟩ := hsteps
    obtain ⟨zs, hzs, hsub⟩ := ih hrest
    exact ⟨_ :: zs, .cons hy hzs, hsub.cons_cons _⟩

theorem mapM_take (h : xs.mapM f = .ok ys) (k : Nat) :
    (xs.take k).mapM f = .ok (ys.take k) :=
  mapM_eq_ok_iff.2 (List.forall₂_take k (mapM_eq_ok_iff.1 h))

/-- What a traversal gives is what its steps give, errors aside. -/
theorem filterMap_of_mapM (h : xs.mapM f = .ok ys) :
    xs.filterMap (fun x => (f x).toOption) = ys := by
  have hsteps := mapM_eq_ok_iff.1 h
  clear h
  induction hsteps with
  | nil => rfl
  | cons hy _ ih => rw [List.filterMap_cons, hy, ih]; rfl

/-- A traversal keeps what its steps keep. -/
theorem map_of_mapM {γ : Type} {j : α → γ} {k : β → γ} (h : xs.mapM f = .ok ys)
    (hf : ∀ x y, f x = .ok y → k y = j x) : ys.map k = xs.map j := by
  have hsteps := mapM_eq_ok_iff.1 h
  clear h
  induction hsteps with
  | nil => rfl
  | cons hy _ ih => exact congrArg₂ List.cons (hf _ _ hy) ih

/-- Two traversals of one list give lists that are related as their steps are. -/
theorem forall₂_of_mapM {γ : Type} {g : α → Except ε γ} {zs : List γ} {R : β → γ → Prop}
    (hf : xs.mapM f = .ok ys) (hg : xs.mapM g = .ok zs)
    (h : ∀ x ∈ xs, ∀ y z, f x = .ok y → g x = .ok z → R y z) : List.Forall₂ R ys zs := by
  have hsteps := mapM_eq_ok_iff.1 hf
  clear hf
  induction hsteps generalizing zs with
  | nil =>
    obtain _ | _ := mapM_eq_ok_iff.1 hg
    exact .nil
  | cons hy _ ih =>
    obtain _ | ⟨hz, hrest⟩ := mapM_eq_ok_iff.1 hg
    obtain ⟨hhead, htail⟩ := List.forall_mem_cons.1 h
    exact .cons (hhead _ _ hy hz) (ih (mapM_eq_ok_iff.2 hrest) htail)

/-- A traversal keeps the number of elements with a property that its steps keep. -/
theorem length_filter_of_mapM {p : α → Bool} {q : β → Bool} (h : xs.mapM f = .ok ys)
    (hf : ∀ x y, f x = .ok y → q y = p x) : (ys.filter q).length = (xs.filter p).length := by
  have hcount := congrArg (List.countP id) (map_of_mapM h hf)
  rw [List.countP_map, List.countP_map] at hcount
  rw [← List.countP_eq_length_filter, ← List.countP_eq_length_filter]
  exact hcount

end

end

/-! ## Traversals and selections in a monad -/

section

variable {m : Type → Type} [Monad m] [LawfulMonad m] {α β : Type}

private theorem filterAuxM_eq (p : α → m Bool) :
    ∀ (xs acc : List α), List.filterAuxM p xs acc = (· ++ acc) <$> List.filterAuxM p xs []
  | [], acc => by simp [List.filterAuxM]
  | x :: xs, acc => by
    simp only [List.filterAuxM, map_bind]
    refine congrArg _ (funext fun b => ?_)
    cases b with
    | false => exact filterAuxM_eq p xs acc
    | true =>
      simp only [cond_true]
      rw [filterAuxM_eq p xs (x :: acc), filterAuxM_eq p xs [x]]
      simp

theorem filterM_nil (p : α → m Bool) : [].filterM p = pure [] := by
  simp [List.filterM, List.filterAuxM]

theorem filterM_cons (p : α → m Bool) (x : α) (xs : List α) :
    (x :: xs).filterM p = do
      let b ← p x
      let ys ← xs.filterM p
      return if b then x :: ys else ys := by
  simp only [List.filterM, List.filterAuxM, bind_assoc, pure_bind]
  refine congrArg _ (funext fun b => ?_)
  cases b with
  | false => simp
  | true =>
    simp only [cond_true]
    rw [filterAuxM_eq p xs [x]]
    simp

theorem mapM_congr {f g : α → m β} {xs : List α} (h : ∀ x ∈ xs, f x = g x) :
    xs.mapM f = xs.mapM g := by
  induction xs with
  | nil => rfl
  | cons x xs ih =>
    obtain ⟨hx, hxs⟩ := List.forall_mem_cons.1 h
    rw [List.mapM_cons, List.mapM_cons, hx, ih hxs]

theorem filterM_congr {p q : α → m Bool} {xs : List α} (h : ∀ x ∈ xs, p x = q x) :
    xs.filterM p = xs.filterM q := by
  induction xs with
  | nil => rw [filterM_nil, filterM_nil]
  | cons x xs ih =>
    obtain ⟨hx, hxs⟩ := List.forall_mem_cons.1 h
    rw [filterM_cons, filterM_cons, hx, ih hxs]

/-- Elements whose test has no effect and fails can be left out before a selection. -/
theorem filterM_filter {p : α → m Bool} {q : α → Bool} {xs : List α}
    (h : ∀ x ∈ xs, q x = false → p x = pure false) : (xs.filter q).filterM p = xs.filterM p := by
  induction xs with
  | nil => rfl
  | cons x xs ih =>
    obtain ⟨hx, hxs⟩ := List.forall_mem_cons.1 h
    rw [List.filter_cons]
    cases hq : q x with
    | true => rw [if_pos rfl, filterM_cons, filterM_cons, ih hxs]
    | false =>
      rw [if_neg Bool.false_ne_true, filterM_cons, hx hq, pure_bind, ih hxs]
      simp

/-- Folding the elements with a property is folding the selection of those elements. -/
theorem foldlM_select (p : α → m Bool) (f : β → α → β) :
    ∀ (xs : List α) (init : β),
      xs.foldlM (fun acc x => do if ← p x then return f acc x else return acc) init
        = do let ys ← xs.filterM p; return ys.foldl f init
  | [], init => by simp [filterM_nil]
  | x :: xs, init => by
    simp only [List.foldlM_cons, filterM_cons, bind_assoc, pure_bind]
    refine congrArg _ (funext fun b => ?_)
    cases b with
    | false => simpa using foldlM_select p f xs init
    | true => simpa using foldlM_select p f xs (f init x)

end

/-- A selection succeeds if every test does, and keeps the elements that pass. -/
theorem filterM_eq_ok_iff {ε α : Type} {p : α → Except ε Bool} {xs ys : List α} :
    xs.filterM p = .ok ys ↔
      (∀ x ∈ xs, ∃ b, p x = .ok b) ∧ ys = xs.filter fun x => (p x).toOption == some true := by
  induction xs generalizing ys with
  | nil => simp [filterM_nil, pure, Except.pure, eq_comm]
  | cons x xs ih =>
    rw [filterM_cons, bind_eq_ok_iff]
    constructor
    · rintro ⟨b, hb, h⟩
      obtain ⟨rest, hrest, h⟩ := bind_eq_ok_iff.1 h
      obtain ⟨hall, rfl⟩ := ih.1 hrest
      refine ⟨fun y hy => ?_, ?_⟩
      · rcases List.mem_cons.1 hy with rfl | hy
        · exact ⟨b, hb⟩
        · exact hall y hy
      · rw [← Except.ok.inj h, List.filter_cons, hb]
        cases b <;> simp [Except.toOption]
    · rintro ⟨hall, rfl⟩
      obtain ⟨b, hb⟩ := hall x List.mem_cons_self
      refine ⟨b, hb, bind_eq_ok_iff.2 ⟨_, ih.2 ⟨fun y hy => hall y (.tail _ hy), rfl⟩, ?_⟩⟩
      rw [List.filter_cons, hb]
      cases b <;> simp [Except.toOption, pure, Except.pure]

/-! ## Computations that keep a state -/

/-- A computation that may fail and that keeps a state, also when it fails. -/
abbrev Tracked (σ ε : Type) : Type → Type := ExceptT ε (StateM σ)

namespace Tracked

variable {σ ε α β : Type}

/-- What a computation gives and the state at its end, after a state at its start. -/
def outcome (x : Tracked σ ε α) (s : σ) : Except ε α × σ := (x.run.run s).run

theorem outcome_pure (a : α) (s : σ) : (pure a : Tracked σ ε α).outcome s = (.ok a, s) := rfl

theorem outcome_bind (x : Tracked σ ε α) (f : α → Tracked σ ε β) (s : σ) :
    outcome (x >>= f) s = match x.outcome s with
      | (.ok a, s') => (f a).outcome s'
      | (.error e, s') => (.error e, s') := by
  unfold outcome
  rw [ExceptT.run_bind, StateT.run_bind]
  show Id.run (_ >>= _) = _
  rw [Id.run_bind]
  rcases x.run.run s with ⟨_ | _, _⟩ <;> rfl

theorem outcome_map (f : α → β) (x : Tracked σ ε α) (s : σ) :
    outcome (f <$> x) s = ((x.outcome s).1.map f, (x.outcome s).2) := by
  rw [map_eq_pure_bind, outcome_bind]
  rcases x.outcome s with ⟨_ | _, _⟩ <;> rfl

end Tracked

end Ensemble
