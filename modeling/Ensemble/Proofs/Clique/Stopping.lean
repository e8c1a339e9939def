import Ensemble.Cluster.Limits
import Ensemble.Proofs.Clique.Enumeration

/-!
# Searches that are stopped

A search asks before each visit whether it is to stop.  Stopped at the poll with the number `k`,
counted from zero, it has visited the first `k` cliques of a search that is never stopped, has
tested the large ones among them and nothing else, and asks no more.  A search whose polls are all
answered in the negative does what the search does that is never stopped.

Polls are counted in two ways.  `Search.stoppable` counts them beside a test with any effects, and
forgets them if the test fails; `Search.logged` notes polls and tests also of a search that fails.
-/

namespace Ensemble

/-! ## Polls -/

namespace Cancellation

variable {α : Type} {cancel : Cancellation} {polls k : Nat} {xs : List α}

/-- The part of a list that is reached before a stop, with a poll before each element.  The polls
are counted on from a number. -/
def reached (cancel : Cancellation) : Nat → List α → List α
  | _, [] => []
  | polls, x :: xs => if cancel.answer polls then [] else x :: cancel.reached (polls + 1) xs

theorem reached_never (polls : Nat) (xs : List α) : never.reached polls xs = xs := by
  induction xs generalizing polls with
  | nil => rfl
  | cons x xs ih => exact congrArg (x :: ·) (ih (polls + 1))

theorem reached_sublist (cancel : Cancellation) (polls : Nat) (xs : List α) :
    (cancel.reached polls xs).Sublist xs := by
  induction xs generalizing polls with
  | nil => exact .slnil
  | cons x xs ih =>
    rw [reached]
    split
    · exact List.nil_sublist _
    · exact (ih (polls + 1)).cons_cons x

/-- A poll is the first that is answered in the affirmative. -/
structure StopsAt (cancel : Cancellation) (k : Nat) : Prop where
  stops : cancel.answer k = true
  runs : ∀ j < k, cancel.answer j = false

/-- The elements that are reached are as many as the polls before the stop. -/
theorem reached_eq_take (hrun : ∀ j < k, cancel.answer (polls + j) = false)
    (hstop : k < xs.length → cancel.answer (polls + k) = true) :
    cancel.reached polls xs = xs.take k := by
  induction xs generalizing polls k with
  | nil => rw [reached, List.take_nil]
  | cons x xs ih =>
    rw [reached]
    cases k with
    | zero =>
      have hpoll : cancel.answer polls = true := hstop (Nat.succ_pos _)
      rw [if_pos hpoll, List.take_zero]
    | succ k =>
      have hpoll : cancel.answer polls = false := hrun 0 (Nat.succ_pos k)
      rw [if_neg (by simp [hpoll]), List.take_succ_cons]
      refine congrArg (x :: ·) (ih (fun j hj => ?_) fun hk => ?_)
      · rw [Nat.add_right_comm]
        exact hrun (j + 1) (Nat.succ_lt_succ hj)
      · rw [Nat.add_right_comm]
        exact hstop (Nat.succ_lt_succ hk)

theorem StopsAt.reached_eq (h : cancel.StopsAt k) (xs : List α) :
    cancel.reached 0 xs = xs.take k :=
  reached_eq_take (fun j hj => by rw [Nat.zero_add, h.runs j hj])
    fun _ => by rw [Nat.zero_add, h.stops]

theorem reached_of_running (h : ∀ j < xs.length, cancel.answer j = false) :
    cancel.reached 0 xs = xs := by
  have htake : cancel.reached 0 xs = xs.take xs.length :=
    reached_eq_take (fun j hj => by rw [Nat.zero_add, h j hj]) fun hlt => absurd hlt (lt_irrefl _)
  rw [htake, List.take_length]

end Cancellation

namespace Search

/-! ## Tests -/

theorem tests_cons (min : Nat) (s : IndexSet) (sets : List IndexSet) :
    tests min (s :: sets) =
      if s.size ≥ Nat.max min 1 then s :: tests min sets else tests min sets := by
  rw [tests, List.filter_cons]
  simp only [decide_eq_true_eq]
  rfl

theorem tests_append (min : Nat) (xs ys : List IndexSet) :
    tests min (xs ++ ys) = tests min xs ++ tests min ys := List.filter_append ..

/-! ## Searches with a count of the polls -/

section

variable {m : Type → Type} [Monad m]

/-- A search that counts its polls.  The test may have any effects. -/
def stoppable (g : Graph) (min max : Nat) (cancel : Cancellation) (accept : IndexSet → m Bool) :
    Search (StateT Nat m) where
  graph := g
  min := min
  max := max
  poll := modifyGet fun polls => (cancel.answer polls, polls + 1)
  accept s := StateT.lift (accept s)

variable [LawfulMonad m] {g : Graph} {min max : Nat} {cancel : Cancellation}
  {accept : IndexSet → m Bool}

theorem run_visit_stoppable (polls : Nat) (s : IndexSet) :
    ((stoppable g min max cancel accept).visit s).run polls = do
      let found ← (uninterrupted g min max accept).finds s
      return (⟨if found then [s] else [], 1, false⟩, polls) := by
  have hmin : (stoppable g min max cancel accept).min = min := rfl
  have hmin' : (uninterrupted g min max accept).min = min := rfl
  rw [visit_eq, StateT.run_bind, finds, finds, hmin, hmin']
  split
  · show (StateT.lift (accept s)).run polls >>= _ = accept s >>= _
    rw [StateT.run_lift, bind_assoc]
    refine congrArg _ (funext fun found => ?_)
    rw [pure_bind]
    rfl
  · rw [StateT.run_pure, pure_bind, pure_bind]
    rfl

/-- A search tests the sets that it reaches, and polls once before each set that it reaches and once
more if it is stopped. -/
theorem run_visitAll_stoppable (polls : Nat) (sets : List IndexSet) :
    ((stoppable g min max cancel accept).visitAll sets).run polls = do
      let found ← (cancel.reached polls sets).filterM (uninterrupted g min max accept).finds
      return (⟨found, (cancel.reached polls sets).length,
        decide ((cancel.reached polls sets).length < sets.length)⟩,
        polls + Nat.min ((cancel.reached polls sets).length + 1) sets.length) := by
  induction sets generalizing polls with
  | nil => simp [visitAll, Cancellation.reached, filterM_nil, SearchResult.none]
  | cons s sets ih =>
    have hpoll : (stoppable g min max cancel accept).poll.run polls
        = pure (cancel.answer polls, polls + 1) := rfl
    rw [visitAll, Cancellation.reached, StateT.run_bind, hpoll, pure_bind]
    by_cases hstop : cancel.answer polls = true
    · simp [hstop, filterM_nil, SearchResult.stopped]
    · simp only [hstop, Bool.false_eq_true, ↓reduceIte]
      -- The visit of `s` polls nothing, so the rest of the search starts with the next poll.
      rw [StateT.run_bind, run_visit_stoppable, filterM_cons, bind_assoc, bind_assoc]
      refine congrArg _ (funext fun wanted => ?_)
      rw [pure_bind, andThen_of_running rfl, StateT.run_map, ih, map_bind, bind_assoc]
      refine congrArg _ (funext fun found => ?_)
      rw [map_pure, pure_bind]
      refine congrArg pure (Prod.ext ?_ ?_)
      · show SearchResult.append _ _ = _
        cases wanted <;> simp [SearchResult.append, Nat.add_comm 1]
      · rw [List.length_cons, List.length_cons]
        generalize (cancel.reached (polls + 1) sets).length = reached
        show polls + 1 + Min.min (reached + 1) sets.length
          = polls + Min.min (reached + 1 + 1) (sets.length + 1)
        omega

theorem run_stoppable :
    (stoppable g min max cancel accept).run.run 0 = do
      let found ← (tests min (cancel.reached 0 (visited g min max))).filterM accept
      return (⟨found, (cancel.reached 0 (visited g min max)).length,
        decide ((cancel.reached 0 (visited g min max)).length < (visited g min max).length)⟩,
        Nat.min ((cancel.reached 0 (visited g min max)).length + 1)
          (visited g min max).length) := by
  have hnodes : (stoppable g min max cancel accept).allNodes = visited g min max :=
    allNodes_congr rfl rfl rfl
  rw [run_eq_visitAll, hnodes, run_visitAll_stoppable, filterM_finds, Nat.zero_add]

end

/-! ## Searches with a log -/

/-- What a search has done apart from finding. -/
structure Log where
  /-- How often it has asked whether to stop. -/
  polls : Nat
  /-- The sets that it has tested. -/
  tested : List IndexSet

section

variable {ε : Type} {g : Graph} {min max : Nat} {cancel : Cancellation}
  {accept : IndexSet → Except ε Bool} {approved : IndexSet → Bool} {s : IndexSet}
  {before after : List IndexSet} {e : ε}

/-- A search that notes its polls and its tests. -/
def logged (g : Graph) (min max : Nat) (cancel : Cancellation)
    (accept : IndexSet → Except ε Bool) : Search (Tracked Log ε) where
  graph := g
  min := min
  max := max
  poll := ExceptT.mk do
    let log ← get
    set { log with polls := log.polls + 1 }
    return .ok (cancel.answer log.polls)
  accept s := ExceptT.mk do
    modify fun log => { log with tested := log.tested ++ [s] }
    return accept s

/-- What a search of the whole graph gives, and its log. -/
def runLogged (g : Graph) (min max : Nat) (cancel : Cancellation)
    (accept : IndexSet → Except ε Bool) : Except ε SearchResult × Log :=
  Tracked.outcome (logged g min max cancel accept).run ⟨0, []⟩

theorem runLogged_eq (g : Graph) (min max : Nat) (cancel : Cancellation)
    (accept : IndexSet → Except ε Bool) :
    runLogged g min max cancel accept =
      Tracked.outcome ((logged g min max cancel accept).visitAll (visited g min max)) ⟨0, []⟩ := by
  have hnodes : (logged g min max cancel accept).allNodes = visited g min max :=
    allNodes_congr rfl rfl rfl
  rw [runLogged, run_eq_visitAll, hnodes]

theorem outcome_poll (log : Log) :
    Tracked.outcome (logged g min max cancel accept).poll log
      = (.ok (cancel.answer log.polls), { log with polls := log.polls + 1 }) := rfl

theorem outcome_accept (s : IndexSet) (log : Log) :
    Tracked.outcome ((logged g min max cancel accept).accept s) log
      = (accept s, { log with tested := log.tested ++ [s] }) := rfl

theorem outcome_visit (h : ∀ t ∈ tests min [s], accept t = .ok (approved t)) (log : Log) :
    Tracked.outcome ((logged g min max cancel accept).visit s) log
      = (.ok ⟨(tests min [s]).filter approved, 1, false⟩,
          { log with tested := log.tested ++ tests min [s] }) := by
  have hmin : (logged g min max cancel accept).min = min := rfl
  rw [tests_cons] at h
  rw [visit_eq, finds, hmin, Tracked.outcome_bind, tests_cons]
  by_cases hsize : s.size ≥ Nat.max min 1
  · rw [if_pos hsize] at h
    rw [if_pos hsize, if_pos hsize, outcome_accept, h s List.mem_cons_self]
    cases hs : approved s <;> simp [Tracked.outcome_pure, tests, hs]
  · rw [if_neg hsize, if_neg hsize]
    simp [Tracked.outcome_pure, tests]

theorem outcome_visit_error (hsize : s.size ≥ Nat.max min 1) (hs : accept s = .error e)
    (log : Log) :
    Tracked.outcome ((logged g min max cancel accept).visit s) log
      = (.error e, { log with tested := log.tested ++ [s] }) := by
  have hmin : (logged g min max cancel accept).min = min := rfl
  rw [visit_eq, finds, hmin, if_pos hsize, Tracked.outcome_bind, outcome_accept, hs]

/-- A search goes through sets before which it is not stopped and whose tests succeed. -/
theorem outcome_visitAll_append {xs : List IndexSet} (ys : List IndexSet) {log : Log}
    (hrun : ∀ j < xs.length, cancel.answer (log.polls + j) = false)
    (h : ∀ s ∈ tests min xs, accept s = .ok (approved s)) :
    Tracked.outcome ((logged g min max cancel accept).visitAll (xs ++ ys)) log =
      let rest := Tracked.outcome ((logged g min max cancel accept).visitAll ys)
        ⟨log.polls + xs.length, log.tested ++ tests min xs⟩
      (rest.1.map (⟨(tests min xs).filter approved, xs.length, false⟩ ++ ·), rest.2) := by
  dsimp only
  induction xs generalizing log with
  | nil =>
    have hnone : ∀ x : Except ε SearchResult, x.map (SearchResult.none ++ ·) = x := by
      rintro (_ | r)
      · rfl
      · exact congrArg Except.ok r.none_append
    have hstart : (⟨log.polls + 0, log.tested ++ tests min []⟩ : Log) = log := by simp [tests]
    rw [List.nil_append, List.length_nil, hstart]
    exact Prod.ext (hnone _).symm rfl
  | cons s xs ih =>
    have hsplit : tests min (s :: xs) = tests min [s] ++ tests min xs := tests_append min [s] xs
    rw [hsplit, List.forall_mem_append] at h
    have hpoll : cancel.answer log.polls = false := hrun 0 (Nat.succ_pos _)
    have hlater : ∀ j < xs.length, cancel.answer (log.polls + 1 + j) = false := by
      intro j hj
      rw [Nat.add_right_comm]
      exact hrun (j + 1) (Nat.succ_lt_succ hj)
    have hstart : log.polls + 1 + xs.length = log.polls + (s :: xs).length := by
      rw [List.length_cons]
      omega
    rw [List.cons_append, visitAll, Tracked.outcome_bind, outcome_poll, hpoll]
    dsimp only
    rw [if_neg Bool.false_ne_true, Tracked.outcome_bind, outcome_visit h.1]
    dsimp only
    rw [andThen_of_running rfl, Tracked.outcome_map, ih hlater h.2, hsplit, hstart,
      List.append_assoc, List.filter_append, List.length_cons, Nat.add_comm xs.length]
    refine Prod.ext ?_ rfl
    dsimp only
    generalize Tracked.outcome _ _ = rest
    rcases rest with ⟨_ | r, _⟩
    · rfl
    · exact congrArg Except.ok (SearchResult.append_assoc ..).symm

/-! ## The ends of a search -/

/-- A search that is stopped has gone through the sets before the stop. -/
theorem runLogged_stopped (hsets : visited g min max = before ++ s :: after)
    (hstop : cancel.StopsAt before.length)
    (h : ∀ t ∈ tests min before, accept t = .ok (approved t)) :
    runLogged g min max cancel accept
      = (.ok ⟨(tests min before).filter approved, before.length, true⟩,
          ⟨before.length + 1, tests min before⟩) := by
  have hrun : ∀ j < before.length, cancel.answer (0 + j) = false := by
    intro j hj
    rw [Nat.zero_add, hstop.runs j hj]
  rw [runLogged_eq, hsets, outcome_visitAll_append _ hrun h, Nat.zero_add, visitAll,
    Tracked.outcome_bind, outcome_poll, hstop.stops]
  refine Prod.ext (congrArg Except.ok ?_) rfl
  show SearchResult.append _ .stopped = _
  simp [SearchResult.append, SearchResult.stopped]

/-- A search that is not stopped goes through all sets, if no test fails. -/
theorem runLogged_complete (hrun : ∀ j < (visited g min max).length, cancel.answer j = false)
    (h : ∀ t ∈ tests min (visited g min max), accept t = .ok (approved t)) :
    runLogged g min max cancel accept
      = (.ok ⟨(tests min (visited g min max)).filter approved, (visited g min max).length, false⟩,
          ⟨(visited g min max).length, tests min (visited g min max)⟩) := by
  have hrun' : ∀ j < (visited g min max).length, cancel.answer (0 + j) = false := by
    intro j hj
    rw [Nat.zero_add, hrun j hj]
  rw [runLogged_eq, ← List.append_nil (visited g min max), outcome_visitAll_append _ hrun' h,
    List.append_nil, Nat.zero_add, visitAll, Tracked.outcome_pure]
  refine Prod.ext (congrArg Except.ok ?_) rfl
  show SearchResult.append _ .none = _
  simp [SearchResult.append, SearchResult.none]

/-- A search that is not stopped fails with the first test that fails. -/
theorem runLogged_failed (hrun : ∀ j < (visited g min max).length, cancel.answer j = false)
    (hsets : visited g min max = before ++ s :: after)
    (h : ∀ t ∈ tests min before, accept t = .ok (approved t)) (hsize : s.size ≥ Nat.max min 1)
    (hs : accept s = .error e) :
    runLogged g min max cancel accept
      = (.error e, ⟨before.length + 1, tests min before ++ [s]⟩) := by
  have hlength : before.length < (visited g min max).length := by
    rw [hsets, List.length_append, List.length_cons]
    omega
  have hrun' : ∀ j < before.length, cancel.answer (0 + j) = false := by
    intro j hj
    rw [Nat.zero_add, hrun j (Nat.lt_trans hj hlength)]
  rw [runLogged_eq, hsets, outcome_visitAll_append _ hrun' h, Nat.zero_add, visitAll,
    Tracked.outcome_bind, outcome_poll, hrun _ hlength]
  dsimp only
  rw [if_neg Bool.false_ne_true, Tracked.outcome_bind, outcome_visit_error hsize hs]
  rfl

/-- Either no test of a list of sets fails, or one fails first. -/
theorem tests_succeed_or_fail (min : Nat) (accept : IndexSet → Except ε Bool)
    (sets : List IndexSet) :
    ∃ approved : IndexSet → Bool,
      (∀ t ∈ tests min sets, accept t = .ok (approved t)) ∨
      ∃ before s after e, sets = before ++ s :: after ∧
        (∀ t ∈ tests min before, accept t = .ok (approved t)) ∧
        s.size ≥ Nat.max min 1 ∧ accept s = .error e := by
  refine ⟨fun s => (accept s).toOption.getD false, ?_⟩
  induction sets with
  | nil => exact .inl fun t ht => absurd ht List.not_mem_nil
  | cons s sets ih =>
    by_cases hfail : s.size ≥ Nat.max min 1 ∧ ∃ e, accept s = .error e
    · obtain ⟨hsize, e, he⟩ := hfail
      exact .inr ⟨[], s, sets, e, rfl, fun t ht => absurd ht List.not_mem_nil, hsize, he⟩
    have hs : ∀ t ∈ tests min [s], accept t = .ok ((accept t).toOption.getD false) := by
      intro t ht
      obtain ⟨hmem, hsize⟩ := List.mem_filter.1 ht
      obtain rfl := List.mem_singleton.1 hmem
      cases haccept : accept t with
      | ok b => rfl
      | error e => exact absurd ⟨of_decide_eq_true hsize, e, haccept⟩ hfail
    have hsplit : ∀ xs, tests min (s :: xs) = tests min [s] ++ tests min xs :=
      fun xs => tests_append min [s] xs
    rcases ih with hall | ⟨before, t, after, e, rfl, hbefore, hsize, ht⟩
    · refine .inl ?_
      rw [hsplit, List.forall_mem_append]
      exact ⟨hs, hall⟩
    · refine .inr ⟨s :: before, t, after, e, rfl, ?_, hsize, ht⟩
      rw [hsplit, List.forall_mem_append]
      exact ⟨hs, hbefore⟩

/-- What a search does that is not stopped: it goes through a first part of the sets, with one poll
for each.  The part is the whole, or ends with the set whose test fails. -/
structure RunsThrough (g : Graph) (min max : Nat) (accept : IndexSet → Except ε Bool)
    (run : Except ε SearchResult × Log) (seen : List IndexSet) : Prop where
  initial : seen <+: visited g min max
  polls : run.2.polls = seen.length
  tested : run.2.tested = tests min seen
  complete : ∀ result, run.1 = .ok result → seen = visited g min max ∧
    result.explored = seen.length ∧ result.cancelled = false
  failed : ∀ e, run.1 = .error e → ∃ before s, seen = before ++ [s] ∧
    (∀ t ∈ tests min before, ∃ b, accept t = .ok b) ∧ accept s = .error e

/-- A search whose polls are all answered in the negative does what the search does that is never
stopped. -/
theorem runLogged_running (hrun : ∀ j < (visited g min max).length, cancel.answer j = false) :
    runLogged g min max cancel accept = runLogged g min max .never accept ∧
      ∃ seen, RunsThrough g min max accept (runLogged g min max cancel accept) seen := by
  have hnever : ∀ j < (visited g min max).length, Cancellation.never.answer j = false :=
    fun _ _ => rfl
  obtain ⟨approved, hall | ⟨before, s, after, e, hsets, hbefore, hsize, hs⟩⟩ :=
    tests_succeed_or_fail min accept (visited g min max)
  · rw [runLogged_complete hrun hall, runLogged_complete hnever hall]
    refine ⟨rfl, visited g min max, List.prefix_refl _, rfl, rfl, ?_, nofun⟩
    intro result hresult
    obtain rfl := Except.ok.inj hresult
    exact ⟨rfl, rfl, rfl⟩
  · rw [runLogged_failed hrun hsets hbefore hsize hs,
      runLogged_failed hnever hsets hbefore hsize hs]
    refine ⟨rfl, before ++ [s], ⟨after, ?_⟩, ?_, ?_, nofun, ?_⟩
    · rw [hsets, List.append_assoc]
      rfl
    · rw [List.length_append]
      rfl
    · rw [tests_append, tests_cons, if_pos hsize]
      rfl
    · intro e' he'
      obtain rfl := Except.error.inj he'
      exact ⟨before, s, rfl, fun t ht => ⟨_, hbefore t ht⟩, hs⟩

/-- A search that is stopped at the poll with the number `k` has visited the first `k` cliques of
the search that is never stopped, has tested and found what there is to test and to find among them,
and has polled once more.  A search whose polls are all answered in the negative does what the
search does that is never stopped, with one poll for each visit.  The test may have any effects; the
log shows that polls and tests are no more than that, also if the test fails. -/
theorem stopping_exact (g : Graph) (min max : Nat) (cancel : Cancellation) :
    (∀ k, cancel.StopsAt k → k < (visited g min max).length →
      (∀ {m : Type → Type} [Monad m] [LawfulMonad m] (accept : IndexSet → m Bool),
        (stoppable g min max cancel accept).run.run 0 = do
          let found ← (tests min ((visited g min max).take k)).filterM accept
          return (⟨found, k, true⟩, k + 1))
      ∧ ∀ {ε : Type} (accept : IndexSet → Except ε Bool) (approved : IndexSet → Bool),
        (∀ s ∈ tests min ((visited g min max).take k), accept s = .ok (approved s)) →
        runLogged g min max cancel accept
          = (.ok ⟨(tests min ((visited g min max).take k)).filter approved, k, true⟩,
              ⟨k + 1, tests min ((visited g min max).take k)⟩))
    ∧ ((∀ j < (visited g min max).length, cancel.answer j = false) →
      (∀ {m : Type → Type} [Monad m] [LawfulMonad m] (accept : IndexSet → m Bool),
        (stoppable g min max cancel accept).run.run 0 = do
          let result ← (uninterrupted g min max accept).run
          return (result, (visited g min max).length))
      ∧ ∀ {ε : Type} (accept : IndexSet → Except ε Bool),
        runLogged g min max cancel accept = runLogged g min max .never accept
        ∧ ∃ seen, RunsThrough g min max accept (runLogged g min max cancel accept) seen) := by
  refine ⟨fun k hstop hk => ⟨fun accept => ?_, fun accept approved h => ?_⟩,
    fun hrun => ⟨fun accept => ?_, fun accept => runLogged_running hrun⟩⟩
  · have hlength : ((visited g min max).take k).length = k :=
      List.length_take_of_le (Nat.le_of_lt hk)
    have hpolls : Nat.min (k + 1) (visited g min max).length = k + 1 := Nat.min_eq_left hk
    rw [run_stoppable, hstop.reached_eq, hlength, hpolls]
    simp only [hk, decide_true]
  · have hlength : ((visited g min max).take k).length = k :=
      List.length_take_of_le (Nat.le_of_lt hk)
    have hsets : visited g min max = (visited g min max).take k
        ++ (visited g min max)[k] :: (visited g min max).drop (k + 1) := by
      rw [← List.drop_eq_getElem_cons hk, List.take_append_drop]
    have hend := runLogged_stopped hsets (hlength.symm ▸ hstop) h
    rwa [hlength] at hend
  · have hpolls : Nat.min ((visited g min max).length + 1) (visited g min max).length
        = (visited g min max).length := Nat.min_eq_right (Nat.le_succ _)
    rw [run_stoppable, Cancellation.reached_of_running hrun, hpolls, run_uninterrupted, bind_assoc]
    simp only [lt_irrefl, decide_false, pure_bind]
    rfl

/-- A search of the kite that wants edges, stopped at its fourth poll, has tested an edge and the
triangle.  One that would be stopped only at its tenth poll is not stopped at all. -/
theorem stopping_exact_kite :
    (Cancellation.after 3).StopsAt 3 ∧ 3 < (visited kite 2 4).length
      ∧ runLogged kite 2 4 (.after 3) (fun s => (.ok (s.size == 2) : Except String Bool))
        = (.ok ⟨[.ofList 4 [0, 1]], 3, true⟩, ⟨4, [.ofList 4 [0, 1], .ofList 4 [0, 1, 2]]⟩)
      ∧ (∀ j < (visited kite 2 4).length, (Cancellation.after 9).answer j = false)
      ∧ runLogged kite 2 4 (.after 9) (fun s => (.ok (s.size == 2) : Except String Bool))
        = runLogged kite 2 4 .never fun s => .ok (s.size == 2) := by
  have hstop : (Cancellation.after 3).StopsAt 3 := ⟨by decide, by decide⟩
  have hlength : (visited kite 2 4).length = 9 := by decide +kernel
  have hk : 3 < (visited kite 2 4).length := by omega
  have htests : tests 2 ((visited kite 2 4).take 3)
      = [.ofList 4 [0, 1], .ofList 4 [0, 1, 2]] :=
    List.map_injective_iff.2 IndexSet.parts_injective (by decide +kernel)
  have hrun : ∀ j < (visited kite 2 4).length, (Cancellation.after 9).answer j = false := by
    rw [hlength]
    decide
  have hstopped := ((stopping_exact kite 2 4 (.after 3)).1 3 hstop hk).2
    (fun s => (.ok (s.size == 2) : Except String Bool)) (·.size == 2) fun s _ => rfl
  rw [htests] at hstopped
  exact ⟨hstop, hk, hstopped, hrun, (((stopping_exact kite 2 4 (.after 9)).2 hrun).2 _).1⟩

end

end Search

end Ensemble
