/-
The ids of the state handlers over any run of start-ups.

A start-up takes an id and gives it back when it has received a state. It
also ends when vsomeip creates no application, or when no state comes in
time, and then its id is neither free nor anybody's (`next_pool`). So once no
start-up is on its way, the pool is full if and only if no start-up of the
run ended in one of these two ways (`full_iff`).
-/
import VsomeipTransport.CreateAppFacts
import VsomeipTransport.Lib.LeasePool
import Mathlib.Order.Interval.Finset.Nat

namespace VsomeipTransport

namespace StartUps

open Leases

variable {I : Type} {appName : I → ApplicationName} {s s' : StartUps I} {i : I}

/-- The free ids, and the one each start-up on its way has. -/
def pool (s : StartUps I) : Pool I StateHandlerId :=
  ⟨s.handlers.freeStateHandlerIds, fun i => (s.startUps i).handler.map (·.id)⟩

/-- No `create_app` call is in progress. -/
def Idle (s : StartUps I) : Prop := ∀ i, s.startUps i = .notStarted ∨ ∃ res, s.startUps i = .ended res

/-- vsomeip creates the application of a start-up that has an id, and a
start-up that waits for a state is not timed out. -/
def GivesBack (s : StartUps I) : StartEvent I → Prop
  | .createApplication i created => ∀ fn, s.startUps i = .holding fn → created = true
  | .timeOut i => ∀ fn, s.startUps i = .waiting fn → s.handlers.channels fn.id ≠ []
  | _ => True

theorem Idle.lent (h : s.Idle) (i : I) : s.pool.lent i = none := by
  rcases h i with hi | ⟨_, hi⟩
  · simp [pool, hi, StartUp.handler]
  · simp [pool, hi, StartUp.handler]

theorem pool_holds {fn : AvailableStateHandlerFnPtr} (h : (s.startUps i).handler = some fn) :
    s.pool.Holds i fn.id := by
  simp [Pool.Holds, pool, h]

theorem start_sound : (start : StartUps I).pool.Sound (Finset.range numStateHandlers) where
  exclusive := ⟨fun h => (by cases h), fun h => (by cases h)⟩
  free_mem h := h
  lent_mem h := by cases h

theorem start_complete : (start : StartUps I).pool.Complete (Finset.range numStateHandlers) := fun _ h => .inl h

variable [DecidableEq I]

/-- A start-up that moves on changes its own lease only. -/
theorem pool_update {startUp : StartUp} (h : s'.startUps = Function.update s.startUps i startUp) :
    s'.pool = ⟨s'.handlers.freeStateHandlerIds,
      Function.update s.pool.lent i (startUp.handler.map (·.id))⟩ := by
  simp only [pool, h, Pool.mk.injEq, true_and]
  funext j
  by_cases hj : j = i
  · subst hj
    simp
  · simp [hj]

theorem pool_kept {startUp : StartUp} (h : s'.startUps = Function.update s.startUps i startUp)
    (hfree : s'.handlers.freeStateHandlerIds = s.handlers.freeStateHandlerIds)
    (hsame : startUp.handler = (s.startUps i).handler) : s.pool.Step s'.pool := by
  have hpool : s'.pool = s.pool := by
    rw [pool_update h, hfree, hsame]
    show (⟨_, Function.update s.pool.lent i (s.pool.lent i)⟩ : Pool I StateHandlerId) = _
    rw [Function.update_eq_self]
    rfl
  rw [hpool]
  exact .kept

theorem pool_lost {startUp : StartUp} (fn : AvailableStateHandlerFnPtr)
    (h : s'.startUps = Function.update s.startUps i startUp)
    (hfree : s'.handlers.freeStateHandlerIds = s.handlers.freeStateHandlerIds)
    (hfn : (s.startUps i).handler = some fn) (hnone : startUp.handler = none) : s.pool.Loss s'.pool := by
  rw [pool_update h, hfree, hnone]
  exact .lost (pool_holds hfn)

theorem pool_taken {startUp : StartUp} (fn : AvailableStateHandlerFnPtr)
    (h : s'.startUps = Function.update s.startUps i startUp)
    (hfree : s'.handlers.freeStateHandlerIds = s.handlers.freeStateHandlerIds.erase fn.id)
    (hnone : (s.startUps i).handler = none) (hfn : startUp.handler = some fn)
    (hmem : fn.id ∈ s.handlers.freeStateHandlerIds) : s.pool.Step s'.pool := by
  have hlent : s.pool.lent i = none := by simp [pool, hnone]
  rw [pool_update h, hfree, hfn]
  exact .taken hlent hmem

theorem pool_given {startUp : StartUp} (fn : AvailableStateHandlerFnPtr)
    (h : s'.startUps = Function.update s.startUps i startUp)
    (hfree : s'.handlers.freeStateHandlerIds = insert fn.id s.handlers.freeStateHandlerIds)
    (hfn : (s.startUps i).handler = some fn) (hnone : startUp.handler = none) : s.pool.Step s'.pool := by
  rw [pool_update h, hfree, hnone]
  exact .given (pool_holds hfn)

/-- **A step of a start-up is a step of the pool, or loses an id**: it loses
one when the start-up ends with an id it has not given back. -/
theorem next_pool (hs : s.pool.Sound (Finset.range numStateHandlers)) (e : StartEvent I) :
    (s.GivesBack e ∧ s.pool.Step (s.next appName e).pool) ∨ (¬ s.GivesBack e ∧ s.pool.Loss (s.next appName e).pool) := by
  cases e with
  | findApplication i =>
    refine .inl ⟨trivial, ?_⟩
    simp only [next]
    cases hi : s.startUps i with
    | notStarted =>
      by_cases hname : appName i ∈ s.applications
      · simp only [hname, if_true]
        exact pool_kept (i := i) rfl rfl (by rw [hi]; rfl)
      · simp only [hname, if_false]
        exact pool_kept (i := i) rfl rfl (by rw [hi]; rfl)
    | _ => exact .kept
  | findId i order =>
    refine .inl ⟨trivial, ?_⟩
    simp only [next, StateHandlers.findAvailableStateHandlerId]
    cases hi : s.startUps i with
    | unused =>
      cases hnext : order.next s.handlers.freeStateHandlerIds with
      | none => exact pool_kept (i := i) rfl rfl (by rw [hi]; rfl)
      | some id =>
        have hmem := order.next_mem hnext
        have hlt : id < numStateHandlers := Finset.mem_range.1 (hs.free_mem hmem)
        simp only [StateHandlers.getStateHandler, hlt, dite_true]
        exact pool_taken (i := i) ⟨id, hlt⟩ rfl rfl (by rw [hi]; rfl) rfl hmem
    | _ => exact .kept
  | createApplication i created =>
    simp only [next]
    cases hi : s.startUps i with
    | holding fn =>
      cases created with
      | true => exact .inl ⟨fun _ _ => rfl, pool_kept (i := i) rfl rfl (by rw [hi]; rfl)⟩
      | false =>
        refine .inr ⟨fun hback => absurd (hback fn hi) (by decide), ?_⟩
        exact pool_lost (i := i) fn rfl rfl (by rw [hi]; rfl) rfl
    | _ => exact .inl ⟨fun _ hfn => absurd (hi.symm.trans hfn) (by simp), .kept⟩
  | receive i =>
    refine .inl ⟨trivial, ?_⟩
    simp only [next, StateHandlers.receive]
    cases hi : s.startUps i with
    | waiting fn =>
      cases hchannel : s.handlers.channels fn.id with
      | nil => simp only [hchannel]; exact .kept
      | cons event events =>
        simp only [hchannel]
        exact pool_kept (i := i) rfl rfl (by rw [hi]; rfl)
    | _ => exact .kept
  | timeOut i =>
    simp only [next, StateHandlers.receive]
    cases hi : s.startUps i with
    | waiting fn =>
      cases hchannel : s.handlers.channels fn.id with
      | nil =>
        simp only [hchannel]
        refine .inr ⟨fun hback => hback fn hi hchannel, ?_⟩
        exact pool_lost (i := i) fn rfl rfl (by rw [hi]; rfl) rfl
      | cons event events =>
        simp only [hchannel]
        refine .inl ⟨fun fn' hfn => ?_, .kept⟩
        cases hi.symm.trans hfn
        simp [hchannel]
    | _ => exact .inl ⟨fun _ hfn => absurd (hi.symm.trans hfn) (by simp), .kept⟩
  | unregister i =>
    refine .inl ⟨trivial, ?_⟩
    simp only [next]
    cases hi : s.startUps i with
    | received fn => exact pool_kept (i := i) rfl rfl (by rw [hi]; rfl)
    | _ => exact .kept
  | freeId i =>
    refine .inl ⟨trivial, ?_⟩
    simp only [next, StateHandlers.freeStateHandlerId]
    cases hi : s.startUps i with
    | unregistered fn =>
      exact pool_given (i := i) fn rfl rfl (by rw [hi]; rfl) rfl
    | _ => exact .kept
  | stateCallback i state =>
    refine .inl ⟨trivial, ?_⟩
    simp only [next]
    cases hi : s.installed i with
    | some fn => exact .kept
    | none => exact .kept
  | send n =>
    refine .inl ⟨trivial, ?_⟩
    simp only [next, StateHandlers.send]
    cases hn : s.callbacks[n]? with
    | none => exact .kept
    | some callback =>
      by_cases hlen : (s.handlers.channels callback.1).length < stateChannelCapacity
      · simp only [hlen, if_true]; exact .kept
      · simp only [hlen, if_false]; exact .kept
  | applicationGone name => exact .inl ⟨trivial, .kept⟩

/-- **With no start-up on its way, the pool is full if and only if** every
start-up that took an id got an application and, in time, a state. -/
theorem full_iff {events : List (StartEvent I)} (hidle : (reached appName events).Idle) :
    (reached appName events).handlers.freeStateHandlerIds = Finset.range numStateHandlers ↔
      Runs.Guarded (step appName) GivesBack start events := by
  have hstep : ∀ (s : StartUps I) e, s.pool.Sound (Finset.range numStateHandlers) →
      (s.GivesBack e ∧ s.pool.Step (step appName s e).1.pool) ∨
        (¬ s.GivesBack e ∧ s.pool.Loss (step appName s e).1.pool) := fun _ e hs => next_pool hs e
  have hsound : (reached appName events).pool.Sound (Finset.range numStateHandlers) :=
    Pool.sound_after hstep start_sound events
  have hcomplete : (reached appName events).pool.Complete (Finset.range numStateHandlers) ↔
      Runs.Guarded (step appName) GivesBack start events :=
    Pool.complete_iff_guarded hstep start_sound start_complete events
  rw [← hcomplete]
  exact (Pool.complete_iff_full hsound hidle.lent).symm

theorem full_iff_sample :
    (reached names (wholeStartUp false [.stRegistered])).handlers.freeStateHandlerIds = Finset.range numStateHandlers ↔
      Runs.Guarded (step names) GivesBack start (wholeStartUp false [.stRegistered]) := by
  have hfree : (start : StartUps Bool).handlers.freeStateHandlerIds = Finset.range numStateHandlers := rfl
  have hreached : reached names (wholeStartUp false [.stRegistered]) = _ :=
    after_wholeStartUp [.stRegistered] ⟨false, .stRegistered⟩ [] hfree rfl (by simp [start]) rfl rfl (by decide)
  refine full_iff fun i => ?_
  rw [hreached]
  cases i with
  | false => exact .inr ⟨_, rfl⟩
  | true => exact .inl rfl

/-! ## Start-ups that fail -/

/-- How a start-up ends whose application cannot be created. -/
def uncreated : StartUp := .ended (.returned (.error (.failWithCode .internal "Unable to create vsomeip application")))

/-- It has taken an id by then. -/
theorem after_uncreated {order : IterOrder StateHandlerId} (fn : AvailableStateHandlerFnPtr)
    (hi : s.startUps i = .notStarted) (hname : appName i ∉ s.applications)
    (hnext : order.next s.handlers.freeStateHandlerIds = some fn.id) :
    Runs.after (step appName) s [.findApplication i, .findId i order, .createApplication i false] = { s with
      handlers := { s.handlers with freeStateHandlerIds := s.handlers.freeStateHandlerIds.erase fn.id }
      startUps := Function.update s.startUps i uncreated } := by
  simp [step, next, setStartUp, fail, uncreated, StateHandlers.findAvailableStateHandlerId,
    StateHandlers.getStateHandler, hi, hname, hnext, fn.lt]

/-- The first `n` start-ups: each takes an id and gets no application. -/
def failedStarts (n : ℕ) : List (StartEvent ℕ) :=
  (List.range n).flatMap fun i => [.findApplication i, .findId i .least, .createApplication i false]

/-- Where they leave the process. -/
def afterFailedStarts (n : ℕ) : StartUps ℕ :=
  { (start : StartUps ℕ) with
    handlers := ⟨Finset.Ico n numStateHandlers, fun _ => []⟩
    startUps := fun i => if i < n then uncreated else .notStarted }

theorem after_failedStart (appName : ℕ → ApplicationName) {n : ℕ} (hn : n < numStateHandlers) :
    Runs.after (step appName) (afterFailedStarts n)
      [.findApplication n, .findId n .least, .createApplication n false] = afterFailedStarts (n + 1) := by
  have hmem : n ∈ Finset.Ico n numStateHandlers := Finset.mem_Ico.2 ⟨le_rfl, hn⟩
  have hnext : IterOrder.least.next (Finset.Ico n numStateHandlers) = some n :=
    IterOrder.least_next hmem fun _ hm => (Finset.mem_Ico.1 hm).1
  have herase : (Finset.Ico n numStateHandlers).erase n = Finset.Ico (n + 1) numStateHandlers := by
    ext id
    rw [Finset.mem_erase, Finset.mem_Ico, Finset.mem_Ico]
    omega
  have hstartUps : Function.update (afterFailedStarts n).startUps n uncreated = (afterFailedStarts (n + 1)).startUps := by
    funext i
    simp only [afterFailedStarts, Function.update_apply]
    by_cases hi : i = n
    · simp [hi]
    · have hlt : i < n + 1 ↔ i < n := by omega
      simp [hi, hlt]
  have hready : (afterFailedStarts n).startUps n = .notStarted := by simp [afterFailedStarts]
  rw [after_uncreated ⟨n, hn⟩ hready (by simp [afterFailedStarts, start]) hnext, hstartUps]
  show ({ afterFailedStarts n with handlers := ⟨(Finset.Ico n numStateHandlers).erase n, _⟩, startUps := _ } : StartUps ℕ) = _
  rw [herase]
  rfl

/-- Each of them costs one id. -/
theorem reached_failedStarts (appName : ℕ → ApplicationName) {n : ℕ} (hn : n ≤ numStateHandlers) :
    reached appName (failedStarts n) = afterFailedStarts n := by
  induction n with
  | zero => simp [reached, failedStarts, afterFailedStarts, start, StateHandlers.new]
  | succ n ih =>
    have hbefore := ih (Nat.le_of_succ_le hn)
    rw [reached] at hbefore ⊢
    rw [failedStarts, List.range_succ, List.flatMap_append, Runs.after_append]
    rw [failedStarts] at hbefore
    rw [hbefore, List.flatMap_singleton, after_failedStart appName hn]

theorem afterFailedStarts_idle (n : ℕ) : (afterFailedStarts n).Idle := by
  intro i
  simp only [afterFailedStarts]
  split
  · exact .inr ⟨_, rfl⟩
  · exact .inl rfl

/-- One failed start takes an id for good, as many as there are ids leave none. -/
theorem failed_starts_exhaust :
    let once := reached (fun _ => "app") (failedStarts 1)
    let often := reached (fun _ => "app") (failedStarts numStateHandlers)
    once.Idle ∧ once.handlers.freeStateHandlerIds ≠ Finset.range numStateHandlers ∧
    often.Idle ∧ often.handlers.freeStateHandlerIds = ∅ := by
  intro once often
  have honce : once = afterFailedStarts 1 := reached_failedStarts _ (by decide)
  have hoften : often = afterFailedStarts numStateHandlers := reached_failedStarts _ le_rfl
  rw [honce, hoften]
  refine ⟨afterFailedStarts_idle _, fun hfull => ?_, afterFailedStarts_idle _, Finset.Ico_self _⟩
  have hfirst : 0 ∈ Finset.range numStateHandlers := Finset.mem_range.2 (by decide)
  have hgone : 0 ∉ Finset.Ico 1 numStateHandlers := by simp
  exact hgone (hfull.symm.subset hfirst)

end StartUps

end VsomeipTransport
