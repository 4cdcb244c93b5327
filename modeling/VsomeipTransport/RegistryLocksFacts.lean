/-
The handler registry under any interleaving of its threads.

The programs of `RegistryLocks` come to the functions of
`MessageHandlerRegistry` when they run alone (`eval_of`), and keep the
discipline of the locks (`disciplined_of`). So their interleavings are runs
of these functions one after the other, and none of them ends in a deadlock.
-/
import VsomeipTransport.Lib.LocksFacts
import VsomeipTransport.RegistryLocks

namespace VsomeipTransport

open Locks RegistryLock

variable {T L : Type} [DecidableEq T] [DecidableEq L]

namespace RegistryProg

/-! ## The programs alone -/

/-- The data after a thread leaves these maps behind. -/
def leaves (d : ∀ k, Behind T L k) (self : T) (maps : LockedMaps T L) : ∀ k, Behind T L k :=
  Function.update (Function.update (Function.update d .transportStorage maps.messageHandlerIdToTransportStorage)
    .freeIds maps.freeMessageHandlerIds) (.listenerConfigs self) maps.messageHandlerIdAndListenerConfig

omit [DecidableEq L] in
theorem leaves_eq {d d' : ∀ k, Behind T L k} {self : T} {maps : LockedMaps T L}
    (hstorages : d' .transportStorage = maps.messageHandlerIdToTransportStorage)
    (hfree : d' .freeIds = maps.freeMessageHandlerIds)
    (hconfigs : d' (.listenerConfigs self) = maps.messageHandlerIdAndListenerConfig)
    (hothers : ∀ t ≠ self, d' (.listenerConfigs t) = d (.listenerConfigs t)) : d' = leaves d self maps := by
  funext k
  cases k with
  | transportStorage => rw [hstorages]; simp [leaves]
  | freeIds => rw [hfree]; simp [leaves]
  | listenerConfigs t =>
    by_cases ht : t = self
    · subst ht
      rw [hconfigs]
      simp [leaves]
    · rw [hothers t ht]
      simp [leaves, ht]

omit [DecidableEq L] in
/-- The maps a thread leaves, lock by lock. -/
theorem behind_unlock (d : ∀ k, Behind T L k) (self : T) (maps : LockedMaps T L) :
    ((MessageHandlers.ofBehind d).unlock self maps).behind = leaves d self maps := by
  refine leaves_eq rfl rfl ?_ fun t ht => ?_
  · simp [MessageHandlers.behind, MessageHandlers.unlock]
  · simp [MessageHandlers.behind, MessageHandlers.unlock, MessageHandlers.ofBehind, ht]

theorem eval_getMessageHandler (up : UpRust) (order : IterOrder MessageHandlerId) (self : T)
    (cfg : ListenerConfig L) (d : ∀ k, Behind T L k) :
    (getMessageHandler up order self self cfg).eval d = (RegistryOp.handler (.get self cfg order)).exec up d := by
  simp only [getMessageHandler, Prog.eval, RegistryOp.exec, RegistryOp.apply, handlerStep,
    MessageHandlers.getMessageHandler, behind_unlock]
  simp only [LockedMaps.getMessageHandler, MessageHandlers.lock, MessageHandlers.ofBehind]
  cases hfind : LockedMaps.findAvailableMessageHandlerId order (d .freeIds) with
  | mk found free =>
  cases found with
  | error e =>
    have hfree : d .freeIds = free := by
      simp only [LockedMaps.findAvailableMessageHandlerId] at hfind
      split at hfind
      · cases hfind
      · cases hfind; rfl
    exact Prod.ext rfl (leaves_eq rfl hfree rfl fun _ _ => rfl)
  | ok id =>
    simp only [Prog.eval]
    cases hstore : LockedMaps.insertMessageHandlerIdTransport (d .transportStorage) id self with
    | mk stored storages =>
    cases stored with
    | error e =>
      refine Prod.ext rfl (leaves_eq ?_ ?_ ?_ fun t ht => ?_)
      all_goals simp [Prog.eval, LockedMaps.rollBack, LockedMaps.rollBackFree]
    | ok u =>
      simp only [Prog.eval]
      cases hbind : LockedMaps.insertMessageHandlerIdAndListenerConfig (d (.listenerConfigs self)) id cfg with
      | mk bound configs =>
      cases bound with
      | error e =>
        cases e with
        | messageHandlerIdAlreadyExists listenerId =>
          refine Prod.ext rfl (leaves_eq ?_ ?_ ?_ fun t ht => ?_)
          all_goals simp [Prog.eval, LockedMaps.rollBack, LockedMaps.rollBackFree, LockedMaps.rollBackTransport]
        | listenerConfigAlreadyExists =>
          cases hfn : getExternFn id <;> refine Prod.ext rfl (leaves_eq ?_ ?_ ?_ fun t ht => ?_)
          all_goals simp [Prog.eval, LockedMaps.rollBack, LockedMaps.rollBackFree, LockedMaps.rollBackTransport]
      | ok u =>
        cases hfn : getExternFn id <;> refine Prod.ext rfl (leaves_eq ?_ ?_ ?_ fun t ht => ?_)
        all_goals simp_all [Prog.eval]

theorem eval_releaseMessageHandler (up : UpRust) (self : T) (cfg : ListenerConfig L) (d : ∀ k, Behind T L k) :
    (releaseMessageHandler self cfg).eval d = (RegistryOp.handler (.release self cfg)).exec up d := by
  simp only [releaseMessageHandler, Prog.eval, RegistryOp.exec, RegistryOp.apply, handlerStep,
    MessageHandlers.releaseMessageHandler, behind_unlock]
  simp only [LockedMaps.releaseMessageHandler, MessageHandlers.lock, MessageHandlers.ofBehind]
  cases hright : (d (.listenerConfigs self)).getByRight cfg with
  | none => exact Prod.ext rfl (leaves_eq rfl rfl rfl fun _ _ => rfl)
  | some id =>
    refine Prod.ext rfl (leaves_eq ?_ ?_ ?_ fun t ht => ?_)
    · simp [Prog.eval]
    · simp [Prog.eval]
    · simp [Prog.eval]
    · simp [Prog.eval, ht]

/-- **On its own, a program is the function it stands for.** -/
theorem eval_of (up : UpRust) (op : RegistryOp T L) : (of up op).eval = op.exec up := by
  funext d
  cases op with
  | handler op =>
    cases op with
    | get self cfg order => exact eval_getMessageHandler up order self cfg d
    | release self cfg => exact eval_releaseMessageHandler up self cfg d
  | getMessageHandlerIdTransport messageHandlerId =>
    simp only [of, reading, Prog.eval, RegistryOp.exec, RegistryOp.apply, MessageHandlers.behind_ofBehind]
    rfl
  | getListenerForMessageHandlerId self messageHandlerId =>
    simp only [of, reading, Prog.eval, RegistryOp.exec, RegistryOp.apply, MessageHandlers.behind_ofBehind]
    rfl
  | getMessageHandlerIds self order =>
    simp only [of, reading, Prog.eval, RegistryOp.exec, RegistryOp.apply, MessageHandlers.behind_ofBehind]
    rfl
  | getListenerConfigForMessageHandlerId self messageHandlerId =>
    simp only [of, reading, Prog.eval, RegistryOp.exec, RegistryOp.apply, MessageHandlers.behind_ofBehind]
    rfl

/-! ## The discipline -/

/-- All that `get_message_handler` and `release_message_handler` hold. -/
def allOf (self : T) : Held (RegistryLock T)
  | .listenerConfigs t => if t = self then some .exclusive else none
  | _ => some .exclusive

omit [DecidableEq L] in
/-- Both take the three locks in the same order. -/
theorem disciplined_locked {self : T}
    {body : PartialMap MessageHandlerId T → Finset MessageHandlerId → BiMap MessageHandlerId (ListenerConfig L) →
      RegistryProg T L}
    (h : ∀ storages free configs, (body storages free configs).Disciplined rank true (allOf self)) :
    Prog.Disciplined (D := Behind T L) rank true Held.nothing (.lock .transportStorage .exclusive fun storages =>
      .lock .freeIds .exclusive fun free => .lock (.listenerConfigs self) .exclusive fun configs =>
      body storages free configs) := by
  have hheld : Function.update (Function.update (Function.update Held.nothing .transportStorage (some .exclusive))
      .freeIds (some .exclusive)) (.listenerConfigs self) (some .exclusive) = allOf self := by
    funext k
    cases k with
    | transportStorage => simp [allOf]
    | freeIds => simp [allOf]
    | listenerConfigs t => by_cases ht : t = self <;> simp [allOf, ht, Held.nothing]
  refine ⟨rfl, fun k hk => absurd rfl hk, fun storages => ⟨rfl, fun k hk => ?_, fun free => ⟨rfl, fun k hk => ?_,
    fun configs => ?_⟩⟩⟩
  · cases k <;> simp_all [Held.nothing, rank]
  · cases k <;> simp_all [Held.nothing, rank]
  · rw [hheld]
    exact h storages free configs

theorem disciplined_getMessageHandler (up : UpRust) (order : IterOrder MessageHandlerId) (self : T)
    (cfg : ListenerConfig L) :
    (getMessageHandler up order self self cfg).Disciplined rank true Held.nothing := by
  refine disciplined_locked fun storages free configs => ?_
  split
  · refine ⟨by simp [allOf], by simp [allOf], by simp [allOf], fun k => ?_⟩
    cases k <;> simp [allOf, Function.update]
  · refine ⟨by simp [allOf], ?_⟩
    split
    · refine ⟨by simp [allOf], by simp [allOf], by simp [allOf], by simp [allOf], fun k => ?_⟩
      cases k <;> simp [allOf, Function.update]
    · refine ⟨by simp [allOf], ?_⟩
      split
      · refine ⟨by simp [allOf], by simp [allOf], by simp [allOf], by simp [allOf], by simp [allOf], fun k => ?_⟩
        cases k <;> simp [allOf, Function.update]
      · refine ⟨by simp [allOf], by simp [allOf], by simp [allOf], by simp [allOf], fun k => ?_⟩
        cases k <;> simp [allOf, Function.update]

omit [DecidableEq L] in
theorem disciplined_releaseMessageHandler (self : T) (cfg : ListenerConfig L) :
    (releaseMessageHandler self cfg).Disciplined rank true Held.nothing := by
  refine disciplined_locked fun storages free configs => ?_
  split
  · refine ⟨by simp [allOf], by simp [allOf], by simp [allOf], fun k => ?_⟩
    cases k <;> simp [allOf, Function.update]
  · refine ⟨by simp [allOf], by simp [allOf], by simp [allOf], by simp [allOf], by simp [allOf], by simp [allOf],
      fun k => ?_⟩
    cases k <;> simp [allOf, Function.update]

omit [DecidableEq L] in
theorem disciplined_reading (k : RegistryLock T) (answer : Behind T L k → RegistryAnswer T L) :
    (reading k answer).Disciplined rank true Held.nothing := by
  refine ⟨rfl, fun k' hk' => absurd rfl hk', fun map => ⟨by simp, fun k' => ?_⟩⟩
  simp only [Function.update_apply]
  split <;> rfl

/-- Every program takes its locks in one order, and none after it gave one
back. -/
theorem disciplined_of (up : UpRust) (op : RegistryOp T L) : (of up op).Disciplined rank true Held.nothing := by
  cases op with
  | handler op =>
    cases op with
    | get self cfg order => exact disciplined_getMessageHandler up order self cfg
    | release self cfg => exact disciplined_releaseMessageHandler self cfg
  | getMessageHandlerIdTransport messageHandlerId => exact disciplined_reading _ _
  | getListenerForMessageHandlerId self messageHandlerId => exact disciplined_reading _ _
  | getMessageHandlerIds self order => exact disciplined_reading _ _
  | getListenerConfigForMessageHandlerId self messageHandlerId => exact disciplined_reading _ _

omit [DecidableEq T] in
/-- No program takes more than twelve actions. -/
theorem within_of (up : UpRust) (op : RegistryOp T L) : (of up op).Within 12 := by
  cases op with
  | handler op =>
    cases op with
    | get self cfg order =>
      intro storages free configs
      simp only
      split
      · trivial
      · simp only [Prog.Within]
        split
        · trivial
        · simp only [Prog.Within]
          split
          · trivial
          · trivial
    | release self cfg =>
      intro storages free configs
      simp only
      split
      · trivial
      · trivial
  | getMessageHandlerIdTransport messageHandlerId => intro storages; trivial
  | getListenerForMessageHandlerId self messageHandlerId => intro configs; trivial
  | getMessageHandlerIds self order => intro configs; trivial
  | getListenerConfigForMessageHandlerId self messageHandlerId => intro configs; trivial

end RegistryProg

/-! ## Any interleaving -/

variable {Th : Type} [DecidableEq Th]

/-- **The registry's functions take effect one at a time**, however the
actions of their threads are interleaved: what they return is what the
functions return when each runs in one step, at a moment between its call and
its return, and a map nobody writes is as these steps left it. -/
theorem registry_calls_take_effect_at_once (up : UpRust) (h : MessageHandlers T L)
    (es : List (Event Th (RegistryOp T L))) :
    ∃ as, List.Forall₂ Matches es as ∧
      Runs.outputs (Threads.step (RegistryProg.of up)) (.fresh h.behind) es =
        Runs.outputs (Atomic.step (RegistryOp.exec up)) (.fresh h.behind) as ∧
      ∀ k, ((Runs.after (Threads.step (RegistryProg.of up)) (.fresh h.behind) es).owners k).writer = none →
        (Runs.after (Threads.step (RegistryProg.of up)) (.fresh h.behind) es).data k =
          (Runs.after (Atomic.step (RegistryOp.exec up)) (.fresh h.behind) as).data k := by
  obtain ⟨as, hmatches, houts, hsim⟩ :=
    refines_atomic (RegistryProg.disciplined_of up) (RegistryProg.eval_of up) h.behind es
  exact ⟨as, hmatches, houts, hsim.data⟩

/-- **The registry never deadlocks**: from every state its threads come to,
they can go on until all of them have returned. -/
theorem registry_never_deadlocks (up : UpRust) (h : MessageHandlers T L) (es : List (Event Th (RegistryOp T L))) :
    ∃ moves : List Th, ∀ t, (Runs.after (Threads.step (RegistryProg.of up)) (.fresh h.behind)
      (es ++ moves.map .move)).progs t = none := by
  have hrank : ∀ k : RegistryLock T, k.rank < 3 := by
    intro k
    cases k <;> simp [RegistryLock.rank]
  exact can_return (RegistryProg.disciplined_of up) (RegistryProg.eval_of up) hrank (RegistryProg.within_of up) _ es

/-- The pool invariant is kept by what takes effect. -/
theorem PoolInvariant.exec {up : UpRust} {d : ∀ k, Behind T L k} (hI : PoolInvariant (MessageHandlers.ofBehind d))
    (op : RegistryOp T L) : PoolInvariant (MessageHandlers.ofBehind (op.exec up d).2) := by
  cases op with
  | handler op => exact hI.step op
  | getMessageHandlerIdTransport messageHandlerId => exact hI
  | getListenerForMessageHandlerId self messageHandlerId => exact hI
  | getMessageHandlerIds self order => exact hI
  | getListenerConfigForMessageHandlerId self messageHandlerId => exact hI

theorem PoolInvariant.unwritten {up : UpRust} {h : MessageHandlers T L} (hI : PoolInvariant h)
    {es : List (Event Th (RegistryOp T L))} {s : Threads Th (RegistryLock T) (Behind T L) (RegistryAnswer T L)}
    (hs : s = Runs.after (Threads.step (RegistryProg.of up)) (.fresh h.behind) es)
    (hfree : ∀ k, (s.owners k).writer = none) : PoolInvariant (.ofBehind s.data) := by
  obtain ⟨as, -, -, hsim⟩ := refines_atomic (RegistryProg.disciplined_of up) (RegistryProg.eval_of up) h.behind es
  rw [← hs] at hsim
  rw [funext fun k => hsim.data k (hfree k)]
  have hI' : PoolInvariant (MessageHandlers.ofBehind h.behind) := hI
  exact Atomic.data_invariant (fun d => PoolInvariant (MessageHandlers.ofBehind d)) (fun op d hd => hd.exec op) hI' as

/-- **Whenever no thread writes, every id is free or bound in one
transport.** -/
theorem pool_invariant_unwritten (up : UpRust) (es : List (Event Th (RegistryOp T L))) :
    let fresh : MessageHandlers T L := .new
    let s := Runs.after (Threads.step (RegistryProg.of up)) (.fresh fresh.behind) es
    (∀ k, (s.owners k).writer = none) → PoolInvariant (.ofBehind s.data) := by
  intro fresh s hfree
  exact PoolInvariant.new.unwritten rfl hfree

def sampleBinding : ListenerConfig Unit := ⟨⟨"me", 1, 1, 0x8001⟩, none, ()⟩

/-- A registration, and a callback that looks up the id it takes: first the
callback waits for the registration, then it reads before that is over. -/
def sampleInterleaving : List (Event Bool (RegistryOp Unit Unit)) :=
  [.start true (.handler (.get () sampleBinding .least)), .move true,
    .start false (.getMessageHandlerIdTransport 0), .move false,
    .move true, .move true, .move true, .move true, .move true, .move true, .move true,
    .move false, .move true, .move true]

/-- The registration took id 0, and the callback still reads. -/
theorem sampleInterleaving_after (up : UpRust) : ∃ s, s = Runs.after (Threads.step (RegistryProg.of up))
      (.fresh (MessageHandlers.new : MessageHandlers Unit Unit).behind) sampleInterleaving ∧
    (MessageHandlers.ofBehind s.data).Bound () 0 sampleBinding ∧ ∀ k, (s.owners k).writer = none := by
  have hfind : LockedMaps.findAvailableMessageHandlerId .least (Finset.range numMessageHandlers) =
      (.ok 0, (Finset.range numMessageHandlers).erase 0) := by
    have hnext : IterOrder.least.next (Finset.range numMessageHandlers) = some 0 :=
      IterOrder.least_next (Finset.mem_range.2 (by decide)) fun _ _ => Nat.zero_le _
    simp only [LockedMaps.findAvailableMessageHandlerId, hnext]
  have hstore : LockedMaps.insertMessageHandlerIdTransport (PartialMap.empty : PartialMap MessageHandlerId Unit) 0 () =
      (.ok (), PartialMap.empty.insert 0 ()) := rfl
  obtain ⟨configs, hbind, hbound⟩ : ∃ configs, LockedMaps.insertMessageHandlerIdAndListenerConfig BiMap.empty 0
      sampleBinding = (.ok (), configs) ∧ configs.getByLeft 0 = some sampleBinding := ⟨_, rfl, rfl⟩
  refine ⟨_, rfl, ?_, fun k => ?_⟩
  · simpa [sampleInterleaving, Runs.after_cons, Threads.step, Threads.fresh, RegistryProg.of, RegistryProg.reading,
      RegistryProg.getMessageHandler, Owners.acquire, Owners.nobody, Owners.release, MessageHandlers.behind,
      MessageHandlers.new, MessageHandlers.Bound, MessageHandlers.ofBehind, hfind, hstore, hbind] using hbound
  · cases k <;> simp [sampleInterleaving, Runs.after_cons, Threads.step, Threads.fresh, RegistryProg.of,
      RegistryProg.reading, RegistryProg.getMessageHandler, Owners.acquire, Owners.nobody, Owners.release,
      MessageHandlers.behind, MessageHandlers.new, hfind, hstore, hbind]

theorem pool_invariant_unwritten_sample : ∃ s, s = Runs.after (Threads.step (RegistryProg.of .accepting))
      (.fresh (MessageHandlers.new : MessageHandlers Unit Unit).behind) sampleInterleaving ∧
    (MessageHandlers.ofBehind s.data).Bound () 0 sampleBinding ∧ PoolInvariant (MessageHandlers.ofBehind s.data) := by
  obtain ⟨s, hs, hbound, hfree⟩ := sampleInterleaving_after .accepting
  have hinv := pool_invariant_unwritten .accepting sampleInterleaving
  dsimp only at hinv
  rw [← hs] at hinv
  exact ⟨s, hs, hbound, hinv hfree⟩

end VsomeipTransport
