/-
The pool of handler ids over any run of registrations and releases.

`PoolInvariant` says of the handler maps of a process that every id is free
or bound in exactly one transport, and that the storages record which. It
holds at the start and is kept by `getMessageHandler` (called, as every
caller does, with the transport's own storage) and `releaseMessageHandler`,
so it holds of every run; and while it holds, no registration is refused for
a collision of ids.
-/
import VsomeipTransport.Lib.Runs
import VsomeipTransport.MessageHandlerFacts

namespace VsomeipTransport

variable {T L : Type}

/-- The id is bound in the transport. -/
def MessageHandlers.Bound (h : MessageHandlers T L) (t : T) (id : MessageHandlerId) (cfg : ListenerConfig L) :
    Prop :=
  (h.messageHandlerIdAndListenerConfig t).getByLeft id = some cfg

/-- Every id is free or bound, never both, and the storages say where. -/
structure PoolInvariant (h : MessageHandlers T L) : Prop where
  ids : ∀ id, id < numMessageHandlers ↔ id ∈ h.freeMessageHandlerIds ∨ ∃ t cfg, h.Bound t id cfg
  disjoint : ∀ {id t cfg}, h.Bound t id cfg → id ∉ h.freeMessageHandlerIds
  storages : ∀ id t, h.messageHandlerIdToTransportStorage id = some t ↔ ∃ cfg, h.Bound t id cfg

namespace PoolInvariant

variable {h : MessageHandlers T L}

/-- No id is bound in two transports. -/
theorem bound_once (hI : PoolInvariant h) {id : MessageHandlerId} {t t' : T} {cfg cfg' : ListenerConfig L}
    (hb : h.Bound t id cfg) (hb' : h.Bound t' id cfg') : t = t' := by
  have hs := (hI.storages id t).2 ⟨cfg, hb⟩
  rw [(hI.storages id t').2 ⟨cfg', hb'⟩] at hs
  exact (Option.some.inj hs).symm

/-- A free id refers to no storage. -/
theorem free_unmapped (hI : PoolInvariant h) {id : MessageHandlerId} (hf : id ∈ h.freeMessageHandlerIds) :
    h.messageHandlerIdToTransportStorage id = none := by
  cases hs : h.messageHandlerIdToTransportStorage id with
  | none => rfl
  | some t =>
    obtain ⟨cfg, hb⟩ := (hI.storages id t).1 hs
    exact absurd hf (hI.disjoint hb)

/-- A free id is bound nowhere. -/
theorem free_unbound (hI : PoolInvariant h) {id : MessageHandlerId} (hf : id ∈ h.freeMessageHandlerIds) (t : T) :
    (h.messageHandlerIdAndListenerConfig t).getByLeft id = none := by
  cases hb : (h.messageHandlerIdAndListenerConfig t).getByLeft id with
  | none => rfl
  | some cfg =>
    have hbound : h.Bound t id cfg := hb
    exact absurd hf (hI.disjoint hbound)

/-- A free id is available to a configuration that is not bound. -/
theorem available (hI : PoolInvariant h) {order : IterOrder MessageHandlerId} {t : T} {cfg : ListenerConfig L}
    {id : MessageHandlerId} (hpicked : order.next h.freeMessageHandlerIds = some id)
    (hun : ∀ id', ¬ h.Bound t id' cfg) : (h.lock t).Available order cfg id where
  picked := hpicked
  unmapped := hI.free_unmapped (order.next_mem hpicked)
  unbound := hI.free_unbound (order.next_mem hpicked) t
  unknown := by
    cases hr : (h.messageHandlerIdAndListenerConfig t).getByRight cfg with
    | none => exact hr
    | some id' =>
      have hbound : h.Bound t id' cfg := ((h.messageHandlerIdAndListenerConfig t).inv id' cfg).2 hr
      exact absurd hbound (hun id')

/-- Where nothing is bound, anyone is offered the first id. -/
theorem available_of_unbound (hI : PoolInvariant h) {t : T} {cfg : ListenerConfig L}
    (hun : ∀ t id (cfg : ListenerConfig L), ¬ h.Bound t id cfg) : (h.lock t).Available .least cfg 0 := by
  have hfree : 0 ∈ h.freeMessageHandlerIds := by
    rcases (hI.ids 0).1 (by decide) with hfree | ⟨t', cfg', hb⟩
    · exact hfree
    · exact absurd hb (hun t' 0 cfg')
  have hpicked : IterOrder.least.next h.freeMessageHandlerIds = some 0 :=
    IterOrder.least_next hfree fun _ _ => Nat.zero_le _
  exact hI.available hpicked fun id' => hun t id' cfg

theorem new : PoolInvariant (MessageHandlers.new : MessageHandlers T L) where
  ids := by simp [MessageHandlers.new, MessageHandlers.Bound]
  disjoint := by simp [MessageHandlers.new, MessageHandlers.Bound]
  storages := by simp [MessageHandlers.new, MessageHandlers.Bound]

end PoolInvariant

/-! ## One operation on the maps of a process -/

namespace MessageHandlers

variable [DecidableEq T] {h h' : MessageHandlers T L} {self t : T} {cfg cfg' : ListenerConfig L}
  {id id' : MessageHandlerId}

omit [DecidableEq T] in
@[simp] theorem lock_storages (h : MessageHandlers T L) (self : T) :
    (h.lock self).messageHandlerIdToTransportStorage = h.messageHandlerIdToTransportStorage := rfl

omit [DecidableEq T] in
@[simp] theorem lock_configs (h : MessageHandlers T L) (self : T) :
    (h.lock self).messageHandlerIdAndListenerConfig = h.messageHandlerIdAndListenerConfig self := rfl

omit [DecidableEq T] in
theorem unbound_of_unknown (hunknown : (h.lock t).messageHandlerIdAndListenerConfig.getByRight cfg = none) :
    ¬ h.Bound t id cfg := by
  intro hb
  have hknown := ((h.messageHandlerIdAndListenerConfig t).inv id cfg).1 hb
  rw [lock_configs, hknown] at hunknown
  cases hunknown

omit [DecidableEq T] in
/-- What an id is offered to is not bound. -/
theorem unbound_of_available {order : IterOrder MessageHandlerId} (ha : (h.lock t).Available order cfg id) :
    ¬ h.Bound t id' cfg := unbound_of_unknown ha.unknown

@[simp] theorem unlock_lock (h : MessageHandlers T L) (self : T) : h.unlock self (h.lock self) = h := by
  simp [unlock, lock]

/-- After a registration, the new binding is the only change. -/
theorem bound_of_binds {maps : LockedMaps T L} (hb : (h.lock self).Binds maps self cfg id) :
    (h.unlock self maps).Bound t id' cfg' ↔ if t = self ∧ id' = id then cfg' = cfg else h.Bound t id' cfg' := by
  unfold Bound unlock
  by_cases ht : t = self
  · subst ht
    simp only [Function.update_self, hb.configs, PartialMap.insert_apply, true_and]
    split
    · simp [eq_comm]
    · rfl
  · simp [ht]

/-- After a release, the binding that is gone is the only change. -/
theorem bound_of_frees {maps : LockedMaps T L} (hf : (h.lock self).Frees maps id) :
    (h.unlock self maps).Bound t id' cfg' ↔ ¬ (t = self ∧ id' = id) ∧ h.Bound t id' cfg' := by
  unfold Bound unlock
  by_cases ht : t = self
  · subst ht
    simp only [Function.update_self, hf.configs, PartialMap.remove_apply, true_and]
    split
    · next hid => simp [hid]
    · next hid => simp [hid]
  · simp [ht]

/-- A registration keeps the invariant. -/
theorem pool_of_binds (hI : PoolInvariant h) {order : IterOrder MessageHandlerId} {maps : LockedMaps T L}
    (ha : (h.lock self).Available order cfg id) (hb : (h.lock self).Binds maps self cfg id) :
    PoolInvariant (h.unlock self maps) := by
  have hfree : id ∈ h.freeMessageHandlerIds := order.next_mem ha.picked
  have hfree' : (h.unlock self maps).freeMessageHandlerIds = h.freeMessageHandlerIds.erase id := hb.free
  refine ⟨fun id' => ?_, fun {id' t cfg'} hb' => ?_, fun id' t => ?_⟩
  · rw [hI.ids id', hfree', Finset.mem_erase]
    simp only [bound_of_binds hb]
    by_cases hid : id' = id
    · subst hid
      simp only [hfree, true_or, ne_eq, not_true_eq_false, false_or, and_true, true_iff]
      exact ⟨self, cfg, by simp⟩
    · simp [hid]
  · rw [hfree', Finset.mem_erase]
    intro hgiven
    obtain ⟨hid, hm⟩ := hgiven
    have hother : ¬ (t = self ∧ id' = id) := fun hc => hid hc.2
    rw [bound_of_binds hb, if_neg hother] at hb'
    exact hI.disjoint hb' hm
  · show maps.messageHandlerIdToTransportStorage id' = some t ↔ _
    rw [hb.storages, PartialMap.insert_apply]
    simp only [bound_of_binds hb]
    by_cases hid : id' = id
    · subst hid
      simp only [if_true, Option.some.injEq, and_true]
      constructor
      · intro hgiven
        subst hgiven
        exact ⟨cfg, by simp⟩
      · intro hgiven
        obtain ⟨cfg', hc⟩ := hgiven
        split at hc
        · next ht => exact ht.symm
        · exact absurd hfree (hI.disjoint hc)
    · simpa [hid] using hI.storages id' t

/-- A release keeps the invariant. -/
theorem pool_of_frees (hI : PoolInvariant h) {maps : LockedMaps T L} (hbound : h.Bound self id cfg)
    (hf : (h.lock self).Frees maps id) : PoolInvariant (h.unlock self maps) := by
  have hfree' : (h.unlock self maps).freeMessageHandlerIds = insert id h.freeMessageHandlerIds := hf.free
  refine ⟨fun id' => ?_, fun {id' t cfg'} hb' => ?_, fun id' t => ?_⟩
  · rw [hI.ids id', hfree', Finset.mem_insert]
    simp only [bound_of_frees hf]
    by_cases hid : id' = id
    · subst hid
      simp only [true_or, iff_true]
      exact .inr ⟨self, cfg, hbound⟩
    · simp [hid]
  · rw [bound_of_frees hf] at hb'
    rw [hfree', Finset.mem_insert]
    intro hgiven
    rcases hgiven with rfl | hm
    · have ht : t = self := hI.bound_once hb'.2 hbound
      exact hb'.1 ⟨ht, rfl⟩
    · exact hI.disjoint hb'.2 hm
  · show maps.messageHandlerIdToTransportStorage id' = some t ↔ _
    rw [hf.storages, PartialMap.remove_apply]
    simp only [bound_of_frees hf]
    by_cases hid : id' = id
    · subst hid
      simp only [if_true, reduceCtorEq, and_true, false_iff, not_exists, not_and]
      exact fun _ ht hb => ht (hI.bound_once hb hbound)
    · simpa [hid] using hI.storages id' t

variable [DecidableEq L] {up : UpRust} {order : IterOrder MessageHandlerId}

/-- What a registration can do to the maps of a process. -/
theorem getMessageHandler_cases {storage : T} {res}
    (hget : h.getMessageHandler up order self storage cfg = (res, h')) :
    (∃ id maps, (h.lock self).Available order cfg id ∧ (h.lock self).Binds maps storage cfg id ∧
      h' = h.unlock self maps ∧ ((∃ hid : id < numMessageHandlers, res = .returned (.ok ⟨id, hid⟩)) ∨
        (numMessageHandlers ≤ id ∧ ∃ msg, res = .panicked msg))) ∨
    ((∀ id, ¬ (h.lock self).Available order cfg id) ∧ h' = h ∧
      ((∃ e, res = .returned (.error e) ∧ (h.lock self).Refused up order cfg e) ∨
        ∃ id msg, order.next h.freeMessageHandlerIds = some id ∧ numMessageHandlers ≤ id ∧ res = .panicked msg)) := by
  unfold getMessageHandler at hget
  cases hl : (h.lock self).getMessageHandler up order storage cfg with
  | mk res' maps =>
  rw [hl] at hget
  cases hget
  rcases LockedMaps.getMessageHandler_cases hl with ⟨id, ha, hb, hres⟩ | ⟨hno, rfl, hres⟩
  · exact .inl ⟨id, maps, ha, hb, rfl, hres⟩
  · exact .inr ⟨hno, unlock_lock h self, hres⟩

/-- Where the invariant holds, a registration ends in one of three ways: the
id it was offered is bound, the configuration was bound before, or the pool
is empty. -/
theorem getMessageHandler_pool (hI : PoolInvariant h) {res}
    (hget : h.getMessageHandler up order self self cfg = (res, h')) :
    (∃ handler maps, res = .returned (.ok handler) ∧ (h.lock self).Available order cfg handler.id ∧
      (h.lock self).Binds maps self cfg handler.id ∧ h' = h.unlock self maps) ∨
    (∃ handler id', res = .returned (.error (.listenerConfigAlreadyExists handler)) ∧ h.Bound self id' cfg ∧
      h' = h) ∨
    (∃ err, res = .returned (.error (.otherError err)) ∧ h.freeMessageHandlerIds = ∅ ∧ h' = h) := by
  have hlt : ∀ {id}, order.next h.freeMessageHandlerIds = some id → id < numMessageHandlers :=
    fun hn => (hI.ids _).2 (.inl (order.next_mem hn))
  rcases getMessageHandler_cases hget with
    ⟨id, maps, ha, hb, rfl, hres⟩ | ⟨-, rfl, ⟨e, rfl, hr⟩ | ⟨id, msg, hn, hge, -⟩⟩
  · rcases hres with ⟨hid, rfl⟩ | ⟨hge, -⟩
    · exact .inl ⟨⟨id, hid⟩, maps, rfl, ha, hb, rfl⟩
    · exact absurd (hlt ha.picked) (Nat.not_lt.2 hge)
  · cases hr with
    | exhausted err hnone => exact .inr (.inr ⟨err, rfl, order.next_none hnone, rfl⟩)
    | mapped err hpicked hmapped =>
      have hfree := order.next_mem hpicked
      have hunmapped := hI.free_unmapped hfree
      rw [lock_storages, hunmapped] at hmapped
      cases hmapped
    | boundId hpicked hbound =>
      have hfree := order.next_mem hpicked
      exact absurd hfree (hI.disjoint hbound)
    | boundConfig hpicked hbound =>
      have hbound : h'.Bound self _ cfg := ((h'.messageHandlerIdAndListenerConfig self).inv _ _).2 hbound
      exact .inr (.inl ⟨_, _, rfl, hbound, rfl⟩)
  · exact absurd (hlt hn) (Nat.not_lt.2 hge)

/-- A configuration that already exists is bound. -/
theorem getMessageHandler_exists {handler : MessageHandlerFnPtr}
    (hget : h.getMessageHandler up order self self cfg = (.returned (.error (.listenerConfigAlreadyExists handler)), h')) :
    ∃ id, h.Bound self id cfg := by
  rcases getMessageHandler_cases hget with
    ⟨_, _, -, -, -, ⟨_, he⟩ | ⟨-, _, he⟩⟩ | ⟨-, -, ⟨_, he, hr⟩ | ⟨_, _, -, -, he⟩⟩
  · cases he
  · cases he
  · cases he
    cases hr with
    | boundConfig hpicked hbound => exact ⟨_, ((h.messageHandlerIdAndListenerConfig self).inv _ _).2 hbound⟩
  · cases he

/-- An id that is offered is handed out. -/
theorem getMessageHandler_available (up : UpRust) (ha : (h.lock self).Available order cfg id)
    (hid : id < numMessageHandlers) :
    ∃ maps, (h.lock self).Binds maps self cfg id ∧
      h.getMessageHandler up order self self cfg = (.returned (.ok ⟨id, hid⟩), h.unlock self maps) := by
  cases hget : h.getMessageHandler up order self self cfg with
  | mk res h' =>
  rcases getMessageHandler_cases hget with ⟨id', maps, ha', hb, rfl, hres⟩ | ⟨hno, -⟩
  · obtain rfl : id' = id := Option.some.inj (ha'.picked.symm.trans ha.picked)
    rcases hres with ⟨_, rfl⟩ | ⟨hge, -⟩
    · exact ⟨maps, hb, rfl⟩
    · exact absurd hid (Nat.not_lt.2 hge)
  · exact absurd ha (hno id)

/-- Where no id is offered, nothing changes. -/
theorem getMessageHandler_unavailable (up : UpRust) (hno : ∀ id, ¬ (h.lock self).Available order cfg id) :
    (h.getMessageHandler up order self self cfg).2 = h ∧
    ∀ handler, (h.getMessageHandler up order self self cfg).1 ≠ .returned (.ok handler) := by
  cases hget : h.getMessageHandler up order self self cfg with
  | mk res h' =>
  rcases getMessageHandler_cases hget with ⟨id, _, ha, -⟩ | ⟨-, rfl, ⟨e, rfl, -⟩ | ⟨_, msg, -, -, rfl⟩⟩
  · exact absurd ha (hno id)
  · exact ⟨rfl, by simp⟩
  · exact ⟨rfl, by simp⟩

/-- An id without a function panics. -/
theorem getMessageHandler_out_of_range (up : UpRust) (ha : (h.lock self).Available order cfg id)
    (hid : numMessageHandlers ≤ id) :
    ∃ msg, (h.getMessageHandler up order self self cfg).1 = .panicked msg := by
  cases hget : h.getMessageHandler up order self self cfg with
  | mk res h' =>
  rcases getMessageHandler_cases hget with ⟨id', _, ha', -, -, hres⟩ | ⟨hno, -⟩
  · obtain rfl : id' = id := Option.some.inj (ha'.picked.symm.trans ha.picked)
    rcases hres with ⟨hlt, -⟩ | ⟨-, msg, rfl⟩
    · exact absurd hlt (Nat.not_lt.2 hid)
    · exact ⟨msg, rfl⟩
  · exact absurd ha (hno id)

omit [DecidableEq L] in
theorem releaseMessageHandler_pool {res} (hrel : h.releaseMessageHandler self cfg = (res, h')) :
    (∃ id maps, h.Bound self id cfg ∧ (h.lock self).Frees maps id ∧ h' = h.unlock self maps) ∨
    ((∀ id, ¬ h.Bound self id cfg) ∧ h' = h) := by
  unfold releaseMessageHandler at hrel
  cases hl : (h.lock self).releaseMessageHandler cfg with
  | mk res' maps =>
  rw [hl] at hrel
  cases hrel
  rcases LockedMaps.releaseMessageHandler_cases hl with ⟨id, hb, -, hf⟩ | ⟨hn, -, rfl⟩
  · exact .inl ⟨id, maps, hb, hf, rfl⟩
  · rw [unlock_lock]
    exact .inr ⟨fun _ => unbound_of_unknown hn, rfl⟩

omit [DecidableEq T] [DecidableEq L] in
theorem unbound_new : ∀ t id (cfg : ListenerConfig L), ¬ (new : MessageHandlers T L).Bound t id cfg := by
  simp [new, Bound]

omit [DecidableEq T] [DecidableEq L] in
/-- A fresh process offers its first id to anyone. -/
theorem available_new (self : T) (cfg : ListenerConfig L) :
    ((MessageHandlers.new : MessageHandlers T L).lock self).Available IterOrder.least cfg 0 :=
  PoolInvariant.new.available_of_unbound unbound_new

omit [DecidableEq L] in
theorem picked_second {maps : LockedMaps T L} (hb : ((new : MessageHandlers T L).lock self).Binds maps self cfg 0) :
    IterOrder.least.next ((new : MessageHandlers T L).unlock self maps).freeMessageHandlerIds = some 1 := by
  have hfree : ((new : MessageHandlers T L).unlock self maps).freeMessageHandlerIds =
      (Finset.range numMessageHandlers).erase 0 := hb.free
  have hleast : ∀ id' ∈ ((new : MessageHandlers T L).unlock self maps).freeMessageHandlerIds, 1 ≤ id' := by
    intro id' hid'
    rw [hfree, Finset.mem_erase] at hid'
    exact Nat.one_le_iff_ne_zero.2 hid'.1
  exact IterOrder.least_next (by simp [hfree, numMessageHandlers]) hleast

omit [DecidableEq L] in
/-- Then it offers the second one to any other configuration. -/
theorem available_second {maps : LockedMaps T L} (hb : ((new : MessageHandlers T L).lock self).Binds maps self cfg 0)
    (hne : cfg' ≠ cfg) : (((new : MessageHandlers T L).unlock self maps).lock self).Available .least cfg' 1 := by
  have hpool : PoolInvariant ((new : MessageHandlers T L).unlock self maps) :=
    pool_of_binds .new (available_new self cfg) hb
  refine hpool.available (picked_second hb) fun id' hb' => ?_
  rw [bound_of_binds hb] at hb'
  split at hb'
  · exact hne hb'
  · exact unbound_new _ _ _ hb'

end MessageHandlers

/-! ## Runs -/

/-- A call on the handler registry of one of the transports. -/
inductive HandlerOp (T L : Type)
  | get (self : T) (cfg : ListenerConfig L) (order : IterOrder MessageHandlerId)
  | release (self : T) (cfg : ListenerConfig L)

inductive HandlerAnswer
  | got (res : Outcome (Except GetMessageHandlerError MessageHandlerFnPtr))
  | released (res : Except UStatus Unit)

variable [DecidableEq T] [DecidableEq L]

def handlerStep (up : UpRust) (h : MessageHandlers T L) : HandlerOp T L → MessageHandlers T L × HandlerAnswer
  | .get self cfg order =>
    let (res, h) := h.getMessageHandler up order self self cfg
    (h, .got res)
  | .release self cfg =>
    let (res, h) := h.releaseMessageHandler self cfg
    (h, .released res)

/-- Every operation keeps the invariant. -/
theorem PoolInvariant.step {up : UpRust} {h : MessageHandlers T L} (hI : PoolInvariant h) (op : HandlerOp T L) :
    PoolInvariant (handlerStep up h op).1 := by
  cases op with
  | get self cfg order =>
    cases hget : h.getMessageHandler up order self self cfg with
    | mk res h' =>
    simp only [handlerStep, hget]
    rcases MessageHandlers.getMessageHandler_pool hI hget with
      ⟨_, maps, -, ha, hb, rfl⟩ | ⟨_, _, -, -, rfl⟩ | ⟨_, -, -, rfl⟩
    · exact MessageHandlers.pool_of_binds hI ha hb
    · exact hI
    · exact hI
  | release self cfg =>
    cases hrel : h.releaseMessageHandler self cfg with
    | mk res h' =>
    simp only [handlerStep, hrel]
    rcases MessageHandlers.releaseMessageHandler_pool hrel with ⟨_, maps, hb, hf, rfl⟩ | ⟨-, rfl⟩
    · exact MessageHandlers.pool_of_frees hI hb hf
    · exact hI

/-- Every run keeps the invariant. -/
theorem PoolInvariant.run (up : UpRust) {h : MessageHandlers T L} (hI : PoolInvariant h)
    (ops : List (HandlerOp T L)) : PoolInvariant (Runs.after (handlerStep up) h ops) :=
  Runs.after_invariant PoolInvariant (fun _ op hI => hI.step op) hI ops

/-- **The ids of the pool and of the transports partition 0..9999 in every
run**, the storages name the transport of each bound id, a configuration has
one id, and a registration is refused only for a configuration already bound
or an empty pool: no id it picks is bound, refers to a storage, or lacks a
function. -/
theorem handler_ids_partitioned (up : UpRust) (ops : List (HandlerOp T L)) :
    let h := Runs.after (handlerStep up) MessageHandlers.new ops
    (∀ id, id < 10000 ↔ id ∈ h.freeMessageHandlerIds ∨ ∃ t cfg, h.Bound t id cfg) ∧
    (∀ id t cfg, h.Bound t id cfg → id ∉ h.freeMessageHandlerIds) ∧
    (∀ id t t' cfg cfg', h.Bound t id cfg → h.Bound t' id cfg' → t = t') ∧
    (∀ id t, h.messageHandlerIdToTransportStorage id = some t ↔ ∃ cfg, h.Bound t id cfg) ∧
    (∀ t id id' cfg, h.Bound t id cfg → h.Bound t id' cfg → id = id') ∧
    ∀ self cfg order, let res := (h.getMessageHandler up order self self cfg).1
      res.isPanic = false ∧
      (∀ id, res ≠ .returned (.error (.listenerIdAlreadyExists id))) ∧
      (∀ err, res = .returned (.error (.otherError err)) → h.freeMessageHandlerIds = ∅) ∧
      ∀ id, order.next h.freeMessageHandlerIds = some id →
        h.messageHandlerIdToTransportStorage id = none ∧ (getExternFn id).isPanic = false := by
  intro h
  have hI : PoolInvariant h := PoolInvariant.new.run up ops
  refine ⟨hI.ids, fun _ _ _ hb => hI.disjoint hb, fun _ _ _ _ _ hb hb' => hI.bound_once hb hb', hI.storages,
    fun t _ _ _ hb hb' => BiMap.left_unique hb hb', fun self cfg order => ?_⟩
  have hpick : ∀ id, order.next h.freeMessageHandlerIds = some id →
      h.messageHandlerIdToTransportStorage id = none ∧ (getExternFn id).isPanic = false := by
    intro id hn
    have hmem := order.next_mem hn
    have hlt : id < numMessageHandlers := (hI.ids id).2 (.inl hmem)
    rw [getExternFn_of_lt hlt]
    exact ⟨hI.free_unmapped hmem, rfl⟩
  cases hget : h.getMessageHandler up order self self cfg with
  | mk res h' =>
  rcases MessageHandlers.getMessageHandler_pool hI hget with
    ⟨_, _, hres, -⟩ | ⟨_, _, hres, -⟩ | ⟨_, hres, hempty, -⟩
  · simp only [hres]
    exact ⟨rfl, by simp, by simp, hpick⟩
  · simp only [hres]
    exact ⟨rfl, by simp, by simp, hpick⟩
  · simp only [hres]
    exact ⟨rfl, by simp, fun _ _ => hempty, hpick⟩

end VsomeipTransport
