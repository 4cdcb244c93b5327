/-
What the two operations on the handler maps can do.

`getMessageHandler` either binds one free id to the configuration and hands
out its function (`Binds`), or is refused for a reason read off the maps it
found (`Refused`) and leaves them as they were. `releaseMessageHandler`
either gives the id of the configuration back (`Frees`) or finds none. Both
hold for any content of the maps.
-/
import VsomeipTransport.MessageHandlerRegistry

namespace VsomeipTransport

variable {T L : Type}

theorem getExternFn_of_lt {id : MessageHandlerId} (h : id < numMessageHandlers) :
    getExternFn id = .returned ⟨id, h⟩ := by
  simp [getExternFn, h]

theorem getExternFn_returned {id : MessageHandlerId} {handler : MessageHandlerFnPtr}
    (h : getExternFn id = .returned handler) : handler.id = id := by
  unfold getExternFn at h
  split at h
  · cases h; rfl
  · cases h

theorem getExternFn_panicked {id : MessageHandlerId} {msg : String} (h : getExternFn id = .panicked msg) :
    numMessageHandlers ≤ id := by
  unfold getExternFn at h
  split at h
  · cases h
  · next hlt => exact Nat.le_of_not_lt hlt

namespace LockedMaps

/-- The maps before a registration offer `id` to it. -/
structure Available (order : IterOrder MessageHandlerId) (maps : LockedMaps T L) (cfg : ListenerConfig L)
    (id : MessageHandlerId) : Prop where
  picked : order.next maps.freeMessageHandlerIds = some id
  unmapped : maps.messageHandlerIdToTransportStorage id = none
  unbound : maps.messageHandlerIdAndListenerConfig.getByLeft id = none
  unknown : maps.messageHandlerIdAndListenerConfig.getByRight cfg = none

/-- Why a registration is refused, by the error it gets. -/
inductive Refused (up : UpRust) (order : IterOrder MessageHandlerId) (maps : LockedMaps T L)
    (cfg : ListenerConfig L) : GetMessageHandlerError → Prop
  | exhausted (err : String) (hnone : order.next maps.freeMessageHandlerIds = none) :
      Refused up order maps cfg (.otherError err)
  | mapped (err : String) {id : MessageHandlerId} {t : T}
      (hpicked : order.next maps.freeMessageHandlerIds = some id)
      (hmapped : maps.messageHandlerIdToTransportStorage id = some t) :
      Refused up order maps cfg (.otherError err)
  | boundId {id : MessageHandlerId} {cfg' : ListenerConfig L}
      (hpicked : order.next maps.freeMessageHandlerIds = some id)
      (hbound : maps.messageHandlerIdAndListenerConfig.getByLeft id = some cfg') :
      Refused up order maps cfg (.listenerIdAlreadyExists id)
  | boundConfig {handler : MessageHandlerFnPtr} {id : MessageHandlerId}
      (hpicked : order.next maps.freeMessageHandlerIds = some handler.id)
      (hbound : maps.messageHandlerIdAndListenerConfig.getByRight cfg = some id) :
      Refused up order maps cfg (.listenerConfigAlreadyExists handler)

/-- A registration bound `id`. -/
structure Binds (maps maps' : LockedMaps T L) (storage : T) (cfg : ListenerConfig L) (id : MessageHandlerId) :
    Prop where
  free : maps'.freeMessageHandlerIds = maps.freeMessageHandlerIds.erase id
  storages : maps'.messageHandlerIdToTransportStorage = maps.messageHandlerIdToTransportStorage.insert id storage
  configs : maps'.messageHandlerIdAndListenerConfig.getByLeft =
    maps.messageHandlerIdAndListenerConfig.getByLeft.insert id cfg

/-- A release gave `id` back. -/
structure Frees (maps maps' : LockedMaps T L) (id : MessageHandlerId) : Prop where
  free : maps'.freeMessageHandlerIds = insert id maps.freeMessageHandlerIds
  storages : maps'.messageHandlerIdToTransportStorage = maps.messageHandlerIdToTransportStorage.remove id
  configs : maps'.messageHandlerIdAndListenerConfig.getByLeft =
    maps.messageHandlerIdAndListenerConfig.getByLeft.remove id

/-- Undoing the choice of an id restores the pool. -/
theorem rollBack_free [DecidableEq L] {order : IterOrder MessageHandlerId} {maps : LockedMaps T L}
    {id : MessageHandlerId} (hpicked : order.next maps.freeMessageHandlerIds = some id) :
    rollBack [rollBackFree id] { maps with freeMessageHandlerIds := maps.freeMessageHandlerIds.erase id } = maps := by
  simp [rollBack, rollBackFree, freeMessageHandlerId, Finset.insert_erase (order.next_mem hpicked)]

/-- Undoing both steps restores the pool and the storages. -/
theorem rollBack_transport [DecidableEq L] {order : IterOrder MessageHandlerId} {maps : LockedMaps T L}
    {id : MessageHandlerId} {storage : T} (hpicked : order.next maps.freeMessageHandlerIds = some id)
    (hunmapped : maps.messageHandlerIdToTransportStorage id = none) :
    rollBack [rollBackFree id, rollBackTransport id]
      { maps with
        freeMessageHandlerIds := maps.freeMessageHandlerIds.erase id
        messageHandlerIdToTransportStorage := maps.messageHandlerIdToTransportStorage.insert id storage } = maps := by
  simp [rollBack, rollBackFree, rollBackTransport, freeMessageHandlerId, removeMessageHandlerIdTransport,
    Finset.insert_erase (order.next_mem hpicked), PartialMap.remove_insert hunmapped]

variable [DecidableEq L] {up : UpRust} {order : IterOrder MessageHandlerId} {maps maps' : LockedMaps T L}
  {storage : T} {cfg : ListenerConfig L}

theorem insertMessageHandlerIdAndListenerConfig_cases {configs configs' : BiMap MessageHandlerId (ListenerConfig L)}
    {id : MessageHandlerId} {res}
    (h : insertMessageHandlerIdAndListenerConfig configs id cfg = (res, configs')) :
    (res = .ok () ∧ configs.getByLeft id = none ∧ configs.getByRight cfg = none ∧
      configs'.getByLeft = configs.getByLeft.insert id cfg) ∨
    (res = .error (.messageHandlerIdAlreadyExists id) ∧ ∃ cfg', configs.getByLeft id = some cfg') ∨
    (res = .error .listenerConfigAlreadyExists ∧ ∃ id', configs.getByRight cfg = some id') := by
  unfold insertMessageHandlerIdAndListenerConfig at h
  split at h
  · next hins =>
    cases h
    obtain ⟨hl, hr, hc⟩ := BiMap.insertNoOverwrite_ok hins
    exact .inl ⟨rfl, hl, hr, hc⟩
  · next hins =>
    split at h
    · next hl => cases h; exact .inr (.inl ⟨rfl, BiMap.containsLeft_iff.1 hl⟩)
    · next hl =>
      split at h
      · next hr => cases h; exact .inr (.inr ⟨rfl, BiMap.containsRight_iff.1 hr⟩)
      · next hr => exact absurd (BiMap.insertNoOverwrite_error hins) (by simp [hl, hr])

/-- **A registration binds the id it is offered or changes nothing.** A panic
needs a free id no function was generated for. -/
theorem getMessageHandler_cases {res} (h : maps.getMessageHandler up order storage cfg = (res, maps')) :
    (∃ id, Available order maps cfg id ∧ Binds maps maps' storage cfg id ∧
      ((∃ hid : id < numMessageHandlers, res = .returned (.ok ⟨id, hid⟩)) ∨
        (numMessageHandlers ≤ id ∧ ∃ msg, res = .panicked msg))) ∨
    ((∀ id, ¬ Available order maps cfg id) ∧ maps' = maps ∧
      ((∃ e, res = .returned (.error e) ∧ Refused up order maps cfg e) ∨
        ∃ id msg, order.next maps.freeMessageHandlerIds = some id ∧ numMessageHandlers ≤ id ∧
          res = .panicked msg)) := by
  unfold getMessageHandler findAvailableMessageHandlerId at h
  cases hpicked : order.next maps.freeMessageHandlerIds with
  | none =>
    simp only [hpicked] at h
    cases h
    refine .inr ⟨fun id ha => ?_, rfl, .inl ⟨_, rfl, .exhausted _ hpicked⟩⟩
    have := ha.picked
    rw [hpicked] at this
    cases this
  | some id =>
  have honly : ∀ id', Available order maps cfg id' → id' = id := by
    intro id' ha
    have := ha.picked
    rw [hpicked] at this
    exact (Option.some.inj this).symm
  simp only [hpicked, insertMessageHandlerIdTransport] at h
  cases hmap : maps.messageHandlerIdToTransportStorage id with
  | some t =>
    simp only [hmap] at h
    cases h
    rw [rollBack_free hpicked]
    refine .inr ⟨fun id' ha => ?_, rfl, .inl ⟨_, rfl, .mapped _ hpicked hmap⟩⟩
    have := ha.unmapped
    rw [honly id' ha, hmap] at this
    cases this
  | none =>
  simp only [hmap, List.cons_append, List.nil_append] at h
  cases hins : insertMessageHandlerIdAndListenerConfig maps.messageHandlerIdAndListenerConfig id cfg with
  | mk ins configs =>
  rw [hins] at h
  rcases insertMessageHandlerIdAndListenerConfig_cases hins with
    ⟨rfl, hl, hr, hc⟩ | ⟨rfl, cfg', hl⟩ | ⟨rfl, id', hr⟩
  · refine .inl ⟨id, ⟨hpicked, hmap, hl, hr⟩, ?_⟩
    cases hfn : getExternFn id with
    | returned handler =>
      simp only [hfn] at h
      cases h
      obtain rfl := getExternFn_returned hfn
      exact ⟨⟨rfl, rfl, hc⟩, .inl ⟨handler.lt, rfl⟩⟩
    | panicked msg =>
      simp only [hfn] at h
      cases h
      exact ⟨⟨rfl, rfl, hc⟩, .inr ⟨getExternFn_panicked hfn, msg, rfl⟩⟩
  · simp only at h
    cases h
    rw [rollBack_transport hpicked hmap]
    refine .inr ⟨fun id' ha => ?_, rfl, .inl ⟨_, rfl, .boundId hpicked hl⟩⟩
    have := ha.unbound
    rw [honly id' ha, hl] at this
    cases this
  · simp only at h
    have hun : ∀ id, ¬ Available order maps cfg id := by
      intro id ha
      have := ha.unknown
      rw [hr] at this
      cases this
    cases hfn : getExternFn id with
    | returned handler =>
      simp only [hfn] at h
      cases h
      rw [rollBack_transport hpicked hmap]
      obtain rfl := getExternFn_returned hfn
      exact .inr ⟨hun, rfl, .inl ⟨_, rfl, .boundConfig hpicked hr⟩⟩
    | panicked msg =>
      simp only [hfn] at h
      cases h
      rw [rollBack_transport hpicked hmap]
      exact .inr ⟨hun, rfl, .inr ⟨id, msg, rfl, getExternFn_panicked hfn, rfl⟩⟩

omit [DecidableEq L] in
/-- A release gives the id of the configuration back, from all three maps. -/
theorem releaseMessageHandler_cases {res} (h : maps.releaseMessageHandler cfg = (res, maps')) :
    (∃ id, maps.messageHandlerIdAndListenerConfig.getByLeft id = some cfg ∧ res = .ok () ∧ Frees maps maps' id) ∨
    (maps.messageHandlerIdAndListenerConfig.getByRight cfg = none ∧
      res = .error (.failWithCode .notFound "No listener_id for listener_config") ∧ maps' = maps) := by
  unfold releaseMessageHandler at h
  cases hr : maps.messageHandlerIdAndListenerConfig.getByRight cfg with
  | none =>
    simp only [hr] at h
    cases h
    exact .inr ⟨rfl, rfl, rfl⟩
  | some id =>
    have hl := (maps.messageHandlerIdAndListenerConfig.inv id cfg).2 hr
    simp only [hr, freeMessageHandlerId, removeMessageHandlerIdAndListenerConfig, hl] at h
    cases h
    refine .inl ⟨id, hl, rfl, rfl, ?_, rfl⟩
    simp only [removeMessageHandlerIdTransport]
    split
    · rfl
    · next hn => exact (PartialMap.remove_absent hn).symm

end LockedMaps

end VsomeipTransport
