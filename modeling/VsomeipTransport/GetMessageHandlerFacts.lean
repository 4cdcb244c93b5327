/-
What the caller of `getMessageHandler` is told, and what it may rely on.

An error leaves the pool, the storages and every configuration map as they
were, whatever they held (`getMessageHandler_atomic`). The error for a
configuration that exists hands out a function, but that of the id the
registration was offered and has just given back, not that of the id the
configuration is bound to (`duplicate_offered`).
-/
import VsomeipTransport.BindingFacts

namespace VsomeipTransport

variable {T L : Type} [DecidableEq L]

/-- `h'` is `h` with one free id given to the configuration. -/
structure MessageHandlers.Registers (h h' : MessageHandlers T L) (self storage : T) (cfg : ListenerConfig L)
    (id : MessageHandlerId) : Prop where
  wasFree : id ∈ h.freeMessageHandlerIds
  wasUnmapped : h.messageHandlerIdToTransportStorage id = none
  wasUnbound : (h.messageHandlerIdAndListenerConfig self).getByLeft id = none
  wasUnknown : (h.messageHandlerIdAndListenerConfig self).getByRight cfg = none
  free : h'.freeMessageHandlerIds = h.freeMessageHandlerIds.erase id
  storages : h'.messageHandlerIdToTransportStorage = h.messageHandlerIdToTransportStorage.insert id storage
  byId : (h'.messageHandlerIdAndListenerConfig self).getByLeft =
    (h.messageHandlerIdAndListenerConfig self).getByLeft.insert id cfg
  byConfig : (h'.messageHandlerIdAndListenerConfig self).getByRight =
    (h.messageHandlerIdAndListenerConfig self).getByRight.insert cfg id
  others : ∀ t, t ≠ self → h'.messageHandlerIdAndListenerConfig t = h.messageHandlerIdAndListenerConfig t

variable [DecidableEq T] {up : UpRust} {order : IterOrder MessageHandlerId}
  {h h' : MessageHandlers T L} {self storage : T} {cfg : ListenerConfig L} {id : MessageHandlerId}

namespace MessageHandlers

/-- What a registration that is offered `id` and binds it leaves. -/
theorem registers_of_binds {maps : LockedMaps T L} (ha : (h.lock self).Available order cfg id)
    (hb : (h.lock self).Binds maps storage cfg id) : h.Registers (h.unlock self maps) self storage cfg id where
  wasFree := order.next_mem ha.picked
  wasUnmapped := ha.unmapped
  wasUnbound := ha.unbound
  wasUnknown := ha.unknown
  free := hb.free
  storages := hb.storages
  byId := by
    show (Function.update h.messageHandlerIdAndListenerConfig self _ self).getByLeft = _
    rw [Function.update_self]
    exact hb.configs
  byConfig := by
    show (Function.update h.messageHandlerIdAndListenerConfig self _ self).getByRight = _
    rw [Function.update_self]
    exact BiMap.getByRight_insert ha.unbound ha.unknown hb.configs
  others t ht := Function.update_of_ne ht _ _

/-- A registration that fails changes nothing. -/
theorem getMessageHandler_failed {e : GetMessageHandlerError}
    (hget : h.getMessageHandler up order self storage cfg = (.returned (.error e), h')) : h' = h := by
  rcases getMessageHandler_cases hget with ⟨_, _, -, -, -, ⟨_, he⟩ | ⟨-, _, he⟩⟩ | ⟨-, hsame, -⟩
  · cases he
  · cases he
  · exact hsame

/-- A registration that succeeds binds the id of the function it returns. -/
theorem getMessageHandler_registers {f : MessageHandlerFnPtr}
    (hget : h.getMessageHandler up order self storage cfg = (.returned (.ok f), h')) :
    h.Registers h' self storage cfg f.id := by
  rcases getMessageHandler_cases hget with
    ⟨_, _, ha, hb, rfl, ⟨_, he⟩ | ⟨-, _, he⟩⟩ | ⟨-, -, ⟨_, he, -⟩ | ⟨_, _, -, -, he⟩⟩
  · cases he
    exact registers_of_binds ha hb
  · cases he
  · cases he
  · cases he

/-- **A registration that fails changes nothing, one that succeeds moves one
id**, for any content of the maps. -/
theorem getMessageHandler_atomic (up : UpRust) (order : IterOrder MessageHandlerId) (h : MessageHandlers T L)
    (self storage : T) (cfg : ListenerConfig L) :
    (∀ e h', h.getMessageHandler up order self storage cfg = (.returned (.error e), h') → h' = h) ∧
    ∀ f h', h.getMessageHandler up order self storage cfg = (.returned (.ok f), h') →
      h.Registers h' self storage cfg f.id :=
  ⟨fun _ _ hget => getMessageHandler_failed hget, fun _ _ hget => getMessageHandler_registers hget⟩

/-! ## The function a duplicate is answered with -/

/-- A registration that finds its configuration answers with the function of
the id it was offered, which is free again. -/
theorem duplicate_offered {f : MessageHandlerFnPtr}
    (hget : h.getMessageHandler up order self storage cfg =
      (.returned (.error (.listenerConfigAlreadyExists f)), h')) :
    order.next h.freeMessageHandlerIds = some f.id ∧ h' = h := by
  refine ⟨?_, getMessageHandler_failed hget⟩
  rcases getMessageHandler_cases hget with ⟨id, _, -, -, -, hres⟩ | ⟨-, -, hres⟩
  · rcases hres with ⟨_, he⟩ | ⟨-, _, he⟩
    · cases he
    · cases he
  · rcases hres with ⟨_, he, hr⟩ | ⟨_, _, -, -, he⟩
    · cases he
      cases hr with
      | boundConfig hpicked hbound => exact hpicked
    · cases he

/-- A bound configuration is refused, as a duplicate while an id is free. -/
theorem duplicate_refused (up : UpRust) (order : IterOrder MessageHandlerId) (hI : PoolInvariant h)
    (hb : h.Bound self id cfg) (hfree : h.freeMessageHandlerIds ≠ ∅) :
    ∃ f, h.getMessageHandler up order self self cfg =
      (.returned (.error (.listenerConfigAlreadyExists f)), h) := by
  cases hget : h.getMessageHandler up order self self cfg with
  | mk res h' =>
  rcases getMessageHandler_pool hI hget with ⟨_, _, -, ha, -, -⟩ | ⟨f, _, rfl, -, rfl⟩ | ⟨_, -, hempty, -⟩
  · exact absurd hb (unbound_of_available ha)
  · exact ⟨f, rfl⟩
  · exact absurd hempty hfree

/-- A duplicate registration of the configuration bound to `id` is answered
with the function of `id`, and not with that of a free id. -/
def AnswersInUse (up : UpRust) (order : IterOrder MessageHandlerId) (h : MessageHandlers T L) (self : T)
    (cfg : ListenerConfig L) (id : MessageHandlerId) : Prop :=
  ∀ f h', h.getMessageHandler up order self self cfg =
      (.returned (.error (.listenerConfigAlreadyExists f)), h') →
    f.id = id ∧ f.id ∉ h'.freeMessageHandlerIds

/-- **A duplicate is answered with the handler in use only when no id is
free**, and then with no handler at all. -/
theorem answersInUse_iff (hr : h.Reachable up) (hb : h.Bound self id cfg) (order : IterOrder MessageHandlerId) :
    AnswersInUse up order h self cfg id ↔ h.freeMessageHandlerIds = ∅ := by
  constructor
  · intro hanswers
    by_contra hfree
    obtain ⟨f, hget⟩ := duplicate_refused up order hr.pool hb hfree
    have hpicked := (duplicate_offered hget).1
    exact (hanswers f h hget).2 (order.next_mem hpicked)
  · intro hempty f h' hget
    have hpicked := (duplicate_offered hget).1
    have hmem := order.next_mem hpicked
    rw [hempty] at hmem
    cases hmem

def sampleConfig : ListenerConfig Unit := ⟨⟨"me_authority", 1, 1, 0x8001⟩, none, ()⟩

/-- What a duplicate is told while `id'` is offered. -/
theorem duplicate_told {id' : MessageHandlerId} (hr : h.Reachable up) (hb : h.Bound self id cfg)
    (hpicked : order.next h.freeMessageHandlerIds = some id') :
    ¬ AnswersInUse up order h self cfg id ∧
    ∃ f, h.getMessageHandler up order self self cfg =
        (.returned (.error (.listenerConfigAlreadyExists f)), h) ∧
      f.id = id' ∧ f.id ∈ h.freeMessageHandlerIds := by
  have hmem := order.next_mem hpicked
  obtain ⟨f, hget⟩ := duplicate_refused up order hr.pool hb (Finset.ne_empty_of_mem hmem)
  have hid : f.id = id' := Option.some.inj ((duplicate_offered hget).1.symm.trans hpicked)
  rw [← hid] at hmem
  exact ⟨fun hanswers => (hanswers f h hget).2 hmem, f, hget, hid, hmem⟩

/-- The first registration of a fresh process binds id 0; id 1 is next. -/
theorem first_registered (up : UpRust) (self : T) (cfg : ListenerConfig L) :
    let h := Runs.after (handlerStep up) (.new : MessageHandlers T L) [.get self cfg .least]
    h.Reachable up ∧ h.Bound self 0 cfg ∧ IterOrder.least.next h.freeMessageHandlerIds = some 1 := by
  intro h
  refine ⟨⟨_, rfl⟩, bound_first.2 ⟨rfl, rfl, rfl⟩, ?_⟩
  obtain ⟨maps, hb, hafter⟩ := after_get up (available_new self cfg) (by decide)
  show IterOrder.least.next (Runs.after (handlerStep up) .new [.get self cfg .least]).freeMessageHandlerIds = _
  rw [hafter]
  exact picked_second hb

theorem answersInUse_iff_sample :
    let h := Runs.after (handlerStep .accepting) (.new : MessageHandlers Unit Unit) [.get () sampleConfig .least]
    AnswersInUse .accepting .least h () sampleConfig 0 ↔ h.freeMessageHandlerIds = ∅ := by
  intro h
  obtain ⟨hr, hb, -⟩ := first_registered .accepting () sampleConfig
  exact answersInUse_iff hr hb .least

/-- Id 0 is bound; its configuration registered again is answered with the
function of id 1, which is free. -/
theorem duplicate_answered_with_free :
    let h := Runs.after (handlerStep .accepting) (.new : MessageHandlers Unit Unit) [.get () sampleConfig .least]
    h.Bound () 0 sampleConfig ∧ ¬ AnswersInUse .accepting .least h () sampleConfig 0 ∧
    ∃ f, h.getMessageHandler .accepting .least () () sampleConfig =
        (.returned (.error (.listenerConfigAlreadyExists f)), h) ∧
      f.id = 1 ∧ f.id ∈ h.freeMessageHandlerIds := by
  intro h
  obtain ⟨hr, hb, hpicked⟩ := first_registered .accepting () sampleConfig
  exact ⟨hb, duplicate_told hr hb hpicked⟩

end MessageHandlers

end VsomeipTransport
