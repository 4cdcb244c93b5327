/-
`storage/message_handler_registry.rs`, with the pool of extern "C" functions
`vsomeip-proc-macro` generates.

Three maps move together: the free handler ids and the storage each handler
id refers to, both of the process, and the handler ids and listener
configurations of one transport. `getMessageHandler` and
`releaseMessageHandler` take the write locks of all three for their whole
body, so each is one step; what a step can do is said once, by
`getMessageHandler_cases` and `releaseMessageHandler_cases`.

The transports are told apart by a type `T`, and all are alive: a weak
reference to a storage always upgrades.
-/
import VsomeipTransport.Vsomeip

namespace VsomeipTransport

/-- What a listener is registered under. A listener is told apart from the
others as `ComparableListener` does. -/
structure ListenerConfig (L : Type) where
  sourceFilter : UUri
  sinkFilter : Option UUri
  listener : L
deriving DecidableEq

inductive GetMessageHandlerError
  | listenerIdAlreadyExists (id : MessageHandlerId)
  | listenerConfigAlreadyExists (handler : MessageHandlerFnPtr)
  | otherError (err : String)
deriving DecidableEq, Repr

inductive MessageHandlerIdAndListenerConfigError
  | messageHandlerIdAlreadyExists (id : MessageHandlerId)
  | listenerConfigAlreadyExists
deriving DecidableEq, Repr

/-- `message_handler_proc_macro::get_extern_fn`. -/
def getExternFn (messageHandlerId : MessageHandlerId) : Outcome MessageHandlerFnPtr :=
  if h : messageHandlerId < numMessageHandlers then .returned ⟨messageHandlerId, h⟩
  else .panicked ("MessageHandlerId out of range: " ++ toString messageHandlerId)

/-! ## The maps behind the locks -/

/-- The three maps as a thread sees them that holds the locks. -/
structure LockedMaps (T L : Type) where
  freeMessageHandlerIds : Finset MessageHandlerId
  messageHandlerIdToTransportStorage : PartialMap MessageHandlerId T
  messageHandlerIdAndListenerConfig : BiMap MessageHandlerId (ListenerConfig L)

namespace LockedMaps

variable {T L : Type}

def findAvailableMessageHandlerId (order : IterOrder MessageHandlerId) (free : Finset MessageHandlerId) :
    Except UStatus MessageHandlerId × Finset MessageHandlerId :=
  match order.next free with
  | some id => (.ok id, free.erase id)
  | none => (.error (.failWithCode .resourceExhausted "No more extern C fns available"), free)

def freeMessageHandlerId (free : Finset MessageHandlerId) (listenerId : MessageHandlerId) :
    Except UStatus Unit × Finset MessageHandlerId :=
  (.ok (), insert listenerId free)

def insertMessageHandlerIdTransport (storages : PartialMap MessageHandlerId T) (listenerId : MessageHandlerId)
    (transport : T) : Except UStatus Unit × PartialMap MessageHandlerId T :=
  match storages listenerId with
  | none => (.ok (), storages.insert listenerId transport)
  | some _ =>
    (.error (.failWithCode .alreadyExists
      ("LISTENER_ID_TRANSPORT_MAPPING already contains listener_id: " ++ toString listenerId)), storages)

def removeMessageHandlerIdTransport (storages : PartialMap MessageHandlerId T) (listenerId : MessageHandlerId) :
    Except UStatus Unit × PartialMap MessageHandlerId T :=
  match storages listenerId with
  | some _ => (.ok (), storages.remove listenerId)
  | none =>
    (.error (.failWithCode .notFound
      ("LISTENER_ID_TRANSPORT_MAPPING does not contain listener_id: " ++ toString listenerId)), storages)

variable [DecidableEq L]

def insertMessageHandlerIdAndListenerConfig (configs : BiMap MessageHandlerId (ListenerConfig L))
    (messageHandlerId : MessageHandlerId) (listenerConfig : ListenerConfig L) :
    Except MessageHandlerIdAndListenerConfigError Unit × BiMap MessageHandlerId (ListenerConfig L) :=
  match configs.insertNoOverwrite messageHandlerId listenerConfig with
  | .ok configs => (.ok (), configs)
  | .error _existed =>
    if configs.containsLeft messageHandlerId then
      (.error (.messageHandlerIdAlreadyExists messageHandlerId), configs)
    else if configs.containsRight listenerConfig then (.error .listenerConfigAlreadyExists, configs)
    else (.ok (), configs)

omit [DecidableEq L] in
def removeMessageHandlerIdAndListenerConfig (configs : BiMap MessageHandlerId (ListenerConfig L))
    (messageHandlerId : MessageHandlerId) :
    Except UStatus Unit × BiMap MessageHandlerId (ListenerConfig L) :=
  match configs.getByLeft messageHandlerId with
  | none =>
    (.error (.failWithCode .notFound ("No listener_config for listener_id: " ++ toString messageHandlerId)),
      configs)
  | some _ => (.ok (), configs.removeByLeft messageHandlerId)

/-- The rollback steps run in the order they were pushed; a step that fails
is logged only. -/
def rollBack (steps : List (LockedMaps T L → LockedMaps T L)) (maps : LockedMaps T L) : LockedMaps T L :=
  steps.foldl (fun maps step => step maps) maps

omit [DecidableEq L] in
def rollBackFree (id : MessageHandlerId) (maps : LockedMaps T L) : LockedMaps T L :=
  { maps with freeMessageHandlerIds := (freeMessageHandlerId maps.freeMessageHandlerIds id).2 }

omit [DecidableEq L] in
def rollBackTransport (id : MessageHandlerId) (maps : LockedMaps T L) : LockedMaps T L :=
  { maps with messageHandlerIdToTransportStorage :=
      (removeMessageHandlerIdTransport maps.messageHandlerIdToTransportStorage id).2 }

def getMessageHandler (up : UpRust) (order : IterOrder MessageHandlerId) (maps : LockedMaps T L)
    (transportStorage : T) (listenerConfig : ListenerConfig L) :
    Outcome (Except GetMessageHandlerError MessageHandlerFnPtr) × LockedMaps T L :=
  match findAvailableMessageHandlerId order maps.freeMessageHandlerIds with
  | (.error _, free) =>
    (.returned (.error (.otherError (up.debugUStatus
      (.failWithCode .resourceExhausted "No more available extern fns")))),
      { maps with freeMessageHandlerIds := free })
  | (.ok id, free) =>
    let maps := { maps with freeMessageHandlerIds := free }
    let rollbackSteps := [rollBackFree id]
    match insertMessageHandlerIdTransport maps.messageHandlerIdToTransportStorage id transportStorage with
    | (.error err, _) => (.returned (.error (.otherError (up.debugUStatus err))), rollBack rollbackSteps maps)
    | (.ok (), storages) =>
      let maps := { maps with messageHandlerIdToTransportStorage := storages }
      let rollbackSteps := rollbackSteps ++ [rollBackTransport id]
      match insertMessageHandlerIdAndListenerConfig maps.messageHandlerIdAndListenerConfig id listenerConfig with
      | (.error (.messageHandlerIdAlreadyExists listenerId), _) =>
        (.returned (.error (.listenerIdAlreadyExists listenerId)), rollBack rollbackSteps maps)
      | (.error .listenerConfigAlreadyExists, _) =>
        match getExternFn id with
        | .returned handler =>
          (.returned (.error (.listenerConfigAlreadyExists handler)), rollBack rollbackSteps maps)
        | .panicked msg => (.panicked msg, rollBack rollbackSteps maps)
      | (.ok (), configs) =>
        let maps := { maps with messageHandlerIdAndListenerConfig := configs }
        match getExternFn id with
        | .returned handler => (.returned (.ok handler), maps)
        | .panicked msg => (.panicked msg, maps)

def releaseMessageHandler (maps : LockedMaps T L) (listenerConfig : ListenerConfig L) :
    Except UStatus Unit × LockedMaps T L :=
  match maps.messageHandlerIdAndListenerConfig.getByRight listenerConfig with
  | none => (.error (.failWithCode .notFound "No listener_id for listener_config"), maps)
  | some id =>
    let (_, free) := freeMessageHandlerId maps.freeMessageHandlerIds id
    let (_, storages) := removeMessageHandlerIdTransport maps.messageHandlerIdToTransportStorage id
    let (_, configs) := removeMessageHandlerIdAndListenerConfig maps.messageHandlerIdAndListenerConfig id
    (.ok (), ⟨free, storages, configs⟩)

end LockedMaps

/-! ## The registry of a process -/

/-- `FREE_MESSAGE_HANDLER_IDS`, `MESSAGE_HANDLER_ID_TO_TRANSPORT_STORAGE` and
the `message_handler_id_and_listener_config` of every transport. -/
structure MessageHandlers (T L : Type) where
  freeMessageHandlerIds : Finset MessageHandlerId
  messageHandlerIdToTransportStorage : PartialMap MessageHandlerId T
  messageHandlerIdAndListenerConfig : T → BiMap MessageHandlerId (ListenerConfig L)

namespace MessageHandlers

variable {T L : Type}

def new : MessageHandlers T L where
  freeMessageHandlerIds := Finset.range numMessageHandlers
  messageHandlerIdToTransportStorage := PartialMap.empty
  messageHandlerIdAndListenerConfig := fun _ => BiMap.empty

/-- The storage a callback on a handler id works with. -/
def getMessageHandlerIdTransport (h : MessageHandlers T L) (messageHandlerId : MessageHandlerId) : Option T :=
  h.messageHandlerIdToTransportStorage messageHandlerId

def getListenerForMessageHandlerId (h : MessageHandlers T L) (self : T) (messageHandlerId : MessageHandlerId) :
    Option L :=
  ((h.messageHandlerIdAndListenerConfig self).getByLeft messageHandlerId).map (·.listener)

/-- The ids of `self`, in the order the map yields them. -/
def getMessageHandlerIds (h : MessageHandlers T L) (order : IterOrder MessageHandlerId) (self : T) :
    List MessageHandlerId :=
  order.toList (h.messageHandlerIdAndListenerConfig self).leftValues

def getListenerConfigForMessageHandlerId (h : MessageHandlers T L) (self : T) (messageHandlerId : MessageHandlerId) :
    Option (ListenerConfig L) :=
  (h.messageHandlerIdAndListenerConfig self).getByLeft messageHandlerId

def getAllListenerConfigs (h : MessageHandlers T L) (order : IterOrder MessageHandlerId) (self : T) :
    List (ListenerConfig L) :=
  (h.getMessageHandlerIds order self).filterMap (h.getListenerConfigForMessageHandlerId self)

/-- What a thread sees that works on the registry of `self`. -/
def lock (h : MessageHandlers T L) (self : T) : LockedMaps T L :=
  ⟨h.freeMessageHandlerIds, h.messageHandlerIdToTransportStorage, h.messageHandlerIdAndListenerConfig self⟩

variable [DecidableEq T]

/-- What it leaves. -/
def unlock (h : MessageHandlers T L) (self : T) (maps : LockedMaps T L) : MessageHandlers T L :=
  ⟨maps.freeMessageHandlerIds, maps.messageHandlerIdToTransportStorage,
    Function.update h.messageHandlerIdAndListenerConfig self maps.messageHandlerIdAndListenerConfig⟩

variable [DecidableEq L]

def getMessageHandler (up : UpRust) (order : IterOrder MessageHandlerId) (h : MessageHandlers T L) (self : T)
    (transportStorage : T) (listenerConfig : ListenerConfig L) :
    Outcome (Except GetMessageHandlerError MessageHandlerFnPtr) × MessageHandlers T L :=
  let (res, maps) := (h.lock self).getMessageHandler up order transportStorage listenerConfig
  (res, h.unlock self maps)

def releaseMessageHandler (h : MessageHandlers T L) (self : T) (listenerConfig : ListenerConfig L) :
    Except UStatus Unit × MessageHandlers T L :=
  let (res, maps) := (h.lock self).releaseMessageHandler listenerConfig
  (res, h.unlock self maps)

end MessageHandlers

end VsomeipTransport
