/-
The handler registry action by action: which locks its functions take, in
which order they take them and give them back, and what they do in between.

`get_message_handler` and `release_message_handler` take the locks of the two
statics and of the transport's own map, all for writing, before they do
anything. Rolling back, `get_message_handler` gives the locks of the statics
back one by one: each rollback step owns the guard it works with, and drops
it. The other functions hold one lock for reading and copy what they find.
`get_all_listener_configs` is no call of its own here: it reads the ids and
then the configuration of each, and takes its lock anew each time.

Nothing panics while it holds a lock as long as every free id has a function
(`PoolInvariant`), so the locks are never poisoned here.
-/
import VsomeipTransport.Lib.Locks
import VsomeipTransport.PoolInvariant

namespace VsomeipTransport

/-- `MESSAGE_HANDLER_ID_TO_TRANSPORT_STORAGE`, `FREE_MESSAGE_HANDLER_IDS`, and
the `message_handler_id_and_listener_config` of each transport. -/
inductive RegistryLock (T : Type)
  | transportStorage
  | freeIds
  | listenerConfigs (t : T)
deriving DecidableEq

namespace RegistryLock

variable {T : Type}

/-- The order in which they are taken. -/
def rank : RegistryLock T → ℕ
  | .transportStorage => 0
  | .freeIds => 1
  | .listenerConfigs _ => 2

/-- What is behind a lock. -/
abbrev Behind (T L : Type) : RegistryLock T → Type
  | .transportStorage => PartialMap MessageHandlerId T
  | .freeIds => Finset MessageHandlerId
  | .listenerConfigs _ => BiMap MessageHandlerId (ListenerConfig L)

end RegistryLock

open RegistryLock

variable {T L : Type}

namespace MessageHandlers

/-- The registry as the maps behind its locks. -/
def behind (h : MessageHandlers T L) : ∀ k, Behind T L k
  | .transportStorage => h.messageHandlerIdToTransportStorage
  | .freeIds => h.freeMessageHandlerIds
  | .listenerConfigs t => h.messageHandlerIdAndListenerConfig t

def ofBehind (d : ∀ k, Behind T L k) : MessageHandlers T L :=
  ⟨d .freeIds, d .transportStorage, fun t => d (.listenerConfigs t)⟩

@[simp] theorem behind_ofBehind (d : ∀ k, Behind T L k) : (ofBehind d).behind = d := by
  funext k
  cases k <;> rfl

end MessageHandlers

/-! ## The functions -/

/-- A call to the registry of a transport. -/
inductive RegistryOp (T L : Type)
  | handler (op : HandlerOp T L)
  | getMessageHandlerIdTransport (messageHandlerId : MessageHandlerId)
  | getListenerForMessageHandlerId (self : T) (messageHandlerId : MessageHandlerId)
  | getMessageHandlerIds (self : T) (order : IterOrder MessageHandlerId)
  | getListenerConfigForMessageHandlerId (self : T) (messageHandlerId : MessageHandlerId)

inductive RegistryAnswer (T L : Type)
  | handler (answer : HandlerAnswer)
  | transport (t : Option T)
  | listener (l : Option L)
  | ids (ids : List MessageHandlerId)
  | config (cfg : Option (ListenerConfig L))

abbrev RegistryProg (T L : Type) := Locks.Prog (RegistryLock T) (Behind T L) (RegistryAnswer T L)

namespace RegistryProg

variable [DecidableEq L]

def getMessageHandler (up : UpRust) (order : IterOrder MessageHandlerId) (self transportStorage : T)
    (listenerConfig : ListenerConfig L) : RegistryProg T L :=
  .lock .transportStorage .exclusive fun storages =>
  .lock .freeIds .exclusive fun free =>
  .lock (.listenerConfigs self) .exclusive fun configs =>
  match LockedMaps.findAvailableMessageHandlerId order free with
  | (.error _, _) =>
    .unlock (.listenerConfigs self) <| .unlock .freeIds <| .unlock .transportStorage <|
    .done (.handler (.got (.returned (.error (.otherError (up.debugUStatus
      (.failWithCode .resourceExhausted "No more available extern fns")))))))
  | (.ok id, free) =>
    .write .freeIds free <|
    match LockedMaps.insertMessageHandlerIdTransport storages id transportStorage with
    | (.error err, _) =>
      .write .freeIds (LockedMaps.freeMessageHandlerId free id).2 <| .unlock .freeIds <|
      .unlock (.listenerConfigs self) <| .unlock .transportStorage <|
      .done (.handler (.got (.returned (.error (.otherError (up.debugUStatus err))))))
    | (.ok (), storages) =>
      .write .transportStorage storages <|
      match LockedMaps.insertMessageHandlerIdAndListenerConfig configs id listenerConfig with
      | (.error err, _) =>
        .write .freeIds (LockedMaps.freeMessageHandlerId free id).2 <| .unlock .freeIds <|
        .write .transportStorage (LockedMaps.removeMessageHandlerIdTransport storages id).2 <|
        .unlock .transportStorage <|
        .unlock (.listenerConfigs self) <|
        .done (.handler (.got (match err with
          | .messageHandlerIdAlreadyExists listenerId => .returned (.error (.listenerIdAlreadyExists listenerId))
          | .listenerConfigAlreadyExists =>
            match getExternFn id with
            | .returned handler => .returned (.error (.listenerConfigAlreadyExists handler))
            | .panicked msg => .panicked msg)))
      | (.ok (), configs) =>
        .write (.listenerConfigs self) configs <|
        -- The rollback steps are dropped with the guards they own.
        .unlock .freeIds <| .unlock .transportStorage <| .unlock (.listenerConfigs self) <|
        .done (.handler (.got (match getExternFn id with
          | .returned handler => .returned (.ok handler)
          | .panicked msg => .panicked msg)))

omit [DecidableEq L] in
def releaseMessageHandler (self : T) (listenerConfig : ListenerConfig L) : RegistryProg T L :=
  .lock .transportStorage .exclusive fun storages =>
  .lock .freeIds .exclusive fun free =>
  .lock (.listenerConfigs self) .exclusive fun configs =>
  match configs.getByRight listenerConfig with
  | none =>
    .unlock (.listenerConfigs self) <| .unlock .freeIds <| .unlock .transportStorage <|
    .done (.handler (.released (.error (.failWithCode .notFound "No listener_id for listener_config"))))
  | some id =>
    .write .freeIds (LockedMaps.freeMessageHandlerId free id).2 <|
    .write .transportStorage (LockedMaps.removeMessageHandlerIdTransport storages id).2 <|
    .write (.listenerConfigs self) (LockedMaps.removeMessageHandlerIdAndListenerConfig configs id).2 <|
    .unlock (.listenerConfigs self) <| .unlock .freeIds <| .unlock .transportStorage <|
    .done (.handler (.released (.ok ())))

omit [DecidableEq L] in
/-- Holds one lock and copies what is behind it. -/
def reading (k : RegistryLock T) (answer : Behind T L k → RegistryAnswer T L) : RegistryProg T L :=
  .lock k .shared fun map => .unlock k <| .done (answer map)

/-- The callers of `get_message_handler` pass the storage it is called on. -/
def of (up : UpRust) : RegistryOp T L → RegistryProg T L
  | .handler (.get self cfg order) => getMessageHandler up order self self cfg
  | .handler (.release self cfg) => releaseMessageHandler self cfg
  | .getMessageHandlerIdTransport messageHandlerId =>
    reading .transportStorage fun storages => .transport (storages messageHandlerId)
  | .getListenerForMessageHandlerId self messageHandlerId =>
    reading (.listenerConfigs self) fun configs => .listener ((configs.getByLeft messageHandlerId).map (·.listener))
  | .getMessageHandlerIds self order =>
    reading (.listenerConfigs self) fun configs => .ids (order.toList configs.leftValues)
  | .getListenerConfigForMessageHandlerId self messageHandlerId =>
    reading (.listenerConfigs self) fun configs => .config (configs.getByLeft messageHandlerId)

end RegistryProg

/-! ## The same in one step -/

variable [DecidableEq T] [DecidableEq L]

/-- What the functions do to the registry as a whole. -/
def RegistryOp.apply (up : UpRust) (h : MessageHandlers T L) : RegistryOp T L → RegistryAnswer T L × MessageHandlers T L
  | .handler op =>
    let (h, answer) := handlerStep up h op
    (.handler answer, h)
  | .getMessageHandlerIdTransport messageHandlerId =>
    (.transport (h.getMessageHandlerIdTransport messageHandlerId), h)
  | .getListenerForMessageHandlerId self messageHandlerId =>
    (.listener (h.getListenerForMessageHandlerId self messageHandlerId), h)
  | .getMessageHandlerIds self order => (.ids (h.getMessageHandlerIds order self), h)
  | .getListenerConfigForMessageHandlerId self messageHandlerId =>
    (.config (h.getListenerConfigForMessageHandlerId self messageHandlerId), h)

def RegistryOp.exec (up : UpRust) (op : RegistryOp T L) (d : ∀ k, Behind T L k) :
    RegistryAnswer T L × (∀ k, Behind T L k) :=
  let (answer, h) := op.apply up (.ofBehind d)
  (answer, h.behind)

end VsomeipTransport
