/-
vsomeip as the transport uses it: messages, and one application with the
calls made to it.

An application records every call (`calls`, newest first) and, of vsomeip's
own behaviour, keeps what is documented of two of them: the message handlers
are a table with one entry for each exact (service, instance, method), and
`send` numbers the requests it is given with a 16-bit session of its own.
-/
import VsomeipTransport.Lib.PartialMap
import VsomeipTransport.Utils

namespace VsomeipTransport

/-! ## Constants -/

def anyService : ServiceId := 0xFFFF
def anyInstance : InstanceId := 0xFFFF
def anyMethod : MethodId := 0xFFFF
def anyMajor : UInt8 := 0xFF
def anyMinor : UInt32 := 0xFFFFFFFF
def defaultMinor : UInt32 := 0

/-! ## Messages -/

/-- `message_type_e`. -/
inductive MessageType
  | request
  | requestNoReturn
  | notification
  | requestAck
  | requestNoReturnAck
  | notificationAck
  | response
  | error
  | responseAck
  | errorAck
  | unknown
deriving DecidableEq, Repr

/-- The `Display` of `message_type_e`. -/
def MessageType.display : MessageType → String
  | .error => "MT_ERROR"
  | .errorAck => "MT_ERROR_ACK"
  | .notification => "MT_NOTIFICATION"
  | .notificationAck => "MT_NOTIFICATION_ACK"
  | .request => "MT_REQUEST"
  | .requestAck => "MT_REQUEST_ACK"
  | .requestNoReturn => "MT_REQUEST_NO_RETURN"
  | .requestNoReturnAck => "MT_REQUEST_NO_RETURN_ACK"
  | .response => "MT_RESPONSE"
  | .responseAck => "MT_RESPONSE_ACK"
  | .unknown => "MT_UNKNOWN"

/-- `return_code_e`; `unknown` also stands for the numbers it does not name. -/
inductive ReturnCode
  | ok
  | notOk
  | unknownService
  | unknownMethod
  | notReady
  | notReachable
  | timeout
  | wrongProtocolVersion
  | wrongInterfaceVersion
  | malformedMessage
  | wrongMessageType
  | unknown
deriving DecidableEq, Repr

/-- `vsomeip::message`. A message may come without a payload object. -/
structure VsomeipMessage where
  messageType : MessageType
  service : ServiceId
  instanceId : InstanceId
  method : MethodId
  client : ClientId
  session : SessionId
  interfaceVersion : UInt8
  returnCode : ReturnCode
  payload : Option (List UInt8)
deriving DecidableEq, Repr

/-- `message_base::get_request`: the client and session ids in one. -/
def VsomeipMessage.getRequest (m : VsomeipMessage) : SomeIpRequestId :=
  createRequestId m.client m.session

/-- What `runtime::create_request` and `runtime::create_message` hand out. -/
structure VsomeipRuntime where
  createRequest : VsomeipMessage
  createMessage : VsomeipMessage

/-- `create_request` makes a message of type `MT_REQUEST`. -/
def VsomeipRuntime.MakesRequests (rt : VsomeipRuntime) : Prop := rt.createRequest.messageType = .request

/-- A runtime whose fresh messages have all fields zero. -/
def VsomeipRuntime.zeroed : VsomeipRuntime where
  createRequest := ⟨.request, 0, 0, 0, 0, 0, 0, .ok, some []⟩
  createMessage := ⟨.unknown, 0, 0, 0, 0, 0, 0, .ok, some []⟩

/-- `PayloadWrapper::set_data_safe`: the length is cast to `u32`. -/
def setDataSafe (data : List UInt8) : List UInt8 := data.take (data.length % 2 ^ 32)

/-! ## Applications -/

/-- What a message handler is registered under. -/
structure HandlerKey where
  service : ServiceId
  instanceId : InstanceId
  method : MethodId
deriving DecidableEq, Repr

/-- A handler is invoked for the messages of its own service, instance and
method, a field registered as `ANY` taking any value. -/
def HandlerKey.Admits (key : HandlerKey) (m : VsomeipMessage) : Prop :=
  (key.service = m.service ∨ key.service = anyService) ∧
  (key.instanceId = m.instanceId ∨ key.instanceId = anyInstance) ∧
  (key.method = m.method ∨ key.method = anyMethod)

instance (key : HandlerKey) (m : VsomeipMessage) : Decidable (key.Admits m) := by
  unfold HandlerKey.Admits; infer_instance

/-- The number of extern "C" functions `vsomeip-proc-macro` generates. -/
def numMessageHandlers : Nat := 10000

/-- `extern_fn_message_handler_{id}`: there is one for each id below
`numMessageHandlers` and no other. -/
structure MessageHandlerFnPtr where
  id : MessageHandlerId
  lt : id < numMessageHandlers
deriving DecidableEq, Repr

inductive VsomeipCall
  | offerService (service : ServiceId) (instanceId : InstanceId) (major : UInt8) (minor : UInt32)
  | offerEvent (service : ServiceId) (instanceId : InstanceId) (notifier eventgroup : EventId)
  | requestService (service : ServiceId) (instanceId : InstanceId) (major : UInt8) (minor : UInt32)
  | requestEvent (service : ServiceId) (instanceId : InstanceId) (notifier eventgroup : EventId)
  | subscribe (service : ServiceId) (instanceId : InstanceId) (eventgroup : EventId) (major : UInt8)
      (event : EventId)
  | registerMessageHandler (key : HandlerKey) (handler : MessageHandlerFnPtr)
  | unregisterMessageHandler (key : HandlerKey)
  | notify (service : ServiceId) (instanceId : InstanceId) (event : EventId) (payload : List UInt8)
      (force : Bool)
  | send (m : VsomeipMessage)
  | stop
deriving DecidableEq, Repr

structure VsomeipApplication where
  client : ClientId
  /-- The number the next request will get. -/
  session : SessionId
  handlers : PartialMap HandlerKey MessageHandlerFnPtr
  calls : List VsomeipCall

namespace VsomeipApplication

/-- A started application that nothing was asked of yet. -/
def started (client : ClientId) : VsomeipApplication := ⟨client, 1, PartialMap.empty, []⟩

/-- The session after `session`: 0 is never used. -/
def nextSession (session : SessionId) : SessionId := if session = 0xFFFF then 1 else session + 1

def call (app : VsomeipApplication) (c : VsomeipCall) : VsomeipApplication :=
  { app with calls := c :: app.calls }

def getClient (app : VsomeipApplication) : ClientId := app.client

def registerMessageHandler (app : VsomeipApplication) (key : HandlerKey)
    (handler : MessageHandlerFnPtr) : VsomeipApplication :=
  { app.call (.registerMessageHandler key handler) with handlers := app.handlers.insert key handler }

def unregisterMessageHandler (app : VsomeipApplication) (key : HandlerKey) : VsomeipApplication :=
  { app.call (.unregisterMessageHandler key) with handlers := app.handlers.remove key }

/-- A request leaves with the application's client and next session; other
messages leave as they are. -/
def send (app : VsomeipApplication) (m : VsomeipMessage) : VsomeipApplication :=
  match m.messageType with
  | .request =>
    { app.call (.send { m with client := app.client, session := app.session }) with
      session := nextSession app.session }
  | _ => app.call (.send m)

variable (app : VsomeipApplication)

@[simp] theorem call_client (c : VsomeipCall) : (app.call c).client = app.client := rfl
@[simp] theorem call_session (c : VsomeipCall) : (app.call c).session = app.session := rfl
@[simp] theorem call_handlers (c : VsomeipCall) : (app.call c).handlers = app.handlers := rfl
@[simp] theorem call_calls (c : VsomeipCall) : (app.call c).calls = c :: app.calls := rfl

@[simp] theorem registerMessageHandler_handlers (key : HandlerKey) (handler : MessageHandlerFnPtr) :
    (app.registerMessageHandler key handler).handlers = app.handlers.insert key handler := rfl

@[simp] theorem unregisterMessageHandler_handlers (key : HandlerKey) :
    (app.unregisterMessageHandler key).handlers = app.handlers.remove key := rfl

@[simp] theorem send_handlers (m : VsomeipMessage) : (app.send m).handlers = app.handlers := by
  unfold send; split <;> rfl

@[simp] theorem send_client (m : VsomeipMessage) : (app.send m).client = app.client := by
  unfold send; split <;> rfl

/-- A request takes the next session. -/
theorem send_request {m : VsomeipMessage} (hm : m.messageType = .request) :
    (app.send m).session = nextSession app.session ∧
    (app.send m).calls = .send { m with client := app.client, session := app.session } :: app.calls := by
  simp [send, hm]

/-- Any other message leaves the numbering alone. -/
theorem send_other {m : VsomeipMessage} (hm : m.messageType ≠ .request) :
    app.send m = app.call (.send m) := by
  unfold send
  split
  · next h => exact absurd h hm
  · rfl

end VsomeipApplication

/-- The numbering after `n` requests. -/
theorem nextSession_toNat {s : SessionId} {n : ℕ} (h : s.toNat = n % 65535 + 1) :
    (VsomeipApplication.nextSession s).toNat = (n + 1) % 65535 + 1 := by
  by_cases hs : s = 0xFFFF
  · subst hs
    have hlast : (0xFFFF : UInt16).toNat = 65535 := rfl
    have hone : (1 : UInt16).toNat = 1 := rfl
    simp only [VsomeipApplication.nextSession, if_true, hone]
    omega
  · have hne : s.toNat ≠ 65535 := fun he => hs (UInt16.toNat_inj.1 he)
    have hone : (1 : UInt16).toNat = 1 := rfl
    simp only [VsomeipApplication.nextSession, hs, if_false, UInt16.toNat_add, hone]
    omega

end VsomeipTransport
