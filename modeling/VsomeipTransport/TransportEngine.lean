/-
`transport_engine.rs`: the engine thread of a transport.

The engine takes commands from its queue one at a time and answers each on
a channel of its own. Every command of a transport refers to the same
storage and application, so these are the state the engine works on
(`EngineState`). A command that panics ends the thread: from then on nothing
is taken from the queue and nothing can be sent.

Registering and unregistering work out the triple for vsomeip separately,
each from the filters; the triples are also named on their own
(`registerKey`, `unregisterKey`) for the statements about them.
-/
import VsomeipTransport.DetermineMessageType
import VsomeipTransport.MessageConversions

namespace VsomeipTransport

/-- What the crate is built with and against. -/
structure Deps where
  up : UpRust
  rt : VsomeipRuntime
  checks : OverflowChecks

inductive TransportCommand
  | registerListener (src : UUri) (sink : Option UUri) (registrationType : RegistrationType)
      (msgHandler : MessageHandlerFnPtr)
  | unregisterListener (src : UUri) (sink : Option UUri) (registrationType : RegistrationType)
  | send (umsg : UMessage)
  | stopVsomeipApp
deriving DecidableEq, Repr

/-- What the commands of a transport hand to the engine. `application` is
what `get_application` finds under the name. -/
structure EngineState where
  appName : ApplicationName
  application : Option VsomeipApplication
  rpcCorrelation : InMemoryRpcCorrelationRegistry
  vsomeipOfferedRequested : InMemoryVsomeipOfferedRequestedRegistry

/-! ## Commands -/

def registerListenerInternal (sourceFilter : UUri) (sinkFilter : Option UUri)
    (registrationType : RegistrationType) (msgHandler : MessageHandlerFnPtr)
    (offered : InMemoryVsomeipOfferedRequestedRegistry) (app : VsomeipApplication) :
    Except UStatus Unit × InMemoryVsomeipOfferedRequestedRegistry × VsomeipApplication :=
  match registrationType with
  | .publish =>
    let (_, serviceId) := splitU32ToU16 sourceFilter.ueId
    let instanceId := 1
    let (_, eventId) := splitU32ToU16 sourceFilter.resourceId
    let (offered, app) :=
      if !offered.isEventRequested serviceId instanceId eventId then
        let app := app.call (.requestService serviceId instanceId anyMajor anyMinor)
        let app := app.call (.requestEvent serviceId instanceId eventId eventId)
        let app := app.call (.subscribe serviceId instanceId eventId anyMajor eventId)
        ((offered.insertEventRequested serviceId instanceId eventId).2, app)
      else (offered, app)
    (.ok (), offered, app.registerMessageHandler ⟨serviceId, instanceId, eventId⟩ msgHandler)
  | .request =>
    match sinkFilter with
    | none =>
      (.error (.failWithCode .invalidArgument
        "Unable to map source and sink filters to uProtocol message type"), offered, app)
    | some sinkFilter =>
      let (_, serviceId) := splitU32ToU16 sinkFilter.ueId
      let instanceId := 1
      let (_, methodId) := splitU32ToU16 sinkFilter.resourceId
      let (_, _, _, majorVersion) := splitU32ToU8 sinkFilter.ueVersionMajor
      let (offered, app) :=
        if !offered.isServiceOffered serviceId instanceId methodId then
          let app := app.call (.offerService serviceId instanceId majorVersion defaultMinor)
          ((offered.insertServiceOffered serviceId instanceId methodId).2, app)
        else (offered, app)
      (.ok (), offered, app.registerMessageHandler ⟨serviceId, anyInstance, methodId⟩ msgHandler)
  | .response =>
    let (_, serviceId) := splitU32ToU16 sourceFilter.ueId
    let instanceId := anyInstance
    let (_, methodId) := splitU32ToU16 sourceFilter.resourceId
    let (offered, app) :=
      if !offered.isServiceRequested serviceId instanceId methodId then
        let app := app.call (.requestService serviceId instanceId anyMajor anyMinor)
        ((offered.insertServiceRequested serviceId instanceId methodId).2, app)
      else (offered, app)
    (.ok (), offered, app.registerMessageHandler ⟨serviceId, instanceId, methodId⟩ msgHandler)
  | .allPointToPoint =>
    (.error (.failWithCode .internal "Should be impossible to register point-to-point internally"), offered, app)

def unregisterListenerInternal (sourceFilter : UUri) (sinkFilter : Option UUri)
    (registrationType : RegistrationType) (app : VsomeipApplication) :
    Except UStatus Unit × VsomeipApplication :=
  match registrationType with
  | .publish =>
    let (_, serviceId) := splitU32ToU16 sourceFilter.ueId
    let (_, methodId) := splitU32ToU16 sourceFilter.resourceId
    (.ok (), app.unregisterMessageHandler ⟨serviceId, anyInstance, methodId⟩)
  | .request | .response =>
    match sinkFilter with
    | none => (.error (.failWithCode .invalidArgument "Request doesn't contain sink"), app)
    | some sinkFilter =>
      let (_, serviceId) := splitU32ToU16 sinkFilter.ueId
      let (_, methodId) := splitU32ToU16 sinkFilter.resourceId
      (.ok (), app.unregisterMessageHandler ⟨serviceId, anyInstance, methodId⟩)
  | .allPointToPoint =>
    (.error (.failWithCode .internal "Should be impossible to unregister point-to-point internally"), app)

def sendInternal (d : Deps) (umsg : UMessage) (rpc : InMemoryRpcCorrelationRegistry)
    (offered : InMemoryVsomeipOfferedRequestedRegistry) (app : VsomeipApplication) :
    Outcome (Except UStatus Unit) × InMemoryRpcCorrelationRegistry × InMemoryVsomeipOfferedRequestedRegistry ×
      VsomeipApplication :=
  let attachablePayload := setDataSafe (umsg.payload.getD [])
  match umsg.attrs.type.enumValueOr .unspecified with
  | .unspecified =>
    (.returned (.error (.failWithCode .invalidArgument "Unspecified message type not supported")), rpc, offered,
      app)
  | .notification =>
    (.returned (.error (.failWithCode .invalidArgument "Notification is not supported")), rpc, offered, app)
  | .publish =>
    match UMessageToVsomeipMessage.umsgPublishToVsomeipNotification umsg offered app with
    | (.error e, offered, app) => (.returned (.error e), rpc, offered, app)
    | (.ok (serviceId, instanceId, eventId), offered, app) =>
      (.returned (.ok ()), rpc, offered, app.call (.notify serviceId instanceId eventId attachablePayload true))
  | .request =>
    match UMessageToVsomeipMessage.umsgRequestToVsomeipMessage d.up d.rt d.checks umsg rpc app with
    | (.panicked msg, rpc) => (.panicked msg, rpc, offered, app)
    | (.returned (.error e), rpc) => (.returned (.error e), rpc, offered, app)
    | (.returned (.ok m), rpc) =>
      (.returned (.ok ()), rpc, offered, app.send { m with payload := some attachablePayload })
  | .response =>
    match UMessageToVsomeipMessage.umsgResponseToVsomeipMessage d.up d.rt umsg rpc with
    | (.error e, rpc) => (.returned (.error e), rpc, offered, app)
    | (.ok m, rpc) =>
      (.returned (.ok ()), rpc, offered, app.send { m with payload := some attachablePayload })

/-- One turn of `event_loop`: the answer to a command, or the panic that
ends the thread. -/
def processCommand (d : Deps) (s : EngineState) (cmd : TransportCommand) :
    Outcome (Except UStatus Unit) × EngineState :=
  match s.application with
  | none =>
    let err := match cmd with
      | .registerListener .. => "Application does not exist for app_name: " ++ s.appName
      | .unregisterListener .. => "Application does not exist for app_name: " ++ s.appName
      | .send _ => "No application exists for " ++ s.appName
      | .stopVsomeipApp => "No application exists"
    (.returned (.error (.failWithCode .internal err)), s)
  | some app =>
    match cmd with
    | .registerListener src sink registrationType msgHandler =>
      let (res, offered, app) :=
        registerListenerInternal src sink registrationType msgHandler s.vsomeipOfferedRequested app
      (.returned res, { s with application := some app, vsomeipOfferedRequested := offered })
    | .unregisterListener src sink registrationType =>
      let (res, app) := unregisterListenerInternal src sink registrationType app
      (.returned res, { s with application := some app })
    | .send umsg =>
      let (res, rpc, offered, app) := sendInternal d umsg s.rpcCorrelation s.vsomeipOfferedRequested app
      (res, { s with application := some app, rpcCorrelation := rpc, vsomeipOfferedRequested := offered })
    | .stopVsomeipApp => (.returned (.ok ()), { s with application := some (app.call .stop) })

/-! ## The thread and its queue -/

structure Engine where
  state : EngineState
  running : Bool
  queue : List TransportCommand

namespace Engine

/-- Works through the commands, as long as none panics. -/
def serve (d : Deps) : EngineState → List TransportCommand → Bool × EngineState
  | s, [] => (true, s)
  | s, cmd :: cmds =>
    match processCommand d s cmd with
    | (.returned _, s) => serve d s cmds
    | (.panicked _, s) => (false, s)

/-- Takes the next command, if there is one. A panic drops the others. -/
def turn (d : Deps) (e : Engine) : Engine :=
  match e.running, e.queue with
  | true, cmd :: cmds =>
    match processCommand d e.state cmd with
    | (.returned _, s) => { state := s, running := true, queue := cmds }
    | (.panicked _, s) => { state := s, running := false, queue := [] }
  | _, _ => e

/-- How a command sent to the engine fares within `INTERNAL_FUNCTION_TIMEOUT`. -/
inductive Answer
  | stopped
  | replied (res : Except UStatus Unit)
  | dropped
  | timedOut

/-- Sends a command and waits. In time, the engine works through its queue
and the command, or dies on the way and drops the answer; otherwise the
command is left in the queue. -/
def ask (d : Deps) (e : Engine) (cmd : TransportCommand) (inTime : Bool) : Answer × Engine :=
  if !e.running then (.stopped, e)
  else if !inTime then (.timedOut, { e with queue := e.queue ++ [cmd] })
  else
    match serve d e.state e.queue with
    | (false, s) => (.dropped, { state := s, running := false, queue := [] })
    | (true, s) =>
      match processCommand d s cmd with
      | (.returned res, s) => (.replied res, { state := s, running := true, queue := [] })
      | (.panicked _, s) => (.dropped, { state := s, running := false, queue := [] })

end Engine

/-- `await_engine`, and the panic of every caller when the engine has stopped. -/
def awaitEngine (functionId : String) : Engine.Answer → Outcome (Except UStatus Unit)
  | .stopped => .panicked "engine has stopped! unable to proceed!"
  | .replied res => .returned res
  | .dropped =>
    .returned (.error (.failWithCode .internal
      ("Unable to receive status back from internal function: " ++ functionId)))
  | .timedOut =>
    .returned (.error (.failWithCode .deadlineExceeded
      ("Unable to receive status back from internal function: " ++ functionId ++ " within 3 second window.")))

end VsomeipTransport
