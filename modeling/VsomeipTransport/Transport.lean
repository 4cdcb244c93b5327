/-
`lib.rs` and `transport.rs`: the transports of one process and their public
operations.

A call runs from start to end with nothing of the other calls in between;
the engines keep their own pace. What a call cannot know beforehand is given
to it as a `Moment` for each time it takes a handler id and asks the engine:
the order in which the pool hands out its ids, and whether the engine
answers in time. An engine that did not keeps the command in its queue.
-/
import VsomeipTransport.MessageHandlerRegistry
import VsomeipTransport.TransportEngine

namespace VsomeipTransport

/-- `vsomeip_config::ServiceConfig`. -/
structure ServiceConfig where
  service : ServiceId
  instanceId : InstanceId
deriving DecidableEq, Repr

/-- What a transport is made from. `services` is what `extract_services`
reads from the configuration file, if the transport was given one. -/
structure TransportConfig where
  appName : ApplicationName
  uri : TransportUri
  remoteAuthority : AuthorityName
  services : Option (Except UStatus (List ServiceConfig))

/-- `UPTransportVsomeip` with its storage; the storage's handler registry is
in the `MessageHandlers` of the process. -/
structure UPTransportVsomeip (L : Type) where
  config : TransportConfig
  engine : Engine
  pointToPointListener : Option L

/-- The checks `new_internal` makes of the `UUri` it is given. -/
def TransportUri.check (up : UpRust) (uri : UUri) : Except UStatus TransportUri :=
  if h : uri.ueVersionMajor.toNat < 256 then
    match up.verifyRpcResponse uri with
    | .ok () => .ok ⟨uri, h⟩
    | .error e => .error (.failWithCode .invalidArgument ("uri provided to transport is incorrect: " ++ e))
  else
    .error (.failWithCode .invalidArgument
      ("uri's ue_version_major doesn't fit allotted 8 bits: uri.ue_version_major: " ++
        toString uri.ueVersionMajor.toNat))

/-- The engine of a transport that was just made, its application started. -/
def Engine.started (config : TransportConfig) (client : ClientId) : Engine where
  state :=
    { appName := config.appName
      application := some (.started client)
      rpcCorrelation := .new
      vsomeipOfferedRequested := .new }
  running := true
  queue := []

/-- The transport `new_internal` hands out. -/
def UPTransportVsomeip.started {L : Type} (config : TransportConfig) (client : ClientId) : UPTransportVsomeip L where
  config := config
  engine := .started config client
  pointToPointListener := none

def UPTransportVsomeip.getLocalAuthority {L : Type} (t : UPTransportVsomeip L) : AuthorityName :=
  t.config.uri.uri.authorityName

/-- The transports of a process, told apart by `T`. -/
structure Process (T L : Type) where
  handlers : MessageHandlers T L
  transports : T → UPTransportVsomeip L

/-- What is open when a call takes a handler id and asks the engine. -/
structure Moment where
  order : IterOrder MessageHandlerId
  inTime : Bool

namespace Process

variable {T L : Type}

/-- A process whose transports were just made. -/
def started (configs : T → TransportConfig × ClientId) : Process T L where
  handlers := .new
  transports t := .started (configs t).1 (configs t).2

variable [DecidableEq T]

def setTransport (p : Process T L) (t : T) (transport : UPTransportVsomeip L) : Process T L :=
  { p with transports := Function.update p.transports t transport }

def setEngine (p : Process T L) (t : T) (engine : Engine) : Process T L :=
  p.setTransport t { p.transports t with engine := engine }

/-- Sends a command to the engine of `t` and awaits it. -/
def ask (d : Deps) (p : Process T L) (t : T) (cmd : TransportCommand) (inTime : Bool) :
    Engine.Answer × Process T L :=
  let (answer, engine) := (p.transports t).engine.ask d cmd inTime
  (answer, p.setEngine t engine)

/-- The engine of `t` takes its next command. -/
def engineTurn (d : Deps) (p : Process T L) (t : T) : Process T L :=
  p.setEngine t ((p.transports t).engine.turn d)

/-- The vsomeip application of `t` goes away. -/
def applicationLost (p : Process T L) (t : T) : Process T L :=
  let engine := (p.transports t).engine
  p.setEngine t { engine with state := { engine.state with application := none } }

variable [DecidableEq L]

/-! ## Registering -/

/-- How taking a handler and registering it with the engine ends. -/
inductive Registration
  | refused (e : GetMessageHandlerError)
  | panicked (msg : String)
  | asked (answer : Engine.Answer)

/-- Takes a handler for the configuration and has the engine register it. -/
def registerConfig (d : Deps) (p : Process T L) (t : T) (cfg : ListenerConfig L) (type : RegistrationType)
    (now : Moment) : Registration × Process T L :=
  match p.handlers.getMessageHandler d.up now.order t t cfg with
  | (.panicked msg, handlers) => (.panicked msg, { p with handlers := handlers })
  | (.returned (.error e), handlers) => (.refused e, { p with handlers := handlers })
  | (.returned (.ok msgHandler), handlers) =>
    let (answer, p) := ask d { p with handlers := handlers } t
      (.registerListener cfg.sourceFilter cfg.sinkFilter type msgHandler) now.inTime
    (.asked answer, p)

def serviceUeId (service : ServiceConfig) : UeId :=
  (service.instanceId.toUInt32 <<< 16) ||| service.service.toUInt32

/-- The configuration the point-to-point listener has for a service. -/
def pointToPointConfig (up : UpRust) (localAuthority : AuthorityName) (listener : L) (service : ServiceConfig) :
    ListenerConfig L where
  sourceFilter := up.any
  sinkFilter := some (anyUuriFixedAuthorityId localAuthority (serviceUeId service))
  listener := listener

/-- The loop of `register_point_to_point_listener`. -/
def registerServices (d : Deps) (t : T) (listener : L) :
    Process T L → List ServiceConfig → (ℕ → Moment) → Outcome (Except UStatus Unit) × Process T L
  | p, [], _ => (.returned (.ok ()), p)
  | p, service :: services, moments =>
    let cfg := pointToPointConfig d.up (p.transports t).getLocalAuthority listener service
    match registerConfig d p t cfg .request (moments 0) with
    | (.panicked msg, p) => (.panicked msg, p)
    | (.refused _, p) =>
      (.returned (.error (.failWithCode .internal
        "Unable to get message handler for register_point_to_point_listener")), p)
    | (.asked answer, p) =>
      match awaitEngine "register_listener_internal" answer with
      | .panicked msg => (.panicked msg, p)
      | .returned (.error err) =>
        (.returned (.error (.failWithCode .internal
          ("Unable to register point to point listener: err: " ++ d.up.debugUStatus err))), p)
      | .returned (.ok ()) => registerServices d t listener p services (fun i => moments (i + 1))

def registerPointToPointListener (d : Deps) (p : Process T L) (t : T) (listener : L) (moments : ℕ → Moment) :
    Outcome (Except UStatus Unit) × Process T L :=
  match (p.transports t).config.services with
  | none => (.returned (.error (.failWithCode .notFound "No path to a vsomeip config file was provided")), p)
  | some (.error e) => (.returned (.error e), p)
  | some (.ok services) =>
    match (p.transports t).pointToPointListener with
    | some _ =>
      (.returned (.error (.failWithCode .alreadyExists
        "We already have a point-to-point UListener registered")), p)
    | none =>
      let p := p.setTransport t { p.transports t with pointToPointListener := some listener }
      registerServices d t listener p services moments

/-- `UTransport::register_listener`. -/
def registerListener (d : Deps) (p : Process T L) (t : T) (sourceFilter : UUri) (sinkFilter : Option UUri)
    (listener : L) (moments : ℕ → Moment) : Outcome (Except UStatus Unit) × Process T L :=
  match determineType d.up sourceFilter sinkFilter with
  | .error e => (.returned (.error e), p)
  | .ok .allPointToPoint => registerPointToPointListener d p t listener moments
  | .ok registrationType =>
    match registerConfig d p t ⟨sourceFilter, sinkFilter, listener⟩ registrationType (moments 0) with
    | (.panicked msg, p) => (.panicked msg, p)
    | (.refused _, p) =>
      (.returned (.error (.failWithCode .internal "Unable to get message handler for register_listener")), p)
    | (.asked answer, p) => (awaitEngine "register" answer, p)

/-! ## Unregistering -/

/-- Has the engine unregister the configuration and releases its handler:
whatever the engine answers, or only if it answers `Ok`. -/
def unregisterConfig (d : Deps) (p : Process T L) (t : T) (cfg : ListenerConfig L) (type : RegistrationType)
    (inTime evenOnError : Bool) : Outcome (Except UStatus Unit) × Process T L :=
  let (answer, p) := ask d p t (.unregisterListener cfg.sourceFilter cfg.sinkFilter type) inTime
  match awaitEngine "unregister" answer with
  | .panicked msg => (.panicked msg, p)
  | .returned res =>
    if res.isOk || evenOnError then
      (.returned res, { p with handlers := (p.handlers.releaseMessageHandler t cfg).2 })
    else (.returned res, p)

/-- The loop of `unregister_point_to_point_listener`. -/
def unregisterServices (d : Deps) (t : T) (listener : L) :
    Process T L → List ServiceConfig → (ℕ → Moment) → Outcome (Except UStatus Unit) × Process T L
  | p, [], _ => (.returned (.ok ()), p)
  | p, service :: services, moments =>
    let cfg := pointToPointConfig d.up (p.transports t).getLocalAuthority listener service
    match determineType d.up cfg.sourceFilter cfg.sinkFilter with
    | .error _ => unregisterServices d t listener p services (fun i => moments (i + 1))
    | .ok registrationType =>
      match unregisterConfig d p t cfg registrationType (moments 0).inTime false with
      | (.panicked msg, p) => (.panicked msg, p)
      | (.returned _, p) => unregisterServices d t listener p services (fun i => moments (i + 1))

def unregisterPointToPointListener (d : Deps) (p : Process T L) (t : T) (moments : ℕ → Moment) :
    Outcome (Except UStatus Unit) × Process T L :=
  match (p.transports t).pointToPointListener with
  | none =>
    (.returned (.error (.failWithCode .alreadyExists
      "No point-to-point listener found, we can't unregister it")), p)
  | some listener =>
    match (p.transports t).config.services with
    | none => (.returned (.error (.failWithCode .notFound "No path to a vsomeip config file was provided")), p)
    | some (.error e) => (.returned (.error e), p)
    | some (.ok services) => unregisterServices d t listener p services moments

/-- `UTransport::unregister_listener`. -/
def unregisterListener (d : Deps) (p : Process T L) (t : T) (sourceFilter : UUri) (sinkFilter : Option UUri)
    (listener : L) (moments : ℕ → Moment) : Outcome (Except UStatus Unit) × Process T L :=
  match determineType d.up sourceFilter sinkFilter with
  | .error _ =>
    (.returned (.error (.failWithCode .invalidArgument
      "Invalid source and sink filters for registerable types: Publish, Request, Response, AllPointToPoint")), p)
  | .ok .allPointToPoint => unregisterPointToPointListener d p t moments
  | .ok registrationType =>
    match unregisterConfig d p t ⟨sourceFilter, sinkFilter, listener⟩ registrationType (moments 0).inTime true with
    | (.panicked msg, p) => (.panicked msg, p)
    | (.returned _, p) => (.returned (.ok ()), p)

/-! ## Sending -/

/-- `register_for_returning_response_if_point_to_point_listener_and_sending_request`. -/
def registerForReturningResponse (d : Deps) (p : Process T L) (t : T) (msgSrc : UUri) (msgSink : Option UUri)
    (messageType : RegistrationType) (now : Moment) : Outcome (Except UStatus Bool) × Process T L :=
  match (p.transports t).pointToPointListener with
  | none => (.returned (.ok false), p)
  | some listener =>
    if messageType ≠ .request then (.returned (.ok true), p)
    else
      match msgSink with
      | none => (.returned (.error (.failWithCode .invalidArgument "Missing sink for message")), p)
      | some msgSink =>
        -- The message's sink and source are the source and sink filter of its response.
        match registerConfig d p t ⟨msgSink, some msgSrc, listener⟩ .response now with
        | (.panicked msg, p) => (.panicked msg, p)
        | (.refused (.listenerConfigAlreadyExists _), p) => (.returned (.ok true), p)
        | (.refused (.listenerIdAlreadyExists id), p) =>
          (.returned (.error (.failWithCode .internal ("listener_id already exists: " ++ toString id))), p)
        | (.refused (.otherError s), p) => (.returned (.error (.failWithCode .internal s)), p)
        | (.asked answer, p) =>
          match awaitEngine "register" answer with
          | .panicked msg => (.panicked msg, p)
          | .returned (.error err) => (.panicked ("Unable to register: " ++ d.up.debugUStatus err), p)
          | .returned (.ok ()) => (.returned (.ok true), p)

/-- `UTransport::send`. -/
def send (d : Deps) (p : Process T L) (t : T) (message : UMessage) (moments : ℕ → Moment) :
    Outcome (Except UStatus Unit) × Process T L :=
  match message.attributes with
  | none => (.returned (.error (.failWithCode .invalidArgument "Missing uAttributes")), p)
  | some attributes =>
    match d.up.validate attributes with
    | .error e => (.returned (.error (.failWithCode .invalidArgument ("Invalid uAttributes, err: " ++ e))), p)
    | .ok () =>
      match attributes.source with
      | none => (.returned (.error (.failWithCode .invalidArgument "UMessage provided with no source")), p)
      | some source =>
        match determineType d.up source attributes.sink with
        | .error e => (.returned (.error e), p)
        | .ok messageType =>
          match registerForReturningResponse d p t source attributes.sink messageType (moments 0) with
          | (.panicked msg, p) => (.panicked msg, p)
          | (.returned (.error e), p) => (.returned (.error e), p)
          | (.returned (.ok _), p) =>
            let (answer, p) := ask d p t (.send message) (moments 1).inTime
            (awaitEngine "send_internal" answer, p)

end Process

end VsomeipTransport
