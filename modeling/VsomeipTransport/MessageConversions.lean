/-
`message_conversions.rs`: the translations between uProtocol messages and
vsomeip ones, with the correlation they keep on the way.

Outbound, a request stores its (id, source) under the request id it expects
vsomeip to put on the wire, and a response takes back the request id stored
under its `reqid`. Inbound, a request stores its request id under the id of
the message built from it, and a response or an error takes back the (id,
source) stored under its request id. The inbound order matters: a reply
takes its entry back before the message is built, a request stores its entry
after.
-/
import VsomeipTransport.RpcCorrelation
import VsomeipTransport.VsomeipOfferedRequested

namespace VsomeipTransport

/-- The `UUri` of a transport, whose version was checked to fit 8 bits when
the transport was made. -/
structure TransportUri where
  uri : UUri
  version_fits : uri.ueVersionMajor.toNat < 256

/-- `self_uuri.ue_version_major.try_into().unwrap()`. -/
def TransportUri.versionMajor (u : TransportUri) : UInt8 := u.uri.ueVersionMajor.toUInt8

/-! ## Outbound -/

namespace UMessageToVsomeipMessage

/-- Makes sure the event is offered, and names it. -/
def umsgPublishToVsomeipNotification (umsg : UMessage) (offered : InMemoryVsomeipOfferedRequestedRegistry)
    (app : VsomeipApplication) :
    Except UStatus (ServiceId × InstanceId × EventId) × InMemoryVsomeipOfferedRequestedRegistry ×
      VsomeipApplication :=
  match umsg.attrs.source with
  | none => (.error (.failWithCode .invalidArgument "Message has no source UUri"), offered, app)
  | some source =>
    let (_instanceId, serviceId) := splitU32ToU16 source.ueId
    let instanceId := 1
    let (_, eventId) := splitU32ToU16 source.resourceId
    if !offered.isEventOffered serviceId instanceId eventId then
      let app := app.call (.offerService serviceId instanceId anyMajor anyMinor)
      let app := app.call (.offerEvent serviceId instanceId eventId eventId)
      let (_, offered) := offered.insertEventOffered serviceId instanceId eventId
      (.ok (serviceId, instanceId, eventId), offered, app)
    else (.ok (serviceId, instanceId, eventId), offered, app)

/-- The client and session of the message stay as `create_request` left
them: vsomeip sets them when it sends. -/
def umsgRequestToVsomeipMessage (up : UpRust) (rt : VsomeipRuntime) (checks : OverflowChecks) (umsg : UMessage)
    (rpc : InMemoryRpcCorrelationRegistry) (app : VsomeipApplication) :
    Outcome (Except UStatus VsomeipMessage) × InMemoryRpcCorrelationRegistry :=
  match umsg.attrs.source with
  | none => (.returned (.error (.failWithCode .invalidArgument "Message has no source UUri")), rpc)
  | some source =>
  match umsg.attrs.sink with
  | none => (.returned (.error (.failWithCode .invalidArgument "Message has no sink UUri")), rpc)
  | some sink =>
    let (_instanceId, serviceId) := splitU32ToU16 sink.ueId
    let (_, methodId) := splitU32ToU16 sink.resourceId
    let (_, _, _, interfaceVersion) := splitU32ToU8 sink.ueVersionMajor
    let vsomeipMsg := { rt.createRequest with
      service := serviceId, instanceId := 1, method := methodId, interfaceVersion := interfaceVersion }
    match umsg.attrs.id with
    | none =>
      (.returned (.error (.failWithCode .invalidArgument
        "Missing id for Request message. Would be unable to correlate. Rejected.")), rpc)
    | some reqId =>
      let appClientId := app.getClient
      match rpc.retrieveSessionId checks appClientId with
      | (.panicked msg, rpc) => (.panicked msg, rpc)
      | (.returned appSessionId, rpc) =>
        let appRequestId := createRequestId appClientId appSessionId
        match rpc.insertUeRequestCorrelation up appRequestId reqId source with
        | (.error e, rpc) => (.returned (.error e), rpc)
        | (.ok (), rpc) => (.returned (.ok { vsomeipMsg with returnCode := .ok }), rpc)

def ucodeToVsomeipErrCode : UCode → ReturnCode
  | .ok => .ok
  | .invalidArgument => .wrongMessageType
  | .deadlineExceeded => .timeout
  | .notFound => .unknownService
  | .unavailable => .unknownService
  | .dataLoss => .malformedMessage
  | .internal => .notReachable
  | .unknown => .notOk
  | .failedPrecondition => .wrongProtocolVersion
  | _ => .notOk

/-- The status and the message type a `commstatus` asks for. -/
def replyStatus (commstatus : Option (EnumOrUnknown UCode)) : UCode × MessageType :=
  match commstatus with
  | some commstatus =>
    let statusVal := commstatus.enumValueOr .unimplemented
    if statusVal = .ok then (.ok, .response) else (statusVal, .error)
  | none => (.ok, .response)

def umsgResponseToVsomeipMessage (up : UpRust) (rt : VsomeipRuntime) (umsg : UMessage)
    (rpc : InMemoryRpcCorrelationRegistry) :
    Except UStatus VsomeipMessage × InMemoryRpcCorrelationRegistry :=
  match umsg.attrs.source with
  | none => (.error (.failWithCode .invalidArgument "Message has no source UUri"), rpc)
  | some source =>
    let (_instanceId, serviceId) := splitU32ToU16 source.ueId
    let (_, methodId) := splitU32ToU16 source.resourceId
    let (_, _, _, interfaceVersion) := splitU32ToU8 source.ueVersionMajor
    let vsomeipMsg := { rt.createMessage with
      service := serviceId, instanceId := 1, method := methodId, interfaceVersion := interfaceVersion }
    match umsg.attrs.reqid with
    | none =>
      (.error (.failWithCode .invalidArgument
        "Missing id for Request message. Would be unable to correlate. Rejected."), rpc)
    | some reqId =>
      match rpc.removeMeRequestCorrelation up reqId with
      | (.error e, rpc) => (.error e, rpc)
      | (.ok requestId, rpc) =>
        let (clientId, sessionId) := splitU32ToU16 requestId
        let (commstatus, vsomeipMsgType) := replyStatus umsg.attrs.commstatus
        (.ok { vsomeipMsg with
          client := clientId, session := sessionId, returnCode := ucodeToVsomeipErrCode commstatus,
          messageType := vsomeipMsgType }, rpc)

end UMessageToVsomeipMessage

/-! ## Inbound -/

namespace VsomeipMessageToUMessage

/-- `UUri::try_from_parts`, its error wrapped. -/
def buildUUri (up : UpRust) (role type : String) (authority : AuthorityName) (ueId : UInt32) (version : UInt8)
    (resourceId : UInt16) : Except UStatus UUri :=
  match up.tryFromParts authority ueId version resourceId with
  | .ok u => .ok u
  | .error e =>
    .error (.failWithCode .invalidArgument ("Unable to build " ++ role ++ " UUri for " ++ type ++ " type: " ++ e))

/-- `UMessageBuilder::build_with_payload`, its error wrapped. -/
def buildUMessage (up : UpRust) (builder : UMessageBuilder) (id : UUID) (payloadBytes : List UInt8) :
    Except UStatus UMessage :=
  match up.buildWithPayload builder id payloadBytes .unspecified with
  | .ok umsg => .ok umsg
  | .error e => .error (.failWithCode .internal ("Unable to build UMessage from vsomeip message: " ++ e))

def vsomeipErrCodeToUcode : ReturnCode → UCode
  | .ok => .ok
  | .wrongMessageType => .invalidArgument
  | .unknownMethod => .invalidArgument
  | .timeout => .deadlineExceeded
  | .unknownService => .notFound
  | .notReady => .unavailable
  | .malformedMessage => .dataLoss
  | .notReachable => .internal
  | .notOk => .unknown
  | .wrongProtocolVersion => .failedPrecondition
  | .wrongInterfaceVersion => .failedPrecondition
  | .unknown => .unknown

variable (up : UpRust) (authorityName : AuthorityName) (selfUuri : TransportUri)
  (mechatronicsAuthorityName : AuthorityName) (id : UUID) (m : VsomeipMessage) (payloadBytes : List UInt8)
  (rpc : InMemoryRpcCorrelationRegistry)

def convertVsomeipMtRequestToUmsg : Except UStatus UMessage × InMemoryRpcCorrelationRegistry :=
  let requestId := m.getRequest
  match buildUUri up "sink" "MT_REQUEST" authorityName m.service.toUInt32 m.interfaceVersion m.method with
  | .error e => (.error e, rpc)
  | .ok sink =>
    let (clientId, _) := splitU32ToU16 requestId
    match buildUUri up "source" "MT_REQUEST" mechatronicsAuthorityName clientId.toUInt32
      selfUuri.versionMajor 0 with
    | .error e => (.error e, rpc)
    | .ok source =>
      match buildUMessage up (.request sink source 1000) id payloadBytes with
      | .error e => (.error e, rpc)
      | .ok umsg =>
        match umsg.attrs.id with
        | none =>
          (.error (.failWithCode .invalidArgument
            "Missing id for Request message. Would be unable to correlate. Rejected."), rpc)
        | some reqId =>
          match rpc.insertMeRequestCorrelation up reqId requestId with
          | (.error e, rpc) => (.error e, rpc)
          | (.ok (), rpc) => (.ok umsg, rpc)

/-- The common body of the two reply conversions. -/
def convertVsomeipReplyToUmsg (type : String) (commStatus : UCode) :
    Except UStatus UMessage × InMemoryRpcCorrelationRegistry :=
  match buildUUri up "source" type mechatronicsAuthorityName m.service.toUInt32 m.interfaceVersion m.method with
  | .error e => (.error e, rpc)
  | .ok source =>
    match rpc.removeUeRequestCorrelation m.getRequest with
    | (.error e, rpc) => (.error e, rpc)
    | (.ok (reqId, sink), rpc) =>
      (buildUMessage up (.response sink reqId source (some commStatus)) id payloadBytes, rpc)

def convertVsomeipMtResponseToUmsg : Except UStatus UMessage × InMemoryRpcCorrelationRegistry :=
  convertVsomeipReplyToUmsg up mechatronicsAuthorityName id m payloadBytes rpc "MT_RESPONSE" .ok

def convertVsomeipMtErrorToUmsg : Except UStatus UMessage × InMemoryRpcCorrelationRegistry :=
  convertVsomeipReplyToUmsg up mechatronicsAuthorityName id m payloadBytes rpc "MT_ERROR"
    (vsomeipErrCodeToUcode m.returnCode)

def convertVsomeipMtNotificationToUmsg : Except UStatus UMessage :=
  let interfaceVersion := 1
  match buildUUri up "source" "MT_NOTIFICATION" mechatronicsAuthorityName m.service.toUInt32 interfaceVersion
    m.method with
  | .error e => .error e
  | .ok source => buildUMessage up (.publish source) id payloadBytes

/-- `id` is the id the builder gives the message, if one is built. -/
def convertVsomeipMsgToUmsg : Except UStatus UMessage × InMemoryRpcCorrelationRegistry :=
  match m.payload with
  | none =>
    (.error (.failWithCode .internal "Unable to extract PayloadWrapper from MessageWrapper"), rpc)
  | some payloadBytes =>
    match m.messageType with
    | .request =>
      convertVsomeipMtRequestToUmsg up authorityName selfUuri mechatronicsAuthorityName id m payloadBytes rpc
    | .notification =>
      (convertVsomeipMtNotificationToUmsg up mechatronicsAuthorityName id m payloadBytes, rpc)
    | .response => convertVsomeipMtResponseToUmsg up mechatronicsAuthorityName id m payloadBytes rpc
    | .error => convertVsomeipMtErrorToUmsg up mechatronicsAuthorityName id m payloadBytes rpc
    | msgType =>
      (.error (.failWithCode .outOfRange
        ("Not one of the handled message types from SOME/IP: " ++ msgType.display)), rpc)

end VsomeipMessageToUMessage

/-! ## What a conversion can do -/

/-- The message has what a request needs to be correlated. -/
structure UMessage.IsRequestOf (umsg : UMessage) (id : UUID) (source sink : UUri) : Prop where
  source : umsg.attrs.source = some source
  sink : umsg.attrs.sink = some sink
  id : umsg.attrs.id = some id

namespace UMessageToVsomeipMessage

variable {up : UpRust} {rt : VsomeipRuntime} {checks : OverflowChecks} {umsg : UMessage}
  {rpc rpc' : InMemoryRpcCorrelationRegistry}

/-- A request that lacks a part is refused and changes nothing; any other
takes a session, and is stored under it if that is vacant. -/
theorem umsgRequestToVsomeipMessage_cases {app : VsomeipApplication} {res}
    (h : umsgRequestToVsomeipMessage up rt checks umsg rpc app = (res, rpc')) :
    (∃ e, res = .returned (.error e) ∧ rpc' = rpc ∧ ∀ id source sink, ¬ umsg.IsRequestOf id source sink) ∨
    ∃ id source sink, umsg.IsRequestOf id source sink ∧
      ((∃ msg, res = .panicked msg ∧ rpc.retrieveSessionId checks app.client = (.panicked msg, rpc')) ∨
      ∃ s rpc₁, rpc.retrieveSessionId checks app.client = (.returned s, rpc₁) ∧
        ((∃ e entry, res = .returned (.error e) ∧
            rpc.ueRequestCorrelation (createRequestId app.client s) = some entry ∧ rpc' = rpc₁) ∨
          ∃ m, res = .returned (.ok m) ∧ m.messageType = rt.createRequest.messageType ∧
            rpc.ueRequestCorrelation (createRequestId app.client s) = none ∧
            rpc' = { rpc₁ with ueRequestCorrelation :=
              rpc.ueRequestCorrelation.insert (createRequestId app.client s) (id, source) })) := by
  simp only [umsgRequestToVsomeipMessage, VsomeipApplication.getClient] at h
  split at h
  · next hs => cases h; exact .inl ⟨_, rfl, rfl, fun _ _ _ hr => by simp [hr.source] at hs⟩
  next source hsource =>
  split at h
  · next hs => cases h; exact .inl ⟨_, rfl, rfl, fun _ _ _ hr => by simp [hr.sink] at hs⟩
  next sink hsink =>
  split at h
  · next hi => cases h; exact .inl ⟨_, rfl, rfl, fun _ _ _ hr => by simp [hr.id] at hi⟩
  next id hid =>
  refine .inr ⟨id, source, sink, ⟨hsource, hsink, hid⟩, ?_⟩
  split at h
  · next hr => cases h; exact .inl ⟨_, rfl, hr⟩
  next s rpc₁ hr =>
  have hframe := (InMemoryRpcCorrelationRegistry.retrieveSessionId_frame hr).1
  refine .inr ⟨s, rpc₁, hr, ?_⟩
  split at h
  · next hins =>
    cases h
    rcases InMemoryRpcCorrelationRegistry.insertUeRequestCorrelation_cases hins with
      ⟨he, -⟩ | ⟨_, -, ⟨entry, hk⟩, hr'⟩
    · cases he
    · exact .inl ⟨_, entry, rfl, hframe ▸ hk, hr'⟩
  · next hins =>
    cases h
    rcases InMemoryRpcCorrelationRegistry.insertUeRequestCorrelation_cases hins with ⟨-, hk, hr'⟩ | ⟨_, he, -⟩
    · exact .inr ⟨_, rfl, rfl, hframe ▸ hk, by rw [hr', hframe]⟩
    · cases he

theorem replyStatus_ne_request (commstatus : Option (EnumOrUnknown UCode)) :
    (replyStatus commstatus).2 ≠ .request := by
  unfold replyStatus
  split
  · simp only; split <;> simp
  · simp

/-- A response goes out if the request id it answers is stored, and takes it
away. -/
theorem umsgResponseToVsomeipMessage_cases {res} (h : umsgResponseToVsomeipMessage up rt umsg rpc = (res, rpc')) :
    (∃ e, res = .error e ∧ rpc' = rpc ∧ ∀ source r, umsg.attrs.source = some source →
      umsg.attrs.reqid = some r → rpc.meRequestCorrelation r = none) ∨
    ∃ m source r k, res = .ok m ∧ umsg.attrs.source = some source ∧ umsg.attrs.reqid = some r ∧
      rpc.meRequestCorrelation r = some k ∧ (m.client, m.session) = splitU32ToU16 k ∧
      m.messageType ≠ .request ∧
      rpc' = { rpc with meRequestCorrelation := rpc.meRequestCorrelation.remove r } := by
  simp only [umsgResponseToVsomeipMessage] at h
  split at h
  · next hs => cases h; exact .inl ⟨_, rfl, rfl, fun _ _ hs' => by simp [hs] at hs'⟩
  next source hsource =>
  split at h
  · next hi => cases h; exact .inl ⟨_, rfl, rfl, fun _ _ _ hr => by simp [hi] at hr⟩
  next r hreqid =>
  split at h
  · next hrem =>
    cases h
    rcases InMemoryRpcCorrelationRegistry.removeMeRequestCorrelation_cases hrem with ⟨_, he, -⟩ | ⟨_, -, hk, hr⟩
    · cases he
    · refine .inl ⟨_, rfl, hr, fun _ r' _ hr' => ?_⟩
      obtain rfl : r = r' := by simpa [hreqid] using hr'
      exact hk
  · next hrem =>
    cases h
    rcases InMemoryRpcCorrelationRegistry.removeMeRequestCorrelation_cases hrem with ⟨k, he, hk, hr⟩ | ⟨_, he, -⟩
    · cases he
      exact .inr ⟨_, source, r, _, rfl, hsource, hreqid, hk, rfl, replyStatus_ne_request _, hr⟩
    · cases he

end UMessageToVsomeipMessage

/-! A message names a request it answers by its type. -/

/-- `MT_RESPONSE` and `MT_ERROR`. -/
def VsomeipMessage.IsReply (m : VsomeipMessage) : Prop := m.messageType = .response ∨ m.messageType = .error

instance (m : VsomeipMessage) : Decidable m.IsReply := by unfold VsomeipMessage.IsReply; infer_instance

/-- The status the response built from a reply carries. -/
def VsomeipMessage.replyCommStatus (m : VsomeipMessage) : UCode :=
  if m.messageType = .error then VsomeipMessageToUMessage.vsomeipErrCodeToUcode m.returnCode else .ok

namespace VsomeipMessageToUMessage

variable {up : UpRust} {authorityName mechatronicsAuthorityName : AuthorityName} {selfUuri : TransportUri}
  {id : UUID} {m : VsomeipMessage} {rpc rpc' : InMemoryRpcCorrelationRegistry}

theorem buildUUri_ok_iff {role type : String} {authority : AuthorityName} {ueId : UInt32} {version : UInt8}
    {resourceId : UInt16} {u : UUri} :
    buildUUri up role type authority ueId version resourceId = .ok u ↔
      up.tryFromParts authority ueId version resourceId = .ok u := by
  unfold buildUUri
  split
  · next hu => simp [hu]
  · next hu => simp [hu]

theorem buildUMessage_ok_iff {builder : UMessageBuilder} {payloadBytes : List UInt8} {umsg : UMessage} :
    buildUMessage up builder id payloadBytes = .ok umsg ↔
      up.buildWithPayload builder id payloadBytes .unspecified = .ok umsg := by
  unfold buildUMessage
  split
  · next hu => simp [hu]
  · next hu => simp [hu]

/-- The message an inbound request becomes, before it is correlated. -/
structure RequestBuilt (up : UpRust) (authorityName : AuthorityName) (selfUuri : TransportUri)
    (mechatronicsAuthorityName : AuthorityName) (id : UUID) (m : VsomeipMessage) (umsg : UMessage)
    (sink source : UUri) : Prop where
  type : m.messageType = .request
  sinkParts : up.tryFromParts authorityName m.service.toUInt32 m.interfaceVersion m.method = .ok sink
  sourceParts : up.tryFromParts mechatronicsAuthorityName m.client.toUInt32 selfUuri.versionMajor 0 = .ok source
  built : ∃ payload, m.payload = some payload ∧
    up.buildWithPayload (.request sink source 1000) id payload .unspecified = .ok umsg

/-- The message is determined by the parts, and the parts by the inbound one. -/
theorem RequestBuilt.builds {umsg : UMessage} {sink source sink' source' : UUri} {payload : List UInt8}
    (hb : RequestBuilt up authorityName selfUuri mechatronicsAuthorityName id m umsg sink' source')
    (hp : m.payload = some payload)
    (hs : buildUUri up "sink" "MT_REQUEST" authorityName m.service.toUInt32 m.interfaceVersion m.method = .ok sink)
    (hs' : buildUUri up "source" "MT_REQUEST" mechatronicsAuthorityName m.client.toUInt32 selfUuri.versionMajor 0
      = .ok source) :
    buildUMessage up (.request sink source 1000) id payload = .ok umsg := by
  obtain ⟨payload', hp', hm⟩ := hb.built
  rw [buildUUri_ok_iff, hb.sinkParts] at hs
  rw [buildUUri_ok_iff, hb.sourceParts] at hs'
  rw [hp] at hp'
  cases hs; cases hs'; cases hp'
  exact buildUMessage_ok_iff.2 hm

/-- A request becomes a message exactly when it can be built and its id is
not taken; then the request id is stored under the id. -/
theorem convertRequest_cases {res} (ht : m.messageType = .request)
    (h : convertVsomeipMsgToUmsg up authorityName selfUuri mechatronicsAuthorityName id m rpc = (res, rpc')) :
    (∃ umsg sink source r, res = .ok umsg ∧
      RequestBuilt up authorityName selfUuri mechatronicsAuthorityName id m umsg sink source ∧
      umsg.attrs.id = some r ∧ rpc.meRequestCorrelation r = none ∧
      rpc' = { rpc with meRequestCorrelation := rpc.meRequestCorrelation.insert r m.getRequest }) ∨
    (∃ e, res = .error e ∧ rpc' = rpc ∧ ∀ umsg sink source r,
      RequestBuilt up authorityName selfUuri mechatronicsAuthorityName id m umsg sink source →
      umsg.attrs.id = some r → ∃ k, rpc.meRequestCorrelation r = some k) := by
  simp only [convertVsomeipMsgToUmsg, ht] at h
  split at h
  · next hp =>
    cases h
    refine .inr ⟨_, rfl, rfl, fun _ _ _ _ hb => ?_⟩
    obtain ⟨_, hp', -⟩ := hb.built
    rw [hp] at hp'
    cases hp'
  next payload hp =>
  simp only [convertVsomeipMtRequestToUmsg] at h
  split at h
  · next hs =>
    cases h
    refine .inr ⟨_, rfl, rfl, fun _ _ _ _ hb => ?_⟩
    rw [buildUUri_ok_iff.2 hb.sinkParts] at hs
    cases hs
  next sink hs =>
  rw [VsomeipMessage.getRequest, split_createRequestId] at h
  split at h
  · next hs' =>
    cases h
    refine .inr ⟨_, rfl, rfl, fun _ _ _ _ hb => ?_⟩
    rw [buildUUri_ok_iff.2 hb.sourceParts] at hs'
    cases hs'
  next source hs' =>
  split at h
  · next hu =>
    cases h
    refine .inr ⟨_, rfl, rfl, fun _ _ _ _ hb => ?_⟩
    rw [hb.builds hp hs hs'] at hu
    cases hu
  next umsg hu =>
  have honly : ∀ umsg' sink' source',
      RequestBuilt up authorityName selfUuri mechatronicsAuthorityName id m umsg' sink' source' → umsg' = umsg := by
    intro umsg' sink' source' hb
    rw [hb.builds hp hs hs'] at hu
    exact Except.ok.inj hu
  split at h
  · next hi =>
    cases h
    refine .inr ⟨_, rfl, rfl, fun umsg' _ _ _ hb hi' => ?_⟩
    rw [honly _ _ _ hb, hi] at hi'
    cases hi'
  next r hi =>
  split at h
  · next hins =>
    cases h
    rcases InMemoryRpcCorrelationRegistry.insertMeRequestCorrelation_cases hins with ⟨he, -⟩ | ⟨_, -, ⟨k, hk⟩, hr⟩
    · cases he
    · refine .inr ⟨_, rfl, hr, fun umsg' _ _ r' hb hi' => ?_⟩
      rw [honly _ _ _ hb, hi] at hi'
      cases hi'
      exact ⟨k, hk⟩
  · next hins =>
    cases h
    rcases InMemoryRpcCorrelationRegistry.insertMeRequestCorrelation_cases hins with ⟨-, hk, hr⟩ | ⟨_, he, -⟩
    · rw [buildUUri_ok_iff] at hs hs'
      rw [buildUMessage_ok_iff] at hu
      have hb : RequestBuilt up authorityName selfUuri mechatronicsAuthorityName id m umsg sink source :=
        ⟨ht, hs, hs', payload, hp, hu⟩
      exact .inl ⟨umsg, sink, source, r, rfl, hb, hi, hk, hr⟩
    · cases he

/-- The parts of the response an inbound reply becomes, its correlation apart. -/
structure ReplySource (up : UpRust) (mechatronicsAuthorityName : AuthorityName) (m : VsomeipMessage)
    (payloadBytes : List UInt8) (source : UUri) : Prop where
  type : m.IsReply
  payload : m.payload = some payloadBytes
  sourceParts : up.tryFromParts mechatronicsAuthorityName m.service.toUInt32 m.interfaceVersion m.method = .ok source

/-- The inbound message determines them. -/
theorem ReplySource.unique {payload payload' : List UInt8} {source source' : UUri}
    (h : ReplySource up mechatronicsAuthorityName m payload source)
    (h' : ReplySource up mechatronicsAuthorityName m payload' source') : payload = payload' ∧ source = source' :=
  ⟨Option.some.inj (h.payload.symm.trans h'.payload), Except.ok.inj (h.sourceParts.symm.trans h'.sourceParts)⟩

/-- Both reply types run the same body. -/
theorem convertVsomeipMsgToUmsg_reply (up : UpRust) (authorityName mechatronicsAuthorityName : AuthorityName)
    (selfUuri : TransportUri) (id : UUID) (rpc : InMemoryRpcCorrelationRegistry) {payload : List UInt8}
    (ht : m.IsReply) (hp : m.payload = some payload) :
    ∃ type, convertVsomeipMsgToUmsg up authorityName selfUuri mechatronicsAuthorityName id m rpc =
      convertVsomeipReplyToUmsg up mechatronicsAuthorityName id m payload rpc type m.replyCommStatus := by
  rcases ht with ht | ht
  · exact ⟨"MT_RESPONSE", by
      simp [convertVsomeipMsgToUmsg, hp, ht, convertVsomeipMtResponseToUmsg, VsomeipMessage.replyCommStatus]⟩
  · exact ⟨"MT_ERROR", by
      simp [convertVsomeipMsgToUmsg, hp, ht, convertVsomeipMtErrorToUmsg, VsomeipMessage.replyCommStatus]⟩

/-- A reply with a valid source takes the entry stored under its request id
away, and then becomes a response if that can be built. -/
theorem convertReply_cases {res} (ht : m.IsReply)
    (h : convertVsomeipMsgToUmsg up authorityName selfUuri mechatronicsAuthorityName id m rpc = (res, rpc')) :
    (∃ payload source reqId sink, ReplySource up mechatronicsAuthorityName m payload source ∧
      rpc.ueRequestCorrelation m.getRequest = some (reqId, sink) ∧
      rpc' = { rpc with ueRequestCorrelation := rpc.ueRequestCorrelation.remove m.getRequest } ∧
      res = buildUMessage up (.response sink reqId source (some m.replyCommStatus)) id payload) ∨
    (∃ e, res = .error e ∧ rpc' = rpc ∧ ∀ payload source,
      ReplySource up mechatronicsAuthorityName m payload source → rpc.ueRequestCorrelation m.getRequest = none) := by
  cases hp : m.payload with
  | none =>
    simp only [convertVsomeipMsgToUmsg, hp] at h
    cases h
    exact .inr ⟨_, rfl, rfl, fun _ _ hb => absurd hb.payload (by simp [hp])⟩
  | some payload =>
    obtain ⟨type, he⟩ := convertVsomeipMsgToUmsg_reply up authorityName mechatronicsAuthorityName selfUuri id rpc ht hp
    rw [he] at h
    simp only [convertVsomeipReplyToUmsg] at h
    split at h
    · next hs =>
      cases h
      refine .inr ⟨_, rfl, rfl, fun _ _ hb => ?_⟩
      rw [buildUUri_ok_iff.2 hb.sourceParts] at hs
      cases hs
    next source hs =>
    rw [buildUUri_ok_iff] at hs
    split at h
    · next hrem =>
      cases h
      rcases InMemoryRpcCorrelationRegistry.removeUeRequestCorrelation_cases hrem with ⟨_, he, -⟩ | ⟨_, -, hk, hr⟩
      · cases he
      · exact .inr ⟨_, rfl, hr, fun _ _ _ => hk⟩
    · next reqId sink _ hrem =>
      cases h
      rcases InMemoryRpcCorrelationRegistry.removeUeRequestCorrelation_cases hrem with ⟨_, he, hk, hr⟩ | ⟨_, he, -⟩
      · cases he
        exact .inl ⟨payload, source, reqId, sink, ⟨ht, hp, hs⟩, hk, hr, rfl⟩
      · cases he

/-- Messages of every other type leave the correlation alone. One that
converts is a notification: a published message of version 1. -/
theorem convertOther_cases {res} (hq : m.messageType ≠ .request) (hr : ¬ m.IsReply)
    (h : convertVsomeipMsgToUmsg up authorityName selfUuri mechatronicsAuthorityName id m rpc = (res, rpc')) :
    rpc' = rpc ∧ ∀ umsg, res = .ok umsg → m.messageType = .notification ∧
      ∃ payload source, m.payload = some payload ∧
        up.tryFromParts mechatronicsAuthorityName m.service.toUInt32 1 m.method = .ok source ∧
        up.buildWithPayload (.publish source) id payload .unspecified = .ok umsg := by
  simp only [VsomeipMessage.IsReply, not_or] at hr
  simp only [convertVsomeipMsgToUmsg] at h
  split at h
  · cases h; exact ⟨rfl, fun _ he => by cases he⟩
  next payload hp =>
  split at h
  · next ht => exact absurd ht hq
  · next ht =>
    cases h
    refine ⟨rfl, fun umsg hok => ⟨ht, ?_⟩⟩
    simp only [convertVsomeipMtNotificationToUmsg] at hok
    split at hok
    · cases hok
    · next source hs => exact ⟨payload, source, hp, buildUUri_ok_iff.1 hs, buildUMessage_ok_iff.1 hok⟩
  · next ht => exact absurd ht hr.1
  · next ht => exact absurd ht hr.2
  · cases h; exact ⟨rfl, fun _ he => by cases he⟩

/-- **An inbound message becomes a request, a response or an event, or is
refused**: a request stores its request id, a reply takes away the entry of
the request it names (and may still be refused then), anything else leaves
the correlation alone. -/
theorem convertVsomeipMsgToUmsg_cases {res}
    (h : convertVsomeipMsgToUmsg up authorityName selfUuri mechatronicsAuthorityName id m rpc = (res, rpc')) :
    (∃ umsg sink source r, res = .ok umsg ∧
      RequestBuilt up authorityName selfUuri mechatronicsAuthorityName id m umsg sink source ∧
      umsg.attrs.id = some r ∧ rpc.meRequestCorrelation r = none ∧
      rpc' = { rpc with meRequestCorrelation := rpc.meRequestCorrelation.insert r m.getRequest }) ∨
    (∃ payload source reqId sink, ReplySource up mechatronicsAuthorityName m payload source ∧
      rpc.ueRequestCorrelation m.getRequest = some (reqId, sink) ∧
      rpc' = { rpc with ueRequestCorrelation := rpc.ueRequestCorrelation.remove m.getRequest } ∧
      res = buildUMessage up (.response sink reqId source (some m.replyCommStatus)) id payload) ∨
    (∃ umsg payload source, res = .ok umsg ∧ rpc' = rpc ∧ m.messageType = .notification ∧
      m.payload = some payload ∧
      up.tryFromParts mechatronicsAuthorityName m.service.toUInt32 1 m.method = .ok source ∧
      up.buildWithPayload (.publish source) id payload .unspecified = .ok umsg) ∨
    ∃ e, res = .error e ∧ rpc' = rpc := by
  by_cases hq : m.messageType = .request
  · rcases convertRequest_cases hq h with hstored | ⟨e, he, hsame, -⟩
    · exact .inl hstored
    · exact .inr (.inr (.inr ⟨e, he, hsame⟩))
  by_cases hr : m.IsReply
  · rcases convertReply_cases hr h with htaken | ⟨e, he, hsame, -⟩
    · exact .inr (.inl htaken)
    · exact .inr (.inr (.inr ⟨e, he, hsame⟩))
  obtain ⟨hsame, hevent⟩ := convertOther_cases hq hr h
  cases res with
  | error e => exact .inr (.inr (.inr ⟨e, rfl, hsame⟩))
  | ok umsg =>
    obtain ⟨ht, payload, source, hp, hs, hbuilt⟩ := hevent umsg rfl
    exact .inr (.inr (.inl ⟨umsg, payload, source, rfl, hsame, ht, hp, hs, hbuilt⟩))

/-- What an inbound message needs to become a `UMessage`: the parts of its
type, and for a request an id that is not taken, for a reply a request that
is pending. -/
inductive Convertible (up : UpRust) (authorityName : AuthorityName) (selfUuri : TransportUri)
    (mechatronicsAuthorityName : AuthorityName) (id : UUID) (m : VsomeipMessage)
    (rpc : InMemoryRpcCorrelationRegistry) : Prop
  | request {umsg : UMessage} {sink source : UUri} {r : UUID}
      (built : RequestBuilt up authorityName selfUuri mechatronicsAuthorityName id m umsg sink source)
      (ident : umsg.attrs.id = some r) (vacant : rpc.meRequestCorrelation r = none)
  | reply {payload : List UInt8} {source sink : UUri} {reqId : UUID} {umsg : UMessage}
      (parts : ReplySource up mechatronicsAuthorityName m payload source)
      (pending : rpc.ueRequestCorrelation m.getRequest = some (reqId, sink))
      (built : up.buildWithPayload (.response sink reqId source (some m.replyCommStatus)) id payload .unspecified =
        .ok umsg)
  | notification {payload : List UInt8} {source : UUri} {umsg : UMessage} (type : m.messageType = .notification)
      (carried : m.payload = some payload)
      (parts : up.tryFromParts mechatronicsAuthorityName m.service.toUInt32 1 m.method = .ok source)
      (built : up.buildWithPayload (.publish source) id payload .unspecified = .ok umsg)

/-- That is what it takes. -/
theorem convertible_iff :
    Convertible up authorityName selfUuri mechatronicsAuthorityName id m rpc ↔
      ∃ umsg, (convertVsomeipMsgToUmsg up authorityName selfUuri mechatronicsAuthorityName id m rpc).1 = .ok umsg := by
  cases hconv : convertVsomeipMsgToUmsg up authorityName selfUuri mechatronicsAuthorityName id m rpc with
  | mk res rpc' =>
  constructor
  · intro hm
    cases hm with
    | request hb hi hvacant =>
      rcases convertRequest_cases hb.type hconv with ⟨umsg, _, _, _, rfl, -⟩ | ⟨_, -, -, hno⟩
      · exact ⟨umsg, rfl⟩
      · obtain ⟨k, hk⟩ := hno _ _ _ _ hb hi
        rw [hvacant] at hk
        cases hk
    | reply hparts hpending hbuilt =>
      rcases convertReply_cases hparts.type hconv with
        ⟨payload, source, reqId, sink, hparts', hk, -, hres⟩ | ⟨_, -, -, hno⟩
      · obtain ⟨rfl, rfl⟩ := hparts.unique hparts'
        cases hpending.symm.trans hk
        exact ⟨_, hres.trans (buildUMessage_ok_iff.2 hbuilt)⟩
      · rw [hno _ _ hparts] at hpending
        cases hpending
    | notification ht hp hs hbuilt =>
      simp only [convertVsomeipMsgToUmsg, hp, ht, convertVsomeipMtNotificationToUmsg, buildUUri_ok_iff.2 hs,
        buildUMessage_ok_iff.2 hbuilt] at hconv
      cases hconv
      exact ⟨_, rfl⟩
  · intro hok
    obtain ⟨umsg, rfl⟩ := hok
    rcases convertVsomeipMsgToUmsg_cases hconv with
      ⟨_, _, _, _, -, hb, hi, hvacant, -⟩ | ⟨_, _, _, _, hparts, hk, -, hres⟩ | ⟨_, _, _, -, -, ht, hp, hs, hbuilt⟩ |
      ⟨_, he, -⟩
    · exact .request hb hi hvacant
    · exact .reply hparts hk (buildUMessage_ok_iff.1 hres.symm)
    · exact .notification ht hp hs hbuilt
    · cases he

end VsomeipMessageToUMessage

end VsomeipTransport
