/-
What becomes of a message that one transport sends and another receives.

The sender narrows the 32-bit fields of a `UUri` to what SOME/IP has room for,
the receiver widens what it gets. `Trip` and `ResponseTrip` put the two
together, with what vsomeip carries in between.

* `publish_and_request_round_trip`: a published event or a request keeps its
  type and its payload; of the entity only its type arrives, of the version 8
  bits, or for an event the constant 1, and of the resource 16 bits, which is
  all a request can have.
* `responseSurvives_iff`: a response arrives as it was sent unless its status
  is `UNAVAILABLE`, whose return code stands for `NOT_FOUND`, or a field does
  not fit.
* `keepsReturnCode_iff`: a reply of any peer keeps its return code if it is an
  error; a plain response is reported as a success whatever its return code.
-/
import VsomeipTransport.TransportEngine

namespace VsomeipTransport

open UMessageToVsomeipMessage VsomeipMessageToUMessage

/-! ## What is handed to vsomeip -/

section Sent

variable {d : Deps} {umsg : UMessage} {rpc rpc' : InMemoryRpcCorrelationRegistry}
  {offered offered' : InMemoryVsomeipOfferedRequestedRegistry} {app app' : VsomeipApplication}

/-- The payload that is attached to a message. -/
def UMessage.bytes (umsg : UMessage) : List UInt8 := umsg.payload.getD []

/-- A published event is notified under its topic. -/
theorem sendInternal_publish_ok (ht : umsg.attrs.type.enumValueOr .unspecified = .publish)
    (h : sendInternal d umsg rpc offered app = (.returned (.ok ()), rpc', offered', app')) :
    ∃ source calls, umsg.attrs.source = some source ∧ app'.calls =
      .notify (splitU32ToU16 source.ueId).2 1 (splitU32ToU16 source.resourceId).2 (setDataSafe umsg.bytes) true ::
        calls := by
  unfold sendInternal at h
  simp only [ht] at h
  split at h
  · cases h
  next hp =>
  cases h
  simp only [umsgPublishToVsomeipNotification] at hp
  split at hp
  · cases hp
  next source hs =>
  split at hp
  · cases hp; exact ⟨source, _, hs, rfl⟩
  · cases hp; exact ⟨source, _, hs, rfl⟩

/-- A request goes out to the method its sink names. -/
theorem sendInternal_request_ok (hrt : d.rt.MakesRequests)
    (ht : umsg.attrs.type.enumValueOr .unspecified = .request)
    (h : sendInternal d umsg rpc offered app = (.returned (.ok ()), rpc', offered', app')) :
    ∃ sink sent calls, umsg.attrs.sink = some sink ∧ app'.calls = .send sent :: calls ∧
      sent.messageType = .request ∧ sent.service = (splitU32ToU16 sink.ueId).2 ∧
      sent.method = (splitU32ToU16 sink.resourceId).2 ∧
      sent.interfaceVersion = (splitU32ToU8 sink.ueVersionMajor).2.2.2 ∧
      sent.payload = some (setDataSafe umsg.bytes) := by
  unfold sendInternal at h
  simp only [ht] at h
  split at h
  · cases h
  · cases h
  next m _ hm =>
  cases h
  simp only [umsgRequestToVsomeipMessage] at hm
  split at hm
  · cases hm
  split at hm
  · cases hm
  next sink hsink =>
  split at hm
  · cases hm
  split at hm
  · cases hm
  split at hm
  · cases hm
  cases hm
  refine ⟨sink, _, _, hsink, (app.send_request ?_).2, ?_, ?_, ?_, ?_, ?_⟩
  · exact hrt
  · exact hrt
  all_goals rfl

/-- A response goes out from the method its source names, under the request
id that was stored for it. -/
theorem sendInternal_response_ok (ht : umsg.attrs.type.enumValueOr .unspecified = .response)
    (h : sendInternal d umsg rpc offered app = (.returned (.ok ()), rpc', offered', app')) :
    ∃ source sent calls, umsg.attrs.source = some source ∧ app'.calls = .send sent :: calls ∧
      sent.messageType = (replyStatus umsg.attrs.commstatus).2 ∧
      sent.returnCode = ucodeToVsomeipErrCode (replyStatus umsg.attrs.commstatus).1 ∧
      sent.service = (splitU32ToU16 source.ueId).2 ∧ sent.method = (splitU32ToU16 source.resourceId).2 ∧
      sent.interfaceVersion = (splitU32ToU8 source.ueVersionMajor).2.2.2 ∧
      sent.payload = some (setDataSafe umsg.bytes) := by
  unfold sendInternal at h
  simp only [ht] at h
  split at h
  · cases h
  next m _ hm =>
  cases h
  simp only [umsgResponseToVsomeipMessage] at hm
  split at hm
  · cases hm
  next source hsource =>
  split at hm
  · cases hm
  split at hm
  · cases hm
  cases hm
  refine ⟨source, _, app.calls, hsource, congrArg _ (app.send_other ?_), ?_, ?_, ?_, ?_, ?_, ?_⟩
  · exact replyStatus_ne_request _
  all_goals rfl

/-- A payload that fits in 32 bits of length is attached as it is. -/
theorem setDataSafe_eq_iff (data : List UInt8) : setDataSafe data = data ↔ data.length < 2 ^ 32 := by
  rw [setDataSafe, List.take_eq_self_iff]
  omega

end Sent

/-! ## What is made of it -/

section Received

variable {up : UpRust} {canonical : String → String} {authorityName mechatronicsAuthorityName : AuthorityName}
  {selfUuri : TransportUri} {id : UUID} {m : VsomeipMessage} {rpc rpc' : InMemoryRpcCorrelationRegistry}
  {received : UMessage}

theorem received_notification (hparts : up.UriParts canonical) (hcarries : up.Carries)
    (hm : m.messageType = .notification)
    (h : convertVsomeipMsgToUmsg up authorityName selfUuri mechatronicsAuthorityName id m rpc = (.ok received, rpc')) :
    received.payload = m.payload ∧ received.attrs = UMessageBuilder.attributes id
      (.publish ⟨canonical mechatronicsAuthorityName, m.service.toUInt32, 1, m.method.toUInt32⟩) := by
  have hq : m.messageType ≠ .request := by simp [hm]
  have hr : ¬ m.IsReply := by simp [VsomeipMessage.IsReply, hm]
  obtain ⟨-, payload, source, hp, hs, hbuilt⟩ := (convertOther_cases hq hr h).2 received rfl
  obtain rfl := hparts _ _ _ _ _ hs
  exact ⟨by rw [hp, (hcarries _ _ _ _ _ hbuilt).2], hcarries.attrs hbuilt⟩

theorem received_request (hparts : up.UriParts canonical) (hcarries : up.Carries) (hm : m.messageType = .request)
    (h : convertVsomeipMsgToUmsg up authorityName selfUuri mechatronicsAuthorityName id m rpc = (.ok received, rpc')) :
    received.payload = m.payload ∧ ∃ source, received.attrs = UMessageBuilder.attributes id
      (.request ⟨canonical authorityName, m.service.toUInt32, m.interfaceVersion.toUInt32, m.method.toUInt32⟩ source
        1000) := by
  rcases convertRequest_cases hm h with ⟨umsg, sink, source, r, he, hb, -, -, -⟩ | ⟨_, he, -⟩
  · cases he
    obtain ⟨payload, hp, hbuilt⟩ := hb.built
    obtain rfl := hparts _ _ _ _ _ hb.sinkParts
    exact ⟨by rw [hp, (hcarries _ _ _ _ _ hbuilt).2], source, hcarries.attrs hbuilt⟩
  · cases he

/-- The status a reply is given does not depend on the request it answers. -/
theorem received_commstatus (hcarries : up.Carries) (hm : m.IsReply)
    (h : convertVsomeipMsgToUmsg up authorityName selfUuri mechatronicsAuthorityName id m rpc = (.ok received, rpc')) :
    received.attrs.commstatus = some (.known m.replyCommStatus) := by
  rcases convertReply_cases hm h with ⟨_, _, _, _, -, -, -, hbuilt⟩ | ⟨_, he, -⟩
  · rw [hcarries.attrs (buildUMessage_ok_iff.1 hbuilt.symm)]
    rfl
  · cases he

/-- A reply answers the request that is stored under its request id. -/
theorem received_reply (hparts : up.UriParts canonical) (hcarries : up.Carries) (hm : m.IsReply) {reqId : UUID}
    {sink : UUri}
    (hstored : rpc.ueRequestCorrelation m.getRequest = some (reqId, sink))
    (h : convertVsomeipMsgToUmsg up authorityName selfUuri mechatronicsAuthorityName id m rpc = (.ok received, rpc')) :
    received.payload = m.payload ∧ received.attrs = UMessageBuilder.attributes id (.response sink reqId
      ⟨canonical mechatronicsAuthorityName, m.service.toUInt32, m.interfaceVersion.toUInt32, m.method.toUInt32⟩
      (some m.replyCommStatus)) := by
  rcases convertReply_cases hm h with ⟨payload, source, _, _, hb, hk, -, hbuilt⟩ | ⟨_, he, -⟩
  · cases hstored.symm.trans hk
    obtain rfl := hparts _ _ _ _ _ hb.sourceParts
    have hbuilt' := buildUMessage_ok_iff.1 hbuilt.symm
    exact ⟨by rw [hb.payload, (hcarries _ _ _ _ _ hbuilt').2], hcarries.attrs hbuilt'⟩
  · cases he

end Received

/-! ## The fields -/

theorem ueId_arrives (ueId : UInt32) : (splitU32ToU16 ueId).2.toUInt32.toNat = ueId.toNat % 65536 := by
  rw [UInt16.toNat_toUInt32, splitU32ToU16_snd]

theorem resourceId_arrives_iff (resourceId : UInt32) :
    (splitU32ToU16 resourceId).2.toUInt32 = resourceId ↔ resourceId.toNat < 65536 := by
  rw [← UInt32.toNat_inj, ueId_arrives]
  omega

theorem version_arrives (version : UInt32) : (splitU32ToU8 version).2.2.2.toUInt32.toNat = version.toNat % 256 := by
  rw [UInt8.toNat_toUInt32, splitU32ToU8_fourth]

theorem version_arrives_iff (version : UInt32) :
    (splitU32ToU8 version).2.2.2.toUInt32 = version ↔ version.toNat < 256 := by
  rw [← UInt32.toNat_inj, version_arrives]
  omega

/-! ## Published events and requests -/

/-- How a message arrives that was handed to vsomeip: `notify` has room for
no more than the event and the payload. -/
inductive VsomeipCall.Arrives : VsomeipCall → VsomeipMessage → Prop
  | notify {service instanceId event payload force m} (type : m.messageType = .notification)
      (serviceKept : m.service = service) (eventKept : m.method = event) (payloadKept : m.payload = some payload) :
      Arrives (.notify service instanceId event payload force) m
  | send {sent m} (typeKept : m.messageType = sent.messageType) (serviceKept : m.service = sent.service)
      (methodKept : m.method = sent.method) (versionKept : m.interfaceVersion = sent.interfaceVersion)
      (payloadKept : m.payload = sent.payload) : Arrives (.send sent) m

/-- One transport accepts `umsg`, and another makes `received` of what
arrives. -/
inductive Trip (d : Deps) (umsg received : UMessage) : Prop
  | mk {rpc rpc' offered offered' app app' call calls m authorityName selfUuri mechatronicsAuthorityName id rpcIn rpcIn'}
      (sent : sendInternal d umsg rpc offered app = (.returned (.ok ()), rpc', offered', app'))
      (handedOver : app'.calls = call :: calls) (arrives : call.Arrives m)
      (converted : convertVsomeipMsgToUmsg d.up authorityName selfUuri mechatronicsAuthorityName id m rpcIn =
        (.ok received, rpcIn'))

/-- The `UUri` that names the topic of a Publish or the method of a Request. -/
def UMessage.names (umsg : UMessage) : Option UUri :=
  match umsg.attrs.type with
  | .known .publish => umsg.attrs.source
  | .known .request => umsg.attrs.sink
  | _ => none

/-- The version that arrives. -/
def UMessage.arrivingVersion (umsg : UMessage) (version : UInt32) : ℕ :=
  match umsg.attrs.type with
  | .known .publish => 1
  | _ => version.toNat % 256

/-- The resource that arrives: a request names a method, which has 16 bits. -/
def UMessage.arrivingResource (umsg : UMessage) (resourceId : UInt32) : ℕ :=
  match umsg.attrs.type with
  | .known .publish => resourceId.toNat % 65536
  | _ => resourceId.toNat

section Trip

variable {d : Deps} {canonical : String → String} {umsg received : UMessage}

theorem UMessage.type_known {t : UMessageType} (h : umsg.attrs.type.enumValueOr .unspecified = t)
    (ht : t ≠ .unspecified) : umsg.attrs.type = .known t := by
  cases he : umsg.attrs.type with
  | known t' =>
    rw [he] at h
    exact congrArg _ h
  | unknown i =>
    rw [he] at h
    exact absurd h.symm ht

theorem Trip.publish (h : Trip d umsg received) (hparts : d.up.UriParts canonical) (hcarries : d.up.Carries)
    (ht : umsg.attrs.type = .known .publish) :
    ∃ source authority, umsg.attrs.source = some source ∧ received.attrs.type = .known .publish ∧
      received.payload = some (setDataSafe umsg.bytes) ∧ received.attrs.source =
        some ⟨authority, (splitU32ToU16 source.ueId).2.toUInt32, 1, (splitU32ToU16 source.resourceId).2.toUInt32⟩ := by
  obtain ⟨hsent, hcalls, harrives, hconv⟩ := h
  have htype : umsg.attrs.type.enumValueOr .unspecified = .publish := by rw [ht]; rfl
  obtain ⟨source, calls', hsource, hcalls'⟩ := sendInternal_publish_ok htype hsent
  obtain ⟨rfl, -⟩ := List.cons.inj (hcalls.symm.trans hcalls')
  cases harrives with
  | notify hm hservice hevent hp =>
    obtain ⟨hpayload, hattrs⟩ := received_notification hparts hcarries hm hconv
    rw [hservice, hevent] at hattrs
    exact ⟨source, _, hsource, by rw [hattrs]; rfl, by rw [hpayload, hp], congrArg UAttributes.source hattrs⟩

theorem Trip.request (h : Trip d umsg received) (hparts : d.up.UriParts canonical) (hcarries : d.up.Carries)
    (hrt : d.rt.MakesRequests) (ht : umsg.attrs.type = .known .request) :
    ∃ sink authority, umsg.attrs.sink = some sink ∧ received.attrs.type = .known .request ∧
      received.payload = some (setDataSafe umsg.bytes) ∧ received.attrs.sink =
        some ⟨authority, (splitU32ToU16 sink.ueId).2.toUInt32, (splitU32ToU8 sink.ueVersionMajor).2.2.2.toUInt32,
          (splitU32ToU16 sink.resourceId).2.toUInt32⟩ := by
  obtain ⟨hsent, hcalls, harrives, hconv⟩ := h
  have htype : umsg.attrs.type.enumValueOr .unspecified = .request := by rw [ht]; rfl
  obtain ⟨sink, sent, calls', hsink, hcalls', hreq, hservice, hmethod, hversion, hp⟩ :=
    sendInternal_request_ok hrt htype hsent
  obtain ⟨rfl, -⟩ := List.cons.inj (hcalls.symm.trans hcalls')
  cases harrives with
  | send hm hservice' hmethod' hversion' hp' =>
    obtain ⟨hpayload, source, hattrs⟩ := received_request hparts hcarries (hm.trans hreq) hconv
    rw [hservice', hmethod', hversion', hservice, hmethod, hversion] at hattrs
    exact ⟨sink, _, hsink, by rw [hattrs]; rfl, by rw [hpayload, hp', hp], congrArg UAttributes.sink hattrs⟩

/-- **A published event or a request arrives** with its type and payload. The
id of the entity it names is cut to its low 16 bits, and so is the resource id
of an event, where a request keeps it; the version of a request is cut to 8
bits, that of an event is 1. -/
theorem publish_and_request_round_trip (hparts : d.up.UriParts canonical) (hcarries : d.up.Carries)
    (hchecks : d.up.ChecksRequests) (hrt : d.rt.MakesRequests) (h : Trip d umsg received)
    (hvalid : d.up.validate umsg.attrs = .ok ()) (hlen : umsg.bytes.length < 2 ^ 32)
    (ht : umsg.attrs.type.enumValueOr .unspecified = .publish ∨ umsg.attrs.type.enumValueOr .unspecified = .request) :
    received.attrs.type = umsg.attrs.type ∧ received.payload = some umsg.bytes ∧
    ∃ named named', umsg.names = some named ∧ received.names = some named' ∧
      named'.resourceId.toNat = umsg.arrivingResource named.resourceId ∧
      named'.ueId.toNat = named.ueId.toNat % 65536 ∧
      named'.ueVersionMajor.toNat = umsg.arrivingVersion named.ueVersionMajor := by
  have hbytes := (setDataSafe_eq_iff umsg.bytes).2 hlen
  rcases ht with ht | ht
  · have hknown := UMessage.type_known ht (by simp)
    obtain ⟨source, authority, hsource, htype, hpayload, hnamed⟩ := h.publish hparts hcarries hknown
    have hnames : umsg.names = umsg.attrs.source := by simp only [UMessage.names, hknown]
    have hnames' : received.names = received.attrs.source := by simp only [UMessage.names, htype]
    refine ⟨by rw [htype, hknown], by rw [hpayload, hbytes], source, _, hnames.trans hsource,
      hnames'.trans hnamed, ?_, ?_, ?_⟩
    · simp only [UMessage.arrivingResource, hknown]
      exact ueId_arrives _
    · exact ueId_arrives _
    · simp only [UMessage.arrivingVersion, hknown]; rfl
  · have hknown := UMessage.type_known ht (by simp)
    obtain ⟨sink, authority, hsink, htype, hpayload, hnamed⟩ := h.request hparts hcarries hrt hknown
    obtain ⟨_, sink', -, hsink', -, -, hmax⟩ := hchecks _ hvalid ht
    obtain rfl := Option.some.inj (hsink.symm.trans hsink')
    have hnames : umsg.names = umsg.attrs.sink := by simp only [UMessage.names, hknown]
    have hnames' : received.names = received.attrs.sink := by simp only [UMessage.names, htype]
    refine ⟨by rw [htype, hknown], by rw [hpayload, hbytes], sink, _, hnames.trans hsink, hnames'.trans hnamed,
      ?_, ?_, ?_⟩
    · simp only [UMessage.arrivingResource, hknown]
      exact congrArg UInt32.toNat ((resourceId_arrives_iff _).2 (by omega))
    · exact ueId_arrives _
    · simp only [UMessage.arrivingVersion, hknown]
      exact version_arrives _

end Trip

/-- The whole of what is named arrives. -/
def UMessage.ArrivesWhole (umsg received : UMessage) : Prop :=
  received.attrs.type = umsg.attrs.type ∧ received.payload = some umsg.bytes ∧
  ∃ named named', umsg.names = some named ∧ received.names = some named' ∧ named'.ueId = named.ueId ∧
    named'.ueVersionMajor = named.ueVersionMajor ∧ named'.resourceId = named.resourceId

/-- Requests and events are checked before they are sent. -/
def Deps.validating : Deps := ⟨.validating, .zeroed, false⟩

/-- An event of instance 2 of service 1, in version 3, with a resource id of
17 bits. -/
def sampleTopic : UMessage where
  attributes := some { id := some (.sample 1), type := .known .publish, source := some ⟨"me", 0x20001, 3, 0x18001⟩ }
  payload := some [1, 2]

/-- A request to instance 2 of service 1, in version 3. -/
def sampleCall : UMessage where
  attributes := some { id := some (.sample 1), type := .known .request, source := some ⟨"me", 5, 1, 0⟩,
                       sink := some ⟨"foo", 0x20001, 3, 1⟩ }
  payload := some [1, 2]

/-- What arrives of them at a transport with the authority `foo`. -/
def arrivedTopic : UMessage where
  attributes := some { id := some (.sample 2), type := .known .publish, source := some ⟨"me", 1, 1, 0x8001⟩ }
  payload := some [1, 2]

def arrivedCall : UMessage where
  attributes := some { id := some (.sample 2), type := .known .request, source := some ⟨"me", 7, 1, 0⟩,
                       sink := some ⟨"foo", 1, 3, 1⟩ }
  payload := some [1, 2]

def sampleReceiver : TransportUri := ⟨⟨"foo", 9, 1, 0⟩, by decide⟩

def topicOnWire : VsomeipMessage := ⟨.notification, 1, 1, 0x8001, 0, 0, 0, .ok, some [1, 2]⟩

def callOnWire : VsomeipMessage := ⟨.request, 1, 1, 1, 7, 1, 3, .ok, some [1, 2]⟩

theorem trip_sampleTopic : Trip .validating sampleTopic arrivedTopic := by
  have harrives : VsomeipCall.Arrives (.notify 1 1 0x8001 [1, 2] true) topicOnWire := .notify rfl rfl rfl rfl
  have hsent : sendInternal .validating sampleTopic .new .new (.started 7) = (.returned (.ok ()), _, _, _) := rfl
  have hconv : convertVsomeipMsgToUmsg Deps.validating.up "foo" sampleReceiver "me" (.sample 2) topicOnWire .new =
    (.ok arrivedTopic, _) := rfl
  exact .mk hsent rfl harrives hconv

theorem trip_sampleCall : Trip .validating sampleCall arrivedCall := by
  have harrives : VsomeipCall.Arrives (.send callOnWire) callOnWire := .send rfl rfl rfl rfl rfl
  have hsent : sendInternal .validating sampleCall .new .new (.started 7) = (.returned (.ok ()), _, _, _) := rfl
  have hconv : convertVsomeipMsgToUmsg Deps.validating.up "foo" sampleReceiver "me" (.sample 2) callOnWire .new =
    (.ok arrivedCall, _) := rfl
  exact .mk hsent rfl harrives hconv

theorem publish_and_request_round_trip_sample :
    arrivedTopic.attrs.type = sampleTopic.attrs.type ∧ arrivedTopic.payload = some sampleTopic.bytes ∧
    ∃ named named', sampleTopic.names = some named ∧ arrivedTopic.names = some named' ∧
      named'.resourceId.toNat = sampleTopic.arrivingResource named.resourceId ∧
      named'.ueId.toNat = named.ueId.toNat % 65536 ∧
      named'.ueVersionMajor.toNat = sampleTopic.arrivingVersion named.ueVersionMajor :=
  publish_and_request_round_trip (d := .validating) UpRust.accepting_uriParts UpRust.accepting_carries
    UpRust.validating_checksRequests rfl trip_sampleTopic rfl (by decide) (.inl rfl)

/-- The instance does not arrive, nor do an event's version and its resource. -/
theorem not_arrivesWhole :
    (Trip .validating sampleTopic arrivedTopic ∧ UpRust.validating.validate sampleTopic.attrs = .ok () ∧
      ¬ sampleTopic.ArrivesWhole arrivedTopic) ∧
    Trip .validating sampleCall arrivedCall ∧ UpRust.validating.validate sampleCall.attrs = .ok () ∧
      ¬ sampleCall.ArrivesWhole arrivedCall := by
  refine ⟨⟨trip_sampleTopic, rfl, fun h => ?_⟩, trip_sampleCall, rfl, fun h => ?_⟩
  · obtain ⟨-, -, named, named', hn, hn', -, -, hresource⟩ := h
    cases hn
    cases hn'
    exact absurd hresource (by decide)
  · obtain ⟨-, -, named, named', hn, hn', hueId, -, -⟩ := h
    cases hn
    cases hn'
    exact absurd hueId (by decide)

/-! ## Responses -/

/-- A service's response is accepted, and a client for which a request is
stored under its request id makes `received` of it. -/
inductive ResponseTrip (d : Deps) (umsg received : UMessage) (reqId : UUID) (sink : UUri) : Prop
  | mk {rpc rpc' offered offered' app app' calls m authorityName selfUuri mechatronicsAuthorityName id rpcIn rpcIn'}
      (type : umsg.attrs.type.enumValueOr .unspecified = .response)
      (sent : sendInternal d umsg rpc offered app = (.returned (.ok ()), rpc', offered', app'))
      (handedOver : app'.calls = .send m :: calls)
      (stored : rpcIn.ueRequestCorrelation m.getRequest = some (reqId, sink))
      (converted : convertVsomeipMsgToUmsg d.up authorityName selfUuri mechatronicsAuthorityName id m rpcIn =
        (.ok received, rpcIn'))

/-- What is asked of the response that is received. -/
structure UMessage.ResponseSurvives (umsg received : UMessage) (reqId : UUID) (sink : UUri) : Prop where
  type : received.attrs.type = .known .response
  payload : received.payload = some umsg.bytes
  reqid : received.attrs.reqid = some reqId
  sink : received.attrs.sink = some sink
  source : ∃ source source', umsg.attrs.source = some source ∧ received.attrs.source = some source' ∧
    source'.resourceId = source.resourceId ∧ source'.ueVersionMajor = source.ueVersionMajor ∧
    source'.ueId.toNat = source.ueId.toNat % 65536
  ok_iff : received.attrs.commstatus = some (.known .ok) ↔
    umsg.attrs.commstatus = none ∨ umsg.attrs.commstatus = some (.known .ok)
  status : ∀ c, umsg.attrs.commstatus = some (.known c) → (∃ code, vsomeipErrCodeToUcode code = c) →
    received.attrs.commstatus = some (.known c)

/-- The status that is read off the return code. -/
def statusArriving (commstatus : Option (EnumOrUnknown UCode)) : UCode :=
  vsomeipErrCodeToUcode (ucodeToVsomeipErrCode (replyStatus commstatus).1)

theorem statusArriving_ok_iff (commstatus : Option (EnumOrUnknown UCode)) :
    statusArriving commstatus = .ok ↔ commstatus = none ∨ commstatus = some (.known .ok) := by
  cases commstatus with
  | none => exact ⟨fun _ => .inl rfl, fun _ => rfl⟩
  | some cs =>
    cases cs with
    | known c => cases c <;> simp [statusArriving, replyStatus, EnumOrUnknown.enumValueOr, ucodeToVsomeipErrCode,
        vsomeipErrCodeToUcode]
    | unknown i => simp [statusArriving, replyStatus, EnumOrUnknown.enumValueOr, ucodeToVsomeipErrCode,
        vsomeipErrCodeToUcode]

/-- **The two tables are inverse to each other on what can arrive, save
`UNAVAILABLE`.** -/
theorem statusArriving_eq_iff {c : UCode} (hc : ∃ code, vsomeipErrCodeToUcode code = c) :
    statusArriving (some (.known c)) = c ↔ c ≠ .unavailable := by
  obtain ⟨code, rfl⟩ := hc
  cases code <;> simp [statusArriving, replyStatus, EnumOrUnknown.enumValueOr, ucodeToVsomeipErrCode,
    vsomeipErrCodeToUcode]

theorem replyStatus_cases (commstatus : Option (EnumOrUnknown UCode)) :
    replyStatus commstatus = (.ok, .response) ∨ ∃ c, replyStatus commstatus = (c, .error) := by
  unfold replyStatus
  split
  · simp only
    split
    · exact .inl rfl
    · exact .inr ⟨_, rfl⟩
  · exact .inl rfl

/-- The type and the return code of a reply give its status. -/
theorem replyCommStatus_sent {m : VsomeipMessage} {commstatus : Option (EnumOrUnknown UCode)}
    (ht : m.messageType = (replyStatus commstatus).2)
    (hc : m.returnCode = ucodeToVsomeipErrCode (replyStatus commstatus).1) :
    m.IsReply ∧ m.replyCommStatus = statusArriving commstatus := by
  rcases replyStatus_cases commstatus with hs | ⟨c, hs⟩
  · rw [hs] at ht
    exact ⟨.inl ht, by simp [VsomeipMessage.replyCommStatus, ht, statusArriving, hs, ucodeToVsomeipErrCode,
      vsomeipErrCodeToUcode]⟩
  · rw [hs] at ht hc
    exact ⟨.inr ht, by simp [VsomeipMessage.replyCommStatus, ht, hc, statusArriving, hs]⟩

section ResponseTrip

variable {d : Deps} {canonical : String → String} {umsg received : UMessage} {reqId : UUID} {sink : UUri}

/-- What arrives of a response. -/
theorem ResponseTrip.arrives (h : ResponseTrip d umsg received reqId sink) (hparts : d.up.UriParts canonical)
    (hcarries : d.up.Carries) :
    ∃ source authority id, umsg.attrs.source = some source ∧ received.payload = some (setDataSafe umsg.bytes) ∧
      received.attrs = UMessageBuilder.attributes id (.response sink reqId
        ⟨authority, (splitU32ToU16 source.ueId).2.toUInt32, (splitU32ToU8 source.ueVersionMajor).2.2.2.toUInt32,
          (splitU32ToU16 source.resourceId).2.toUInt32⟩ (some (statusArriving umsg.attrs.commstatus))) := by
  obtain ⟨ht, hsent, hcalls, hstored, hconv⟩ := h
  obtain ⟨source, sent, calls', hsource, hcalls', htype, hcode, hservice, hmethod, hversion, hp⟩ :=
    sendInternal_response_ok ht hsent
  have hhead := List.head_eq_of_cons_eq (hcalls.symm.trans hcalls')
  obtain rfl := VsomeipCall.send.inj hhead
  obtain ⟨hreply, hstatus⟩ := replyCommStatus_sent htype hcode
  obtain ⟨hpayload, hattrs⟩ := received_reply hparts hcarries hreply hstored hconv
  rw [hservice, hmethod, hversion, hstatus] at hattrs
  exact ⟨source, _, _, hsource, hpayload.trans hp, hattrs⟩

/-- **A response arrives as it was sent if and only if** its status is not
`UNAVAILABLE`, its payload is shorter than 2^32 bytes, and the resource id and
the version of its source fit into 16 and 8 bits. -/
theorem responseSurvives_iff (hparts : d.up.UriParts canonical) (hcarries : d.up.Carries)
    (h : ResponseTrip d umsg received reqId sink) :
    umsg.ResponseSurvives received reqId sink ↔
      umsg.attrs.commstatus ≠ some (.known .unavailable) ∧ umsg.bytes.length < 2 ^ 32 ∧
      ∀ source, umsg.attrs.source = some source →
        source.resourceId.toNat < 2 ^ 16 ∧ source.ueVersionMajor.toNat < 2 ^ 8 := by
  obtain ⟨source, authority, id, hsource, hpayload, hattrs⟩ := h.arrives hparts hcarries
  have hcomm : received.attrs.commstatus = some (.known (statusArriving umsg.attrs.commstatus)) := by rw [hattrs]; rfl
  have hsource' := congrArg UAttributes.source hattrs
  constructor
  · intro hsurv
    refine ⟨fun hun => ?_, ?_, fun s hs => ?_⟩
    · have hsame := hsurv.status _ hun ⟨.notReady, rfl⟩
      rw [hcomm, hun] at hsame
      exact absurd hsame (by decide)
    · have hsame := hsurv.payload
      rw [hpayload, Option.some.injEq] at hsame
      exact (setDataSafe_eq_iff _).1 hsame
    · obtain ⟨s₁, s₂, hs₁, hs₂, hresource, hversion, -⟩ := hsurv.source
      cases hs.symm.trans hs₁
      cases hs.symm.trans hsource
      cases hs₂.symm.trans hsource'
      exact ⟨(resourceId_arrives_iff _).1 hresource, (version_arrives_iff _).1 hversion⟩
  · intro hgiven
    obtain ⟨hstatus, hlen, hfits⟩ := hgiven
    obtain ⟨hresource, hversion⟩ := hfits source hsource
    constructor
    · rw [hattrs]; rfl
    · rw [hpayload, (setDataSafe_eq_iff _).2 hlen]
    · rw [hattrs]; rfl
    · rw [hattrs]; rfl
    · exact ⟨source, _, hsource, hsource', (resourceId_arrives_iff _).2 hresource,
        (version_arrives_iff _).2 hversion, ueId_arrives _⟩
    · rw [hcomm, ← statusArriving_ok_iff]
      simp
    · intro c hc hcode
      have hne : c ≠ .unavailable := fun he => hstatus (by rw [hc, he])
      rw [hcomm, hc, (statusArriving_eq_iff hcode).2 hne]

end ResponseTrip

/-- A response of method 1 of service 1, with a status. -/
def sampleReply (c : UCode) : UMessage where
  attributes := some { id := some (.sample 5), type := .known .response, source := some ⟨"foo", 1, 3, 1⟩,
                       sink := some ⟨"me", 7, 1, 0⟩, reqid := some (.sample 2), commstatus := some (.known c) }
  payload := some [5]

/-- What arrives at the client, whose request was the first: `NOT_FOUND` and
`UNAVAILABLE` look the same on the wire. -/
def replyOnWire : VsomeipMessage := ⟨.error, 1, 1, 1, 7, 1, 3, .unknownService, some [5]⟩

def arrivedReply : UMessage where
  attributes := some { id := some (.sample 3), type := .known .response, source := some ⟨"foo", 1, 3, 1⟩,
                       sink := some ⟨"me", 5, 1, 0⟩, reqid := some (.sample 1), commstatus := some (.known .notFound) }
  payload := some [5]

/-- The request as the service and the client have it stored. -/
def storedAtService : InMemoryRpcCorrelationRegistry :=
  { InMemoryRpcCorrelationRegistry.new with meRequestCorrelation := PartialMap.empty.insert (.sample 2) 0x70001 }

def storedAtClient : InMemoryRpcCorrelationRegistry :=
  { InMemoryRpcCorrelationRegistry.new with
    ueRequestCorrelation := PartialMap.empty.insert 0x70001 (.sample 1, ⟨"me", 5, 1, 0⟩) }

theorem responseTrip_sample {c : UCode} (hc : c = .notFound ∨ c = .unavailable) :
    ResponseTrip .validating (sampleReply c) arrivedReply (.sample 1) ⟨"me", 5, 1, 0⟩ := by
  have hconv : convertVsomeipMsgToUmsg Deps.validating.up "me" sampleReceiver "foo" (.sample 3) replyOnWire
      storedAtClient = (.ok arrivedReply, _) := rfl
  rcases hc with rfl | rfl
  · have hsent : sendInternal .validating (sampleReply .notFound) storedAtService .new (.started 7) =
        (.returned (.ok ()), _, _, _) := rfl
    exact .mk rfl hsent rfl rfl hconv
  · have hsent : sendInternal .validating (sampleReply .unavailable) storedAtService .new (.started 7) =
        (.returned (.ok ()), _, _, _) := rfl
    exact .mk rfl hsent rfl rfl hconv

theorem responseSurvives_iff_sample :
    (sampleReply .notFound).ResponseSurvives arrivedReply (.sample 1) ⟨"me", 5, 1, 0⟩ ↔
      (sampleReply .notFound).attrs.commstatus ≠ some (.known .unavailable) ∧
      (sampleReply .notFound).bytes.length < 2 ^ 32 ∧
      ∀ source, (sampleReply .notFound).attrs.source = some source →
        source.resourceId.toNat < 2 ^ 16 ∧ source.ueVersionMajor.toNat < 2 ^ 8 :=
  responseSurvives_iff (d := .validating) UpRust.accepting_uriParts UpRust.accepting_carries
    (responseTrip_sample (.inl rfl))

/-- `UNAVAILABLE` arrives as `NOT_FOUND`, although there is a return code that
stands for it. -/
theorem not_responseSurvives :
    ResponseTrip .validating (sampleReply .unavailable) arrivedReply (.sample 1) ⟨"me", 5, 1, 0⟩ ∧
    vsomeipErrCodeToUcode .notReady = .unavailable ∧
    ¬ (sampleReply .unavailable).ResponseSurvives arrivedReply (.sample 1) ⟨"me", 5, 1, 0⟩ := by
  refine ⟨responseTrip_sample (.inr rfl), rfl, fun h => ?_⟩
  exact absurd (h.status .unavailable rfl ⟨.notReady, rfl⟩) (by decide)

/-! ## Replies of other peers

Any peer may reply, and one that is not this transport may put an error in
the return code of a plain response. -/

/-- The response says what the return code of the reply says. -/
structure KeepsReturnCode (m : VsomeipMessage) (received : UMessage) : Prop where
  status : received.attrs.commstatus = some (.known (vsomeipErrCodeToUcode m.returnCode))
  ok_iff : received.attrs.commstatus = some (.known .ok) ↔ m.returnCode = .ok

theorem vsomeipErrCodeToUcode_ok_iff (code : ReturnCode) : vsomeipErrCodeToUcode code = .ok ↔ code = .ok := by
  cases code <;> simp [vsomeipErrCodeToUcode]

/-- The return code is read off an error only. -/
theorem replyCommStatus_eq_iff {m : VsomeipMessage} :
    m.replyCommStatus = vsomeipErrCodeToUcode m.returnCode ↔ m.messageType = .error ∨ m.returnCode = .ok := by
  unfold VsomeipMessage.replyCommStatus
  split
  · next ht => simp [ht]
  · next ht => rw [eq_comm, vsomeipErrCodeToUcode_ok_iff, or_iff_right ht]

/-- **The return code of a reply is kept if and only if** the reply is an
error or its return code is `E_OK`. -/
theorem keepsReturnCode_iff {up : UpRust} {authorityName mechatronicsAuthorityName : AuthorityName}
    {selfUuri : TransportUri} {id : UUID} {m : VsomeipMessage} {rpc rpc' : InMemoryRpcCorrelationRegistry}
    {received : UMessage} (hcarries : up.Carries) (hm : m.IsReply)
    (hconv : convertVsomeipMsgToUmsg up authorityName selfUuri mechatronicsAuthorityName id m rpc =
      (.ok received, rpc')) :
    KeepsReturnCode m received ↔ m.messageType = .error ∨ m.returnCode = .ok := by
  have hcomm := received_commstatus hcarries hm hconv
  rw [← replyCommStatus_eq_iff]
  constructor
  · intro hkeeps
    have hstatus := hkeeps.status
    rw [hcomm, Option.some.injEq, EnumOrUnknown.known.injEq] at hstatus
    exact hstatus
  · intro hsame
    rw [hsame] at hcomm
    refine ⟨hcomm, ?_⟩
    rw [hcomm, Option.some.injEq, EnumOrUnknown.known.injEq]
    exact vsomeipErrCodeToUcode_ok_iff m.returnCode

theorem keepsReturnCode_iff_sample :
    KeepsReturnCode replyOnWire arrivedReply ↔ replyOnWire.messageType = .error ∨ replyOnWire.returnCode = .ok := by
  have hconv : convertVsomeipMsgToUmsg .accepting "me" sampleReceiver "foo" (.sample 3) replyOnWire storedAtClient =
      (.ok arrivedReply, _) := rfl
  exact keepsReturnCode_iff UpRust.accepting_carries (.inr rfl) hconv

/-- A service that answers a call with `E_NOT_OK` in a plain response: the
caller is told that the call succeeded. -/
theorem failed_call_reported_ok :
    let m : VsomeipMessage := { replyOnWire with messageType := .response, returnCode := .notOk }
    let (res, _) := convertVsomeipMsgToUmsg .accepting "me" sampleReceiver "foo" (.sample 3) m storedAtClient
    storedAtClient.ueRequestCorrelation m.getRequest = some (.sample 1, ⟨"me", 5, 1, 0⟩) ∧
    ∃ received, res = .ok received ∧ received.attrs.commstatus = some (.known .ok) ∧
      vsomeipErrCodeToUcode m.returnCode = .unknown ∧ ¬ KeepsReturnCode m received := by
  refine ⟨rfl, _, rfl, rfl, rfl, fun h => ?_⟩
  exact absurd h.status (by decide)

end VsomeipTransport
