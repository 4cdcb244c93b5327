/-
A message on its way from one transport to the listeners of another.

The one narrows the `UUri` that names the topic or the method of the message to
a service and a method, the other narrowed the filters of its listeners the
same way, and keeps each one's handler under what came of it
(`live_entries_kept`). `sent_reaches_listener` puts the two together: whoever
registered for a message gets it, if it converts. The narrowing can only let
more messages through, which `delivered_matches_iff` is about.
-/
import VsomeipTransport.CoexistenceFacts
import VsomeipTransport.FilterFacts
import VsomeipTransport.RoundTripFacts

namespace VsomeipTransport

/-- The kind of registration that is for such messages, and the `UUri` that
names the topic or the method. -/
def UMessage.addressed (umsg : UMessage) : Option (RegistrationType × UUri) :=
  match umsg.attrs.type with
  | .known .publish => umsg.attrs.source.map fun source => (.publish, source)
  | .known .request => umsg.attrs.sink.map fun sink => (.request, sink)
  | .known .response => umsg.attrs.source.map fun source => (.response, source)
  | _ => none

/-- The filter that does. -/
def ListenerConfig.naming {L : Type} (cfg : ListenerConfig L) : RegistrationType → Option UUri
  | .publish => some cfg.sourceFilter
  | .request => cfg.sinkFilter
  | .response => some cfg.sourceFilter
  | .allPointToPoint => none

/-- The instance a message is sent from or to. -/
def VsomeipCall.instanceId : VsomeipCall → InstanceId
  | .notify _ instanceId _ _ _ => instanceId
  | .send m => m.instanceId
  | _ => 0

/-- How `m` looks when it arrives of what was sent to `named`. -/
structure VsomeipMessage.Names (m : VsomeipMessage) (type : RegistrationType) (named : UUri) : Prop where
  service : m.service = (splitU32ToU16 named.ueId).2
  method : m.method = (splitU32ToU16 named.resourceId).2
  instanceId : type = .publish → m.instanceId = 1

/-! ## Sending -/

section Sending

variable {d : Deps} {umsg : UMessage} {rpc rpc' : InMemoryRpcCorrelationRegistry}
  {offered offered' : InMemoryVsomeipOfferedRequestedRegistry} {app app' : VsomeipApplication}
  {type : RegistrationType} {named : UUri}

/-- A message that is sent is the last thing vsomeip was given. -/
theorem sendInternal_handsOver (hrt : d.rt.MakesRequests) (haddr : umsg.addressed = some (type, named))
    (h : sendInternal d umsg rpc offered app = (.returned (.ok ()), rpc', offered', app')) :
    ∃ call calls, app'.calls = call :: calls ∧ ∀ m, call.Arrives m → m.instanceId = call.instanceId →
      m.Names type named ∧ m.payload = some (setDataSafe umsg.bytes) := by
  unfold UMessage.addressed at haddr
  split at haddr
  · next ht =>
    have htype : umsg.attrs.type.enumValueOr .unspecified = .publish := by rw [ht]; rfl
    obtain ⟨source, calls, hsource, hcalls⟩ := sendInternal_publish_ok htype h
    rw [hsource] at haddr
    cases haddr
    refine ⟨_, calls, hcalls, fun m harrives hinst => ?_⟩
    cases harrives with
    | notify _ hservice hevent hp => exact ⟨⟨hservice, hevent, fun _ => hinst⟩, hp⟩
  · next ht =>
    have htype : umsg.attrs.type.enumValueOr .unspecified = .request := by rw [ht]; rfl
    obtain ⟨sink, sent, calls, hsink, hcalls, -, hservice, hmethod, -, hp⟩ := sendInternal_request_ok hrt htype h
    rw [hsink] at haddr
    cases haddr
    refine ⟨_, calls, hcalls, fun m harrives _ => ?_⟩
    cases harrives with
    | send _ hservice' hmethod' _ hp' =>
      exact ⟨⟨hservice'.trans hservice, hmethod'.trans hmethod, fun ht => by cases ht⟩, hp'.trans hp⟩
  · next ht =>
    have htype : umsg.attrs.type.enumValueOr .unspecified = .response := by rw [ht]; rfl
    obtain ⟨source, sent, calls, hsource, hcalls, -, -, hservice, hmethod, -, hp⟩ := sendInternal_response_ok htype h
    rw [hsource] at haddr
    cases haddr
    refine ⟨_, calls, hcalls, fun m harrives _ => ?_⟩
    cases harrives with
    | send _ hservice' hmethod' _ hp' =>
      exact ⟨⟨hservice'.trans hservice, hmethod'.trans hmethod, fun ht => by cases ht⟩, hp'.trans hp⟩
  · cases haddr

variable {T L : Type} [DecidableEq T] [DecidableEq L] {p p' : Process T L} {t : T} {moments : ℕ → Moment}

/-- `send` answers `Ok` only if the engine sent the message, after whatever
else was in its queue. -/
theorem Process.send_ok (h : Process.send d p t umsg moments = (.returned (.ok ()), p')) :
    ∃ (s : EngineState) (app app' : VsomeipApplication) (rpc : InMemoryRpcCorrelationRegistry)
      (offered : InMemoryVsomeipOfferedRequestedRegistry),
      sendInternal d umsg s.rpcCorrelation s.vsomeipOfferedRequested app = (.returned (.ok ()), rpc, offered, app') ∧
      (p'.transports t).engine.state.application = some app' := by
  unfold Process.send at h
  split at h
  · cases h
  split at h
  · cases h
  split at h
  · cases h
  split at h
  · cases h
  split at h
  · cases h
  · cases h
  next p₁ _ =>
  simp only [Process.ask] at h
  cases hask : (p₁.transports t).engine.ask d (.send umsg) (moments 1).inTime with
  | mk answer engine =>
  rw [hask] at h
  simp only [Prod.mk.injEq] at h
  obtain ⟨hanswer, rfl⟩ := h
  rcases Engine.ask_cases hask with ⟨-, rfl, -⟩ | ⟨-, -, rfl, -⟩ | ⟨-, -, rfl, -⟩ | ⟨-, -, s, s', res, -, hp, rfl, rfl⟩
  · cases hanswer
  · cases hanswer
  · cases hanswer
  · cases hanswer
    simp only [Process.setEngine_engine, if_true]
    cases happ : s.application with
    | none => simp [processCommand, happ] at hp
    | some app =>
      cases hsend : sendInternal d umsg s.rpcCorrelation s.vsomeipOfferedRequested app with
      | mk res rest =>
      obtain ⟨rpc, offered, app'⟩ := rest
      simp only [processCommand, happ, hsend, Prod.mk.injEq] at hp
      obtain ⟨rfl, rfl⟩ := hp
      exact ⟨s, app, app', rpc, offered, hsend, rfl⟩

end Sending

/-! ## Receiving -/

section Receiving

variable {up : UpRust} {type : RegistrationType} {filter named : UUri} {key : HandlerKey} {m : VsomeipMessage}

/-- A field that matches is the same or a wildcard in its low half. -/
theorem half_matches {filter named : UInt32} {wildcard : Bool} (hw : wildcard = true → filter % 0x10000 = 0xFFFF)
    (h : wildcard = true ∨ filter % 0x10000 = named % 0x10000) :
    (splitU32ToU16 filter).2 = (splitU32ToU16 named).2 ∨ (splitU32ToU16 filter).2 = 0xFFFF := by
  have hhalf : ∀ {x y : UInt32}, x % 0x10000 = y % 0x10000 → x.toNat % 65536 = y.toNat % 65536 := by
    intro x y hxy
    simpa [UInt32.toNat_mod] using congrArg UInt32.toNat hxy
  rcases h with hwild | hsame
  · refine .inr (UInt16.toNat_inj.1 ?_)
    have hlow := hhalf (y := 0xFFFF) (hw hwild)
    rw [splitU32ToU16_snd, hlow]
    rfl
  · refine .inl (UInt16.toNat_inj.1 ?_)
    rw [splitU32ToU16_snd, splitU32ToU16_snd, hhalf hsame]

/-- **What matches the filter is admitted by its triple.** -/
theorem admits_of_matches {L : Type} {cfg : ListenerConfig L} (hw : up.Wildcards)
    (hkey : registerKey type cfg.sourceFilter cfg.sinkFilter = some key) (hf : cfg.naming type = some filter)
    (hmatch : filter.Matches up named) (hm : m.Names type named) : key.Admits m := by
  have hservice : (splitU32ToU16 filter.ueId).2 = m.service ∨ (splitU32ToU16 filter.ueId).2 = anyService := by
    rw [hm.service]
    exact half_matches (fun h => (hw.entityType filter).1 h) hmatch.entityType
  have hmethod : (splitU32ToU16 filter.resourceId).2 = m.method ∨ (splitU32ToU16 filter.resourceId).2 = anyMethod := by
    rw [hm.method]
    refine half_matches (fun h => ?_) (hmatch.resourceId.imp id fun h => by rw [h])
    rw [(hw.resourceId filter).1 h]
    rfl
  cases type with
  | publish =>
    cases hf
    cases hkey
    exact ⟨hservice, .inl (hm.instanceId rfl).symm, hmethod⟩
  | request =>
    have hsink : cfg.sinkFilter = some filter := hf
    rw [hsink] at hkey
    cases hkey
    exact ⟨hservice, .inr rfl, hmethod⟩
  | response =>
    cases hf
    cases hkey
    exact ⟨hservice, .inr rfl, hmethod⟩
  | allPointToPoint => cases hf

variable {T L : Type} {d : Deps} {p : Process T L} {t : T} {c : Callback} {umsg : UMessage}

/-- A message that converts keeps its payload. -/
theorem convertFor_payload (hcarries : d.up.Carries) (h : (p.convertFor d t c).1 = .ok umsg) :
    umsg.payload = c.vsomeipMsg.payload := by
  cases hconv : p.convertFor d t c with
  | mk res rpc =>
  rw [hconv] at h
  simp only at h
  subst h
  rcases VsomeipMessageToUMessage.convertVsomeipMsgToUmsg_cases hconv with ⟨_, _, _, _, hok, hb, -⟩ |
    ⟨payload, _, _, _, hr, -, -, hres⟩ | ⟨_, payload, _, hok, -, -, hp, -, hbuilt⟩ | ⟨_, he, -⟩
  · cases hok
    obtain ⟨payload, hp, hbuilt⟩ := hb.built
    rw [(hcarries _ _ _ _ _ hbuilt).2, hp]
  · have hbuilt := VsomeipMessageToUMessage.buildUMessage_ok_iff.1 hres.symm
    rw [(hcarries _ _ _ _ _ hbuilt).2, hr.payload]
  · cases hok
    rw [(hcarries _ _ _ _ _ hbuilt).2, hp]
  · cases he

/-- **A handler in use hands over what converts**, and its listener gets the
payload, as long as nobody releases it meanwhile. -/
theorem handedOver_iff [DecidableEq T] [DecidableEq L] (hcarries : d.up.Carries) (hI : PoolInvariant p.handlers)
    {id : MessageHandlerId} {cfg : ListenerConfig L} (hbound : p.handlers.Bound t id cfg)
    {others : Interference T L} (hothers : HandlerOp.release t cfg ∉ others.all) (uuid : UUID) :
    p.Convertible d t ⟨id, m, uuid⟩ ↔ ∃ umsg p',
      Process.callSharedExternFn d p ⟨id, m, uuid⟩ others = (.handedOver cfg.listener umsg, p') ∧
      umsg.payload = m.payload := by
  have hs : p.StorageFound d ⟨id, m, uuid⟩ others t := by
    refine (Process.storageFound_iff hI).2 ⟨cfg, .inl ⟨hbound, fun hm => hothers ?_⟩⟩
    simp [Interference.all, hm]
  have hlf : p.ListenerFound d ⟨id, m, uuid⟩ others t cfg := (Process.listenerFound_iff hI).2 (.inl ⟨hbound, hothers⟩)
  constructor
  · intro hconv
    obtain ⟨umsg, p', hok, hcall⟩ := Process.callSharedExternFn_handedOver hs hconv hlf
    exact ⟨umsg, p', hcall, convertFor_payload hcarries hok⟩
  · intro hgiven
    obtain ⟨umsg, p', hcall, -⟩ := hgiven
    rcases Process.callSharedExternFn_cases hcall with ⟨-, hd, -⟩ | ⟨t', res, rpc', hs', hconv, -, hcases⟩
    · cases hd
    obtain rfl := hs.unique hs'
    rcases hcases with ⟨_, -, hd⟩ | ⟨umsg', rfl, -⟩
    · cases hd
    · exact Process.convertible_iff.2 ⟨umsg', by rw [hconv]⟩

end Receiving

/-! ## From one transport to another -/

variable {T T' L L' : Type} [DecidableEq T] [DecidableEq T'] [DecidableEq L] [DecidableEq L'] {d : Deps}

/-- **What is sent reaches every listener that is registered for it.** A `send`
that answers `Ok` gives vsomeip the message. Whatever was registered and
unregistered at another transport before, apart from a live configuration, and
while the message is handed over there: if its filter matches the `UUri` the
message names, its own handler is invoked, and its listener is handed the
payload if and only if the message converts. -/
theorem sent_reaches_listener (hrt : d.rt.MakesRequests) (hw : d.up.Wildcards) (hcarries : d.up.Carries)
    {q q' : Process T' L'} {u : T'} {umsg : UMessage} {moments : ℕ → Moment}
    (hsend : Process.send d q u umsg moments = (.returned (.ok ()), q')) {type : RegistrationType} {named : UUri}
    (haddr : umsg.addressed = some (type, named)) (configs : T → TransportConfig × ClientId)
    (actions : List (Action T L)) {t : T} {cfg : ListenerConfig L} {key : HandlerKey} {filter : UUri}
    (hg : Runs.Guarded (Tracked.step d) (Tracked.Apart t cfg) (.started configs) actions)
    (hl : (Runs.after (Tracked.step d) (.started configs) actions).live t cfg = some key)
    (hkey : registerKey type cfg.sourceFilter cfg.sinkFilter = some key) (hf : cfg.naming type = some filter)
    (hmatch : filter.Matches d.up named) :
    let p := (Runs.after (Tracked.step d) (.started configs) actions).process
    ∃ sender call calls, (q'.transports u).engine.state.application = some sender ∧ sender.calls = call :: calls ∧
      ∀ m, call.Arrives m → m.instanceId = call.instanceId →
        ∃ (app : VsomeipApplication) (fn : MessageHandlerFnPtr), (p.transports t).engine.state.application = some app ∧
          app.handlers key = some fn ∧ key.Admits m ∧
          ∀ id others, HandlerOp.release t cfg ∉ others.all →
            (p.Convertible d t ⟨fn.id, m, id⟩ ↔ ∃ umsg' p',
              Process.callSharedExternFn d p ⟨fn.id, m, id⟩ others = (.handedOver cfg.listener umsg', p') ∧
              umsg'.payload = some (setDataSafe umsg.bytes)) := by
  intro p
  obtain ⟨s, app₀, sender, rpc, offered, hsent, hsender⟩ := Process.send_ok hsend
  obtain ⟨call, calls, hcalls, harrival⟩ := sendInternal_handsOver hrt haddr hsent
  refine ⟨sender, call, calls, hsender, hcalls, fun m harrives hinst => ?_⟩
  obtain ⟨hnames, hpayload⟩ := harrival m harrives hinst
  have hI : (Runs.after (Tracked.step d) (.started configs) actions).Invariant t cfg :=
    hg.invariant (Tracked.Invariant t cfg) (fun _ a hI ha => hI.step a ha) (Tracked.Invariant.started configs)
  obtain ⟨fn, hbound, hkeeps⟩ := hI.kept key hl
  obtain ⟨app, happ, hfn⟩ := hkeeps.entry
  refine ⟨app, fn, happ, hfn, admits_of_matches hw hkey hf hmatch hnames, fun id others hothers => ?_⟩
  have hover := handedOver_iff (m := m) hcarries hI.pool hbound hothers id
  rwa [hpayload] at hover

/-- An event of the topic `sampleListener` listens to. -/
def samplePublished : UMessage where
  attributes := some { id := some (.sample 1), type := .known .publish, source := some ⟨"me_authority", 1, 1, 0x8001⟩ }
  payload := some [1, 2]

theorem sent_reaches_listener_sample :
    let cfg : ListenerConfig Unit := ⟨⟨"me_authority", 1, 1, 0x8002⟩, none, ()⟩
    ∃ (q p p' : Process Unit Unit) (sender : VsomeipApplication) (call : VsomeipCall) (calls : List VsomeipCall)
      (fn : MessageHandlerFnPtr) (umsg' : UMessage),
      p = (Runs.after (Tracked.step .accepting) (.started Process.sampleConfig)
        [.register () (Process.sampleListener ()) .publish .first, .register () cfg .publish .first]).process ∧
      Process.send .accepting Process.sample () samplePublished (fun _ => .first) = (.returned (.ok ()), q) ∧
      (q.transports ()).engine.state.application = some sender ∧ sender.calls = call :: calls ∧
      call.Arrives { Process.sampleEvent with payload := some [1, 2] } ∧
      Process.callSharedExternFn .accepting p
        ⟨fn.id, { Process.sampleEvent with payload := some [1, 2] }, .sample 2⟩ .none =
        (.handedOver () umsg', p') ∧ umsg'.payload = some [1, 2] := by
  intro cfg
  have hkey : registerKey .publish (Process.sampleListener ()).sourceFilter (Process.sampleListener ()).sinkFilter =
      some ⟨1, 1, 0x8001⟩ := by decide
  have hkey' : registerKey .publish cfg.sourceFilter cfg.sinkFilter = some ⟨1, 1, 0x8002⟩ := by decide
  have hsend : Process.send .accepting (Process.sample : Process Unit Unit) () samplePublished (fun _ => .first) =
      (.returned (.ok ()), _) := rfl
  obtain ⟨⟨s, hs, hl, -⟩, hapart, -⟩ :=
    Tracked.two_live_sample (by decide : cfg ≠ Process.sampleListener ()) hkey hkey' (by decide)
  have haddr : samplePublished.addressed = some (.publish, ⟨"me_authority", 1, 1, 0x8001⟩) := rfl
  have hrt : Deps.accepting.rt.MakesRequests := rfl
  obtain ⟨sender, call, calls, hsender, hcalls, harrival⟩ := sent_reaches_listener hrt UpRust.accepting_wildcards
    UpRust.accepting_carries hsend haddr Process.sampleConfig _ hapart (hs ▸ hl) hkey rfl
    ⟨.inr rfl, .inr rfl, .inr rfl, .inr rfl, .inr rfl⟩
  obtain rfl : call = .notify 1 1 0x8001 [1, 2] true := by
    cases hsender
    exact (List.cons.inj hcalls).1.symm
  have harrives : (VsomeipCall.notify 1 1 0x8001 [1, 2] true).Arrives
      { Process.sampleEvent with payload := some [1, 2] } := .notify rfl rfl rfl rfl
  obtain ⟨app, fn, -, -, -, hdelivered⟩ := harrival _ harrives rfl
  obtain ⟨umsg', p', hcall, hpayload⟩ := (hdelivered (.sample 2) .none (by simp [Interference.none, Interference.all])).1
    (.notification rfl rfl rfl rfl)
  exact ⟨_, _, p', sender, _, calls, fn, umsg', rfl, hsend, hsender, hcalls, harrives, hcall, hpayload⟩

end VsomeipTransport
