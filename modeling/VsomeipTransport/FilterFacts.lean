/-
Which of the messages handed to a listener match its filters.

Nothing compares a message with the filters when it is delivered: vsomeip
compared its service and method with the triple, which is 16 bits of two
fields of one filter, and the conversion rebuilds the `UUri`s from the
message and the configuration of the transport. `delivered_matches_iff` says
exactly what else the filters have to say for the message to match.

The authorities are the configured ones as `try_from_parts` writes them
(`canonical`).
-/
import VsomeipTransport.SharedExternFnFacts

namespace VsomeipTransport

/-- `UUri::matches`, field by field: a wildcard takes any value. -/
structure UUri.Matches (up : UpRust) (pattern candidate : UUri) : Prop where
  authority : up.hasWildcardAuthority pattern = true ∨ pattern.authorityName = candidate.authorityName
  entityType : up.hasWildcardEntityType pattern = true ∨ pattern.ueId % 0x10000 = candidate.ueId % 0x10000
  entityInstance : up.hasWildcardEntityInstance pattern = true ∨ pattern.ueId / 0x10000 = candidate.ueId / 0x10000
  version : up.hasWildcardVersion pattern = true ∨ pattern.ueVersionMajor = candidate.ueVersionMajor
  resourceId : up.hasWildcardResourceId pattern = true ∨ pattern.resourceId = candidate.resourceId

/-- The message matches the filters it was registered for. -/
def UMessage.MatchesFilters {L : Type} (up : UpRust) (umsg : UMessage) (cfg : ListenerConfig L) : Prop :=
  (∃ source, umsg.attrs.source = some source ∧ cfg.sourceFilter.Matches up source) ∧
  ∀ filter, cfg.sinkFilter = some filter → ∃ sink, umsg.attrs.sink = some sink ∧ filter.Matches up sink

/-! ## The `UUri`s of a delivered message -/

/-- The service and method of a message, as a `UUri` at `authority`. -/
def VsomeipMessage.methodUUri (m : VsomeipMessage) (authority : AuthorityName) (version : UInt8) : UUri :=
  ⟨authority, m.service.toUInt32, version.toUInt32, m.method.toUInt32⟩

/-- Events have no version of their own. -/
def VsomeipMessage.version (m : VsomeipMessage) : UInt8 :=
  if m.messageType = .notification then 1 else m.interfaceVersion

namespace TransportConfig

/-- The source a message gets from a transport with this configuration. -/
def sourceOf (canonical : String → String) (config : TransportConfig) (m : VsomeipMessage) : UUri :=
  if m.messageType = .request then
    ⟨canonical config.remoteAuthority, m.client.toUInt32, config.uri.versionMajor.toUInt32, 0⟩
  else m.methodUUri (canonical config.remoteAuthority) m.version

/-- Its sink: none for an event, and for a reply the source of the request
it answers. -/
def sinkOf (canonical : String → String) (config : TransportConfig) (m : VsomeipMessage)
    (request : Option (UUID × UUri)) : Option UUri :=
  if m.messageType = .request then some (m.methodUUri (canonical config.uri.uri.authorityName) m.interfaceVersion)
  else if m.IsReply then request.map (·.2)
  else none

end TransportConfig

section Converted

variable {T L : Type} {d : Deps} {canonical : String → String} {p : Process T L} {t : T} {c : Callback}
  {umsg : UMessage}

/-- What a message that converts says of where it comes from and goes to. -/
theorem Process.convertFor_addresses (hparts : d.up.UriParts canonical) (hup : d.up.Carries)
    (h : (p.convertFor d t c).1 = .ok umsg) :
    umsg.attrs.source = some ((p.transports t).config.sourceOf canonical c.vsomeipMsg) ∧
    umsg.attrs.sink = (p.transports t).config.sinkOf canonical c.vsomeipMsg
      ((p.rpcCorrelation t).ueRequestCorrelation c.vsomeipMsg.getRequest) := by
  cases hconv : p.convertFor d t c with
  | mk res rpc =>
  rw [hconv] at h
  simp only at h
  subst h
  rcases VsomeipMessageToUMessage.convertVsomeipMsgToUmsg_cases hconv with
    ⟨_, sink, source, r, hok, hb, -⟩ | ⟨payload, source, reqId, sink, hr, hk, -, hres⟩ |
    ⟨_, payload, source, hok, -, hn, -, hs, hbuilt⟩ | ⟨_, he, -⟩
  · cases hok
    obtain ⟨payload, -, hbuilt⟩ := hb.built
    rw [hup.attrs hbuilt, hparts _ _ _ _ _ hb.sinkParts, hparts _ _ _ _ _ hb.sourceParts]
    simp [UMessageBuilder.attributes, TransportConfig.sourceOf, TransportConfig.sinkOf, hb.type,
      VsomeipMessage.methodUUri, UPTransportVsomeip.getLocalAuthority]
  · have hbuilt := VsomeipMessageToUMessage.buildUMessage_ok_iff.1 hres.symm
    have hq : c.vsomeipMsg.messageType ≠ .request ∧ c.vsomeipMsg.messageType ≠ .notification := by
      rcases hr.type with ht | ht <;> simp [ht]
    rw [hup.attrs hbuilt, hparts _ _ _ _ _ hr.sourceParts, hk]
    simp [UMessageBuilder.attributes, TransportConfig.sourceOf, TransportConfig.sinkOf, hq.1, hq.2, hr.type,
      VsomeipMessage.methodUUri, VsomeipMessage.version]
  · cases hok
    rw [hup.attrs hbuilt, hparts _ _ _ _ _ hs]
    simp [UMessageBuilder.attributes, TransportConfig.sourceOf, TransportConfig.sinkOf, hn, VsomeipMessage.IsReply,
      VsomeipMessage.methodUUri, VsomeipMessage.version]
  · cases he

end Converted

/-! ## What the triple leaves open -/

/-- What a filter has to say besides its entity type and resource, to match
the `UUri` made of the service and method it was registered for. -/
structure UUri.FitsMethod (up : UpRust) (filter : UUri) (authority : AuthorityName) (version : UInt8) : Prop where
  authority : up.hasWildcardAuthority filter = true ∨ filter.authorityName = authority
  entityInstance : up.hasWildcardEntityInstance filter = true ∨ filter.ueId / 0x10000 = 0
  version : up.hasWildcardVersion filter = true ∨ filter.ueVersionMajor = version.toUInt32
  resourceId : filter.resourceId.toNat < 65536

/-- The low half of a field that is registered: `ANY`, or the message's own. -/
theorem low_half {value : UInt32} {half any : UInt16}
    (h : (splitU32ToU16 value).2 = half ∨ (splitU32ToU16 value).2 = any) :
    value.toNat % 65536 = half.toNat ∨ value.toNat % 65536 = any.toNat := by
  rw [← splitU32ToU16_snd value]
  exact h.imp (congrArg UInt16.toNat) (congrArg UInt16.toNat)

/-- **The triple leaves four conditions open.** -/
theorem UUri.matches_method_iff {up : UpRust} (hw : up.Wildcards) {filter : UUri} {m : VsomeipMessage}
    {instanceId : InstanceId} (authority : AuthorityName) (version : UInt8)
    (hadm : HandlerKey.Admits ⟨(splitU32ToU16 filter.ueId).2, instanceId, (splitU32ToU16 filter.resourceId).2⟩ m) :
    filter.Matches up (m.methodUUri authority version) ↔ filter.FitsMethod up authority version := by
  have hs := m.service.toNat_lt
  have hm := m.method.toNat_lt
  have hlast : (0xFFFF : UInt16).toNat = 65535 := rfl
  obtain ⟨hadmS, -, hadmM⟩ := hadm
  have htype : up.hasWildcardEntityType filter = true ∨ filter.ueId % 0x10000 = m.service.toUInt32 % 0x10000 := by
    rcases low_half hadmS with h | h
    · refine .inr (UInt32.toNat_inj.1 ?_)
      simp only [UInt32.toNat_mod, UInt16.toNat_toUInt32, UInt32.reduceToNat]
      omega
    · refine .inl ((hw.entityType filter).2 (UInt32.toNat_inj.1 ?_))
      simp only [UInt32.toNat_mod, UInt32.reduceToNat]
      rw [h]
      rfl
  have hinstance : m.service.toUInt32 / 0x10000 = 0 := by
    apply UInt32.toNat_inj.1
    simp only [UInt32.toNat_div, UInt16.toNat_toUInt32, UInt32.reduceToNat]
    omega
  have hresource : (up.hasWildcardResourceId filter = true ∨ filter.resourceId = m.method.toUInt32) ↔
      filter.resourceId.toNat < 65536 := by
    rw [hw.resourceId filter]
    constructor
    · intro hgiven
      rcases hgiven with h | h
      · rw [h]; decide
      · rw [h, UInt16.toNat_toUInt32]; exact hm
    · intro hlt
      rcases low_half hadmM with h | h
      · refine .inr (UInt32.toNat_inj.1 ?_)
        rw [UInt16.toNat_toUInt32]
        omega
      · refine .inl (UInt32.toNat_inj.1 ?_)
        rw [← Nat.mod_eq_of_lt hlt, h]
        rfl
  constructor
  · intro h
    exact ⟨h.authority, hinstance ▸ h.entityInstance, h.version, hresource.1 h.resourceId⟩
  · intro h
    refine ⟨h.authority, htype, ?_, h.version, hresource.2 h.resourceId⟩
    rw [show (m.methodUUri authority version).ueId / 0x10000 = 0 from hinstance]
    exact h.entityInstance

/-! ## Deliveries -/

/-- What the source filter has to say for the source to match. -/
def SourceFits {L : Type} (up : UpRust) (canonical : String → String) (config : TransportConfig)
    (type : RegistrationType) (cfg : ListenerConfig L) (m : VsomeipMessage) : Prop :=
  if type = .request ∨ m.messageType = .request then cfg.sourceFilter.Matches up (config.sourceOf canonical m)
  else cfg.sourceFilter.FitsMethod up (canonical config.remoteAuthority) m.version

/-- What the sink filter has to say, if there is one, for the sink to match. -/
def SinkFits {L : Type} (up : UpRust) (canonical : String → String) (config : TransportConfig)
    (type : RegistrationType) (cfg : ListenerConfig L) (m : VsomeipMessage) (request : Option (UUID × UUri)) : Prop :=
  ∀ filter, cfg.sinkFilter = some filter →
    if type = .request ∧ m.messageType = .request then
      filter.FitsMethod up (canonical config.uri.uri.authorityName) m.interfaceVersion
    else ∃ sink, config.sinkOf canonical m request = some sink ∧ filter.Matches up sink

section Fits

variable {L : Type} {up : UpRust} {canonical : String → String} {config : TransportConfig} {type : RegistrationType}
  {cfg : ListenerConfig L} {m : VsomeipMessage} {key : HandlerKey}

theorem source_matches_iff (hw : up.Wildcards) (hkey : registerKey type cfg.sourceFilter cfg.sinkFilter = some key)
    (hadm : key.Admits m) :
    cfg.sourceFilter.Matches up (config.sourceOf canonical m) ↔ SourceFits up canonical config type cfg m := by
  unfold SourceFits
  split
  · exact Iff.rfl
  · next h =>
    rw [not_or] at h
    rw [TransportConfig.sourceOf, if_neg h.2]
    -- The triple is the source filter's.
    cases type with
    | publish => cases hkey; exact UUri.matches_method_iff hw _ _ hadm
    | request => exact absurd rfl h.1
    | response => cases hkey; exact UUri.matches_method_iff hw _ _ hadm
    | allPointToPoint => simp [registerKey] at hkey

theorem sink_matches_iff (hw : up.Wildcards) (hkey : registerKey type cfg.sourceFilter cfg.sinkFilter = some key)
    (hadm : key.Admits m) (request : Option (UUID × UUri)) :
    (∀ filter, cfg.sinkFilter = some filter →
      ∃ sink, config.sinkOf canonical m request = some sink ∧ filter.Matches up sink) ↔
      SinkFits up canonical config type cfg m request := by
  refine forall_congr' fun filter => imp_congr_right fun hf => ?_
  split
  · next h =>
    obtain ⟨rfl, hq⟩ := h
    rw [hf] at hkey
    cases hkey
    simp only [TransportConfig.sinkOf, if_pos hq, Option.some.injEq, exists_eq_left']
    exact UUri.matches_method_iff hw _ _ hadm
  · exact Iff.rfl

end Fits

variable {T L : Type} [DecidableEq T] [DecidableEq L]

/-- **A message handed to a live configuration's listener matches its filters
exactly if they fit**: what the triple compares is all that is sure. -/
theorem delivered_matches_iff {d : Deps} {canonical : String → String} (hparts : d.up.UriParts canonical)
    (hw : d.up.Wildcards) (hup : d.up.Carries) {p p' : Process T L} (hp : p.handlers.Reachable d.up) {t : T}
    {cfg : ListenerConfig L} {c : Callback} (hb : p.handlers.Bound t c.messageHandlerId cfg)
    {others : Interference T L} (hlive : HandlerOp.release t cfg ∉ others.all) {type : RegistrationType}
    {key : HandlerKey} (hkey : registerKey type cfg.sourceFilter cfg.sinkFilter = some key)
    (hadm : key.Admits c.vsomeipMsg) {listener : L} {umsg : UMessage}
    (hcall : Process.callSharedExternFn d p c others = (.handedOver listener umsg, p')) :
    listener = cfg.listener ∧
    (umsg.MatchesFilters d.up cfg ↔
      SourceFits d.up canonical (p.transports t).config type cfg c.vsomeipMsg ∧
      SinkFits d.up canonical (p.transports t).config type cfg c.vsomeipMsg
        ((p.rpcCorrelation t).ueRequestCorrelation c.vsomeipMsg.getRequest)) := by
  have hs : Process.StorageFound d p c others t := by
    refine (Process.storageFound_iff hp.pool).2 ⟨cfg, .inl ⟨hb, fun hm => hlive ?_⟩⟩
    simp [Interference.all, hm]
  have hl : Process.ListenerFound d p c others t cfg := (Process.listenerFound_iff hp.pool).2 (.inl ⟨hb, hlive⟩)
  rcases Process.callSharedExternFn_cases hcall with ⟨-, hd, -⟩ | ⟨t', res, rpc, hs', hconv, -, hcases⟩
  · cases hd
  obtain rfl := hs.unique hs'
  rcases hcases with ⟨_, -, hd⟩ | ⟨umsg', rfl, ⟨cfg', hl', hd⟩ | ⟨-, hd⟩⟩
  · cases hd
  · cases hd
    obtain rfl : cfg = cfg' := Option.some.inj (hl.symm.trans hl')
    obtain ⟨hsource, hsink⟩ := Process.convertFor_addresses hparts hup (by rw [hconv])
    refine ⟨rfl, ?_⟩
    have hfits : cfg.sourceFilter.Matches d.up ((p.transports t).config.sourceOf canonical c.vsomeipMsg) ↔
        SourceFits d.up canonical (p.transports t).config type cfg c.vsomeipMsg := source_matches_iff hw hkey hadm
    rw [UMessage.MatchesFilters, hsource, hsink, ← hfits, ← sink_matches_iff hw hkey hadm]
    simp only [Option.some.injEq, exists_eq_left']
  · cases hd

theorem delivered_matches_iff_sample :
    let cfg : ListenerConfig Unit := Process.sampleListener ()
    ∃ umsg p', Process.callSharedExternFn .accepting (Process.sampleWith cfg) Process.sampleCallback .none =
      (.handedOver () umsg, p') ∧ umsg.MatchesFilters .accepting cfg := by
  intro cfg
  obtain ⟨umsg, p', -, hcall⟩ := Process.sampleWith_handedOver cfg
  have hkey : registerKey .publish cfg.sourceFilter cfg.sinkFilter = some ⟨1, 1, 0x8001⟩ := by decide
  have hfits := (delivered_matches_iff UpRust.accepting_uriParts UpRust.accepting_wildcards UpRust.accepting_carries
    (Process.sampleWith_reachable cfg) (Process.sampleWith_bound.2 ⟨rfl, rfl, rfl⟩)
    (by simp [Interference.none, Interference.all]) hkey (by decide) hcall).2
  refine ⟨umsg, p', hcall, hfits.2 ⟨?_, fun filter hf => by cases hf⟩⟩
  exact ⟨.inr rfl, .inr (by decide), .inr (by decide), by decide⟩

/-- A listener for the events of one authority hears those of another. -/
theorem delivered_unmatched :
    let cfg : ListenerConfig Unit := ⟨⟨"elsewhere", 1, 1, 0x8001⟩, none, ()⟩
    ∃ (key : HandlerKey) (umsg : UMessage) (p' : Process Unit Unit),
      registerKey .publish cfg.sourceFilter cfg.sinkFilter = some key ∧ key.Admits Process.sampleEvent ∧
      (Process.sampleWith cfg).handlers.Bound () 0 cfg ∧
      Process.callSharedExternFn .accepting (Process.sampleWith cfg) Process.sampleCallback .none =
        (.handedOver () umsg, p') ∧ ¬ umsg.MatchesFilters .accepting cfg := by
  intro cfg
  obtain ⟨umsg, p', hconv, hcall⟩ := Process.sampleWith_handedOver cfg
  refine ⟨⟨1, 1, 0x8001⟩, umsg, p', by decide, by decide, Process.sampleWith_bound.2 ⟨rfl, rfl, rfl⟩, hcall, ?_⟩
  intro hgiven
  obtain ⟨⟨source, hsource, hmatch⟩, -⟩ := hgiven
  have haddresses := Process.convertFor_addresses UpRust.accepting_uriParts UpRust.accepting_carries hconv
  rw [haddresses.1] at hsource
  cases hsource
  rcases hmatch.authority with h | h
  · exact absurd h (by decide)
  · exact absurd h (by decide)

end VsomeipTransport
