/-
The session counter kept for each client against the numbering of vsomeip.

`umsgRequestToVsomeipMessage` stores a request under the session it expects,
vsomeip numbers the request when it is sent. Both counters start at 1 and
move on by one for each request, and differ in what follows 65535: vsomeip
skips 0, the transport's counter panics in a build with overflow checks and
comes to 0 in one without. `Counters n` says where both are after `n`
requests; a run is in step as long as no more than 65535 requests were sent
(`request_ids_agree_iff`), and the next one is stored under the wrong id
(`Counters.drift`).
-/
import VsomeipTransport.CorrelationFacts
import VsomeipTransport.Transport
import VsomeipTransport.TransportEngineFacts

namespace VsomeipTransport

open UMessageToVsomeipMessage VsomeipMessageToUMessage

/-- A request with all its conversion needs. -/
def UMessage.isCorrelated (umsg : UMessage) : Bool :=
  umsg.attrs.type.enumValueOr .unspecified == .request &&
    (umsg.attrs.source.isSome && umsg.attrs.sink.isSome && umsg.attrs.id.isSome)

theorem UMessage.isCorrelated_iff (umsg : UMessage) :
    umsg.isCorrelated = true ↔ umsg.attrs.type.enumValueOr .unspecified = .request ∧
      ∃ id source sink, umsg.IsRequestOf id source sink := by
  simp only [isCorrelated, Bool.and_eq_true, beq_iff_eq, Option.isSome_iff_exists]
  constructor
  · intro hgiven
    obtain ⟨ht, ⟨⟨source, hs⟩, ⟨sink, hk⟩⟩, id, hi⟩ := hgiven
    exact ⟨ht, id, source, sink, hs, hk, hi⟩
  · intro hgiven
    obtain ⟨ht, id, source, sink, hr⟩ := hgiven
    exact ⟨ht, ⟨⟨source, hr.source⟩, ⟨sink, hr.sink⟩⟩, id, hr.id⟩

/-! ## One send -/

section Send

variable {d : Deps} {umsg : UMessage} {rpc rpc' : InMemoryRpcCorrelationRegistry}
  {offered offered' : InMemoryVsomeipOfferedRequestedRegistry} {app app' : VsomeipApplication}
  {res : Outcome (Except UStatus Unit)}

/-- The counters and the stored requests are as before, and no request went
out. -/
structure Quiet (rpc rpc' : InMemoryRpcCorrelationRegistry) (app app' : VsomeipApplication) : Prop where
  stored : rpc'.ueRequestCorrelation = rpc.ueRequestCorrelation
  tracking : rpc'.clientIdSessionIdTracking = rpc.clientIdSessionIdTracking
  client : app'.client = app.client
  session : app'.session = app.session
  silent : ∀ m : VsomeipMessage, m.messageType = .request → app'.calls ≠ .send m :: app.calls

theorem Quiet.refl : Quiet rpc rpc app app := ⟨rfl, rfl, rfl, rfl, fun _ _ h => List.cons_ne_self _ _ h.symm⟩

/-- Anything but a request that can be correlated leaves the counters alone. -/
theorem sendInternal_other (hc : umsg.isCorrelated = false)
    (h : sendInternal d umsg rpc offered app = (res, rpc', offered', app')) :
    (∃ r, res = .returned r) ∧ Quiet rpc rpc' app app' := by
  unfold sendInternal at h
  split at h
  · cases h; exact ⟨⟨_, rfl⟩, .refl⟩
  · cases h; exact ⟨⟨_, rfl⟩, .refl⟩
  · next =>
    obtain ⟨hclient, hsession, -⟩ := umsgPublishToVsomeipNotification_app umsg offered app
    split at h
    · next hp =>
      -- A publish without a source is refused before anything is offered.
      cases h
      simp only [umsgPublishToVsomeipNotification] at hp
      split at hp
      · cases hp; exact ⟨⟨_, rfl⟩, .refl⟩
      · split at hp <;> simp at hp
    · next hp =>
      rw [hp] at hclient hsession
      cases h
      exact ⟨⟨_, rfl⟩, rfl, rfl, hclient, hsession, fun m _ he => by simp at he⟩
  · next ht =>
    have hno : ∀ id source sink, ¬ umsg.IsRequestOf id source sink := by
      intro id source sink hr
      have hyes := (UMessage.isCorrelated_iff umsg).2 ⟨ht, id, source, sink, hr⟩
      rw [hc] at hyes
      cases hyes
    cases hconv : umsgRequestToVsomeipMessage d.up d.rt d.checks umsg rpc app with
    | mk r rpc₁ =>
    rw [hconv] at h
    rcases umsgRequestToVsomeipMessage_cases hconv with ⟨_, rfl, rfl, -⟩ | ⟨id, source, sink, hr, -⟩
    · cases h; exact ⟨⟨_, rfl⟩, .refl⟩
    · exact absurd hr (hno id source sink)
  · next =>
    cases hconv : umsgResponseToVsomeipMessage d.up d.rt umsg rpc with
    | mk r rpc₁ =>
    rw [hconv] at h
    rcases umsgResponseToVsomeipMessage_cases hconv with ⟨_, rfl, rfl, -⟩ | ⟨m, _, _, _, rfl, -, -, -, -, hm, rfl⟩
    · cases h; exact ⟨⟨_, rfl⟩, .refl⟩
    · cases h
      rw [VsomeipApplication.send_other app (by exact hm)]
      refine ⟨⟨_, rfl⟩, rfl, rfl, rfl, rfl, fun m' hm' he => ?_⟩
      simp only [VsomeipApplication.call_calls, List.cons.injEq, VsomeipCall.send.injEq, and_true] at he
      rw [← he] at hm'
      exact hm hm'

/-- A request that can be correlated takes a session; if its request id is
vacant, it is stored there and sent. -/
theorem sendInternal_request (hrt : d.rt.MakesRequests) (hc : umsg.isCorrelated = true)
    (h : sendInternal d umsg rpc offered app = (res, rpc', offered', app')) :
    (∃ msg, res = .panicked msg ∧ rpc.retrieveSessionId d.checks app.client = (.panicked msg, rpc') ∧ app' = app) ∨
    ∃ s rpc₁, rpc.retrieveSessionId d.checks app.client = (.returned s, rpc₁) ∧
      ((∃ e entry, res = .returned (.error e) ∧
          rpc.ueRequestCorrelation (createRequestId app.client s) = some entry) ∨
        ∃ m id source, res = .returned (.ok ()) ∧ rpc.ueRequestCorrelation (createRequestId app.client s) = none ∧
          umsg.attrs.id = some id ∧ umsg.attrs.source = some source ∧
          rpc' = { rpc₁ with ueRequestCorrelation :=
            rpc.ueRequestCorrelation.insert (createRequestId app.client s) (id, source) } ∧
          m.messageType = .request ∧ app' = app.send m) := by
  obtain ⟨ht, id, source, sink, hr⟩ := (UMessage.isCorrelated_iff umsg).1 hc
  unfold sendInternal at h
  simp only [ht] at h
  cases hconv : umsgRequestToVsomeipMessage d.up d.rt d.checks umsg rpc app with
  | mk r rpc₁ =>
  rw [hconv] at h
  rcases umsgRequestToVsomeipMessage_cases hconv with ⟨_, -, -, hno⟩ | ⟨id', source', sink', hr', hcases⟩
  · exact absurd hr (hno id source sink)
  rcases hcases with ⟨msg, rfl, hret⟩ | ⟨s, rpc₂, hret, ⟨e, entry, rfl, hk, -⟩ | ⟨m, rfl, hm, hk, rfl⟩⟩
  · cases h; exact .inl ⟨msg, rfl, hret, rfl⟩
  · cases h; exact .inr ⟨s, rpc₂, hret, .inl ⟨e, entry, rfl, hk⟩⟩
  · cases h
    have hsent : m.messageType = .request := hm.trans hrt
    refine .inr ⟨s, rpc₂, hret, .inr ?_⟩
    exact ⟨{ m with payload := some (setDataSafe (umsg.payload.getD [])) }, id', source', rfl, hk, hr'.id, hr'.source,
      rfl, hsent, rfl⟩

end Send

/-! ## A run of sends and inbound messages -/

inductive Traffic
  | send (umsg : UMessage)
  | inbound (m : VsomeipMessage) (id : UUID)

inductive TrafficAnswer
  | asked (answer : Engine.Answer)
  | converted (res : Except UStatus UMessage)

def Traffic.isRequest : Traffic → Bool
  | .send umsg => umsg.isCorrelated
  | .inbound _ _ => false

theorem Traffic.send_of_isRequest {t : Traffic} (ht : t.isRequest = true) :
    ∃ umsg, t = .send umsg ∧ umsg.isCorrelated = true := by
  cases t with
  | send umsg => exact ⟨umsg, rfl, ht⟩
  | inbound m id => cases ht

namespace ConversionEnv

/-- A send that is answered in time, or a message vsomeip hands in. -/
def carry (env : ConversionEnv) (e : Engine) : Traffic → Engine × TrafficAnswer
  | .send umsg =>
    let (answer, e) := e.ask env.toDeps (.send umsg) true
    (e, .asked answer)
  | .inbound m id =>
    let (res, rpc) := convertVsomeipMsgToUmsg env.up env.authorityName env.selfUuri env.mechatronicsAuthorityName id
      m e.state.rpcCorrelation
    ({ e with state := { e.state with rpcCorrelation := rpc } }, .converted res)

/-- Sending `umsg` hands the request `m` to vsomeip, as it goes out. -/
def HandsOver (env : ConversionEnv) (e : Engine) (umsg : UMessage) (m : VsomeipMessage) : Prop :=
  m.messageType = .request ∧ ∃ app app', e.state.application = some app ∧
    (env.carry e (.send umsg)).1.state.application = some app' ∧ app'.calls = .send m :: app.calls

/-- Sending `umsg` stores its id and source under `k`. -/
def StoresUnder (env : ConversionEnv) (e : Engine) (umsg : UMessage) (k : SomeIpRequestId) : Prop :=
  e.state.rpcCorrelation.ueRequestCorrelation k = none ∧
  ∃ id source, umsg.attrs.id = some id ∧ umsg.attrs.source = some source ∧
    (env.carry e (.send umsg)).1.state.rpcCorrelation.ueRequestCorrelation k = some (id, source)

/-- A request that is handed over goes out under the request id it is stored
under. -/
def RequestIdAgrees (env : ConversionEnv) (e : Engine) : Traffic → Prop
  | .send umsg => ∀ m, HandsOver env e umsg m → StoresUnder env e umsg m.getRequest
  | .inbound _ _ => True

/-- Where both counters are after `n` requests of client `c`. -/
structure Counters (env : ConversionEnv) (c : ClientId) (n : ℕ) (e : Engine) : Prop where
  running : e.running = true
  queue : e.queue = []
  atMost : n ≤ 65535
  checked : env.checks = true → n < 65535
  application : ∃ app, e.state.application = some app ∧ app.client = c ∧ app.session.toNat = n % 65535 + 1
  unpoisoned : e.state.rpcCorrelation.clientIdSessionIdTracking.poisoned = false
  tracking : ((e.state.rpcCorrelation.clientIdSessionIdTracking.data c).getD 1).toNat = (n + 1) % 65536
  stored : ∀ k entry, e.state.rpcCorrelation.ueRequestCorrelation k = some entry →
    ∃ s : SessionId, 0 < s.toNat ∧ s.toNat ≤ n ∧ k = createRequestId c s

variable {env : ConversionEnv} {c : ClientId} {n : ℕ} {e : Engine} {umsg : UMessage}

theorem Counters.started (env : ConversionEnv) (config : TransportConfig) (client : ClientId) :
    Counters env client 0 (.started config client) where
  running := rfl
  queue := rfl
  atMost := by omega
  checked := by omega
  application := ⟨_, rfl, rfl, rfl⟩
  unpoisoned := rfl
  tracking := rfl
  stored := by intro k entry h; cases h

/-- What a send does, once it is the engine's turn. -/
theorem Counters.carry_send (h : Counters env c n e) {app : VsomeipApplication}
    (happ : e.state.application = some app) {res rpc offered app'}
    (hsend : sendInternal env.toDeps umsg e.state.rpcCorrelation e.state.vsomeipOfferedRequested app =
      (res, rpc, offered, app')) :
    (env.carry e (.send umsg)).1 = ⟨{ e.state with
      application := some app', rpcCorrelation := rpc, vsomeipOfferedRequested := offered }, !res.isPanic, []⟩ := by
  have hp : processCommand env.toDeps e.state (.send umsg) = (res, { e.state with
      application := some app', rpcCorrelation := rpc, vsomeipOfferedRequested := offered }) := by
    simp only [processCommand, happ, hsend]
  simp only [carry, Engine.ask, h.running, h.queue, Engine.serve, hp]
  cases res <;> rfl

/-- Everything but a request keeps the counters, and hands no request over. -/
theorem Counters.other (h : Counters env c n e) (hc : umsg.isCorrelated = false) :
    Counters env c n (env.carry e (.send umsg)).1 ∧ RequestIdAgrees env e (.send umsg) := by
  obtain ⟨app, happ, hclient, hsession⟩ := h.application
  cases hsend : sendInternal env.toDeps umsg e.state.rpcCorrelation e.state.vsomeipOfferedRequested app with
  | mk res rest =>
  obtain ⟨rpc, offered, app'⟩ := rest
  obtain ⟨⟨r, rfl⟩, hq⟩ := sendInternal_other hc hsend
  have he := h.carry_send happ hsend
  refine ⟨?_, fun m hover => ?_⟩
  · rw [he]
    have hclient' : app'.client = c := hq.client.trans hclient
    have hsession' : app'.session.toNat = n % 65535 + 1 := by rw [hq.session, hsession]
    exact ⟨rfl, rfl, h.atMost, h.checked, ⟨app', rfl, hclient', hsession'⟩, hq.tracking ▸ h.unpoisoned,
      hq.tracking ▸ h.tracking, hq.stored ▸ h.stored⟩
  · obtain ⟨hm, app₀, app₁, h₀, h₁, hcalls⟩ := hover
    rw [he] at h₁
    cases h₀.symm.trans happ
    cases h₁
    exact absurd hcalls (hq.silent m hm)

/-- An inbound message only ever takes stored requests away. -/
theorem Counters.inbound (h : Counters env c n e) (m : VsomeipMessage) (id : UUID) :
    Counters env c n (env.carry e (.inbound m id)).1 := by
  cases hconv : convertVsomeipMsgToUmsg env.up env.authorityName env.selfUuri env.mechatronicsAuthorityName id m
    e.state.rpcCorrelation with
  | mk res rpc =>
  have hframe : rpc.clientIdSessionIdTracking = e.state.rpcCorrelation.clientIdSessionIdTracking ∧
      ∀ k entry, rpc.ueRequestCorrelation k = some entry →
        e.state.rpcCorrelation.ueRequestCorrelation k = some entry := by
    rcases convertVsomeipMsgToUmsg_cases hconv with
      ⟨_, _, _, _, -, -, -, -, rfl⟩ | ⟨_, _, _, _, -, -, rfl, -⟩ | ⟨_, _, _, -, rfl, -⟩ | ⟨_, -, rfl⟩
    · exact ⟨rfl, fun _ _ hk => hk⟩
    · refine ⟨rfl, fun k entry hk => ?_⟩
      simp only [PartialMap.remove_apply] at hk
      split at hk
      · cases hk
      · exact hk
    · exact ⟨rfl, fun _ _ hk => hk⟩
    · exact ⟨rfl, fun _ _ hk => hk⟩
  obtain ⟨htracking, hstored⟩ := hframe
  simp only [carry, hconv]
  exact ⟨h.running, h.queue, h.atMost, h.checked, h.application, htracking ▸ h.unpoisoned, htracking ▸ h.tracking,
    fun k entry hk => h.stored k entry (hstored k entry hk)⟩

/-- Only a build that checks for overflow can panic. -/
theorem Counters.checks_of_panicked (h : Counters env c n e) {msg : String} {rpc : InMemoryRpcCorrelationRegistry}
    (hret : e.state.rpcCorrelation.retrieveSessionId env.checks c = (.panicked msg, rpc)) : env.checks = true := by
  rcases (InMemoryRpcCorrelationRegistry.retrieveSessionId_panicked hret).2 with hp | ⟨hchecks, -⟩
  · rw [h.unpoisoned] at hp
    cases hp
  · exact hchecks

/-- The request ids in use belong to earlier sessions. -/
theorem Counters.vacant (h : Counters env c n e) {s : SessionId} (hs : s.toNat = 0 ∨ n < s.toNat)
    {entry : UUID × UUri} : e.state.rpcCorrelation.ueRequestCorrelation (createRequestId c s) ≠ some entry := by
  intro hk
  obtain ⟨s', hpos, hle, heq⟩ := h.stored _ _ hk
  have hsame : s' = s := (createRequestId_inj heq).2.symm
  rw [hsame] at hpos hle
  omega

/-- The request that goes out carries the application's numbers. -/
theorem handsOver_getRequest {m m' : VsomeipMessage} {app : VsomeipApplication} (hm : m.messageType = .request)
    (h : (app.send m).calls = .send m' :: app.calls) : m'.getRequest = createRequestId app.client app.session := by
  rw [(app.send_request hm).2, List.cons.injEq, VsomeipCall.send.injEq] at h
  rw [← h.1]
  rfl

/-- **One of the first 65535 requests is in step**: it goes out under the
request id it is stored under and moves both counters on, or it is the last
one of a build with overflow checks, and panics. -/
theorem Counters.request (h : Counters env c n e) (hrt : env.rt.MakesRequests) (hlt : n < 65535)
    (hc : umsg.isCorrelated = true) :
    RequestIdAgrees env e (.send umsg) ∧
    (Counters env c (n + 1) (env.carry e (.send umsg)).1 ∨
      (env.checks = true ∧ (env.carry e (.send umsg)).1.running = false)) := by
  obtain ⟨app, happ, rfl, hsession⟩ := h.application
  have htracking := h.tracking
  cases hsend : sendInternal env.toDeps umsg e.state.rpcCorrelation e.state.vsomeipOfferedRequested app with
  | mk res rest =>
  obtain ⟨rpc, offered, app'⟩ := rest
  have he := h.carry_send happ hsend
  rcases sendInternal_request hrt hc hsend with ⟨msg, rfl, hret, rfl⟩ | ⟨s, rpc₁, hret, hcases⟩
  · refine ⟨fun m hover => ?_, .inr ⟨?_, by rw [he]; rfl⟩⟩
    · obtain ⟨_, app₀, app₁, h₀, h₁, hcalls⟩ := hover
      rw [he] at h₁
      cases h₀.symm.trans happ
      cases h₁
      exact absurd hcalls.symm (List.cons_ne_self _ _)
    · exact h.checks_of_panicked hret
  obtain ⟨-, hs, hlast, rfl⟩ := InMemoryRpcCorrelationRegistry.retrieveSessionId_returned hret
  rw [← hs, Nat.mod_eq_of_lt (by omega)] at htracking
  rcases hcases with ⟨_, entry, -, hk⟩ | ⟨m, id, source, rfl, hk, hid, hsource, rfl, hm, rfl⟩
  · exact absurd hk (h.vacant (.inr (by omega)))
  have heq : app.session = s := UInt16.toNat_inj.1 (by rw [hsession, htracking, Nat.mod_eq_of_lt hlt])
  have hentry : (env.carry e (.send umsg)).1.state.rpcCorrelation.ueRequestCorrelation
      (createRequestId app.client s) = some (id, source) := by
    rw [he]
    exact PartialMap.insert_self _ _ _
  refine ⟨fun m' hover => ?_, .inl ?_⟩
  · obtain ⟨_, app₀, app₁, h₀, h₁, hcalls⟩ := hover
    rw [he] at h₁
    cases h₀.symm.trans happ
    cases h₁
    rw [handsOver_getRequest hm hcalls, heq]
    exact ⟨hk, id, source, hid, hsource, hentry⟩
  · rw [he]
    have hnext : (app.send m).session.toNat = (n + 1) % 65535 + 1 := by
      rw [(app.send_request hm).1]
      exact nextSession_toNat hsession
    refine ⟨rfl, rfl, hlt, fun hchecks => ?_, ⟨_, rfl, VsomeipApplication.send_client app m, hnext⟩, rfl, ?_,
      fun k entry hk' => ?_⟩
    · have hne : s.toNat ≠ 65535 := fun hs' => hlast hchecks (UInt16.toNat_inj.1 hs')
      omega
    · simp only [PartialMap.insert_self, Option.getD_some, UInt16.toNat_add, htracking]
      rfl
    · simp only [PartialMap.insert_apply] at hk'
      split at hk'
      · next hk₀ => exact ⟨s, by omega, by omega, hk₀⟩
      · obtain ⟨s', hpos, hle, hk₀⟩ := h.stored k entry hk'
        exact ⟨s', hpos, by omega, hk₀⟩

/-- **Without overflow checks, request 65536 goes out of step**: it is stored
under session 0, and vsomeip gives it session 1. -/
theorem Counters.drift (h : Counters env c 65535 e) (hrt : env.rt.MakesRequests) (hc : umsg.isCorrelated = true) :
    ∃ m, HandsOver env e umsg m ∧ m.getRequest = createRequestId c 1 ∧ StoresUnder env e umsg (createRequestId c 0) ∧
      ¬ StoresUnder env e umsg (createRequestId c 1) := by
  obtain ⟨app, happ, rfl, hsession⟩ := h.application
  have htracking := h.tracking
  have hchecks : env.checks ≠ true := fun hchecks => absurd (h.checked hchecks) (by omega)
  cases hsend : sendInternal env.toDeps umsg e.state.rpcCorrelation e.state.vsomeipOfferedRequested app with
  | mk res rest =>
  obtain ⟨rpc, offered, app'⟩ := rest
  have he := h.carry_send happ hsend
  rcases sendInternal_request hrt hc hsend with ⟨_, -, hret, -⟩ | ⟨s, rpc₁, hret, hcases⟩
  · exact absurd (h.checks_of_panicked hret) hchecks
  obtain ⟨-, hs, -, rfl⟩ := InMemoryRpcCorrelationRegistry.retrieveSessionId_returned hret
  obtain rfl : s = 0 := UInt16.toNat_inj.1 (by rw [hs, htracking]; rfl)
  rcases hcases with ⟨_, entry, -, hk⟩ | ⟨m, id, source, rfl, hk, hid, hsource, rfl, hm, rfl⟩
  · exact absurd hk (h.vacant (.inl rfl))
  have hone : app.session = 1 := UInt16.toNat_inj.1 (by rw [hsession]; rfl)
  have hcalls := (app.send_request hm).2
  have hentry : (env.carry e (.send umsg)).1.state.rpcCorrelation.ueRequestCorrelation
      (createRequestId app.client 0) = some (id, source) := by
    rw [he]
    exact PartialMap.insert_self _ _ _
  refine ⟨{ m with client := app.client, session := app.session }, ⟨hm, app, _, happ, by rw [he], hcalls⟩, ?_, ?_, ?_⟩
  · rw [handsOver_getRequest hm hcalls, hone]
  · exact ⟨hk, id, source, hid, hsource, hentry⟩
  · intro hgiven
    obtain ⟨hvacant, id', source', -, -, hafter⟩ := hgiven
    rw [he] at hafter
    have hne : createRequestId app.client 1 ≠ createRequestId app.client 0 :=
      fun heq => absurd (createRequestId_inj heq).2 (by decide)
    simp only [PartialMap.insert_of_ne hne] at hafter
    rw [hvacant] at hafter
    cases hafter

/-! ## Runs -/

/-- A stopped engine hands nothing over, and stays stopped. -/
theorem carry_stopped (hstop : e.running = false) (t : Traffic) :
    RequestIdAgrees env e t ∧ (env.carry e t).1.running = false := by
  cases t with
  | send umsg =>
    have he : (env.carry e (.send umsg)).1 = e := by simp [carry, Engine.ask, hstop]
    refine ⟨fun m hover => ?_, by rw [he]; exact hstop⟩
    obtain ⟨_, app, app', h, h', hcalls⟩ := hover
    rw [he, h] at h'
    cases h'
    exact absurd hcalls.symm (List.cons_ne_self _ _)
  | inbound m id => exact ⟨trivial, hstop⟩

theorem agree_of_stopped (hstop : e.running = false) (run : List Traffic) :
    Runs.Guarded env.carry (RequestIdAgrees env) e run := by
  induction run generalizing e with
  | nil => trivial
  | cons t run ih => exact ⟨(carry_stopped hstop t).1, ih (carry_stopped hstop t).2⟩

/-- Nothing but a request moves the counters. -/
theorem Counters.keep (h : Counters env c n e) {t : Traffic} (ht : t.isRequest = false) :
    RequestIdAgrees env e t ∧ Counters env c n (env.carry e t).1 := by
  cases t with
  | send umsg => exact (h.other ht).symm
  | inbound m id => exact ⟨trivial, h.inbound m id⟩

/-- As long as the requests stay within 65535, or the build checks for
overflow, every one of them agrees. -/
theorem Counters.agree (h : Counters env c n e) (hrt : env.rt.MakesRequests) (run : List Traffic)
    (hb : env.checks = true ∨ n + run.countP Traffic.isRequest ≤ 65535) :
    Runs.Guarded env.carry (RequestIdAgrees env) e run := by
  induction run generalizing e n with
  | nil => trivial
  | cons t run ih =>
    cases ht : t.isRequest with
    | false =>
      rw [List.countP_cons_of_neg (by simp [ht])] at hb
      obtain ⟨hagree, hkeep⟩ := h.keep ht
      exact ⟨hagree, ih hkeep hb⟩
    | true =>
      rw [List.countP_cons_of_pos ht] at hb
      obtain ⟨umsg, rfl, hc⟩ := Traffic.send_of_isRequest ht
      have hlt : n < 65535 := hb.elim h.checked (fun hb => by omega)
      obtain ⟨hagree, hnext | ⟨-, hstop⟩⟩ := h.request hrt hlt hc
      · exact ⟨hagree, ih hnext (hb.imp_right fun hb => by omega)⟩
      · exact ⟨hagree, agree_of_stopped hstop run⟩

/-- Without overflow checks, a longer run reaches the request that does not
agree. -/
theorem Counters.disagree (h : Counters env c n e) (hrt : env.rt.MakesRequests) (hchecks : env.checks = false)
    (run : List Traffic) (hb : 65535 < n + run.countP Traffic.isRequest) :
    ¬ Runs.Guarded env.carry (RequestIdAgrees env) e run := by
  induction run generalizing e n with
  | nil =>
    have hatMost := h.atMost
    simp only [List.countP_nil] at hb
    omega
  | cons t run ih =>
    intro hgiven
    obtain ⟨hagree, hrun⟩ := hgiven
    cases ht : t.isRequest with
    | false =>
      rw [List.countP_cons_of_neg (by simp [ht])] at hb
      exact ih (h.keep ht).2 hb hrun
    | true =>
      rw [List.countP_cons_of_pos ht] at hb
      obtain ⟨umsg, rfl, hc⟩ := Traffic.send_of_isRequest ht
      rcases Nat.lt_or_ge n 65535 with hlt | hge
      · obtain ⟨-, hnext | ⟨hpanic, -⟩⟩ := h.request hrt hlt hc
        · exact ih hnext (by omega) hrun
        · rw [hchecks] at hpanic; cases hpanic
      · obtain rfl : n = 65535 := Nat.le_antisymm h.atMost hge
        obtain ⟨m, hhands, hwire, -, hnot⟩ := h.drift hrt hc
        exact hnot (hwire ▸ hagree m hhands)

/-- **Every request agrees with the wire exactly if the build checks for
overflow or no more than 65535 requests are sent.** -/
theorem request_ids_agree_iff (env : ConversionEnv) (hrt : env.rt.MakesRequests) (config : TransportConfig)
    (client : ClientId) (run : List Traffic) :
    Runs.Guarded env.carry (RequestIdAgrees env) (.started config client) run ↔
      env.checks = true ∨ run.countP Traffic.isRequest ≤ 65535 := by
  have h := Counters.started env config client
  constructor
  · intro hg
    by_contra hno
    rw [not_or, Bool.not_eq_true, Nat.not_le] at hno
    exact h.disagree hrt hno.1 run (by omega) hg
  · intro hb
    exact h.agree hrt run (hb.imp_right fun hb => by omega)

def sampleTransport : TransportConfig where
  appName := "client"
  uri := (sampleEnv false).selfUuri
  remoteAuthority := "remote"
  services := none

theorem request_ids_agree_iff_sample :
    Runs.Guarded (sampleEnv false).carry (RequestIdAgrees (sampleEnv false)) (.started sampleTransport 7)
      [.send sampleRequest, .inbound sampleResponse (.sample 2), .send sampleRequest] :=
  (request_ids_agree_iff (sampleEnv false) rfl sampleTransport 7 _).2 (.inr (by decide))

/-- The request after the first 65535, all answered or not. -/
theorem request_65536_disagrees :
    ¬ Runs.Guarded (sampleEnv false).carry (RequestIdAgrees (sampleEnv false)) (.started sampleTransport 7)
      (List.replicate 65536 (.send sampleRequest)) := by
  refine (Counters.started (sampleEnv false) sampleTransport 7).disagree rfl rfl _ ?_
  rw [List.countP_replicate, if_pos (by decide)]
  omega

end ConversionEnv

end VsomeipTransport
