/-
What a turn of an engine hands to vsomeip, in a build of either kind and
whatever is in the queue.

`TurnDoes.of_inStep`: as long as the session counters are in step, a turn hands
over a request, stored under the request id it goes out with; or a response,
which takes back the request id stored for it; or nothing. The counters stay in
step, or the engine has stopped for good, until the 65536th request
(`TurnDoes.overflow`).
-/
import VsomeipTransport.RoundTripFacts
import VsomeipTransport.RpcNetwork
import VsomeipTransport.SessionFacts

namespace VsomeipTransport

open UMessageToVsomeipMessage VsomeipMessageToUMessage ConversionEnv

variable {env : ConversionEnv} {c : ClientId} {k : ℕ} {s s' : EngineState} {cmd : TransportCommand}
  {res : Outcome (Except UStatus Unit)} {umsg : UMessage} {rpc rpc' : InMemoryRpcCorrelationRegistry}
  {offered offered' : InMemoryVsomeipOfferedRequestedRegistry} {app app' : VsomeipApplication}

/-- The vsomeip request `q` is the request `umsg`. -/
structure UMessage.SentAs (umsg : UMessage) (q : VsomeipMessage) : Prop where
  type : q.messageType = .request
  payload : q.payload = some (setDataSafe umsg.bytes)
  sink : ∃ sink, umsg.attrs.sink = some sink ∧ q.service = (splitU32ToU16 sink.ueId).2 ∧
    q.method = (splitU32ToU16 sink.resourceId).2 ∧ q.interfaceVersion = (splitU32ToU8 sink.ueVersionMajor).2.2.2

/-- The vsomeip reply `m` is the response `umsg`. -/
structure UMessage.RepliedAs (umsg : UMessage) (m : VsomeipMessage) : Prop where
  reply : m.IsReply
  payload : m.payload = some (setDataSafe umsg.bytes)
  status : m.replyCommStatus = statusArriving umsg.attrs.commstatus

/-- How a send ends, by what it hands to vsomeip. -/
inductive SendEnds (env : ConversionEnv) (umsg : UMessage) (rpc rpc' : InMemoryRpcCorrelationRegistry)
    (app app' : VsomeipApplication) (res : Outcome (Except UStatus Unit)) : Prop
  | request {m : VsomeipMessage} {id : UUID} {source : UUri} {key : SomeIpRequestId} (ok : res = .returned (.ok ()))
      (correlated : umsg.isCorrelated = true) (sends : app' = app.send m)
      (sentAs : umsg.SentAs { m with client := app.client, session := app.session })
      (ident : umsg.attrs.id = some id) (origin : umsg.attrs.source = some source)
      (vacant : rpc.ueRequestCorrelation key = none)
      (stores : rpc'.ueRequestCorrelation = rpc.ueRequestCorrelation.insert key (id, source))
      (received : rpc'.meRequestCorrelation = rpc.meRequestCorrelation)
  | response {m : VsomeipMessage} {r : UUID} (ok : res = .returned (.ok ())) (plain : umsg.isCorrelated = false)
      (sends : app' = app.call (.send m)) (repliedAs : umsg.RepliedAs m) (reqid : umsg.attrs.reqid = some r)
      (answers : rpc.meRequestCorrelation r = some m.getRequest)
      (stored : rpc'.ueRequestCorrelation = rpc.ueRequestCorrelation)
      (takes : rpc'.meRequestCorrelation = rpc.meRequestCorrelation.remove r)
  | quiet (silent : ∀ m calls, app'.calls = .send m :: calls → calls ≠ app.calls)
      (stored : rpc'.ueRequestCorrelation = rpc.ueRequestCorrelation)
      (received : rpc'.meRequestCorrelation = rpc.meRequestCorrelation)

theorem app_silent (m : VsomeipMessage) (calls : List VsomeipCall) (h : app.calls = .send m :: calls) :
    calls ≠ app.calls := by
  intro he
  rw [he] at h
  exact List.cons_ne_self _ _ h.symm

theorem sendInternal_ends (hrt : env.rt.MakesRequests)
    (h : sendInternal env.toDeps umsg rpc offered app = (res, rpc', offered', app')) :
    SendEnds env umsg rpc rpc' app app' res := by
  have hwhole := h
  unfold sendInternal at h
  split at h
  · cases h; exact .quiet app_silent rfl rfl
  · cases h; exact .quiet app_silent rfl rfl
  · next ht =>
    split at h
    · next hp =>
      cases h
      simp only [umsgPublishToVsomeipNotification] at hp
      split at hp
      · cases hp; exact .quiet app_silent rfl rfl
      · split at hp <;> simp at hp
    · cases h
      exact .quiet (fun m calls he => by simp at he) rfl rfl
  · next ht =>
    cases hconv : umsgRequestToVsomeipMessage env.up env.rt env.checks umsg rpc app with
    | mk r rpc₁ =>
    rw [hconv] at h
    rcases umsgRequestToVsomeipMessage_cases hconv with
      ⟨_, rfl, rfl, -⟩ | ⟨id, source, sink, hr, ⟨_, rfl, hret⟩ | ⟨s, rpc₂, hret, ⟨_, _, rfl, -, rfl⟩ |
        ⟨m, rfl, hm, hk, rfl⟩⟩⟩
    · cases h; exact .quiet app_silent rfl rfl
    · cases h
      obtain ⟨hue, hme⟩ := InMemoryRpcCorrelationRegistry.retrieveSessionId_frame hret
      exact .quiet app_silent hue hme
    · cases h
      obtain ⟨hue, hme⟩ := InMemoryRpcCorrelationRegistry.retrieveSessionId_frame hret
      exact .quiet app_silent hue hme
    · cases h
      have htype : m.messageType = .request := hm.trans hrt
      obtain ⟨sink', sent, calls, hsink, hcalls, hsent, hservice, hmethod, hversion, hp⟩ :=
        sendInternal_request_ok hrt ht hwhole
      have hhead := List.head_eq_of_cons_eq (hcalls.symm.trans (app.send_request (by exact htype)).2)
      have hsame := VsomeipCall.send.inj hhead
      rw [hsame] at hsent hservice hmethod hversion hp
      have hcorrelated : umsg.isCorrelated = true := (UMessage.isCorrelated_iff umsg).2 ⟨ht, id, source, sink, hr⟩
      exact .request rfl hcorrelated rfl ⟨hsent, hp, sink', hsink, hservice, hmethod, hversion⟩ hr.id hr.source hk rfl
        (InMemoryRpcCorrelationRegistry.retrieveSessionId_frame hret).2
  · next ht =>
    cases hconv : umsgResponseToVsomeipMessage env.up env.rt umsg rpc with
    | mk r rpc₁ =>
    rw [hconv] at h
    rcases umsgResponseToVsomeipMessage_cases hconv with
      ⟨_, rfl, rfl, -⟩ | ⟨m, source, r, key, rfl, -, hr, hk, hsplit, hm, rfl⟩
    · cases h; exact .quiet app_silent rfl rfl
    · cases h
      obtain ⟨_, sent, calls, -, hcalls, htype, hcode, -, -, -, hp⟩ := sendInternal_response_ok ht hwhole
      rw [app.send_other (by exact hm)] at hcalls
      have hhead := List.head_eq_of_cons_eq hcalls.symm
      have hsame := VsomeipCall.send.inj hhead
      rw [hsame] at htype hcode hp
      obtain ⟨hreply, hstatus⟩ := replyCommStatus_sent htype hcode
      have hplain : umsg.isCorrelated = false := by simp [UMessage.isCorrelated, ht]
      refine .response rfl hplain (app.send_other (by exact hm)) ⟨hreply, hp, hstatus⟩ hr ?_ rfl rfl
      have hclient : m.client = (splitU32ToU16 key).1 := congrArg Prod.fst hsplit
      have hsession : m.session = (splitU32ToU16 key).2 := congrArg Prod.snd hsplit
      have hkey : createRequestId m.client m.session = key := by rw [hclient, hsession, createRequestId_split]
      rw [hk]
      exact congrArg some hkey.symm

/-- Both counters are in step after `k` requests, or no request goes out any
more: the engine has stopped or its application is gone. -/
inductive InStep (env : ConversionEnv) (c : ClientId) (k : ℕ) (e : Engine) : Prop
  | counting (counters : Counters env c k ⟨e.state, true, []⟩)
  | silent (off : e.running = false ∨ e.state.application = none)

/-- What a turn does. -/
inductive TurnDoes (env : ConversionEnv) (c : ClientId) (k : ℕ) (e e' : Engine) : Prop
  | request {umsg : UMessage} {cmds : List TransportCommand} {q : VsomeipMessage} {id : UUID} {source : UUri}
      (next : e.queue = .send umsg :: cmds) (hands : e.handedOver e' = some q) (sentAs : umsg.SentAs q)
      (client : q.client = c) (session : q.session.toNat = k + 1) (ident : umsg.attrs.id = some id)
      (origin : umsg.attrs.source = some source)
      (stores : e'.state.rpcCorrelation.ueRequestCorrelation =
        e.state.rpcCorrelation.ueRequestCorrelation.insert q.getRequest (id, source))
      (received : e'.state.rpcCorrelation.meRequestCorrelation = e.state.rpcCorrelation.meRequestCorrelation)
      (inStep : InStep env c (k + 1) e')
  | response {umsg : UMessage} {cmds : List TransportCommand} {m : VsomeipMessage} {r : UUID}
      (next : e.queue = .send umsg :: cmds) (hands : e.handedOver e' = some m) (repliedAs : umsg.RepliedAs m)
      (reqid : umsg.attrs.reqid = some r)
      (answers : e.state.rpcCorrelation.meRequestCorrelation r = some m.getRequest)
      (stored : e'.state.rpcCorrelation.ueRequestCorrelation = e.state.rpcCorrelation.ueRequestCorrelation)
      (takes : e'.state.rpcCorrelation.meRequestCorrelation = e.state.rpcCorrelation.meRequestCorrelation.remove r)
      (inStep : InStep env c k e')
  | quiet (silent : ∀ umsg cmds, e.queue = .send umsg :: cmds → e.handedOver e' = none)
      (stored : e'.state.rpcCorrelation.ueRequestCorrelation = e.state.rpcCorrelation.ueRequestCorrelation)
      (received : e'.state.rpcCorrelation.meRequestCorrelation = e.state.rpcCorrelation.meRequestCorrelation)
      (inStep : InStep env c k e')
  | overflow {umsg : UMessage} {cmds : List TransportCommand} {q : VsomeipMessage} (last : k = 65535)
      (next : e.queue = .send umsg :: cmds) (hands : e.handedOver e' = some q) (type : q.messageType = .request)

variable {e e' : Engine}

theorem handedOver_eq (happ : e.state.application = some app) (happ' : e'.state.application = some app')
    {m : VsomeipMessage} : e.handedOver e' = some m ↔ app'.calls = .send m :: app.calls := by
  simp only [Engine.handedOver, happ, happ']
  constructor
  · intro h
    split at h
    · next hc =>
      split at h
      · next hcalls => rw [hc, hcalls, Option.some.inj h]
      · cases h
    · cases h
  · intro h
    simp [h]

/-- Nothing is handed over that is not the newest call. -/
theorem handedOver_none (happ : e.state.application = some app)
    (h : ∀ app', e'.state.application = some app' → ∀ m calls, app'.calls = .send m :: calls → calls ≠ app.calls) :
    e.handedOver e' = none := by
  cases happ' : e'.state.application with
  | none => simp [Engine.handedOver, happ, happ']
  | some app' =>
    by_contra hne
    obtain ⟨m, hm⟩ := Option.ne_none_iff_exists'.1 hne
    exact h app' happ' m app.calls ((handedOver_eq happ happ').1 hm) rfl

theorem handedOver_self (e : Engine) : e.handedOver e = none := by
  cases happ : e.state.application with
  | none => simp [Engine.handedOver, happ]
  | some app =>
    refine handedOver_none happ fun app' happ' => ?_
    obtain rfl := Option.some.inj (happ.symm.trans happ')
    exact app_silent

/-- An engine that does nothing more hands nothing over. -/
theorem TurnDoes.of_silent (d : Deps) (h : e.running = false ∨ e.state.application = none) :
    TurnDoes env c k e (e.turn d) := by
  rcases h with hstop | hgone
  · have hsame : e.turn d = e := by simp [Engine.turn, hstop]
    rw [hsame]
    exact .quiet (fun _ _ _ => handedOver_self e) rfl rfl (.silent (.inl hstop))
  · -- Every command is answered with an error.
    have hstate : (e.turn d).state = e.state := by
      unfold Engine.turn
      split
      · next cmd cmds _ _ =>
        have hp : ∃ r, processCommand d e.state cmd = (.returned r, e.state) := by
          unfold processCommand
          rw [hgone]
          exact ⟨_, rfl⟩
        rw [hp.choose_spec]
      · rfl
    refine .quiet (fun _ _ _ => ?_) (by rw [hstate]) (by rw [hstate]) (.silent (.inr (by rw [hstate, hgone])))
    simp [Engine.handedOver, hgone]

/-- A command that sends nothing leaves the counters and the correlation
alone. -/
theorem counters_other_command (h : Counters env c k ⟨s, true, []⟩) (hcmd : ∀ umsg, cmd ≠ .send umsg) (d : Deps) :
    ∃ r s', processCommand d s cmd = (.returned r, s') ∧ s'.rpcCorrelation = s.rpcCorrelation ∧
      Counters env c k ⟨s', true, []⟩ := by
  obtain ⟨app, happ, hclient, hsession⟩ := h.application
  have happ : s.application = some app := happ
  have hkeep : ∀ app' offered, app'.client = app.client → app'.session = app.session →
      Counters env c k ⟨{ s with application := some app', vsomeipOfferedRequested := offered }, true, []⟩ := by
    intro app' offered hc hs
    exact ⟨rfl, rfl, h.atMost, h.checked, ⟨app', rfl, hc.trans hclient, by rw [hs, hsession]⟩, h.unpoisoned, h.tracking,
      h.stored⟩
  cases cmd with
  | send umsg => exact absurd rfl (hcmd umsg)
  | registerListener src sink ty fn =>
    obtain ⟨hc, hs, -⟩ := registerListenerInternal_spec src sink ty fn s.vsomeipOfferedRequested app
    simp only [processCommand, happ]
    exact ⟨_, _, rfl, rfl, hkeep _ _ hc hs⟩
  | unregisterListener src sink ty =>
    obtain ⟨hc, hs, -⟩ := unregisterListenerInternal_spec src sink ty app
    simp only [processCommand, happ]
    exact ⟨_, _, rfl, rfl, hkeep _ s.vsomeipOfferedRequested hc hs⟩
  | stopVsomeipApp =>
    simp only [processCommand, happ]
    exact ⟨_, _, rfl, rfl, hkeep _ s.vsomeipOfferedRequested rfl rfl⟩

/-- What a turn at a command to send does. -/
theorem TurnDoes.send (h : Counters env c k ⟨e.state, true, []⟩) (hrt : env.rt.MakesRequests)
    (hrun : e.running = true) {cmds : List TransportCommand} (hq : e.queue = .send umsg :: cmds) :
    TurnDoes env c k e (e.turn env.toDeps) := by
  obtain ⟨app, happ, hclient, hsession⟩ := h.application
  have happ : e.state.application = some app := happ
  cases hsend : sendInternal env.toDeps umsg e.state.rpcCorrelation e.state.vsomeipOfferedRequested app with
  | mk res rest =>
  obtain ⟨rpc, offered, app'⟩ := rest
  have hcarry := h.carry_send happ hsend
  have hp : processCommand env.toDeps e.state (.send umsg) = (res, { e.state with
      application := some app', rpcCorrelation := rpc, vsomeipOfferedRequested := offered }) := by
    simp only [processCommand, happ, hsend]
  -- The state is the same however the send ends.
  have hturn : (e.turn env.toDeps).state = { e.state with
      application := some app', rpcCorrelation := rpc, vsomeipOfferedRequested := offered } ∧
      (e.turn env.toDeps).running = !res.isPanic := by
    simp only [Engine.turn, hrun, hq, hp]
    cases res <;> exact ⟨rfl, rfl⟩
  obtain ⟨hstate, hrunning⟩ := hturn
  have happ' : (e.turn env.toDeps).state.application = some app' := by rw [hstate]
  have hhands : ∀ m, e.handedOver (e.turn env.toDeps) = some m ↔ app'.calls = .send m :: app.calls :=
    fun m => handedOver_eq happ happ'
  -- Either it keeps the counters in step, or the engine stops.
  have hinStep : ∀ {j}, (res.isPanic = false → Counters env c j (env.carry ⟨e.state, true, []⟩ (.send umsg)).1) →
      InStep env c j (e.turn env.toDeps) := by
    intro j hj
    cases hpanic : res.isPanic with
    | true => exact .silent (.inl (by rw [hrunning, hpanic]; rfl))
    | false =>
      have hc := hj hpanic
      rw [hcarry, hpanic] at hc
      exact .counting (by rw [hstate]; exact hc)
  have hother : umsg.isCorrelated = false → InStep env c k (e.turn env.toDeps) :=
    fun hc => hinStep fun _ => (h.other hc).1
  have hrpc : (e.turn env.toDeps).state.rpcCorrelation = rpc := by rw [hstate]
  cases sendInternal_ends hrt hsend with
  | @request m id source key hok hcorrelated hsends hsentAs hident horigin hvacant hstores hreceived =>
    have hm : m.messageType = .request := hsentAs.type
    have hcalls := (app.send_request hm).2
    rw [← hsends] at hcalls
    have hq' := (hhands _).2 hcalls
    rcases Nat.lt_or_ge k 65535 with hlt | hge
    · obtain ⟨hagree, hnext⟩ := h.request hrt hlt hcorrelated
      have hover : HandsOver env ⟨e.state, true, []⟩ umsg { m with client := app.client, session := app.session } :=
        ⟨hm, app, app', happ, by rw [hcarry], hcalls⟩
      obtain ⟨hunstored, _, _, -, -, hstored⟩ := hagree _ hover
      rw [hcarry] at hstored
      have hkey : key = ({ m with client := app.client, session := app.session } : VsomeipMessage).getRequest := by
        by_contra hne
        simp only [hstores, PartialMap.insert_of_ne (Ne.symm hne)] at hstored
        rw [hunstored] at hstored
        cases hstored
      refine .request hq hq' hsentAs hclient ?_ hident horigin ?_ (by rw [hrpc, hreceived]) ?_
      · show app.session.toNat = k + 1
        rw [hsession, Nat.mod_eq_of_lt hlt]
      · rw [hrpc, hstores, hkey]
      · refine hinStep fun hpanic => hnext.resolve_right fun hstopped => ?_
        rw [hcarry, hpanic] at hstopped
        cases hstopped.2
    · exact .overflow (Nat.le_antisymm h.atMost hge) hq hq' hm
  | @response m r hok hplain hsends hrepliedAs hreqid hanswers hstored htakes =>
    have hcalls : app'.calls = .send m :: app.calls := by rw [hsends]; rfl
    exact .response hq ((hhands _).2 hcalls) hrepliedAs hreqid hanswers (by rw [hrpc, hstored]) (by rw [hrpc, htakes])
      (hother hplain)
  | quiet hsilent hstored hreceived =>
    have hnone : e.handedOver (e.turn env.toDeps) = none := by
      refine handedOver_none happ fun app₁ happ₁ => ?_
      obtain rfl := Option.some.inj (happ'.symm.trans happ₁)
      exact hsilent
    refine .quiet (fun _ _ _ => hnone) (by rw [hrpc, hstored]) (by rw [hrpc, hreceived]) ?_
    cases hcorrelated : umsg.isCorrelated with
    | false => exact hother hcorrelated
    | true =>
      refine hinStep fun hpanic => ?_
      rcases sendInternal_request hrt hcorrelated hsend with
        ⟨msg, rfl, -⟩ | ⟨s, rpc₁, hret, ⟨_, entry, -, hk⟩ | ⟨m, _, _, -, -, -, -, -, hm, rfl⟩⟩
      · cases hpanic
      · -- The request ids of later sessions are vacant.
        obtain ⟨-, hs, -⟩ := InMemoryRpcCorrelationRegistry.retrieveSessionId_returned hret
        have htracking := h.tracking
        rw [hclient] at hs hk
        rw [← hs] at htracking
        have hatMost := h.atMost
        exact absurd hk (h.vacant (by omega))
      · exact absurd rfl (hsilent _ _ (app.send_request hm).2)

/-- **A turn hands a request or a response to vsomeip, or nothing.** -/
theorem TurnDoes.of_inStep (h : InStep env c k e) (hrt : env.rt.MakesRequests) :
    TurnDoes env c k e (e.turn env.toDeps) := by
  cases h with
  | silent hoff => exact .of_silent _ hoff
  | counting h =>
    cases hrun : e.running with
    | false => exact .of_silent _ (.inl hrun)
    | true =>
      cases hq : e.queue with
      | nil =>
        have hsame : e.turn env.toDeps = e := by simp [Engine.turn, hq]
        rw [hsame]
        exact .quiet (fun _ _ _ => handedOver_self e) rfl rfl (.counting h)
      | cons cmd cmds =>
        by_cases hcmd : ∃ umsg, cmd = .send umsg
        · obtain ⟨umsg, rfl⟩ := hcmd
          exact .send h hrt hrun hq
        · have hcmd : ∀ umsg, cmd ≠ .send umsg := fun umsg he => hcmd ⟨umsg, he⟩
          obtain ⟨r, s', hp, hrpc, hcount⟩ := counters_other_command h hcmd env.toDeps
          have hstate : (e.turn env.toDeps).state = s' := by simp only [Engine.turn, hrun, hq, hp]
          refine .quiet (fun umsg cmds' hq' => ?_) (by rw [hstate, hrpc]) (by rw [hstate, hrpc])
            (.counting (by rw [hstate]; exact hcount))
          rw [hq] at hq'
          exact absurd (List.cons.inj hq').1 (hcmd umsg)

end VsomeipTransport
