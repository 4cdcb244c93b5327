/-
What the transports of a network can rely on.

* `answered_once`: no request id is used twice, and none is answered twice.
* `first_reply_answers`: of the first reply that comes back a response is made.
* `answers_are_justified`: every response that is made of a reply answers a
  request of its own, which a service received, and is the response the service
  sent to that request: the messages make one causal chain, however the network
  reorders, repeats or loses them.

The first two hold of every application that was given no more than 65535
requests, the last as long as that holds of all: then the session numbers
repeat.
-/
import VsomeipTransport.Lib.Trace
import VsomeipTransport.RpcTurns

namespace VsomeipTransport

open VsomeipMessageToUMessage RpcNetwork
open ConversionEnv (sampleEnv sampleRequest sampleTransport)

variable {N : Type} {net : RpcNetwork N} {s s' : NetworkState N} {n : N} {done : List (Happened N)} {o : Happened N}

/-! ## A step of the network -/

/-- The requests `n` sent and had no reply to. -/
def NetworkState.sent (s : NetworkState N) (n : N) : PartialMap SomeIpRequestId (UUID × UUri) :=
  (s.engines n).state.rpcCorrelation.ueRequestCorrelation

/-- The requests `n` received and did not answer. -/
def NetworkState.owed (s : NetworkState N) (n : N) : PartialMap UUID SomeIpRequestId :=
  (s.engines n).state.rpcCorrelation.meRequestCorrelation

/-- `n` makes `umsg` of `m`. -/
def RpcNetwork.Converts (net : RpcNetwork N) (s : NetworkState N) (n : N) (m : VsomeipMessage) (umsg : UMessage) :
    Prop :=
  ∃ id rpc, convertVsomeipMsgToUmsg (net.env n).up (net.env n).authorityName (net.env n).selfUuri
    (net.env n).mechatronicsAuthorityName id m (s.engines n).state.rpcCorrelation = (.ok umsg, rpc)

/-- Where the event takes place. -/
def NetworkEvent.node : NetworkEvent N → N
  | .command n _ => n
  | .engineTurn n => n
  | .deliver n _ _ => n
  | .applicationLost n => n

variable [DecidableEq N]

/-- The requests `n` handed to vsomeip, oldest first. -/
def requestsOf (n : N) (done : List (Happened N)) : List VsomeipMessage := done.filterMap (Happened.requestOf n)

/-- What a step of `n` does to the tables and the wire. -/
inductive StepDoes (net : RpcNetwork N) (done : List (Happened N)) (s s' : NetworkState N) (n : N) : Happened N → Prop
  | requested {req : UMessage} {q : VsomeipMessage} {id : UUID} {source : UUri} (sentAs : req.SentAs q)
      (client : q.client = net.client n) (session : q.session.toNat = (requestsOf n done).length + 1)
      (ident : req.attrs.id = some id) (origin : req.attrs.source = some source) (wire : s'.wire = s.wire ++ [q])
      (stores : s'.sent = Function.update s.sent n ((s.sent n).insert q.getRequest (id, source)))
      (owed : s'.owed = s.owed) : StepDoes net done s s' n (.requested n req q)
  | responded {resp : UMessage} {m : VsomeipMessage} {r : UUID} (repliedAs : resp.RepliedAs m)
      (reqid : resp.attrs.reqid = some r) (answers : s.owed n r = some m.getRequest) (wire : s'.wire = s.wire ++ [m])
      (sent : s'.sent = s.sent) (takes : s'.owed = Function.update s.owed n ((s.owed n).remove r)) :
      StepDoes net done s s' n (.responded n resp m)
  | received {q : VsomeipMessage} {req' : UMessage} {r : UUID} (onWire : q ∈ s.wire)
      (type : q.messageType = .request) (converts : net.Converts s n q req') (ident : req'.attrs.id = some r)
      (wire : s'.wire = s.wire) (sent : s'.sent = s.sent)
      (stores : s'.owed = Function.update s.owed n ((s.owed n).insert r q.getRequest)) :
      StepDoes net done s s' n (.received n q req')
  | answered {m : VsomeipMessage} {resp' : UMessage} {id : UUID} {source : UUri} (onWire : m ∈ s.wire)
      (reply : m.IsReply) (client : m.client = net.client n) (pending : s.sent n m.getRequest = some (id, source))
      (converts : net.Converts s n m resp') (wire : s'.wire = s.wire)
      (takes : s'.sent = Function.update s.sent n ((s.sent n).remove m.getRequest)) (owed : s'.owed = s.owed) :
      StepDoes net done s s' n (.answered n m resp')
  | refused {m : VsomeipMessage} (wire : s'.wire = s.wire) (owed : s'.owed = s.owed)
      (sent : s'.sent = s.sent ∨
        m.IsReply ∧ s'.sent = Function.update s.sent n ((s.sent n).remove m.getRequest)) :
      StepDoes net done s s' n (.refused n m)
  | nothing (wire : s'.wire = s.wire) (sent : s'.sent = s.sent) (owed : s'.owed = s.owed) :
      StepDoes net done s s' n .nothing

/-- The counters of `n` are in step with what it did. -/
def NodeInStep (net : RpcNetwork N) (n : N) (done : List (Happened N)) (s : NetworkState N) : Prop :=
  InStep (net.env n) (net.client n) (requestsOf n done).length (s.engines n)

theorem requestsOf_concat (n : N) (done : List (Happened N)) (o : Happened N) :
    requestsOf n (done ++ [o]) = requestsOf n done ++ (o.requestOf n).toList := by
  simp only [requestsOf, List.filterMap_append, List.filterMap_cons, List.filterMap_nil]
  cases o.requestOf n <;> rfl

theorem setEngine_sent (s : NetworkState N) (n : N) (e : Engine) :
    (setEngine s n e).sent = Function.update s.sent n e.state.rpcCorrelation.ueRequestCorrelation := by
  funext n'
  by_cases hn : n' = n
  · subst hn; simp [NetworkState.sent, setEngine]
  · simp [NetworkState.sent, setEngine, hn]

theorem setEngine_owed (s : NetworkState N) (n : N) (e : Engine) :
    (setEngine s n e).owed = Function.update s.owed n e.state.rpcCorrelation.meRequestCorrelation := by
  funext n'
  by_cases hn : n' = n
  · subst hn; simp [NetworkState.owed, setEngine]
  · simp [NetworkState.owed, setEngine, hn]

theorem setEngine_sent_same {n : N} {e : Engine} (h : e.state.rpcCorrelation.ueRequestCorrelation = s.sent n) :
    (setEngine s n e).sent = s.sent := by
  rw [setEngine_sent, h, Function.update_eq_self]

theorem setEngine_owed_same {n : N} {e : Engine} (h : e.state.rpcCorrelation.meRequestCorrelation = s.owed n) :
    (setEngine s n e).owed = s.owed := by
  rw [setEngine_owed, h, Function.update_eq_self]

/-- What is no request of `n` leaves its counters in step. -/
theorem NodeInStep.keep {e : Engine} (he : InStep (net.env n) (net.client n) (requestsOf n done).length e)
    (ho : o.requestOf n = none) (hs' : s'.engines n = e) : NodeInStep net n (done ++ [o]) s' := by
  rw [NodeInStep, requestsOf_concat, ho, hs']
  simpa using he

/-- What a step of `n` shows. -/
def Shows (net : RpcNetwork N) (done : List (Happened N)) (s : NetworkState N) (n : N) (e : NetworkEvent N) : Prop :=
  StepDoes net done s (net.step s e).1 n (net.step s e).2 ∧
    NodeInStep net n (done ++ [(net.step s e).2]) (net.step s e).1

theorem shows_command (h : NodeInStep net n done s) (cmd : TransportCommand) : Shows net done s n (.command n cmd) := by
  unfold Shows
  simp only [step]
  split
  · refine ⟨.nothing rfl (setEngine_sent_same rfl) (setEngine_owed_same rfl),
      .keep ?_ rfl (Function.update_self n _ s.engines)⟩
    cases h with
    | counting hc => exact .counting hc
    | silent hoff => exact .silent hoff
  · exact ⟨.nothing rfl rfl rfl, .keep h rfl rfl⟩

theorem shows_lost (net : RpcNetwork N) (done : List (Happened N)) (s : NetworkState N) (n : N) :
    Shows net done s n (.applicationLost n) := by
  unfold Shows
  simp only [step]
  exact ⟨.nothing rfl (setEngine_sent_same rfl) (setEngine_owed_same rfl),
    .keep (.silent (.inr rfl)) rfl (Function.update_self n _ s.engines)⟩

theorem shows_turn (hrt : net.deps.rt.MakesRequests) (h : NodeInStep net n done s)
    (hb : (requestsOf n (done ++ [(net.step s (.engineTurn n)).2])).length ≤ 65535) :
    Shows net done s n (.engineTurn n) := by
  have hturn : TurnDoes (net.env n) (net.client n) (requestsOf n done).length (s.engines n)
      ((s.engines n).turn net.deps) := .of_inStep h hrt
  unfold Shows
  simp only [step] at hb ⊢
  cases hturn with
  | @request req _ q id source hq hhands hsentAs hclient hsession hident horigin hstores hreceived hin =>
    have hhanding : handing n req q = .requested n req q := by simp [handing, hsentAs.type]
    simp only [hq, hhands, hhanding]
    refine ⟨.requested hsentAs hclient hsession hident horigin rfl ?_ (setEngine_owed_same hreceived), ?_⟩
    · exact (setEngine_sent s n _).trans (by rw [hstores]; rfl)
    · rw [NodeInStep, requestsOf_concat]
      simpa [Happened.requestOf, setEngine] using hin
  | @response resp _ m r hq hhands hrepliedAs hreqid hanswers hstored htakes hin =>
    have hm : m.messageType ≠ .request := by
      rcases hrepliedAs.reply with ht | ht <;> simp [ht]
    have hhanding : handing n resp m = .responded n resp m := by simp [handing, hm]
    simp only [hq, hhands, hhanding]
    refine ⟨.responded hrepliedAs hreqid hanswers rfl (setEngine_sent_same hstored) ?_,
      .keep hin rfl (Function.update_self n _ s.engines)⟩
    exact (setEngine_owed s n _).trans (by rw [htakes]; rfl)
  | quiet hsilent hstored hreceived hin =>
    split
    · next umsg cmds m hq hhands =>
      rw [hsilent umsg cmds hq] at hhands
      cases hhands
    · exact ⟨.nothing rfl (setEngine_sent_same hstored) (setEngine_owed_same hreceived),
        .keep hin rfl (Function.update_self n _ s.engines)⟩
  | @overflow req _ q hlast hq hhands htype =>
    -- That would be the 65536th.
    have hhanding : handing n req q = .requested n req q := by simp [handing, htype]
    simp only [hq, hhands, hhanding, requestsOf_concat, Happened.requestOf] at hb
    simp [hlast] at hb

/-- A message handed in keeps the counters in step. -/
theorem InStep.inbound {env : ConversionEnv} {c : ClientId} {k : ℕ} {e : Engine} (h : InStep env c k e)
    {m : VsomeipMessage} {id : UUID} {res : Except UStatus UMessage} {rpc : InMemoryRpcCorrelationRegistry}
    (hconv : convertVsomeipMsgToUmsg env.up env.authorityName env.selfUuri env.mechatronicsAuthorityName id m
      e.state.rpcCorrelation = (res, rpc)) :
    InStep env c k { e with state := { e.state with rpcCorrelation := rpc } } := by
  cases h with
  | counting hc =>
    have hin := hc.inbound m id
    simp only [ConversionEnv.carry, hconv] at hin
    exact .counting hin
  | silent hoff => exact .silent hoff

theorem shows_deliver (h : NodeInStep net n done s) (m : VsomeipMessage) (id : UUID) :
    Shows net done s n (.deliver n m id) := by
  unfold Shows
  simp only [step]
  split
  case isFalse => exact ⟨.nothing rfl rfl rfl, .keep h rfl rfl⟩
  case isTrue haddr =>
  cases hconv : convertVsomeipMsgToUmsg (net.env n).up (net.env n).authorityName (net.env n).selfUuri
    (net.env n).mechatronicsAuthorityName id m (s.engines n).state.rpcCorrelation with
  | mk res rpc =>
  have hin : ∀ {o : Happened N}, o.requestOf n = none → NodeInStep net n (done ++ [o]) (setEngine s n
      { s.engines n with state := { (s.engines n).state with rpcCorrelation := rpc } }) :=
    fun ho => .keep (InStep.inbound h hconv) ho (Function.update_self n _ s.engines)
  by_cases hq : m.messageType = .request
  · rcases convertRequest_cases hq hconv with ⟨umsg, _, _, r, rfl, -, hident, -, rfl⟩ | ⟨_, rfl, rfl, -⟩
    · have hmaking : making n m umsg = .received n m umsg := by simp [making, hq]
      simp only [hmaking]
      exact ⟨.received haddr.1 hq ⟨id, _, hconv⟩ hident rfl (setEngine_sent_same rfl) (setEngine_owed s n _), hin rfl⟩
    · exact ⟨.refused rfl (setEngine_owed_same rfl) (.inl (setEngine_sent_same rfl)), hin rfl⟩
  by_cases hr : m.IsReply
  · rcases convertReply_cases hr hconv with ⟨payload, _, reqId, sink, _, hk, rfl, hres⟩ | ⟨_, rfl, rfl, -⟩
    · cases res with
      | error e => exact ⟨.refused rfl (setEngine_owed_same rfl) (.inr ⟨hr, setEngine_sent s n _⟩), hin rfl⟩
      | ok umsg =>
        have hmaking : making n m umsg = .answered n m umsg := by simp [making, hq, hr]
        simp only [hmaking]
        exact ⟨.answered haddr.1 hr (haddr.2 hr) hk ⟨id, _, hconv⟩ rfl (setEngine_sent s n _)
          (setEngine_owed_same rfl), hin rfl⟩
    · exact ⟨.refused rfl (setEngine_owed_same rfl) (.inl (setEngine_sent_same rfl)), hin rfl⟩
  · obtain ⟨rfl, -⟩ := convertOther_cases hq hr hconv
    cases res with
    | error e => exact ⟨.refused rfl (setEngine_owed_same rfl) (.inl (setEngine_sent_same rfl)), hin rfl⟩
    | ok umsg =>
      have hmaking : making n m umsg = .nothing := by simp [making, hq, hr]
      simp only [hmaking]
      exact ⟨.nothing rfl (setEngine_sent_same rfl) (setEngine_owed_same rfl), hin rfl⟩

/-- **A step sends a request or a response, receives a request, is answered,
or refuses a message**, as the tables say. -/
theorem shows_step (hrt : net.deps.rt.MakesRequests) (e : NetworkEvent N) (h : NodeInStep net e.node done s)
    (hb : (requestsOf e.node (done ++ [(net.step s e).2])).length ≤ 65535) : Shows net done s e.node e := by
  cases e with
  | command n cmd => exact shows_command h cmd
  | engineTurn n => exact shows_turn hrt h hb
  | deliver n m id => exact shows_deliver h m id
  | applicationLost n => exact shows_lost net done s n

/-- A step of another transport is none of `n`. -/
theorem step_elsewhere (net : RpcNetwork N) (s : NetworkState N) {e : NetworkEvent N} (hn : e.node ≠ n) :
    (net.step s e).1.engines n = s.engines n ∧ (net.step s e).2.requestOf n = none ∧
      (net.step s e).2.answerOf n = none := by
  have hset : ∀ {n'} (_ : n' ≠ n) (e' : Engine), (setEngine s n' e').engines n = s.engines n := by
    intro n' hn e'
    simp only [setEngine, Function.update_of_ne (Ne.symm hn)]
  cases e with
  | command n' cmd =>
    simp only [step]
    split
    · exact ⟨hset hn _, rfl, rfl⟩
    · exact ⟨rfl, rfl, rfl⟩
  | engineTurn n' =>
    have hn : n' ≠ n := hn
    simp only [step]
    split
    · refine ⟨hset hn _, ?_, ?_⟩ <;> unfold handing <;> split <;> simp [Happened.requestOf, Happened.answerOf, hn]
    · exact ⟨hset hn _, rfl, rfl⟩
  | deliver n' m id =>
    have hn : n' ≠ n := hn
    simp only [step]
    split
    · split
      · refine ⟨hset hn _, ?_, ?_⟩ <;> unfold making <;> repeat' split
        all_goals simp [Happened.requestOf, Happened.answerOf, hn]
      · exact ⟨hset hn _, rfl, rfl⟩
    · exact ⟨rfl, rfl, rfl⟩
  | applicationLost n' => exact ⟨hset hn _, rfl, rfl⟩

/-! ## The requests of one transport -/

/-- `n` dealt with a reply to the request with id `k`. -/
def RepliedTo (done : List (Happened N)) (n : N) (k : SomeIpRequestId) : Prop :=
  ∃ m, m.IsReply ∧ m.getRequest = k ∧ (.refused n m ∈ done ∨ ∃ resp', .answered n m resp' ∈ done)

/-- What a step, of `n` or of another transport, does to the requests of `n`. -/
inductive NodeDoes (net : RpcNetwork N) (done : List (Happened N)) (s s' : NetworkState N) (n : N) : Happened N → Prop
  | requested {req : UMessage} {q : VsomeipMessage} {id : UUID} {source : UUri} (client : q.client = net.client n)
      (session : q.session.toNat = (requestsOf n done).length + 1) (ident : req.attrs.id = some id)
      (origin : req.attrs.source = some source) (stores : s'.sent n = (s.sent n).insert q.getRequest (id, source)) :
      NodeDoes net done s s' n (.requested n req q)
  | answered {m : VsomeipMessage} {resp' : UMessage} {entry : UUID × UUri} (reply : m.IsReply)
      (pending : s.sent n m.getRequest = some entry) (takes : s'.sent n = (s.sent n).remove m.getRequest) :
      NodeDoes net done s s' n (.answered n m resp')
  | refused {m : VsomeipMessage} (reply : m.IsReply) (takes : s'.sent n = (s.sent n).remove m.getRequest) :
      NodeDoes net done s s' n (.refused n m)
  | other {o : Happened N} (request : o.requestOf n = none) (answer : o.answerOf n = none)
      (sent : s'.sent n = s.sent n) : NodeDoes net done s s' n o

theorem StepDoes.node (h : StepDoes net done s s' n o) : NodeDoes net done s s' n o := by
  cases h with
  | requested _ hclient hsession hident horigin _ hstores _ =>
    exact .requested hclient hsession hident horigin (by rw [hstores, Function.update_self])
  | responded _ _ _ _ hsent _ => exact .other rfl rfl (congrFun hsent n)
  | received _ _ _ _ _ hsent _ => exact .other rfl rfl (congrFun hsent n)
  | answered _ hreply _ hpending _ _ htakes _ =>
    exact .answered hreply hpending (by rw [htakes, Function.update_self])
  | refused _ _ hsent =>
    rcases hsent with hsent | ⟨hreply, htakes⟩
    · exact .other rfl rfl (congrFun hsent n)
    · exact .refused hreply (by rw [htakes, Function.update_self])
  | nothing _ hsent _ => exact .other rfl rfl (congrFun hsent n)

/-- **Wherever a step takes place**, the counters of `n` stay in step until
its 65536th request. -/
theorem nodeDoes_step (hrt : net.deps.rt.MakesRequests) (h : NodeInStep net n done s) (e : NetworkEvent N)
    (hb : (requestsOf n (done ++ [(net.step s e).2])).length ≤ 65535) :
    NodeDoes net done s (net.step s e).1 n (net.step s e).2 ∧
      NodeInStep net n (done ++ [(net.step s e).2]) (net.step s e).1 := by
  by_cases hn : e.node = n
  · subst hn
    obtain ⟨hdoes, hin⟩ := shows_step hrt e h hb
    exact ⟨hdoes.node, hin⟩
  · obtain ⟨hengine, hrequest, hanswer⟩ := step_elsewhere net s hn
    exact ⟨.other hrequest hanswer (by simp only [NetworkState.sent, hengine]), .keep h hrequest hengine⟩

/-- What the table says of the requests `n` sent. -/
structure NodeInvariant (net : RpcNetwork N) (n : N) (done : List (Happened N)) (s : NetworkState N) : Prop where
  sessions : (requestsOf n done).map (fun q => q.session.toNat) = List.range' 1 (requestsOf n done).length
  client : ∀ req q, .requested n req q ∈ done → q.client = net.client n
  pending : ∀ k id source, s.sent n k = some (id, source) → ∃ req q, .requested n req q ∈ done ∧ q.getRequest = k ∧
    req.attrs.id = some id ∧ req.attrs.source = some source
  kept : ∀ req q, .requested n req q ∈ done → ¬ RepliedTo done n q.getRequest →
    ∃ entry, s.sent n q.getRequest = some entry
  answered : ∀ m resp', .answered n m resp' ∈ done → ∃ req q, .requested n req q ∈ done ∧ q.getRequest = m.getRequest
  taken : ∀ m resp', .answered n m resp' ∈ done → s.sent n m.getRequest = none
  once : ((done.filterMap (Happened.answerOf n)).map VsomeipMessage.getRequest).Nodup

theorem mem_requestsOf {q : VsomeipMessage} : q ∈ requestsOf n done ↔ ∃ req, .requested n req q ∈ done := by
  simp only [requestsOf, List.mem_filterMap]
  constructor
  · intro hgiven
    obtain ⟨o, ho, hq⟩ := hgiven
    cases o with
    | requested n' req q' =>
      simp only [Happened.requestOf, Option.ite_none_right_eq_some, Option.some.injEq] at hq
      obtain ⟨rfl, rfl⟩ := hq
      exact ⟨req, ho⟩
    | _ => cases hq
  · intro hgiven
    obtain ⟨req, ho⟩ := hgiven
    exact ⟨_, ho, by simp [Happened.requestOf]⟩

omit [DecidableEq N] in
/-- What was done before, or now. -/
theorem mem_done {o' : Happened N} : o' ∈ done ++ [o] ↔ o' ∈ done ∨ o' = o := by
  rw [List.mem_append, List.mem_singleton]

namespace NodeInvariant

variable (h : NodeInvariant net n done s)

include h

/-- The sessions of `n` so far. -/
theorem session_le {req : UMessage} {q : VsomeipMessage} (hq : .requested n req q ∈ done) :
    q.session.toNat ≤ (requestsOf n done).length := by
  have hmem := List.mem_map_of_mem (f := fun q : VsomeipMessage => q.session.toNat) (mem_requestsOf.2 ⟨req, hq⟩)
  rw [h.sessions, List.mem_range'_1] at hmem
  omega

/-- A request id belongs to one request. -/
theorem request_unique {req₁ req₂ : UMessage} {q₁ q₂ : VsomeipMessage} (h₁ : .requested n req₁ q₁ ∈ done)
    (h₂ : .requested n req₂ q₂ ∈ done) (hk : q₁.getRequest = q₂.getRequest) : req₁ = req₂ ∧ q₁ = q₂ := by
  have hnodup : (done.filterMap fun o => (o.requestOf n).map fun q => q.session.toNat).Nodup := by
    rw [← List.map_filterMap]
    exact h.sessions.symm ▸ List.nodup_range'
  have hkey : ∀ req q, (Happened.requested n req q).requestOf n = some q := fun req q => by simp [Happened.requestOf]
  have hsession : q₁.session = q₂.session := (createRequestId_inj hk).2
  have hsame := Trace.eq_of_key hnodup (k := q₂.session.toNat) h₁ h₂ (by rw [hkey, ← hsession]; rfl) (by rw [hkey]; rfl)
  cases hsame
  exact ⟨rfl, rfl⟩

/-- A new request gets an id that was not used before. -/
theorem request_fresh {req : UMessage} {q q' : VsomeipMessage}
    (hsession : q.session.toNat = (requestsOf n done).length + 1) (h' : .requested n req q' ∈ done) :
    q'.getRequest ≠ q.getRequest := by
  intro hk
  have hle := h.session_le h'
  rw [(createRequestId_inj hk).2, hsession] at hle
  omega

/-- No two requests have the same id. -/
theorem requests_nodup : ((requestsOf n done).map VsomeipMessage.getRequest).Nodup := by
  refine List.Nodup.of_map (fun k => (splitU32ToU16 k).2.toNat) ?_
  have hsession : (fun k => (splitU32ToU16 k).2.toNat) ∘ VsomeipMessage.getRequest =
      fun q : VsomeipMessage => q.session.toNat := by
    funext q
    simp [VsomeipMessage.getRequest, split_createRequestId]
  rw [List.map_map, hsession, h.sessions]
  exact List.nodup_range'

/-! ### What a step preserves -/

variable (hdoes : NodeDoes net done s s' n o)

include hdoes

theorem step_sessions : (requestsOf n (done ++ [o])).map (fun q => q.session.toNat) =
    List.range' 1 (requestsOf n (done ++ [o])).length := by
  rw [requestsOf_concat]
  cases ho : o.requestOf n with
  | none => simpa using h.sessions
  | some q =>
    cases hdoes with
    | requested _ hsession _ _ _ =>
      simp only [Happened.requestOf, if_true, Option.some.injEq] at ho
      subst ho
      simp only [Option.toList_some, List.map_append, List.length_append, List.length_singleton, List.range'_concat,
        h.sessions, List.map_cons, List.map_nil, hsession]
      congr 2
      omega
    | answered => cases ho
    | refused => cases ho
    | other hno => rw [hno] at ho; cases ho

theorem step_client (req : UMessage) (q : VsomeipMessage) (hq : .requested n req q ∈ done ++ [o]) :
    q.client = net.client n := by
  rcases mem_done.1 hq with hq | rfl
  · exact h.client req q hq
  · cases hdoes with
    | requested hclient => exact hclient
    | other hno => simp [Happened.requestOf] at hno

theorem step_pending (k : SomeIpRequestId) (id : UUID) (source : UUri) (hk : s'.sent n k = some (id, source)) :
    ∃ req q, .requested n req q ∈ done ++ [o] ∧ q.getRequest = k ∧ req.attrs.id = some id ∧
      req.attrs.source = some source := by
  have hold : s.sent n k = some (id, source) → ∃ req q, .requested n req q ∈ done ++ [o] ∧ q.getRequest = k ∧
      req.attrs.id = some id ∧ req.attrs.source = some source := by
    intro hk
    obtain ⟨req, q, hq, hrest⟩ := h.pending k id source hk
    exact ⟨req, q, List.mem_append_left _ hq, hrest⟩
  cases hdoes with
  | @requested req q id' source' _ _ hident horigin hstores =>
    rw [hstores, PartialMap.insert_apply] at hk
    split at hk
    · next he =>
      cases hk
      exact ⟨req, q, by simp, he.symm, hident, horigin⟩
    · exact hold hk
  | answered _ _ htakes => exact hold (PartialMap.remove_eq_some.1 (htakes ▸ hk)).2
  | refused _ htakes => exact hold (PartialMap.remove_eq_some.1 (htakes ▸ hk)).2
  | other _ _ hsent => exact hold (hsent ▸ hk)

/-- Only a reply takes away what is stored for a request. -/
theorem step_kept (req : UMessage) (q : VsomeipMessage) (hq : .requested n req q ∈ done ++ [o])
    (hno : ¬ RepliedTo (done ++ [o]) n q.getRequest) : ∃ entry, s'.sent n q.getRequest = some entry := by
  have hold : .requested n req q ∈ done → ∃ entry, s.sent n q.getRequest = some entry := by
    intro hq
    refine h.kept req q hq fun hgiven => hno ?_
    obtain ⟨m, hm, hk, hdone⟩ := hgiven
    exact ⟨m, hm, hk, hdone.imp (List.mem_append_left _) fun ⟨resp', ha⟩ => ⟨resp', List.mem_append_left _ ha⟩⟩
  have hbefore : o.requestOf n = none → .requested n req q ∈ done := by
    intro ho
    refine (mem_done.1 hq).resolve_right fun he => ?_
    simp [← he, Happened.requestOf] at ho
  cases hdoes with
  | @requested req₀ q₀ id source _ _ _ _ hstores =>
    rw [hstores, PartialMap.insert_apply]
    split
    · exact ⟨_, rfl⟩
    · next hk =>
      refine hold ((mem_done.1 hq).resolve_right fun he => ?_)
      cases he
      exact hk rfl
  | @answered m resp' entry hreply _ htakes =>
    obtain ⟨entry, hk⟩ := hold (hbefore rfl)
    refine ⟨entry, ?_⟩
    rw [htakes]
    exact PartialMap.remove_eq_some.2 ⟨fun he => hno ⟨m, hreply, he.symm, .inr ⟨resp', by simp⟩⟩, hk⟩
  | @refused m hreply htakes =>
    obtain ⟨entry, hk⟩ := hold (hbefore rfl)
    refine ⟨entry, ?_⟩
    rw [htakes]
    exact PartialMap.remove_eq_some.2 ⟨fun he => hno ⟨m, hreply, he.symm, .inl (by simp)⟩, hk⟩
  | other hrequest _ hsent => exact hsent ▸ hold (hbefore hrequest)

/-- An answer was to a request. -/
theorem step_answered (m : VsomeipMessage) (resp' : UMessage) (hm : .answered n m resp' ∈ done ++ [o]) :
    ∃ req q, .requested n req q ∈ done ++ [o] ∧ q.getRequest = m.getRequest := by
  rcases mem_done.1 hm with hm | rfl
  · obtain ⟨req, q, hq, hk⟩ := h.answered m resp' hm
    exact ⟨req, q, List.mem_append_left _ hq, hk⟩
  · cases hdoes with
    | @answered _ _ entry _ hpending _ =>
      obtain ⟨req, q, hq, hk, -⟩ := h.pending _ entry.1 entry.2 hpending
      exact ⟨req, q, List.mem_append_left _ hq, hk⟩
    | other _ hno => simp [Happened.answerOf] at hno

theorem step_taken (m : VsomeipMessage) (resp' : UMessage) (hm : .answered n m resp' ∈ done ++ [o]) :
    s'.sent n m.getRequest = none := by
  rcases mem_done.1 hm with hbefore | rfl
  · have hnone := h.taken m resp' hbefore
    cases hdoes with
    | @requested req q _ _ _ hsession _ _ hstores =>
      -- The new request id is not one that was answered.
      obtain ⟨req₁, q₁, hq₁, hk₁⟩ := h.answered m resp' hbefore
      have hne : m.getRequest ≠ q.getRequest := fun he => h.request_fresh hsession hq₁ (hk₁.trans he)
      rw [hstores, PartialMap.insert_of_ne hne, hnone]
    | answered _ _ htakes => rw [htakes]; exact PartialMap.remove_eq_none hnone
    | refused _ htakes => rw [htakes]; exact PartialMap.remove_eq_none hnone
    | other _ _ hsent => rw [hsent, hnone]
  · cases hdoes with
    | answered _ _ htakes => simp [htakes]
    | other _ hno => simp [Happened.answerOf] at hno

theorem step_once : (((done ++ [o]).filterMap (Happened.answerOf n)).map VsomeipMessage.getRequest).Nodup := by
  rw [List.filterMap_append, List.map_append]
  cases ho : o.answerOf n with
  | none => simpa [ho] using h.once
  | some m =>
    simp only [List.filterMap_cons_some ho, List.filterMap_nil, List.map_cons, List.map_nil]
    refine h.once.append (List.nodup_singleton _) (List.disjoint_singleton.2 fun hmem => ?_)
    obtain ⟨m₀, hm₀, hk⟩ := List.mem_map.1 hmem
    obtain ⟨o₀, ho₀, hanswer⟩ := List.mem_filterMap.1 hm₀
    cases hdoes with
    | answered _ hpending _ =>
      simp only [Happened.answerOf, if_true, Option.some.injEq] at ho
      subst ho
      cases o₀ with
      | answered n₀ m₂ resp₀ =>
        simp only [Happened.answerOf, Option.ite_none_right_eq_some, Option.some.injEq] at hanswer
        obtain ⟨rfl, rfl⟩ := hanswer
        have hnone := h.taken _ _ ho₀
        rw [hk, hpending] at hnone
        cases hnone
      | _ => cases hanswer
    | requested => cases ho
    | refused => cases ho
    | other _ hno => rw [hno] at ho; cases ho

/-- **A step keeps what is known of the requests of one transport.** -/
protected theorem step : NodeInvariant net n (done ++ [o]) s' where
  sessions := h.step_sessions hdoes
  client := h.step_client hdoes
  pending := h.step_pending hdoes
  kept := h.step_kept hdoes
  answered := h.step_answered hdoes
  taken := h.step_taken hdoes
  once := h.step_once hdoes

end NodeInvariant

section Node

variable (hrt : net.deps.rt.MakesRequests)

theorem nodeInvariant_start : NodeInvariant net n [] net.start where
  sessions := by simp [requestsOf]
  client := by simp
  pending := by intro k id source hk; cases hk
  kept := by simp
  answered := by simp
  taken := by simp
  once := by simp

theorem nodeInStep_start : NodeInStep net n [] net.start :=
  .counting (.started (net.env n) (net.config n) (net.client n))

theorem requestsOf_le (n : N) (done : List (Happened N)) (o : Happened N) :
    (requestsOf n done).length ≤ (requestsOf n (done ++ [o])).length := by
  rw [requestsOf_concat, List.length_append]
  exact Nat.le_add_right _ _

theorem requestsOf_le_run {run : List (NetworkEvent N)} (h : run.length ≤ 65535) :
    (requestsOf n (net.trace run)).length ≤ 65535 := by
  have hlen := List.length_filterMap_le (Happened.requestOf n) (net.trace run)
  rw [trace, Runs.outputs_length] at hlen
  exact hlen.trans h

theorem trace_concat (run : List (NetworkEvent N)) (e : NetworkEvent N) :
    net.trace (run ++ [e]) = net.trace run ++ [(net.step (Runs.after net.step net.start run) e).2] :=
  Runs.outputs_concat _ _ _

include hrt

theorem run_node (run : List (NetworkEvent N)) (hb : (requestsOf n (net.trace run)).length ≤ 65535) :
    NodeInStep net n (net.trace run) (Runs.after net.step net.start run) ∧
    NodeInvariant net n (net.trace run) (Runs.after net.step net.start run) := by
  induction run using List.reverseRecOn with
  | nil => exact ⟨nodeInStep_start, nodeInvariant_start⟩
  | append_singleton run e ih =>
    simp only [trace_concat, Runs.after_concat] at hb ⊢
    obtain ⟨hin, hinv⟩ := ih ((requestsOf_le n _ _).trans hb)
    obtain ⟨hdoes, hin'⟩ := nodeDoes_step hrt hin e hb
    exact ⟨hin', hinv.step hdoes⟩

/-- **No two requests of a transport have the same request id, and none is
answered twice**, as long as it sends no more than there are sessions. -/
theorem answered_once (run : List (NetworkEvent N)) (n : N) (hb : (requestsOf n (net.trace run)).length ≤ 65535) :
    ((requestsOf n (net.trace run)).map VsomeipMessage.getRequest).Nodup ∧
    (((net.trace run).filterMap (Happened.answerOf n)).map VsomeipMessage.getRequest).Nodup := by
  obtain ⟨-, h⟩ := run_node hrt run hb
  exact ⟨h.requests_nodup, h.once⟩

/-- **Of the first reply to a request a response is made, if one can be built
of it**, whenever it comes and whatever else was sent and received. -/
theorem first_reply_answers (run : List (NetworkEvent N)) {n : N}
    (hb : (requestsOf n (net.trace run)).length ≤ 65535) {req : UMessage} {q m : VsomeipMessage} (id : UUID)
    (hq : .requested n req q ∈ net.trace run) (hno : ¬ RepliedTo (net.trace run) n q.getRequest)
    (hm : m ∈ (Runs.after net.step net.start run).wire) (hr : m.IsReply) (hk : m.getRequest = q.getRequest) :
    (∃ resp', (net.step (Runs.after net.step net.start run) (.deliver n m id)).2 = .answered n m resp') ↔
      ∃ payload source resp' reqId sink, ReplySource net.deps.up (net.config n).remoteAuthority m payload source ∧
        req.attrs.id = some reqId ∧ req.attrs.source = some sink ∧
        net.deps.up.buildWithPayload (.response sink reqId source (some m.replyCommStatus)) id payload .unspecified =
          .ok resp' := by
  obtain ⟨-, h⟩ := run_node hrt run hb
  have haddr : net.Addressed (Runs.after net.step net.start run) n m := by
    refine ⟨hm, fun _ => ?_⟩
    rw [(createRequestId_inj hk).1, h.client req q hq]
  obtain ⟨⟨reqId, sink⟩, hentry⟩ := h.kept req q hq hno
  obtain ⟨req₁, q₁, hq₁, hk₁, hident, horigin⟩ := h.pending _ _ _ hentry
  obtain ⟨rfl, rfl⟩ := h.request_unique hq₁ hq hk₁
  rw [← hk] at hentry
  have hq' : m.messageType ≠ .request := by
    rcases hr with ht | ht <;> simp [ht]
  simp only [step, if_pos haddr]
  cases hconv : convertVsomeipMsgToUmsg (net.env n).up (net.env n).authorityName (net.env n).selfUuri
    (net.env n).mechatronicsAuthorityName id m
    ((Runs.after net.step net.start run).engines n).state.rpcCorrelation with
  | mk res rpc =>
  rcases convertReply_cases hr hconv with
    ⟨payload, source, reqId', sink', hparts', hstored, -, hres⟩ | ⟨_, rfl, -, hnone⟩
  · cases hentry.symm.trans hstored
    constructor
    · intro hgiven
      obtain ⟨resp', hans⟩ := hgiven
      cases res with
      | error e => cases hans
      | ok umsg =>
        have hbuilt := buildUMessage_ok_iff.1 hres.symm
        exact ⟨payload, source, umsg, reqId, sink, hparts', hident, horigin, hbuilt⟩
    · intro hgiven
      obtain ⟨payload', source', resp', reqId', sink', hparts'', hident', horigin', hbuilt⟩ := hgiven
      obtain ⟨rfl, rfl⟩ := hparts'.unique hparts''
      cases hident.symm.trans hident'
      cases horigin.symm.trans horigin'
      have hok : res = .ok resp' := hres.trans (buildUMessage_ok_iff.2 hbuilt)
      subst hok
      exact ⟨resp', by simp [making, hq', hr]⟩
  · constructor
    · intro hgiven
      obtain ⟨_, hans⟩ := hgiven
      cases hans
    · intro hgiven
      obtain ⟨payload, source, -, -, -, hparts', -⟩ := hgiven
      have hempty := hnone payload source hparts'
      exact absurd (hentry.symm.trans hempty) (by simp)

end Node

/-! ## A run of the network -/

/-- The request `req`, as the service gets it. -/
structure UMessage.ArrivesAs (req req' : UMessage) : Prop where
  payload : req'.payload = some (setDataSafe req.bytes)
  sink : ∃ sink authority, req.attrs.sink = some sink ∧ req'.attrs.sink =
    some ⟨authority, (splitU32ToU16 sink.ueId).2.toUInt32, (splitU32ToU8 sink.ueVersionMajor).2.2.2.toUInt32,
      (splitU32ToU16 sink.resourceId).2.toUInt32⟩

/-- The response `resp`, as the client gets it that sent `req`. -/
structure UMessage.Answers (resp' req resp : UMessage) : Prop where
  payload : resp'.payload = some (setDataSafe resp.bytes)
  status : resp'.attrs.commstatus = some (.known (statusArriving resp.attrs.commstatus))
  correlated : ∃ id source, req.attrs.id = some id ∧ req.attrs.source = some source ∧
    resp'.attrs.reqid = some id ∧ resp'.attrs.sink = some source

/-- What has to be done before `o`. -/
def Happened.Follows (past : List (Happened N)) : Happened N → Prop
  | .received _ q req' => ∃ n req, .requested n req q ∈ past ∧ req.ArrivesAs req'
  | .responded n' resp m => ∃ q req', .received n' q req' ∈ past ∧ resp.attrs.reqid = req'.attrs.id ∧
      m.getRequest = q.getRequest ∧ resp.RepliedAs m
  | .answered n m resp' => ∃ n' req q req' resp, .requested n req q ∈ past ∧ .received n' q req' ∈ past ∧
      .responded n' resp m ∈ past ∧ m.getRequest = q.getRequest ∧ req.ArrivesAs req' ∧
      resp.attrs.reqid = req'.attrs.id ∧ resp'.Answers req resp
  | _ => True

omit [DecidableEq N] in
theorem Happened.Follows.mono (past later : List (Happened N)) (o : Happened N) (hsub : past ⊆ later)
    (h : Happened.Follows past o) : Happened.Follows later o := by
  cases o with
  | received n q req' =>
    obtain ⟨n₀, req, hreq, harr⟩ := h
    exact ⟨n₀, req, hsub hreq, harr⟩
  | responded n resp m =>
    obtain ⟨q, req', hrec, hrest⟩ := h
    exact ⟨q, req', hsub hrec, hrest⟩
  | answered n m resp' =>
    obtain ⟨n', req, q, req', resp, hreq, hrec, hresp, hrest⟩ := h
    exact ⟨n', req, q, req', resp, hsub hreq, hsub hrec, hsub hresp, hrest⟩
  | requested n req q => trivial
  | refused n m => trivial
  | nothing => trivial

/-- What the wire and the tables say of what was done. -/
structure NetworkInvariant (net : RpcNetwork N) (done : List (Happened N)) (s : NetworkState N) : Prop where
  node : ∀ n, NodeInvariant net n done s
  wire : ∀ m ∈ s.wire, (∃ n req, .requested n req m ∈ done) ∨ ∃ n resp, .responded n resp m ∈ done
  sentAs : ∀ n req q, .requested n req q ∈ done → req.SentAs q
  owed : ∀ n r k, s.owed n r = some k → ∃ q req', .received n q req' ∈ done ∧ req'.attrs.id = some r ∧ q.getRequest = k
  justified : Trace.Justified Happened.Follows done

namespace NetworkInvariant

variable (h : NetworkInvariant net done s) (hdoes : StepDoes net done s s' n o)

include h hdoes

theorem step_wire : ∀ m ∈ s'.wire,
    (∃ n req, .requested n req m ∈ done ++ [o]) ∨ ∃ n resp, .responded n resp m ∈ done ++ [o] := by
  have hold : ∀ m ∈ s.wire,
      (∃ n req, .requested n req m ∈ done ++ [o]) ∨ ∃ n resp, .responded n resp m ∈ done ++ [o] := by
    intro m hm
    rcases h.wire m hm with ⟨n, req, hreq⟩ | ⟨n, resp, hresp⟩
    · exact .inl ⟨n, req, List.mem_append_left _ hreq⟩
    · exact .inr ⟨n, resp, List.mem_append_left _ hresp⟩
  intro m hm
  cases hdoes with
  | @requested req q _ _ _ _ _ _ _ hwire _ _ =>
    rw [hwire, List.mem_append, List.mem_singleton] at hm
    rcases hm with hm | rfl
    · exact hold m hm
    · exact .inl ⟨n, req, by simp⟩
  | @responded resp m' _ _ _ _ hwire _ _ =>
    rw [hwire, List.mem_append, List.mem_singleton] at hm
    rcases hm with hm | rfl
    · exact hold m hm
    · exact .inr ⟨n, resp, by simp⟩
  | received _ _ _ _ hwire _ _ => exact hold m (hwire ▸ hm)
  | answered _ _ _ _ _ hwire _ _ => exact hold m (hwire ▸ hm)
  | refused hwire _ _ => exact hold m (hwire ▸ hm)
  | nothing hwire _ _ => exact hold m (hwire ▸ hm)

theorem step_sentAs (n' : N) (req : UMessage) (q : VsomeipMessage) (hq : .requested n' req q ∈ done ++ [o]) :
    req.SentAs q := by
  rcases mem_done.1 hq with hq | rfl
  · exact h.sentAs n' req q hq
  · cases hdoes with
    | requested hsentAs => exact hsentAs

theorem step_owed (n' : N) (r : UUID) (k : SomeIpRequestId) (hk : s'.owed n' r = some k) :
    ∃ q req', .received n' q req' ∈ done ++ [o] ∧ req'.attrs.id = some r ∧ q.getRequest = k := by
  have hold : s.owed n' r = some k →
      ∃ q req', .received n' q req' ∈ done ++ [o] ∧ req'.attrs.id = some r ∧ q.getRequest = k := by
    intro hk
    obtain ⟨q, req', hq, hrest⟩ := h.owed n' r k hk
    exact ⟨q, req', List.mem_append_left _ hq, hrest⟩
  cases hdoes with
  | requested _ _ _ _ _ _ _ howed => exact hold (howed ▸ hk)
  | responded _ _ _ _ _ htakes =>
    rw [htakes] at hk
    exact hold (PartialMap.update_remove_eq_some.1 hk).1
  | @received q req' _ _ _ _ hident _ _ hstores =>
    rw [hstores] at hk
    rcases PartialMap.update_insert_eq_some hk with ⟨rfl, rfl, hv⟩ | hk
    · exact ⟨q, req', by simp, hident, hv.symm⟩
    · exact hold hk
  | answered _ _ _ _ _ _ _ howed => exact hold (howed ▸ hk)
  | refused _ howed _ => exact hold (howed ▸ hk)
  | nothing _ _ howed => exact hold (howed ▸ hk)

/-- The whole chain is found in what was done. -/
theorem step_follows {canonical : String → String} (hparts : net.deps.up.UriParts canonical)
    (hcarries : net.deps.up.Carries) (hinj : Function.Injective net.client) : Happened.Follows done o := by
  -- A request on the wire was sent as one.
  have hrequest : ∀ {q : VsomeipMessage}, q ∈ s.wire → q.messageType = .request →
      ∃ n req, .requested n req q ∈ done := by
    intro q hq ht
    rcases h.wire q hq with hreq | ⟨n, resp, hresp⟩
    · exact hreq
    · obtain ⟨_, _, -, -, -, hreplied⟩ := h.justified.mem Happened.Follows.mono hresp
      rcases hreplied.reply with hr | hr <;> cases ht.symm.trans hr
  cases hdoes with
  | requested => trivial
  | responded hrepliedAs hreqid hanswers _ _ _ =>
    obtain ⟨q, req', hrec, hident, hk⟩ := h.owed _ _ _ hanswers
    exact ⟨q, req', hrec, hreqid.trans hident.symm, hk.symm, hrepliedAs⟩
  | @received q req' _ honWire htype hconverts _ _ _ _ =>
    obtain ⟨n₀, req, hreq⟩ := hrequest honWire htype
    have hsentAs := h.sentAs n₀ req q hreq
    obtain ⟨sink, hsink, hservice, hmethod, hversion⟩ := hsentAs.sink
    obtain ⟨_, _, hconv⟩ := hconverts
    obtain ⟨hpayload, _, hattrs⟩ := received_request hparts hcarries htype hconv
    rw [hservice, hmethod, hversion] at hattrs
    exact ⟨n₀, req, hreq, hpayload.trans hsentAs.payload, sink, _, hsink, congrArg UAttributes.sink hattrs⟩
  | @answered m resp' id source honWire hreply hclient hpending hconverts _ _ _ =>
    rcases h.wire m honWire with ⟨n₀, req₀, hreq₀⟩ | ⟨n', resp, hresp⟩
    · rcases hreply with hr | hr <;> cases (h.sentAs n₀ req₀ m hreq₀).type.symm.trans hr
    obtain ⟨q, req', hrec, hreqid', hk, hreplied⟩ := h.justified.mem Happened.Follows.mono hresp
    obtain ⟨n₀, req, hreq, harrives⟩ := h.justified.mem Happened.Follows.mono hrec
    -- The client id in the reply says whose request it was.
    have hclients : m.client = q.client := (createRequestId_inj hk).1
    have hn : n₀ = n := by
      refine hinj ?_
      rw [← (h.node n₀).client req q hreq, ← hclients, hclient]
    subst hn
    obtain ⟨req₁, q₁, hreq₁, hk₁, hident, horigin⟩ := (h.node n₀).pending _ _ _ hpending
    obtain ⟨rfl, rfl⟩ := (h.node n₀).request_unique hreq₁ hreq (hk₁.trans hk)
    obtain ⟨_, _, hconv⟩ := hconverts
    obtain ⟨hpayload, hattrs⟩ := received_reply hparts hcarries hreply hpending hconv
    refine ⟨n', req₁, q₁, req', resp, hreq, hrec, hresp, hk, harrives, hreqid', ?_, ?_, id, source, hident, horigin,
      congrArg UAttributes.reqid hattrs, congrArg UAttributes.sink hattrs⟩
    · rw [hpayload, hreplied.payload]
    · rw [hattrs, ← hreplied.status]
      rfl
  | refused => trivial
  | nothing => trivial

end NetworkInvariant

/-- No transport sends more requests than there are sessions. -/
def Bounded (done : List (Happened N)) : Prop := ∀ n, (requestsOf n done).length ≤ 65535

theorem Bounded.of_length {run : List (NetworkEvent N)} (h : run.length ≤ 65535) : Bounded (net.trace run) :=
  fun _ => requestsOf_le_run h

section Network

theorem networkInvariant_start : NetworkInvariant net [] net.start where
  node _ := nodeInvariant_start
  wire := by simp [start]
  sentAs := by simp
  owed := by intro n r k hk; cases hk
  justified := trivial

variable {canonical : String → String} (hrt : net.deps.rt.MakesRequests) (hparts : net.deps.up.UriParts canonical)
  (hcarries : net.deps.up.Carries) (hinj : Function.Injective net.client)

include hrt hparts hcarries hinj

/-- **A step keeps what is known**, once the requests of each transport are
accounted for. -/
theorem NetworkInvariant.step (h : NetworkInvariant net done s) (e : NetworkEvent N)
    (hin : NodeInStep net e.node done s) (hb : (requestsOf e.node (done ++ [(net.step s e).2])).length ≤ 65535)
    (hnode : ∀ n, NodeInvariant net n (done ++ [(net.step s e).2]) (net.step s e).1) :
    NetworkInvariant net (done ++ [(net.step s e).2]) (net.step s e).1 := by
  obtain ⟨hdoes, -⟩ := shows_step hrt e hin hb
  exact ⟨hnode, h.step_wire hdoes, h.step_sentAs hdoes, h.step_owed hdoes,
    Trace.justified_concat.2 ⟨h.justified, h.step_follows hdoes hparts hcarries hinj⟩⟩

theorem run_network (run : List (NetworkEvent N)) (hb : Bounded (net.trace run)) :
    NetworkInvariant net (net.trace run) (Runs.after net.step net.start run) := by
  induction run using List.reverseRecOn with
  | nil => exact networkInvariant_start
  | append_singleton run e ih =>
    have hnode := fun n => (run_node hrt (run ++ [e]) (hb n)).2
    simp only [trace_concat, Runs.after_concat] at hb hnode ⊢
    have hbefore : Bounded (net.trace run) := fun n => (requestsOf_le n _ _).trans (hb n)
    exact (ih hbefore).step hrt hparts hcarries hinj e (run_node hrt run (hbefore _)).1 (hb _) hnode

/-- **Every response that is made of a reply is the response to the request**:
each request received was sent, each response sent was to a request received,
and each response that is made of a reply was sent to a request of its
receiver, with the id and the source of that request, the payload of that
response and the status its return code tells. -/
theorem answers_are_justified (run : List (NetworkEvent N)) (hb : Bounded (net.trace run)) :
    Trace.Justified Happened.Follows (net.trace run) :=
  (run_network hrt hparts hcarries hinj run hb).justified

end Network

/-! ### A client and a service -/

def sampleNetwork : RpcNetwork Bool where
  deps := (sampleEnv false).toDeps
  config := fun _ => sampleTransport
  client := fun service => if service then 8 else 7

def sampleRequestOnWire : VsomeipMessage := ⟨.request, 2, 1, 3, 7, 1, 1, .ok, some []⟩
def sampleReplyOnWire : VsomeipMessage := ⟨.response, 1, 1, 1, 7, 1, 3, .ok, some [5]⟩

/-- A request and the response to it, which is under way. -/
def sampleExchange : List (NetworkEvent Bool) :=
  [.command false (.send sampleRequest), .engineTurn false, .deliver true sampleRequestOnWire (.sample 2),
    .command true (.send (sampleReply .ok)), .engineTurn true]

/-- The response is handed in, twice. -/
def sampleDelivery : List (NetworkEvent Bool) :=
  sampleExchange ++ [.deliver false sampleReplyOnWire (.sample 3), .deliver false sampleReplyOnWire (.sample 4)]

theorem sampleNetwork_client : Function.Injective sampleNetwork.client := by
  intro a b h
  cases a <;> cases b <;> first | rfl | cases h

theorem sampleNetwork_makesRequests : sampleNetwork.deps.rt.MakesRequests := rfl

theorem sampleDelivery_trace : ∃ req' resp', sampleNetwork.trace sampleDelivery =
    [.nothing, .requested false sampleRequest sampleRequestOnWire, .received true sampleRequestOnWire req', .nothing,
      .responded true (sampleReply .ok) sampleReplyOnWire, .answered false sampleReplyOnWire resp',
      .refused false sampleReplyOnWire] := ⟨_, _, rfl⟩

theorem answers_are_justified_sample :
    (∃ resp', .answered false sampleReplyOnWire resp' ∈ sampleNetwork.trace sampleDelivery) ∧
    Trace.Justified Happened.Follows (sampleNetwork.trace sampleDelivery) := by
  refine ⟨?_, answers_are_justified sampleNetwork_makesRequests UpRust.accepting_uriParts UpRust.accepting_carries
    sampleNetwork_client sampleDelivery (.of_length (by decide))⟩
  obtain ⟨req', resp', htrace⟩ := sampleDelivery_trace
  exact ⟨resp', by rw [htrace]; simp⟩

theorem answered_once_sample :
    ((requestsOf false (sampleNetwork.trace sampleDelivery)).map VsomeipMessage.getRequest).Nodup ∧
    (((sampleNetwork.trace sampleDelivery).filterMap (Happened.answerOf false)).map
      VsomeipMessage.getRequest).Nodup :=
  answered_once sampleNetwork_makesRequests sampleDelivery false (requestsOf_le_run (by decide))

theorem sampleExchange_trace : ∃ req', sampleNetwork.trace sampleExchange =
    [.nothing, .requested false sampleRequest sampleRequestOnWire, .received true sampleRequestOnWire req', .nothing,
      .responded true (sampleReply .ok) sampleReplyOnWire] := ⟨_, rfl⟩

theorem first_reply_answers_sample : ∃ resp',
    (sampleNetwork.step (Runs.after sampleNetwork.step sampleNetwork.start sampleExchange)
      (.deliver false sampleReplyOnWire (.sample 3))).2 = .answered false sampleReplyOnWire resp' := by
  obtain ⟨req', htrace⟩ := sampleExchange_trace
  have hsent : .requested false sampleRequest sampleRequestOnWire ∈ sampleNetwork.trace sampleExchange := by
    rw [htrace]; simp
  have hno : ¬ RepliedTo (sampleNetwork.trace sampleExchange) false sampleRequestOnWire.getRequest := by
    rw [htrace]
    simp [RepliedTo]
  have hwire : sampleReplyOnWire ∈ (Runs.after sampleNetwork.step sampleNetwork.start sampleExchange).wire := by decide
  refine (first_reply_answers sampleNetwork_makesRequests sampleExchange (requestsOf_le_run (by decide)) (.sample 3)
    hsent hno hwire (.inl rfl) rfl).2 ?_
  exact ⟨[5], _, _, .sample 1, _, ⟨.inl rfl, rfl, rfl⟩, rfl, rfl, rfl⟩

end VsomeipTransport
