/-
One vsomeip message that several handlers are invoked for.

Every handler converts the message again, against the correlation the ones
before it left (`deliveries`). So an event reaches every listener
(`Ready.notification`), a request reaches every listener as a message of its
own (`Ready.request`), and a reply reaches the first listener only, which
takes the pending request away from the others (`Ready.reply`).
-/
import VsomeipTransport.SharedExternFnFacts

namespace VsomeipTransport

variable {T L : Type}

/-- A handler's turn at a message: the configuration it is registered for,
the id its builder makes, and what else is done to the registry meanwhile. -/
structure Invocation (T L : Type) where
  config : ListenerConfig L
  messageHandlerId : MessageHandlerId
  id : UUID
  others : Interference T L

namespace Invocation

def callback (m : VsomeipMessage) (i : Invocation T L) : Callback := ⟨i.messageHandlerId, m, i.id⟩

/-- What comes of the turn if the configuration's listener is found. -/
def outcome (i : Invocation T L) : Except UStatus UMessage → Delivery L
  | .ok umsg => .handedOver i.config.listener umsg
  | .error _ => .dropped

/-- The listener was handed some message. -/
def Received (i : Invocation T L) (x : Delivery L) : Prop := ∃ umsg, x = .handedOver i.config.listener umsg

/-- The listener was handed a message with the id of the turn. -/
def ReceivedOwn (i : Invocation T L) (x : Delivery L) : Prop :=
  ∃ umsg, x = .handedOver i.config.listener umsg ∧ umsg.attrs.id = some i.id

end Invocation

/-- The triple covers the message, exactly or by a wildcard. -/
def HandlerKey.Covers (key : HandlerKey) (m : VsomeipMessage) : Prop :=
  key.service = m.service ∧ (key.instanceId = m.instanceId ∨ key.instanceId = anyInstance) ∧
    (key.method = m.method ∨ key.method = anyMethod)

instance (key : HandlerKey) (m : VsomeipMessage) : Decidable (key.Covers m) := by
  unfold HandlerKey.Covers
  infer_instance

namespace Process

variable [DecidableEq T] [DecidableEq L] {d : Deps} {p p' : Process T L} {t : T} {m : VsomeipMessage}

def invokeStep (d : Deps) (m : VsomeipMessage) (p : Process T L) (i : Invocation T L) : Process T L × Delivery L :=
  let (delivery, p) := callSharedExternFn d p (i.callback m) i.others
  (p, delivery)

/-- What becomes of a message whose handlers are invoked one after another. -/
def deliveries (d : Deps) (m : VsomeipMessage) (p : Process T L) (is : List (Invocation T L)) : List (Delivery L) :=
  Runs.outputs (invokeStep d m) p is

/-- The process after that. -/
def delivered (d : Deps) (m : VsomeipMessage) (p : Process T L) (is : List (Invocation T L)) : Process T L :=
  Runs.after (invokeStep d m) p is

/-- All listeners get the message, and of a request they get the same. -/
structure OneUMessage (d : Deps) (m : VsomeipMessage) (p : Process T L) (is : List (Invocation T L)) : Prop where
  all : List.Forall₂ Invocation.Received is (deliveries d m p is)
  sameId : m.messageType = .request → ∀ listener umsg listener' umsg',
    .handedOver listener umsg ∈ deliveries d m p is → .handedOver listener' umsg' ∈ deliveries d m p is →
    umsg.attrs.id = umsg'.attrs.id

/-! ## One turn -/

/-- A callback changes the registry by what others do, and no configuration. -/
theorem callSharedExternFn_frame {c : Callback} {others : Interference T L} {delivery}
    (h : callSharedExternFn d p c others = (delivery, p')) :
    (∃ ops, ops ⊆ others.all ∧ p'.handlers = Runs.after (handlerStep d.up) p.handlers ops) ∧
      ∀ t, (p'.transports t).config = (p.transports t).config := by
  have hconfig : ∀ (p₀ : Process T L) t t' rpc,
      ((p₀.setRpcCorrelation t rpc).transports t').config = (p₀.transports t').config := by
    intro p₀ t t' rpc
    simp only [setRpcCorrelation, setEngine, setTransport, Function.update_apply]
    split
    · next ht => rw [ht]
    · rfl
  simp only [callSharedExternFn] at h
  split at h
  · cases h
    exact ⟨⟨others.beforeStorage, List.subset_append_left _ _, rfl⟩, fun _ => rfl⟩
  next t hs =>
  cases hres : convertFor d (interfere d (interfere d p others.beforeStorage) others.beforeConversion) t c with
  | mk res rpc =>
  rw [hres] at h
  cases res with
  | error e =>
    cases h
    refine ⟨⟨others.beforeStorage ++ others.beforeConversion, ?_, by rw [Runs.after_append]; rfl⟩, fun t' => ?_⟩
    · rw [Interference.all, ← List.append_assoc]
      exact List.subset_append_left _ _
    · exact hconfig _ t t' rpc
  | ok umsg =>
    have hend : p' = interfere d ((interfere d (interfere d p others.beforeStorage)
        others.beforeConversion).setRpcCorrelation t rpc) others.beforeListener := by
      simp only at h
      split at h
      · cases h; rfl
      · cases h; rfl
    subst hend
    exact ⟨⟨others.all, List.Subset.refl _, (after_all d.up p.handlers others).symm⟩, fun t' => hconfig _ t t' rpc⟩

/-- The configurations are registered with their handlers, and stay so while
their turns are under way. -/
structure Ready (p : Process T L) (t : T) (is : List (Invocation T L)) : Prop where
  pool : PoolInvariant p.handlers
  bound : ∀ i ∈ is, p.handlers.Bound t i.messageHandlerId i.config
  kept : ∀ i ∈ is, ∀ j ∈ is, HandlerOp.release t i.config ∉ j.others.all

variable {i : Invocation T L} {is : List (Invocation T L)}

/-- **The first turn comes to what the conversion does**, and the others are
still ready. -/
theorem Ready.invoke (h : Ready p t (i :: is)) :
    ∃ p', callSharedExternFn d p (i.callback m) i.others = (i.outcome (p.convertFor d t (i.callback m)).1, p') ∧
      Ready p' t is ∧ p'.rpcCorrelation t = (p.convertFor d t (i.callback m)).2 ∧
      (p'.transports t).config = (p.transports t).config := by
  have hbound := h.bound i List.mem_cons_self
  have hall : HandlerOp.release t i.config ∉ i.others.all := h.kept i List.mem_cons_self i List.mem_cons_self
  have hfirst : HandlerOp.release t i.config ∉ i.others.beforeStorage := fun hm =>
    hall (List.mem_append_left _ hm)
  have hs : StorageFound d p (i.callback m) i.others t :=
    (storageFound_iff h.pool).2 ⟨i.config, .inl ⟨hbound, hfirst⟩⟩
  have hl : ListenerFound d p (i.callback m) i.others t i.config := (listenerFound_iff h.pool).2 (.inl ⟨hbound, hall⟩)
  cases hcall : callSharedExternFn d p (i.callback m) i.others with
  | mk delivery p' =>
  obtain ⟨⟨ops, hops, hhandlers⟩, hconfig⟩ := callSharedExternFn_frame hcall
  have hready : Ready p' t is := by
    refine ⟨hhandlers ▸ h.pool.run d.up ops, fun j hj => ?_, fun j hj k hk => ?_⟩
    · rw [hhandlers]
      refine (bound_after_iff h.pool ops).2 (.inl ⟨h.bound j (List.mem_cons_of_mem _ hj), fun hm => ?_⟩)
      exact h.kept j (List.mem_cons_of_mem _ hj) i List.mem_cons_self (hops hm)
    · exact h.kept j (List.mem_cons_of_mem _ hj) k (List.mem_cons_of_mem _ hk)
  rcases callSharedExternFn_cases hcall with ⟨hno, -⟩ | ⟨t', res, rpc, hs', hconv, hrpc, hcases⟩
  · exact absurd hs (hno t)
  obtain rfl := hs.unique hs'
  refine ⟨p', ?_, hready, by rw [hrpc, Function.update_self, hconv], hconfig t⟩
  rw [hconv]
  rcases hcases with ⟨e, rfl, rfl⟩ | ⟨umsg, rfl, ⟨cfg, hl', rfl⟩ | ⟨hno, -⟩⟩
  · rfl
  · obtain rfl : i.config = cfg := Option.some.inj (hl.symm.trans hl')
    rfl
  · exact absurd hl (hno i.config)

theorem deliveries_cons {delivery} (h : callSharedExternFn d p (i.callback m) i.others = (delivery, p')) :
    deliveries d m p (i :: is) = delivery :: deliveries d m p' is := by
  simp only [deliveries, Runs.outputs_cons, invokeStep, h]

theorem delivered_cons {delivery} (h : callSharedExternFn d p (i.callback m) i.others = (delivery, p')) :
    delivered d m p (i :: is) = delivered d m p' is := by
  simp only [delivered, Runs.after_cons, invokeStep, h]

omit [DecidableEq T] [DecidableEq L] in
/-- Whether a message converts is a matter of the configuration and the
correlation. -/
theorem convertible_congr {c : Callback} (hconfig : (p'.transports t).config = (p.transports t).config)
    (hrpc : p'.rpcCorrelation t = p.rpcCorrelation t) : p'.Convertible d t c ↔ p.Convertible d t c := by
  simp only [Convertible, UPTransportVsomeip.getLocalAuthority, hconfig, hrpc]

/-! ## All turns -/

/-- Every listener receives an event. -/
theorem Ready.notification (h : Ready p t is) (ht : m.messageType = .notification)
    (hconv : ∀ i ∈ is, p.Convertible d t (i.callback m)) :
    List.Forall₂ Invocation.Received is (deliveries d m p is) := by
  induction is generalizing p with
  | nil => exact .nil
  | cons i is ih =>
    obtain ⟨p', hcall, hready, hrpc, hconfig⟩ := h.invoke (d := d) (m := m)
    obtain ⟨umsg, hok⟩ := convertible_iff.1 (hconv i List.mem_cons_self)
    have hq : m.messageType ≠ .request := by simp [ht]
    have hr : ¬ m.IsReply := by simp [VsomeipMessage.IsReply, ht]
    have hsame : p'.rpcCorrelation t = p.rpcCorrelation t := by
      rw [hrpc]
      exact (VsomeipMessageToUMessage.convertOther_cases hq hr (Prod.ext hok rfl)).1
    rw [deliveries_cons hcall, hok]
    refine .cons ⟨umsg, rfl⟩ (ih hready fun j hj => ?_)
    exact (convertible_congr hconfig hsame).2 (hconv j (List.mem_cons_of_mem _ hj))

omit [DecidableEq T] [DecidableEq L] in
/-- A request converts if it can be built and the id of its turn is not
taken. -/
theorem convertible_request_iff (hcarries : d.up.Carries) (ht : m.messageType = .request) :
    p.Convertible d t (i.callback m) ↔
      (∃ umsg sink source, VsomeipMessageToUMessage.RequestBuilt d.up (p.transports t).getLocalAuthority
        (p.transports t).config.uri (p.transports t).config.remoteAuthority i.id m umsg sink source) ∧
      (p.rpcCorrelation t).meRequestCorrelation i.id = none := by
  have hid : ∀ {umsg sink source}, VsomeipMessageToUMessage.RequestBuilt d.up (p.transports t).getLocalAuthority
      (p.transports t).config.uri (p.transports t).config.remoteAuthority i.id m umsg sink source →
      umsg.attrs.id = some i.id := by
    intro umsg sink source hb
    obtain ⟨payload, -, hbuilt⟩ := hb.built
    rw [hcarries.attrs hbuilt]
    rfl
  constructor
  · intro hconv
    cases hconv with
    | request hb hi hvacant =>
      obtain rfl := Option.some.inj ((hid hb).symm.trans hi)
      exact ⟨⟨_, _, _, hb⟩, hvacant⟩
    | reply hparts =>
      have hreply : m.IsReply := hparts.type
      simp [VsomeipMessage.IsReply, ht] at hreply
    | notification htype =>
      have hevent : m.messageType = .notification := htype
      rw [ht] at hevent
      cases hevent
  · intro hgiven
    obtain ⟨⟨umsg, sink, source, hb⟩, hvacant⟩ := hgiven
    exact .request hb (hid hb) hvacant

omit [DecidableEq T] [DecidableEq L] in
/-- A request that converts has the id of its turn, and stores its request id
under it. -/
theorem convertFor_request (hcarries : d.up.Carries) (ht : m.messageType = .request)
    (hconv : p.Convertible d t (i.callback m)) :
    ∃ umsg, (p.convertFor d t (i.callback m)).1 = .ok umsg ∧ umsg.attrs.id = some i.id ∧
      (p.convertFor d t (i.callback m)).2 = { p.rpcCorrelation t with
        meRequestCorrelation := (p.rpcCorrelation t).meRequestCorrelation.insert i.id m.getRequest } := by
  obtain ⟨umsg, hok⟩ := convertible_iff.1 hconv
  rcases VsomeipMessageToUMessage.convertRequest_cases (m := m) ht (Prod.ext hok rfl) with
    ⟨umsg', sink, source, r, he, hb, hid, -, hrpc⟩ | ⟨e, he, -⟩
  · cases he
    obtain ⟨payload, -, hbuilt⟩ := hb.built
    rw [hcarries.attrs hbuilt] at hid
    cases hid
    refine ⟨umsg, hok, by rw [hcarries.attrs hbuilt]; rfl, hrpc⟩
  · cases he

/-- Every listener receives a request, each as a message with an id of its
own, and its request id is stored under all of these. -/
theorem Ready.request (h : Ready p t is) (hcarries : d.up.Carries) (ht : m.messageType = .request)
    (hids : (is.map Invocation.id).Nodup) (hconv : ∀ i ∈ is, p.Convertible d t (i.callback m)) :
    List.Forall₂ Invocation.ReceivedOwn is (deliveries d m p is) ∧
      ∀ r, ((delivered d m p is).rpcCorrelation t).meRequestCorrelation r =
        if r ∈ is.map Invocation.id then some m.getRequest else (p.rpcCorrelation t).meRequestCorrelation r := by
  induction is generalizing p with
  | nil => exact ⟨.nil, fun r => rfl⟩
  | cons i is ih =>
    rw [List.map_cons, List.nodup_cons] at hids
    obtain ⟨p', hcall, hready, hrpc, hconfig⟩ := h.invoke (d := d) (m := m)
    obtain ⟨umsg, hok, hid, hstored⟩ := convertFor_request hcarries ht (hconv i List.mem_cons_self)
    rw [hstored] at hrpc
    have hconv' : ∀ j ∈ is, p'.Convertible d t (j.callback m) := by
      intro j hj
      obtain ⟨hbuilt, hvacant⟩ := (convertible_request_iff hcarries ht).1 (hconv j (List.mem_cons_of_mem _ hj))
      have hne : j.id ≠ i.id := fun he => hids.1 (he ▸ List.mem_map_of_mem hj)
      rw [convertible_request_iff hcarries ht, hrpc]
      simp only [UPTransportVsomeip.getLocalAuthority, hconfig]
      exact ⟨hbuilt, by rw [PartialMap.insert_of_ne hne, hvacant]⟩
    obtain ⟨hreceived, hme⟩ := ih hready hids.2 hconv'
    rw [deliveries_cons hcall, delivered_cons hcall, hok]
    refine ⟨.cons ⟨umsg, rfl, hid⟩ hreceived, fun r => ?_⟩
    rw [hme r, hrpc]
    simp only [PartialMap.insert_apply, List.map_cons, List.mem_cons]
    by_cases hr : r ∈ is.map Invocation.id
    · simp [hr]
    · simp [hr]

/-- Nobody receives a reply whose request is not pending. -/
theorem Ready.unanswered (h : Ready p t is) (ht : m.IsReply)
    (hnone : (p.rpcCorrelation t).ueRequestCorrelation m.getRequest = none) :
    deliveries d m p is = is.map fun _ => .dropped := by
  induction is generalizing p with
  | nil => rfl
  | cons i is ih =>
    obtain ⟨p', hcall, hready, hrpc, -⟩ := h.invoke (d := d) (m := m)
    cases hconv : p.convertFor d t (i.callback m) with
    | mk res rpc =>
    rw [hconv] at hcall hrpc
    rcases VsomeipMessageToUMessage.convertReply_cases (m := m) ht hconv with
      ⟨_, _, _, _, -, hk, -⟩ | ⟨e, rfl, rfl, -⟩
    · rw [hnone] at hk
      cases hk
    · rw [deliveries_cons hcall, ih hready (by rw [hrpc, hnone])]
      rfl

/-- **The first listener receives a reply, the others do not.** -/
theorem Ready.reply (h : Ready p t (i :: is)) (ht : m.IsReply) (hconv : p.Convertible d t (i.callback m)) :
    ∃ umsg, deliveries d m p (i :: is) = .handedOver i.config.listener umsg :: is.map fun _ => .dropped := by
  obtain ⟨p', hcall, hready, hrpc, -⟩ := h.invoke (d := d) (m := m)
  obtain ⟨umsg, hok⟩ := convertible_iff.1 hconv
  rcases VsomeipMessageToUMessage.convertReply_cases (m := m) ht (Prod.ext hok rfl) with
    ⟨_, _, _, _, -, -, hgone, -⟩ | ⟨e, he, -⟩
  · have hnone : (p'.rpcCorrelation t).ueRequestCorrelation m.getRequest = none := by
      rw [hrpc]
      exact (congrArg (fun r => r.ueRequestCorrelation m.getRequest) hgone).trans (PartialMap.remove_self _ _)
    exact ⟨umsg, by rw [deliveries_cons hcall, hok, hready.unanswered ht hnone]; rfl⟩
  · cases he

end Process

/-! ## More than one listener -/

namespace Process

variable [DecidableEq T] [DecidableEq L] {d : Deps} {p : Process T L} {t : T} {m : VsomeipMessage}
  {i j : Invocation T L} {is : List (Invocation T L)}

/-- Two listeners get different requests. -/
theorem Ready.requests_differ (h : Ready p t (i :: j :: is)) (hcarries : d.up.Carries) (ht : m.messageType = .request)
    (hids : ((i :: j :: is).map Invocation.id).Nodup)
    (hconv : ∀ k ∈ i :: j :: is, p.Convertible d t (k.callback m)) : ¬ OneUMessage d m p (i :: j :: is) := by
  intro hone
  obtain ⟨hreceived, -⟩ := h.request hcarries ht hids hconv
  rw [List.forall₂_cons_left_iff] at hreceived
  obtain ⟨_, rest, ⟨umsg, rfl, hid⟩, hrest, hds⟩ := hreceived
  rw [List.forall₂_cons_left_iff] at hrest
  obtain ⟨_, rest', ⟨umsg', rfl, hid'⟩, -, rfl⟩ := hrest
  have hsame := hone.sameId ht i.config.listener umsg j.config.listener umsg' (by rw [hds]; simp) (by rw [hds]; simp)
  rw [hid, hid', Option.some.injEq] at hsame
  simp [hsame] at hids

/-- The second listener gets no reply. -/
theorem Ready.reply_missed (h : Ready p t (i :: j :: is)) (ht : m.IsReply) (hconv : p.Convertible d t (i.callback m)) :
    ¬ OneUMessage d m p (i :: j :: is) := by
  intro hone
  obtain ⟨umsg, hds⟩ := h.reply ht hconv
  have hall := hone.all
  rw [hds, List.map_cons, List.forall₂_cons, List.forall₂_cons] at hall
  obtain ⟨-, ⟨umsg', hnot⟩, -⟩ := hall
  cases hnot

end Process

/-! ## The responses -/

namespace UMessageToVsomeipMessage

variable {up : UpRust} {rt : VsomeipRuntime}

def respondStep (up : UpRust) (rt : VsomeipRuntime) (rpc : InMemoryRpcCorrelationRegistry) (umsg : UMessage) :
    InMemoryRpcCorrelationRegistry × Except UStatus VsomeipMessage :=
  let (res, rpc) := umsgResponseToVsomeipMessage up rt umsg rpc
  (rpc, res)

/-- The message answers the request that was delivered under this id. -/
structure Answers (r : UUID) (umsg : UMessage) : Prop where
  source : umsg.attrs.source.isSome = true
  reqid : umsg.attrs.reqid = some r

/-- A response to the request id goes out. -/
def GoesOut (k : SomeIpRequestId) (_ : UMessage) (x : Except UStatus VsomeipMessage) : Prop :=
  ∃ m, x = .ok m ∧ m.getRequest = k

/-- A request id that is stored under several ids is answered once for each. -/
theorem respond_each {k : SomeIpRequestId} {ids : List UUID} {replies : List UMessage}
    {rpc : InMemoryRpcCorrelationRegistry} (hids : ids.Nodup)
    (hstored : ∀ r ∈ ids, rpc.meRequestCorrelation r = some k) (hanswers : List.Forall₂ Answers ids replies) :
    List.Forall₂ (GoesOut k) replies (Runs.outputs (respondStep up rt) rpc replies) := by
  induction hanswers generalizing rpc with
  | nil => exact .nil
  | @cons r umsg ids replies ha _ ih =>
    rw [List.nodup_cons] at hids
    have hr := hstored r List.mem_cons_self
    obtain ⟨source, hsource⟩ := Option.isSome_iff_exists.1 ha.source
    cases hres : umsgResponseToVsomeipMessage up rt umsg rpc with
    | mk res rpc' =>
    rw [Runs.outputs_cons]
    simp only [respondStep, hres]
    rcases umsgResponseToVsomeipMessage_cases hres with
      ⟨_, -, -, hno⟩ | ⟨m, source', r', k', rfl, -, hr', hk, hsplit, -, rfl⟩
    · rw [hno source r hsource ha.reqid] at hr
      cases hr
    · obtain rfl := Option.some.inj (hr'.symm.trans ha.reqid)
      obtain rfl := Option.some.inj (hk.symm.trans hr)
      refine .cons ⟨m, rfl, ?_⟩ (ih hids.2 fun r hmem => ?_)
      · rw [VsomeipMessage.getRequest, ← createRequestId_split k', ← hsplit]
      · have hne : r ≠ r' := fun he => hids.1 (he ▸ hmem)
        exact (PartialMap.remove_of_ne hne).trans (hstored r (List.mem_cons_of_mem _ hmem))

end UMessageToVsomeipMessage

namespace Process

variable [DecidableEq T] [DecidableEq L]

/-- **What becomes of one message with several listeners**: all receive an
event; all receive a request, each under an id of its own, and each can
answer it; the first one receives a reply, and no other. -/
theorem message_fans_out (d : Deps) (p : Process T L) (t : T) (m : VsomeipMessage) (is : List (Invocation T L))
    (hcarries : d.up.Carries) (hr : p.handlers.Reachable d.up)
    (hbound : ∀ i ∈ is, p.handlers.Bound t i.messageHandlerId i.config)
    (hkept : ∀ i ∈ is, ∀ j ∈ is, HandlerOp.release t i.config ∉ j.others.all)
    (hids : (is.map Invocation.id).Nodup) (hconv : ∀ i ∈ is, p.Convertible d t (i.callback m)) :
    (m.messageType = .notification → List.Forall₂ Invocation.Received is (deliveries d m p is)) ∧
    (m.messageType = .request → List.Forall₂ Invocation.ReceivedOwn is (deliveries d m p is) ∧
      ∀ rt replies, List.Forall₂ UMessageToVsomeipMessage.Answers (is.map Invocation.id) replies →
        List.Forall₂ (UMessageToVsomeipMessage.GoesOut m.getRequest) replies
          (Runs.outputs (UMessageToVsomeipMessage.respondStep d.up rt) ((delivered d m p is).rpcCorrelation t)
            replies)) ∧
    (m.IsReply → ∀ i rest, is = i :: rest →
      ∃ umsg, deliveries d m p is = .handedOver i.config.listener umsg :: rest.map fun _ => .dropped) := by
  have hready : Ready p t is := ⟨hr.pool, hbound, hkept⟩
  refine ⟨fun ht => hready.notification ht hconv, fun ht => ?_, fun ht i rest he => ?_⟩
  · obtain ⟨hreceived, hstored⟩ := hready.request hcarries ht hids hconv
    refine ⟨hreceived, fun rt replies hanswers => ?_⟩
    exact UMessageToVsomeipMessage.respond_each hids (fun r hmem => by rw [hstored, if_pos hmem]) hanswers
  · subst he
    exact hready.reply ht (hconv i List.mem_cons_self)

/-! ## Two listeners -/

/-- A process that registered two configurations. -/
def sampleWithTwo (cfg cfg' : ListenerConfig L) : Process Unit L :=
  { sample with
    handlers := Runs.after (handlerStep Deps.accepting.up) .new [.get () cfg .least, .get () cfg' .least] }

/-- Their turns at a message, with two ids. -/
def sampleTurns (cfg cfg' : ListenerConfig L) : List (Invocation Unit L) :=
  [⟨cfg, 0, .sample 1, .none⟩, ⟨cfg', 1, .sample 2, .none⟩]

theorem sampleWithTwo_handlers (cfg cfg' : ListenerConfig L) : (sampleWithTwo cfg cfg').handlers =
    Runs.after (handlerStep Deps.accepting.up) .new [.get () cfg .least, .get () cfg' .least] := by
  simp only [sampleWithTwo]

theorem sampleWithTwo_reachable (cfg cfg' : ListenerConfig L) :
    (sampleWithTwo cfg cfg').handlers.Reachable Deps.accepting.up := ⟨_, sampleWithTwo_handlers cfg cfg'⟩

theorem sampleTurns_bound (cfg cfg' : ListenerConfig L) (hne : cfg' ≠ cfg) :
    ∀ i ∈ sampleTurns cfg cfg', (sampleWithTwo cfg cfg').handlers.Bound () i.messageHandlerId i.config := by
  obtain ⟨hfirst, hsecond⟩ := takenBy_two Deps.accepting.up () hne
  intro i hi
  rw [sampleWithTwo_handlers, bound_after_iff PoolInvariant.new]
  simp only [sampleTurns, List.mem_cons, List.not_mem_nil, or_false] at hi
  rcases hi with rfl | rfl
  · exact .inr hfirst
  · exact .inr hsecond

omit [DecidableEq L] in
theorem sampleTurns_kept (cfg cfg' : ListenerConfig L) :
    ∀ i ∈ sampleTurns cfg cfg', ∀ j ∈ sampleTurns cfg cfg', HandlerOp.release () i.config ∉ j.others.all := by
  intro i _ j hj
  simp only [sampleTurns, List.mem_cons, List.not_mem_nil, or_false] at hj
  rcases hj with rfl | rfl
  · simp [Interference.none, Interference.all]
  · simp [Interference.none, Interference.all]

/-- A listener for a method and one for all methods of its service. -/
def methodListener (listener : L) : ListenerConfig L := ⟨⟨"*", 0xFFFFFFFF, 0xFF, 0⟩, some ⟨"foo", 1, 1, 7⟩, listener⟩

def serviceListener (listener : L) : ListenerConfig L :=
  ⟨⟨"*", 0xFFFFFFFF, 0xFF, 0⟩, some ⟨"foo", 1, 1, 0xFFFF⟩, listener⟩

def sampleRequest : VsomeipMessage := ⟨.request, 1, 1, 7, 5, 6, 1, .ok, some []⟩

theorem sampleRequest_convertible (cfg cfg' : ListenerConfig L) :
    ∀ i ∈ sampleTurns cfg cfg', (sampleWithTwo cfg cfg').Convertible .accepting () (i.callback sampleRequest) := by
  intro i _
  rw [convertible_request_iff UpRust.accepting_carries rfl]
  exact ⟨⟨_, _, _, rfl, rfl, rfl, [], rfl, rfl⟩, rfl⟩

theorem message_fans_out_sample :
    List.Forall₂ Invocation.ReceivedOwn (sampleTurns (methodListener false) (serviceListener true))
      (deliveries .accepting sampleRequest (sampleWithTwo (methodListener false) (serviceListener true))
        (sampleTurns (methodListener false) (serviceListener true))) :=
  ((message_fans_out .accepting (sampleWithTwo (methodListener false) (serviceListener true)) () sampleRequest
    (sampleTurns (methodListener false) (serviceListener true)) UpRust.accepting_carries
    (sampleWithTwo_reachable _ _) (sampleTurns_bound _ _ (by decide)) (sampleTurns_kept _ _) (by decide)
    (sampleRequest_convertible _ _)).2.1 rfl).1

/-- A listener for the responses of a method and one for those of all methods
of its service. -/
def responseListener (resourceId : UInt32) (listener : L) : ListenerConfig L :=
  ⟨⟨"me_authority", 1, 1, resourceId⟩, some ⟨"foo", 10, 1, 0⟩, listener⟩

def sampleReply : VsomeipMessage := { sampleRequest with messageType := .response }

/-- A request that waits for the reply. -/
def samplePending : InMemoryRpcCorrelationRegistry :=
  { InMemoryRpcCorrelationRegistry.new with
    ueRequestCorrelation := PartialMap.empty.insert sampleReply.getRequest (.sample 1, ⟨"foo", 10, 1, 0⟩) }

/-- Two listeners get one request under two ids. Of two listeners for one
reply the second gets nothing. -/
theorem not_oneUMessage :
    (let p : Process Unit Bool := sampleWithTwo (methodListener false) (serviceListener true)
     let is := sampleTurns (methodListener false) (serviceListener true)
     (∀ i ∈ is, p.handlers.Bound () i.messageHandlerId i.config ∧ p.Convertible .accepting () (i.callback sampleRequest) ∧
        ∃ key, registerKey .request i.config.sourceFilter i.config.sinkFilter = some key ∧ key.Covers sampleRequest) ∧
      ¬ OneUMessage .accepting sampleRequest p is) ∧
    (let p : Process Unit Bool :=
      (sampleWithTwo (responseListener 7 false) (responseListener 0xFFFF true)).setRpcCorrelation () samplePending
     let is := sampleTurns (responseListener 7 false) (responseListener 0xFFFF true)
     (∀ i ∈ is, p.handlers.Bound () i.messageHandlerId i.config ∧ p.Convertible .accepting () (i.callback sampleReply) ∧
        ∃ key, registerKey .response i.config.sourceFilter i.config.sinkFilter = some key ∧ key.Covers sampleReply) ∧
      ¬ OneUMessage .accepting sampleReply p is) := by
  constructor
  · intro p is
    have hbound := sampleTurns_bound (methodListener false) (serviceListener true) (by decide)
    have hconv := sampleRequest_convertible (methodListener false) (serviceListener true)
    have hready : Ready p () is := ⟨(sampleWithTwo_reachable _ _).pool, hbound, sampleTurns_kept _ _⟩
    refine ⟨fun i hi => ⟨hbound i hi, hconv i hi, ?_⟩,
      hready.requests_differ UpRust.accepting_carries rfl (by decide) hconv⟩
    simp only [is, sampleTurns, List.mem_cons, List.not_mem_nil, or_false] at hi
    rcases hi with rfl | rfl
    · exact ⟨_, rfl, by decide⟩
    · exact ⟨_, rfl, by decide⟩
  · intro p is
    have hhandlers : p.handlers = (sampleWithTwo (responseListener 7 false) (responseListener 0xFFFF true)).handlers :=
      setRpcCorrelation_handlers _ _ _
    have hbound : ∀ i ∈ is, p.handlers.Bound () i.messageHandlerId i.config := by
      rw [hhandlers]
      exact sampleTurns_bound (responseListener 7 false) (responseListener 0xFFFF true) (by decide)
    have hpending : (p.rpcCorrelation ()).ueRequestCorrelation sampleReply.getRequest =
        some (.sample 1, ⟨"foo", 10, 1, 0⟩) := by
      have hrpc : p.rpcCorrelation () = samplePending := by
        rw [setRpcCorrelation_rpcCorrelation, if_pos rfl]
      rw [hrpc]
      simp only [samplePending, PartialMap.insert_self]
    have hconv : ∀ i ∈ is, p.Convertible .accepting () (i.callback sampleReply) := fun i _ =>
      .reply ⟨.inl rfl, rfl, rfl⟩ hpending rfl
    have hpool : PoolInvariant p.handlers := by
      rw [hhandlers]
      exact (sampleWithTwo_reachable _ _).pool
    have hready : Ready p () is := ⟨hpool, hbound, sampleTurns_kept _ _⟩
    refine ⟨fun i hi => ⟨hbound i hi, hconv i hi, ?_⟩, hready.reply_missed (.inl rfl) (hconv _ List.mem_cons_self)⟩
    simp only [is, sampleTurns, List.mem_cons, List.not_mem_nil, or_false] at hi
    rcases hi with rfl | rfl
    · exact ⟨_, rfl, by decide⟩
    · exact ⟨_, rfl, by decide⟩

end Process

end VsomeipTransport
