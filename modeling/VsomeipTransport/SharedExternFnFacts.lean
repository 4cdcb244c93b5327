/-
What a callback can come to, whatever is registered and released meanwhile.

The storage is the one the handler id refers to at the first look-up, the
listener the one it is bound to there at the second. In between the id may
have gone to another configuration: `delivered_to_original_iff` says exactly
when the message goes to a listener the id was not bound to at the start,
`dropped_untouched_iff` exactly when a dropped message leaves its mark on
the correlation.
-/
import VsomeipTransport.BindingFacts
import VsomeipTransport.SharedExternFn
import VsomeipTransport.TransportRuns

namespace VsomeipTransport

namespace Process

variable {T L : Type} [DecidableEq T] [DecidableEq L] {d : Deps} {p p' : Process T L} {c : Callback}
  {others : Interference T L} {delivery : Delivery L}

/-- The storage the handler id refers to at the first look-up. -/
def StorageFound (d : Deps) (p : Process T L) (c : Callback) (others : Interference T L) (t : T) : Prop :=
  (Runs.after (handlerStep d.up) p.handlers others.beforeStorage).messageHandlerIdToTransportStorage
    c.messageHandlerId = some t

/-- What the handler id is bound to at the second look-up. -/
def ListenerFound (d : Deps) (p : Process T L) (c : Callback) (others : Interference T L) (t : T)
    (cfg : ListenerConfig L) : Prop :=
  (Runs.after (handlerStep d.up) p.handlers others.all).Bound t c.messageHandlerId cfg

/-- The message can be converted with what the storage of `t` has. -/
def Convertible (d : Deps) (p : Process T L) (t : T) (c : Callback) : Prop :=
  VsomeipMessageToUMessage.Convertible d.up (p.transports t).getLocalAuthority (p.transports t).config.uri
    (p.transports t).config.remoteAuthority c.id c.vsomeipMsg (p.rpcCorrelation t)

omit [DecidableEq T] [DecidableEq L] in
theorem convertible_iff {t : T} : p.Convertible d t c ↔ ∃ umsg, (p.convertFor d t c).1 = .ok umsg :=
  VsomeipMessageToUMessage.convertible_iff

omit [DecidableEq L] in
theorem setRpcCorrelation_rpcCorrelation (p : Process T L) (t t' : T) (rpc : InMemoryRpcCorrelationRegistry) :
    (p.setRpcCorrelation t rpc).rpcCorrelation t' = if t' = t then rpc else p.rpcCorrelation t' := by
  simp only [rpcCorrelation, setRpcCorrelation, setEngine_engine]
  split
  · rfl
  · rfl

/-- The three turns of the others are one run. -/
theorem after_all (up : UpRust) (h : MessageHandlers T L) (others : Interference T L) :
    Runs.after (handlerStep up) h others.all = Runs.after (handlerStep up) (Runs.after (handlerStep up)
      (Runs.after (handlerStep up) h others.beforeStorage) others.beforeConversion) others.beforeListener := by
  simp only [Interference.all, Runs.after_append]

/-- A callback is dropped at the first look-up, or converts its message and
is dropped or handed over for what that and the second look-up give. -/
theorem callSharedExternFn_cases (h : callSharedExternFn d p c others = (delivery, p')) :
    ((∀ t, ¬ StorageFound d p c others t) ∧ delivery = .dropped ∧ p'.rpcCorrelation = p.rpcCorrelation) ∨
    ∃ t res rpc, StorageFound d p c others t ∧ p.convertFor d t c = (res, rpc) ∧
      p'.rpcCorrelation = Function.update p.rpcCorrelation t rpc ∧
      ((∃ e, res = .error e ∧ delivery = .dropped) ∨
      ∃ umsg, res = .ok umsg ∧
        ((∃ cfg, ListenerFound d p c others t cfg ∧ delivery = .handedOver cfg.listener umsg) ∨
          ((∀ cfg, ¬ ListenerFound d p c others t cfg) ∧ delivery = .dropped))) := by
  simp only [callSharedExternFn] at h
  split at h
  · next hs =>
    cases h
    have hnone : (Runs.after (handlerStep d.up) p.handlers others.beforeStorage).messageHandlerIdToTransportStorage
        c.messageHandlerId = none := hs
    refine .inl ⟨fun t ht => ?_, rfl, rfl⟩
    rw [StorageFound, hnone] at ht
    cases ht
  next t hs =>
  have hconv : (interfere d (interfere d p others.beforeStorage) others.beforeConversion).convertFor d t c =
      p.convertFor d t c := rfl
  rw [hconv] at h
  cases hres : p.convertFor d t c with
  | mk res rpc =>
  rw [hres] at h
  have hrpc : ∀ p₀ : Process T L, p₀.rpcCorrelation = p.rpcCorrelation →
      (p₀.setRpcCorrelation t rpc).rpcCorrelation = Function.update p.rpcCorrelation t rpc := by
    intro p₀ hp₀
    funext t'
    rw [setRpcCorrelation_rpcCorrelation, Function.update_apply, hp₀]
  refine .inr ⟨t, res, rpc, hs, hres, ?_⟩
  cases res with
  | error e => cases h; exact ⟨hrpc _ rfl, .inl ⟨e, rfl, rfl⟩⟩
  | ok umsg =>
    simp only at h
    have hlast : ∀ cfg, ListenerFound d p c others t cfg ↔
        ((Runs.after (handlerStep d.up) (Runs.after (handlerStep d.up) (Runs.after (handlerStep d.up) p.handlers
          others.beforeStorage) others.beforeConversion) others.beforeListener).messageHandlerIdAndListenerConfig
          t).getByLeft c.messageHandlerId = some cfg := by
      intro cfg
      rw [ListenerFound, after_all]
      rfl
    split at h
    · next hl =>
      cases h
      refine ⟨hrpc _ rfl, .inr ⟨umsg, rfl, .inr ⟨fun cfg hf => ?_, rfl⟩⟩⟩
      have hbound := (hlast cfg).1 hf
      simp only [MessageHandlers.getListenerForMessageHandlerId, interfere, setRpcCorrelation, setEngine_handlers,
        hbound, Option.map_some] at hl
      cases hl
    · next listener hl =>
      cases h
      simp only [MessageHandlers.getListenerForMessageHandlerId, interfere, setRpcCorrelation, setEngine_handlers,
        Option.map_eq_some_iff] at hl
      obtain ⟨cfg, hb, rfl⟩ := hl
      exact ⟨hrpc _ rfl, .inr ⟨umsg, rfl, .inl ⟨cfg, (hlast cfg).2 hb, rfl⟩⟩⟩

omit [DecidableEq L] in
@[simp] theorem setRpcCorrelation_handlers (p : Process T L) (t : T) (rpc : InMemoryRpcCorrelationRegistry) :
    (p.setRpcCorrelation t rpc).handlers = p.handlers := rfl

/-- The first look-up finds the transport the id is bound in then. -/
theorem storageFound_iff (hI : PoolInvariant p.handlers) {t : T} :
    StorageFound d p c others t ↔ ∃ cfg,
      (p.handlers.Bound t c.messageHandlerId cfg ∧ HandlerOp.release t cfg ∉ others.beforeStorage) ∨
      TakenBy d.up p.handlers others.beforeStorage c.messageHandlerId t cfg := by
  simp only [← bound_after_iff hI]
  exact (hI.run d.up others.beforeStorage).storages _ t

/-- The second one finds an old binding, or one made since. -/
theorem listenerFound_iff (hI : PoolInvariant p.handlers) {t : T} {cfg : ListenerConfig L} :
    ListenerFound d p c others t cfg ↔
      (p.handlers.Bound t c.messageHandlerId cfg ∧ HandlerOp.release t cfg ∉ others.all) ∨
      TakenBy d.up p.handlers others.all c.messageHandlerId t cfg := bound_after_iff hI others.all

theorem StorageFound.unique {t t' : T} (h : StorageFound d p c others t) (h' : StorageFound d p c others t') :
    t = t' := Option.some.inj (h.symm.trans h')

/-- A message that converts goes to the listener the second look-up finds. -/
theorem callSharedExternFn_handedOver {t : T} {cfg : ListenerConfig L} (hs : StorageFound d p c others t)
    (hconv : p.Convertible d t c) (hl : ListenerFound d p c others t cfg) :
    ∃ umsg p', (p.convertFor d t c).1 = .ok umsg ∧
      callSharedExternFn d p c others = (.handedOver cfg.listener umsg, p') := by
  obtain ⟨umsg, hok⟩ := convertible_iff.1 hconv
  cases hcall : callSharedExternFn d p c others with
  | mk delivery p' =>
  rcases callSharedExternFn_cases hcall with ⟨hno, -⟩ | ⟨t', res, rpc, hs', hconv, -, hcases⟩
  · exact absurd hs (hno t)
  obtain rfl := hs.unique hs'
  have hres : res = .ok umsg := by rw [← hok, hconv]
  rcases hcases with ⟨e, rfl, -⟩ | ⟨umsg', rfl, ⟨cfg', hl', rfl⟩ | ⟨hno, -⟩⟩
  · cases hres
  · cases hres
    obtain rfl : cfg = cfg' := Option.some.inj (hl.symm.trans hl')
    exact ⟨umsg, p', hok, rfl⟩
  · exact absurd hl (hno cfg)

/-! ## Strangers -/

/-- **A message reaches a listener its handler id was not bound to at the
start exactly if it converts and a registration in between took the id**, in
the transport whose storage was found, for another listener, and was not
released again. -/
theorem delivered_to_original_iff (d : Deps) (p : Process T L) (hp : p.handlers.Reachable d.up) (c : Callback)
    (others : Interference T L) :
    (∀ listener umsg p', callSharedExternFn d p c others = (.handedOver listener umsg, p') →
      ∃ t cfg, p.handlers.Bound t c.messageHandlerId cfg ∧ cfg.listener = listener) ↔
    ∀ t cfg, StorageFound d p c others t → p.Convertible d t c →
      TakenBy d.up p.handlers others.all c.messageHandlerId t cfg →
      ∃ t₀ cfg₀, p.handlers.Bound t₀ c.messageHandlerId cfg₀ ∧ cfg₀.listener = cfg.listener := by
  constructor
  · intro hsafe t cfg hs hconv htaken
    have hl : ListenerFound d p c others t cfg := (listenerFound_iff hp.pool).2 (.inr htaken)
    obtain ⟨umsg, p', -, hcall⟩ := callSharedExternFn_handedOver hs hconv hl
    exact hsafe cfg.listener umsg p' hcall
  · intro hsafe listener umsg p' hcall
    rcases callSharedExternFn_cases hcall with ⟨-, hd, -⟩ | ⟨t, res, rpc, hs, hconv, -, hcases⟩
    · cases hd
    rcases hcases with ⟨_, -, hd⟩ | ⟨umsg', rfl, ⟨cfg, hl, hd⟩ | ⟨-, hd⟩⟩
    · cases hd
    · cases hd
      rcases (listenerFound_iff hp.pool).1 hl with ⟨hb, -⟩ | htaken
      · exact ⟨t, cfg, hb, rfl⟩
      · have hok : p.Convertible d t c := convertible_iff.2 ⟨_, by rw [hconv]⟩
        exact hsafe t cfg hs hok htaken
    · cases hd

/-- A process that registered one configuration. -/
def sampleWith (cfg : ListenerConfig L) : Process Unit L :=
  { sample with handlers := Runs.after (handlerStep Deps.accepting.up) .new [.get () cfg .least] }

theorem sampleWith_handlers (cfg : ListenerConfig L) :
    (sampleWith cfg).handlers = Runs.after (handlerStep Deps.accepting.up) .new [.get () cfg .least] := by
  simp only [sampleWith]

theorem sampleWith_reachable (cfg : ListenerConfig L) : (sampleWith cfg).handlers.Reachable Deps.accepting.up :=
  ⟨_, sampleWith_handlers cfg⟩

theorem sampleWith_bound {cfg cfg' : ListenerConfig L} {t : Unit} {id : MessageHandlerId} :
    (sampleWith cfg).handlers.Bound t id cfg' ↔ t = () ∧ id = 0 ∧ cfg' = cfg := by
  rw [sampleWith_handlers, bound_first]

def sampleEvent : VsomeipMessage := ⟨.notification, 1, 1, 0x8001, 0, 0, 1, .ok, some []⟩

def sampleListener {L : Type} (listener : L) : ListenerConfig L := ⟨⟨"me_authority", 1, 1, 0x8001⟩, none, listener⟩

def sampleCallback : Callback := ⟨0, sampleEvent, .sample 1⟩

/-- Left alone, a callback reaches the listener its id is bound to. -/
theorem sampleWith_handedOver (cfg : ListenerConfig L) :
    ∃ umsg p', ((sampleWith cfg).convertFor .accepting () sampleCallback).1 = .ok umsg ∧
      callSharedExternFn .accepting (sampleWith cfg) sampleCallback .none = (.handedOver cfg.listener umsg, p') := by
  have hpool := (sampleWith_reachable cfg).pool
  have hbound : (sampleWith cfg).handlers.Bound () sampleCallback.messageHandlerId cfg :=
    sampleWith_bound.2 ⟨rfl, rfl, rfl⟩
  have hkept : HandlerOp.release () cfg ∉ (Interference.none : Interference Unit L).all := by
    simp [Interference.none, Interference.all]
  have hs : StorageFound .accepting (sampleWith cfg) sampleCallback .none () :=
    (storageFound_iff hpool).2 ⟨cfg, .inl ⟨hbound, by simp [Interference.none]⟩⟩
  have hl : ListenerFound .accepting (sampleWith cfg) sampleCallback .none () cfg :=
    (listenerFound_iff hpool).2 (.inl ⟨hbound, hkept⟩)
  exact callSharedExternFn_handedOver hs (convertible_iff.2 ⟨_, rfl⟩) hl

/-- The id is released and taken again while the message is converted, for
the same listener under another filter. -/
theorem delivered_to_original_iff_sample :
    let p : Process Unit Bool := sampleWith (sampleListener false)
    let again : ListenerConfig Bool := ⟨⟨"*", 1, 1, 0x8001⟩, none, false⟩
    let others : Interference Unit Bool :=
      { beforeStorage := []
        beforeConversion := [.release () (sampleListener false), .get () again .least]
        beforeListener := [] }
    TakenBy Deps.accepting.up p.handlers others.all 0 () again ∧
    ∃ umsg p', callSharedExternFn .accepting p sampleCallback others = (.handedOver false umsg, p') ∧
      ∃ t cfg, p.handlers.Bound t 0 cfg ∧ cfg.listener = false := by
  intro p again others
  have hreach : p.handlers.Reachable Deps.accepting.up := sampleWith_reachable _
  have hbound : p.handlers.Bound () 0 (sampleListener false) := sampleWith_bound.2 ⟨rfl, rfl, rfl⟩
  have htaken : TakenBy Deps.accepting.up p.handlers others.all 0 () again := by
    rw [show p.handlers = _ from sampleWith_handlers _]
    exact takenBy_again
  have hs : StorageFound .accepting p sampleCallback others () :=
    (storageFound_iff hreach.pool).2 ⟨sampleListener false, .inl ⟨hbound, List.not_mem_nil⟩⟩
  have hl : ListenerFound .accepting p sampleCallback others () again := (listenerFound_iff hreach.pool).2 (.inr htaken)
  obtain ⟨umsg, p', -, hcall⟩ := callSharedExternFn_handedOver hs (convertible_iff.2 ⟨_, rfl⟩) hl
  refine ⟨htaken, umsg, p', hcall, ?_⟩
  refine (delivered_to_original_iff .accepting p hreach sampleCallback others).2 (fun t cfg _ _ hother => ?_) false umsg
    p' hcall
  obtain ⟨pre, order, post, hops, -, -⟩ := hother
  have hget : HandlerOp.get t cfg order ∈ others.all := by rw [hops]; simp
  obtain ⟨rfl, rfl, -⟩ : t = () ∧ cfg = again ∧ order = .least := by
    simpa [others, Interference.all] using hget
  exact ⟨(), sampleListener false, hbound, rfl⟩

/-- The id was bound to one listener when the callback began; released and
registered again before the first look-up, it brings the message to the
other. -/
theorem recycled_id_reaches_stranger :
    let p : Process Unit Bool := sampleWith (sampleListener false)
    let others : Interference Unit Bool :=
      { beforeStorage := [.release () (sampleListener false), .get () (sampleListener true) .least]
        beforeConversion := []
        beforeListener := [] }
    (∀ t cfg, p.handlers.Bound t 0 cfg → cfg.listener = false) ∧
    ∃ umsg p', callSharedExternFn .accepting p sampleCallback others = (.handedOver true umsg, p') := by
  intro p others
  have hreach : p.handlers.Reachable Deps.accepting.up := sampleWith_reachable _
  have htaken : TakenBy Deps.accepting.up p.handlers others.all 0 () (sampleListener true) := by
    rw [show p.handlers = _ from sampleWith_handlers _]
    exact takenBy_again
  refine ⟨fun t cfg hb => ?_, ?_⟩
  · obtain ⟨-, -, rfl⟩ := sampleWith_bound.1 hb
    rfl
  · have hs : StorageFound .accepting p sampleCallback others () :=
      (storageFound_iff hreach.pool).2 ⟨sampleListener true, .inr htaken⟩
    have hl : ListenerFound .accepting p sampleCallback others () (sampleListener true) :=
      (listenerFound_iff hreach.pool).2 (.inr htaken)
    obtain ⟨umsg, p', -, hcall⟩ := callSharedExternFn_handedOver hs (convertible_iff.2 ⟨_, rfl⟩) hl
    exact ⟨umsg, p', hcall⟩

/-! ## Dropped messages -/

/-- Both correlation tables of every transport are what they were. -/
def SameCorrelation (p p' : Process T L) : Prop :=
  ∀ t, (p'.rpcCorrelation t).ueRequestCorrelation = (p.rpcCorrelation t).ueRequestCorrelation ∧
    (p'.rpcCorrelation t).meRequestCorrelation = (p.rpcCorrelation t).meRequestCorrelation

/-- The message is a reply to a pending request, and either becomes no
response or finds no listener; or it is a request that becomes a message
with a new id, and finds no listener. -/
def LeavesMark (d : Deps) (p : Process T L) (c : Callback) (others : Interference T L) : Prop :=
  ∃ t, StorageFound d p c others t ∧
    let remote := (p.transports t).config.remoteAuthority
    let unheard := ∀ cfg, ¬ ListenerFound d p c others t cfg
    (∃ payload source reqId sink,
      VsomeipMessageToUMessage.ReplySource d.up remote c.vsomeipMsg payload source ∧
      (p.rpcCorrelation t).ueRequestCorrelation c.vsomeipMsg.getRequest = some (reqId, sink) ∧
      ((∀ umsg, d.up.buildWithPayload (.response sink reqId source (some c.vsomeipMsg.replyCommStatus)) c.id payload
          .unspecified ≠ .ok umsg) ∨ unheard)) ∨
    (∃ umsg sink source r,
      VsomeipMessageToUMessage.RequestBuilt d.up (p.transports t).getLocalAuthority (p.transports t).config.uri remote
        c.id c.vsomeipMsg umsg sink source ∧
      umsg.attrs.id = some r ∧ (p.rpcCorrelation t).meRequestCorrelation r = none ∧ unheard)

/-- What leaves a mark is dropped, and changes a table. -/
theorem LeavesMark.changes (hm : LeavesMark d p c others) :
    ∃ p', callSharedExternFn d p c others = (.dropped, p') ∧ ¬ SameCorrelation p p' := by
  obtain ⟨t, hs, hm⟩ := hm
  cases hcall : callSharedExternFn d p c others with
  | mk delivery p' =>
  rcases callSharedExternFn_cases hcall with ⟨hno, -⟩ | ⟨t', res, rpc, hs', hconv, hrpc, hcases⟩
  · exact absurd hs (hno t)
  obtain rfl := hs.unique hs'
  have hsame : SameCorrelation p p' → rpc.ueRequestCorrelation = (p.rpcCorrelation t).ueRequestCorrelation ∧
      rpc.meRequestCorrelation = (p.rpcCorrelation t).meRequestCorrelation := by
    intro hsame
    have ht := hsame t
    rwa [hrpc, Function.update_self] at ht
  rcases hm with ⟨payload, source, reqId, sink, hrep, hk, hlost⟩ | ⟨umsg, sink, source, r, hb, hid, hk, hun⟩
  · rcases VsomeipMessageToUMessage.convertReply_cases hrep.type hconv with
      ⟨payload', source', reqId', sink', hrep', hk', rfl, hres⟩ | ⟨_, -, -, hno⟩
    · obtain ⟨rfl, rfl⟩ := hrep.unique hrep'
      cases hk.symm.trans hk'
      refine ⟨p', ?_, fun hsame' => ?_⟩
      · rcases hcases with ⟨_, -, rfl⟩ | ⟨umsg, rfl, ⟨cfg, hl, -⟩ | ⟨-, rfl⟩⟩
        · rfl
        · rcases hlost with hbuild | hun
          · exact absurd (VsomeipMessageToUMessage.buildUMessage_ok_iff.1 hres.symm) (hbuild umsg)
          · exact absurd hl (hun cfg)
        · rfl
      · have := congrFun (hsame hsame').1 c.vsomeipMsg.getRequest
        simp only [hk, PartialMap.remove_self, reduceCtorEq] at this
    · rw [hno payload source hrep] at hk
      cases hk
  · rcases VsomeipMessageToUMessage.convertRequest_cases hb.type hconv with
      ⟨umsg', _, _, r', rfl, -, -, hk', rfl⟩ | ⟨_, -, -, hno⟩
    · refine ⟨p', ?_, fun hsame' => ?_⟩
      · rcases hcases with ⟨_, he, -⟩ | ⟨_, -, ⟨cfg, hl, -⟩ | ⟨-, rfl⟩⟩
        · cases he
        · exact absurd hl (hun cfg)
        · rfl
      · have := congrFun (hsame hsame').2 r'
        simp only [hk', PartialMap.insert_self, reduceCtorEq] at this
    · obtain ⟨k, hk'⟩ := hno umsg sink source r hb hid
      rw [hk] at hk'
      cases hk'

/-- **A dropped message leaves the correlation as it was, unless it is one of
these.** -/
theorem dropped_untouched_iff (d : Deps) (p : Process T L) (c : Callback) (others : Interference T L) :
    (∀ p', callSharedExternFn d p c others = (.dropped, p') → SameCorrelation p p') ↔
      ¬ LeavesMark d p c others := by
  constructor
  · intro hsafe hm
    obtain ⟨p', hcall, hchanged⟩ := hm.changes
    exact hchanged (hsafe p' hcall)
  · intro hm p' hcall
    rcases callSharedExternFn_cases hcall with ⟨-, -, hrpc⟩ | ⟨t, res, rpc, hs, hconv, hrpc, hcases⟩
    · exact fun t => by rw [hrpc]; exact ⟨rfl, rfl⟩
    -- It is enough that the conversion left the registry of `t` alone.
    suffices hsame : rpc = p.rpcCorrelation t by
      rw [hsame, Function.update_eq_self] at hrpc
      exact fun t => by rw [hrpc]; exact ⟨rfl, rfl⟩
    have hunheard : ∀ umsg, res = .ok umsg → ∀ cfg, ¬ ListenerFound d p c others t cfg := by
      intro umsg hgiven
      subst hgiven
      rcases hcases with ⟨_, he, -⟩ | ⟨_, -, ⟨_, -, hd⟩ | ⟨hun, -⟩⟩
      · cases he
      · cases hd
      · exact hun
    rcases VsomeipMessageToUMessage.convertVsomeipMsgToUmsg_cases hconv with
      ⟨umsg, sink, source, r, hres, hb, hid, hk, -⟩ | ⟨payload, source, reqId, sink, hr, hk, -, hres⟩ |
      ⟨_, _, _, -, hsame, -⟩ | ⟨_, -, hsame⟩
    · have hmark : LeavesMark d p c others :=
        ⟨t, hs, .inr ⟨umsg, sink, source, r, hb, hid, hk, hunheard umsg hres⟩⟩
      exact absurd hmark hm
    · refine absurd ⟨t, hs, .inl ⟨payload, source, reqId, sink, hr, hk, ?_⟩⟩ hm
      cases res with
      | ok umsg => exact .inr (hunheard umsg rfl)
      | error e =>
        refine .inl fun umsg hbuild => ?_
        rw [VsomeipMessageToUMessage.buildUMessage_ok_iff.2 hbuild] at hres
        cases hres
    · exact hsame
    · exact hsame

/-- A response from an event id cannot be built, and takes the entry of the
pending request along. -/
theorem malformed_response_takes_entry :
    let c : Callback := ⟨0, ⟨.response, 2, 1, 0x8001, 7, 1, 1, .ok, some []⟩, .sample 2⟩
    let pending : InMemoryRpcCorrelationRegistry := { InMemoryRpcCorrelationRegistry.new with
      ueRequestCorrelation := PartialMap.empty.insert (createRequestId 7 1) (.sample 1, ⟨"foo", 10, 1, 0⟩) }
    let p : Process Unit Bool := (sampleWith (sampleListener false)).setRpcCorrelation () pending
    ∃ p', callSharedExternFn ⟨.checkingResponses, .zeroed, false⟩ p c .none = (.dropped, p') ∧
      ¬ SameCorrelation p p' := by
  intro c pending p
  have hhandlers : p.handlers = (sampleWith (sampleListener false)).handlers := setRpcCorrelation_handlers _ _ _
  have hpool : PoolInvariant p.handlers := by
    rw [hhandlers]; exact (sampleWith_reachable (sampleListener false)).pool
  have hbound : p.handlers.Bound () 0 (sampleListener false) := by
    rw [hhandlers, sampleWith_bound]; exact ⟨rfl, rfl, rfl⟩
  have hs : StorageFound ⟨.checkingResponses, .zeroed, false⟩ p c .none () :=
    (storageFound_iff hpool).2 ⟨sampleListener false, .inl ⟨hbound, by simp [Interference.none]⟩⟩
  refine LeavesMark.changes ⟨(), hs, .inl ⟨[], ⟨"me_authority", 2, 1, 0x8001⟩, .sample 1, ⟨"foo", 10, 1, 0⟩,
    ⟨.inl rfl, rfl, rfl⟩, ?_, .inl fun umsg => ?_⟩⟩
  · rw [setRpcCorrelation_rpcCorrelation, if_pos rfl]
    exact PartialMap.insert_self _ _ _
  · simp [UpRust.checkingResponses]

end Process

end VsomeipTransport
