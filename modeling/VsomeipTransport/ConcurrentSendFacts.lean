/-
Calls of `send` side by side: whether the way back of a request is there
before the request leaves.

A call that registers the way back itself waits for the engine to have done
so. A call that finds the configuration in the registry does not: another
call may have put it there and still be about to queue its registration
(`request_overtakes_registration`). Where that registration has been queued
by then, the queue does the rest (`response_path_first`).
-/
import VsomeipTransport.ConcurrentSend
import VsomeipTransport.Lib.Trace
import VsomeipTransport.PointToPointFacts
import VsomeipTransport.RoundTripFacts

namespace VsomeipTransport

/-! ## Requests and their registrations -/

def UMessage.IsRequest (umsg : UMessage) : Prop := umsg.attrs.type.enumValueOr .unspecified = .request

/-- The command registers the responses to the message. -/
def TransportCommand.RegistersResponse (umsg : UMessage) (cmd : TransportCommand) : Prop :=
  ∃ sink source fn, umsg.attrs.sink = some sink ∧ umsg.attrs.source = some source ∧
    cmd = .registerListener sink (some source) .response fn

namespace Process

variable {T L : Type} [DecidableEq T] [DecidableEq L] {d : Deps} {p p' : Process T L} {t : T} {message : UMessage}
  {order : IterOrder MessageHandlerId} {call : SendCall}

/-- The first part of a call leaves the transports alone, and the message is
refused, or ready, or has a registration to go first. -/
theorem beginSend_cases (h : p.beginSend d t message order = (call, p')) :
    p'.transports = p.transports ∧ ((∃ res, call = .ended res) ∨ call = .registered message ∨
      ∃ sink source fn, call = .reserved message (.registerListener sink source .response fn)) := by
  unfold beginSend reserveResponse at h
  repeat' split at h
  all_goals cases h
  all_goals refine ⟨rfl, ?_⟩
  all_goals first
    | exact .inl ⟨_, rfl⟩
    | exact .inr (.inl rfl)
    | exact .inr (.inr ⟨_, _, _, rfl⟩)

/-- Where there is a point-to-point listener, a valid request is to get a
handler for its response. -/
theorem beginSend_valid (order : IterOrder MessageHandlerId) (hw : d.up.Wildcards) (hchecks : d.up.ChecksRequests)
    (ht : message.IsRequest) {attributes : UAttributes} (ha : message.attributes = some attributes)
    (hv : d.up.validate attributes = .ok ())
    {listener : L} (hl : (p.transports t).pointToPointListener = some listener) :
    ∃ source sink, message.attrs.source = some source ∧ message.attrs.sink = some sink ∧
      p.beginSend d t message order = p.reserveResponse d t message source sink listener order := by
  have hattrs : message.attrs = attributes := by simp [UMessage.attrs, ha]
  rw [UMessage.IsRequest, hattrs] at ht
  obtain ⟨source, sink, hs, hk, hdet⟩ := determineType_request hw hchecks hv ht
  refine ⟨source, sink, by rw [hattrs, hs], by rw [hattrs, hk], ?_⟩
  simp only [beginSend, ha, hv, hs, hdet, hl, ne_eq, not_true_eq_false, if_false]
  simp only [hk]

/-- A request is refused, or finds its configuration in the registry, or gets
a handler for its registration. -/
theorem beginSend_request (hw : d.up.Wildcards) (hchecks : d.up.ChecksRequests) (ht : message.IsRequest) {listener : L}
    (hl : (p.transports t).pointToPointListener = some listener)
    (h : p.beginSend d t message order = (call, p')) :
    (∃ res, call = .ended res) ∨
    ∃ sink source, message.attrs.sink = some sink ∧ message.attrs.source = some source ∧
      ((call = .registered message ∧ ∃ id, p.handlers.Bound t id ⟨sink, some source, listener⟩) ∨
        ∃ fn, call = .reserved message (.registerListener sink (some source) .response fn)) := by
  cases ha : message.attributes with
  | none =>
    simp only [beginSend, ha] at h
    cases h
    exact .inl ⟨_, rfl⟩
  | some attributes =>
  cases hv : d.up.validate attributes with
  | error e =>
    simp only [beginSend, ha, hv] at h
    cases h
    exact .inl ⟨_, rfl⟩
  | ok =>
  obtain ⟨source, sink, hs, hk, hreserve⟩ := beginSend_valid order hw hchecks ht ha hv hl
  rw [hreserve] at h
  unfold reserveResponse at h
  split at h
  · cases h; exact .inl ⟨_, rfl⟩
  · next hget =>
    cases h
    exact .inr ⟨sink, source, hk, hs, .inl ⟨rfl, MessageHandlers.getMessageHandler_exists hget⟩⟩
  · cases h; exact .inl ⟨_, rfl⟩
  · cases h; exact .inl ⟨_, rfl⟩
  · cases h; exact .inr ⟨sink, source, hk, hs, .inr ⟨_, rfl⟩⟩

/-- A configuration that is offered an id gets its handler. -/
theorem reserveResponse_available (d : Deps) (message : UMessage) {source sink : UUri} {listener : L}
    {id : MessageHandlerId}
    (ha : (p.handlers.lock t).Available order ⟨sink, some source, listener⟩ id) (hid : id < numMessageHandlers) :
    ∃ maps, (p.handlers.lock t).Binds maps t ⟨sink, some source, listener⟩ id ∧
      p.reserveResponse d t message source sink listener order =
        (.reserved message (.registerListener sink (some source) .response ⟨id, hid⟩),
          { p with handlers := p.handlers.unlock t maps }) := by
  obtain ⟨maps, hb, hget⟩ := MessageHandlers.getMessageHandler_available d.up ha hid
  exact ⟨maps, hb, by simp only [reserveResponse, hget]⟩

/-- One that is bound is not waited for. -/
theorem reserveResponse_bound (message : UMessage) (order : IterOrder MessageHandlerId)
    (hI : PoolInvariant p.handlers) {source sink : UUri} {listener : L} {id : MessageHandlerId}
    (hb : p.handlers.Bound t id ⟨sink, some source, listener⟩)
    (hfree : p.handlers.freeMessageHandlerIds ≠ ∅) :
    (p.reserveResponse d t message source sink listener order).1 = .registered message := by
  cases hget : p.handlers.getMessageHandler d.up order t t ⟨sink, some source, listener⟩ with
  | mk res handlers =>
  rcases MessageHandlers.getMessageHandler_pool hI hget with ⟨fn, _, -, ha, -⟩ | ⟨_, _, rfl, -⟩ | ⟨_, -, hnone, -⟩
  · exact absurd hb (MessageHandlers.unbound_of_available ha)
  · simp only [reserveResponse, hget]
  · exact absurd hnone hfree

/-- A request that is sent twice takes a handler the first time and finds its
configuration the second, whatever became of the registration. -/
theorem beginSend_twice (hw : d.up.Wildcards) (hchecks : d.up.ChecksRequests) (ht : message.IsRequest)
    {attributes : UAttributes} (ha : message.attributes = some attributes) (hv : d.up.validate attributes = .ok ())
    {listener : L} (hl : (p.transports t).pointToPointListener = some listener) (hI : PoolInvariant p.handlers)
    (hfree : 1 < p.handlers.freeMessageHandlerIds.card) {source sink : UUri} (hs : message.attrs.source = some source)
    (hk : message.attrs.sink = some sink) {id : MessageHandlerId}
    (hav : (p.handlers.lock t).Available order ⟨sink, some source, listener⟩ id) (hid : id < numMessageHandlers) :
    ∃ p₁, p.beginSend d t message order =
        (.reserved message (.registerListener sink (some source) .response ⟨id, hid⟩), p₁) ∧
      p₁.transports = p.transports ∧
      ∀ p₂ : Process T L, p₂.handlers = p₁.handlers → (p₂.transports t).pointToPointListener = some listener →
        (p₂.beginSend d t message order).1 = .registered message ∧
        (p₂.beginSend d t message order).2.transports = p₂.transports := by
  have hbegin : ∀ {p : Process T L}, (p.transports t).pointToPointListener = some listener →
      p.beginSend d t message order = p.reserveResponse d t message source sink listener order := by
    intro p hl
    obtain ⟨_, _, hs', hk', hreserve⟩ := beginSend_valid order hw hchecks ht ha hv hl
    cases hs.symm.trans hs'
    cases hk.symm.trans hk'
    exact hreserve
  have hmem : id ∈ p.handlers.freeMessageHandlerIds := order.next_mem hav.picked
  obtain ⟨maps, hb, hfirst⟩ := reserveResponse_available d message hav hid
  rw [← hbegin hl] at hfirst
  have hI' : PoolInvariant (p.handlers.unlock t maps) := MessageHandlers.pool_of_binds hI hav hb
  have hbound : (p.handlers.unlock t maps).Bound t id ⟨sink, some source, listener⟩ :=
    (MessageHandlers.bound_of_binds hb).2 (by simp)
  -- An id is left, or the second call would be refused for that.
  have hleft : (p.handlers.unlock t maps).freeMessageHandlerIds ≠ ∅ := by
    intro hnone
    have hcard : (p.handlers.freeMessageHandlerIds.erase id).card = 0 := by
      rw [Finset.card_eq_zero, ← hnone]
      exact hb.free.symm
    rw [Finset.card_erase_of_mem hmem] at hcard
    omega
  refine ⟨_, hfirst, rfl, fun p₂ hp₂ hl₂ => ⟨?_, (beginSend_cases rfl).1⟩⟩
  rw [hbegin hl₂]
  have hI₂ : PoolInvariant p₂.handlers := hp₂ ▸ hI'
  have hbound₂ : p₂.handlers.Bound t id ⟨sink, some source, listener⟩ := hp₂ ▸ hbound
  exact reserveResponse_bound message order hI₂ hbound₂ (hp₂ ▸ hleft)

end Process

namespace Sends

variable {T L I : Type} [DecidableEq T] [DecidableEq L] [DecidableEq I] {d : Deps} {t : T} {listener : L} {i : I}
  {s : Sends T L I} {cmd : TransportCommand}

/-- Whenever a request was handed over, its responses had been registered. -/
def ResponsePathFirst (processed : List (TransportCommand × Outcome (Except UStatus Unit))) : Prop :=
  ∀ pre umsg post, processed = pre ++ (.send umsg, .returned (.ok ())) :: post → umsg.IsRequest →
    ∃ e ∈ pre, e.1.RegistersResponse umsg

/-- A call that is about to send a request whose configuration is in the
registry finds its registration queued. -/
def Accounted (t : T) (s : Sends T L I) : SendEvent I → Prop
  | .call i message _ => ∀ sink source listener id, s.calls i = .notCalled → message.IsRequest →
      message.attrs.sink = some sink → message.attrs.source = some source →
      (s.process.transports t).pointToPointListener = some listener →
      s.process.handlers.Bound t id ⟨sink, some source, listener⟩ → ∃ cmd ∈ s.queued, cmd.RegistersResponse message
  | _ => True

/-! ## What the queue owes to its order -/

/-- The responses to the message are registered by one of the commands. -/
def Prepared (cmds : List TransportCommand) (umsg : UMessage) : Prop :=
  umsg.IsRequest → ∃ cmd ∈ cmds, cmd.RegistersResponse umsg

/-- What a call was promised on its way. -/
def Promised (cmds : List TransportCommand) : SendCall → Prop
  | .reserved message registration => (∀ umsg, registration ≠ .send umsg) ∧
      (message.IsRequest → registration.RegistersResponse message)
  | .registering message => Prepared cmds message
  | .registered message => Prepared cmds message
  | _ => True

omit [DecidableEq T] [DecidableEq L] [DecidableEq I] in
theorem Prepared.mono {cmds cmds' : List TransportCommand} {umsg : UMessage} (h : Prepared cmds umsg)
    (hsub : cmds ⊆ cmds') : Prepared cmds' umsg := by
  intro ht
  obtain ⟨cmd, hm, hr⟩ := h ht
  exact ⟨cmd, hsub hm, hr⟩

omit [DecidableEq T] [DecidableEq L] [DecidableEq I] in
theorem Promised.mono {cmds cmds' : List TransportCommand} {call : SendCall} (h : Promised cmds call)
    (hsub : cmds ⊆ cmds') : Promised cmds' call := by
  cases call with
  | notCalled => trivial
  | reserved message registration => exact h
  | registering message => exact Prepared.mono h hsub
  | registered message => exact Prepared.mono h hsub
  | sending => trivial
  | ended res => trivial

/-- The queue holds what was put on it and not taken, and every message on it
comes after its registration. -/
structure Ordered (t : T) (listener : L) (s : Sends T L I) : Prop where
  slot : (s.process.transports t).pointToPointListener = some listener
  taken : s.processed.map Prod.fst <+: s.queued
  rest : (s.process.transports t).engine.running = true →
    s.processed.map Prod.fst ++ (s.process.transports t).engine.queue = s.queued
  prepared : Trace.Justified (fun before cmd => ∀ umsg, cmd = .send umsg → Prepared before umsg) s.queued
  promised : ∀ i, Promised s.queued (s.calls i)

omit [DecidableEq T] [DecidableEq L] in
theorem Ordered.setCall (h : Ordered t listener s) {call : SendCall} (hc : Promised s.queued call) :
    Ordered t listener (s.setCall i call) where
  slot := h.slot
  taken := h.taken
  rest := h.rest
  prepared := h.prepared
  promised j := by
    simp only [Sends.setCall, Function.update_apply]
    split
    · exact hc
    · exact h.promised j

omit [DecidableEq L] in
theorem Ordered.queueCommand (h : Ordered t listener s) {waiting stopped : SendCall}
    (hcmd : ∀ umsg, cmd = .send umsg → Prepared s.queued umsg) (hwaiting : Promised (s.queued ++ [cmd]) waiting)
    (hstopped : Promised s.queued stopped) : Ordered t listener (s.queueCommand t i cmd waiting stopped) := by
  unfold Sends.queueCommand
  simp only
  split
  · next hrun =>
    constructor
    · have hkept := congrFun (Process.setEngine_kept s.process t
        { (s.process.transports t).engine with queue := (s.process.transports t).engine.queue ++ [cmd] }) t
      exact (congrArg Prod.snd hkept).trans h.slot
    · exact h.taken.trans (List.prefix_append _ _)
    · intro _
      simp only [Process.setEngine_engine, if_true, Sends.setCall]
      rw [← List.append_assoc, h.rest hrun]
    · exact Trace.justified_append.2 ⟨h.prepared, hcmd, trivial⟩
    · intro j
      simp only [Sends.setCall, Function.update_apply]
      split
      · exact hwaiting
      · exact (h.promised j).mono (List.subset_append_left _ _)
  · exact h.setCall hstopped

omit [DecidableEq L] in
theorem Ordered.engineTurn (h : Ordered t listener s) : Ordered t listener (s.engineTurn d t) := by
  have hkept := congrFun (Process.setEngine_kept s.process t ((s.process.transports t).engine.turn d)) t
  have hslot := (congrArg Prod.snd hkept).trans h.slot
  unfold Sends.engineTurn
  simp only
  split
  · next cmd cmds hrun hqueue =>
    have hrest := h.rest hrun
    rw [hqueue] at hrest
    have htaken : (s.processed.map Prod.fst ++ [cmd]) <+: s.queued := ⟨cmds, by rw [← hrest]; simp⟩
    cases hp : processCommand d (s.process.transports t).engine.state cmd with
    | mk res state =>
    cases res with
    | returned res =>
      have hturn : (s.process.transports t).engine.turn d = ⟨state, true, cmds⟩ := by
        simp only [Engine.turn, hrun, hqueue, hp]
      refine ⟨hslot, by simpa using htaken, fun _ => ?_, h.prepared, h.promised⟩
      simp only [Process.engineTurn, Process.setEngine_engine, if_true, hturn]
      simpa using hrest
    | panicked msg =>
      have hturn : (s.process.transports t).engine.turn d = ⟨state, false, []⟩ := by
        simp only [Engine.turn, hrun, hqueue, hp]
      refine ⟨hslot, by simpa using htaken, fun hrun' => ?_, h.prepared, h.promised⟩
      simp only [Process.engineTurn, Process.setEngine_engine, if_true, hturn] at hrun'
      cases hrun'
  · exact h

omit [DecidableEq T] [DecidableEq L] [DecidableEq I] in
theorem promised_afterRegister {cmds : List TransportCommand} {message : UMessage} (h : Prepared cmds message)
    (d : Deps) (answer : Engine.Answer) : Promised cmds (.afterRegister d message answer) := by
  unfold SendCall.afterRegister
  split
  · trivial
  · trivial
  · exact h

omit [DecidableEq I] in
/-- A call that is accounted for keeps what it was promised. -/
theorem promised_beginSend (h : Ordered t listener s) (hw : d.up.Wildcards) (hchecks : d.up.ChecksRequests)
    {message : UMessage} {order : IterOrder MessageHandlerId} {call : SendCall} {p : Process T L}
    (hnot : s.calls i = .notCalled) (hacc : Accounted t s (.call i message order))
    (hbegin : s.process.beginSend d t message order = (call, p)) : Promised s.queued call := by
  by_cases ht : message.IsRequest
  · rcases Process.beginSend_request hw hchecks ht h.slot hbegin with
      ⟨res, rfl⟩ | ⟨sink, source, hk, hs, ⟨rfl, id, hb⟩ | ⟨fn, rfl⟩⟩
    · trivial
    · exact fun _ => hacc sink source listener id hnot ht hk hs h.slot hb
    · exact ⟨by simp, fun _ => ⟨sink, source, fn, hk, hs, rfl⟩⟩
  · rcases (Process.beginSend_cases hbegin).2 with ⟨res, rfl⟩ | rfl | ⟨sink, source, fn, rfl⟩
    · trivial
    · exact fun ht' => absurd ht' ht
    · exact ⟨by simp, fun ht' => absurd ht' ht⟩

/-- **One step keeps the order**, if a call that starts is accounted for. -/
theorem Ordered.next (h : Ordered t listener s) (hw : d.up.Wildcards) (hchecks : d.up.ChecksRequests)
    (e : SendEvent I) (hacc : Accounted t s e) : Ordered t listener (s.next d t e) := by
  cases e with
  | call i message order =>
    simp only [Sends.next]
    split
    · next hnot =>
      cases hbegin : s.process.beginSend d t message order with
      | mk call p =>
      have htransports := (Process.beginSend_cases hbegin).1
      have hset := h.setCall (i := i) (promised_beginSend h hw hchecks hnot hacc hbegin)
      constructor
      · simp only [htransports]
        exact h.slot
      · exact hset.taken
      · simp only [htransports]
        exact h.rest
      · exact hset.prepared
      · exact hset.promised
    · exact h
  | queueRegistration i =>
    simp only [Sends.next]
    split
    · next message registration hcall =>
      have hpromised := h.promised i
      rw [hcall] at hpromised
      refine h.queueCommand (fun umsg he => absurd he (hpromised.1 umsg)) (fun ht => ?_) ?_
      · exact ⟨registration, by simp, hpromised.2 ht⟩
      · trivial
    · exact h
  | queueMessage i =>
    simp only [Sends.next]
    split
    · next message hcall =>
      have hpromised := h.promised i
      rw [hcall] at hpromised
      refine h.queueCommand (fun umsg he => ?_) trivial trivial
      cases he
      exact hpromised
    · exact h
  | waited i inTime =>
    simp only [Sends.next]
    split
    · next message answer hcall _ =>
      have hpromised := h.promised i
      rw [hcall] at hpromised
      exact h.setCall (promised_afterRegister hpromised d answer)
    · exact h.setCall trivial
    · exact h
  | engineTurn => exact h.engineTurn

omit [DecidableEq T] [DecidableEq L] [DecidableEq I] in
/-- What is taken from the queue in order came after its registration. -/
theorem Ordered.responsePathFirst (h : Ordered t listener s) : ResponsePathFirst s.processed := by
  intro pre umsg post he ht
  obtain ⟨rest, hqueued⟩ := h.taken
  have hsplit : s.queued = pre.map Prod.fst ++ .send umsg :: (post.map Prod.fst ++ rest) := by
    rw [← hqueued, he]
    simp
  have hprepared := h.prepared
  rw [hsplit] at hprepared
  obtain ⟨cmd, hm, hr⟩ := hprepared.before umsg rfl ht
  obtain ⟨e, he, rfl⟩ := List.mem_map.1 hm
  exact ⟨e, he, hr⟩

/-- **If every request that finds its configuration in the registry finds its
registration queued, no request leaves before its responses are registered.** -/
theorem response_path_first (d : Deps) (hw : d.up.Wildcards) (hchecks : d.up.ChecksRequests) (p : Process T L) (t : T)
    (listener : L) (hslot : (p.transports t).pointToPointListener = some listener)
    (hqueue : (p.transports t).engine.queue = []) (es : List (SendEvent I))
    (hacc : Runs.Guarded (step d t) (Accounted t) (start p) es) :
    ResponsePathFirst (Runs.after (step d t) (start p) es).processed := by
  have hstart : Ordered t listener (start p : Sends T L I) :=
    ⟨hslot, List.prefix_refl _, fun _ => hqueue, trivial, fun _ => trivial⟩
  have hend : Ordered t listener (Runs.after (step d t) (start p) es) :=
    Runs.Guarded.invariant (Ordered t listener) (fun s e hs he => hs.next hw hchecks e he) hstart hacc
  exact hend.responsePathFirst

/-! ## Two calls of one request -/

theorem next_call {message : UMessage} {order : IterOrder MessageHandlerId} {call : SendCall} {p : Process T L}
    (hnot : s.calls i = .notCalled) (h : s.process.beginSend d t message order = (call, p)) :
    s.next d t (.call i message order) = { s.setCall i call with process := p } := by
  simp only [Sends.next, hnot, h]

/-- A call that is about to queue its registration queues it. -/
theorem next_queueRegistration {message : UMessage} (hcall : s.calls i = .reserved message cmd)
    (hrun : (s.process.transports t).engine.running = true) :
    s.next d t (.queueRegistration i) = { s.setCall i (.registering message) with
      process := s.process.setEngine t
        { (s.process.transports t).engine with queue := (s.process.transports t).engine.queue ++ [cmd] }
      askers := s.askers ++ [i]
      answers := Function.update s.answers i none
      queued := s.queued ++ [cmd] } := by
  simp only [Sends.next, hcall, Sends.queueCommand, hrun, if_true]

/-- A message that is ready is queued. -/
theorem next_queueMessage {message : UMessage} (hcall : s.calls i = .registered message) {e : Engine}
    (he : (s.process.transports t).engine = e) (hrun : e.running = true) :
    (s.next d t (.queueMessage i)).processed = s.processed ∧
      ((s.next d t (.queueMessage i)).process.transports t).engine = { e with queue := e.queue ++ [.send message] } := by
  subst he
  simp only [Sends.next, hcall, Sends.queueCommand, hrun, if_true, Sends.setCall, Process.setEngine_engine]
  exact ⟨trivial, trivial⟩

omit [DecidableEq L] in
/-- The engine answers its next command. -/
theorem engineTurn_processed {e : Engine} (he : (s.process.transports t).engine = e) {cmds : List TransportCommand}
    (hrun : e.running = true) (hqueue : e.queue = cmd :: cmds) {res : Except UStatus Unit} {state : EngineState}
    (hres : processCommand d e.state cmd = (.returned res, state)) :
    (s.engineTurn d t).processed = s.processed ++ [(cmd, .returned res)] ∧
      ((s.engineTurn d t).process.transports t).engine = ⟨state, true, cmds⟩ := by
  subst he
  simp only [Sends.engineTurn, hrun, hqueue, hres, Process.engineTurn, Process.setEngine_engine, if_true, Engine.turn]
  exact ⟨trivial, trivial⟩

section Twice

variable (hw : d.up.Wildcards) (hchecks : d.up.ChecksRequests) {p : Process T L} {j : I} (hij : j ≠ i)
  {message : UMessage} (ht : message.IsRequest) {attributes : UAttributes} (ha : message.attributes = some attributes)
  (hv : d.up.validate attributes = .ok ()) (hl : (p.transports t).pointToPointListener = some listener)
  (hidle : (p.transports t).engine.Idle) (hI : PoolInvariant p.handlers) {order : IterOrder MessageHandlerId}
  (hfree : 1 < p.handlers.freeMessageHandlerIds.card) {source sink : UUri} (hs : message.attrs.source = some source)
  (hk : message.attrs.sink = some sink) {id : MessageHandlerId}
  (hav : (p.handlers.lock t).Available order ⟨sink, some source, listener⟩ id) (hid : id < numMessageHandlers)

include hw hchecks hij ht ha hv hl hidle hI hfree hs hk hav hid

/-- Of two calls of one request the second finds the configuration of the
first, which has not queued its registration yet, and its request leaves. -/
theorem second_call_overtakes {state : EngineState}
    (hres : processCommand d (p.transports t).engine.state (.send message) = (.returned (.ok ()), state)) :
    ¬ ResponsePathFirst (Runs.after (step d t) (start p)
      [.call i message order, .call j message order, .queueMessage j, .engineTurn]).processed := by
  obtain ⟨p₁, hfirst, htransports, hsecond⟩ := Process.beginSend_twice hw hchecks ht ha hv hl hI hfree hs hk hav hid
  obtain ⟨hcall, hkept⟩ := hsecond p₁ rfl (by rw [htransports]; exact hl)
  have hone := next_call (s := (start p : Sends T L I)) (i := i) rfl hfirst
  obtain ⟨s₁, hs₁⟩ : ∃ s, s = (start p : Sends T L I).next d t (.call i message order) := ⟨_, rfl⟩
  rw [← hs₁] at hone
  have hnot : s₁.calls j = .notCalled := by
    rw [hone]
    simp [start, Sends.setCall, hij]
  have hbegin : s₁.process.beginSend d t message order = (.registered message, (p₁.beginSend d t message order).2) := by
    rw [hone]
    exact Prod.ext hcall rfl
  have htwo := next_call hnot hbegin
  obtain ⟨s₂, hs₂⟩ : ∃ s, s = s₁.next d t (.call j message order) := ⟨_, rfl⟩
  rw [← hs₂] at htwo
  have hcalled : s₂.calls j = .registered message := by rw [htwo]; simp [Sends.setCall]
  have hengine : (s₂.process.transports t).engine = (p.transports t).engine := by
    rw [htwo]
    simp only [hkept, htransports]
  have hnone : s₂.processed = [] := by rw [htwo, hone]; rfl
  obtain ⟨hkeeps, hqueued⟩ := next_queueMessage (d := d) hcalled hengine hidle.running
  rw [hidle.queue] at hqueued
  have hprocessed := (engineTurn_processed hqueued hidle.running rfl hres).1
  rw [hkeeps, hnone] at hprocessed
  simp only [Runs.after_cons, Runs.after_nil, step, ← hs₁, ← hs₂]
  intro hpath
  obtain ⟨e, he, -⟩ := hpath [] message [] hprocessed ht
  cases he

/-- If the second call comes when the registration is queued, it does not wait
for the answer either, and still its request leaves after the registration. -/
theorem second_call_follows {res : Except UStatus Unit} {state state' : EngineState}
    (hreg : processCommand d (p.transports t).engine.state
      (.registerListener sink (some source) .response ⟨id, hid⟩) = (.returned res, state))
    (hres : processCommand d state (.send message) = (.returned (.ok ()), state')) :
    Runs.Guarded (step d t) (Accounted t) (start p) [.call i message order, .queueRegistration i,
      .call j message order, .queueMessage j, .engineTurn, .engineTurn] ∧
    (Runs.after (step d t) (start p) [.call i message order, .queueRegistration i, .call j message order,
      .queueMessage j, .engineTurn, .engineTurn]).processed =
      [(.registerListener sink (some source) .response ⟨id, hid⟩, .returned res),
        (.send message, .returned (.ok ()))] := by
  obtain ⟨p₁, hfirst, htransports, hsecond⟩ := Process.beginSend_twice hw hchecks ht ha hv hl hI hfree hs hk hav hid
  have hone := next_call (s := (start p : Sends T L I)) (i := i) rfl hfirst
  obtain ⟨s₁, hs₁⟩ : ∃ s, s = (start p : Sends T L I).next d t (.call i message order) := ⟨_, rfl⟩
  rw [← hs₁] at hone
  have hreserved : s₁.calls i = .reserved message (.registerListener sink (some source) .response ⟨id, hid⟩) := by
    rw [hone]
    simp [Sends.setCall]
  have hengine : (s₁.process.transports t).engine = (p.transports t).engine := by rw [hone]; simp only [htransports]
  have htwo := next_queueRegistration (d := d) hreserved (by rw [hengine]; exact hidle.running)
  obtain ⟨s₂, hs₂⟩ : ∃ s, s = s₁.next d t (.queueRegistration i) := ⟨_, rfl⟩
  rw [← hs₂, hengine, hidle.queue, List.nil_append] at htwo
  have hslot : (s₂.process.transports t).pointToPointListener = some listener := by
    have hkept := congrFun (Process.setEngine_kept s₁.process t { (p.transports t).engine with
      queue := [.registerListener sink (some source) .response ⟨id, hid⟩] }) t
    rw [htwo]
    refine (congrArg Prod.snd hkept).trans ?_
    rw [hone]
    simp only [Process.kept, htransports]
    exact hl
  obtain ⟨hcall, hkept⟩ := hsecond s₂.process (by rw [htwo, hone]; rfl) hslot
  have hnot : s₂.calls j = .notCalled := by
    rw [htwo, hone]
    simp [start, Sends.setCall, hij]
  have hthree := next_call hnot (Prod.ext hcall rfl)
  obtain ⟨s₃, hs₃⟩ : ∃ s, s = s₂.next d t (.call j message order) := ⟨_, rfl⟩
  rw [← hs₃] at hthree
  have hcalled : s₃.calls j = .registered message := by rw [hthree]; simp [Sends.setCall]
  have hengine₃ : (s₃.process.transports t).engine = { (p.transports t).engine with
      queue := [.registerListener sink (some source) .response ⟨id, hid⟩] } := by
    rw [hthree]
    simp only [hkept]
    rw [htwo]
    simp only [Process.setEngine_engine, if_true]
  obtain ⟨hkeeps, hqueued⟩ := next_queueMessage (d := d) hcalled hengine₃ hidle.running
  obtain ⟨hregisters, hengine₄⟩ := engineTurn_processed hqueued hidle.running rfl hreg
  obtain ⟨hsends, -⟩ := engineTurn_processed hengine₄ rfl rfl hres
  have hnone : s₃.processed = [] := by rw [hthree, htwo, hone]; rfl
  rw [hregisters, hkeeps, hnone] at hsends
  refine ⟨?_, ?_⟩
  · refine ⟨?_, trivial, ?_, trivial, trivial, trivial, trivial⟩
    · -- Nobody has a handler for it yet.
      intro sink' source' listener' id' _ _ hk' hs' hl' hb
      cases hk.symm.trans hk'
      cases hs.symm.trans hs'
      cases hl.symm.trans hl'
      exact absurd hb (MessageHandlers.unbound_of_available hav)
    · intro _ _ _ _ _ _ _ _ _ _
      refine ⟨_, ?_, sink, source, ⟨id, hid⟩, hk, hs, rfl⟩
      simp only [step, ← hs₁, ← hs₂, htwo]
      simp
  · simp only [Runs.after_cons, Runs.after_nil, step, ← hs₁, ← hs₂, ← hs₃]
    exact hsends

end Twice

/-- A process with a point-to-point listener. -/
def sampleListening : Process Unit Unit := Process.sample.withListener () ()

theorem sampleCall_isRequest : sampleCall.IsRequest := rfl

/-- The first id is free for the responses to `sampleCall`. -/
theorem sampleListening_available : (sampleListening.handlers.lock ()).Available IterOrder.least
    ⟨⟨"foo", 0x20001, 3, 1⟩, some ⟨"me", 5, 1, 0⟩, ()⟩ 0 :=
  MessageHandlers.available_new () _

theorem sampleListening_free : 1 < sampleListening.handlers.freeMessageHandlerIds.card := by
  show 1 < (Finset.range numMessageHandlers).card
  rw [Finset.card_range]
  decide

/-- Two calls of one request: the second finds the registration of the first
in the queue. -/
theorem response_path_first_sample : ∃ processed registration, processed =
      (Runs.after (step .validating ()) (start sampleListening : Sends Unit Unit Bool)
        [.call false sampleCall .least, .queueRegistration false, .call true sampleCall .least, .queueMessage true,
          .engineTurn, .engineTurn]).processed ∧
      processed = [registration, (.send sampleCall, .returned (.ok ()))] ∧ ResponsePathFirst processed := by
  have hother : true ≠ false := by decide
  have hreg : processCommand .validating (sampleListening.transports ()).engine.state
    (.registerListener ⟨"foo", 0x20001, 3, 1⟩ (some ⟨"me", 5, 1, 0⟩) .response ⟨0, by decide⟩) =
      (.returned (.ok ()), _) := rfl
  obtain ⟨hacc, hprocessed⟩ := second_call_follows (d := .validating) (p := sampleListening) (t := ())
    UpRust.validating_wildcards UpRust.validating_checksRequests hother sampleCall_isRequest rfl rfl rfl
    ⟨rfl, rfl, rfl⟩ PoolInvariant.new sampleListening_free rfl rfl sampleListening_available (by decide) hreg rfl
  refine ⟨_, _, rfl, hprocessed, ?_⟩
  exact response_path_first .validating UpRust.validating_wildcards UpRust.validating_checksRequests sampleListening
    () () rfl rfl _ hacc

/-- Two calls of one request: the second leaves before the first has queued
its registration. -/
theorem request_overtakes_registration :
    ¬ ResponsePathFirst (Runs.after (step .validating ()) (start sampleListening : Sends Unit Unit Bool)
      [.call false sampleCall .least, .call true sampleCall .least, .queueMessage true, .engineTurn]).processed := by
  have hother : true ≠ false := by decide
  exact second_call_overtakes (d := .validating) (p := sampleListening) (t := ()) UpRust.validating_wildcards
    UpRust.validating_checksRequests hother sampleCall_isRequest rfl rfl rfl ⟨rfl, rfl, rfl⟩ PoolInvariant.new
    sampleListening_free rfl rfl sampleListening_available (by decide) rfl

end Sends

end VsomeipTransport
