/-
What the engine offers to and requests from vsomeip, over every run of
commands of one application.

`callLog` is the trace of calls with, beside each call, the command that made
it. The sets of `InMemoryVsomeipOfferedRequestedRegistry` account for the trace (`Accounts`):
every triple is offered or requested once, and nothing is notified or handled
before it was offered or requested (`offered_and_requested_before_use`).

The calls that offer a service come from two places, which choose versions of
their own: `offered_versions` says when two of them agree.
-/
import VsomeipTransport.Lib.Runs
import VsomeipTransport.Lib.Trace
import VsomeipTransport.TransportEngineFacts
import VsomeipTransport.TransportRuns

namespace VsomeipTransport

/-- A service, an instance, and one of its methods or events. -/
abbrev ServiceTriple := ServiceId × InstanceId × MethodId

/-! ## Traces -/

namespace VsomeipCall

def offeredEvent : VsomeipCall → Option ServiceTriple
  | .offerEvent service instanceId notifier _ => some (service, instanceId, notifier)
  | _ => none

def requestedEvent : VsomeipCall → Option ServiceTriple
  | .requestEvent service instanceId notifier _ => some (service, instanceId, notifier)
  | _ => none

def subscribedEvent : VsomeipCall → Option ServiceTriple
  | .subscribe service instanceId _ _ event => some (service, instanceId, event)
  | _ => none

def offeredService : VsomeipCall → Option (ServiceId × InstanceId)
  | .offerService service instanceId _ _ => some (service, instanceId)
  | _ => none

def requestedService : VsomeipCall → Option (ServiceId × InstanceId)
  | .requestService service instanceId _ _ => some (service, instanceId)
  | _ => none

end VsomeipCall

/-- The calls that were made, oldest first. -/
def EngineState.calls (s : EngineState) : List VsomeipCall :=
  match s.application with
  | some app => app.calls.reverse
  | none => []

/-- Calls with the commands that made them. -/
abbrev CallLog := List (TransportCommand × VsomeipCall)

/-- A command with the calls it makes. -/
def logStep (d : Deps) (s : EngineState) (cmd : TransportCommand) : EngineState × CallLog :=
  let s' := (processCommand d s cmd).2
  (s', (s'.calls.drop s.calls.length).map fun call => (cmd, call))

/-- The calls the commands make, oldest first. -/
def callLog (d : Deps) (s : EngineState) (cmds : List TransportCommand) : CallLog :=
  (Runs.outputs (logStep d) s cmds).flatten

namespace CallLog

variable (log : CallLog) (service : ServiceId) (instanceId : InstanceId)

def offeredEvents : List ServiceTriple := log.filterMap fun e => e.2.offeredEvent
def requestedEvents : List ServiceTriple := log.filterMap fun e => e.2.requestedEvent
def subscribedEvents : List ServiceTriple := log.filterMap fun e => e.2.subscribedEvent
def offeredServices : List (ServiceId × InstanceId) := log.filterMap fun e => e.2.offeredService
def requestedServices : List (ServiceId × InstanceId) := log.filterMap fun e => e.2.requestedService

/-- A call may follow the ones before it: an event that is notified was
offered, with its service; a handler is registered for what was requested, or
offered, as its type needs. -/
def Prepared (before : CallLog) : TransportCommand × VsomeipCall → Prop
  | (_, .notify service instanceId event _ _) =>
    (service, instanceId) ∈ before.offeredServices ∧ (service, instanceId, event) ∈ before.offeredEvents
  | (cmd, .registerMessageHandler key fn) =>
    ∃ src sink type, cmd = .registerListener src sink type fn ∧
      match type with
      | .publish =>
        (key.service, key.instanceId) ∈ before.requestedServices ∧
        (key.service, key.instanceId, key.method) ∈ before.requestedEvents ∧
        (key.service, key.instanceId, key.method) ∈ before.subscribedEvents
      | .response => (key.service, key.instanceId) ∈ before.requestedServices
      | .request => (key.service, 1) ∈ before.offeredServices
      | .allPointToPoint => False
  | _ => True

end CallLog

/-! ## One command -/

open InMemoryVsomeipOfferedRequestedRegistry

/-- The calls a command can make, and what it does to the sets: each of the
four is asked before anything is offered or requested, and added to after. -/
inductive CallsMade (o : InMemoryVsomeipOfferedRequestedRegistry) :
    TransportCommand → InMemoryVsomeipOfferedRequestedRegistry → List VsomeipCall → Prop
  | requestEvent {src sink fn} (service : ServiceId) (event : EventId)
      (fresh : (service, 1, event) ∉ o.requestedEvents) :
      CallsMade o (.registerListener src sink .publish fn)
        { o with requestedEvents := insert (service, 1, event) o.requestedEvents }
        [.requestService service 1 anyMajor anyMinor, .requestEvent service 1 event event,
          .subscribe service 1 event anyMajor event, .registerMessageHandler ⟨service, 1, event⟩ fn]
  | eventRequested {src sink fn} (service : ServiceId) (event : EventId)
      (known : (service, 1, event) ∈ o.requestedEvents) :
      CallsMade o (.registerListener src sink .publish fn) o [.registerMessageHandler ⟨service, 1, event⟩ fn]
  | offerService {src fn} (sink : UUri) (service : ServiceId) (method : MethodId)
      (fresh : (service, 1, method) ∉ o.offeredServices) :
      CallsMade o (.registerListener src (some sink) .request fn)
        { o with offeredServices := insert (service, 1, method) o.offeredServices }
        [.offerService service 1 (splitU32ToU8 sink.ueVersionMajor).2.2.2 defaultMinor,
          .registerMessageHandler ⟨service, anyInstance, method⟩ fn]
  | serviceOffered {src sink fn} (service : ServiceId) (method : MethodId)
      (known : (service, 1, method) ∈ o.offeredServices) :
      CallsMade o (.registerListener src sink .request fn) o
        [.registerMessageHandler ⟨service, anyInstance, method⟩ fn]
  | requestService {src sink fn} (service : ServiceId) (method : MethodId)
      (fresh : (service, anyInstance, method) ∉ o.requestedServices) :
      CallsMade o (.registerListener src sink .response fn)
        { o with requestedServices := insert (service, anyInstance, method) o.requestedServices }
        [.requestService service anyInstance anyMajor anyMinor,
          .registerMessageHandler ⟨service, anyInstance, method⟩ fn]
  | serviceRequested {src sink fn} (service : ServiceId) (method : MethodId)
      (known : (service, anyInstance, method) ∈ o.requestedServices) :
      CallsMade o (.registerListener src sink .response fn) o
        [.registerMessageHandler ⟨service, anyInstance, method⟩ fn]
  | offerEvent {umsg} (service : ServiceId) (event : EventId) (payload : List UInt8)
      (fresh : (service, 1, event) ∉ o.offeredEvents) :
      CallsMade o (.send umsg) { o with offeredEvents := insert (service, 1, event) o.offeredEvents }
        [.offerService service 1 anyMajor anyMinor, .offerEvent service 1 event event,
          .notify service 1 event payload true]
  | eventOffered {umsg} (service : ServiceId) (event : EventId) (payload : List UInt8)
      (known : (service, 1, event) ∈ o.offeredEvents) :
      CallsMade o (.send umsg) o [.notify service 1 event payload true]
  | unregister {src sink type} (key : HandlerKey) :
      CallsMade o (.unregisterListener src sink type) o [.unregisterMessageHandler key]
  | send {umsg} (m : VsomeipMessage) : CallsMade o (.send umsg) o [.send m]
  | stop : CallsMade o .stopVsomeipApp o [.stop]
  | none {cmd} : CallsMade o cmd o []

theorem ServiceTriples.contains_eq_false {s : ServiceTriples} {t : ServiceTriple} (h : (!s.contains t) = true) :
    t ∉ s := by
  simpa [ServiceTriples.contains] using h

theorem ServiceTriples.contains_eq_true {s : ServiceTriples} {t : ServiceTriple} (h : ¬ (!s.contains t) = true) :
    t ∈ s := by
  simpa [ServiceTriples.contains] using h

section Command

variable {d : Deps} {offered offered' : InMemoryVsomeipOfferedRequestedRegistry} {app app' : VsomeipApplication}

theorem registerListenerInternal_calls {src : UUri} {sink : Option UUri} {type : RegistrationType}
    {fn : MessageHandlerFnPtr} {res}
    (h : registerListenerInternal src sink type fn offered app = (res, offered', app')) :
    ∃ new, app'.calls = new.reverse ++ app.calls ∧
      CallsMade offered (.registerListener src sink type fn) offered' new := by
  cases type with
  | publish =>
    simp only [registerListenerInternal] at h
    split at h
    · next hc => cases h; exact ⟨_, rfl, .requestEvent _ _ (ServiceTriples.contains_eq_false hc)⟩
    · next hc => cases h; exact ⟨_, rfl, .eventRequested _ _ (ServiceTriples.contains_eq_true hc)⟩
  | request =>
    cases sink with
    | none => cases h; exact ⟨[], rfl, .none⟩
    | some sink =>
      simp only [registerListenerInternal] at h
      split at h
      · next hc => cases h; exact ⟨_, rfl, .offerService sink _ _ (ServiceTriples.contains_eq_false hc)⟩
      · next hc => cases h; exact ⟨_, rfl, .serviceOffered _ _ (ServiceTriples.contains_eq_true hc)⟩
  | response =>
    simp only [registerListenerInternal] at h
    split at h
    · next hc => cases h; exact ⟨_, rfl, .requestService _ _ (ServiceTriples.contains_eq_false hc)⟩
    · next hc => cases h; exact ⟨_, rfl, .serviceRequested _ _ (ServiceTriples.contains_eq_true hc)⟩
  | allPointToPoint => cases sink <;> cases h <;> exact ⟨[], rfl, .none⟩

theorem unregisterListenerInternal_calls {src : UUri} {sink : Option UUri} {type : RegistrationType} {res}
    (h : unregisterListenerInternal src sink type app = (res, app')) :
    ∃ new, app'.calls = new.reverse ++ app.calls ∧
      CallsMade offered (.unregisterListener src sink type) offered new := by
  cases type with
  | publish => cases h; exact ⟨_, rfl, .unregister _⟩
  | request | response =>
    cases sink with
    | none => cases h; exact ⟨[], rfl, .none⟩
    | some sink => cases h; exact ⟨_, rfl, .unregister _⟩
  | allPointToPoint => cases sink <;> cases h <;> exact ⟨[], rfl, .none⟩

/-- Sending hands over one message. -/
theorem VsomeipApplication.send_calls (app : VsomeipApplication) (m : VsomeipMessage) :
    ∃ m', (app.send m).calls = .send m' :: app.calls := by
  by_cases hm : m.messageType = .request
  · exact ⟨_, (app.send_request hm).2⟩
  · exact ⟨m, by rw [app.send_other hm, call_calls]⟩

/-- A published event is offered, unless it was before. -/
theorem umsgPublishToVsomeipNotification_calls {umsg : UMessage} {triple : ServiceTriple} (payload : List UInt8)
    (h : UMessageToVsomeipMessage.umsgPublishToVsomeipNotification umsg offered app = (.ok triple, offered', app')) :
    ∃ new, (app'.call (.notify triple.1 triple.2.1 triple.2.2 payload true)).calls = new.reverse ++ app.calls ∧
      CallsMade offered (.send umsg) offered' new := by
  simp only [UMessageToVsomeipMessage.umsgPublishToVsomeipNotification] at h
  split at h
  · cases h
  split at h
  · next hc => cases h; exact ⟨_, rfl, .offerEvent _ _ payload (ServiceTriples.contains_eq_false hc)⟩
  · next hc => cases h; exact ⟨_, rfl, .eventOffered _ _ payload (ServiceTriples.contains_eq_true hc)⟩

theorem umsgPublishToVsomeipNotification_refused {umsg : UMessage} {e : UStatus}
    (h : UMessageToVsomeipMessage.umsgPublishToVsomeipNotification umsg offered app = (.error e, offered', app')) :
    offered' = offered ∧ app' = app := by
  simp only [UMessageToVsomeipMessage.umsgPublishToVsomeipNotification] at h
  split at h
  · cases h; exact ⟨rfl, rfl⟩
  · split at h <;> cases h

theorem sendInternal_calls {umsg : UMessage} {rpc rpc' : InMemoryRpcCorrelationRegistry} {res}
    (h : sendInternal d umsg rpc offered app = (res, rpc', offered', app')) :
    ∃ new, app'.calls = new.reverse ++ app.calls ∧ CallsMade offered (.send umsg) offered' new := by
  have hsend : ∀ m : VsomeipMessage, ∃ new, (app.send m).calls = new.reverse ++ app.calls ∧
      CallsMade offered (.send umsg) offered new := by
    intro m
    obtain ⟨m', hm'⟩ := app.send_calls m
    exact ⟨[.send m'], by simp [hm'], .send m'⟩
  unfold sendInternal at h
  split at h
  · cases h; exact ⟨[], rfl, .none⟩
  · cases h; exact ⟨[], rfl, .none⟩
  · split at h
    · next hp =>
      cases h
      obtain ⟨rfl, rfl⟩ := umsgPublishToVsomeipNotification_refused hp
      exact ⟨[], rfl, .none⟩
    · next hp => cases h; exact umsgPublishToVsomeipNotification_calls _ hp
  · split at h
    · cases h; exact ⟨[], rfl, .none⟩
    · cases h; exact ⟨[], rfl, .none⟩
    · cases h; exact hsend _
  · split at h
    · cases h; exact ⟨[], rfl, .none⟩
    · cases h; exact hsend _

/-- **What a command does to the sets and asks of vsomeip.** -/
theorem processCommand_calls (d : Deps) {s : EngineState} (cmd : TransportCommand) {app : VsomeipApplication}
    (happ : s.application = some app) :
    ∃ app' new, (processCommand d s cmd).2.application = some app' ∧ app'.calls = new.reverse ++ app.calls ∧
      CallsMade s.vsomeipOfferedRequested cmd (processCommand d s cmd).2.vsomeipOfferedRequested new := by
  unfold processCommand
  simp only [happ]
  cases cmd with
  | registerListener src sink type fn =>
    cases hr : registerListenerInternal src sink type fn s.vsomeipOfferedRequested app with
    | mk res rest =>
    simp only [hr]
    obtain ⟨new, hnew, hmade⟩ := registerListenerInternal_calls hr
    exact ⟨_, new, rfl, hnew, hmade⟩
  | unregisterListener src sink type =>
    cases hr : unregisterListenerInternal src sink type app with
    | mk res app' =>
    simp only [hr]
    obtain ⟨new, hnew, hmade⟩ := unregisterListenerInternal_calls hr
    exact ⟨_, new, rfl, hnew, hmade⟩
  | send umsg =>
    cases hr : sendInternal d umsg s.rpcCorrelation s.vsomeipOfferedRequested app with
    | mk res rest =>
    simp only [hr]
    obtain ⟨new, hnew, hmade⟩ := sendInternal_calls hr
    exact ⟨_, new, rfl, hnew, hmade⟩
  | stopVsomeipApp => exact ⟨_, [.stop], rfl, rfl, .stop⟩

end Command

/-! ## The sets account for the trace -/

/-- The trace as the registry remembers it. -/
structure Accounts (o : InMemoryVsomeipOfferedRequestedRegistry) (log : CallLog) : Prop where
  offeredEvents : Trace.Tally log.offeredEvents o.offeredEvents
  requestedEvents : Trace.Tally log.requestedEvents o.requestedEvents
  subscribedEvents : Trace.Tally log.subscribedEvents o.requestedEvents
  eventsOfOffered : ∀ t ∈ o.offeredEvents, (t.1, t.2.1) ∈ log.offeredServices
  eventsOfRequested : ∀ t ∈ o.requestedEvents, (t.1, t.2.1) ∈ log.requestedServices
  offeredServices : ∀ t ∈ o.offeredServices, (t.1, t.2.1) ∈ log.offeredServices
  requestedServices : ∀ t ∈ o.requestedServices, (t.1, t.2.1) ∈ log.requestedServices
  prepared : Trace.Justified CallLog.Prepared log

theorem Accounts.new : Accounts .new [] where
  offeredEvents := .empty
  requestedEvents := .empty
  subscribedEvents := .empty
  eventsOfOffered := by simp [InMemoryVsomeipOfferedRequestedRegistry.new]
  eventsOfRequested := by simp [InMemoryVsomeipOfferedRequestedRegistry.new]
  offeredServices := by simp [InMemoryVsomeipOfferedRequestedRegistry.new]
  requestedServices := by simp [InMemoryVsomeipOfferedRequestedRegistry.new]
  prepared := trivial

namespace CallLog

variable {cmd : TransportCommand} {new : List VsomeipCall}

/-- What the calls of a command add to any of the lists. -/
theorem filterMap_made {β : Type} (f : VsomeipCall → Option β) (log : CallLog) (cmd : TransportCommand)
    (new : List VsomeipCall) :
    (log ++ new.map (Prod.mk cmd)).filterMap (fun e => f e.2) =
      log.filterMap (fun e => f e.2) ++ new.filterMap f := by
  rw [List.filterMap_append, List.filterMap_map]
  rfl

end CallLog

section Made

variable {o o' : InMemoryVsomeipOfferedRequestedRegistry} {cmd : TransportCommand} {new : List VsomeipCall}
  {log : CallLog}

theorem CallsMade.offeredEvents (hm : CallsMade o cmd o' new)
    (h : Trace.Tally log.offeredEvents o.offeredEvents) :
    Trace.Tally (log.offeredEvents ++ new.filterMap VsomeipCall.offeredEvent) o'.offeredEvents := by
  have hsame : Trace.Tally (log.offeredEvents ++ []) o.offeredEvents := by rwa [List.append_nil]
  cases hm with
  | offerEvent service event payload fresh => exact h.add fresh
  | _ => exact hsame

theorem CallsMade.requestedEvents (hm : CallsMade o cmd o' new)
    (h : Trace.Tally log.requestedEvents o.requestedEvents) :
    Trace.Tally (log.requestedEvents ++ new.filterMap VsomeipCall.requestedEvent) o'.requestedEvents := by
  have hsame : Trace.Tally (log.requestedEvents ++ []) o.requestedEvents := by rwa [List.append_nil]
  cases hm with
  | requestEvent service event fresh => exact h.add fresh
  | _ => exact hsame

theorem CallsMade.subscribedEvents (hm : CallsMade o cmd o' new)
    (h : Trace.Tally log.subscribedEvents o.requestedEvents) :
    Trace.Tally (log.subscribedEvents ++ new.filterMap VsomeipCall.subscribedEvent) o'.requestedEvents := by
  have hsame : Trace.Tally (log.subscribedEvents ++ []) o.requestedEvents := by rwa [List.append_nil]
  cases hm with
  | requestEvent service event fresh => exact h.add fresh
  | _ => exact hsame

theorem gained_same {s : ServiceTriples} {services : List (ServiceId × InstanceId)} :
    ∀ t ∈ s, t ∈ s ∨ (t.1, t.2.1) ∈ services := fun _ h => .inl h

theorem gained_insert {s : ServiceTriples} {a : ServiceTriple} {services : List (ServiceId × InstanceId)}
    (ha : (a.1, a.2.1) ∈ services) : ∀ t ∈ insert a s, t ∈ s ∨ (t.1, t.2.1) ∈ services := by
  intro t ht
  rcases Finset.mem_insert.1 ht with rfl | ht
  · exact .inr ha
  · exact .inl ht

/-- A triple a set gains was offered or requested by the same command. -/
theorem CallsMade.gained (hm : CallsMade o cmd o' new) :
    (∀ t ∈ o'.offeredEvents, t ∈ o.offeredEvents ∨ (t.1, t.2.1) ∈ new.filterMap VsomeipCall.offeredService) ∧
    (∀ t ∈ o'.requestedEvents, t ∈ o.requestedEvents ∨ (t.1, t.2.1) ∈ new.filterMap VsomeipCall.requestedService) ∧
    (∀ t ∈ o'.offeredServices, t ∈ o.offeredServices ∨ (t.1, t.2.1) ∈ new.filterMap VsomeipCall.offeredService) ∧
    (∀ t ∈ o'.requestedServices, t ∈ o.requestedServices ∨
      (t.1, t.2.1) ∈ new.filterMap VsomeipCall.requestedService) := by
  cases hm with
  | requestEvent => exact ⟨gained_same, gained_insert List.mem_cons_self, gained_same, gained_same⟩
  | offerService => exact ⟨gained_same, gained_same, gained_insert List.mem_cons_self, gained_same⟩
  | requestService => exact ⟨gained_same, gained_same, gained_same, gained_insert List.mem_cons_self⟩
  | offerEvent => exact ⟨gained_insert List.mem_cons_self, gained_same, gained_same, gained_same⟩
  | _ => exact ⟨gained_same, gained_same, gained_same, gained_same⟩

/-- **What a command calls was prepared for**, by the calls before it or by
those its triple is in a set for. -/
theorem Accounts.prepared_made (h : Accounts o log) (hm : CallsMade o cmd o' new) :
    Trace.JustifiedFrom CallLog.Prepared log (new.map (Prod.mk cmd)) := by
  cases hm with
  | requestEvent service event fresh =>
    refine ⟨trivial, trivial, trivial, ⟨_, _, _, rfl, ?_, ?_, ?_⟩, trivial⟩
    · simp [CallLog.requestedServices, VsomeipCall.requestedService]
    · simp [CallLog.requestedEvents, VsomeipCall.requestedEvent]
    · simp [CallLog.subscribedEvents, VsomeipCall.subscribedEvent]
  | eventRequested service event known =>
    refine ⟨⟨_, _, _, rfl, ?_, ?_, ?_⟩, trivial⟩
    · exact h.eventsOfRequested _ known
    · exact (h.requestedEvents.mem_iff _).1 known
    · exact (h.subscribedEvents.mem_iff _).1 known
  | offerService sink service method fresh =>
    refine ⟨trivial, ⟨_, _, _, rfl, ?_⟩, trivial⟩
    simp [CallLog.offeredServices, VsomeipCall.offeredService]
  | serviceOffered service method known =>
    exact ⟨⟨_, _, _, rfl, h.offeredServices _ known⟩, trivial⟩
  | requestService service method fresh =>
    refine ⟨trivial, ⟨_, _, _, rfl, ?_⟩, trivial⟩
    simp [CallLog.requestedServices, VsomeipCall.requestedService]
  | serviceRequested service method known =>
    exact ⟨⟨_, _, _, rfl, h.requestedServices _ known⟩, trivial⟩
  | offerEvent service event payload fresh =>
    refine ⟨trivial, trivial, ⟨?_, ?_⟩, trivial⟩
    · simp [CallLog.offeredServices, VsomeipCall.offeredService]
    · simp [CallLog.offeredEvents, VsomeipCall.offeredEvent]
  | eventOffered service event payload known =>
    exact ⟨⟨h.eventsOfOffered _ known, (h.offeredEvents.mem_iff _).1 known⟩, trivial⟩
  | unregister | send | stop => exact ⟨trivial, trivial⟩
  | none => exact trivial

/-- One command keeps the account. -/
theorem Accounts.step (h : Accounts o log) (hm : CallsMade o cmd o' new) :
    Accounts o' (log ++ new.map (Prod.mk cmd)) := by
  obtain ⟨hoe, hre, hos, hrs⟩ := hm.gained
  have hoffered : ∀ t : ServiceTriple, ((t.1, t.2.1) ∈ CallLog.offeredServices log ∨
      (t.1, t.2.1) ∈ new.filterMap VsomeipCall.offeredService) →
      (t.1, t.2.1) ∈ CallLog.offeredServices (log ++ new.map (Prod.mk cmd)) := by
    intro t ht
    rwa [CallLog.offeredServices, CallLog.filterMap_made, List.mem_append]
  have hrequested : ∀ t : ServiceTriple, ((t.1, t.2.1) ∈ CallLog.requestedServices log ∨
      (t.1, t.2.1) ∈ new.filterMap VsomeipCall.requestedService) →
      (t.1, t.2.1) ∈ CallLog.requestedServices (log ++ new.map (Prod.mk cmd)) := by
    intro t ht
    rwa [CallLog.requestedServices, CallLog.filterMap_made, List.mem_append]
  constructor
  · rw [CallLog.offeredEvents, CallLog.filterMap_made]
    exact hm.offeredEvents h.offeredEvents
  · rw [CallLog.requestedEvents, CallLog.filterMap_made]
    exact hm.requestedEvents h.requestedEvents
  · rw [CallLog.subscribedEvents, CallLog.filterMap_made]
    exact hm.subscribedEvents h.subscribedEvents
  · exact fun t ht => hoffered t ((hoe t ht).imp (h.eventsOfOffered t) id)
  · exact fun t ht => hrequested t ((hre t ht).imp (h.eventsOfRequested t) id)
  · exact fun t ht => hoffered t ((hos t ht).imp (h.offeredServices t) id)
  · exact fun t ht => hrequested t ((hrs t ht).imp (h.requestedServices t) id)
  · exact Trace.justified_append.2 ⟨h.prepared, h.prepared_made hm⟩

end Made

/-! ## Runs -/

section Run

variable {d : Deps} {s : EngineState} {log : CallLog} {cmd : TransportCommand}

/-- What holds after every run: the application is there, and the registry
accounts for its calls. -/
structure Recorded (s : EngineState) (log : CallLog) : Prop where
  present : ∃ app, s.application = some app
  calls : log.map Prod.snd = s.calls
  accounts : Accounts s.vsomeipOfferedRequested log

theorem Recorded.started (config : TransportConfig) (client : ClientId) :
    Recorded (Engine.started config client).state [] := ⟨⟨_, rfl⟩, rfl, .new⟩

/-- The log of a command is what it calls. -/
theorem logStep_spec (d : Deps) (cmd : TransportCommand) {app : VsomeipApplication} (happ : s.application = some app) :
    ∃ new, (logStep d s cmd).2 = new.map (Prod.mk cmd) ∧ (logStep d s cmd).1.calls = s.calls ++ new ∧
      (∃ app', (logStep d s cmd).1.application = some app') ∧
      CallsMade s.vsomeipOfferedRequested cmd (logStep d s cmd).1.vsomeipOfferedRequested new := by
  obtain ⟨app', new, happ', hcalls, hmade⟩ := processCommand_calls d cmd happ
  have hgrown : (processCommand d s cmd).2.calls = s.calls ++ new := by
    simp only [EngineState.calls, happ, happ', hcalls, List.reverse_append, List.reverse_reverse]
  refine ⟨new, ?_, hgrown, ⟨app', happ'⟩, hmade⟩
  simp only [logStep, hgrown, List.drop_left]

theorem Recorded.step (h : Recorded s log) : Recorded (logStep d s cmd).1 (log ++ (logStep d s cmd).2) := by
  obtain ⟨app, happ⟩ := h.present
  obtain ⟨new, hnew, hcalls, hpresent, hmade⟩ := logStep_spec d cmd happ
  refine ⟨hpresent, ?_, ?_⟩
  · rw [hnew, hcalls, List.map_append, h.calls, List.map_map]
    congr 1
    exact List.map_id _
  · rw [hnew]
    exact h.accounts.step hmade

theorem Recorded.run (h : Recorded s []) (cmds : List TransportCommand) :
    Recorded (Runs.after (logStep d) s cmds) (callLog d s cmds) := by
  have hrun : Recorded (Runs.after (logStep d) s cmds) ([] ++ Runs.outputs (logStep d) s cmds).flatten := by
    refine Runs.outputs_invariant (fun s os => Recorded s os.flatten) (fun s os cmd hs => ?_) h cmds
    simpa using hs.step
  simpa [callLog] using hrun

end Run

/-- **Everything is offered and requested before it is used, and events once
each.** After any commands, whose log has every call the application got: an
event that was notified was offered before, with its service; a handler was
registered only for what was requested before, or offered, as its type needs;
no event was offered, requested or subscribed to twice; and the events the
registry remembers are those. -/
theorem offered_and_requested_before_use (d : Deps) (config : TransportConfig) (client : ClientId)
    (cmds : List TransportCommand) :
    let s := (Engine.started config client).state
    let log := callLog d s cmds
    let s' := Runs.after (logStep d) s cmds
    let registry := s'.vsomeipOfferedRequested
    log.map Prod.snd = s'.calls ∧
    (∀ before e after, log = before ++ e :: after → CallLog.Prepared before e) ∧
    (log.offeredEvents.Nodup ∧ log.requestedEvents.Nodup ∧ log.subscribedEvents.Nodup) ∧
    log.offeredEvents.toFinset = registry.offeredEvents ∧
    log.requestedEvents.toFinset = registry.requestedEvents ∧
    log.subscribedEvents.toFinset = registry.requestedEvents := by
  intro s log s' registry
  have hrun : Recorded s' log := (Recorded.started config client).run cmds
  have h := hrun.accounts
  refine ⟨hrun.calls, fun before e after he => ?_,
    ⟨h.offeredEvents.nodup, h.requestedEvents.nodup, h.subscribedEvents.nodup⟩, h.offeredEvents.toFinset_eq,
    h.requestedEvents.toFinset_eq, h.subscribedEvents.toFinset_eq⟩
  have hlog := h.prepared
  rw [he] at hlog
  exact hlog.before

/-! ## Versions -/

/-- Any two offers of a service carry the same version. -/
def CallLog.OneVersion (log : CallLog) : Prop :=
  ∀ e ∈ log, ∀ e' ∈ log, ∀ service instanceId major minor major' minor',
    e.2 = .offerService service instanceId major minor → e'.2 = .offerService service instanceId major' minor' →
    major = major' ∧ minor = minor'

/-- The commands choose the same version: both publish, or both register
requests of one version, as far as it fits into 8 bits. -/
def TransportCommand.SameVersion : TransportCommand → TransportCommand → Prop
  | .send _, .send _ => True
  | .registerListener _ (some sink) .request _, .registerListener _ (some sink') .request _ =>
    (splitU32ToU8 sink.ueVersionMajor).2.2.2 = (splitU32ToU8 sink'.ueVersionMajor).2.2.2
  | _, _ => False

/-- Where an offer comes from, and the version it carries. -/
inductive OfferedBy (major : UInt8) (minor : UInt32) : TransportCommand → Prop
  | publish {umsg} (hmajor : major = anyMajor) (hminor : minor = anyMinor) : OfferedBy major minor (.send umsg)
  | request {src sink fn} (hmajor : major = (splitU32ToU8 sink.ueVersionMajor).2.2.2)
      (hminor : minor = defaultMinor) : OfferedBy major minor (.registerListener src (some sink) .request fn)

theorem CallsMade.offeredBy {o o' : InMemoryVsomeipOfferedRequestedRegistry} {cmd : TransportCommand}
    {new : List VsomeipCall} (hm : CallsMade o cmd o' new) {service instanceId major minor}
    (hc : .offerService service instanceId major minor ∈ new) : OfferedBy major minor cmd := by
  cases hm with
  | offerService sink _ _ _ =>
    simp only [List.mem_cons, VsomeipCall.offerService.injEq, reduceCtorEq, List.not_mem_nil, or_false] at hc
    exact .request hc.2.2.1 hc.2.2.2
  | offerEvent _ _ _ _ =>
    simp only [List.mem_cons, VsomeipCall.offerService.injEq, reduceCtorEq, List.not_mem_nil, or_false] at hc
    exact .publish hc.2.2.1 hc.2.2.2
  | _ => simp at hc

theorem Recorded.offeredBy {d : Deps} {s : EngineState} (h : Recorded s []) (cmds : List TransportCommand)
    {e : TransportCommand × VsomeipCall} (he : e ∈ callLog d s cmds) {service instanceId major minor}
    (hc : e.2 = .offerService service instanceId major minor) : OfferedBy major minor e.1 := by
  induction cmds using List.reverseRecOn with
  | nil => cases he
  | append_singleton cmds cmd ih =>
    simp only [callLog, Runs.outputs_concat, List.flatten_append, List.mem_append] at he
    rcases he with he | he
    · exact ih he
    · obtain ⟨app, happ⟩ := (h.run (d := d) cmds).present
      obtain ⟨new, hnew, -, -, hmade⟩ := logStep_spec d cmd happ
      simp only [List.flatten_cons, List.flatten_nil, List.append_nil, hnew, List.mem_map] at he
      obtain ⟨call, hcall, rfl⟩ := he
      obtain rfl : call = _ := hc
      exact hmade.offeredBy hcall

/-- **Two offers of a service carry the same version if and only if both were
made for a published event** (any version), **or both for request listeners
whose sink filters agree in the low 8 bits of their version** (that version,
with the default minor one). -/
theorem offered_versions (d : Deps) (config : TransportConfig) (client : ClientId) (cmds : List TransportCommand) :
    let log := callLog d (Engine.started config client).state cmds
    ∀ e ∈ log, ∀ e' ∈ log, ∀ service instanceId major minor major' minor',
      e.2 = .offerService service instanceId major minor → e'.2 = .offerService service instanceId major' minor' →
      (major = major' ∧ minor = minor' ↔ e.1.SameVersion e'.1) := by
  intro log e he e' he' service instanceId major minor major' minor' hc hc'
  have hby := (Recorded.started config client).offeredBy cmds he hc
  have hby' := (Recorded.started config client).offeredBy cmds he' hc'
  have hne : anyMinor ≠ defaultMinor := by decide
  generalize e.1 = cmd at hby
  generalize e'.1 = cmd' at hby'
  cases hby with
  | publish hmajor hminor =>
    cases hby' with
    | publish hmajor' hminor' => simp [TransportCommand.SameVersion, *]
    | request hmajor' hminor' => simp [TransportCommand.SameVersion, *]
  | request hmajor hminor =>
    cases hby' with
    | publish hmajor' hminor' => simp [TransportCommand.SameVersion, *, hne.symm]
    | request hmajor' hminor' => simp [TransportCommand.SameVersion, *]

/-- A request listener for a method of service 1, and an event of it. -/
def offerMethod (version method : UInt32) : TransportCommand :=
  .registerListener UpRust.accepting.any (some ⟨"foo", 1, version, method⟩) .request ⟨0, by decide⟩

def offerTopic : TransportCommand :=
  .send ⟨some { type := .known .publish, source := some ⟨"foo", 1, 1, 0x8001⟩ }, none⟩

/-- What they log in a fresh application. -/
def offerLog (cmds : List TransportCommand) : CallLog :=
  callLog .accepting (Engine.started (Process.sampleConfig ()).1 7).state cmds

theorem offered_versions_sample :
    (1 : UInt8) = 1 ∧ (0 : UInt32) = 0 ↔ (offerMethod 1 1).SameVersion (offerMethod 1 2) :=
  offered_versions .accepting (Process.sampleConfig ()).1 7 [offerMethod 1 1, offerMethod 1 2]
    (offerMethod 1 1, .offerService 1 1 1 0) (by decide) (offerMethod 1 2, .offerService 1 1 1 0) (by decide)
    1 1 1 0 1 0 rfl rfl

/-- Two versions of one service: publishing and serving, in either order, and
serving two methods in different versions. -/
theorem not_oneVersion :
    ¬ (offerLog [offerTopic, offerMethod 1 1]).OneVersion ∧ ¬ (offerLog [offerMethod 1 1, offerTopic]).OneVersion ∧
      ¬ (offerLog [offerMethod 1 1, offerMethod 2 2]).OneVersion := by
  refine ⟨fun h => ?_, fun h => ?_, fun h => ?_⟩
  · have hsame := h (offerTopic, .offerService 1 1 anyMajor anyMinor) (by decide)
      (offerMethod 1 1, .offerService 1 1 1 defaultMinor) (by decide) 1 1 _ _ _ _ rfl rfl
    exact absurd hsame.1 (by decide)
  · have hsame := h (offerMethod 1 1, .offerService 1 1 1 defaultMinor) (by decide)
      (offerTopic, .offerService 1 1 anyMajor anyMinor) (by decide) 1 1 _ _ _ _ rfl rfl
    exact absurd hsame.1 (by decide)
  · have hsame := h (offerMethod 1 1, .offerService 1 1 1 defaultMinor) (by decide)
      (offerMethod 2 2, .offerService 1 1 2 defaultMinor) (by decide) 1 1 _ _ _ _ rfl rfl
    exact absurd hsame.1 (by decide)

end VsomeipTransport
