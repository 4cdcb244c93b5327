/-
What a command does to the handlers vsomeip holds, and what the engine does
with its queue.

The effect of a command on the handlers of its application is a function of
the command alone (`TransportCommand.onHandlers`), and `processCommand` has
exactly that effect (`processCommand_handlers`). Only a request that is sent
can panic. `serve_invariant` carries what each command preserves over the
whole queue, whether the engine survives it or not.
-/
import VsomeipTransport.TransportEngine

namespace VsomeipTransport

/-! ## The triples -/

/-- The triple `register_listener_internal` registers a handler under. -/
def registerKey (registrationType : RegistrationType) (src : UUri) (sink : Option UUri) : Option HandlerKey :=
  match registrationType, sink with
  | .publish, _ => some ⟨(splitU32ToU16 src.ueId).2, 1, (splitU32ToU16 src.resourceId).2⟩
  | .request, some sink => some ⟨(splitU32ToU16 sink.ueId).2, anyInstance, (splitU32ToU16 sink.resourceId).2⟩
  | .response, _ => some ⟨(splitU32ToU16 src.ueId).2, anyInstance, (splitU32ToU16 src.resourceId).2⟩
  | _, _ => none

/-- The triple `unregister_listener_internal` unregisters. -/
def unregisterKey (registrationType : RegistrationType) (src : UUri) (sink : Option UUri) : Option HandlerKey :=
  match registrationType, sink with
  | .publish, _ => some ⟨(splitU32ToU16 src.ueId).2, anyInstance, (splitU32ToU16 src.resourceId).2⟩
  | .request, some sink => some ⟨(splitU32ToU16 sink.ueId).2, anyInstance, (splitU32ToU16 sink.resourceId).2⟩
  | .response, some sink => some ⟨(splitU32ToU16 sink.ueId).2, anyInstance, (splitU32ToU16 sink.resourceId).2⟩
  | _, _ => none

/-- Filters of a registrable type have a triple to register. -/
theorem registerKey_registrable {up : UpRust} {src : UUri} {sink : Option UUri} {type : RegistrationType}
    (ht : determineType up src sink = .ok type) (hp : type ≠ .allPointToPoint) :
    ∃ key, registerKey type src sink = some key := by
  cases sink with
  | none =>
    simp only [determineType, Except.ok.injEq] at ht
    subst ht
    exact ⟨_, rfl⟩
  | some sink =>
    cases type with
    | publish => exact ⟨_, rfl⟩
    | request => exact ⟨_, rfl⟩
    | response => exact ⟨_, rfl⟩
    | allPointToPoint => exact absurd rfl hp

/-- What a command does to the handlers of its application. -/
def TransportCommand.onHandlers (cmd : TransportCommand) (handlers : PartialMap HandlerKey MessageHandlerFnPtr) :
    PartialMap HandlerKey MessageHandlerFnPtr :=
  match cmd with
  | .registerListener src sink registrationType msgHandler =>
    match registerKey registrationType src sink with
    | some key => handlers.insert key msgHandler
    | none => handlers
  | .unregisterListener src sink registrationType =>
    match unregisterKey registrationType src sink with
    | some key => handlers.remove key
    | none => handlers
  | _ => handlers

/-- The triple a command registers or unregisters. -/
def TransportCommand.key : TransportCommand → Option HandlerKey
  | .registerListener src sink registrationType _ => registerKey registrationType src sink
  | .unregisterListener src sink registrationType => unregisterKey registrationType src sink
  | _ => none

/-- A command leaves the handlers of every triple but its own alone. -/
theorem TransportCommand.onHandlers_other {cmd : TransportCommand} {handlers} {key : HandlerKey}
    (h : cmd.key ≠ some key) : cmd.onHandlers handlers key = handlers key := by
  cases cmd with
  | registerListener src sink ty fn =>
    simp only [TransportCommand.key] at h
    simp only [onHandlers]
    cases hk : registerKey ty src sink with
    | some k =>
      have hne : key ≠ k := fun he => h (by rw [hk, he])
      exact PartialMap.insert_of_ne hne
    | none => rfl
  | unregisterListener src sink ty =>
    simp only [TransportCommand.key] at h
    simp only [onHandlers]
    cases hk : unregisterKey ty src sink with
    | some k =>
      have hne : key ≠ k := fun he => h (by rw [hk, he])
      exact PartialMap.remove_of_ne hne
    | none => rfl
  | send umsg => rfl
  | stopVsomeipApp => rfl

/-- An entry is there after a command if the command put it there, or it was
there and is not under the command's triple. -/
theorem TransportCommand.onHandlers_some {cmd : TransportCommand} {handlers} {key : HandlerKey}
    {fn : MessageHandlerFnPtr} (h : cmd.onHandlers handlers key = some fn) :
    (∃ src sink ty, cmd = .registerListener src sink ty fn ∧ registerKey ty src sink = some key) ∨
    (handlers key = some fn ∧ cmd.key ≠ some key) := by
  by_cases hk : cmd.key = some key
  · cases cmd with
    | registerListener src sink ty fn' =>
      simp only [TransportCommand.key] at hk
      simp only [onHandlers, hk, PartialMap.insert_self, Option.some.injEq] at h
      exact .inl ⟨src, sink, ty, by rw [h], hk⟩
    | unregisterListener src sink ty =>
      simp only [TransportCommand.key] at hk
      simp [onHandlers, hk] at h
    | send umsg => cases hk
    | stopVsomeipApp => cases hk
  · exact .inr ⟨by rwa [onHandlers_other hk] at h, hk⟩

/-! ## One command -/

variable {d : Deps} {s s' : EngineState} {cmd : TransportCommand}

/-- A registration succeeds when its filters have a triple, and touches only
the handlers and the record of calls. -/
theorem registerListenerInternal_spec (src : UUri) (sink : Option UUri) (ty : RegistrationType)
    (fn : MessageHandlerFnPtr) (offered : InMemoryVsomeipOfferedRequestedRegistry) (app : VsomeipApplication) :
    let r := registerListenerInternal src sink ty fn offered app
    r.2.2.client = app.client ∧ r.2.2.session = app.session ∧
    r.2.2.handlers = (TransportCommand.registerListener src sink ty fn).onHandlers app.handlers ∧
    ((∃ key, registerKey ty src sink = some key) ↔ r.1 = .ok ()) := by
  intro r
  cases ty with
  | publish =>
    simp only [r, registerListenerInternal, TransportCommand.onHandlers, registerKey]
    split <;> simp [VsomeipApplication.registerMessageHandler]
  | request =>
    cases sink with
    | none => simp [r, registerListenerInternal, TransportCommand.onHandlers, registerKey]
    | some sink =>
      simp only [r, registerListenerInternal, TransportCommand.onHandlers, registerKey]
      split <;> simp [VsomeipApplication.registerMessageHandler]
  | response =>
    simp only [r, registerListenerInternal, TransportCommand.onHandlers, registerKey]
    split <;> simp [VsomeipApplication.registerMessageHandler]
  | allPointToPoint =>
    cases sink <;> simp [r, registerListenerInternal, TransportCommand.onHandlers, registerKey]

theorem unregisterListenerInternal_spec (src : UUri) (sink : Option UUri) (ty : RegistrationType)
    (app : VsomeipApplication) :
    let r := unregisterListenerInternal src sink ty app
    r.2.client = app.client ∧ r.2.session = app.session ∧
    r.2.handlers = (TransportCommand.unregisterListener src sink ty).onHandlers app.handlers ∧
    ((∃ key, unregisterKey ty src sink = some key) ↔ r.1 = .ok ()) := by
  intro r
  cases ty with
  | publish =>
    simp [r, unregisterListenerInternal, TransportCommand.onHandlers, unregisterKey,
      VsomeipApplication.unregisterMessageHandler]
  | request | response =>
    cases sink <;>
      simp [r, unregisterListenerInternal, TransportCommand.onHandlers, unregisterKey,
        VsomeipApplication.unregisterMessageHandler]
  | allPointToPoint =>
    cases sink <;> simp [r, unregisterListenerInternal, TransportCommand.onHandlers, unregisterKey]

theorem umsgPublishToVsomeipNotification_app (umsg : UMessage)
    (offered : InMemoryVsomeipOfferedRequestedRegistry) (app : VsomeipApplication) :
    let r := UMessageToVsomeipMessage.umsgPublishToVsomeipNotification umsg offered app
    r.2.2.client = app.client ∧ r.2.2.session = app.session ∧ r.2.2.handlers = app.handlers := by
  intro r
  simp only [r, UMessageToVsomeipMessage.umsgPublishToVsomeipNotification]
  split
  · simp
  · split <;> simp

/-- Sending does not touch the handlers. -/
theorem sendInternal_handlers (d : Deps) (umsg : UMessage) (rpc : InMemoryRpcCorrelationRegistry)
    (offered : InMemoryVsomeipOfferedRequestedRegistry) (app : VsomeipApplication) :
    (sendInternal d umsg rpc offered app).2.2.2.handlers = app.handlers := by
  have hpub := (umsgPublishToVsomeipNotification_app umsg offered app).2.2
  unfold sendInternal
  split
  · rfl
  · rfl
  · split
    · next hp => rw [hp] at hpub; exact hpub
    · next hp => rw [hp] at hpub; simpa using hpub
  · split <;> simp
  · split <;> simp

/-- **A command has its effect on the handlers, and no other.** -/
theorem processCommand_handlers (d : Deps) (s : EngineState) (cmd : TransportCommand) :
    (processCommand d s cmd).2.application.map (·.handlers) =
      s.application.map fun app => cmd.onHandlers app.handlers := by
  unfold processCommand
  cases happ : s.application with
  | none => simp [happ]
  | some app =>
    cases cmd with
    | registerListener src sink ty fn =>
      have hspec := registerListenerInternal_spec src sink ty fn s.vsomeipOfferedRequested app
      simpa using hspec.2.2.1
    | unregisterListener src sink ty =>
      have hspec := unregisterListenerInternal_spec src sink ty app
      simpa using hspec.2.2.1
    | send umsg =>
      have hsend := sendInternal_handlers d umsg s.rpcCorrelation s.vsomeipOfferedRequested app
      simpa [TransportCommand.onHandlers] using hsend
    | stopVsomeipApp => rfl

theorem processCommand_some (d : Deps) {s : EngineState} (cmd : TransportCommand) {app : VsomeipApplication}
    (happ : s.application = some app) : ∃ app', (processCommand d s cmd).2.application = some app' ∧
      app'.handlers = cmd.onHandlers app.handlers := by
  have h := processCommand_handlers d s cmd
  simp only [happ, Option.map_some, Option.map_eq_some_iff] at h
  exact h

/-- The application of a name stays what it is, present or not. -/
theorem processCommand_application (d : Deps) (s : EngineState) (cmd : TransportCommand) :
    (processCommand d s cmd).2.application.isSome = s.application.isSome := by
  have h := congrArg Option.isSome (processCommand_handlers d s cmd)
  simpa using h

/-- Only sending can panic. -/
theorem processCommand_panicked {msg : String} (h : processCommand d s cmd = (.panicked msg, s')) :
    ∃ umsg, cmd = .send umsg := by
  unfold processCommand at h
  split at h
  · cases h
  · split at h
    · cases h
    · cases h
    · exact ⟨_, rfl⟩
    · cases h

/-- The engine registers what has a triple, if there is an application. -/
theorem processCommand_register {src : UUri} {sink : Option UUri} {ty : RegistrationType}
    {fn : MessageHandlerFnPtr} {res}
    (h : processCommand d s (.registerListener src sink ty fn) = (.returned res, s')) :
    res = .ok () ↔ s.application.isSome = true ∧ ∃ key, registerKey ty src sink = some key := by
  unfold processCommand at h
  cases happ : s.application with
  | none => simp only [happ] at h; cases h; simp
  | some app =>
    simp only [happ] at h
    cases h
    have hspec := registerListenerInternal_spec src sink ty fn s.vsomeipOfferedRequested app
    simpa using hspec.2.2.2.symm

theorem processCommand_unregister {src : UUri} {sink : Option UUri} {ty : RegistrationType} {res}
    (h : processCommand d s (.unregisterListener src sink ty) = (.returned res, s')) :
    res = .ok () ↔ s.application.isSome = true ∧ ∃ key, unregisterKey ty src sink = some key := by
  unfold processCommand at h
  cases happ : s.application with
  | none => simp only [happ] at h; cases h; simp
  | some app =>
    simp only [happ] at h
    cases h
    have hspec := unregisterListenerInternal_spec src sink ty app
    simpa using hspec.2.2.2.symm

/-! ## The queue -/

namespace Engine

/-- What every command of a queue preserves, serving the queue preserves. -/
theorem serve_invariant (I : EngineState → Prop) {cmds : List TransportCommand}
    (hstep : ∀ s cmd, cmd ∈ cmds → I s → I (processCommand d s cmd).2) (hs : I s) :
    I (serve d s cmds).2 := by
  induction cmds generalizing s with
  | nil => exact hs
  | cons cmd cmds ih =>
    have hcmd := hstep s cmd (by simp) hs
    simp only [serve]
    split
    · next hp =>
      rw [hp] at hcmd
      exact ih (fun s c hc => hstep s c (by simp [hc])) hcmd
    · next hp => rw [hp] at hcmd; exact hcmd

theorem serve_application (d : Deps) (s : EngineState) (cmds : List TransportCommand) :
    (serve d s cmds).2.application.isSome = s.application.isSome := by
  refine serve_invariant (fun s' => s'.application.isSome = s.application.isSome) (fun s' cmd _ h => ?_) rfl
  rw [processCommand_application, h]

/-- One more command does not change whether the engine survives its queue,
unless it is to send. -/
theorem serve_concat (d : Deps) (s : EngineState) (cmds : List TransportCommand) (hcmd : ∀ umsg, cmd ≠ .send umsg) :
    (serve d s (cmds ++ [cmd])).1 = (serve d s cmds).1 := by
  induction cmds generalizing s with
  | nil =>
    cases hp : processCommand d s cmd with
    | mk res s₁ =>
    cases res with
    | returned res => simp only [List.nil_append, serve, hp]
    | panicked msg =>
      obtain ⟨umsg, hc⟩ := processCommand_panicked hp
      exact absurd hc (hcmd umsg)
  | cons c cmds ih =>
    cases hp : processCommand d s c with
    | mk res s₁ =>
    cases res with
    | returned res =>
      simp only [List.cons_append, serve, hp]
      exact ih s₁
    | panicked msg => simp only [List.cons_append, serve, hp]

variable {e e' : Engine} {inTime : Bool} {answer : Answer}

/-- How an engine can answer, and what it is then. -/
theorem ask_cases (h : ask d e cmd inTime = (answer, e')) :
    (e.running = false ∧ answer = .stopped ∧ e' = e) ∨
    (e.running = true ∧ inTime = false ∧ answer = .timedOut ∧ e' = { e with queue := e.queue ++ [cmd] }) ∨
    (e.running = true ∧ inTime = true ∧ answer = .dropped ∧ ∃ s, e' = ⟨s, false, []⟩ ∧
      ((serve d e.state e.queue = (false, s)) ∨
        ∃ s₁ msg, serve d e.state e.queue = (true, s₁) ∧ processCommand d s₁ cmd = (.panicked msg, s))) ∨
    (e.running = true ∧ inTime = true ∧ ∃ s₁ s res, serve d e.state e.queue = (true, s₁) ∧
      processCommand d s₁ cmd = (.returned res, s) ∧ answer = .replied res ∧ e' = ⟨s, true, []⟩) := by
  unfold ask at h
  split at h
  · next hr => cases h; exact .inl ⟨by simpa using hr, rfl, rfl⟩
  next hr =>
  have hrun : e.running = true := by simpa using hr
  split at h
  · next ht => cases h; exact .inr (.inl ⟨hrun, by simpa using ht, rfl, rfl⟩)
  next ht =>
  have htime : inTime = true := by simpa using ht
  refine .inr (.inr ?_)
  split at h
  · next s hs => cases h; exact .inl ⟨hrun, htime, rfl, s, rfl, .inl hs⟩
  next s₁ hs =>
  split at h
  · next res s hp => cases h; exact .inr ⟨hrun, htime, s₁, s, res, hs, hp, rfl, rfl⟩
  · next msg s hp => cases h; exact .inl ⟨hrun, htime, rfl, s, rfl, .inr ⟨s₁, msg, hs, hp⟩⟩

/-- The caller of a running engine gets a status. -/
theorem ask_running (functionId : String) (hrun : e.running = true) (h : ask d e cmd inTime = (answer, e')) :
    ∃ res, awaitEngine functionId answer = .returned res := by
  rcases ask_cases h with ⟨hstop, -⟩ | ⟨-, -, rfl, -⟩ | ⟨-, -, rfl, -⟩ | ⟨-, -, _, _, res, -, -, rfl, -⟩
  · rw [hrun] at hstop; cases hstop
  · exact ⟨_, rfl⟩
  · exact ⟨_, rfl⟩
  · exact ⟨res, rfl⟩

/-- An engine with nothing else to do answers at once, unless it is to send. -/
theorem ask_idle (d : Deps) (cmd : TransportCommand) (hrun : e.running = true) (hq : e.queue = [])
    (hs : ∀ umsg, cmd ≠ .send umsg) :
    ∃ res, (processCommand d e.state cmd).1 = .returned res ∧
      ask d e cmd true = (.replied res, ⟨(processCommand d e.state cmd).2, true, []⟩) := by
  cases hp : processCommand d e.state cmd with
  | mk res s =>
  cases res with
  | returned res => exact ⟨res, rfl, by simp [ask, hrun, hq, serve, hp]⟩
  | panicked msg =>
    obtain ⟨umsg, hc⟩ := processCommand_panicked hp
    exact absurd hc (hs umsg)

/-- Running, with an application and nothing in the queue. -/
structure Idle (e : Engine) : Prop where
  running : e.running = true
  queue : e.queue = []
  application : e.state.application.isSome = true

theorem Idle.eq_mk (h : e.Idle) : e = ⟨e.state, true, []⟩ := by
  cases e with
  | mk state running queue =>
  obtain rfl : running = true := h.running
  obtain rfl : queue = [] := h.queue
  rfl

/-- An idle engine is idle again after a command. -/
theorem Idle.processed (h : e.Idle) (cmd : TransportCommand) :
    Idle ⟨(processCommand d e.state cmd).2, true, []⟩ :=
  ⟨rfl, rfl, (processCommand_application d e.state cmd).trans h.application⟩

/-- It runs, and will do so after what waits in its queue. -/
structure Survives (d : Deps) (e : Engine) : Prop where
  running : e.running = true
  queue : (serve d e.state e.queue).1 = true

theorem Idle.survives (h : Idle e) : e.Survives d := ⟨h.running, by rw [h.queue]; rfl⟩

/-- Only commands to send can change that. -/
theorem Survives.ask (hs : e.Survives d) (hcmd : ∀ umsg, cmd ≠ .send umsg)
    (h : Engine.ask d e cmd inTime = (answer, e')) : e'.Survives d := by
  rcases ask_cases h with ⟨hstop, -⟩ | ⟨-, -, -, rfl⟩ | ⟨-, -, -, s, -, hq | ⟨s₁, msg, -, hp⟩⟩ |
    ⟨-, -, s₁, s, res, -, -, -, rfl⟩
  · rw [hs.running] at hstop; cases hstop
  · exact ⟨hs.running, (serve_concat d e.state e.queue hcmd).trans hs.queue⟩
  · have hq' := hs.queue
    rw [hq] at hq'
    cases hq'
  · obtain ⟨umsg, hc⟩ := processCommand_panicked hp
    exact absurd hc (hcmd umsg)
  · exact ⟨rfl, rfl⟩

/-- What the queue and the command preserve, asking preserves. -/
theorem ask_invariant (I : EngineState → Prop)
    (hstep : ∀ s c, c ∈ e.queue ∨ c = cmd → I s → I (processCommand d s c).2) (hs : I e.state)
    (h : ask d e cmd inTime = (answer, e')) : I e'.state := by
  have hserve : I (serve d e.state e.queue).2 := serve_invariant I (fun s c hc => hstep s c (.inl hc)) hs
  rcases ask_cases h with ⟨-, -, rfl⟩ | ⟨-, -, -, rfl⟩ | ⟨-, -, -, s, rfl, hq | ⟨s₁, msg, hq, hp⟩⟩ |
    ⟨-, -, s₁, s, res, hq, hp, -, rfl⟩
  · exact hs
  · exact hs
  · simpa [hq] using hserve
  · rw [hq] at hserve
    have hcmd := hstep s₁ cmd (.inr rfl) hserve
    simpa [hp] using hcmd
  · rw [hq] at hserve
    have hcmd := hstep s₁ cmd (.inr rfl) hserve
    simpa [hp] using hcmd

/-- What is left in the queue was there or is the command. -/
theorem ask_queue (h : ask d e cmd inTime = (answer, e')) :
    ∀ c ∈ e'.queue, c ∈ e.queue ∨ (c = cmd ∧ answer = .timedOut) := by
  rcases ask_cases h with ⟨-, -, rfl⟩ | ⟨-, -, ha, rfl⟩ | ⟨-, -, -, s, rfl, -⟩ | ⟨-, -, s₁, s, res, -, -, -, rfl⟩
  · exact fun c hc => .inl hc
  · intro c hc
    simp only [List.mem_append, List.mem_singleton] at hc
    exact hc.imp id (fun he => ⟨he, ha⟩)
  · simp
  · simp

/-- The next command, or nothing. -/
theorem turn_cases (d : Deps) (e : Engine) :
    turn d e = e ∨ ∃ cmd cmds, e.queue = cmd :: cmds ∧ (turn d e).state = (processCommand d e.state cmd).2 ∧
      ((turn d e).queue = cmds ∨ (turn d e).queue = []) := by
  unfold turn
  split
  · next cmd cmds _ hq =>
    refine .inr ⟨cmd, cmds, hq, ?_⟩
    split
    · next hp => exact ⟨by rw [hp], .inl rfl⟩
    · next hp => exact ⟨by rw [hp], .inr rfl⟩
  · exact .inl rfl

end Engine

end VsomeipTransport
