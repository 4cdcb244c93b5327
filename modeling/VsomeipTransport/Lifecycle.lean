/-
How a transport is made, and how it ends: `new_internal`, `Drop` and the three
threads they bring together.

The thread of the caller sends `StartVsomeipApp` and `StopVsomeipApp` to the
engine's and waits for the answers, at most as long as `await_engine` does. The
engine's starts the application with `create_app`, step by step (`StartUps`), and
stops the one it finds under the name. The thread of the callback runtime waits
for the signal to shut down. Other commands are in `Transport`: here it only
matters that one of them may end the engine's thread. `drop` is over the
listeners, as in `Drop`, when it comes to `shutdown_vsomeip_app`.

Callers are on a runtime of several threads, or on none: on one of a single
thread `block_in_place` panics.
-/
import VsomeipTransport.CreateApp
import VsomeipTransport.Transport

namespace VsomeipTransport

/-- The `TransportCommand`s of which a transport sends one each. -/
inductive LifecycleCommand
  | startVsomeipApp
  | stopVsomeipApp
deriving DecidableEq

/-- The thread of an engine. It is `creating` while it is in `create_app`. -/
structure LifecycleEngine where
  running : Bool
  creating : Bool
  queue : List LifecycleCommand

/-- The thread of `get_callback_runtime_handle`. -/
inductive RuntimeThread
  | notSpawned
  | waiting
  | shutDown
  | panicked (msg : String)

/-- Where the thread that makes and drops a transport stands. `new_internal`
drops what it has made if it fails after that: `err` is its error then. -/
inductive Stage
  | notMade
  | refused (err : UStatus)
  | starting
  | made
  | dropping (err : Option UStatus)
  | stopping (err : Option UStatus)
  | joining (err : Option UStatus)
  | ended (err : Option UStatus)
  | panicked (msg : String)

/-- A transport. The replies are what its oneshot channels hold, `signalled` is
whether the runtime was sent its signal. -/
structure Lifecycle where
  stage : Stage
  engine : LifecycleEngine
  startReply : Option (Except UStatus Unit)
  stopReply : Option (Except UStatus Unit)
  runtime : RuntimeThread
  signalled : Bool

/-- The transports `I` of a process. -/
structure Lifecycles (I : Type) where
  startUps : StartUps I
  lives : I → Lifecycle

/-- A step of one of the threads, or of an application. -/
inductive LifecycleEvent (I : Type)
  /-- `runtimeBuilt` is whether the runtime's `build` succeeds. -/
  | newInternal (i : I) (runtimeBuilt : Bool)
  /-- The engine takes its next command. -/
  | take (i : I)
  | startUp (e : StartEvent I)
  /-- `create_app` has ended and is answered. -/
  | answerStart (i : I)
  | engineDies (i : I)
  /-- The caller in `await_engine`, at its timeout if it is `late`. -/
  | awaitEngine (i : I) (late : Bool)
  | drop (i : I)
  | shutdownVsomeipApp (i : I)
  | runtimeTurn (i : I)
  | join (i : I)

/-- What is noticed of an application. -/
inductive Noticed (I : Type)
  | created (i : I)
  /-- `i` stops what it finds under its name. -/
  | stopped (i : I) (found : Bool)
  | gone (name : ApplicationName)

/-- The start-up whose thread takes the step. -/
def StartEvent.startUp {I : Type} : StartEvent I → Option I
  | .findApplication i | .findId i _ | .createApplication i _ | .receive i | .timeOut i | .unregister i | .freeId i =>
    some i
  | .stateCallback .. | .send _ | .applicationGone _ => none

def stopVsomeipAppInternal (applications : Finset ApplicationName) (appName : ApplicationName) : Except UStatus Unit :=
  if appName ∈ applications then .ok () else .error (.failWithCode .internal "No application exists")

/-- Nothing has happened to it yet. -/
def Lifecycle.notMade : Lifecycle := ⟨.notMade, ⟨false, false, []⟩, none, none, .notSpawned, false⟩

/-- What `await_engine` sees of a reply, if it does not go on waiting. -/
def Lifecycle.answer (l : Lifecycle) (reply : Option (Except UStatus Unit)) (late : Bool) : Option Engine.Answer :=
  match reply with
  | some res => some (.replied res)
  | none => if !l.engine.running then some .dropped else if late then some .timedOut else none

/-- `UPTransportVsomeip::new_internal` up to the answer of the engine. The engine
is made and sent its first command at once: nobody else knows it before. -/
def Lifecycle.newInternal (up : UpRust) (uri : UUri) (runtimeBuilt : Bool) (l : Lifecycle) : Lifecycle :=
  match TransportUri.check up uri with
  | .error err => { l with stage := .refused err }
  | .ok _ =>
    if runtimeBuilt then
      { l with stage := .starting, engine := ⟨true, false, [.startVsomeipApp]⟩, runtime := .waiting }
    else { l with stage := .panicked "the sender dropped", runtime := .panicked "Unable to create runtime" }

/-- `initialize_vsomeip_app` with the answer, and what `new_internal` does then. -/
def Lifecycle.initialized (up : UpRust) (appName : ApplicationName) (answer : Engine.Answer) (l : Lifecycle) :
    Lifecycle :=
  match VsomeipTransport.awaitEngine "initialize_new_app_internal" answer with
  | .panicked msg => { l with stage := .panicked msg }
  | .returned (.ok ()) => { l with stage := .made }
  | .returned (.error err) =>
    { l with stage := .dropping (some (.failWithCode .internal
        ("Unable to start app for app_name: " ++ appName ++ ", err: " ++ up.debugUStatus err))) }

/-- `shutdown_vsomeip_app` sends its command. -/
def Lifecycle.sendStop (err : Option UStatus) (l : Lifecycle) : Lifecycle :=
  if l.engine.running then
    { l with stage := .stopping err, engine := { l.engine with queue := l.engine.queue ++ [.stopVsomeipApp] } }
  else { l with stage := .panicked "engine has stopped! unable to proceed!" }

/-- What comes last in `drop`: the signal to the runtime. -/
def Lifecycle.signalRuntime (err : Option UStatus) (l : Lifecycle) : Lifecycle :=
  match l.runtime with
  | .waiting => { l with stage := .joining err, signalled := true }
  | _ => { l with stage := .panicked "Unable to send command to shutdown runtime" }

/-- The runtime's thread at `shutdown_rx.recv()`. The sender of the signal goes
with the transport. -/
def Lifecycle.runtimeTurn (l : Lifecycle) : Lifecycle :=
  match l.runtime with
  | .waiting =>
    if l.signalled then { l with runtime := .shutDown }
    else
      match l.stage with
      | .panicked _ => { l with runtime := .panicked "Failed in getting shutdown signal" }
      | _ => l
  | _ => l

def Lifecycle.join (l : Lifecycle) : Lifecycle :=
  match l.stage, l.runtime with
  | .joining err, .shutDown => { l with stage := .ended err }
  | .joining _, .panicked _ => { l with stage := .panicked "Thread panicked" }
  | _, _ => l

namespace Lifecycles

variable {I : Type}

def start : Lifecycles I := ⟨.start, fun _ => .notMade⟩

variable [DecidableEq I]

def setLife (s : Lifecycles I) (i : I) (l : Lifecycle) : Lifecycles I :=
  { s with lives := Function.update s.lives i l }

/-- The engine takes its next command. -/
def take (appName : I → ApplicationName) (s : Lifecycles I) (i : I) : Lifecycles I :=
  let l := s.lives i
  match l.engine with
  | ⟨true, false, .startVsomeipApp :: queue⟩ => s.setLife i { l with engine := ⟨true, true, queue⟩ }
  | ⟨true, false, .stopVsomeipApp :: queue⟩ =>
    s.setLife i { l with
      engine := ⟨true, false, queue⟩
      stopReply := some (stopVsomeipAppInternal s.startUps.applications (appName i)) }
  | _ => s

/-- `start_vsomeip_app_internal` has come to its end. -/
def answerStart (s : Lifecycles I) (i : I) : Lifecycles I :=
  let l := s.lives i
  match l.engine.creating, s.startUps.startUps i with
  | true, .ended (.returned res) =>
    s.setLife i { l with engine := { l.engine with creating := false }, startReply := some res }
  | true, .ended (.panicked _) => s.setLife i { l with engine := ⟨false, false, []⟩ }
  | _, _ => s

/-- An event nothing is ready for changes nothing. -/
def next (up : UpRust) (appName : I → ApplicationName) (uri : I → UUri) (s : Lifecycles I) :
    LifecycleEvent I → Lifecycles I
  | .newInternal i runtimeBuilt =>
    match (s.lives i).stage with
    | .notMade => s.setLife i ((s.lives i).newInternal up (uri i) runtimeBuilt)
    | _ => s
  | .take i => s.take appName i
  | .startUp e =>
    match e.startUp with
    | some i => if (s.lives i).engine.creating then { s with startUps := s.startUps.next appName e } else s
    | none => { s with startUps := s.startUps.next appName e }
  | .answerStart i => s.answerStart i
  | .engineDies i =>
    if (s.lives i).engine.creating then s else s.setLife i { s.lives i with engine := ⟨false, false, []⟩ }
  | .awaitEngine i late =>
    let l := s.lives i
    match l.stage with
    | .starting =>
      match l.answer l.startReply late with
      | some answer => s.setLife i (l.initialized up (appName i) answer)
      | none => s
    | .stopping err =>
      match l.answer l.stopReply late with
      -- An error is logged only.
      | some _ => s.setLife i (l.signalRuntime err)
      | none => s
    | _ => s
  | .drop i =>
    match (s.lives i).stage with
    | .made => s.setLife i { s.lives i with stage := .dropping none }
    | _ => s
  | .shutdownVsomeipApp i =>
    match (s.lives i).stage with
    | .dropping err => s.setLife i ((s.lives i).sendStop err)
    | _ => s
  | .runtimeTurn i => s.setLife i (s.lives i).runtimeTurn
  | .join i => s.setLife i (s.lives i).join

/-- What a step shows of the applications. -/
def noticed (appName : I → ApplicationName) (s : Lifecycles I) : LifecycleEvent I → Option (Noticed I)
  | .take i =>
    match (s.lives i).engine with
    | ⟨true, false, .stopVsomeipApp :: _⟩ => some (.stopped i (decide (appName i ∈ s.startUps.applications)))
    | _ => none
  | .startUp (.createApplication i true) =>
    match (s.lives i).engine.creating, s.startUps.startUps i with
    | true, .holding _ => some (.created i)
    | _, _ => none
  | .startUp (.applicationGone name) => some (.gone name)
  | _ => none

def step (up : UpRust) (appName : I → ApplicationName) (uri : I → UUri) (s : Lifecycles I) (e : LifecycleEvent I) :
    Lifecycles I × Option (Noticed I) :=
  (s.next up appName uri e, s.noticed appName e)

end Lifecycles

end VsomeipTransport
