/-
The transports of a network, and the requests and replies between them.

The transports run side by side: calls put commands into the queues of the
engines, the engines take their turns, and vsomeip hands messages in at any
time. Of vsomeip this takes that a message arrives as it was sent, and a reply
only at the application whose client id it carries; it may lose messages,
deliver them more than once and in any order, so every message sent stays on
the wire.

`Happened` says what came of a step: what was handed to vsomeip, and which
message was made of one it handed in. Where the message goes from there is no
matter of the network: a listener is looked up after the conversion, which has
taken the request off the table by then.
-/
import VsomeipTransport.CorrelationFacts
import VsomeipTransport.Transport

namespace VsomeipTransport

/-- The transports `N`, each with the client id vsomeip gave its application. -/
structure RpcNetwork (N : Type) where
  deps : Deps
  config : N → TransportConfig
  client : N → ClientId

structure NetworkState (N : Type) where
  engines : N → Engine
  wire : List VsomeipMessage

inductive NetworkEvent (N : Type)
  /-- A call sends a command to the engine of `n`. -/
  | command (n : N) (cmd : TransportCommand)
  | engineTurn (n : N)
  /-- vsomeip calls a handler of `n` with `m`, and its transport is found. `id`
  is the id the builder gives the message, if one is built. -/
  | deliver (n : N) (m : VsomeipMessage) (id : UUID)
  | applicationLost (n : N)

inductive Happened (N : Type)
  | requested (n : N) (umsg : UMessage) (m : VsomeipMessage)
  | responded (n : N) (umsg : UMessage) (m : VsomeipMessage)
  /-- The request `umsg` was made of `m`. -/
  | received (n : N) (m : VsomeipMessage) (umsg : UMessage)
  /-- The response `umsg` was made of the reply `m`. -/
  | answered (n : N) (m : VsomeipMessage) (umsg : UMessage)
  /-- `m` was handed to `n` and could not be converted. -/
  | refused (n : N) (m : VsomeipMessage)
  | nothing

/-- What the engine handed to `application::send` in a turn. -/
def Engine.handedOver (e e' : Engine) : Option VsomeipMessage :=
  match e.state.application, e'.state.application with
  | some app, some app' =>
    match app'.calls with
    | .send m :: calls => if calls = app.calls then some m else none
    | _ => none
  | _, _ => none

namespace RpcNetwork

variable {N : Type} (net : RpcNetwork N)

/-- What the conversions of `n` are given. -/
def env (n : N) : ConversionEnv where
  toDeps := net.deps
  authorityName := (net.config n).uri.uri.authorityName
  selfUuri := (net.config n).uri
  mechatronicsAuthorityName := (net.config n).remoteAuthority

def start : NetworkState N := ⟨fun n => .started (net.config n) (net.client n), []⟩

/-- vsomeip may hand `m` to `n`. -/
def Addressed (s : NetworkState N) (n : N) (m : VsomeipMessage) : Prop :=
  m ∈ s.wire ∧ (m.IsReply → m.client = net.client n)

instance (s : NetworkState N) (n : N) (m : VsomeipMessage) : Decidable (net.Addressed s n m) := by
  unfold Addressed; infer_instance

/-- What is said of a message handed over for `umsg`. -/
def handing (n : N) (umsg : UMessage) (m : VsomeipMessage) : Happened N :=
  if m.messageType = .request then .requested n umsg m else .responded n umsg m

/-- What is said of `umsg` made of `m`. -/
def making (n : N) (m : VsomeipMessage) (umsg : UMessage) : Happened N :=
  if m.messageType = .request then .received n m umsg
  else if m.IsReply then .answered n m umsg
  else .nothing

variable [DecidableEq N]

def setEngine (s : NetworkState N) (n : N) (e : Engine) : NetworkState N :=
  { s with engines := Function.update s.engines n e }

def step (s : NetworkState N) : NetworkEvent N → NetworkState N × Happened N
  | .command n cmd =>
    let e := s.engines n
    if e.running then (setEngine s n { e with queue := e.queue ++ [cmd] }, .nothing) else (s, .nothing)
  | .engineTurn n =>
    let e := s.engines n
    let e' := e.turn net.deps
    match e.queue, e.handedOver e' with
    | .send umsg :: _, some m => ({ setEngine s n e' with wire := s.wire ++ [m] }, handing n umsg m)
    | _, _ => (setEngine s n e', .nothing)
  | .deliver n m id =>
    if net.Addressed s n m then
      let e := s.engines n
      let env := net.env n
      let (res, rpc) := VsomeipMessageToUMessage.convertVsomeipMsgToUmsg env.up env.authorityName env.selfUuri
        env.mechatronicsAuthorityName id m e.state.rpcCorrelation
      let s := setEngine s n { e with state := { e.state with rpcCorrelation := rpc } }
      match res with
      | .ok umsg => (s, making n m umsg)
      | .error _ => (s, .refused n m)
    else (s, .nothing)
  | .applicationLost n =>
    let e := s.engines n
    (setEngine s n { e with state := { e.state with application := none } }, .nothing)

/-- What happened in a run, oldest first. -/
def trace (run : List (NetworkEvent N)) : List (Happened N) := Runs.outputs net.step net.start run

end RpcNetwork

/-- The request `n` handed to vsomeip, if it did. -/
def Happened.requestOf {N : Type} [DecidableEq N] (n : N) : Happened N → Option VsomeipMessage
  | .requested n' _ m => if n' = n then some m else none
  | _ => none

/-- The reply `n` made a response of, if it did. -/
def Happened.answerOf {N : Type} [DecidableEq N] (n : N) : Happened N → Option VsomeipMessage
  | .answered n' m _ => if n' = n then some m else none
  | _ => none

end VsomeipTransport
