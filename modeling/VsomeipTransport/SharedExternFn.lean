/-
`vsomeip-proc-macro`: what every generated message handler does when vsomeip
invokes it (`call_shared_extern_fn`).

A callback takes three locks, one after the other: it looks up the storage
of its handler id, converts the message against that storage, and looks up
the listener of the id there. Other threads register and release handlers
before each of these, so a callback is given what they do
(`Interference`). The filters of the configuration are not looked at.
-/
import VsomeipTransport.PoolInvariant
import VsomeipTransport.Transport

namespace VsomeipTransport

/-- A message vsomeip hands to `extern_fn_message_handler_{id}`. `id` is the
id the builder gives the message, if one is built. -/
structure Callback where
  messageHandlerId : MessageHandlerId
  vsomeipMsg : VsomeipMessage
  id : UUID

/-- What is done to the handler registry while a callback is under way. -/
structure Interference (T L : Type) where
  beforeStorage : List (HandlerOp T L)
  beforeConversion : List (HandlerOp T L)
  beforeListener : List (HandlerOp T L)

/-- What became of a callback. -/
inductive Delivery (L : Type)
  | handedOver (listener : L) (umsg : UMessage)
  | dropped

namespace Interference

variable {T L : Type}

def none : Interference T L := ⟨[], [], []⟩

/-- All of it, oldest first. -/
def all (others : Interference T L) : List (HandlerOp T L) :=
  others.beforeStorage ++ (others.beforeConversion ++ others.beforeListener)

end Interference

namespace Process

variable {T L : Type}

def rpcCorrelation (p : Process T L) (t : T) : InMemoryRpcCorrelationRegistry :=
  (p.transports t).engine.state.rpcCorrelation

variable [DecidableEq T]

def setRpcCorrelation (p : Process T L) (t : T) (rpc : InMemoryRpcCorrelationRegistry) : Process T L :=
  let engine := (p.transports t).engine
  p.setEngine t { engine with state := { engine.state with rpcCorrelation := rpc } }

/-- `convert_vsomeip_msg_to_umsg` with what the storage of `t` has. -/
def convertFor (d : Deps) (p : Process T L) (t : T) (c : Callback) :
    Except UStatus UMessage × InMemoryRpcCorrelationRegistry :=
  let transport := p.transports t
  VsomeipMessageToUMessage.convertVsomeipMsgToUmsg d.up transport.getLocalAuthority transport.config.uri
    transport.config.remoteAuthority c.id c.vsomeipMsg (p.rpcCorrelation t)

variable [DecidableEq L]

/-- Other threads at work on the handler registry. -/
def interfere (d : Deps) (p : Process T L) (ops : List (HandlerOp T L)) : Process T L :=
  { p with handlers := Runs.after (handlerStep d.up) p.handlers ops }

def callSharedExternFn (d : Deps) (p : Process T L) (c : Callback) (others : Interference T L) :
    Delivery L × Process T L :=
  let p := p.interfere d others.beforeStorage
  match p.handlers.getMessageHandlerIdTransport c.messageHandlerId with
  | none => (.dropped, p)
  | some transportStorage =>
    let p := p.interfere d others.beforeConversion
    let (res, rpc) := p.convertFor d transportStorage c
    let p := p.setRpcCorrelation transportStorage rpc
    match res with
    | .error _ => (.dropped, p)
    | .ok umsg =>
      let p := p.interfere d others.beforeListener
      match p.handlers.getListenerForMessageHandlerId transportStorage c.messageHandlerId with
      | none => (.dropped, p)
      | some listener => (.handedOver listener umsg, p)

end Process

end VsomeipTransport
