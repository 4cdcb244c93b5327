/-
`Drop for UPTransportVsomeip`, and everything that can happen in a process:
the public operations in any order, with the engines at their own pace.

`drop` unregisters what its transport has registered, as a caller would, and
then has the application stopped. An error of the engine is logged only; if
the engine has stopped, `drop` panics as every caller does. The shutdown of
the callback runtime, which comes last, is in `Lifecycle`.
-/
import VsomeipTransport.Transport

namespace VsomeipTransport

namespace Process

variable {T L : Type} [DecidableEq T]

/-- The loop of `drop`. -/
def dropListeners (d : Deps) (t : T) :
    Process T L → List (ListenerConfig L) → (ℕ → ℕ → Moment) → Outcome Unit × Process T L
  | p, [], _ => (.returned (), p)
  | p, cfg :: cfgs, moments =>
    match unregisterListener d p t cfg.sourceFilter cfg.sinkFilter cfg.listener (moments 0) with
    | (.panicked msg, p) => (.panicked msg, p)
    | (.returned _, p) => dropListeners d t p cfgs (fun i => moments (i + 1))

def shutdownVsomeipApp (d : Deps) (p : Process T L) (t : T) (inTime : Bool) :
    Outcome (Except UStatus Unit) × Process T L :=
  let (answer, p) := ask d p t .stopVsomeipApp inTime
  (awaitEngine "stop_app" answer, p)

/-- `drop`: `order` is how the map yields its ids, `moments i` is for the
`i`-th listener, `inTime` for the command to stop. -/
def drop (d : Deps) (p : Process T L) (t : T) (order : IterOrder MessageHandlerId) (moments : ℕ → ℕ → Moment)
    (inTime : Bool) : Outcome Unit × Process T L :=
  match dropListeners d t p (p.handlers.getAllListenerConfigs order t) moments with
  | (.panicked msg, p) => (.panicked msg, p)
  | (.returned (), p) =>
    match shutdownVsomeipApp d p t inTime with
    | (.panicked msg, p) => (.panicked msg, p)
    | (.returned _, p) => (.returned (), p)

end Process

/-! ## Whole processes -/

inductive Call (T L : Type)
  | registerListener (t : T) (sourceFilter : UUri) (sinkFilter : Option UUri) (listener : L) (moments : ℕ → Moment)
  | unregisterListener (t : T) (sourceFilter : UUri) (sinkFilter : Option UUri) (listener : L) (moments : ℕ → Moment)
  | send (t : T) (message : UMessage) (moments : ℕ → Moment)
  | drop (t : T) (order : IterOrder MessageHandlerId) (moments : ℕ → ℕ → Moment) (inTime : Bool)
  | engineTurn (t : T)
  | applicationLost (t : T)

inductive CallResult
  | returned (res : Outcome (Except UStatus Unit))
  | dropped (res : Outcome Unit)
  | done

namespace Process

variable {T L : Type} [DecidableEq T] [DecidableEq L]

def callStep (d : Deps) (p : Process T L) : Call T L → Process T L × CallResult
  | .registerListener t sourceFilter sinkFilter listener moments =>
    let (res, p) := registerListener d p t sourceFilter sinkFilter listener moments
    (p, .returned res)
  | .unregisterListener t sourceFilter sinkFilter listener moments =>
    let (res, p) := unregisterListener d p t sourceFilter sinkFilter listener moments
    (p, .returned res)
  | .send t message moments =>
    let (res, p) := send d p t message moments
    (p, .returned res)
  | .drop t order moments inTime =>
    let (res, p) := drop d p t order moments inTime
    (p, .dropped res)
  | .engineTurn t => (p.engineTurn d t, .done)
  | .applicationLost t => (p.applicationLost t, .done)

end Process

end VsomeipTransport
