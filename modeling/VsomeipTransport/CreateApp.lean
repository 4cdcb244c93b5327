/-
`create_app` of the engines of a process, with the state handlers they share
(`storage/application_state_availability_handler_registry.rs`, and the
functions and channels `vsomeip-proc-macro` generates for it).

Each state handler id has one channel, made once for the process: what is
raised through the function of the id goes in, and whoever has the id takes
from it. The start-ups of several engines run side by side, and the
applications raise their states in between (`StartUps.next`). An event
carries the start-up whose application raised it. The code does not see
that, it is for the statements.
-/
import VsomeipTransport.Vsomeip

namespace VsomeipTransport

/-! ## The state handlers -/

abbrev StateHandlerId := ℕ

/-- `generate_available_state_handler_extern_c_fns!(1000)`. -/
def numStateHandlers : ℕ := 1000

/-- `crossbeam_channel::bounded(1000)`. -/
def stateChannelCapacity : ℕ := 1000

/-- A function `available_state_handler_extern_fn_{id}`. -/
structure AvailableStateHandlerFnPtr where
  id : StateHandlerId
  lt : id < numStateHandlers
deriving DecidableEq

/-- `vsomeip::state_type_e`. -/
inductive StateType
  | stRegistered
  | stDeregistered
deriving DecidableEq, Repr

structure StateEvent (I : Type) where
  raisedBy : I
  state : StateType
deriving DecidableEq

/-- `FREE_AVAILABLE_STATE_HANDLER_EXTERN_FN_IDS` and the channels, each oldest
event first. -/
structure StateHandlers (I : Type) where
  freeStateHandlerIds : Finset StateHandlerId
  channels : StateHandlerId → List (StateEvent I)

namespace StateHandlers

variable {I : Type}

def new : StateHandlers I := ⟨Finset.range numStateHandlers, fun _ => []⟩

def findAvailableStateHandlerId (order : IterOrder StateHandlerId) (h : StateHandlers I) :
    Except UStatus StateHandlerId × StateHandlers I :=
  match order.next h.freeStateHandlerIds with
  | some id => (.ok id, { h with freeStateHandlerIds := h.freeStateHandlerIds.erase id })
  | none => (.error (.failWithCode .resourceExhausted "No more extern C fns available"), h)

def freeStateHandlerId (h : StateHandlers I) (stateHandlerId : StateHandlerId) :
    Except UStatus Unit × StateHandlers I :=
  (.ok (), { h with freeStateHandlerIds := insert stateHandlerId h.freeStateHandlerIds })

/-- `get_state_handler`. The receiver that comes along is a clone of the one
of the id. -/
def getStateHandler (stateHandlerId : StateHandlerId) : Outcome AvailableStateHandlerFnPtr :=
  if h : stateHandlerId < numStateHandlers then .returned ⟨stateHandlerId, h⟩
  else .panicked "available_handler_id out of range"

/-- The `send` of `call_shared_extern_fn`, which blocks while the channel is
full. -/
def send (h : StateHandlers I) (availableHandlerId : StateHandlerId) (event : StateEvent I) :
    Option (StateHandlers I) :=
  if (h.channels availableHandlerId).length < stateChannelCapacity then
    some { h with
      channels := Function.update h.channels availableHandlerId (h.channels availableHandlerId ++ [event]) }
  else none

/-- The oldest event, if there is one. -/
def receive (h : StateHandlers I) (stateHandlerId : StateHandlerId) : Option (StateEvent I × StateHandlers I) :=
  match h.channels stateHandlerId with
  | [] => none
  | event :: events => some (event, { h with channels := Function.update h.channels stateHandlerId events })

end StateHandlers

/-! ## Start-ups side by side -/

/-- Where a `create_app` call stands. -/
inductive StartUp
  | notStarted
  /-- No application of the name was found. -/
  | unused
  /-- It has a state handler, and no application yet. -/
  | holding (fn : AvailableStateHandlerFnPtr)
  /-- Its application has the state handler, and it waits for an event. -/
  | waiting (fn : AvailableStateHandlerFnPtr)
  | received (fn : AvailableStateHandlerFnPtr)
  /-- Its application has no state handler any more. -/
  | unregistered (fn : AvailableStateHandlerFnPtr)
  | ended (res : Outcome (Except UStatus Unit))

/-- The start-ups `I` of a process, each with its application's state handler
and the event it received. `applications` are the names `get_application`
finds, and a name is gone when it finds none under it: which one it finds where
two were created is up to vsomeip. `callbacks` are the calls of
`call_shared_extern_fn` on their way. -/
structure StartUps (I : Type) where
  handlers : StateHandlers I
  applications : Finset ApplicationName
  callbacks : List (StateHandlerId × StateEvent I)
  startUps : I → StartUp
  installed : I → Option AvailableStateHandlerFnPtr
  received : I → Option (StateEvent I)

/-- A step of a start-up, or what an application does. -/
inductive StartEvent (I : Type)
  | findApplication (i : I)
  | findId (i : I) (order : IterOrder StateHandlerId)
  /-- `create_application`, `init` and `register_state_handler`. -/
  | createApplication (i : I) (created : Bool)
  | receive (i : I)
  | timeOut (i : I)
  | unregister (i : I)
  | freeId (i : I)
  | stateCallback (i : I) (state : StateType)
  /-- The `n`th callback on its way gets to its `send`. -/
  | send (n : ℕ)
  | applicationGone (name : ApplicationName)

namespace StartUps

variable {I : Type}

/-- A fresh process. -/
def start : StartUps I := ⟨.new, ∅, [], fun _ => .notStarted, fun _ => none, fun _ => none⟩

variable [DecidableEq I]

def setStartUp (s : StartUps I) (i : I) (startUp : StartUp) : StartUps I :=
  { s with startUps := Function.update s.startUps i startUp }

def fail (s : StartUps I) (i : I) (code : UCode) (message : String) : StartUps I :=
  s.setStartUp i (.ended (.returned (.error (.failWithCode code message))))

/-- An event a start-up is not ready for changes nothing. -/
def next (appName : I → ApplicationName) (s : StartUps I) : StartEvent I → StartUps I
  | .findApplication i =>
    match s.startUps i with
    | .notStarted =>
      if appName i ∈ s.applications then
        s.fail i .alreadyExists ("vsomeip app already exists with app_name: " ++ appName i)
      else s.setStartUp i .unused
    | _ => s
  | .findId i order =>
    match s.startUps i with
    | .unused =>
      match s.handlers.findAvailableStateHandlerId order with
      | (.error e, handlers) => { s.setStartUp i (.ended (.returned (.error e))) with handlers := handlers }
      | (.ok id, handlers) =>
        match StateHandlers.getStateHandler id with
        | .panicked msg => { s.setStartUp i (.ended (.panicked msg)) with handlers := handlers }
        | .returned fn => { s.setStartUp i (.holding fn) with handlers := handlers }
    | _ => s
  | .createApplication i created =>
    match s.startUps i with
    | .holding fn =>
      if created then
        { s.setStartUp i (.waiting fn) with
          applications := insert (appName i) s.applications
          installed := Function.update s.installed i (some fn) }
      else s.fail i .internal "Unable to create vsomeip application"
    | _ => s
  | .receive i =>
    match s.startUps i with
    | .waiting fn =>
      match s.handlers.receive fn.id with
      | none => s
      | some (event, handlers) =>
        -- The state is logged and not looked at.
        { s.setStartUp i (.received fn) with
          handlers := handlers
          received := Function.update s.received i (some event) }
    | _ => s
  | .timeOut i =>
    match s.startUps i with
    | .waiting fn =>
      match s.handlers.receive fn.id with
      | none => s.fail i .internal "Timed out on waiting for application to start: Timeout"
      | some _ => s
    | _ => s
  | .unregister i =>
    match s.startUps i with
    | .received fn => { s.setStartUp i (.unregistered fn) with installed := Function.update s.installed i none }
    | _ => s
  | .freeId i =>
    match s.startUps i with
    | .unregistered fn =>
      let (res, handlers) := s.handlers.freeStateHandlerId fn.id
      { s.setStartUp i (.ended (.returned res)) with handlers := handlers }
    | _ => s
  | .stateCallback i state =>
    match s.installed i with
    | some fn => { s with callbacks := s.callbacks ++ [(fn.id, ⟨i, state⟩)] }
    | none => s
  | .send n =>
    match s.callbacks[n]? with
    | some (id, event) =>
      match s.handlers.send id event with
      | some handlers => { s with handlers := handlers, callbacks := s.callbacks.eraseIdx n }
      | none => s
    | none => s
  | .applicationGone name => { s with applications := s.applications.erase name }

def step (appName : I → ApplicationName) (s : StartUps I) (e : StartEvent I) : StartUps I × Unit :=
  (s.next appName e, ())

end StartUps

end VsomeipTransport
