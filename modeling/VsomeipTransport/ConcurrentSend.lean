/-
`UTransport::send`, cut where it waits.

In `Process.send` a call runs from start to end. Here the calls of one
transport run side by side: a call goes on by itself until it hands a command
to the queue of the engine or waits for the answer, and anything the other
calls and the engine do may come in between (`Sends.step`).

Put together without a break, the parts are the whole call (`send_cut`), and
an answer in time is the engine taking its turns (`Engine.ask_turns`).
-/
import VsomeipTransport.Transport

namespace VsomeipTransport

/-- Where a call stands. -/
inductive SendCall
  | notCalled
  /-- It has a handler for the response and is about to queue its registration. -/
  | reserved (message : UMessage) (registration : TransportCommand)
  | registering (message : UMessage)
  /-- It is about to queue the message. -/
  | registered (message : UMessage)
  | sending
  | ended (res : Outcome (Except UStatus Unit))

namespace Process

variable {T L : Type} [DecidableEq T] [DecidableEq L]

/-- Takes a handler for the response, whose source and sink filter are the
sink and the source of the message. -/
def reserveResponse (d : Deps) (p : Process T L) (t : T) (message : UMessage) (source sink : UUri) (listener : L)
    (order : IterOrder MessageHandlerId) : SendCall × Process T L :=
  match p.handlers.getMessageHandler d.up order t t ⟨sink, some source, listener⟩ with
  | (.panicked msg, handlers) => (.ended (.panicked msg), { p with handlers := handlers })
  | (.returned (.error (.listenerConfigAlreadyExists _)), handlers) =>
    -- No wait for the registration that put the configuration there.
    (.registered message, { p with handlers := handlers })
  | (.returned (.error (.listenerIdAlreadyExists id)), handlers) =>
    (.ended (.returned (.error (.failWithCode .internal ("listener_id already exists: " ++ toString id)))),
      { p with handlers := handlers })
  | (.returned (.error (.otherError s)), handlers) =>
    (.ended (.returned (.error (.failWithCode .internal s))), { p with handlers := handlers })
  | (.returned (.ok msgHandler), handlers) =>
    (.reserved message (.registerListener sink (some source) .response msgHandler), { p with handlers := handlers })

/-- Up to the first wait. -/
def beginSend (d : Deps) (p : Process T L) (t : T) (message : UMessage) (order : IterOrder MessageHandlerId) :
    SendCall × Process T L :=
  match message.attributes with
  | none => (.ended (.returned (.error (.failWithCode .invalidArgument "Missing uAttributes"))), p)
  | some attributes =>
    match d.up.validate attributes with
    | .error e =>
      (.ended (.returned (.error (.failWithCode .invalidArgument ("Invalid uAttributes, err: " ++ e)))), p)
    | .ok () =>
      match attributes.source with
      | none => (.ended (.returned (.error (.failWithCode .invalidArgument "UMessage provided with no source"))), p)
      | some source =>
        match determineType d.up source attributes.sink with
        | .error e => (.ended (.returned (.error e)), p)
        | .ok messageType =>
          match (p.transports t).pointToPointListener with
          | none => (.registered message, p)
          | some listener =>
            if messageType ≠ .request then (.registered message, p)
            else
              match attributes.sink with
              | none => (.ended (.returned (.error (.failWithCode .invalidArgument "Missing sink for message"))), p)
              | some sink => p.reserveResponse d t message source sink listener order

end Process

/-- How a call goes on when the wait for its registration is over. -/
def SendCall.afterRegister (d : Deps) (message : UMessage) (answer : Engine.Answer) : SendCall :=
  match awaitEngine "register" answer with
  | .panicked msg => .ended (.panicked msg)
  | .returned (.error err) => .ended (.panicked ("Unable to register: " ++ d.up.debugUStatus err))
  | .returned (.ok ()) => .registered message

/-- How it ends when the wait for its message is over. -/
def SendCall.afterSend (answer : Engine.Answer) : SendCall := .ended (awaitEngine "send_internal" answer)

/-! ## Calls side by side -/

/-- The calls `I` of one transport. The engine's queue comes with the calls
that wait for its commands, and a call with the answer it was given.
`queued` and `processed` are what was put on the queue and taken from it. -/
structure Sends (T L I : Type) where
  process : Process T L
  calls : I → SendCall
  askers : List I
  answers : I → Option Engine.Answer
  queued : List TransportCommand
  processed : List (TransportCommand × Outcome (Except UStatus Unit))

inductive SendEvent (I : Type)
  | call (i : I) (message : UMessage) (order : IterOrder MessageHandlerId)
  | queueRegistration (i : I)
  | queueMessage (i : I)
  /-- The wait of the call is over, because of the answer or of the time. -/
  | waited (i : I) (inTime : Bool)
  | engineTurn

namespace Sends

variable {T L I : Type}

/-- No call yet. -/
def start (p : Process T L) : Sends T L I := ⟨p, fun _ => .notCalled, [], fun _ => none, [], []⟩

variable [DecidableEq I]

def setCall (s : Sends T L I) (i : I) (call : SendCall) : Sends T L I :=
  { s with calls := Function.update s.calls i call }

variable [DecidableEq T]

/-- Puts a command on the queue, if there still is an engine. -/
def queueCommand (s : Sends T L I) (t : T) (i : I) (cmd : TransportCommand) (waiting stopped : SendCall) :
    Sends T L I :=
  let engine := (s.process.transports t).engine
  if engine.running then
    { s.setCall i waiting with
      process := s.process.setEngine t { engine with queue := engine.queue ++ [cmd] }
      askers := s.askers ++ [i]
      answers := Function.update s.answers i none
      queued := s.queued ++ [cmd] }
  else s.setCall i stopped

/-- The engine takes its next command and answers it. A panic drops the
answers of all that wait. -/
def engineTurn (d : Deps) (t : T) (s : Sends T L I) : Sends T L I :=
  let engine := (s.process.transports t).engine
  match engine.running, engine.queue with
  | true, cmd :: _ =>
    match (processCommand d engine.state cmd).1 with
    | .returned res =>
      { s with
        process := s.process.engineTurn d t
        askers := s.askers.tail
        answers := fun i => if s.askers.head? = some i then some (.replied res) else s.answers i
        processed := s.processed ++ [(cmd, .returned res)] }
    | .panicked msg =>
      { s with
        process := s.process.engineTurn d t
        askers := []
        answers := fun i => if i ∈ s.askers then some .dropped else s.answers i
        processed := s.processed ++ [(cmd, .panicked msg)] }
  | _, _ => s

variable [DecidableEq L]

/-- An event a call is not ready for changes nothing. -/
def next (d : Deps) (t : T) (s : Sends T L I) : SendEvent I → Sends T L I
  | .call i message order =>
    match s.calls i with
    | .notCalled =>
      let (call, p) := s.process.beginSend d t message order
      { s.setCall i call with process := p }
    | _ => s
  | .queueRegistration i =>
    match s.calls i with
    | .reserved message registration =>
      s.queueCommand t i registration (.registering message) (.afterRegister d message .stopped)
    | _ => s
  | .queueMessage i =>
    match s.calls i with
    | .registered message => s.queueCommand t i (.send message) .sending (.afterSend .stopped)
    | _ => s
  | .waited i inTime =>
    match s.calls i, (if inTime then s.answers i else some .timedOut) with
    | .registering message, some answer => s.setCall i (.afterRegister d message answer)
    | .sending, some answer => s.setCall i (.afterSend answer)
    | _, _ => s
  | .engineTurn => s.engineTurn d t

def step (d : Deps) (t : T) (s : Sends T L I) (e : SendEvent I) : Sends T L I × Unit := (s.next d t e, ())

end Sends

/-! ## The parts put together -/

namespace Engine

variable {d : Deps} {e : Engine} {cmd : TransportCommand}

/-- An answer in time is the engine taking the turns of its queue and of the
command. -/
theorem ask_turns (hrun : e.running = true) :
    (ask d e cmd true).2 = (turn d)^[e.queue.length + 1] { e with queue := e.queue ++ [cmd] } := by
  obtain ⟨state, running, queue⟩ := e
  simp only at hrun
  subst hrun
  have hstopped : ∀ n s, (turn d)^[n] ⟨s, false, []⟩ = ⟨s, false, []⟩ := by
    intro n s
    induction n with
    | zero => rfl
    | succ n ih => rw [Function.iterate_succ_apply]; exact ih
  induction queue generalizing state with
  | nil =>
    simp only [ask, serve, List.nil_append, List.length_nil, zero_add, Function.iterate_one, turn]
    cases processCommand d state cmd with
    | mk res s =>
    cases res with
    | returned res => rfl
    | panicked msg => rfl
  | cons cmd' queue ih =>
    rw [List.length_cons, Function.iterate_succ_apply]
    cases hp : processCommand d state cmd' with
    | mk res s =>
    cases res with
    | returned res =>
      have hturn : turn d ⟨state, true, cmd' :: queue ++ [cmd]⟩ = ⟨s, true, queue ++ [cmd]⟩ := by
        simp only [turn, List.cons_append, hp]
      rw [hturn, ← ih]
      simp only [ask, serve, hp, Bool.not_true, Bool.false_eq_true, if_false]
    | panicked msg =>
      have hturn : turn d ⟨state, true, cmd' :: queue ++ [cmd]⟩ = ⟨s, false, []⟩ := by
        simp only [turn, List.cons_append, hp]
      rw [hturn, hstopped]
      simp only [ask, serve, hp]
      rfl

end Engine

namespace Process

variable {T L : Type} [DecidableEq T] [DecidableEq L] {d : Deps} {p p' : Process T L} {t : T} {message : UMessage}
  {call : SendCall}

/-- The last part of a call, with its wait. -/
def finishSend (d : Deps) (p : Process T L) (t : T) (message : UMessage) (now : Moment) :
    Outcome (Except UStatus Unit) × Process T L :=
  let (answer, p) := ask d p t (.send message) now.inTime
  (awaitEngine "send_internal" answer, p)

/-- Taking a handler and waiting for its registration is registering for the
response. -/
theorem reserveResponse_cut {source sink : UUri} {listener : L} {now : Moment}
    (hl : (p.transports t).pointToPointListener = some listener)
    (h : p.reserveResponse d t message source sink listener now.order = (call, p')) :
    let registered := registerForReturningResponse d p t source (some sink) .request now
    (∃ msg, call = .ended (.panicked msg) ∧ registered = (.panicked msg, p')) ∨
    (∃ e, call = .ended (.returned (.error e)) ∧ registered = (.returned (.error e), p')) ∨
    (call = .registered message ∧ registered = (.returned (.ok true), p')) ∨
    ∃ registration answer p₁, call = .reserved message registration ∧
      ask d p' t registration now.inTime = (answer, p₁) ∧
      ((∃ msg, SendCall.afterRegister d message answer = .ended (.panicked msg) ∧ registered = (.panicked msg, p₁)) ∨
        (SendCall.afterRegister d message answer = .registered message ∧ registered = (.returned (.ok true), p₁))) := by
  simp only [registerForReturningResponse, hl, registerConfig, ne_eq, not_true_eq_false, if_false]
  simp only [reserveResponse] at h
  cases hget : p.handlers.getMessageHandler d.up now.order t t ⟨sink, some source, listener⟩ with
  | mk res handlers =>
  rw [hget] at h
  cases res with
  | panicked msg => cases h; exact .inl ⟨msg, rfl, rfl⟩
  | returned res =>
  cases res with
  | error err =>
    cases err with
    | listenerConfigAlreadyExists fn => cases h; exact .inr (.inr (.inl ⟨rfl, rfl⟩))
    | listenerIdAlreadyExists id => cases h; exact .inr (.inl ⟨_, rfl, rfl⟩)
    | otherError s => cases h; exact .inr (.inl ⟨_, rfl, rfl⟩)
  | ok msgHandler =>
    cases h
    cases hask : ask d { p with handlers := handlers } t (.registerListener sink (some source) .response msgHandler)
        now.inTime with
    | mk answer p₁ =>
    refine .inr (.inr (.inr ⟨_, answer, p₁, rfl, hask, ?_⟩))
    simp only [SendCall.afterRegister, hask]
    cases awaitEngine "register" answer with
    | panicked msg => exact .inl ⟨msg, rfl, rfl⟩
    | returned res =>
      cases res with
      | error err => exact .inl ⟨_, rfl, rfl⟩
      | ok => exact .inr ⟨rfl, rfl⟩

/-- **The parts make up the whole call.** -/
theorem send_cut (moments : ℕ → Moment) (h : p.beginSend d t message (moments 0).order = (call, p')) :
    (∃ res, call = .ended res ∧ send d p t message moments = (res, p')) ∨
    (call = .registered message ∧ send d p t message moments = finishSend d p' t message (moments 1)) ∨
    ∃ registration answer p₁, call = .reserved message registration ∧
      ask d p' t registration (moments 0).inTime = (answer, p₁) ∧
      ((∃ res, SendCall.afterRegister d message answer = .ended res ∧ send d p t message moments = (res, p₁)) ∨
        (SendCall.afterRegister d message answer = .registered message ∧
          send d p t message moments = finishSend d p₁ t message (moments 1))) := by
  unfold beginSend at h
  unfold send
  cases ha : message.attributes with
  | none => simp only [ha] at h; cases h; exact .inl ⟨_, rfl, rfl⟩
  | some attributes =>
  simp only [ha] at h ⊢
  cases hv : d.up.validate attributes with
  | error e => simp only [hv] at h; cases h; exact .inl ⟨_, rfl, rfl⟩
  | ok =>
  simp only [hv] at h ⊢
  cases hs : attributes.source with
  | none => simp only [hs] at h; cases h; exact .inl ⟨_, rfl, rfl⟩
  | some source =>
  simp only [hs] at h ⊢
  cases ht : determineType d.up source attributes.sink with
  | error e => simp only [ht] at h; cases h; exact .inl ⟨_, rfl, rfl⟩
  | ok messageType =>
  simp only [ht] at h ⊢
  cases hl : (p.transports t).pointToPointListener with
  | none =>
    simp only [hl] at h
    cases h
    exact .inr (.inl ⟨rfl, by simp only [registerForReturningResponse, hl, finishSend]⟩)
  | some listener =>
  simp only [hl] at h
  by_cases hr : messageType ≠ .request
  · rw [if_pos hr] at h
    cases h
    exact .inr (.inl ⟨rfl, by simp only [registerForReturningResponse, hl, if_pos hr, finishSend]⟩)
  rw [if_neg hr] at h
  obtain rfl := not_not.1 hr
  cases hk : attributes.sink with
  | none =>
    simp only [hk] at h
    cases h
    exact .inl ⟨_, rfl, by simp only [registerForReturningResponse, hl, if_neg hr]⟩
  | some sink =>
  simp only [hk] at h
  rcases reserveResponse_cut hl h with ⟨msg, rfl, hreg⟩ | ⟨e, rfl, hreg⟩ | ⟨rfl, hreg⟩ |
    ⟨registration, answer, p₁, rfl, hask, ⟨msg, hafter, hreg⟩ | ⟨hafter, hreg⟩⟩
  · exact .inl ⟨_, rfl, by simp only [hreg]⟩
  · exact .inl ⟨_, rfl, by simp only [hreg]⟩
  · exact .inr (.inl ⟨rfl, by simp only [hreg, finishSend]⟩)
  · exact .inr (.inr ⟨registration, answer, p₁, rfl, hask, .inl ⟨_, hafter, by simp only [hreg]⟩⟩)
  · exact .inr (.inr ⟨registration, answer, p₁, rfl, hask, .inr ⟨hafter, by simp only [hreg, finishSend]⟩⟩)

end Process

end VsomeipTransport
