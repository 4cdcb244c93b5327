/-
The actions of `TransportRuns`, cut where they wait.

Any number of threads work on the transports of a process, each on one action
at a time. A thread goes on by itself until it hands a command to the queue of
an engine or waits for the answer, and anything the other threads and the
engines do may come in between (`Concurrent.step`). The answer comes through a
channel of its own, so that it is never taken for that of another command, also
if its thread has not waited for it.

Taking and releasing a handler are one step each (`RegistryLocksFacts`). What a
thread does without a break is the action (`register_cut`, `unregister_cut`, `message_cut`).
-/
import VsomeipTransport.TransportRuns

namespace VsomeipTransport

/-- Where a thread stands in its action. -/
inductive Part (T L : Type)
  | between
  /-- It has a handler and is about to queue the registration. -/
  | reserved (t : T) (cfg : ListenerConfig L) (type : RegistrationType) (msgHandler : MessageHandlerFnPtr)
  | registering (t : T) (cfg : ListenerConfig L) (type : RegistrationType) (msgHandler : MessageHandlerFnPtr)
      (channel : ℕ)
  | unregistering (t : T) (cfg : ListenerConfig L) (type : RegistrationType) (evenOnError : Bool) (channel : ℕ)
  /-- It does not wait for the engine any more, and is about to release. -/
  | releasing (t : T) (cfg : ListenerConfig L)
  | sending (t : T) (channel : ℕ)

/-- What an action is about: its configuration, and the triple that it
registers or unregisters. -/
structure Subject (T L : Type) where
  transport : T
  key : Option HandlerKey
  cfg : ListenerConfig L

/-- The threads `I` at work on the transports of a process. Beside each engine's
queue are the channels its commands are to be answered through. -/
structure Concurrent (T L I : Type) where
  process : Process T L
  parts : I → Part T L
  channels : T → List ℕ
  answers : ℕ → Option Engine.Answer
  opened : ℕ

/-- A step of a thread, of an engine or of the environment. -/
inductive ConcurrentEvent (T L I : Type)
  | takeHandler (i : I) (t : T) (cfg : ListenerConfig L) (type : RegistrationType) (order : IterOrder MessageHandlerId)
  | queueRegistration (i : I)
  | queueUnregistration (i : I) (t : T) (cfg : ListenerConfig L) (type : RegistrationType) (evenOnError : Bool)
  | queueMessage (i : I) (t : T) (umsg : UMessage)
  /-- The wait is over, with the answer or, if not `inTime`, without. -/
  | awaited (i : I) (inTime : Bool)
  | release (i : I)
  | keepPointToPointListener (t : T) (listener : L)
  | engineTurn (t : T)
  | applicationLost (t : T)

/-- What is remarked of an action: that it has begun, or that it was answered
`Ok`, for a triple that is to have this handler, or none. -/
inductive Remark (T L : Type)
  | begun (subject : Subject T L)
  | answered (subject : Subject T L) (content : Option MessageHandlerFnPtr)

namespace Part

variable {T L : Type}

/-- What the thread's action is about. A release is about the configuration
only. -/
def subject : Part T L → Option (Subject T L)
  | .reserved t cfg type _ | .registering t cfg type _ _ =>
    some ⟨t, registerKey type cfg.sourceFilter cfg.sinkFilter, cfg⟩
  | .unregistering t cfg type _ _ => some ⟨t, unregisterKey type cfg.sourceFilter cfg.sinkFilter, cfg⟩
  | .releasing t cfg => some ⟨t, none, cfg⟩
  | .between | .sending .. => none

end Part

namespace Concurrent

variable {T L I : Type}

/-- A process whose transports were just made, and nobody at work. -/
def start (configs : T → TransportConfig × ClientId) : Concurrent T L I :=
  ⟨.started configs, fun _ => .between, fun _ => [], fun _ => none, 0⟩

def engine (s : Concurrent T L I) (t : T) : Engine := (s.process.transports t).engine

/-- What comes of waiting at a channel, if the wait is over. -/
def answer (s : Concurrent T L I) (channel : ℕ) (inTime : Bool) : Option Engine.Answer :=
  match s.answers channel with
  | some answer => some answer
  | none => if inTime then none else some .timedOut

variable [DecidableEq I]

def setPart (s : Concurrent T L I) (i : I) (part : Part T L) : Concurrent T L I :=
  { s with parts := Function.update s.parts i part }

def setHandlers (s : Concurrent T L I) (handlers : MessageHandlers T L) : Concurrent T L I :=
  { s with process := { s.process with handlers := handlers } }

variable [DecidableEq T]

/-- Puts a command on the queue, with a new channel. -/
def queueCommand (s : Concurrent T L I) (t : T) (cmd : TransportCommand) : Concurrent T L I :=
  { s with
    process := s.process.setEngine t { s.engine t with queue := (s.engine t).queue ++ [cmd] }
    channels := Function.update s.channels t (s.channels t ++ [s.opened])
    opened := s.opened + 1 }

/-- The engine takes its next command and answers it. A panic drops the answers
to all that are queued. -/
def engineTurn (d : Deps) (s : Concurrent T L I) (t : T) : Concurrent T L I :=
  match (s.engine t).running, (s.engine t).queue, s.channels t with
  | true, cmd :: _, channel :: channels =>
    match (processCommand d (s.engine t).state cmd).1 with
    | .returned res =>
      { s with
        process := s.process.engineTurn d t
        channels := Function.update s.channels t channels
        answers := Function.update s.answers channel (some (.replied res)) }
    | .panicked _ =>
      { s with
        process := s.process.engineTurn d t
        channels := Function.update s.channels t []
        answers := fun n => if n ∈ s.channels t then some .dropped else s.answers n }
  | _, _, _ => s

variable [DecidableEq L]

/-- An event a thread is not ready for changes nothing. A thread that finds the
engine stopped panics, and is not at work any more. -/
def step (d : Deps) (s : Concurrent T L I) : ConcurrentEvent T L I → Concurrent T L I × Option (Remark T L)
  | .takeHandler i t cfg type order =>
    match s.parts i with
    | .between =>
      match s.process.handlers.getMessageHandler d.up order t t cfg with
      | (.returned (.ok msgHandler), handlers) =>
        ((s.setHandlers handlers).setPart i (.reserved t cfg type msgHandler),
          some (.begun ⟨t, registerKey type cfg.sourceFilter cfg.sinkFilter, cfg⟩))
      | (_, handlers) => (s.setHandlers handlers, none)
    | _ => (s, none)
  | .queueRegistration i =>
    match s.parts i with
    | .reserved t cfg type msgHandler =>
      if (s.engine t).running then
        ((s.queueCommand t (.registerListener cfg.sourceFilter cfg.sinkFilter type msgHandler)).setPart i
          (.registering t cfg type msgHandler s.opened), none)
      else (s.setPart i .between, none)
    | _ => (s, none)
  | .queueUnregistration i t cfg type evenOnError =>
    match s.parts i, (s.engine t).running with
    | .between, true =>
      ((s.queueCommand t (.unregisterListener cfg.sourceFilter cfg.sinkFilter type)).setPart i
        (.unregistering t cfg type evenOnError s.opened),
        some (.begun ⟨t, unregisterKey type cfg.sourceFilter cfg.sinkFilter, cfg⟩))
    | _, _ => (s, none)
  | .queueMessage i t umsg =>
    match s.parts i, (s.engine t).running with
    | .between, true => ((s.queueCommand t (.send umsg)).setPart i (.sending t s.opened), none)
    | _, _ => (s, none)
  | .awaited i inTime =>
    match s.parts i with
    | .registering t cfg type msgHandler channel =>
      match s.answer channel inTime with
      | some (.replied (.ok ())) =>
        (s.setPart i .between,
          some (.answered ⟨t, registerKey type cfg.sourceFilter cfg.sinkFilter, cfg⟩ (some msgHandler)))
      | some _ => (s.setPart i .between, none)
      | none => (s, none)
    | .unregistering t cfg type evenOnError channel =>
      match s.answer channel inTime with
      | some (.replied (.ok ())) =>
        (s.setPart i (.releasing t cfg),
          some (.answered ⟨t, unregisterKey type cfg.sourceFilter cfg.sinkFilter, cfg⟩ none))
      | some _ => (s.setPart i (if evenOnError then .releasing t cfg else .between), none)
      | none => (s, none)
    | .sending _ channel =>
      match s.answer channel inTime with
      | some _ => (s.setPart i .between, none)
      | none => (s, none)
    | _ => (s, none)
  | .release i =>
    match s.parts i with
    | .releasing t cfg =>
      ((s.setHandlers (s.process.handlers.releaseMessageHandler t cfg).2).setPart i .between, none)
    | _ => (s, none)
  | .keepPointToPointListener t listener =>
    ({ s with process :=
      s.process.setTransport t { s.process.transports t with pointToPointListener := some listener } }, none)
  | .engineTurn t => (s.engineTurn d t, none)
  | .applicationLost t => ({ s with process := s.process.applicationLost t }, none)

/-! ## The parts put together -/

/-- The channels of an engine's queue: one for each command, open and unanswered. -/
structure Coherent (s : Concurrent T L I) : Prop where
  aligned : ∀ t, (s.channels t).length = (s.engine t).queue.length
  nodup : ∀ t, (s.channels t).Nodup
  apart : ∀ t t' n, n ∈ s.channels t → n ∈ s.channels t' → t = t'
  waiting : ∀ t, ∀ n ∈ s.channels t, n < s.opened ∧ s.answers n = none
  unopened : ∀ n, s.opened ≤ n → s.answers n = none

variable {d : Deps} {s : Concurrent T L I} {t : T} {cmd : TransportCommand}

omit [DecidableEq I] [DecidableEq L] in
theorem setEngine_again (p : Process T L) (t : T) (e e' : Engine) :
    (p.setEngine t e).setEngine t e' = p.setEngine t e' := by
  simp [Process.setEngine, Process.setTransport]

omit [DecidableEq I] [DecidableEq L] in
theorem setEngine_same (p : Process T L) (t : T) : p.setEngine t (p.transports t).engine = p := by
  simp [Process.setEngine, Process.setTransport]

omit [DecidableEq I] [DecidableEq L] in
theorem engineTurn_returned {cmds : List TransportCommand} {channel : ℕ} {channels : List ℕ}
    {res : Except UStatus Unit} {state : EngineState} (hrun : (s.engine t).running = true)
    (hqueue : (s.engine t).queue = cmd :: cmds) (hchannels : s.channels t = channel :: channels)
    (hp : processCommand d (s.engine t).state cmd = (.returned res, state)) :
    s.engineTurn d t = { s with
      process := s.process.setEngine t ⟨state, true, cmds⟩
      channels := Function.update s.channels t channels
      answers := Function.update s.answers channel (some (.replied res)) } := by
  have hturn : s.process.engineTurn d t = s.process.setEngine t ⟨state, true, cmds⟩ := by
    show s.process.setEngine t (Engine.turn d (s.engine t)) = _
    simp only [Engine.turn, hrun, hqueue, hp]
  simp only [engineTurn, hrun, hqueue, hchannels, hp, hturn]

omit [DecidableEq I] [DecidableEq L] in
theorem engineTurn_panicked {cmds : List TransportCommand} {channel : ℕ} {channels : List ℕ} {msg : String}
    {state : EngineState} (hrun : (s.engine t).running = true) (hqueue : (s.engine t).queue = cmd :: cmds)
    (hchannels : s.channels t = channel :: channels)
    (hp : processCommand d (s.engine t).state cmd = (.panicked msg, state)) :
    s.engineTurn d t = { s with
      process := s.process.setEngine t ⟨state, false, []⟩
      channels := Function.update s.channels t []
      answers := fun n => if n ∈ s.channels t then some .dropped else s.answers n } := by
  have hturn : s.process.engineTurn d t = s.process.setEngine t ⟨state, false, []⟩ := by
    show s.process.setEngine t (Engine.turn d (s.engine t)) = _
    simp only [Engine.turn, hrun, hqueue, hp]
  simp only [engineTurn, hrun, hqueue, hchannels, hp, hturn]

omit [DecidableEq I] [DecidableEq L] in
/-- An engine that has stopped, or that has nothing queued, takes nothing. -/
theorem engineTurn_still (h : (s.engine t).running = false ∨ (s.engine t).queue = [] ∨ s.channels t = []) :
    s.engineTurn d t = s := by
  unfold engineTurn
  split
  · next hrun hqueue hchannels =>
    rcases h with h | h | h
    · rw [hrun] at h; cases h
    · rw [hqueue] at h; cases h
    · rw [hchannels] at h; cases h
  · rfl

omit [DecidableEq I] [DecidableEq L] in
theorem setEngine_engine (p : Process T L) (t : T) (e : Engine) : ((p.setEngine t e).transports t).engine = e := by
  rw [Process.setEngine_engine, if_pos rfl]

/-- The engine's turns. -/
def turns (d : Deps) (s : Concurrent T L I) (t : T) (k : ℕ) : Concurrent T L I :=
  Runs.after (step d) s (List.replicate k (.engineTurn t))

theorem turns_succ (k : ℕ) : s.turns d t (k + 1) = (s.engineTurn d t).turns d t k := rfl

theorem turns_stopped (hrun : (s.engine t).running = false) (k : ℕ) : s.turns d t k = s := by
  induction k with
  | zero => rfl
  | succ k ih => rw [turns_succ, engineTurn_still (.inl hrun), ih]

/-- **An answer in time is the engine taking its turns**: those for what was
queued before and one for the command. -/
theorem turns_ask {queue : List TransportCommand} {before : List ℕ} {channel : ℕ} (hrun : (s.engine t).running = true)
    (hqueue : (s.engine t).queue = queue ++ [cmd]) (hchannels : s.channels t = before ++ [channel])
    (hlen : before.length = queue.length) (hnew : channel ∉ before) :
    let s' := s.turns d t (queue.length + 1)
    let asked := Engine.ask d { s.engine t with queue := queue } cmd true
    s'.process = s.process.setEngine t asked.2 ∧ s'.answers channel = some asked.1 ∧ s'.parts = s.parts := by
  intro s' asked
  induction queue generalizing s before with
  | nil =>
    obtain rfl := List.length_eq_zero_iff.1 hlen
    cases hp : processCommand d (s.engine t).state cmd with
    | mk res state =>
    simp only [s', asked, List.length_nil, zero_add, Engine.ask, Engine.serve, hrun, hp]
    cases res with
    | returned res =>
      have hturn : s.turns d t 1 = _ := engineTurn_returned hrun hqueue hchannels hp
      rw [hturn]
      exact ⟨rfl, Function.update_self _ _ _, rfl⟩
    | panicked msg =>
      have hturn : s.turns d t 1 = _ := engineTurn_panicked hrun hqueue hchannels hp
      rw [hturn]
      exact ⟨rfl, if_pos (by simp [hchannels]), rfl⟩
  | cons c queue ih =>
    obtain ⟨m, before, rfl⟩ := List.exists_cons_of_length_eq_add_one hlen
    rw [List.mem_cons, not_or] at hnew
    simp only [s', asked, List.length_cons]
    rw [turns_succ]
    cases hp : processCommand d (s.engine t).state c with
    | mk res state =>
    cases res with
    | returned res =>
      have hturn := engineTurn_returned hrun hqueue hchannels hp
      have hengine : (s.engineTurn d t).engine t = ⟨state, true, queue ++ [cmd]⟩ := by
        rw [hturn]
        exact setEngine_engine _ _ _
      have hask : Engine.ask d { s.engine t with queue := c :: queue } cmd true =
          Engine.ask d ⟨state, true, queue⟩ cmd true := by
        simp [Engine.ask, Engine.serve, hp, hrun]
      obtain ⟨hprocess, hanswer, hparts⟩ := ih (s := s.engineTurn d t) (by rw [hengine])
        (by rw [hengine]) (by rw [hturn]; exact Function.update_self _ _ _) (Nat.succ.inj hlen) hnew.2
      rw [hengine] at hprocess hanswer
      rw [hask]
      refine ⟨?_, hanswer, ?_⟩
      · rw [hprocess, hturn]
        exact setEngine_again _ _ _ _
      · rw [hparts, hturn]
    | panicked msg =>
      have hturn := engineTurn_panicked hrun hqueue hchannels hp
      have hstopped : ((s.engineTurn d t).engine t).running = false := by
        rw [hturn]
        exact congrArg Engine.running (setEngine_engine _ _ _)
      have hask : Engine.ask d { s.engine t with queue := c :: queue } cmd true =
          (.dropped, ⟨state, false, []⟩) := by
        simp [Engine.ask, Engine.serve, hp, hrun]
      rw [turns_stopped hstopped, hask, hturn]
      exact ⟨rfl, if_pos (by simp [hchannels]), rfl⟩

/-- A command that was queued is asked for, if its thread waits for so many
turns. -/
theorem queueCommand_ask (hs : s.Coherent) (hrun : (s.engine t).running = true) (cmd : TransportCommand) (i : I)
    (part : Part T L) (inTime : Bool) :
    ∃ k, let s' := ((s.queueCommand t cmd).setPart i part).turns d t k
      s'.process = (s.process.ask d t cmd inTime).2 ∧
      s'.answer s.opened inTime = some (s.process.ask d t cmd inTime).1 ∧
      s'.parts = Function.update s.parts i part := by
  have hrun' : (s.process.transports t).engine.running = true := hrun
  cases inTime with
  | false =>
    have hnone : s.answers s.opened = none := hs.unopened _ le_rfl
    refine ⟨0, ?_, ?_, rfl⟩
    · simp [turns, setPart, queueCommand, engine, Process.ask, Engine.ask, hrun']
    · simp [turns, setPart, queueCommand, answer, Process.ask, Engine.ask, hrun', hnone]
  | true =>
    have hengine : ((s.queueCommand t cmd).setPart i part).engine t =
        { s.engine t with queue := (s.engine t).queue ++ [cmd] } := setEngine_engine _ _ _
    have hnew : s.opened ∉ s.channels t := fun hmem => absurd (hs.waiting t _ hmem).1 (lt_irrefl _)
    obtain ⟨hprocess, hanswer, hparts⟩ := turns_ask (d := d) (s := (s.queueCommand t cmd).setPart i part) (t := t)
      (by rw [hengine]; exact hrun) (congrArg Engine.queue hengine) (Function.update_self _ _ _) (hs.aligned t) hnew
    rw [hengine] at hprocess hanswer
    refine ⟨_, ?_, ?_, hparts⟩
    · rw [hprocess]
      exact setEngine_again _ _ _ _
    · simp only [answer, hanswer]
      rfl

/-- The events of a thread that registers, with `k` turns before its wait is
over. -/
def registerEvents (i : I) (t : T) (cfg : ListenerConfig L) (type : RegistrationType) (now : Moment) (k : ℕ) :
    List (ConcurrentEvent T L I) :=
  [.takeHandler i t cfg type now.order, .queueRegistration i] ++ List.replicate k (.engineTurn t) ++
    [.awaited i now.inTime]

def unregisterEvents (i : I) (t : T) (cfg : ListenerConfig L) (type : RegistrationType) (inTime evenOnError : Bool)
    (k : ℕ) : List (ConcurrentEvent T L I) :=
  .queueUnregistration i t cfg type evenOnError :: List.replicate k (.engineTurn t) ++ [.awaited i inTime, .release i]

def sendEvents (i : I) (t : T) (umsg : UMessage) (inTime : Bool) (k : ℕ) : List (ConcurrentEvent T L I) :=
  .queueMessage i t umsg :: List.replicate k (.engineTurn t) ++ [.awaited i inTime]

variable {i : I}

omit [DecidableEq T] [DecidableEq L] in
theorem setPart_between {s' : Concurrent T L I} (hi : s.parts i = .between) (part : Part T L)
    (h : s'.parts = Function.update s.parts i part) : (s'.setPart i .between).parts = s.parts := by
  simp only [setPart, h, Function.update_idem, ← hi, Function.update_eq_self]

omit [DecidableEq I] [DecidableEq L] in
theorem ask_stopped {p : Process T L} (hrun : (p.transports t).engine.running = false) (inTime : Bool) :
    p.ask d t cmd inTime = (.stopped, p) := by
  simp [Process.ask, Engine.ask, hrun, setEngine_same]

omit [DecidableEq I] [DecidableEq L] in
theorem ask_answered {p : Process T L} (hrun : (p.transports t).engine.running = true) (inTime : Bool) :
    (p.ask d t cmd inTime).1 ≠ .stopped := by
  intro ha
  rcases Engine.ask_cases (Prod.mk.eta (p := (p.transports t).engine.ask d cmd inTime)).symm with
    ⟨hstop, -⟩ | ⟨-, -, ha', -⟩ | ⟨-, -, ha', -⟩ | ⟨-, -, _, _, _, -, -, ha', -⟩
  · rw [hrun] at hstop; cases hstop
  all_goals exact absurd (ha.symm.trans ha') (by simp)

theorem takeHandler_between {cfg : ListenerConfig L} {order : IterOrder MessageHandlerId}
    {msgHandler : MessageHandlerFnPtr} {handlers : MessageHandlers T L} (hi : s.parts i = .between)
    (hget : s.process.handlers.getMessageHandler d.up order t t cfg = (.returned (.ok msgHandler), handlers))
    (type : RegistrationType) : step d s (.takeHandler i t cfg type order) =
      ((s.setHandlers handlers).setPart i (.reserved t cfg type msgHandler),
        some (.begun ⟨t, registerKey type cfg.sourceFilter cfg.sinkFilter, cfg⟩)) := by
  simp only [step, hi, hget]

theorem queueRegistration_reserved {cfg : ListenerConfig L} {type : RegistrationType}
    {msgHandler : MessageHandlerFnPtr} (hi : s.parts i = .reserved t cfg type msgHandler)
    (hrun : (s.engine t).running = true) : step d s (.queueRegistration i) =
      ((s.queueCommand t (.registerListener cfg.sourceFilter cfg.sinkFilter type msgHandler)).setPart i
        (.registering t cfg type msgHandler s.opened), none) := by
  simp only [step, hi, hrun, if_true]

theorem queueUnregistration_between (hi : s.parts i = .between) (hrun : (s.engine t).running = true)
    (cfg : ListenerConfig L) (type : RegistrationType) (evenOnError : Bool) :
    step d s (.queueUnregistration i t cfg type evenOnError) =
      ((s.queueCommand t (.unregisterListener cfg.sourceFilter cfg.sinkFilter type)).setPart i
        (.unregistering t cfg type evenOnError s.opened),
        some (.begun ⟨t, unregisterKey type cfg.sourceFilter cfg.sinkFilter, cfg⟩)) := by
  simp only [step, hi, hrun]

theorem awaited_registered {cfg : ListenerConfig L} {type : RegistrationType} {msgHandler : MessageHandlerFnPtr}
    {channel : ℕ} (hi : s.parts i = .registering t cfg type msgHandler channel)
    (ha : s.answers channel = some (.replied (.ok ()))) (inTime : Bool) : step d s (.awaited i inTime) =
      (s.setPart i .between,
        some (.answered ⟨t, registerKey type cfg.sourceFilter cfg.sinkFilter, cfg⟩ (some msgHandler))) := by
  simp only [step, hi, answer, ha]

/-- A thread whose answer is late goes on, if it is not to release in any case. -/
theorem awaited_timedOut {cfg : ListenerConfig L} {type : RegistrationType} {channel : ℕ}
    (hi : s.parts i = .unregistering t cfg type false channel) (ha : s.answers channel = none) :
    step d s (.awaited i false) = (s.setPart i .between, none) := by
  simp [step, hi, answer, ha]

theorem awaited_unregistered {cfg : ListenerConfig L} {type : RegistrationType} {evenOnError : Bool} {channel : ℕ}
    (hi : s.parts i = .unregistering t cfg type evenOnError channel)
    (ha : s.answers channel = some (.replied (.ok ()))) (inTime : Bool) : step d s (.awaited i inTime) =
      (s.setPart i (.releasing t cfg),
        some (.answered ⟨t, unregisterKey type cfg.sourceFilter cfg.sinkFilter, cfg⟩ none)) := by
  simp only [step, hi, answer, ha]

theorem awaited_registering {cfg : ListenerConfig L} {type : RegistrationType} {msgHandler : MessageHandlerFnPtr}
    {channel : ℕ} {inTime : Bool} {answer : Engine.Answer} (hi : s.parts i = .registering t cfg type msgHandler channel)
    (ha : s.answer channel inTime = some answer) : (step d s (.awaited i inTime)).1 = s.setPart i .between := by
  simp only [step, hi, ha]
  split
  · rfl
  · rfl
  · next hnone => cases hnone

/-- A thread releases in any case, or only if the engine did as it was told. -/
theorem awaited_unregistering {cfg : ListenerConfig L} {type : RegistrationType} {evenOnError : Bool} {channel : ℕ}
    {inTime : Bool} {answer : Engine.Answer} (hi : s.parts i = .unregistering t cfg type evenOnError channel)
    (ha : s.answer channel inTime = some answer) (hrun : answer ≠ .stopped) :
    ∃ res, awaitEngine "unregister" answer = .returned res ∧ (step d s (.awaited i inTime)).1 =
      s.setPart i (if res.isOk || evenOnError then .releasing t cfg else .between) := by
  cases answer with
  | stopped => exact absurd rfl hrun
  | replied res =>
    refine ⟨res, rfl, ?_⟩
    rcases res with e | ⟨⟩ <;> simp [step, hi, ha, Except.isOk, Except.toBool]
  | dropped => exact ⟨_, rfl, by simp [step, hi, ha, Except.isOk, Except.toBool]⟩
  | timedOut => exact ⟨_, rfl, by simp [step, hi, ha, Except.isOk, Except.toBool]⟩

theorem release_releasing {cfg : ListenerConfig L} (hi : s.parts i = .releasing t cfg) : (step d s (.release i)).1 =
    (s.setHandlers (s.process.handlers.releaseMessageHandler t cfg).2).setPart i .between := by
  simp only [step, hi]

theorem release_between (hi : s.parts i = .between) : (step d s (.release i)).1 = s := by simp only [step, hi]

/-- **Without a break it is the action** that `TransportRuns` has. -/
theorem register_cut (d : Deps) (hs : s.Coherent) (hi : s.parts i = .between) (t : T) (cfg : ListenerConfig L)
    (type : RegistrationType) (now : Moment) :
    ∃ k, let s' := Runs.after (step d) s (registerEvents i t cfg type now k)
      s'.process = (Process.step d s.process (.register t cfg type now)).1 ∧ s'.parts = s.parts := by
  simp only [registerEvents, Runs.after_append]
  cases hget : s.process.handlers.getMessageHandler d.up now.order t t cfg with
  | mk res handlers =>
  -- A thread that has no handler has nothing to queue or to wait for.
  have hrefused : (∀ fn, res ≠ .returned (.ok fn)) → step d s (.takeHandler i t cfg type now.order) =
      (s.setHandlers handlers, none) := by
    intro hno
    simp only [step, hi, hget]
  have hidle : ∀ s' : Concurrent T L I, s'.parts i = .between →
      (step d (step d s' (.queueRegistration i)).1 (.awaited i now.inTime)).1 = s' := by
    intro s' hb
    simp only [step, hb]
  rcases res with (e | fn) | msg
  · refine ⟨0, ?_⟩
    simp only [Runs.after_cons, Runs.after_nil, List.replicate_zero, hrefused (by simp)]
    rw [hidle (s.setHandlers handlers) hi]
    exact ⟨by simp [Process.step, Process.registerConfig, hget, setHandlers], rfl⟩
  · let s₁ := (s.setHandlers handlers).setPart i (.reserved t cfg type fn)
    have htakes : (step d s (.takeHandler i t cfg type now.order)).1 = s₁ := by rw [takeHandler_between hi hget]
    have hs₁ : s₁.Coherent := ⟨hs.aligned, hs.nodup, hs.apart, hs.waiting, hs.unopened⟩
    have hreserved : s₁.parts i = .reserved t cfg type fn := Function.update_self _ _ _
    have haction : (Process.step d s.process (.register t cfg type now)).1 = (s₁.process.ask d t
        (.registerListener cfg.sourceFilter cfg.sinkFilter type fn) now.inTime).2 := by
      simp only [Process.step, Process.registerConfig, hget, s₁, setPart, setHandlers]
    simp only [Runs.after_cons, Runs.after_nil, htakes, haction]
    cases hrun : (s₁.engine t).running with
    | true =>
      obtain ⟨k, hprocess, hanswer, hparts⟩ := queueCommand_ask (d := d) hs₁ hrun
        (.registerListener cfg.sourceFilter cfg.sinkFilter type fn) i (.registering t cfg type fn s₁.opened) now.inTime
      have hregistering := (congrFun hparts i).trans (Function.update_self _ _ _)
      have hparts' := hparts.trans (Function.update_idem _ _ _)
      refine ⟨k, ?_⟩
      rw [queueRegistration_reserved hreserved hrun]
      show (step d (turns d _ t k) _).1.process = _ ∧ (step d (turns d _ t k) _).1.parts = _
      rw [awaited_registering hregistering hanswer]
      exact ⟨hprocess, setPart_between hi _ hparts'⟩
    | false =>
      have hstops : (step d s₁ (.queueRegistration i)).1 = s₁.setPart i .between := by
        simp only [step, hreserved, hrun, Bool.false_eq_true, if_false]
      have hparts : (s₁.setPart i .between).parts = s.parts := setPart_between hi _ rfl
      have hwaits : (step d (s₁.setPart i .between) (.awaited i now.inTime)).1 = s₁.setPart i .between := by
        simp only [step, hparts, hi]
      refine ⟨0, ?_⟩
      rw [hstops, List.replicate_zero, Runs.after_nil, hwaits, ask_stopped hrun]
      exact ⟨rfl, hparts⟩
  · refine ⟨0, ?_⟩
    simp only [Runs.after_cons, Runs.after_nil, List.replicate_zero, hrefused (by simp)]
    rw [hidle (s.setHandlers handlers) hi]
    exact ⟨by simp [Process.step, Process.registerConfig, hget, setHandlers], rfl⟩

theorem unregister_cut (d : Deps) (hs : s.Coherent) (hi : s.parts i = .between) (t : T) (cfg : ListenerConfig L)
    (type : RegistrationType) (inTime evenOnError : Bool) :
    ∃ k, let s' := Runs.after (step d) s (unregisterEvents i t cfg type inTime evenOnError k)
      s'.process = (Process.step d s.process (.unregister t cfg type inTime evenOnError)).1 ∧ s'.parts = s.parts := by
  simp only [unregisterEvents, List.cons_append, Runs.after_cons, Runs.after_append, Runs.after_nil]
  cases hrun : (s.engine t).running with
  | true =>
    obtain ⟨k, hprocess, hanswer, hparts⟩ := queueCommand_ask (d := d) hs hrun
      (.unregisterListener cfg.sourceFilter cfg.sinkFilter type) i (.unregistering t cfg type evenOnError s.opened)
      inTime
    have hunregistering := (congrFun hparts i).trans (Function.update_self _ _ _)
    obtain ⟨res, hres, hawaits⟩ := awaited_unregistering (d := d) hunregistering hanswer (ask_answered hrun inTime)
    let asked := (s.process.ask d t (.unregisterListener cfg.sourceFilter cfg.sinkFilter type) inTime).2
    have haction : (Process.step d s.process (.unregister t cfg type inTime evenOnError)).1 =
        if res.isOk || evenOnError then
          { asked with handlers := (asked.handlers.releaseMessageHandler t cfg).2 }
        else asked := by
      simp only [Process.step, Process.unregisterConfig, hres]
      split <;> rfl
    refine ⟨k, ?_⟩
    rw [queueUnregistration_between hi hrun]
    show (step d (step d (turns d _ t k) _).1 _).1.process = _ ∧ (step d (step d (turns d _ t k) _).1 _).1.parts = _
    rw [hawaits]
    cases hrelease : res.isOk || evenOnError with
    | true =>
      rw [if_pos rfl, release_releasing (Function.update_self _ _ _), haction, if_pos hrelease]
      refine ⟨congrArg (fun p : Process T L => { p with handlers := (p.handlers.releaseMessageHandler t cfg).2 })
        hprocess, setPart_between hi (.releasing t cfg) ?_⟩
      exact (congrArg (Function.update · i _) hparts).trans (Function.update_idem _ _ _)
    | false =>
      rw [if_neg Bool.false_ne_true, release_between (Function.update_self _ _ _), haction, if_neg (by simp [hrelease])]
      exact ⟨hprocess, setPart_between hi _ hparts⟩
  | false =>
    have hstops : (step d s (.queueUnregistration i t cfg type evenOnError)).1 = s := by
      simp only [step, hi, hrun]
    have hwaits : (step d s (.awaited i inTime)).1 = s := by simp only [step, hi]
    refine ⟨0, ?_⟩
    rw [hstops, List.replicate_zero, Runs.after_nil, hwaits, release_between hi]
    simp only [Process.step, Process.unregisterConfig, ask_stopped hrun, awaitEngine, and_self]

theorem message_cut (d : Deps) (hs : s.Coherent) (hi : s.parts i = .between) (t : T) (umsg : UMessage) (inTime : Bool) :
    ∃ k, let s' := Runs.after (step d) s (sendEvents i t umsg inTime k)
      s'.process = (Process.step d s.process (.send t umsg inTime)).1 ∧ s'.parts = s.parts := by
  simp only [sendEvents, List.cons_append, Runs.after_cons, Runs.after_append, Runs.after_nil, Process.step]
  cases hrun : (s.engine t).running with
  | true =>
    have hqueues : step d s (.queueMessage i t umsg) =
        ((s.queueCommand t (.send umsg)).setPart i (.sending t s.opened), none) := by
      simp only [step, hi, hrun]
    obtain ⟨k, hprocess, hanswer, hparts⟩ := queueCommand_ask (d := d) hs hrun (.send umsg) i (.sending t s.opened)
      inTime
    have hsending := (congrFun hparts i).trans (Function.update_self _ _ _)
    refine ⟨k, ?_⟩
    rw [hqueues]
    show (step d (turns d _ t k) _).1.process = _ ∧ (step d (turns d _ t k) _).1.parts = _
    simp only [step, hsending, hanswer]
    exact ⟨hprocess, setPart_between hi _ hparts⟩
  | false =>
    have hstops : (step d s (.queueMessage i t umsg)).1 = s := by simp only [step, hi, hrun]
    have hwaits : (step d s (.awaited i inTime)).1 = s := by simp only [step, hi]
    refine ⟨0, ?_⟩
    rw [hstops, List.replicate_zero, Runs.after_nil, hwaits, ask_stopped hrun]
    exact ⟨rfl, rfl⟩

end Concurrent

end VsomeipTransport
