/-
What timeouts do to the commands of an engine: nothing.

A caller waits at most `INTERNAL_FUNCTION_TIMEOUT` for its answer, the command
stays in the queue whether anyone still waits or not. An engine is a worker with
a mailbox (`Engine.worker`), and each part of a call sends it at most one command
(`ProcessEvent.asks`). `commands_take_effect_once`: along every run the engine
is where the commands it was sent lead to, in their order and each taken once.
`timeouts_irrelevant`: so two runs that send an engine the same commands leave it
in the same state, whoever waited for what, once it had its turns.
-/
import VsomeipTransport.ConcurrentSend
import VsomeipTransport.Lib.Mailbox
import VsomeipTransport.TransportRuns

namespace VsomeipTransport

namespace Engine

variable {d : Deps} {e : Engine} {cmd : TransportCommand}

def program (d : Deps) : Mailbox.Program EngineState TransportCommand Unit where
  process s cmd :=
    match processCommand d s cmd with
    | (.returned _, s) => (true, s)
    | (.panicked _, s) => (false, s)
  change s _ := { s with application := none }

def worker (e : Engine) : Mailbox.Worker EngineState TransportCommand := ⟨e.state, e.running, e.queue⟩

theorem worker_inj {e e' : Engine} (h : e.worker = e'.worker) : e = e' := by
  cases e
  cases e'
  cases h
  rfl

/-- What asking the engine comes down to. -/
def mail (e : Engine) (cmd : TransportCommand) (inTime : Bool) : List (Mailbox.Event TransportCommand Unit) :=
  .send cmd :: if inTime then List.replicate (e.queue.length + 1) .take else []

theorem worker_turn (d : Deps) (e : Engine) : (turn d e).worker = (Mailbox.step (program d) e.worker .take).1 := by
  obtain ⟨state, running, queue⟩ := e
  cases running with
  | false => rfl
  | true =>
  cases queue with
  | nil => rfl
  | cons cmd cmds =>
    simp only [turn, worker, Mailbox.step, program]
    cases processCommand d state cmd with
    | mk res s => cases res <;> rfl

theorem worker_turns (d : Deps) (n : ℕ) (e : Engine) :
    ((turn d)^[n] e).worker = Runs.after (Mailbox.step (program d)) e.worker (List.replicate n .take) := by
  induction n generalizing e with
  | zero => rfl
  | succ n ih => rw [Function.iterate_succ_apply, ih, worker_turn, List.replicate_succ, Runs.after_cons]

/-- Nothing reaches an engine that has stopped. -/
theorem worker_stopped (d : Deps) (hrun : e.running = false) (n : ℕ) :
    Runs.after (Mailbox.step (program d)) e.worker (List.replicate n .take) = e.worker := by
  have hstep : (Mailbox.step (program d) e.worker .take).1 = e.worker := by
    obtain ⟨state, running, queue⟩ := e
    cases hrun
    rfl
  induction n with
  | zero => rfl
  | succ n ih => rw [List.replicate_succ, Runs.after_cons, hstep, ih]

/-- **Asking the engine is sending it a command**, and if it answers in time,
its taking everything up to it. -/
theorem worker_ask (d : Deps) (e : Engine) (cmd : TransportCommand) (inTime : Bool) :
    (ask d e cmd inTime).2.worker = Runs.after (Mailbox.step (program d)) e.worker (e.mail cmd inTime) := by
  cases hrun : e.running with
  | false =>
    have hask : (ask d e cmd inTime).2 = e := by simp [ask, hrun]
    have hsend : (Mailbox.step (program d) e.worker (.send cmd)).1 = e.worker := by
      simp [Mailbox.step, worker, hrun]
    rw [hask, mail, Runs.after_cons, hsend]
    split
    · exact (worker_stopped d hrun _).symm
    · rfl
  | true =>
    have hsend : (Mailbox.step (program d) e.worker (.send cmd)).1 =
        ({ e with queue := e.queue ++ [cmd] } : Engine).worker := by
      simp [Mailbox.step, worker, hrun]
    rw [mail, Runs.after_cons, hsend]
    cases inTime with
    | true => rw [ask_turns hrun, worker_turns, if_pos rfl]
    | false => simp [ask, hrun]

theorem sent_mail (d : Deps) (e : Engine) (cmd : TransportCommand) (inTime : Bool) :
    Mailbox.sent (program d) e.worker (e.mail cmd inTime) = if e.running then [cmd] else [] := by
  have htakes : ∀ w, Mailbox.sent (program d) w
      (if inTime then List.replicate (e.queue.length + 1) .take else []) = [] := by
    intro w
    split
    · exact Mailbox.sent_takes _ _ _
    · rfl
  have hcons : Mailbox.sent (program d) e.worker (e.mail cmd inTime) =
      (Mailbox.step (program d) e.worker (.send cmd)).2.toList ++ Mailbox.sent (program d)
        (Mailbox.step (program d) e.worker (.send cmd)).1
          (if inTime then List.replicate (e.queue.length + 1) .take else []) :=
    Mailbox.sent_cons _ _ _ _
  rw [hcons, htakes, List.append_nil]
  cases hrun : e.running <;> simp [Mailbox.step, worker, hrun]

theorem changes_mail (e : Engine) (cmd : TransportCommand) (inTime : Bool) :
    (e.mail cmd inTime).filterMap Mailbox.Event.changes = [] := by
  rw [List.filterMap_eq_nil_iff]
  intro ev hev
  rcases List.mem_cons.1 hev with rfl | hev
  · rfl
  split at hev
  · rw [List.eq_of_mem_replicate hev]
    rfl
  · simp at hev

end Engine

/-! ## Runs of a process -/

/-- A part of a call, or the end of a `drop`. -/
inductive ProcessEvent (T L : Type)
  | action (a : Action T L)
  | shutdownVsomeipApp (t : T) (inTime : Bool)

/-- A command for the engine of a transport, and whether it is answered in
time. -/
structure Asked (T : Type) where
  transport : T
  command : TransportCommand
  inTime : Bool

namespace ProcessEvent

variable {T L : Type} [DecidableEq T] [DecidableEq L]

/-- What it asks an engine for. -/
def asks (d : Deps) (p : Process T L) : ProcessEvent T L → Option (Asked T)
  | .action (.register t cfg type now) =>
    match p.handlers.getMessageHandler d.up now.order t t cfg with
    | (.returned (.ok msgHandler), _) =>
      some ⟨t, .registerListener cfg.sourceFilter cfg.sinkFilter type msgHandler, now.inTime⟩
    | (.returned (.error _), _) => none
    | (.panicked _, _) => none
  | .action (.unregister t cfg type inTime _) =>
    some ⟨t, .unregisterListener cfg.sourceFilter cfg.sinkFilter type, inTime⟩
  | .action (.send t umsg inTime) => some ⟨t, .send umsg, inTime⟩
  | .action (.keepPointToPointListener _ _) => none
  | .action (.engineTurn _) => none
  | .action (.applicationLost _) => none
  | .shutdownVsomeipApp t inTime => some ⟨t, .stopVsomeipApp, inTime⟩

/-- Only an engine that runs can be asked. -/
def accepted (d : Deps) (p : Process T L) (ev : ProcessEvent T L) : Option (Asked T) :=
  (ev.asks d p).filter fun asked => (p.transports asked.transport).engine.running

end ProcessEvent

namespace Process

variable {T L : Type} [DecidableEq T] [DecidableEq L]

/-- The answer is what was asked, if the engine took it. -/
def eventStep (d : Deps) (p : Process T L) (ev : ProcessEvent T L) : Process T L × Option (Asked T) :=
  match ev with
  | .action a => ((step d p a).1, ev.accepted d p)
  | .shutdownVsomeipApp t inTime => ((p.ask d t .stopVsomeipApp inTime).2, ev.accepted d p)

/-- What the engine of `t` was sent in a run. -/
def sentTo (d : Deps) (t : T) (p : Process T L) (evs : List (ProcessEvent T L)) : List TransportCommand :=
  ((Runs.outputs (eventStep d) p evs).reduceOption.filter fun asked => asked.transport = t).map Asked.command

variable {d : Deps} {p p' : Process T L} {ev : ProcessEvent T L}

theorem eventStep_snd (d : Deps) (p : Process T L) (ev : ProcessEvent T L) :
    (eventStep d p ev).2 = ev.accepted d p := by
  cases ev <;> rfl

/-- Who is asked works on it, the other engines stay as they are. -/
theorem eventStep_asked {asked : Asked T} (h : ev.asks d p = some asked) (t : T) :
    ((eventStep d p ev).1.transports t).engine =
      if t = asked.transport then ((p.transports t).engine.ask d asked.command asked.inTime).2
      else (p.transports t).engine := by
  have hengine : ∀ t' cmd inTime, ((p.setEngine t' ((p.transports t').engine.ask d cmd inTime).2).transports t).engine =
      if t = t' then ((p.transports t).engine.ask d cmd inTime).2 else (p.transports t).engine := by
    intro t' cmd inTime
    rw [setEngine_engine]
    split
    · next ht => rw [ht]
    · rfl
  cases ev with
  | shutdownVsomeipApp t' inTime =>
    cases h
    exact hengine _ _ _
  | action a =>
  cases a with
  | register t' cfg type now =>
    simp only [ProcessEvent.asks] at h
    split at h
    · next msgHandler handlers hget =>
      cases h
      rw [← hengine t' (.registerListener cfg.sourceFilter cfg.sinkFilter type msgHandler) now.inTime]
      simp only [eventStep, step, registerConfig, hget]
      rfl
    · cases h
    · cases h
  | unregister t' cfg type inTime evenOnError =>
    cases h
    rw [← hengine t' (.unregisterListener cfg.sourceFilter cfg.sinkFilter type) inTime]
    simp only [eventStep, step]
    cases hun : unregisterConfig d p t' cfg type inTime evenOnError with
    | mk r p' =>
    obtain ⟨answer, engine, hask, -, ⟨rfl, -⟩ | ⟨-, rfl⟩⟩ := unregisterConfig_cases hun
    · rw [hask]
    · rw [hask]
  | send t' umsg inTime =>
    cases h
    exact hengine _ _ _
  | keepPointToPointListener t' listener => cases h
  | engineTurn t' => cases h
  | applicationLost t' => cases h

/-- The application of `t` goes away. -/
def losses (t : T) : ProcessEvent T L → Option Unit
  | .action (.applicationLost t') => if t' = t then some () else none
  | .action (.register ..) => none
  | .action (.unregister ..) => none
  | .action (.send ..) => none
  | .action (.keepPointToPointListener ..) => none
  | .action (.engineTurn _) => none
  | .shutdownVsomeipApp .. => none

/-- Where nobody is asked, an engine takes a turn, or loses its application, or
is as it was. -/
theorem eventStep_unasked (h : ev.asks d p = none) (t : T) :
    (((eventStep d p ev).1.transports t).engine = (p.transports t).engine ∧ losses t ev = none) ∨
    (((eventStep d p ev).1.transports t).engine = (p.transports t).engine.turn d ∧ losses t ev = none) ∨
    (((eventStep d p ev).1.transports t).engine.worker =
      (Mailbox.step (Engine.program d) (p.transports t).engine.worker (.change ())).1 ∧ losses t ev = some ()) := by
  cases ev with
  | shutdownVsomeipApp t' inTime => cases h
  | action a =>
  cases a with
  | register t' cfg type now =>
    simp only [ProcessEvent.asks] at h
    split at h
    · cases h
    · next hget =>
      refine .inl ⟨?_, rfl⟩
      simp only [eventStep, step, registerConfig, hget]
    · next hget =>
      refine .inl ⟨?_, rfl⟩
      simp only [eventStep, step, registerConfig, hget]
  | unregister t' cfg type inTime evenOnError => cases h
  | send t' umsg inTime => cases h
  | keepPointToPointListener t' listener =>
    refine .inl ⟨?_, rfl⟩
    show ((p.setTransport t' _).transports t).engine = _
    unfold setTransport
    by_cases ht : t = t'
    · subst ht
      simp
    · simp [ht]
  | engineTurn t' =>
    have hengine : ((p.engineTurn d t').transports t).engine =
        if t = t' then (p.transports t').engine.turn d else (p.transports t).engine := setEngine_engine _ _ _ _
    by_cases ht : t = t'
    · subst ht
      rw [if_pos rfl] at hengine
      exact .inr (.inl ⟨hengine, rfl⟩)
    · rw [if_neg ht] at hengine
      exact .inl ⟨hengine, rfl⟩
  | applicationLost t' =>
    have hengine : ((p.applicationLost t').transports t).engine = if t = t' then _ else (p.transports t).engine :=
      setEngine_engine _ _ _ _
    by_cases ht : t = t'
    · subst ht
      rw [if_pos rfl] at hengine
      refine .inr (.inr ⟨?_, if_pos rfl⟩)
      show ((p.applicationLost t).transports t).engine.worker = _
      rw [hengine]
      rfl
    · rw [if_neg ht] at hengine
      exact .inl ⟨hengine, if_neg fun he => ht he.symm⟩

/-- **What a part of a call is to the engine of `t`**: events of a worker, that
send it what the call sends. -/
theorem eventStep_worker (d : Deps) (p : Process T L) (ev : ProcessEvent T L) (t : T) :
    ∃ es, ((eventStep d p ev).1.transports t).engine.worker =
        Runs.after (Mailbox.step (Engine.program d)) (p.transports t).engine.worker es ∧
      Mailbox.sent (Engine.program d) (p.transports t).engine.worker es = sentTo d t p [ev] ∧
      es.filterMap Mailbox.Event.changes = (losses t ev).toList := by
  have hone : sentTo d t p [ev] =
      ((ev.accepted d p).toList.filter fun asked => asked.transport = t).map Asked.command := by
    simp only [sentTo, Runs.outputs_cons, Runs.outputs_nil, eventStep_snd]
    cases ev.accepted d p <;> rfl
  rw [hone]
  cases hasks : ev.asks d p with
  | none =>
    have hnone : ev.accepted d p = none := by simp [ProcessEvent.accepted, hasks]
    rw [hnone]
    rcases eventStep_unasked hasks t with ⟨hengine, hloss⟩ | ⟨hengine, hloss⟩ | ⟨hengine, hloss⟩
    · exact ⟨[], by rw [hengine]; rfl, rfl, by rw [hloss]; rfl⟩
    · exact ⟨[.take], by rw [hengine, Engine.worker_turn]; rfl, Mailbox.sent_takes _ _ 1, by rw [hloss]; rfl⟩
    · exact ⟨[.change ()], by rw [hengine]; rfl, rfl, by rw [hloss]; rfl⟩
  | some asked =>
    have hloss : losses t ev = none := by
      unfold losses
      split
      · cases hasks
      all_goals rfl
    have hengine := eventStep_asked hasks t
    have haccepted : ev.accepted d p = if (p.transports asked.transport).engine.running then some asked else none := by
      rw [ProcessEvent.accepted, hasks]
      exact Option.filter_some ..
    rw [haccepted]
    by_cases ht : t = asked.transport
    · subst ht
      rw [if_pos rfl] at hengine
      refine ⟨_, by rw [hengine]; exact Engine.worker_ask d _ _ _, ?_, by rw [hloss]; exact Engine.changes_mail _ _ _⟩
      rw [Engine.sent_mail]
      split
      · simp
      · rfl
    · rw [if_neg ht] at hengine
      refine ⟨[], by rw [hengine]; rfl, ?_, by rw [hloss]; rfl⟩
      have hne : ¬ asked.transport = t := fun he => ht he.symm
      split
      · simp [hne, Mailbox.sent, List.reduceOption]
      · rfl

theorem sentTo_cons (d : Deps) (t : T) (p : Process T L) (ev : ProcessEvent T L) (evs : List (ProcessEvent T L)) :
    sentTo d t p (ev :: evs) = sentTo d t p [ev] ++ sentTo d t (eventStep d p ev).1 evs := by
  simp only [sentTo, Runs.outputs_cons, Runs.outputs_nil]
  cases (eventStep d p ev).2 with
  | none => rfl
  | some asked =>
    rw [List.reduceOption_cons_of_some, List.reduceOption_cons_of_some, List.filter_cons, List.filter_cons]
    split <;> rfl

theorem run_worker (d : Deps) (p : Process T L) (evs : List (ProcessEvent T L)) (t : T) :
    ∃ es, ((Runs.after (eventStep d) p evs).transports t).engine.worker =
        Runs.after (Mailbox.step (Engine.program d)) (p.transports t).engine.worker es ∧
      Mailbox.sent (Engine.program d) (p.transports t).engine.worker es = sentTo d t p evs ∧
      es.filterMap Mailbox.Event.changes = evs.filterMap (losses t) := by
  induction evs generalizing p with
  | nil => exact ⟨[], rfl, rfl, rfl⟩
  | cons ev evs ih =>
    obtain ⟨es, hafter, hsent, hchanges⟩ := eventStep_worker d p ev t
    obtain ⟨es', hafter', hsent', hchanges'⟩ := ih (eventStep d p ev).1
    rw [hafter] at hafter' hsent'
    refine ⟨es ++ es', by rw [Runs.after_cons, hafter', Runs.after_append], ?_, ?_⟩
    · rw [Mailbox.sent_append, hsent, hsent', ← sentTo_cons]
    · rw [List.filterMap_append, hchanges, hchanges', List.filterMap_cons]
      cases losses t ev <;> rfl

/-- **Every command takes effect once, in the order in which the commands were
sent, whether its caller waited for it or not.** Along every run the engine is
where a log leads to whose commands are what it was sent, up to what is still in
its queue, or up to the command it did not survive. -/
theorem commands_take_effect_once (d : Deps) (configs : T → TransportConfig × ClientId)
    (evs : List (ProcessEvent T L)) (t : T) :
    let p : Process T L := started configs
    ∃ log, Mailbox.WorkedThrough (Engine.program d) (p.transports t).engine.state (sentTo d t p evs)
      (evs.filterMap (losses t)) ((Runs.after (eventStep d) p evs).transports t).engine.worker log := by
  intro p
  obtain ⟨es, hafter, hsent, hchanges⟩ := run_worker d p evs t
  rw [hafter, ← hsent, ← hchanges]
  exact Mailbox.worked_through _ _ es

/-- **Timeouts make no difference to an engine.** Two runs that send it the same
commands leave it in the same state once it has worked through its queue,
however late it was in the one or the other, if its application stays. -/
theorem timeouts_irrelevant (d : Deps) (configs : T → TransportConfig × ClientId) {evs evs' : List (ProcessEvent T L)}
    {t : T} (hsent : sentTo d t (started configs : Process T L) evs = sentTo d t (started configs : Process T L) evs')
    (hkept : evs.filterMap (losses t) = []) (hkept' : evs'.filterMap (losses t) = []) :
    let e := ((Runs.after (eventStep d) (started configs : Process T L) evs).transports t).engine
    let e' := ((Runs.after (eventStep d) (started configs : Process T L) evs').transports t).engine
    (Engine.turn d)^[e.queue.length] e = (Engine.turn d)^[e'.queue.length] e' := by
  intro e e'
  have hworks : ∀ evs : List (ProcessEvent T L), evs.filterMap (losses t) = [] →
      ∃ es, let engine := ((Runs.after (eventStep d) (started configs : Process T L) evs).transports t).engine
        let first := (Engine.started (configs t).1 (configs t).2).state
        ((Engine.turn d)^[engine.queue.length] engine).worker =
          Runs.after (Mailbox.step (Engine.program d)) ⟨first, true, []⟩ es ∧
        Mailbox.sent (Engine.program d) ⟨first, true, []⟩ es = sentTo d t (started configs : Process T L) evs ∧
        es.filterMap Mailbox.Event.changes = [] ∧
        ((Engine.turn d)^[engine.queue.length] engine).worker.mailbox = [] := by
    intro evs hloss
    obtain ⟨es, hafter, hes, hchanges⟩ := run_worker d (started configs : Process T L) evs t
    have hworked := Mailbox.worked_through (Engine.program d) (Engine.started (configs t).1 (configs t).2).state es
    obtain ⟨log, hlog⟩ := hworked
    generalize ((Runs.after (eventStep d) (started configs : Process T L) evs).transports t).engine = engine at *
    refine ⟨es ++ List.replicate engine.queue.length .take, ?_, ?_, ?_, ?_⟩
    · rw [Runs.after_append, Engine.worker_turns, hafter]
      rfl
    · rw [Mailbox.sent_append, Mailbox.sent_takes, List.append_nil]
      exact hes
    · rw [List.filterMap_append, hchanges, hloss, List.nil_append, List.filterMap_eq_nil_iff]
      intro ev hev
      rw [List.eq_of_mem_replicate hev]
      rfl
    · rw [Engine.worker_turns]
      refine Mailbox.drained _ _ (le_refl _) fun hr => ?_
      rw [hafter] at hr ⊢
      exact (hlog.stopped hr).1
  obtain ⟨es, hafter, hes, hchanges, hempty⟩ := hworks evs hkept
  obtain ⟨es', hafter', hes', hchanges', hempty'⟩ := hworks evs' hkept'
  apply Engine.worker_inj
  rw [hafter] at hempty
  rw [hafter'] at hempty'
  rw [hafter, hafter']
  exact Mailbox.pace_irrelevant _ _ (hes.trans (hsent.trans hes'.symm)) hchanges hchanges' hempty hempty'

/-- Unregistering and stopping, the caller of the one in time, the other not. -/
def sampleEvents (inTime : Bool) : List (ProcessEvent Unit Unit) :=
  [.action (.unregister () ⟨UpRust.accepting.any, none, ()⟩ .publish inTime true), .shutdownVsomeipApp () (!inTime)]

theorem timeouts_irrelevant_sample :
    let e (inTime : Bool) :=
      ((Runs.after (eventStep .accepting) (started sampleConfig) (sampleEvents inTime)).transports ()).engine
    (e true).queue ≠ (e false).queue ∧
      (Engine.turn .accepting)^[(e true).queue.length] (e true) =
        (Engine.turn .accepting)^[(e false).queue.length] (e false) :=
  have hsent : sentTo .accepting () (started sampleConfig : Process Unit Unit) (sampleEvents true) =
      sentTo .accepting () (started sampleConfig) (sampleEvents false) := rfl
  ⟨by decide, timeouts_irrelevant .accepting sampleConfig hsent rfl rfl⟩

end Process

end VsomeipTransport
