/-
The vsomeip handler table of one engine, together with what its queue will
still do to it.

`Engine.Entries Q`: every entry of the table, and every entry a queued
registration will put there, satisfies `Q`. `Engine.Keeps key fn`: the table
has `fn` under `key`, and nothing in the queue touches `key`. Both survive
commands that respect them, in time or late, and the death of the engine.
-/
import VsomeipTransport.TransportEngineFacts

namespace VsomeipTransport

/-- Every entry of the application's table satisfies `Q`. -/
def EngineState.Entries (Q : HandlerKey → MessageHandlerFnPtr → Prop) (s : EngineState) : Prop :=
  ∀ app key fn, s.application = some app → app.handlers key = some fn → Q key fn

/-- Every entry a command puts into the table satisfies `Q`. -/
def TransportCommand.Puts (Q : HandlerKey → MessageHandlerFnPtr → Prop) (cmd : TransportCommand) : Prop :=
  ∀ src sink type fn key, cmd = .registerListener src sink type fn → registerKey type src sink = some key →
    Q key fn

variable {d : Deps} {Q Q' : HandlerKey → MessageHandlerFnPtr → Prop} {s : EngineState} {cmd : TransportCommand}

theorem EngineState.Entries.mono (h : s.Entries Q) (hQ : ∀ key fn, Q key fn → Q' key fn) : s.Entries Q' :=
  fun app key fn happ hfn => hQ key fn (h app key fn happ hfn)

/-- An entry after a command was put by it, or was there under another triple. -/
theorem processCommand_entry {app : VsomeipApplication} {key : HandlerKey} {fn : MessageHandlerFnPtr}
    (happ : (processCommand d s cmd).2.application = some app) (hfn : app.handlers key = some fn) :
    (∃ src sink type, cmd = .registerListener src sink type fn ∧ registerKey type src sink = some key) ∨
    (∃ app₀, s.application = some app₀ ∧ app₀.handlers key = some fn ∧ cmd.key ≠ some key) := by
  have h := processCommand_handlers d s cmd
  rw [happ] at h
  cases hs : s.application with
  | none => simp [hs] at h
  | some app₀ =>
    simp only [hs, Option.map_some, Option.some.injEq] at h
    rw [h] at hfn
    rcases TransportCommand.onHandlers_some hfn with hput | ⟨hold, hk⟩
    · exact .inl hput
    · exact .inr ⟨app₀, rfl, hold, hk⟩

theorem EngineState.Entries.processCommand (h : s.Entries Q) (hcmd : cmd.Puts Q) :
    (processCommand d s cmd).2.Entries Q := by
  intro app key fn happ hfn
  rcases processCommand_entry happ hfn with ⟨src, sink, type, rfl, hk⟩ | ⟨app₀, hs, hold, -⟩
  · exact hcmd src sink type fn key rfl hk
  · exact h app₀ key fn hs hold

namespace Engine

variable {e e' : Engine} {inTime : Bool} {answer : Answer}

/-- Every entry there is and every entry still to come satisfies `Q`. -/
structure Entries (Q : HandlerKey → MessageHandlerFnPtr → Prop) (e : Engine) : Prop where
  table : e.state.Entries Q
  queued : ∀ cmd ∈ e.queue, cmd.Puts Q

theorem Entries.mono (h : e.Entries Q) (hQ : ∀ key fn, Q key fn → Q' key fn) : e.Entries Q' where
  table := h.table.mono hQ
  queued := fun cmd hc src sink type fn key he hk => hQ key fn (h.queued cmd hc src sink type fn key he hk)

theorem Entries.ask (h : e.Entries Q) (hcmd : cmd.Puts Q) (hask : Engine.ask d e cmd inTime = (answer, e')) :
    e'.Entries Q where
  table := by
    refine ask_invariant (fun s => s.Entries Q) (fun s c hc hs => hs.processCommand ?_) h.table hask
    rcases hc with hc | rfl
    · exact h.queued c hc
    · exact hcmd
  queued := by
    intro c hc
    rcases ask_queue hask c hc with hc | ⟨rfl, -⟩
    · exact h.queued c hc
    · exact hcmd

theorem Entries.turn (h : e.Entries Q) : (Engine.turn d e).Entries Q := by
  rcases turn_cases d e with he | ⟨cmd, cmds, hq, hs, hqueue⟩
  · rw [he]; exact h
  · refine ⟨?_, fun c hc => ?_⟩
    · rw [hs]
      exact h.table.processCommand (h.queued cmd (by simp [hq]))
    · rcases hqueue with hq' | hq'
      · rw [hq'] at hc
        exact h.queued c (by simp [hq, hc])
      · simp [hq'] at hc

/-- **Once an unregistration was processed, nothing is left under its
triple**, and nothing is to come. -/
theorem Entries.unregistered (h : e.Entries Q) {src : UUri} {sink : Option UUri} {type : RegistrationType}
    {key : HandlerKey} {res} (hkey : unregisterKey type src sink = some key)
    (hask : Engine.ask d e (.unregisterListener src sink type) inTime = (.replied res, e')) :
    e'.Entries fun key' fn => Q key' fn ∧ key' ≠ key := by
  have hcmd : (TransportCommand.unregisterListener src sink type).Puts Q := by
    intro src' sink' type' fn key' he
    cases he
  have hall := h.ask hcmd hask
  rcases ask_cases hask with ⟨-, ha, -⟩ | ⟨-, -, ha, -⟩ | ⟨-, -, ha, -⟩ | ⟨-, -, s₁, s, res', -, hp, -, rfl⟩
  · cases ha
  · cases ha
  · cases ha
  · refine ⟨fun app key' fn happ hfn => ⟨hall.table app key' fn happ hfn, fun he => ?_⟩, by simp⟩
    have happ' : (VsomeipTransport.processCommand d s₁ (.unregisterListener src sink type)).2.application =
        some app := by rw [hp]; exact happ
    rcases processCommand_entry happ' hfn with ⟨_, _, _, hc, -⟩ | ⟨_, -, -, hk⟩
    · cases hc
    · exact hk (by rw [he]; exact hkey)

/-- The table has `fn` under `key` and will keep it. -/
structure Keeps (key : HandlerKey) (fn : MessageHandlerFnPtr) (e : Engine) : Prop where
  entry : ∃ app, e.state.application = some app ∧ app.handlers key = some fn
  undisturbed : ∀ cmd ∈ e.queue, cmd.key ≠ some key

variable {key : HandlerKey} {fn : MessageHandlerFnPtr}

/-- A command under another triple leaves an entry alone. -/
theorem processCommand_keeps (hcmd : cmd.key ≠ some key)
    (h : ∃ app, s.application = some app ∧ app.handlers key = some fn) :
    ∃ app, (processCommand d s cmd).2.application = some app ∧ app.handlers key = some fn := by
  obtain ⟨app, hs, hfn⟩ := h
  obtain ⟨app', happ', hh⟩ := processCommand_some d cmd hs
  exact ⟨app', happ', by rw [hh, TransportCommand.onHandlers_other hcmd, hfn]⟩

theorem Keeps.ask (h : e.Keeps key fn) (hcmd : cmd.key ≠ some key)
    (hask : Engine.ask d e cmd inTime = (answer, e')) : e'.Keeps key fn where
  entry := by
    refine ask_invariant (fun s => ∃ app, s.application = some app ∧ app.handlers key = some fn)
      (fun s c hc hs => processCommand_keeps ?_ hs) h.entry hask
    rcases hc with hc | rfl
    · exact h.undisturbed c hc
    · exact hcmd
  undisturbed := by
    intro c hc
    rcases ask_queue hask c hc with hc | ⟨rfl, -⟩
    · exact h.undisturbed c hc
    · exact hcmd

theorem Keeps.turn (h : e.Keeps key fn) : (Engine.turn d e).Keeps key fn := by
  rcases turn_cases d e with he | ⟨cmd, cmds, hq, hs, hqueue⟩
  · rw [he]; exact h
  · refine ⟨?_, fun c hc => ?_⟩
    · rw [hs]
      exact processCommand_keeps (h.undisturbed cmd (by simp [hq])) h.entry
    · rcases hqueue with hq' | hq'
      · rw [hq'] at hc
        exact h.undisturbed c (by simp [hq, hc])
      · simp [hq'] at hc

/-- **A registration the engine answers `Ok` put its entry.** -/
theorem Keeps.registered {src : UUri} {sink : Option UUri} {type : RegistrationType}
    (hask : Engine.ask d e (.registerListener src sink type fn) inTime = (.replied (.ok ()), e')) :
    ∃ key, registerKey type src sink = some key ∧ e'.Keeps key fn := by
  rcases ask_cases hask with ⟨-, ha, -⟩ | ⟨-, -, ha, -⟩ | ⟨-, -, ha, -⟩ | ⟨-, -, s₁, s, res, -, hp, ha, rfl⟩
  · cases ha
  · cases ha
  · cases ha
  · cases ha
    obtain ⟨happ, key, hkey⟩ := (processCommand_register hp).1 rfl
    obtain ⟨app₁, happ₁⟩ := Option.isSome_iff_exists.1 happ
    obtain ⟨app', happ', hh⟩ := processCommand_some d (.registerListener src sink type fn) happ₁
    rw [hp] at happ'
    refine ⟨key, hkey, ⟨app', happ', ?_⟩, by simp⟩
    rw [hh]
    simp [TransportCommand.onHandlers, hkey]

end Engine

end VsomeipTransport
