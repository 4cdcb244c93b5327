/-
What a failed registration leaves behind.

`getMessageHandler` rolls back, but what comes after it does not: a
registration whose engine answers with an error, drops the answer or is late
keeps its handler. So the maps are as before a failed `register_listener`
exactly if no handler was obtained, the engine is stopped (then the call does
not return), or the engine accepts the registration
(`failed_register_untouched_iff`).
-/
import VsomeipTransport.TransportRuns

namespace VsomeipTransport

variable {T L : Type}

/-- The pool, the storages and the configurations of `t` are the same. -/
structure MessageHandlers.SameFor (h h' : MessageHandlers T L) (t : T) : Prop where
  free : h'.freeMessageHandlerIds = h.freeMessageHandlerIds
  storages : h'.messageHandlerIdToTransportStorage = h.messageHandlerIdToTransportStorage
  configs : h'.messageHandlerIdAndListenerConfig t = h.messageHandlerIdAndListenerConfig t

theorem MessageHandlers.SameFor.refl (h : MessageHandlers T L) (t : T) : h.SameFor h t := ⟨rfl, rfl, rfl⟩

/-- The engine gets through its queue and to the next command in time, and
finds its application. -/
def Engine.Accepts (d : Deps) (e : Engine) (inTime : Bool) : Prop :=
  inTime = true ∧ (Engine.serve d e.state e.queue).1 = true ∧ e.state.application.isSome = true

/-- **A running engine answers a registration `Ok` exactly if it accepts it**,
and with an error otherwise. -/
theorem Engine.ask_register {d : Deps} {e e' : Engine} {src : UUri} {sink : Option UUri} {type : RegistrationType}
    {fn : MessageHandlerFnPtr} {inTime : Bool} {answer : Engine.Answer} {key : HandlerKey} (functionId : String)
    (hkey : registerKey type src sink = some key) (hrun : e.running = true)
    (hask : e.ask d (.registerListener src sink type fn) inTime = (answer, e')) :
    (awaitEngine functionId answer = .returned (.ok ()) ∧ e.Accepts d inTime) ∨
    (∃ err, awaitEngine functionId answer = .returned (.error err) ∧ ¬ e.Accepts d inTime) := by
  rcases ask_cases hask with ⟨hno, -⟩ | ⟨-, hlate, rfl, -⟩ | ⟨-, -, rfl, s, -, hs⟩ |
    ⟨-, htime, s₁, s, res, hs, hp, rfl, -⟩
  · rw [hrun] at hno; cases hno
  · exact .inr ⟨_, rfl, fun ha => by rw [hlate] at ha; cases ha.1⟩
  · refine .inr ⟨_, rfl, fun ha => ?_⟩
    rcases hs with hs | ⟨s₁, msg, -, hp⟩
    · rw [Engine.Accepts, hs] at ha; cases ha.2.1
    · obtain ⟨umsg, hc⟩ := processCommand_panicked hp
      cases hc
  · have happ : s₁.application.isSome = e.state.application.isSome := by
      have := serve_application d e.state e.queue
      rwa [hs] at this
    have hok := processCommand_register hp
    rw [happ] at hok
    cases res with
    | ok u => exact .inl ⟨rfl, htime, by rw [hs], (hok.1 rfl).1⟩
    | error err =>
      refine .inr ⟨err, rfl, fun ha => ?_⟩
      cases hok.2 ⟨ha.2.2, key, hkey⟩

namespace Process

variable [DecidableEq T] [DecidableEq L] {d : Deps}

/-- A registration whose engine runs but does not accept it fails, and keeps
the id it took. -/
theorem registerListener_leaks {p : Process T L} {t : T} {src : UUri} {sink : Option UUri} (listener : L)
    (moments : ℕ → Moment) {id : MessageHandlerId} (hplain : determineType d.up src sink ≠ .ok .allPointToPoint)
    (ha : (p.handlers.lock t).Available (moments 0).order ⟨src, sink, listener⟩ id) (hid : id < numMessageHandlers)
    (hrun : (p.transports t).engine.running = true)
    (hacc : ¬ (p.transports t).engine.Accepts d (moments 0).inTime) :
    ∃ err p', registerListener d p t src sink listener moments = (.returned (.error err), p') ∧
      id ∈ p.handlers.freeMessageHandlerIds ∧ id ∉ p'.handlers.freeMessageHandlerIds := by
  obtain ⟨type, ht⟩ := determineType_ok d.up src sink
  have hp : type ≠ .allPointToPoint := fun he => hplain (he ▸ ht)
  obtain ⟨key, hkey⟩ := registerKey_registrable ht hp
  obtain ⟨maps, answer, engine, hb, hask, hreg⟩ := registerConfig_available d type ha hid
  rw [registerListener_plain ht hp, hreg]
  rcases Engine.ask_register "register" hkey hrun hask with ⟨-, hok⟩ | ⟨err, hans, -⟩
  · exact absurd hok hacc
  · refine ⟨err, _, by rw [Registration.answer, hans], (moments 0).order.next_mem ha.picked, ?_⟩
    show id ∉ maps.freeMessageHandlerIds
    rw [hb.free]
    exact Finset.notMem_erase id _

/-- A registration that fails otherwise was offered no id. -/
theorem registerListener_unavailable {p p' : Process T L} {t : T} {src : UUri} {sink : Option UUri} {listener : L}
    {moments : ℕ → Moment} {err : UStatus} (hplain : determineType d.up src sink ≠ .ok .allPointToPoint)
    (hacc : ∀ id, (p.handlers.lock t).Available (moments 0).order ⟨src, sink, listener⟩ id →
      id < numMessageHandlers → (p.transports t).engine.running = true →
      (p.transports t).engine.Accepts d (moments 0).inTime)
    (h : registerListener d p t src sink listener moments = (.returned (.error err), p')) : p' = p := by
  obtain ⟨type, ht⟩ := determineType_ok d.up src sink
  have hp : type ≠ .allPointToPoint := fun he => hplain (he ▸ ht)
  obtain ⟨key, hkey⟩ := registerKey_registrable ht hp
  rw [registerListener_plain ht hp] at h
  obtain ⟨hans, rfl⟩ := Prod.mk.inj h
  by_cases ha : ∃ id, (p.handlers.lock t).Available (moments 0).order ⟨src, sink, listener⟩ id
  · obtain ⟨id, ha⟩ := ha
    rcases Nat.lt_or_ge id numMessageHandlers with hid | hid
    · obtain ⟨maps, answer, engine, hb, hask, hreg⟩ := registerConfig_available d type ha hid
      rw [hreg] at hans
      cases hrun : (p.transports t).engine.running with
      | false =>
        -- A stopped engine makes the caller panic.
        rcases Engine.ask_cases hask with ⟨-, rfl, -⟩ | ⟨hr, -⟩ | ⟨hr, -⟩ | ⟨hr, -⟩
        · cases hans
        all_goals rw [hrun] at hr; cases hr
      | true =>
        rcases Engine.ask_register "register" hkey hrun hask with ⟨hok, -⟩ | ⟨_, -, hno⟩
        · rw [Registration.answer, hok] at hans; cases hans
        · exact absurd (hacc id ha hid hrun) hno
    · obtain ⟨msg, hpan⟩ := registerConfig_out_of_range d type ha hid
      rw [hpan] at hans
      cases hans
  · exact registerConfig_unavailable fun id hc => ha ⟨id, hc⟩

/-- **A failed registration leaves the maps as they were exactly if** it got
no handler, or the engine does not run, or the engine accepts it and the
registration does not fail at all. -/
theorem failed_register_untouched_iff (d : Deps) (p : Process T L) (t : T) (src : UUri) (sink : Option UUri)
    (listener : L) (moments : ℕ → Moment) (hplain : determineType d.up src sink ≠ .ok .allPointToPoint) :
    (∀ err p', registerListener d p t src sink listener moments = (.returned (.error err), p') →
      p.handlers.SameFor p'.handlers t) ↔
    (∀ id, (p.handlers.lock t).Available (moments 0).order ⟨src, sink, listener⟩ id → id < numMessageHandlers →
      (p.transports t).engine.running = true → (p.transports t).engine.Accepts d (moments 0).inTime) := by
  constructor
  · intro hsame id ha hid hrun
    by_contra hacc
    obtain ⟨err, p', hreg, hmem, hgone⟩ := registerListener_leaks listener moments hplain ha hid hrun hacc
    exact hgone ((hsame err p' hreg).free ▸ hmem)
  · intro hacc err p' h
    rw [registerListener_unavailable hplain hacc h]
    exact .refl _ _

theorem failed_register_untouched_iff_sample :
    (∀ err p', registerListener .accepting sample () ⟨"foo", 1, 1, 10⟩ none () (fun _ => .first) =
      (.returned (.error err), p') → (sample : Process Unit Unit).handlers.SameFor p'.handlers ()) ↔
    (∀ id, ((sample : Process Unit Unit).handlers.lock ()).Available IterOrder.least ⟨⟨"foo", 1, 1, 10⟩, none, ()⟩ id →
      id < numMessageHandlers → ((sample : Process Unit Unit).transports ()).engine.running = true →
      ((sample : Process Unit Unit).transports ()).engine.Accepts .accepting true) :=
  failed_register_untouched_iff .accepting sample () ⟨"foo", 1, 1, 10⟩ none () (fun _ => .first)
    (by simp [determineType])

/-- Without an application, a registration fails and keeps the handler. -/
theorem failed_register_keeps_handler :
    let p : Process Unit Unit := sample.applicationLost ()
    ∃ err p', registerListener .accepting p () ⟨"foo", 1, 1, 10⟩ none () (fun _ => .first) =
        (.returned (.error err), p') ∧ ¬ p.handlers.SameFor p'.handlers () := by
  intro p
  obtain ⟨err, p', hreg, hmem, hgone⟩ := registerListener_leaks (d := .accepting) (p := p) (t := ())
    () (fun _ => .first) (by simp [determineType]) (MessageHandlers.available_new () ⟨⟨"foo", 1, 1, 10⟩, none, ()⟩)
    (by decide) rfl
    (fun hacc => by cases hacc.2.2)
  exact ⟨err, p', hreg, fun hs => hgone (hs.free ▸ hmem)⟩

end Process

end VsomeipTransport
