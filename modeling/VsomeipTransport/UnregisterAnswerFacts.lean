/-
What the answer to `unregister_listener` says.

Beside the process goes a record of what its callers know: a listener is
registered for its filters from the `Ok` to its registration until the `Ok`
to its unregistration. An answer is right (`AnswersFor`) if it is `Ok` exactly
for what is registered, and if for anything else it is an error and nothing
was done.

A plain unregistration asks the engine first, and then answers `Ok` whether
or not there was anything to release. So its answer is right for what is
registered only, and the handler it takes from vsomeip may be another's
(`unregisterListener_takes_entry`). A point-to-point one asks neither for its
filters nor for its listener. `unregister_answers_iff` has both.
-/
import VsomeipTransport.DropFacts
import VsomeipTransport.UnregisterFacts

namespace VsomeipTransport

variable {T L : Type}

/-! ## The record -/

/-- A process and what is registered in it, as its callers know it. -/
structure Ledger (T L : Type) where
  process : Process T L
  registered : T → ListenerConfig L → Prop

namespace Ledger

/-- What a call and its answer tell. -/
def record (registered : T → ListenerConfig L → Prop) : Call T L → CallResult → T → ListenerConfig L → Prop
  | .registerListener t src sink listener _, .returned (.returned (.ok ())) =>
    fun t' cfg => (t' = t ∧ cfg = ⟨src, sink, listener⟩) ∨ registered t' cfg
  | .unregisterListener t src sink listener _, .returned (.returned (.ok ())) =>
    fun t' cfg => ¬ (t' = t ∧ cfg = ⟨src, sink, listener⟩) ∧ registered t' cfg
  | .drop t .., _ => fun t' cfg => t' ≠ t ∧ registered t' cfg
  | _, _ => registered

def started (configs : T → TransportConfig × ClientId) : Ledger T L := ⟨.started configs, fun _ _ => False⟩

variable [DecidableEq T] [DecidableEq L]

def step (d : Deps) (s : Ledger T L) (call : Call T L) : Ledger T L × CallResult :=
  let (p, res) := s.process.callStep d call
  (⟨p, record s.registered call res⟩, res)

omit [DecidableEq T] [DecidableEq L] in
/-- Only the registration itself puts a listener on record. -/
theorem record_cases {registered : T → ListenerConfig L → Prop} {call : Call T L} {res : CallResult} {t : T}
    {cfg : ListenerConfig L} (h : record registered call res t cfg) :
    registered t cfg ∨ (∃ moments, call = .registerListener t cfg.sourceFilter cfg.sinkFilter cfg.listener moments) ∧
      res = .returned (.returned (.ok ())) := by
  unfold record at h
  split at h
  · rcases h with ⟨rfl, rfl⟩ | h
    · exact .inr ⟨⟨_, rfl⟩, rfl⟩
    · exact .inl h
  · exact .inl h.2
  · exact .inl h.2
  · exact .inl h

/-- A registration alone is a run, and puts its listener on record. -/
theorem after_registered {d : Deps} {s : Ledger T L} {p' : Process T L} {t : T} {src : UUri} {sink : Option UUri}
    {listener : L} {moments : ℕ → Moment}
    (h : s.process.registerListener d t src sink listener moments = (.returned (.ok ()), p')) :
    Runs.after (step d) s [.registerListener t src sink listener moments] =
      ⟨p', fun t' cfg => (t' = t ∧ cfg = ⟨src, sink, listener⟩) ∨ s.registered t' cfg⟩ := by
  simp only [Runs.after_cons, Runs.after_nil, step, Process.callStep, h, record]

end Ledger

/-! ## The slot of the point-to-point listener -/

namespace Process

variable {d : Deps} {p p' : Process T L} {t : T}

/-- A transport with a point-to-point listener has services. -/
def SlotHasServices (p : Process T L) : Prop :=
  ∀ t, (p.transports t).pointToPointListener ≠ none → ∃ services, (p.transports t).config.services = some (.ok services)

/-- The configurations are the same, and a full slot stays full. -/
structure SlotsKept (p p' : Process T L) : Prop where
  config : ∀ t, (p'.transports t).config = (p.transports t).config
  full : ∀ t, (p.transports t).pointToPointListener ≠ none → (p'.transports t).pointToPointListener ≠ none
  services : SlotHasServices p → SlotHasServices p'

theorem SlotsKept.of_kept (h : p'.kept = p.kept) : SlotsKept p p' := by
  have hconfig : ∀ t, (p'.transports t).config = (p.transports t).config :=
    fun t => congrArg Prod.fst (congrFun h t)
  have hslot : ∀ t, (p'.transports t).pointToPointListener = (p.transports t).pointToPointListener :=
    fun t => congrArg Prod.snd (congrFun h t)
  refine ⟨hconfig, fun t hfull => by rwa [hslot], fun hservices t hfull => ?_⟩
  rw [hconfig]
  exact hservices t (by rwa [← hslot])

theorem SlotsKept.trans {p'' : Process T L} (h : SlotsKept p p') (h' : SlotsKept p' p'') : SlotsKept p p'' where
  config t := (h'.config t).trans (h.config t)
  full t hfull := h'.full t (h.full t hfull)
  services hall := h'.services (h.services hall)

variable [DecidableEq T]

/-- Filling the slot of a transport that has services. -/
theorem SlotsKept.withListener {services : List ServiceConfig}
    (hservices : (p.transports t).config.services = some (.ok services)) (listener : L) :
    SlotsKept p (p.withListener t listener) := by
  have hother : ∀ t', t' ≠ t → (p.withListener t listener).transports t' = p.transports t' := by
    intro t' ht'
    simp [Process.withListener, setTransport, ht']
  have hconfig : ∀ t', ((p.withListener t listener).transports t').config = (p.transports t').config := by
    intro t'
    by_cases ht' : t' = t
    · subst ht'; rw [withListener_self]
    · rw [hother t' ht']
  refine ⟨hconfig, fun t' hfull => ?_, fun hall t' hfull => ?_⟩
  all_goals by_cases ht' : t' = t
  · subst ht'; rw [withListener_self]; simp
  · rw [hother t' ht']; exact hfull
  · subst ht'; exact ⟨services, by rw [hconfig, hservices]⟩
  · rw [hconfig]
    rw [hother t' ht'] at hfull
    exact hall t' hfull

variable [DecidableEq L]

theorem drop_kept (d : Deps) (p : Process T L) (t : T) (order : IterOrder MessageHandlerId)
    (moments : ℕ → ℕ → Moment) (inTime : Bool) : (drop d p t order moments inTime).2.kept = p.kept := by
  have hloop := (dropListeners_reaches (d := d) t (p.handlers.getAllListenerConfigs order t) p moments).kept
    fun _ _ h => h
  rcases drop_cases d p t order moments inTime with h | h
  · rw [h]; exact hloop
  · rw [h]; exact (ask_kept _ _ _ _ _).trans hloop

theorem registerListener_slotsKept (d : Deps) (p : Process T L) (t : T) (src : UUri) (sink : Option UUri) (listener : L)
    (moments : ℕ → Moment) : SlotsKept p (registerListener d p t src sink listener moments).2 := by
  obtain ⟨type, ht⟩ := determineType_ok d.up src sink
  by_cases hp : type = .allPointToPoint
  · subst hp
    rw [registerListener_pointToPoint ht]
    by_cases hearly : ∃ services, (p.transports t).config.services = some (.ok services) ∧
        (p.transports t).pointToPointListener = none
    · obtain ⟨services, hservices, hslot⟩ := hearly
      rw [registerPointToPointListener_loop listener moments hservices hslot]
      exact (SlotsKept.withListener hservices listener).trans (.of_kept (registerServices_kept _ _ _ _ _))
    · rw [registerPointToPointListener_early listener moments fun services hs hslot => hearly ⟨services, hs, hslot⟩]
      exact .of_kept rfl
  · rw [registerListener_plain ht hp]
    exact .of_kept (registerConfig_kept d p t ⟨src, sink, listener⟩ type (moments 0))

/-- No call empties a slot, or fills that of a transport without services. -/
theorem callStep_slotsKept (d : Deps) (p : Process T L) (call : Call T L) : SlotsKept p (callStep d p call).1 := by
  cases call with
  | registerListener t src sink listener moments => exact registerListener_slotsKept d p t src sink listener moments
  | unregisterListener t src sink listener moments =>
    exact .of_kept (unregisterListener_kept d p t src sink listener moments)
  | send t message moments => exact .of_kept (send_kept d p t message moments)
  | drop t order moments inTime => exact .of_kept (drop_kept d p t order moments inTime)
  | engineTurn t => exact .of_kept (setEngine_kept _ _ _)
  | applicationLost t => exact .of_kept (setEngine_kept _ _ _)

end Process

/-- What is registered for point-to-point messages has its slot. -/
structure Ledger.SlotInvariant (d : Deps) (s : Ledger T L) : Prop where
  services : s.process.SlotHasServices
  full : ∀ {t cfg}, s.registered t cfg → determineType d.up cfg.sourceFilter cfg.sinkFilter = .ok .allPointToPoint →
    (s.process.transports t).pointToPointListener ≠ none

theorem Ledger.SlotInvariant.started (d : Deps) (configs : T → TransportConfig × ClientId) :
    SlotInvariant d (Ledger.started configs : Ledger T L) where
  services _ hfull := absurd rfl hfull
  full h := h.elim

theorem Ledger.SlotInvariant.step [DecidableEq T] [DecidableEq L] {d : Deps} {s : Ledger T L}
    (hI : SlotInvariant d s) (call : Call T L) : SlotInvariant d (s.step d call).1 := by
  have hslots := Process.callStep_slotsKept d s.process call
  refine ⟨hslots.services hI.services, fun {t cfg} hreg hall => ?_⟩
  rcases record_cases hreg with hold | ⟨⟨moments, rfl⟩, hok⟩
  · exact hslots.full t (hI.full hold hall)
  · -- The registration that was just answered with `Ok`.
    simp only [CallResult.returned.injEq] at hok
    rw [Process.registerListener_pointToPoint hall] at hok
    obtain ⟨-, hfull⟩ := Process.registerPointToPointListener_ok (Prod.ext hok rfl)
    simp only [Ledger.step, Process.callStep]
    rw [Process.registerListener_pointToPoint hall, hfull]
    simp

/-! ## The loop over the services -/

/-- The engine is there for each of `n` commands, sent one after the other. -/
def Engine.Outlasts (d : Deps) (e : Engine) (n : ℕ) (moments : ℕ → Moment) : Prop :=
  n = 0 ∨ (e.running = true ∧
    ((serve d e.state e.queue).1 = true ∨ ∀ i, i + 1 < n → (moments i).inTime = false))

/-- Having been there for the first of them it has to be there for the rest. -/
theorem Engine.outlasts_succ {d : Deps} {e e' : Engine} {cmd : TransportCommand} {answer : Engine.Answer} {n : ℕ}
    {moments : ℕ → Moment} (hcmd : ∀ umsg, cmd ≠ .send umsg) (hrun : e.running = true)
    (hask : e.ask d cmd (moments 0).inTime = (answer, e')) :
    e'.Outlasts d n (fun i => moments (i + 1)) ↔ e.Outlasts d (n + 1) moments := by
  rcases ask_cases hask with ⟨hstop, -⟩ | ⟨-, hlate, -, rfl⟩ | ⟨-, htime, -, s, rfl, hq | ⟨s₁, msg, -, hp⟩⟩ |
    ⟨-, -, s₁, s, res, hq, -, -, rfl⟩
  · rw [hrun] at hstop; cases hstop
  · -- The command waits behind the others.
    simp only [Outlasts, hrun, serve_concat d e.state e.queue hcmd, Nat.add_eq_zero_iff, one_ne_zero, and_false,
      false_or, true_and]
    constructor
    · rintro (rfl | hq | hall)
      · exact .inr fun i hi => absurd hi (by omega)
      · exact .inl hq
      · refine .inr fun i hi => ?_
        cases i with
        | zero => exact hlate
        | succ i => exact hall i (by omega)
    · rintro (hq | hall)
      · exact .inr (.inl hq)
      · exact .inr (.inr fun i hi => hall (i + 1) (by omega))
  · -- The engine died on the way to it.
    simp only [Outlasts, hq, hrun, Nat.add_eq_zero_iff, one_ne_zero, and_false, Bool.false_eq_true, false_and,
      or_false, false_or, true_and]
    constructor
    · rintro rfl i hi
      exact absurd hi (by omega)
    · intro hall
      by_contra hn
      have hlate := hall 0 (by omega)
      rw [htime] at hlate
      cases hlate
  · obtain ⟨umsg, hc⟩ := processCommand_panicked hp
    exact absurd hc (hcmd umsg)
  · -- It is done with its queue.
    simp [Outlasts, hq, hrun, serve]

namespace Process

variable [DecidableEq T] {d : Deps} {t : T}

/-- **Unregistering the services is answered with `Ok`, unless the engine is
not there for one of them.** -/
theorem unregisterServices_answer (d : Deps) (t : T) (listener : L) (services : List ServiceConfig) (p : Process T L)
    (moments : ℕ → Moment) :
    ((unregisterServices d t listener p services moments).1 = .returned (.ok ()) ∧
      (p.transports t).engine.Outlasts d services.length moments) ∨
    ((unregisterServices d t listener p services moments).1.isPanic = true ∧
      ¬ (p.transports t).engine.Outlasts d services.length moments) := by
  induction services generalizing p moments with
  | nil => exact .inl ⟨rfl, .inl rfl⟩
  | cons service services ih =>
    let cfg := pointToPointConfig d.up (p.transports t).getLocalAuthority listener service
    obtain ⟨type, ht⟩ := determineType_ok d.up cfg.sourceFilter cfg.sinkFilter
    cases hun : unregisterConfig d p t cfg type (moments 0).inTime false with
    | mk r p' =>
    obtain ⟨answer, engine, hask, hr, hp'⟩ := unregisterConfig_cases hun
    have hengine : (p'.transports t).engine = engine := by
      rcases hp' with ⟨rfl, -⟩ | ⟨-, rfl⟩
      · rw [setEngine_engine, if_pos rfl]
      · show ((p.setEngine t engine).transports t).engine = engine
        rw [setEngine_engine, if_pos rfl]
    cases hrun : (p.transports t).engine.running with
    | false =>
      have hstopped : answer = .stopped := by
        rcases Engine.ask_cases hask with ⟨-, ha, -⟩ | ⟨hr, -⟩ | ⟨hr, -⟩ | ⟨hr, -⟩
        · exact ha
        all_goals rw [hrun] at hr; cases hr
      subst hstopped hr
      refine .inr ⟨by simp only [unregisterServices, ht, hun, cfg]; rfl, fun h => ?_⟩
      rcases h with h | ⟨h, -⟩
      · cases h
      · rw [hrun] at h; cases h
    | true =>
      obtain ⟨res, hres⟩ := Engine.ask_running "unregister" hrun hask
      rw [hres] at hr
      subst hr
      have hrest := Engine.outlasts_succ (n := services.length) (by simp) hrun hask
      have hih := ih p' fun i => moments (i + 1)
      rw [hengine, hrest] at hih
      simpa only [unregisterServices, cfg, ht, hun, List.length_cons] using hih

/-! ## The answer -/

/-- The answer says whether the listener was registered, and where it was not
nothing was done: not to the handlers, and not to vsomeip. -/
structure AnswersFor (p p' : Process T L) (registered : Prop) (res : Outcome (Except UStatus Unit)) : Prop where
  ok : res = .returned (.ok ()) ↔ registered
  refused : ¬ registered → ∃ e, res = .returned (.error e)
  handlers : ¬ registered → p'.handlers = p.handlers
  vsomeip : ¬ registered → ∀ t, (p'.transports t).engine.state.application = (p.transports t).engine.state.application

/-- What it takes for the answer to be right: a plain listener is registered
and its engine runs; for point-to-point messages there is no listener, or
this one is registered and the engine is there for each service. -/
structure Answerable (d : Deps) (s : Ledger T L) (t : T) (cfg : ListenerConfig L) (moments : ℕ → Moment) : Prop where
  plain : cfg.Plain d.up → s.registered t cfg ∧ (s.process.transports t).engine.running = true
  pointToPoint : ¬ cfg.Plain d.up → (s.process.transports t).pointToPointListener = none ∨
    (s.registered t cfg ∧ ∀ services, (s.process.transports t).config.services = some (.ok services) →
      (s.process.transports t).engine.Outlasts d services.length moments)

variable {p p' : Process T L} {registered : Prop} {res : Outcome (Except UStatus Unit)}

omit [DecidableEq T] in
theorem answersFor_ok (hres : res = .returned (.ok ())) : AnswersFor p p' registered res ↔ registered := by
  constructor
  · intro h
    exact h.ok.1 hres
  · intro h
    exact ⟨iff_of_true hres h, fun hn => absurd h hn, fun hn => absurd h hn, fun hn => absurd h hn⟩

omit [DecidableEq T] in
/-- A panic is no answer. -/
theorem not_answersFor_panic (hres : res.isPanic = true) : ¬ AnswersFor p p' registered res := by
  intro h
  by_cases hreg : registered
  · rw [h.ok.2 hreg] at hres
    cases hres
  · obtain ⟨e, he⟩ := h.refused hreg
    rw [he] at hres
    cases hres

/-- Without an engine a plain unregistration panics. -/
theorem unregisterListener_stopped {src : UUri} {sink : Option UUri} {type : RegistrationType}
    (ht : determineType d.up src sink = .ok type) (hp : type ≠ .allPointToPoint)
    (hstop : (p.transports t).engine.running = false) (listener : L) (moments : ℕ → Moment) :
    (unregisterListener d p t src sink listener moments).1.isPanic = true := by
  rw [unregisterListener_plain ht hp]
  simp [unregisterConfig, ask, Engine.ask, hstop, awaitEngine, unregisterAnswer, Outcome.isPanic]

theorem answersFor_plain {src : UUri} {sink : Option UUri} {listener : L} {moments : ℕ → Moment}
    (hplain : (⟨src, sink, listener⟩ : ListenerConfig L).Plain d.up) :
    AnswersFor p (unregisterListener d p t src sink listener moments).2 registered
        (unregisterListener d p t src sink listener moments).1 ↔
      registered ∧ (p.transports t).engine.running = true := by
  obtain ⟨type, ht⟩ := determineType_ok d.up src sink
  have hp : type ≠ .allPointToPoint := fun he => hplain (he ▸ ht)
  cases hrun : (p.transports t).engine.running with
  | true => simpa using answersFor_ok (by rw [unregisterListener_running listener moments ht hp hrun])
  | false => simpa using not_answersFor_panic (unregisterListener_stopped ht hp hrun listener moments)

theorem answersFor_pointToPoint {src : UUri} {sink : Option UUri} {listener : L} {moments : ℕ → Moment}
    (hall : determineType d.up src sink = .ok .allPointToPoint) (hservices : SlotHasServices p)
    (hfull : registered → (p.transports t).pointToPointListener ≠ none) :
    AnswersFor p (unregisterListener d p t src sink listener moments).2 registered
        (unregisterListener d p t src sink listener moments).1 ↔
      (p.transports t).pointToPointListener = none ∨ (registered ∧ ∀ services,
        (p.transports t).config.services = some (.ok services) →
          (p.transports t).engine.Outlasts d services.length moments) := by
  rw [unregisterListener_pointToPoint hall]
  cases hslot : (p.transports t).pointToPointListener with
  | none =>
    have hreg : ¬ registered := fun h => hfull h hslot
    simp only [unregisterPointToPointListener, hslot, true_or, iff_true]
    exact ⟨by simp [hreg], fun _ => ⟨_, rfl⟩, fun _ => rfl, fun _ _ => rfl⟩
  | some kept =>
    obtain ⟨services, hconfig⟩ := hservices t (by rw [hslot]; simp)
    simp only [unregisterPointToPointListener, hslot, hconfig, reduceCtorEq, false_or, Option.some.injEq,
      Except.ok.injEq, forall_eq']
    rcases unregisterServices_answer d t kept services p moments with ⟨hok, hlast⟩ | ⟨hpanic, hlast⟩
    · simpa [hlast] using answersFor_ok hok
    · simpa [hlast] using not_answersFor_panic hpanic

/-- **An unregistration is answered rightly exactly if it is answerable**,
after any calls on any transports. -/
theorem unregister_answers_iff [DecidableEq L] (d : Deps) (configs : T → TransportConfig × ClientId)
    (calls : List (Call T L)) (t : T) (src : UUri) (sink : Option UUri) (listener : L) (moments : ℕ → Moment) :
    let s := Runs.after (Ledger.step d) (Ledger.started configs) calls
    let r := unregisterListener d s.process t src sink listener moments
    AnswersFor s.process r.2 (s.registered t ⟨src, sink, listener⟩) r.1 ↔
      Answerable d s t ⟨src, sink, listener⟩ moments := by
  intro s r
  have hI : s.SlotInvariant d :=
    Runs.after_invariant (Ledger.SlotInvariant d) (fun _ call hI => hI.step call) (.started d configs) calls
  by_cases hplain : (⟨src, sink, listener⟩ : ListenerConfig L).Plain d.up
  · rw [answersFor_plain hplain]
    constructor
    · intro h
      exact ⟨fun _ => h, fun hn => absurd hplain hn⟩
    · intro h
      exact h.plain hplain
  · have hall : determineType d.up src sink = .ok .allPointToPoint := not_not.1 hplain
    rw [answersFor_pointToPoint hall hI.services fun hreg => hI.full hreg hall]
    constructor
    · intro h
      exact ⟨fun hp => absurd hp hplain, fun _ => h⟩
    · intro h
      exact h.pointToPoint hplain

/-! ## Somebody else's handler -/

/-- A plain unregistration takes the handler of its filters from vsomeip,
whosever it is, and leaves the other listener bound. -/
theorem unregisterListener_takes_entry {src : UUri} {sink : Option UUri} {type : RegistrationType} (listener : L)
    (moments : ℕ → Moment) (ht : determineType d.up src sink = .ok type) (hp : type ≠ .allPointToPoint)
    (hidle : (p.transports t).engine.Idle) (htime : (moments 0).inTime = true) :
    ∃ p', unregisterListener d p t src sink listener moments = (.returned (.ok ()), p') ∧
      (∃ app, (p'.transports t).engine.state.application = some app ∧ app.handlers (removalKey src sink) = none) ∧
      ∀ id cfg, cfg ≠ ⟨src, sink, listener⟩ → p.handlers.Bound t id cfg → p'.handlers.Bound t id cfg := by
  obtain ⟨p₁, hun, hstate⟩ := unregisterListener_idle (d := d) listener moments ht hp hidle htime
  obtain ⟨app, happ⟩ := Option.isSome_iff_exists.1 hidle.application
  obtain ⟨app₁, happ₁, hhandlers⟩ := processCommand_some d (.unregisterListener src sink type) happ
  refine ⟨p₁, hun, ⟨app₁, by rw [hstate]; exact happ₁, ?_⟩, fun id cfg hne hb => ?_⟩
  · simp [hhandlers, TransportCommand.onHandlers, unregisterKey_registrable ht hp]
  · rw [unregisterListener_running listener moments ht hp hidle.running] at hun
    cases hun
    cases hrel : p.handlers.releaseMessageHandler t ⟨src, sink, listener⟩ with
    | mk res handlers =>
    rcases MessageHandlers.releaseMessageHandler_pool hrel with ⟨id', maps, hb', hf, rfl⟩ | ⟨-, rfl⟩
    · refine (MessageHandlers.bound_of_frees hf).2 ⟨fun hc => hne ?_, hb⟩
      obtain ⟨-, rfl⟩ := hc
      exact Option.some.inj (hb.symm.trans hb')
    · exact hb

/-- One listener is registered, another is unregistered for its filters: the
answer is `Ok`, the first stays bound and its handler is gone. -/
theorem unregister_silences_other :
    let src : UUri := ⟨"foo", 1, 1, 10⟩
    let sink : UUri := ⟨"bar", 2, 1, 20⟩
    ∃ (s : Ledger Unit Bool) (p' : Process Unit Bool),
      s = Runs.after (Ledger.step .accepting) (Ledger.started sampleConfig)
        [.registerListener () src (some sink) false fun _ => .first] ∧
      s.registered () ⟨src, some sink, false⟩ ∧ ¬ s.registered () ⟨src, some sink, true⟩ ∧
      (∃ app, (s.process.transports ()).engine.state.application = some app ∧
        app.handlers (removalKey src (some sink)) = some ⟨0, by decide⟩) ∧
      unregisterListener .accepting s.process () src (some sink) true (fun _ => .first) = (.returned (.ok ()), p') ∧
      p'.handlers.Bound () 0 ⟨src, some sink, false⟩ ∧
      (∃ app, (p'.transports ()).engine.state.application = some app ∧
        app.handlers (removalKey src (some sink)) = none) ∧
      ¬ AnswersFor s.process p' (s.registered () ⟨src, some sink, true⟩) (.returned (.ok ())) := by
  intro src sink
  have ht : determineType Deps.accepting.up src (some sink) = .ok .request := by
    simp [src, sink, determineType, Deps.accepting, UpRust.accepting, streamerUseCase]
  obtain ⟨-, p, hreg, -, -, hbound, hidle, app, happ, hentry⟩ := sample_registers ⟨src, some sink, false⟩ ht (by decide)
  have hrun := Ledger.after_registered (s := Ledger.started sampleConfig) hreg
  obtain ⟨p', hun, hgone, hstays⟩ := unregisterListener_takes_entry (d := .accepting) true (fun _ => .first) ht
    (by decide) hidle rfl
  refine ⟨_, p', hrun.symm, .inl ⟨rfl, rfl⟩, by simp [Ledger.started], ⟨app, happ, hentry _ rfl⟩, hun,
    hstays 0 _ (by simp) hbound, hgone, fun h => ?_⟩
  have hreg' := h.ok.1 rfl
  simp [Ledger.started] at hreg'

end Process

end VsomeipTransport
