/-
The registration of a point-to-point listener: a slot of the transport, and
one configuration for each configured service.

The slot is filled before the loop over the services and nothing empties it.
So a registration that fails in the loop keeps the slot, with what the loop
bound until then (`failed_pointToPoint_untouched_iff`: when this is not so),
and the listener that was unregistered stays (`pointToPoint_never_ends`).

The loop is followed in detail for an engine that runs: it goes through if
every service is obtainable and answered in time (`registerServices_running`).
-/
import VsomeipTransport.BindingFacts
import VsomeipTransport.RegisterRollback

namespace VsomeipTransport

variable {T L : Type}

/-! ## An engine that accepted a registration -/

/-- It is idle then. -/
theorem Engine.ask_accepted {d : Deps} {e e' : Engine} {cmd : TransportCommand} {inTime : Bool}
    {answer : Engine.Answer} {functionId : String} (happ : e.state.application.isSome = true)
    (hask : e.ask d cmd inTime = (answer, e')) (hok : awaitEngine functionId answer = .returned (.ok ())) : e'.Idle := by
  rcases ask_cases hask with ⟨-, rfl, -⟩ | ⟨-, -, rfl, -⟩ | ⟨-, -, rfl, -⟩ | ⟨-, -, s₁, s, res, hs, hp, -, rfl⟩
  · cases hok
  · cases hok
  · cases hok
  · have hserve := serve_application d e.state e.queue
    have hcmd := processCommand_application d s₁ cmd
    rw [hs] at hserve
    rw [hp] at hcmd
    exact ⟨rfl, rfl, by rw [hcmd, hserve, happ]⟩

/-- An idle engine accepts what it answers in time. -/
theorem Engine.Idle.accepts_iff {d : Deps} {e : Engine} (h : e.Idle) {inTime : Bool} :
    e.Accepts d inTime ↔ inTime = true := by
  simp [Engine.Accepts, h.queue, Engine.serve, h.application]

namespace Process

variable [DecidableEq T] {d : Deps} {p p' : Process T L} {t t' : T} {listener : L}

/-! ## What stays of a transport -/

/-- The configuration and the listener of a transport. -/
def kept (p : Process T L) (t : T) : TransportConfig × Option L :=
  ((p.transports t).config, (p.transports t).pointToPointListener)

@[simp] theorem setEngine_kept (p : Process T L) (t : T) (e : Engine) : (p.setEngine t e).kept = p.kept := by
  funext t'
  unfold kept setEngine setTransport
  by_cases ht : t' = t
  · subst ht; simp
  · simp [ht]

theorem ask_kept (d : Deps) (p : Process T L) (t : T) (cmd : TransportCommand) (inTime : Bool) :
    (p.ask d t cmd inTime).2.kept = p.kept := setEngine_kept _ _ _

variable [DecidableEq L]

theorem registerConfig_kept (d : Deps) (p : Process T L) (t : T) (cfg : ListenerConfig L) (type : RegistrationType)
    (now : Moment) : (registerConfig d p t cfg type now).2.kept = p.kept := by
  unfold registerConfig
  split
  · rfl
  · rfl
  · exact ask_kept _ _ _ _ _

omit [DecidableEq L] in
theorem unregisterConfig_kept (d : Deps) (p : Process T L) (t : T) (cfg : ListenerConfig L) (type : RegistrationType)
    (inTime evenOnError : Bool) : (unregisterConfig d p t cfg type inTime evenOnError).2.kept = p.kept := by
  cases h : unregisterConfig d p t cfg type inTime evenOnError with
  | mk r p' =>
  obtain ⟨answer, engine, -, -, ⟨rfl, -⟩ | ⟨-, rfl⟩⟩ := unregisterConfig_cases h
  · exact setEngine_kept _ _ _
  · exact setEngine_kept p t engine

/-- Only keeping another listener changes that. -/
theorem step_kept {a : Action T L} (ha : ∀ t listener, a ≠ .keepPointToPointListener t listener) :
    (step d p a).1.kept = p.kept := by
  cases a with
  | register t cfg type now => exact registerConfig_kept d p t cfg type now
  | unregister t cfg type inTime evenOnError => exact unregisterConfig_kept d p t cfg type inTime evenOnError
  | keepPointToPointListener t listener => exact absurd rfl (ha t listener)
  | send t umsg inTime => exact ask_kept d p t (.send umsg) inTime
  | engineTurn t => exact setEngine_kept p t _
  | applicationLost t => exact setEngine_kept p t _

theorem ReachesBy.kept {G : Action T L → Prop} (h : ReachesBy d G p p')
    (hG : ∀ t listener, ¬ G (.keepPointToPointListener t listener)) : p'.kept = p.kept :=
  h.invariant (fun q => q.kept = p.kept)
    (fun _ _ hq ha => (step_kept fun t listener he => hG t listener (he ▸ ha)).trans hq) rfl

theorem registerServices_kept (t : T) (listener : L) (services : List ServiceConfig) (p : Process T L)
    (moments : ℕ → Moment) : (registerServices d t listener p services moments).2.kept = p.kept :=
  (registerServices_reaches t listener services p moments).kept fun _ _ h => h

/-- Unregistering keeps the configurations and the listeners. -/
theorem unregisterListener_kept (d : Deps) (p : Process T L) (t : T) (src : UUri) (sink : Option UUri) (listener : L)
    (moments : ℕ → Moment) : (unregisterListener d p t src sink listener moments).2.kept = p.kept :=
  (unregisterListener_reaches d p t src sink listener moments).kept fun _ _ h => h

/-- Sending keeps them. -/
theorem send_kept (d : Deps) (p : Process T L) (t : T) (message : UMessage) (moments : ℕ → Moment) :
    (send d p t message moments).2.kept = p.kept :=
  (send_reaches d p t message moments).kept fun _ _ h => h

/-! ## The loop over the services -/

/-- The configuration of the listener for a service. -/
def serviceConfig (d : Deps) (p : Process T L) (t : T) (listener : L) (service : ServiceConfig) : ListenerConfig L :=
  pointToPointConfig d.up (p.transports t).getLocalAuthority listener service

/-- Nothing is bound for the service, it is not listed twice up to there, and
the pool lasts for the services before it and for it. -/
structure Obtainable (d : Deps) (p : Process T L) (t : T) (listener : L) (services : List ServiceConfig) (i : ℕ)
    (service : ServiceConfig) : Prop where
  unbound : ∀ id, ¬ p.handlers.Bound t id (serviceConfig d p t listener service)
  fresh : service ∉ services.take i
  room : i < p.handlers.freeMessageHandlerIds.card

/-- The engine accepts the first registration, and answers the ones after it
in time. -/
def Answered (d : Deps) (e : Engine) (moments : ℕ → Moment) : ℕ → Prop
  | 0 => e.Accepts d (moments 0).inTime
  | i + 1 => (moments (i + 1)).inTime = true

/-- Each service is obtainable and its registration answered. -/
def GoesThrough (d : Deps) (p : Process T L) (t : T) (listener : L) (services : List ServiceConfig)
    (moments : ℕ → Moment) : Prop :=
  ∀ i service, services[i]? = some service →
    Obtainable d p t listener services i service ∧ Answered d (p.transports t).engine moments i

omit [DecidableEq T] [DecidableEq L] in
theorem serviceConfig_inj {service service' : ServiceConfig}
    (h : serviceConfig d p t listener service = serviceConfig d p t listener service') : service = service' := by
  simp only [serviceConfig, pointToPointConfig, ListenerConfig.mk.injEq, Option.some.injEq,
    anyUuriFixedAuthorityId, UUri.mk.injEq, true_and, and_true] at h
  obtain ⟨hinstance, hservice⟩ := createRequestId_inj h
  cases service
  cases service'
  simp only at hinstance hservice
  rw [hinstance, hservice]

omit [DecidableEq T] [DecidableEq L] in
theorem serviceConfig_kept (h : p'.kept t = p.kept t) (service : ServiceConfig) :
    serviceConfig d p' t listener service = serviceConfig d p t listener service := by
  have hconfig : (p'.transports t).config = (p.transports t).config := congrArg Prod.fst h
  simp only [serviceConfig, UPTransportVsomeip.getLocalAuthority, hconfig]

omit [DecidableEq T] [DecidableEq L] in
/-- A service whose configuration is unbound gets a handler while there is
one. -/
theorem available_iff (hI : PoolInvariant p.handlers) {cfg : ListenerConfig L} {order : IterOrder MessageHandlerId} :
    (∃ id, (p.handlers.lock t).Available order cfg id) ↔
      (∀ id, ¬ p.handlers.Bound t id cfg) ∧ 0 < p.handlers.freeMessageHandlerIds.card := by
  constructor
  · intro hgiven
    obtain ⟨id, ha⟩ := hgiven
    exact ⟨fun _ => MessageHandlers.unbound_of_available ha, Finset.card_pos.2 ⟨id, order.next_mem ha.picked⟩⟩
  · intro hgiven
    obtain ⟨hun, hpos⟩ := hgiven
    cases hn : order.next p.handlers.freeMessageHandlerIds with
    | none =>
      rw [order.next_none hn] at hpos
      exact absurd hpos (by simp)
    | some id => exact ⟨id, hI.available hn hun⟩

omit [DecidableEq L] in
/-- After a service was bound, unbound are the others that were. -/
theorem unbound_after_iff {service s : ServiceConfig} {maps : LockedMaps T L} {id : MessageHandlerId}
    (hI : PoolInvariant p.handlers) (hfree : id ∈ p.handlers.freeMessageHandlerIds)
    (hb : (p.handlers.lock t).Binds maps t (serviceConfig d p t listener service) id) :
    (∀ id', ¬ (p.handlers.unlock t maps).Bound t id' (serviceConfig d p t listener s)) ↔
      (∀ id', ¬ p.handlers.Bound t id' (serviceConfig d p t listener s)) ∧ s ≠ service := by
  simp only [MessageHandlers.bound_of_binds hb, true_and]
  constructor
  · intro hno
    refine ⟨fun id' hold => hno id' ?_, fun he => hno id (by rw [if_pos rfl, he])⟩
    have hne : id' ≠ id := fun he => hI.disjoint hold (he ▸ hfree)
    rw [if_neg hne]
    exact hold
  · intro hgiven id' hnew
    obtain ⟨hno, hne⟩ := hgiven
    split at hnew
    · exact hne (serviceConfig_inj hnew)
    · exact hno id' hnew

omit [DecidableEq T] [DecidableEq L] in
/-- The engine is idle after the first registration. -/
theorem answered_succ {engine : Engine} (hidle : engine.Idle) {moments : ℕ → Moment} (i : ℕ) :
    Answered d engine (fun i => moments (i + 1)) i ↔ Answered d (p.transports t).engine moments (i + 1) := by
  cases i with
  | zero => exact hidle.accepts_iff
  | succ i => exact Iff.rfl

omit [DecidableEq L] in
/-- What is left to go through after the first service was registered: its
handler is gone from the pool, and the engine is idle. -/
theorem goesThrough_cons {service : ServiceConfig} (services : List ServiceConfig) {moments : ℕ → Moment}
    {maps : LockedMaps T L} {id : MessageHandlerId} {engine : Engine} (hI : PoolInvariant p.handlers)
    (ha : (p.handlers.lock t).Available (moments 0).order (serviceConfig d p t listener service) id)
    (hb : (p.handlers.lock t).Binds maps t (serviceConfig d p t listener service) id) (hidle : engine.Idle)
    (hacc : (p.transports t).engine.Accepts d (moments 0).inTime) :
    GoesThrough d { p.setEngine t engine with handlers := p.handlers.unlock t maps } t listener services
      (fun i => moments (i + 1)) ↔ GoesThrough d p t listener (service :: services) moments := by
  have hfree : id ∈ p.handlers.freeMessageHandlerIds := (moments 0).order.next_mem ha.picked
  have hcard : (p.handlers.unlock t maps).freeMessageHandlerIds.card = p.handlers.freeMessageHandlerIds.card - 1 := by
    show maps.freeMessageHandlerIds.card = _
    rw [hb.free]
    exact Finset.card_erase_of_mem hfree
  have hpos : 0 < p.handlers.freeMessageHandlerIds.card := Finset.card_pos.2 ⟨id, hfree⟩
  have hcfg : ∀ s, serviceConfig d { p.setEngine t engine with handlers := p.handlers.unlock t maps } t listener s =
      serviceConfig d p t listener s := by
    intro s
    exact serviceConfig_kept (congrFun (setEngine_kept p t engine) t) s
  have hengine : (({ p.setEngine t engine with handlers := p.handlers.unlock t maps } : Process T L).transports t).engine
      = engine := by
    show ((p.setEngine t engine).transports t).engine = engine
    rw [setEngine_engine, if_pos rfl]
  constructor
  · intro hthrough i s hs
    cases i with
    | zero =>
      simp only [List.getElem?_cons_zero, Option.some.injEq] at hs
      subst hs
      exact ⟨⟨((available_iff hI).1 ⟨id, ha⟩).1, by simp, hpos⟩, hacc⟩
    | succ i =>
      obtain ⟨hobt, hans⟩ := hthrough i s hs
      rw [hengine] at hans
      have hun := hobt.unbound
      rw [hcfg] at hun
      obtain ⟨hun', hne⟩ := (unbound_after_iff hI hfree hb).1 hun
      have hroom : i < (p.handlers.unlock t maps).freeMessageHandlerIds.card := hobt.room
      refine ⟨⟨hun', ?_, by omega⟩, (answered_succ hidle i).1 hans⟩
      rw [List.take_succ_cons, List.mem_cons, not_or]
      exact ⟨hne, hobt.fresh⟩
  · intro hthrough i s hs
    obtain ⟨hobt, hans⟩ := hthrough (i + 1) s hs
    have hfresh := hobt.fresh
    rw [List.take_succ_cons, List.mem_cons, not_or] at hfresh
    have hroom := hobt.room
    refine ⟨⟨?_, hfresh.2, ?_⟩, ?_⟩
    · rw [hcfg]
      exact (unbound_after_iff hI hfree hb).2 ⟨hobt.unbound, hfresh.1⟩
    · show i < (p.handlers.unlock t maps).freeMessageHandlerIds.card
      omega
    · rw [hengine]
      exact (answered_succ hidle i).2 hans

/-- **Where the engine runs, the loop goes through or fails.** -/
theorem registerServices_running (d : Deps) (listener : L) (services : List ServiceConfig) (hI : PoolInvariant p.handlers)
    (hrun : (p.transports t).engine.running = true) (moments : ℕ → Moment) :
    ((registerServices d t listener p services moments).1 = .returned (.ok ()) ∧
      GoesThrough d p t listener services moments) ∨
    ∃ err, (registerServices d t listener p services moments).1 = .returned (.error err) ∧
      ¬ GoesThrough d p t listener services moments := by
  induction services generalizing p moments with
  | nil => exact .inl ⟨rfl, fun i s hs => by simp at hs⟩
  | cons service services ih =>
    have hfirst : ∀ h : GoesThrough d p t listener (service :: services) moments,
        Obtainable d p t listener (service :: services) 0 service ∧
          (p.transports t).engine.Accepts d (moments 0).inTime := fun h => h 0 service rfl
    by_cases hav : ∃ id, (p.handlers.lock t).Available (moments 0).order (serviceConfig d p t listener service) id
    · obtain ⟨id, ha⟩ := hav
      have hid : id < numMessageHandlers := (hI.ids id).2 (.inl ((moments 0).order.next_mem ha.picked))
      obtain ⟨maps, answer, engine, hb, hask, hreg⟩ := registerConfig_available d .request ha hid
      simp only [serviceConfig] at hreg
      rcases Engine.ask_register "register_listener_internal" rfl hrun hask with ⟨hok, hacc⟩ | ⟨err, herr, hacc⟩
      · have hidle : engine.Idle := Engine.ask_accepted hacc.2.2 hask hok
        have hrest := goesThrough_cons services hI ha hb hidle hacc
        have hloop : registerServices d t listener p (service :: services) moments = registerServices d t listener
            { p.setEngine t engine with handlers := p.handlers.unlock t maps } services fun i => moments (i + 1) := by
          simp only [registerServices, hreg, hok]
        rw [hloop, ← hrest]
        refine ih (MessageHandlers.pool_of_binds hI ha hb) ?_ _
        show ((p.setEngine t engine).transports t).engine.running = true
        rw [setEngine_engine, if_pos rfl]
        exact hidle.running
      · simp only [registerServices, hreg, herr]
        exact .inr ⟨_, rfl, fun h => hacc (hfirst h).2⟩
    · obtain ⟨e, hreg⟩ : ∃ e, registerConfig d p t (serviceConfig d p t listener service) .request (moments 0) =
          (.refused e, p) := by
        cases h : registerConfig d p t (serviceConfig d p t listener service) .request (moments 0) with
        | mk r p' =>
        rcases registerConfig_cases hI h with ⟨e, rfl, rfl⟩ | ⟨fn, _, _, _, -, ha, -⟩
        · exact ⟨e, rfl⟩
        · exact absurd ⟨fn.id, ha⟩ hav
      simp only [serviceConfig] at hreg
      simp only [registerServices, hreg]
      refine .inr ⟨_, rfl, fun h => hav ?_⟩
      have hobt := (hfirst h).1
      exact (available_iff hI).2 ⟨hobt.unbound, hobt.room⟩

/-- Where it is stopped, the first registration that gets a handler panics. -/
theorem registerServices_stopped (d : Deps) (listener : L) (service : ServiceConfig) (services : List ServiceConfig)
    (hI : PoolInvariant p.handlers) (hrun : (p.transports t).engine.running = false) (moments : ℕ → Moment) :
    (Obtainable d p t listener (service :: services) 0 service ∧
      ∃ msg, (registerServices d t listener p (service :: services) moments).1 = .panicked msg) ∨
    (¬ Obtainable d p t listener (service :: services) 0 service ∧
      ∃ err, (registerServices d t listener p (service :: services) moments).1 = .returned (.error err)) := by
  cases hreg : registerConfig d p t (serviceConfig d p t listener service) .request (moments 0) with
  | mk r p' =>
  have hloop := hreg
  simp only [serviceConfig] at hloop
  have hav : (∃ id, (p.handlers.lock t).Available (moments 0).order (serviceConfig d p t listener service) id) ↔
      Obtainable d p t listener (service :: services) 0 service := by
    rw [available_iff hI]
    exact ⟨fun h => ⟨h.1, by simp, h.2⟩, fun h => ⟨h.unbound, h.room⟩⟩
  simp only [registerServices, hloop]
  rcases registerConfig_cases hI hreg with ⟨e, rfl, rfl⟩ | ⟨fn, _, answer, _, rfl, ha, -, hask, -⟩
  · refine .inr ⟨fun hobt => ?_, _, rfl⟩
    obtain ⟨id, ha⟩ := hav.2 hobt
    obtain ⟨_, _, _, -, -, hok⟩ := registerConfig_available d .request ha
      ((hI.ids id).2 (.inl ((moments 0).order.next_mem ha.picked)))
    rw [hreg] at hok
    cases hok
  · rcases Engine.ask_cases hask with ⟨-, rfl, -⟩ | ⟨hr, -⟩ | ⟨hr, -⟩ | ⟨hr, -⟩
    · exact .inl ⟨hav.1 ⟨fn.id, ha⟩, _, rfl⟩
    all_goals rw [hrun] at hr; cases hr

/-! ## A registration that fails -/

/-- With the listener in the slot. -/
def withListener (p : Process T L) (t : T) (listener : L) : Process T L :=
  p.setTransport t { p.transports t with pointToPointListener := some listener }

omit [DecidableEq L] in
@[simp] theorem withListener_self (p : Process T L) (t : T) (listener : L) :
    (p.withListener t listener).transports t = { p.transports t with pointToPointListener := some listener } :=
  Function.update_self _ _ _

omit [DecidableEq L] in
/-- The slot plays no part in what the loop needs. -/
theorem obtainable_withListener {services : List ServiceConfig} {i : ℕ} {service : ServiceConfig} :
    Obtainable d (p.withListener t listener) t listener services i service ↔
      Obtainable d p t listener services i service := by
  have hcfg : serviceConfig d (p.withListener t listener) t listener service = serviceConfig d p t listener service := by
    simp only [serviceConfig, UPTransportVsomeip.getLocalAuthority, withListener_self]
  constructor
  · intro h
    exact ⟨hcfg ▸ h.unbound, h.fresh, h.room⟩
  · intro h
    exact ⟨by rw [hcfg]; exact h.unbound, h.fresh, h.room⟩

omit [DecidableEq L] in
theorem goesThrough_withListener {services : List ServiceConfig} {moments : ℕ → Moment} :
    GoesThrough d (p.withListener t listener) t listener services moments ↔
      GoesThrough d p t listener services moments := by
  simp only [GoesThrough, obtainable_withListener, withListener_self]

/-- What a failed registration should leave: the listener and the handlers
of `t` as they were. -/
def UntouchedFor (p p' : Process T L) (t : T) : Prop :=
  (p'.transports t).pointToPointListener = (p.transports t).pointToPointListener ∧ p.handlers.SameFor p'.handlers t

/-- The loop ends without an error: it goes through, or the engine has
stopped and the call does not return. -/
def LoopCannotFail (d : Deps) (p : Process T L) (t : T) (listener : L) (services : List ServiceConfig)
    (moments : ℕ → Moment) : Prop :=
  GoesThrough d p t listener services moments ∨
    ((p.transports t).engine.running = false ∧
      ∀ service, services[0]? = some service → Obtainable d p t listener services 0 service)

/-- Whether the loop can fail is whether it does. -/
theorem loopCannotFail_iff (services : List ServiceConfig) (hI : PoolInvariant p.handlers) (moments : ℕ → Moment) :
    LoopCannotFail d p t listener services moments ↔ ∀ err,
      (registerServices d t listener (p.withListener t listener) services moments).1 ≠ .returned (.error err) := by
  have hI' : PoolInvariant (p.withListener t listener).handlers := hI
  cases hrun : (p.transports t).engine.running with
  | true =>
    have hrun' : ((p.withListener t listener).transports t).engine.running = true := by rw [withListener_self, hrun]
    simp only [LoopCannotFail, hrun, Bool.true_eq_false, false_and, or_false]
    rw [← goesThrough_withListener]
    rcases registerServices_running d listener services hI' hrun' moments with ⟨hok, hthrough⟩ | ⟨err, herr, hno⟩
    · simp [hthrough, hok]
    · simp only [hno, false_iff, not_forall, not_not]
      exact ⟨err, herr⟩
  | false =>
    have hrun' : ((p.withListener t listener).transports t).engine.running = false := by rw [withListener_self, hrun]
    cases services with
    | nil =>
      have hthrough : GoesThrough d p t listener [] moments := fun i s hs => by simp at hs
      simp [LoopCannotFail, hthrough, registerServices]
    | cons service services =>
      have hiff : LoopCannotFail d p t listener (service :: services) moments ↔
          Obtainable d p t listener (service :: services) 0 service := by
        constructor
        · intro h
          rcases h with h | ⟨-, h⟩
          · exact (h 0 service rfl).1
          · exact h service rfl
        · intro h
          refine .inr ⟨hrun, fun s hs => ?_⟩
          cases hs
          exact h
      rw [hiff, ← obtainable_withListener]
      rcases registerServices_stopped d listener service services hI' hrun' moments with
        ⟨hobt, msg, hpan⟩ | ⟨hno, err, herr⟩
      · simp [hobt, hpan]
      · simp only [hno, false_iff, not_forall, not_not]
        exact ⟨err, herr⟩

/-- The call where nothing stands in the way of the loop. -/
theorem registerPointToPointListener_loop {services : List ServiceConfig} (listener : L) (moments : ℕ → Moment)
    (hservices : (p.transports t).config.services = some (.ok services))
    (hslot : (p.transports t).pointToPointListener = none) :
    registerPointToPointListener d p t listener moments =
      registerServices d t listener (p.withListener t listener) services moments := by
  simp only [registerPointToPointListener, hservices, hslot]
  rfl

/-- Where the call does not come to the loop it changes nothing. -/
theorem registerPointToPointListener_early (listener : L) (moments : ℕ → Moment)
    (h : ∀ services, (p.transports t).config.services = some (.ok services) →
      (p.transports t).pointToPointListener ≠ none) :
    (registerPointToPointListener d p t listener moments).2 = p := by
  unfold registerPointToPointListener
  split
  · rfl
  · rfl
  · next services hs =>
    split
    · rfl
    · next hslot => exact absurd hslot (h services hs)

/-- Whatever the loop does, the listener stays in its slot. -/
theorem registerServices_slot (d : Deps) (p : Process T L) (t : T) (listener : L) (services : List ServiceConfig)
    (moments : ℕ → Moment) :
    ((registerServices d t listener (p.withListener t listener) services moments).2.transports t).pointToPointListener
      = some listener := by
  have hkept := congrFun (registerServices_kept (d := d) t listener services (p.withListener t listener) moments) t
  have hslot := congrArg Prod.snd hkept
  simp only [kept, withListener_self] at hslot
  exact hslot

/-- **A failed registration leaves everything as it was exactly if its loop
cannot fail.** -/
theorem failed_pointToPoint_untouched_iff (d : Deps) (p : Process T L) (t : T) (listener : L) (moments : ℕ → Moment)
    (hr : p.handlers.Reachable d.up) :
    (∀ err p', registerPointToPointListener d p t listener moments = (.returned (.error err), p') →
      p.UntouchedFor p' t) ↔
    ∀ services, (p.transports t).config.services = some (.ok services) →
      (p.transports t).pointToPointListener = none → LoopCannotFail d p t listener services moments := by
  constructor
  · intro hsame services hservices hslot
    have hloop := registerPointToPointListener_loop (d := d) listener moments hservices hslot
    refine (loopCannotFail_iff services hr.pool moments).2 fun err herr => ?_
    -- An error of the loop comes with a full slot.
    have hun := (hsame err _ (hloop.trans (Prod.ext herr rfl))).1
    rw [registerServices_slot, hslot] at hun
    cases hun
  · intro hcannot err p' hreg
    by_cases hearly : ∃ services, (p.transports t).config.services = some (.ok services) ∧
        (p.transports t).pointToPointListener = none
    · obtain ⟨services, hservices, hslot⟩ := hearly
      have hno := (loopCannotFail_iff services hr.pool moments).1 (hcannot services hservices hslot)
      rw [registerPointToPointListener_loop listener moments hservices hslot] at hreg
      exact absurd (by rw [hreg]) (hno err)
    · have hsame := registerPointToPointListener_early (d := d) listener moments
        fun services hs hslot => hearly ⟨services, hs, hslot⟩
      rw [hreg] at hsame
      simp only at hsame
      rw [hsame]
      exact ⟨rfl, .refl _ _⟩

/-- A transport configured with services, in a fresh process. -/
def sampleWithServices (services : List ServiceConfig) : Process Unit Unit :=
  Process.started fun _ => ({ (sampleConfig ()).1 with services := some (.ok services) }, 0x123)

/-- Where every service is listed once and there are handlers enough, nothing
stands in the way. -/
theorem sampleWithServices_goesThrough {services : List ServiceConfig} (hnodup : services.Nodup)
    (hroom : services.length ≤ numMessageHandlers) :
    GoesThrough .accepting (sampleWithServices services) () () services fun _ => .first := by
  intro i s hs
  obtain ⟨hi, rfl⟩ := List.getElem?_eq_some_iff.1 hs
  refine ⟨⟨fun id => MessageHandlers.unbound_new _ _ _, fun hbefore => ?_, ?_⟩, ?_⟩
  · obtain ⟨j, hj, he⟩ := List.mem_take_iff_getElem.1 hbefore
    have hji : j = i := (hnodup.getElem_inj_iff).1 he
    omega
  · show i < (Finset.range numMessageHandlers).card
    rw [Finset.card_range]
    exact hi.trans_le hroom
  · cases i with
    | zero => exact ⟨rfl, rfl, rfl⟩
    | succ i => rfl

theorem failed_pointToPoint_untouched_iff_sample :
    (∀ err p', registerPointToPointListener .accepting (sampleWithServices [⟨1, 1⟩]) () () (fun _ => .first) =
      (.returned (.error err), p') → (sampleWithServices [⟨1, 1⟩]).UntouchedFor p' ()) ↔
    ∀ services, ((sampleWithServices [⟨1, 1⟩]).transports ()).config.services = some (.ok services) →
      ((sampleWithServices [⟨1, 1⟩]).transports ()).pointToPointListener = none →
        LoopCannotFail .accepting (sampleWithServices [⟨1, 1⟩]) () () services fun _ => .first :=
  failed_pointToPoint_untouched_iff .accepting (sampleWithServices [⟨1, 1⟩]) () () (fun _ => .first) ⟨[], rfl⟩

/-- A service that is listed twice: the registration fails at the second, and
keeps the listener and the handler of the first. -/
theorem failed_pointToPoint_keeps_listener :
    ∃ err p', registerPointToPointListener .accepting (sampleWithServices [⟨1, 1⟩, ⟨1, 1⟩]) () () (fun _ => .first) =
      (.returned (.error err), p') ∧ ¬ (sampleWithServices [⟨1, 1⟩, ⟨1, 1⟩]).UntouchedFor p' () := by
  have hno : ¬ LoopCannotFail .accepting (sampleWithServices [⟨1, 1⟩, ⟨1, 1⟩]) () () [⟨1, 1⟩, ⟨1, 1⟩]
      fun _ => .first := by
    intro h
    rcases h with h | ⟨hrun, -⟩
    · exact (h 1 ⟨1, 1⟩ rfl).1.fresh (by simp)
    · cases hrun
  rw [loopCannotFail_iff _ PoolInvariant.new] at hno
  simp only [not_forall, not_not] at hno
  obtain ⟨err, herr⟩ := hno
  have hservices : ((sampleWithServices [⟨1, 1⟩, ⟨1, 1⟩]).transports ()).config.services =
      some (.ok [⟨1, 1⟩, ⟨1, 1⟩]) := rfl
  have hslot : ((sampleWithServices [⟨1, 1⟩, ⟨1, 1⟩]).transports ()).pointToPointListener = none := rfl
  have hloop := registerPointToPointListener_loop (d := .accepting) () (fun _ => .first) hservices hslot
  cases hcall : registerServices .accepting () () ((sampleWithServices [⟨1, 1⟩, ⟨1, 1⟩]).withListener () ())
    [⟨1, 1⟩, ⟨1, 1⟩] fun _ => .first with
  | mk res p' =>
  have hfull := registerServices_slot .accepting (sampleWithServices [⟨1, 1⟩, ⟨1, 1⟩]) () () [⟨1, 1⟩, ⟨1, 1⟩]
    fun _ => .first
  rw [hcall] at herr hloop hfull
  simp only at herr hfull
  rw [herr] at hloop
  refine ⟨err, p', hloop, fun hun => ?_⟩
  have hempty := hun.1
  rw [hfull, hslot] at hempty
  cases hempty

/-! ## Unregistering -/

/-- What goes on while a listener is registered. -/
inductive Later (T : Type)
  | send (t : T) (message : UMessage) (moments : ℕ → Moment)
  | engineTurn (t : T)
  | applicationLost (t : T)

def laterStep (d : Deps) (p : Process T L) : Later T → Process T L
  | .send t message moments => (send d p t message moments).2
  | .engineTurn t => p.engineTurn d t
  | .applicationLost t => p.applicationLost t

theorem later_kept (es : List (Later T)) : (es.foldl (laterStep d) p).kept = p.kept := by
  induction es generalizing p with
  | nil => rfl
  | cons e es ih =>
    rw [List.foldl_cons, ih]
    cases e with
    | send t message moments => exact send_kept d p t message moments
    | engineTurn t => exact setEngine_kept _ _ _
    | applicationLost t => exact setEngine_kept _ _ _

/-- What the end of a registration should leave: nothing of the listener. -/
structure PointToPointEnded (d : Deps) (p p' : Process T L) (t : T) (listener : L) : Prop where
  slot : (p'.transports t).pointToPointListener = none
  unbound : ∀ id cfg, p'.handlers.Bound t id cfg → cfg.listener ≠ listener
  freed : ∀ id cfg, p.handlers.Bound t id cfg → cfg.listener = listener → id ∈ p'.handlers.freeMessageHandlerIds
  silent : ∀ message moments id cfg, (send d p' t message moments).2.handlers.Bound t id cfg →
    cfg.listener ≠ listener
  again : ∀ listener' moments, (registerPointToPointListener d p' t listener' moments).1 ≠
    .returned (.error (.failWithCode .alreadyExists "We already have a point-to-point UListener registered"))

theorem registerListener_pointToPoint {src : UUri} {sink : Option UUri}
    (hall : determineType d.up src sink = .ok .allPointToPoint) (listener : L) (moments : ℕ → Moment) :
    registerListener d p t src sink listener moments = registerPointToPointListener d p t listener moments := by
  simp only [registerListener, hall]

omit [DecidableEq L] in
/-- Neither the filters nor the listener matter. -/
theorem unregisterListener_pointToPoint {src : UUri} {sink : Option UUri}
    (hall : determineType d.up src sink = .ok .allPointToPoint) (listener : L) (moments : ℕ → Moment) :
    unregisterListener d p t src sink listener moments = unregisterPointToPointListener d p t moments := by
  simp only [unregisterListener, hall]

/-- A registration that succeeds fills the slot. -/
theorem registerPointToPointListener_ok {moments : ℕ → Moment}
    (h : registerPointToPointListener d p t listener moments = (.returned (.ok ()), p')) :
    (∃ services, (p'.transports t).config.services = some (.ok services)) ∧
      (p'.transports t).pointToPointListener = some listener := by
  have hloop := h
  unfold registerPointToPointListener at hloop
  split at hloop
  · cases hloop
  · cases hloop
  next services hservices =>
  split at hloop
  · cases hloop
  next hslot =>
  rw [registerPointToPointListener_loop listener moments hservices hslot] at h
  have hkept := congrFun (registerServices_kept (d := d) t listener services (p.withListener t listener) moments) t
  have hfull := registerServices_slot d p t listener services moments
  rw [h] at hkept hfull
  have hconfig := congrArg Prod.fst hkept
  simp only [kept, withListener_self] at hconfig
  exact ⟨⟨services, by rw [hconfig, hservices]⟩, hfull⟩

/-- Unregistering keeps the listener in its slot, whatever the engine
answers. -/
theorem unregisterPointToPointListener_kept (d : Deps) (p : Process T L) (t : T) (moments : ℕ → Moment) :
    (unregisterPointToPointListener d p t moments).2.kept = p.kept :=
  (unregisterPointToPointListener_reaches d p t moments).kept fun _ _ h => h

/-- From the registration to the end of unregistering the slot stays full. -/
theorem pointToPoint_kept {p₁ p₂ : Process T L} {src src' : UUri} {sink sink' : Option UUri}
    {moments moments' : ℕ → Moment} {res} (hall : determineType d.up src sink = .ok .allPointToPoint)
    (hall' : determineType d.up src' sink' = .ok .allPointToPoint)
    (hreg : registerListener d p t src sink listener moments = (.returned (.ok ()), p₁)) (es : List (Later T))
    (hun : unregisterListener d (es.foldl (laterStep d) p₁) t src' sink' listener moments' = (res, p₂)) :
    (∃ services, (p₂.transports t).config.services = some (.ok services)) ∧
      (p₂.transports t).pointToPointListener = some listener := by
  rw [registerListener_pointToPoint hall] at hreg
  obtain ⟨⟨services, hservices⟩, hslot⟩ := registerPointToPointListener_ok hreg
  rw [unregisterListener_pointToPoint hall'] at hun
  have hkept := congrFun ((unregisterPointToPointListener_kept d (es.foldl (laterStep d) p₁) t moments').trans
    (later_kept es)) t
  rw [hun] at hkept
  have hconfig : (p₂.transports t).config = (p₁.transports t).config := congrArg Prod.fst hkept
  have hslot' : (p₂.transports t).pointToPointListener = (p₁.transports t).pointToPointListener :=
    congrArg Prod.snd hkept
  exact ⟨⟨services, by rw [hconfig, hservices]⟩, hslot'.trans hslot⟩

/-- **Unregistering never ends a point-to-point registration.** Whatever was
sent in between and whatever the engine answers, the listener stays in its
slot, and no other is accepted. -/
theorem pointToPoint_never_ends {p₁ p₂ : Process T L} {src src' : UUri} {sink sink' : Option UUri}
    {moments moments' : ℕ → Moment} {res} (hall : determineType d.up src sink = .ok .allPointToPoint)
    (hall' : determineType d.up src' sink' = .ok .allPointToPoint)
    (hreg : registerListener d p t src sink listener moments = (.returned (.ok ()), p₁)) (es : List (Later T))
    (hun : unregisterListener d (es.foldl (laterStep d) p₁) t src' sink' listener moments' = (res, p₂)) :
    (p₂.transports t).pointToPointListener = some listener ∧
    (∀ listener' moments, (registerPointToPointListener d p₂ t listener' moments).1 =
      .returned (.error (.failWithCode .alreadyExists "We already have a point-to-point UListener registered"))) ∧
    ¬ PointToPointEnded d (es.foldl (laterStep d) p₁) p₂ t listener := by
  obtain ⟨⟨services, hservices⟩, hslot⟩ := pointToPoint_kept hall hall' hreg es hun
  refine ⟨hslot, fun listener' moments => ?_, fun hended => ?_⟩
  · simp only [registerPointToPointListener, hservices, hslot]
  · rw [hended.slot] at hslot
    cases hslot

/-- All point-to-point messages between two hosts. -/
def hostFilter (authority : AuthorityName) : UUri := ⟨authority, 0xFFFFFFFF, 0xFF, 0xFFFF⟩

theorem hostFilter_pointToPoint :
    determineType UpRust.accepting (hostFilter "me") (some (hostFilter "foo")) = .ok .allPointToPoint := by
  decide

/-- The registration goes through. -/
theorem sampleWithServices_registers {services : List ServiceConfig} (hnodup : services.Nodup)
    (hroom : services.length ≤ numMessageHandlers) :
    ∃ p₁, registerListener .accepting (sampleWithServices services) () (hostFilter "me") (some (hostFilter "foo")) ()
      (fun _ => .first) = (.returned (.ok ()), p₁) := by
  have hservices : ((sampleWithServices services).transports ()).config.services = some (.ok services) := rfl
  have hslot : ((sampleWithServices services).transports ()).pointToPointListener = none := rfl
  have hI : PoolInvariant ((sampleWithServices services).withListener () ()).handlers := PoolInvariant.new
  have hrun : (((sampleWithServices services).withListener () ()).transports ()).engine.running = true := rfl
  have hthrough := goesThrough_withListener.2 (sampleWithServices_goesThrough hnodup hroom)
  rw [registerListener_pointToPoint hostFilter_pointToPoint,
    registerPointToPointListener_loop () (fun _ => .first) hservices hslot]
  rcases registerServices_running .accepting () services hI hrun fun _ => .first with ⟨hok, -⟩ | ⟨_, -, hno⟩
  · cases hcall : registerServices .accepting () () ((sampleWithServices services).withListener () ()) services
      fun _ => .first with
    | mk res p₁ =>
    rw [hcall] at hok
    simp only at hok
    exact ⟨p₁, by rw [hok]⟩
  · exact absurd hthrough hno

def sampleNotification : UMessage where
  attributes := some { id := some (.sample 1), type := .known .notification, source := some ⟨"me", 5, 1, 0x8001⟩,
                       sink := some ⟨"foo", 7, 1, 0⟩ }
  payload := some [1, 2]

/-- A message is sent and its command times out, the engine sends it late, and
the application goes away. -/
def sampleLater : List (Later Unit) :=
  [.send () sampleNotification (fun _ => ⟨.least, false⟩), .engineTurn (), .applicationLost ()]

theorem pointToPoint_never_ends_sample :
    ∃ p₁, (registerListener .accepting (sampleWithServices [⟨1, 1⟩, ⟨2, 1⟩]) () (hostFilter "me")
        (some (hostFilter "foo")) () (fun _ => .first) = (.returned (.ok ()), p₁)) ∧
      let p₂ := sampleLater.foldl (laterStep .accepting) p₁
      let p₃ := (unregisterListener .accepting p₂ () (hostFilter "me") (some (hostFilter "foo")) ()
        (fun _ => .first)).2
      (p₃.transports ()).pointToPointListener = some () ∧
      (∀ listener' moments, (registerPointToPointListener .accepting p₃ () listener' moments).1 =
        .returned (.error (.failWithCode .alreadyExists "We already have a point-to-point UListener registered"))) ∧
      ¬ PointToPointEnded .accepting p₂ p₃ () () := by
  obtain ⟨p₁, hreg⟩ := sampleWithServices_registers (by decide : [(⟨1, 1⟩ : ServiceConfig), ⟨2, 1⟩].Nodup) (by decide)
  exact ⟨p₁, hreg, pointToPoint_never_ends hostFilter_pointToPoint hostFilter_pointToPoint hreg sampleLater rfl⟩

/-- Nothing was sent in between: the listener stays nevertheless. -/
theorem pointToPoint_not_ended :
    ∃ p₁ res p₂, registerListener .accepting (sampleWithServices [⟨1, 1⟩]) () (hostFilter "me")
        (some (hostFilter "foo")) () (fun _ => .first) = (.returned (.ok ()), p₁) ∧
      unregisterListener .accepting p₁ () (hostFilter "me") (some (hostFilter "foo")) () (fun _ => .first) = (res, p₂) ∧
      ¬ PointToPointEnded .accepting p₁ p₂ () () := by
  obtain ⟨p₁, hreg⟩ := sampleWithServices_registers (List.nodup_singleton ⟨1, 1⟩) (by decide)
  cases hun : unregisterListener .accepting p₁ () (hostFilter "me") (some (hostFilter "foo")) () fun _ => .first with
  | mk res p₂ =>
  refine ⟨p₁, res, p₂, hreg, hun, fun hended => ?_⟩
  have hslot := (pointToPoint_kept hostFilter_pointToPoint hostFilter_pointToPoint hreg [] hun).2
  rw [hended.slot] at hslot
  cases hslot

end Process

end VsomeipTransport
