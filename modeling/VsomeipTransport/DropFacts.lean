/-
Dropping a transport gives everything back.

`drop` works out anew from the filters what each listener was registered as,
and would release nothing of one whose filters are those of a point-to-point
listener. There is none: what is bound is never of that type
(`PlainInvariant`). Plain listeners are checked when they are registered, the
filters for a service have a wildcard authority, and those for a response
are the filters of its request the other way round.

So each turn of the loop releases its listener, whatever the engine answers
(`unregisterListener_released`), and after the last one the map is empty
(`drop_gives_back`).
-/
import VsomeipTransport.Drop
import VsomeipTransport.PointToPointFacts

namespace VsomeipTransport

variable {T L : Type}

/-! ## What is bound is not point-to-point -/

/-- The filters are not those of a point-to-point listener. -/
def ListenerConfig.Plain (up : UpRust) (cfg : ListenerConfig L) : Prop :=
  determineType up cfg.sourceFilter cfg.sinkFilter ≠ .ok .allPointToPoint

/-- A service's configuration: its source filter is any. -/
theorem pointToPointConfig_plain {up : UpRust} (hany : up.hasWildcardAuthority up.any = true)
    (localAuthority : AuthorityName) (listener : L) (service : ServiceConfig) :
    (Process.pointToPointConfig up localAuthority listener service).Plain up := by
  intro hall
  obtain ⟨sink, -, hs⟩ := determineType_allPointToPoint.1 hall
  simp [Process.pointToPointConfig, streamerUseCase, hany] at hs

/-- The configuration for the response to a request. -/
theorem responseConfig_plain {up : UpRust} {cfg : ListenerConfig L} {source : UUri}
    (hsink : cfg.sinkFilter = some source) (ht : determineType up source (some cfg.sourceFilter) = .ok .request) :
    cfg.Plain up := by
  intro hall
  obtain ⟨_, he, hs⟩ := determineType_allPointToPoint.1 hall
  cases hsink.symm.trans he
  rw [streamerUseCase_comm] at hs
  rw [determineType_allPointToPoint.2 ⟨cfg.sourceFilter, rfl, hs⟩] at ht
  cases ht

namespace Process

variable {d : Deps} {p p' : Process T L} {t : T} {cfg : ListenerConfig L} {type : RegistrationType}

/-- The pool is in order, and nothing point-to-point is bound. -/
structure PlainInvariant (d : Deps) (p : Process T L) : Prop where
  pool : PoolInvariant p.handlers
  plain : ∀ {t id cfg}, p.handlers.Bound t id cfg → cfg.Plain d.up

theorem PlainInvariant.started (d : Deps) (configs : T → TransportConfig × ClientId) :
    PlainInvariant d (Process.started configs : Process T L) where
  pool := .new
  plain hb := absurd hb (MessageHandlers.unbound_new _ _ _)

/-- Nothing but the handlers counts. -/
theorem PlainInvariant.of_handlers (hI : PlainInvariant d p) (h : p'.handlers = p.handlers) : PlainInvariant d p' where
  pool := h ▸ hI.pool
  plain hb := hI.plain (h ▸ hb)

variable [DecidableEq T] [DecidableEq L]

theorem PlainInvariant.registerConfig (hI : PlainInvariant d p) (hplain : cfg.Plain d.up) {now : Moment} {r}
    (h : Process.registerConfig d p t cfg type now = (r, p')) : PlainInvariant d p' := by
  rcases registerConfig_cases hI.pool h with ⟨_, -, rfl⟩ | ⟨fn, maps, answer, engine, -, ha, hb, -, rfl⟩
  · exact hI
  · refine ⟨MessageHandlers.pool_of_binds hI.pool ha hb, fun {t' id' cfg'} hbound => ?_⟩
    rw [MessageHandlers.bound_of_binds hb] at hbound
    split at hbound
    · rw [hbound]; exact hplain
    · exact hI.plain hbound

omit [DecidableEq L] in
/-- A release takes bindings away only. -/
theorem PlainInvariant.release (hI : PlainInvariant d p) (t : T) (cfg : ListenerConfig L) (engine : Engine) :
    PlainInvariant d { p.setEngine t engine with handlers := (p.handlers.releaseMessageHandler t cfg).2 } := by
  cases hrel : p.handlers.releaseMessageHandler t cfg with
  | mk res handlers =>
  rcases MessageHandlers.releaseMessageHandler_pool hrel with ⟨id, maps, hb, hf, rfl⟩ | ⟨-, rfl⟩
  · refine ⟨MessageHandlers.pool_of_frees hI.pool hb hf, fun {t' id' cfg'} hbound => ?_⟩
    exact hI.plain ((MessageHandlers.bound_of_frees hf).1 hbound).2
  · exact hI.of_handlers rfl

omit [DecidableEq L] in
theorem PlainInvariant.unregisterConfig (hI : PlainInvariant d p) {inTime evenOnError : Bool} {r}
    (h : Process.unregisterConfig d p t cfg type inTime evenOnError = (r, p')) : PlainInvariant d p' := by
  obtain ⟨answer, engine, -, -, ⟨rfl, -⟩ | ⟨-, rfl⟩⟩ := unregisterConfig_cases h
  · exact hI.of_handlers rfl
  · exact hI.release t cfg engine

/-- An action that registers nothing point-to-point keeps it. -/
theorem PlainInvariant.step (hI : PlainInvariant d p) {a : Action T L}
    (ha : ∀ t cfg type now, a = .register t cfg type now → cfg.Plain d.up) :
    PlainInvariant d (Process.step d p a).1 := by
  cases a with
  | register t cfg type now => exact hI.registerConfig (ha t cfg type now rfl) Prod.mk.eta.symm
  | unregister t cfg type inTime evenOnError => exact hI.unregisterConfig Prod.mk.eta.symm
  | keepPointToPointListener t listener => exact hI.of_handlers rfl
  | send t umsg inTime => exact hI.of_handlers rfl
  | engineTurn t => exact hI.of_handlers rfl
  | applicationLost t => exact hI.of_handlers rfl

theorem PlainInvariant.reached (hI : PlainInvariant d p) {G : Action T L → Prop} (h : ReachesBy d G p p')
    (hG : ∀ t cfg type now, G (.register t cfg type now) → cfg.Plain d.up) : PlainInvariant d p' :=
  h.invariant (PlainInvariant d)
    (fun _ _ hq ha => hq.step fun t cfg type now he => hG t cfg type now (he ▸ ha)) hI

theorem PlainInvariant.registerListener (hany : d.up.hasWildcardAuthority d.up.any = true) (hI : PlainInvariant d p)
    (t : T) (src : UUri) (sink : Option UUri) (listener : L) (moments : ℕ → Moment) :
    PlainInvariant d (Process.registerListener d p t src sink listener moments).2 := by
  refine hI.reached (registerListener_reaches d p t src sink listener moments) fun t' cfg type now ha => ?_
  rcases ha with ⟨type', now', he, ht, hp⟩ | ⟨-, he | ⟨-, -, localAuthority, service, rfl⟩⟩
  · cases he
    intro hall
    exact hp (Except.ok.inj (ht.symm.trans hall))
  · cases he
  · exact pointToPointConfig_plain hany localAuthority listener service

theorem PlainInvariant.unregisterListener (hI : PlainInvariant d p) (t : T) (src : UUri) (sink : Option UUri)
    (listener : L) (moments : ℕ → Moment) :
    PlainInvariant d (Process.unregisterListener d p t src sink listener moments).2 :=
  hI.reached (unregisterListener_reaches d p t src sink listener moments) fun _ _ _ _ h => h.elim

theorem PlainInvariant.send (hI : PlainInvariant d p) (t : T) (message : UMessage) (moments : ℕ → Moment) :
    PlainInvariant d (Process.send d p t message moments).2 := by
  refine hI.reached (send_reaches d p t message moments) fun t' cfg type now ha => ?_
  obtain ⟨-, -, source, hsink, ht⟩ := ha
  exact responseConfig_plain hsink ht

theorem dropListeners_reaches (t : T) (cfgs : List (ListenerConfig L)) (p : Process T L) (moments : ℕ → ℕ → Moment) :
    ReachesBy d (Action.Unregisters t) p (dropListeners d t p cfgs moments).2 := by
  induction cfgs generalizing p moments with
  | nil => exact .refl
  | cons cfg cfgs ih =>
    have hone := unregisterListener_reaches d p t cfg.sourceFilter cfg.sinkFilter cfg.listener (moments 0)
    simp only [dropListeners]
    split
    · next h => rw [h] at hone; exact hone
    · next h => rw [h] at hone; exact hone.trans (ih _ _)

theorem PlainInvariant.dropListeners (hI : PlainInvariant d p) (t : T) (cfgs : List (ListenerConfig L))
    (moments : ℕ → ℕ → Moment) : PlainInvariant d (Process.dropListeners d t p cfgs moments).2 :=
  hI.reached (dropListeners_reaches t cfgs p moments) fun _ _ _ _ h => h.elim

omit [DecidableEq L] in
/-- After the loop, `drop` has at most a command to stop left. -/
theorem drop_cases (d : Deps) (p : Process T L) (t : T) (order : IterOrder MessageHandlerId)
    (moments : ℕ → ℕ → Moment) (inTime : Bool) :
    let p₁ := (dropListeners d t p (p.handlers.getAllListenerConfigs order t) moments).2
    (drop d p t order moments inTime).2 = p₁ ∨
      (drop d p t order moments inTime).2 = (p₁.ask d t .stopVsomeipApp inTime).2 := by
  intro p₁
  unfold drop
  split
  · next h => exact .inl (by simp only [p₁, h])
  · next h =>
    refine .inr ?_
    simp only [p₁, h]
    split
    · next hs => exact (congrArg Prod.snd hs).symm
    · next hs => exact (congrArg Prod.snd hs).symm

theorem PlainInvariant.drop (hI : PlainInvariant d p) (t : T) (order : IterOrder MessageHandlerId)
    (moments : ℕ → ℕ → Moment) (inTime : Bool) : PlainInvariant d (Process.drop d p t order moments inTime).2 := by
  have hloop := hI.dropListeners t (p.handlers.getAllListenerConfigs order t) moments
  rcases drop_cases d p t order moments inTime with h | h
  · rw [h]; exact hloop
  · rw [h]; exact hloop.of_handlers rfl

/-- Whatever happens, nothing point-to-point gets bound. -/
theorem PlainInvariant.call (hany : d.up.hasWildcardAuthority d.up.any = true) (hI : PlainInvariant d p)
    (call : Call T L) : PlainInvariant d (callStep d p call).1 := by
  cases call with
  | registerListener t src sink listener moments => exact hI.registerListener hany t src sink listener moments
  | unregisterListener t src sink listener moments => exact hI.unregisterListener t src sink listener moments
  | send t message moments => exact hI.send t message moments
  | drop t order moments inTime => exact hI.drop t order moments inTime
  | engineTurn t => exact hI.of_handlers rfl
  | applicationLost t => exact hI.of_handlers rfl

/-! ## One turn of the loop -/

omit [DecidableEq L] in
theorem releaseMessageHandler_other (h : MessageHandlers T L) {t t' : T} (ht : t' ≠ t) (cfg : ListenerConfig L) :
    (h.releaseMessageHandler t cfg).2.messageHandlerIdAndListenerConfig t' = h.messageHandlerIdAndListenerConfig t' := by
  simp [MessageHandlers.releaseMessageHandler, MessageHandlers.unlock, ht]

/-- Other transports are as they were. -/
def SameElsewhere (p p' : Process T L) (t : T) : Prop :=
  ∀ t', t' ≠ t → p'.transports t' = p.transports t' ∧
    p'.handlers.messageHandlerIdAndListenerConfig t' = p.handlers.messageHandlerIdAndListenerConfig t'

omit [DecidableEq L] in
/-- **A plain listener is released**, whatever the engine answers, and it
alone. -/
theorem unregisterListener_released (hplain : cfg.Plain d.up) (hrun : (p.transports t).engine.running = true)
    (moments : ℕ → Moment) :
    ∃ p', unregisterListener d p t cfg.sourceFilter cfg.sinkFilter cfg.listener moments = (.returned (.ok ()), p') ∧
      (∀ id cfg', p'.handlers.Bound t id cfg' → p.handlers.Bound t id cfg' ∧ cfg' ≠ cfg) ∧ SameElsewhere p p' t := by
  obtain ⟨type, ht⟩ := determineType_ok d.up cfg.sourceFilter cfg.sinkFilter
  have hp : type ≠ .allPointToPoint := fun he => hplain (he ▸ ht)
  refine ⟨_, unregisterListener_running cfg.listener moments ht hp hrun, fun id cfg' hbound => ?_,
    fun t' ht' => ⟨?_, ?_⟩⟩
  · cases hrel : p.handlers.releaseMessageHandler t cfg with
    | mk res handlers =>
    have hbound' : handlers.Bound t id cfg' := by simpa only [hrel] using hbound
    rcases MessageHandlers.releaseMessageHandler_pool hrel with ⟨id₀, maps, hb, hf, rfl⟩ | ⟨hno, rfl⟩
    · obtain ⟨hne, hold⟩ := (MessageHandlers.bound_of_frees hf).1 hbound'
      refine ⟨hold, fun he => hne ⟨rfl, ?_⟩⟩
      subst he
      exact BiMap.left_unique hold hb
    · exact ⟨hbound', fun he => hno id (he ▸ hbound')⟩
  · simp [ask, setEngine, setTransport, ht']
  · exact releaseMessageHandler_other _ ht' cfg

/-! ## The loop -/

omit [DecidableEq L] in
/-- **After the loop none of its listeners is bound**, and nothing changed
elsewhere. -/
theorem dropListeners_released (cfgs : List (ListenerConfig L)) (hplain : ∀ cfg ∈ cfgs, cfg.Plain d.up)
    (moments : ℕ → ℕ → Moment)
    (hrun : ∀ n, ((dropListeners d t p (cfgs.take n) moments).2.transports t).engine.running = true) :
    ∃ p', dropListeners d t p cfgs moments = (.returned (), p') ∧
      (∀ id cfg, p'.handlers.Bound t id cfg → p.handlers.Bound t id cfg ∧ cfg ∉ cfgs) ∧ SameElsewhere p p' t := by
  induction cfgs generalizing p moments with
  | nil => exact ⟨p, rfl, fun _ _ hb => ⟨hb, by simp⟩, fun _ _ => ⟨rfl, rfl⟩⟩
  | cons cfg cfgs ih =>
    have hrun₀ : (p.transports t).engine.running = true := hrun 0
    obtain ⟨p₁, hone, hgone, hsame⟩ := unregisterListener_released (hplain cfg (by simp)) hrun₀ (moments 0)
    have hrun₁ : ∀ n, ((dropListeners d t p₁ (cfgs.take n) fun i => moments (i + 1)).2.transports t).engine.running
        = true := by
      intro n
      have hn := hrun (n + 1)
      simp only [List.take_succ_cons, dropListeners, hone] at hn
      exact hn
    obtain ⟨p', hloop, hgone', hsame'⟩ := ih (fun c hc => hplain c (by simp [hc])) _ hrun₁
    refine ⟨p', by simp only [dropListeners, hone, hloop], fun id c hb => ?_, fun t' ht' => ?_⟩
    · obtain ⟨hb₁, hnot⟩ := hgone' id c hb
      obtain ⟨hb₀, hne⟩ := hgone id c hb₁
      exact ⟨hb₀, by simp [hne, hnot]⟩
    · obtain ⟨htransport, hmap⟩ := hsame' t' ht'
      obtain ⟨htransport₁, hmap₁⟩ := hsame t' ht'
      exact ⟨htransport.trans htransport₁, hmap.trans hmap₁⟩

omit [DecidableEq T] [DecidableEq L] in
/-- What is bound is among the configurations `drop` goes through. -/
theorem mem_getAllListenerConfigs {h : MessageHandlers T L} {order : IterOrder MessageHandlerId} :
    cfg ∈ h.getAllListenerConfigs order t ↔ ∃ id, h.Bound t id cfg := by
  simp only [MessageHandlers.getAllListenerConfigs, MessageHandlers.getMessageHandlerIds,
    MessageHandlers.getListenerConfigForMessageHandlerId, List.mem_filterMap, IterOrder.mem_toList]
  constructor
  · intro h
    obtain ⟨id, -, hb⟩ := h
    exact ⟨id, hb⟩
  · intro h
    obtain ⟨id, hb⟩ := h
    refine ⟨id, ?_, hb⟩
    rw [BiMap.mem_leftValues, hb]
    rfl

/-! ## Dropping -/

/-- The engine of `t` runs whenever `drop` sends it a command. -/
def EngineRuns (d : Deps) (p : Process T L) (t : T) (order : IterOrder MessageHandlerId) (moments : ℕ → ℕ → Moment) :
    Prop :=
  ∀ n, ((dropListeners d t p ((p.handlers.getAllListenerConfigs order t).take n) moments).2.transports t).engine.running
    = true

omit [DecidableEq L] in
/-- Unregistering leaves no command that could stop an engine. -/
theorem unregisterListener_survives (hplain : cfg.Plain d.up) (hs : (p.transports t).engine.Survives d)
    (moments : ℕ → Moment) :
    ((unregisterListener d p t cfg.sourceFilter cfg.sinkFilter cfg.listener moments).2.transports t).engine.Survives
      d := by
  obtain ⟨type, ht⟩ := determineType_ok d.up cfg.sourceFilter cfg.sinkFilter
  have hp : type ≠ .allPointToPoint := fun he => hplain (he ▸ ht)
  rw [unregisterListener_running cfg.listener moments ht hp hs.running]
  simp only [ask, setEngine_engine, if_true]
  exact hs.ask (by simp) Prod.mk.eta.symm

omit [DecidableEq L] in
/-- So an engine that survives its queue runs throughout. -/
theorem dropListeners_survives (cfgs : List (ListenerConfig L)) (hplain : ∀ cfg ∈ cfgs, cfg.Plain d.up)
    (moments : ℕ → ℕ → Moment) (hs : (p.transports t).engine.Survives d) :
    ((dropListeners d t p cfgs moments).2.transports t).engine.Survives d := by
  induction cfgs generalizing p moments with
  | nil => exact hs
  | cons cfg cfgs ih =>
    have hcfg := hplain cfg (by simp)
    have hone := unregisterListener_survives hcfg hs (moments 0)
    obtain ⟨p₁, hun, -⟩ := unregisterListener_released hcfg hs.running (moments 0)
    rw [hun] at hone
    simp only [dropListeners, hun]
    exact ih (fun c hc => hplain c (by simp [hc])) _ hone

omit [DecidableEq L] in
theorem PlainInvariant.engineRuns (hI : PlainInvariant d p) (hs : (p.transports t).engine.Survives d)
    (order : IterOrder MessageHandlerId) (moments : ℕ → ℕ → Moment) : EngineRuns d p t order moments := by
  intro n
  refine (dropListeners_survives _ (fun cfg hcfg => ?_) moments hs).running
  obtain ⟨id, hb⟩ := mem_getAllListenerConfigs.1 (List.mem_of_mem_take hcfg)
  exact hI.plain hb

/-- Everything of `t` was given back, and nothing of the others. -/
structure GivenBack (p p' : Process T L) (t : T) : Prop where
  free : ∀ id, id ∈ p'.handlers.freeMessageHandlerIds ↔
    id ∈ p.handlers.freeMessageHandlerIds ∨ ∃ cfg, p.handlers.Bound t id cfg
  unmapped : ∀ id cfg, p.handlers.Bound t id cfg → p'.handlers.messageHandlerIdToTransportStorage id = none
  empty : p'.handlers.messageHandlerIdAndListenerConfig t = BiMap.empty
  elsewhere : SameElsewhere p p' t
  storages : ∀ t', t' ≠ t → ∀ id, p'.handlers.messageHandlerIdToTransportStorage id = some t' ↔
    p.handlers.messageHandlerIdToTransportStorage id = some t'

omit [DecidableEq T] [DecidableEq L] in
/-- With the pool in order, it is enough that nothing is bound in `t` and
nothing changed elsewhere. -/
theorem GivenBack.of_unbound (hI : PoolInvariant p.handlers) (hI' : PoolInvariant p'.handlers)
    (hno : ∀ id cfg, ¬ p'.handlers.Bound t id cfg) (hsame : SameElsewhere p p' t) : GivenBack p p' t := by
  have hbound : ∀ t' id cfg, p'.handlers.Bound t' id cfg ↔ t' ≠ t ∧ p.handlers.Bound t' id cfg := by
    intro t' id cfg
    by_cases ht' : t' = t
    · subst ht'; simp [hno id cfg]
    · unfold MessageHandlers.Bound
      rw [(hsame t' ht').2]
      simp [ht']
  have hfree : ∀ id, id ∈ p'.handlers.freeMessageHandlerIds ↔
      id ∈ p.handlers.freeMessageHandlerIds ∨ ∃ cfg, p.handlers.Bound t id cfg := by
    intro id
    constructor
    · intro hf
      rcases (hI.ids id).1 ((hI'.ids id).2 (.inl hf)) with hold | ⟨t', cfg, hb⟩
      · exact .inl hold
      · by_cases ht' : t' = t
        · exact .inr ⟨cfg, ht' ▸ hb⟩
        · exact absurd hf (hI'.disjoint ((hbound t' id cfg).2 ⟨ht', hb⟩))
    · intro h
      have hlt : id < numMessageHandlers := (hI.ids id).2 (h.imp_right fun ⟨cfg, hb⟩ => ⟨t, cfg, hb⟩)
      rcases (hI'.ids id).1 hlt with hf | ⟨t', cfg, hb⟩
      · exact hf
      · obtain ⟨ht', hold⟩ := (hbound t' id cfg).1 hb
        rcases h with hf | ⟨cfg', hb'⟩
        · exact absurd hf (hI.disjoint hold)
        · exact absurd (hI.bound_once hold hb') ht'
  refine ⟨hfree, fun id cfg hb => hI'.free_unmapped ((hfree id).2 (.inr ⟨cfg, hb⟩)), ?_, hsame, fun t' ht' id => ?_⟩
  · ext id
    cases hl : (p'.handlers.messageHandlerIdAndListenerConfig t).getByLeft id with
    | none => rfl
    | some cfg => exact absurd hl (hno id cfg)
  · rw [hI'.storages, hI.storages]
    simp only [hbound, ne_eq, ht', not_false_eq_true, true_and]

theorem PlainInvariant.givenBack (hI : PlainInvariant d p) {order : IterOrder MessageHandlerId}
    {moments : ℕ → ℕ → Moment} (hrun : EngineRuns d p t order moments) (inTime : Bool) :
    ∃ p', Process.drop d p t order moments inTime = (.returned (), p') ∧ GivenBack p p' t := by
  have hcfgs : ∀ cfg ∈ p.handlers.getAllListenerConfigs order t, cfg.Plain d.up := by
    intro cfg hcfg
    obtain ⟨id, hb⟩ := mem_getAllListenerConfigs.1 hcfg
    exact hI.plain hb
  obtain ⟨p₁, hloop, hgone, hsame⟩ := dropListeners_released _ hcfgs moments hrun
  have hI₁ := hI.dropListeners t (p.handlers.getAllListenerConfigs order t) moments
  have hrun₁ := hrun (p.handlers.getAllListenerConfigs order t).length
  rw [List.take_length] at hrun₁
  rw [hloop] at hI₁ hrun₁
  obtain ⟨res, hstop⟩ := Engine.ask_running "stop_app" hrun₁
    (Prod.mk.eta (p := (p₁.transports t).engine.ask d .stopVsomeipApp inTime)).symm
  refine ⟨(p₁.ask d t .stopVsomeipApp inTime).2, ?_,
    .of_unbound hI.pool hI₁.pool (fun id cfg hb => ?_) fun t' ht' => ?_⟩
  · simp only [Process.drop, hloop, shutdownVsomeipApp, ask, hstop]
  · obtain ⟨hold, hnot⟩ := hgone id cfg hb
    exact hnot (mem_getAllListenerConfigs.2 ⟨id, hold⟩)
  · obtain ⟨htransport, hmap⟩ := hsame t' ht'
    refine ⟨?_, hmap⟩
    rw [← htransport]
    simp [ask, setEngine, setTransport, ht']

/-- **Dropping a transport gives everything back**, after any calls on any
transports, whatever the engine answers as long as it runs. -/
theorem drop_gives_back (hany : d.up.hasWildcardAuthority d.up.any = true)
    (configs : T → TransportConfig × ClientId) (calls : List (Call T L)) (p : Process T L)
    (hp : p = Runs.after (callStep d) (Process.started configs) calls) (t : T) (order : IterOrder MessageHandlerId)
    (moments : ℕ → ℕ → Moment) (inTime : Bool) (hrun : EngineRuns d p t order moments) :
    ∃ p', drop d p t order moments inTime = (.returned (), p') ∧ GivenBack p p' t := by
  have hI : PlainInvariant d p := by
    rw [hp]
    exact Runs.after_invariant (PlainInvariant d) (fun _ call hI => hI.call hany call) (.started d configs) calls
  exact hI.givenBack hrun inTime

/-- A registration alone is a run. -/
theorem registerListener_call (d : Deps) (p : Process T L) (t : T) (src : UUri) (sink : Option UUri) (listener : L)
    (moments : ℕ → Moment) : (registerListener d p t src sink listener moments).2 =
      Runs.after (callStep d) p [.registerListener t src sink listener moments] := rfl

/-- One listener is registered, then the transport is dropped. -/
theorem drop_gives_back_sample :
    let cfg : ListenerConfig Unit := ⟨⟨"foo", 1, 1, 10⟩, some ⟨"bar", 2, 1, 20⟩, ()⟩
    ∃ p p' : Process Unit Unit,
      registerListener .accepting sample () cfg.sourceFilter cfg.sinkFilter () (fun _ => .first) =
        (.returned (.ok ()), p) ∧
      p.handlers.Bound () 0 cfg ∧
      drop .accepting p () .least (fun _ _ => .first) true = (.returned (), p') ∧ GivenBack p p' () := by
  intro cfg
  have ht : determineType Deps.accepting.up cfg.sourceFilter cfg.sinkFilter = .ok .request := by
    simp [cfg, determineType, Deps.accepting, UpRust.accepting, streamerUseCase]
  obtain ⟨-, p, hreg, -, -, hbound, hidle, -⟩ := sample_registers cfg ht (by decide)
  have hany : Deps.accepting.up.hasWildcardAuthority Deps.accepting.up.any = true := by decide
  have hI : PlainInvariant .accepting p := by
    have hstarted : PlainInvariant .accepting (sample : Process Unit Unit) := .started .accepting sampleConfig
    have h := hstarted.registerListener hany () cfg.sourceFilter cfg.sinkFilter () (fun _ => .first)
    rw [hreg] at h
    exact h
  have hafter := registerListener_call .accepting (sample : Process Unit Unit) () cfg.sourceFilter cfg.sinkFilter ()
    fun _ => .first
  rw [hreg] at hafter
  obtain ⟨p', hdrop⟩ := drop_gives_back (d := .accepting) hany sampleConfig _ p hafter () .least (fun _ _ => .first) true
    (hI.engineRuns hidle.survives _ _)
  exact ⟨p, p', hreg, hbound, hdrop⟩

end Process

end VsomeipTransport
