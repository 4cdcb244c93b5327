/-
What a streamer gets for registering its one listener for point-to-point
messages: a handler for each service of the configuration file.

`ServicesRegistered` says what the loop over the services does when it comes to
its end; the entry of a service at vsomeip is the last one's with its service
id, as an entry names no instance. `streamer_receives_requests`: from then on
every request that reaches a service of the list is handed to the listener. What
unregistering takes back, and that it leaves the listener in its slot, is
`pointToPoint_round_trip`.
-/
import VsomeipTransport.DeliveryFacts
import VsomeipTransport.PointToPointFacts
import VsomeipTransport.UnregisterFacts

namespace VsomeipTransport

/-- Where the handler for a service stands: for any instance and any method. -/
def ServiceConfig.key (service : ServiceConfig) : HandlerKey := ⟨service.service, anyInstance, anyMethod⟩

theorem awaitEngine_ok {functionId : String} {answer : Engine.Answer}
    (h : awaitEngine functionId answer = .returned (.ok ())) : answer = .replied (.ok ()) := by
  cases answer with
  | replied res => cases h; rfl
  | stopped => cases h
  | dropped => cases h
  | timedOut => cases h

/-- An engine that answered a registration with `Ok` has nothing left to do. -/
theorem Engine.idle_of_registered {d : Deps} {e e' : Engine} {src : UUri} {sink : Option UUri}
    {type : RegistrationType} {fn : MessageHandlerFnPtr} {inTime : Bool}
    (hask : ask d e (.registerListener src sink type fn) inTime = (.replied (.ok ()), e')) : e'.Idle := by
  obtain ⟨key, -, hkeeps⟩ := Keeps.registered hask
  obtain ⟨app, happ, -⟩ := hkeeps.entry
  rcases ask_cases hask with ⟨-, ha, -⟩ | ⟨-, -, ha, -⟩ | ⟨-, -, ha, -⟩ | ⟨-, -, _, _, _, -, -, -, rfl⟩
  · cases ha
  · cases ha
  · cases ha
  · exact ⟨rfl, rfl, by rw [happ]; rfl⟩

namespace Process

variable {T L : Type} [DecidableEq T] [DecidableEq L] {d : Deps} {p p' : Process T L} {t : T} {listener : L}

omit [DecidableEq T] [DecidableEq L] in
/-- It is registered and unregistered under the same triple. -/
theorem serviceConfig_key (service : ServiceConfig) :
    registerKey .request (serviceConfig d p t listener service).sourceFilter
        (serviceConfig d p t listener service).sinkFilter = some service.key ∧
      unregisterKey .request (serviceConfig d p t listener service).sourceFilter
        (serviceConfig d p t listener service).sinkFilter = some service.key := by
  have hservice : (splitU32ToU16 (serviceUeId service)).2 = service.service := by
    show (splitU32ToU16 (createRequestId service.instanceId service.service)).2 = service.service
    rw [split_createRequestId]
  have hmethod : (splitU32ToU16 0xFFFF).2 = anyMethod := by decide
  have hboth : (⟨(splitU32ToU16 (serviceUeId service)).2, anyInstance, (splitU32ToU16 0xFFFF).2⟩ : HandlerKey) =
      service.key := by rw [hservice, hmethod]; rfl
  exact ⟨congrArg some hboth, congrArg some hboth⟩

/-! ## Registering the services -/

/-- An entry that a registration does not name stays. -/
theorem registerConfig_keeps {cfg : ListenerConfig L} {type : RegistrationType} {now : Moment} {r}
    {key : HandlerKey} {fn : MessageHandlerFnPtr} (h : registerConfig d p t cfg type now = (r, p'))
    (hkey : registerKey type cfg.sourceFilter cfg.sinkFilter ≠ some key) (hk : (p.transports t).engine.Keeps key fn) :
    (p'.transports t).engine.Keeps key fn := by
  unfold registerConfig at h
  split at h
  · cases h; exact hk
  · cases h; exact hk
  next msgHandler handlers _ =>
  simp only [ask, Prod.mk.injEq] at h
  obtain ⟨-, rfl⟩ := h
  have hcmd : (TransportCommand.registerListener cfg.sourceFilter cfg.sinkFilter type msgHandler).key ≠ some key := hkey
  rw [setEngine_engine, if_pos rfl]
  exact hk.ask hcmd Prod.mk.eta.symm

theorem registerServices_keeps (d : Deps) (listener : L) {key : HandlerKey} {fn : MessageHandlerFnPtr}
    (services : List ServiceConfig) (hother : ∀ service ∈ services, service.key ≠ key)
    (hk : (p.transports t).engine.Keeps key fn) (moments : ℕ → Moment) :
    ((registerServices d t listener p services moments).2.transports t).engine.Keeps key fn := by
  induction services generalizing p moments with
  | nil => exact hk
  | cons service services ih =>
    have hkey : registerKey .request (serviceConfig d p t listener service).sourceFilter
        (serviceConfig d p t listener service).sinkFilter ≠ some key := by
      rw [(serviceConfig_key service).1]
      exact fun he => hother service (by simp) (Option.some.inj he)
    simp only [registerServices]
    cases hreg : registerConfig d p t (serviceConfig d p t listener service) .request (moments 0) with
    | mk r p₁ =>
    have hk₁ := registerConfig_keeps hreg hkey hk
    simp only [serviceConfig] at hreg
    simp only [hreg]
    split
    · next hr => cases hr; exact hk₁
    · next hr => cases hr; exact hk₁
    · next hr =>
      cases hr
      split
      · exact hk₁
      · exact hk₁
      · exact ih (fun s hs => hother s (by simp [hs])) hk₁ _

/-- What registering the services does when it is answered with `Ok`. -/
structure ServicesRegistered (d : Deps) (p p' : Process T L) (t : T) (listener : L) (services : List ServiceConfig) :
    Prop where
  pool : PoolInvariant p'.handlers
  idle : services ≠ [] → (p'.transports t).engine.Idle
  distinct : services.Nodup
  unbound : ∀ service ∈ services, ∀ id, ¬ p.handlers.Bound t id (serviceConfig d p t listener service)
  bound : ∀ service ∈ services, ∃ id, p'.handlers.Bound t id (serviceConfig d p t listener service)
  others : ∀ t' id cfg, (t' = t → ∀ service ∈ services, cfg ≠ serviceConfig d p t listener service) →
    (p'.handlers.Bound t' id cfg ↔ p.handlers.Bound t' id cfg)
  used : p'.handlers.freeMessageHandlerIds.card + services.length = p.handlers.freeMessageHandlerIds.card
  entry : ∀ service ∈ services, ∃ last ∈ services, ∃ fn : MessageHandlerFnPtr, last.service = service.service ∧
    p'.handlers.Bound t fn.id (serviceConfig d p t listener last) ∧ (p'.transports t).engine.Keeps service.key fn

/-- **The loop over the services, when it comes to its end.** -/
theorem registerServices_ok (hI : PoolInvariant p.handlers) (services : List ServiceConfig) {moments : ℕ → Moment}
    (h : registerServices d t listener p services moments = (.returned (.ok ()), p')) :
    ServicesRegistered d p p' t listener services := by
  induction services generalizing p moments with
  | nil =>
    cases h
    exact ⟨hI, by simp, List.nodup_nil, by simp, by simp, by simp, by simp, by simp⟩
  | cons service services ih =>
    simp only [registerServices] at h
    cases hreg : registerConfig d p t (serviceConfig d p t listener service) .request (moments 0) with
    | mk r p₁ =>
    have hreg' := hreg
    simp only [serviceConfig] at hreg'
    simp only [hreg'] at h
    split at h
    · cases h
    · cases h
    next answer p₁' hr =>
    cases hr
    split at h
    · cases h
    · cases h
    next hok =>
    obtain rfl := awaitEngine_ok hok
    obtain ⟨e, he, -⟩ | ⟨fn, maps, answer, engine, he, ha, hb, hask, rfl⟩ := registerConfig_cases hI hreg
    · cases he
    cases he
    -- The rest starts where the first one is bound.
    have hfree : fn.id ∈ p.handlers.freeMessageHandlerIds := (moments 0).order.next_mem ha.picked
    have hcfg : ∀ s, serviceConfig d { p.setEngine t engine with handlers := p.handlers.unlock t maps } t listener s =
        serviceConfig d p t listener s := fun s => serviceConfig_kept (congrFun (setEngine_kept p t engine) t) s
    have hrest := ih (MessageHandlers.pool_of_binds hI ha hb) h
    have hne : ∀ s ∈ services, s ≠ service := by
      rintro s hs rfl
      refine hrest.unbound s hs fn.id ?_
      rw [hcfg]
      exact (MessageHandlers.bound_of_binds hb).2 (by simp)
    have hcfgs : ∀ s ∈ services, serviceConfig d p t listener service ≠ serviceConfig d p t listener s :=
      fun s hs he => hne s hs (serviceConfig_inj he).symm
    have hbound : p'.handlers.Bound t fn.id (serviceConfig d p t listener service) := by
      refine (hrest.others t fn.id _ fun _ s hs => ?_).2 ((MessageHandlers.bound_of_binds hb).2 (by simp))
      rw [hcfg]
      exact hcfgs s hs
    have hcard : (p.handlers.unlock t maps).freeMessageHandlerIds.card + 1 = p.handlers.freeMessageHandlerIds.card := by
      show maps.freeMessageHandlerIds.card + 1 = _
      rw [hb.free]
      exact Finset.card_erase_add_one hfree
    have hthere : (({ p.setEngine t engine with handlers := p.handlers.unlock t maps } :
        Process T L).transports t).engine = engine := by
      show ((p.setEngine t engine).transports t).engine = engine
      rw [setEngine_engine, if_pos rfl]
    refine ⟨hrest.pool, fun _ => ?_, ?_, ?_, ?_, ?_, ?_, ?_⟩
    · cases services with
      | nil =>
        cases h
        rw [hthere]
        exact Engine.idle_of_registered hask
      | cons s services => exact hrest.idle (by simp)
    · exact List.nodup_cons.2 ⟨fun hs => hne service hs rfl, hrest.distinct⟩
    · intro s hs id hid
      rcases List.mem_cons.1 hs with rfl | hs
      · exact MessageHandlers.unbound_of_available ha hid
      · have hun := hrest.unbound s hs
        rw [hcfg] at hun
        exact ((unbound_after_iff hI hfree hb).1 hun).1 id hid
    · intro s hs
      rcases List.mem_cons.1 hs with rfl | hs
      · exact ⟨fn.id, hbound⟩
      · have := hrest.bound s hs
        rwa [hcfg] at this
    · intro t' id cfg hother
      have hothers := hrest.others t' id cfg fun ht s hs => by
        rw [hcfg]
        exact hother ht s (by simp [hs])
      rw [hothers, MessageHandlers.bound_of_binds hb]
      split
      · next hthis =>
        obtain ⟨rfl, rfl⟩ := hthis
        constructor
        · intro he
          exact absurd he (hother rfl service (by simp))
        · intro hid
          exact absurd hfree (hI.disjoint hid)
      · exact Iff.rfl
    · have hused := hrest.used
      rw [List.length_cons]
      show _ = p.handlers.freeMessageHandlerIds.card
      have hhere : ({ p.setEngine t engine with handlers := p.handlers.unlock t maps } : Process T L).handlers =
          p.handlers.unlock t maps := rfl
      rw [hhere] at hused
      omega
    · -- The entry of the first is its own, if no other takes it.
      have hentry : ∀ s ∈ services, ∃ last ∈ service :: services, ∃ fn : MessageHandlerFnPtr,
          last.service = s.service ∧ p'.handlers.Bound t fn.id (serviceConfig d p t listener last) ∧
          (p'.transports t).engine.Keeps s.key fn := by
        intro s hs
        obtain ⟨last, hlast, fn', hservice, hbound', hkeeps⟩ := hrest.entry s hs
        rw [hcfg] at hbound'
        exact ⟨last, by simp [hlast], fn', hservice, hbound', hkeeps⟩
      intro s hs
      rcases List.mem_cons.1 hs with rfl | hs
      · by_cases htaken : ∃ s' ∈ services, s'.service = s.service
        · obtain ⟨s', hs', hsame⟩ := htaken
          have hkey : s'.key = s.key := by rw [ServiceConfig.key, ServiceConfig.key, hsame]
          obtain ⟨last, hlast, fn', hservice, hbound', hkeeps⟩ := hentry s' hs'
          exact ⟨last, hlast, fn', hservice.trans hsame, hbound', hkey ▸ hkeeps⟩
        · obtain ⟨key, hk, hkeeps⟩ := Engine.Keeps.registered hask
          rw [(serviceConfig_key s).1] at hk
          cases hk
          have hlater : ∀ s' ∈ services, s'.key ≠ s.key := by
            intro s' hs' he
            exact htaken ⟨s', hs', congrArg HandlerKey.service he⟩
          have hafter := registerServices_keeps d listener services hlater (hthere.symm ▸ hkeeps) fun i => moments (i + 1)
          rw [h] at hafter
          exact ⟨s, by simp, fn, rfl, hbound, hafter⟩
      · exact hentry s hs

/-! ## Unregistering them -/

omit [DecidableEq T] [DecidableEq L] in
theorem serviceConfig_type (hany : d.up.hasWildcardAuthority d.up.any = true) (service : ServiceConfig) :
    determineType d.up (serviceConfig d p t listener service).sourceFilter
      (serviceConfig d p t listener service).sinkFilter = .ok .request := by
  have hstreamer : streamerUseCase d.up d.up.any (anyUuriFixedAuthorityId (p.transports t).getLocalAuthority
      (serviceUeId service)) = false := by simp [streamerUseCase, hany]
  have hresource : (anyUuriFixedAuthorityId (p.transports t).getLocalAuthority (serviceUeId service)).resourceId ≠ 0 := by
    show (0xFFFF : UInt32) ≠ 0
    decide
  simp only [determineType, serviceConfig, pointToPointConfig, hstreamer, Bool.false_eq_true, if_false,
    if_neg hresource]

omit [DecidableEq L] in
/-- An idle engine unregisters what it is asked to, and the handler is
released. -/
theorem unregisterConfig_idle {cfg : ListenerConfig L} {type : RegistrationType} {key : HandlerKey}
    (hidle : (p.transports t).engine.Idle) (hkey : unregisterKey type cfg.sourceFilter cfg.sinkFilter = some key)
    (evenOnError : Bool) :
    unregisterConfig d p t cfg type true evenOnError = (.returned (.ok ()),
      { p.setEngine t ⟨(processCommand d (p.transports t).engine.state
          (.unregisterListener cfg.sourceFilter cfg.sinkFilter type)).2, true, []⟩ with
        handlers := (p.handlers.releaseMessageHandler t cfg).2 }) := by
  obtain ⟨res, hres, hask⟩ := Engine.ask_idle d (.unregisterListener cfg.sourceFilter cfg.sinkFilter type)
    hidle.running hidle.queue (by simp)
  obtain rfl : res = .ok () := (processCommand_unregister (Prod.ext hres rfl)).2 ⟨hidle.application, key, hkey⟩
  simp only [unregisterConfig, ask, hask, awaitEngine]
  rfl

/-- Nothing is registered under the triple. -/
def SilentAt (p : Process T L) (t : T) (key : HandlerKey) : Prop :=
  ∀ app, (p.transports t).engine.state.application = some app → app.handlers key = none

/-- What unregistering the services does when every command is answered. -/
structure ServicesUnregistered (d : Deps) (p p' : Process T L) (t : T) (listener : L)
    (services : List ServiceConfig) : Prop where
  pool : PoolInvariant p'.handlers
  bound_iff : ∀ t' id cfg, p'.handlers.Bound t' id cfg ↔ p.handlers.Bound t' id cfg ∧
    ¬ (t' = t ∧ ∃ service ∈ services, cfg = serviceConfig d p t listener service)
  silent : ∀ key, (p.SilentAt t key ∨ ∃ service ∈ services, service.key = key) → p'.SilentAt t key

omit [DecidableEq L] in
/-- An unregistration silences its triple and no other speaks up. -/
theorem silentAt_unregistered {src : UUri} {sink : Option UUri} {type : RegistrationType} {key key' : HandlerKey}
    (hkey : unregisterKey type src sink = some key) (h : p.SilentAt t key' ∨ key = key')
    {handlers : MessageHandlers T L} :
    SilentAt { p.setEngine t ⟨(processCommand d (p.transports t).engine.state (.unregisterListener src sink type)).2,
      true, []⟩ with handlers := handlers } t key' := by
  intro app happ
  have hthere : ((p.setEngine t ⟨(processCommand d (p.transports t).engine.state
      (.unregisterListener src sink type)).2, true, []⟩).transports t).engine.state.application = some app := happ
  rw [setEngine_engine, if_pos rfl] at hthere
  cases hfn : app.handlers key' with
  | none => rfl
  | some fn =>
    rcases processCommand_entry hthere hfn with ⟨_, _, _, hc, -⟩ | ⟨app₀, happ₀, hold, hne⟩
    · cases hc
    rcases h with h | rfl
    · rw [h app₀ happ₀] at hold
      cases hold
    · exact absurd hkey hne

/-- **Unregistering the services takes all of it back**, if every command is
answered. -/
theorem unregisterServices_idle (hany : d.up.hasWildcardAuthority d.up.any = true) (hI : PoolInvariant p.handlers)
    (services : List ServiceConfig) (hidle : services ≠ [] → (p.transports t).engine.Idle) {moments : ℕ → Moment}
    (htime : ∀ i, (moments i).inTime = true) :
    ∃ p', unregisterServices d t listener p services moments = (.returned (.ok ()), p') ∧
      ServicesUnregistered d p p' t listener services := by
  induction services generalizing p moments with
  | nil => exact ⟨p, rfl, hI, by simp, by simp⟩
  | cons service services ih =>
    have hidle : (p.transports t).engine.Idle := hidle (by simp)
    have hkey : unregisterKey .request (serviceConfig d p t listener service).sourceFilter
        (serviceConfig d p t listener service).sinkFilter = some service.key := (serviceConfig_key service).2
    have hone := unregisterConfig_idle (d := d) hidle hkey false
    have htype : determineType d.up (serviceConfig d p t listener service).sourceFilter
        (serviceConfig d p t listener service).sinkFilter = .ok .request := serviceConfig_type hany service
    generalize hp₁ : ({ p.setEngine t ⟨(processCommand d (p.transports t).engine.state
      (.unregisterListener (serviceConfig d p t listener service).sourceFilter
        (serviceConfig d p t listener service).sinkFilter .request)).2, true, []⟩ with
      handlers := (p.handlers.releaseMessageHandler t (serviceConfig d p t listener service)).2 } : Process T L) = p₁
      at hone
    have hcfg : ∀ s, serviceConfig d p₁ t listener s = serviceConfig d p t listener s := by
      intro s
      rw [← hp₁]
      exact serviceConfig_kept (congrFun (setEngine_kept p t _) t) s
    have hidle₁ : (p₁.transports t).engine.Idle := by
      rw [← hp₁]
      show ((p.setEngine t _).transports t).engine.Idle
      rw [setEngine_engine, if_pos rfl]
      exact hidle.processed _
    have hI₁ : PoolInvariant p₁.handlers := by
      rw [← hp₁]
      show PoolInvariant (handlerStep d.up p.handlers (.release t (serviceConfig d p t listener service))).1
      exact hI.step _
    have hbound₁ : ∀ t' id cfg, p₁.handlers.Bound t' id cfg ↔ p.handlers.Bound t' id cfg ∧
        ¬ (t' = t ∧ cfg = serviceConfig d p t listener service) := by
      intro t' id cfg
      rw [← hp₁]
      exact bound_release p.handlers t _
    obtain ⟨p', hloop, hrest⟩ := ih hI₁ (fun _ => hidle₁) fun i => htime (i + 1)
    refine ⟨p', ?_, hrest.pool, fun t' id cfg => ?_, fun key hk => hrest.silent key ?_⟩
    · simp only [unregisterServices]
      simp only [serviceConfig] at htype hone
      rw [htype]
      simp only [htime 0, hone]
      exact hloop
    · have hiff := hrest.bound_iff t' id cfg
      simp only [hcfg] at hiff
      rw [hiff, hbound₁]
      simp only [List.mem_cons, exists_eq_or_imp]
      constructor
      · intro hgiven
        obtain ⟨⟨hb, hone⟩, hothers⟩ := hgiven
        refine ⟨hb, fun hgone => ?_⟩
        obtain ⟨ht, he | hs⟩ := hgone
        · exact hone ⟨ht, he⟩
        · exact hothers ⟨ht, hs⟩
      · intro hgiven
        obtain ⟨hb, hnone⟩ := hgiven
        exact ⟨⟨hb, fun hone => hnone ⟨hone.1, .inl hone.2⟩⟩, fun hothers => hnone ⟨hothers.1, .inr hothers.2⟩⟩
    · have hsilent : (p.SilentAt t key ∨ service.key = key) → p₁.SilentAt t key := by
        intro h
        rw [← hp₁]
        exact silentAt_unregistered hkey h
      rcases hk with hk | ⟨s, hs, hsk⟩
      · exact .inl (hsilent (.inl hk))
      rcases List.mem_cons.1 hs with rfl | hs
      · exact .inl (hsilent (.inr hsk))
      · exact .inr ⟨s, hs, hsk⟩

/-! ## The public operations -/

omit [DecidableEq T] [DecidableEq L] in
/-- What is bound decides what is free. -/
theorem free_eq_of_bound_iff {h h' : MessageHandlers T L} (hI : PoolInvariant h) (hI' : PoolInvariant h')
    (hb : ∀ t id cfg, h'.Bound t id cfg ↔ h.Bound t id cfg) : h'.freeMessageHandlerIds = h.freeMessageHandlerIds := by
  ext id
  have hids := hI.ids id
  have hids' := hI'.ids id
  simp only [hb] at hids'
  constructor
  · intro hfree
    refine (hids.1 (hids'.2 (.inl hfree))).resolve_right fun hgiven => ?_
    obtain ⟨t, cfg, hbound⟩ := hgiven
    exact hI'.disjoint ((hb t id cfg).2 hbound) hfree
  · intro hfree
    refine (hids'.1 (hids.2 (.inl hfree))).resolve_right fun hgiven => ?_
    obtain ⟨t, cfg, hbound⟩ := hgiven
    exact hI.disjoint hbound hfree

/-- A registration for point-to-point messages that succeeds is one of every
service. -/
theorem registerListener_services (hI : PoolInvariant p.handlers) {src : UUri} {sink : Option UUri}
    {moments : ℕ → Moment} (hall : determineType d.up src sink = .ok .allPointToPoint)
    (hreg : registerListener d p t src sink listener moments = (.returned (.ok ()), p')) :
    ∃ services, (p.transports t).config.services = some (.ok services) ∧
      ServicesRegistered d p p' t listener services ∧
      p'.kept t = ((p.transports t).config, some listener) := by
  rw [registerListener_pointToPoint hall] at hreg
  have hcall := hreg
  unfold registerPointToPointListener at hcall
  split at hcall
  · cases hcall
  · cases hcall
  next services hservices =>
  split at hcall
  · cases hcall
  next hslot =>
  rw [registerPointToPointListener_loop listener moments hservices hslot] at hreg
  have hI' : PoolInvariant (p.withListener t listener).handlers := hI
  have hcfg : ∀ service, serviceConfig d (p.withListener t listener) t listener service =
      serviceConfig d p t listener service := by
    intro service
    simp only [serviceConfig, UPTransportVsomeip.getLocalAuthority, withListener_self]
  have hloop := registerServices_ok hI' services hreg
  have hkept := congrFun (registerServices_kept (d := d) t listener services (p.withListener t listener) moments) t
  rw [hreg] at hkept
  refine ⟨services, hservices, ⟨hloop.pool, hloop.idle, hloop.distinct, ?_, ?_, ?_, hloop.used, ?_⟩, ?_⟩
  · have hunbound := hloop.unbound
    simp only [hcfg] at hunbound
    exact hunbound
  · simpa only [hcfg] using hloop.bound
  · have hothers := hloop.others
    simp only [hcfg] at hothers
    exact hothers
  · simpa only [hcfg] using hloop.entry
  · rw [hkept]
    simp only [kept, withListener_self]

/-- **Unregistering gives back what registering for point-to-point messages
took**: once every command was answered, the handlers of all transports are
bound as before, the pool is what it was, and vsomeip has no handler for any of
the services. Only the listener stays in its slot. -/
theorem pointToPoint_round_trip (hany : d.up.hasWildcardAuthority d.up.any = true) (hr : p.handlers.Reachable d.up)
    {src src' : UUri} {sink sink' : Option UUri} (hall : determineType d.up src sink = .ok .allPointToPoint)
    (hall' : determineType d.up src' sink' = .ok .allPointToPoint) {moments moments' : ℕ → Moment}
    (hreg : registerListener d p t src sink listener moments = (.returned (.ok ()), p'))
    (htime : ∀ i, (moments' i).inTime = true) (listener' : L) :
    ∃ p'', unregisterListener d p' t src' sink' listener' moments' = (.returned (.ok ()), p'') ∧
      (∀ t' id cfg, p''.handlers.Bound t' id cfg ↔ p.handlers.Bound t' id cfg) ∧
      p''.handlers.freeMessageHandlerIds = p.handlers.freeMessageHandlerIds ∧
      (∀ services, (p.transports t).config.services = some (.ok services) →
        ∀ service ∈ services, p''.SilentAt t service.key) ∧
      (p''.transports t).pointToPointListener = some listener := by
  obtain ⟨services, hservices, hregistered, hkept⟩ := registerListener_services hr.pool hall hreg
  obtain ⟨hconfig, hslot⟩ := Prod.mk.inj hkept
  obtain ⟨p'', hloop, hgone⟩ : ∃ p'', unregisterServices d t listener p' services moments' = (.returned (.ok ()), p'') ∧
      ServicesUnregistered d p' p'' t listener services :=
    unregisterServices_idle hany hregistered.pool services hregistered.idle htime
  have hcfg : ∀ service, serviceConfig d p' t listener service = serviceConfig d p t listener service := by
    intro service
    simp only [serviceConfig, UPTransportVsomeip.getLocalAuthority, hconfig]
  have hbound : ∀ t' id cfg, p''.handlers.Bound t' id cfg ↔ p.handlers.Bound t' id cfg := by
    intro t' id cfg
    rw [hgone.bound_iff]
    simp only [hcfg]
    by_cases hthis : t' = t ∧ ∃ service ∈ services, cfg = serviceConfig d p t listener service
    · obtain ⟨rfl, service, hs, rfl⟩ := hthis
      constructor
      · intro hgiven
        exact absurd ⟨rfl, service, hs, rfl⟩ hgiven.2
      · intro hbefore
        exact absurd hbefore (hregistered.unbound service hs id)
    · rw [hregistered.others t' id cfg fun ht service hs he => hthis ⟨ht, service, hs, he⟩]
      exact and_iff_left hthis
  have hun : unregisterListener d p' t src' sink' listener' moments' = (.returned (.ok ()), p'') := by
    rw [unregisterListener_pointToPoint hall']
    simp only [unregisterPointToPointListener, hslot, hconfig, hservices]
    exact hloop
  have hstays : (p''.transports t).pointToPointListener = some listener := by
    have hkept' := congrFun (unregisterListener_kept d p' t src' sink' listener' moments') t
    rw [hun] at hkept'
    exact (congrArg Prod.snd hkept').trans hslot
  refine ⟨p'', hun, hbound, free_eq_of_bound_iff hr.pool hgone.pool hbound, fun services' hservices' => ?_, hstays⟩
  rw [hservices] at hservices'
  cases hservices'
  exact fun service hs => hgone.silent _ (.inr ⟨service, hs, rfl⟩)

theorem pointToPoint_round_trip_sample : ∃ p' p'',
    registerListener .accepting (sampleWithServices [⟨1, 1⟩, ⟨2, 1⟩]) () (hostFilter "me") (some (hostFilter "foo")) ()
      (fun _ => .first) = (.returned (.ok ()), p') ∧
    unregisterListener .accepting p' () (hostFilter "me") (some (hostFilter "foo")) () (fun _ => .first) =
      (.returned (.ok ()), p'') ∧
    p''.handlers.freeMessageHandlerIds = Finset.range numMessageHandlers ∧
    p''.SilentAt () ⟨1, anyInstance, anyMethod⟩ ∧ p''.SilentAt () ⟨2, anyInstance, anyMethod⟩ ∧
    (p''.transports ()).pointToPointListener = some () := by
  obtain ⟨p', hreg⟩ := sampleWithServices_registers (by decide : [(⟨1, 1⟩ : ServiceConfig), ⟨2, 1⟩].Nodup) (by decide)
  have hr : (sampleWithServices [⟨1, 1⟩, ⟨2, 1⟩]).handlers.Reachable UpRust.accepting := ⟨[], rfl⟩
  have hprompt : ∀ _ : ℕ, Moment.first.inTime = true := fun _ => rfl
  obtain ⟨p'', hun, -, hfree, hsilent, hslot⟩ := pointToPoint_round_trip rfl hr hostFilter_pointToPoint
    hostFilter_pointToPoint hreg hprompt ()
  have hsilent := hsilent [⟨1, 1⟩, ⟨2, 1⟩] rfl
  exact ⟨p', p'', hreg, hun, hfree, hsilent ⟨1, 1⟩ (by simp), hsilent ⟨2, 1⟩ (by simp), hslot⟩

/-- **A streamer gets every request for a service it is configured for.** A
`send` that answers `Ok` gives vsomeip the request; at a transport that has
registered a listener for point-to-point messages before, the service has a
handler of this listener, the request gets there, and is handed over with its
payload if and only if it converts. -/
theorem streamer_receives_requests {T' L' : Type} [DecidableEq T'] [DecidableEq L'] (hrt : d.rt.MakesRequests)
    (hcarries : d.up.Carries) {q q' : Process T' L'} {u : T'} {umsg : UMessage} {moments : ℕ → Moment}
    (hsend : send d q u umsg moments = (.returned (.ok ()), q')) {named : UUri}
    (haddr : umsg.addressed = some (.request, named)) (hr : p.handlers.Reachable d.up) {src : UUri} {sink : Option UUri}
    {moments' : ℕ → Moment} (hall : determineType d.up src sink = .ok .allPointToPoint)
    (hreg : registerListener d p t src sink listener moments' = (.returned (.ok ()), p'))
    {services : List ServiceConfig} (hservices : (p.transports t).config.services = some (.ok services))
    {service : ServiceConfig} (hs : service ∈ services) (hnamed : (splitU32ToU16 named.ueId).2 = service.service) :
    ∃ sender call calls, (q'.transports u).engine.state.application = some sender ∧ sender.calls = call :: calls ∧
      ∀ m, call.Arrives m → m.instanceId = call.instanceId →
        ∃ (app : VsomeipApplication) (fn : MessageHandlerFnPtr) (cfg : ListenerConfig L),
          (p'.transports t).engine.state.application = some app ∧ app.handlers service.key = some fn ∧
          service.key.Admits m ∧ p'.handlers.Bound t fn.id cfg ∧ cfg.listener = listener ∧
          ∀ id others, HandlerOp.release t cfg ∉ others.all →
            (p'.Convertible d t ⟨fn.id, m, id⟩ ↔ ∃ umsg' p'',
              callSharedExternFn d p' ⟨fn.id, m, id⟩ others = (.handedOver listener umsg', p'') ∧
              umsg'.payload = some (setDataSafe umsg.bytes)) := by
  obtain ⟨s, app₀, sender, rpc, offered, hsent, hsender⟩ := send_ok hsend
  obtain ⟨call, calls, hcalls, harrival⟩ := sendInternal_handsOver hrt haddr hsent
  refine ⟨sender, call, calls, hsender, hcalls, fun m harrives hinst => ?_⟩
  obtain ⟨hnames, hpayload⟩ := harrival m harrives hinst
  obtain ⟨services', hservices', hregistered, -⟩ := registerListener_services hr.pool hall hreg
  rw [hservices] at hservices'
  cases hservices'
  obtain ⟨last, -, fn, -, hbound, hkeeps⟩ := hregistered.entry service hs
  obtain ⟨app, happ, hfn⟩ := hkeeps.entry
  have hadmits : service.key.Admits m := ⟨.inl (hnamed.symm.trans hnames.service.symm), .inr rfl, .inr rfl⟩
  refine ⟨app, fn, _, happ, hfn, hadmits, hbound, rfl, fun id others hothers => ?_⟩
  have hover := handedOver_iff (m := m) hcarries hregistered.pool hbound hothers id
  rwa [hpayload] at hover

theorem streamer_receives_requests_sample : ∃ (q p : Process Unit Unit) (sender app : VsomeipApplication)
    (call : VsomeipCall) (calls : List VsomeipCall) (fn : MessageHandlerFnPtr),
    send .accepting (sample : Process Unit Unit) () sampleCall (fun _ => .first) = (.returned (.ok ()), q) ∧
    registerListener .accepting (sampleWithServices [⟨1, 1⟩]) () (hostFilter "me") (some (hostFilter "foo")) ()
      (fun _ => .first) = (.returned (.ok ()), p) ∧
    (q.transports ()).engine.state.application = some sender ∧ sender.calls = call :: calls ∧
    (p.transports ()).engine.state.application = some app ∧ app.handlers ⟨1, anyInstance, anyMethod⟩ = some fn ∧
    ∃ m, call.Arrives m ∧ ∀ id, p.Convertible .accepting () ⟨fn.id, m, id⟩ ↔ ∃ umsg p',
      callSharedExternFn .accepting p ⟨fn.id, m, id⟩ .none = (.handedOver () umsg, p') ∧
      umsg.payload = some [1, 2] := by
  have hsend : send .accepting (sample : Process Unit Unit) () sampleCall (fun _ => .first) =
      (.returned (.ok ()), _) := rfl
  have haddr : sampleCall.addressed = some (.request, ⟨"foo", 0x20001, 3, 1⟩) := rfl
  have hrt : Deps.accepting.rt.MakesRequests := rfl
  have hr : (sampleWithServices [⟨1, 1⟩]).handlers.Reachable UpRust.accepting := ⟨[], rfl⟩
  have hservices : ((sampleWithServices [⟨1, 1⟩]).transports ()).config.services = some (.ok [⟨1, 1⟩]) := rfl
  obtain ⟨p, hreg⟩ := sampleWithServices_registers (List.nodup_singleton ⟨1, 1⟩) (by decide)
  obtain ⟨sender, call, calls, hsender, hcalls, harrival⟩ := streamer_receives_requests hrt UpRust.accepting_carries
    hsend haddr hr hostFilter_pointToPoint hreg hservices (List.mem_singleton.2 rfl) (by decide)
  obtain rfl : call = .send { callOnWire with client := 0x123 } := by
    cases hsender
    exact (List.cons.inj hcalls).1.symm
  have harrives : VsomeipCall.Arrives (.send { callOnWire with client := 0x123 }) callOnWire :=
    .send rfl rfl rfl rfl rfl
  obtain ⟨app, fn, cfg, happ, hfn, -, -, -, hover⟩ := harrival callOnWire harrives rfl
  refine ⟨_, p, sender, app, _, calls, fn, hsend, hreg, hsender, hcalls, happ, hfn, callOnWire, harrives, fun id => ?_⟩
  exact hover id .none (by simp [Interference.none, Interference.all])

end Process

end VsomeipTransport
