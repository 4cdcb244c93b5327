/-
Whether unregistering undoes registering at vsomeip.

Registering puts a handler under `registerKey`, unregistering takes away
what is under `removalKey`: the sink filter's triple with any instance, or
the source filter's if there is no sink filter. The two agree for requests,
for responses whose filters agree in the halves a triple is made of, and
never for published messages (`registerKey_removed`).

Along runs in which an id is only taken by registrations for which they agree,
and a plain unregistration that gives it back is answered in time, the id has
no entry in any table of vsomeip when it is given back
(`unregistered_id_cleared`), whatever becomes of the other ids.
-/
import VsomeipTransport.HandlerTable
import VsomeipTransport.TransportRuns

namespace VsomeipTransport

/-- The triple unregistering takes away. -/
def removalKey (src : UUri) (sink : Option UUri) : HandlerKey :=
  let filter := sink.getD src
  ⟨(splitU32ToU16 filter.ueId).2, anyInstance, (splitU32ToU16 filter.resourceId).2⟩

theorem unregisterKey_determined {up : UpRust} {src : UUri} {sink : Option UUri} {type : RegistrationType}
    {key : HandlerKey} (ht : determineType up src sink = .ok type) (hk : unregisterKey type src sink = some key) :
    key = removalKey src sink := by
  cases sink with
  | none =>
    simp only [determineType, Except.ok.injEq] at ht
    subst ht
    simpa [unregisterKey, removalKey, eq_comm] using hk
  | some sink =>
    cases type with
    | publish => cases determineType_publish.1 ht
    | request => simpa [unregisterKey, removalKey, eq_comm] using hk
    | response => simpa [unregisterKey, removalKey, eq_comm] using hk
    | allPointToPoint => simp [unregisterKey] at hk

/-- Filters of a registrable type have a triple to unregister. -/
theorem unregisterKey_registrable {up : UpRust} {src : UUri} {sink : Option UUri} {type : RegistrationType}
    (ht : determineType up src sink = .ok type) (hp : type ≠ .allPointToPoint) :
    unregisterKey type src sink = some (removalKey src sink) := by
  have hsome : ∃ key, unregisterKey type src sink = some key := by
    cases sink with
    | none =>
      simp only [determineType, Except.ok.injEq] at ht
      subst ht
      exact ⟨_, rfl⟩
    | some sink =>
      cases type with
      | publish => exact ⟨_, rfl⟩
      | request => exact ⟨_, rfl⟩
      | response => exact ⟨_, rfl⟩
      | allPointToPoint => exact absurd rfl hp
  obtain ⟨key, hk⟩ := hsome
  rw [hk, unregisterKey_determined ht hk]

/-- What is registered is what will be unregistered: a request, or a response
whose source and sink filter agree in the low halves of `ue_id` and
`resource_id`. -/
def Undoable (type : RegistrationType) (src : UUri) (sink : Option UUri) : Prop :=
  type = .request ∨
  (type = .response ∧ ∀ snk, sink = some snk →
    (splitU32ToU16 src.ueId).2 = (splitU32ToU16 snk.ueId).2 ∧
    (splitU32ToU16 src.resourceId).2 = (splitU32ToU16 snk.resourceId).2)

/-- **Exactly for these is the triple that was registered the one that is
taken away.** -/
theorem registerKey_removed {type : RegistrationType} {src : UUri} {sink : Option UUri} {key : HandlerKey}
    (hk : registerKey type src sink = some key) : key = removalKey src sink ↔ Undoable type src sink := by
  cases type with
  | publish =>
    simp only [registerKey, Option.some.injEq] at hk
    simp [← hk, removalKey, Undoable, anyInstance]
  | request =>
    cases sink with
    | none => simp [registerKey] at hk
    | some sink =>
      simp only [registerKey, Option.some.injEq] at hk
      simp [← hk, removalKey, Undoable]
  | response =>
    simp only [registerKey, Option.some.injEq] at hk
    cases sink <;> simp [← hk, removalKey, Undoable]
  | allPointToPoint => cases sink <;> simp [registerKey] at hk

namespace Process

variable {T L : Type} {d : Deps} {p p' : Process T L}

/-- The entry is the one unregistering its configuration takes away. -/
def Accounted (h : MessageHandlers T L) (t : T) (key : HandlerKey) (fn : MessageHandlerFnPtr) : Prop :=
  ∃ cfg, h.Bound t fn.id cfg ∧ key = removalKey cfg.sourceFilter cfg.sinkFilter

/-- Every entry of the id, in any table, belongs to a configuration that is
bound, and will go when it is unregistered. -/
structure UndoInvariant (id : MessageHandlerId) (p : Process T L) : Prop where
  pool : PoolInvariant p.handlers
  entries : ∀ t, (p.transports t).engine.Entries fun key fn => fn.id = id → Accounted p.handlers t key fn

/-- The table of no transport has an entry for the id. -/
def Unlisted (p : Process T L) (id : MessageHandlerId) : Prop :=
  ∀ t app key fn, (p.transports t).engine.state.application = some app → app.handlers key = some fn → fn.id ≠ id

/-- A free id is listed nowhere. -/
theorem UndoInvariant.unlisted {id : MessageHandlerId} (hI : UndoInvariant id p)
    (hf : id ∈ p.handlers.freeMessageHandlerIds) : Unlisted p id := by
  intro t app key fn happ hfn he
  obtain ⟨cfg, hb, -⟩ := (hI.entries t).table app key fn happ hfn he
  exact hI.pool.disjoint hb (he ▸ hf)

/-- A registration that takes the id is of a kind that can be undone; a plain
unregistration of a configuration that holds it is of a registrable type, and
the engine gets to it in time. -/
def Undoing [DecidableEq T] (d : Deps) (id : MessageHandlerId) (p : Process T L) : Action T L → Prop
  | .register t cfg type now =>
    (p.handlers.lock t).Available now.order cfg id → Undoable type cfg.sourceFilter cfg.sinkFilter
  | .unregister t cfg type inTime evenOnError => p.handlers.Bound t id cfg →
    determineType d.up cfg.sourceFilter cfg.sinkFilter = .ok type ∧
    (evenOnError = true → type ≠ .allPointToPoint ∧ inTime = true ∧
      (Engine.serve d (p.transports t).engine.state (p.transports t).engine.queue).1 = true)
  | _ => True

variable [DecidableEq T] {id : MessageHandlerId}

/-- Only the engine of `t` is another. -/
theorem entries_setEngine {P : T → HandlerKey → MessageHandlerFnPtr → Prop} {t : T} {engine : Engine}
    (hother : ∀ t', t' ≠ t → (p.transports t').engine.Entries (P t')) (hthis : engine.Entries (P t)) (t' : T) :
    ((p.setEngine t engine).transports t').engine.Entries (P t') := by
  rw [setEngine_engine]
  split
  · next ht => rw [ht]; exact hthis
  · next ht => exact hother t' ht

/-- A new binding leaves the old ones. -/
theorem Accounted.binds {h : MessageHandlers T L} {self : T} {cfg : ListenerConfig L} {id : MessageHandlerId}
    {order : IterOrder MessageHandlerId} {maps : LockedMaps T L} (hI : PoolInvariant h)
    (ha : (h.lock self).Available order cfg id) (hb : (h.lock self).Binds maps self cfg id) {t : T}
    {key : HandlerKey} {fn : MessageHandlerFnPtr} (hacc : Accounted h t key fn) :
    Accounted (h.unlock self maps) t key fn := by
  obtain ⟨cfg', hbound, hk⟩ := hacc
  refine ⟨cfg', ?_, hk⟩
  rw [MessageHandlers.bound_of_binds hb, if_neg]
  · exact hbound
  · intro hgiven
    obtain ⟨-, rfl⟩ := hgiven
    exact hI.disjoint hbound (order.next_mem ha.picked)

/-- A release leaves the bindings of other ids. -/
theorem Accounted.frees {h : MessageHandlers T L} {self : T} {id : MessageHandlerId} {maps : LockedMaps T L}
    (hf : (h.lock self).Frees maps id) {t : T} {key : HandlerKey} {fn : MessageHandlerFnPtr}
    (hacc : Accounted h t key fn) (hne : ¬ (t = self ∧ fn.id = id)) : Accounted (h.unlock self maps) t key fn := by
  obtain ⟨cfg', hbound, hk⟩ := hacc
  exact ⟨cfg', (MessageHandlers.bound_of_frees hf).2 ⟨hne, hbound⟩, hk⟩

omit [DecidableEq T] in
theorem UndoInvariant.started (configs : T → TransportConfig × ClientId) :
    UndoInvariant id (Process.started configs : Process T L) where
  pool := PoolInvariant.new
  entries t := by
    refine ⟨fun app key fn happ hfn => ?_, by simp [Process.started, UPTransportVsomeip.started, Engine.started]⟩
    simp only [Process.started, UPTransportVsomeip.started, Engine.started, Option.some.injEq] at happ
    simp [← happ, VsomeipApplication.started] at hfn

theorem UndoInvariant.setEngine (hI : UndoInvariant id p) {t : T} {engine : Engine}
    (h : engine.Entries fun key fn => fn.id = id → Accounted p.handlers t key fn) :
    UndoInvariant id (p.setEngine t engine) where
  pool := hI.pool
  entries := entries_setEngine (fun t' _ => hI.entries t') h

variable [DecidableEq L]

theorem UndoInvariant.register (hI : UndoInvariant id p) {t : T} {cfg : ListenerConfig L} {type : RegistrationType}
    {now : Moment} {r} (hu : Undoing d id p (.register t cfg type now))
    (h : registerConfig d p t cfg type now = (r, p')) : UndoInvariant id p' := by
  rcases registerConfig_cases hI.pool h with ⟨_, -, rfl⟩ | ⟨fn, maps, answer, engine, -, ha, hb, hask, rfl⟩
  · exact hI
  · refine ⟨MessageHandlers.pool_of_binds hI.pool ha hb, ?_⟩
    have hold : ∀ t', (p.transports t').engine.Entries fun key fn =>
        fn.id = id → Accounted (p.handlers.unlock t maps) t' key fn :=
      fun t' => (hI.entries t').mono fun _ _ hacc hid => (hacc hid).binds hI.pool ha hb
    refine entries_setEngine (P := fun t' key fn => fn.id = id → Accounted (p.handlers.unlock t maps) t' key fn)
      (fun t' _ => hold t') ((hold t).ask ?_ hask)
    -- The entry to come is the one this configuration will be unregistered by.
    intro src sink type' fn' key he hk hid
    cases he
    subst hid
    refine ⟨cfg, ?_, (registerKey_removed hk).2 (hu ha)⟩
    rw [MessageHandlers.bound_of_binds hb, if_pos ⟨rfl, rfl⟩]

omit [DecidableEq L] in
/-- Before the handler is released, its entry is gone. -/
theorem entries_unregistered (hI : UndoInvariant id p) {t : T} {cfg : ListenerConfig L} {type : RegistrationType}
    {inTime evenOnError : Bool} {answer : Engine.Answer} {engine : Engine} {res : Except UStatus Unit}
    (hu : Undoing d id p (.unregister t cfg type inTime evenOnError)) (hb : p.handlers.Bound t id cfg)
    (hask : (p.transports t).engine.ask d (.unregisterListener cfg.sourceFilter cfg.sinkFilter type) inTime =
      (answer, engine))
    (hres : awaitEngine "unregister" answer = .returned res) (hrel : res.isOk = true ∨ evenOnError = true) :
    engine.Entries fun key fn => (fn.id = id → Accounted p.handlers t key fn) ∧
      key ≠ removalKey cfg.sourceFilter cfg.sinkFilter := by
  obtain ⟨ht, htime⟩ := hu hb
  -- The engine got to the command, and its filters have a triple.
  have hproc : (∃ res, answer = .replied res) ∧
      unregisterKey type cfg.sourceFilter cfg.sinkFilter = some (removalKey cfg.sourceFilter cfg.sinkFilter) := by
    rcases Engine.ask_cases hask with ⟨-, rfl, -⟩ | ⟨-, hlate, rfl, -⟩ | ⟨-, -, rfl, s, -, hs⟩ |
      ⟨-, -, s₁, s, res', -, hp, rfl, -⟩
    · cases hres
    · simp only [awaitEngine, Outcome.returned.injEq] at hres
      rcases hrel with hok | hev
      · rw [← hres] at hok; cases hok
      · exact absurd (htime hev).2.1 (by simp [hlate])
    · simp only [awaitEngine, Outcome.returned.injEq] at hres
      rcases hrel with hok | hev
      · rw [← hres] at hok; cases hok
      · rcases hs with hs | ⟨s₁, msg, -, hp⟩
        · exact absurd (htime hev).2.2 (by simp [hs])
        · obtain ⟨umsg, hc⟩ := processCommand_panicked hp
          cases hc
    · simp only [awaitEngine, Outcome.returned.injEq] at hres
      subst hres
      refine ⟨⟨_, rfl⟩, ?_⟩
      rcases hrel with hok | hev
      · have : res' = .ok () := by cases res' <;> simp_all [Except.isOk, Except.toBool]
        obtain ⟨-, key, hk⟩ := (processCommand_unregister hp).1 this
        rw [hk, unregisterKey_determined ht hk]
      · exact unregisterKey_registrable ht (htime hev).1
  obtain ⟨⟨res', rfl⟩, hkey⟩ := hproc
  exact (hI.entries t).unregistered hkey hask

omit [DecidableEq L] in
theorem UndoInvariant.unregister (hI : UndoInvariant id p) {t : T} {cfg : ListenerConfig L} {type : RegistrationType}
    {inTime evenOnError : Bool} {r} (hu : Undoing d id p (.unregister t cfg type inTime evenOnError))
    (h : unregisterConfig d p t cfg type inTime evenOnError = (r, p')) : UndoInvariant id p' := by
  obtain ⟨answer, engine, hask, hr, hp'⟩ := unregisterConfig_cases h
  -- Unregistering adds no entry.
  have hkept : engine.Entries fun key fn => fn.id = id → Accounted p.handlers t key fn := by
    refine (hI.entries t).ask ?_ hask
    intro src sink type' fn key he
    cases he
  rcases hp' with ⟨rfl, -⟩ | ⟨⟨res, hres, hrel⟩, rfl⟩
  · exact hI.setEngine hkept
  · cases hrm : p.handlers.releaseMessageHandler t cfg with
    | mk res' handlers =>
    rcases MessageHandlers.releaseMessageHandler_pool hrm with ⟨id', maps, hb, hf, rfl⟩ | ⟨-, rfl⟩
    · refine ⟨MessageHandlers.pool_of_frees hI.pool hb hf, ?_⟩
      refine entries_setEngine (P := fun t' key fn => fn.id = id → Accounted (p.handlers.unlock t maps) t' key fn)
        (fun t' ht => ?_) ?_
      · exact (hI.entries t').mono fun _ _ hacc hid => (hacc hid).frees hf fun hc => ht hc.1
      · by_cases hid : id' = id
        · subst hid
          -- An entry of the released id would be under the triple that was taken away.
          refine (entries_unregistered hI hu hb hask (hr ▸ hres) hrel).mono fun key fn hacc hfn => ?_
          refine (hacc.1 hfn).frees hf fun hc => hacc.2 ?_
          obtain ⟨cfg', hb', hk⟩ := hacc.1 hfn
          rw [hc.2] at hb'
          have : cfg = cfg' := Option.some.inj (hb.symm.trans hb')
          rw [hk, this]
        · exact hkept.mono fun _ _ hacc hfn => (hacc hfn).frees hf fun hc => hid (hc.2.symm.trans hfn)
    · exact hI.setEngine hkept

theorem UndoInvariant.step (hI : UndoInvariant id p) (a : Action T L) (hu : Undoing d id p a) :
    UndoInvariant id (Process.step d p a).1 := by
  cases a with
  | register t cfg type now => exact hI.register hu (Prod.mk.eta.symm)
  | unregister t cfg type inTime evenOnError => exact hI.unregister hu (Prod.mk.eta.symm)
  | keepPointToPointListener t listener =>
    refine ⟨hI.pool, fun t' => ?_⟩
    have := hI.entries t'
    simp only [Process.step, setTransport]
    by_cases ht : t' = t
    · subst ht; simpa using this
    · simpa [ht] using this
  | send t umsg inTime =>
    refine hI.setEngine ((hI.entries t).ask ?_ (Prod.mk.eta.symm))
    intro src sink type fn key he
    cases he
  | engineTurn t => exact hI.setEngine (hI.entries t).turn
  | applicationLost t =>
    exact hI.setEngine ⟨fun app key fn happ => (by cases happ), (hI.entries t).queued⟩

omit [DecidableEq L] in
/-- A plain unregistration that returns is that of its configuration. -/
theorem unregisterListener_returned {t : T} {src : UUri} {sink : Option UUri} {listener : L} {moments : ℕ → Moment}
    {type : RegistrationType} {res} (ht : determineType d.up src sink = .ok type) (hp : type ≠ .allPointToPoint)
    (h : unregisterListener d p t src sink listener moments = (.returned res, p')) :
    ∃ res', unregisterConfig d p t ⟨src, sink, listener⟩ type (moments 0).inTime true = (.returned res', p') := by
  rw [unregisterListener_plain ht hp] at h
  cases hun : unregisterConfig d p t ⟨src, sink, listener⟩ type (moments 0).inTime true with
  | mk r p₁ =>
  rw [hun] at h
  cases r with
  | returned res' => cases h; exact ⟨res', rfl⟩
  | panicked msg => cases h

omit [DecidableEq L] in
/-- A plain unregistration that returns has released the configuration. -/
theorem unregisterConfig_released {t : T} {cfg : ListenerConfig L} {type : RegistrationType} {inTime : Bool}
    {id : MessageHandlerId} {res} (hb : p.handlers.Bound t id cfg)
    (h : unregisterConfig d p t cfg type inTime true = (.returned res, p')) :
    id ∈ p'.handlers.freeMessageHandlerIds := by
  obtain ⟨answer, engine, -, -, ⟨-, hno⟩ | ⟨-, rfl⟩⟩ := unregisterConfig_cases h
  · cases (hno res rfl).2
  · cases hrm : p.handlers.releaseMessageHandler t cfg with
    | mk res' handlers =>
    rcases MessageHandlers.releaseMessageHandler_pool hrm with ⟨id', maps, hb', hf, rfl⟩ | ⟨hn, -⟩
    · obtain rfl := BiMap.left_unique hb hb'
      show id ∈ maps.freeMessageHandlerIds
      rw [hf.free]
      exact Finset.mem_insert_self _ _
    · exact absurd hb (hn id)

/-- **Registering and unregistering at once leaves the entry exactly if the
registration cannot be undone.** -/
theorem entry_left_iff {p : Process T L} {t : T} {src : UUri} {sink : Option UUri} (listener : L)
    {type : RegistrationType} (moments moments' : ℕ → Moment) {id : MessageHandlerId} {key : HandlerKey}
    (ht : determineType d.up src sink = .ok type) (hp : type ≠ .allPointToPoint)
    (hkey : registerKey type src sink = some key) (hidle : (p.transports t).engine.Idle)
    (htime : (moments 0).inTime = true) (htime' : (moments' 0).inTime = true)
    (ha : (p.handlers.lock t).Available (moments 0).order ⟨src, sink, listener⟩ id) (hid : id < numMessageHandlers) :
    ∃ p₁ p₂, registerListener d p t src sink listener moments = (.returned (.ok ()), p₁) ∧
      unregisterListener d p₁ t src sink listener moments' = (.returned (.ok ()), p₂) ∧
      id ∈ p₂.handlers.freeMessageHandlerIds ∧
      ∃ app, (p₂.transports t).engine.state.application = some app ∧
        (app.handlers key = some ⟨id, hid⟩ ↔ ¬ Undoable type src sink) := by
  obtain ⟨maps, p₁, hreg, hb, hmaps, hstate⟩ := registerListener_idle listener moments ht hp hidle htime ha hid
  have hbound : p₁.handlers.Bound t id ⟨src, sink, listener⟩ :=
    hmaps ▸ (MessageHandlers.bound_of_binds hb).2 (by simp)
  have hidle₁ : (p₁.transports t).engine.Idle := hstate ▸ hidle.processed _
  obtain ⟨p₂, hun, hstate₂⟩ := unregisterListener_idle (d := d) listener moments' ht hp hidle₁ htime'
  obtain ⟨res, hcfg⟩ := unregisterListener_returned ht hp hun
  refine ⟨p₁, p₂, hreg, hun, unregisterConfig_released hbound hcfg, ?_⟩
  obtain ⟨app, happ⟩ := Option.isSome_iff_exists.1 hidle.application
  obtain ⟨app₁, happ₁, hh₁⟩ := processCommand_some d (.registerListener src sink type ⟨id, hid⟩) happ
  obtain ⟨app₂, happ₂, hh₂⟩ := processCommand_some d (.unregisterListener src sink type) happ₁
  refine ⟨app₂, ?_, ?_⟩
  · rw [hstate₂, hstate]
    exact happ₂
  · rw [hh₂, hh₁, ← registerKey_removed hkey]
    simp only [TransportCommand.onHandlers, hkey, unregisterKey_registrable ht hp, PartialMap.remove_apply]
    split
    · next he => simp [he]
    · next hne => simp [hne]

/-- A published message's handler stays at vsomeip when its id is given back. -/
theorem published_entry_left :
    let src : UUri := ⟨"foo", 1, 1, 10⟩
    ∃ p₁ p₂ : Process Unit Unit,
      registerListener .accepting sample () src none () (fun _ => .first) = (.returned (.ok ()), p₁) ∧
      unregisterListener .accepting p₁ () src none () (fun _ => .first) = (.returned (.ok ()), p₂) ∧
      0 ∈ p₂.handlers.freeMessageHandlerIds ∧ ¬ Unlisted p₂ 0 := by
  intro src
  obtain ⟨p₁, p₂, hreg, hun, hfree, app, happ, hentry⟩ := entry_left_iff (d := .accepting) (p := sample) (t := ()) ()
    (fun _ => .first) (fun _ => .first) (show determineType _ src none = .ok .publish from rfl) (by decide) rfl
    sample_idle rfl rfl (MessageHandlers.available_new () _)
    (by decide)
  refine ⟨p₁, p₂, hreg, hun, hfree, fun hun => ?_⟩
  exact hun () app _ _ happ (hentry.2 (by simp [Undoable])) rfl

/-- **An id that is given back has no entry left at vsomeip**, in every run
in which it was taken for what can be undone and the engine got in time to the
plain unregistrations of those who held it. -/
theorem unregistered_id_cleared (d : Deps) (configs : T → TransportConfig × ClientId) (id : MessageHandlerId)
    (actions : List (Action T L))
    (hg : Runs.Guarded (Process.step d) (Undoing d id) (Process.started configs) actions)
    (p : Process T L) (hp : p = Runs.after (Process.step d) (Process.started configs) actions)
    (t : T) (src : UUri) (sink : Option UUri) (listener : L) (moments : ℕ → Moment)
    (hb : p.handlers.Bound t id ⟨src, sink, listener⟩)
    (htype : determineType d.up src sink ≠ .ok .allPointToPoint)
    (htime : (moments 0).inTime = true)
    (hserve : (Engine.serve d (p.transports t).engine.state (p.transports t).engine.queue).1 = true)
    (res : Except UStatus Unit) (p' : Process T L)
    (h : unregisterListener d p t src sink listener moments = (.returned res, p')) :
    id ∈ p'.handlers.freeMessageHandlerIds ∧ Unlisted p' id := by
  have hI : UndoInvariant id p := by
    rw [hp]
    exact hg.invariant (UndoInvariant id) (fun _ a hI hu => hI.step a hu) (UndoInvariant.started configs)
  obtain ⟨type, ht⟩ := determineType_ok d.up src sink
  have hplain : type ≠ .allPointToPoint := fun he => htype (he ▸ ht)
  obtain ⟨res', hu⟩ := unregisterListener_returned ht hplain h
  have hI' : UndoInvariant id p' := hI.unregister (fun _ => ⟨ht, fun _ => ⟨hplain, htime, hserve⟩⟩) hu
  have hf := unregisterConfig_released hb hu
  exact ⟨hf, hI'.unlisted hf⟩

theorem unregistered_id_cleared_sample :
    let cfg : ListenerConfig Unit := ⟨⟨"foo", 1, 1, 10⟩, some ⟨"bar", 2, 1, 20⟩, ()⟩
    ∃ p₁ p₂ : Process Unit Unit,
      registerListener .accepting sample () cfg.sourceFilter cfg.sinkFilter () (fun _ => .first) =
        (.returned (.ok ()), p₁) ∧
      unregisterListener .accepting p₁ () cfg.sourceFilter cfg.sinkFilter () (fun _ => .first) =
        (.returned (.ok ()), p₂) ∧
      0 ∈ p₂.handlers.freeMessageHandlerIds ∧ Unlisted p₂ 0 := by
  intro cfg
  have ht : determineType Deps.accepting.up cfg.sourceFilter cfg.sinkFilter = .ok .request := by
    simp [cfg, determineType, Deps.accepting, UpRust.accepting, streamerUseCase]
  have hafter := registerListener_after (p := sample) (t := ()) () (fun _ => .first) ht
    (by decide)
  obtain ⟨-, p₁, hreg, -, -, hbound, hidle, -⟩ := sample_registers cfg ht (by decide)
  obtain ⟨p₂, hun, -⟩ := unregisterListener_idle (d := .accepting) () (fun _ => .first) ht
    (by decide) hidle rfl
  rw [hreg] at hafter
  refine ⟨p₁, p₂, hreg, hun, ?_⟩
  exact unregistered_id_cleared .accepting sampleConfig 0 [.register () cfg .request .first]
    ⟨fun _ => .inl rfl, trivial⟩ p₁ hafter () cfg.sourceFilter cfg.sinkFilter () (fun _ => .first) hbound
    (by rw [ht]; simp) rfl (by rw [hidle.queue]; rfl) (.ok ()) p₂ hun

end Process

end VsomeipTransport
