/-
When the registrations of a transport leave each other alone.

vsomeip keeps one handler for each triple, and many configurations share a
triple. A run is watched together with what is live in it: the
configurations whose registration was answered `Ok` and that nobody
unregistered since, each with its triple (`Tracked`). As long as no other
configuration is registered or unregistered under the triple of a live one,
that one has its own entry (`live_entries_kept`), whatever the rest do to each
other. A registration under its triple takes the entry (`same_triple_taken`).
-/
import VsomeipTransport.HandlerTable
import VsomeipTransport.TransportRuns

namespace VsomeipTransport

/-- A process, and the triples its live configurations were registered under. -/
structure Tracked (T L : Type) where
  process : Process T L
  live : T → ListenerConfig L → Option HandlerKey

namespace Tracked

variable {T L : Type}

def started (configs : T → TransportConfig × ClientId) : Tracked T L := ⟨.started configs, fun _ _ => none⟩

variable [DecidableEq T] [DecidableEq L]

def setLive (live : T → ListenerConfig L → Option HandlerKey) (t : T) (cfg : ListenerConfig L)
    (key : Option HandlerKey) : T → ListenerConfig L → Option HandlerKey :=
  fun t' cfg' => if t' = t ∧ cfg' = cfg then key else live t' cfg'

def step (d : Deps) (s : Tracked T L) (a : Action T L) : Tracked T L × ActionResult :=
  let (p, r) := Process.step d s.process a
  let live := match a, r with
    | .register t cfg type _, .registered (.asked (.replied (.ok ()))) =>
      setLive s.live t cfg (registerKey type cfg.sourceFilter cfg.sinkFilter)
    | .unregister t cfg _ _ _, _ => setLive s.live t cfg none
    | .applicationLost t, _ => fun t' => if t' = t then fun _ => none else s.live t'
    | _, _ => s.live
  (⟨p, live⟩, r)

/-- The action does not name the triple `cfg` is live under at `t`, unless it
is about `cfg` itself. -/
def Apart (t : T) (cfg : ListenerConfig L) (s : Tracked T L) : Action T L → Prop
  | .register t' cfg' type _ => t' = t → cfg' ≠ cfg → ∀ key, s.live t cfg = some key →
      registerKey type cfg'.sourceFilter cfg'.sinkFilter ≠ some key
  | .unregister t' cfg' type _ _ => t' = t → cfg' ≠ cfg → ∀ key, s.live t cfg = some key →
      unregisterKey type cfg'.sourceFilter cfg'.sinkFilter ≠ some key
  | _ => True

/-- The handler of `cfg` is at vsomeip under the triple, and nothing is queued
to take it away. -/
def Keeps (p : Process T L) (t : T) (cfg : ListenerConfig L) (key : HandlerKey) : Prop :=
  ∃ fn : MessageHandlerFnPtr, p.handlers.Bound t fn.id cfg ∧ (p.transports t).engine.Keeps key fn

/-- `cfg` has its entry, if it is live. -/
structure Invariant (t : T) (cfg : ListenerConfig L) (s : Tracked T L) : Prop where
  pool : PoolInvariant s.process.handlers
  kept : ∀ key, s.live t cfg = some key → Keeps s.process t cfg key

variable {d : Deps} {t : T} {cfg : ListenerConfig L} {s : Tracked T L}

omit [DecidableEq T] [DecidableEq L] in
theorem Invariant.started (configs : T → TransportConfig × ClientId) :
    Invariant t cfg (Tracked.started configs : Tracked T L) where
  pool := PoolInvariant.new
  kept := by intro key h; cases h

theorem setLive_other {live : T → ListenerConfig L → Option HandlerKey} {t' : T} {cfg' : ListenerConfig L}
    (hne : ¬ (t = t' ∧ cfg = cfg')) (key : Option HandlerKey) : setLive live t' cfg' key t cfg = live t cfg :=
  if_neg hne

/-- A registration leaves other configurations live. -/
theorem live_register {t' : T} {cfg' : ListenerConfig L} {type : RegistrationType} {now : Moment}
    (hne : ¬ (t = t' ∧ cfg = cfg')) : (step d s (.register t' cfg' type now)).1.live t cfg = s.live t cfg := by
  have hlive : (∃ key, (step d s (.register t' cfg' type now)).1.live = setLive s.live t' cfg' key) ∨
      (step d s (.register t' cfg' type now)).1.live = s.live := by
    simp only [step]
    split
    · next ha _ => cases ha; exact .inl ⟨_, rfl⟩
    · next ha => cases ha
    · next ha => cases ha
    · exact .inr rfl
  rcases hlive with ⟨key, hlive⟩ | hlive
  · rw [hlive, setLive_other hne]
  · rw [hlive]

omit [DecidableEq L] in
/-- The engine of one transport changes: what the others keep, they keep. -/
theorem Keeps.setEngine {p : Process T L} {h : MessageHandlers T L} {t' : T} {engine : Engine} {key : HandlerKey}
    {fn : MessageHandlerFnPtr} (hb : h.Bound t fn.id cfg) (hother : t ≠ t' → (p.transports t).engine.Keeps key fn)
    (hthis : t = t' → engine.Keeps key fn) : Keeps { p.setEngine t' engine with handlers := h } t cfg key := by
  refine ⟨fn, hb, ?_⟩
  simp only [Process.setEngine_engine]
  split
  · next ht => exact hthis ht
  · next ht => exact hother ht

theorem Invariant.register (hI : s.Invariant t cfg) {t' : T} {cfg' : ListenerConfig L} {type : RegistrationType}
    {now : Moment} (ha : Apart t cfg s (.register t' cfg' type now)) :
    Invariant t cfg (step d s (.register t' cfg' type now)).1 := by
  have hother : ¬ (t = t' ∧ cfg = cfg') → (step d s (.register t' cfg' type now)).1.live t cfg = s.live t cfg :=
    live_register
  cases h : Process.registerConfig d s.process t' cfg' type now with
  | mk r p' =>
  simp only [step, Process.step, h] at hother ⊢
  rcases Process.registerConfig_cases hI.pool h with
    ⟨e, rfl, rfl⟩ | ⟨fn, maps, answer, engine, rfl, hav, hb, hask, rfl⟩
  · exact hI
  have hfree : fn.id ∈ s.process.handlers.freeMessageHandlerIds := now.order.next_mem hav.picked
  refine ⟨MessageHandlers.pool_of_binds hI.pool hav hb, fun key hl => ?_⟩
  by_cases hsame : t = t' ∧ cfg = cfg'
  · obtain ⟨rfl, rfl⟩ := hsame
    -- The configuration that is registered now was not live.
    have hfresh : s.live t cfg = none := by
      cases hl : s.live t cfg with
      | none => rfl
      | some key =>
        obtain ⟨fn', hbound, -⟩ := hI.kept key hl
        exact absurd hbound (MessageHandlers.unbound_of_available hav)
    -- So the engine answered `Ok`, and just put the entry.
    rcases answer with _ | (_ | ⟨⟩) | _ | _
    case replied.ok =>
      obtain ⟨key', hk, hkeep⟩ := Engine.Keeps.registered hask
      obtain rfl : key' = key := by simpa [setLive, hk] using hl
      exact Keeps.setEngine ((MessageHandlers.bound_of_binds hb).2 (by simp)) (fun ht => absurd rfl ht) fun _ => hkeep
    all_goals
      rw [hfresh] at hl
      cases hl
  · have hbefore : s.live t cfg = some key := (hother hsame).symm.trans hl
    obtain ⟨fn', hbound, hkeep⟩ := hI.kept key hbefore
    have hbound' : (s.process.handlers.unlock t' maps).Bound t fn'.id cfg := by
      rw [MessageHandlers.bound_of_binds hb, if_neg]
      · exact hbound
      · intro hgiven
        obtain ⟨rfl, hid⟩ := hgiven
        exact hI.pool.disjoint (hid ▸ hbound) hfree
    refine Keeps.setEngine hbound' (fun _ => hkeep) fun ht => ?_
    subst ht
    have hkey : (TransportCommand.registerListener cfg'.sourceFilter cfg'.sinkFilter type fn).key ≠ some key :=
      ha rfl (fun he => hsame ⟨rfl, he.symm⟩) key hbefore
    exact hkeep.ask hkey hask

theorem Invariant.unregister (hI : s.Invariant t cfg) {t' : T} {cfg' : ListenerConfig L} {type : RegistrationType}
    {inTime evenOnError : Bool} (ha : Apart t cfg s (.unregister t' cfg' type inTime evenOnError)) :
    Invariant t cfg (step d s (.unregister t' cfg' type inTime evenOnError)).1 := by
  cases h : Process.unregisterConfig d s.process t' cfg' type inTime evenOnError with
  | mk r p' =>
  simp only [step, Process.step, h]
  obtain ⟨answer, engine, hask, -, hp'⟩ := Process.unregisterConfig_cases h
  -- The handlers of other configurations stay bound, released or not.
  have hbound : PoolInvariant p'.handlers ∧ ∀ id, ¬ (t = t' ∧ cfg = cfg') →
      s.process.handlers.Bound t id cfg → p'.handlers.Bound t id cfg := by
    rcases hp' with ⟨rfl, -⟩ | ⟨-, rfl⟩
    · exact ⟨hI.pool, fun _ _ hb => hb⟩
    · cases hrm : s.process.handlers.releaseMessageHandler t' cfg' with
      | mk res' handlers =>
      rcases MessageHandlers.releaseMessageHandler_pool hrm with ⟨id, maps, hb, hf, rfl⟩ | ⟨-, rfl⟩
      · refine ⟨MessageHandlers.pool_of_frees hI.pool hb hf, fun id' hne hb' => ?_⟩
        refine (MessageHandlers.bound_of_frees hf).2 ⟨?_, hb'⟩
        intro hgiven
        obtain ⟨rfl, rfl⟩ := hgiven
        exact hne ⟨rfl, Option.some.inj (hb'.symm.trans hb)⟩
      · exact ⟨hI.pool, fun _ _ hb => hb⟩
  have hp : p' = { s.process.setEngine t' engine with handlers := p'.handlers } := by
    rcases hp' with ⟨rfl, -⟩ | ⟨-, rfl⟩ <;> rfl
  refine ⟨hbound.1, fun key hl => ?_⟩
  have hne : ¬ (t = t' ∧ cfg = cfg') := by
    rintro ⟨rfl, rfl⟩
    simp [setLive] at hl
  have hbefore : s.live t cfg = some key := (setLive_other hne none).symm.trans hl
  obtain ⟨fn, hb, hkeep⟩ := hI.kept key hbefore
  rw [hp]
  refine Keeps.setEngine (hbound.2 fn.id hne hb) (fun _ => hkeep) fun ht => ?_
  subst ht
  have hkey : (TransportCommand.unregisterListener cfg'.sourceFilter cfg'.sinkFilter type).key ≠ some key :=
    ha rfl (fun he => hne ⟨rfl, he.symm⟩) key hbefore
  exact hkeep.ask hkey hask

theorem Invariant.step (hI : s.Invariant t cfg) (a : Action T L) (ha : Apart t cfg s a) :
    Invariant t cfg (Tracked.step d s a).1 := by
  cases a with
  | register t' cfg' type now => exact hI.register ha
  | unregister t' cfg' type inTime evenOnError => exact hI.unregister ha
  | keepPointToPointListener t' listener =>
    refine ⟨hI.pool, fun key hl => ?_⟩
    obtain ⟨fn, hb, hkeep⟩ := hI.kept key hl
    refine ⟨fn, hb, ?_⟩
    simp only [Tracked.step, Process.step, Process.setTransport]
    by_cases ht : t = t'
    · subst ht; simpa using hkeep
    · simpa [ht] using hkeep
  | send t' umsg inTime =>
    refine ⟨hI.pool, fun key hl => ?_⟩
    obtain ⟨fn, hb, hkeep⟩ := hI.kept key hl
    refine Keeps.setEngine hb (fun _ => hkeep) fun ht => ?_
    subst ht
    exact hkeep.ask (by simp [TransportCommand.key]) Prod.mk.eta.symm
  | engineTurn t' =>
    refine ⟨hI.pool, fun key hl => ?_⟩
    obtain ⟨fn, hb, hkeep⟩ := hI.kept key hl
    refine Keeps.setEngine hb (fun _ => hkeep) fun ht => ?_
    subst ht
    exact hkeep.turn
  | applicationLost t' =>
    refine ⟨hI.pool, fun key hl => ?_⟩
    by_cases ht : t = t'
    · simp [Tracked.step, ht] at hl
    · obtain ⟨fn, hb, hkeep⟩ := hI.kept key (by simpa [Tracked.step, ht] using hl)
      exact Keeps.setEngine hb (fun _ => hkeep) fun he => absurd he ht

/-- **A live configuration has its own entry**, in every run in which no other
configuration is registered or unregistered under the triple it is live under. -/
theorem live_entries_kept (d : Deps) (configs : T → TransportConfig × ClientId) (actions : List (Action T L)) (t : T)
    (cfg : ListenerConfig L)
    (hg : Runs.Guarded (Tracked.step d) (Apart t cfg) (Tracked.started configs) actions) :
    let s := Runs.after (Tracked.step d) (Tracked.started configs) actions
    ∀ key, s.live t cfg = some key → ∃ (fn : MessageHandlerFnPtr) (app : VsomeipApplication),
      s.process.handlers.Bound t fn.id cfg ∧ (s.process.transports t).engine.state.application = some app ∧
      app.handlers key = some fn := by
  intro s key hl
  have hI : s.Invariant t cfg :=
    hg.invariant (Invariant t cfg) (fun _ a hI ha => hI.step a ha) (Invariant.started configs)
  obtain ⟨fn, hb, hkeep⟩ := hI.kept key hl
  obtain ⟨app, happ, hfn⟩ := hkeep.entry
  exact ⟨fn, app, hb, happ, hfn⟩

/-- A registration under the triple of another live configuration takes its
entry. -/
theorem same_triple_taken {cfg' : ListenerConfig L} (hI : s.Invariant t cfg') {type : RegistrationType}
    {now : Moment} {key : HandlerKey} (hne : cfg' ≠ cfg) (hl : s.live t cfg' = some key)
    (hkey : registerKey type cfg.sourceFilter cfg.sinkFilter = some key) {s' : Tracked T L}
    (h : step d s (.register t cfg type now) = (s', .registered (.asked (.replied (.ok ()))))) :
    s'.live t cfg' = some key ∧ ∃ (id : MessageHandlerId) (fn : MessageHandlerFnPtr) (app : VsomeipApplication),
      s'.process.handlers.Bound t id cfg' ∧ (s'.process.transports t).engine.state.application = some app ∧
      app.handlers key = some fn ∧ fn.id ≠ id := by
  cases hreg : Process.registerConfig d s.process t cfg type now with
  | mk r p' =>
  simp only [step, Process.step, hreg, Prod.mk.injEq, ActionResult.registered.injEq] at h
  obtain ⟨rfl, rfl⟩ := h
  refine ⟨by simp [setLive, hne, hl], ?_⟩
  rcases Process.registerConfig_cases hI.pool hreg with ⟨_, hr, -⟩ | ⟨fn, maps, _, engine, hr, hav, hb, hask, rfl⟩
  · cases hr
  cases hr
  obtain ⟨fn', hbound, -⟩ := hI.kept key hl
  obtain ⟨key', hk, hkeep⟩ := Engine.Keeps.registered hask
  obtain rfl : key' = key := Option.some.inj (hk.symm.trans hkey)
  obtain ⟨app, happ, hfn⟩ := hkeep.entry
  have hfree : fn.id ∈ s.process.handlers.freeMessageHandlerIds := now.order.next_mem hav.picked
  have hids : fn'.id ≠ fn.id := fun he => hI.pool.disjoint (he ▸ hbound) hfree
  refine ⟨fn'.id, fn, app, ?_, ?_, hfn, hids.symm⟩
  · rw [MessageHandlers.bound_of_binds hb, if_neg (fun hc => hids hc.2)]
    exact hbound
  · simp only [Process.setEngine_engine, if_true]
    exact happ

/-- A registration an idle engine accepts makes its configuration live, and
leaves the engine idle. -/
theorem step_register_idle {type : RegistrationType} (now : Moment) {key : HandlerKey} {id : MessageHandlerId}
    (hidle : (s.process.transports t).engine.Idle) (htime : now.inTime = true)
    (hkey : registerKey type cfg.sourceFilter cfg.sinkFilter = some key)
    (ha : (s.process.handlers.lock t).Available now.order cfg id) (hid : id < numMessageHandlers) :
    ∃ s' maps, step d s (.register t cfg type now) = (s', .registered (.asked (.replied (.ok ())))) ∧
      s'.live = setLive s.live t cfg (some key) ∧ (s'.process.transports t).engine.Idle ∧
      (s.process.handlers.lock t).Binds maps t cfg id ∧ s'.process.handlers = s.process.handlers.unlock t maps := by
  obtain ⟨maps, answer, engine, hb, hask, hreg⟩ := Process.registerConfig_available d type ha hid
  obtain ⟨res, hres, hidle'⟩ := Engine.ask_idle d
    (.registerListener cfg.sourceFilter cfg.sinkFilter type ⟨id, hid⟩) hidle.running hidle.queue (by simp)
  rw [htime] at hask
  obtain ⟨rfl, rfl⟩ := Prod.mk.inj (hask.symm.trans hidle')
  obtain rfl : res = .ok () := (processCommand_register (Prod.ext hres rfl)).2 ⟨hidle.application, key, hkey⟩
  simp only [step, Process.step, hreg, hkey]
  refine ⟨_, maps, rfl, rfl, ?_, hb, rfl⟩
  simp only [Process.setEngine_engine, if_true]
  exact hidle.processed _

/-- Two registrations under different triples, which leave each other alone. -/
theorem two_live_sample {cfg cfg' : ListenerConfig Unit} (hne : cfg' ≠ cfg) {type type' : RegistrationType}
    {key key' : HandlerKey} (hkey : registerKey type cfg.sourceFilter cfg.sinkFilter = some key)
    (hkey' : registerKey type' cfg'.sourceFilter cfg'.sinkFilter = some key') (hkeys : key' ≠ key) :
    let actions : List (Action Unit Unit) := [.register () cfg type .first, .register () cfg' type' .first]
    (∃ s, s = Runs.after (step .accepting) (started Process.sampleConfig) actions ∧
      s.live () cfg = some key ∧ s.live () cfg' = some key') ∧
    Runs.Guarded (step .accepting) (Apart () cfg) (started Process.sampleConfig) actions ∧
    Runs.Guarded (step .accepting) (Apart () cfg') (started Process.sampleConfig) actions := by
  intro actions
  obtain ⟨s, maps, hstep, hlive, hidle, hb, hmaps⟩ := step_register_idle (d := .accepting)
    (s := started Process.sampleConfig) (t := ()) .first Process.sample_idle rfl hkey
    (MessageHandlers.available_new () cfg) (by decide)
  have ha : (s.process.handlers.lock ()).Available IterOrder.least cfg' 1 := by
    rw [hmaps]
    exact MessageHandlers.available_second hb hne
  obtain ⟨s', _, hstep', hlive', -⟩ :=
    step_register_idle (d := .accepting) .first hidle rfl hkey' ha (by decide)
  have hrun : Runs.after (step .accepting) (started Process.sampleConfig)
      [.register () cfg type .first, .register () cfg' type' .first] = s' := by
    rw [Runs.after_cons, hstep, Runs.after_cons, hstep', Runs.after_nil]
  have hl : s.live () cfg = some key := by rw [hlive]; exact if_pos ⟨rfl, rfl⟩
  have hl' : s.live () cfg' = none := by rw [hlive, setLive_other (by simp [hne])]; rfl
  refine ⟨⟨s', hrun.symm, ?_, ?_⟩, ?_, ?_⟩
  · rw [hlive', setLive_other (by simp [Ne.symm hne]), hl]
  · rw [hlive']; exact if_pos ⟨rfl, rfl⟩
  · refine ⟨fun _ _ _ hl => by simp [started] at hl, ?_, trivial⟩
    rw [hstep]
    intro _ _ key₁ hl₁ hkey₁
    cases hl.symm.trans hl₁
    exact hkeys (Option.some.inj (hkey'.symm.trans hkey₁))
  · refine ⟨fun _ _ _ hl => by simp [started] at hl, ?_, trivial⟩
    rw [hstep]
    intro _ hself
    exact absurd rfl hself

theorem live_entries_kept_sample :
    let cfg : ListenerConfig Unit := ⟨⟨"*", 0xFFFF, 0xFF, 0xFFFF⟩, some ⟨"foo", 10, 1, 20⟩, ()⟩
    let cfg' : ListenerConfig Unit := ⟨⟨"*", 0xFFFF, 0xFF, 0xFFFF⟩, some ⟨"foo", 10, 1, 21⟩, ()⟩
    ∃ (s : Tracked Unit Unit) (key key' : HandlerKey) (fn : MessageHandlerFnPtr) (app : VsomeipApplication),
      s = Runs.after (step .accepting) (started Process.sampleConfig)
        [.register () cfg .request .first, .register () cfg' .request .first] ∧
      s.live () cfg = some key ∧ s.live () cfg' = some key' ∧ s.process.handlers.Bound () fn.id cfg ∧
      (s.process.transports ()).engine.state.application = some app ∧ app.handlers key = some fn := by
  intro cfg cfg'
  obtain ⟨⟨s, hs, hl, hl'⟩, hapart, -⟩ := @two_live_sample cfg cfg' (by simp [cfg, cfg']) .request .request
    ⟨10, anyInstance, 20⟩ ⟨10, anyInstance, 21⟩ rfl rfl (by decide)
  have h := live_entries_kept .accepting Process.sampleConfig _ () cfg hapart
  rw [← hs] at h
  obtain ⟨fn, app, h⟩ := h _ hl
  exact ⟨s, _, _, fn, app, hs, hl, hl', h⟩

end Tracked

namespace Process

/-- Two listeners on one filter: the second has the only entry, the first
stays bound to its id. -/
theorem second_listener_takes_entry :
    let src : UUri := ⟨"foo", 1, 1, 0x8001⟩
    ∃ p₁ p₂ : Process Unit Bool,
      registerListener .accepting sample () src none false (fun _ => .first) = (.returned (.ok ()), p₁) ∧
      registerListener .accepting p₁ () src none true (fun _ => .first) = (.returned (.ok ()), p₂) ∧
      ∃ (app : VsomeipApplication) (key : HandlerKey), p₂.handlers.Bound () 0 ⟨src, none, false⟩ ∧
        registerKey .publish src none = some key ∧ (p₂.transports ()).engine.state.application = some app ∧
        ∀ fn, app.handlers key = some fn → fn.id ≠ 0 := by
  intro src
  have ht : determineType Deps.accepting.up src none = .ok .publish := rfl
  obtain ⟨maps, p₁, hreg, hb, hmaps, hbound, hidle₁, -⟩ := sample_registers ⟨src, none, false⟩ ht (by decide)
  have ha : (p₁.handlers.lock ()).Available IterOrder.least ⟨src, none, true⟩ 1 :=
    hmaps ▸ MessageHandlers.available_second hb (by simp)
  obtain ⟨maps', p₂, hreg', hb', hmaps', hstate'⟩ := registerListener_idle (d := .accepting) (p := p₁) (t := ())
    true (fun _ => .first) ht (by decide) hidle₁ rfl ha (by decide)
  obtain ⟨app, happ⟩ := Option.isSome_iff_exists.1 hidle₁.application
  obtain ⟨app', happ', hh⟩ := processCommand_some .accepting (.registerListener src none .publish ⟨1, by decide⟩) happ
  refine ⟨p₁, p₂, hreg, hreg', app', _, ?_, rfl, by rw [hstate']; exact happ', fun fn hfn => ?_⟩
  · rw [hmaps', MessageHandlers.bound_of_binds hb', if_neg (by simp)]
    exact hbound
  · rw [hh] at hfn
    simp only [TransportCommand.onHandlers, registerKey, PartialMap.insert_apply, if_true, Option.some.injEq] at hfn
    simp [← hfn]

end Process

end VsomeipTransport
