/-
What the public operations do, one configuration at a time.

An `Action` is a part of a call that takes or releases at most one handler,
or something the environment does. Every public operation is a sequence of
actions (`registerListener_actions`, `unregisterListener_actions`,
`send_actions`), so what holds along every run of actions holds along every
run of the operations, with the engines taking turns in between.

Which actions an operation is made of is said once for each
(`registerListener_reaches`, `unregisterListener_reaches`, `send_reaches`);
what these preserve, the operation preserves (`ReachesBy.invariant`).
-/
import VsomeipTransport.PoolInvariant
import VsomeipTransport.Transport
import VsomeipTransport.TransportEngineFacts

namespace VsomeipTransport

inductive Action (T L : Type)
  | register (t : T) (cfg : ListenerConfig L) (type : RegistrationType) (now : Moment)
  | unregister (t : T) (cfg : ListenerConfig L) (type : RegistrationType) (inTime evenOnError : Bool)
  | keepPointToPointListener (t : T) (listener : L)
  | send (t : T) (umsg : UMessage) (inTime : Bool)
  | engineTurn (t : T)
  | applicationLost (t : T)

inductive ActionResult
  | registered (r : Process.Registration)
  | unregistered (r : Outcome (Except UStatus Unit))
  | done

/-! ## The actions of an operation -/

section

variable {T L : Type}

/-- Registers the listener for one of the services of `t`. -/
def Action.ForService (d : Deps) (t : T) (listener : L) : Action T L → Prop
  | .register t' cfg type _ => t' = t ∧ type = .request ∧
    ∃ localAuthority service, cfg = Process.pointToPointConfig d.up localAuthority listener service
  | _ => False

/-- Unregisters a listener of `t`. -/
def Action.Unregisters (t : T) : Action T L → Prop
  | .unregister t' .. => t' = t
  | _ => False

/-- What `register_listener` may do: register its configuration, if it is not
for point-to-point messages, or keep the listener and register it for the
services. -/
def Action.OfRegistering (d : Deps) (t : T) (src : UUri) (sink : Option UUri) (listener : L) (a : Action T L) : Prop :=
  (∃ type now, a = .register t ⟨src, sink, listener⟩ type now ∧ determineType d.up src sink = .ok type ∧
    type ≠ .allPointToPoint) ∨
  (determineType d.up src sink = .ok .allPointToPoint ∧
    (a = .keepPointToPointListener t listener ∨ a.ForService d t listener))

/-- What `send` may do: register a listener for the response, its filters
those of a request the other way round, and send the message. -/
def Action.OfSending (d : Deps) (t : T) (message : UMessage) : Action T L → Prop
  | .register t' cfg type _ => t' = t ∧ type = .response ∧
    ∃ source, cfg.sinkFilter = some source ∧ determineType d.up source (some cfg.sourceFilter) = .ok .request
  | .send t' umsg _ => t' = t ∧ umsg = message
  | _ => False

end

namespace Process

variable {T L : Type} [DecidableEq T] [DecidableEq L]

def step (d : Deps) (p : Process T L) : Action T L → Process T L × ActionResult
  | .register t cfg type now =>
    let (r, p) := registerConfig d p t cfg type now
    (p, .registered r)
  | .unregister t cfg type inTime evenOnError =>
    let (r, p) := unregisterConfig d p t cfg type inTime evenOnError
    (p, .unregistered r)
  | .keepPointToPointListener t listener =>
    (p.setTransport t { p.transports t with pointToPointListener := some listener }, .done)
  | .send t umsg inTime => ((p.ask d t (.send umsg) inTime).2, .done)
  | .engineTurn t => (p.engineTurn d t, .done)
  | .applicationLost t => (p.applicationLost t, .done)

/-- Reached from `p` by actions. -/
def Reaches (d : Deps) (p p' : Process T L) : Prop := ∃ actions, p' = Runs.after (step d) p actions

/-- Reached by actions of one kind. -/
def ReachesBy (d : Deps) (G : Action T L → Prop) (p p' : Process T L) : Prop :=
  ∃ actions, (∀ a ∈ actions, G a) ∧ p' = Runs.after (step d) p actions

variable {d : Deps} {p p' p'' : Process T L} {G G' : Action T L → Prop}

namespace ReachesBy

theorem refl : ReachesBy d G p p := ⟨[], by simp, rfl⟩

theorem one {a : Action T L} (ha : G a) : ReachesBy d G p (step d p a).1 := ⟨[a], by simpa using ha, rfl⟩

theorem trans (h : ReachesBy d G p p') (h' : ReachesBy d G p' p'') : ReachesBy d G p p'' := by
  obtain ⟨as, has, rfl⟩ := h
  obtain ⟨bs, hbs, rfl⟩ := h'
  refine ⟨as ++ bs, fun a ha => ?_, (Runs.after_append p as bs).symm⟩
  rcases List.mem_append.1 ha with ha | ha
  · exact has a ha
  · exact hbs a ha

theorem mono (h : ReachesBy d G p p') (hG : ∀ a, G a → G' a) : ReachesBy d G' p p' := by
  obtain ⟨as, has, rfl⟩ := h
  exact ⟨as, fun a ha => hG a (has a ha), rfl⟩

theorem reaches (h : ReachesBy d G p p') : Reaches d p p' := by
  obtain ⟨as, -, rfl⟩ := h
  exact ⟨as, rfl⟩

/-- What these actions preserve. -/
theorem invariant (I : Process T L → Prop) (hstep : ∀ p a, I p → G a → I (step d p a).1) (hp : I p)
    (h : ReachesBy d G p p') : I p' := by
  obtain ⟨as, has, rfl⟩ := h
  induction as generalizing p with
  | nil => exact hp
  | cons a as ih => exact ih (hstep p a hp (has a (by simp))) fun b hb => has b (by simp [hb])

end ReachesBy

theorem registerConfig_reaches {t : T} {cfg : ListenerConfig L} {type : RegistrationType} {now : Moment} {r}
    (hG : G (.register t cfg type now)) (h : registerConfig d p t cfg type now = (r, p')) : ReachesBy d G p p' := by
  have := ReachesBy.one (d := d) (p := p) hG
  simpa [step, h] using this

theorem unregisterConfig_reaches {t : T} {cfg : ListenerConfig L} {type : RegistrationType}
    {inTime evenOnError : Bool} {r} (hG : G (.unregister t cfg type inTime evenOnError))
    (h : unregisterConfig d p t cfg type inTime evenOnError = (r, p')) : ReachesBy d G p p' := by
  have := ReachesBy.one (d := d) (p := p) hG
  simpa [step, h] using this

/-! ## The loops over the services -/

theorem registerServices_reaches (t : T) (listener : L) (services : List ServiceConfig) (p : Process T L)
    (moments : ℕ → Moment) :
    ReachesBy d (Action.ForService d t listener) p (registerServices d t listener p services moments).2 := by
  induction services generalizing p moments with
  | nil => exact .refl
  | cons service services ih =>
    have hservice : Action.ForService d t listener (.register t
        (pointToPointConfig d.up (p.transports t).getLocalAuthority listener service) .request (moments 0)) :=
      ⟨rfl, rfl, _, _, rfl⟩
    simp only [registerServices]
    split
    · next h => exact registerConfig_reaches hservice h
    · next h => exact registerConfig_reaches hservice h
    · next h =>
      have hone := registerConfig_reaches hservice h
      split
      · exact hone
      · exact hone
      · exact hone.trans (ih _ _)

theorem unregisterServices_reaches (t : T) (listener : L) (services : List ServiceConfig) (p : Process T L)
    (moments : ℕ → Moment) :
    ReachesBy d (Action.Unregisters t) p (unregisterServices d t listener p services moments).2 := by
  induction services generalizing p moments with
  | nil => exact .refl
  | cons service services ih =>
    simp only [unregisterServices]
    split
    · exact ih _ _
    · split
      · next h => exact unregisterConfig_reaches rfl h
      · next h =>
        have hone : ReachesBy d (Action.Unregisters t) p _ := unregisterConfig_reaches rfl h
        exact hone.trans (ih _ _)

/-! ## The public operations -/

theorem registerListener_reaches (d : Deps) (p : Process T L) (t : T) (src : UUri) (sink : Option UUri) (listener : L)
    (moments : ℕ → Moment) :
    ReachesBy d (Action.OfRegistering d t src sink listener) p (registerListener d p t src sink listener moments).2 := by
  unfold registerListener
  split
  · exact .refl
  · next hall =>
    unfold registerPointToPointListener
    split
    · exact .refl
    · exact .refl
    · split
      · exact .refl
      · have hkeep : Action.OfRegistering d t src sink listener (.keepPointToPointListener t listener) :=
          .inr ⟨hall, .inl rfl⟩
        refine (ReachesBy.one hkeep).trans ?_
        exact (registerServices_reaches _ _ _ _ _).mono fun a ha => .inr ⟨hall, .inr ha⟩
  · next type hp ht =>
    have hplain : Action.OfRegistering d t src sink listener (.register t ⟨src, sink, listener⟩ type (moments 0)) :=
      .inl ⟨_, _, rfl, ht, hp⟩
    split
    · next h => exact registerConfig_reaches hplain h
    · next h => exact registerConfig_reaches hplain h
    · next h => exact registerConfig_reaches hplain h

/-- **Registering is a sequence of actions.** -/
theorem registerListener_actions (d : Deps) (p : Process T L) (t : T) (sourceFilter : UUri)
    (sinkFilter : Option UUri) (listener : L) (moments : ℕ → Moment) :
    Reaches d p (registerListener d p t sourceFilter sinkFilter listener moments).2 :=
  (registerListener_reaches d p t sourceFilter sinkFilter listener moments).reaches

theorem unregisterPointToPointListener_reaches (d : Deps) (p : Process T L) (t : T) (moments : ℕ → Moment) :
    ReachesBy d (Action.Unregisters t) p (unregisterPointToPointListener d p t moments).2 := by
  unfold unregisterPointToPointListener
  split
  · exact .refl
  · split
    · exact .refl
    · exact .refl
    · exact unregisterServices_reaches _ _ _ _ _

theorem unregisterListener_reaches (d : Deps) (p : Process T L) (t : T) (src : UUri) (sink : Option UUri) (listener : L)
    (moments : ℕ → Moment) :
    ReachesBy d (Action.Unregisters t) p (unregisterListener d p t src sink listener moments).2 := by
  unfold unregisterListener
  split
  · exact .refl
  · exact unregisterPointToPointListener_reaches d p t moments
  · split
    · next h => exact unregisterConfig_reaches rfl h
    · next h => exact unregisterConfig_reaches rfl h

/-- **Unregistering is a sequence of actions.** -/
theorem unregisterListener_actions (d : Deps) (p : Process T L) (t : T) (sourceFilter : UUri)
    (sinkFilter : Option UUri) (listener : L) (moments : ℕ → Moment) :
    Reaches d p (unregisterListener d p t sourceFilter sinkFilter listener moments).2 :=
  (unregisterListener_reaches d p t sourceFilter sinkFilter listener moments).reaches

theorem registerForReturningResponse_reaches {t : T} {message : UMessage} {msgSrc : UUri} {msgSink : Option UUri}
    {messageType : RegistrationType} (ht : determineType d.up msgSrc msgSink = .ok messageType) {now : Moment} {r}
    (h : registerForReturningResponse d p t msgSrc msgSink messageType now = (r, p')) :
    ReachesBy d (Action.OfSending d t message) p p' := by
  unfold registerForReturningResponse at h
  split at h
  · cases h; exact .refl
  next listener _ =>
  split at h
  · cases h; exact .refl
  next hreq =>
  split at h
  · cases h; exact .refl
  next msgSink =>
  have hresponse : Action.OfSending d t message (.register t ⟨msgSink, some msgSrc, listener⟩ .response now) :=
    ⟨rfl, rfl, msgSrc, rfl, ht.trans (by rw [not_not.1 hreq])⟩
  split at h
  · next hr => cases h; exact registerConfig_reaches hresponse hr
  · next hr => cases h; exact registerConfig_reaches hresponse hr
  · next hr => cases h; exact registerConfig_reaches hresponse hr
  · next hr => cases h; exact registerConfig_reaches hresponse hr
  · next hr =>
    have hone := registerConfig_reaches hresponse hr
    split at h
    · cases h; exact hone
    · cases h; exact hone
    · cases h; exact hone

theorem send_reaches (d : Deps) (p : Process T L) (t : T) (message : UMessage) (moments : ℕ → Moment) :
    ReachesBy d (Action.OfSending d t message) p (send d p t message moments).2 := by
  unfold send
  split
  · exact .refl
  split
  · exact .refl
  split
  · exact .refl
  split
  · exact .refl
  next ht =>
  split
  · next h => exact registerForReturningResponse_reaches ht h
  · next h => exact registerForReturningResponse_reaches ht h
  · next p₁ h =>
    have hsend : Action.OfSending d t message (.send t message (moments 1).inTime : Action T L) := ⟨rfl, rfl⟩
    exact (registerForReturningResponse_reaches ht h).trans (ReachesBy.one (p := p₁) hsend)

/-- **Sending is a sequence of actions.** -/
theorem send_actions (d : Deps) (p : Process T L) (t : T) (message : UMessage) (moments : ℕ → Moment) :
    Reaches d p (send d p t message moments).2 := (send_reaches d p t message moments).reaches

/-! ## What an action can do -/

variable {t : T} {cfg : ListenerConfig L} {type : RegistrationType}

omit [DecidableEq L] in
@[simp] theorem setEngine_handlers (p : Process T L) (t : T) (e : Engine) :
    (p.setEngine t e).handlers = p.handlers := rfl

omit [DecidableEq L] in
/-- The engine that was set, and the others as they were. -/
theorem setEngine_engine (p : Process T L) (t t' : T) (e : Engine) :
    ((p.setEngine t e).transports t').engine = if t' = t then e else (p.transports t').engine := by
  unfold setEngine setTransport
  by_cases ht : t' = t
  · subst ht; simp
  · simp [ht]

/-- A registration is refused and changes nothing, or binds a handler and
asks the engine to register it. -/
theorem registerConfig_cases (hI : PoolInvariant p.handlers) {now : Moment} {r}
    (h : registerConfig d p t cfg type now = (r, p')) :
    (∃ e, r = .refused e ∧ p' = p) ∨
    ∃ fn maps answer engine, r = .asked answer ∧ (p.handlers.lock t).Available now.order cfg fn.id ∧
      (p.handlers.lock t).Binds maps t cfg fn.id ∧
      (p.transports t).engine.ask d (.registerListener cfg.sourceFilter cfg.sinkFilter type fn) now.inTime =
        (answer, engine) ∧
      p' = { p.setEngine t engine with handlers := p.handlers.unlock t maps } := by
  unfold registerConfig at h
  cases hget : p.handlers.getMessageHandler d.up now.order t t cfg with
  | mk res handlers =>
  rw [hget] at h
  rcases MessageHandlers.getMessageHandler_pool hI hget with
    ⟨fn, maps, rfl, ha, hb, rfl⟩ | ⟨_, _, rfl, -, rfl⟩ | ⟨_, rfl, -, rfl⟩
  · simp only [ask] at h
    cases hask : (p.transports t).engine.ask d (.registerListener cfg.sourceFilter cfg.sinkFilter type fn)
        now.inTime with
    | mk answer engine =>
    rw [hask] at h
    cases h
    exact .inr ⟨fn, maps, answer, engine, rfl, ha, hb, hask, rfl⟩
  · cases h; exact .inl ⟨_, rfl, rfl⟩
  · cases h; exact .inl ⟨_, rfl, rfl⟩

/-- A registration that is offered an id binds it, whatever the engine
answers then. -/
theorem registerConfig_available (d : Deps) (type : RegistrationType) {now : Moment} {id : MessageHandlerId}
    (ha : (p.handlers.lock t).Available now.order cfg id) (hid : id < numMessageHandlers) :
    ∃ maps answer engine, (p.handlers.lock t).Binds maps t cfg id ∧
      (p.transports t).engine.ask d (.registerListener cfg.sourceFilter cfg.sinkFilter type ⟨id, hid⟩) now.inTime =
        (answer, engine) ∧
      registerConfig d p t cfg type now =
        (.asked answer, { p.setEngine t engine with handlers := p.handlers.unlock t maps }) := by
  obtain ⟨maps, hb, hget⟩ := MessageHandlers.getMessageHandler_available d.up ha hid
  refine ⟨maps, _, _, hb, rfl, ?_⟩
  simp only [registerConfig, hget]
  rfl

/-- A registration that is offered none changes nothing. -/
theorem registerConfig_unavailable {now : Moment} (hno : ∀ id, ¬ (p.handlers.lock t).Available now.order cfg id) :
    (registerConfig d p t cfg type now).2 = p := by
  obtain ⟨hsame, hok⟩ := MessageHandlers.getMessageHandler_unavailable d.up hno
  unfold registerConfig
  split
  · next hget => rw [hget] at hsame; simp only at hsame; rw [hsame]
  · next hget => rw [hget] at hsame; simp only at hsame; rw [hsame]
  · next hget => exact absurd (by rw [hget]) (hok _)

theorem registerConfig_out_of_range (d : Deps) (type : RegistrationType) {now : Moment} {id : MessageHandlerId}
    (ha : (p.handlers.lock t).Available now.order cfg id) (hid : numMessageHandlers ≤ id) :
    ∃ msg, (registerConfig d p t cfg type now).1 = .panicked msg := by
  obtain ⟨msg, hpan⟩ := MessageHandlers.getMessageHandler_out_of_range d.up ha hid
  unfold registerConfig
  split
  · exact ⟨_, rfl⟩
  · next hget => rw [hget] at hpan; cases hpan
  · next hget => rw [hget] at hpan; cases hpan

/-- What `register_listener` answers to a registration that was attempted. -/
def Registration.answer : Registration → Outcome (Except UStatus Unit)
  | .refused _ =>
    .returned (.error (.failWithCode .internal "Unable to get message handler for register_listener"))
  | .panicked msg => .panicked msg
  | .asked answer => awaitEngine "register" answer

/-- A registrable configuration is registered as one. -/
theorem registerListener_plain {src : UUri} {sink : Option UUri} {listener : L} {moments : ℕ → Moment}
    (ht : determineType d.up src sink = .ok type) (hp : type ≠ .allPointToPoint) :
    registerListener d p t src sink listener moments =
      ((registerConfig d p t ⟨src, sink, listener⟩ type (moments 0)).1.answer,
        (registerConfig d p t ⟨src, sink, listener⟩ type (moments 0)).2) := by
  unfold registerListener
  rw [ht]
  split
  · next he => cases he
  · next he => cases he; exact absurd rfl hp
  · next he =>
    cases he
    cases hr : registerConfig d p t ⟨src, sink, listener⟩ type (moments 0) with
    | mk r p' => cases r <;> rfl

omit [DecidableEq L] in
/-- An unregistration asks the engine and then, if it gets that far and is to
release, releases the handler. -/
theorem unregisterConfig_cases {inTime evenOnError : Bool} {r}
    (h : unregisterConfig d p t cfg type inTime evenOnError = (r, p')) :
    ∃ answer engine, (p.transports t).engine.ask d (.unregisterListener cfg.sourceFilter cfg.sinkFilter type) inTime
        = (answer, engine) ∧ r = awaitEngine "unregister" answer ∧
      ((p' = p.setEngine t engine ∧ ∀ res, r = .returned res → res.isOk = false ∧ evenOnError = false) ∨
        ((∃ res, r = .returned res ∧ (res.isOk = true ∨ evenOnError = true)) ∧
          p' = { p.setEngine t engine with handlers := (p.handlers.releaseMessageHandler t cfg).2 })) := by
  unfold unregisterConfig ask at h
  cases hask : (p.transports t).engine.ask d (.unregisterListener cfg.sourceFilter cfg.sinkFilter type) inTime with
  | mk answer engine =>
  rw [hask] at h
  refine ⟨answer, engine, rfl, ?_⟩
  simp only at h
  split at h
  · next hw =>
    cases h
    exact ⟨hw.symm, .inl ⟨rfl, fun res he => by cases he⟩⟩
  · next res hw =>
    split at h
    · next hok =>
      cases h
      exact ⟨hw.symm, .inr ⟨⟨res, rfl, by simpa using hok⟩, rfl⟩⟩
    · next hno =>
      cases h
      refine ⟨hw.symm, .inl ⟨rfl, fun res' he => ?_⟩⟩
      cases he
      simpa using hno

/-- So it is one action. -/
theorem registerListener_after {src : UUri} {sink : Option UUri} (listener : L) (moments : ℕ → Moment)
    (ht : determineType d.up src sink = .ok type) (hp : type ≠ .allPointToPoint) :
    (registerListener d p t src sink listener moments).2 =
      Runs.after (step d) p [.register t ⟨src, sink, listener⟩ type (moments 0)] := by
  rw [registerListener_plain ht hp]
  rfl

/-! ## With an idle engine -/

/-- Where the engine is idle, a registration that is offered an id succeeds. -/
theorem registerListener_idle {src : UUri} {sink : Option UUri} (listener : L) (moments : ℕ → Moment)
    {id : MessageHandlerId} (ht : determineType d.up src sink = .ok type) (hp : type ≠ .allPointToPoint)
    (hidle : (p.transports t).engine.Idle) (htime : (moments 0).inTime = true)
    (ha : (p.handlers.lock t).Available (moments 0).order ⟨src, sink, listener⟩ id) (hid : id < numMessageHandlers) :
    ∃ maps p₁, registerListener d p t src sink listener moments = (.returned (.ok ()), p₁) ∧
      (p.handlers.lock t).Binds maps t ⟨src, sink, listener⟩ id ∧ p₁.handlers = p.handlers.unlock t maps ∧
      (p₁.transports t).engine = ⟨(processCommand d (p.transports t).engine.state
        (.registerListener src sink type ⟨id, hid⟩)).2, true, []⟩ := by
  obtain ⟨maps, answer, engine, hb, hask, hreg⟩ := registerConfig_available d type ha hid
  obtain ⟨res, hres, hidle'⟩ := Engine.ask_idle d (.registerListener src sink type ⟨id, hid⟩)
    hidle.running hidle.queue (by simp)
  rw [htime] at hask
  obtain ⟨rfl, rfl⟩ := Prod.mk.inj (hask.symm.trans hidle')
  obtain rfl : res = .ok () :=
    (processCommand_register (Prod.ext hres rfl)).2 ⟨hidle.application, registerKey_registrable ht hp⟩
  refine ⟨maps, (registerListener d p t src sink listener moments).2, ?_, hb, ?_, ?_⟩
  all_goals rw [registerListener_plain ht hp, hreg]
  · rfl
  · simp only [setEngine_engine, if_true]

/-- What `unregister_listener` answers: an error is logged only. -/
def unregisterAnswer : Outcome (Except UStatus Unit) → Outcome (Except UStatus Unit)
  | .panicked msg => .panicked msg
  | .returned _ => .returned (.ok ())

omit [DecidableEq L] in
/-- A registrable configuration is unregistered as one. -/
theorem unregisterListener_plain {src : UUri} {sink : Option UUri} {listener : L} {moments : ℕ → Moment}
    (ht : determineType d.up src sink = .ok type) (hp : type ≠ .allPointToPoint) :
    unregisterListener d p t src sink listener moments =
      (unregisterAnswer (unregisterConfig d p t ⟨src, sink, listener⟩ type (moments 0).inTime true).1,
        (unregisterConfig d p t ⟨src, sink, listener⟩ type (moments 0).inTime true).2) := by
  unfold unregisterListener
  rw [ht]
  split
  · next he => cases he
  · next he => cases he; exact absurd rfl hp
  · next he =>
    cases he
    cases hr : unregisterConfig d p t ⟨src, sink, listener⟩ type (moments 0).inTime true with
    | mk r p' => cases r <;> rfl

omit [DecidableEq L] in
/-- A registrable configuration is released whatever the engine answers, if
it runs. -/
theorem unregisterListener_running {src : UUri} {sink : Option UUri} (listener : L) (moments : ℕ → Moment)
    (ht : determineType d.up src sink = .ok type) (hp : type ≠ .allPointToPoint)
    (hrun : (p.transports t).engine.running = true) :
    unregisterListener d p t src sink listener moments = (.returned (.ok ()),
      { (p.ask d t (.unregisterListener src sink type) (moments 0).inTime).2 with
        handlers := (p.handlers.releaseMessageHandler t ⟨src, sink, listener⟩).2 }) := by
  obtain ⟨res, hres⟩ := Engine.ask_running "unregister" hrun
    (Prod.mk.eta (p := (p.transports t).engine.ask d (.unregisterListener src sink type) (moments 0).inTime)).symm
  rw [unregisterListener_plain ht hp]
  simp only [unregisterConfig, ask, hres, Bool.or_true, if_true]
  rfl

omit [DecidableEq L] in
/-- Where the engine is idle, an unregistration is processed. -/
theorem unregisterListener_idle {src : UUri} {sink : Option UUri} (listener : L) (moments : ℕ → Moment)
    (ht : determineType d.up src sink = .ok type) (hp : type ≠ .allPointToPoint)
    (hidle : (p.transports t).engine.Idle) (htime : (moments 0).inTime = true) :
    ∃ p₁, unregisterListener d p t src sink listener moments = (.returned (.ok ()), p₁) ∧
      (p₁.transports t).engine = ⟨(processCommand d (p.transports t).engine.state
        (.unregisterListener src sink type)).2, true, []⟩ := by
  obtain ⟨res, -, hask⟩ := Engine.ask_idle d (.unregisterListener src sink type)
    hidle.running hidle.queue (by simp)
  refine ⟨_, unregisterListener_running listener moments ht hp hidle.running, ?_⟩
  simp only [ask, htime, hask, setEngine_engine, if_true]

/-- What a transport to try things on is made from. -/
def sampleConfig (_ : Unit) : TransportConfig × ClientId :=
  ({ appName := "client", uri := ⟨⟨"foo", 10, 1, 0⟩, by decide⟩, remoteAuthority := "me_authority",
     services := none }, 0x123)

def sample {L : Type} : Process Unit L := Process.started sampleConfig

theorem sample_idle {L : Type} : ((sample : Process Unit L).transports ()).engine.Idle := ⟨rfl, rfl, rfl⟩

end Process

/-- Everything is accepted, nothing is checked. -/
def Deps.accepting : Deps := ⟨.accepting, .zeroed, false⟩

/-- The pool hands out its smallest id, the engine is in time. -/
def Moment.first : Moment := ⟨.least, true⟩

/-- The first listener it registers gets id 0, and its handler is at vsomeip. -/
theorem Process.sample_registers {L : Type} [DecidableEq L] (cfg : ListenerConfig L) {type : RegistrationType}
    (ht : determineType Deps.accepting.up cfg.sourceFilter cfg.sinkFilter = .ok type) (hp : type ≠ .allPointToPoint) :
    ∃ maps p, registerListener .accepting sample () cfg.sourceFilter cfg.sinkFilter cfg.listener (fun _ => .first) =
        (.returned (.ok ()), p) ∧
      ((MessageHandlers.new : MessageHandlers Unit L).lock ()).Binds maps () cfg 0 ∧
      p.handlers = MessageHandlers.new.unlock () maps ∧ p.handlers.Bound () 0 cfg ∧ (p.transports ()).engine.Idle ∧
      ∃ app, (p.transports ()).engine.state.application = some app ∧
        ∀ key, registerKey type cfg.sourceFilter cfg.sinkFilter = some key → app.handlers key = some ⟨0, by decide⟩ := by
  obtain ⟨maps, p, hreg, hb, hmaps, hstate⟩ := registerListener_idle (d := .accepting) (p := sample) (t := ())
    cfg.listener (fun _ => .first) ht hp sample_idle rfl (MessageHandlers.available_new () cfg) (by decide)
  obtain ⟨app, happ⟩ := Option.isSome_iff_exists.1 (sample_idle (L := L)).application
  obtain ⟨app', happ', hhandlers⟩ := processCommand_some .accepting
    (.registerListener cfg.sourceFilter cfg.sinkFilter type ⟨0, by decide⟩) happ
  refine ⟨maps, p, hreg, hb, hmaps, hmaps ▸ (MessageHandlers.bound_of_binds hb).2 (by simp),
    hstate ▸ sample_idle.processed _, app', by rw [hstate]; exact happ', fun key hkey => ?_⟩
  simp [hhandlers, TransportCommand.onHandlers, hkey]

end VsomeipTransport
