/-
What holds of actions that overlap, whichever way the threads take turns.

What a step can do is said once (`Move`, `step_move`). A thread alone can do
whatever a run of actions does (`actions_run`). Every command has its own
channel, so a thread that was answered knows that its command was
processed. As long as at most one thread at a time is at work on a triple of a
transport, the last one that was answered `Ok` has decided what vsomeip has
there (`last_answer_decides`). As long as that holds of a triple and of a
configuration, a registered listener keeps its handler
(`registered_stays_registered`). A registration and an unregistration of one
configuration that overlap may both be answered `Ok`, and leave an entry whose
handler id is free (`overlap_leaves_entry`).

What is watched may be any kind of subject `P` that covers the triple
(`Covers`).
-/
import VsomeipTransport.BindingFacts
import VsomeipTransport.ConcurrentActions
import VsomeipTransport.HandlerTable

namespace VsomeipTransport

/-! ## The triple of an engine -/

/-- What vsomeip has under a command's triple after it. -/
def TransportCommand.content : TransportCommand → Option MessageHandlerFnPtr
  | .registerListener _ _ _ msgHandler => some msgHandler
  | _ => none

theorem TransportCommand.onHandlers_self {cmd : TransportCommand} {handlers : PartialMap HandlerKey MessageHandlerFnPtr}
    {key : HandlerKey} (h : cmd.key = some key) : cmd.onHandlers handlers key = cmd.content := by
  cases cmd with
  | registerListener src sink type fn =>
    simp only [TransportCommand.key] at h
    simp only [onHandlers, h, PartialMap.insert_self, content]
  | unregisterListener src sink type =>
    simp only [TransportCommand.key] at h
    simp only [onHandlers, h, PartialMap.remove_self, content]
  | send umsg => cases h
  | stopVsomeipApp => cases h

namespace Engine

/-- If there is an application, it has this under the triple and will keep it. -/
structure Rests (key : HandlerKey) (content : Option MessageHandlerFnPtr) (e : Engine) : Prop where
  entry : ∀ app, e.state.application = some app → app.handlers key = content
  undisturbed : ∀ cmd ∈ e.queue, cmd.key ≠ some key

variable {d : Deps} {e : Engine} {key : HandlerKey} {content : Option MessageHandlerFnPtr} {cmd : TransportCommand}

/-- The application after a command is the one before, with the effect. -/
theorem processCommand_was {state : EngineState} {app : VsomeipApplication}
    (happ : (processCommand d state cmd).2.application = some app) :
    ∃ app₀, state.application = some app₀ ∧ app.handlers = cmd.onHandlers app₀.handlers := by
  have h := processCommand_handlers d state cmd
  cases hs : state.application with
  | none => simp [happ, hs] at h
  | some app₀ =>
    simp only [happ, hs, Option.map_some, Option.some.injEq] at h
    exact ⟨app₀, rfl, h⟩

/-- A command that was processed has decided it, if no later one is queued. -/
theorem Rests.processed {state : EngineState} (hkey : cmd.key = some key) {running : Bool}
    {cmds : List TransportCommand} (hlast : ∀ c ∈ cmds, c.key ≠ some key) :
    Rests key cmd.content ⟨(processCommand d state cmd).2, running, cmds⟩ where
  entry app happ := by
    obtain ⟨app₀, -, hh⟩ := processCommand_was happ
    rw [hh, TransportCommand.onHandlers_self hkey]
  undisturbed := hlast

theorem Rests.taken (h : e.Rests key content) {cmds cmds' : List TransportCommand} (hqueue : e.queue = cmd :: cmds)
    {running : Bool} (hcmds : cmds' ⊆ cmds) :
    Rests key content ⟨(processCommand d e.state cmd).2, running, cmds'⟩ where
  entry app happ := by
    have hcmd : cmd.key ≠ some key := h.undisturbed cmd (by simp [hqueue])
    obtain ⟨app₀, hs, hh⟩ := processCommand_was happ
    rw [hh, TransportCommand.onHandlers_other hcmd, h.entry app₀ hs]
  undisturbed c hc := h.undisturbed c (by simp [hqueue, hcmds hc])

theorem Rests.queued (h : e.Rests key content) (hcmd : cmd.key ≠ some key) :
    Rests key content { e with queue := e.queue ++ [cmd] } where
  entry := h.entry
  undisturbed c hc := by
    rcases List.mem_append.1 hc with hc | hc
    · exact h.undisturbed c hc
    · rw [List.mem_singleton.1 hc]
      exact hcmd

theorem Rests.lost (h : e.Rests key content) :
    Rests key content { e with state := { e.state with application := none } } where
  entry app happ := by cases happ
  undisturbed := h.undisturbed

end Engine

/-! ## What threads are at work on -/

namespace Subject

variable {T L : Type}

def Names (t : T) (key : HandlerKey) (a : Subject T L) : Prop := a.transport = t ∧ a.key = some key

def Touches (t : T) (key : HandlerKey) (cfg : ListenerConfig L) (a : Subject T L) : Prop :=
  a.transport = t ∧ (a.key = some key ∨ a.cfg = cfg)

/-- The subjects that name the triple are among them, and a release is only if
its action is. -/
structure Covers (P : Subject T L → Prop) (t : T) (key : HandlerKey) : Prop where
  named : ∀ a, a.Names t key → P a
  released : ∀ a, P { a with key := none } → P a

theorem names_covers (t : T) (key : HandlerKey) : Covers (Names t key : Subject T L → Prop) t key where
  named _ ha := ha
  released _ ha := by cases ha.2

theorem touches_covers (t : T) (key : HandlerKey) (cfg : ListenerConfig L) : Covers (Touches t key cfg) t key where
  named _ ha := ⟨ha.1, .inl ha.2⟩
  released _ ha := ⟨ha.1, .inr (ha.2.resolve_left (by simp))⟩

end Subject

/-- What a thread waits for: a command of its action, what that puts under its
triple, and the channel of the answer. -/
def Part.waitsFor {T L : Type} : Part T L → Option (Subject T L × Option MessageHandlerFnPtr × ℕ)
  | .registering t cfg type msgHandler channel =>
    some (⟨t, registerKey type cfg.sourceFilter cfg.sinkFilter, cfg⟩, some msgHandler, channel)
  | .unregistering t cfg type _ channel =>
    some (⟨t, unregisterKey type cfg.sourceFilter cfg.sinkFilter, cfg⟩, none, channel)
  | _ => none

/-- It registers a configuration with this handler. -/
def Part.Holds {T L : Type} (t : T) (cfg : ListenerConfig L) (msgHandler : MessageHandlerFnPtr) : Part T L → Prop
  | .reserved t' cfg' _ fn | .registering t' cfg' _ fn _ => t' = t ∧ cfg' = cfg ∧ fn = msgHandler
  | _ => False

theorem Part.subject_of_waitsFor {T L : Type} {part : Part T L} {a : Subject T L}
    {content : Option MessageHandlerFnPtr} {channel : ℕ} (h : part.waitsFor = some (a, content, channel)) :
    part.subject = some a := by
  cases part with
  | registering t cfg type fn n => cases h; rfl
  | unregistering t cfg type evenOnError n => cases h; rfl
  | between | reserved | releasing | sending => cases h

namespace Concurrent

/-! ## What a step can do -/

section

variable {T L I : Type} [DecidableEq T] [DecidableEq I]

/-- The command a thread queues, where it is then and what is remarked. -/
inductive Asks (s : Concurrent T L I) (i : I) : T → TransportCommand → Part T L → Option (Remark T L) → Prop
  | register {t cfg type msgHandler} (hi : s.parts i = .reserved t cfg type msgHandler) :
    Asks s i t (.registerListener cfg.sourceFilter cfg.sinkFilter type msgHandler)
      (.registering t cfg type msgHandler s.opened) none
  | unregister {t cfg type evenOnError} (hi : s.parts i = .between) :
    Asks s i t (.unregisterListener cfg.sourceFilter cfg.sinkFilter type)
      (.unregistering t cfg type evenOnError s.opened)
      (some (.begun ⟨t, unregisterKey type cfg.sourceFilter cfg.sinkFilter, cfg⟩))
  | send {t umsg} (hi : s.parts i = .between) : Asks s i t (.send umsg) (.sending t s.opened) none

variable [DecidableEq L]

/-- What a step can do. -/
inductive Move (d : Deps) (s : Concurrent T L I) : Concurrent T L I → Option (Remark T L) → Prop
  | idle : Move d s s none
  | takes {i t cfg type msgHandler order maps} (hi : s.parts i = .between)
    (ha : (s.process.handlers.lock t).Available order cfg msgHandler.id)
    (hb : (s.process.handlers.lock t).Binds maps t cfg msgHandler.id) :
    Move d s ((s.setHandlers (s.process.handlers.unlock t maps)).setPart i (.reserved t cfg type msgHandler))
      (some (.begun ⟨t, registerKey type cfg.sourceFilter cfg.sinkFilter, cfg⟩))
  | asks {i t cmd part remark} (h : s.Asks i t cmd part remark) :
    Move d s ((s.queueCommand t cmd).setPart i part) remark
  | leaves {i} : Move d s (s.setPart i .between) none
  | registered {i t cfg type msgHandler channel} (hi : s.parts i = .registering t cfg type msgHandler channel)
    (ha : s.answers channel = some (.replied (.ok ()))) :
    Move d s (s.setPart i .between)
      (some (.answered ⟨t, registerKey type cfg.sourceFilter cfg.sinkFilter, cfg⟩ (some msgHandler)))
  | unregistered {i t cfg type evenOnError channel} (hi : s.parts i = .unregistering t cfg type evenOnError channel)
    (ha : s.answers channel = some (.replied (.ok ()))) :
    Move d s (s.setPart i (.releasing t cfg))
      (some (.answered ⟨t, unregisterKey type cfg.sourceFilter cfg.sinkFilter, cfg⟩ none))
  | failed {i t cfg type evenOnError channel} (hi : s.parts i = .unregistering t cfg type evenOnError channel) :
    Move d s (s.setPart i (.releasing t cfg)) none
  | releases {i t cfg} (hi : s.parts i = .releasing t cfg) :
    Move d s ((s.setHandlers (s.process.handlers.releaseMessageHandler t cfg).2).setPart i .between) none
  | keeps {t transport} (hengine : transport.engine = s.engine t) :
    Move d s { s with process := s.process.setTransport t transport } none
  | turn {t} : Move d s (s.engineTurn d t) none
  | lost {t} : Move d s { s with process := s.process.applicationLost t } none

omit [DecidableEq T] [DecidableEq L] [DecidableEq I] in
/-- A thread that is told `Ok` was. -/
theorem answer_ok {s : Concurrent T L I} {channel : ℕ} {inTime : Bool} {res : Except UStatus Unit}
    (h : s.answer channel inTime = some (.replied res)) : s.answers channel = some (.replied res) := by
  unfold answer at h
  split at h
  · next ha => rw [ha, h]
  · split at h <;> cases h

/-- **A step is one of these.** -/
theorem step_move (d : Deps) {s : Concurrent T L I} (hI : PoolInvariant s.process.handlers)
    (e : ConcurrentEvent T L I) : Move d s (step d s e).1 (step d s e).2 := by
  cases e with
  | takeHandler i t cfg type order =>
    simp only [step]
    split
    · next hi =>
      cases hget : s.process.handlers.getMessageHandler d.up order t t cfg with
      | mk res handlers =>
      rcases MessageHandlers.getMessageHandler_pool hI hget with
        ⟨fn, maps, rfl, ha, hb, rfl⟩ | ⟨_, _, rfl, -, rfl⟩ | ⟨_, rfl, -, rfl⟩
      · exact .takes hi ha hb
      · exact .idle
      · exact .idle
    · exact .idle
  | queueRegistration i =>
    simp only [step]
    split
    · next hi =>
      split
      · exact .asks (.register hi)
      · exact .leaves
    · exact .idle
  | queueUnregistration i t cfg type evenOnError =>
    simp only [step]
    split
    · next hi _ => exact .asks (.unregister hi)
    · exact .idle
  | queueMessage i t umsg =>
    simp only [step]
    split
    · next hi _ => exact .asks (.send hi)
    · exact .idle
  | awaited i inTime =>
    simp only [step]
    split
    · next hi =>
      split
      · next ha => exact .registered hi (answer_ok ha)
      · exact .leaves
      · exact .idle
    · next hi =>
      split
      · next ha => exact .unregistered hi (answer_ok ha)
      · split
        · exact .failed hi
        · exact .leaves
      · exact .idle
    · split
      · exact .leaves
      · exact .idle
    · exact .idle
  | release i =>
    simp only [step]
    split
    · next hi => exact .releases hi
    · exact .idle
  | keepPointToPointListener t listener => exact .keeps rfl
  | engineTurn t => exact .turn
  | applicationLost t => exact .lost

end

/-! ## The engines -/

section

variable {T L I : Type} [DecidableEq T] {d : Deps} {s s' : Concurrent T L I} {t : T}

theorem queueCommand_engine (s : Concurrent T L I) (t t' : T) (cmd : TransportCommand) :
    (s.queueCommand t cmd).engine t' =
      if t' = t then { s.engine t with queue := (s.engine t).queue ++ [cmd] } else s.engine t' :=
  Process.setEngine_engine _ _ _ _

theorem lost_engine (s : Concurrent T L I) (t t' : T) :
    ({ s with process := s.process.applicationLost t } : Concurrent T L I).engine t' =
      if t' = t then { s.engine t with state := { (s.engine t).state with application := none } } else s.engine t' :=
  Process.setEngine_engine _ _ _ _

theorem lost_queue (s : Concurrent T L I) (t t' : T) :
    (({ s with process := s.process.applicationLost t } : Concurrent T L I).engine t').queue =
      (s.engine t').queue := by
  rw [lost_engine]
  split
  · next ht => rw [ht]
  · rfl

theorem lost_rests {key : HandlerKey} {content : Option MessageHandlerFnPtr} {t' : T}
    (h : (s.engine t').Rests key content) (t : T) :
    (({ s with process := s.process.applicationLost t } : Concurrent T L I).engine t').Rests key content := by
  rw [lost_engine]
  split
  · next ht => subst ht; exact h.lost
  · exact h

theorem kept_engine {transport : UPTransportVsomeip L} (hengine : transport.engine = s.engine t) (t' : T) :
    ({ s with process := s.process.setTransport t transport } : Concurrent T L I).engine t' = s.engine t' := by
  unfold engine Process.setTransport
  by_cases ht : t' = t
  · subst ht; simpa [engine] using hengine
  · simp [ht]

/-- What an engine's turn does: nothing, or it takes the next command, with its
channel. -/
inductive Turned (d : Deps) (s : Concurrent T L I) (t : T) : Concurrent T L I → Prop
  | still : Turned d s t s
  | answered {cmd cmds channel channels res state} (hqueue : (s.engine t).queue = cmd :: cmds)
    (hchannels : s.channels t = channel :: channels)
    (hstate : (processCommand d (s.engine t).state cmd).2 = state) :
    Turned d s t { s with
      process := s.process.setEngine t ⟨state, true, cmds⟩
      channels := Function.update s.channels t channels
      answers := Function.update s.answers channel (some (.replied res)) }
  | died {cmd cmds state} (hqueue : (s.engine t).queue = cmd :: cmds)
    (hstate : (processCommand d (s.engine t).state cmd).2 = state) :
    Turned d s t { s with
      process := s.process.setEngine t ⟨state, false, []⟩
      channels := Function.update s.channels t []
      answers := fun n => if n ∈ s.channels t then some .dropped else s.answers n }

theorem engineTurn_turned (d : Deps) (s : Concurrent T L I) (t : T) : s.Turned d t (s.engineTurn d t) := by
  cases hrun : (s.engine t).running with
  | false => exact (engineTurn_still (.inl hrun)).symm ▸ .still
  | true =>
  cases hqueue : (s.engine t).queue with
  | nil => exact (engineTurn_still (.inr (.inl hqueue))).symm ▸ .still
  | cons cmd cmds =>
  cases hchannels : s.channels t with
  | nil => exact (engineTurn_still (.inr (.inr hchannels))).symm ▸ .still
  | cons channel channels =>
  cases hp : processCommand d (s.engine t).state cmd with
  | mk res state =>
  cases res with
  | returned res => exact engineTurn_returned hrun hqueue hchannels hp ▸ .answered hqueue hchannels (by rw [hp])
  | panicked msg => exact engineTurn_panicked hrun hqueue hchannels hp ▸ .died hqueue (by rw [hp])

namespace Turned

variable (h : Turned d s t s')
include h

theorem parts : s'.parts = s.parts := by cases h <;> rfl

theorem handlers : s'.process.handlers = s.process.handlers := by cases h <;> rfl

theorem opened : s'.opened = s.opened := by cases h <;> rfl

theorem other {t' : T} (ht : t' ≠ t) : s'.engine t' = s.engine t' ∧ s'.channels t' = s.channels t' := by
  cases h with
  | still => exact ⟨rfl, rfl⟩
  | answered hqueue hchannels hstate =>
    exact ⟨(Process.setEngine_engine _ _ _ _).trans (if_neg ht), Function.update_of_ne ht _ _⟩
  | died hqueue hstate =>
    exact ⟨(Process.setEngine_engine _ _ _ _).trans (if_neg ht), Function.update_of_ne ht _ _⟩

theorem channels_suffix (t' : T) : s'.channels t' <:+ s.channels t' := by
  by_cases ht : t' = t
  · subst ht
    cases h with
    | still => exact List.suffix_rfl
    | answered hqueue hchannels hstate =>
      show Function.update s.channels t' _ t' <:+ _
      rw [Function.update_self, hchannels]
      exact List.suffix_cons _ _
    | died hqueue hstate =>
      show Function.update s.channels t' _ t' <:+ _
      rw [Function.update_self]
      exact List.nil_suffix
  · rw [(h.other ht).2]

/-- Only the engine's channels are answered. -/
theorem answers_other {n : ℕ} (hn : n ∉ s.channels t) : s'.answers n = s.answers n := by
  cases h with
  | still => rfl
  | answered hqueue hchannels hstate =>
    have hne : n ≠ _ := fun he => hn (by rw [hchannels, he]; exact List.mem_cons_self)
    exact Function.update_of_ne hne _ _
  | died hqueue hstate => exact if_neg hn

theorem rests {key : HandlerKey} {content : Option MessageHandlerFnPtr} {t' : T}
    (hr : (s.engine t').Rests key content) : (s'.engine t').Rests key content := by
  by_cases ht : t' = t
  · subst ht
    cases h with
    | still => exact hr
    | answered hqueue hchannels hstate =>
      rw [engine, setEngine_engine, ← hstate]
      exact hr.taken hqueue (List.Subset.refl _)
    | died hqueue hstate =>
      rw [engine, setEngine_engine, ← hstate]
      exact hr.taken hqueue (List.nil_subset _)
  · rw [(h.other ht).1]
    exact hr

end Turned

/-! ### The channels -/

theorem mem_queueCommand_channels {cmd : TransportCommand} {t' : T} {n : ℕ} :
    n ∈ (s.queueCommand t cmd).channels t' ↔ n ∈ s.channels t' ∨ (t' = t ∧ n = s.opened) := by
  by_cases ht : t' = t
  · subst ht; simp [queueCommand]
  · simp [queueCommand, ht]

namespace Coherent

omit [DecidableEq T] in
theorem start (configs : T → TransportConfig × ClientId) : (start configs : Concurrent T L I).Coherent where
  aligned _ := rfl
  nodup _ := List.nodup_nil
  apart _ _ _ hn := by cases hn
  waiting _ _ hn := by cases hn
  unopened _ _ := rfl

omit [DecidableEq T] in
/-- It is about the queues, the channels and the answers. -/
theorem congr (hs : s.Coherent) (hqueue : ∀ t, (s'.engine t).queue = (s.engine t).queue)
    (hchannels : s'.channels = s.channels) (hanswers : s'.answers = s.answers) (hopened : s'.opened = s.opened) :
    s'.Coherent where
  aligned t := by rw [hchannels, hqueue, hs.aligned]
  nodup t := by rw [hchannels]; exact hs.nodup t
  apart := by rw [hchannels]; exact hs.apart
  waiting := by rw [hchannels, hanswers, hopened]; exact hs.waiting
  unopened := by rw [hanswers, hopened]; exact hs.unopened

omit [DecidableEq T] in
theorem fresh (hs : s.Coherent) (t : T) : s.opened ∉ s.channels t := fun hn => lt_irrefl _ (hs.waiting t _ hn).1

theorem queueCommand (hs : s.Coherent) (t : T) (cmd : TransportCommand) : (s.queueCommand t cmd).Coherent where
  aligned t' := by
    rw [queueCommand_engine]
    by_cases ht : t' = t
    · subst ht; simp [Concurrent.queueCommand, hs.aligned]
    · simp [Concurrent.queueCommand, ht, hs.aligned]
  nodup t' := by
    by_cases ht : t' = t
    · subst ht
      simpa [Concurrent.queueCommand, List.nodup_append] using ⟨hs.nodup t', fun n hn he => hs.fresh t' (he ▸ hn)⟩
    · simpa [Concurrent.queueCommand, ht] using hs.nodup t'
  apart t₁ t₂ n h₁ h₂ := by
    rcases mem_queueCommand_channels.1 h₁ with h₁ | ⟨rfl, rfl⟩
    · rcases mem_queueCommand_channels.1 h₂ with h₂ | ⟨-, rfl⟩
      · exact hs.apart t₁ t₂ n h₁ h₂
      · exact absurd h₁ (hs.fresh t₁)
    · rcases mem_queueCommand_channels.1 h₂ with h₂ | ⟨rfl, -⟩
      · exact absurd h₂ (hs.fresh t₂)
      · rfl
  waiting t' n hn := by
    rcases mem_queueCommand_channels.1 hn with hn | ⟨-, rfl⟩
    · obtain ⟨hlt, hnone⟩ := hs.waiting t' n hn
      exact ⟨Nat.lt_succ_of_lt hlt, hnone⟩
    · exact ⟨Nat.lt_succ_self _, hs.unopened _ le_rfl⟩
  unopened n hn := hs.unopened n (Nat.le_of_succ_le hn)

/-- What is left of an engine's channels is not answered yet. -/
theorem unanswered (hs : s.Coherent) (h : s.Turned d t s') {t' : T} {n : ℕ} (hn : n ∈ s'.channels t') :
    s'.answers n = none := by
  have hn₀ : n ∈ s.channels t' := (h.channels_suffix t').subset hn
  by_cases ht : t' = t
  · subst ht
    cases h with
    | still => exact (hs.waiting t' n hn).2
    | @answered _ _ channel channels _ _ hqueue hchannels hstate =>
      simp only [Function.update_self] at hn
      have hnodup := hs.nodup t'
      rw [hchannels, List.nodup_cons] at hnodup
      have hne : n ≠ channel := fun he => hnodup.1 (he ▸ hn)
      show Function.update s.answers channel _ n = none
      rw [Function.update_of_ne hne, (hs.waiting t' n hn₀).2]
    | died hqueue hstate => simp at hn
  · rw [h.answers_other fun hn' => ht (hs.apart t' t n hn₀ hn'), (hs.waiting t' n hn₀).2]

theorem turned (hs : s.Coherent) (h : s.Turned d t s') : s'.Coherent where
  aligned t' := by
    by_cases ht : t' = t
    · subst ht
      have hlen := hs.aligned t'
      cases h with
      | still => exact hlen
      | answered hqueue hchannels hstate =>
        rw [hqueue, hchannels] at hlen
        simpa [engine, Process.setEngine_engine] using hlen
      | died hqueue hstate => simp [engine, Process.setEngine_engine]
    · rw [(h.other ht).1, (h.other ht).2, hs.aligned]
  nodup t' := (h.channels_suffix t').sublist.nodup (hs.nodup t')
  apart t₁ t₂ n h₁ h₂ := hs.apart t₁ t₂ n ((h.channels_suffix t₁).subset h₁) ((h.channels_suffix t₂).subset h₂)
  waiting t' n hn := by
    refine ⟨?_, hs.unanswered h hn⟩
    rw [h.opened]
    exact (hs.waiting t' n ((h.channels_suffix t').subset hn)).1
  unopened n hn := by
    rw [h.opened] at hn
    have hout : n ∉ s.channels t := fun hmem => absurd (hs.waiting t n hmem).1 (Nat.not_lt.2 hn)
    rw [h.answers_other hout, hs.unopened n hn]

end Coherent

/-! ### A command that is waited for -/

/-- A command on the triple, with this channel, is queued and the last on the
triple, or it was taken, and what it was replied stands. -/
inductive Awaited (s : Concurrent T L I) (t : T) (key : HandlerKey) (content : Option MessageHandlerFnPtr) (n : ℕ) :
    Prop
  | queued (before after : List TransportCommand) (cmd : TransportCommand) (channelsBefore channelsAfter : List ℕ)
    (hqueue : (s.engine t).queue = before ++ cmd :: after)
    (hchannels : s.channels t = channelsBefore ++ n :: channelsAfter) (hlen : channelsBefore.length = before.length)
    (hkey : cmd.key = some key) (hcontent : cmd.content = content) (hlast : ∀ c ∈ after, c.key ≠ some key)
  | taken (hgone : ∀ t', n ∉ s.channels t') (hopened : n < s.opened)
    (hrests : ∀ res, s.answers n = some (.replied res) → (s.engine t).Rests key content)

namespace Awaited

variable {key : HandlerKey} {content : Option MessageHandlerFnPtr} {n : ℕ} {t' : T} {cmd : TransportCommand}

omit [DecidableEq T] in
/-- It is about the transport's engine, the channels and the answers. -/
theorem congr (h : s.Awaited t key content n) (hqueue : (s'.engine t).queue = (s.engine t).queue)
    (hrests : (s.engine t).Rests key content → (s'.engine t).Rests key content) (hchannels : s'.channels = s.channels)
    (hanswers : s'.answers = s.answers) (hopened : s'.opened = s.opened) : s'.Awaited t key content n := by
  cases h with
  | queued _ _ _ _ _ hq hc hlen hkey hcontent hlast =>
    exact .queued _ _ _ _ _ (hqueue.trans hq) ((congrFun hchannels t).trans hc) hlen hkey hcontent hlast
  | taken hgone hlt hr =>
    refine .taken (fun t' => ?_) (hopened ▸ hlt) fun res ha => hrests (hr res ?_)
    · rw [hchannels]; exact hgone t'
    · rw [← hanswers]; exact ha

omit [DecidableEq T] in
/-- Who was replied can rely on it. -/
theorem replied (h : s.Awaited t key content n) (hs : s.Coherent) {res : Except UStatus Unit}
    (ha : s.answers n = some (.replied res)) : (s.engine t).Rests key content := by
  cases h with
  | queued _ _ _ _ _ hqueue hchannels hlen hkey hcontent hlast =>
    have hnone := (hs.waiting t n (by simp [hchannels])).2
    rw [ha] at hnone
    cases hnone
  | taken hgone hopened hrests => exact hrests res ha

/-- The thread has queued it. -/
theorem asked (hs : s.Coherent) (hkey : cmd.key = some key) :
    (s.queueCommand t cmd).Awaited t key cmd.content s.opened := by
  refine .queued (s.engine t).queue [] cmd (s.channels t) [] ?_ ?_ (hs.aligned t) hkey rfl (by simp)
  · rw [queueCommand_engine, if_pos rfl]
  · exact Function.update_self _ _ _

/-- Another thread's command does not matter, if it is not on the triple. -/
theorem queueCommand (h : s.Awaited t key content n) (hcmd : t' = t → cmd.key ≠ some key) :
    (s.queueCommand t' cmd).Awaited t key content n := by
  cases h with
  | queued before after c channelsBefore channelsAfter hqueue hchannels hlen hkey hcontent hlast =>
    by_cases ht : t = t'
    · subst ht
      refine .queued before (after ++ [cmd]) c channelsBefore (channelsAfter ++ [s.opened]) ?_ ?_ hlen hkey hcontent
        fun c hc => ?_
      · rw [queueCommand_engine, if_pos rfl, hqueue]
        simp
      · show Function.update s.channels t _ t = _
        rw [Function.update_self, hchannels]
        simp
      · rcases List.mem_append.1 hc with hc | hc
        · exact hlast c hc
        · rw [List.mem_singleton.1 hc]
          exact hcmd rfl
    · refine .queued before after c channelsBefore channelsAfter ?_ ?_ hlen hkey hcontent hlast
      · rw [queueCommand_engine, if_neg ht, hqueue]
      · exact (Function.update_of_ne ht _ _).trans hchannels
  | taken hgone hopened hrests =>
    refine .taken (fun t'' hn => ?_) (Nat.lt_succ_of_lt hopened) fun res ha => ?_
    · rcases mem_queueCommand_channels.1 hn with hn | ⟨-, hn⟩
      · exact hgone t'' hn
      · exact absurd hopened (hn ▸ lt_irrefl _)
    · rw [queueCommand_engine]
      split
      · next ht => subst ht; exact (hrests res ha).queued (hcmd rfl)
      · exact hrests res ha

/-- A turn takes it, or brings it nearer. -/
theorem turned (h : s.Awaited t key content n) (hs : s.Coherent) (hturn : s.Turned d t' s') :
    s'.Awaited t key content n := by
  cases h with
  | taken hgone hopened hrests =>
    refine .taken (fun t'' hn => hgone t'' ((hturn.channels_suffix t'').subset hn)) (hturn.opened ▸ hopened)
      fun res ha => hturn.rests (hrests res ?_)
    rw [← hturn.answers_other (hgone t'), ha]
  | queued before after c channelsBefore channelsAfter hqueue hchannels hlen hkey hcontent hlast =>
    have hmem : n ∈ s.channels t := by simp [hchannels]
    have hopened : n < s'.opened := hturn.opened ▸ (hs.waiting t n hmem).1
    -- Once it is out of the engine's channels it is in no other's.
    have hgone : n ∉ s'.channels t → ∀ t', n ∉ s'.channels t' := by
      intro hout t'' hn
      obtain rfl := hs.apart t t'' n hmem ((hturn.channels_suffix t'').subset hn)
      exact hout hn
    by_cases ht : t = t'
    · subst ht
      cases hturn with
      | still => exact .queued before after c channelsBefore channelsAfter hqueue hchannels hlen hkey hcontent hlast
      | @answered cmd cmds channel channels res state hq hc hstate =>
        rcases before with _ | ⟨b, before⟩
        · -- It was the next.
          obtain rfl := List.length_eq_zero_iff.1 hlen
          obtain ⟨rfl, rfl⟩ := List.cons.inj (hq.symm.trans hqueue)
          obtain ⟨rfl, rfl⟩ := List.cons.inj (hc.symm.trans hchannels)
          have hout : channel ∉ Function.update s.channels t channels t := by
            have hnodup := hs.nodup t
            rw [hchannels] at hnodup
            rw [Function.update_self]
            exact (List.nodup_cons.1 hnodup).1
          refine .taken (hgone hout) hopened fun res' _ => ?_
          rw [engine, setEngine_engine, ← hstate, ← hcontent]
          exact .processed hkey hlast
        · obtain ⟨channel', channelsBefore, rfl⟩ := List.exists_cons_of_length_eq_add_one hlen
          obtain ⟨rfl, rfl⟩ := List.cons.inj (hq.symm.trans hqueue)
          obtain ⟨rfl, rfl⟩ := List.cons.inj (hc.symm.trans hchannels)
          refine .queued before after c channelsBefore channelsAfter ?_ ?_ (Nat.succ.inj hlen) hkey hcontent hlast
          · rw [engine, setEngine_engine]
            rfl
          · exact Function.update_self _ _ _
      | died hq hstate =>
        -- A command that panics is answered, but with nothing.
        refine .taken (hgone (by simp)) hopened fun res ha => ?_
        simp [hmem] at ha
    · obtain ⟨hengine, hsame⟩ := hturn.other ht
      exact .queued before after c channelsBefore channelsAfter (by rw [hengine, hqueue]) (by rw [hsame, hchannels])
        hlen hkey hcontent hlast

end Awaited

end

/-! ## Runs -/

section

variable {T L I : Type} [DecidableEq T] [DecidableEq L] [DecidableEq I] {d : Deps} {s s' : Concurrent T L I}
  {P : Subject T L → Prop} {t : T} {key : HandlerKey} {r : Option (Remark T L)}

/-- Its channels are in order, and so are its handlers. -/
structure Sound (s : Concurrent T L I) : Prop where
  coherent : s.Coherent
  pool : PoolInvariant s.process.handlers

omit [DecidableEq T] [DecidableEq L] [DecidableEq I] in
theorem Sound.start (configs : T → TransportConfig × ClientId) : (start configs : Concurrent T L I).Sound :=
  ⟨.start configs, .new⟩

omit [DecidableEq L] in
theorem Coherent.move (hs : s.Coherent) (h : s.Move d s' r) : s'.Coherent := by
  cases h with
  | asks h => exact (hs.queueCommand _ _).congr (fun _ => rfl) rfl rfl rfl
  | turn => exact hs.turned (engineTurn_turned d s _)
  | keeps hengine => exact hs.congr (fun t' => by rw [kept_engine hengine]) rfl rfl rfl
  | lost => exact hs.congr (lost_queue s _) rfl rfl rfl
  | idle => exact hs
  | takes | leaves | registered | unregistered | failed | releases => exact hs.congr (fun _ => rfl) rfl rfl rfl

theorem Sound.move (hs : s.Sound) (h : s.Move d s' r) : s'.Sound := by
  refine ⟨hs.coherent.move h, ?_⟩
  cases h with
  | takes hi ha hb => exact MessageHandlers.pool_of_binds hs.pool ha hb
  | @releases _ t cfg hi => exact (hs.pool.step (.release t cfg) : PoolInvariant (handlerStep d.up _ _).1)
  | @turn t => exact (engineTurn_turned d s t).handlers ▸ hs.pool
  | idle | asks | leaves | registered | unregistered | failed | keeps | lost => exact hs.pool

theorem Sound.run (hs : s.Sound) (events : List (ConcurrentEvent T L I)) :
    (Runs.after (step d) s events).Sound :=
  Runs.after_invariant Sound (fun _ e hs => hs.move (step_move d hs.pool e)) hs events

omit [DecidableEq L] [DecidableEq I] in
theorem engineTurn_process (hs : s.Coherent) (t : T) : (s.engineTurn d t).process = s.process.engineTurn d t := by
  -- An engine that has stopped or has nothing to do is set as it was.
  have hstill (he : Engine.turn d (s.engine t) = s.engine t) : s.process.engineTurn d t = s.process := by
    show s.process.setEngine t (Engine.turn d (s.engine t)) = s.process
    rw [he]
    exact setEngine_same _ _
  cases hrun : (s.engine t).running with
  | false =>
    rw [hstill (by simp only [Engine.turn, hrun]), engineTurn_still (.inl hrun)]
  | true =>
  cases hqueue : (s.engine t).queue with
  | nil =>
    rw [hstill (by simp only [Engine.turn, hrun, hqueue]), engineTurn_still (.inr (.inl hqueue))]
  | cons cmd cmds =>
    obtain ⟨channel, channels, hchannels⟩ :=
      List.exists_cons_of_length_eq_add_one (by rw [hs.aligned, hqueue]; rfl : (s.channels t).length = cmds.length + 1)
    simp only [engineTurn, hrun, hqueue, hchannels]
    split <;> rfl

/-- **Every run of actions is one of a thread that nobody interrupts.** -/
theorem actions_run (d : Deps) (hs : s.Sound) {i : I} (hi : s.parts i = .between) (actions : List (Action T L)) :
    ∃ events, let s' := Runs.after (step d) s events
      s'.process = Runs.after (Process.step d) s.process actions ∧ s'.parts = s.parts := by
  induction actions generalizing s with
  | nil => exact ⟨[], rfl, rfl⟩
  | cons a actions ih =>
    have hone : ∃ events, (Runs.after (step d) s events).process = (Process.step d s.process a).1 ∧
        (Runs.after (step d) s events).parts = s.parts := by
      cases a with
      | register t cfg type now => exact (register_cut d hs.coherent hi t cfg type now).imp' _ fun _ h => h
      | unregister t cfg type inTime evenOnError =>
        exact (unregister_cut d hs.coherent hi t cfg type inTime evenOnError).imp' _ fun _ h => h
      | send t umsg inTime => exact (message_cut d hs.coherent hi t umsg inTime).imp' _ fun _ h => h
      | keepPointToPointListener t listener => exact ⟨[.keepPointToPointListener t listener], rfl, rfl⟩
      | engineTurn t =>
        exact ⟨[.engineTurn t], engineTurn_process hs.coherent t, (engineTurn_turned d s t).parts⟩
      | applicationLost t => exact ⟨[.applicationLost t], rfl, rfl⟩
    obtain ⟨first, hprocess, hparts⟩ := hone
    obtain ⟨events, hrun, hsame⟩ := ih (hs.run first) ((congrFun hparts i).trans hi)
    refine ⟨first ++ events, ?_⟩
    rw [Runs.after_append, Runs.after_cons, ← hprocess, ← hparts]
    exact ⟨hrun, hsame⟩

/-! ## What is watched -/

/-- The thread is at work on a subject of the kind. -/
def AtWork (P : Subject T L → Prop) (s : Concurrent T L I) (i : I) : Prop := ∃ a, (s.parts i).subject = some a ∧ P a

omit [DecidableEq T] [DecidableEq L] in
/-- What is so of a thread's part was so before, or is of the new part. -/
theorem setPart_parts {s₁ : Concurrent T L I} (hparts : s₁.parts = s.parts) {i j : I} {part : Part T L}
    (Q : Part T L → Prop) (h : Q ((s₁.setPart i part).parts j)) : Q (s.parts j) ∨ (j = i ∧ Q part) := by
  by_cases hj : j = i
  · subst hj
    exact .inr ⟨rfl, by simpa [setPart] using h⟩
  · exact .inl (by simpa [setPart, hj, hparts] using h)

omit [DecidableEq T] [DecidableEq L] in
theorem atWork_setPart {s₁ : Concurrent T L I} (hparts : s₁.parts = s.parts) {i j : I} {part : Part T L}
    (h : (s₁.setPart i part).AtWork P j) : s.AtWork P j ∨ (j = i ∧ ∃ a, part.subject = some a ∧ P a) :=
  setPart_parts hparts (fun part => ∃ a, part.subject = some a ∧ P a) h

omit [DecidableEq T] [DecidableEq L] in
/-- A thread that goes on with what it is at work on is no more at work than
before. -/
theorem atWork_goes_on {s₁ : Concurrent T L I} (hparts : s₁.parts = s.parts) {i : I} {part : Part T L}
    (hi : ∀ a, part.subject = some a → P a → s.AtWork P i) (j : I) (h : (s₁.setPart i part).AtWork P j) :
    s.AtWork P j := by
  rcases atWork_setPart hparts h with hold | ⟨rfl, a, ha, hPa⟩
  · exact hold
  · exact hi a ha hPa

omit [DecidableEq L] in
/-- Who is at work after a step was before, or has just begun. -/
theorem Move.atWork (hP : Subject.Covers P t key) (h : s.Move d s' r) :
    (∀ j, s'.AtWork P j → s.AtWork P j) ∨
    ∃ i a, r = some (.begun a) ∧ P a ∧ ∀ j, s'.AtWork P j → s.AtWork P j ∨ j = i := by
  have hbegins {s₁ : Concurrent T L I} (hparts : s₁.parts = s.parts) (i : I) {part : Part T L} {a : Subject T L}
      (hsubject : part.subject = some a) (hr : r = some (.begun a)) :
      (∀ j, (s₁.setPart i part).AtWork P j → s.AtWork P j) ∨
      ∃ i' a, r = some (.begun a) ∧ P a ∧ ∀ j, (s₁.setPart i part).AtWork P j → s.AtWork P j ∨ j = i' := by
    by_cases hPa : P a
    · exact .inr ⟨i, a, hr, hPa, fun j hj => (atWork_setPart hparts hj).imp id And.left⟩
    · refine .inl (atWork_goes_on hparts fun b hb hPb => ?_)
      rw [hsubject] at hb
      cases hb
      exact absurd hPb hPa
  have hleaves {s₁ : Concurrent T L I} (hparts : s₁.parts = s.parts) (i : I) :
      ∀ j, (s₁.setPart i .between).AtWork P j → s.AtWork P j :=
    atWork_goes_on hparts fun a ha _ => by cases ha
  -- What a thread releases it was at work on.
  have hreleasing {i : I} {t' : T} {cfg : ListenerConfig L} {type : RegistrationType} {evenOnError : Bool} {n : ℕ}
      (hi : s.parts i = .unregistering t' cfg type evenOnError n) :
      ∀ j, (s.setPart i (.releasing t' cfg)).AtWork P j → s.AtWork P j := by
    refine atWork_goes_on rfl fun a ha hPa => ?_
    cases ha
    exact ⟨_, congrArg Part.subject hi, hP.released _ hPa⟩
  cases h with
  | @takes i => exact hbegins rfl i rfl rfl
  | @asks i t' cmd part remark h =>
    cases h with
    | register hi =>
      refine .inl (atWork_goes_on rfl fun a ha hPa => ?_)
      cases ha
      exact ⟨_, congrArg Part.subject hi, hPa⟩
    | unregister hi => exact hbegins rfl i rfl rfl
    | send hi => exact .inl (atWork_goes_on rfl fun a ha _ => by cases ha)
  | @leaves i => exact .inl (hleaves rfl i)
  | @registered i => exact .inl (hleaves rfl i)
  | @releases i => exact .inl (hleaves rfl i)
  | unregistered hi => exact .inl (hreleasing hi)
  | failed hi => exact .inl (hreleasing hi)
  | @turn t' => exact .inl fun j hj => by simpa only [AtWork, (engineTurn_turned d s t').parts] using hj
  | idle | keeps | lost => exact .inl fun j hj => hj

/-- Nobody begins on a subject of the kind while somebody is at work on one. -/
def Apart (d : Deps) (P : Subject T L → Prop) (s : Concurrent T L I) (e : ConcurrentEvent T L I) : Prop :=
  ∀ a, (step d s e).2 = some (.begun a) → P a → ∀ i, ¬ s.AtWork P i

/-- At most one thread is at work on subjects of the kind. What a thread waits
for that concerns the triple is the last word on it. -/
structure Watched (P : Subject T L → Prop) (t : T) (key : HandlerKey) (s : Concurrent T L I) : Prop
    extends Sound s where
  sole : ∀ i j, s.AtWork P i → s.AtWork P j → i = j
  awaited : ∀ i a content n, (s.parts i).waitsFor = some (a, content, n) → a.Names t key → s.Awaited t key content n

omit [DecidableEq T] [DecidableEq L] [DecidableEq I] in
theorem Watched.start (configs : T → TransportConfig × ClientId) :
    Watched P t key (start configs : Concurrent T L I) where
  toSound := .start configs
  sole i j h := by
    obtain ⟨a, ha, -⟩ := h
    cases ha
  awaited i a content n h := by cases h

omit [DecidableEq L] in
/-- The command a thread has queued is the last on its triple, and does not come
after that of another thread. -/
theorem Watched.asks (hW : Watched P t key s) (hP : Subject.Covers P t key) {i : I} {t' : T} {cmd : TransportCommand}
    {part : Part T L} (h : s.Asks i t' cmd part r) (hapart : ∀ a, r = some (.begun a) → P a → ∀ i, ¬ s.AtWork P i)
    {j : I} {a : Subject T L} {content : Option MessageHandlerFnPtr} {n : ℕ}
    (hj : (((s.queueCommand t' cmd).setPart i part).parts j).waitsFor = some (a, content, n)) (ha : a.Names t key) :
    (s.queueCommand t' cmd).Awaited t key content n := by
  by_cases hji : j = i
  · subst hji
    have hnew : part.waitsFor = some (a, content, n) := by simpa [setPart] using hj
    cases h with
    | register hi =>
      cases hnew
      obtain ⟨rfl, hkey⟩ := ha
      exact .asked hW.coherent hkey
    | unregister hi =>
      cases hnew
      obtain ⟨rfl, hkey⟩ := ha
      exact .asked hW.coherent hkey
    | send hi => cases hnew
  · have hold : (s.parts j).waitsFor = some (a, content, n) :=
      (setPart_parts rfl (fun part => part.waitsFor = some (a, content, n)) hj).resolve_right fun hnew => hji hnew.1
    have hwork : s.AtWork P j := ⟨a, Part.subject_of_waitsFor hold, hP.named a ha⟩
    refine (hW.awaited j a content n hold ha).queueCommand fun ht hkey => ?_
    cases h with
    | register hi => exact hji (hW.sole j i hwork ⟨_, congrArg Part.subject hi, hP.named _ ⟨ht, hkey⟩⟩)
    | unregister hi => exact hapart _ rfl (hP.named _ ⟨ht, hkey⟩) j hwork
    | send hi => cases hkey

/-- **A step that does not begin beside another keeps what is watched.** -/
theorem Watched.move (hW : Watched P t key s) (hP : Subject.Covers P t key) (h : s.Move d s' r)
    (hapart : ∀ a, r = some (.begun a) → P a → ∀ i, ¬ s.AtWork P i) : Watched P t key s' where
  toSound := hW.toSound.move h
  sole i j hi hj := by
    rcases h.atWork hP with hold | ⟨i₀, a, hr, hPa, hnew⟩
    · exact hW.sole i j (hold i hi) (hold j hj)
    · have hnobody := hapart a hr hPa
      rw [(hnew i hi).resolve_left (hnobody i), (hnew j hj).resolve_left (hnobody j)]
  awaited j a content n hj ha := by
    have hquiet {s₁ : Concurrent T L I} (hparts : s₁.parts = s.parts) {i : I} {part : Part T L}
        (hpart : part.waitsFor = none) (hj : ((s₁.setPart i part).parts j).waitsFor = some (a, content, n)) :
        s.Awaited t key content n := by
      rcases setPart_parts hparts (fun part => part.waitsFor = some (a, content, n)) hj with hold | ⟨-, hnew⟩
      · exact hW.awaited j a content n hold ha
      · rw [hpart] at hnew
        cases hnew
    cases h with
    | idle => exact hW.awaited j a content n hj ha
    | asks h => exact (hW.asks hP h hapart hj ha).congr rfl id rfl rfl rfl
    | @turn t' =>
      have hturn := engineTurn_turned d s t'
      refine (hW.awaited j a content n ?_ ha).turned hW.coherent hturn
      rw [← hturn.parts, hj]
    | keeps hengine =>
      have hsame := kept_engine (s := s) hengine t
      exact (hW.awaited j a content n hj ha).congr (by rw [hsame]) (fun hr => hsame ▸ hr) rfl rfl rfl
    | @lost t' =>
      exact (hW.awaited j a content n hj ha).congr (lost_queue s t' t) (fun hr => lost_rests hr t') rfl rfl rfl
    | takes | leaves | registered | unregistered | failed | releases =>
      exact (hquiet rfl rfl hj).congr rfl id rfl rfl rfl

/-- A step that begins nothing is beside nobody. -/
theorem apart_of_remark {e : ConcurrentEvent T L I} (hr : (step d s e).2 = r) (hnot : ∀ a, r ≠ some (.begun a)) :
    Apart d P s e := fun a ha => absurd (hr.symm.trans ha) (hnot a)

/-! ## Threads that are answered -/

omit [DecidableEq T] [DecidableEq L] [DecidableEq I] in
/-- An application does what it is told on a triple. -/
theorem processCommand_ok {state : EngineState} {cmd : TransportCommand} (happ : state.application.isSome = true)
    (hkey : cmd.key = some key) : (processCommand d state cmd).1 = .returned (.ok ()) := by
  cases hp : processCommand d state cmd with
  | mk res state' =>
  cases cmd with
  | registerListener src sink type fn =>
    cases res with
    | returned res => rw [(processCommand_register hp).2 ⟨happ, key, hkey⟩]
    | panicked msg => obtain ⟨umsg, hc⟩ := processCommand_panicked hp; cases hc
  | unregisterListener src sink type =>
    cases res with
    | returned res => rw [(processCommand_unregister hp).2 ⟨happ, key, hkey⟩]
    | panicked msg => obtain ⟨umsg, hc⟩ := processCommand_panicked hp; cases hc
  | send umsg => cases hkey
  | stopVsomeipApp => cases hkey

omit [DecidableEq L] [DecidableEq I] in
/-- A turn of an engine that is told something of a triple. -/
theorem engineTurn_ok {cmd : TransportCommand} {cmds : List TransportCommand} {channel : ℕ} {channels : List ℕ}
    (hrun : (s.engine t).running = true) (hqueue : (s.engine t).queue = cmd :: cmds)
    (hchannels : s.channels t = channel :: channels) (happ : (s.engine t).state.application.isSome = true)
    (hkey : cmd.key = some key) :
    (s.engineTurn d t).engine t = ⟨(processCommand d (s.engine t).state cmd).2, true, cmds⟩ ∧
    (s.engineTurn d t).channels t = channels ∧
    (s.engineTurn d t).answers = Function.update s.answers channel (some (.replied (.ok ()))) := by
  rw [engineTurn_returned hrun hqueue hchannels (Prod.ext (processCommand_ok happ hkey) rfl)]
  exact ⟨setEngine_engine _ _ _, Function.update_self _ _ _, rfl⟩

/-- An engine that is only told of triples answers all that is queued `Ok`, and
nobody else. -/
theorem turns_ok {cmds : List TransportCommand} {channels : List ℕ} {state : EngineState}
    (hengine : s.engine t = ⟨state, true, cmds⟩) (hchannels : s.channels t = channels) (hnodup : channels.Nodup)
    (hlen : channels.length = cmds.length) (happ : state.application.isSome = true)
    (hkeys : ∀ cmd ∈ cmds, ∃ key, cmd.key = some key) :
    let s' := s.turns d t cmds.length
    s'.parts = s.parts ∧ s'.process.handlers = s.process.handlers ∧
    (∀ n ∈ channels, s'.answers n = some (.replied (.ok ()))) ∧ (∀ n ∉ channels, s'.answers n = s.answers n) ∧
    s'.engine t = ⟨cmds.foldl (fun state cmd => (processCommand d state cmd).2) state, true, []⟩ := by
  intro s'
  induction cmds generalizing s channels state with
  | nil =>
    obtain rfl := List.length_eq_zero_iff.1 hlen
    exact ⟨rfl, rfl, by simp, fun _ _ => rfl, hengine⟩
  | cons cmd cmds ih =>
    obtain ⟨channel, channels, rfl⟩ := List.exists_cons_of_length_eq_add_one hlen
    obtain ⟨hnew, hnodup⟩ := List.nodup_cons.1 hnodup
    obtain ⟨key, hkey⟩ := hkeys cmd (by simp)
    have hturn := engineTurn_turned d s t
    obtain ⟨hengine₁, hchannels₁, hanswers₁⟩ := engineTurn_ok (d := d) (by rw [hengine]) (by rw [hengine]) hchannels
      (by rw [hengine]; exact happ) hkey
    rw [hengine] at hengine₁
    obtain ⟨hparts, hhandlers, hanswers, hothers, hlast⟩ := ih hengine₁ hchannels₁ hnodup (Nat.succ.inj hlen)
      ((processCommand_application d state cmd).trans happ) fun c hc => hkeys c (by simp [hc])
    refine ⟨hparts.trans hturn.parts, hhandlers.trans hturn.handlers, fun n hn => ?_, fun n hn => ?_, hlast⟩
    · rcases List.mem_cons.1 hn with rfl | hn
      · refine (hothers n hnew).trans ?_
        rw [hanswers₁, Function.update_self]
      · exact hanswers n hn
    · rw [List.mem_cons, not_or] at hn
      refine (hothers n hn.2).trans ?_
      rw [hanswers₁, Function.update_of_ne hn.1]

omit [DecidableEq L] [DecidableEq I] in
/-- What an engine has queued once it is sent another command. -/
theorem queued_engine {state : EngineState} {cmds : List TransportCommand} (h : s.engine t = ⟨state, true, cmds⟩)
    (cmd : TransportCommand) : (s.queueCommand t cmd).engine t = ⟨state, true, cmds ++ [cmd]⟩ := by
  rw [queueCommand_engine, if_pos rfl, h]

omit [DecidableEq T] [DecidableEq L] [DecidableEq I] in
/-- Nobody waits for an idle engine. -/
theorem Coherent.channels_idle (hs : s.Coherent) (hidle : (s.engine t).Idle) : s.channels t = [] := by
  rw [← List.length_eq_zero_iff, hs.aligned, hidle.queue, List.length_nil]

/-- `j` unregisters and does not wait for the engine, and `i` registers the same
configuration meanwhile. Beside it and after it `j` is at work on another. -/
def beside (i j : I) (t : T) (cfg cfg' : ListenerConfig L) (type : RegistrationType)
    (order : IterOrder MessageHandlerId) : List (ConcurrentEvent T L I) :=
  [.queueUnregistration j t cfg type false, .awaited j false, .takeHandler i t cfg type order,
    .queueUnregistration j t cfg' type true, .queueRegistration i, .engineTurn t, .engineTurn t, .engineTurn t,
    .awaited i true, .awaited j true, .release j, .queueUnregistration j t cfg' type true, .engineTurn t]

theorem registers_beside (d : Deps) (hs : s.Sound) {i j : I} (hij : i ≠ j) {cfg cfg' : ListenerConfig L}
    {type : RegistrationType} {order : IterOrder MessageHandlerId} {id : MessageHandlerId} {key' : HandlerKey}
    (hi : s.parts i = .between) (hj : s.parts j = .between) (hidle : (s.engine t).Idle)
    (ha : (s.process.handlers.lock t).Available order cfg id)
    (hregister : registerKey type cfg.sourceFilter cfg.sinkFilter = some key)
    (hunregister : unregisterKey type cfg.sourceFilter cfg.sinkFilter = some key)
    (hother : unregisterKey type cfg'.sourceFilter cfg'.sinkFilter = some key')
    (hnobody : ∀ k, ¬ s.AtWork P k) (hP : ¬ P ⟨t, some key', cfg'⟩) :
    ∃ fn : MessageHandlerFnPtr, fn.id = id ∧
      Runs.Guarded (step d) (Apart d P) s (beside i j t cfg cfg' type order) ∧
      Runs.outputs (step d) s (beside i j t cfg cfg' type order) =
        [some (.begun ⟨t, some key, cfg⟩), none, some (.begun ⟨t, some key, cfg⟩), some (.begun ⟨t, some key', cfg'⟩),
          none, none, none, none] ++ some (.answered ⟨t, some key, cfg⟩ (some fn)) ::
        [some (.answered ⟨t, some key', cfg'⟩ none), none, some (.begun ⟨t, some key', cfg'⟩), none] := by
  have hid : id < numMessageHandlers := (hs.pool.ids id).2 (.inl (order.next_mem ha.picked))
  obtain ⟨maps, -, hget⟩ := MessageHandlers.getMessageHandler_available d.up ha hid
  let fn : MessageHandlerFnPtr := ⟨id, hid⟩
  let unregister : TransportCommand := .unregisterListener cfg.sourceFilter cfg.sinkFilter type
  let other : TransportCommand := .unregisterListener cfg'.sourceFilter cfg'.sinkFilter type
  let register : TransportCommand := .registerListener cfg.sourceFilter cfg.sinkFilter type fn
  -- `j` times out, and its command stays queued.
  let s₁ := (s.queueCommand t unregister).setPart j (.unregistering t cfg type false s.opened)
  have h₁ : step d s (.queueUnregistration j t cfg type false) = (s₁, some (.begun ⟨t, some key, cfg⟩)) := by
    rw [queueUnregistration_between hj hidle.running, hunregister]
  let s₂ := s₁.setPart j .between
  have h₂ : step d s₁ (.awaited j false) = (s₂, none) :=
    awaited_timedOut (Function.update_self _ _ _) (hs.coherent.unopened _ le_rfl)
  have hparts₂ : s₂.parts = s.parts := setPart_between hj _ rfl
  -- `i` and `j` take turns.
  let s₃ := (s₂.setHandlers (s.process.handlers.unlock t maps)).setPart i (.reserved t cfg type fn)
  have h₃ : step d s₂ (.takeHandler i t cfg type order) = (s₃, some (.begun ⟨t, some key, cfg⟩)) := by
    rw [takeHandler_between ((congrFun hparts₂ i).trans hi) hget, hregister]
  let s₄ := (s₃.queueCommand t other).setPart j (.unregistering t cfg' type true (s.opened + 1))
  have hengine₁ : s₁.engine t = ⟨(s.engine t).state, true, [unregister]⟩ := queued_engine hidle.eq_mk unregister
  have h₄ : step d s₃ (.queueUnregistration j t cfg' type true) = (s₄, some (.begun ⟨t, some key', cfg'⟩)) := by
    have hj₃ : s₃.parts j = .between := (Function.update_of_ne hij.symm _ _).trans ((congrFun hparts₂ j).trans hj)
    rw [queueUnregistration_between hj₃ (congrArg Engine.running hengine₁), hother]
    rfl
  let s₅ := (s₄.queueCommand t register).setPart i (.registering t cfg type fn (s.opened + 2))
  have hengine₄ : s₄.engine t = ⟨(s.engine t).state, true, [unregister, other]⟩ := queued_engine hengine₁ other
  have h₅ : step d s₄ (.queueRegistration i) = (s₅, none) := by
    have hi₄ : s₄.parts i = .reserved t cfg type fn := (Function.update_of_ne hij _ _).trans (Function.update_self _ _ _)
    rw [queueRegistration_reserved hi₄ (congrArg Engine.running hengine₄)]
    rfl
  -- The engine works through its queue.
  have hengine₅ : s₅.engine t = ⟨(s.engine t).state, true, [unregister, other, register]⟩ :=
    queued_engine hengine₄ register
  have hchannels₅ : s₅.channels t = [s.opened, s.opened + 1, s.opened + 2] := by
    simp [s₅, s₄, s₃, s₂, s₁, setPart, queueCommand, setHandlers, hs.coherent.channels_idle hidle]
  let s₈ := s₅.turns d t 3
  obtain ⟨hparts₈, -, hanswers₈, -, hengine₈⟩ := turns_ok (d := d) hengine₅ hchannels₅ (by simp) rfl hidle.application
    (by simpa using ⟨⟨_, hunregister⟩, ⟨_, hother⟩, ⟨_, hregister⟩⟩)
  -- Both are answered.
  have hi₈ : s₈.parts i = .registering t cfg type fn (s.opened + 2) :=
    (congrFun hparts₈ i).trans (Function.update_self _ _ _)
  have h₉ : step d s₈ (.awaited i true) = (s₈.setPart i .between, some (.answered ⟨t, some key, cfg⟩ (some fn))) := by
    rw [awaited_registered hi₈ (hanswers₈ _ (by simp)), hregister]
  let s₁₀ := (s₈.setPart i .between).setPart j (.releasing t cfg')
  have h₁₀ : step d (s₈.setPart i .between) (.awaited j true) =
      (s₁₀, some (.answered ⟨t, some key', cfg'⟩ none)) := by
    have hj₉ : (s₈.setPart i .between).parts j = .unregistering t cfg' type true (s.opened + 1) := by
      refine (Function.update_of_ne hij.symm _ _).trans ((congrFun hparts₈ j).trans ?_)
      exact (Function.update_of_ne hij.symm _ _).trans (Function.update_self _ _ _)
    rw [awaited_unregistered hj₉ (hanswers₈ _ (by simp)), hother]
  -- `j` goes on to its next action.
  let s₁₁ := (s₁₀.setHandlers (s₁₀.process.handlers.releaseMessageHandler t cfg').2).setPart j .between
  have h₁₁ : step d s₁₀ (.release j) = (s₁₁, none) := by
    have hj₁₀ : s₁₀.parts j = .releasing t cfg' := Function.update_self _ _ _
    simp only [step, hj₁₀, s₁₁]
  have h₁₂ : (step d s₁₁ (.queueUnregistration j t cfg' type true)).2 = some (.begun ⟨t, some key', cfg'⟩) := by
    have hrun : (s₁₁.engine t).running = true := congrArg Engine.running hengine₈
    rw [queueUnregistration_between (Function.update_self _ _ _) hrun, hother]
  have h₆ : step d s₅ (.engineTurn t) = (s₅.turns d t 1, none) := rfl
  have h₇ : step d (s₅.turns d t 1) (.engineTurn t) = (s₅.turns d t 2, none) := rfl
  have h₈ : step d (s₅.turns d t 2) (.engineTurn t) = (s₈, none) := rfl
  have hidle₂ : ∀ k, ¬ s₂.AtWork P k := by simpa only [AtWork, hparts₂] using hnobody
  have hother' {s' : Concurrent T L I} {e : ConcurrentEvent T L I}
      (h : (step d s' e).2 = some (.begun ⟨t, some key', cfg'⟩)) : Apart d P s' e := by
    intro a ha hPa
    obtain rfl : ⟨t, some key', cfg'⟩ = a := by simpa using h.symm.trans ha
    exact absurd hPa hP
  refine ⟨fn, rfl, ?_, ?_⟩
  · simp only [beside, Runs.Guarded, h₁, h₂, h₃, h₄, h₅, h₆, h₇, h₈, h₉, h₁₀, h₁₁]
    refine ⟨fun _ _ _ => hnobody, apart_of_remark (congrArg Prod.snd h₂) (by simp), fun _ _ _ => hidle₂,
      hother' (congrArg Prod.snd h₄), apart_of_remark (congrArg Prod.snd h₅) (by simp),
      apart_of_remark (congrArg Prod.snd h₆) (by simp), apart_of_remark (congrArg Prod.snd h₇) (by simp),
      apart_of_remark (congrArg Prod.snd h₈) (by simp), apart_of_remark (congrArg Prod.snd h₉) (by simp),
      apart_of_remark (congrArg Prod.snd h₁₀) (by simp), apart_of_remark (congrArg Prod.snd h₁₁) (by simp),
      hother' h₁₂, apart_of_remark rfl (by simp [step]), trivial⟩
  · simp only [beside, Runs.outputs_cons, Runs.outputs_nil, h₁, h₂, h₃, h₄, h₅, h₆, h₇, h₈, h₉, h₁₀, h₁₁, h₁₂,
      List.cons_append, List.nil_append]
    rfl

/-! ## The last answer decides -/

/-- vsomeip has this under the triple, and nobody is at work on the kind of
subject. -/
structure Settled (P : Subject T L → Prop) (t : T) (key : HandlerKey) (content : Option MessageHandlerFnPtr)
    (s : Concurrent T L I) : Prop where
  rests : (s.engine t).Rests key content
  nobody : ∀ i, ¬ s.AtWork P i

/-- Nobody has begun on a subject of the kind. -/
def NotBegun (P : Subject T L → Prop) (r : Option (Remark T L)) : Prop := ∀ a, r = some (.begun a) → ¬ P a

omit [DecidableEq T] [DecidableEq L] in
theorem nobody_left (hsole : ∀ i j, s.AtWork P i → s.AtWork P j → i = j) {i : I} (hi : s.AtWork P i) {part : Part T L}
    (hpart : ∀ a, part.subject = some a → ¬ P a) (j : I) : ¬ (s.setPart i part).AtWork P j := by
  intro hj
  have hji : j = i := by
    rcases atWork_setPart rfl hj with hold | ⟨hji, -⟩
    · exact hsole j i hold hi
    · exact hji
  obtain ⟨a, ha, hPa⟩ := hj
  exact hpart a (by simpa [setPart, hji] using ha) hPa

omit [DecidableEq T] [DecidableEq L] in
theorem Watched.replied (hW : Watched P t key s) (hP : Subject.Covers P t key) {i : I} {a : Subject T L}
    {content : Option MessageHandlerFnPtr} {n : ℕ} (hwaits : (s.parts i).waitsFor = some (a, content, n))
    (ha : a.Names t key) {res : Except UStatus Unit} (hreply : s.answers n = some (.replied res)) {part : Part T L}
    (hpart : ∀ a, part.subject = some a → ¬ P a) : Settled P t key content (s.setPart i part) where
  rests := (hW.awaited i a content n hwaits ha).replied hW.coherent hreply
  nobody := nobody_left hW.sole ⟨a, Part.subject_of_waitsFor hwaits, hP.named a ha⟩ hpart

omit [DecidableEq L] in
/-- Who was answered `Ok` was the only one at work, and finds what it asked for. -/
theorem Watched.answered (hW : Watched P t key s) (hP : Subject.Covers P t key) {cfg : ListenerConfig L}
    {content : Option MessageHandlerFnPtr} (h : s.Move d s' r) (hr : r = some (.answered ⟨t, some key, cfg⟩ content))
    (hreleased : content = none → ¬ P ⟨t, none, cfg⟩) : Settled P t key content s' := by
  cases h with
  | registered hi hreply =>
    simp only [Option.some.injEq, Remark.answered.injEq, Subject.mk.injEq] at hr
    obtain ⟨⟨rfl, hkey, rfl⟩, rfl⟩ := hr
    exact hW.replied hP (congrArg Part.waitsFor hi) ⟨rfl, hkey⟩ hreply fun a ha => by cases ha
  | unregistered hi hreply =>
    simp only [Option.some.injEq, Remark.answered.injEq, Subject.mk.injEq] at hr
    obtain ⟨⟨rfl, hkey, rfl⟩, rfl⟩ := hr
    refine hW.replied hP (congrArg Part.waitsFor hi) ⟨rfl, hkey⟩ hreply fun a ha => ?_
    cases ha
    exact hreleased rfl
  | asks h => cases h <;> cases hr
  | idle | takes | leaves | failed | releases | keeps | turn | lost => cases hr

omit [DecidableEq L] in
/-- It stays so, as long as nobody begins. -/
theorem Settled.move {content : Option MessageHandlerFnPtr} (h : Settled P t key content s)
    (hP : Subject.Covers P t key) (hm : s.Move d s' r) (hr : NotBegun P r) : Settled P t key content s' where
  rests := by
    cases hm with
    | @asks i t' cmd part remark hasks =>
      show Engine.Rests key content ((s.queueCommand t' cmd).engine t)
      rw [queueCommand_engine]
      split
      · next ht =>
        subst ht
        refine h.rests.queued fun hkey => ?_
        cases hasks with
        | register hi => exact h.nobody i ⟨_, congrArg Part.subject hi, hP.named _ ⟨rfl, hkey⟩⟩
        | unregister hi => exact hr _ rfl (hP.named _ ⟨rfl, hkey⟩)
        | send hi => cases hkey
      · exact h.rests
    | @turn t' => exact (engineTurn_turned d s t').rests h.rests
    | keeps hengine =>
      rw [kept_engine hengine]
      exact h.rests
    | lost => exact lost_rests h.rests _
    | idle | takes | leaves | registered | unregistered | failed | releases => exact h.rests
  nobody j hj := by
    rcases hm.atWork hP with hold | ⟨i, a, rfl, hPa, -⟩
    · exact h.nobody j (hold j hj)
    · exact hr a rfl hPa

/-- What is watched along a run. -/
theorem Watched.step (hW : Watched P t key s) (hP : Subject.Covers P t key) {e : ConcurrentEvent T L I}
    (hapart : Apart d P s e) : Watched P t key (Concurrent.step d s e).1 :=
  hW.move hP (step_move d hW.pool e) hapart

/-- **The last answer decides.** If no thread begins on a triple of a transport
while another is at work on it, the last `Ok` says what vsomeip has there, and
nothing that is queued will change it, also if other commands on the triple had
timed out. -/
theorem last_answer_decides (d : Deps) (configs : T → TransportConfig × ClientId)
    {events : List (ConcurrentEvent T L I)} (t : T) (key : HandlerKey)
    (hapart : Runs.Guarded (step d) (Apart d (Subject.Names t key)) (start configs) events) {cfg : ListenerConfig L}
    {content : Option MessageHandlerFnPtr} {pre post : List (Option (Remark T L))}
    (hanswered : Runs.outputs (step d) (start configs) events =
      pre ++ some (.answered ⟨t, some key, cfg⟩ content) :: post)
    (hlast : ∀ a, some (.begun a) ∈ post → ¬ a.Names t key) :
    let s := Runs.after (step d) (start configs) events
    (∀ app, (s.engine t).state.application = some app → app.handlers key = content) ∧
    ∀ cmd ∈ (s.engine t).queue, cmd.key ≠ some key := by
  intro s
  have hP := Subject.names_covers (L := L) t key
  have hsettled : Settled (Subject.Names t key) t key content s := by
    refine hapart.ever_since (I := Watched (Subject.Names t key) t key) (K := NotBegun (Subject.Names t key))
      (fun s e hW he => hW.step hP he) (fun s e hW _ ho => ?_) (fun s e hW hs hr => ?_) (.start configs) hanswered
      fun r hr a ha => hlast a (ha ▸ hr)
    · exact hW.answered hP (step_move d hW.pool e) ho fun _ hnames => by cases hnames.2
    · exact hs.move hP (step_move d hW.pool e) hr
  exact ⟨hsettled.rests.entry, hsettled.rests.undisturbed⟩

omit [DecidableEq T] [DecidableEq L] [DecidableEq I] in
theorem start_idle (configs : T → TransportConfig × ClientId) (j : I) :
    ¬ (start configs : Concurrent T L I).AtWork P j := by
  intro hj
  obtain ⟨a, ha, -⟩ := hj
  cases ha

def sampleListener : ListenerConfig Unit := ⟨⟨"*", 0xFFFF, 0xFF, 0xFFFF⟩, some ⟨"foo", 10, 1, 20⟩, ()⟩

theorem sampleListener_key :
    registerKey .request sampleListener.sourceFilter sampleListener.sinkFilter = some ⟨10, anyInstance, 20⟩ := rfl

def sampleOther : ListenerConfig Unit := ⟨⟨"*", 0xFFFF, 0xFF, 0xFFFF⟩, some ⟨"foo", 10, 1, 21⟩, ()⟩

/-- Two threads, of which one times out and the other registers. -/
def sampleBeside : List (ConcurrentEvent Unit Unit Bool) :=
  beside false true () sampleListener sampleOther .request .least

theorem sampleBeside_apart {P : Subject Unit Unit → Prop} (hP : ¬ P ⟨(), some ⟨10, anyInstance, 21⟩, sampleOther⟩) :
    ∃ fn : MessageHandlerFnPtr, fn.id = 0 ∧
      Runs.Guarded (step .accepting) (Apart .accepting P) (start Process.sampleConfig) sampleBeside ∧
      Runs.outputs (step .accepting) (start Process.sampleConfig) sampleBeside =
        [some (.begun ⟨(), some ⟨10, anyInstance, 20⟩, sampleListener⟩), none,
          some (.begun ⟨(), some ⟨10, anyInstance, 20⟩, sampleListener⟩),
          some (.begun ⟨(), some ⟨10, anyInstance, 21⟩, sampleOther⟩), none, none, none, none] ++
        some (.answered ⟨(), some ⟨10, anyInstance, 20⟩, sampleListener⟩ (some fn)) ::
        [some (.answered ⟨(), some ⟨10, anyInstance, 21⟩, sampleOther⟩ none), none,
          some (.begun ⟨(), some ⟨10, anyInstance, 21⟩, sampleOther⟩), none] :=
  registers_beside .accepting (.start Process.sampleConfig) Bool.false_ne_true rfl rfl Process.sample_idle
    (MessageHandlers.available_new () sampleListener) sampleListener_key rfl rfl (start_idle Process.sampleConfig) hP

theorem last_answer_decides_sample : ∃ (s : Concurrent Unit Unit Bool) (fn : MessageHandlerFnPtr),
    s = Runs.after (step .accepting) (start Process.sampleConfig) sampleBeside ∧ fn.id = 0 ∧
    (∀ app, (s.engine ()).state.application = some app → app.handlers ⟨10, anyInstance, 20⟩ = some fn) ∧
    ∀ cmd ∈ (s.engine ()).queue, cmd.key ≠ some ⟨10, anyInstance, 20⟩ := by
  obtain ⟨fn, hid, hapart, hanswered⟩ :=
    sampleBeside_apart (P := Subject.Names () ⟨10, anyInstance, 20⟩) (by simp [Subject.Names])
  have hdecided := last_answer_decides .accepting Process.sampleConfig () _ hapart hanswered
    (by simp [Subject.Names])
  exact ⟨_, fn, rfl, hid, hdecided⟩

/-! ## A registered listener -/

variable {cfg : ListenerConfig L} {fn : MessageHandlerFnPtr}

omit [DecidableEq L] in
/-- A handler stays bound until its configuration is released. -/
theorem Move.bound (hI : PoolInvariant s.process.handlers) (h : s.Move d s' r)
    (hb : s.process.handlers.Bound t fn.id cfg) (hkept : ∀ i, s.parts i ≠ .releasing t cfg) :
    s'.process.handlers.Bound t fn.id cfg := by
  cases h with
  | takes hi ha hbinds =>
    refine (MessageHandlers.bound_of_binds hbinds).2 ?_
    rw [if_neg]
    · exact hb
    · intro hsame
      exact hI.disjoint hb (hsame.2 ▸ IterOrder.next_mem _ ha.picked)
  | @releases i t' cfg' hi =>
    refine (bound_release _ t' cfg').2 ⟨hb, ?_⟩
    rintro ⟨rfl, rfl⟩
    exact hkept i hi
  | @turn t' => exact (engineTurn_turned d s t').handlers ▸ hb
  | idle | asks | leaves | registered | unregistered | failed | keeps | lost => exact hb

/-- Who registers has the handler bound. -/
def HasHandlers (t : T) (cfg : ListenerConfig L) (s : Concurrent T L I) : Prop :=
  ∀ i fn, (s.parts i).Holds t cfg fn → s.process.handlers.Bound t fn.id cfg

omit [DecidableEq T] [DecidableEq L] [DecidableEq I] in
theorem atWork_of_holds {i : I} (h : (s.parts i).Holds t cfg fn) : s.AtWork (Subject.Touches t key cfg) i := by
  cases hi : s.parts i with
  | reserved t' cfg' type fn' =>
    rw [hi] at h
    obtain ⟨rfl, rfl, -⟩ := h
    exact ⟨_, congrArg Part.subject hi, rfl, .inr rfl⟩
  | registering t' cfg' type fn' n =>
    rw [hi] at h
    obtain ⟨rfl, rfl, -⟩ := h
    exact ⟨_, congrArg Part.subject hi, rfl, .inr rfl⟩
  | between | unregistering | releasing | sending => rw [hi] at h; cases h

omit [DecidableEq L] in
theorem HasHandlers.move (h : HasHandlers t cfg s) (hW : Watched (Subject.Touches t key cfg) t key s)
    (hm : s.Move d s' r) : HasHandlers t cfg s' := by
  intro j fn hj
  -- Nobody else releases the configuration meanwhile.
  have hstays (hold : (s.parts j).Holds t cfg fn) : s'.process.handlers.Bound t fn.id cfg := by
    refine hm.bound hW.pool (h j fn hold) fun i hi => ?_
    have hreleasing : s.AtWork (Subject.Touches t key cfg) i := ⟨_, congrArg Part.subject hi, rfl, .inr rfl⟩
    rw [hW.sole j i (atWork_of_holds hold) hreleasing, hi] at hold
    cases hold
  have hquiet {s₁ : Concurrent T L I} (hparts : s₁.parts = s.parts) {i : I} {part : Part T L}
      (hpart : ¬ part.Holds t cfg fn) (hj : ((s₁.setPart i part).parts j).Holds t cfg fn) :
      (s.parts j).Holds t cfg fn :=
    (setPart_parts hparts (Part.Holds t cfg fn) hj).resolve_right fun hnew => hpart hnew.2
  cases hm with
  | takes hi ha hbinds =>
    rcases setPart_parts rfl (Part.Holds t cfg fn) hj with hold | ⟨rfl, rfl, rfl, rfl⟩
    · exact hstays hold
    · exact (MessageHandlers.bound_of_binds hbinds).2 (by simp)
  | asks hasks =>
    cases hasks with
    | register hi =>
      rcases setPart_parts rfl (Part.Holds t cfg fn) hj with hold | ⟨rfl, hnew⟩
      · exact hstays hold
      · exact hstays (hi ▸ hnew)
    | unregister hi => exact hstays (hquiet rfl id hj)
    | send hi => exact hstays (hquiet rfl id hj)
  | turn => exact hstays ((engineTurn_turned d s _).parts ▸ hj)
  | idle | keeps | lost => exact hstays hj
  | leaves | registered | unregistered | failed | releases => exact hstays (hquiet rfl id hj)

omit [DecidableEq L] in
theorem HasHandlers.answered (h : HasHandlers t cfg s) (hm : s.Move d s' r)
    (hr : r = some (.answered ⟨t, some key, cfg⟩ (some fn))) : s'.process.handlers.Bound t fn.id cfg := by
  cases hm with
  | registered hi hreply =>
    simp only [Option.some.injEq, Remark.answered.injEq, Subject.mk.injEq] at hr
    obtain ⟨⟨rfl, -, rfl⟩, rfl⟩ := hr
    exact h _ _ (by rw [hi]; exact ⟨rfl, rfl, rfl⟩)
  | unregistered hi hreply => simp at hr
  | asks h => cases h <;> cases hr
  | idle | takes | leaves | failed | releases | keeps | turn | lost => cases hr

/-- **A registered listener keeps its handler.** If no thread begins on the
triple or the configuration while another is at work on either, a registration
that was answered `Ok` lasts until the next action begins on one of them. -/
theorem registered_stays_registered (d : Deps) (configs : T → TransportConfig × ClientId)
    {events : List (ConcurrentEvent T L I)} (t : T) (key : HandlerKey) (cfg : ListenerConfig L)
    (hapart : Runs.Guarded (step d) (Apart d (Subject.Touches t key cfg)) (start configs) events)
    {fn : MessageHandlerFnPtr} {pre post : List (Option (Remark T L))}
    (hanswered : Runs.outputs (step d) (start configs) events =
      pre ++ some (.answered ⟨t, some key, cfg⟩ (some fn)) :: post)
    (hlast : ∀ a, some (.begun a) ∈ post → ¬ a.Touches t key cfg) :
    let s := Runs.after (step d) (start configs) events
    s.process.handlers.Bound t fn.id cfg ∧ s.process.handlers.getMessageHandlerIdTransport fn.id = some t ∧
    ∀ app, (s.engine t).state.application = some app → app.handlers key = some fn := by
  intro s
  let P := Subject.Touches t key cfg
  have hP := Subject.touches_covers t key cfg
  have hstep (s : Concurrent T L I) (e : ConcurrentEvent T L I) (hI : Watched P t key s ∧ HasHandlers t cfg s)
      (he : Apart d P s e) : Watched P t key (step d s e).1 ∧ HasHandlers t cfg (step d s e).1 :=
    ⟨hI.1.step hP he, hI.2.move hI.1 (step_move d hI.1.pool e)⟩
  let s₀ : Concurrent T L I := start configs
  have hstart : Watched P t key s₀ ∧ HasHandlers t cfg s₀ := ⟨.start configs, fun i fn h => by cases h⟩
  have hpool : PoolInvariant s.process.handlers := (hapart.invariant _ hstep hstart).1.pool
  obtain ⟨hsettled, hbound⟩ : Settled P t key (some fn) s ∧ s.process.handlers.Bound t fn.id cfg := by
    refine hapart.ever_since (Q := fun s => Settled P t key (some fn) s ∧ s.process.handlers.Bound t fn.id cfg)
      (K := NotBegun P) hstep (fun s e hI _ ho => ?_) (fun s e hI hs hr => ?_) hstart hanswered
      fun r hr a ha => hlast a (ha ▸ hr)
    · have hm := step_move d hI.1.pool e
      exact ⟨hI.1.answered hP hm ho nofun, hI.2.answered hm ho⟩
    · have hm := step_move d hI.1.pool e
      refine ⟨hs.1.move hP hm hr, hm.bound hI.1.pool hs.2 fun i hi => ?_⟩
      exact hs.1.nobody i ⟨_, congrArg Part.subject hi, rfl, .inr rfl⟩
  exact ⟨hbound, (hpool.storages fn.id t).2 ⟨cfg, hbound⟩, hsettled.rests.entry⟩

theorem registered_stays_registered_sample : ∃ (s : Concurrent Unit Unit Bool) (fn : MessageHandlerFnPtr),
    s = Runs.after (step .accepting) (start Process.sampleConfig) sampleBeside ∧ fn.id = 0 ∧
    s.process.handlers.Bound () fn.id sampleListener ∧
    s.process.handlers.getMessageHandlerIdTransport fn.id = some () ∧
    ∀ app, (s.engine ()).state.application = some app → app.handlers ⟨10, anyInstance, 20⟩ = some fn := by
  have hother : ¬ Subject.Touches () ⟨10, anyInstance, 20⟩ sampleListener
      ⟨(), some ⟨10, anyInstance, 21⟩, sampleOther⟩ := by
    simp [Subject.Touches, sampleOther, sampleListener]
  obtain ⟨fn, hid, hapart, hanswered⟩ := sampleBeside_apart hother
  have hregistered := registered_stays_registered .accepting Process.sampleConfig () _ _ hapart hanswered
    (by simpa using hother)
  exact ⟨_, fn, rfl, hid, hregistered⟩

/-! ## Actions that overlap -/

omit [DecidableEq L] in
/-- A handler that is taken and released is as free as before. -/
theorem free_again {h : MessageHandlers T L} {order : IterOrder MessageHandlerId}
    {id : MessageHandlerId} {maps : LockedMaps T L} (ha : (h.lock t).Available order cfg id)
    (hb : (h.lock t).Binds maps t cfg id) :
    ((h.unlock t maps).releaseMessageHandler t cfg).2.freeMessageHandlerIds = h.freeMessageHandlerIds := by
  have hbound : (h.unlock t maps).Bound t id cfg := (MessageHandlers.bound_of_binds hb).2 (by simp)
  cases hrel : (h.unlock t maps).releaseMessageHandler t cfg with
  | mk res h' =>
  rcases MessageHandlers.releaseMessageHandler_pool hrel with ⟨id', maps', hb', hf, rfl⟩ | ⟨hn, -⟩
  · obtain rfl := BiMap.left_unique hbound hb'
    show maps'.freeMessageHandlerIds = _
    rw [hf.free]
    show insert id maps.freeMessageHandlerIds = _
    rw [hb.free]
    exact Finset.insert_erase (order.next_mem ha.picked)
  · exact absurd hbound (hn id)

/-- The engine takes the unregistration first, and the thread that asked for it
releases what the other has just registered. -/
def overlap (i j : I) (t : T) (cfg : ListenerConfig L) (type : RegistrationType) (order : IterOrder MessageHandlerId)
    (evenOnError : Bool) : List (ConcurrentEvent T L I) :=
  [.takeHandler i t cfg type order, .queueUnregistration j t cfg type evenOnError, .queueRegistration i,
    .engineTurn t, .engineTurn t, .awaited i true, .awaited j true, .release j]

/-- **A registration and an unregistration of one configuration that overlap**
may both be answered `Ok` and leave an entry whose handler is free for anyone. -/
theorem overlap_leaves_entry (d : Deps) (hs : s.Sound) {t : T} {cfg : ListenerConfig L} {type : RegistrationType}
    {order : IterOrder MessageHandlerId} {id : MessageHandlerId} {key key' : HandlerKey} {i j : I} (hij : i ≠ j)
    (hi : s.parts i = .between) (hj : s.parts j = .between) (hidle : (s.engine t).Idle)
    (ha : (s.process.handlers.lock t).Available order cfg id)
    (hregister : registerKey type cfg.sourceFilter cfg.sinkFilter = some key)
    (hunregister : unregisterKey type cfg.sourceFilter cfg.sinkFilter = some key') (evenOnError : Bool) :
    let events := overlap i j t cfg type order evenOnError
    let s' := Runs.after (step d) s events
    ∃ (fn : MessageHandlerFnPtr) (app : VsomeipApplication),
      some (.answered ⟨t, some key, cfg⟩ (some fn)) ∈ Runs.outputs (step d) s events ∧
      some (.answered ⟨t, some key', cfg⟩ none) ∈ Runs.outputs (step d) s events ∧ s'.parts = s.parts ∧
      (s'.engine t).state.application = some app ∧ app.handlers key = some fn ∧
      s'.process.handlers.freeMessageHandlerIds = s.process.handlers.freeMessageHandlerIds ∧
      fn.id ∈ s.process.handlers.freeMessageHandlerIds := by
  intro events s'
  have hfree : id ∈ s.process.handlers.freeMessageHandlerIds := order.next_mem ha.picked
  have hid : id < numMessageHandlers := (hs.pool.ids id).2 (.inl hfree)
  obtain ⟨maps, hb, hget⟩ := MessageHandlers.getMessageHandler_available d.up ha hid
  let fn : MessageHandlerFnPtr := ⟨id, hid⟩
  let unregister : TransportCommand := .unregisterListener cfg.sourceFilter cfg.sinkFilter type
  let register : TransportCommand := .registerListener cfg.sourceFilter cfg.sinkFilter type fn
  -- `i` has its handler when `j` queues the unregistration, and queues the registration then.
  let s₁ := (s.setHandlers (s.process.handlers.unlock t maps)).setPart i (.reserved t cfg type fn)
  have h₁ : step d s (.takeHandler i t cfg type order) = (s₁, some (.begun ⟨t, some key, cfg⟩)) := by
    rw [takeHandler_between hi hget, hregister]
  let s₂ := (s₁.queueCommand t unregister).setPart j (.unregistering t cfg type evenOnError s.opened)
  have h₂ : step d s₁ (.queueUnregistration j t cfg type evenOnError) = (s₂, some (.begun ⟨t, some key', cfg⟩)) := by
    have hj₁ : s₁.parts j = .between := (Function.update_of_ne hij.symm _ _).trans hj
    rw [queueUnregistration_between hj₁ hidle.running, hunregister]
    rfl
  let s₃ := (s₂.queueCommand t register).setPart i (.registering t cfg type fn (s.opened + 1))
  have hengine₂ : s₂.engine t = ⟨(s.engine t).state, true, [unregister]⟩ := queued_engine hidle.eq_mk unregister
  have h₃ : step d s₂ (.queueRegistration i) = (s₃, none) := by
    have hi₂ : s₂.parts i = .reserved t cfg type fn :=
      (Function.update_of_ne hij _ _).trans (Function.update_self _ _ _)
    rw [queueRegistration_reserved hi₂ (congrArg Engine.running hengine₂)]
    rfl
  have hengine₃ : s₃.engine t = ⟨(s.engine t).state, true, [unregister, register]⟩ := queued_engine hengine₂ register
  have hchannels₃ : s₃.channels t = [s.opened, s.opened + 1] := by
    simp [s₃, s₂, s₁, setPart, queueCommand, setHandlers, hs.coherent.channels_idle hidle]
  -- Both are answered, and the application has what it was told last.
  let s₅ := s₃.turns d t [unregister, register].length
  obtain ⟨hparts₅, hhandlers₅, hanswers₅, -, hengine₅⟩ := turns_ok (d := d) hengine₃ hchannels₃ (by simp) rfl
    hidle.application (by simpa using ⟨⟨_, hunregister⟩, ⟨_, hregister⟩⟩)
  have hrests : (s₅.engine t).Rests key (some fn) := by
    rw [hengine₅]
    exact Engine.Rests.processed (show register.key = some key from hregister) (by simp)
  have happ₅ : (s₅.engine t).state.application.isSome = true := by
    rw [hengine₅]
    exact ((processCommand_application d _ register).trans (processCommand_application d _ unregister)).trans
      hidle.application
  obtain ⟨app, happ⟩ := Option.isSome_iff_exists.1 happ₅
  have hi₅ : s₅.parts i = .registering t cfg type fn (s.opened + 1) :=
    (congrFun hparts₅ i).trans (Function.update_self _ _ _)
  have h₆ : step d s₅ (.awaited i true) =
      (s₅.setPart i .between, some (.answered ⟨t, some key, cfg⟩ (some fn))) := by
    rw [awaited_registered hi₅ (hanswers₅ _ (by simp)), hregister]
  let s₇ := (s₅.setPart i .between).setPart j (.releasing t cfg)
  have h₇ : step d (s₅.setPart i .between) (.awaited j true) =
      (s₇, some (.answered ⟨t, some key', cfg⟩ none)) := by
    have hj₆ : (s₅.setPart i .between).parts j = .unregistering t cfg type evenOnError s.opened := by
      refine (Function.update_of_ne hij.symm _ _).trans ((congrFun hparts₅ j).trans ?_)
      exact (Function.update_of_ne hij.symm _ _).trans (Function.update_self _ _ _)
    rw [awaited_unregistered hj₆ (hanswers₅ _ (by simp)), hunregister]
  have h₈ := release_releasing (d := d) (s := s₇) (i := j) (Function.update_self _ _ _)
  have hrun : s' = (s₇.setHandlers (s₇.process.handlers.releaseMessageHandler t cfg).2).setPart j .between := by
    simp only [s', events, overlap, Runs.after_cons, Runs.after_nil, h₁, h₂, h₃]
    show (step d (step d (step d s₅ _).1 _).1 _).1 = _
    rw [h₆, h₇, h₈]
  have hremarks : Runs.outputs (step d) s events = [some (.begun ⟨t, some key, cfg⟩),
      some (.begun ⟨t, some key', cfg⟩), none, none, none, some (.answered ⟨t, some key, cfg⟩ (some fn)),
      some (.answered ⟨t, some key', cfg⟩ none), (step d s₇ (.release j)).2] := by
    simp only [events, overlap, Runs.outputs_cons, Runs.outputs_nil, h₁, h₂, h₃]
    show _ :: _ :: _ :: _ :: _ :: (step d s₅ _).2 :: (step d (step d s₅ _).1 _).2 ::
      [(step d (step d (step d s₅ _).1 _).1 _).2] = _
    rw [h₆, h₇]
    rfl
  refine ⟨fn, app, by simp [hremarks], by simp [hremarks], ?_, ?_, hrests.entry app happ, ?_, hfree⟩
  · rw [hrun]
    funext k
    show Function.update (Function.update (Function.update s₅.parts i _) j _) j _ k = s.parts k
    rw [Function.update_idem, hparts₅]
    simp only [s₃, s₂, s₁, setPart, queueCommand, setHandlers]
    by_cases hkj : k = j
    · rw [hkj, Function.update_self, hj]
    · by_cases hki : k = i
      · rw [hki, Function.update_of_ne hij, Function.update_self, hi]
      · simp [hkj, hki]
  · rw [hrun]
    exact happ
  · rw [hrun]
    show (s₅.process.handlers.releaseMessageHandler t cfg).2.freeMessageHandlerIds = _
    rw [hhandlers₅]
    exact free_again ha hb

theorem overlap_leaves_entry_sample : ∃ (s' : Concurrent Unit Unit Bool) (fn : MessageHandlerFnPtr)
    (app : VsomeipApplication),
    s' = Runs.after (step .accepting) (start Process.sampleConfig)
      (overlap false true () sampleListener .request .least true) ∧
    (s'.engine ()).state.application = some app ∧ app.handlers ⟨10, anyInstance, 20⟩ = some fn ∧
    fn.id ∈ s'.process.handlers.freeMessageHandlerIds := by
  have hs : (start Process.sampleConfig : Concurrent Unit Unit Bool).Sound := .start Process.sampleConfig
  obtain ⟨fn, app, -, -, -, happ, hfn, hfree, hid⟩ := overlap_leaves_entry .accepting hs Bool.false_ne_true rfl
    rfl Process.sample_idle (MessageHandlers.available_new () sampleListener) sampleListener_key rfl true
  refine ⟨_, fn, app, rfl, happ, hfn, ?_⟩
  rw [hfree]
  exact hid

end

end Concurrent

end VsomeipTransport
