/-
Start-ups side by side: whether the `Ok` of `create_app` stands for its own
application being registered.

The channel of an id outlives the application that used it, and the state
that is received is not looked at. So an `Ok` may come from what the earlier
application with the id left in the channel, or from an `ST_DEREGISTERED`
(`startUp_without_registration`). Where an id is only taken with nothing left
of it, and the first event of a start-up is no `ST_DEREGISTERED`, every `Ok`
is the start-up's own (`startUps_truthful`): a start-up does not share its id
(`Honest.leases`), so what gets into its channel is its application's
(`Honest.stage`).
-/
import VsomeipTransport.CreateApp
import VsomeipTransport.Lib.Leases
import VsomeipTransport.Lib.Runs

namespace VsomeipTransport

/-- The state handler a start-up still has to do with. -/
def StartUp.handler : StartUp → Option AvailableStateHandlerFnPtr
  | .holding fn | .waiting fn | .received fn | .unregistered fn => some fn
  | _ => none

theorem StateEvent.eq_registered {I : Type} {event : StateEvent I} {i : I} (hraised : event.raisedBy = i)
    (hstate : event.state ≠ .stDeregistered) : event = ⟨i, .stRegistered⟩ := by
  obtain ⟨raisedBy, state⟩ := event
  cases state with
  | stRegistered => exact congrArg (StateEvent.mk · .stRegistered) hraised
  | stDeregistered => exact absurd rfl hstate

namespace StartUps

variable {I : Type} [DecidableEq I] {appName : I → ApplicationName} {s : StartUps I} {i : I}

/-! ## Truth -/

def reached (appName : I → ApplicationName) (events : List (StartEvent I)) : StartUps I :=
  Runs.after (step appName) start events

/-- The application of `i` raised the state, with its state handler there. -/
def Raised (appName : I → ApplicationName) (events : List (StartEvent I)) (event : StateEvent I) : Prop :=
  ∃ pre post, events = pre ++ .stateCallback event.raisedBy event.state :: post ∧
    (reached appName pre).installed event.raisedBy ≠ none

/-- A start-up returns `Ok` only for an `ST_REGISTERED` of its own application. -/
def Truthful (appName : I → ApplicationName) (events : List (StartEvent I)) : Prop :=
  ∀ i, (reached appName events).startUps i = .ended (.returned (.ok ())) →
    (reached appName events).received i = some ⟨i, .stRegistered⟩ ∧ Raised appName events ⟨i, .stRegistered⟩

/-! ## What a step does -/

/-- The changes of a step, each with what it is sure of. -/
inductive Change (appName : I → ApplicationName) (s : StartUps I) : StartEvent I → StartUps I → Prop
  | nothing {e : StartEvent I} : Change appName s e s
  | found {i : I} (h : s.startUps i = .notStarted) : Change appName s (.findApplication i) (s.setStartUp i .unused)
  | failed {e : StartEvent I} {i : I} {res : Outcome (Except UStatus Unit)} {free : Finset StateHandlerId}
      (hres : res ≠ .returned (.ok ())) (hfree : free ⊆ s.handlers.freeStateHandlerIds) :
      Change appName s e { s.setStartUp i (.ended res) with handlers := { s.handlers with freeStateHandlerIds := free } }
  | took {i : I} {order : IterOrder StateHandlerId} (fn : AvailableStateHandlerFnPtr) (h : s.startUps i = .unused)
      (hnext : order.next s.handlers.freeStateHandlerIds = some fn.id) :
      Change appName s (.findId i order) { s.setStartUp i (.holding fn) with
        handlers := { s.handlers with freeStateHandlerIds := s.handlers.freeStateHandlerIds.erase fn.id } }
  | created {i : I} {fn : AvailableStateHandlerFnPtr} (h : s.startUps i = .holding fn) :
      Change appName s (.createApplication i true) { s.setStartUp i (.waiting fn) with
        applications := insert (appName i) s.applications
        installed := Function.update s.installed i (some fn) }
  | received {i : I} {fn : AvailableStateHandlerFnPtr} {event : StateEvent I} {events : List (StateEvent I)}
      (h : s.startUps i = .waiting fn) (hchannel : s.handlers.channels fn.id = event :: events) :
      Change appName s (.receive i) { s.setStartUp i (.received fn) with
        handlers := { s.handlers with channels := Function.update s.handlers.channels fn.id events }
        received := Function.update s.received i (some event) }
  | unregistered {i : I} {fn : AvailableStateHandlerFnPtr} (h : s.startUps i = .received fn) :
      Change appName s (.unregister i) { s.setStartUp i (.unregistered fn) with
        installed := Function.update s.installed i none }
  | freed {i : I} {fn : AvailableStateHandlerFnPtr} (h : s.startUps i = .unregistered fn) :
      Change appName s (.freeId i) { s.setStartUp i (.ended (.returned (.ok ()))) with
        handlers := { s.handlers with freeStateHandlerIds := insert fn.id s.handlers.freeStateHandlerIds } }
  | raised {i : I} {state : StateType} {fn : AvailableStateHandlerFnPtr} (h : s.installed i = some fn) :
      Change appName s (.stateCallback i state) { s with callbacks := s.callbacks ++ [(fn.id, ⟨i, state⟩)] }
  | sent {n : ℕ} {id : StateHandlerId} {event : StateEvent I} (h : s.callbacks[n]? = some (id, event)) :
      Change appName s (.send n) { s with
        handlers := { s.handlers with
          channels := Function.update s.handlers.channels id (s.handlers.channels id ++ [event]) }
        callbacks := s.callbacks.eraseIdx n }
  | gone {name : ApplicationName} :
      Change appName s (.applicationGone name) { s with applications := s.applications.erase name }

theorem fail_change (e : StartEvent I) (i : I) (code : UCode) (message : String) :
    Change appName s e (s.fail i code message) :=
  .failed (by simp) (Finset.Subset.refl _)

theorem findId_change (i : I) (order : IterOrder StateHandlerId) :
    Change appName s (.findId i order) (s.next appName (.findId i order)) := by
  simp only [next, StateHandlers.findAvailableStateHandlerId]
  cases hi : s.startUps i with
  | unused =>
    cases hnext : order.next s.handlers.freeStateHandlerIds with
    | none => exact .failed (by simp) (Finset.Subset.refl _)
    | some id =>
      by_cases hlt : id < numStateHandlers
      · simp only [StateHandlers.getStateHandler, hlt, dite_true]
        exact .took ⟨id, hlt⟩ hi hnext
      · simp only [StateHandlers.getStateHandler, hlt, dite_false]
        exact .failed (by simp) (Finset.erase_subset _ _)
  | _ => exact .nothing

/-- **What a step can do.** -/
theorem next_change (e : StartEvent I) : Change appName s e (s.next appName e) := by
  cases e with
  | findApplication i =>
    simp only [next]
    cases hi : s.startUps i with
    | notStarted =>
      by_cases hname : appName i ∈ s.applications
      · simp only [hname, if_true]; exact fail_change _ i _ _
      · simp only [hname, if_false]; exact .found hi
    | _ => exact .nothing
  | findId i order => exact findId_change i order
  | createApplication i created =>
    simp only [next]
    cases hi : s.startUps i with
    | holding fn =>
      cases created with
      | true => exact .created hi
      | false => exact fail_change _ i _ _
    | _ => exact .nothing
  | receive i =>
    simp only [next, StateHandlers.receive]
    cases hi : s.startUps i with
    | waiting fn =>
      cases hchannel : s.handlers.channels fn.id with
      | nil => simp only [hchannel]; exact .nothing
      | cons event events => simp only [hchannel]; exact .received hi hchannel
    | _ => exact .nothing
  | timeOut i =>
    simp only [next]
    cases hi : s.startUps i with
    | waiting fn =>
      cases hreceive : s.handlers.receive fn.id with
      | none => simp only [hreceive]; exact fail_change _ i _ _
      | some => simp only [hreceive]; exact .nothing
    | _ => exact .nothing
  | unregister i =>
    simp only [next]
    cases hi : s.startUps i with
    | received fn => exact .unregistered hi
    | _ => exact .nothing
  | freeId i =>
    simp only [next, StateHandlers.freeStateHandlerId]
    cases hi : s.startUps i with
    | unregistered fn => exact .freed hi
    | _ => exact .nothing
  | stateCallback i state =>
    simp only [next]
    cases hi : s.installed i with
    | some fn => exact .raised hi
    | none => exact .nothing
  | send n =>
    simp only [next, StateHandlers.send]
    cases hn : s.callbacks[n]? with
    | none => exact .nothing
    | some callback =>
      by_cases hlen : (s.handlers.channels callback.1).length < stateChannelCapacity
      · simp only [hlen, if_true]; exact .sent hn
      · simp only [hlen, if_false]; exact .nothing
  | applicationGone name => exact .gone

/-! ## Where events come from -/

/-- An event that is on its way, in a channel or received. -/
inductive Present (s : StartUps I) (event : StateEvent I) : Prop
  | onItsWay {id : StateHandlerId} (h : (id, event) ∈ s.callbacks)
  | queued {id : StateHandlerId} (h : event ∈ s.handlers.channels id)
  | received {i : I} (h : s.received i = some event)

omit [DecidableEq I] in
theorem start_present {event : StateEvent I} (h : (start : StartUps I).Present event) : False := by
  cases h with
  | onItsWay h => cases h
  | queued h => cases h
  | received h => cases h

omit [DecidableEq I] in
/-- With channels, callbacks and received events as before, so are the events. -/
theorem Present.of_eq {s' : StartUps I} {event : StateEvent I} (h : s'.Present event)
    (hchannels : s'.handlers.channels = s.handlers.channels) (hcallbacks : s'.callbacks = s.callbacks)
    (hreceived : s'.received = s.received) : s.Present event := by
  cases h with
  | onItsWay h => exact .onItsWay (hcallbacks ▸ h)
  | queued h => exact .queued (hchannels ▸ h)
  | received h => exact .received (hreceived ▸ h)

omit [DecidableEq I] in
theorem mem_update {channels : StateHandlerId → List (StateEvent I)} {id id' : StateHandlerId}
    {queue : List (StateEvent I)} {event : StateEvent I} (h : event ∈ Function.update channels id queue id') :
    event ∈ queue ∨ event ∈ channels id' := by
  by_cases hid : id' = id
  · subst hid
    rw [Function.update_self] at h
    exact .inl h
  · rw [Function.update_of_ne hid] at h
    exact .inr h

/-- An event is new only when its application raises it. -/
theorem Change.present {e : StartEvent I} {s' : StartUps I} {event : StateEvent I} (hc : Change appName s e s')
    (h : s'.Present event) :
    s.Present event ∨ (e = .stateCallback event.raisedBy event.state ∧ s.installed event.raisedBy ≠ none) := by
  cases hc with
  | raised hi =>
    cases h with
    | onItsWay h =>
      rw [List.mem_append, List.mem_singleton] at h
      rcases h with h | h
      · exact .inl (.onItsWay h)
      · cases h; exact .inr ⟨rfl, by simp [hi]⟩
    | queued h => exact .inl (.queued h)
    | received h => exact .inl (.received h)
  | sent hn =>
    cases h with
    | onItsWay h => exact .inl (.onItsWay (List.mem_of_mem_eraseIdx h))
    | queued h =>
      rcases mem_update h with h | h
      · rw [List.mem_append, List.mem_singleton] at h
        rcases h with h | rfl
        · exact .inl (.queued h)
        · exact .inl (.onItsWay (List.mem_of_getElem? hn))
      · exact .inl (.queued h)
    | received h => exact .inl (.received h)
  | received hi hchannel =>
    cases h with
    | onItsWay h => exact .inl (.onItsWay h)
    | queued h =>
      rcases mem_update h with h | h
      · exact .inl (.queued (hchannel ▸ List.mem_cons_of_mem _ h))
      · exact .inl (.queued h)
    | @received j h =>
      simp only [Function.update_apply] at h
      split at h
      · cases h; exact .inl (.queued (hchannel ▸ List.mem_cons_self))
      · exact .inl (.received h)
  | _ => exact .inl (h.of_eq rfl rfl rfl)

/-- Every event was raised by an application that had its state handler. -/
theorem Present.raised {events : List (StartEvent I)} {event : StateEvent I}
    (h : (reached appName events).Present event) : Raised appName events event := by
  induction events using List.reverseRecOn with
  | nil => exact (start_present h).elim
  | append_singleton events e ih =>
    rw [reached, Runs.after_concat] at h
    rcases (next_change e).present h with hold | ⟨rfl, hinstalled⟩
    · obtain ⟨pre, post, rfl, hinstalled⟩ := ih hold
      exact ⟨pre, post ++ [e], by simp, hinstalled⟩
    · exact ⟨events, [], rfl, hinstalled⟩

/-! ## Ids and channels -/

/-- The start-up or its application has to do with the id. -/
def Holds (s : StartUps I) (i : I) (id : StateHandlerId) : Prop :=
  ∃ fn, fn.id = id ∧ ((s.startUps i).handler = some fn ∨ s.installed i = some fn)

/-- Nothing is left of who had the id before. -/
def Quiet (s : StartUps I) (id : StateHandlerId) : Prop :=
  s.handlers.channels id = [] ∧ ∀ event, (id, event) ∉ s.callbacks

/-- What a start-up can rely on where it stands. -/
def Stage (s : StartUps I) (i : I) : Prop :=
  match s.startUps i with
  | .notStarted | .unused => s.installed i = none
  | .holding fn => s.installed i = none ∧ s.Quiet fn.id
  | .waiting fn => (∀ event, (fn.id, event) ∈ s.callbacks → event.raisedBy = i) ∧
      ∀ event, (s.handlers.channels fn.id).head? = some event → event = ⟨i, .stRegistered⟩
  | .received _ => s.received i = some ⟨i, .stRegistered⟩
  | .unregistered _ => s.installed i = none ∧ s.received i = some ⟨i, .stRegistered⟩
  | .ended res => res = .returned (.ok ()) → s.received i = some ⟨i, .stRegistered⟩

structure Honest (s : StartUps I) : Prop where
  leases : Leases.Exclusive s.handlers.freeStateHandlerIds s.Holds
  stage : ∀ i, s.Stage i

/-- An id is taken with nothing left of it, and the first event a waiting
start-up gets is no `ST_DEREGISTERED`. -/
def Clean (s : StartUps I) : StartEvent I → Prop
  | .findId i order => ∀ id, s.startUps i = .unused → order.next s.handlers.freeStateHandlerIds = some id →
      s.Quiet id
  | .send n => ∀ i fn event, s.startUps i = .waiting fn → s.callbacks[n]? = some (fn.id, event) →
      s.handlers.channels fn.id = [] → event.state ≠ .stDeregistered
  | _ => True

variable {s' : StartUps I}

omit [DecidableEq I] in
theorem start_honest : Honest (start : StartUps I) where
  leases :=
    have hnone : ∀ {i : I} {id : StateHandlerId}, ¬ (start : StartUps I).Holds i id := by
      rintro i id ⟨fn, -, h | h⟩ <;> cases h
    ⟨fun h => (hnone h).elim, fun h => (hnone h).elim⟩
  stage _ := rfl

omit [DecidableEq I] in
theorem holds_handler {i : I} {fn : AvailableStateHandlerFnPtr} (h : (s.startUps i).handler = some fn) :
    s.Holds i fn.id := ⟨fn, rfl, .inl h⟩

omit [DecidableEq I] in
/-- Two that have to do with an id are one. -/
theorem Honest.same (h : Honest s) {i j : I} {fn fn' : AvailableStateHandlerFnPtr}
    (hi : (s.startUps i).handler = some fn) (hj : s.installed j = some fn') (he : fn'.id = fn.id) : j = i :=
  h.leases.once ⟨fn', he, .inr hj⟩ (holds_handler hi)

omit [DecidableEq I] in
/-- A stage is about the start-up itself and the channels of its ids. -/
theorem Stage.congr (h : s.Stage i) (hstartUp : s'.startUps i = s.startUps i)
    (hinstalled : s'.installed i = s.installed i) (hreceived : s'.received i = s.received i)
    (hchannels : ∀ id, s.Holds i id → s'.handlers.channels id = s.handlers.channels id)
    (hcallbacks : s'.callbacks = s.callbacks) : s'.Stage i := by
  simp only [Stage, Quiet, hstartUp, hinstalled, hreceived, hcallbacks] at h ⊢
  cases hi : s.startUps i with
  | holding fn | waiting fn =>
    have hchannel := hchannels fn.id (holds_handler (by rw [hi]; rfl))
    simpa only [hi, hchannel] using h
  | _ => simpa only [hi] using h

/-- Only the start-up `i` is different. -/
structure OnlyAt (i : I) (s s' : StartUps I) : Prop where
  startUps : ∀ j ≠ i, s'.startUps j = s.startUps j
  installed : ∀ j ≠ i, s'.installed j = s.installed j
  received : ∀ j ≠ i, s'.received j = s.received j
  callbacks : s'.callbacks = s.callbacks

omit [DecidableEq I] in
theorem OnlyAt.holds_of_ne (ho : OnlyAt i s s') {j : I} {id : StateHandlerId} (hj : j ≠ i) (h : s'.Holds j id) :
    s.Holds j id := by
  simpa only [Holds, ho.startUps j hj, ho.installed j hj] using h

omit [DecidableEq I] in
/-- Where `i` only has what it had, so have all. -/
theorem OnlyAt.holds (ho : OnlyAt i s s')
    (hhandler : ∀ fn, (s'.startUps i).handler = some fn → (s.startUps i).handler = some fn)
    (hinstalled : ∀ fn, s'.installed i = some fn → (s.startUps i).handler = some fn ∨ s.installed i = some fn)
    (j : I) (id : StateHandlerId) (h : s'.Holds j id) : s.Holds j id := by
  by_cases hj : j = i
  · subst hj
    obtain ⟨fn, hid, hfn | hfn⟩ := h
    · exact ⟨fn, hid, .inl (hhandler fn hfn)⟩
    · exact ⟨fn, hid, hinstalled fn hfn⟩
  · exact ho.holds_of_ne hj h

omit [DecidableEq I] in
/-- The start-up `i` moves on and the others do not see it. -/
theorem Honest.move (h : Honest s) (ho : OnlyAt i s s')
    (hchannels : ∀ j ≠ i, ∀ id, s.Holds j id → s'.handlers.channels id = s.handlers.channels id)
    (hleases : Leases.Exclusive s'.handlers.freeStateHandlerIds s'.Holds) (hstage : s'.Stage i) : Honest s' where
  leases := hleases
  stage j := by
    by_cases hj : j = i
    · exact hj ▸ hstage
    · exact (h.stage j).congr (ho.startUps j hj) (ho.installed j hj) (ho.received j hj) (hchannels j hj) ho.callbacks

/-! ## Steps -/

omit [DecidableEq I] in
/-- A raised event goes where only its application's start-up looks. -/
theorem Honest.raise (h : Honest s) {fn : AvailableStateHandlerFnPtr} {state : StateType}
    (hi : s.installed i = some fn) : Honest { s with callbacks := s.callbacks ++ [(fn.id, ⟨i, state⟩)] } where
  leases := h.leases
  stage j := by
    have hstage := h.stage j
    simp only [Stage, Quiet, List.mem_append, List.mem_singleton, Prod.mk.injEq] at hstage ⊢
    cases hj : s.startUps j with
    | holding fn' =>
      simp only [hj] at hstage ⊢
      obtain ⟨hnone, hempty, hcallbacks⟩ := hstage
      refine ⟨hnone, hempty, fun event hm => ?_⟩
      rcases hm with hm | ⟨hid, -⟩
      · exact hcallbacks event hm
      · obtain rfl := h.same (by rw [hj]; rfl) hi hid.symm
        rw [hnone] at hi
        cases hi
    | waiting fn' =>
      simp only [hj] at hstage ⊢
      obtain ⟨hcallbacks, hhead⟩ := hstage
      refine ⟨fun event hm => ?_, hhead⟩
      rcases hm with hm | ⟨hid, rfl⟩
      · exact hcallbacks event hm
      · exact h.same (by rw [hj]; rfl) hi hid.symm
    | _ => simpa only [hj] using hstage

omit [DecidableEq I] in
/-- So does what is put in a channel. -/
theorem Honest.send (h : Honest s) {n : ℕ} {id : StateHandlerId} {event : StateEvent I}
    (hn : s.callbacks[n]? = some (id, event)) (hclean : s.Clean (.send n)) :
    Honest { s with
      handlers := { s.handlers with
        channels := Function.update s.handlers.channels id (s.handlers.channels id ++ [event]) }
      callbacks := s.callbacks.eraseIdx n } where
  leases := h.leases
  stage j := by
    have hmem := List.mem_of_getElem? hn
    have hstage := h.stage j
    simp only [Stage, Quiet] at hstage ⊢
    cases hj : s.startUps j with
    | holding fn =>
      simp only [hj] at hstage ⊢
      obtain ⟨hnone, hempty, hcallbacks⟩ := hstage
      have hid : fn.id ≠ id := fun he => hcallbacks event (he ▸ hmem)
      refine ⟨hnone, by rw [Function.update_of_ne hid]; exact hempty, fun event' hm => ?_⟩
      exact hcallbacks event' (List.mem_of_mem_eraseIdx hm)
    | waiting fn =>
      simp only [hj] at hstage ⊢
      obtain ⟨hcallbacks, hhead⟩ := hstage
      refine ⟨fun event' hm => hcallbacks event' (List.mem_of_mem_eraseIdx hm), fun event' he => ?_⟩
      by_cases hid : fn.id = id
      · subst hid
        rw [Function.update_self] at he
        cases hchannel : s.handlers.channels fn.id with
        | nil =>
          rw [hchannel] at he
          cases he
          exact StateEvent.eq_registered (hcallbacks event hmem) (hclean j fn event hj hn hchannel)
        | cons first rest =>
          rw [hchannel] at he hhead
          exact hhead event' he
      · rw [Function.update_of_ne hid] at he
        exact hhead event' he
    | _ => simpa only [hj] using hstage

theorem setStartUp_onlyAt (s : StartUps I) (i : I) (startUp : StartUp) (handlers : StateHandlers I) :
    OnlyAt i s { s.setStartUp i startUp with handlers := handlers } :=
  ⟨fun _ hj => Function.update_of_ne hj _ _, fun _ _ => rfl, fun _ _ => rfl, rfl⟩

theorem Honest.found (h : Honest s) (hi : s.startUps i = .notStarted) : Honest (s.setStartUp i .unused) := by
  have ho := setStartUp_onlyAt s i .unused s.handlers
  refine h.move ho (fun _ _ _ _ => rfl) (h.leases.mono (Finset.Subset.refl _) (ho.holds ?_ fun _ => .inr)) ?_
  · simp [setStartUp, StartUp.handler]
  · have hstage := h.stage i
    simp only [Stage, hi] at hstage
    simpa only [Stage, setStartUp, Function.update_self] using hstage

/-- A start-up that ends without `Ok` gives nothing back. -/
theorem Honest.failed (h : Honest s) (i : I) {res : Outcome (Except UStatus Unit)} {free : Finset StateHandlerId}
    (hres : res ≠ .returned (.ok ())) (hfree : free ⊆ s.handlers.freeStateHandlerIds) :
    Honest { s.setStartUp i (.ended res) with handlers := { s.handlers with freeStateHandlerIds := free } } := by
  have ho := setStartUp_onlyAt s i (.ended res) { s.handlers with freeStateHandlerIds := free }
  refine h.move ho (fun _ _ _ _ => rfl) (h.leases.mono hfree (ho.holds ?_ fun _ => .inr)) ?_
  · simp [setStartUp, StartUp.handler]
  · simp [Stage, setStartUp, hres]

theorem Honest.took (h : Honest s) {order : IterOrder StateHandlerId} {fn : AvailableStateHandlerFnPtr}
    (hi : s.startUps i = .unused) (hnext : order.next s.handlers.freeStateHandlerIds = some fn.id)
    (hquiet : s.Quiet fn.id) :
    Honest { s.setStartUp i (.holding fn) with
      handlers := { s.handlers with freeStateHandlerIds := s.handlers.freeStateHandlerIds.erase fn.id } } := by
  have ho := setStartUp_onlyAt s i (.holding fn)
    { s.handlers with freeStateHandlerIds := s.handlers.freeStateHandlerIds.erase fn.id }
  refine h.move ho (fun _ _ _ _ => rfl) (h.leases.take (order.next_mem hnext) (i := i) fun j id hj => ?_) ?_
  · by_cases he : j = i
    · subst he
      obtain ⟨fn', rfl, hfn | hfn⟩ := hj
      · simp only [setStartUp, Function.update_self, StartUp.handler, Option.some.injEq] at hfn
        subst hfn
        exact .inr ⟨rfl, rfl⟩
      · exact .inl ⟨fn', rfl, .inr hfn⟩
    · exact .inl (ho.holds_of_ne he hj)
  · have hstage := h.stage i
    simp only [Stage, hi] at hstage
    simpa only [Stage, setStartUp, Function.update_self] using ⟨hstage, hquiet⟩

/-- The application has the state handler from now on, and no event yet. -/
theorem Honest.created (h : Honest s) {fn : AvailableStateHandlerFnPtr} (hi : s.startUps i = .holding fn)
    (applications : Finset ApplicationName) :
    Honest { s.setStartUp i (.waiting fn) with
      applications := applications
      installed := Function.update s.installed i (some fn) } := by
  have ho : OnlyAt i s { s.setStartUp i (.waiting fn) with
      applications := applications
      installed := Function.update s.installed i (some fn) } :=
    ⟨fun _ hj => Function.update_of_ne hj _ _, fun _ hj => Function.update_of_ne hj _ _, fun _ _ => rfl, rfl⟩
  have hheld : (s.startUps i).handler = some fn := by rw [hi]; rfl
  refine h.move ho (fun _ _ _ _ => rfl) (h.leases.mono (Finset.Subset.refl _) (ho.holds ?_ ?_)) ?_
  · simp [setStartUp, StartUp.handler, hi]
  · intro fn' hfn
    simp only [Function.update_self] at hfn
    exact .inl (hheld.trans hfn)
  · have hstage := h.stage i
    simp only [Stage, hi] at hstage
    obtain ⟨-, hempty, hcallbacks⟩ := hstage
    simp only [Stage, setStartUp, Function.update_self, hempty, List.head?_nil]
    exact ⟨fun event hm => absurd hm (hcallbacks event), fun event he => by cases he⟩

/-- What a start-up receives is its own. -/
theorem Honest.received (h : Honest s) {fn : AvailableStateHandlerFnPtr} {event : StateEvent I}
    {events : List (StateEvent I)} (hi : s.startUps i = .waiting fn)
    (hchannel : s.handlers.channels fn.id = event :: events) :
    Honest { s.setStartUp i (.received fn) with
      handlers := { s.handlers with channels := Function.update s.handlers.channels fn.id events }
      received := Function.update s.received i (some event) } := by
  have ho : OnlyAt i s { s.setStartUp i (.received fn) with
      handlers := { s.handlers with channels := Function.update s.handlers.channels fn.id events }
      received := Function.update s.received i (some event) } :=
    ⟨fun _ hj => Function.update_of_ne hj _ _, fun _ _ => rfl, fun _ hj => Function.update_of_ne hj _ _, rfl⟩
  have hheld : (s.startUps i).handler = some fn := by rw [hi]; rfl
  refine h.move ho (fun j hj id hid => ?_) (h.leases.mono (Finset.Subset.refl _) (ho.holds ?_ fun _ => .inr)) ?_
  · have hne : id ≠ fn.id := fun he => hj (h.leases.once hid (he ▸ holds_handler hheld))
    exact Function.update_of_ne hne _ _
  · simp [setStartUp, StartUp.handler, hi]
  · have hstage := h.stage i
    simp only [Stage, hi, hchannel, List.head?_cons] at hstage
    simp only [Stage, setStartUp, Function.update_self, hstage.2 event rfl]

theorem Honest.unregistered (h : Honest s) {fn : AvailableStateHandlerFnPtr} (hi : s.startUps i = .received fn) :
    Honest { s.setStartUp i (.unregistered fn) with installed := Function.update s.installed i none } := by
  have ho : OnlyAt i s { s.setStartUp i (.unregistered fn) with installed := Function.update s.installed i none } :=
    ⟨fun _ hj => Function.update_of_ne hj _ _, fun _ hj => Function.update_of_ne hj _ _, fun _ _ => rfl, rfl⟩
  refine h.move ho (fun _ _ _ _ => rfl) (h.leases.mono (Finset.Subset.refl _) (ho.holds ?_ ?_)) ?_
  · simp [setStartUp, StartUp.handler, hi]
  · simp
  · have hstage := h.stage i
    simp only [Stage, hi] at hstage
    simpa only [Stage, setStartUp, Function.update_self, true_and] using hstage

/-- The id is given back when neither the start-up nor its application uses it. -/
theorem Honest.freed (h : Honest s) {fn : AvailableStateHandlerFnPtr} (hi : s.startUps i = .unregistered fn) :
    Honest { s.setStartUp i (.ended (.returned (.ok ()))) with
      handlers := { s.handlers with freeStateHandlerIds := insert fn.id s.handlers.freeStateHandlerIds } } := by
  have ho := setStartUp_onlyAt s i (.ended (.returned (.ok ())))
    { s.handlers with freeStateHandlerIds := insert fn.id s.handlers.freeStateHandlerIds }
  have hheld : (s.startUps i).handler = some fn := by rw [hi]; rfl
  have hstage := h.stage i
  simp only [Stage, hi] at hstage
  obtain ⟨hnone, hreceived⟩ := hstage
  have hgone : ∀ id, ¬ StartUps.Holds { s.setStartUp i (.ended (.returned (.ok ()))) with
      handlers := { s.handlers with freeStateHandlerIds := insert fn.id s.handlers.freeStateHandlerIds } } i id := by
    rintro id ⟨fn', -, hfn | hfn⟩
    · simp [setStartUp, StartUp.handler] at hfn
    · exact absurd (hnone.symm.trans hfn) (by simp)
  refine h.move ho (fun _ _ _ _ => rfl)
    (h.leases.give (holds_handler hheld) (ho.holds ?_ fun _ => .inr) (hgone fn.id)) ?_
  · simp [setStartUp, StartUp.handler]
  · simp only [Stage, setStartUp, Function.update_self]
    exact fun _ => hreceived

/-- **A clean step keeps it.** -/
theorem Change.honest {e : StartEvent I} (hc : Change appName s e s') (h : Honest s) (hclean : s.Clean e) :
    Honest s' := by
  cases hc with
  | nothing => exact h
  | found hi => exact h.found hi
  | failed hres hfree => exact h.failed _ hres hfree
  | took fn hi hnext => exact h.took hi hnext (hclean fn.id hi hnext)
  | created hi => exact h.created hi _
  | received hi hchannel => exact h.received hi hchannel
  | unregistered hi => exact h.unregistered hi
  | freed hi => exact h.freed hi
  | raised hi => exact h.raise hi
  | sent hn => exact h.send hn hclean
  | gone => exact ⟨h.leases, h.stage⟩

/-! ## Whole start-ups -/

/-- The first of the state handlers. -/
def firstFn : AvailableStateHandlerFnPtr := ⟨0, by decide⟩

/-- A start-up whose application raises these states before the first is
received. -/
def wholeStartUp (i : I) (states : List StateType) : List (StartEvent I) :=
  [.findApplication i, .findId i .least, .createApplication i true] ++
    states.flatMap (fun state => [.stateCallback i state, .send 0]) ++ [.receive i, .unregister i, .freeId i]

theorem after_begin (hfree : s.handlers.freeStateHandlerIds = Finset.range numStateHandlers)
    (hi : s.startUps i = .notStarted) (hname : appName i ∉ s.applications) :
    Runs.after (step appName) s [.findApplication i, .findId i .least, .createApplication i true] = { s with
      handlers := { s.handlers with freeStateHandlerIds := (Finset.range numStateHandlers).erase 0 }
      applications := insert (appName i) s.applications
      startUps := Function.update s.startUps i (.waiting firstFn)
      installed := Function.update s.installed i (some firstFn) } := by
  have hnext : IterOrder.least.next (Finset.range numStateHandlers) = some 0 :=
    IterOrder.least_next (Finset.mem_range.2 (by decide)) fun _ _ => Nat.zero_le _
  have hlt : 0 < numStateHandlers := by decide
  simp [step, next, setStartUp, StateHandlers.findAvailableStateHandlerId, StateHandlers.getStateHandler,
    hfree, hi, hname, hnext, hlt, firstFn]

theorem after_raise (fn : AvailableStateHandlerFnPtr) (states : List StateType) (hi : s.installed i = some fn)
    (hcallbacks : s.callbacks = [])
    (hlen : (s.handlers.channels fn.id).length + states.length ≤ stateChannelCapacity) :
    Runs.after (step appName) s (states.flatMap fun state => [.stateCallback i state, .send 0]) = { s with
      handlers := ⟨s.handlers.freeStateHandlerIds,
        Function.update s.handlers.channels fn.id (s.handlers.channels fn.id ++ states.map (⟨i, ·⟩))⟩ } := by
  induction states generalizing s with
  | nil => simp
  | cons state states ih =>
    rw [List.length_cons] at hlen
    have hroom : (s.handlers.channels fn.id).length < stateChannelCapacity := by omega
    have hsent : Runs.after (step appName) s [.stateCallback i state, .send 0] = { s with
        handlers := ⟨s.handlers.freeStateHandlerIds,
          Function.update s.handlers.channels fn.id (s.handlers.channels fn.id ++ [⟨i, state⟩])⟩ } := by
      simp [step, next, StateHandlers.send, hi, hcallbacks, hroom]
    rw [List.flatMap_cons, Runs.after_append, hsent, ih]
    · simp
    · exact hi
    · exact hcallbacks
    · simp only [Function.update_self, List.length_append, List.length_singleton]
      omega

theorem after_end (fn : AvailableStateHandlerFnPtr) (event : StateEvent I) (events : List (StateEvent I))
    (hi : s.startUps i = .waiting fn) (hchannel : s.handlers.channels fn.id = event :: events) :
    Runs.after (step appName) s [.receive i, .unregister i, .freeId i] = { s with
      handlers := ⟨insert fn.id s.handlers.freeStateHandlerIds, Function.update s.handlers.channels fn.id events⟩
      startUps := Function.update s.startUps i (.ended (.returned (.ok ())))
      installed := Function.update s.installed i none
      received := Function.update s.received i (some event) } := by
  simp [step, next, setStartUp, StateHandlers.receive, StateHandlers.freeStateHandlerId, hi, hchannel]

/-- It takes what is first in the channel, from wherever, and returns `Ok`. -/
theorem after_wholeStartUp (states : List StateType) (event : StateEvent I) (events : List (StateEvent I))
    (hfree : s.handlers.freeStateHandlerIds = Finset.range numStateHandlers)
    (hi : s.startUps i = .notStarted) (hname : appName i ∉ s.applications) (hcallbacks : s.callbacks = [])
    (hchannel : s.handlers.channels 0 ++ states.map (⟨i, ·⟩) = event :: events)
    (hlen : (s.handlers.channels 0).length + states.length ≤ stateChannelCapacity) :
    Runs.after (step appName) s (wholeStartUp i states) = { s with
      handlers := ⟨Finset.range numStateHandlers, Function.update s.handlers.channels 0 events⟩
      applications := insert (appName i) s.applications
      startUps := Function.update s.startUps i (.ended (.returned (.ok ())))
      installed := Function.update s.installed i none
      received := Function.update s.received i (some event) } := by
  have hmem : 0 ∈ Finset.range numStateHandlers := Finset.mem_range.2 (by decide)
  rw [wholeStartUp, Runs.after_append, Runs.after_append, after_begin hfree hi hname, after_raise firstFn states,
    after_end firstFn event events]
  · simp [firstFn, Finset.insert_erase hmem]
  · exact Function.update_self i _ _
  · have hfirst : firstFn.id = 0 := rfl
    simp only [hfirst, Function.update_self, hchannel]
  · exact Function.update_self i _ _
  · exact hcallbacks
  · exact hlen

/-- Two applications, each with its name. -/
def names : Bool → ApplicationName
  | false => "first"
  | true => "second"

/-- The first application raises both states before the first is received, the
second none. -/
def leftover : List (StartEvent Bool) :=
  wholeStartUp false [.stDeregistered, .stRegistered] ++ wholeStartUp true []

/-- Both start-ups return `Ok`: the first for its `ST_DEREGISTERED`, the second
for what the first left. -/
theorem startUp_without_registration :
    (∀ i, (reached names leftover).startUps i = .ended (.returned (.ok ()))) ∧
    (reached names leftover).received false = some ⟨false, .stDeregistered⟩ ∧
    (reached names leftover).received true = some ⟨false, .stRegistered⟩ ∧
    ¬ Truthful names leftover := by
  have hfree : (start : StartUps Bool).handlers.freeStateHandlerIds = Finset.range numStateHandlers := rfl
  have hreached : reached names leftover = { (start : StartUps Bool) with
      applications := {"second", "first"}
      startUps := Function.update (Function.update start.startUps false (.ended (.returned (.ok ())))) true
        (.ended (.returned (.ok ())))
      received := Function.update (Function.update start.received false (some ⟨false, .stDeregistered⟩)) true
        (some ⟨false, .stRegistered⟩) } := by
    rw [reached, leftover, Runs.after_append,
      after_wholeStartUp [.stDeregistered, .stRegistered] ⟨false, .stDeregistered⟩ [⟨false, .stRegistered⟩] hfree rfl
        (by simp [start]) rfl rfl (by decide),
      after_wholeStartUp [] ⟨false, .stRegistered⟩ [] rfl rfl (by simp [start, names]) rfl rfl (by decide)]
    simp [start, names, StateHandlers.new]
  refine ⟨fun i => ?_, ?_, ?_, ?_⟩
  · cases i <;> simp [hreached]
  · simp [hreached]
  · simp [hreached]
  · intro htruthful
    have hreceived := (htruthful true (by simp [hreached])).1
    simp [hreached] at hreceived

/-! ## Clean runs -/

/-- **Every `Ok` is its application's own**, in a run of clean steps. -/
theorem startUps_truthful {events : List (StartEvent I)} (h : Runs.Guarded (step appName) Clean start events) :
    Truthful appName events := by
  have hhonest : Honest (reached appName events) :=
    h.invariant Honest (fun s e hs hclean => (next_change e).honest hs hclean) start_honest
  intro i hended
  have hstage := hhonest.stage i
  simp only [Stage, hended] at hstage
  have hreceived := hstage trivial
  exact ⟨hreceived, Present.raised (.received hreceived)⟩

/-- With nothing left of the id, an application that gets registered at once
makes for a clean start-up. -/
theorem guarded_wholeStartUp (hfree : s.handlers.freeStateHandlerIds = Finset.range numStateHandlers)
    (hi : s.startUps i = .notStarted) (hname : appName i ∉ s.applications) (hcallbacks : s.callbacks = [])
    (hchannels : s.handlers.channels = fun _ => []) :
    Runs.Guarded (step appName) Clean s (wholeStartUp i [.stRegistered]) := by
  simp only [wholeStartUp, Runs.guarded_append, after_begin hfree hi hname]
  refine ⟨⟨⟨trivial, ?_, trivial, trivial⟩, trivial, ?_, trivial⟩, trivial, trivial, trivial, trivial⟩
  · intro id _ _
    simp [Quiet, step, next, setStartUp, hi, hname, hcallbacks, hchannels]
  · intro j fn event _ hcallback _
    simp only [step, next, Function.update_self, hcallbacks, List.nil_append, List.getElem?_cons_zero,
      Option.some.injEq, Prod.mk.injEq] at hcallback
    rw [← hcallback.2]
    simp

/-- Both start-ups return `Ok`, the second with the id the first gave back. -/
theorem startUps_truthful_sample :
    (∀ i, (reached names (wholeStartUp false [.stRegistered] ++ wholeStartUp true [.stRegistered])).startUps i =
      .ended (.returned (.ok ()))) ∧
    Truthful names (wholeStartUp false [.stRegistered] ++ wholeStartUp true [.stRegistered]) := by
  have hfree : (start : StartUps Bool).handlers.freeStateHandlerIds = Finset.range numStateHandlers := rfl
  have hfirst : Runs.after (step names) start (wholeStartUp false [.stRegistered]) = _ :=
    after_wholeStartUp [.stRegistered] ⟨false, .stRegistered⟩ [] hfree rfl (by simp [start]) rfl rfl (by decide)
  refine ⟨fun i => ?_, startUps_truthful ((Runs.guarded_append _ _ _).2 ⟨?_, ?_⟩)⟩
  · rw [reached, Runs.after_append, hfirst, after_wholeStartUp [.stRegistered] ⟨true, .stRegistered⟩ [] rfl rfl
      (by simp [start, names]) rfl (by simp [start, StateHandlers.new]) (by simp [stateChannelCapacity])]
    cases i <;> simp
  · exact guarded_wholeStartUp hfree rfl (by simp [start]) rfl rfl
  · rw [hfirst]
    refine guarded_wholeStartUp rfl rfl (by simp [start, names]) rfl ?_
    simp [start, StateHandlers.new]

end StartUps

end VsomeipTransport
