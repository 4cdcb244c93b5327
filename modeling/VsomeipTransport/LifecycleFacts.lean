/-
What is left of the transports of a process, whichever way their threads took
turns.

`no_application_left`: who has created an application has it stopped before its
`drop` is over, also where `new_internal` failed, if the engine lived on. What
vsomeip makes of a second application of a name is not in the source, so that
this is about runs that create none under a name in use (`CreatesFree`).
`refused_creation_stops_other`: and so does a transport that was refused because
its name was taken, which stops the application that has the name.
`runtime_shuts_down`: neither of the two `expect`s at the end of `drop` ever fails.
-/
import Mathlib.Data.List.ReduceOption
import VsomeipTransport.CreateAppFacts
import VsomeipTransport.Lib.Runs
import VsomeipTransport.Lib.Trace
import VsomeipTransport.Lifecycle

namespace VsomeipTransport

open Trace

/-! ## Start-ups -/

namespace StartUps

variable {I : Type} [DecidableEq I] {appName : I → ApplicationName} {s : StartUps I} {e : StartEvent I} {i : I}

/-- A start-up is where it was after a step of another thread. -/
theorem next_other (h : e.startUp ≠ some i) : (s.next appName e).startUps i = s.startUps i := by
  have hne : ∀ {j : I}, some j ≠ some i → i ≠ j := fun hj hi => hj (hi ▸ rfl)
  cases e with
  | findApplication j =>
    simp only [next]
    split
    · split <;> exact Function.update_of_ne (hne h) _ _
    · rfl
  | findId j order =>
    simp only [next]
    split
    · split
      · exact Function.update_of_ne (hne h) _ _
      · split <;> exact Function.update_of_ne (hne h) _ _
    · rfl
  | createApplication j created =>
    simp only [next]
    split
    · split <;> exact Function.update_of_ne (hne h) _ _
    · rfl
  | receive j =>
    simp only [next]
    split
    · split
      · rfl
      · exact Function.update_of_ne (hne h) _ _
    · rfl
  | timeOut j =>
    simp only [next]
    split
    · split
      · exact Function.update_of_ne (hne h) _ _
      · rfl
    · rfl
  | unregister j =>
    simp only [next]
    split
    · exact Function.update_of_ne (hne h) _ _
    · rfl
  | freeId j =>
    simp only [next]
    split
    · exact Function.update_of_ne (hne h) _ _
    · rfl
  | stateCallback j state =>
    simp only [next]
    split <;> rfl
  | send n =>
    simp only [next]
    split
    · split <;> rfl
    · rfl
  | applicationGone name => rfl

/-- What becomes of the names `get_application` finds. -/
theorem next_applications : (s.next appName e).applications = match e with
    | .createApplication i true => match s.startUps i with
      | .holding _ => insert (appName i) s.applications
      | _ => s.applications
    | .applicationGone name => s.applications.erase name
    | _ => s.applications := by
  cases e with
  | findApplication j =>
    simp only [next]
    split
    · split <;> rfl
    · rfl
  | findId j order =>
    simp only [next]
    split
    · split
      · rfl
      · split <;> rfl
    · rfl
  | createApplication j created =>
    cases created with
    | true =>
      simp only [next, if_true]
      cases s.startUps j <;> rfl
    | false =>
      simp only [next]
      split <;> rfl
  | receive j =>
    simp only [next]
    split
    · split <;> rfl
    · rfl
  | timeOut j =>
    simp only [next]
    split
    · split <;> rfl
    · rfl
  | unregister j =>
    simp only [next]
    split <;> rfl
  | freeId j =>
    simp only [next]
    split <;> rfl
  | stateCallback j state =>
    simp only [next]
    split <;> rfl
  | send n =>
    simp only [next]
    split
    · split <;> rfl
    · rfl
  | applicationGone name => rfl

/-- A name is found until its application is gone. -/
theorem next_keeps_name {name : ApplicationName} (h : name ∈ s.applications) (he : e ≠ .applicationGone name) :
    name ∈ (s.next appName e).applications := by
  rw [next_applications]
  split
  · split
    · exact Finset.mem_insert_of_mem h
    · exact h
  · exact Finset.mem_erase.2 ⟨fun hn => he (by rw [hn]), h⟩
  · exact h

/-- Where a start-up is refused for the name it asks for. -/
def refusal (name : ApplicationName) : StartUp :=
  .ended (.returned (.error (.failWithCode .alreadyExists ("vsomeip app already exists with app_name: " ++ name))))

/-- While its name is taken, a start-up gets no further than to be refused. -/
theorem next_taken (hname : appName i ∈ s.applications)
    (h : s.startUps i = .notStarted ∨ s.startUps i = refusal (appName i)) :
    (s.next appName e).startUps i = .notStarted ∨ (s.next appName e).startUps i = refusal (appName i) := by
  by_cases hi : e.startUp = some i
  · cases e with
    | findApplication j =>
      cases hi
      rcases h with h | h
      · simp only [next, h, hname, if_true]
        exact .inr (Function.update_self _ _ _)
      · exact .inr (by simp only [next, h, refusal])
    | stateCallback | send | applicationGone => cases hi
    | _ =>
      cases hi
      rcases h with h | h <;> simp [next, h, refusal]
  · rw [next_other hi]
    exact h

end StartUps

/-! ## One transport -/

namespace Lifecycle

variable {I : Type} {l : Lifecycle} {u : StartUp} {tr : List (Noticed I)} {i : I} {appName : I → ApplicationName}

/-- What a step of the transports does to `i`, and what is noticed of it. -/
inductive Change (up : UpRust) (appName : I → ApplicationName) (uri : UUri) (startUps : StartUps I) (i : I)
    (l : Lifecycle) : Lifecycle → Option (Noticed I) → Prop
  /-- It is a step of another one, or nothing is ready for it. -/
  | rests {o : Option (Noticed I)} (ho : o ≠ some (.created i)) : Change up appName uri startUps i l l o
  | newInternal (runtimeBuilt : Bool) (hl : l.stage = .notMade) :
      Change up appName uri startUps i l (l.newInternal up uri runtimeBuilt) none
  | takesStart {queue : List LifecycleCommand} (he : l.engine = ⟨true, false, .startVsomeipApp :: queue⟩) :
      Change up appName uri startUps i l { l with engine := ⟨true, true, queue⟩ } none
  | takesStop {queue : List LifecycleCommand} (he : l.engine = ⟨true, false, .stopVsomeipApp :: queue⟩) :
      Change up appName uri startUps i l
        { l with
          engine := ⟨true, false, queue⟩
          stopReply := some (stopVsomeipAppInternal startUps.applications (appName i)) }
        (some (.stopped i (decide (appName i ∈ startUps.applications))))
  | answersStart {res : Except UStatus Unit} (hbusy : l.engine.creating = true)
      (hended : startUps.startUps i = .ended (.returned res)) :
      Change up appName uri startUps i l
        { l with engine := { l.engine with creating := false }, startReply := some res } none
  | engineEnds : Change up appName uri startUps i l { l with engine := ⟨false, false, []⟩ } none
  | initialized {late : Bool} {answer : Engine.Answer} (hl : l.stage = .starting)
      (hanswer : l.answer l.startReply late = some answer) :
      Change up appName uri startUps i l (l.initialized up (appName i) answer) none
  | drops (hl : l.stage = .made) : Change up appName uri startUps i l { l with stage := .dropping none } none
  | sendsStop {err : Option UStatus} (hl : l.stage = .dropping err) :
      Change up appName uri startUps i l (l.sendStop err) none
  | signalsRuntime {err : Option UStatus} (hl : l.stage = .stopping err) :
      Change up appName uri startUps i l (l.signalRuntime err) none
  | runtimeTurn : Change up appName uri startUps i l l.runtimeTurn none
  | join : Change up appName uri startUps i l l.join none

/-- The command to stop was sent. -/
def StopSent (l : Lifecycle) : Prop :=
  match l.stage with
  | .stopping _ | .joining _ | .ended _ => True
  | _ => False

/-- How far the engine has come with the start-up `u`. -/
inductive Engaged : LifecycleEngine → StartUp → Prop
  | queued {queue : List LifecycleCommand} (hq : .startVsomeipApp ∉ queue) :
      Engaged ⟨true, false, .startVsomeipApp :: queue⟩ .notStarted
  | creating {queue : List LifecycleCommand} {u : StartUp} (hq : .startVsomeipApp ∉ queue) :
      Engaged ⟨true, true, queue⟩ u
  | served {queue : List LifecycleCommand} (res : Outcome (Except UStatus Unit)) (hq : .startVsomeipApp ∉ queue) :
      Engaged ⟨true, false, queue⟩ (.ended res)
  | gone {u : StartUp} : Engaged ⟨false, false, []⟩ u

/-- The application of `i`, if it created one, was stopped, or was gone
already. -/
def Stopped (appName : I → ApplicationName) (i : I) (tr : List (Noticed I)) : Prop :=
  Followed (fun post => ∃ mid found post', post = mid ++ .stopped i found :: post' ∧
    (found = false → .gone (appName i) ∈ mid)) (.created i) tr

structure Sound (appName : I → ApplicationName) (i : I) (l : Lifecycle) (u : StartUp) (tr : List (Noticed I)) :
    Prop where
  fresh : l.stage = .notMade → l = .notMade ∧ u = .notStarted ∧ .created i ∉ tr
  engaged : Engaged l.engine u
  stop : l.engine.running = true → l.StopSent → .stopVsomeipApp ∈ l.engine.queue ∨
    (l.engine.creating = false ∧ (∃ res, u = .ended res) ∧ Stopped appName i tr)

theorem Stopped.concat {x : Noticed I} (h : Stopped appName i tr) (hx : x ≠ .created i) :
    Stopped appName i (tr ++ [x]) := by
  refine followed_concat.2 ⟨h.mono fun post hpost => ?_, fun he => absurd he hx⟩
  obtain ⟨mid, found, post', rfl, hgone⟩ := hpost
  exact ⟨mid, found, post' ++ [x], by simp, hgone⟩

/-- What is noticed of others does not matter. -/
theorem Sound.notice (h : Sound appName i l u tr) {o : Option (Noticed I)} (ho : o ≠ some (.created i)) :
    Sound appName i l u (tr ++ o.toList) := by
  refine ⟨fun hn => ?_, h.engaged, fun hrun hsent => (h.stop hrun hsent).imp_right fun hstopped => ?_⟩
  · obtain ⟨hl, hu, hcreated⟩ := h.fresh hn
    refine ⟨hl, hu, ?_⟩
    simp only [List.mem_append, Option.mem_toList, not_or]
    exact ⟨hcreated, ho⟩
  obtain ⟨hidle, hended, hstopped⟩ := hstopped
  refine ⟨hidle, hended, ?_⟩
  cases o with
  | none => simpa using hstopped
  | some x => exact hstopped.concat fun hx => ho (by rw [hx])

/-- Another stage before the command to stop is sent, or after it. -/
theorem Sound.stage (h : Sound appName i l u tr) {l' : Lifecycle} (hengine : l'.engine = l.engine)
    (hmade : l'.stage ≠ .notMade) (hsent : l'.StopSent → l.StopSent) : Sound appName i l' u tr := by
  refine ⟨fun hn => absurd hn hmade, by rw [hengine]; exact h.engaged, fun hrun hs => ?_⟩
  rw [hengine] at hrun ⊢
  exact h.stop hrun (hsent hs)

theorem Sound.newInternal {up : UpRust} {uri : UUri} {built : Bool} (h : Sound appName i l u tr)
    (hn : l.stage = .notMade) : Sound appName i (l.newInternal up uri built) u tr := by
  obtain ⟨rfl, rfl, -⟩ := h.fresh hn
  unfold Lifecycle.newInternal
  split
  · exact h.stage rfl (by simp) fun hs => hs.elim
  · split
    · exact ⟨fun hs => (by cases hs), .queued (by simp), fun _ hs => hs.elim⟩
    · exact h.stage rfl (by simp) fun hs => hs.elim

theorem Sound.initialized {up : UpRust} {name : ApplicationName} {answer : Engine.Answer} (h : Sound appName i l u tr) :
    Sound appName i (l.initialized up name answer) u tr := by
  unfold Lifecycle.initialized
  split
  · exact h.stage rfl (by simp) fun hs => hs.elim
  · exact h.stage rfl (by simp) fun hs => hs.elim
  · exact h.stage rfl (by simp) fun hs => hs.elim

theorem Sound.sendStop {err : Option UStatus} (h : Sound appName i l u tr) : Sound appName i (l.sendStop err) u tr := by
  unfold Lifecycle.sendStop
  split
  · next hrun =>
    refine ⟨fun hs => (by cases hs), ?_, fun _ _ => .inl (by simp)⟩
    have hengaged := h.engaged
    cases he : l.engine with
    | mk running creating queue =>
    rw [he] at hengaged hrun
    cases hengaged with
    | queued hq => exact .queued (by simp [hq])
    | creating hq => exact .creating (by simp [hq])
    | served res hq => exact .served res (by simp [hq])
    | gone => cases hrun
  · exact h.stage rfl (by simp) fun hs => hs.elim

theorem Sound.signalRuntime {err : Option UStatus} (h : Sound appName i l u tr) (hl : l.stage = .stopping err) :
    Sound appName i (l.signalRuntime err) u tr := by
  have hsent : l.StopSent := by simp [StopSent, hl]
  unfold Lifecycle.signalRuntime
  split
  · exact h.stage rfl (by simp) fun _ => hsent
  · exact h.stage rfl (by simp) fun _ => hsent

theorem Sound.runtimeTurn (h : Sound appName i l u tr) : Sound appName i l.runtimeTurn u tr := by
  unfold Lifecycle.runtimeTurn
  split
  · next hwaiting =>
    have hmade : l.stage ≠ .notMade := by
      intro hn
      rw [(h.fresh hn).1] at hwaiting
      cases hwaiting
    have hkeep : ∀ runtime, Sound appName i { l with runtime := runtime } u tr := fun _ => h.stage rfl hmade id
    split
    · exact hkeep _
    · split
      · exact hkeep _
      · exact h
  · exact h

theorem Sound.join (h : Sound appName i l u tr) : Sound appName i l.join u tr := by
  unfold Lifecycle.join
  split
  · next hl _ => exact h.stage rfl (by simp) fun _ => by simp [StopSent, hl]
  · next hl _ => exact h.stage rfl (by simp) fun _ => by simp [StopSent, hl]
  · exact h

/-- While the engine is in `create_app` it has not come to the command to stop. -/
theorem Sound.creating (h : Sound appName i l u tr) (hbusy : l.engine.creating = true) :
    ∃ queue, l.engine = ⟨true, true, queue⟩ ∧ .startVsomeipApp ∉ queue ∧ l.stage ≠ .notMade ∧
      (l.StopSent → .stopVsomeipApp ∈ queue) := by
  have hengaged := h.engaged
  have hstop := h.stop
  have hmade : l.stage ≠ .notMade := by
    intro hn
    rw [(h.fresh hn).1] at hbusy
    cases hbusy
  cases he : l.engine with
  | mk running creating queue =>
  rw [he] at hengaged hstop hbusy
  simp only at hbusy
  subst hbusy
  cases hengaged with
  | creating hq =>
    refine ⟨queue, rfl, hq, hmade, fun hsent => ?_⟩
    rcases hstop rfl hsent with hmem | ⟨hidle, -⟩
    · exact hmem
    · cases hidle

/-- So its start-up may go on. -/
theorem Sound.startUp (h : Sound appName i l u tr) (hbusy : l.engine.creating = true) (u' : StartUp)
    (tr' : List (Noticed I)) : Sound appName i l u' tr' := by
  obtain ⟨queue, he, hq, hmade, hstop⟩ := h.creating hbusy
  exact ⟨fun hn => absurd hn hmade, he ▸ .creating hq, fun _ hsent => .inl (he ▸ hstop hsent)⟩

theorem Sound.answersStart {res : Except UStatus Unit} (h : Sound appName i l u tr) (hbusy : l.engine.creating = true)
    (hu : u = .ended (.returned res)) :
    Sound appName i { l with engine := { l.engine with creating := false }, startReply := some res } u tr := by
  obtain ⟨queue, he, hq, hmade, hstop⟩ := h.creating hbusy
  rw [he, hu]
  exact ⟨fun hn => absurd hn hmade, .served _ hq, fun _ hsent => .inl (hstop hsent)⟩

theorem Sound.takesStart {queue : List LifecycleCommand} (h : Sound appName i l u tr)
    (he : l.engine = ⟨true, false, .startVsomeipApp :: queue⟩) :
    Sound appName i { l with engine := ⟨true, true, queue⟩ } u tr := by
  have hengaged := h.engaged
  have hstop := h.stop
  rw [he] at hengaged hstop
  obtain ⟨hq, rfl⟩ : .startVsomeipApp ∉ queue ∧ u = .notStarted := by
    cases hengaged with
    | queued hq => exact ⟨hq, rfl⟩
    | served res hq => exact absurd List.mem_cons_self hq
  refine ⟨fun hn => ?_, .creating hq, fun _ hsent => .inl ?_⟩
  · rw [(h.fresh hn).1] at he
    cases he
  · rcases hstop rfl hsent with hmem | ⟨-, ⟨res, hres⟩, -⟩
    · simpa using hmem
    · cases hres

theorem Sound.takesStop {queue : List LifecycleCommand} (h : Sound appName i l u tr)
    (he : l.engine = ⟨true, false, .stopVsomeipApp :: queue⟩) {tr' : List (Noticed I)}
    (hstopped : Stopped appName i tr') (reply : Option (Except UStatus Unit)) :
    Sound appName i { l with engine := ⟨true, false, queue⟩, stopReply := reply } u tr' := by
  have hengaged := h.engaged
  rw [he] at hengaged
  cases hengaged with
  | served res hq =>
    refine ⟨fun hn => ?_, .served res (List.not_mem_of_not_mem_cons hq), fun _ _ => .inr ⟨rfl, ⟨res, rfl⟩, hstopped⟩⟩
    rw [(h.fresh hn).1] at he
    cases he

theorem Sound.engineEnds (h : Sound appName i l u tr) :
    Sound appName i { l with engine := ⟨false, false, []⟩ } u tr := by
  refine ⟨fun hn => ?_, .gone, fun hrun => by cases hrun⟩
  obtain ⟨hl, hu, hcreated⟩ := h.fresh hn
  exact ⟨by rw [hl]; rfl, hu, hcreated⟩

/-- Each step keeps what is known of a transport. -/
theorem Sound.change {up : UpRust} {uri : UUri} {startUps : StartUps I} {l' : Lifecycle} {o : Option (Noticed I)}
    (h : Sound appName i l (startUps.startUps i) tr)
    (hstopped : Stopped appName i (tr ++ [.stopped i (decide (appName i ∈ startUps.applications))]))
    (hc : Change up appName uri startUps i l l' o) : Sound appName i l' (startUps.startUps i) (tr ++ o.toList) := by
  have hnone : tr ++ (none : Option (Noticed I)).toList = tr := by simp
  cases hc with
  | rests ho => exact h.notice ho
  | newInternal _ hl => rw [hnone]; exact h.newInternal hl
  | takesStart he => rw [hnone]; exact h.takesStart he
  | takesStop he => exact h.takesStop he hstopped _
  | answersStart hbusy hended => rw [hnone]; exact h.answersStart hbusy hended
  | engineEnds => rw [hnone]; exact h.engineEnds
  | initialized => rw [hnone]; exact h.initialized
  | drops => rw [hnone]; exact h.stage rfl (by simp) fun hs => hs.elim
  | sendsStop => rw [hnone]; exact h.sendStop
  | signalsRuntime hl => rw [hnone]; exact h.signalRuntime hl
  | runtimeTurn => rw [hnone]; exact h.runtimeTurn
  | join => rw [hnone]; exact h.join

/-! ## A transport whose name is taken -/

/-- `new_internal` is not going to return `Ok`. -/
def Failing (l : Lifecycle) : Prop :=
  match l.stage with
  | .made | .dropping none | .stopping none | .joining none | .ended none => False
  | _ => True

/-- What is known of a transport while its name is taken, with what was noticed
since then. -/
structure Refused (appName : I → ApplicationName) (i : I) (l : Lifecycle) (u : StartUp) (tr : List (Noticed I)) :
    Prop where
  startUp : u = .notStarted ∨ u = StartUps.refusal (appName i)
  reply : l.startReply = none ∨ ∃ e, l.startReply = some (.error e)
  failing : l.Failing
  stop : l.engine.running = true → l.StopSent → .stopVsomeipApp ∈ l.engine.queue ∨ .stopped i true ∈ tr
  uncreated : .created i ∉ tr

theorem Refused.notice (h : Refused appName i l u tr) {o : Option (Noticed I)} (ho : o ≠ some (.created i)) :
    Refused appName i l u (tr ++ o.toList) := by
  refine ⟨h.startUp, h.reply, h.failing, fun hrun hsent => (h.stop hrun hsent).imp_right (List.mem_append_left _), ?_⟩
  simp only [List.mem_append, Option.mem_toList, not_or]
  exact ⟨h.uncreated, ho⟩

theorem Refused.stage (h : Refused appName i l u tr) {l' : Lifecycle} (hengine : l'.engine = l.engine)
    (hreply : l'.startReply = l.startReply) (hfailing : l'.Failing) (hsent : l'.StopSent → l.StopSent) :
    Refused appName i l' u tr := by
  refine ⟨h.startUp, by rw [hreply]; exact h.reply, hfailing, fun hrun hs => ?_, h.uncreated⟩
  rw [hengine] at hrun ⊢
  exact h.stop hrun (hsent hs)

theorem Refused.newInternal {up : UpRust} {uri : UUri} {built : Bool} (h : Refused appName i l u tr) :
    Refused appName i (l.newInternal up uri built) u tr := by
  unfold Lifecycle.newInternal
  split
  · exact h.stage rfl rfl trivial fun hs => hs.elim
  · split
    · exact ⟨h.startUp, h.reply, trivial, fun _ hs => hs.elim, h.uncreated⟩
    · exact h.stage rfl rfl trivial fun hs => hs.elim

/-- It is not answered with `Ok`. -/
theorem Refused.initialized {up : UpRust} {name : ApplicationName} {late : Bool} {answer : Engine.Answer}
    (h : Refused appName i l u tr) (hanswer : l.answer l.startReply late = some answer) :
    Refused appName i (l.initialized up name answer) u tr := by
  have herr : ∃ err, awaitEngine "initialize_new_app_internal" answer = .returned (.error err) := by
    unfold Lifecycle.answer at hanswer
    rcases h.reply with hnone | ⟨err, hsome⟩
    · rw [hnone] at hanswer
      simp only at hanswer
      split at hanswer
      · cases hanswer
        exact ⟨_, rfl⟩
      · split at hanswer
        · cases hanswer
          exact ⟨_, rfl⟩
        · cases hanswer
    · rw [hsome] at hanswer
      cases hanswer
      exact ⟨_, rfl⟩
  obtain ⟨err, herr⟩ := herr
  simp only [Lifecycle.initialized, herr]
  exact h.stage rfl rfl trivial fun hs => hs.elim

theorem Refused.sendStop {err : Option UStatus} (h : Refused appName i l u tr) (hl : l.stage = .dropping err) :
    Refused appName i (l.sendStop err) u tr := by
  have hfailing := h.failing
  simp only [Failing, hl] at hfailing
  unfold Lifecycle.sendStop
  split
  · refine ⟨h.startUp, h.reply, ?_, fun _ _ => .inl (by simp), h.uncreated⟩
    cases err with
    | none => exact hfailing.elim
    | some err => trivial
  · exact h.stage rfl rfl trivial fun hs => hs.elim

theorem Refused.signalRuntime {err : Option UStatus} (h : Refused appName i l u tr) (hl : l.stage = .stopping err) :
    Refused appName i (l.signalRuntime err) u tr := by
  have hfailing := h.failing
  simp only [Failing, hl] at hfailing
  have hsent : l.StopSent := by simp [StopSent, hl]
  unfold Lifecycle.signalRuntime
  split
  · refine h.stage rfl rfl ?_ fun _ => hsent
    cases err with
    | none => exact hfailing.elim
    | some err => trivial
  · exact h.stage rfl rfl trivial fun _ => hsent

theorem Refused.runtimeTurn (h : Refused appName i l u tr) : Refused appName i l.runtimeTurn u tr := by
  have hkeep : ∀ runtime, Refused appName i { l with runtime := runtime } u tr := fun _ =>
    h.stage rfl rfl h.failing id
  unfold Lifecycle.runtimeTurn
  split
  · split
    · exact hkeep _
    · split
      · exact hkeep _
      · exact h
  · exact h

theorem Refused.join (h : Refused appName i l u tr) : Refused appName i l.join u tr := by
  have hfailing := h.failing
  unfold Lifecycle.join
  split
  · next err hl _ =>
    simp only [Failing, hl] at hfailing
    refine h.stage rfl rfl ?_ fun _ => by simp [StopSent, hl]
    cases err with
    | none => exact hfailing.elim
    | some err => trivial
  · next hl _ => exact h.stage rfl rfl trivial fun _ => by simp [StopSent, hl]
  · exact h

theorem Refused.answersStart {res : Except UStatus Unit} (h : Refused appName i l u tr)
    (hu : u = .ended (.returned res)) :
    Refused appName i { l with engine := { l.engine with creating := false }, startReply := some res } u tr := by
  refine ⟨h.startUp, .inr ?_, h.failing, h.stop, h.uncreated⟩
  rcases h.startUp with hn | hrefused
  · rw [hu] at hn
    cases hn
  · rw [hu] at hrefused
    cases hrefused
    exact ⟨_, rfl⟩

theorem Refused.takesStart {queue : List LifecycleCommand} (h : Refused appName i l u tr)
    (he : l.engine = ⟨true, false, .startVsomeipApp :: queue⟩) :
    Refused appName i { l with engine := ⟨true, true, queue⟩ } u tr := by
  refine ⟨h.startUp, h.reply, h.failing, fun _ hsent => ?_, h.uncreated⟩
  have hstop := h.stop (by rw [he]) hsent
  rw [he] at hstop
  simpa using hstop

theorem Refused.change {up : UpRust} {uri : UUri} {startUps : StartUps I} {l' : Lifecycle} {o : Option (Noticed I)}
    (h : Refused appName i l (startUps.startUps i) tr) (hname : appName i ∈ startUps.applications)
    (hc : Change up appName uri startUps i l l' o) : Refused appName i l' (startUps.startUps i) (tr ++ o.toList) := by
  have hnone : tr ++ (none : Option (Noticed I)).toList = tr := by simp
  cases hc with
  | rests ho => exact h.notice ho
  | newInternal => rw [hnone]; exact h.newInternal
  | takesStart he => rw [hnone]; exact h.takesStart he
  | takesStop he =>
    have hthis := h.notice (o := some (.stopped i (decide (appName i ∈ startUps.applications)))) (by simp)
    exact ⟨hthis.startUp, hthis.reply, hthis.failing, fun _ _ => .inr (by simp [hname]), hthis.uncreated⟩
  | answersStart _ hended => rw [hnone]; exact h.answersStart hended
  | engineEnds => rw [hnone]; exact ⟨h.startUp, h.reply, h.failing, fun hrun => (by cases hrun), h.uncreated⟩
  | initialized _ hanswer => rw [hnone]; exact h.initialized hanswer
  | drops hl =>
    have hfailing := h.failing
    simp only [Failing, hl] at hfailing
  | sendsStop hl => rw [hnone]; exact h.sendStop hl
  | signalsRuntime hl => rw [hnone]; exact h.signalRuntime hl
  | runtimeTurn => rw [hnone]; exact h.runtimeTurn
  | join => rw [hnone]; exact h.join

/-! ## The runtime of a transport -/

/-- What a transport and the thread of its runtime know of each other. -/
def Handshake (l : Lifecycle) : Prop :=
  match l.stage with
  | .notMade | .refused _ => l.runtime = .notSpawned ∧ l.signalled = false
  | .starting | .made | .dropping _ | .stopping _ => l.runtime = .waiting ∧ l.signalled = false
  | .joining _ => l.runtime = .waiting ∧ l.signalled = true ∨ l.runtime = .shutDown
  | .ended _ => l.runtime = .shutDown
  | .panicked msg => msg = "the sender dropped" ∧ l.runtime = .panicked "Unable to create runtime" ∨
      msg = "engine has stopped! unable to proceed!" ∧ l.signalled = false ∧
        (l.runtime = .waiting ∨ l.runtime = .panicked "Failed in getting shutdown signal")

theorem Handshake.newInternal {up : UpRust} {uri : UUri} {built : Bool} (h : l.Handshake) (hn : l.stage = .notMade) :
    (l.newInternal up uri built).Handshake := by
  simp only [Handshake, hn] at h
  unfold Lifecycle.newInternal
  split
  · exact h
  · split
    · exact ⟨rfl, h.2⟩
    · exact .inl ⟨rfl, rfl⟩

/-- `await_engine` does not panic: the command was sent. -/
theorem answer_sent {reply : Option (Except UStatus Unit)} {late : Bool} {answer : Engine.Answer}
    (h : l.answer reply late = some answer) (functionId : String) :
    ∃ res, awaitEngine functionId answer = .returned res := by
  unfold Lifecycle.answer at h
  split at h
  · cases h; exact ⟨_, rfl⟩
  · split at h
    · cases h; exact ⟨_, rfl⟩
    · split at h
      · cases h; exact ⟨_, rfl⟩
      · cases h

theorem Handshake.initialized {up : UpRust} {name : ApplicationName} {late : Bool} {answer : Engine.Answer}
    (h : l.Handshake) (hl : l.stage = .starting) (hanswer : l.answer l.startReply late = some answer) :
    (l.initialized up name answer).Handshake := by
  simp only [Handshake, hl] at h
  obtain ⟨res, hres⟩ := answer_sent hanswer "initialize_new_app_internal"
  simp only [Lifecycle.initialized, hres]
  cases res with
  | ok _ => exact h
  | error err => exact h

theorem Handshake.sendStop {err : Option UStatus} (h : l.Handshake) (hl : l.stage = .dropping err) :
    (l.sendStop err).Handshake := by
  simp only [Handshake, hl] at h
  unfold Lifecycle.sendStop
  split
  · exact h
  · exact .inr ⟨rfl, h.2, .inl h.1⟩

theorem Handshake.signalRuntime {err : Option UStatus} (h : l.Handshake) (hl : l.stage = .stopping err) :
    (l.signalRuntime err).Handshake := by
  simp only [Handshake, hl] at h
  simp only [Lifecycle.signalRuntime, h.1]
  exact .inl ⟨rfl, rfl⟩

theorem Handshake.runtimeTurn (h : l.Handshake) : l.runtimeTurn.Handshake := by
  unfold Lifecycle.runtimeTurn
  split
  · next hwaiting =>
    split
    · next hsignal =>
      -- Only who joins it has sent the signal.
      cases hstage : l.stage with
      | joining err => exact .inr rfl
      | _ => simp [Handshake, hstage, hwaiting, hsignal] at h
    · split
      · next msg hstage =>
        simp only [Handshake, hstage, hwaiting] at h ⊢
        rcases h with ⟨-, hruntime⟩ | ⟨hmsg, hsignal, -⟩
        · cases hruntime
        · exact .inr ⟨hmsg, hsignal, .inr trivial⟩
      · exact h
  · exact h

theorem Handshake.join (h : l.Handshake) : l.join.Handshake := by
  unfold Lifecycle.join
  split
  · next hruntime => exact hruntime
  · next hl hruntime =>
    simp only [Handshake, hl, hruntime] at h
    simp at h
  · exact h

theorem Handshake.change {up : UpRust} {uri : UUri} {startUps : StartUps I} {l' : Lifecycle} {o : Option (Noticed I)}
    (h : l.Handshake) (hc : Change up appName uri startUps i l l' o) : l'.Handshake := by
  cases hc with
  | rests => exact h
  | newInternal _ hl => exact h.newInternal hl
  | initialized hl hanswer => exact h.initialized hl hanswer
  | drops hl =>
    simp only [Handshake, hl] at h
    exact h
  | sendsStop hl => exact h.sendStop hl
  | signalsRuntime hl => exact h.signalRuntime hl
  | runtimeTurn => exact h.runtimeTurn
  | join => exact h.join
  -- The engine has no part in it.
  | takesStart | takesStop | answersStart | engineEnds => exact h

/-- Who waits for the thread goes on after its turn. -/
theorem Handshake.joined {err : Option UStatus} (h : l.Handshake) (hl : l.stage = .joining err) :
    l.runtimeTurn.join.stage = .ended err := by
  simp only [Handshake, hl] at h
  rcases h with ⟨hruntime, hsignal⟩ | hruntime
  · simp [Lifecycle.runtimeTurn, Lifecycle.join, hl, hruntime, hsignal]
  · simp [Lifecycle.runtimeTurn, Lifecycle.join, hl, hruntime]

end Lifecycle

/-! ## All of them -/

namespace Lifecycles

variable {I : Type} [DecidableEq I] {up : UpRust} {appName : I → ApplicationName} {uri : I → UUri} {s : Lifecycles I}
  {tr : List (Noticed I)} {i j : I}

theorem setLife_lives (s : Lifecycles I) (i j : I) (l : Lifecycle) :
    (s.setLife j l).lives i = if i = j then l else s.lives i := by
  unfold setLife
  by_cases hij : i = j
  · subst hij; simp
  · simp [hij]

/-- Who has created an application has it under its name, until it is gone. -/
def Standing (appName : I → ApplicationName) (applications : Finset ApplicationName) (tr : List (Noticed I)) : Prop :=
  ∀ j, Followed (fun post => .gone (appName j) ∉ post → appName j ∈ applications) (.created j) tr

omit [DecidableEq I] in
theorem Standing.notice {applications applications' : Finset ApplicationName} {o : Option (Noticed I)}
    (h : Standing appName applications tr)
    (hkept : ∀ j, o ≠ some (.gone (appName j)) → appName j ∈ applications → appName j ∈ applications')
    (hnew : ∀ j, o = some (.created j) → appName j ∈ applications') :
    Standing appName applications' (tr ++ o.toList) := by
  intro j
  cases o with
  | none =>
    rw [Option.toList_none, List.append_nil]
    exact (h j).mono fun post hpost hgone => hkept j (by simp) (hpost hgone)
  | some x =>
    refine followed_concat.2 ⟨(h j).mono fun post hpost hgone => ?_, fun hx _ => hnew j (by rw [hx])⟩
    simp only [List.mem_append, List.mem_singleton, not_or] at hgone
    exact hkept j (fun hx => hgone.2 (Option.some.inj hx).symm) (hpost hgone.1)

/-- Only the start-ups create applications. -/
theorem next_startUps {e : LifecycleEvent I} (he : ∀ e', e ≠ .startUp e') :
    (s.next up appName uri e).startUps = s.startUps := by
  cases e with
  | newInternal i built => simp only [next]; split <;> rfl
  | take i => simp only [next, take]; split <;> rfl
  | startUp e' => exact absurd rfl (he e')
  | answerStart i => simp only [next, answerStart]; split <;> rfl
  | engineDies i => simp only [next]; split <;> rfl
  | awaitEngine i late =>
    simp only [next]
    split
    · split <;> rfl
    · split <;> rfl
    · rfl
  | drop i => simp only [next]; split <;> rfl
  | shutdownVsomeipApp i => simp only [next]; split <;> rfl
  | runtimeTurn i => rfl
  | join i => rfl

/-- Its thread may be in `create_app`, or it is no thread of a transport. -/
theorem next_startUp (s : Lifecycles I) (e : StartEvent I) :
    (s.next up appName uri (.startUp e) = { s with startUps := s.startUps.next appName e } ∧
      ∀ i, e.startUp = some i → (s.lives i).engine.creating = true) ∨
    (s.next up appName uri (.startUp e) = s ∧ ∃ i, e.startUp = some i ∧ (s.lives i).engine.creating = false) := by
  simp only [next]
  split
  · next i hi =>
    split
    · next hcreating => exact .inl ⟨rfl, fun j hj => by rw [hi] at hj; cases hj; exact hcreating⟩
    · next hcreating => exact .inr ⟨rfl, i, hi, by simpa using hcreating⟩
  · next hnone => exact .inl ⟨rfl, fun j hj => by rw [hnone] at hj; cases hj⟩

omit [DecidableEq I] in
/-- What is noticed of a start-up. -/
theorem noticed_startUp (s : Lifecycles I) (e : StartEvent I) :
    s.noticed appName (.startUp e) = none ∨
    (∃ i fn, e = .createApplication i true ∧ (s.lives i).engine.creating = true ∧ s.startUps.startUps i = .holding fn ∧
      s.noticed appName (.startUp e) = some (.created i)) ∨
    ∃ name, e = .applicationGone name ∧ s.noticed appName (.startUp e) = some (.gone name) := by
  unfold noticed
  split
  · next he => cases he
  · next i he =>
    cases he
    split
    · next fn hcreating hholding => exact .inr (.inl ⟨i, fn, rfl, hcreating, hholding, rfl⟩)
    · exact .inl rfl
  · next name he =>
    cases he
    exact .inr (.inr ⟨name, rfl, rfl⟩)
  · exact .inl rfl

theorem Standing.startUp (h : Standing appName s.startUps.applications tr) (e : StartEvent I) :
    Standing appName (s.next up appName uri (.startUp e)).startUps.applications
      (tr ++ (s.noticed appName (.startUp e)).toList) := by
  rcases next_startUp s e with ⟨hnext, -⟩ | ⟨hnext, i, hi, hidle⟩
  · rw [hnext]
    refine h.notice (fun j hgone hj => ?_) fun j hcreated => ?_
    · exact StartUps.next_keeps_name hj fun he => hgone (by rw [he]; rfl)
    · rcases noticed_startUp s e with hnone | ⟨i, fn, rfl, -, hholding, hsome⟩ | ⟨name, rfl, hsome⟩
      · rw [hnone] at hcreated
        cases hcreated
      · rw [hsome] at hcreated
        cases hcreated
        simp only [StartUps.next_applications, hholding]
        exact Finset.mem_insert_self _ _
      · rw [hsome] at hcreated
        cases hcreated
  · have hnone : s.noticed appName (.startUp e) = none := by
      rcases noticed_startUp s e with hnone | ⟨j, fn, rfl, hcreating, -⟩ | ⟨name, rfl, -⟩
      · exact hnone
      · cases hi
        rw [hidle] at hcreating
        cases hcreating
      · cases hi
    rw [hnext, hnone, Option.toList_none, List.append_nil]
    exact h

/-- A name that is found was created by a transport that has it. -/
def Owned (appName : I → ApplicationName) (applications : Finset ApplicationName) (tr : List (Noticed I)) : Prop :=
  ∀ name ∈ applications, ∃ j, appName j = name ∧ .created j ∈ tr

theorem Owned.startUp (h : Owned appName s.startUps.applications tr) (e : StartEvent I) :
    Owned appName (s.next up appName uri (.startUp e)).startUps.applications
      (tr ++ (s.noticed appName (.startUp e)).toList) := by
  have hbefore : ∀ name ∈ s.startUps.applications, ∃ j, appName j = name ∧
      .created j ∈ tr ++ (s.noticed appName (.startUp e)).toList := by
    intro name hname
    obtain ⟨j, hj, hcreated⟩ := h name hname
    exact ⟨j, hj, List.mem_append_left _ hcreated⟩
  rcases next_startUp s e with ⟨hnext, hcreating⟩ | ⟨hnext, -⟩
  · rw [hnext]
    intro name hname
    simp only [StartUps.next_applications] at hname
    split at hname
    · next i =>
      split at hname
      · next fn hholding =>
        have hsome : s.noticed appName (.startUp (.createApplication i true)) = some (.created i) := by
          simp only [noticed, hcreating i rfl, hholding]
        rcases Finset.mem_insert.1 hname with rfl | hname
        · exact ⟨i, rfl, by simp [hsome]⟩
        · exact hbefore name hname
      · exact hbefore name hname
    · exact hbefore name (Finset.mem_of_mem_erase hname)
    · exact hbefore name hname
  · rw [hnext]
    exact hbefore

/-! ## One step -/

theorem change_setLife {l : Lifecycle} {o : Option (Noticed I)} (ho : o ≠ some (.created i))
    (h : j = i → (s.lives i).Change up appName (uri i) s.startUps i l o) :
    (s.lives i).Change up appName (uri i) s.startUps i ((s.setLife j l).lives i) o := by
  rw [setLife_lives]
  split
  · next hij => exact h hij.symm
  · exact .rests ho

theorem next_change {e : LifecycleEvent I} (he : ∀ e', e ≠ .startUp e') :
    (s.lives i).Change up appName (uri i) s.startUps i ((s.next up appName uri e).lives i) (s.noticed appName e) := by
  have hnone : (none : Option (Noticed I)) ≠ some (.created i) := nofun
  cases e with
  | startUp e' => exact absurd rfl (he e')
  | newInternal j built =>
    simp only [next, noticed]
    split
    · next hl => exact change_setLife hnone fun hj => by subst hj; exact .newInternal built hl
    · exact .rests hnone
  | take j =>
    simp only [next, take]
    split
    · next queue he =>
      rw [show s.noticed appName (.take j) = none by simp only [noticed, he]]
      exact change_setLife hnone fun hj => by subst hj; exact .takesStart he
    · next queue he =>
      rw [show s.noticed appName (.take j) = some (.stopped j (decide (appName j ∈ s.startUps.applications))) by
        simp only [noticed, he]]
      exact change_setLife (by simp) fun hj => by subst hj; exact .takesStop he
    · refine .rests ?_
      simp only [noticed]
      exact hnone
  | answerStart j =>
    simp only [next, answerStart, noticed]
    split
    · next res hbusy hended => exact change_setLife hnone fun hj => by subst hj; exact .answersStart hbusy hended
    · exact change_setLife hnone fun hj => by subst hj; exact .engineEnds
    · exact .rests hnone
  | engineDies j =>
    simp only [next, noticed]
    split
    · exact .rests hnone
    · exact change_setLife hnone fun hj => by subst hj; exact .engineEnds
  | awaitEngine j late =>
    simp only [next, noticed]
    split
    · next hl =>
      split
      · next answer hanswer => exact change_setLife hnone fun hj => by subst hj; exact .initialized hl hanswer
      · exact .rests hnone
    · next err hl =>
      split
      · exact change_setLife hnone fun hj => by subst hj; exact .signalsRuntime hl
      · exact .rests hnone
    · exact .rests hnone
  | drop j =>
    simp only [next, noticed]
    split
    · next hl => exact change_setLife hnone fun hj => by subst hj; exact .drops hl
    · exact .rests hnone
  | shutdownVsomeipApp j =>
    simp only [next, noticed]
    split
    · next err hl => exact change_setLife hnone fun hj => by subst hj; exact .sendsStop hl
    · exact .rests hnone
  | runtimeTurn j => exact change_setLife hnone fun hj => by subst hj; exact .runtimeTurn
  | join j => exact change_setLife hnone fun hj => by subst hj; exact .join

omit [DecidableEq I] in
/-- The engine stops what stands under the name. -/
theorem Standing.stopped {applications : Finset ApplicationName} (h : Standing appName applications tr) (i : I) :
    Lifecycle.Stopped appName i (tr ++ [.stopped i (decide (appName i ∈ applications))]) := by
  refine followed_concat.2 ⟨(h i).mono fun post hpost => ⟨post, _, [], rfl, fun hfound => ?_⟩, fun hx => by cases hx⟩
  by_contra hgone
  exact absurd (hpost hgone) (by simpa using hfound)

theorem sound_startUp (h : (s.lives i).Sound appName i (s.startUps.startUps i) tr) (e : StartEvent I) :
    ((s.next up appName uri (.startUp e)).lives i).Sound appName i
      ((s.next up appName uri (.startUp e)).startUps.startUps i) (tr ++ (s.noticed appName (.startUp e)).toList) := by
  rcases next_startUp s e with ⟨hnext, hcreating⟩ | ⟨hnext, j, hj, hidle⟩
  · rw [hnext]
    by_cases hi : e.startUp = some i
    · exact h.startUp (hcreating i hi) _ _
    · show (s.lives i).Sound appName i ((s.startUps.next appName e).startUps i) _
      rw [StartUps.next_other hi]
      refine h.notice fun hcreated => ?_
      rcases noticed_startUp s e with hnone | ⟨j, fn, rfl, -, -, hsome⟩ | ⟨name, rfl, hsome⟩
      · rw [hnone] at hcreated; cases hcreated
      · rw [hsome] at hcreated; cases hcreated; exact hi rfl
      · rw [hsome] at hcreated; cases hcreated
  · rw [hnext]
    refine h.notice fun hcreated => ?_
    rcases noticed_startUp s e with hnone | ⟨k, fn, rfl, hbusy, -⟩ | ⟨name, rfl, hsome⟩
    · rw [hnone] at hcreated; cases hcreated
    · cases hj
      rw [hidle] at hbusy
      cases hbusy
    · cases hj

theorem sound_step (h : (s.lives i).Sound appName i (s.startUps.startUps i) tr)
    (hstanding : Standing appName s.startUps.applications tr) (e : LifecycleEvent I) :
    ((s.next up appName uri e).lives i).Sound appName i ((s.next up appName uri e).startUps.startUps i)
      (tr ++ (s.noticed appName e).toList) := by
  by_cases hother : ∃ e', e = .startUp e'
  · obtain ⟨e', rfl⟩ := hother
    exact sound_startUp h e'
  · rw [next_startUps (not_exists.1 hother)]
    exact h.change (hstanding.stopped i) (next_change (not_exists.1 hother))

theorem standing_step (h : Standing appName s.startUps.applications tr) (e : LifecycleEvent I) :
    Standing appName (s.next up appName uri e).startUps.applications (tr ++ (s.noticed appName e).toList) := by
  by_cases hother : ∃ e', e = .startUp e'
  · obtain ⟨e', rfl⟩ := hother
    exact h.startUp e'
  rw [next_startUps (not_exists.1 hother)]
  have hquiet : ∀ name j, s.noticed appName e ≠ some (.gone name) ∧ s.noticed appName e ≠ some (.created j) := by
    intro name j
    cases e with
    | startUp e' => exact absurd ⟨e', rfl⟩ hother
    | take i => simp only [noticed]; split <;> simp
    | _ => exact ⟨by simp [noticed], by simp [noticed]⟩
  exact h.notice (fun j _ hj => hj) fun j hcreated => absurd hcreated (hquiet "" j).2

/-- No application is created under a name that another has. -/
def CreatesFree (appName : I → ApplicationName) (s : Lifecycles I) (e : LifecycleEvent I) : Prop :=
  ∀ j, s.noticed appName e = some (.created j) → appName j ∉ s.startUps.applications

/-- Before an application of a name is created, the last one is gone. -/
def OneAtATime (appName : I → ApplicationName) (before : List (Noticed I)) (x : Noticed I) : Prop :=
  ∀ i j pre mid, x = .created j → appName j = appName i → before = pre ++ .created i :: mid → .gone (appName i) ∈ mid

omit [DecidableEq I] in
theorem oneAtATime_step (h : Justified (OneAtATime appName) tr) (hstanding : Standing appName s.startUps.applications tr)
    {e : LifecycleEvent I} (hfree : CreatesFree appName s e) :
    Justified (OneAtATime appName) (tr ++ (s.noticed appName e).toList) := by
  cases hnoticed : s.noticed appName e with
  | none => simpa using h
  | some x =>
    refine justified_concat.2 ⟨h, fun i j pre mid hx hname hbefore => ?_⟩
    by_contra hgone
    exact hfree j (hx ▸ hnoticed) (hname ▸ hstanding i pre mid hbefore hgone)

theorem owned_step (h : Owned appName s.startUps.applications tr) (e : LifecycleEvent I) :
    Owned appName (s.next up appName uri e).startUps.applications (tr ++ (s.noticed appName e).toList) := by
  by_cases hother : ∃ e', e = .startUp e'
  · obtain ⟨e', rfl⟩ := hother
    exact h.startUp e'
  rw [next_startUps (not_exists.1 hother)]
  intro name hname
  obtain ⟨j, hj, hcreated⟩ := h name hname
  exact ⟨j, hj, List.mem_append_left _ hcreated⟩

/-! ## One step while a name is taken -/

/-- A name is taken until its application is gone. -/
theorem next_keeps_name {name : ApplicationName} (h : name ∈ s.startUps.applications) {e : LifecycleEvent I}
    (hgone : s.noticed appName e ≠ some (.gone name)) : name ∈ (s.next up appName uri e).startUps.applications := by
  by_cases hother : ∃ e', e = .startUp e'
  · obtain ⟨e', rfl⟩ := hother
    rcases next_startUp s e' with ⟨hnext, -⟩ | ⟨hnext, -⟩
    · rw [hnext]
      exact StartUps.next_keeps_name h fun he => hgone (by rw [he]; rfl)
    · rw [hnext]
      exact h
  · rw [next_startUps (not_exists.1 hother)]
    exact h

theorem refused_startUp (h : (s.lives i).Refused appName i (s.startUps.startUps i) tr)
    (hname : appName i ∈ s.startUps.applications) (e : StartEvent I) :
    ((s.next up appName uri (.startUp e)).lives i).Refused appName i
      ((s.next up appName uri (.startUp e)).startUps.startUps i) (tr ++ (s.noticed appName (.startUp e)).toList) := by
  have hnotice : s.noticed appName (.startUp e) ≠ some (.created i) := by
    intro hcreated
    rcases noticed_startUp s e with hnone | ⟨j, fn, -, -, hholding, hsome⟩ | ⟨name, -, hsome⟩
    · rw [hnone] at hcreated; cases hcreated
    · rw [hsome] at hcreated
      cases hcreated
      rcases h.startUp with hu | hu <;> rw [hholding] at hu <;> cases hu
    · rw [hsome] at hcreated; cases hcreated
  have hthis := h.notice hnotice
  rcases next_startUp s e with ⟨hnext, -⟩ | ⟨hnext, -⟩
  · rw [hnext]
    exact ⟨StartUps.next_taken hname h.startUp, h.reply, h.failing, hthis.stop, hthis.uncreated⟩
  · rw [hnext]
    exact hthis

theorem refused_step (h : (s.lives i).Refused appName i (s.startUps.startUps i) tr)
    (hname : appName i ∈ s.startUps.applications) (e : LifecycleEvent I) :
    ((s.next up appName uri e).lives i).Refused appName i ((s.next up appName uri e).startUps.startUps i)
      (tr ++ (s.noticed appName e).toList) := by
  by_cases hother : ∃ e', e = .startUp e'
  · obtain ⟨e', rfl⟩ := hother
    exact refused_startUp h hname e'
  · rw [next_startUps (not_exists.1 hother)]
    exact h.change hname (next_change (not_exists.1 hother))

/-! ## Runs -/

def reached (up : UpRust) (appName : I → ApplicationName) (uri : I → UUri) (es : List (LifecycleEvent I)) :
    Lifecycles I :=
  Runs.after (step up appName uri) start es

/-- What is noticed in a run, oldest first. -/
def trace (up : UpRust) (appName : I → ApplicationName) (uri : I → UUri) (s : Lifecycles I)
    (es : List (LifecycleEvent I)) : List (Noticed I) :=
  (Runs.outputs (step up appName uri) s es).reduceOption

theorem trace_append (s : Lifecycles I) (es es' : List (LifecycleEvent I)) : trace up appName uri s (es ++ es') =
    trace up appName uri s es ++ trace up appName uri (Runs.after (step up appName uri) s es) es' := by
  rw [trace, Runs.outputs_append, List.reduceOption_append]
  rfl

theorem reached_sound (up : UpRust) (appName : I → ApplicationName) (uri : I → UUri) (es : List (LifecycleEvent I)) :
    Standing appName (reached up appName uri es).startUps.applications (trace up appName uri start es) ∧
    Owned appName (reached up appName uri es).startUps.applications (trace up appName uri start es) ∧
    ∀ i, ((reached up appName uri es).lives i).Sound appName i ((reached up appName uri es).startUps.startUps i)
      (trace up appName uri start es) := by
  let known : Lifecycles I → List (Option (Noticed I)) → Prop := fun s os =>
    Standing appName s.startUps.applications os.reduceOption ∧
      Owned appName s.startUps.applications os.reduceOption ∧
      ∀ i, (s.lives i).Sound appName i (s.startUps.startUps i) os.reduceOption
  have hstart : known start [] :=
    ⟨fun j => followed_nil, fun name hname => absurd hname (Finset.notMem_empty name),
      fun i => ⟨fun _ => ⟨rfl, rfl, List.not_mem_nil⟩, .gone, fun hrun => by cases hrun⟩⟩
  have hstep : ∀ s os e, known s os → known (step up appName uri s e).1 (os ++ [(step up appName uri s e).2]) := by
    intro s os e hs
    simp only [known, List.reduceOption_append, List.reduceOption_singleton]
    exact ⟨standing_step hs.1 e, owned_step hs.2.1 e, fun i => sound_step (hs.2.2 i) hs.1 e⟩
  have hrun := Runs.outputs_invariant known hstep hstart es
  rwa [List.nil_append] at hrun

theorem reached_oneAtATime {es : List (LifecycleEvent I)}
    (hfree : Runs.Guarded (step up appName uri) (CreatesFree appName) start es) :
    Justified (OneAtATime appName) (trace up appName uri start es) := by
  let known : Lifecycles I → List (Option (Noticed I)) → Prop := fun s os =>
    Standing appName s.startUps.applications os.reduceOption ∧ Justified (OneAtATime appName) os.reduceOption
  have hstart : known start [] := ⟨fun j => followed_nil, trivial⟩
  have hstep : ∀ s os e, known s os → CreatesFree appName s e →
      known (step up appName uri s e).1 (os ++ [(step up appName uri s e).2]) := by
    intro s os e hs he
    simp only [known, List.reduceOption_append, List.reduceOption_singleton]
    exact ⟨standing_step hs.1 e, oneAtATime_step hs.2 hs.1 he⟩
  have hrun := hfree.outputs_invariant known hstep hstart
  rw [List.nil_append] at hrun
  exact hrun.2

theorem handshake_step (h : (s.lives i).Handshake) (e : LifecycleEvent I) :
    ((s.next up appName uri e).lives i).Handshake := by
  by_cases hother : ∃ e', e = .startUp e'
  · obtain ⟨e', rfl⟩ := hother
    rcases next_startUp s e' with ⟨hnext, -⟩ | ⟨hnext, -⟩
    · rw [hnext]; exact h
    · rw [hnext]; exact h
  · exact h.change (next_change (not_exists.1 hother))

theorem reached_handshake (up : UpRust) (appName : I → ApplicationName) (uri : I → UUri)
    (es : List (LifecycleEvent I)) (i : I) : ((reached up appName uri es).lives i).Handshake :=
  Runs.after_invariant (fun s : Lifecycles I => (s.lives i).Handshake) (fun _ e h => handshake_step h e)
    (show Lifecycle.notMade.Handshake from ⟨rfl, rfl⟩) es

/-! ## Two transports of one name -/

def sharedName : Bool → ApplicationName := fun _ => "app"

def sampleUri : Bool → UUri := fun _ => ⟨"foo", 10, 1, 0⟩

theorem check_sampleUri (i : Bool) : TransportUri.check .accepting (sampleUri i) =
    .ok ⟨⟨"foo", 10, 1, 0⟩, by decide⟩ := rfl

/-- A transport up to its application. -/
def creating (i : Bool) : List (LifecycleEvent Bool) :=
  [.newInternal i true, .take i, .startUp (.findApplication i), .startUp (.findId i .least),
    .startUp (.createApplication i true)]

/-- What is left of a `new_internal` whose `create_app` has failed. -/
def failing (i : Bool) : List (LifecycleEvent Bool) :=
  [.answerStart i, .awaitEngine i false, .shutdownVsomeipApp i, .take i, .awaitEngine i false, .runtimeTurn i, .join i]

/-- The application of the first transport is created, the second not made. -/
def firstCreated : Lifecycles Bool where
  startUps := { StartUps.start with
    handlers := ⟨(Finset.range numStateHandlers).erase 0, fun _ => []⟩
    applications := {"app"}
    startUps := Function.update (fun _ => .notStarted) false (.waiting StartUps.firstFn)
    installed := Function.update (fun _ => none) false (some StartUps.firstFn) }
  lives := Function.update (fun _ => .notMade) false ⟨.starting, ⟨true, true, []⟩, none, none, .waiting, false⟩

theorem first_handler : IterOrder.least.next (Finset.range numStateHandlers) = some 0 :=
  IterOrder.least_next (Finset.mem_range.2 (by decide)) fun _ _ => Nat.zero_le _

theorem second_handler : IterOrder.least.next ((Finset.range numStateHandlers).erase 0) = some 1 :=
  IterOrder.least_next (by simp [numStateHandlers]) fun _ hn => Nat.one_le_iff_ne_zero.2 (Finset.ne_of_mem_erase hn)

theorem after_creating : reached .accepting sharedName sampleUri (creating false) = firstCreated ∧
    trace .accepting sharedName sampleUri start (creating false) = [.created false] := by
  have hlt : 0 < numStateHandlers := by decide
  constructor
  all_goals
    simp [reached, trace, creating, firstCreated, step, next, noticed, take, setLife, start, Lifecycle.newInternal,
      Lifecycle.notMade, check_sampleUri, StartEvent.startUp, StartUps.next, StartUps.start, StartUps.setStartUp,
      StartUps.firstFn, sharedName, StateHandlers.new, StateHandlers.findAvailableStateHandlerId,
      StateHandlers.getStateHandler, first_handler, hlt]

/-- Where a run leaves a transport, and what is noticed. -/
def fromFirst (i : Bool) (es : List (LifecycleEvent Bool)) : Stage × LifecycleEngine × List (Noticed Bool) :=
  let l := (Runs.after (step .accepting sharedName sampleUri) firstCreated es).lives i
  (l.stage, l.engine, trace .accepting sharedName sampleUri firstCreated es)

/-- The `err` both of them end with. -/
def sampleErr (message : String) : UStatus :=
  .failWithCode .internal ("Unable to start app for app_name: app, err: " ++ message)

/-- The application of the first does not report in time. Once it is gone, the
second is created under the name. -/
def oneAfterTheOther : List (LifecycleEvent Bool) :=
  .startUp (.timeOut false) :: failing false ++ .startUp (.applicationGone "app") :: creating true

theorem first_times_out : fromFirst false oneAfterTheOther =
    (.ended (some (sampleErr "Timed out on waiting for application to start: Timeout")), ⟨true, false, []⟩,
      [.stopped false true, .gone "app", .created true]) := by
  have hdebug : ∀ err, UpRust.accepting.debugUStatus err = err.message := fun _ => rfl
  have hlt : 1 < numStateHandlers := by decide
  simp [oneAfterTheOther, fromFirst, sampleErr, trace, failing, creating, firstCreated, step, next, noticed, take,
    setLife, Lifecycle.answer, Lifecycle.newInternal, Lifecycle.notMade, check_sampleUri, Lifecycle.initialized,
    Lifecycle.sendStop, Lifecycle.signalRuntime, Lifecycle.runtimeTurn, Lifecycle.join, answerStart, awaitEngine,
    StartEvent.startUp, StartUps.next, StartUps.start, StartUps.fail, StartUps.setStartUp, sharedName,
    StateHandlers.receive, StateHandlers.findAvailableStateHandlerId, StateHandlers.getStateHandler,
    stopVsomeipAppInternal, UStatus.failWithCode, hdebug, second_handler, hlt]

theorem oneAfterTheOther_free : Runs.Guarded (step .accepting sharedName sampleUri) (CreatesFree sharedName) start
    (creating false ++ oneAfterTheOther) := by
  have hlt : 0 < numStateHandlers := by decide
  have hlt' : 1 < numStateHandlers := by decide
  refine (Runs.guarded_append _ _ _).2 ⟨?_, ?_⟩
  · simp [creating, Runs.Guarded, CreatesFree, step, next, noticed, take, setLife, start, Lifecycle.newInternal,
      Lifecycle.notMade, check_sampleUri, StartEvent.startUp, StartUps.next, StartUps.start, StartUps.setStartUp,
      StateHandlers.new, StateHandlers.findAvailableStateHandlerId, StateHandlers.getStateHandler, first_handler, hlt]
  · rw [show Runs.after _ start (creating false) = firstCreated from after_creating.1]
    simp [oneAfterTheOther, Runs.Guarded, CreatesFree, failing, creating, firstCreated, step, next, noticed, take,
      setLife, Lifecycle.answer, Lifecycle.newInternal, Lifecycle.notMade, check_sampleUri, Lifecycle.initialized,
      Lifecycle.sendStop, Lifecycle.signalRuntime, Lifecycle.runtimeTurn, Lifecycle.join, answerStart, awaitEngine,
      StartEvent.startUp, StartUps.next, StartUps.start, StartUps.fail, StartUps.setStartUp, sharedName,
      StateHandlers.receive, StateHandlers.findAvailableStateHandlerId, StateHandlers.getStateHandler,
      stopVsomeipAppInternal, UStatus.failWithCode, second_handler, hlt']

/-- The second finds the name taken. -/
theorem second_refused :
    fromFirst true ([.newInternal true true, .take true, .startUp (.findApplication true)] ++ failing true) =
      (.ended (some (sampleErr "vsomeip app already exists with app_name: app")), ⟨true, false, []⟩,
        [.stopped true true]) := by
  have hdebug : ∀ err, UpRust.accepting.debugUStatus err = err.message := fun _ => rfl
  simp [fromFirst, sampleErr, trace, failing, firstCreated, step, next, noticed, take, setLife, Lifecycle.answer,
    Lifecycle.newInternal, Lifecycle.notMade, check_sampleUri, Lifecycle.initialized, Lifecycle.sendStop,
    Lifecycle.signalRuntime, Lifecycle.runtimeTurn, Lifecycle.join, answerStart, awaitEngine, StartEvent.startUp,
    StartUps.next, StartUps.start, StartUps.fail, StartUps.setStartUp, sharedName, stopVsomeipAppInternal,
    UStatus.failWithCode, hdebug]

/-! ## What is left -/

/-- **No application is left behind.** Where the `drop` of a transport has come
to its end and its engine to the end of its queue, an application the transport
created was stopped after that by its engine, if it was not gone by then. This
includes the transports `new_internal` fails with. -/
theorem no_application_left (up : UpRust) (appName : I → ApplicationName) (uri : I → UUri)
    {es : List (LifecycleEvent I)} (hfree : Runs.Guarded (step up appName uri) (CreatesFree appName) start es) (i : I)
    {err : Option UStatus} {pre post : List (Noticed I)}
    (hended : ((reached up appName uri es).lives i).stage = .ended err)
    (hengine : ((reached up appName uri es).lives i).engine.running = true)
    (hqueue : ((reached up appName uri es).lives i).engine.queue = [])
    (hcreated : trace up appName uri start es = pre ++ .created i :: post) :
    ∃ mid found post', post = mid ++ .stopped i found :: post' ∧
      (.gone (appName i) ∉ mid → found = true ∧ ∀ j, appName j = appName i → .created j ∉ mid) := by
  have hsound := (reached_sound up appName uri es).2.2 i
  have hsent : ((reached up appName uri es).lives i).StopSent := by simp [Lifecycle.StopSent, hended]
  rcases hsound.stop hengine hsent with hmem | ⟨-, -, hstopped⟩
  · rw [hqueue] at hmem
    cases hmem
  · obtain ⟨mid, found, post', rfl, hfound⟩ := hstopped pre post hcreated
    refine ⟨mid, found, post', rfl, fun hstays => ⟨by simpa using mt hfound hstays, fun j hname hmem => hstays ?_⟩⟩
    -- Another application of the name would have waited for the first to be gone.
    obtain ⟨mid₁, mid₂, rfl⟩ := List.append_of_mem hmem
    have hone := reached_oneAtATime hfree
    rw [hcreated, show pre ++ .created i :: (mid₁ ++ .created j :: mid₂ ++ .stopped i found :: post') =
      (pre ++ .created i :: mid₁) ++ .created j :: (mid₂ ++ .stopped i found :: post') by simp] at hone
    exact List.mem_append_left _ (hone.before i j pre mid₁ rfl hname rfl)

theorem no_application_left_sample : ∃ (mid : List (Noticed Bool)) (found : Bool) (post' : List (Noticed Bool)),
    [.stopped false true, .gone "app", .created true] = mid ++ .stopped false found :: post' ∧
    (.gone "app" ∉ mid → found = true ∧ ∀ j, sharedName j = "app" → .created j ∉ mid) := by
  obtain ⟨hreached, htrace⟩ := after_creating
  let es := creating false ++ oneAfterTheOther
  have hfrom := first_times_out
  simp only [fromFirst, Prod.mk.injEq] at hfrom
  obtain ⟨hended, hengine, hnoticed⟩ := hfrom
  have hlife : reached .accepting sharedName sampleUri es =
      Runs.after (step .accepting sharedName sampleUri) firstCreated oneAfterTheOther := by
    rw [← hreached, reached, reached, Runs.after_append]
  have hcreated : trace .accepting sharedName sampleUri start es =
      [] ++ .created false :: [.stopped false true, .gone "app", .created true] := by
    rw [trace_append, htrace, show Runs.after _ start (creating false) = firstCreated from hreached, hnoticed]
    rfl
  exact no_application_left .accepting sharedName sampleUri oneAfterTheOther_free false
    (by rw [hlife, hended]) (by rw [hlife, hengine]) (by rw [hlife, hengine]) hcreated

theorem refused_run {s : Lifecycles I} {i : I} (h : (s.lives i).Refused appName i (s.startUps.startUps i) [])
    (hname : appName i ∈ s.startUps.applications) (es : List (LifecycleEvent I))
    (hstays : .gone (appName i) ∉ trace up appName uri s es) :
    ((Runs.after (step up appName uri) s es).lives i).Refused appName i
      ((Runs.after (step up appName uri) s es).startUps.startUps i) (trace up appName uri s es) := by
  let known : Lifecycles I → List (Option (Noticed I)) → Prop := fun s os =>
    .gone (appName i) ∈ os.reduceOption ∨ appName i ∈ s.startUps.applications ∧
      (s.lives i).Refused appName i (s.startUps.startUps i) os.reduceOption
  have hstep : ∀ s os e, known s os → known (step up appName uri s e).1 (os ++ [(step up appName uri s e).2]) := by
    intro s os e hs
    simp only [known, List.reduceOption_append, List.reduceOption_singleton]
    rcases hs with hgone | ⟨hname, hs⟩
    · exact .inl (List.mem_append_left _ hgone)
    · by_cases hgone : s.noticed appName e = some (.gone (appName i))
      · refine .inl (List.mem_append_right _ ?_)
        show _ ∈ (s.noticed appName e).toList
        simp [hgone]
      · exact .inr ⟨next_keeps_name hname hgone, refused_step hs hname e⟩
  have hstart : known s [] := .inr ⟨hname, h⟩
  have hrun := Runs.outputs_invariant known hstep hstart es
  rw [List.nil_append] at hrun
  exact (hrun.resolve_left hstays).2

/-- **A transport that is refused because its name is taken stops the
application that has it**: that of another transport. It sends its own command
to stop when `new_internal` fails, and the engine looks for the name. -/
theorem refused_creation_stops_other (up : UpRust) (appName : I → ApplicationName) (uri : I → UUri)
    (es es' : List (LifecycleEvent I)) (i : I) {err : Option UStatus}
    (hfresh : ((reached up appName uri es).lives i).stage = .notMade)
    (htaken : appName i ∈ (reached up appName uri es).startUps.applications)
    (hstays : .gone (appName i) ∉ trace up appName uri (reached up appName uri es) es')
    (hended : ((Runs.after (step up appName uri) (reached up appName uri es) es').lives i).stage = .ended err)
    (hengine : ((Runs.after (step up appName uri) (reached up appName uri es) es').lives i).engine.running = true)
    (hqueue : ((Runs.after (step up appName uri) (reached up appName uri es) es').lives i).engine.queue = []) :
    err ≠ none ∧ .stopped i true ∈ trace up appName uri (reached up appName uri es) es' ∧
      ∃ j, j ≠ i ∧ appName j = appName i ∧ .created j ∈ trace up appName uri start es := by
  obtain ⟨-, howned, hsound⟩ := reached_sound up appName uri es
  obtain ⟨hl, hu, hcreated⟩ := (hsound i).fresh hfresh
  have hrefused : ((reached up appName uri es).lives i).Refused appName i
      ((reached up appName uri es).startUps.startUps i) [] := by
    rw [hl, hu]
    exact ⟨.inl rfl, .inl rfl, trivial, fun hrun => (by cases hrun), List.not_mem_nil⟩
  have hafter := refused_run hrefused htaken es' hstays
  refine ⟨fun hnone => ?_, ?_, ?_⟩
  · have hfailing := hafter.failing
    simp only [Lifecycle.Failing, hended, hnone] at hfailing
  · have hsent : ((Runs.after (step up appName uri) (reached up appName uri es) es').lives i).StopSent := by
      simp [Lifecycle.StopSent, hended]
    rcases hafter.stop hengine hsent with hmem | hstopped
    · rw [hqueue] at hmem
      cases hmem
    · exact hstopped
  · obtain ⟨j, hj, hmem⟩ := howned (appName i) htaken
    exact ⟨j, fun hji => hcreated (hji ▸ hmem), hj, hmem⟩

theorem refused_creation_stops_other_sample :
    some (sampleErr "vsomeip app already exists with app_name: app") ≠ none ∧
    .stopped true true ∈ [Noticed.stopped true true] ∧
    ∃ j, j ≠ true ∧ sharedName j = sharedName true ∧ .created j ∈ [Noticed.created false] := by
  obtain ⟨hreached, htrace⟩ := after_creating
  have hfrom := second_refused
  simp only [fromFirst, Prod.mk.injEq] at hfrom
  obtain ⟨hended, hengine, hnoticed⟩ := hfrom
  have h := @refused_creation_stops_other Bool _ .accepting sharedName sampleUri (creating false)
    ([.newInternal true true, .take true, .startUp (.findApplication true)] ++ failing true) true
    (some (sampleErr "vsomeip app already exists with app_name: app"))
  rw [hreached, htrace, hnoticed] at h
  exact h rfl (Finset.mem_singleton_self _) (by simp) hended (by rw [hengine]) (by rw [hengine])

/-- **The end of a transport finds its runtime alive**: the two `expect`s with
which `drop` ends do not fail, and `new_internal` and `drop` panic only where the
runtime was not built or the engine has stopped. Only then does the thread of the
runtime panic, and a `drop` that waits for it goes on. -/
theorem runtime_shuts_down (up : UpRust) (appName : I → ApplicationName) (uri : I → UUri)
    (es : List (LifecycleEvent I)) (i : I) :
    let l := (reached up appName uri es).lives i
    (∀ msg, l.stage = .panicked msg → msg = "the sender dropped" ∨ msg = "engine has stopped! unable to proceed!") ∧
    (∀ msg, l.runtime = .panicked msg → ∃ msg', l.stage = .panicked msg') ∧
    (∀ err, l.stage = .ended err → l.runtime = .shutDown) ∧
    ∀ err, l.stage = .joining err →
      ((Runs.after (step up appName uri) (reached up appName uri es) [.runtimeTurn i, .join i]).lives i).stage =
        .ended err := by
  intro l
  have hshake : l.Handshake := reached_handshake up appName uri es i
  have h := hshake
  unfold Lifecycle.Handshake at h
  refine ⟨fun msg hstage => ?_, fun msg hruntime => ?_, fun err hstage => ?_, fun err hstage => ?_⟩
  · simp only [hstage] at h
    exact h.imp And.left And.left
  · cases hstage : l.stage with
    | panicked msg' => exact ⟨msg', rfl⟩
    | _ => simp [hstage, hruntime] at h
  · simpa only [hstage] using h
  · simp only [Runs.after_cons, Runs.after_nil, step, next, setLife_lives, if_true]
    exact hshake.joined hstage

end Lifecycles

end VsomeipTransport
