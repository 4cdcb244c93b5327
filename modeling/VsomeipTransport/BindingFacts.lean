/-
Who holds a handler id after a run of registrations and releases.

One operation adds the binding it makes, or takes away the one it releases
(`bound_step`). So a binding that is there after a run was there before and
was not released, or some registration of the run took the id and nothing
released it since (`bound_after_iff`).
-/
import VsomeipTransport.PoolInvariant

namespace VsomeipTransport

variable {T L : Type} [DecidableEq T] [DecidableEq L]

/-- Reached from the maps of a fresh process. -/
def MessageHandlers.Reachable (up : UpRust) (h : MessageHandlers T L) : Prop :=
  ∃ ops, h = Runs.after (handlerStep up) .new ops

theorem MessageHandlers.Reachable.pool {up : UpRust} {h : MessageHandlers T L} (hr : h.Reachable up) :
    PoolInvariant h := by
  obtain ⟨ops, rfl⟩ := hr
  exact PoolInvariant.new.run up ops

/-- A registration among `ops` took `id` for `cfg` of `t`, and it was not
released since. -/
def TakenBy (up : UpRust) (h : MessageHandlers T L) (ops : List (HandlerOp T L)) (id : MessageHandlerId) (t : T)
    (cfg : ListenerConfig L) : Prop :=
  ∃ pre order post, ops = pre ++ .get t cfg order :: post ∧
    ((Runs.after (handlerStep up) h pre).lock t).Available order cfg id ∧ HandlerOp.release t cfg ∉ post

variable {up : UpRust} {h : MessageHandlers T L} {id : MessageHandlerId} {t : T} {cfg : ListenerConfig L}

/-- A registration adds the binding of the id it is offered. -/
theorem bound_get (hI : PoolInvariant h) (order : IterOrder MessageHandlerId) (self : T) (cfg' : ListenerConfig L) :
    (h.getMessageHandler up order self self cfg').2.Bound t id cfg ↔
      h.Bound t id cfg ∨ (t = self ∧ cfg = cfg' ∧ (h.lock self).Available order cfg' id) := by
  by_cases hav : ∃ id', (h.lock self).Available order cfg' id'
  · obtain ⟨id', ha⟩ := hav
    have hfree : id' ∈ h.freeMessageHandlerIds := order.next_mem ha.picked
    obtain ⟨maps, hb, hget⟩ := MessageHandlers.getMessageHandler_available up ha ((hI.ids id').2 (.inl hfree))
    have honly : (h.lock self).Available order cfg' id ↔ id = id' := by
      constructor
      · intro ha'
        exact Option.some.inj (ha'.picked.symm.trans ha.picked)
      · intro he
        rw [he]
        exact ha
    rw [hget, MessageHandlers.bound_of_binds hb, honly]
    split
    · next hnew =>
      obtain ⟨rfl, rfl⟩ := hnew
      have hold : ¬ h.Bound t id cfg := fun hbound => hI.disjoint hbound hfree
      simp only [hold, false_or, true_and, and_true]
    · next hother =>
      have hnot : ¬ (t = self ∧ cfg = cfg' ∧ id = id') := fun hnew => hother ⟨hnew.1, hnew.2.2⟩
      simp only [hnot, or_false]
  · have hnot : ¬ (t = self ∧ cfg = cfg' ∧ (h.lock self).Available order cfg' id) := fun hnew => hav ⟨id, hnew.2.2⟩
    rw [(MessageHandlers.getMessageHandler_unavailable up (not_exists.1 hav)).1]
    simp only [hnot, or_false]

omit [DecidableEq L] in
/-- A release takes away the binding of its configuration. -/
theorem bound_release (h : MessageHandlers T L) (self : T) (cfg' : ListenerConfig L) :
    (h.releaseMessageHandler self cfg').2.Bound t id cfg ↔ h.Bound t id cfg ∧ ¬ (t = self ∧ cfg = cfg') := by
  cases hrel : h.releaseMessageHandler self cfg' with
  | mk res h' =>
  rcases MessageHandlers.releaseMessageHandler_pool hrel with ⟨id', maps, hb, hf, rfl⟩ | ⟨hn, he⟩
  · rw [MessageHandlers.bound_of_frees hf, and_comm, and_congr_right_iff]
    intro hbound
    -- A configuration and its id determine each other.
    rw [not_iff_not]
    constructor
    · intro hgone
      obtain ⟨rfl, rfl⟩ := hgone
      exact ⟨rfl, Option.some.inj (hbound.symm.trans hb)⟩
    · intro hgone
      obtain ⟨rfl, rfl⟩ := hgone
      exact ⟨rfl, BiMap.left_unique hbound hb⟩
  · rw [he]
    have hother : h.Bound t id cfg → ¬ (t = self ∧ cfg = cfg') := by
      intro hbound hgone
      obtain ⟨rfl, rfl⟩ := hgone
      exact hn id hbound
    exact ⟨fun hbound => ⟨hbound, hother hbound⟩, And.left⟩

/-- What one operation does to a binding. -/
theorem bound_step (hI : PoolInvariant h) (op : HandlerOp T L) :
    (handlerStep up h op).1.Bound t id cfg ↔
      (h.Bound t id cfg ∧ op ≠ .release t cfg) ∨
      ∃ order, op = .get t cfg order ∧ (h.lock t).Available order cfg id := by
  cases op with
  | get self cfg' order =>
    show (h.getMessageHandler up order self self cfg').2.Bound t id cfg ↔ _
    rw [bound_get hI]
    simp only [ne_eq, reduceCtorEq, not_false_eq_true, and_true, HandlerOp.get.injEq]
    refine or_congr_right ⟨?_, ?_⟩
    · intro hnew
      obtain ⟨rfl, rfl, ha⟩ := hnew
      exact ⟨order, ⟨rfl, rfl, rfl⟩, ha⟩
    · intro hnew
      obtain ⟨_, ⟨rfl, rfl, rfl⟩, ha⟩ := hnew
      exact ⟨rfl, rfl, ha⟩
  | release self cfg' =>
    show (h.releaseMessageHandler self cfg').2.Bound t id cfg ↔ _
    rw [bound_release]
    simp only [ne_eq, HandlerOp.release.injEq, reduceCtorEq, false_and, exists_false, or_false, eq_comm]

/-- Taking an id is remembered until it is released. -/
theorem takenBy_concat {ops : List (HandlerOp T L)} {op : HandlerOp T L} :
    TakenBy up h (ops ++ [op]) id t cfg ↔ (TakenBy up h ops id t cfg ∧ op ≠ .release t cfg) ∨
      ∃ order, op = .get t cfg order ∧ ((Runs.after (handlerStep up) h ops).lock t).Available order cfg id := by
  constructor
  · intro hgiven
    obtain ⟨pre, order, post, he, ha, hno⟩ := hgiven
    rcases List.eq_nil_or_concat post with rfl | ⟨post, op', rfl⟩
    · obtain ⟨rfl, ho⟩ := List.append_inj' he rfl
      exact .inr ⟨order, List.head_eq_of_cons_eq ho, ha⟩
    · rw [List.concat_eq_append, ← List.cons_append, ← List.append_assoc] at he
      obtain ⟨rfl, ho⟩ := List.append_inj' he rfl
      obtain rfl := List.head_eq_of_cons_eq ho
      simp only [List.concat_eq_append, List.mem_append, List.mem_singleton, not_or] at hno
      exact .inl ⟨⟨pre, order, post, rfl, ha, hno.1⟩, Ne.symm hno.2⟩
  · intro hgiven
    rcases hgiven with ⟨⟨pre, order, post, rfl, ha, hno⟩, hop⟩ | ⟨order, rfl, ha⟩
    · refine ⟨pre, order, post ++ [op], by simp, ha, fun hm => ?_⟩
      simp only [List.mem_append, List.mem_singleton] at hm
      exact hm.elim hno fun he => hop he.symm
    · exact ⟨ops, order, [], rfl, ha, by simp⟩

/-- **A binding after a run is an old one that nobody released, or one that a
registration of the run made.** -/
theorem bound_after_iff (hI : PoolInvariant h) (ops : List (HandlerOp T L)) :
    (Runs.after (handlerStep up) h ops).Bound t id cfg ↔
      (h.Bound t id cfg ∧ HandlerOp.release t cfg ∉ ops) ∨ TakenBy up h ops id t cfg := by
  induction ops using List.reverseRecOn with
  | nil =>
    have hno : ¬ TakenBy up h [] id t cfg := by
      intro htaken
      obtain ⟨_, _, _, he, -⟩ := htaken
      simp at he
    simp [hno]
  | append_singleton ops op ih =>
    rw [Runs.after_concat, bound_step (hI.run up ops), ih, takenBy_concat]
    simp only [List.mem_append, List.mem_singleton, not_or]
    constructor
    · intro hgiven
      rcases hgiven with ⟨⟨hold, hno⟩ | htaken, hop⟩ | hget
      · exact .inl ⟨hold, hno, Ne.symm hop⟩
      · exact .inr (.inl ⟨htaken, hop⟩)
      · exact .inr (.inr hget)
    · intro hgiven
      rcases hgiven with ⟨hold, hno, hop⟩ | ⟨htaken, hop⟩ | hget
      · exact .inl ⟨.inl ⟨hold, hno⟩, Ne.symm hop⟩
      · exact .inl ⟨.inr htaken, hop⟩
      · exact .inr hget

/-- The only binding after the first registration. -/
theorem bound_first {t' : T} {cfg' : ListenerConfig L} :
    (Runs.after (handlerStep up) .new [.get t cfg .least]).Bound t' id cfg' ↔ t' = t ∧ id = 0 ∧ cfg' = cfg := by
  have ha : ((MessageHandlers.new : MessageHandlers T L).lock t).Available .least cfg 0 :=
    MessageHandlers.available_new t cfg
  rw [Runs.after_cons, Runs.after_nil, bound_step PoolInvariant.new]
  simp only [MessageHandlers.unbound_new, false_and, false_or, HandlerOp.get.injEq]
  constructor
  · intro hgiven
    obtain ⟨_, ⟨rfl, rfl, rfl⟩, ha'⟩ := hgiven
    exact ⟨rfl, Option.some.inj (ha'.picked.symm.trans ha.picked), rfl⟩
  · intro hgiven
    obtain ⟨rfl, rfl, rfl⟩ := hgiven
    exact ⟨_, ⟨rfl, rfl, rfl⟩, ha⟩

/-- A registration that is offered an id binds it. -/
theorem after_get (up : UpRust) {order : IterOrder MessageHandlerId} (ha : (h.lock t).Available order cfg id)
    (hid : id < numMessageHandlers) :
    ∃ maps, (h.lock t).Binds maps t cfg id ∧
      Runs.after (handlerStep up) h [.get t cfg order] = h.unlock t maps := by
  obtain ⟨maps, hb, hget⟩ := MessageHandlers.getMessageHandler_available up ha hid
  refine ⟨maps, hb, ?_⟩
  show (h.getMessageHandler up order t t cfg).2 = _
  rw [hget]

/-- Two registrations take the first two ids. -/
theorem takenBy_two (up : UpRust) (t : T) {cfg' : ListenerConfig L} (hne : cfg' ≠ cfg) :
    TakenBy up .new [.get t cfg .least, .get t cfg' .least] 0 t cfg ∧
      TakenBy up .new [.get t cfg .least, .get t cfg' .least] 1 t cfg' := by
  have ha : ((MessageHandlers.new : MessageHandlers T L).lock t).Available .least cfg 0 :=
    MessageHandlers.available_new t cfg
  constructor
  · refine ⟨[], .least, [.get t cfg' .least], rfl, ?_, by simp⟩
    rw [Runs.after_nil]
    exact ha
  · obtain ⟨maps, hb, hfirst⟩ := after_get up ha (by decide)
    refine ⟨[.get t cfg .least], .least, [], rfl, ?_, by simp⟩
    rw [hfirst]
    exact MessageHandlers.available_second hb hne

/-- The first id again, after its only binding was released. -/
theorem takenBy_again {cfg' : ListenerConfig L} :
    TakenBy up (Runs.after (handlerStep up) .new [.get t cfg .least])
      [.release t cfg, .get t cfg' .least] 0 t cfg' := by
  refine ⟨[.release t cfg], .least, [], rfl, ?_, by simp⟩
  have hpool := (PoolInvariant.new (T := T) (L := L)).run up [.get t cfg .least]
  refine (hpool.run up _).available_of_unbound fun t' id cfg' hb => ?_
  rw [Runs.after_cons, Runs.after_nil, bound_step hpool, bound_first] at hb
  simp only [ne_eq, HandlerOp.release.injEq, reduceCtorEq, false_and, exists_false, or_false] at hb
  obtain ⟨⟨rfl, -, rfl⟩, hne⟩ := hb
  exact hne ⟨rfl, rfl⟩

end VsomeipTransport
