/-
What disciplined threads do to the data behind their locks.

* `refines_atomic`: their runs are runs of the machine where every operation
  takes effect in one step, with the same results and, once nobody writes,
  the same data.
* `Simulates.all_return`: there is no deadlock. As long as an operation is
  under way, one of them does not wait for a lock that is held
  (`Simulates.not_all_waiting`), so all of them can be brought to their end.
-/
import Mathlib.Algebra.Order.BigOperators.Group.Finset
import Mathlib.Data.List.Forall2
import VsomeipTransport.Lib.Locks

namespace Locks

variable {Th K R O : Type} {D : K → Type}

/-! ## The two machines agree -/

section Simulation

variable [DecidableEq K] {rank : K → ℕ} {prog : O → Prog K D R} {exec : O → (∀ k, D k) → R × (∀ k, D k)}

/-- The data with what a thread has written so far: `d` elsewhere. -/
def view (held : Held K) (d written : ∀ k, D k) : ∀ k, D k :=
  fun k => if held k = some .exclusive then written k else d k

omit [DecidableEq K] in
theorem view_of_exclusive {held : Held K} {d written : ∀ k, D k} {k : K} (hk : held k = some .exclusive) :
    view held d written k = written k := if_pos hk

omit [DecidableEq K] in
theorem view_of_not_exclusive {held : Held K} {d written : ∀ k, D k} {k : K} (hk : held k ≠ some .exclusive) :
    view held d written k = d k := if_neg hk

/-- What a thread does and what is said of it in one step, where `written` is
the data as it is and `d` as the operations that took effect leave it.

Before the operation took effect, running it as a whole comes to running
what is left of it, whatever the data it has not seen yet are. Afterwards,
what is left comes to its result. -/
inductive Agrees (rank : K → ℕ) (prog : O → Prog K D R) (held : Held K) (written d : ∀ k, D k) :
    Option (Prog K D R) → Option (Call O R) → Prop
  | idle (nothing : ∀ k, held k = none) : Agrees rank prog held written d none none
  | started {op : O} {p : Prog K D R} (disciplined : p.Disciplined rank true held)
      (same : ∀ d', (∀ k, held k ≠ none → d' k = d k) → (prog op).eval d' = p.eval (view held d' written)) :
      Agrees rank prog held written d (some p) (some (.started op))
  | decided {p : Prog K D R} {r : R} (disciplined : p.Disciplined rank false held)
      (result : (p.eval written).1 = r) (leaves : ∀ k, held k = some .exclusive → (p.eval written).2 k = d k) :
      Agrees rank prog held written d (some p) (some (.decided r))

/-- Another thread's action changes nothing that this one holds. -/
theorem Agrees.others {held : Held K} {written written' d d' : ∀ k, D k} {p : Option (Prog K D R)}
    {c : Option (Call O R)} (h : Agrees rank prog held written d p c)
    (hwritten : ∀ k, held k = some .exclusive → written' k = written k) (hd : ∀ k, held k ≠ none → d' k = d k) :
    Agrees rank prog held written' d' p c := by
  cases h with
  | idle hnothing => exact .idle hnothing
  | started hp hsame =>
    refine .started hp fun d₀ hd₀ => ?_
    have hview : view held d₀ written' = view held d₀ written := by
      funext k
      by_cases hk : held k = some .exclusive
      · rw [view_of_exclusive hk, view_of_exclusive hk, hwritten k hk]
      · rw [view_of_not_exclusive hk, view_of_not_exclusive hk]
    rw [hview]
    exact hsame d₀ fun k hk => (hd₀ k hk).trans (hd k hk)
  | decided hp hresult hleaves =>
    obtain ⟨hr, hdata⟩ := hp.eval_congr hwritten
    refine .decided hp (hr.trans hresult) fun k hk => ?_
    rw [hdata k hk, hleaves k hk, hd k (by simp [hk])]

variable [DecidableEq Th]

/-- The machines agree on every thread, and on the data nobody writes. -/
structure Simulates (rank : K → ℕ) (prog : O → Prog K D R) (s : Threads Th K D R) (a : Atomic Th K D O R) :
    Prop where
  threads : ∀ t, Agrees rank prog (s.held t) s.data a.data (s.progs t) (a.calls t)
  data : ∀ k, (s.owners k).writer = none → s.data k = a.data k

variable {s : Threads Th K D R} {a : Atomic Th K D O R} {t : Th}

theorem Simulates.fresh (d : ∀ k, D k) :
    Simulates rank prog (Threads.fresh d : Threads Th K D R) (Atomic.fresh d) where
  threads _ := .idle fun _ => Owners.nobody_mode
  data _ _ := rfl

omit [DecidableEq K] in
/-- What a thread writes, the others do not hold. -/
theorem unheld_of_exclusive {t' : Th} {k : K} (hk : s.held t k = some .exclusive) (hne : t' ≠ t) :
    s.held t' k = none := Owners.mode_of_exclusive hk hne

/-- A thread that got a lock: it sees the data as the operations before it
left them. -/
theorem Agrees.lock {held : Held K} {written d : ∀ k, D k} {k : K} {m : Mode} {rest : D k → Prog K D R}
    {c : Option (Call O R)} (h : Agrees rank prog held written d (some (.lock k m rest)) c)
    (hfree : written k = d k) :
    Agrees rank prog (Function.update held k (some m)) written d (some (rest (written k))) c := by
  cases h with
  | started hp hsame =>
    have hk : held k = none := by
      by_contra hne
      exact absurd (hp.2.1 k hne) (lt_irrefl _)
    refine .started (hp.2.2 _) fun d' hd' => ?_
    have hk' : d' k = written k := by
      rw [hfree]
      exact hd' k (by simp)
    have hold : ∀ k', held k' ≠ none → d' k' = d k' := by
      intro k' hk''
      have hne : k' ≠ k := fun he => hk'' (he ▸ hk)
      exact hd' k' (by rw [Function.update_of_ne hne]; exact hk'')
    have hview : view (Function.update held k (some m)) d' written = view held d' written := by
      funext k'
      by_cases he : k' = k
      · subst he
        simp only [view, hk, hk']
        split <;> rfl
      · simp only [view, Function.update_of_ne he]
    rw [hsame d' hold, hview, Prog.eval, view_of_not_exclusive (by simp [hk]), hk']
  | decided hp => cases hp.1

theorem Agrees.write {held : Held K} {written d : ∀ k, D k} {k : K} {v : D k} {rest : Prog K D R}
    {c : Option (Call O R)} (h : Agrees rank prog held written d (some (.write k v rest)) c) :
    held k = some .exclusive ∧ Agrees rank prog held (Function.update written k v) d (some rest) c := by
  cases h with
  | started hp hsame =>
    refine ⟨hp.1, .started hp.2 fun d' hd' => ?_⟩
    rw [hsame d' hd', Prog.eval]
    congr 1
    funext k'
    by_cases he : k' = k
    · subst he
      rw [Function.update_self, view_of_exclusive hp.1, Function.update_self]
    · simp only [view, Function.update_of_ne he]
  | decided hp hresult hleaves => exact ⟨hp.1, .decided hp.2 hresult hleaves⟩

/-- Giving back another lock after the operation took effect. -/
theorem Agrees.unlock_decided {held : Held K} {written d : ∀ k, D k} {k : K} {rest : Prog K D R} {r : R}
    (h : Agrees rank prog held written d (some (.unlock k rest)) (some (.decided r))) :
    Agrees rank prog (Function.update held k none) written d (some rest) (some (.decided r)) ∧
      (held k = some .exclusive → written k = d k) := by
  cases h with
  | decided hp hresult hleaves =>
    refine ⟨.decided hp.2 hresult fun k' hk' => hleaves k' ?_, fun hk => ?_⟩
    · rw [Function.update_apply] at hk'
      split at hk'
      · cases hk'
      · exact hk'
    · have hframe : Function.update held k none k ≠ some Mode.exclusive := by simp
      rw [← hleaves k hk, Prog.eval, hp.2.eval_frame hframe]

/-- **Giving back its first lock, an operation takes effect**: what it leaves
are the data of the whole operation, and it changes only what it writes. -/
theorem Agrees.unlock_started {held : Held K} {written d : ∀ k, D k} {k : K} {rest : Prog K D R} {op : O}
    (h : Agrees rank prog held written d (some (.unlock k rest)) (some (.started op))) :
    Agrees rank prog (Function.update held k none) written ((prog op).eval d).2 (some rest)
        (some (.decided ((prog op).eval d).1)) ∧
      (∀ k', held k' ≠ some .exclusive → ((prog op).eval d).2 k' = d k') ∧
      (held k = some .exclusive → written k = ((prog op).eval d).2 k) := by
  cases h with
  | started hp hsame =>
    have hless : ∀ k', Function.update held k none k' = some .exclusive → held k' = some .exclusive := by
      intro k' hk'
      rw [Function.update_apply] at hk'
      split at hk'
      · cases hk'
      · exact hk'
    have hwhole : (prog op).eval d = rest.eval (view held d written) := hsame d fun _ _ => rfl
    have hsees : ∀ k', Function.update held k none k' = some .exclusive → written k' = view held d written k' :=
      fun k' hk' => (view_of_exclusive (hless k' hk')).symm
    obtain ⟨hr, hdata⟩ := hp.2.eval_congr hsees
    refine ⟨.decided hp.2 (by rw [hwhole, hr]) fun k' hk' => by rw [hwhole, hdata k' hk'], fun k' hk' => ?_,
      fun hk => ?_⟩
    · rw [hwhole, hp.2.eval_frame (fun hk'' => hk' (hless k' hk'')), view_of_not_exclusive hk']
    · have hframe : Function.update held k none k ≠ some Mode.exclusive := by simp
      rw [hwhole, hp.2.eval_frame hframe, view_of_exclusive hk]

/-- A step of `t` that leaves the others' locks and data alone. -/
theorem Simulates.of_thread {s' : Threads Th K D R} {a' : Atomic Th K D O R} (h : Simulates rank prog s a)
    (hprogs : ∀ t' ≠ t, s'.progs t' = s.progs t') (hcalls : ∀ t' ≠ t, a'.calls t' = a.calls t')
    (howners : ∀ t' ≠ t, s'.held t' = s.held t')
    (hwritten : ∀ k, s.held t k ≠ some .exclusive → s'.data k = s.data k)
    (hd : ∀ k, s.held t k ≠ some .exclusive → a'.data k = a.data k)
    (ht : Agrees rank prog (s'.held t) s'.data a'.data (s'.progs t) (a'.calls t))
    (hdata : ∀ k, (s'.owners k).writer = none → s'.data k = a'.data k) : Simulates rank prog s' a' where
  threads t' := by
    by_cases he : t' = t
    · rw [he]; exact ht
    · rw [hprogs t' he, hcalls t' he, howners t' he]
      have hother : ∀ k, s.held t' k ≠ none → s.held t k ≠ some .exclusive := by
        intro k hk hex
        exact hk (unheld_of_exclusive hex he)
      exact (h.threads t').others (fun k hk => hwritten k (hother k (by simp [hk]))) fun k hk => hd k (hother k hk)
  data := hdata

theorem Simulates.start (h : Simulates rank prog s a) (hp : ∀ op, (prog op).Disciplined rank true Held.nothing)
    (t : Th) (op : O) :
    Simulates rank prog (Threads.step prog s (.start t op)).1 (Atomic.step exec a (.start t op)).1 ∧
      (Threads.step prog s (.start t op)).2 = (Atomic.step exec a (.start t op)).2 := by
  have ht := h.threads t
  simp only [Threads.step, Atomic.step]
  cases hs : s.progs t with
  | some p =>
    rw [hs] at ht
    cases hc : a.calls t with
    | none => rw [hc] at ht; cases ht
    | some c => exact ⟨h, rfl⟩
  | none =>
    rw [hs] at ht
    cases hc : a.calls t with
    | some c => rw [hc] at ht; cases ht
    | none =>
      rw [hc] at ht
      cases ht with
      | idle hnothing =>
        have hheld : s.held t = Held.nothing := funext hnothing
        refine ⟨?_, rfl⟩
        refine h.of_thread (t := t) (fun t' he => Function.update_of_ne he _ _)
          (fun t' he => Function.update_of_ne he _ _) (fun _ _ => rfl) (fun _ _ => rfl) (fun _ _ => rfl) ?_ h.data
        simp only [Function.update_self]
        refine .started ?_ fun d' _ => ?_
        · show (prog op).Disciplined rank true (s.held t)
          rw [hheld]
          exact hp op
        · congr 1
          funext k
          exact (view_of_not_exclusive (by show s.held t k ≠ _; simp [hnothing k])).symm

omit [DecidableEq K] in
theorem held_of_ne {owners : K → Owners Th} {t' : Th} {k : K} [DecidableEq K] {o : Owners Th} {data : ∀ k, D k}
    {progs : Th → Option (Prog K D R)} (ho : o.mode t' = (owners k).mode t') :
    (Threads.mk data (Function.update owners k o) progs).held t' = fun k => (owners k).mode t' := by
  funext k'
  simp only [Threads.held, Function.update_apply]
  split
  · next he => rw [he, ho]
  · rfl

theorem Simulates.lock (h : Simulates rank prog s a) {k : K} {m : Mode} {rest : D k → Prog K D R} {o : Owners Th}
    (hs : s.progs t = some (.lock k m rest)) (ho : (s.owners k).acquire t m = some o) :
    Simulates rank prog { s with owners := Function.update s.owners k o
                                 progs := Function.update s.progs t (some (rest (s.data k))) } a := by
  have hunwritten : (s.owners k).writer = none := by
    rw [Option.eq_none_iff_forall_ne_some]
    intro t' hw
    exact Owners.not_exclusive_of_acquire ho t' (Owners.mode_eq_exclusive.2 hw)
  have ht := h.threads t
  rw [hs] at ht
  refine h.of_thread (t := t) (fun t' he => Function.update_of_ne he _ _) (fun _ _ => rfl)
    (fun t' he => held_of_ne (Owners.mode_acquire_of_ne ho he)) (fun _ _ => rfl) (fun _ _ => rfl) ?_ fun k' hk' => ?_
  · have hheld : (Threads.mk s.data (Function.update s.owners k o)
        (Function.update s.progs t (some (rest (s.data k))))).held t = Function.update (s.held t) k (some m) := by
      funext k'
      simp only [Threads.held, Function.update_apply]
      split
      · exact Owners.mode_acquire_self ho
      · rfl
    simp only [Function.update_self]
    rw [hheld]
    exact ht.lock (h.data k hunwritten)
  · by_cases he : k' = k
    · rw [he]; exact h.data k hunwritten
    · simp only [Function.update_of_ne he] at hk'
      exact h.data k' hk'

theorem Simulates.write (h : Simulates rank prog s a) {k : K} {v : D k} {rest : Prog K D R}
    (hs : s.progs t = some (.write k v rest)) :
    Simulates rank prog { s with data := Function.update s.data k v
                                 progs := Function.update s.progs t (some rest) } a := by
  have ht := h.threads t
  rw [hs] at ht
  obtain ⟨hk, ht⟩ := ht.write
  refine h.of_thread (t := t) (fun t' he => Function.update_of_ne he _ _) (fun _ _ => rfl) (fun _ _ => rfl)
    (fun k' hk' => Function.update_of_ne (fun he => hk' (by rw [he]; exact hk)) _ _) (fun _ _ => rfl) ?_
    fun k' hk' => ?_
  · simp only [Function.update_self]
    exact ht
  · have hne : k' ≠ k := by
      intro he
      have hw := Owners.mode_eq_exclusive.1 hk
      rw [← he] at hw
      exact absurd (hk'.symm.trans hw) (by simp)
    simp only [Function.update_of_ne hne]
    exact h.data k' hk'

/-- The data nobody writes after a thread gave a lock back. -/
theorem Simulates.data_release (h : Simulates rank prog s a) {k : K} {d : ∀ k, D k}
    (hd : ∀ k', s.held t k' ≠ some .exclusive → d k' = a.data k') (hk : s.held t k = some .exclusive → s.data k = d k)
    {k' : K} (hk' : (Function.update s.owners k ((s.owners k).release t) k').writer = none) : s.data k' = d k' := by
  by_cases he : k' = k
  · subst he
    by_cases hex : s.held t k' = some .exclusive
    · exact hk hex
    · have hw : (s.owners k').writer ≠ some t := fun hw => hex (Owners.mode_eq_exclusive.2 hw)
      rw [Function.update_self, Owners.release, if_neg hw] at hk'
      rw [h.data k' hk', hd k' hex]
  · rw [Function.update_of_ne he] at hk'
    have hex : s.held t k' ≠ some .exclusive := by
      intro hex
      rw [Owners.mode_eq_exclusive.1 hex] at hk'
      cases hk'
    rw [h.data k' hk', hd k' hex]

theorem held_release {k : K} {p : Option (Prog K D R)} :
    (Threads.mk s.data (Function.update s.owners k ((s.owners k).release t)) (Function.update s.progs t p)).held t =
      Function.update (s.held t) k none := by
  funext k'
  simp only [Threads.held, Function.update_apply]
  split
  · exact Owners.mode_release_self
  · rfl

theorem Simulates.unlock (h : Simulates rank prog s a) (hexec : ∀ op, (prog op).eval = exec op) {k : K}
    {rest : Prog K D R} (hs : s.progs t = some (.unlock k rest)) :
    ∃ e, Matches (.move t) e ∧ (Atomic.step exec a e).2 = none ∧
      Simulates rank prog { s with owners := Function.update s.owners k ((s.owners k).release t)
                                   progs := Function.update s.progs t (some rest) } (Atomic.step exec a e).1 := by
  have ht := h.threads t
  rw [hs] at ht
  cases hc : a.calls t with
  | none => rw [hc] at ht; cases ht
  | some c =>
    rw [hc] at ht
    cases c with
    | started op =>
      obtain ⟨hafter, hd, hk⟩ := ht.unlock_started
      rw [hexec] at hafter hd hk
      refine ⟨.takeEffect t, .takeEffect t, by simp [Atomic.step, hc], ?_⟩
      simp only [Atomic.step, hc]
      refine h.of_thread (t := t) (fun t' he => Function.update_of_ne he _ _)
        (fun t' he => Function.update_of_ne he _ _) (fun t' he => held_of_ne (Owners.mode_release_of_ne he))
        (fun _ _ => rfl) hd ?_ fun k' hk' => h.data_release hd hk hk'
      rw [held_release]
      simpa only [Function.update_self] using hafter
    | decided r =>
      obtain ⟨hafter, hk⟩ := ht.unlock_decided
      refine ⟨.idle t, .idle t, rfl, ?_⟩
      refine h.of_thread (t := t) (fun t' he => Function.update_of_ne he _ _) (fun _ _ => rfl)
        (fun t' he => held_of_ne (Owners.mode_release_of_ne he)) (fun _ _ => rfl) (fun _ _ => rfl) ?_
        fun k' hk' => h.data_release (fun _ _ => rfl) hk hk'
      rw [held_release]
      simp only [Function.update_self, Atomic.step, hc]
      exact hafter

theorem Simulates.done (h : Simulates rank prog s a) (hexec : ∀ op, (prog op).eval = exec op) {r : R}
    (hs : s.progs t = some (.done r)) :
    (Atomic.step exec a (.finish t)).2 = some (t, r) ∧
      Simulates rank prog { s with progs := Function.update s.progs t none } (Atomic.step exec a (.finish t)).1 := by
  have ht := h.threads t
  rw [hs] at ht
  cases hc : a.calls t with
  | none => rw [hc] at ht; cases ht
  | some c =>
    rw [hc] at ht
    have hnothing : ∀ k, s.held t k = none := by
      cases ht with
      | started hp => exact hp
      | decided hp => exact hp
    have hafter : Simulates rank prog { s with progs := Function.update s.progs t none }
        { a with calls := Function.update a.calls t none } := by
      refine h.of_thread (t := t) (fun t' he => Function.update_of_ne he _ _)
        (fun t' he => Function.update_of_ne he _ _) (fun _ _ => rfl) (fun _ _ => rfl) (fun _ _ => rfl) ?_ h.data
      simp only [Function.update_self]
      exact .idle hnothing
    cases ht with
    | started hp hsame =>
      rename_i op
      have hwhole : exec op a.data = (r, a.data) := by
        rw [← hexec, hsame a.data fun _ _ => rfl, Prog.eval]
        congr 1
        funext k
        exact view_of_not_exclusive (by simp [hnothing k])
      simp only [Atomic.step, hc, hwhole]
      exact ⟨trivial, hafter⟩
    | decided hp hresult =>
      simp only [Prog.eval] at hresult
      subst hresult
      simp only [Atomic.step, hc]
      exact ⟨trivial, hafter⟩

/-- Every step of the threads is matched. -/
theorem Simulates.step (h : Simulates rank prog s a) (hp : ∀ op, (prog op).Disciplined rank true Held.nothing)
    (hexec : ∀ op, (prog op).eval = exec op) (e : Event Th O) :
    ∃ e', Matches e e' ∧ (Threads.step prog s e).2 = (Atomic.step exec a e').2 ∧
      Simulates rank prog (Threads.step prog s e).1 (Atomic.step exec a e').1 := by
  cases e with
  | start t op =>
    obtain ⟨hsim, hout⟩ := h.start hp t op
    exact ⟨.start t op, .start t op, hout, hsim⟩
  | move t =>
    simp only [Threads.step]
    cases hs : s.progs t with
    | none => exact ⟨.idle t, .idle t, rfl, h⟩
    | some p =>
      cases p with
      | done r =>
        obtain ⟨hout, hsim⟩ := h.done hexec hs
        exact ⟨.finish t, .finish t, hout.symm, hsim⟩
      | lock k m rest =>
        cases ho : (s.owners k).acquire t m with
        | none => simp only [ho]; exact ⟨.idle t, .idle t, rfl, h⟩
        | some o => simp only [ho]; exact ⟨.idle t, .idle t, rfl, h.lock hs ho⟩
      | write k v rest => exact ⟨.idle t, .idle t, rfl, h.write hs⟩
      | unlock k rest =>
        obtain ⟨e, hmatch, hout, hsim⟩ := h.unlock hexec hs
        exact ⟨e, hmatch, hout.symm, hsim⟩

/-- **Each operation takes effect in one step**: what the threads return, and
the data nobody writes, are those of a run of the atomic machine whose calls
start and finish at the same moments. -/
theorem refines_atomic (hp : ∀ op, (prog op).Disciplined rank true Held.nothing)
    (hexec : ∀ op, (prog op).eval = exec op) (d : ∀ k, D k) (es : List (Event Th O)) :
    ∃ as, List.Forall₂ Matches es as ∧
      Runs.outputs (Threads.step prog) (.fresh d) es = Runs.outputs (Atomic.step exec) (.fresh d) as ∧
      Simulates rank prog (Runs.after (Threads.step prog) (.fresh d) es)
        (Runs.after (Atomic.step exec) (.fresh d) as) := by
  generalize hs : (Threads.fresh d : Threads Th K D R) = s
  generalize ha : (Atomic.fresh d : Atomic Th K D O R) = a
  have h : Simulates rank prog s a := hs ▸ ha ▸ Simulates.fresh d
  clear hs ha
  induction es generalizing s a with
  | nil => exact ⟨[], .nil, rfl, h⟩
  | cons e es ih =>
    obtain ⟨e', hmatch, hout, hsim⟩ := h.step hp hexec e
    obtain ⟨as, hmatches, houts, hend⟩ := ih _ _ hsim
    exact ⟨e' :: as, .cons hmatch hmatches, by rw [Runs.outputs_cons, Runs.outputs_cons, hout, houts], hend⟩

/-! ## Nobody is stuck -/

/-- The thread is about to take a lock that is held. -/
def Threads.Waits (s : Threads Th K D R) (t : Th) : Prop :=
  ∃ k m rest, s.progs t = some (.lock k m rest) ∧ ∃ t', s.held t' k ≠ none

/-- A thread that holds a lock is at an operation, and the lock it is about to
take has a higher rank. -/
theorem Simulates.holds (h : Simulates rank prog s a) {k : K} (hk : s.held t k ≠ none) :
    s.progs t ≠ none ∧ ∀ k' m rest, s.progs t = some (.lock k' m rest) → rank k < rank k' := by
  have ht := h.threads t
  refine ⟨fun hs => ?_, fun k' m rest hs => ?_⟩
  · rw [hs] at ht
    cases hc : a.calls t with
    | some c => rw [hc] at ht; cases ht
    | none =>
      rw [hc] at ht
      cases ht with
      | idle hnothing => exact hk (hnothing k)
  · rw [hs] at ht
    cases hc : a.calls t with
    | none => rw [hc] at ht; cases ht
    | some c =>
      rw [hc] at ht
      cases ht with
      | started hp => exact hp.2.1 k hk
      | decided hp => cases hp.1

/-- A thread that waits leads to one that does not: each holds what the one
before it waits for, and the ranks go up. -/
theorem Simulates.not_all_waiting (h : Simulates rank prog s a) {n : ℕ} (hn : ∀ k, rank k < n)
    (ht : s.progs t ≠ none) : ∃ t', s.progs t' ≠ none ∧ ¬ s.Waits t' := by
  have hstep : ∀ j t, s.progs t ≠ none → (∀ k m rest, s.progs t = some (.lock k m rest) → n ≤ rank k + j) →
      ∃ t', s.progs t' ≠ none ∧ ¬ s.Waits t' := by
    intro j
    induction j with
    | zero =>
      intro t ht hlast
      refine ⟨t, ht, fun hw => ?_⟩
      obtain ⟨k, m, rest, hs, -⟩ := hw
      have hk := hn k
      have hk' := hlast k m rest hs
      omega
    | succ j ih =>
      intro t ht hlast
      by_cases hw : s.Waits t
      · obtain ⟨k, m, rest, hs, t', hk⟩ := hw
        obtain ⟨hbusy, hhigher⟩ := h.holds hk
        refine ih t' hbusy fun k' m' rest' hs' => ?_
        have hk' := hhigher k' m' rest' hs'
        have hj := hlast k m rest hs
        omega
      · exact ⟨t, ht, hw⟩
  exact hstep n t ht fun k _ _ _ => Nat.le_add_left n (rank k)

/-- The program ends within `n` actions. -/
def Prog.Within : Prog K D R → ℕ → Prop
  | _, 0 => False
  | .done _, _ + 1 => True
  | .lock _ _ rest, n + 1 => ∀ v, (rest v).Within n
  | .write _ _ rest, n + 1 => rest.Within n
  | .unlock _ rest, n + 1 => rest.Within n

omit [DecidableEq K] [DecidableEq Th] in
theorem Prog.Within.pos {p : Prog K D R} {n : ℕ} (h : p.Within n) : 0 < n := by
  cases n with
  | zero => simp [Within] at h
  | succ n => omega

/-- An action of a thread that does not wait brings its operation nearer to
its end, and leaves the other operations where they are. -/
theorem Threads.move_of_not_waits (prog : O → Prog K D R) {p : Prog K D R} {n : ℕ} (hs : s.progs t = some p)
    (hw : ¬ s.Waits t) (hn : p.Within n) :
    (∀ p', (Threads.step prog s (.move t)).1.progs t = some p' → p'.Within (n - 1)) ∧
      ∀ t' ≠ t, (Threads.step prog s (.move t)).1.progs t' = s.progs t' := by
  obtain ⟨n, rfl⟩ : ∃ m, n = m + 1 := ⟨n - 1, by have := hn.pos; omega⟩
  rw [Nat.add_sub_cancel]
  cases p with
  | done r =>
    simp only [Threads.step, hs, Function.update_self]
    exact ⟨fun p' hp' => absurd hp' (by simp), fun t' he => Function.update_of_ne he _ _⟩
  | lock k m rest =>
    have hunheld : ∀ t', (s.owners k).mode t' = none := by
      intro t'
      by_contra hk
      exact hw ⟨k, m, rest, hs, t', hk⟩
    obtain ⟨o, ho⟩ := Owners.acquire_of_unheld hunheld t m
    simp only [Threads.step, hs, ho, Function.update_self]
    exact ⟨fun p' hp' => by cases hp'; exact hn (s.data k), fun t' he => Function.update_of_ne he _ _⟩
  | write k v rest =>
    simp only [Threads.step, hs, Function.update_self]
    exact ⟨fun p' hp' => by cases hp'; exact hn, fun t' he => Function.update_of_ne he _ _⟩
  | unlock k rest =>
    simp only [Threads.step, hs, Function.update_self]
    exact ⟨fun p' hp' => by cases hp'; exact hn, fun t' he => Function.update_of_ne he _ _⟩

/-- **Whatever is under way can be brought to its end**: from every state that
was reached, with finitely many threads at an operation, actions lead to one
where all have returned. -/
theorem Simulates.all_return (hp : ∀ op, (prog op).Disciplined rank true Held.nothing)
    (hexec : ∀ op, (prog op).eval = exec op) {n : ℕ} (hn : ∀ k, rank k < n) (ts : Finset Th) (left : Th → ℕ)
    (h : Simulates rank prog s a) (hleft : ∀ t p, s.progs t = some p → t ∈ ts ∧ p.Within (left t)) :
    ∃ moves : List Th, ∀ t, (Runs.after (Threads.step prog) s (moves.map .move)).progs t = none := by
  induction hsum : (∑ t ∈ ts, left t) using Nat.strong_induction_on generalizing s a left with
  | _ total ih =>
  by_cases hall : ∀ t, s.progs t = none
  · exact ⟨[], hall⟩
  obtain ⟨t₀, hbusy₀⟩ := not_forall.1 hall
  obtain ⟨t, hbusy, hw⟩ := h.not_all_waiting hn hbusy₀
  obtain ⟨p, hs⟩ := Option.ne_none_iff_exists'.1 hbusy
  obtain ⟨hmem, hwithin⟩ := hleft t p hs
  obtain ⟨hself, hothers⟩ := Threads.move_of_not_waits prog hs hw hwithin
  obtain ⟨e, -, -, hsim⟩ := h.step hp hexec (.move t)
  have hless : ∑ t' ∈ ts, Function.update left t (left t - 1) t' < total := by
    rw [← hsum]
    refine Finset.sum_lt_sum (fun t' _ => ?_) ⟨t, hmem, ?_⟩
    · rw [Function.update_apply]
      split
      · next he => rw [he]; omega
      · exact le_refl _
    · rw [Function.update_self]
      have hpos := hwithin.pos
      omega
  have hnearer : ∀ t' p', (Threads.step prog s (.move t)).1.progs t' = some p' →
      t' ∈ ts ∧ p'.Within (Function.update left t (left t - 1) t') := by
    intro t' p' hs'
    by_cases he : t' = t
    · rw [he, Function.update_self]
      exact ⟨hmem, hself p' (he ▸ hs')⟩
    · rw [hothers t' he] at hs'
      rw [Function.update_of_ne he]
      exact hleft t' p' hs'
  obtain ⟨moves, hend⟩ := ih _ hless _ hsim hnearer rfl
  exact ⟨t :: moves, hend⟩

omit [DecidableEq K] [DecidableEq Th] in
theorem Prog.Within.mono {p : Prog K D R} {n m : ℕ} (h : p.Within n) (hle : n ≤ m) : p.Within m := by
  induction p generalizing n m with
  | done r =>
    have hpos := h.pos
    obtain ⟨m, rfl⟩ : ∃ i, m = i + 1 := ⟨m - 1, by omega⟩
    trivial
  | lock k mode rest ih =>
    have hpos := h.pos
    obtain ⟨n, rfl⟩ : ∃ i, n = i + 1 := ⟨n - 1, by omega⟩
    obtain ⟨m, rfl⟩ : ∃ i, m = i + 1 := ⟨m - 1, by omega⟩
    exact fun v => ih v (h v) (by omega)
  | write k v rest ih =>
    have hpos := h.pos
    obtain ⟨n, rfl⟩ : ∃ i, n = i + 1 := ⟨n - 1, by omega⟩
    obtain ⟨m, rfl⟩ : ∃ i, m = i + 1 := ⟨m - 1, by omega⟩
    exact ih (n := n) h (by omega)
  | unlock k rest ih =>
    have hpos := h.pos
    obtain ⟨n, rfl⟩ : ∃ i, n = i + 1 := ⟨n - 1, by omega⟩
    obtain ⟨m, rfl⟩ : ∃ i, m = i + 1 := ⟨m - 1, by omega⟩
    exact ih (n := n) h (by omega)

/-- The thread an event is about. -/
def Event.thread : Event Th O → Th
  | .start t _ => t
  | .move t => t

/-- Only threads that had a part in the run are at an operation, and it ends
within as many actions as any operation takes. -/
theorem Threads.busy_after {n : ℕ} (hwithin : ∀ op, (prog op).Within n) (d : ∀ k, D k) (es : List (Event Th O)) :
    ∀ t p, (Runs.after (Threads.step prog) (Threads.fresh d : Threads Th K D R) es).progs t = some p →
      t ∈ es.map Event.thread ∧ p.Within n := by
  induction es using List.reverseRecOn with
  | nil => intro t p hs; cases hs
  | append_singleton es e ih =>
    rw [Runs.after_concat, List.map_append]
    generalize Runs.after (Threads.step prog) (Threads.fresh d) es = s at ih ⊢
    -- The thread the event is about, and the others.
    have hother : ∀ t p, s.progs t = some p → t ∈ es.map Event.thread ++ [e].map Event.thread ∧ p.Within n :=
      fun t p hs => ⟨List.mem_append_left _ (ih t p hs).1, (ih t p hs).2⟩
    have hset : ∀ (p₀ : Option (Prog K D R)), (∀ p, p₀ = some p → p.Within n) → ∀ t p,
        Function.update s.progs e.thread p₀ t = some p →
        t ∈ es.map Event.thread ++ [e].map Event.thread ∧ p.Within n := by
      intro p₀ hp₀ t p hs
      by_cases he : t = e.thread
      · rw [he, Function.update_self] at hs
        exact ⟨by simp [he], hp₀ p hs⟩
      · rw [Function.update_of_ne he] at hs
        exact hother t p hs
    have hrest : ∀ (p : Prog K D R), p.Within (n - 1) → ∀ p', some p = some p' → p'.Within n := by
      intro p hp p' he
      cases he
      exact hp.mono (Nat.sub_le n 1)
    cases e with
    | start t op =>
      simp only [Threads.step]
      cases hs : s.progs t with
      | some p => exact hother
      | none => exact hset (some (prog op)) fun p he => by cases he; exact hwithin op
    | move t =>
      simp only [Threads.step]
      cases hs : s.progs t with
      | none => exact hother
      | some p =>
        have hp := (ih t p hs).2
        obtain ⟨n, rfl⟩ : ∃ i, n = i + 1 := ⟨n - 1, by have := hp.pos; omega⟩
        cases p with
        | done r => exact hset none fun p he => by cases he
        | lock k m rest =>
          cases ho : (s.owners k).acquire t m with
          | none => simp only [ho]; exact hother
          | some o => simp only [ho]; exact hset _ (hrest _ (hp (s.data k)))
        | write k v rest => exact hset _ (hrest rest hp)
        | unlock k rest => exact hset _ (hrest rest hp)

/-- **No deadlock**: every run can be continued by actions after which all
operations that were under way have returned. -/
theorem can_return (hp : ∀ op, (prog op).Disciplined rank true Held.nothing)
    (hexec : ∀ op, (prog op).eval = exec op) {n m : ℕ} (hn : ∀ k, rank k < n) (hm : ∀ op, (prog op).Within m)
    (d : ∀ k, D k) (es : List (Event Th O)) :
    ∃ moves : List Th, ∀ t,
      (Runs.after (Threads.step prog) (Threads.fresh d) (es ++ moves.map .move)).progs t = none := by
  obtain ⟨as, -, -, hsim⟩ := refines_atomic hp hexec d es
  have hbusy := Threads.busy_after hm d es
  obtain ⟨moves, hend⟩ := hsim.all_return hp hexec hn (es.map Event.thread).toFinset (fun _ => m) fun t p hs =>
    ⟨List.mem_toFinset.2 (hbusy t p hs).1, (hbusy t p hs).2⟩
  refine ⟨moves, fun t => ?_⟩
  rw [Runs.after_append]
  exact hend t

end Simulation

end Locks
