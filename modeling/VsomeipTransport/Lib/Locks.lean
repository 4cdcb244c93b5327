/-
Threads that work on shared data behind reader/writer locks.

An operation is a program of single actions: it takes a lock and looks at
the data behind it, writes, gives a lock back. The actions of the threads are
interleaved in any order (`Threads.step`); a thread whose lock is taken
waits. `Atomic.step` is the machine where every operation takes effect in one
step, at some moment between its start and its return.

A program is `Disciplined` if it writes only what it holds for writing, takes
its locks in the order of their ranks, and takes no more after it gave one
back. `LocksFacts` has what follows from that.
-/
import Mathlib.Data.Finset.Basic
import Mathlib.Logic.Function.Basic
import VsomeipTransport.Lib.Runs

namespace Locks

inductive Mode
  | shared
  | exclusive
deriving DecidableEq

/-! ## Who holds a lock -/

/-- One writer or any number of readers. -/
structure Owners (Th : Type) where
  writer : Option Th
  readers : Finset Th
  alone : writer = none ∨ readers = ∅

namespace Owners

variable {Th : Type}

def nobody : Owners Th := ⟨none, ∅, .inl rfl⟩

variable [DecidableEq Th]

/-- How `t` holds the lock. -/
def mode (o : Owners Th) (t : Th) : Option Mode :=
  if o.writer = some t then some .exclusive else if t ∈ o.readers then some .shared else none

/-- A lock that is held is not given to a writer, one held by a writer to
nobody. -/
def acquire (o : Owners Th) (t : Th) : Mode → Option (Owners Th)
  | .exclusive => if o.writer = none ∧ o.readers = ∅ then some ⟨some t, ∅, .inr rfl⟩ else none
  | .shared => if o.writer = none then some ⟨none, insert t o.readers, .inl rfl⟩ else none

def release (o : Owners Th) (t : Th) : Owners Th :=
  if o.writer = some t then ⟨none, o.readers, .inl rfl⟩
  else ⟨o.writer, o.readers.erase t, o.alone.imp_right fun h => by rw [h, Finset.erase_empty]⟩

variable {o o' : Owners Th} {t t' : Th} {m : Mode}

@[simp] theorem nobody_mode : (nobody : Owners Th).mode t = none := by simp [nobody, mode]

theorem mode_eq_none : o.mode t = none ↔ o.writer ≠ some t ∧ t ∉ o.readers := by
  unfold mode
  split
  · next h => simp [h]
  · next h => split <;> simp_all

theorem mode_eq_exclusive : o.mode t = some .exclusive ↔ o.writer = some t := by
  unfold mode
  split
  · next h => simp [h]
  · next h => split <;> simp [h]

/-- A writer is alone. -/
theorem mode_of_exclusive (h : o.mode t = some .exclusive) (hne : t' ≠ t) : o.mode t' = none := by
  have hw := mode_eq_exclusive.1 h
  have hr : o.readers = ∅ := o.alone.resolve_left (by simp [hw])
  rw [mode_eq_none, hw, hr]
  exact ⟨fun he => hne (Option.some.inj he).symm, Finset.notMem_empty t'⟩

/-- Nobody writes what a lock was just given for. -/
theorem not_exclusive_of_acquire (h : o.acquire t m = some o') (t' : Th) : o.mode t' ≠ some .exclusive := by
  rw [Ne, mode_eq_exclusive]
  cases m with
  | exclusive =>
    simp only [acquire] at h
    split at h
    · next hn => simp [hn.1]
    · cases h
  | shared =>
    simp only [acquire] at h
    split at h
    · next hn => simp [hn]
    · cases h

theorem mode_acquire_self (h : o.acquire t m = some o') : o'.mode t = some m := by
  cases m with
  | exclusive =>
    simp only [acquire] at h
    split at h
    · cases h; simp [mode]
    · cases h
  | shared =>
    simp only [acquire] at h
    split at h
    · cases h; simp [mode]
    · cases h

theorem mode_acquire_of_ne (h : o.acquire t m = some o') (hne : t' ≠ t) : o'.mode t' = o.mode t' := by
  cases m with
  | exclusive =>
    simp only [acquire] at h
    split at h
    · next hn => cases h; simp [mode, hn.1, hn.2, Ne.symm hne]
    · cases h
  | shared =>
    simp only [acquire] at h
    split at h
    · next hn => cases h; simp [mode, hn, hne]
    · cases h

/-- A lock that nobody holds is given to anyone. -/
theorem acquire_of_unheld (h : ∀ t, o.mode t = none) (t : Th) (m : Mode) : ∃ o', o.acquire t m = some o' := by
  have hw : o.writer = none := by
    rw [Option.eq_none_iff_forall_ne_some]
    exact fun t' => (mode_eq_none.1 (h t')).1
  have hr : o.readers = ∅ := Finset.eq_empty_of_forall_notMem fun t' => (mode_eq_none.1 (h t')).2
  cases m with
  | exclusive => exact ⟨_, if_pos ⟨hw, hr⟩⟩
  | shared => exact ⟨_, if_pos hw⟩

@[simp] theorem mode_release_self : (o.release t).mode t = none := by
  unfold release
  split
  · next hw =>
    have hr : o.readers = ∅ := o.alone.resolve_left (by simp [hw])
    simp [mode_eq_none, hr]
  · next hw => simp [mode_eq_none, hw]

theorem mode_release_of_ne (hne : t' ≠ t) : (o.release t).mode t' = o.mode t' := by
  unfold release
  split
  · next hw => simp [mode, hw, Ne.symm hne]
  · next hw => simp [mode, hne]

end Owners

/-! ## Programs -/

/-- What an operation has still to do with the data `D k` behind the locks
`k`. Taking a lock shows the data behind it. -/
inductive Prog (K : Type) (D : K → Type) (R : Type)
  | done (r : R)
  | lock (k : K) (m : Mode) (rest : D k → Prog K D R)
  | write (k : K) (v : D k) (rest : Prog K D R)
  | unlock (k : K) (rest : Prog K D R)

variable {Th K R O : Type} {D : K → Type}

/-- What a thread holds. -/
abbrev Held (K : Type) := K → Option Mode

def Held.nothing : Held K := fun _ => none

namespace Prog

variable [DecidableEq K]

/-- The program on its own. -/
def eval : Prog K D R → (∀ k, D k) → R × (∀ k, D k)
  | .done r, d => (r, d)
  | .lock k _ rest, d => (rest (d k)).eval d
  | .write k v rest, d => rest.eval (Function.update d k v)
  | .unlock _ rest, d => rest.eval d

/-- Takes locks in the order of their ranks and only while it is `growing`,
writes what it holds for writing, and gives everything back. -/
def Disciplined (rank : K → ℕ) : (growing : Bool) → Held K → Prog K D R → Prop
  | _, held, .done _ => ∀ k, held k = none
  | growing, held, .lock k m rest =>
    growing = true ∧ (∀ k', held k' ≠ none → rank k' < rank k) ∧
      ∀ v, (rest v).Disciplined rank true (Function.update held k (some m))
  | growing, held, .write k _ rest => held k = some .exclusive ∧ rest.Disciplined rank growing held
  | _, held, .unlock k rest => held k ≠ none ∧ rest.Disciplined rank false (Function.update held k none)

variable {rank : K → ℕ} {p : Prog K D R} {held : Held K} {d d' : ∀ k, D k}

/-- A program that takes no more locks writes only what it holds. -/
theorem Disciplined.eval_frame (h : p.Disciplined rank false held) {k : K} (hk : held k ≠ some .exclusive) :
    (p.eval d).2 k = d k := by
  induction p generalizing held d with
  | done r => rfl
  | lock k' m rest ih => cases h.1
  | write k' v rest ih =>
    have hne : k ≠ k' := fun he => hk (he ▸ h.1)
    rw [eval, ih h.2 hk, Function.update_of_ne hne]
  | unlock k' rest ih =>
    refine ih h.2 ?_
    rw [Function.update_apply]
    split
    · simp
    · exact hk

/-- Nor does it look at anything else. -/
theorem Disciplined.eval_congr (h : p.Disciplined rank false held)
    (hd : ∀ k, held k = some .exclusive → d k = d' k) :
    (p.eval d).1 = (p.eval d').1 ∧ ∀ k, held k = some .exclusive → (p.eval d).2 k = (p.eval d').2 k := by
  induction p generalizing held d d' with
  | done r => exact ⟨rfl, hd⟩
  | lock k' m rest ih => cases h.1
  | write k' v rest ih =>
    refine ih h.2 fun k hk => ?_
    by_cases he : k = k'
    · subst he; simp
    · rw [Function.update_of_ne he, Function.update_of_ne he, hd k hk]
  | unlock k' rest ih =>
    have hless : ∀ k, Function.update held k' none k = some .exclusive → held k = some .exclusive := by
      intro k hk
      rw [Function.update_apply] at hk
      split at hk
      · cases hk
      · exact hk
    obtain ⟨hr, hdata⟩ := ih h.2 fun k hk => hd k (hless k hk)
    refine ⟨hr, fun k hk => ?_⟩
    by_cases he : k = k'
    · subst he
      have hframe : Function.update held k none k ≠ some Mode.exclusive := by simp
      rw [eval, eval, h.2.eval_frame hframe, h.2.eval_frame hframe, hd k hk]
    · exact hdata k (by rw [Function.update_of_ne he, hk])

end Prog

/-! ## Threads side by side -/

/-- The data, who holds the locks, and what each thread has still to do of
the operation it is at. -/
structure Threads (Th K : Type) (D : K → Type) (R : Type) where
  data : ∀ k, D k
  owners : K → Owners Th
  progs : Th → Option (Prog K D R)

inductive Event (Th O : Type)
  | start (t : Th) (op : O)
  | move (t : Th)

namespace Threads

def fresh (d : ∀ k, D k) : Threads Th K D R := ⟨d, fun _ => .nobody, fun _ => none⟩

variable [DecidableEq Th]

def held (s : Threads Th K D R) (t : Th) : Held K := fun k => (s.owners k).mode t

variable [DecidableEq K]

/-- A thread that is at no operation starts one, or a thread takes its next
action; if that is to take a lock it cannot have yet, nothing happens. What an
operation returns is the output of its last action. -/
def step (prog : O → Prog K D R) (s : Threads Th K D R) : Event Th O → Threads Th K D R × Option (Th × R)
  | .start t op =>
    match s.progs t with
    | none => ({ s with progs := Function.update s.progs t (some (prog op)) }, none)
    | some _ => (s, none)
  | .move t =>
    match s.progs t with
    | none => (s, none)
    | some (.done r) => ({ s with progs := Function.update s.progs t none }, some (t, r))
    | some (.lock k m rest) =>
      match (s.owners k).acquire t m with
      | none => (s, none)
      | some o =>
        ({ s with owners := Function.update s.owners k o
                  progs := Function.update s.progs t (some (rest (s.data k))) }, none)
    | some (.write k v rest) =>
      ({ s with data := Function.update s.data k v, progs := Function.update s.progs t (some rest) }, none)
    | some (.unlock k rest) =>
      ({ s with owners := Function.update s.owners k ((s.owners k).release t)
                progs := Function.update s.progs t (some rest) }, none)

end Threads

/-! ## One step for each operation -/

/-- A call under way: it took effect already, or not yet. -/
inductive Call (O R : Type)
  | started (op : O)
  | decided (r : R)

/-- The machine where operations take effect one at a time. -/
structure Atomic (Th K : Type) (D : K → Type) (O R : Type) where
  data : ∀ k, D k
  calls : Th → Option (Call O R)

inductive AtomicEvent (Th O : Type)
  | start (t : Th) (op : O)
  | takeEffect (t : Th)
  | finish (t : Th)
  | idle (t : Th)

namespace Atomic

def fresh (d : ∀ k, D k) : Atomic Th K D O R := ⟨d, fun _ => none⟩

variable [DecidableEq Th]

/-- A call that finishes takes effect then, if it did not before. -/
def step (exec : O → (∀ k, D k) → R × (∀ k, D k)) (a : Atomic Th K D O R) :
    AtomicEvent Th O → Atomic Th K D O R × Option (Th × R)
  | .start t op =>
    match a.calls t with
    | none => ({ a with calls := Function.update a.calls t (some (.started op)) }, none)
    | some _ => (a, none)
  | .takeEffect t =>
    match a.calls t with
    | some (.started op) =>
      let (r, d) := exec op a.data
      ({ a with data := d, calls := Function.update a.calls t (some (.decided r)) }, none)
    | some (.decided _) => (a, none)
    | none => (a, none)
  | .finish t =>
    match a.calls t with
    | some (.started op) =>
      let (r, d) := exec op a.data
      ({ a with data := d, calls := Function.update a.calls t none }, some (t, r))
    | some (.decided r) => ({ a with calls := Function.update a.calls t none }, some (t, r))
    | none => (a, none)
  | .idle _ => (a, none)

/-- What every operation keeps holds of the data at all times. -/
theorem data_invariant {exec : O → (∀ k, D k) → R × (∀ k, D k)} (I : (∀ k, D k) → Prop)
    (hexec : ∀ op d, I d → I (exec op d).2) {d : ∀ k, D k} (hd : I d) (es : List (AtomicEvent Th O)) :
    I (Runs.after (step exec) (fresh d) es).data := by
  have hstep : ∀ (a : Atomic Th K D O R) e, I a.data → I (step exec a e).1.data := by
    intro a e ha
    cases e with
    | start t op => simp only [step]; split <;> exact ha
    | takeEffect t =>
      simp only [step]
      split
      · exact hexec _ _ ha
      · exact ha
      · exact ha
    | finish t =>
      simp only [step]
      split
      · exact hexec _ _ ha
      · exact ha
      · exact ha
    | idle t => exact ha
  exact Runs.after_invariant (fun a : Atomic Th K D O R => I a.data) hstep (s := fresh d) hd es

end Atomic

/-- The moment an operation takes effect is one of its actions. -/
inductive Matches : Event Th O → AtomicEvent Th O → Prop
  | start (t : Th) (op : O) : Matches (.start t op) (.start t op)
  | takeEffect (t : Th) : Matches (.move t) (.takeEffect t)
  | finish (t : Th) : Matches (.move t) (.finish t)
  | idle (t : Th) : Matches (.move t) (.idle t)

end Locks
