/-
A pool that lends each holder at most one id, and what becomes of its ids.

A step takes an id out of the pool or gives one back (`Pool.Step`); a loss
ends a lease without giving its id back (`Pool.Loss`). Steps keep every id
in the pool or lent (`Pool.Complete`). An id that is lost stays lost, since
an id is only taken from the pool and only given back by who has it. So a
machine over such a pool has all its ids if and only if none of its steps
was a loss (`complete_iff_guarded`).
-/
import VsomeipTransport.Lib.Leases
import VsomeipTransport.Lib.Runs
import Mathlib.Logic.Function.Basic

namespace Leases

/-- The ids in the pool, and the id each holder has. -/
structure Pool (I A : Type) where
  free : Finset A
  lent : I → Option A

namespace Pool

variable {I A : Type}

def Holds (p : Pool I A) (i : I) (a : A) : Prop := p.lent i = some a

/-- The ids are told apart, and there are no others than `all`. -/
structure Sound (all : Finset A) (p : Pool I A) : Prop where
  exclusive : Exclusive p.free p.Holds
  free_mem : ∀ {a}, a ∈ p.free → a ∈ all
  lent_mem : ∀ {i a}, p.Holds i a → a ∈ all

/-- Every id is in the pool or lent. -/
def Complete (all : Finset A) (p : Pool I A) : Prop := ∀ a ∈ all, a ∈ p.free ∨ ∃ i, p.Holds i a

/-- The id is neither in the pool nor lent. -/
structure Lost (p : Pool I A) (a : A) : Prop where
  unfree : a ∉ p.free
  unlent : ∀ i, ¬ p.Holds i a

theorem Lost.not_complete {all : Finset A} {p : Pool I A} {a : A} (h : p.Lost a) (ha : a ∈ all) :
    ¬ p.Complete all := by
  intro hc
  rcases hc a ha with hfree | ⟨i, hi⟩
  · exact h.unfree hfree
  · exact h.unlent i hi

/-- With nothing lent, a pool is complete when it is full. -/
theorem complete_iff_full {all : Finset A} {p : Pool I A} (hs : p.Sound all) (hnone : ∀ i, p.lent i = none) :
    p.Complete all ↔ p.free = all := by
  constructor
  · intro hc
    ext a
    refine ⟨hs.free_mem, fun ha => ?_⟩
    rcases hc a ha with hfree | ⟨i, hi⟩
    · exact hfree
    · cases (hnone i).symm.trans hi
  · intro hfull a ha
    exact .inl (hfull ▸ ha)

variable [DecidableEq I] [DecidableEq A]

inductive Step (p : Pool I A) : Pool I A → Prop
  | kept : Step p p
  | taken {i : I} {a : A} (hi : p.lent i = none) (ha : a ∈ p.free) :
      Step p ⟨p.free.erase a, Function.update p.lent i (some a)⟩
  | given {i : I} {a : A} (hi : p.Holds i a) : Step p ⟨insert a p.free, Function.update p.lent i none⟩

inductive Loss (p : Pool I A) : Pool I A → Prop
  | lost {i : I} {a : A} (hi : p.Holds i a) : Loss p ⟨p.free, Function.update p.lent i none⟩

variable {all : Finset A} {p p' : Pool I A} {i j : I} {a b : A} {free : Finset A}

omit [DecidableEq A] in
theorem holds_take : (⟨free, Function.update p.lent i (some a)⟩ : Pool I A).Holds j b →
    p.Holds j b ∨ (j = i ∧ b = a) := by
  intro h
  simp only [Holds, Function.update_apply] at h
  split at h
  · next hj => exact .inr ⟨hj, (Option.some.inj h).symm⟩
  · exact .inl h

omit [DecidableEq A] in
theorem holds_end : (⟨free, Function.update p.lent i none⟩ : Pool I A).Holds j b ↔ p.Holds j b ∧ j ≠ i := by
  simp only [Holds, Function.update_apply]
  split
  · next hj => simp [hj]
  · next hj => simp [hj]

/-! ## What steps keep -/

theorem Step.sound (hstep : Step p p') (h : p.Sound all) : p'.Sound all := by
  cases hstep with
  | kept => exact h
  | taken hi ha =>
    refine ⟨h.exclusive.take ha fun _ _ => holds_take, fun hm => h.free_mem (Finset.mem_of_mem_erase hm),
      fun hb => ?_⟩
    rcases holds_take hb with hold | ⟨-, rfl⟩
    · exact h.lent_mem hold
    · exact h.free_mem ha
  | given hi =>
    refine ⟨h.exclusive.give hi (fun _ _ hb => (holds_end.1 hb).1) (fun hb => (holds_end.1 hb).2 rfl), fun hm => ?_,
      fun hb => h.lent_mem (holds_end.1 hb).1⟩
    rcases Finset.mem_insert.1 hm with rfl | hm
    · exact h.lent_mem hi
    · exact h.free_mem hm

omit [DecidableEq A] in
theorem Loss.sound (hloss : Loss p p') (h : p.Sound all) : p'.Sound all := by
  cases hloss with
  | lost hi =>
    exact ⟨h.exclusive.mono (Finset.Subset.refl _) fun _ _ hb => (holds_end.1 hb).1, h.free_mem,
      fun hb => h.lent_mem (holds_end.1 hb).1⟩

/-- A step leaves no id behind. -/
theorem Step.complete (hstep : Step p p') (h : p.Complete all) : p'.Complete all := by
  intro b hb
  cases hstep with
  | kept => exact h b hb
  | @taken i a hi ha =>
    by_cases hba : b = a
    · subst hba
      exact .inr ⟨i, Function.update_self i _ _⟩
    · rcases h b hb with hfree | ⟨j, hj⟩
      · exact .inl (Finset.mem_erase.2 ⟨hba, hfree⟩)
      · have hji : j ≠ i := by
          rintro rfl
          cases hi.symm.trans hj
        exact .inr ⟨j, (Function.update_of_ne hji _ _).trans hj⟩
  | @given i a hi =>
    rcases h b hb with hfree | ⟨j, hj⟩
    · exact .inl (Finset.mem_insert_of_mem hfree)
    · by_cases hji : j = i
      · subst hji
        obtain rfl : b = a := Option.some.inj (hj.symm.trans hi)
        exact .inl (Finset.mem_insert_self b _)
      · exact .inr ⟨j, holds_end.2 ⟨hj, hji⟩⟩

omit [DecidableEq A] in
/-- A loss loses an id. -/
theorem Loss.lost_id (hloss : Loss p p') (h : p.Sound all) : ∃ a ∈ all, p'.Lost a := by
  cases hloss with
  | @lost i a hi =>
    refine ⟨a, h.lent_mem hi, h.exclusive.lent hi, fun j hj => ?_⟩
    obtain ⟨hold, hne⟩ := holds_end.1 hj
    exact hne (h.exclusive.once hold hi)

/-- Nobody takes or gives back an id that is lost. -/
theorem Lost.step (hlost : p.Lost b) (hstep : Step p p') : p'.Lost b := by
  cases hstep with
  | kept => exact hlost
  | taken hi ha =>
    refine ⟨fun hm => hlost.unfree (Finset.mem_of_mem_erase hm), fun j hj => ?_⟩
    rcases holds_take hj with hold | ⟨-, rfl⟩
    · exact hlost.unlent j hold
    · exact hlost.unfree ha
  | given hi =>
    refine ⟨fun hm => ?_, fun j hj => hlost.unlent j (holds_end.1 hj).1⟩
    rcases Finset.mem_insert.1 hm with rfl | hm
    · exact hlost.unlent _ hi
    · exact hlost.unfree hm

omit [DecidableEq A] in
theorem Lost.loss (hlost : p.Lost b) (hloss : Loss p p') : p'.Lost b := by
  cases hloss with
  | lost hi => exact ⟨hlost.unfree, fun j hj => hlost.unlent j (holds_end.1 hj).1⟩

/-! ## Machines over a pool -/

section Machine

variable {σ ε ο : Type} {step : σ → ε → σ × ο} {P : σ → ε → Prop} {pool : σ → Pool I A}

/-- Steps and losses leave the ids apart. -/
theorem sound_after
    (hstep : ∀ s e, (pool s).Sound all →
      (P s e ∧ Step (pool s) (pool (step s e).1)) ∨ (¬ P s e ∧ Loss (pool s) (pool (step s e).1)))
    {s : σ} (hs : (pool s).Sound all) (es : List ε) : (pool (Runs.after step s es)).Sound all := by
  refine Runs.after_invariant (fun s => (pool s).Sound all) (fun s e hs => ?_) hs es
  rcases hstep s e hs with ⟨-, h⟩ | ⟨-, h⟩
  · exact h.sound hs
  · exact h.sound hs

/-- **A machine whose steps are pool steps where `P` holds and losses where it
does not has all its ids if and only if `P` held all along.** -/
theorem complete_iff_guarded
    (hstep : ∀ s e, (pool s).Sound all →
      (P s e ∧ Step (pool s) (pool (step s e).1)) ∨ (¬ P s e ∧ Loss (pool s) (pool (step s e).1)))
    {s : σ} (hs : (pool s).Sound all) (hc : (pool s).Complete all) (es : List ε) :
    (pool (Runs.after step s es)).Complete all ↔ Runs.Guarded step P s es := by
  have hsound : ∀ s e, (pool s).Sound all → (pool (step s e).1).Sound all := fun _ e hs => sound_after hstep hs [e]
  induction es generalizing s with
  | nil => exact ⟨fun _ => trivial, fun _ => hc⟩
  | cons e es ih =>
    rcases hstep s e hs with ⟨hP, hpool⟩ | ⟨hP, hpool⟩
    · have hrest := ih (hsound s e hs) (hpool.complete hc)
      exact ⟨fun h => ⟨hP, hrest.1 h⟩, fun h => hrest.2 h.2⟩
    · obtain ⟨a, ha, hlost⟩ := hpool.lost_id hs
      have hstays : (pool (Runs.after step (step s e).1 es)).Sound all ∧
          (pool (Runs.after step (step s e).1 es)).Lost a := by
        refine Runs.after_invariant (fun s => (pool s).Sound all ∧ (pool s).Lost a) (fun s e h => ?_)
          ⟨hsound s e hs, hlost⟩ es
        refine ⟨hsound s e h.1, ?_⟩
        rcases hstep s e h.1 with ⟨-, hnext⟩ | ⟨-, hnext⟩
        · exact h.2.step hnext
        · exact h.2.loss hnext
      exact ⟨fun h => absurd h (hstays.2.not_complete ha), fun h => absurd h.1 hP⟩

end Machine

end Pool

end Leases
