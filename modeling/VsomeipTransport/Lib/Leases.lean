/-
Ids that are lent from a pool: a lent id is not in the pool, and it is lent
to one holder only (`Exclusive`).

A holder may take an id that is in the pool (`Exclusive.take`) and give one
back that it does not use any more (`Exclusive.give`); an id may also get
lost, which hurts nobody (`Exclusive.mono`).
-/
import Mathlib.Data.Finset.Basic

namespace Leases

variable {I A : Type}

/-- No id is both in the pool and lent, or lent twice. -/
structure Exclusive (free : Finset A) (Holds : I → A → Prop) : Prop where
  lent : ∀ {i a}, Holds i a → a ∉ free
  once : ∀ {i j a}, Holds i a → Holds j a → i = j

variable {free free' : Finset A} {Holds Holds' : I → A → Prop}

theorem Exclusive.mono (h : Exclusive free Holds) (hfree : free' ⊆ free) (hholds : ∀ i a, Holds' i a → Holds i a) :
    Exclusive free' Holds' where
  lent hi hm := h.lent (hholds _ _ hi) (hfree hm)
  once hi hj := h.once (hholds _ _ hi) (hholds _ _ hj)

variable [DecidableEq A] {i : I} {a : A}

theorem Exclusive.take (h : Exclusive free Holds) (ha : a ∈ free)
    (hholds : ∀ j b, Holds' j b → Holds j b ∨ (j = i ∧ b = a)) : Exclusive (free.erase a) Holds' where
  lent {j b} hj := by
    rcases hholds j b hj with hold | ⟨-, rfl⟩
    · exact fun hm => h.lent hold (Finset.mem_of_mem_erase hm)
    · exact Finset.notMem_erase b free
  once {j k b} hj hk := by
    rcases hholds j b hj with hold | ⟨rfl, rfl⟩
    · rcases hholds k b hk with hold' | ⟨-, rfl⟩
      · exact h.once hold hold'
      · exact absurd ha (h.lent hold)
    · rcases hholds k b hk with hold' | ⟨rfl, -⟩
      · exact absurd ha (h.lent hold')
      · rfl

theorem Exclusive.give (h : Exclusive free Holds) (hi : Holds i a) (hholds : ∀ j b, Holds' j b → Holds j b)
    (hgone : ¬ Holds' i a) : Exclusive (insert a free) Holds' where
  lent {j b} hj := by
    rw [Finset.mem_insert, not_or]
    refine ⟨fun he => ?_, h.lent (hholds j b hj)⟩
    subst he
    obtain rfl := h.once (hholds j b hj) hi
    exact hgone hj
  once hj hk := h.once (hholds _ _ hj) (hholds _ _ hk)

end Leases
