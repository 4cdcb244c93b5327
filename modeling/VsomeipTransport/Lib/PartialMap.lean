/-
Keyed collections as the proofs use them: a map is the partial function it
computes, a bidirectional map is a pair of them that agree, with the finite
set of its left keys.

Nothing here names a program. Two maps with the same lookups are equal, so
"left exactly as it was" is an equation.
-/
import Mathlib.Data.Finset.Basic
import Mathlib.Logic.Function.Basic

/-- A map from `K` to `V`, by its lookups. -/
abbrev PartialMap (K V : Type) := K → Option V

namespace PartialMap

variable {K V : Type} [DecidableEq K]

def empty : PartialMap K V := fun _ => none

def insert (m : PartialMap K V) (k : K) (v : V) : PartialMap K V := Function.update m k (some v)

def remove (m : PartialMap K V) (k : K) : PartialMap K V := Function.update m k none

omit [DecidableEq K] in
@[simp] theorem empty_apply (k : K) : (empty : PartialMap K V) k = none := rfl

@[simp] theorem insert_self (m : PartialMap K V) (k : K) (v : V) : m.insert k v k = some v := by
  simp [insert]

@[simp] theorem remove_self (m : PartialMap K V) (k : K) : m.remove k k = none := by
  simp [remove]

theorem insert_of_ne {m : PartialMap K V} {k k' : K} {v : V} (h : k' ≠ k) : m.insert k v k' = m k' := by
  simp [insert, h]

theorem remove_of_ne {m : PartialMap K V} {k k' : K} (h : k' ≠ k) : m.remove k k' = m k' := by
  simp [remove, h]

theorem insert_apply (m : PartialMap K V) (k k' : K) (v : V) :
    m.insert k v k' = if k' = k then some v else m k' := by
  simp [insert, Function.update_apply]

theorem remove_apply (m : PartialMap K V) (k k' : K) :
    m.remove k k' = if k' = k then none else m k' := by
  simp [remove, Function.update_apply]

theorem remove_eq_some {m : PartialMap K V} {k k' : K} {v : V} :
    m.remove k k' = some v ↔ k' ≠ k ∧ m k' = some v := by
  rw [remove_apply]
  split
  · next hk => simp [hk]
  · next hk => simp [hk]

theorem remove_eq_none {m : PartialMap K V} {k k' : K} (h : m k' = none) : m.remove k k' = none := by
  rw [remove_apply, h, ite_self]

/-- Taking back a fresh insertion restores the map. -/
theorem remove_insert {m : PartialMap K V} {k : K} {v : V} (h : m k = none) :
    (m.insert k v).remove k = m := by
  funext k'
  by_cases hk : k' = k
  · subst hk; simp [h]
  · rw [remove_of_ne hk, insert_of_ne hk]

/-- Inserting into one map of a family leaves what the others hold. -/
theorem update_insert_eq_some {N : Type} [DecidableEq N] {f : N → PartialMap K V} {n n' : N} {k k' : K} {v v' : V} :
    Function.update f n ((f n).insert k v) n' k' = some v' →
      (n' = n ∧ k' = k ∧ v' = v) ∨ f n' k' = some v' := by
  intro h
  by_cases hn : n' = n
  · subst hn
    rw [Function.update_self, insert_apply] at h
    split at h
    · next hk => exact .inl ⟨rfl, hk, (Option.some.inj h).symm⟩
    · exact .inr h
  · rw [Function.update_of_ne hn] at h
    exact .inr h

/-- Removing from one map of a family takes nothing else away. -/
theorem update_remove_eq_some {N : Type} [DecidableEq N] {f : N → PartialMap K V} {n n' : N} {k k' : K} {v : V} :
    Function.update f n ((f n).remove k) n' k' = some v ↔ f n' k' = some v ∧ ¬ (n' = n ∧ k' = k) := by
  by_cases hn : n' = n
  · subst hn
    rw [Function.update_self, remove_eq_some]
    simp [and_comm]
  · simp [hn]

theorem remove_absent {m : PartialMap K V} {k : K} (h : m k = none) : m.remove k = m := by
  funext k'
  by_cases hk : k' = k
  · subst hk; simp [h]
  · exact remove_of_ne hk

end PartialMap

/-- A finite one-to-one map between `L` and `R`: the lookups from the two
sides agree, so neither a left nor a right value is bound twice. -/
structure BiMap (L R : Type) where
  getByLeft : PartialMap L R
  getByRight : PartialMap R L
  leftValues : Finset L
  inv : ∀ l r, getByLeft l = some r ↔ getByRight r = some l
  mem_leftValues : ∀ l, l ∈ leftValues ↔ (getByLeft l).isSome

namespace BiMap

variable {L R : Type}

/-- The left lookups determine the map. -/
@[ext] theorem ext {m m' : BiMap L R} (h : ∀ l, m.getByLeft l = m'.getByLeft l) : m = m' := by
  obtain ⟨f, g, s, hi, hs⟩ := m
  obtain ⟨f', g', s', hi', hs'⟩ := m'
  obtain rfl : f = f' := funext h
  obtain rfl : g = g' := by
    funext r
    refine Option.ext fun l => ?_
    rw [← hi, ← hi']
  obtain rfl : s = s' := by
    ext l
    rw [hs, hs']
  rfl

def empty : BiMap L R where
  getByLeft := fun _ => none
  getByRight := fun _ => none
  leftValues := ∅
  inv := by simp
  mem_leftValues := by simp

@[simp] theorem empty_getByLeft (l : L) : (empty : BiMap L R).getByLeft l = none := rfl
@[simp] theorem empty_getByRight (r : R) : (empty : BiMap L R).getByRight r = none := rfl

def containsLeft (m : BiMap L R) (l : L) : Bool := (m.getByLeft l).isSome
def containsRight (m : BiMap L R) (r : R) : Bool := (m.getByRight r).isSome

theorem containsLeft_iff {m : BiMap L R} {l : L} :
    m.containsLeft l = true ↔ ∃ r, m.getByLeft l = some r := by
  simp [containsLeft, Option.isSome_iff_exists]

theorem containsRight_iff {m : BiMap L R} {r : R} :
    m.containsRight r = true ↔ ∃ l, m.getByRight r = some l := by
  simp [containsRight, Option.isSome_iff_exists]

/-- No right value is bound to two left values. -/
theorem left_unique {m : BiMap L R} {l l' : L} {r : R} (h : m.getByLeft l = some r)
    (h' : m.getByLeft l' = some r) : l = l' := by
  have hl := (m.inv l r).1 h
  have hl' := (m.inv l' r).1 h'
  rw [hl] at hl'
  exact Option.some.inj hl'

variable [DecidableEq L]

/-- `remove_by_left`: unbinds `l` and what it is bound to. -/
def removeByLeft (m : BiMap L R) (l : L) : BiMap L R where
  getByLeft := m.getByLeft.remove l
  getByRight := fun r => if m.getByRight r = some l then none else m.getByRight r
  leftValues := m.leftValues.erase l
  inv l' r' := by
    rw [PartialMap.remove_apply]
    have h := m.inv l' r'
    by_cases hl : l' = l
    · subst hl
      simp only [if_true]
      split <;> simp_all
    · simp only [hl, if_false, h]
      split
      · next hb => simp [hb, Ne.symm hl]
      · rfl
  mem_leftValues l' := by
    rw [Finset.mem_erase, m.mem_leftValues, PartialMap.remove_apply]
    split <;> simp_all

@[simp] theorem removeByLeft_getByLeft (m : BiMap L R) (l : L) :
    (m.removeByLeft l).getByLeft = m.getByLeft.remove l := rfl

variable [DecidableEq R]

/-- Binds two values neither of which is bound. -/
def insertNew (m : BiMap L R) (l : L) (r : R) (hl : m.getByLeft l = none)
    (hr : m.getByRight r = none) : BiMap L R where
  getByLeft := m.getByLeft.insert l r
  getByRight := m.getByRight.insert r l
  leftValues := insert l m.leftValues
  inv l' r' := by
    by_cases hl' : l' = l <;> by_cases hr' : r' = r
    · subst hl' hr'; simp
    · subst hl'
      rw [PartialMap.insert_self, PartialMap.insert_of_ne hr', ← m.inv, hl]
      simp [Ne.symm hr']
    · subst hr'
      rw [PartialMap.insert_self, PartialMap.insert_of_ne hl', m.inv, hr]
      simp [Ne.symm hl']
    · rw [PartialMap.insert_of_ne hl', PartialMap.insert_of_ne hr', m.inv]
  mem_leftValues l' := by
    rw [Finset.mem_insert, m.mem_leftValues, PartialMap.insert_apply]
    split <;> simp_all

/-- `insert_no_overwrite`: binds the pair when both values are unbound, hands
it back otherwise. -/
def insertNoOverwrite (m : BiMap L R) (l : L) (r : R) : Except (L × R) (BiMap L R) :=
  if h : m.getByLeft l = none ∧ m.getByRight r = none then .ok (m.insertNew l r h.1 h.2)
  else .error (l, r)

/-- Exactly when an insertion succeeds, and what it leaves. -/
theorem insertNoOverwrite_ok {m m' : BiMap L R} {l : L} {r : R} (h : m.insertNoOverwrite l r = .ok m') :
    m.getByLeft l = none ∧ m.getByRight r = none ∧ m'.getByLeft = m.getByLeft.insert l r := by
  unfold insertNoOverwrite at h
  split at h
  · next hn => cases h; exact ⟨hn.1, hn.2, rfl⟩
  · cases h

/-- The right lookups follow the left ones into a fresh pair. -/
theorem getByRight_insert {m m' : BiMap L R} {l : L} {r : R} (hl : m.getByLeft l = none)
    (hr : m.getByRight r = none) (h : m'.getByLeft = m.getByLeft.insert l r) :
    m'.getByRight = m.getByRight.insert r l := by
  have he : m' = m.insertNew l r hl hr := by
    ext l'
    rw [h]
    rfl
  rw [he]
  rfl

theorem insertNoOverwrite_error {m : BiMap L R} {l : L} {r : R} {e : L × R}
    (h : m.insertNoOverwrite l r = .error e) : m.containsLeft l = true ∨ m.containsRight r = true := by
  unfold insertNoOverwrite at h
  split at h
  · cases h
  · next hn =>
    simp only [containsLeft, containsRight, Option.isSome_iff_ne_none]
    by_contra hc
    simp only [not_or, not_not] at hc
    exact hn hc

end BiMap
