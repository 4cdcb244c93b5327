/-
The pieces of Rust's standard library a sequential model needs and Lean
lacks: calls that may panic, locks that remember a panic, and the order in
which a hash set hands out its elements.
-/
import Mathlib.Data.Finset.Max

/-- What a call does: it returns, or the thread panics. -/
inductive Outcome (α : Type)
  | returned (a : α)
  | panicked (msg : String)
deriving DecidableEq, Repr

namespace Outcome

variable {α : Type}

def isPanic : Outcome α → Bool
  | .returned _ => false
  | .panicked _ => true

end Outcome

/-- `std::sync::RwLock`: a panic of a thread that holds it for writing
poisons it, and `.write().unwrap()` panics on a poisoned lock. -/
structure RwLock (α : Type) where
  data : α
  poisoned : Bool := false

/-- How the elements of a hash set come out: which one `iter().next()`
yields. The order is unspecified and may change from call to call. -/
structure IterOrder (α : Type) where
  next : Finset α → Option α
  next_mem : ∀ {s a}, next s = some a → a ∈ s
  next_none : ∀ {s}, next s = none → s = ∅

namespace IterOrder

variable {α : Type}

/-- The smallest element first. -/
def least : IterOrder ℕ where
  next s := if h : s.Nonempty then some (s.min' h) else none
  next_mem {s a} h := by
    split at h
    · next hs => cases h; exact s.min'_mem hs
    · cases h
  next_none {s} h := by
    split at h
    · cases h
    · next hs => exact Finset.not_nonempty_iff_eq_empty.1 hs

variable [DecidableEq α]

/-- The elements one after the other, `n` at most. -/
def take (order : IterOrder α) : ℕ → Finset α → List α
  | 0, _ => []
  | n + 1, s =>
    match order.next s with
    | none => []
    | some a => a :: order.take n (s.erase a)

/-- All of them, as an iteration yields them. -/
def toList (order : IterOrder α) (s : Finset α) : List α := order.take s.card s

theorem mem_take {order : IterOrder α} {n : ℕ} {s : Finset α} (hn : s.card ≤ n) (a : α) :
    a ∈ order.take n s ↔ a ∈ s := by
  induction n generalizing s with
  | zero =>
    have hs : s = ∅ := Finset.card_eq_zero.1 (Nat.le_zero.1 hn)
    simp [take, hs]
  | succ n ih =>
    cases hb : order.next s with
    | none =>
      simp only [take, hb, List.not_mem_nil, false_iff]
      rw [order.next_none hb]
      exact Finset.notMem_empty a
    | some b =>
      have hmem := order.next_mem hb
      have hcard : (s.erase b).card ≤ n := by rw [Finset.card_erase_of_mem hmem]; omega
      simp only [take, hb, List.mem_cons, ih hcard, Finset.mem_erase]
      constructor
      · intro h
        rcases h with rfl | h
        · exact hmem
        · exact h.2
      · intro h
        by_cases hab : a = b
        · exact .inl hab
        · exact .inr ⟨hab, h⟩

/-- An iteration yields every element. -/
@[simp] theorem mem_toList {order : IterOrder α} {s : Finset α} (a : α) : a ∈ order.toList s ↔ a ∈ s :=
  mem_take le_rfl a

theorem least_next {s : Finset ℕ} {a : ℕ} (ha : a ∈ s) (hmin : ∀ b ∈ s, a ≤ b) : least.next s = some a := by
  have hs : s.Nonempty := ⟨a, ha⟩
  have he : s.min' hs = a := le_antisymm (s.min'_le a ha) (hmin _ (s.min'_mem hs))
  simp [least, hs, he]

end IterOrder
