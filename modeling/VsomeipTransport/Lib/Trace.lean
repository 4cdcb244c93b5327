/-
Traces, oldest entry first, that account for what was done before.

* `Justified`: each entry is justified by the ones before it
  (`Justified.before` reads it off anywhere in the trace).
* `eq_of_key`: a key that no two entries have tells which one it was.
* `Tally`: the keys a trace mentions, each once, are the elements of a set
  that is kept beside it.
* `Followed`: what comes after each occurrence of an entry; `followed_concat`
  says what one more entry does to it.
-/
import Mathlib.Data.Finset.Insert
import Mathlib.Data.List.Nodup

namespace Trace

variable {α κ : Type}

/-- Each entry of the second list is justified by those before it, the first
list included. -/
def JustifiedFrom (J : List α → α → Prop) : List α → List α → Prop
  | _, [] => True
  | base, a :: as => J base a ∧ JustifiedFrom J (base ++ [a]) as

/-- Each entry is justified by those before it. -/
def Justified (J : List α → α → Prop) (trace : List α) : Prop := JustifiedFrom J [] trace

variable {J : List α → α → Prop}

theorem justifiedFrom_append {base as bs : List α} :
    JustifiedFrom J base (as ++ bs) ↔ JustifiedFrom J base as ∧ JustifiedFrom J (base ++ as) bs := by
  induction as generalizing base with
  | nil => simp [JustifiedFrom]
  | cons a as ih => simp [JustifiedFrom, ih, and_assoc]

theorem justified_append {as bs : List α} : Justified J (as ++ bs) ↔ Justified J as ∧ JustifiedFrom J as bs :=
  justifiedFrom_append

theorem Justified.before {pre post : List α} {a : α} (h : Justified J (pre ++ a :: post)) : J pre a :=
  (justified_append.1 h).2.1

theorem justified_concat {as : List α} {a : α} : Justified J (as ++ [a]) ↔ Justified J as ∧ J as a := by
  simp [justified_append, JustifiedFrom]

/-- What is justified stays so, if more entries do no harm. -/
theorem Justified.mem (hmono : ∀ (as bs : List α) (a : α), as ⊆ bs → J as a → J bs a) {as : List α}
    (h : Justified J as) {a : α} (ha : a ∈ as) : J as a := by
  obtain ⟨pre, post, rfl⟩ := List.append_of_mem ha
  exact hmono pre _ a (List.subset_append_left pre _) h.before

/-- `Q` holds of what comes after each `a`. -/
def Followed (Q : List α → Prop) (a : α) (trace : List α) : Prop := ∀ pre post, trace = pre ++ a :: post → Q post

theorem followed_nil {Q : List α → Prop} {a : α} : Followed Q a [] := fun pre post h => by simp at h

theorem followed_concat {Q : List α → Prop} {a b : α} {as : List α} :
    Followed Q a (as ++ [b]) ↔ Followed (fun post => Q (post ++ [b])) a as ∧ (b = a → Q []) := by
  constructor
  · intro h
    refine ⟨fun pre post he => h pre (post ++ [b]) (by simp [he]), ?_⟩
    rintro rfl
    exact h as [] rfl
  · rintro ⟨h, hlast⟩ pre post he
    rcases List.eq_nil_or_concat post with rfl | ⟨post, c, rfl⟩
    · obtain ⟨-, hb⟩ := List.append_inj' he rfl
      exact hlast (List.singleton_inj.1 hb)
    · have hsplit : as ++ [b] = (pre ++ a :: post) ++ [c] := by simpa using he
      obtain ⟨has, hb⟩ := List.append_inj' hsplit rfl
      obtain rfl := List.singleton_inj.1 hb
      rw [List.concat_eq_append]
      exact h pre post has

theorem Followed.mono {Q Q' : List α → Prop} {a : α} {as : List α} (h : Followed Q a as)
    (hQ : ∀ post, Q post → Q' post) : Followed Q' a as := fun pre post he => hQ post (h pre post he)

/-- An entry is known by its key, if no key occurs twice. -/
theorem eq_of_key {key : α → Option κ} {as : List α} (h : (as.filterMap key).Nodup) {a b : α} {k : κ} (ha : a ∈ as)
    (hb : b ∈ as) (hka : key a = some k) (hkb : key b = some k) : a = b := by
  induction as with
  | nil => cases ha
  | cons x as ih =>
    cases hx : key x with
    | none =>
      rw [List.filterMap_cons_none hx] at h
      have hne : ∀ {y}, key y = some k → y ≠ x := by
        intro y hy hyx
        rw [hyx, hx] at hy
        cases hy
      exact ih h (List.mem_of_ne_of_mem (hne hka) ha) (List.mem_of_ne_of_mem (hne hkb) hb)
    | some kx =>
      rw [List.filterMap_cons_some hx, List.nodup_cons] at h
      have hfirst : ∀ {y}, y ∈ as → key y ≠ some kx := fun hy hk => h.1 (List.mem_filterMap.2 ⟨_, hy, hk⟩)
      rcases List.mem_cons.1 ha with rfl | hta
      · rcases List.mem_cons.1 hb with rfl | htb
        · rfl
        · exact absurd (hkb.trans (hka.symm.trans hx)) (hfirst htb)
      · rcases List.mem_cons.1 hb with rfl | htb
        · exact absurd (hka.trans (hkb.symm.trans hx)) (hfirst hta)
        · exact ih h.2 hta htb

variable [DecidableEq κ]

/-- The keys, each of which occurs once, are the elements of the set. -/
structure Tally (keys : List κ) (set : Finset κ) : Prop where
  nodup : keys.Nodup
  mem_iff : ∀ k, k ∈ set ↔ k ∈ keys

omit [DecidableEq κ] in
theorem Tally.empty : Tally ([] : List κ) ∅ := ⟨List.nodup_nil, fun _ => by simp⟩

theorem Tally.add {keys : List κ} {set : Finset κ} {k : κ} (h : Tally keys set) (hk : k ∉ set) :
    Tally (keys ++ [k]) (insert k set) where
  nodup := by
    have hnot : k ∉ keys := fun hm => hk ((h.mem_iff k).2 hm)
    exact h.nodup.append (List.nodup_singleton k) (List.disjoint_singleton.2 hnot)
  mem_iff k' := by
    rw [Finset.mem_insert, List.mem_append, List.mem_singleton, h.mem_iff, or_comm]

theorem Tally.toFinset_eq {keys : List κ} {set : Finset κ} (h : Tally keys set) : keys.toFinset = set := by
  ext k
  rw [List.mem_toFinset, h.mem_iff]

end Trace
