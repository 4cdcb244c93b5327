/-
A table of outstanding tickets: issuing a ticket under a key that already
has one is refused, redeeming a key hands its ticket over and removes it.

Over any run from the empty table, however keys are reused:

* `held_iff_open`: the table holds exactly the tickets issued and not
  redeemed since;
* `redeemed_open`: a redemption hands over the ticket issued last under its
  key, which no redemption took before;
* `redeemed_once`: so redemptions are matched one-to-one with the earlier
  issues they hand over.
-/
import VsomeipTransport.Lib.PartialMap
import VsomeipTransport.Lib.Runs

namespace Tickets

variable {K V : Type} [DecidableEq K]

inductive Op (K V : Type)
  | issue (k : K) (v : V)
  | redeem (k : K)
  | idle

inductive Out (K V : Type)
  | issued (k : K) (v : V)
  | redeemed (k : K) (v : V)
  | refused

def step (m : PartialMap K V) : Op K V → PartialMap K V × Out K V
  | .issue k v =>
    match m k with
    | some _ => (m, .refused)
    | none => (m.insert k v, .issued k v)
  | .redeem k =>
    match m k with
    | some v => (m.remove k, .redeemed k v)
    | none => (m, .refused)
  | .idle => (m, .refused)

/-- `v` was issued under `k` and not redeemed since. -/
def Open (outs : List (Out K V)) (k : K) (v : V) : Prop :=
  ∃ pre post, outs = pre ++ .issued k v :: post ∧ ∀ v', Out.redeemed k v' ∉ post

omit [DecidableEq K] in
theorem open_concat {outs : List (Out K V)} {o : Out K V} {k : K} {v : V} :
    Open (outs ++ [o]) k v ↔ o = .issued k v ∨ (Open outs k v ∧ ∀ v', o ≠ .redeemed k v') := by
  constructor
  · intro hgiven
    obtain ⟨pre, post, h, hr⟩ := hgiven
    rcases List.eq_nil_or_concat post with rfl | ⟨post, o', rfl⟩
    · exact .inl (List.append_inj_right' h rfl |> List.head_eq_of_cons_eq)
    · have h' : outs ++ [o] = (pre ++ .issued k v :: post) ++ [o'] := by simpa using h
      obtain ⟨rfl, ho⟩ := List.append_inj' h' rfl
      obtain rfl := List.head_eq_of_cons_eq ho
      refine .inr ⟨⟨pre, post, rfl, fun v' hm => hr v' (by simp [hm])⟩, fun v' ho => ?_⟩
      exact hr v' (by simp [ho])
  · intro hgiven
    rcases hgiven with rfl | ⟨⟨pre, post, rfl, hr⟩, ho⟩
    · exact ⟨outs, [], rfl, by simp⟩
    · refine ⟨pre, post ++ [o], by simp, fun v' hm => ?_⟩
      simp only [List.mem_append, List.mem_singleton] at hm
      rcases hm with hm | hm
      · exact hr v' hm
      · exact ho v' hm.symm

omit [DecidableEq K] in
/-- The same by position. -/
theorem open_iff_getElem? {outs : List (Out K V)} {k : K} {v : V} :
    Open outs k v ↔ ∃ i : ℕ, outs[i]? = some (.issued k v) ∧ ∀ j v', i < j → outs[j]? ≠ some (.redeemed k v') := by
  constructor
  · intro hgiven
    obtain ⟨pre, post, rfl, hr⟩ := hgiven
    refine ⟨pre.length, by simp, fun j v' hj hm => hr v' ?_⟩
    obtain ⟨d, rfl⟩ : ∃ d, j = pre.length + (d + 1) := ⟨j - pre.length - 1, by omega⟩
    rw [List.getElem?_append_right (by omega), Nat.add_sub_cancel_left, List.getElem?_cons_succ] at hm
    exact List.mem_of_getElem? hm
  · intro hgiven
    obtain ⟨i, hi, hr⟩ := hgiven
    obtain ⟨hlt, he⟩ := List.getElem?_eq_some_iff.1 hi
    refine ⟨outs.take i, outs.drop (i + 1), ?_, fun v' hm => ?_⟩
    · rw [← he, ← List.drop_eq_getElem_cons hlt, List.take_append_drop]
    · obtain ⟨d, hd⟩ := List.mem_iff_getElem?.1 hm
      rw [List.getElem?_drop] at hd
      exact hr _ v' (by omega) hd

/-- What one step does to the table, told by its output alone. -/
theorem step_held (m : PartialMap K V) (op : Op K V) (k : K) (v : V) :
    (step m op).1 k = some v ↔
      (step m op).2 = .issued k v ∨ (m k = some v ∧ ∀ v', (step m op).2 ≠ .redeemed k v') := by
  cases op with
  | issue k' v' =>
    simp only [step]
    cases hk : m k' with
    | some w => simp
    | none =>
      by_cases he : k = k'
      · subst he; simp [hk, eq_comm]
      · simp [PartialMap.insert_of_ne he, Ne.symm he]
  | redeem k' =>
    simp only [step]
    cases hk : m k' with
    | none => simp
    | some w =>
      by_cases he : k = k'
      · subst he; simp
      · simp [PartialMap.remove_of_ne he, Ne.symm he]
  | idle => simp [step]

/-- The table is what the outputs so far leave open. -/
def Held (outs : List (Out K V)) (m : PartialMap K V) : Prop := ∀ k v, m k = some v ↔ Open outs k v

theorem Held.step {outs : List (Out K V)} {m : PartialMap K V} (h : Held outs m) (op : Op K V) :
    Held (outs ++ [(Tickets.step m op).2]) (Tickets.step m op).1 := by
  intro k v
  rw [step_held, open_concat, h k v]

theorem Held.run {outs : List (Out K V)} {m : PartialMap K V} (h : Held outs m) (ops : List (Op K V)) :
    Held (outs ++ Runs.outputs Tickets.step m ops) (Runs.after Tickets.step m ops) := by
  induction ops generalizing outs m with
  | nil => simpa using h
  | cons op ops ih => simpa using ih (h.step op)

omit [DecidableEq K] in
theorem held_empty : Held [] (PartialMap.empty : PartialMap K V) := by
  intro k v
  simp [Open]

/-- **The table holds the open tickets.** -/
theorem held_iff_open (ops : List (Op K V)) :
    Held (Runs.outputs step PartialMap.empty ops) (Runs.after step (PartialMap.empty : PartialMap K V) ops) := by
  simpa using (held_empty (K := K) (V := V)).run ops

/-- **A redemption hands over an open ticket**: one issued earlier under the
key and not redeemed since. -/
theorem redeemed_open {ops : List (Op K V)} {pre post : List (Out K V)} {k : K} {v : V}
    (h : Runs.outputs step PartialMap.empty ops = pre ++ .redeemed k v :: post) : Open pre k v := by
  obtain ⟨ops₁, op, ops₂, rfl, rfl, ho⟩ := Runs.outputs_split h
  refine (held_iff_open ops₁ k v).1 ?_
  cases op with
  | issue k' v' => simp only [step] at ho; split at ho <;> cases ho
  | redeem k' =>
    simp only [step] at ho
    split at ho
    · next hk => cases ho; exact hk
    · cases ho
  | idle => cases ho

/-- A matching of the redemptions among `outs`, by position: each with an
earlier issue of the same ticket, no two with the same issue. -/
structure Matching (outs : List (Out K V)) (issue : ℕ → ℕ) : Prop where
  earlier : ∀ {j k v}, outs[j]? = some (.redeemed k v) →
    issue j < j ∧ outs[issue j]? = some (.issued k v)
  injective : ∀ {j j' k v k' v'}, outs[j]? = some (.redeemed k v) → outs[j']? = some (.redeemed k' v') →
    issue j = issue j' → j = j'

/-- The issue a redemption hands over, with no redemption of its key in
between. -/
theorem redeemed_issue (ops : List (Op K V)) {j : ℕ} {k : K} {v : V}
    (hj : (Runs.outputs step PartialMap.empty ops)[j]? = some (.redeemed k v)) :
    ∃ i, i < j ∧ (Runs.outputs step PartialMap.empty ops)[i]? = some (.issued k v) ∧
      ∀ m v', i < m → m < j → (Runs.outputs step PartialMap.empty ops)[m]? ≠ some (.redeemed k v') := by
  generalize houts : Runs.outputs step (PartialMap.empty : PartialMap K V) ops = outs at hj ⊢
  obtain ⟨hlt, he⟩ := List.getElem?_eq_some_iff.1 hj
  have hsplit : outs = outs.take j ++ .redeemed k v :: outs.drop (j + 1) := by
    rw [← he, ← List.drop_eq_getElem_cons hlt, List.take_append_drop]
  obtain ⟨i, hi, hr⟩ := open_iff_getElem?.1 (redeemed_open (houts.trans hsplit))
  have hij : i < j := by
    by_contra hge
    rw [List.getElem?_eq_none (by rw [List.length_take]; omega)] at hi
    cases hi
  refine ⟨i, hij, ?_, fun m v' him hmj hm => hr m v' him ?_⟩
  · rw [← List.getElem?_take_of_lt hij]; exact hi
  · rw [List.getElem?_take_of_lt hmj]; exact hm

/-- **Redemptions are matched one-to-one with issues.** -/
theorem redeemed_once (ops : List (Op K V)) :
    ∃ issue, Matching (Runs.outputs step PartialMap.empty ops) issue := by
  have hissue := fun j k v => redeemed_issue ops (j := j) (k := k) (v := v)
  generalize Runs.outputs step (PartialMap.empty : PartialMap K V) ops = outs at hissue ⊢
  choose! issue hlt hi hno using hissue
  refine ⟨fun j => match outs[j]? with | some (.redeemed k v) => issue j k v | _ => 0, ?_, ?_⟩
  · intro j k v hj
    simp only [hj]
    exact ⟨hlt j k v hj, hi j k v hj⟩
  · intro j j' k v k' v' hj hj' he
    simp only [hj, hj'] at he
    -- The shared issue names the key of both.
    obtain ⟨rfl, rfl⟩ : k = k' ∧ v = v' := by
      have h := hi j k v hj
      rw [he, hi j' k' v' hj'] at h
      simpa [eq_comm] using h
    have hlt₁ := hlt j k v hj
    have hlt₂ := hlt j' k v hj'
    rcases Nat.lt_trichotomy j j' with h | h | h
    · exact absurd hj (hno j' k v hj' j v (by omega) h)
    · exact h
    · exact absurd hj' (hno j k v hj j' v (by omega) h)

end Tickets
