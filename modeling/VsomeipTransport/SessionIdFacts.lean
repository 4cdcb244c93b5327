/-
The session ids `retrieve_session_id` hands out over a run of calls.

The calls of one client are numbered from 1, whatever other clients do
(`Within.sessionIdsOf_eq`), until its 65535th: incrementing the last number a
`u16` has panics and poisons the lock in a build with overflow checks, and
makes the reserved id 0 the next one in a build without (`Numbers.overflows`).
`sessionIdsValid_iff`: **the ids of a run are valid exactly as long as no
client has got there.**
-/
import VsomeipTransport.Lib.Runs
import VsomeipTransport.RpcCorrelation

namespace VsomeipTransport

namespace InMemoryRpcCorrelationRegistry

/-- One call of a run. -/
def retrieveStep (checks : OverflowChecks) (r : InMemoryRpcCorrelationRegistry) (c : ClientId) :
    InMemoryRpcCorrelationRegistry × Outcome SessionId :=
  ((r.retrieveSessionId checks c).2, (r.retrieveSessionId checks c).1)

/-- The registry after these calls. -/
def afterCalls (checks : OverflowChecks) (cs : List ClientId) : InMemoryRpcCorrelationRegistry :=
  Runs.after (retrieveStep checks) .new cs

/-- What the calls return, oldest first. -/
def sessionIds (checks : OverflowChecks) (cs : List ClientId) : List (Outcome SessionId) :=
  Runs.outputs (retrieveStep checks) .new cs

/-- What those of one client return. -/
def sessionIdsOf (checks : OverflowChecks) (cs : List ClientId) (c : ClientId) : List (Outcome SessionId) :=
  ((cs.zip (sessionIds checks cs)).filter (fun call => call.1 == c)).map Prod.snd

/-- The session a client gets next. -/
def currentSessionId (r : InMemoryRpcCorrelationRegistry) (c : ClientId) : SessionId :=
  (r.clientIdSessionIdTracking.data c).getD 1

/-- What is asked of the session ids of a run. -/
structure SessionIdsValid (checks : OverflowChecks) (cs : List ClientId) : Prop where
  noOverflow : ∀ pre c post, cs = pre ++ c :: post → (afterCalls checks pre).currentSessionId c ≠ 0xFFFF
  returned : ∀ out ∈ sessionIds checks cs, out.isPanic = false
  unpoisoned : (afterCalls checks cs).clientIdSessionIdTracking.poisoned = false
  inRange : ∀ s, .returned s ∈ sessionIds checks cs → 1 ≤ s.toNat ∧ s.toNat ≤ 65535
  independent : ∀ c, sessionIdsOf checks cs c = sessionIdsOf checks (cs.filter (· == c)) c
  distinct : ∀ c i j s s', i < j → j < i + 65535 → (sessionIdsOf checks cs c)[i]? = some (.returned s) →
    (sessionIdsOf checks cs c)[j]? = some (.returned s') → s ≠ s'

variable {checks : OverflowChecks} {cs : List ClientId} {c : ClientId} {r : InMemoryRpcCorrelationRegistry}

/-! ## One call -/

/-- Below 65535 the counter moves on. -/
theorem incrementSessionId_of_ne {s : SessionId} (h : s ≠ 0xFFFF) :
    incrementSessionId checks s = .returned (s + 1) := by
  have hne : (s == 0xFFFF) = false := by simpa using h
  simp only [incrementSessionId, hne, Bool.and_false, Bool.false_eq_true, if_false]

theorem number_ne {n : ℕ} (h : n < 65534) : UInt16.ofNat (n + 1) ≠ 0xFFFF := by
  intro he
  have hnat := congrArg UInt16.toNat he
  rw [UInt16.toNat_ofNat_of_lt' (show n + 1 < UInt16.size by simp only [UInt16.size]; omega)] at hnat
  have hmax : (0xFFFF : UInt16).toNat = 65535 := rfl
  omega

/-- The counters after the calls `cs`. -/
structure Numbers (cs : List ClientId) (r : InMemoryRpcCorrelationRegistry) : Prop where
  unpoisoned : r.clientIdSessionIdTracking.poisoned = false
  current : ∀ c, r.currentSessionId c = UInt16.ofNat (cs.count c + 1)

theorem Numbers.new : Numbers [] new := ⟨rfl, fun _ => rfl⟩

/-- A client that was asked for less than 65534 times gets its next number. -/
theorem Numbers.step (h : Numbers cs r) (hc : cs.count c < 65534) :
    Numbers (cs ++ [c]) (retrieveStep checks r c).1 ∧
      (retrieveStep checks r c).2 = .returned (UInt16.ofNat (cs.count c + 1)) := by
  have hcur : (r.clientIdSessionIdTracking.data c).getD 1 = UInt16.ofNat (cs.count c + 1) := h.current c
  have hret : r.retrieveSessionId checks c = (.returned (UInt16.ofNat (cs.count c + 1)), { r with
      clientIdSessionIdTracking :=
        { data := r.clientIdSessionIdTracking.data.insert c (UInt16.ofNat (cs.count c + 1) + 1) } }) := by
    simp only [retrieveSessionId, h.unpoisoned, hcur, incrementSessionId_of_ne (number_ne hc), Bool.false_eq_true,
      if_false]
  refine ⟨⟨?_, fun c' => ?_⟩, ?_⟩
  · simp only [retrieveStep, hret]
  · have hother := h.current c'
    simp only [currentSessionId] at hother
    simp only [retrieveStep, hret, currentSessionId, PartialMap.insert_apply, List.count_append,
      List.count_singleton]
    by_cases he : c' = c
    · subst he
      simp
    · have hne : (c == c') = false := by simpa using Ne.symm he
      simpa [he, hne] using hother
  · simp only [retrieveStep, hret]

/-- The last number: the call panics and poisons the lock, or the client's
next session is 0. -/
theorem Numbers.overflows (h : Numbers cs r) (hc : cs.count c = 65534) :
    r.currentSessionId c = 0xFFFF ∧
    ((retrieveStep true r c).2 = .panicked "attempt to add with overflow" ∧
      (retrieveStep true r c).1.clientIdSessionIdTracking.poisoned = true) ∧
    (retrieveStep false (retrieveStep false r c).1 c).2 = .returned 0 := by
  have hmax : (r.clientIdSessionIdTracking.data c).getD 1 = 0xFFFF := by
    have hcur := h.current c
    rw [hc] at hcur
    exact hcur
  refine ⟨hmax, ?_, ?_⟩
  · simp [retrieveStep, retrieveSessionId, h.unpoisoned, hmax, incrementSessionId]
  · simp [retrieveStep, retrieveSessionId, h.unpoisoned, hmax, incrementSessionId]

/-! ## The calls of one client -/

theorem sessionIds_concat (checks : OverflowChecks) (cs : List ClientId) (c : ClientId) :
    sessionIds checks (cs ++ [c]) = sessionIds checks cs ++ [(retrieveStep checks (afterCalls checks cs) c).2] :=
  Runs.outputs_concat _ cs c

theorem sessionIdsOf_concat (checks : OverflowChecks) (cs : List ClientId) (c c' : ClientId) :
    sessionIdsOf checks (cs ++ [c']) c = sessionIdsOf checks cs c ++
      if c' = c then [(retrieveStep checks (afterCalls checks cs) c').2] else [] := by
  have hlen : cs.length = (sessionIds checks cs).length := (Runs.outputs_length _ cs).symm
  simp only [sessionIdsOf, sessionIds_concat, List.zip_append hlen, List.filter_append, List.map_append]
  by_cases he : c' = c
  · simp [he]
  · have hne : (c' == c) = false := by simpa using he
    simp [he, hne]

/-- No client is asked for more than 65534 times. -/
def Within (cs : List ClientId) : Prop := ∀ c, cs.count c ≤ 65534

theorem Within.of_concat (h : Within (cs ++ [c])) : Within cs ∧ cs.count c < 65534 := by
  refine ⟨fun c' => ?_, ?_⟩
  · have hle := h c'
    rw [List.count_append] at hle
    omega
  · have hle := h c
    rw [List.count_append, List.count_singleton_self] at hle
    omega

theorem Within.numbers (h : Within cs) (checks : OverflowChecks) : Numbers cs (afterCalls checks cs) := by
  induction cs using List.reverseRecOn with
  | nil => exact .new
  | append_singleton cs c ih =>
    obtain ⟨hw, hc⟩ := h.of_concat
    rw [afterCalls, Runs.after_concat]
    exact ((ih hw).step hc).1

/-- **Every client is numbered from 1**, whatever the others do. -/
theorem Within.sessionIdsOf_eq (h : Within cs) (c : ClientId) :
    sessionIdsOf checks cs c = (List.range (cs.count c)).map fun n => .returned (UInt16.ofNat (n + 1)) := by
  induction cs using List.reverseRecOn with
  | nil => rfl
  | append_singleton cs c' ih =>
    obtain ⟨hw, hc⟩ := h.of_concat
    rw [sessionIdsOf_concat, ih hw, ((hw.numbers checks).step hc).2, List.count_append, List.count_singleton]
    by_cases he : c' = c
    · subst he
      simp [List.range_succ]
    · have hne : (c' == c) = false := by simpa using he
      simp [he, hne]

/-- Each call returns such a number. -/
theorem Within.mem_sessionIds (h : Within cs) {out : Outcome SessionId} (hout : out ∈ sessionIds checks cs) :
    ∃ n < 65534, out = .returned (UInt16.ofNat (n + 1)) := by
  induction cs using List.reverseRecOn with
  | nil => cases hout
  | append_singleton cs c ih =>
    obtain ⟨hw, hc⟩ := h.of_concat
    rw [sessionIds_concat, List.mem_append, List.mem_singleton] at hout
    rcases hout with hout | rfl
    · exact ih hw hout
    · exact ⟨cs.count c, hc, ((hw.numbers checks).step hc).2⟩

/-- The first call that is one too many. -/
theorem exists_last_number (h : ¬ Within cs) :
    ∃ pre c post, cs = pre ++ c :: post ∧ Within pre ∧ pre.count c = 65534 := by
  induction cs using List.reverseRecOn with
  | nil => exact absurd (fun c => Nat.zero_le _) h
  | append_singleton cs c ih =>
    by_cases hw : Within cs
    · refine ⟨cs, c, [], rfl, hw, ?_⟩
      by_contra hne
      refine h fun c' => ?_
      have hle := hw c'
      rw [List.count_append, List.count_singleton]
      by_cases he : c = c'
      · subst he
        simp only [beq_self_eq_true, if_true]
        omega
      · have hbeq : (c == c') = false := by simpa using he
        simp only [hbeq, Bool.false_eq_true, if_false]
        omega
    · obtain ⟨pre, c₁, post, rfl, hpre, hcount⟩ := ih hw
      exact ⟨pre, c₁, post ++ [c], by simp, hpre, hcount⟩

/-! ## Validity -/

theorem toNat_number {n : ℕ} (h : n < 65534) : (UInt16.ofNat (n + 1)).toNat = n + 1 :=
  UInt16.toNat_ofNat_of_lt' (show n + 1 < UInt16.size by simp only [UInt16.size]; omega)

theorem Within.valid (h : Within cs) : SessionIdsValid checks cs where
  noOverflow pre c post he := by
    have hcount : (pre ++ [c]).count c ≤ 65534 := by
      refine le_trans (List.Sublist.count_le c ?_) (h c)
      have hassoc : cs = pre ++ [c] ++ post := by simp [he]
      rw [hassoc]
      exact List.sublist_append_left _ _
    have hpre : Within pre := fun c' => by
      refine le_trans (List.Sublist.count_le c' ?_) (h c')
      rw [he]
      exact List.sublist_append_left _ _
    rw [List.count_append, List.count_singleton_self] at hcount
    rw [(hpre.numbers checks).current c]
    exact number_ne (by omega)
  returned out hout := by
    obtain ⟨n, -, rfl⟩ := h.mem_sessionIds hout
    rfl
  unpoisoned := (h.numbers checks).unpoisoned
  inRange s hs := by
    obtain ⟨n, hn, he⟩ := h.mem_sessionIds hs
    rw [Outcome.returned.inj he, toNat_number hn]
    omega
  independent c := by
    have hfilter : Within (cs.filter (· == c)) := fun c' => (List.filter_sublist.count_le c').trans (h c')
    rw [h.sessionIdsOf_eq, hfilter.sessionIdsOf_eq, List.count_filter (by simp)]
  distinct c i j s s' hij _ hi hj := by
    rw [h.sessionIdsOf_eq, List.getElem?_map] at hi hj
    obtain ⟨n, hn, he⟩ := Option.map_eq_some_iff.1 hi
    obtain ⟨n', hn', he'⟩ := Option.map_eq_some_iff.1 hj
    obtain ⟨hlt, hni⟩ := List.getElem?_eq_some_iff.1 hn
    obtain ⟨hlt', hnj⟩ := List.getElem?_eq_some_iff.1 hn'
    rw [List.getElem_range] at hni hnj
    rw [List.length_range] at hlt hlt'
    have hc := h c
    have hs : s.toNat = i + 1 := by
      rw [← Outcome.returned.inj he, ← hni]
      exact toNat_number (hlt.trans_le hc)
    have hs' : s'.toNat = j + 1 := by
      rw [← Outcome.returned.inj he', ← hnj]
      exact toNat_number (hlt'.trans_le hc)
    intro hsame
    rw [hsame] at hs
    omega

theorem within_of_valid (h : SessionIdsValid checks cs) : Within cs := by
  by_contra hw
  obtain ⟨pre, c, post, he, hpre, hcount⟩ := exists_last_number hw
  exact h.noOverflow pre c post he ((hpre.numbers checks).overflows hcount).1

/-- **The session ids of a run are valid if and only if no client is asked
for more than 65534 times**, whichever way the build treats overflows. -/
theorem sessionIdsValid_iff (checks : OverflowChecks) (cs : List ClientId) :
    SessionIdsValid checks cs ↔ ∀ c, cs.count c ≤ 65534 :=
  ⟨within_of_valid, Within.valid⟩

/-- They are not valid for ever. One client's 65535th call panics in a build
with overflow checks, its 65536th returns 0 in one without. -/
theorem not_sessionIdsValid :
    (.panicked "attempt to add with overflow" ∈ sessionIds true (List.replicate 65535 0) ∧
      ¬ SessionIdsValid true (List.replicate 65535 0)) ∧
    .returned 0 ∈ sessionIds false (List.replicate 65536 0) ∧
      ¬ SessionIdsValid false (List.replicate 65536 0) := by
  have hw : Within (List.replicate 65534 0) := fun c => (List.count_le_length).trans_eq List.length_replicate
  have hcount : (List.replicate 65534 (0 : ClientId)).count 0 = 65534 := List.count_replicate_self
  have hpanic : .panicked "attempt to add with overflow" ∈ sessionIds true (List.replicate 65535 0) := by
    rw [List.replicate_succ', sessionIds_concat, ((hw.numbers true).overflows hcount).2.1.1]
    exact List.mem_append_right _ (List.mem_singleton_self _)
  have hzero : .returned 0 ∈ sessionIds false (List.replicate 65536 0) := by
    have hstep := (hw.numbers false).overflows hcount
    rw [List.replicate_succ', sessionIds_concat, List.replicate_succ', afterCalls, Runs.after_concat]
    rw [afterCalls] at hstep
    rw [hstep.2.2]
    exact List.mem_append_right _ (List.mem_singleton_self _)
  refine ⟨⟨hpanic, fun h => ?_⟩, hzero, fun h => ?_⟩
  · cases h.returned _ hpanic
  · exact absurd (h.inRange 0 hzero).1 (by decide)

end InMemoryRpcCorrelationRegistry

end VsomeipTransport
