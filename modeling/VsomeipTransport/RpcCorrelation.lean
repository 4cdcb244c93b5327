/-
`storage/rpc_correlation.rs`: the two tables that tie uProtocol requests to
SOME/IP ones, and the session counter kept for each client.

Every operation holds one lock for its whole body, so it is one step. Only
`retrieveSessionId` can panic while it holds one: with overflow checks the
increment of the last session does, and from then on the lock is poisoned.
-/
import VsomeipTransport.Vsomeip

namespace VsomeipTransport

/-- Whether the build panics when an integer operation overflows (a debug
build) or wraps around (a release build). -/
abbrev OverflowChecks := Bool

structure InMemoryRpcCorrelationRegistry where
  ueRequestCorrelation : PartialMap SomeIpRequestId (UProtocolReqId × UUri)
  meRequestCorrelation : PartialMap UProtocolReqId SomeIpRequestId
  clientIdSessionIdTracking : RwLock (PartialMap ClientId SessionId)

namespace InMemoryRpcCorrelationRegistry

def new : InMemoryRpcCorrelationRegistry where
  ueRequestCorrelation := PartialMap.empty
  meRequestCorrelation := PartialMap.empty
  clientIdSessionIdTracking := { data := PartialMap.empty }

/-- `*current_session_id += 1`. -/
def incrementSessionId (checks : OverflowChecks) (sessionId : SessionId) : Outcome SessionId :=
  if checks && sessionId == 0xFFFF then .panicked "attempt to add with overflow"
  else .returned (sessionId + 1)

/-- The current session of a client, which the next call will find advanced. -/
def retrieveSessionId (checks : OverflowChecks) (r : InMemoryRpcCorrelationRegistry) (clientId : ClientId) :
    Outcome SessionId × InMemoryRpcCorrelationRegistry :=
  if r.clientIdSessionIdTracking.poisoned then (.panicked "PoisonError", r)
  else
    let tracking := r.clientIdSessionIdTracking.data
    let currentSessionId := (tracking clientId).getD 1
    match incrementSessionId checks currentSessionId with
    | .returned next =>
      (.returned currentSessionId,
        { r with clientIdSessionIdTracking := { data := tracking.insert clientId next } })
    | .panicked msg =>
      (.panicked msg,
        { r with clientIdSessionIdTracking :=
          { data := tracking.insert clientId currentSessionId, poisoned := true } })

def insertUeRequestCorrelation (up : UpRust) (r : InMemoryRpcCorrelationRegistry)
    (someipRequestId : SomeIpRequestId) (uprotocolReqId : UProtocolReqId) (sourceUri : UUri) :
    Except UStatus Unit × InMemoryRpcCorrelationRegistry :=
  match r.ueRequestCorrelation someipRequestId with
  | some (id, uri) =>
    (.error (.failWithCode .alreadyExists
      ("UE_REQUEST_CORRELATION: Already exists therefore rejecting, occupied: OccupiedEntry \x7b key: " ++
        toString someipRequestId.toNat ++ ", value: (" ++ up.debugUUID id ++ ", " ++ up.debugUUri uri ++
        "), .. \x7d")), r)
  | none =>
    (.ok (), { r with
      ueRequestCorrelation := r.ueRequestCorrelation.insert someipRequestId (uprotocolReqId, sourceUri) })

def removeUeRequestCorrelation (r : InMemoryRpcCorrelationRegistry) (someipRequestId : SomeIpRequestId) :
    Except UStatus (UProtocolReqId × UUri) × InMemoryRpcCorrelationRegistry :=
  match r.ueRequestCorrelation someipRequestId with
  | none =>
    (.error (.failWithCode .notFound
      ("Corresponding reqid not found for this SOME/IP RESPONSE: " ++ toString someipRequestId.toNat)), r)
  | some entry =>
    (.ok entry, { r with ueRequestCorrelation := r.ueRequestCorrelation.remove someipRequestId })

def insertMeRequestCorrelation (up : UpRust) (r : InMemoryRpcCorrelationRegistry)
    (uprotocolReqId : UProtocolReqId) (someipRequestId : SomeIpRequestId) :
    Except UStatus Unit × InMemoryRpcCorrelationRegistry :=
  match r.meRequestCorrelation uprotocolReqId with
  | some id =>
    (.error (.failWithCode .alreadyExists
      ("ME_REQUEST_CORRELATION: Already exists therefore rejecting, occupied: OccupiedEntry \x7b key: " ++
        up.debugUUID uprotocolReqId ++ ", value: " ++ toString id.toNat ++ ", .. \x7d")), r)
  | none =>
    (.ok (), { r with meRequestCorrelation := r.meRequestCorrelation.insert uprotocolReqId someipRequestId })

def removeMeRequestCorrelation (up : UpRust) (r : InMemoryRpcCorrelationRegistry)
    (uprotocolReqId : UProtocolReqId) : Except UStatus SomeIpRequestId × InMemoryRpcCorrelationRegistry :=
  match r.meRequestCorrelation uprotocolReqId with
  | none =>
    (.error (.failWithCode .notFound
      ("Corresponding SOME/IP Request ID not found for this Request UMessage's reqid: " ++
        up.toHyphenatedString uprotocolReqId)), r)
  | some someipRequestId =>
    (.ok someipRequestId, { r with meRequestCorrelation := r.meRequestCorrelation.remove uprotocolReqId })

/-! ## What each operation can do -/

variable {up : UpRust} {checks : OverflowChecks} {r r' : InMemoryRpcCorrelationRegistry}

/-- Retrieving a session touches only the counters. -/
theorem retrieveSessionId_frame {c : ClientId} {out} (h : r.retrieveSessionId checks c = (out, r')) :
    r'.ueRequestCorrelation = r.ueRequestCorrelation ∧ r'.meRequestCorrelation = r.meRequestCorrelation := by
  simp only [retrieveSessionId] at h
  split at h
  · cases h; exact ⟨rfl, rfl⟩
  split at h <;> cases h <;> exact ⟨rfl, rfl⟩

/-- A session that comes back is the counter's, and the counter moved on. -/
theorem retrieveSessionId_returned {c : ClientId} {s : SessionId}
    (h : r.retrieveSessionId checks c = (.returned s, r')) :
    r.clientIdSessionIdTracking.poisoned = false ∧ s = (r.clientIdSessionIdTracking.data c).getD 1 ∧
    (checks = true → s ≠ 0xFFFF) ∧
    r' = { r with clientIdSessionIdTracking :=
      { data := r.clientIdSessionIdTracking.data.insert c (s + 1) } } := by
  simp only [retrieveSessionId] at h
  split at h
  · cases h
  next hp =>
  split at h
  · next next hn =>
    simp only [incrementSessionId] at hn
    split at hn
    · cases hn
    · next hc =>
      simp only [Outcome.returned.injEq] at hn
      simp only [Prod.mk.injEq, Outcome.returned.injEq] at h
      obtain ⟨rfl, rfl⟩ := h
      refine ⟨by simpa using hp, rfl, fun ht he => hc ?_, by rw [hn]⟩
      simp [ht, he]
  · cases h

/-- A panic comes from a poisoned lock, or poisons it: the checked increment
of the last session. -/
theorem retrieveSessionId_panicked {c : ClientId} {msg : String}
    (h : r.retrieveSessionId checks c = (.panicked msg, r')) :
    r'.clientIdSessionIdTracking.poisoned = true ∧
    (r.clientIdSessionIdTracking.poisoned = true ∨
      (checks = true ∧ (r.clientIdSessionIdTracking.data c).getD 1 = 0xFFFF)) := by
  simp only [retrieveSessionId] at h
  split at h
  · next hp => cases h; exact ⟨hp, .inl hp⟩
  split at h
  · cases h
  · next hn =>
    simp only [Prod.mk.injEq] at h
    obtain ⟨-, rfl⟩ := h
    simp only [incrementSessionId] at hn
    split at hn
    · next hc => exact ⟨rfl, .inr (by simpa using hc)⟩
    · cases hn

/-- A refused insertion changes nothing; one that succeeds found its key vacant. -/
theorem insertUeRequestCorrelation_cases {k : SomeIpRequestId} {id : UProtocolReqId} {uri : UUri} {res}
    (h : r.insertUeRequestCorrelation up k id uri = (res, r')) :
    (res = .ok () ∧ r.ueRequestCorrelation k = none ∧
      r' = { r with ueRequestCorrelation := r.ueRequestCorrelation.insert k (id, uri) }) ∨
    (∃ e, res = .error e ∧ (∃ entry, r.ueRequestCorrelation k = some entry) ∧ r' = r) := by
  simp only [insertUeRequestCorrelation] at h
  split at h
  · next _ _ hk => cases h; exact .inr ⟨_, rfl, ⟨_, hk⟩, rfl⟩
  · next hk => cases h; exact .inl ⟨rfl, hk, rfl⟩

theorem removeUeRequestCorrelation_cases {k : SomeIpRequestId} {res}
    (h : r.removeUeRequestCorrelation k = (res, r')) :
    (∃ entry, res = .ok entry ∧ r.ueRequestCorrelation k = some entry ∧
      r' = { r with ueRequestCorrelation := r.ueRequestCorrelation.remove k }) ∨
    (∃ e, res = .error e ∧ r.ueRequestCorrelation k = none ∧ r' = r) := by
  simp only [removeUeRequestCorrelation] at h
  split at h
  · next hk => cases h; exact .inr ⟨_, rfl, hk, rfl⟩
  · next hk => cases h; exact .inl ⟨_, rfl, hk, rfl⟩

theorem insertMeRequestCorrelation_cases {id : UProtocolReqId} {k : SomeIpRequestId} {res}
    (h : r.insertMeRequestCorrelation up id k = (res, r')) :
    (res = .ok () ∧ r.meRequestCorrelation id = none ∧
      r' = { r with meRequestCorrelation := r.meRequestCorrelation.insert id k }) ∨
    (∃ e, res = .error e ∧ (∃ k', r.meRequestCorrelation id = some k') ∧ r' = r) := by
  simp only [insertMeRequestCorrelation] at h
  split at h
  · next hk => cases h; exact .inr ⟨_, rfl, ⟨_, hk⟩, rfl⟩
  · next hk => cases h; exact .inl ⟨rfl, hk, rfl⟩

theorem removeMeRequestCorrelation_cases {id : UProtocolReqId} {res}
    (h : r.removeMeRequestCorrelation up id = (res, r')) :
    (∃ k, res = .ok k ∧ r.meRequestCorrelation id = some k ∧
      r' = { r with meRequestCorrelation := r.meRequestCorrelation.remove id }) ∨
    (∃ e, res = .error e ∧ r.meRequestCorrelation id = none ∧ r' = r) := by
  simp only [removeMeRequestCorrelation] at h
  split at h
  · next hk => cases h; exact .inr ⟨_, rfl, hk, rfl⟩
  · next hk => cases h; exact .inl ⟨_, rfl, hk, rfl⟩

end InMemoryRpcCorrelationRegistry

end VsomeipTransport
