/-
`utils.rs`: the bit splitting between uProtocol's 32-bit fields and
SOME/IP's 16-bit ones, and the request id made of a client and a session.

`createRequestId` and `splitU32ToU16` are inverse to each other on all
inputs (`split_createRequestId`, `createRequestId_split`), so a request id
names exactly one client and session.
-/
import Mathlib.Data.Nat.Bitwise
import VsomeipTransport.UpRust

namespace VsomeipTransport

/-! The aliases of `lib.rs`. -/

abbrev AuthorityName := String
abbrev UeId := UInt32
abbrev ClientId := UInt16
abbrev ApplicationName := String
abbrev UProtocolReqId := UUID
abbrev SomeIpRequestId := UInt32
abbrev SessionId := UInt16
abbrev ServiceId := UInt16
abbrev InstanceId := UInt16
abbrev MethodId := UInt16
abbrev EventId := UInt16
abbrev MessageHandlerId := Nat

/-- A `UUri` with the given authority and entity, and any version and resource. -/
def anyUuriFixedAuthorityId (authorityName : AuthorityName) (ueId : UeId) : UUri where
  authorityName := authorityName
  ueId := ueId
  ueVersionMajor := 0xFF
  resourceId := 0xFFFF

def splitU32ToU16 (value : UInt32) : UInt16 × UInt16 :=
  let mostSignificantBits := (value >>> 16).toUInt16
  let leastSignificantBits := (value &&& 0xFFFF).toUInt16
  (mostSignificantBits, leastSignificantBits)

def splitU32ToU8 (value : UInt32) : UInt8 × UInt8 × UInt8 × UInt8 :=
  let byte1 := (value >>> 24).toUInt8
  let byte2 := ((value >>> 16) &&& 0xFF).toUInt8
  let byte3 := ((value >>> 8) &&& 0xFF).toUInt8
  let byte4 := (value &&& 0xFF).toUInt8
  (byte1, byte2, byte3, byte4)

/-- The SOME/IP request id of a client and a session. -/
def createRequestId (clientId : ClientId) (sessionId : SessionId) : SomeIpRequestId :=
  (clientId.toUInt32 <<< 16) ||| sessionId.toUInt32

/-! ## The splits as arithmetic -/

theorem splitU32ToU16_fst (value : UInt32) : (splitU32ToU16 value).1.toNat = value.toNat / 65536 := by
  have := value.toNat_lt
  simp only [splitU32ToU16, UInt32.toNat_toUInt16, UInt32.toNat_shiftRight]
  simp [Nat.shiftRight_eq_div_pow]
  omega

theorem splitU32ToU16_snd (value : UInt32) : (splitU32ToU16 value).2.toNat = value.toNat % 65536 := by
  simp only [splitU32ToU16, UInt32.toNat_toUInt16, UInt32.toNat_and]
  have h : value.toNat &&& 65535 = value.toNat % 65536 := Nat.and_two_pow_sub_one_eq_mod value.toNat 16
  simp [h]

theorem splitU32ToU8_fourth (value : UInt32) : (splitU32ToU8 value).2.2.2.toNat = value.toNat % 256 := by
  simp only [splitU32ToU8, UInt32.toNat_toUInt8, UInt32.toNat_and]
  have h : value.toNat &&& 255 = value.toNat % 256 := Nat.and_two_pow_sub_one_eq_mod value.toNat 8
  simp [h]

theorem createRequestId_toNat (clientId : ClientId) (sessionId : SessionId) :
    (createRequestId clientId sessionId).toNat = clientId.toNat * 65536 + sessionId.toNat := by
  have hc := clientId.toNat_lt
  have hs := sessionId.toNat_lt
  simp only [createRequestId, UInt32.toNat_or, UInt32.toNat_shiftLeft, UInt16.toNat_toUInt32]
  have h16 : (16 : UInt32).toNat % 32 = 16 := rfl
  rw [h16, Nat.shiftLeft_eq, Nat.mod_eq_of_lt (by omega), ← Nat.shiftLeft_eq,
    ← Nat.shiftLeft_add_eq_or_of_lt hs, Nat.shiftLeft_eq]

/-- A request id splits into the client and the session it was made of. -/
theorem split_createRequestId (clientId : ClientId) (sessionId : SessionId) :
    splitU32ToU16 (createRequestId clientId sessionId) = (clientId, sessionId) := by
  have hs := sessionId.toNat_lt
  have h1 := splitU32ToU16_fst (createRequestId clientId sessionId)
  have h2 := splitU32ToU16_snd (createRequestId clientId sessionId)
  rw [createRequestId_toNat] at h1 h2
  refine Prod.ext (UInt16.toNat_inj.1 ?_) (UInt16.toNat_inj.1 ?_)
  · rw [h1]; simp only; omega
  · rw [h2]; simp only; omega

/-- Every request id is made of its own halves. -/
theorem createRequestId_split (requestId : SomeIpRequestId) :
    createRequestId (splitU32ToU16 requestId).1 (splitU32ToU16 requestId).2 = requestId := by
  apply UInt32.toNat_inj.1
  rw [createRequestId_toNat, splitU32ToU16_fst, splitU32ToU16_snd]
  omega

theorem createRequestId_inj {c c' : ClientId} {s s' : SessionId}
    (h : createRequestId c s = createRequestId c' s') : c = c' ∧ s = s' := by
  have hp := congrArg splitU32ToU16 h
  rw [split_createRequestId, split_createRequestId] at hp
  exact Prod.mk.inj hp

end VsomeipTransport
