/-
What the transport takes from the uProtocol library (`up_rust`).

Its data are records of the fields the transport reads or writes. Its
functions are a parameter, `UpRust`: the transport calls them and this
development does not look inside. What the transport relies on is stated as
named properties of the parameter (`UriParts`, `Wildcards`, `Carries`,
`ChecksRequests`), each assumed only where it is needed.
-/
import VsomeipTransport.Lib.RustStd

namespace VsomeipTransport

/-! ## Data -/

/-- `up_rust::UUri`. -/
structure UUri where
  authorityName : String
  ueId : UInt32
  ueVersionMajor : UInt32
  resourceId : UInt32
deriving DecidableEq, Repr

/-- `up_rust::UUID`. -/
structure UUID where
  msb : UInt64
  lsb : UInt64
deriving DecidableEq, Repr

/-- An id as `UUID::build` makes them: version 7, of the variant 0b10. -/
def UUID.sample (n : UInt64) : UUID := ⟨0x7000, 0x8000000000000000 + n⟩

/-- `up_rust::UCode`. -/
inductive UCode
  | ok
  | cancelled
  | unknown
  | invalidArgument
  | deadlineExceeded
  | notFound
  | alreadyExists
  | permissionDenied
  | unauthenticated
  | resourceExhausted
  | failedPrecondition
  | aborted
  | outOfRange
  | unimplemented
  | internal
  | unavailable
  | dataLoss
deriving DecidableEq, Repr

/-- `up_rust::UStatus`, as `fail_with_code` makes it. -/
structure UStatus where
  code : UCode
  message : String
deriving DecidableEq, Repr

def UStatus.failWithCode (code : UCode) (message : String) : UStatus := ⟨code, message⟩

/-- `up_rust::UMessageType`. -/
inductive UMessageType
  | unspecified
  | publish
  | request
  | response
  | notification
deriving DecidableEq, Repr

/-- `up_rust::UPayloadFormat`, the members this repository names. -/
inductive UPayloadFormat
  | unspecified
  | protobufWrappedInAny
  | protobuf
  | raw
  | text
deriving DecidableEq, Repr

/-- A protobuf enum field: a value of the enum, or a number it does not name. -/
inductive EnumOrUnknown (α : Type)
  | known (a : α)
  | unknown (i : Int)
deriving DecidableEq, Repr

def EnumOrUnknown.enumValueOr {α : Type} : EnumOrUnknown α → α → α
  | .known a, _ => a
  | .unknown _, default => default

/-- `up_rust::UAttributes`, the fields the transport uses. -/
structure UAttributes where
  id : Option UUID := none
  type : EnumOrUnknown UMessageType := .known .unspecified
  source : Option UUri := none
  sink : Option UUri := none
  reqid : Option UUID := none
  commstatus : Option (EnumOrUnknown UCode) := none
deriving DecidableEq, Repr

/-- `up_rust::UMessage`. -/
structure UMessage where
  attributes : Option UAttributes
  payload : Option (List UInt8)
deriving DecidableEq, Repr

/-- `umsg.attributes.field`: a missing message field reads as the default. -/
def UMessage.attrs (umsg : UMessage) : UAttributes := umsg.attributes.getD {}

/-- What a `UMessageBuilder` was told before it is asked to build. -/
inductive UMessageBuilder
  | publish (source : UUri)
  | request (sink source : UUri) (ttl : Nat)
  | response (sink : UUri) (reqid : UUID) (source : UUri) (commStatus : Option UCode)
deriving DecidableEq, Repr

/-- The attributes a builder was told, under a message id. -/
def UMessageBuilder.attributes (id : UUID) : UMessageBuilder → UAttributes
  | .publish source => { id := some id, type := .known .publish, source := some source }
  | .request sink source _ =>
    { id := some id, type := .known .request, source := some source, sink := some sink }
  | .response sink reqid source commStatus =>
    { id := some id, type := .known .response, source := some source, sink := some sink,
      reqid := some reqid, commstatus := commStatus.map .known }

/-! ## Functions -/

/-- The functions of `up_rust` the transport calls. An error is the text the
transport puts in its own error, and the `debug` functions are the `Debug`
texts. A builder takes the id it generates (`UUID::build()`) as an argument. -/
structure UpRust where
  hasWildcardAuthority : UUri → Bool
  hasWildcardEntityType : UUri → Bool
  hasWildcardEntityInstance : UUri → Bool
  hasWildcardVersion : UUri → Bool
  hasWildcardResourceId : UUri → Bool
  any : UUri
  verifyRpcResponse : UUri → Except String Unit
  tryFromParts : (authority : String) → (ueId : UInt32) → (version : UInt8) → (resourceId : UInt16) →
    Except String UUri
  buildWithPayload : UMessageBuilder → (id : UUID) → List UInt8 → UPayloadFormat → Except String UMessage
  validate : UAttributes → Except String Unit
  toHyphenatedString : UUID → String
  debugUUID : UUID → String
  debugUUri : UUri → String
  debugUStatus : UStatus → String

/-- `UUri::try_from_parts` puts its arguments in the fields, the authority as
it writes it: an IPv6 address, for one, may be written another way. -/
def UpRust.UriParts (up : UpRust) (canonical : String → String) : Prop :=
  ∀ authority ueId version resourceId u, up.tryFromParts authority ueId version resourceId = .ok u →
    u = ⟨canonical authority, ueId, version.toUInt32, resourceId.toUInt32⟩

/-- The wildcard of each `UUri` field. -/
structure UpRust.Wildcards (up : UpRust) : Prop where
  authority : ∀ u : UUri, up.hasWildcardAuthority u = true ↔ u.authorityName = "*"
  entityType : ∀ u : UUri, up.hasWildcardEntityType u = true ↔ u.ueId % 0x10000 = 0xFFFF
  entityInstance : ∀ u : UUri, up.hasWildcardEntityInstance u = true ↔ u.ueId / 0x10000 = 0xFFFF
  version : ∀ u : UUri, up.hasWildcardVersion u = true ↔ u.ueVersionMajor = 0xFF
  resourceId : ∀ u : UUri, up.hasWildcardResourceId u = true ↔ u.resourceId = 0xFFFF

/-- A message that is built carries what its builder was told. -/
def UpRust.Carries (up : UpRust) : Prop :=
  ∀ b id payload format m, up.buildWithPayload b id payload format = .ok m →
    m.attributes = some (b.attributes id) ∧ m.payload = some payload

theorem UpRust.Carries.attrs {up : UpRust} (h : up.Carries) {b id payload format m}
    (hm : up.buildWithPayload b id payload format = .ok m) : m.attrs = b.attributes id := by
  simp [UMessage.attrs, (h _ _ _ _ _ hm).1]

/-- The validator of requests: a Request goes from a reply-to address to a
method. -/
def UpRust.ChecksRequests (up : UpRust) : Prop :=
  ∀ a : UAttributes, up.validate a = .ok () → a.type.enumValueOr .unspecified = .request →
    ∃ source sink, a.source = some source ∧ a.sink = some sink ∧ source.resourceId = 0 ∧
      0 < sink.resourceId.toNat ∧ sink.resourceId.toNat < 0x8000

/-- A library that accepts everything and follows the documentation: it
shows that what is assumed of the parameter can be met. -/
def UpRust.accepting : UpRust where
  hasWildcardAuthority u := u.authorityName == "*"
  hasWildcardEntityType u := u.ueId % 0x10000 == 0xFFFF
  hasWildcardEntityInstance u := u.ueId / 0x10000 == 0xFFFF
  hasWildcardVersion u := u.ueVersionMajor == 0xFF
  hasWildcardResourceId u := u.resourceId == 0xFFFF
  any := ⟨"*", 0xFFFFFFFF, 0xFF, 0xFFFF⟩
  verifyRpcResponse u := if u.resourceId = 0 then .ok () else .error "not a reply-to address"
  tryFromParts authority ueId version resourceId :=
    .ok ⟨authority, ueId, version.toUInt32, resourceId.toUInt32⟩
  buildWithPayload b id payload _ := .ok { attributes := some (b.attributes id), payload := some payload }
  validate _ := .ok ()
  toHyphenatedString _ := ""
  debugUUID _ := ""
  debugUUri _ := ""
  debugUStatus s := s.message

/-- The same, but a response has to come from a method. -/
def UpRust.checkingResponses : UpRust :=
  { UpRust.accepting with
    buildWithPayload := fun b id payload format =>
      match b with
      | .response _ _ source _ =>
        if 0 < source.resourceId ∧ source.resourceId < 0x8000 then
          UpRust.accepting.buildWithPayload b id payload format
        else .error "not a method"
      | _ => UpRust.accepting.buildWithPayload b id payload format }

/-- The same, but a message has to name what its type asks for. A topic may
have any resource id from 0x8000 on that is not the wildcard. -/
def UpRust.validating : UpRust :=
  { UpRust.accepting with
    validate := fun a =>
      match a.type.enumValueOr .unspecified, a.source, a.sink with
      | .publish, some source, _ =>
        if 0x8000 ≤ source.resourceId.toNat ∧ source.resourceId ≠ 0xFFFF then .ok () else .error "not a topic"
      | .publish, none, _ => .error "no topic"
      | .request, some source, some sink =>
        if source.resourceId = 0 ∧ 0 < sink.resourceId.toNat ∧ sink.resourceId.toNat < 0x8000 then .ok ()
        else .error "not a method"
      | .request, _, _ => .error "no method"
      | _, _, _ => .ok () }

theorem UpRust.accepting_uriParts : UpRust.accepting.UriParts id := by
  intro _ _ _ _ u h
  simp only [UpRust.accepting, Except.ok.injEq] at h
  exact h.symm

theorem UpRust.accepting_wildcards : UpRust.accepting.Wildcards := by
  constructor <;> intro u <;> simp [UpRust.accepting]

theorem UpRust.validating_wildcards : UpRust.validating.Wildcards where
  authority := UpRust.accepting_wildcards.authority
  entityType := UpRust.accepting_wildcards.entityType
  entityInstance := UpRust.accepting_wildcards.entityInstance
  version := UpRust.accepting_wildcards.version
  resourceId := UpRust.accepting_wildcards.resourceId

theorem UpRust.validating_checksRequests : UpRust.validating.ChecksRequests := by
  intro a h ht
  cases hs : a.source with
  | none => simp [validating, ht, hs] at h
  | some source =>
    cases hk : a.sink with
    | none => simp [validating, ht, hs, hk] at h
    | some sink =>
      simp only [validating, ht, hs, hk] at h
      split at h
      · next hr => exact ⟨source, sink, rfl, rfl, hr⟩
      · cases h

theorem UpRust.accepting_carries : UpRust.accepting.Carries := by
  intro b id payload format m h
  simp only [UpRust.accepting, Except.ok.injEq] at h
  subst h
  exact ⟨rfl, rfl⟩

end VsomeipTransport
