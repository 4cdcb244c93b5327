/-
`determine_message_type.rs`: what kind of registration a source and a sink
filter stand for.
-/
import VsomeipTransport.UpRust

namespace VsomeipTransport

inductive RegistrationType
  | publish
  | request
  | response
  | allPointToPoint
deriving DecidableEq, Repr

/-- The uStreamer use case: all point-to-point messages between two hosts. -/
def streamerUseCase (up : UpRust) (sourceFilter sinkFilter : UUri) : Bool :=
  !up.hasWildcardAuthority sourceFilter
    && up.hasWildcardEntityType sourceFilter
    && up.hasWildcardEntityInstance sourceFilter
    && up.hasWildcardVersion sourceFilter
    && up.hasWildcardResourceId sourceFilter
    && !up.hasWildcardAuthority sinkFilter
    && up.hasWildcardEntityType sinkFilter
    && up.hasWildcardEntityInstance sinkFilter
    && up.hasWildcardVersion sinkFilter
    && up.hasWildcardResourceId sinkFilter

def determineType (up : UpRust) (sourceFilter : UUri) (sinkFilter : Option UUri) :
    Except UStatus RegistrationType :=
  match sinkFilter with
  | some sinkFilter =>
    if streamerUseCase up sourceFilter sinkFilter then .ok .allPointToPoint
    else if sinkFilter.resourceId = 0 then .ok .response
    else .ok .request
  | none => .ok .publish

/-- Every pair of filters has a type. -/
theorem determineType_ok (up : UpRust) (sourceFilter : UUri) (sinkFilter : Option UUri) :
    ∃ type, determineType up sourceFilter sinkFilter = .ok type := by
  unfold determineType
  split
  · split
    · exact ⟨_, rfl⟩
    · split <;> exact ⟨_, rfl⟩
  · exact ⟨_, rfl⟩

/-- Only a registration without a sink filter is for published messages. -/
theorem determineType_publish {up : UpRust} {sourceFilter : UUri} {sinkFilter : Option UUri} :
    determineType up sourceFilter sinkFilter = .ok .publish ↔ sinkFilter = none := by
  unfold determineType
  split
  · split
    · simp
    · split <;> simp
  · simp

/-- Only filters with a sink are for point-to-point messages, and only in the
streamer's use case. -/
theorem determineType_allPointToPoint {up : UpRust} {sourceFilter : UUri} {sinkFilter : Option UUri} :
    determineType up sourceFilter sinkFilter = .ok .allPointToPoint ↔
      ∃ sink, sinkFilter = some sink ∧ streamerUseCase up sourceFilter sink = true := by
  unfold determineType
  split
  · next sink =>
    split
    · next hs => simp [hs]
    · next hs => split <;> simp [hs]
  · simp

/-- Nothing in the streamer's use case depends on which filter is which. -/
theorem streamerUseCase_comm (up : UpRust) (sourceFilter sinkFilter : UUri) :
    streamerUseCase up sourceFilter sinkFilter = streamerUseCase up sinkFilter sourceFilter := by
  simp only [streamerUseCase]
  ac_rfl

/-- The source and sink of a valid request are filters for a request. -/
theorem determineType_request {up : UpRust} (hw : up.Wildcards) (hchecks : up.ChecksRequests) {a : UAttributes}
    (hv : up.validate a = .ok ()) (ht : a.type.enumValueOr .unspecified = .request) :
    ∃ source sink, a.source = some source ∧ a.sink = some sink ∧ determineType up source a.sink = .ok .request := by
  obtain ⟨source, sink, hs, hk, -, hpos, hlt⟩ := hchecks a hv ht
  refine ⟨source, sink, hs, hk, ?_⟩
  have hwild : up.hasWildcardResourceId sink = false := by
    rw [← Bool.not_eq_true, hw.resourceId]
    intro he
    rw [he] at hlt
    exact absurd hlt (by decide)
  have hzero : sink.resourceId ≠ 0 := fun he => by simp [he] at hpos
  have hstreamer : streamerUseCase up source sink = false := by simp [streamerUseCase, hwild]
  simp only [determineType, hk, hstreamer, Bool.false_eq_true, if_false, if_neg hzero]

end VsomeipTransport
