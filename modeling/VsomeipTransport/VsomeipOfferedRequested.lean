/-
`storage/vsomeip_offered_requested.rs`: which services and events the
transport has already offered to or requested from vsomeip.
-/
import Mathlib.Data.Finset.Insert
import Mathlib.Data.Finset.Prod
import VsomeipTransport.Utils

namespace VsomeipTransport

/-- The four sets are of one kind: (service, instance, method or event). -/
abbrev ServiceTriples := Finset (ServiceId × InstanceId × MethodId)

namespace ServiceTriples

def contains (s : ServiceTriples) (triple : ServiceId × InstanceId × MethodId) : Bool := decide (triple ∈ s)

/-- `HashSet::insert`: whether the triple is new, and the set with it. -/
def add (s : ServiceTriples) (triple : ServiceId × InstanceId × MethodId) : Bool × ServiceTriples :=
  (!s.contains triple, insert triple s)

end ServiceTriples

structure InMemoryVsomeipOfferedRequestedRegistry where
  offeredServices : ServiceTriples
  requestedServices : ServiceTriples
  offeredEvents : ServiceTriples
  requestedEvents : ServiceTriples

namespace InMemoryVsomeipOfferedRequestedRegistry

def new : InMemoryVsomeipOfferedRequestedRegistry := ⟨∅, ∅, ∅, ∅⟩

variable (r : InMemoryVsomeipOfferedRequestedRegistry) (service : ServiceId) (instanceId : InstanceId)

def isServiceOffered (method : MethodId) : Bool := r.offeredServices.contains (service, instanceId, method)

def isServiceRequested (method : MethodId) : Bool := r.requestedServices.contains (service, instanceId, method)

def isEventOffered (event : EventId) : Bool := r.offeredEvents.contains (service, instanceId, event)

def isEventRequested (event : EventId) : Bool := r.requestedEvents.contains (service, instanceId, event)

def insertServiceOffered (method : MethodId) : Bool × InMemoryVsomeipOfferedRequestedRegistry :=
  let (isNew, set) := r.offeredServices.add (service, instanceId, method)
  (isNew, { r with offeredServices := set })

def insertServiceRequested (method : MethodId) : Bool × InMemoryVsomeipOfferedRequestedRegistry :=
  let (isNew, set) := r.requestedServices.add (service, instanceId, method)
  (isNew, { r with requestedServices := set })

def insertEventOffered (event : EventId) : Bool × InMemoryVsomeipOfferedRequestedRegistry :=
  let (isNew, set) := r.offeredEvents.add (service, instanceId, event)
  (isNew, { r with offeredEvents := set })

def insertEventRequested (event : EventId) : Bool × InMemoryVsomeipOfferedRequestedRegistry :=
  let (isNew, set) := r.requestedEvents.add (service, instanceId, event)
  (isNew, { r with requestedEvents := set })

end InMemoryVsomeipOfferedRequestedRegistry

end VsomeipTransport
