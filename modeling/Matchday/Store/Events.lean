import Matchday.Event
import Matchday.Membership
import Matchday.Store.Error

/-!
The store of events: their locations, memberships and paid members, in the order in which the events
were created. A deleted event is kept and no longer found. A membership is written back only if its
version is still the stored one, which the write raises by one. Successful writes of points are
recorded. A store whose connections are closed refuses every call.
-/

namespace Matchday
set_option autoImplicit false

/-- An event as it is stored. -/
structure StoredEvent where
  location : EventLocation
  membership : Membership
  paid : List MemberId
  endsAt : Option Instant
  deleted : Bool
deriving DecidableEq

namespace StoredEvent

/-- The identifier of the event. -/
def id (e : StoredEvent) : EventId := e.location.id

/-- Whether the event is over at some instant. -/
def hasEnded (e : StoredEvent) (now : Instant) : Bool := e.endsAt.any fun t => !now.before t

/-- Whether the event still needs its point on the map: it is neither deleted nor over, and a number
of the point is missing. -/
def isMissing (e : StoredEvent) (now : Instant) : Bool :=
  !e.deleted && !e.hasEnded now && e.location.needsCoordinates

/-- An event without participants, open to everyone. -/
def create (location : EventLocation) : StoredEvent :=
  ⟨location, ⟨location.id, none, 0, [], 0⟩, [], none, false⟩

/-- A member is recorded as paid, once. -/
def addPaid (e : StoredEvent) (who : MemberId) : StoredEvent :=
  if e.paid.contains who then e else { e with paid := e.paid ++ [who] }

end StoredEvent

/-- The store of events. `rivals` counts writers that will each raise the version of a membership
just before it is written. -/
structure EventStore where
  events : List StoredEvent
  writes : List (EventId × Coordinates)
  faults : Faults EventCall
  rivals : Nat
  isClosed : Bool

namespace EventStore

/-- A store without events. -/
def empty : EventStore := ⟨[], [], Faults.none, 0, false⟩

/-- A store whose connections are closed. -/
def closed : EventStore := { empty with isClosed := true }

/-- The event with an identifier, deleted or not. -/
def get? (s : EventStore) (id : EventId) : Option StoredEvent := s.events.find? fun e => e.id = id

/-- The event with an identifier, unless it is deleted. -/
def find? (s : EventStore) (id : EventId) : Option StoredEvent :=
  (s.get? id).filter fun e => !e.deleted

/-- Changes the event with an identifier; none is created. -/
def modify (s : EventStore) (id : EventId) (f : StoredEvent → StoredEvent) : EventStore :=
  { s with events := s.events.map fun e => if e.id = id then f e else e }

/-! ## Keeping events -/

/-- A new event, behind the others. -/
def insert (s : EventStore) (e : StoredEvent) : EventStore := { s with events := s.events ++ [e] }

/-- Limits an event's places, or lifts the limit. -/
def setCapacity (s : EventStore) (id : EventId) (capacity : Option Int32) : EventStore :=
  s.modify id fun e => { e with membership := { e.membership with capacity } }

/-- An event ends at some instant. -/
def endAt (s : EventStore) (id : EventId) (t : Instant) : EventStore :=
  s.modify id fun e => { e with endsAt := some t }

/-- An event is deleted. -/
def delete (s : EventStore) (id : EventId) : EventStore :=
  s.modify id fun e => { e with deleted := true }

/-- An event's point is not looked up before some instant. -/
def delayRecheck (s : EventStore) (id : EventId) (t : Instant) : EventStore :=
  s.modify id fun e => { e with location := { e.location with recheckAfter := t } }

/-- From now on so many calls of a kind fail. -/
def fail (s : EventStore) (c : EventCall) (n : Nat) : EventStore :=
  { s with faults := s.faults.set c n }

/-! ## Calls -/

/-- A call on behalf of an event: refused by a closed store, or failing because it was set up to;
otherwise it does its work. -/
def call {α : Type} (s : EventStore) (c : EventCall) (event : Option EventId)
    (work : EventStore → Except EventStoreError α × EventStore) :
    Except EventStoreError α × EventStore :=
  if s.isClosed then (.error (.unavailable c event), s)
  else if s.faults.pending c then (.error (.simulated c), { s with faults := s.faults.spend c })
  else work s

/-- The locations of the events that still need their point, in the order of creation. -/
def findMissing (s : EventStore) (now : Instant) :
    Except EventStoreError (List EventLocation) × EventStore :=
  s.call .findMissing none fun s =>
    (.ok ((s.events.filter (·.isMissing now)).map (·.location)), s)

/-- Writes the point of an event, deleted or not. -/
def setCoordinates (s : EventStore) (id : EventId) (c : Coordinates) :
    Except EventStoreError Unit × EventStore :=
  s.call .setCoordinates (some id) fun s =>
    if (s.get? id).isSome then
      (.ok (), { s.modify id fun e => { e with location := e.location.place c } with
        writes := s.writes ++ [(id, c)] })
    else (.error (.unknown id), s)

/-- The location of an event that is not deleted. -/
def findLocation (s : EventStore) (id : EventId) :
    Except EventStoreError (Option EventLocation) × EventStore :=
  s.call .findLocation (some id) fun s => (.ok ((s.find? id).map (·.location)), s)

/-- The membership of an event that is not deleted. -/
def loadMembership (s : EventStore) (id : EventId) :
    Except EventStoreError (Option Membership) × EventStore :=
  s.call .loadMembership (some id) fun s => (.ok ((s.find? id).map (·.membership)), s)

/-- Another writer gets in first, if one is left. -/
def yieldToRival (s : EventStore) (id : EventId) : EventStore :=
  if s.rivals = 0 then s
  else { s.modify id fun e =>
      { e with membership := { e.membership with version := e.membership.version + 1 } } with
    rivals := s.rivals - 1 }

/-- Writes a membership back if its version is still the stored one, and raises the version. The
answer says whether it was written. -/
def persistMembership (s : EventStore) (m : Membership) :
    Except EventStoreError Bool × EventStore :=
  s.call .persistMembership (some m.event) fun s =>
    if (s.find? m.event).isNone then (.ok false, s)
    else
      let s := s.yieldToRival m.event
      if (s.find? m.event).any fun e => e.membership.version = m.version then
        (.ok true, s.modify m.event fun e =>
          { e with membership := { m with version := m.version + 1 } })
      else (.ok false, s)

/-- Records a member as paid for an event, deleted or not. -/
def addPaid (s : EventStore) (id : EventId) (who : MemberId) :
    Except EventStoreError Unit × EventStore :=
  s.call .addPaid (some id) fun s =>
    if (s.get? id).isSome then (.ok (), s.modify id (·.addPaid who))
    else (.error (.unknown id), s)

/-! ## Views -/

/-- The membership of an event, deleted or not. -/
def membership? (s : EventStore) (id : EventId) : Option Membership :=
  (s.get? id).map (·.membership)

/-- The paid members of an event; an unknown event has none. -/
def paidMembers (s : EventStore) (id : EventId) : List MemberId :=
  ((s.get? id).map (·.paid)).getD []

end EventStore

end Matchday
