import Matchday.Id

/-!
Who takes part in an event. A membership counts its participants and may limit them; changing it
gives a new membership and leaves the old one to its holder, with the version it was loaded at, so
that the change can be written back only if nobody wrote in between.
-/

namespace Matchday
set_option autoImplicit false

/-- The participants of an event and how many places they take. Without a capacity there is room for
everyone. -/
structure Membership where
  event : EventId
  capacity : Option Int32
  busy : Int32
  participants : List MemberId
  version : Int64
deriving DecidableEq

/-- Why a membership cannot be changed. -/
inductive MembershipError where
  | alreadyMember
  | atCapacity
  | notMember
deriving DecidableEq, Repr

/-- The wording of each cause. -/
def MembershipError.message : MembershipError → String
  | alreadyMember => "user is already subscribed to the event"
  | atCapacity => "all places in the event are taken"
  | notMember => "user is not subscribed to the event"

namespace Membership

/-- Whether someone takes part. -/
def isMember (m : Membership) (who : MemberId) : Bool := m.participants.contains who

/-- Whether every place is taken. -/
def isFull (m : Membership) : Bool := m.capacity.any fun c => c ≤ m.busy

/-- Other participants, counted anew. -/
def withParticipants (m : Membership) (participants : List MemberId) : Membership :=
  { m with participants, busy := Int32.ofNat participants.length }

/-- Takes someone in, at the end of the list. That they take part already is found before that there
is no room. -/
def subscribe (m : Membership) (who : MemberId) : Except MembershipError Membership :=
  if m.isMember who then .error .alreadyMember
  else if m.isFull then .error .atCapacity
  else .ok (m.withParticipants (m.participants ++ [who]))

/-- Lets someone go. -/
def unsubscribe (m : Membership) (who : MemberId) : Except MembershipError Membership :=
  if m.isMember who then .ok (m.withParticipants (m.participants.erase who))
  else .error .notMember

/-- A change in either direction. -/
def change (m : Membership) (who : MemberId) (wanted : Bool) : Except MembershipError Membership :=
  if wanted then m.subscribe who else m.unsubscribe who

/-- Several changes one after another, each to the latest membership; one that fails leaves it as it
is. -/
def changes (m : Membership) (list : List (MemberId × Bool)) : Membership :=
  list.foldl (fun m c => (m.change c.1 c.2).toOption.getD m) m

end Membership

end Matchday
