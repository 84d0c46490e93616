import Matchday.Backend

/-!
Members joining and leaving an event. The membership is loaded, changed and written back; a write
that comes too late is tried again from the start, three times in all. A change is done at once by
`Backend.subscribe`, or step by step by `Subscription.step`.
-/

namespace Matchday
set_option autoImplicit false

/-- Why a member cannot join or leave. -/
inductive SubscribeError where
  | eventNotFound (event : EventId)
  | membership (cause : MembershipError)
  | conflict (event : EventId)
  | store (cause : EventStoreError)
deriving DecidableEq

/-- The wording of each cause. -/
def SubscribeError.message : SubscribeError → String
  | eventNotFound event => "event " ++ event.toText ++ " not found"
  | membership e => e.message
  | conflict event => "membership of event " ++ event.toText ++ " kept changing, giving up"
  | store e => e.message

/-- How often a change is tried. -/
def maxAttempts : Nat := 3

/-- Someone who wants to join an event, or to leave it. -/
structure Wish where
  event : EventId
  member : MemberId
  joins : Bool
deriving DecidableEq

/-- The outcome of a wish: the membership as it was written. -/
abbrev SubscribeResult := Except SubscribeError Membership

/-- A membership as it was loaded. -/
abbrev LoadedMembership := Except EventStoreError (Option Membership)

/-- What a membership becomes by a wish, or why not. -/
def Wish.updated (w : Wish) : LoadedMembership → SubscribeResult
  | .error e => .error (.store e)
  | .ok none => .error (.eventNotFound w.event)
  | .ok (some m) => (m.change w.member w.joins).mapError .membership

/-- A membership in the version that it is written at. -/
def Membership.written (m : Membership) : Membership := { m with version := m.version + 1 }

namespace Backend

/-- The stored membership of an event. -/
def loadMembership (b : Backend) (event : EventId) : LoadedMembership × Backend :=
  let (answer, events) := b.events.loadMembership event
  (answer, { b with events })

/-- Changes a loaded membership and writes it back: the outcome, or nothing if somebody else wrote
in between. -/
def writeBack (b : Backend) (w : Wish) (attempt : Nat) (loaded : LoadedMembership) :
    Option SubscribeResult × Backend :=
  match w.updated loaded with
  | .error e => (some (.error e), b)
  | .ok m =>
    match b.events.persistMembership m with
    | (.error e, events) => (some (.error (.store e)), { b with events })
    | (.ok true, events) => (some (.ok m.written), { b with events })
    | (.ok false, events) => (none, { b with events }.record [.membershipChanged w.event attempt])

/-- Tries a wish from one attempt on, so many times. -/
def attempts (b : Backend) (w : Wish) (attempt : Nat) : Nat → SubscribeResult × Backend
  | 0 => (.error (.conflict w.event), b)
  | left + 1 =>
    let (loaded, b) := b.loadMembership w.event
    match b.writeBack w attempt loaded with
    | (some result, b) => (result, b)
    | (none, b) => b.attempts w (attempt + 1) left

/-- Lets a member join an event or leave it. -/
def subscribe (b : Backend) (w : Wish) : SubscribeResult × Backend := b.attempts w 1 maxAttempts

end Backend

/-! ## Step by step -/

/-- How far a wish has come: waiting to begin, about to load for an attempt, holding what was loaded
until it is delivered, or done. -/
inductive Subscription where
  | waiting (timer : Timer)
  | loading (attempt : Nat)
  | loaded (attempt : Nat) (answer : LoadedMembership) (timer : Timer)
  | finished (result : SubscribeResult)

namespace Subscription

/-- What a wish waits for. -/
def timer? : Subscription → Option Timer
  | waiting timer | loaded _ _ timer => some timer
  | loading _ | finished _ => none

/-- The outcome of a wish that is done. -/
def result? : Subscription → Option SubscribeResult
  | finished result => some result
  | _ => none

/-- How long a load takes that should take so many milliseconds: one that fails does so at once. -/
def loadTime (lag : Nat) : LoadedMembership → Nat
  | .ok _ => lag
  | .error _ => 0

/-- The next step of a wish, when loading takes so many milliseconds. -/
def step (b : Backend) (w : Wish) (lag : Nat) : Subscription → Subscription × Backend
  | waiting _ => (loading 1, b)
  | loading attempt =>
    let (answer, b) := b.loadMembership w.event
    (loaded attempt answer (.after b.now (loadTime lag answer)), b)
  | loaded attempt answer _ =>
    match b.writeBack w attempt answer with
    | (some result, b) => (finished result, b)
    | (none, b) =>
      if attempt < maxAttempts then (loading (attempt + 1), b)
      else (finished (.error (.conflict w.event)), b)
  | finished result => (finished result, b)

end Subscription

end Matchday
