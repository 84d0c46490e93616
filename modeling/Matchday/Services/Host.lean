import Matchday.Log
import Matchday.Timer

/-!
A host of background services. All services begin together, in their order; each runs on its own
until it ends, whatever becomes of the others. Stopping the host signals all of them and returns
when the last has ended; what became of each is logged in the order in which they began.

A host (`Host`) goes on as things happen to its services, which may end in any order and in any way. For
services whose records say when they end, all of this is known at once (`RunningServices`).
-/

namespace Matchday
set_option autoImplicit false

/-! ## Services that end when their records say -/

/-- A service: whether it runs until the host is stopped, how many milliseconds it takes after that,
or after its beginning, to end, and how it ends. -/
structure Service where
  name : String
  awaitsSignal : Bool
  delay : Nat
  ending : Ending
deriving DecidableEq, Repr

/-- When a service ends that began at some time, if the signal came at another. -/
def Service.endsAt (s : Service) (start signal : Nat) : Nat :=
  (Timer.after (if s.awaitsSignal then max start signal else start) s.delay).due

/-- What is logged when services begin. -/
def startEntries (services : List Service) : List LogEntry :=
  services.map fun s => .serviceStarting s.name

/-- Services that have begun, and when; `signalledAt` is when they were told to stop. -/
structure RunningServices where
  services : List Service
  startedAt : Nat
  signalledAt : Option Nat
deriving DecidableEq, Repr

namespace RunningServices

/-- Lets services begin; the signal may have been given before. -/
def start (services : List Service) (now : Nat) (isSignalled : Bool) : RunningServices :=
  ⟨services, now, if isSignalled then some now else none⟩

/-- The number of services. -/
def length (r : RunningServices) : Nat := r.services.length

/-- Whether there is no service. -/
def isEmpty (r : RunningServices) : Bool := r.services.isEmpty

/-- Whether the services were told to stop. -/
def isSignalled (r : RunningServices) : Bool := r.signalledAt.isSome

/-- Tells the services to stop; a second signal changes nothing. -/
def signal (r : RunningServices) (now : Nat) : RunningServices :=
  { r with signalledAt := r.signalledAt.or (some now) }

/-- Whether a service has ended by some time. -/
def hasEnded (r : RunningServices) (now : Nat) (s : Service) : Bool :=
  match r.signalledAt with
  | none => !s.awaitsSignal && s.endsAt r.startedAt r.startedAt ≤ now
  | some signal => s.endsAt r.startedAt signal ≤ now

/-- What has become of each service by some time. -/
def outcomes (r : RunningServices) (now : Nat) : List (Option Ending) :=
  r.services.map fun s => if r.hasEnded now s then some s.ending else none

/-- The outcomes of services that have all ended. -/
def allOf : List (Option Ending) → Option (List Ending)
  | [] => some []
  | none :: _ => none
  | some e :: es => (allOf es).map (e :: ·)

/-- What is logged at some time about services that have all ended: each under its name. -/
def join? (r : RunningServices) (now : Nat) : Option (List LogEntry) :=
  (allOf (r.outcomes now)).map fun endings =>
    ((r.services.map Service.name).zip endings).map fun e => .serviceEnded e.1 e.2

/-- When the last of the services has ended, if they were told to stop at some time; not before the
present. -/
def lastEnd (r : RunningServices) (signal now : Nat) : Nat :=
  r.services.foldl (fun t s => max t (s.endsAt r.startedAt signal)) now

/-- Tells the services to stop and waits for all of them: when the last has ended, the services
then, and what is logged. -/
def stop (r : RunningServices) (now : Nat) : Nat × RunningServices × List LogEntry :=
  let r := r.signal now
  let last := r.lastEnd (r.signalledAt.getD now) now
  (last, r, (r.join? last).getD [])

end RunningServices

/-! ## Services that end in any order -/

/-- What happens around a host: time passes, a service ends, or the services are told to stop. -/
inductive HostEvent where
  | passed (milliseconds : Nat)
  | ended (service : Nat) (ending : Ending)
  | signalled
deriving DecidableEq

/-- Whether somebody waits for the services, or since when nobody does any more. -/
inductive HostStage where
  | unattended
  | awaited
  | returned (time : Nat)

/-- A host: the names of its services, when and how those ended that have, and what was logged. -/
structure Host where
  names : List String
  now : Nat
  isSignalled : Bool
  ends : List (Option (Nat × Ending))
  stage : HostStage
  log : List LogEntry

namespace Host

/-- Services that begin; the signal may have been given before. -/
def start (names : List String) (now : Nat) (isSignalled : Bool) : Host :=
  ⟨names, now, isSignalled, names.map fun _ => none, .unattended, names.map .serviceStarting⟩

/-- What is logged about services that have ended: each ending under its name. -/
def endEntries (names : List String) (endings : List Ending) : List LogEntry :=
  (names.zip endings).map fun e => .serviceEnded e.1 e.2

/-- Whoever waits looks whether all services have ended. -/
def attend (h : Host) : Host :=
  match h.stage, RunningServices.allOf (h.ends.map (Option.map Prod.snd)) with
  | .awaited, some endings =>
    { h with stage := .returned h.now, log := h.log ++ endEntries h.names endings }
  | _, _ => h

/-- A service that ends does so once. -/
def record (h : Host) (service : Nat) (ending : Ending) : Host :=
  { h with ends := h.ends.modify service fun e => e.or (some (h.now, ending)) }

/-- The host after one thing has happened. -/
def step (h : Host) : HostEvent → Host
  | .passed milliseconds => { h with now := h.now + milliseconds }
  | .ended service ending => (h.record service ending).attend
  | .signalled => { h with isSignalled := true }

/-- The host after a row of things have happened. -/
def run (h : Host) (events : List HostEvent) : Host := events.foldl step h

/-- Somebody begins to wait. -/
def await (h : Host) : Host := { h with stage := .awaited }

/-- Waits for the services. -/
def join (h : Host) : Host := h.await.attend

/-- Tells the services to stop and waits for them. -/
def stop (h : Host) : Host := (h.step .signalled).join

end Host

end Matchday
