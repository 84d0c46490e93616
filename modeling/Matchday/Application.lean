import Matchday.Concurrent.Timeline
import Matchday.Settings

/-!
The application: the shared state over given stores, with the two providers' geocoders as the
settings say, and the two workers. Without a key the second geocoder cannot answer, which is logged.
-/

namespace Matchday.Application
set_option autoImplicit false

/-- What is logged when the application is built. -/
def buildEntries (s : Settings) : List LogEntry :=
  if s.yandexKey.isNone then [.fallbackDisabled] else []

/-- The application before its workers begin. -/
def build (s : Settings) (calendar : Instant) (events : EventStore) (payments : PaymentStore) :
    Machine :=
  let geocoders : Geocoders := ⟨.nominatim s.nominatimUrl [], .yandex s.yandexUrl s.yandexKey []⟩
  (Machine.create (.create calendar events payments geocoders s.settlementDelay)).record
    (buildEntries s)

/-- Lets the workers begin: the application and their crew. -/
def start (s : Settings) (m : Machine) : Machine × Crew :=
  m.startWorkers s.sweepPeriod s.consumerPeriod

/-- Stops the workers, and then the settling in the given way. -/
def shutdown (m : Machine) (crew : Crew) (mode : ShutdownMode) : Machine :=
  (m.perform (.close crew (some mode))).1

end Matchday.Application
