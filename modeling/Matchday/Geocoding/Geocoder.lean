import Matchday.Geocoding.Exchange
import Matchday.Geocoding.Request
import Matchday.Log

/-!
Geocoders: each answers from a script, or by asking the server of one of the two providers. A
geocoder records its calls and the requests that arrived at a server; its answers may take time. A
script that has come to its end gives no point, and a server about which nothing is known cannot be
reached.
-/

namespace Matchday
set_option autoImplicit false

/-- The outcome of a lookup at one geocoder. -/
abbrev Answer := Except GeocodeError Coordinates

/-- Where a geocoder's answers come from: a row of answers, or a server and what happens to the
coming requests. -/
inductive Source where
  | script (answers : List Answer)
  | nominatim (server : String) (exchanges : List Exchange)
  | yandex (server : String) (key : Option String) (exchanges : List Exchange)

/-- A request, if it arrives. -/
def Exchange.received (x : Exchange) (r : Request) : List Request := if x.arrived then [r] else []

/-- What happens to the next request. -/
def nextExchange (exchanges : List Exchange) : Exchange := exchanges.head?.getD .unreachable

namespace Source

/-- The answer to a call. -/
def answer : Source → Answer
  | script [] => .error .scriptEnded
  | script (a :: _) => a
  | nominatim _ exchanges => (nextExchange exchanges).result .nominatim
  | yandex _ none _ => .error .keyMissing
  | yandex _ (some _) exchanges => (nextExchange exchanges).result .yandex

/-- What is left after a call. -/
def next : Source → Source
  | script answers => script answers.tail
  | nominatim server exchanges => nominatim server exchanges.tail
  | yandex server none exchanges => yandex server none exchanges
  | yandex server (some key) exchanges => yandex server (some key) exchanges.tail

/-- The requests of a call that arrive at a server. -/
def requests (address : String) (caller : Caller) : Source → List Request
  | script _ => []
  | nominatim server exchanges =>
    (nextExchange exchanges).received (Request.get (Nominatim.url server address) caller)
  | yandex _ none _ => []
  | yandex server (some key) exchanges =>
    (nextExchange exchanges).received (Request.get (Yandex.url server key address) caller)

end Source

/-- Whether a failure comes from a provider's answer, and not from its absence. -/
def GeocodeError.isAboutAnswer : GeocodeError → Bool
  | otherForm _ | resultCount _ | noResults | position _ | coordinates _ => true
  | scripted _ | scriptEnded | keyMissing | unanswered _ | errorStatus _ | brokenOff _ => false

/-- A geocoder, with its calls and the requests that arrived, in order. Its answers come so many
milliseconds after the calls. -/
structure Geocoder where
  name : String
  source : Source
  latency : Nat
  calls : List (String × Caller)
  requests : List Request

namespace Geocoder

/-- A geocoder that answers from some source and was never called. -/
def ofSource (name : String) (source : Source) : Geocoder := ⟨name, source, 0, [], []⟩

/-- A geocoder that answers from a script. -/
def scripted (name : String) (answers : List Answer) : Geocoder := ofSource name (.script answers)

/-- The geocoder of the first provider. -/
def nominatim (server : String) (exchanges : List Exchange) : Geocoder :=
  ofSource Provider.nominatim.label (.nominatim server exchanges)

/-- The geocoder of the second provider, which needs a key. -/
def yandex (server : String) (key : Option String) (exchanges : List Exchange) : Geocoder :=
  ofSource Provider.yandex.label (.yandex server key exchanges)

/-- Adds answers to the end of a script. -/
def extend (g : Geocoder) (answers : List Answer) : Geocoder :=
  match g.source with
  | .script old => { g with source := .script (old ++ answers) }
  | _ => g

/-- From now on answers take so many milliseconds. -/
def delayBy (g : Geocoder) (latency : Nat) : Geocoder := { g with latency }

/-- The answer to a call. -/
def answer (g : Geocoder) : Answer := g.source.answer

/-- The geocoder after a call. -/
def called (g : Geocoder) (address : String) (caller : Caller) : Geocoder :=
  { g with
    source := g.source.next
    calls := g.calls ++ [(address, caller)]
    requests := g.requests ++ g.source.requests address caller }

/-- What is logged when an answer comes: the first provider reports an answer that gives no point.
-/
def remarks (g : Geocoder) (address : String) : Answer → List LogEntry
  | .ok _ => []
  | .error e =>
    match g.source with
    | .nominatim _ _ =>
      if e.isAboutAnswer then [.addressNotResolved (Address.searchForm address) e] else []
    | _ => []

end Geocoder

end Matchday
