import Matchday.Address
import Matchday.Geocoding.Caller
import Matchday.Text.Percent

/-!
What is asked of a provider. The address goes into the query percent-encoded, so that nothing in it
can end its field or begin another one.
-/

namespace Matchday
set_option autoImplicit false

/-- A request as it is sent. -/
structure Request where
  method : String
  url : String
  userAgent : String
deriving DecidableEq, Repr

/-- A row of fields as the query of a URL. -/
def queryText : List (String × String) → String
  | [] => ""
  | [(k, v)] => k ++ "=" ++ v
  | (k, v) :: f :: fs => k ++ "=" ++ v ++ "&" ++ queryText (f :: fs)

namespace Nominatim

/-- The server asked unless another one is configured. -/
def defaultUrl : String := "https://nominatim.openstreetmap.org"

/-- A server's address without slashes at its end. -/
def baseUrl (url : String) : String :=
  String.ofList (url.toList.reverse.dropWhile (· = '/')).reverse

/-- The fields of a search. -/
def query (searched : String) : List (String × String) := [
  ("q", Text.Percent.encode searched), ("limit", "1"), ("accept-language", "ru-RU"),
  ("countrycodes", "RU"), ("format", "jsonv2")]

/-- The URL of a search for an address, which is brought into search form. -/
def url (server address : String) : String :=
  baseUrl server ++ "/search?" ++ queryText (query (Address.searchForm address))

end Nominatim

namespace Yandex

/-- The server asked unless another one is configured. -/
def defaultUrl : String := "https://geocode-maps.yandex.ru/1.x"

/-- The fields of a search, which prefers results near the middle of Moscow. -/
def query (key address : String) : List (String × String) := [
  ("apikey", Text.Percent.encode key), ("geocode", Text.Percent.encode address),
  ("lang", "ru_RU"), ("format", "json"), ("rspn", "1"), ("ll", "37.623150,55.752508"),
  ("spn", "6,6")]

/-- The URL of a search for an address, which is taken as it is. -/
def url (server key address : String) : String := server ++ "?" ++ queryText (query key address)

end Yandex

/-- The request that fetches a URL. -/
def Request.get (url : String) (caller : Caller) : Request := ⟨"GET", url, caller.userAgent⟩

/-- The path and query of a URL whose server part is known; an empty path is a slash. -/
def Request.target (server : String) (r : Request) : String :=
  let rest := r.url.toList.drop server.toList.length
  String.ofList (if rest.head? = some '/' then rest else '/' :: rest)

end Matchday
