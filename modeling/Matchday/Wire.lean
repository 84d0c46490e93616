import Matchday.Event
import Matchday.Json.Printer
import Matchday.Json.Reader
import Matchday.Json.Real
import Matchday.Json.Record
import Matchday.Membership
import Matchday.Payment

/-!
The JSON forms in which identifiers, statuses, points, payments, memberships and locations travel.
Encoding writes the fields in their order; decoding takes what `Json.fields?` takes.
-/

namespace Matchday
set_option autoImplicit false

/-! ## Encoding -/

/-- An identifier is its written form. -/
def Id.toJson {e : Entity} (id : Id e) : Json := .ofText id.toText

/-- A status is its name. -/
def PaymentStatus.toJson (s : PaymentStatus) : Json := .ofText s.name

/-- A value that may be absent is null then. -/
def Json.ofOption {α : Type} (encode : α → Json) : Option α → Json
  | none => .null
  | some v => encode v

/-- A point. -/
def Coordinates.toJson (c : Coordinates) : Json :=
  .record [("latitude", .ofReal c.latitude), ("longitude", .ofReal c.longitude)]

/-- An instant is its text. -/
def Instant.toJson (t : Instant) : Json := .ofText (String.ofList t.render)

/-- A location. -/
def EventLocation.toJson (l : EventLocation) : Json :=
  .record [
    ("id", l.id.toJson),
    ("address", .ofText l.address),
    ("latitude", .ofOption .ofReal l.latitude),
    ("longitude", .ofOption .ofReal l.longitude),
    ("coordinates_recheck_after", l.recheckAfter.toJson)]

/-- A membership. -/
def Membership.toJson (m : Membership) : Json :=
  .record [
    ("event_id", m.event.toJson),
    ("capacity", .ofOption (fun c => .ofInt c.toInt) m.capacity),
    ("busy", .ofInt m.busy.toInt),
    ("participant_ids", .array (m.participants.map Id.toJson)),
    ("version", .ofInt m.version.toInt)]

/-- A payment. -/
def Payment.toJson (p : Payment) : Json :=
  .record [
    ("id", p.id.toJson),
    ("event_id", p.event.toJson),
    ("user_id", p.member.toJson),
    ("status", p.status.toJson),
    ("amount", .ofInt p.amount.toInt),
    ("confirmation_url", .ofOption .ofText p.confirmationUrl)]

/-! ## Decoding -/

/-- An identifier in any of its accepted forms. -/
def Id.ofJson? {e : Entity} (v : Json) : Option (Id e) := v.text?.bind Id.read?

/-- A status by its name. -/
def PaymentStatus.ofJson? : Json → Option PaymentStatus := Json.choice? PaymentStatus.ofName?

/-- A point; its range is not checked. -/
def Coordinates.ofJson? (v : Json) : Option Coordinates := do
  match ← Json.fields? [.must "latitude", .must "longitude"] v with
  | [some latitude, some longitude] => some ⟨← latitude.real?, ← longitude.real?⟩
  | _ => none

/-- An instant from its text. -/
def Instant.ofJson? (v : Json) : Option Instant := v.text?.bind fun s => Instant.read? s.toList

/-- A location. -/
def EventLocation.ofJson? (v : Json) : Option EventLocation := do
  match ← Json.fields? [.must "id", .must "address", .may "latitude", .may "longitude",
      .must "coordinates_recheck_after"] v with
  | [some id, some address, latitude, longitude, some recheck] =>
    some ⟨← Id.ofJson? id, ← address.text?, ← Json.nullable? Json.real? latitude,
      ← Json.nullable? Json.real? longitude, ← Instant.ofJson? recheck⟩
  | _ => none

/-- A 32-bit integer. -/
def Json.int32? (v : Json) : Option Int32 :=
  (v.intBetween? Int32.minValue.toInt Int32.maxValue.toInt).map Int32.ofInt

/-- A 64-bit integer. -/
def Json.int64? (v : Json) : Option Int64 :=
  (v.intBetween? Int64.minValue.toInt Int64.maxValue.toInt).map Int64.ofInt

/-- A membership. -/
def Membership.ofJson? (v : Json) : Option Membership := do
  match ← Json.fields? [.must "event_id", .may "capacity", .must "busy", .must "participant_ids",
      .must "version"] v with
  | [some event, capacity, some busy, some participants, some version] =>
    some ⟨← Id.ofJson? event, ← Json.nullable? Json.int32? capacity, ← busy.int32?,
      ← Json.listOf? Id.ofJson? participants, ← version.int64?⟩
  | _ => none

/-- A payment. -/
def Payment.ofJson? (v : Json) : Option Payment := do
  match ← Json.fields? [.must "id", .must "event_id", .must "user_id", .must "status",
      .must "amount", .may "confirmation_url"] v with
  | [some id, some event, some member, some status, some amount, url] =>
    some ⟨← Id.ofJson? id, ← Id.ofJson? event, ← Id.ofJson? member,
      ← PaymentStatus.ofJson? status, ← amount.int64?, ← Json.nullable? Json.text? url⟩
  | _ => none

end Matchday
