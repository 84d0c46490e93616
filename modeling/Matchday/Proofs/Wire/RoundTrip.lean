import Matchday.Proofs.Json.Brief
import Matchday.Proofs.Json.Records
import Matchday.Proofs.Wire.Identifiers
import Matchday.Proofs.Wire.Instants

/-!
The JSON forms give back what they were made from. A value that is written is read again, and a text that is
read, in whatever form it came, is written in the one form that its value has. Of the numbers of a point this
needs that their own text is read as they were written, which the steps of reading do not grant to every
number; whatever is read is finite.

Main statement: `wire_round_trips`.
-/

namespace Matchday
set_option autoImplicit false

variable {α : Type}

/-! ## Formats -/

namespace Json

/-- The value of a text. -/
def decode? (ofJson? : Json → Option α) (text : String) : Option α := (read? text).bind ofJson?

/-- The text that is written for the value of a text. -/
def recode? (toJson : α → Json) (ofJson? : Json → Option α) (text : String) : Option String :=
  (decode? ofJson? text).map fun v => (toJson v).toText

/-- A format whose encoder and decoder agree: on the values that fit it, and on the texts of the values that
are regular. -/
structure RoundTrips (toJson : α → Json) (ofJson? : Json → Option α) (fits regular : α → Prop) : Prop where
  /-- A value is read from its text. -/
  back : ∀ v, fits v → decode? ofJson? (toJson v).toText = some v
  /-- A text that is read is written so that it is read as the same value and written the same way. -/
  again : ∀ text v, decode? ofJson? text = some v → regular v →
    ∃ canonical, recode? toJson ofJson? text = some canonical ∧
      decode? ofJson? canonical = some v ∧ recode? toJson ofJson? canonical = some canonical
  /-- Of the texts of a value exactly one is written as it stands. -/
  canonical : ∀ v, fits v → ∃! text, decode? ofJson? text = some v ∧
    recode? toJson ofJson? text = some text

variable {toJson : α → Json} {ofJson? : Json → Option α} {fits regular : α → Prop} {v : α}

theorem decode?_toText (h : (toJson v).Plain) : decode? ofJson? (toJson v).toText = ofJson? (toJson v) := by
  rw [decode?, read?_toText h, Option.bind_some]

theorem recode?_of_decode? {text : String} (h : decode? ofJson? text = some v) :
    recode? toJson ofJson? text = some (toJson v).toText := by
  rw [recode?, h, Option.map_some]

/-- It is enough that what is written is read, and that a regular value which is read fits. -/
theorem RoundTrips.of_back (back : ∀ v, fits v → decode? ofJson? (toJson v).toText = some v)
    (accepted : ∀ text v, decode? ofJson? text = some v → regular v → fits v) :
    RoundTrips toJson ofJson? fits regular where
  back := back
  again := fun text v htext hregular => by
    have hback := back v (accepted text v htext hregular)
    exact ⟨(toJson v).toText, recode?_of_decode? htext, hback, recode?_of_decode? hback⟩
  canonical := fun v hfits => by
    have hback := back v hfits
    refine ⟨(toJson v).toText, ⟨hback, recode?_of_decode? hback⟩, ?_⟩
    rintro text ⟨htext, hsame⟩
    exact Option.some.inj (hsame.symm.trans (recode?_of_decode? htext))

theorem RoundTrips.of_forall (plain : ∀ v, (toJson v).Plain) (h : ∀ v, ofJson? (toJson v) = some v) :
    RoundTrips toJson ofJson? (fun _ => True) fun _ => True :=
  .of_back (fun v _ => (decode?_toText (plain v)).trans (h v)) fun _ _ _ _ => trivial

end Json

/-! ## Single values -/

theorem Id.ofJson?_toJson {e : Entity} (id : Id e) : Id.ofJson? id.toJson = some id := id.read?_toText

theorem PaymentStatus.ofJson?_toJson (s : PaymentStatus) : PaymentStatus.ofJson? s.toJson = some s := by
  cases s <;> decide

theorem Instant.ofJson?_toJson {t : Instant} (h : 0 ≤ t.date.year ∧ t.date.year ≤ 9999) :
    Instant.ofJson? t.toJson = some t := by
  rw [Instant.ofJson?, Instant.toJson, Json.ofText, Json.text?, Option.bind_some, String.toList_ofList,
    Instant.read?_render t h]

/-! ## Payments and memberships -/

theorem Payment.plain_toJson (p : Payment) : p.toJson.Plain := by
  refine Json.plain_record ?_
  simp only [List.forall_mem_cons, List.not_mem_nil, false_imp_iff, implies_true, and_true]
  exact ⟨.string _, .string _, .string _, .string _, Json.plain_ofInt _, Json.plain_ofOption .string _⟩

theorem Payment.ofJson?_toJson (p : Payment) : Payment.ofJson? p.toJson = some p := by
  have hurl : Json.nullable? Json.text? (some (.ofOption .ofText p.confirmationUrl))
      = some p.confirmationUrl :=
    Json.nullable?_ofOption (fun _ _ => nofun) fun _ _ => rfl
  rw [Payment.ofJson?, Payment.toJson, Json.fields?_record (by decide) rfl]
  simp [Id.ofJson?_toJson, PaymentStatus.ofJson?_toJson, Json.int64?_ofInt, hurl]

theorem Membership.plain_toJson (m : Membership) : m.toJson.Plain := by
  refine Json.plain_record ?_
  simp only [List.forall_mem_cons, List.not_mem_nil, false_imp_iff, implies_true, and_true]
  refine ⟨.string _, Json.plain_ofOption (fun _ => Json.plain_ofInt _) _, Json.plain_ofInt _,
    .array (List.forall_mem_map.2 fun _ _ => .string _), Json.plain_ofInt _⟩

theorem Membership.ofJson?_toJson (m : Membership) : Membership.ofJson? m.toJson = some m := by
  have hcapacity : Json.nullable? Json.int32? (some (.ofOption (fun c : Int32 => .ofInt c.toInt) m.capacity))
      = some m.capacity :=
    Json.nullable?_ofOption (fun _ _ => nofun) fun c _ => Json.int32?_ofInt c
  have hparticipants : Json.listOf? Id.ofJson? (.array (m.participants.map Id.toJson))
      = some m.participants :=
    Json.mapM_map_of_inverse fun id _ => id.ofJson?_toJson
  rw [Membership.ofJson?, Membership.toJson, Json.fields?_record (by decide) rfl]
  simp [Id.ofJson?_toJson, Json.int32?_ofInt, Json.int64?_ofInt, hcapacity, hparticipants]

/-! ## Locations -/

namespace EventLocation

/-- Whether the year of the next look is written with four digits. -/
def InYears (l : EventLocation) : Prop := 0 ≤ l.recheckAfter.date.year ∧ l.recheckAfter.date.year ≤ 9999

/-- Whether the numbers of the point that are known are of some kind. -/
def Numbers (kind : Binary64 → Prop) (l : EventLocation) : Prop :=
  (∀ x ∈ l.latitude, kind x) ∧ ∀ x ∈ l.longitude, kind x

theorem plain_toJson (l : EventLocation) : l.toJson.Plain := by
  refine Json.plain_record ?_
  simp only [List.forall_mem_cons, List.not_mem_nil, false_imp_iff, implies_true, and_true]
  exact ⟨.string _, .string _, Json.plain_ofOption Json.plain_ofReal _,
    Json.plain_ofOption Json.plain_ofReal _, .string _⟩

theorem ofReal_ne_null {x : Binary64} (h : x.isFinite = true) : Json.ofReal x ≠ .null := by
  cases x with
  | finite x => exact nofun
  | _ => cases h

theorem ofJson?_toJson {l : EventLocation} (years : l.InYears)
    (numbers : l.Numbers fun x => x.isFinite = true ∧ (Json.ofReal x).real? = some x) :
    EventLocation.ofJson? l.toJson = some l := by
  have hlatitude : Json.nullable? Json.real? (some (.ofOption .ofReal l.latitude)) = some l.latitude :=
    Json.nullable?_ofOption (fun x hx => ofReal_ne_null (numbers.1 x hx).1) fun x hx => (numbers.1 x hx).2
  have hlongitude : Json.nullable? Json.real? (some (.ofOption .ofReal l.longitude)) = some l.longitude :=
    Json.nullable?_ofOption (fun x hx => ofReal_ne_null (numbers.2 x hx).1) fun x hx => (numbers.2 x hx).2
  rw [EventLocation.ofJson?, EventLocation.toJson, Json.fields?_record (by decide) rfl]
  simp [Id.ofJson?_toJson, Instant.ofJson?_toJson years, Json.ofText, Json.text?, hlatitude, hlongitude]

theorem isFinite_of_nullable? {given : Option Json} {o : Option Binary64}
    (h : Json.nullable? Json.real? given = some o) : ∀ x ∈ o, x.isFinite = true := by
  rintro x ⟨⟩
  unfold Json.nullable? at h
  split at h
  · cases h
  · cases h
  · obtain ⟨y, hy, hsame⟩ := Option.map_eq_some_iff.1 h
    cases hsame
    exact Json.real?_isFinite hy

/-- The numbers of a location that is read are finite. -/
theorem isFinite_of_ofJson? {v : Json} {l : EventLocation} (h : EventLocation.ofJson? v = some l) :
    l.Numbers fun x => x.isFinite = true := by
  unfold EventLocation.ofJson? at h
  simp only [Option.bind_eq_bind, Option.bind_eq_some_iff] at h
  obtain ⟨fields, -, h⟩ := h
  split at h
  · simp only [Option.bind_eq_some_iff, Option.some.injEq] at h
    obtain ⟨id, -, address, -, latitude, hlatitude, longitude, hlongitude, recheck, -, rfl⟩ := h
    exact ⟨isFinite_of_nullable? hlatitude, isFinite_of_nullable? hlongitude⟩
  · cases h

end EventLocation

/-! ## Round trips -/

/-- Every form that travels gives back what it was made from. The numbers of a point are such that their own
texts are read as they were written. -/
theorem wire_round_trips {faithful : Binary64 → Prop} (reads : ∀ x, x.isFinite = true → faithful x →
      Json.decode? Json.real? (Json.ofReal x).toText = some x) :
    (∀ e, Json.RoundTrips (Id.toJson : Id e → Json) Id.ofJson? (fun _ => True) fun _ => True) ∧
    Json.RoundTrips PaymentStatus.toJson PaymentStatus.ofJson? (fun _ => True) (fun _ => True) ∧
    Json.RoundTrips Payment.toJson Payment.ofJson? (fun _ => True) (fun _ => True) ∧
    Json.RoundTrips Membership.toJson Membership.ofJson? (fun _ => True) (fun _ => True) ∧
    Json.RoundTrips EventLocation.toJson EventLocation.ofJson?
      (fun l => l.InYears ∧ l.Numbers fun x => x.isFinite = true ∧ faithful x)
      fun l => l.InYears ∧ l.Numbers faithful := by
  refine ⟨fun e => .of_forall (fun _ => .string _) Id.ofJson?_toJson,
    .of_forall (fun _ => .string _) PaymentStatus.ofJson?_toJson,
    .of_forall Payment.plain_toJson Payment.ofJson?_toJson,
    .of_forall Membership.plain_toJson Membership.ofJson?_toJson,
    .of_back (fun l hl => ?back) fun text l htext hl => ?accepted⟩
  case back =>
    have hreads : ∀ x, x.isFinite = true ∧ faithful x →
        x.isFinite = true ∧ (Json.ofReal x).real? = some x := by
      rintro x ⟨hfinite, hfaithful⟩
      have htext := reads x hfinite hfaithful
      rw [Json.decode?_toText (Json.plain_ofReal x)] at htext
      exact ⟨hfinite, htext⟩
    rw [Json.decode?_toText l.plain_toJson]
    exact EventLocation.ofJson?_toJson hl.1
      ⟨fun x hx => hreads x (hl.2.1 x hx), fun x hx => hreads x (hl.2.2 x hx)⟩
  case accepted =>
    obtain ⟨v, -, hv⟩ := Option.bind_eq_some_iff.1 htext
    have hfinite := EventLocation.isFinite_of_ofJson? hv
    exact ⟨hl.1, fun x hx => ⟨hfinite.1 x hx, hl.2.1 x hx⟩, fun x hx => ⟨hfinite.2 x hx, hl.2.2 x hx⟩⟩

/-! ### A location with a point that is half known -/

/-- A stage with its latitude. -/
def stage : EventLocation where
  id := .repeated 0xab
  address := "The \"Small\" Stage, 7"
  latitude := some (.finite ⟨false, 7846114975809536, 1027, by decide⟩)
  longitude := none
  recheckAfter := ⟨⟨2024, 2, 29, by decide⟩, 1380, 30, 500000000, by decide⟩

/-- The stage in another order, with another member, without the longitude and in another time zone. -/
def stageText : String :=
  " \x7b\"seats\": [120], \"coordinates_recheck_after\": \"2024-03-01T02:00:30.50+03:00\",
    \"latitude\": 5575e-2, \"address\": \"The \\u0022Small\\u0022 Stage, 7\",
    \"id\": \"URN:UUID:ABABABAB-abab-ABAB-abab-ABABABABABAB\"\x7d"

/-- The latitude has few digits, so that its text is read as it was written. -/
theorem wire_round_trips_stage :
    Json.decode? EventLocation.ofJson? stage.toJson.toText = some stage ∧
    ∃ canonical, Json.recode? EventLocation.toJson EventLocation.ofJson? stageText = some canonical ∧
      Json.decode? EventLocation.ofJson? canonical = some stage ∧
      Json.recode? EventLocation.toJson EventLocation.ofJson? canonical = some canonical := by
  have years : stage.InYears := ⟨by decide, by decide⟩
  have latitude : Json.Brief (.finite ⟨false, 7846114975809536, 1027, by decide⟩) :=
    ⟨_, rfl, by decide +kernel⟩
  have point : stage.Numbers Json.Brief := ⟨by rintro x ⟨⟩; exact latitude, nofun⟩
  have finite : stage.Numbers fun x => x.isFinite = true ∧ Json.Brief x :=
    ⟨by rintro x ⟨⟩; exact ⟨rfl, latitude⟩, nofun⟩
  have reads : ∀ x, x.isFinite = true → Json.Brief x →
      Json.decode? Json.real? (Json.ofReal x).toText = some x := fun x _ hbrief =>
    (Json.decode?_toText (Json.plain_ofReal x)).trans (Json.real?_ofReal hbrief)
  have accepted : Json.decode? EventLocation.ofJson? stageText = some stage := by decide +kernel
  have locations := (wire_round_trips reads).2.2.2.2
  exact ⟨locations.back stage ⟨years, finite⟩, locations.again stageText stage accepted ⟨years, point⟩⟩

end Matchday
