import Matchday.Geocoding.Answer
import Matchday.Proofs.Json.Records
import Matchday.Proofs.Text.Words

/-!
What the two providers say in their own ways. One gives a point's latitude and longitude as fields of its only
result, in any order; the other gives both numbers in one text, the longitude first, with its best result. Where
they give the same numbers, both answers come to the same point, or are refused for the same reason.

Main statement: `answers_agree`.
-/

namespace Matchday
set_option autoImplicit false

variable {lat lon pos : String} {v w : Json}

/-! ## Nominatim -/

namespace Nominatim

/-- A list of one result, which gives a latitude and a longitude. -/
def Lists (lat lon : String) (v : Json) : Prop :=
  ∃ result, v = .array [result] ∧ Json.Gives [("lat", .ofText lat), ("lon", .ofText lon)] result

theorem results?_of_lists (h : Lists lat lon v) : results? v = some [(lat, lon)] := by
  obtain ⟨result, rfl, hgives⟩ := h
  have hresult : result? result = some (lat, lon) := by
    rw [result?, hgives.fields?_eq rfl]
    rfl
  rw [results?, Json.listOf?, List.mapM_cons, hresult]
  rfl

theorem answer_of_lists {body : String} (spells : Json.Spells body.toList (.value v)) (h : Lists lat lon v) :
    answer body = (Coordinates.read lat lon).mapError .coordinates := by
  rw [answer, spells.read?_eq, Option.bind_some, results?_of_lists h]
  rfl

end Nominatim

/-! ## Yandex -/

namespace Yandex

/-- A result with a position. -/
def Places (pos : String) (v : Json) : Prop :=
  ∃ object point, Json.Gives [("GeoObject", object)] v ∧ Json.Gives [("Point", point)] object ∧
    Json.Gives [("pos", .ofText pos)] point

/-- A list of results with positions, of which this is the first. -/
def Begins (pos : String) (v : Json) : Prop :=
  ∃ response collection first others, Json.Gives [("response", response)] v ∧
    Json.Gives [("GeoObjectCollection", collection)] response ∧
    Json.Gives [("featureMember", .array (first :: others))] collection ∧
    Places pos first ∧ ∀ other ∈ others, ∃ pos', Places pos' other

/-- The text of a position: a longitude, and a latitude behind at least one blank. -/
def Position (lat lon pos : String) : Prop :=
  ∃ before between behind : List Char, (∀ c ∈ before ++ between ++ behind, Text.isBlank c = true) ∧ between ≠ [] ∧
    pos.toList = before ++ (lon.toList ++ (between ++ (lat.toList ++ behind)))

theorem only?_of_gives {name : String} (h : Json.Gives [(name, w)] v) : only? name v = some w := by
  rw [only?, h.fields?_eq rfl]
  rfl

theorem result?_of_places (h : Places pos v) : result? v = some pos := by
  obtain ⟨object, point, hobject, hpoint, hpos⟩ := h
  simp only [result?, Option.bind_eq_bind, only?_of_gives hobject, only?_of_gives hpoint, only?_of_gives hpos,
    Option.bind_some]
  rfl

theorem results?_of_begins (h : Begins pos v) : ∃ others, results? v = some (pos :: others) := by
  obtain ⟨response, collection, first, others, hresponse, hcollection, hmembers, hfirst, hothers⟩ := h
  have hrest : ∃ positions, others.mapM result? = some positions := by
    clear hmembers
    induction others with
    | nil => exact ⟨[], rfl⟩
    | cons other others ih =>
      obtain ⟨⟨pos', hpos'⟩, hmore⟩ := List.forall_mem_cons.1 hothers
      obtain ⟨positions, hpositions⟩ := ih hmore
      refine ⟨pos' :: positions, ?_⟩
      rw [List.mapM_cons, result?_of_places hpos', hpositions]
      rfl
  obtain ⟨positions, hpositions⟩ := hrest
  have hlist : Json.listOf? result? (.array (first :: others)) = some (pos :: positions) := by
    rw [Json.listOf?, List.mapM_cons, result?_of_places hfirst, hpositions]
    rfl
  refine ⟨positions, ?_⟩
  simp only [results?, Option.bind_eq_bind, only?_of_gives hresponse, only?_of_gives hcollection,
    Option.bind_some]
  rw [collection?, hmembers.fields?_eq rfl]
  exact hlist

theorem words_of_position (hlat : Text.IsWord lat.toList) (hlon : Text.IsWord lon.toList)
    (h : Position lat lon pos) : Text.words pos.toList = [lon.toList, lat.toList] := by
  obtain ⟨before, between, behind, hblank, hne, hpos⟩ := h
  simp only [List.forall_mem_append] at hblank
  obtain ⟨⟨hbefore, hbetween⟩, hbehind⟩ := hblank
  rw [← Text.madeOf_iff, hpos]
  have hbehind' : behind.head?.all Text.isBlank = true := by
    cases behind with
    | nil => rfl
    | cons b behind => exact hbehind b List.mem_cons_self
  obtain ⟨b, between, rfl⟩ := List.exists_cons_of_ne_nil hne
  have hbetween' : (b :: between ++ (lat.toList ++ behind)).head?.all Text.isBlank = true :=
    hbetween b List.mem_cons_self
  exact .word before _ hbefore hlon hbetween' (.word (b :: between) _ hbetween hlat hbehind' (.blanks hbehind))

theorem answer_of_begins {body : String} (spells : Json.Spells body.toList (.value v)) (h : Begins pos v)
    (hlat : Text.IsWord lat.toList) (hlon : Text.IsWord lon.toList) (hpos : Position lat lon pos) :
    answer body = (Coordinates.read lat lon).mapError .coordinates := by
  obtain ⟨others, hresults⟩ := results?_of_begins h
  rw [answer, spells.read?_eq, Option.bind_some, hresults]
  show point pos = _
  simp only [point, words_of_position hlat hlon hpos, String.ofList_toList]

end Yandex

/-! ## Both -/

theorem Coordinates.degrees_of_read {c : Coordinates} (h : read lat lon = .ok c) :
    degrees lat = .ok c.latitude ∧ degrees lon = .ok c.longitude := by
  unfold read at h
  split at h
  · cases h
  · rename_i x hx
    split at h
    · cases h
    · rename_i y hy
      unfold check at h
      split at h
      · cases h
      · split at h
        · cases h
        · cases h
          exact ⟨hx, hy⟩

/-- Two answers that give the same latitude and longitude, each in the way of its provider and in any spelling, come
to the same: to the point whose latitude is that of the one and the other, or to the same failure. -/
theorem answers_agree {nominatim yandex : String} (hlat : Text.IsWord lat.toList) (hlon : Text.IsWord lon.toList)
    (hpos : Yandex.Position lat lon pos) (spellsNominatim : Json.Spells nominatim.toList (.value v))
    (lists : Nominatim.Lists lat lon v) (spellsYandex : Json.Spells yandex.toList (.value w))
    (begins : Yandex.Begins pos w) :
    Nominatim.answer nominatim = Yandex.answer yandex ∧
      Yandex.answer yandex = (Coordinates.read lat lon).mapError .coordinates ∧
      ∀ c, Yandex.answer yandex = .ok c →
        Coordinates.degrees lat = .ok c.latitude ∧ Coordinates.degrees lon = .ok c.longitude := by
  have hnominatim := Nominatim.answer_of_lists spellsNominatim lists
  have hyandex := Yandex.answer_of_begins spellsYandex begins hlat hlon hpos
  refine ⟨hnominatim.trans hyandex.symm, hyandex, ?_⟩
  intro c hc
  rw [hyandex] at hc
  cases hread : Coordinates.read lat lon with
  | error e =>
    rw [hread] at hc
    cases hc
  | ok point =>
    rw [hread] at hc
    cases hc
    exact Coordinates.degrees_of_read hread

/-! ### A point beyond the pole -/

/-- An answer with space, another field, and a digit that is given by its code. -/
def rankedAnswer : String := "[ \x7b\"lon\":\"50\",\"lat\":\"9\\u0031\",\"rank\":1E+0\x7d ]"

def rankedResult : Json := .record
  [("lon", .ofText "50"), ("lat", .ofText "91"), ("rank", .number ⟨false, [1], none, some 0⟩)]

/-- An answer with another result behind the best, whose records are written as arrays. -/
def twoResults : Json := .record [("response", .record [("GeoObjectCollection", .record [("featureMember", .array
  [.record [("GeoObject", .record [("Point", .record [("pos", .ofText " 50  91")])])],
    .array [.array [.array [.ofText ""]]]])])])]

theorem spells_rankedAnswer : Json.Spells rankedAnswer.toList (.value (.array [rankedResult])) := by
  have hname : ∀ s : String, Json.StringText (Json.stringText (some s)) (some s) := Json.stringText_stringText
  have hlat : Json.StringText "\"9\\u0031\"".toList (some "91") :=
    ⟨_, _, .cons (.plain (c := '9') (by decide) (by decide) (by decide))
      (.cons (.code (a := '0') (b := '0') (c := '3') (d := '1') rfl rfl rfl rfl) .nil), rfl, by decide⟩
  have hexponent : Json.ExponentText "E+0".toList (some 0) :=
    .given ['+'] false (.inr rfl) (by simp) (List.cons_ne_nil 0 []) (by simp)
  have hrank : Json.NumberText "1E+0".toList ⟨false, [1], none, some 0⟩ :=
    ⟨⟨by simp, by simp, by simp, by simp⟩, "E+0".toList, hexponent, rfl⟩
  have hobject := Json.Spells.object
    (.members (hname "lon") (.refl _) (.string (hname "50"))
      (.members (hname "lat") (.refl _) (.string hlat)
        (.member (hname "rank") (.refl _) (.number hrank))))
  have hspace : Json.Spaces [' '] := List.forall_mem_singleton.2 rfl
  exact .array (.item (.padded hobject ⟨[' '], [' '], hspace, hspace, rfl⟩))

theorem plain_twoResults : twoResults.Plain := by
  have hrecord : ∀ (name : String) {v : Json}, v.Plain → (Json.record [(name, v)]).Plain :=
    fun _ _ hv => Json.plain_record (List.forall_mem_singleton.2 hv)
  have hsingle : ∀ {v : Json}, v.Plain → (Json.array [v]).Plain := fun hv => .array (List.forall_mem_singleton.2 hv)
  have hfirst := hrecord "GeoObject" (hrecord "Point" (hrecord "pos" (.string " 50  91")))
  have hsecond := hsingle (hsingle (hsingle (.string "")))
  exact hrecord _ (hrecord _ (hrecord _ (.array (List.forall_mem_cons.2 ⟨hfirst, List.forall_mem_singleton.2 hsecond⟩))))

/-- The two numbers would make a point the other way round. -/
theorem answers_agree_beyond_pole :
    Yandex.Position "91" "50" " 50  91" ∧ Nominatim.Lists "91" "50" (.array [rankedResult]) ∧
      Yandex.Begins " 50  91" twoResults ∧
      Nominatim.answer rankedAnswer = Yandex.answer twoResults.toText ∧
      (Yandex.answer twoResults.toText).mapError GeocodeError.message = .error "latitude out of range: 91" ∧
      (Coordinates.read "50" "91").isOk = true := by
  have hposition : Yandex.Position "91" "50" " 50  91" := ⟨[' '], [' ', ' '], [], List.all_eq_true.1 rfl, by simp, rfl⟩
  have hlists : Nominatim.Lists "91" "50" (.array [rankedResult]) :=
    ⟨rankedResult, rfl, .inl ⟨_, rfl, by simp⟩⟩
  have hfield : ∀ (name : String) (v : Json), Json.Gives [(name, v)] (.record [(name, v)]) :=
    fun name v => .inl ⟨_, rfl, by simp⟩
  have hsecond : Yandex.Places "" (.array [.array [.array [.ofText ""]]]) := ⟨_, _, .inr rfl, .inr rfl, .inr rfl⟩
  have hbegins : Yandex.Begins " 50  91" twoResults :=
    ⟨_, _, _, _, hfield _ _, hfield _ _, hfield _ _, ⟨_, _, hfield _ _, hfield _ _, hfield _ _⟩,
      List.forall_mem_singleton.2 ⟨"", hsecond⟩⟩
  have hspells : Json.Spells twoResults.toText.toList (.value twoResults) := by
    rw [Json.toText, String.toList_ofList]
    exact plain_twoResults.spells_render
  obtain ⟨hagree, hanswer, -⟩ := answers_agree (by decide) (by decide) hposition spells_rankedAnswer hlists hspells
    hbegins
  refine ⟨hposition, hlists, hbegins, hagree, ?_, by decide +kernel⟩
  rw [hanswer]
  decide +kernel

end Matchday
