import Matchday.Proofs.Geocoding.Agreement
import Matchday.Proofs.Geocoding.Bounds
import Matchday.Proofs.Json.Fields

/-!
Which answers of the two providers are accepted. The fields that an answer declares are asked for, with the types
that it declares, in all of its parts: a result that is not used decides as well whether the answer has the right
form. Beyond that an answer may say what it likes, in any order and in any spelling; only the name of a member has
to be text, as the counterexample shows.

Main statement: `answers_declared`.
-/

namespace Matchday
set_option autoImplicit false

variable {body other : String} {v w : Json}

theorem Json.text?_iff {s : String} : v.text? = some s ↔ v = .ofText s := by
  cases v <;> simp [text?, ofText]

/-! ## Nominatim -/

namespace Nominatim

/-- An array of results, each with a latitude and a longitude. -/
def Holds (results : List (String × String)) (v : Json) : Prop :=
  ∃ items, v = .array items ∧ List.Forall₂
    (fun item r => Json.Gives [("lat", .ofText r.1), ("lon", .ofText r.2)] item) items results

theorem result?_iff {r : String × String} :
    result? v = some r ↔ Json.Gives [("lat", .ofText r.1), ("lon", .ofText r.2)] v := by
  constructor
  · intro h
    unfold result? at h
    rw [Option.bind_eq_bind, Option.bind_eq_some_iff] at h
    obtain ⟨given, hgiven, hr⟩ := h
    have hfields : [.must "lat", .must "lon"] = ["lat", "lon"].map Json.Field.must := rfl
    rw [hfields, Json.fields?_must_iff] at hgiven
    obtain ⟨fields, hnames, rfl, hgives⟩ := hgiven
    match fields with
    | [(_, lat), (_, lon)] =>
      simp only [List.map_cons, List.map_nil, List.cons.injEq, and_true] at hnames
      obtain ⟨rfl, rfl⟩ := hnames
      simp only [List.map_cons, List.map_nil, Option.bind_eq_bind, Option.bind_eq_some_iff, Json.text?_iff] at hr
      obtain ⟨lat, rfl, lon, rfl, hr⟩ := hr
      cases hr
      exact hgives
  · intro h
    rw [result?, h.fields?_eq rfl]
    rfl

theorem results?_iff {results : List (String × String)} : results? v = some results ↔ Holds results v := by
  simp only [results?, Json.listOf?_iff, result?_iff, Holds]

/-- Two answers whose results have the same latitudes and longitudes. -/
def Alike : Json → Json → Prop := Json.ListAlike (Json.Alike [("lat", Eq), ("lon", Eq)])

theorem result?_congr (h : Json.Alike [("lat", Eq), ("lon", Eq)] v w) : result? v = result? w := by
  have hfields : Json.fields? [.must "lat", .must "lon"] v = Json.fields? [.must "lat", .must "lon"] w :=
    h.fields?_eq rfl (by simp)
  rw [result?, result?, hfields]

theorem Alike.answer_eq (spells : Json.Spells body.toList (.value v)) (spells' : Json.Spells other.toList (.value w))
    (h : Alike v w) : answer body = answer other := by
  have hresults : results? v = results? w := Json.ListAlike.listOf? h fun _ _ => result?_congr
  rw [answer, answer, spells.read?_eq, spells'.read?_eq, Option.bind_some, Option.bind_some, hresults]

theorem answer_of_holds {results : List (String × String)} (spells : Json.Spells body.toList (.value v))
    (h : Holds results v) : answer body = single results := by
  rw [answer, spells.read?_eq, Option.bind_some, results?_iff.2 h]

theorem answer_of_other (spells : Json.Spells body.toList (.value v)) (h : ∀ results, ¬Holds results v) :
    answer body = .error (.otherForm .nominatim) := by
  have hnone : results? v = none := by
    rw [Option.eq_none_iff_forall_ne_some]
    intro results hresults
    exact h results (results?_iff.1 hresults)
  rw [answer, spells.read?_eq, Option.bind_some, hnone]

/-- An answer is accepted if it holds one result, whose two texts are the numbers of a point. -/
theorem answer_ok_iff (spells : Json.Spells body.toList (.value v)) {c : Coordinates} :
    answer body = .ok c ↔ ∃ lat lon, Holds [(lat, lon)] v ∧ Coordinates.read lat lon = .ok c := by
  constructor
  · intro h
    by_cases hholds : ∃ results, Holds results v
    · obtain ⟨results, hresults⟩ := hholds
      rw [answer_of_holds spells hresults] at h
      unfold single at h
      split at h
      · rename_i lat lon
        exact ⟨lat, lon, hresults, mapError_eq_ok_iff.1 h⟩
      · cases h
    · rw [answer_of_other spells (not_exists.1 hholds)] at h
      cases h
  · rintro ⟨lat, lon, hholds, hread⟩
    rw [answer_of_holds spells hholds, single]
    exact mapError_eq_ok_iff.2 hread

end Nominatim

/-! ## Yandex -/

namespace Yandex

variable {name : String}

/-- A response with a collection of results that have these positions; one that has no list of results has none. -/
def Holds (positions : List String) (v : Json) : Prop :=
  ∃ response collection, Json.Gives [("response", response)] v ∧
    Json.Gives [("GeoObjectCollection", collection)] response ∧
    (positions = [] ∧ Json.Lacks "featureMember" collection ∨
      ∃ members, Json.Gives [("featureMember", .array members)] collection ∧
        List.Forall₂ (fun member pos => Places pos member) members positions)

theorem only?_iff : only? name v = some w ↔ Json.Gives [(name, w)] v := by
  constructor
  · intro h
    unfold only? at h
    rw [Option.bind_eq_bind, Option.bind_eq_some_iff] at h
    obtain ⟨given, hgiven, hw⟩ := h
    have hfields : [.must name] = [name].map Json.Field.must := rfl
    rw [hfields, Json.fields?_must_iff] at hgiven
    obtain ⟨fields, hnames, rfl, hgives⟩ := hgiven
    match fields with
    | [(_, u)] =>
      simp only [List.map_cons, List.map_nil, List.cons.injEq, and_true] at hnames
      cases hnames
      cases hw
      exact hgives
  · exact only?_of_gives

theorem result?_iff {pos : String} : result? v = some pos ↔ Places pos v := by
  simp only [result?, Option.bind_eq_bind, Option.bind_eq_some_iff, only?_iff, Json.text?_iff, Places]
  constructor
  · rintro ⟨object, hobject, point, hpoint, text, hpos, rfl⟩
    exact ⟨object, point, hobject, hpoint, hpos⟩
  · rintro ⟨object, point, hobject, hpoint, hpos⟩
    exact ⟨object, hobject, point, hpoint, _, hpos, rfl⟩

theorem collection?_iff {positions : List String} : collection? v = some positions ↔
    positions = [] ∧ Json.Lacks "featureMember" v ∨
      ∃ members, Json.Gives [("featureMember", .array members)] v ∧
        List.Forall₂ (fun member pos => Places pos member) members positions := by
  constructor
  · intro h
    unfold collection? at h
    rw [Option.bind_eq_bind, Option.bind_eq_some_iff] at h
    obtain ⟨given, hgiven, hpositions⟩ := h
    obtain ⟨rfl, hlacks⟩ | ⟨u, rfl, hgives⟩ := Json.fields?_defaulted_iff.1 hgiven
    · cases hpositions
      exact .inl ⟨rfl, hlacks⟩
    · obtain ⟨members, rfl, hmembers⟩ := Json.listOf?_iff.1 hpositions
      simp only [result?_iff] at hmembers
      exact .inr ⟨members, hgives, hmembers⟩
  · rintro (⟨rfl, hlacks⟩ | ⟨members, hgives, hmembers⟩)
    · rw [collection?, Json.fields?_defaulted_iff.2 (.inl ⟨rfl, hlacks⟩)]
      rfl
    · rw [collection?, Json.fields?_defaulted_iff.2 (.inr ⟨_, rfl, hgives⟩)]
      refine Json.listOf?_iff.2 ⟨members, rfl, ?_⟩
      simpa only [result?_iff] using hmembers

theorem results?_iff {positions : List String} : results? v = some positions ↔ Holds positions v := by
  simp only [results?, Option.bind_eq_bind, Option.bind_eq_some_iff, only?_iff, collection?_iff, Holds]
  constructor
  · rintro ⟨response, hresponse, collection, hcollection, hmembers⟩
    exact ⟨response, collection, hresponse, hcollection, hmembers⟩
  · rintro ⟨response, collection, hresponse, hcollection, hmembers⟩
    exact ⟨response, hresponse, collection, hcollection, hmembers⟩

/-- Two results with the same position. -/
def ResultAlike : Json → Json → Prop := Json.Alike [("GeoObject", Json.Alike [("Point", Json.Alike [("pos", Eq)])])]

/-- Two answers whose results have the same positions. -/
def Alike : Json → Json → Prop :=
  Json.Alike [("response", Json.Alike [("GeoObjectCollection", Json.Alike [("featureMember", Json.ListAlike ResultAlike)])])]

theorem bind_only?_congr {α : Type} {R : Json → Json → Prop} {f : Json → Option α} (h : Json.Alike [(name, R)] v w)
    (hf : ∀ a b, R a b → f a = f b) : (only? name v).bind f = (only? name w).bind f := by
  have hfound : Option.Rel (Json.FoundAlike [(name, R)]) (Json.fields? [.must name] v) (Json.fields? [.must name] w) :=
    h.fields? rfl
  rw [only?, only?]
  generalize Json.fields? [.must name] v = found at hfound ⊢
  generalize Json.fields? [.must name] w = found' at hfound ⊢
  cases hfound with
  | none => rfl
  | some hfound =>
    cases hfound with
    | cons hfirst hrest =>
      cases hrest
      cases hfirst with
      | none => rfl
      | some hR => exact hf _ _ hR

theorem result?_congr (h : ResultAlike v w) : result? v = result? w := by
  unfold result?
  apply bind_only?_congr h
  intro object object' hobject
  apply bind_only?_congr hobject
  intro point point' hpoint
  apply bind_only?_congr hpoint
  intro pos pos' hpos
  rw [hpos]

theorem collection?_congr (h : Json.Alike [("featureMember", Json.ListAlike ResultAlike)] v w) :
    collection? v = collection? w := by
  have hfound : Option.Rel (Json.FoundAlike [("featureMember", Json.ListAlike ResultAlike)])
      (Json.fields? [⟨"featureMember", .defaulted⟩] v) (Json.fields? [⟨"featureMember", .defaulted⟩] w) :=
    h.fields? rfl
  rw [collection?, collection?]
  generalize Json.fields? [⟨"featureMember", .defaulted⟩] v = found at hfound ⊢
  generalize Json.fields? [⟨"featureMember", .defaulted⟩] w = found' at hfound ⊢
  cases hfound with
  | none => rfl
  | some hfound =>
    cases hfound with
    | cons hfirst hrest =>
      cases hrest
      cases hfirst with
      | none => rfl
      | some hmembers => exact hmembers.listOf? fun _ _ => result?_congr

theorem Alike.answer_eq (spells : Json.Spells body.toList (.value v)) (spells' : Json.Spells other.toList (.value w))
    (h : Alike v w) : answer body = answer other := by
  have hresults : results? v = results? w := by
    unfold results?
    apply bind_only?_congr h
    intro response response' hresponse
    apply bind_only?_congr hresponse
    intro collection collection' hcollection
    exact collection?_congr hcollection
  rw [answer, answer, spells.read?_eq, spells'.read?_eq, Option.bind_some, Option.bind_some, hresults]

theorem answer_of_holds {positions : List String} (spells : Json.Spells body.toList (.value v))
    (h : Holds positions v) : answer body = best positions := by
  rw [answer, spells.read?_eq, Option.bind_some, results?_iff.2 h]

theorem answer_of_other (spells : Json.Spells body.toList (.value v)) (h : ∀ positions, ¬Holds positions v) :
    answer body = .error (.otherForm .yandex) := by
  have hnone : results? v = none := by
    rw [Option.eq_none_iff_forall_ne_some]
    intro positions hpositions
    exact h positions (results?_iff.1 hpositions)
  rw [answer, spells.read?_eq, Option.bind_some, hnone]

theorem point_ok_iff {pos : String} {c : Coordinates} : point pos = .ok c ↔ ∃ lon lat,
    Text.words pos.toList = [lon, lat] ∧ Coordinates.read (String.ofList lat) (String.ofList lon) = .ok c := by
  constructor
  · intro h
    unfold point at h
    split at h
    · rename_i lon lat hwords
      exact ⟨lon, lat, hwords, mapError_eq_ok_iff.1 h⟩
    · cases h
  · rintro ⟨lon, lat, hwords, hread⟩
    simp only [point, hwords]
    exact mapError_eq_ok_iff.2 hread

/-- An answer is accepted if it holds a result, and the text of the first is a longitude and the latitude of a point. -/
theorem answer_ok_iff (spells : Json.Spells body.toList (.value v)) {c : Coordinates} :
    answer body = .ok c ↔ ∃ pos others, Holds (pos :: others) v ∧ point pos = .ok c := by
  constructor
  · intro h
    by_cases hholds : ∃ positions, Holds positions v
    · obtain ⟨positions, hpositions⟩ := hholds
      rw [answer_of_holds spells hpositions] at h
      cases positions with
      | nil => cases h
      | cons pos others => exact ⟨pos, others, hpositions, h⟩
    · rw [answer_of_other spells (not_exists.1 hholds)] at h
      cases h
  · rintro ⟨pos, others, hholds, hpoint⟩
    rw [answer_of_holds spells hholds]
    exact hpoint

end Yandex

/-! ## Both -/

/-- Any well-formed answer. The first provider's is accepted if it is an array of one result, whose latitude and
longitude make a point; otherwise the number of results is what is wrong, or the form. The second's is accepted if it
holds at least one result and the position of the first is the longitude and the latitude of a point; it may hold
none, and then that is what is wrong. All results have to have their form. Nothing else about an answer matters: any
text of the same document comes to the same, and so does one of a document that differs in the order of members, or
in members that are not asked for. -/
theorem answers_declared (spells : Json.Spells body.toList (.value v)) :
    (∀ c, Nominatim.answer body = .ok c ↔
        ∃ lat lon, Nominatim.Holds [(lat, lon)] v ∧ Coordinates.read lat lon = .ok c) ∧
      (∀ results, Nominatim.Holds results v → results.length ≠ 1 → (Nominatim.answer body).mapError GeocodeError.message =
        .error ("Invalid coordinates count: " ++ toString results.length)) ∧
      ((∀ results, ¬Nominatim.Holds results v) → Nominatim.answer body = .error (.otherForm .nominatim)) ∧
      (∀ c, Yandex.answer body = .ok c ↔ ∃ pos others lon lat, Yandex.Holds (pos :: others) v ∧
        Text.words pos.toList = [lon, lat] ∧ Coordinates.read (String.ofList lat) (String.ofList lon) = .ok c) ∧
      (Yandex.Holds [] v → Yandex.answer body = .error .noResults) ∧
      ((∀ positions, ¬Yandex.Holds positions v) → Yandex.answer body = .error (.otherForm .yandex)) ∧
      (∀ other, Json.Spells other.toList (.value v) →
        Nominatim.answer other = Nominatim.answer body ∧ Yandex.answer other = Yandex.answer body) ∧
      ∀ other w, Json.Spells other.toList (.value w) →
        (Nominatim.Alike v w → Nominatim.answer other = Nominatim.answer body) ∧
          (Yandex.Alike v w → Yandex.answer other = Yandex.answer body) := by
  refine ⟨?_, ?_, ?_, ?_, ?_, ?_, ?_, ?_⟩
  · intro c
    exact Nominatim.answer_ok_iff spells
  · intro results hholds hlength
    rw [Nominatim.answer_of_holds spells hholds]
    match results with
    | [] => rfl
    | [_] => exact absurd rfl hlength
    | _ :: _ :: _ => rfl
  · exact Nominatim.answer_of_other spells
  · intro c
    rw [Yandex.answer_ok_iff spells]
    simp only [Yandex.point_ok_iff, exists_and_left]
  · intro hholds
    exact Yandex.answer_of_holds spells hholds
  · exact Yandex.answer_of_other spells
  · intro other spells'
    rw [Nominatim.answer, Nominatim.answer, Yandex.answer, Yandex.answer, spells.read?_eq, spells'.read?_eq]
    exact ⟨rfl, rfl⟩
  · intro other w spells'
    exact ⟨fun h => (h.answer_eq spells spells').symm, fun h => (h.answer_eq spells spells').symm⟩

/-! ### Names and other members -/

/-- An answer that has a member whose name is one half of a surrogate pair. -/
def unpairedAnswer : String := "[\x7b\"lat\":\"1\",\"lon\":\"2\",\"\\ud800\":0\x7d]"

def unpairedMembers : List (Option String × Json) :=
  [(some "lat", .ofText "1"), (some "lon", .ofText "2"), (none, .number ⟨false, [0], none, none⟩)]

/-- The name of a member that is not asked for has to be text all the same. -/
theorem answers_declared_unpaired :
    Json.Spells unpairedAnswer.toList (.value (.array [.object unpairedMembers])) ∧
      Json.valuesOf "lat" unpairedMembers = [.ofText "1"] ∧ Json.valuesOf "lon" unpairedMembers = [.ofText "2"] ∧
      (Coordinates.read "1" "2").isOk = true ∧
      Nominatim.answer unpairedAnswer = .error (.otherForm .nominatim) := by
  have hname : ∀ s : String, Json.StringText (Json.stringText (some s)) (some s) := Json.stringText_stringText
  have hunpaired : Json.StringText "\"\\ud800\"".toList none :=
    ⟨_, _, .cons (.code (a := 'd') (b := '8') (c := '0') (d := '0') rfl rfl rfl rfl) .nil, rfl, by decide⟩
  have hzero : Json.NumberText "0".toList ⟨false, [0], none, none⟩ :=
    Json.numberText_render ⟨by simp, by simp, by simp, by simp⟩
  have hobject := Json.Spells.object
    (.members (hname "lat") (.refl _) (.string (hname "1"))
      (.members (hname "lon") (.refl _) (.string (hname "2")) (.member hunpaired (.refl _) (.number hzero))))
  have spells : Json.Spells unpairedAnswer.toList (.value (.array [.object unpairedMembers])) :=
    .array (.item hobject)
  refine ⟨spells, rfl, rfl, by decide +kernel, ?_⟩
  rw [Nominatim.answer, spells.read?_eq]
  rfl

/-- The latitude and the longitude of a point. -/
def pointMembers : List (Option String × Json) := [(some "lat", .ofText "55.75"), (some "lon", .ofText "37.5")]

theorem spells_pointMembers {members : List (Option String × Json)}
    (h : members.Perm pointMembers ∨ members = (some "rank", .null) :: pointMembers) :
    Json.Spells (Json.array [.object members]).toText.toList (.value (.array [.object members])) := by
  have hpoint : ∀ m ∈ pointMembers, m.1.isSome ∧ m.2.Plain := by
    simp [pointMembers, Json.ofText, Json.Plain.string]
  have hmembers : ∀ m ∈ members, m.1.isSome ∧ m.2.Plain := by
    rcases h with h | rfl
    · intro m hm
      exact hpoint m (h.mem_iff.1 hm)
    · exact List.forall_mem_cons.2 ⟨⟨rfl, .null⟩, hpoint⟩
  have hplain : (Json.array [.object members]).Plain :=
    .array (List.forall_mem_singleton.2 (.object (fun m hm => (hmembers m hm).1) fun m hm => (hmembers m hm).2))
  rw [Json.toText, String.toList_ofList]
  exact hplain.spells_render

/-- A point is read, also if its numbers come the other way round or behind something else. -/
theorem answers_declared_point :
    (∃ c, Nominatim.answer (Json.array [.object pointMembers]).toText = .ok c) ∧
      (∀ members, members.Perm pointMembers ∨ members = (some "rank", .null) :: pointMembers →
        Nominatim.answer (Json.array [.object members]).toText =
          Nominatim.answer (Json.array [.object pointMembers]).toText) := by
  have hspells := spells_pointMembers (.inl (.refl pointMembers))
  obtain ⟨hok, -, -, -, -, -, -, hagree⟩ := answers_declared hspells
  refine ⟨?_, ?_⟩
  · have hholds : Nominatim.Holds [("55.75", "37.5")] (.array [.object pointMembers]) :=
      ⟨_, rfl, .cons (.inl ⟨[("lat", .ofText "55.75"), ("lon", .ofText "37.5")], rfl, by simp⟩) .nil⟩
    have hread : (Coordinates.read "55.75" "37.5").isOk = true := by decide +kernel
    cases hc : Coordinates.read "55.75" "37.5" with
    | error e =>
      rw [hc] at hread
      cases hread
    | ok c => exact ⟨c, (hok c).2 ⟨_, _, hholds, hc⟩⟩
  · intro members hmembers
    apply (hagree _ _ (spells_pointMembers hmembers)).1
    refine .array (.cons ?_ .nil)
    have hknown : ∀ k ∈ [("lat", @Eq Json), ("lon", Eq)], ∀ v, k.2 v v := by simp
    obtain hperm | rfl := hmembers
    · exact .of_perm hknown hperm.symm
    · exact .insert hknown _ _ (by simp)

end Matchday
