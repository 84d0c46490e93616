import Matchday.Geocoding.Request
import Mathlib.Data.List.TakeWhile

/-!
What a server reads off the URL of a request. The query stands between the first question mark and the mark of a
fragment; it is split into fields and these into names and values, and a value is decoded to a text. So a server
finds the fields that were meant, with the address that was meant, whatever characters the address has: a character
that would end a value, or the query, never stands in an encoded text.

Main statement: `queries_read`.
-/

namespace Matchday
set_option autoImplicit false

/-! ## Encoded texts -/

namespace Text.Percent

/-- The text that an encoded text stands for, if its bytes are the UTF-8 form of one. -/
def text? (encoded : String) : Option String :=
  (decode encoded.toList).bind fun bs => String.fromUTF8? bs.toByteArray

theorem fromUTF8?_bytes (s : String) : String.fromUTF8? (bytes s).toByteArray = some s := by
  have hvalid : (bytes s).toByteArray.IsValidUTF8 := ⟨s.toList, rfl⟩
  rw [String.fromUTF8?, dif_pos hvalid, Option.some.injEq, ← String.toByteArray_inj]
  exact congrArg String.toByteArray String.ofList_toList

theorem text?_encode (s : String) : text? (encode s) = some s := by
  rw [text?, encode, String.toList_ofList, decode_flatMap_encodeByte, Option.bind_some, fromUTF8?_bytes]

theorem encode_inj {s t : String} : encode s = encode t ↔ s = t := by
  constructor
  · intro h
    have htext := text?_encode s
    rw [h, text?_encode] at htext
    injection htext with htext
    exact htext.symm
  · exact congrArg encode

/-- The characters that encoded texts are made of. -/
def IsPlain (c : Char) : Prop := c = '%' ∨ isUnreserved (UInt8.ofNat c.toNat) = true

theorem isPlain_upperHexDigit : ∀ n : Fin 16, isUnreserved (UInt8.ofNat (upperHexDigit n).toNat) = true := by decide

theorem isPlain_of_mem_encodeByte {b : UInt8} {c : Char} (h : c ∈ encodeByte b) : IsPlain c := by
  have hlt : b.toNat < 256 := b.toNat_lt_size
  unfold encodeByte at h
  split at h
  · rename_i hb
    have h128 := toNat_lt_of_isUnreserved hb
    have hchar : (Char.ofNat b.toNat).toNat = b.toNat := by
      have hvalid : b.toNat.isValidChar := .inl (by omega)
      rw [Char.ofNat, dif_pos hvalid]
      rfl
    rw [List.mem_singleton.1 h, IsPlain, hchar, UInt8.ofNat_toNat]
    exact .inr hb
  · simp only [List.mem_cons, List.not_mem_nil, or_false] at h
    obtain rfl | rfl | rfl := h
    · exact .inl rfl
    · exact .inr (isPlain_upperHexDigit ⟨b.toNat / 16, by omega⟩)
    · exact .inr (isPlain_upperHexDigit ⟨b.toNat % 16, by omega⟩)

theorem isPlain_of_mem_encode {s : String} {c : Char} (h : c ∈ (encode s).toList) : IsPlain c := by
  rw [encode, String.toList_ofList, List.mem_flatMap] at h
  obtain ⟨b, -, hc⟩ := h
  exact isPlain_of_mem_encodeByte hc

end Text.Percent

/-! ## Queries -/

namespace Url

/-- The query of a URL: what stands behind the first question mark, up to the mark of a fragment. -/
def query? (url : String) : Option (List Char) :=
  match (url.toList.takeWhile (· ≠ '#')).dropWhile (· ≠ '?') with
  | [] => none
  | _ :: query => some query

/-- The fields of a query, each cut at its equals signs. -/
def fields (query : List Char) : List (List String) :=
  (query.splitOn '&').map fun field => (field.splitOn '=').map String.ofList

/-- The fields of a URL's query. -/
def fields? (url : String) : Option (List (List String)) := (query? url).map fields

/-- Whether a text can stand in a field: it has no mark that ends a value, a field or a query. -/
def IsValue (s : String) : Prop := '&' ∉ s.toList ∧ '=' ∉ s.toList ∧ '#' ∉ s.toList

instance (s : String) : Decidable (IsValue s) :=
  inferInstanceAs (Decidable ('&' ∉ s.toList ∧ '=' ∉ s.toList ∧ '#' ∉ s.toList))

theorem isValue_encode (s : String) : IsValue (Text.Percent.encode s) := by
  refine ⟨?_, ?_, ?_⟩
  all_goals
    intro hmem
    have hplain := Text.Percent.isPlain_of_mem_encode hmem
    exact absurd hplain (by unfold Text.Percent.IsPlain; decide)

/-- Whether a text can stand in front of a query: it has no mark that begins a query or a fragment. -/
def IsFront (s : String) : Prop := '?' ∉ s.toList ∧ '#' ∉ s.toList

theorem query?_append {front query : String} (hfront : IsFront front) (hquery : '#' ∉ query.toList) : query? (front ++ "?" ++ query) = some query.toList := by
  have hfragment : (front ++ "?" ++ query).toList.takeWhile (· ≠ '#') = front.toList ++ '?' :: query.toList := by
    have htext : (front ++ "?" ++ query).toList = front.toList ++ '?' :: query.toList := by simp
    rw [htext, List.takeWhile_eq_self_iff]
    intro c hc
    rw [decide_eq_true_iff]
    rintro rfl
    rcases List.mem_append.1 hc with hc | hc
    · exact hfront.2 hc
    · rcases List.mem_cons.1 hc with hc | hc
      · exact absurd hc (by decide)
      · exact hquery hc
  have hpath : (front.toList ++ '?' :: query.toList).dropWhile (· ≠ '?') = '?' :: query.toList := by
    rw [List.dropWhile_append_of_pos]
    · rfl
    · intro c hc
      rw [decide_eq_true_iff]
      rintro rfl
      exact hfront.1 hc
  rw [query?, hfragment, hpath]

end Url

theorem toList_queryText {fs : List (String × String)} :
    (queryText fs).toList = ['&'].intercalate (fs.map fun f => ['='].intercalate [f.1.toList, f.2.toList]) := by
  induction fs with
  | nil => rfl
  | cons f fs ih =>
    cases fs with
    | nil => simp [queryText, List.intercalate]
    | cons f' fs =>
      rw [List.map_cons, List.map_cons, List.intercalate_cons_cons, queryText, String.toList_append, ih]
      simp [List.intercalate]

/-- Cutting a query undoes the joining of its fields. -/
theorem fields_queryText {fs : List (String × String)} (hne : fs ≠ [])
    (hfs : ∀ f ∈ fs, Url.IsValue f.1 ∧ Url.IsValue f.2) :
    Url.fields (queryText fs).toList = fs.map fun f => [f.1, f.2] := by
  have hvalue : ∀ f ∈ fs, (['='].intercalate [f.1.toList, f.2.toList]).splitOn '=' = [f.1.toList, f.2.toList] := by
    intro f hf
    apply List.splitOn_intercalate
    · intro l hl hmem
      simp only [List.mem_cons, List.not_mem_nil, or_false] at hl
      rcases hl with rfl | rfl
      · exact (hfs f hf).1.2.1 hmem
      · exact (hfs f hf).2.2.1 hmem
    · exact List.cons_ne_nil _ _
  rw [Url.fields, toList_queryText, List.splitOn_intercalate, List.map_map]
  · apply List.map_congr_left
    intro f hf
    rw [Function.comp_apply, hvalue f hf]
    simp
  · intro l hl hmem
    obtain ⟨f, hf, rfl⟩ := List.mem_map.1 hl
    simp only [List.intercalate, List.intersperse_cons_cons, List.intersperse_singleton, List.flatten_cons,
      List.flatten_nil, List.append_nil, List.mem_append, List.mem_singleton] at hmem
    rcases hmem with hmem | hmem | hmem
    · exact (hfs f hf).1.1 hmem
    · exact absurd hmem (by decide)
    · exact (hfs f hf).2.1 hmem
  · simpa using hne

theorem hash_not_mem_queryText {fs : List (String × String)} (hfs : ∀ f ∈ fs, Url.IsValue f.1 ∧ Url.IsValue f.2) :
    '#' ∉ (queryText fs).toList := by
  induction fs with
  | nil => simp [queryText]
  | cons f fs ih =>
    obtain ⟨hf, hrest⟩ := List.forall_mem_cons.1 hfs
    cases fs with
    | nil => simp [queryText, hf.1.2.2, hf.2.2.2]
    | cons f' fs => simpa [queryText, hf.1.2.2, hf.2.2.2] using ih hrest

/-! ## Requests -/

/-- What a server reads off a query that is put behind an address without marks of its own. -/
theorem fields?_append {front : String} (hfront : Url.IsFront front) {fs : List (String × String)}
    (hne : fs ≠ []) (hfs : ∀ f ∈ fs, Url.IsValue f.1 ∧ Url.IsValue f.2) :
    Url.fields? (front ++ "?" ++ queryText fs) = some (fs.map fun f => [f.1, f.2]) := by
  rw [Url.fields?, Url.query?_append hfront (hash_not_mem_queryText hfs), Option.map_some, fields_queryText hne hfs]

theorem mem_baseUrl {server : String} {c : Char} (h : c ∈ (Nominatim.baseUrl server).toList) : c ∈ server.toList := by
  rw [Nominatim.baseUrl, String.toList_ofList, List.mem_reverse] at h
  exact List.mem_reverse.1 ((List.dropWhile_sublist _).mem h)

theorem Nominatim.fields?_url {server : String} (hserver : Url.IsFront server) (address : String) :
    Url.fields? (url server address) = some ((query (Address.searchForm address)).map fun f => [f.1, f.2]) := by
  have hurl : url server address = baseUrl server ++ "/search" ++ "?" ++ queryText (query (Address.searchForm address)) := by
    simp [url, String.append_assoc]
  rw [hurl]
  apply fields?_append
  · have hsearch : Url.IsFront "/search" := by
      unfold Url.IsFront
      decide
    refine ⟨?_, ?_⟩ <;> rw [String.toList_append, List.mem_append, not_or]
    · exact ⟨fun hmem => hserver.1 (mem_baseUrl hmem), hsearch.1⟩
    · exact ⟨fun hmem => hserver.2 (mem_baseUrl hmem), hsearch.2⟩
  · exact List.cons_ne_nil _ _
  · have hname : Url.IsValue "q" := by decide
    refine List.forall_mem_cons.2 ⟨⟨hname, Url.isValue_encode _⟩, ?_⟩
    simp only [List.forall_mem_cons]
    decide

theorem Yandex.fields?_url {server : String} (hserver : Url.IsFront server) (key address : String) :
    Url.fields? (url server key address) = some ((query key address).map fun f => [f.1, f.2]) := by
  apply fields?_append hserver
  · exact List.cons_ne_nil _ _
  · have hkey : Url.IsValue "apikey" := by decide
    have haddress : Url.IsValue "geocode" := by decide
    refine List.forall_mem_cons.2 ⟨⟨hkey, Url.isValue_encode _⟩, ?_⟩
    refine List.forall_mem_cons.2 ⟨⟨haddress, Url.isValue_encode _⟩, ?_⟩
    simp only [List.forall_mem_cons]
    decide

/-- Two providers whose addresses have no marks of their own. The server of the first finds five fields in the query
of any search, of which one is the address in search form; that of the second finds seven, of which two are the key
and the address as it is. The others are always the same. So two searches have one URL only if they are for the same. -/
theorem queries_read (server : String) (unmarked : '?' ∉ server.toList ∧ '#' ∉ server.toList) :
    (∀ address, ∃ q, Text.Percent.text? q = some (Address.searchForm address) ∧
        Url.fields? (Nominatim.url server address) = some [["q", q], ["limit", "1"], ["accept-language", "ru-RU"],
          ["countrycodes", "RU"], ["format", "jsonv2"]]) ∧
      (∀ key address, ∃ k a, Text.Percent.text? k = some key ∧ Text.Percent.text? a = some address ∧
        Url.fields? (Yandex.url server key address) = some [["apikey", k], ["geocode", a], ["lang", "ru_RU"],
          ["format", "json"], ["rspn", "1"], ["ll", "37.623150,55.752508"], ["spn", "6,6"]]) ∧
      (∀ address address', Nominatim.url server address = Nominatim.url server address' ↔
        Address.searchForm address = Address.searchForm address') ∧
      ∀ key key' address address', Yandex.url server key address = Yandex.url server key' address' ↔
        key = key' ∧ address = address' := by
  refine ⟨?_, ?_, ?_, ?_⟩
  · intro address
    exact ⟨_, Text.Percent.text?_encode _, Nominatim.fields?_url unmarked address⟩
  · intro key address
    exact ⟨_, _, Text.Percent.text?_encode key, Text.Percent.text?_encode address,
      Yandex.fields?_url unmarked key address⟩
  · intro address address'
    constructor
    · intro h
      have hfields := Nominatim.fields?_url unmarked address
      rw [h, Nominatim.fields?_url unmarked address'] at hfields
      simp only [Nominatim.query, List.map_cons, Option.some.injEq, List.cons.injEq, and_true, true_and] at hfields
      exact (Text.Percent.encode_inj.1 hfields).symm
    · intro h
      rw [Nominatim.url, Nominatim.url, h]
  · intro key key' address address'
    constructor
    · intro h
      have hfields := Yandex.fields?_url unmarked key address
      rw [h, Yandex.fields?_url unmarked key' address'] at hfields
      simp only [Yandex.query, List.map_cons, Option.some.injEq, List.cons.injEq, and_true, true_and] at hfields
      exact ⟨(Text.Percent.encode_inj.1 hfields.1).symm, (Text.Percent.encode_inj.1 hfields.2).symm⟩
    · rintro ⟨rfl, rfl⟩
      rfl

/-- An address that tries to add a field, to end the query and to write an escape of its own. -/
theorem queries_read_marks :
    ('?' ∉ "http://map".toList ∧ '#' ∉ "http://map".toList) ∧
      Yandex.url "http://map" "k=1" "д &spn=0#?%26+" =
        "http://map?apikey=k%3D1&geocode=%D0%B4%20%26spn%3D0%23%3F%2526%2B&lang=ru_RU&format=json&rspn=1" ++
          "&ll=37.623150,55.752508&spn=6,6" ∧
      ∀ address, Yandex.url "http://map" "k=1" "д &spn=0#?%26+" = Yandex.url "http://map" "k=1" address →
        address = "д &spn=0#?%26+" := by
  have hserver : '?' ∉ "http://map".toList ∧ '#' ∉ "http://map".toList := by decide
  obtain ⟨-, -, -, hinjective⟩ := queries_read "http://map" hserver
  refine ⟨hserver, by decide +kernel, ?_⟩
  intro address h
  exact ((hinjective _ _ _ _).1 h).2.symm

end Matchday
