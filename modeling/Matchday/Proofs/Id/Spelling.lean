import Matchday.Proofs.Id.Layout
import Matchday.Proofs.Id.Order
import Matchday.Proofs.Wire.RoundTrip
import Mathlib.Data.Bool.AllAny
import Mathlib.Data.List.Basic

/-!
The texts of identifiers. A text is read as an identifier if it lays out 32 digits, in upper or lower case, and any
other text is refused. Of the texts that are read as one identifier exactly one is in lower case and in five groups
with nothing around them: the written form.

Main statement: `Id.identifiers_spelled`.
-/

namespace Matchday.Id
set_option autoImplicit false

variable {e : Entity} {text : String} {id : Id e} {ns : List Nat} {cs ds body : List Char}

/-! ## Reading -/

/-- Identifiers are sixteen bytes and nothing else. -/
theorem ofBytes?_eq_some_iff {row : List UInt8} : ofBytes? row = some id ↔ id.bytes = row := by
  constructor
  · intro h
    obtain ⟨hsize, hid⟩ := Option.dite_none_right_eq_some.1 h
    exact congrArg bytes (Option.some.inj hid).symm
  · rintro rfl
    exact dif_pos id.size

theorem read?_eq_some_iff_digits? : read? text = some id ↔
    ∃ ds, digits? text.toList = some ds ∧ ds.map Text.lower = id.digits := by
  have hdigits : id.digits = id.bytes.flatMap byteText := rfl
  simp only [read?, Option.bind_eq_some_iff, ofBytes?_eq_some_iff, exists_eq_right', ofDigits?_eq_some_iff, hdigits]

theorem exists_eq_hexDigit {c : Char} (h : c ∈ id.digits) : ∃ n < 16, c = Text.hexDigit n := by
  obtain ⟨b, -, hc⟩ := List.mem_flatMap.1 h
  have hlt : b.toNat < 256 := b.toNat_lt
  rcases List.mem_cons.1 hc with rfl | hc
  · exact ⟨b.toNat / 16, by omega, rfl⟩
  · exact ⟨b.toNat % 16, by omega, List.mem_singleton.1 hc⟩

theorem isHexDigit_of_map_lower (h : ds.map Text.lower = id.digits) : ∀ c ∈ ds, Text.IsHexDigit c := by
  intro c hc
  obtain ⟨n, hn, hlower⟩ := exists_eq_hexDigit (h ▸ List.mem_map_of_mem hc : Text.lower c ∈ id.digits)
  rw [Text.isHexDigit_iff, Text.hexValue?_eq_some_iff.2 ⟨hn, hlower⟩]
  rfl

theorem hyphen_not_mem (h : ∀ c ∈ ds, Text.IsHexDigit c) : '-' ∉ ds :=
  fun hmem => absurd (h _ hmem) (by decide)

/-- A text is read as the identifier whose digits it lays out, in either case. -/
theorem read?_eq_some_iff : read? text = some id ↔ ∃ ds, Spells text.toList ds ∧ ds.map Text.lower = id.digits := by
  rw [read?_eq_some_iff_digits?]
  refine exists_congr fun ds => and_congr_left fun hdigits => ⟨fun h => ?_, digits?_of_spells⟩
  exact spells_of_digits? h (hyphen_not_mem (isHexDigit_of_map_lower hdigits))

/-! ## Accepted texts -/

/-- Whether a text has groups of given lengths, of digits and nothing else, between its hyphens. -/
def IsRow (ns : List Nat) (cs : List Char) : Prop := ∃ ds, Laid ns cs ds ∧ ∀ c ∈ ds, Text.IsHexDigit c

theorem Spells.length_eq (h : Spells cs ds) : ds.length = 32 := by
  cases h with
  | row laid => exact laid.length_eq
  | groups laid => exact laid.length_eq
  | wrapped _ laid => exact laid.length_eq

/-- The texts that are read as an identifier lay out digits and nothing else. -/
theorem exists_read?_eq_some_iff :
    (∃ id : Id e, read? text = some id) ↔ ∃ ds, Spells text.toList ds ∧ ∀ c ∈ ds, Text.IsHexDigit c := by
  constructor
  · rintro ⟨id, h⟩
    obtain ⟨ds, hspells, hdigits⟩ := read?_eq_some_iff.1 h
    exact ⟨ds, hspells, isHexDigit_of_map_lower hdigits⟩
  · rintro ⟨ds, hspells, hdigits⟩
    obtain ⟨bytes, hbytes, hsize⟩ := exists_ofDigits? (n := 16) hspells.length_eq hdigits
    exact ⟨⟨bytes, hsize⟩, read?_eq_some_iff.2 ⟨ds, hspells, ofDigits?_eq_some_iff.1 hbytes⟩⟩

theorem wrapped_iff : Wrapped cs body ↔
    cs = '\x7b' :: body ++ ['\x7d'] ∨ ∃ front, front.map Text.lower = "urn:uuid:".toList ∧ cs = front ++ body := by
  constructor
  · rintro (_ | ⟨front, _, hfront⟩)
    · exact .inl rfl
    · exact .inr ⟨front, hfront, rfl⟩
  · rintro (rfl | ⟨front, hfront, rfl⟩)
    · exact .braces body
    · exact .word front body hfront

/-- The word begins with a letter that is no digit. -/
theorem exists_head_of_map_lower {front : List Char} (h : front.map Text.lower = "urn:uuid:".toList) :
    ∃ c rest, front = c :: rest ∧ c ≠ '-' ∧ c ≠ '\x7b' ∧ ¬Text.IsHexDigit c := by
  obtain ⟨c, rest, rfl, hc, -⟩ := List.map_eq_cons_iff.1 h
  refine ⟨c, rest, rfl, ?_, ?_, ?_⟩
  · rintro rfl
    exact absurd hc (by decide)
  · rintro rfl
    exact absurd hc (by decide)
  · intro hdigit
    obtain ⟨n, hn⟩ := Option.isSome_iff_exists.1 (Text.isHexDigit_iff.1 hdigit)
    obtain ⟨hlt, hlower⟩ := Text.hexValue?_eq_some_iff.1 hn
    have hu : ∀ n : Fin 16, Text.hexDigit n ≠ 'u' := by decide
    exact hu ⟨n, hlt⟩ (hlower.symm.trans hc)

theorem brace_ne_word {front : List Char} (h : front.map Text.lower = "urn:uuid:".toList) :
    '\x7b' :: cs ≠ front ++ body := by
  obtain ⟨c, rest, rfl, -, hbrace, -⟩ := exists_head_of_map_lower h
  intro heq
  exact hbrace (List.cons.inj heq).1.symm

/-- Nothing stands around a text in two ways. -/
theorem Wrapped.unique {body' : List Char} (around : Wrapped cs body) (around' : Wrapped cs body') :
    body = body' := by
  rcases wrapped_iff.1 around with rfl | ⟨front, hfront, rfl⟩ <;>
    rcases wrapped_iff.1 around' with hcs | ⟨front', hfront', hcs⟩
  · exact (List.cons.inj (List.append_cancel_right hcs)).2
  · exact absurd hcs (brace_ne_word hfront')
  · exact absurd hcs.symm (brace_ne_word hfront)
  · have hlength : front.length = front'.length :=
      (length_of_map_lower hfront).trans (length_of_map_lower hfront').symm
    exact (List.append_inj hcs hlength).2

/-- What stands in a text that is laid out is a hyphen or a digit of it. -/
theorem mem_group {c : Char} (h : c ∈ group ns ds) : c = '-' ∨ c ∈ ds := by
  induction ns generalizing ds with
  | nil => exact .inr h
  | cons n ns ih =>
    cases ns with
    | nil => exact .inr h
    | cons m ns =>
      rw [group_cons_cons, List.mem_append, List.mem_cons] at h
      rcases h with h | rfl | h
      · exact .inr (List.mem_of_mem_take h)
      · exact .inl rfl
      · exact (ih h).imp_right List.mem_of_mem_drop

theorem Wrapped.not_isRow (around : Wrapped cs body) : ¬IsRow ns cs := by
  rintro ⟨ds, laid, hdigits⟩
  have hmem : ∀ c ∈ cs, c = '-' ∨ Text.IsHexDigit c := by
    intro c hc
    rw [laid.eq_group] at hc
    exact (mem_group hc).imp_right (hdigits c)
  cases around with
  | braces =>
    exact absurd (hmem '\x7b' List.mem_cons_self) (by decide)
  | word front _ hfront =>
    obtain ⟨c, rest, rfl, hhyphen, -, hdigit⟩ := exists_head_of_map_lower hfront
    exact (hmem c List.mem_cons_self).elim hhyphen hdigit

theorem read?_eq_none_iff : (read? text : Option (Id e)) = none ↔ ¬∃ id : Id e, read? text = some id := by
  rw [← Option.isSome_iff_exists, Option.not_isSome_iff_eq_none]

/-- A text with something around it is read if what is inside has the five groups of digits. -/
theorem read?_eq_none_iff_of_wrapped (around : Wrapped text.toList body) :
    (read? text : Option (Id e)) = none ↔ ¬IsRow [8, 4, 4, 4, 12] body := by
  rw [read?_eq_none_iff, exists_read?_eq_some_iff, not_iff_not]
  constructor
  · rintro ⟨ds, hspells, hdigits⟩
    cases hspells with
    | row laid => exact absurd ⟨ds, laid, hdigits⟩ around.not_isRow
    | groups laid => exact absurd ⟨ds, laid, hdigits⟩ around.not_isRow
    | wrapped around' laid =>
      obtain rfl := around.unique around'
      exact ⟨ds, laid, hdigits⟩
  · rintro ⟨ds, laid, hdigits⟩
    exact ⟨ds, .wrapped around laid, hdigits⟩

/-- A text with nothing around it is read if it has the five groups of digits, or one group of all. -/
theorem read?_eq_none_iff_of_bare (bare : ∀ body, ¬Wrapped text.toList body) :
    (read? text : Option (Id e)) = none ↔ ¬IsRow [32] text.toList ∧ ¬IsRow [8, 4, 4, 4, 12] text.toList := by
  rw [read?_eq_none_iff, exists_read?_eq_some_iff, ← not_or, not_iff_not]
  constructor
  · rintro ⟨ds, hspells, hdigits⟩
    cases hspells with
    | row laid => exact .inl ⟨ds, laid, hdigits⟩
    | groups laid => exact .inr ⟨ds, laid, hdigits⟩
    | wrapped around laid => exact absurd around (bare _)
  · rintro (⟨ds, laid, hdigits⟩ | ⟨ds, laid, hdigits⟩)
    · exact ⟨ds, .row laid, hdigits⟩
    · exact ⟨ds, .groups laid, hdigits⟩

/-! ## Written forms -/

/-- Whether a text has five groups of digits in lower case, and nothing else, between its hyphens. -/
def IsWritten (cs : List Char) : Prop :=
  ∃ ds, Laid [8, 4, 4, 4, 12] cs ds ∧ ∀ c ∈ ds, c ∈ "0123456789abcdef".toList

theorem lower_of_mem : ∀ c ∈ "0123456789abcdef".toList, Text.lower c = c :=
  List.all_iff_forall_prop.1 (by decide)

theorem isHexDigit_of_mem : ∀ c ∈ "0123456789abcdef".toList, Text.IsHexDigit c :=
  List.all_iff_forall_prop.1 (by decide)

theorem mem_lowerDigits {c : Char} (h : c ∈ id.digits) : c ∈ "0123456789abcdef".toList := by
  have hmem : ∀ n : Fin 16, Text.hexDigit n ∈ "0123456789abcdef".toList := by decide
  obtain ⟨n, hn, rfl⟩ := exists_eq_hexDigit h
  exact hmem ⟨n, hn⟩

theorem laid_toText (id : Id e) : Laid [8, 4, 4, 4, 12] id.toText.toList id.digits := by
  rw [toText, String.toList_ofList]
  have hhyphen : '-' ∉ id.digits := hyphen_not_mem fun c hc => isHexDigit_of_mem c (mem_lowerDigits hc)
  exact laid_group (List.cons_ne_nil _ _) hhyphen id.length_digits

theorem mem_toText {c : Char} (h : c ∈ id.toText.toList) : c ∈ '-' :: "0123456789abcdef".toList := by
  rw [id.laid_toText.eq_group] at h
  exact List.mem_cons.2 ((mem_group h).imp_right mem_lowerDigits)

theorem isWritten_toText (id : Id e) : IsWritten id.toText.toList :=
  ⟨id.digits, id.laid_toText, fun _ => mem_lowerDigits⟩

theorem Spells.unique {ds' : List Char} (h : Spells cs ds) (h' : Spells cs ds') : ds = ds' :=
  Option.some.inj ((digits?_of_spells h).symm.trans (digits?_of_spells h'))

/-- The digits of a text that is read are those of the identifier, in either case. -/
theorem map_lower_eq_digits (hspells : Spells text.toList ds) (h : read? text = some id) :
    ds.map Text.lower = id.digits := by
  obtain ⟨ds', hspells', hdigits⟩ := read?_eq_some_iff.1 h
  rwa [hspells.unique hspells']

/-- Only one text in lower case with five groups is read as an identifier. -/
theorem eq_toText_of_isWritten (hwritten : IsWritten text.toList) (h : read? text = some id) : text = id.toText := by
  obtain ⟨ds, laid, hlower⟩ := hwritten
  have hdigits : ds = id.digits := by
    rw [← map_lower_eq_digits (.groups laid) h, List.map_congr_left fun c hc => lower_of_mem c (hlower c hc),
      List.map_id']
  rw [← String.toList_inj, laid.eq_group, id.laid_toText.eq_group, hdigits]

theorem digits_inj {id' : Id e} : id.digits = id'.digits ↔ id = id' := by
  refine ⟨fun h => ?_, congrArg digits⟩
  have htext : id.toText = id'.toText := congrArg (fun ds => String.ofList (group groups ds)) h
  have hread := id.read?_toText
  rw [htext, read?_toText] at hread
  exact (Option.some.inj hread).symm

/-- The JSON form is the written form in quotation marks. -/
theorem toText_toJson (id : Id e) : id.toJson.toText = "\"" ++ id.toText ++ "\"" := by
  have hplain : ∀ c ∈ '-' :: "0123456789abcdef".toList, Json.stringChar c = [c] :=
    List.all_iff_forall_prop.1 (by decide)
  have hchars : id.toText.toList.flatMap Json.stringChar = id.toText.toList := by
    rw [List.flatMap_congr fun c hc => hplain c (mem_toText hc), List.flatMap_singleton']
  rw [← String.toList_inj, Json.toText, toJson, Json.ofText, Json.render, Json.stringText, Option.getD_some, hchars,
    String.toList_ofList, String.toList_append, String.toList_append]
  rfl

/-- A string of JSON is read as an identifier if its text is. -/
theorem decode?_ofText (text : String) :
    Json.decode? Id.ofJson? (Json.ofText text).toText = (read? text : Option (Id e)) := by
  rw [Json.decode?, Json.read?_toText (v := .ofText text) (.string text), Option.bind_some]
  rfl

/-- Every identifier is read from its written form, which is also its JSON form, and is its bytes. Any text is read
if it has digits in the accepted groups and nothing else, and is refused if a group has another length or a character
is no digit, with braces or the word around it or without. Two texts are read as one identifier if their digits are the
same in lower case, and only one of all these texts is in lower case with five groups. Identifiers are in the order of
their written forms. -/
theorem identifiers_spelled (e : Entity) :
    (∀ id : Id e, read? id.toText = some id ∧ id.toJson.toText = "\"" ++ id.toText ++ "\"" ∧
      Json.decode? Id.ofJson? id.toJson.toText = some id ∧ ∀ row, ofBytes? row = some id ↔ id.bytes = row) ∧
    (∀ text, Json.decode? Id.ofJson? (Json.ofText text).toText = (read? text : Option (Id e))) ∧
    (∀ text, (∃ id : Id e, read? text = some id) ↔
      ∃ ds, Spells text.toList ds ∧ ∀ c ∈ ds, Text.IsHexDigit c) ∧
    (∀ text (id : Id e), read? text = some id → IsWritten id.toText.toList ∧
      (∀ ds, Spells text.toList ds → Laid [8, 4, 4, 4, 12] id.toText.toList (ds.map Text.lower)) ∧
      ∀ written, IsWritten written.toList → read? written = some id → written = id.toText) ∧
    (∀ text text' ds ds' (id id' : Id e), read? text = some id → read? text' = some id' →
      Spells text.toList ds → Spells text'.toList ds' → (id = id' ↔ ds.map Text.lower = ds'.map Text.lower)) ∧
    (∀ text body, Wrapped text.toList body →
      ((read? text : Option (Id e)) = none ↔ ¬IsRow [8, 4, 4, 4, 12] body)) ∧
    (∀ text, (∀ body, ¬Wrapped text.toList body) →
      ((read? text : Option (Id e)) = none ↔ ¬IsRow [32] text.toList ∧ ¬IsRow [8, 4, 4, 4, 12] text.toList)) ∧
    (∀ a b : Id e, a.compare b = compare a.toText.toList b.toText.toList) ∧
    ∀ ids : List (Id e), (sort ids).map toText = (ids.map toText).mergeSort fun s t => s ≤ t := by
  refine ⟨?_, ?_, ?_, ?_, ?_, ?_, ?_, ?_, ?_⟩
  · intro id
    refine ⟨id.read?_toText, id.toText_toJson, ?_, fun row => ofBytes?_eq_some_iff⟩
    exact (decode?_ofText id.toText).trans id.read?_toText
  · exact decode?_ofText
  · exact fun text => exists_read?_eq_some_iff
  · intro text id h
    refine ⟨id.isWritten_toText, ?_, fun written hwritten => eq_toText_of_isWritten hwritten⟩
    intro ds hspells
    rw [map_lower_eq_digits hspells h]
    exact id.laid_toText
  · intro text text' ds ds' id id' h h' hspells hspells'
    rw [map_lower_eq_digits hspells h, map_lower_eq_digits hspells' h', digits_inj]
  · exact fun text body => read?_eq_none_iff_of_wrapped
  · exact fun text => read?_eq_none_iff_of_bare
  · exact compare_eq_compare_toText
  · exact map_toText_sort

/-- An event that is read behind the word in upper case, and not if the first hyphen is a digit too late. -/
theorem identifiers_spelled_urn :
    ∃ id : EventId, read? "URN:UUID:67E55044-10B1-426F-9247-BB680E5FE0C8" = some id ∧
      id.toText = "67e55044-10b1-426f-9247-bb680e5fe0c8" ∧
      (read? "urn:uuid:67e550441-0b1-426f-9247-bb680e5fe0c8" : Option EventId) = none := by
  obtain ⟨-, -, haccepted, hwritten, hsame, hrefused, -⟩ := identifiers_spelled .event
  have upper : Spells "URN:UUID:67E55044-10B1-426F-9247-BB680E5FE0C8".toList
      "67E5504410B1426F9247BB680E5FE0C8".toList :=
    .wrapped (.word "URN:UUID:".toList "67E55044-10B1-426F-9247-BB680E5FE0C8".toList (by decide))
      ⟨by decide +kernel, by decide +kernel⟩
  have lower : Laid [8, 4, 4, 4, 12] "67e55044-10b1-426f-9247-bb680e5fe0c8".toList
      "67e5504410b1426f9247bb680e5fe0c8".toList := ⟨by decide +kernel, by decide +kernel⟩
  obtain ⟨id, hupper⟩ := (haccepted _).2 ⟨_, upper, List.all_iff_forall_prop.1 (by decide +kernel)⟩
  obtain ⟨id', hlower⟩ := (haccepted _).2 ⟨_, .groups lower, List.all_iff_forall_prop.1 (by decide +kernel)⟩
  obtain rfl : id = id' := (hsame _ _ _ _ id id' hupper hlower upper (.groups lower)).2 (by decide +kernel)
  have htext := (hwritten _ id hupper).2.2 _ ⟨_, lower, List.all_iff_forall_prop.1 (by decide +kernel)⟩ hlower
  have late : Wrapped "urn:uuid:67e550441-0b1-426f-9247-bb680e5fe0c8".toList
      "67e550441-0b1-426f-9247-bb680e5fe0c8".toList := .word "urn:uuid:".toList _ (by decide)
  refine ⟨id, hupper, htext.symm, (hrefused _ _ late).2 ?_⟩
  rintro ⟨ds, ⟨hlengths, -⟩, -⟩
  exact absurd hlengths (by decide +kernel)

end Matchday.Id
