import Matchday.Proofs.Address.Cuts

/-!
Search forms that stay as they are. The words of a search form are expanded already, so bringing it into search form
once more can only cut it: without marks there is nothing to cut, and each mark that is left costs a word.

Main statement: `Address.searchForm_fixed`.
-/

namespace Matchday.Address
set_option autoImplicit false

variable {w : Word} {ws : List Word}

/-- Whether a word is one of the marks at which addresses are cut. -/
def IsMark (w : Word) : Prop := w = "г".toList ∨ w = "д".toList ∨ w = "дом".toList

theorem isMark_iff : IsMark w ↔ w = cityMark ∨ isHouseMark w = true := by
  rw [IsMark, isHouseMark_iff, cityMark]

/-! ## Cutting -/

theorem length_afterCity_lt (h : cityMark ∈ ws) : (afterCity ws).length < ws.length := by
  obtain ⟨ps, -, heq⟩ | ⟨hno, -⟩ := behindCity_afterCity ws
  · have hlength := congrArg List.length heq
    rw [List.length_append, List.length_cons] at hlength
    omega
  · exact absurd h hno

theorem length_upToHouse_le (ws : List Word) : (upToHouse ws).length ≤ ws.length := by
  obtain ⟨-, hsame⟩ | ⟨ps, mark, rs, -, -, rfl, hcut⟩ := upToHouse_cases ws
  · rw [hsame]
  · rw [hcut, List.length_append, List.length_append, List.length_cons, List.length_take]
    omega

theorem length_upToHouse_lt (hw : w ∈ ws) (hmark : isHouseMark w = true) :
    (upToHouse ws).length < ws.length := by
  obtain ⟨hfree, -⟩ | ⟨ps, mark, rs, -, -, rfl, hcut⟩ := upToHouse_cases ws
  · rw [hfree w hw] at hmark
    cases hmark
  · rw [hcut, List.length_append, List.length_append, List.length_cons, List.length_take]
    omega

theorem length_searchWords_lt (hw : w ∈ ws) (hmark : IsMark w) : (searchWords ws).length < ws.length := by
  rw [searchWords, List.length_map]
  -- without a city mark the whole text reaches the house cut, so one of the cuts meets a mark
  by_cases hcity : cityMark ∈ ws
  · exact lt_of_le_of_lt (length_upToHouse_le _) (length_afterCity_lt hcity)
  · have hhouse : isHouseMark w = true := by
      rcases isMark_iff.1 hmark with rfl | hhouse
      · exact absurd hw hcity
      · exact hhouse
    rw [afterCity_of_notMem hcity]
    exact length_upToHouse_lt hw hhouse

/-! ## Words that stay -/

theorem searchWords_eq_self (unmarked : ∀ w ∈ ws, ¬ IsMark w) (expanded : ∀ w ∈ ws, expand w = w) :
    searchWords ws = ws := by
  have hcity : cityMark ∉ ws := fun hmem => unmarked cityMark hmem (isMark_iff.2 (.inl rfl))
  have hfree : HouseFree ws := by
    intro w hw
    have hmark := unmarked w hw
    rw [isMark_iff, not_or] at hmark
    exact Bool.eq_false_iff.2 hmark.2
  rw [searchWords, afterCity_of_notMem hcity, upToHouse_of_houseFree hfree]
  exact (List.map_congr_left (g := id) expanded).trans (List.map_id ws)

theorem expand_of_mem_searchWords (h : w ∈ searchWords ws) : expand w = w := by
  obtain ⟨v, -, rfl⟩ := List.mem_map.1 h
  exact expand_expand v

/-- A search form is its own search form if no mark is among its words, and otherwise has more words than that. A
word that has been written out stays as it is, and so does a type of street that was written out from the beginning,
with a point or a comma or without. -/
theorem searchForm_fixed :
    (∀ x : String, searchForm (searchForm x) = searchForm x ↔
        ∀ w ∈ Text.words (searchForm x).toList, ¬ IsMark w) ∧
      (∀ x : String, (∃ w ∈ Text.words (searchForm x).toList, IsMark w) →
        (Text.words (searchForm (searchForm x)).toList).length < (Text.words (searchForm x).toList).length) ∧
      (∀ w : Word, expand (expand w) = expand w) ∧
      ∀ t ∈ streetTypes, ∀ tail ∈ tails, expand (t.2.toList ++ tail) = t.2.toList ++ tail := by
  have shorter : ∀ x : String, (∃ w ∈ Text.words (searchForm x).toList, IsMark w) →
      (Text.words (searchForm (searchForm x)).toList).length < (Text.words (searchForm x).toList).length := by
    rintro x ⟨w, hw, hmark⟩
    rw [words_searchForm (searchForm x)]
    exact length_searchWords_lt hw hmark
  refine ⟨fun x => ⟨?marked, ?unmarked⟩, shorter, expand_expand, expand_full⟩
  case marked =>
    intro hfixed w hw hmark
    have hlength := shorter x ⟨w, hw, hmark⟩
    rw [hfixed] at hlength
    exact lt_irrefl _ hlength
  case unmarked =>
    intro hunmarked
    have hexpanded : ∀ w ∈ Text.words (searchForm x).toList, expand w = w := by
      rw [words_searchForm]
      exact fun w hw => expand_of_mem_searchWords hw
    rw [searchForm_eq_join (searchForm x), words_searchForm (searchForm x),
      searchWords_eq_self hunmarked hexpanded, ← searchForm_eq_join]

/-- The house mark that stands in the place of a number is left over, and is cut off with the second form. -/
theorem searchForm_fixed_left_over :
    searchForm "г Клин, ул. Мира, д д 4" = "Клин, улица Мира, д" ∧
      (∃ w ∈ Text.words (searchForm "г Клин, ул. Мира, д д 4").toList, IsMark w) ∧
      (Text.words (searchForm (searchForm "г Клин, ул. Мира, д д 4")).toList).length
        < (Text.words (searchForm "г Клин, ул. Мира, д д 4").toList).length ∧
      searchForm (searchForm "г Клин, ул. Мира, д д 4") ≠ searchForm "г Клин, ул. Мира, д д 4" ∧
      ("ул", "улица") ∈ streetTypes ∧ expand "улица.,".toList = "улица.,".toList := by
  obtain ⟨fixed, shorter, -, full⟩ := searchForm_fixed
  have hmark : ∃ w ∈ Text.words (searchForm "г Клин, ул. Мира, д д 4").toList, IsMark w :=
    ⟨"д".toList, by decide +kernel, .inr (.inl rfl)⟩
  have hstreet : ("ул", "улица") ∈ streetTypes := by decide +kernel
  refine ⟨by decide +kernel, hmark, shorter _ hmark, ?_, hstreet, full _ hstreet ['.', ','] (by simp [tails])⟩
  intro hsame
  obtain ⟨w, hw, hleft⟩ := hmark
  exact (fixed _).1 hsame w hw hleft

end Matchday.Address
