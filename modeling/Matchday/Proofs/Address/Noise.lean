import Matchday.Proofs.Address.Cuts

/-!
What of an address does not matter for its search form: how its words are spaced, what stands in front of the city,
and what stands behind the house number. A city mark behind the house number would be the first one and take the
house away, so the number ends the form only if the city is named before it or not at all.

Main statement: `Address.searchForm_noise`.
-/

namespace Matchday.Address
set_option autoImplicit false

variable {mark number : Word} {as rs ss : List Word}

/-! ## Words of composed texts -/

theorem words_behind (text : String) {w : Word} (hw : Text.IsWord w) (rest : List Char) :
    Text.words (text.toList ++ ' ' :: (w ++ ' ' :: rest)) = Text.words text.toList ++ w :: Text.words rest := by
  rw [Text.words_append_blank rfl, Text.words_append_blank rfl, Text.words_of_isWord hw, List.singleton_append]

theorem isWord_cityMark : Text.IsWord cityMark := by decide

theorem isWord_of_isHouseMark (h : isHouseMark mark = true) : Text.IsWord mark := by
  rcases isHouseMark_iff.1 h with rfl | rfl <;> decide

theorem join_concat (hne : as ≠ []) (number : Word) : join (as ++ [number]) = join as ++ ' ' :: number := by
  induction as with
  | nil => exact absurd rfl hne
  | cons w ws ih =>
    cases ws with
    | nil => rfl
    | cons v ws =>
      have hrest := ih (List.cons_ne_nil v ws)
      rw [List.cons_append, List.cons_append, join, ← List.cons_append, hrest, join, List.append_assoc,
        List.cons_append]

/-! ## In front of the city and behind the house -/

theorem searchWords_front {ps : List Word} (hps : cityMark ∉ ps) (rs : List Word) :
    searchWords (ps ++ cityMark :: rs) = searchWords (cityMark :: rs) := by
  have hnil : afterCity (cityMark :: rs) = rs := afterCity_append List.not_mem_nil rs
  rw [searchWords, searchWords, afterCity_append hps, hnil]

theorem ne_cityMark (h : isHouseMark mark = true) : mark ≠ cityMark := by
  rintro rfl
  exact absurd h (by decide)

/-- Behind words without a house mark, a house mark leaves the word behind it and nothing more. -/
theorem searchWords_house (behind : BehindCity as rs) (free : HouseFree rs) (hmark : isHouseMark mark = true)
    (hcity : cityMark ∈ as ∨ number ≠ cityMark ∧ cityMark ∉ ss) :
    searchWords (as ++ mark :: number :: ss) = searchWords as ++ [expand number] := by
  -- the city cut sees the house too: it must not find its first mark behind it
  have hafter : afterCity (as ++ mark :: number :: ss) = rs ++ mark :: number :: ss := by
    obtain ⟨ps, hps, rfl⟩ | ⟨has, rfl⟩ := behind
    · rw [List.append_assoc, List.cons_append, afterCity_append hps]
    · obtain hmem | ⟨hnumber, hss⟩ := hcity
      · exact absurd hmem has
      · refine afterCity_of_notMem ?_
        simp [has, (ne_cityMark hmark).symm, hnumber.symm, hss]
  rw [searchWords, searchWords, hafter, upToHouse_append free hmark, behind.afterCity_eq,
    upToHouse_of_houseFree free, List.map_append]
  rfl

/-! ## Texts -/

def followedBy (text : String) (word : Word) : String :=
  if text = "" then String.ofList word else text ++ " " ++ String.ofList word

theorem searchForm_followedBy {a b : String} {word : Word}
    (h : searchWords (Text.words b.toList) = searchWords (Text.words a.toList) ++ [word]) :
    searchForm b = followedBy (searchForm a) word := by
  have hword : ∀ w ∈ searchWords (Text.words a.toList), Text.IsWord w :=
    isWord_of_mem_searchWords fun _ hw => Text.isWord_of_mem_words hw
  rw [searchForm, h, followedBy, searchForm]
  by_cases hnil : searchWords (Text.words a.toList) = []
  · rw [hnil]
    rfl
  · have hne : String.ofList (join (searchWords (Text.words a.toList))) ≠ "" := by
      intro hempty
      have hjoin := congrArg String.toList hempty
      rw [String.toList_ofList] at hjoin
      exact hnil ((join_eq_nil_iff hword).1 hjoin)
    rw [if_neg hne, join_concat hnil]
    simp [String.ofList_append, String.append_assoc]

/-- What the search form of an address does not depend on. Addresses made of the same words have one form, and it
is made of its own words with single blanks between them. What stands in front of the city mark makes no difference,
nor does what stands behind the word after the house mark, provided that there is no house mark before and no city
mark behind that would be the first; the form is then that of the address without its house, and the number. -/
theorem searchForm_noise :
    (∀ (x y : String) (ws : List Word), Text.MadeOf x.toList ws → Text.MadeOf y.toList ws →
        searchForm x = searchForm y) ∧
      (∀ x : String, searchForm x = String.ofList (join (Text.words (searchForm x).toList)) ∧
        Text.Tidy (searchForm x).toList) ∧
      (∀ p r : String, cityMark ∉ Text.words p.toList →
        searchForm (p ++ " г " ++ r) = searchForm ("г " ++ r)) ∧
      ∀ (a h n s : String) (rs : List Word), h = "д" ∨ h = "дом" → Text.IsWord n.toList →
        BehindCity (Text.words a.toList) rs → HouseFree rs →
        cityMark ∈ Text.words a.toList ∨ n.toList ≠ cityMark ∧ cityMark ∉ Text.words s.toList →
        searchForm (a ++ " " ++ h ++ " " ++ n ++ " " ++ s) = searchForm (a ++ " " ++ h ++ " " ++ n) ∧
          searchForm (a ++ " " ++ h ++ " " ++ n) = followedBy (searchForm a) (expand n.toList) := by
  refine ⟨?spacing, fun x => ⟨searchForm_eq_join x, ?tidy⟩, ?front, ?house⟩
  case spacing =>
    intro x y ws hx hy
    rw [searchForm, searchForm, Text.madeOf_iff.1 hx, Text.madeOf_iff.1 hy]
  case tidy =>
    rw [searchForm, String.toList_ofList]
    exact tidy_join (isWord_of_mem_searchWords fun _ hw => Text.isWord_of_mem_words hw)
  case front =>
    intro p r hp
    have hmarked : (p ++ " г " ++ r).toList = p.toList ++ ' ' :: (cityMark ++ ' ' :: r.toList) := by
      simp [cityMark]
    have halone : ("г " ++ r).toList = cityMark ++ ' ' :: r.toList := by simp [cityMark]
    rw [searchForm, searchForm, hmarked, halone, words_behind p isWord_cityMark, searchWords_front hp,
      Text.words_append_blank rfl, Text.words_of_isWord isWord_cityMark, List.singleton_append]
  case house =>
    intro a h n s rs hh hn behind free hcity
    have hmark : isHouseMark h.toList = true := by rcases hh with rfl | rfl <;> decide
    have hword := isWord_of_isHouseMark hmark
    have hlong : Text.words (a ++ " " ++ h ++ " " ++ n ++ " " ++ s).toList
        = Text.words a.toList ++ h.toList :: n.toList :: Text.words s.toList := by
      have htext : (a ++ " " ++ h ++ " " ++ n ++ " " ++ s).toList
          = a.toList ++ ' ' :: (h.toList ++ ' ' :: (n.toList ++ ' ' :: s.toList)) := by simp
      rw [htext, words_behind a hword, Text.words_append_blank rfl, Text.words_of_isWord hn,
        List.singleton_append]
    have hshort : Text.words (a ++ " " ++ h ++ " " ++ n).toList
        = Text.words a.toList ++ [h.toList, n.toList] := by
      have htext : (a ++ " " ++ h ++ " " ++ n).toList
          = a.toList ++ ' ' :: (h.toList ++ ' ' :: n.toList) := by simp
      rw [htext, words_behind a hword, Text.words_of_isWord hn]
    have hcity' : cityMark ∈ Text.words a.toList ∨ n.toList ≠ cityMark ∧ cityMark ∉ ([] : List Word) :=
      hcity.imp_right fun hnumber => ⟨hnumber.1, by simp⟩
    have hform := searchForm_followedBy (a := a) (b := a ++ " " ++ h ++ " " ++ n)
      (hshort ▸ searchWords_house behind free hmark hcity')
    refine ⟨?_, hform⟩
    rw [hform]
    exact searchForm_followedBy (hlong ▸ searchWords_house behind free hmark hcity)

theorem searchForm_noise_tver :
    searchForm " г  Тверь" = searchForm "г\tТверь\n" ∧
      cityMark ∉ Text.words "Тверская обл,".toList ∧
      searchForm ("Тверская обл," ++ " г " ++ "Тверь") = searchForm ("г " ++ "Тверь") ∧
      BehindCity (Text.words "г Тверь, пр-кт Ленина,".toList) ["Тверь,".toList, "пр-кт".toList, "Ленина,".toList] ∧
      HouseFree ["Тверь,".toList, "пр-кт".toList, "Ленина,".toList] ∧
      searchForm ("г Тверь, пр-кт Ленина," ++ " " ++ "дом" ++ " " ++ "4" ++ " " ++ "стр 1, г Москва")
        = "Тверь, проспект Ленина, 4" := by
  obtain ⟨spacing, -, front, house⟩ := searchForm_noise
  have hspacing := spacing " г  Тверь" "г\tТверь\n" ["г".toList, "Тверь".toList]
    (Text.madeOf_iff.2 (by decide +kernel)) (Text.madeOf_iff.2 (by decide +kernel))
  have hcity : cityMark ∉ Text.words "Тверская обл,".toList := by decide +kernel
  have hbehind : BehindCity (Text.words "г Тверь, пр-кт Ленина,".toList)
      ["Тверь,".toList, "пр-кт".toList, "Ленина,".toList] := .inl ⟨[], by simp, by decide +kernel⟩
  have hfree : HouseFree ["Тверь,".toList, "пр-кт".toList, "Ленина,".toList] := by
    unfold HouseFree
    decide +kernel
  -- the city mark behind the number does no harm, because the city is named before
  obtain ⟨hsuffix, hnumber⟩ := house "г Тверь, пр-кт Ленина," "дом" "4" "стр 1, г Москва" _ (.inr rfl) (by decide)
    hbehind hfree (.inl (by decide +kernel))
  refine ⟨hspacing, hcity, front _ _ hcity, hbehind, hfree, ?_⟩
  rw [hsuffix, hnumber]
  decide +kernel

end Matchday.Address
