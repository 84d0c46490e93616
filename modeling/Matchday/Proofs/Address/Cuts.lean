import Matchday.Address
import Matchday.Proofs.Text.Words
import Mathlib.Data.List.TakeWhile

/-!
How an address comes into search form, word by word. Both cuts are told by where the first mark stands: the words
up to the city mark go, and behind the house mark one word stays. Writing a word out makes a word that stands
for itself, since no full type of a street is an abbreviation; so neither the limits of words nor the marks change.

Main statement: `Address.words_searchForm`.
-/

namespace Matchday.Address
set_option autoImplicit false

variable {w mark : Word} {ws ps rs : List Word}

/-! ## Expansion -/

theorem fullType?_eq_some {full : Word} (h : fullType? w = some full) : ∃ t ∈ streetTypes, t.2.toList = full := by
  obtain ⟨t, ht, hfull⟩ := Option.map_eq_some_iff.1 h
  exact ⟨t, List.mem_of_find?_eq_some ht, hfull⟩

theorem streetTypes_isWord : ∀ t ∈ streetTypes, Text.IsWord t.2.toList := by decide +kernel

/-- What may stand behind a type of street. -/
def tails : List Word := [[], ['.'], [','], ['.', ',']]

/-- No full type is an abbreviation of another one. -/
theorem expand_full : ∀ t ∈ streetTypes, ∀ tail ∈ tails,
    expand (t.2.toList ++ tail) = t.2.toList ++ tail := by decide +kernel

theorem abbreviation_comma (w : Word) : (abbreviation w).2 = [] ∨ (abbreviation w).2 = [','] := by
  rw [abbreviation]
  cases dropLast? ',' w with
  | none => exact .inl rfl
  | some core => exact .inr rfl

/-- A word is written out as a full type, with or without a comma, or it stays. -/
theorem expand_cases (w : Word) :
    expand w = w ∨ ∃ t ∈ streetTypes, ∃ comma, (comma = [] ∨ comma = [',']) ∧ expand w = t.2.toList ++ comma := by
  rw [expand]
  cases hfull : fullType? (abbreviation w).1 with
  | none => exact .inl rfl
  | some full =>
    obtain ⟨t, ht, rfl⟩ := fullType?_eq_some hfull
    exact .inr ⟨t, ht, (abbreviation w).2, abbreviation_comma w, rfl⟩

theorem expand_expand (w : Word) : expand (expand w) = expand w := by
  obtain h | ⟨t, ht, comma, hcomma, h⟩ := expand_cases w
  · rw [h, h]
  · rw [h]
    refine expand_full t ht comma ?_
    rcases hcomma with rfl | rfl <;> simp [tails]

theorem expand_isWord (hw : Text.IsWord w) : Text.IsWord (expand w) := by
  obtain h | ⟨t, ht, comma, hcomma, h⟩ := expand_cases w
  · rwa [h]
  · have hfull := streetTypes_isWord t ht
    rw [h]
    refine ⟨by simp [hfull.1], ?_⟩
    have hblank : ∀ c ∈ comma, Text.isBlank c = false := by
      rcases hcomma with rfl | rfl
      · exact fun _ hc => absurd hc List.not_mem_nil
      · exact List.forall_mem_singleton.2 rfl
    intro c hc
    rcases List.mem_append.1 hc with hc | hc
    · exact hfull.2 c hc
    · exact hblank c hc

/-! ## Cuts -/

/-- What stands behind the first city mark of some words, which may have none. -/
def BehindCity (ws rs : List Word) : Prop :=
  (∃ ps, cityMark ∉ ps ∧ ws = ps ++ cityMark :: rs) ∨ cityMark ∉ ws ∧ ws = rs

theorem afterCity_of_notMem (h : cityMark ∉ ws) : afterCity ws = ws := by
  have hnil : ws.dropWhile (· ≠ cityMark) = [] := by
    rw [List.dropWhile_eq_nil_iff]
    intro w hw
    simpa using fun heq : w = cityMark => h (heq ▸ hw)
  rw [afterCity, hnil]

theorem afterCity_append (h : cityMark ∉ ps) (rs : List Word) : afterCity (ps ++ cityMark :: rs) = rs := by
  have hdrop : (ps ++ cityMark :: rs).dropWhile (· ≠ cityMark) = cityMark :: rs := by
    rw [List.dropWhile_append_of_pos]
    · simp
    · intro w hw
      simpa using fun heq : w = cityMark => h (heq ▸ hw)
  rw [afterCity, hdrop]

theorem BehindCity.afterCity_eq (h : BehindCity ws rs) : afterCity ws = rs := by
  obtain ⟨ps, hps, rfl⟩ | ⟨hws, rfl⟩ := h
  · exact afterCity_append hps rs
  · exact afterCity_of_notMem hws

theorem behindCity_afterCity (ws : List Word) : BehindCity ws (afterCity ws) := by
  by_cases h : cityMark ∈ ws
  · obtain ⟨ps, rs, rfl, hps⟩ := List.eq_append_cons_of_mem h
    rw [afterCity_append hps]
    exact .inl ⟨ps, hps, rfl⟩
  · rw [afterCity_of_notMem h]
    exact .inr ⟨h, rfl⟩

theorem isHouseMark_iff : isHouseMark w = true ↔ w = "д".toList ∨ w = "дом".toList := by
  rw [isHouseMark, Bool.or_eq_true, decide_eq_true_eq, decide_eq_true_eq]

/-- Whether no house mark is among some words. -/
def HouseFree (ws : List Word) : Prop := ∀ w ∈ ws, isHouseMark w = false

theorem upToHouse_of_houseFree (h : HouseFree ws) : upToHouse ws = ws := by
  have hpos : ∀ w ∈ ws, (!isHouseMark w) = true := fun w hw => by simp [h w hw]
  rw [upToHouse, List.takeWhile_eq_self_iff.2 hpos, List.dropWhile_eq_nil_iff.2 hpos]
  simp

theorem upToHouse_append (hps : HouseFree ps) (hmark : isHouseMark mark = true) (rs : List Word) :
    upToHouse (ps ++ mark :: rs) = ps ++ rs.take 1 := by
  have hpos : ∀ w ∈ ps, (!isHouseMark w) = true := fun w hw => by simp [hps w hw]
  rw [upToHouse, List.takeWhile_append_of_pos hpos, List.dropWhile_append_of_pos hpos]
  simp [hmark]

theorem upToHouse_cases (ws : List Word) : HouseFree ws ∧ upToHouse ws = ws ∨
    ∃ ps mark rs, HouseFree ps ∧ isHouseMark mark = true ∧ ws = ps ++ mark :: rs ∧
      upToHouse ws = ps ++ rs.take 1 := by
  by_cases h : HouseFree ws
  · exact .inl ⟨h, upToHouse_of_houseFree h⟩
  · refine .inr ?_
    induction ws with
    | nil => exact absurd (fun w hw => by simp at hw) h
    | cons w ws ih =>
      cases hw : isHouseMark w with
      | true =>
        have hnil : HouseFree [] := fun v hv => by simp at hv
        exact ⟨[], w, ws, hnil, hw, rfl, upToHouse_append hnil hw ws⟩
      | false =>
        obtain ⟨ps, mark, rs, hps, hmark, rfl, -⟩ := ih fun hfree => h (List.forall_mem_cons.2 ⟨hw, hfree⟩)
        have hcons : HouseFree (w :: ps) := List.forall_mem_cons.2 ⟨hw, hps⟩
        exact ⟨w :: ps, mark, rs, hcons, hmark, rfl, upToHouse_append hcons hmark rs⟩

theorem mem_of_mem_upToHouse (h : w ∈ upToHouse ws) : w ∈ ws := by
  obtain ⟨-, hsame⟩ | ⟨ps, mark, rs, -, -, rfl, hcut⟩ := upToHouse_cases ws
  · rwa [hsame] at h
  · rw [hcut, List.mem_append] at h
    rcases h with h | h
    · simp [h]
    · simp [List.mem_of_mem_take h]

theorem mem_of_mem_afterCity (h : w ∈ afterCity ws) : w ∈ ws := by
  obtain ⟨ps, -, heq⟩ | ⟨-, heq⟩ := behindCity_afterCity ws
  · rw [heq]
    simp [h]
  · rwa [heq]

/-! ## Joining -/

theorem join_eq_nil_iff (hws : ∀ w ∈ ws, Text.IsWord w) : join ws = [] ↔ ws = [] := by
  cases ws with
  | nil => simp [join]
  | cons w ws =>
    have hw := hws w List.mem_cons_self
    cases ws <;> simp [join, hw.1]

theorem words_join (hws : ∀ w ∈ ws, Text.IsWord w) : Text.words (join ws) = ws := by
  induction ws with
  | nil => rfl
  | cons w ws ih =>
    obtain ⟨hw, hws⟩ := List.forall_mem_cons.1 hws
    cases ws with
    | nil => rw [join, Text.words_of_isWord hw]
    | cons v ws => rw [join, Text.words_append_blank rfl, Text.words_of_isWord hw, ih hws, List.singleton_append]

theorem tidy_join (hws : ∀ w ∈ ws, Text.IsWord w) : Text.Tidy (join ws) := by
  induction ws with
  | nil => exact Text.tidy_nil
  | cons w ws ih =>
    obtain ⟨hw, hws⟩ := List.forall_mem_cons.1 hws
    cases ws with
    | nil => exact hw.tidy
    | cons v ws => exact (ih hws).word_blank hw (by simp [join_eq_nil_iff hws])

/-! ## The whole form -/

theorem isWord_of_mem_searchWords (hws : ∀ v ∈ ws, Text.IsWord v) : ∀ v ∈ searchWords ws, Text.IsWord v := by
  intro v hv
  obtain ⟨u, hu, rfl⟩ := List.mem_map.1 hv
  exact expand_isWord (hws u (mem_of_mem_afterCity (mem_of_mem_upToHouse hu)))

/-- The words of the search form are those of the address, cut and written out. -/
theorem words_searchForm (address : String) :
    Text.words (searchForm address).toList = searchWords (Text.words address.toList) := by
  rw [searchForm, String.toList_ofList,
    words_join (isWord_of_mem_searchWords fun _ hw => Text.isWord_of_mem_words hw)]

theorem searchForm_eq_join (address : String) :
    searchForm address = String.ofList (join (Text.words (searchForm address).toList)) := by
  rw [words_searchForm, searchForm]

end Matchday.Address
