import Matchday.Text.Blank
import Mathlib.Data.List.Chain

/-!
What the words of a text are. A text is made of words with blanks in front of them, between them and behind the
last; the words are all there is to choose, so a text is made of its own words and of no others.

Main statements: `Text.madeOf_iff`, `Text.words_append_blank`.
-/

namespace Matchday.Text
set_option autoImplicit false

/-- Characters that can be a word: at least one, and none is blank. -/
def IsWord (w : List Char) : Prop := w ≠ [] ∧ ∀ c ∈ w, isBlank c = false

instance (w : List Char) : Decidable (IsWord w) :=
  decidable_of_iff (w ≠ [] ∧ w.all (!isBlank ·) = true) (by simp [IsWord])

/-- A text made of these words: the blanks in front of a word may be missing from the first only. -/
inductive MadeOf : List Char → List (List Char) → Prop where
  | blanks {bs : List Char} (blank : ∀ c ∈ bs, isBlank c = true) : MadeOf bs []
  | word (bs w : List Char) {cs : List Char} {ws : List (List Char)} (blank : ∀ c ∈ bs, isBlank c = true) (word : IsWord w)
      (ends : cs.head?.all isBlank = true) (rest : MadeOf cs ws) : MadeOf (bs ++ (w ++ cs)) (w :: ws)

variable {w cs ds : List Char} {ws : List (List Char)} {b : Char}

/-! ## Texts and their words -/

theorem words_eq_of_madeOf (h : MadeOf cs ws) : words cs = ws := by
  induction h with
  | @blanks bs blank =>
    have hbs := words_blank_append blank []
    rwa [List.append_nil] at hbs
  | word bs w blank word ends _ ih => rw [words_blank_append blank, words_word_append word.1 word.2 ends, ih]

theorem MadeOf.blank_cons (hb : isBlank b = true) (h : MadeOf cs ws) : MadeOf (b :: cs) ws := by
  have hcons : ∀ bs : List Char, (∀ c ∈ bs, isBlank c = true) → ∀ c ∈ b :: bs, isBlank c = true := by
    intro bs blank
    simpa [hb] using blank
  cases h with
  | blanks blank => exact .blanks (hcons _ blank)
  | word bs w blank word ends rest => exact .word (b :: bs) w (hcons bs blank) word ends rest

/-- A character more at the front of a text that begins with a word makes that word longer. -/
theorem MadeOf.cons_word {c d : Char} (hc : isBlank c = false) (hd : isBlank d = false)
    (h : MadeOf (d :: cs) ws) : ∃ w vs, ws = w :: vs ∧ MadeOf (c :: d :: cs) ((c :: w) :: vs) := by
  generalize htext : d :: cs = text at h
  cases h with
  | blanks blank =>
    have hblank := blank d (htext ▸ List.mem_cons_self)
    rw [hd] at hblank
    cases hblank
  | @word bs w rest vs blank word ends hrest =>
    cases bs with
    | nil =>
      refine ⟨w, vs, rfl, ?_⟩
      exact .word [] (c :: w) (by simp) ⟨by simp, by simpa [hc] using word.2⟩ ends hrest
    | cons b bs =>
      injection htext with hhead
      have hblank := blank b List.mem_cons_self
      rw [← hhead, hd] at hblank
      cases hblank

theorem madeOf_words (cs : List Char) : MadeOf cs (words cs) := by
  induction cs with
  | nil => exact .blanks (by simp)
  | cons c rest ih =>
    rw [words]
    split
    · rename_i hc
      exact ih.blank_cons hc
    · rename_i hc
      have hc : isBlank c = false := by simpa using hc
      split
      · rename_i hrest
        obtain ⟨d, ds, rfl⟩ : ∃ d ds, rest = d :: ds := by
          cases rest with
          | nil => simp at hrest
          | cons d ds => exact ⟨d, ds, rfl⟩
        obtain ⟨w, vs, hws, hmade⟩ := ih.cons_word hc (by simpa using hrest)
        rw [hws]
        exact hmade
      · rename_i hrest
        have ends : rest.head?.all isBlank = true := by
          cases rest with
          | nil => rfl
          | cons d ds => simpa using hrest
        exact .word [] [c] (by simp) ⟨by simp, by simpa using hc⟩ ends ih

/-- A text is made of its words and of no others. -/
theorem madeOf_iff : MadeOf cs ws ↔ words cs = ws :=
  ⟨words_eq_of_madeOf, fun h => h ▸ madeOf_words cs⟩

theorem isWord_of_mem_words (h : w ∈ words cs) : IsWord w := by
  generalize hws : words cs = ws at h
  have hmade := madeOf_iff.2 hws
  clear hws
  induction hmade with
  | blanks _ => simp at h
  | word _ _ _ word _ _ ih =>
    rcases List.mem_cons.1 h with rfl | h
    · exact word
    · exact ih h

/-- A blank divides the words of a text. -/
theorem words_append_blank (hb : isBlank b = true) (cs ds : List Char) :
    words (cs ++ b :: ds) = words cs ++ words ds := by
  -- on how the first text is made, since the blank may have to end its last word
  have hmade := madeOf_words cs
  generalize words cs = ws at hmade
  induction hmade with
  | blanks blank => rw [words_blank_append blank, words_cons_blank hb, List.nil_append]
  | @word bs w cs ws blank word ends rest ih =>
    have ends' : (cs ++ b :: ds).head?.all isBlank = true := by
      cases cs with
      | nil => simpa using hb
      | cons c cs => exact ends
    rw [List.append_assoc, List.append_assoc, words_blank_append blank, words_word_append word.1 word.2 ends',
      ih, List.cons_append]

theorem words_of_isWord (hw : IsWord w) : words w = [w] := by
  have h : words (w ++ []) = w :: words [] := words_word_append hw.1 hw.2 rfl
  rwa [List.append_nil] at h

/-! ## Tidy texts -/

/-- No blank at either end of a text, and no two of them side by side. -/
structure Tidy (cs : List Char) : Prop where
  first : ∀ c ∈ cs.head?, isBlank c = false
  last : ∀ c ∈ cs.getLast?, isBlank c = false
  single : cs.IsChain fun c d => isBlank c = false ∨ isBlank d = false

theorem tidy_nil : Tidy [] := ⟨by simp, by simp, .nil⟩

theorem IsWord.tidy (hw : IsWord w) : Tidy w where
  first := fun c hc => hw.2 c (List.mem_of_mem_head? hc)
  last := fun c hc => hw.2 c (List.mem_of_mem_getLast? hc)
  single := by
    refine List.Pairwise.isChain (List.pairwise_of_forall_mem_list ?_)
    intro c hc d _
    exact .inl (hw.2 c hc)

/-- A word, one blank and a text that is not empty. -/
theorem Tidy.word_blank (hw : IsWord w) (h : Tidy cs) (hne : cs ≠ []) : Tidy (w ++ b :: cs) := by
  obtain ⟨c, cs, rfl⟩ := List.exists_cons_of_ne_nil hne
  obtain ⟨d, ds, rfl⟩ := List.exists_cons_of_ne_nil hw.1
  have hfirst := h.first c rfl
  refine ⟨by simpa using hw.2 d, ?_, ?_⟩
  · simpa [List.getLast?_append, List.getLast?_cons] using h.last
  · refine List.isChain_append.2 ⟨hw.tidy.single, ?_, ?_⟩
    · exact List.isChain_cons_cons.2 ⟨.inr hfirst, h.single⟩
    · intro x hx y _
      exact .inl (hw.tidy.last x hx)

end Matchday.Text
