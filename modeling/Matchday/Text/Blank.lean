/-!
White space: cutting a text into words, and trimming it. The words of a text are its maximal runs
of characters that are not blank; how many blanks stand between two words, and which, does not
matter (`words_blank_append`, `words_append_blank`).
-/

namespace Matchday.Text
set_option autoImplicit false

/-- The characters with the property White_Space. -/
def isBlank (c : Char) : Bool :=
  let n := c.toNat
  (9 ≤ n && n ≤ 13) || n == 0x20 || n == 0x85 || n == 0xa0 || n == 0x1680
    || (0x2000 ≤ n && n ≤ 0x200a) || n == 0x2028 || n == 0x2029 || n == 0x202f || n == 0x205f
    || n == 0x3000

/-- The maximal runs of characters that are not blank, in order. -/
def words : List Char → List (List Char)
  | [] => []
  | c :: rest =>
    if isBlank c then words rest
    else if rest.head?.any (!isBlank ·) then
      match words rest with
      | [] => [[c]]
      | w :: ws => (c :: w) :: ws
    else [c] :: words rest

/-- A text without the blanks at its start. -/
def trimStart (cs : List Char) : List Char := cs.dropWhile isBlank

/-- A text without the blanks at its ends. -/
def trim (cs : List Char) : List Char := (trimStart (trimStart cs).reverse).reverse

/-! ## Small lemmas -/

theorem words_nil : words [] = [] := rfl

theorem words_cons_blank {c : Char} (h : isBlank c = true) (cs : List Char) :
    words (c :: cs) = words cs := by
  simp [words, h]

theorem words_blank_append {bs : List Char} (h : ∀ c ∈ bs, isBlank c = true) (cs : List Char) :
    words (bs ++ cs) = words cs := by
  induction bs with
  | nil => rfl
  | cons b bs ih =>
    rw [List.cons_append, words_cons_blank (h b (by simp)), ih fun c hc => h c (by simp [hc])]

/-- One word alone, before a blank or the end of the text. -/
theorem words_word_append {w : List Char} (hw : w ≠ []) (h : ∀ c ∈ w, isBlank c = false)
    {cs : List Char} (hcs : cs.head?.all isBlank = true) :
    words (w ++ cs) = w :: words cs := by
  induction w with
  | nil => exact absurd rfl hw
  | cons c w ih =>
    have hc := h c (by simp)
    cases w with
    | nil =>
      cases cs with
      | nil => simp [words, hc]
      | cons d ds =>
        have hd : isBlank d = true := by simpa using hcs
        simp [words, hc, hd]
    | cons d ds =>
      have hd := h d (by simp)
      have ih' := ih (by simp) (fun x hx => h x (by simp [hx]))
      simp only [List.cons_append] at ih' ⊢
      rw [words, ih']
      simp [hc, hd]

end Matchday.Text
