import Matchday.Proofs.Json.Numbers

/-!
Which texts spell a document, as the grammar of JSON has it and whatever reads them. Around values and names there
may be space; a character of a string stands for itself, is escaped by a letter or is given by its code, which may
take two codes; exponents of numbers have their own variety. So a document has many texts, and the one that is
written for it is among them.

Main statement: `Json.Plain.spells_render`.
-/

namespace Matchday.Json
set_option autoImplicit false

/-! ## Space and strings -/

/-- Nothing but space. -/
def Spaces (cs : List Char) : Prop := ∀ c ∈ cs, isSpace c = true

/-- A text with space around it. -/
def Padded (core cs : List Char) : Prop :=
  ∃ before after, Spaces before ∧ Spaces after ∧ cs = before ++ (core ++ after)

/-- The texts of one part of a string. -/
inductive PieceText : List Char → Piece → Prop where
  | plain {c : Char} (quote : c ≠ '"') (backslash : c ≠ '\\') (control : 0x20 ≤ c.toNat) : PieceText [c] (.char c)
  | escaped {letter c : Char} (h : escaped? letter = some c) : PieceText ['\\', letter] (.char c)
  | code {a b c d : Char} {i j k l : Nat} (ha : Text.hexValue? a = some i) (hb : Text.hexValue? b = some j)
      (hc : Text.hexValue? c = some k) (hd : Text.hexValue? d = some l) :
      PieceText ['\\', 'u', a, b, c, d] (.code (((i * 16 + j) * 16 + k) * 16 + l))

/-- The texts of the parts of a string, one behind the other. -/
inductive PiecesText : List Char → List Piece → Prop where
  | nil : PiecesText [] []
  | cons {cs cs' : List Char} {p : Piece} {ps : List Piece} (first : PieceText cs p) (rest : PiecesText cs' ps) :
      PiecesText (cs ++ cs') (p :: ps)

/-- The texts of a string. If its codes do not pair up it is a string, but not the string of any text. -/
def StringText (cs : List Char) (s : Option String) : Prop :=
  ∃ body ps, PiecesText body ps ∧ cs = '"' :: (body ++ ['"']) ∧ s = (Piece.text ps).map String.ofList

/-! ## Documents -/

/-- What a text may spell: a value, or what stands between the brackets of an array or an object. -/
inductive Phrase where
  | value (v : Json)
  | items (vs : List Json)
  | members (ms : List (Option String × Json))

/-- The texts of a phrase. -/
inductive Spells : List Char → Phrase → Prop where
  | null : Spells "null".toList (.value .null)
  | trueWord : Spells "true".toList (.value (.bool true))
  | falseWord : Spells "false".toList (.value (.bool false))
  | number {cs : List Char} {n : Number} (h : NumberText cs n) : Spells cs (.value (.number n))
  | string {cs : List Char} {s : Option String} (h : StringText cs s) : Spells cs (.value (.string s))
  | emptyArray {cs : List Char} (h : Spaces cs) : Spells ('[' :: (cs ++ [']'])) (.value (.array []))
  | array {cs : List Char} {vs : List Json} (h : Spells cs (.items vs)) :
      Spells ('[' :: (cs ++ [']'])) (.value (.array vs))
  | emptyObject {cs : List Char} (h : Spaces cs) : Spells ('\x7b' :: (cs ++ ['\x7d'])) (.value (.object []))
  | object {cs : List Char} {ms : List (Option String × Json)} (h : Spells cs (.members ms)) :
      Spells ('\x7b' :: (cs ++ ['\x7d'])) (.value (.object ms))
  | padded {core cs : List Char} {v : Json} (h : Spells core (.value v)) (pad : Padded core cs) :
      Spells cs (.value v)
  | item {cs : List Char} {v : Json} (h : Spells cs (.value v)) : Spells cs (.items [v])
  | items {cs cs' : List Char} {v : Json} {vs : List Json} (first : Spells cs (.value v))
      (rest : Spells cs' (.items vs)) : Spells (cs ++ ',' :: cs') (.items (v :: vs))
  | member {name cs cs' : List Char} {s : Option String} {v : Json} (hname : StringText name s)
      (pad : Padded name cs) (h : Spells cs' (.value v)) : Spells (cs ++ ':' :: cs') (.members [(s, v)])
  | members {name cs cs' cs'' : List Char} {s : Option String} {v : Json} {ms : List (Option String × Json)}
      (hname : StringText name s) (pad : Padded name cs) (first : Spells cs' (.value v))
      (rest : Spells cs'' (.members ms)) :
      Spells ((cs ++ ':' :: cs') ++ ',' :: cs'') (.members ((s, v) :: ms))

theorem Padded.refl (cs : List Char) : Padded cs cs :=
  ⟨[], [], fun _ h => absurd h List.not_mem_nil, fun _ h => absurd h List.not_mem_nil, by simp⟩

/-! ## What is written -/

/-- A document that has a text of its own: its numbers have the shape that JSON asks for and its strings and
names have a text. -/
inductive Plain : Json → Prop where
  | null : Plain .null
  | bool (b : Bool) : Plain (.bool b)
  | number {n : Number} (h : n.WellFormed) : Plain (.number n)
  | string (s : String) : Plain (.string (some s))
  | array {items : List Json} (h : ∀ v ∈ items, Plain v) : Plain (.array items)
  | object {members : List (Option String × Json)} (names : ∀ m ∈ members, m.1.isSome)
      (values : ∀ m ∈ members, Plain m.2) : Plain (.object members)

/-- The three ways in which a character is written: with an escape letter, by its code or as it is. -/
theorem stringChar_cases (c : Char) :
    (∃ e, escaped? e = some c ∧ stringChar c = ['\\', e]) ∨
    (c.toNat < 0x20 ∧ stringChar c =
      ['\\', 'u', '0', '0', Text.hexDigit (c.toNat / 16), Text.hexDigit (c.toNat % 16)]) ∨
    (c ≠ '"' ∧ c ≠ '\\' ∧ ¬c.toNat < 0x20 ∧ stringChar c = [c]) := by
  unfold stringChar
  split_ifs with quote backslash backspace formFeed lineFeed carriageReturn tab control
  · exact .inl ⟨'"', congrArg some quote.symm, rfl⟩
  · exact .inl ⟨'\\', congrArg some backslash.symm, rfl⟩
  · exact .inl ⟨'b', congrArg some backspace.symm, rfl⟩
  · exact .inl ⟨'f', congrArg some formFeed.symm, rfl⟩
  · exact .inl ⟨'n', congrArg some lineFeed.symm, rfl⟩
  · exact .inl ⟨'r', congrArg some carriageReturn.symm, rfl⟩
  · exact .inl ⟨'t', congrArg some tab.symm, rfl⟩
  · exact .inr (.inl ⟨control, rfl⟩)
  · exact .inr (.inr ⟨quote, backslash, control, rfl⟩)

/-- A character of a string is one part of it, whether it is escaped or not. -/
theorem stringChar_pieceText (c : Char) :
    ∃ p, PieceText (stringChar c) p ∧ ∀ ps, Piece.text (p :: ps) = (Piece.text ps).map (c :: ·) := by
  obtain ⟨e, he, htext⟩ | ⟨control, htext⟩ | ⟨quote, backslash, control, htext⟩ := stringChar_cases c
  · exact ⟨.char c, htext ▸ .escaped he, fun ps => by rw [Piece.text]⟩
  · have high := Text.hexValue?_hexDigit ⟨c.toNat / 16, by omega⟩
    have low := Text.hexValue?_hexDigit ⟨c.toNat % 16, by omega⟩
    have zero : Text.hexValue? '0' = some 0 := rfl
    have hcode : PieceText ['\\', 'u', '0', '0', Text.hexDigit (c.toNat / 16), Text.hexDigit (c.toNat % 16)]
        (.code (((0 * 16 + 0) * 16 + c.toNat / 16) * 16 + c.toNat % 16)) := .code zero zero high low
    have hvalue : ((0 * 16 + 0) * 16 + c.toNat / 16) * 16 + c.toNat % 16 = c.toNat := by omega
    refine ⟨.code c.toNat, ?_, fun ps => ?_⟩
    · rw [htext]
      rwa [hvalue] at hcode
    · rw [Piece.text.eq_def]
      dsimp only
      rw [if_pos (Or.inl (by omega)), Char.ofNat_toNat]
  · exact ⟨.char c, htext ▸ .plain quote backslash (by omega), fun ps => by rw [Piece.text]⟩

theorem stringText_stringText (s : String) : StringText (stringText (some s)) (some s) := by
  have hpieces : ∀ cs : List Char, ∃ ps, PiecesText (cs.flatMap stringChar) ps ∧ Piece.text ps = some cs := by
    intro cs
    induction cs with
    | nil => exact ⟨[], .nil, rfl⟩
    | cons c cs ih =>
      obtain ⟨p, hp, htext⟩ := stringChar_pieceText c
      obtain ⟨ps, hps, htexts⟩ := ih
      exact ⟨p :: ps, .cons hp hps, by rw [htext, htexts, Option.map_some]⟩
  obtain ⟨ps, hps, htext⟩ := hpieces s.toList
  exact ⟨s.toList.flatMap stringChar, ps, hps, rfl, by rw [htext, Option.map_some, String.ofList_toList]⟩

theorem spells_renderItems {items : List Json} (hne : items ≠ [])
    (h : ∀ v ∈ items, Spells (render v) (.value v)) : Spells (renderItems items) (.items items) := by
  induction items with
  | nil => exact absurd rfl hne
  | cons v items ih =>
    obtain ⟨hv, hitems⟩ := List.forall_mem_cons.1 h
    cases items with
    | nil =>
      rw [renderItems]
      exact .item hv
    | cons w items =>
      rw [renderItems]
      exact .items hv (ih (List.cons_ne_nil w items) hitems)

theorem spells_renderMembers {members : List (Option String × Json)} (hne : members ≠ [])
    (names : ∀ m ∈ members, m.1.isSome) (h : ∀ m ∈ members, Spells (render m.2) (.value m.2)) :
    Spells (renderMembers members) (.members members) := by
  induction members with
  | nil => exact absurd rfl hne
  | cons m members ih =>
    obtain ⟨hm, hmembers⟩ := List.forall_mem_cons.1 h
    obtain ⟨hname, hnames⟩ := List.forall_mem_cons.1 names
    obtain ⟨name, v⟩ := m
    obtain ⟨name, rfl⟩ := Option.isSome_iff_exists.1 hname
    cases members with
    | nil =>
      rw [renderMembers]
      exact .member (stringText_stringText name) (.refl _) hm
    | cons m members =>
      have hrest := ih (List.cons_ne_nil m members) hnames hmembers
      have htext : renderMembers ((some name, v) :: m :: members)
          = (stringText (some name) ++ ':' :: render v) ++ ',' :: renderMembers (m :: members) := by
        rw [renderMembers, List.append_assoc, List.cons_append]
      rw [htext]
      exact .members (stringText_stringText name) (.refl _) hm hrest

/-- The text that is written for a plain document spells it. -/
theorem Plain.spells_render {v : Json} (h : v.Plain) : Spells (render v) (.value v) := by
  have hnone : Spaces [] := fun _ h => absurd h List.not_mem_nil
  induction h with
  | null =>
    rw [render]
    exact .null
  | bool b =>
    cases b
    · rw [render]
      exact .falseWord
    · rw [render]
      exact .trueWord
  | number h =>
    rw [render]
    exact .number (numberText_render h)
  | string s =>
    rw [render]
    exact .string (stringText_stringText s)
  | @array items _ ih =>
    rw [render]
    obtain rfl | hne := eq_or_ne items []
    · exact .emptyArray hnone
    · exact .array (spells_renderItems hne ih)
  | @object members names _ ih =>
    rw [render]
    obtain rfl | hne := eq_or_ne members []
    · exact .emptyObject hnone
    · exact .object (spells_renderMembers hne names ih)

end Matchday.Json
