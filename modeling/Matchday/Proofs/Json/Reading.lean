import Matchday.Json.Reader
import Matchday.Proofs.Json.Grammar

/-!
Every text of a document is read as the document. A text falls into a row of tokens, whatever stands in front of it
and whatever mark follows it, and the row makes up the value wherever one is due. Numbers and words end at the
first character that cannot belong to them, and in the texts of documents space or a mark stands there, or the
text ends. The proof goes by the grammar, one case for each of its rules (`Json.Spells.reads`).

Main statements: `Json.Spells.read?_eq`, `Json.read?_toText`.
-/

namespace Matchday.Json
set_option autoImplicit false

/-! ## From characters to tokens -/

/-- The tokens of a text that is read up to its end from the middle. -/
def Lexer.rest? (l : Lexer) (cs : List Char) : Option (List Token) :=
  (cs.foldlM Lexer.step l).bind Lexer.finish

theorem Lexer.rest?_cons (l : Lexer) (c : Char) (cs : List Char) :
    l.rest? (c :: cs) = (l.step c).bind (·.rest? cs) := by
  rw [rest?, List.foldlM_cons, Option.bind_eq_bind, Option.bind_assoc]
  rfl

theorem Lexer.step_between (done : List Token) (c : Char) :
    Lexer.step ⟨done, .between⟩ c = Lexer.start done c := rfl

theorem Lexer.step_number (done : List Token) (seen : List Char) (c : Char) :
    Lexer.step ⟨done, .number seen⟩ c = if isNumeric c then some ⟨done, .number (c :: seen)⟩
      else (Number.read? seen.reverse).bind fun n => Lexer.start (.number n :: done) c := rfl

theorem Lexer.step_word (done : List Token) (seen : List Char) (c : Char) :
    Lexer.step ⟨done, .word seen⟩ c = if isLetter c then some ⟨done, .word (c :: seen)⟩
      else (word? seen.reverse).bind fun t => Lexer.start (t :: done) c := rfl

theorem Lexer.step_string_quote (done : List Token) (seen : List Piece) :
    Lexer.step ⟨done, .string seen⟩ '"' = some ⟨stringToken seen :: done, .between⟩ := rfl

/-- Whether neither a number nor a word can go on with a text. -/
def Ends (cs : List Char) : Prop := ∀ c ∈ cs.head?, isNumeric c = false ∧ isLetter c = false

/-- A text falls into these tokens, whatever comes before it and whatever mark follows. -/
def Lexes (cs : List Char) (ts : List Token) : Prop :=
  ∀ done rest, Ends rest →
    Lexer.rest? ⟨done, .between⟩ (cs ++ rest) = Lexer.rest? ⟨ts.reverse ++ done, .between⟩ rest

/-- A character that is a token by itself. -/
def Marks (c : Char) (t : Token) : Prop :=
  (isNumeric c = false ∧ isLetter c = false) ∧
    ∀ done, Lexer.start done c = some ⟨t :: done, .between⟩

theorem marks_openArray : Marks '[' .openArray := ⟨by decide, fun _ => rfl⟩
theorem marks_closeArray : Marks ']' .closeArray := ⟨by decide, fun _ => rfl⟩
theorem marks_openObject : Marks '\x7b' .openObject := ⟨by decide, fun _ => rfl⟩
theorem marks_closeObject : Marks '\x7d' .closeObject := ⟨by decide, fun _ => rfl⟩
theorem marks_comma : Marks ',' .comma := ⟨by decide, fun _ => rfl⟩
theorem marks_colon : Marks ':' .colon := ⟨by decide, fun _ => rfl⟩

variable {cs cs' : List Char} {ts ts' : List Token} {c : Char} {t : Token}

theorem Marks.ends (h : Marks c t) (cs : List Char) : Ends (c :: cs) := by
  rintro _ ⟨⟩
  exact h.1

theorem Marks.lexes (h : Marks c t) : Lexes [c] [t] := by
  intro done rest _
  rw [List.singleton_append, Lexer.rest?_cons, Lexer.step_between, h.2 done]
  rfl

/-- Two texts one after the other, the second beginning with a mark if it is not empty. -/
theorem Lexes.append (h : Lexes cs ts) (h' : Lexes cs' ts') (hends : ∀ rest, Ends rest → Ends (cs' ++ rest)) :
    Lexes (cs ++ cs') (ts ++ ts') := by
  intro done rest hrest
  rw [List.append_assoc, h done _ (hends rest hrest), h' _ rest hrest, List.reverse_append,
    List.append_assoc]

theorem Lexes.cons (h : Lexes cs ts) (hmark : Marks c t) : Lexes (c :: cs) (t :: ts) := by
  intro done rest hrest
  rw [List.cons_append, Lexer.rest?_cons, Lexer.step_between, hmark.2 done, Option.bind_some, h _ rest hrest,
    List.reverse_cons, List.append_assoc, List.singleton_append]

theorem Lexes.append_cons (h : Lexes cs ts) (hmark : Marks c t) (h' : Lexes cs' ts') :
    Lexes (cs ++ c :: cs') (ts ++ t :: ts') :=
  h.append (h'.cons hmark) fun _ _ => hmark.ends _

/-! ## Numbers and words -/

theorem start_of_isNumeric (h : isNumeric c = true) (done : List Token) :
    Lexer.start done c = some ⟨done, .number [c]⟩ := by
  have ne : ∀ d, isNumeric d = false → c ≠ d := by
    rintro d hd rfl
    rw [h] at hd
    cases hd
  simp (disch := decide) [Lexer.start, isSpace, h, ne]

theorem start_of_isLetter (h : isLetter c = true) (hnumeric : isNumeric c = false) (done : List Token) :
    Lexer.start done c = some ⟨done, .word [c]⟩ := by
  have ne : ∀ d, isLetter d = false → c ≠ d := by
    rintro d hd rfl
    rw [h] at hd
    cases hd
  simp (disch := decide) [Lexer.start, isSpace, h, hnumeric, ne]

section Run
variable {scan : List Char → Scan} {belongs : Char → Bool}

theorem rest?_gather (more : ∀ done seen c, belongs c = true →
      Lexer.step ⟨done, scan seen⟩ c = some ⟨done, scan (c :: seen)⟩)
    (h : ∀ c ∈ cs, belongs c = true) (done : List Token) (seen rest : List Char) :
    Lexer.rest? ⟨done, scan seen⟩ (cs ++ rest) = Lexer.rest? ⟨done, scan (cs.reverse ++ seen)⟩ rest := by
  induction cs generalizing seen with
  | nil => rfl
  | cons c cs ih =>
    obtain ⟨hc, hcs⟩ := List.forall_mem_cons.1 h
    rw [List.cons_append, Lexer.rest?_cons, more done seen c hc, Option.bind_some, ih hcs,
      List.reverse_cons, List.append_assoc, List.singleton_append]

/-- A token that only ends with what follows it. -/
theorem lexes_gathered (begin : ∀ done, Lexer.start done c = some ⟨done, scan [c]⟩)
    (more : ∀ done seen c, belongs c = true →
      Lexer.step ⟨done, scan seen⟩ c = some ⟨done, scan (c :: seen)⟩)
    (h : ∀ c ∈ cs, belongs c = true)
    (finish : ∀ done, Lexer.finish ⟨done, scan (c :: cs).reverse⟩ = some (t :: done).reverse)
    (stop : ∀ done d, isNumeric d = false ∧ isLetter d = false →
      Lexer.step ⟨done, scan (c :: cs).reverse⟩ d = Lexer.start (t :: done) d) :
    Lexes (c :: cs) [t] := by
  intro done rest hrest
  rw [List.cons_append, Lexer.rest?_cons, Lexer.step_between, begin done, Option.bind_some,
    rest?_gather more h, ← List.reverse_cons]
  cases rest with
  | nil => exact finish done
  | cons d rest =>
    rw [Lexer.rest?_cons, stop done d (hrest d rfl), Lexer.rest?_cons, Lexer.step_between]
    rfl

end Run

theorem lexes_number {n : Number} (h : NumberText cs n) : Lexes cs [.number n] := by
  have hread := h.read?_eq
  have hnumeric := h.isNumeric
  obtain ⟨c, cs, rfl⟩ := List.exists_cons_of_ne_nil h.ne_nil
  obtain ⟨hc, hcs⟩ := List.forall_mem_cons.1 hnumeric
  refine lexes_gathered (start_of_isNumeric hc) (fun done seen d hd => if_pos hd) hcs (fun done => ?_)
    fun done d hd => ?_
  · simp only [Lexer.finish, List.reverse_reverse, hread, Option.map_some]
  · rw [Lexer.step_number, if_neg (Bool.eq_false_iff.1 hd.1), List.reverse_reverse, hread, Option.bind_some]

theorem lexes_word (hc : isLetter c = true) (hnumeric : isNumeric c = false)
    (hcs : cs.all isLetter = true) (hword : word? (c :: cs) = some t) : Lexes (c :: cs) [t] := by
  refine lexes_gathered (start_of_isLetter hc hnumeric) (fun done seen d hd => if_pos hd)
    (List.all_eq_true.1 hcs) (fun done => ?_) fun done d hd => ?_
  · simp only [Lexer.finish, List.reverse_reverse, hword, Option.map_some]
  · rw [Lexer.step_word, if_neg (Bool.eq_false_iff.1 hd.2), List.reverse_reverse, hword, Option.bind_some]

/-! ## Strings and space -/

theorem rest?_pieceText {p : Piece} (h : PieceText cs p) (done : List Token) (seen : List Piece)
    (rest : List Char) : Lexer.rest? ⟨done, .string seen⟩ (cs ++ rest)
      = Lexer.rest? ⟨done, .string (p :: seen)⟩ rest := by
  cases h with
  | @plain c quote backslash control =>
    have hcontrol : ¬c.toNat < 0x20 := by omega
    simp [Lexer.rest?_cons, Lexer.step, quote, backslash, hcontrol]
  | @escaped letter c h =>
    have hu : letter ≠ 'u' := by
      rintro rfl
      cases h
    simp [Lexer.rest?_cons, Lexer.step, hu, h]
  | code ha hb hc hd => simp [Lexer.rest?_cons, Lexer.step, ha, hb, hc, hd]

theorem rest?_piecesText {ps : List Piece} (h : PiecesText cs ps) (done : List Token) (seen : List Piece)
    (rest : List Char) : Lexer.rest? ⟨done, .string seen⟩ (cs ++ rest)
      = Lexer.rest? ⟨done, .string (ps.reverse ++ seen)⟩ rest := by
  induction h generalizing seen with
  | nil => rfl
  | cons first _ ih =>
    rw [List.append_assoc, rest?_pieceText first, ih, List.reverse_cons, List.append_assoc,
      List.singleton_append]

theorem lexes_string {s : Option String} (h : StringText cs s) : Lexes cs [.string s] := by
  obtain ⟨body, ps, hps, rfl, rfl⟩ := h
  intro done rest _
  have hopen : Lexer.start done '"' = some ⟨done, .string []⟩ := rfl
  have htoken : stringToken ps.reverse = .string ((Piece.text ps).map String.ofList) := by
    rw [stringToken, List.reverse_reverse]
  rw [List.cons_append, Lexer.rest?_cons, Lexer.step_between, hopen, Option.bind_some, List.append_assoc,
    rest?_piecesText hps, List.singleton_append, Lexer.rest?_cons, Lexer.step_string_quote, Option.bind_some,
    List.append_nil, htoken]
  rfl

theorem ends_of_isSpace (hc : isSpace c = true) (cs : List Char) : Ends (c :: cs) := by
  have hspace : c = ' ' ∨ c = '\t' ∨ c = '\n' ∨ c = '\r' := by simpa [isSpace, or_assoc] using hc
  rintro _ ⟨⟩
  rcases hspace with rfl | rfl | rfl | rfl <;> decide

/-- Space is no token and ends the one before it. -/
theorem lexes_spaces (h : Spaces cs) : Lexes cs [] ∧ ∀ rest, Ends rest → Ends (cs ++ rest) := by
  induction cs with
  | nil => exact ⟨fun done rest _ => rfl, fun rest hrest => hrest⟩
  | cons c cs ih =>
    obtain ⟨hc, hcs⟩ := List.forall_mem_cons.1 h
    obtain ⟨hlex, -⟩ := ih hcs
    refine ⟨?_, fun rest _ => ends_of_isSpace hc _⟩
    intro done rest hrest
    have hstart : Lexer.start done c = some ⟨done, .between⟩ := if_pos hc
    rw [List.cons_append, Lexer.rest?_cons, Lexer.step_between, hstart, Option.bind_some, hlex done rest hrest]

theorem Lexes.padded {core : List Char} (h : Lexes core ts) (pad : Padded core cs) : Lexes cs ts := by
  obtain ⟨before, after, hbefore, hafter, rfl⟩ := pad
  obtain ⟨hlex, hends⟩ := lexes_spaces hafter
  have hcore : Lexes (core ++ after) ts := by
    have happend := h.append hlex hends
    rwa [List.append_nil] at happend
  intro done rest hrest
  induction before with
  | nil => exact hcore done rest hrest
  | cons c before ih =>
    obtain ⟨hc, hrestBefore⟩ := List.forall_mem_cons.1 hbefore
    have hstart : Lexer.start done c = some ⟨done, .between⟩ := if_pos hc
    rw [List.cons_append, List.cons_append, Lexer.rest?_cons, Lexer.step_between, hstart, Option.bind_some]
    exact ih hrestBefore

/-! ## From tokens to values -/

/-- Whether a value may come next. -/
def Due.Ready (due : Due) : Prop := due = .value ∨ due = .itemOrClose

/-- A row of tokens makes up a value wherever one may come. -/
def Builds (ts : List Token) (v : Json) : Prop :=
  ∀ stack due, due.Ready → ts.foldlM Machine.step ⟨stack, due⟩ = Machine.complete v stack

/-- A row of tokens makes up the items of an open array, which has others already. -/
def BuildsItems (ts : List Token) (vs : List Json) : Prop :=
  ∀ items stack due, due.Ready → ts.foldlM Machine.step ⟨.array items :: stack, due⟩
    = some ⟨.array (vs.reverse ++ items) :: stack, .commaOrClose⟩

/-- A row of tokens makes up the members of an open object, which has others already. -/
def BuildsMembers (ts : List Token) (ms : List (Option String × Json)) : Prop :=
  ∀ members stack due, due = .name ∨ due = .nameOrClose →
    ts.foldlM Machine.step ⟨.object members :: stack, due⟩
      = some ⟨.object (ms.reverse ++ members) :: stack, .commaOrClose⟩

variable {v : Json} {vs : List Json} {name : Option String} {ms : List (Option String × Json)}

theorem builds_cons (ht : t ≠ .closeArray) (h : ∀ stack,
      (Machine.value stack t).bind (ts.foldlM Machine.step ·) = Machine.complete v stack) :
    Builds (t :: ts) v := by
  intro stack due hdue
  rw [← h stack]
  obtain rfl | rfl := hdue
  · rfl
  · cases t <;> first | rfl | exact absurd rfl ht

theorem builds_token (ht : t ≠ .closeArray) (h : ∀ stack, Machine.value stack t = Machine.complete v stack) :
    Builds [t] v :=
  builds_cons ht fun stack => by
    rw [h]
    exact bind_pure (m := Option) _

theorem BuildsItems.singleton (h : Builds ts v) : BuildsItems ts [v] := by
  intro items stack due hdue
  exact h (.array items :: stack) due hdue

theorem BuildsItems.cons (h : Builds ts v) (h' : BuildsItems ts' vs) :
    BuildsItems (ts ++ .comma :: ts') (v :: vs) := by
  intro items stack due hdue
  rw [List.foldlM_append, h _ due hdue]
  change List.foldlM Machine.step ⟨.array (v :: items) :: stack, .value⟩ ts' = _
  rw [h' _ _ _ (.inl rfl), List.reverse_cons, List.append_assoc, List.singleton_append]

theorem BuildsMembers.singleton (h : Builds ts v) :
    BuildsMembers (.string name :: .colon :: ts) [(name, v)] := by
  intro members stack due hdue
  have hvalue := h (.member members name :: stack) .value (.inl rfl)
  obtain rfl | rfl := hdue <;> exact hvalue

theorem BuildsMembers.cons (h : Builds ts v) (h' : BuildsMembers ts' ms) :
    BuildsMembers ((.string name :: .colon :: ts) ++ .comma :: ts') ((name, v) :: ms) := by
  intro members stack due hdue
  rw [List.foldlM_append, BuildsMembers.singleton h members stack due hdue]
  change List.foldlM Machine.step ⟨.object ((name, v) :: members) :: stack, .name⟩ ts' = _
  rw [h' _ _ _ (.inl rfl), List.reverse_cons, List.append_assoc, List.singleton_append]

theorem BuildsItems.close (h : BuildsItems ts vs) :
    Builds (.openArray :: (ts ++ [.closeArray])) (.array vs) := by
  refine builds_cons nofun fun stack => ?_
  change List.foldlM Machine.step ⟨.array [] :: stack, .itemOrClose⟩ (ts ++ [.closeArray]) = _
  rw [List.foldlM_append, h _ _ _ (.inr rfl), List.append_nil]
  change (Machine.complete (.array vs.reverse.reverse) stack).bind some = _
  rw [List.reverse_reverse]
  exact bind_pure (m := Option) _

theorem BuildsMembers.close (h : BuildsMembers ts ms) :
    Builds (.openObject :: (ts ++ [.closeObject])) (.object ms) := by
  refine builds_cons nofun fun stack => ?_
  change List.foldlM Machine.step ⟨.object [] :: stack, .nameOrClose⟩ (ts ++ [.closeObject]) = _
  rw [List.foldlM_append, h _ _ _ (.inr rfl), List.append_nil]
  change (Machine.complete (.object ms.reverse.reverse) stack).bind some = _
  rw [List.reverse_reverse]
  exact bind_pure (m := Option) _

theorem builds_emptyArray : Builds [.openArray, .closeArray] (.array []) :=
  builds_cons nofun fun _ => bind_pure (m := Option) _

theorem builds_emptyObject : Builds [.openObject, .closeObject] (.object []) :=
  builds_cons nofun fun _ => bind_pure (m := Option) _

/-! ## Whole documents -/

/-- A text falls into tokens that make up a phrase. -/
def Phrase.Reads (cs : List Char) : Phrase → Prop
  | .value v => ∃ ts, Lexes cs ts ∧ Builds ts v
  | .items vs => ∃ ts, Lexes cs ts ∧ BuildsItems ts vs
  | .members ms => ∃ ts, Lexes cs ts ∧ BuildsMembers ts ms

theorem Lexes.bracketed {close : Char} {t' : Token} (h : Lexes cs ts) (hopen : Marks c t)
    (hclose : Marks close t') : Lexes (c :: (cs ++ [close])) (t :: (ts ++ [t'])) :=
  (h.append hclose.lexes fun _ _ => hclose.ends _).cons hopen

theorem Spells.reads {p : Phrase} (h : Spells cs p) : p.Reads cs := by
  induction h with
  | null => exact ⟨[.null], lexes_word (by decide) (by decide) (by decide) rfl, builds_token nofun fun _ => rfl⟩
  | trueWord =>
    exact ⟨[.bool true], lexes_word (by decide) (by decide) (by decide) rfl, builds_token nofun fun _ => rfl⟩
  | falseWord =>
    exact ⟨[.bool false], lexes_word (by decide) (by decide) (by decide) rfl, builds_token nofun fun _ => rfl⟩
  | number h => exact ⟨[.number _], lexes_number h, builds_token nofun fun _ => rfl⟩
  | string h => exact ⟨[.string _], lexes_string h, builds_token nofun fun _ => rfl⟩
  | emptyArray h => exact ⟨_, (lexes_spaces h).1.bracketed marks_openArray marks_closeArray, builds_emptyArray⟩
  | array _ ih =>
    obtain ⟨ts, hlex, hbuild⟩ := ih
    exact ⟨_, hlex.bracketed marks_openArray marks_closeArray, hbuild.close⟩
  | emptyObject h => exact ⟨_, (lexes_spaces h).1.bracketed marks_openObject marks_closeObject, builds_emptyObject⟩
  | object _ ih =>
    obtain ⟨ts, hlex, hbuild⟩ := ih
    exact ⟨_, hlex.bracketed marks_openObject marks_closeObject, hbuild.close⟩
  | padded _ pad ih =>
    obtain ⟨ts, hlex, hbuild⟩ := ih
    exact ⟨ts, hlex.padded pad, hbuild⟩
  | item _ ih =>
    obtain ⟨ts, hlex, hbuild⟩ := ih
    exact ⟨ts, hlex, .singleton hbuild⟩
  | items _ _ ihFirst ihRest =>
    obtain ⟨ts, hlex, hbuild⟩ := ihFirst
    obtain ⟨ts', hlex', hbuild'⟩ := ihRest
    exact ⟨_, hlex.append_cons marks_comma hlex', .cons hbuild hbuild'⟩
  | member hname pad _ ih =>
    obtain ⟨ts, hlex, hbuild⟩ := ih
    exact ⟨_, ((lexes_string hname).padded pad).append_cons marks_colon hlex, .singleton hbuild⟩
  | members hname pad _ _ ihFirst ihRest =>
    obtain ⟨ts, hlex, hbuild⟩ := ihFirst
    obtain ⟨ts', hlex', hbuild'⟩ := ihRest
    have hmember := ((lexes_string hname).padded pad).append_cons marks_colon hlex
    exact ⟨_, hmember.append_cons marks_comma hlex', .cons hbuild hbuild'⟩

/-- Every text that spells a document is read as it. -/
theorem Spells.read?_eq {text : String} (h : Spells text.toList (.value v)) : read? text = some v := by
  obtain ⟨ts, hlex, hbuild⟩ := h.reads
  have htokens : tokens? text.toList = some ts := by
    have hrest := hlex [] [] nofun
    rw [List.append_nil] at hrest
    refine hrest.trans ?_
    rw [List.append_nil]
    exact congrArg some ts.reverse_reverse
  have hdocument : ofTokens? ts = some v := by
    rw [ofTokens?, hbuild [] .value (.inl rfl)]
    rfl
  rw [read?, htokens, Option.bind_some, hdocument]

/-- A document is read as it was written. -/
theorem read?_toText (h : v.Plain) : read? v.toText = some v := by
  refine Spells.read?_eq ?_
  rw [toText, String.toList_ofList]
  exact h.spells_render

end Matchday.Json
