import Matchday.Proofs.Text.Ascii
import Matchday.Proofs.Wire.Identifiers

/-!
How a text lays out the digits of an identifier. Cut at its hyphens it has five groups of digits, or one of all of
them; around five groups there may be braces or a word. A row of digits of either case is read as the bytes that are
written so in lower case.

Main statements: `Id.digits?_of_spells`, `Id.spells_of_digits?`, `Id.ofDigits?_eq_some_iff`.
-/

namespace Matchday.Id
set_option autoImplicit false

/-! ## Rows of digits -/

theorem ofNat_eq_iff {b : UInt8} {high low : Nat} (hhigh : high < 16) (hlow : low < 16) :
    UInt8.ofNat (high * 16 + low) = b ↔ high = b.toNat / 16 ∧ low = b.toNat % 16 := by
  have hb : b.toNat < 256 := b.toNat_lt
  rw [← UInt8.toNat_inj, UInt8.toNat_ofNat', Nat.mod_eq_of_lt (by omega)]
  omega

/-- A row of digits is read as the bytes that are written so in lower case. -/
theorem ofDigits?_eq_some_iff {ds : List Char} {bytes : List UInt8} :
    ofDigits? ds = some bytes ↔ ds.map Text.lower = bytes.flatMap byteText := by
  fun_induction ofDigits? ds generalizing bytes with
  | case1 => cases bytes <;> simp [byteText]
  | case2 c => cases bytes <;> simp [byteText]
  | case3 a b rest ih =>
    simp only [Option.bind_eq_bind, Option.bind_eq_some_iff, Text.hexValue?_eq_some_iff, ih, Option.some.injEq]
    cases bytes with
    | nil => simp
    | cons byte bytes =>
      rw [List.map_cons, List.map_cons, List.flatMap_cons, byteText, List.cons_append, List.singleton_append,
        List.cons.injEq, List.cons.injEq]
      constructor
      · rintro ⟨high, ⟨hhigh, ha⟩, low, ⟨hlow, hb⟩, tail, hrest, heq⟩
        obtain ⟨hbyte, rfl⟩ := List.cons.inj heq
        obtain ⟨rfl, rfl⟩ := (ofNat_eq_iff hhigh hlow).1 hbyte
        exact ⟨ha, hb, hrest⟩
      · rintro ⟨ha, hb, hrest⟩
        have hlt : byte.toNat < 256 := byte.toNat_lt
        have hhigh : byte.toNat / 16 < 16 := by omega
        have hlow : byte.toNat % 16 < 16 := by omega
        have hbyte := (ofNat_eq_iff hhigh hlow).2 ⟨rfl, rfl⟩
        exact ⟨_, ⟨hhigh, ha⟩, _, ⟨hlow, hb⟩, bytes, hrest, by rw [hbyte]⟩

/-- Any even number of digits spells bytes. -/
theorem exists_ofDigits? {n : Nat} {ds : List Char} (hlength : ds.length = 2 * n)
    (hdigits : ∀ c ∈ ds, Text.IsHexDigit c) : ∃ bytes, ofDigits? ds = some bytes ∧ bytes.length = n := by
  induction n generalizing ds with
  | zero =>
    obtain rfl := List.length_eq_zero_iff.1 hlength
    exact ⟨[], rfl, rfl⟩
  | succ n ih =>
    obtain ⟨a, b, rest, rfl⟩ : ∃ a b rest, ds = a :: b :: rest := by
      match ds, hlength with
      | a :: b :: rest, _ => exact ⟨a, b, rest, rfl⟩
    obtain ⟨ha, hb, hrest⟩ : Text.IsHexDigit a ∧ Text.IsHexDigit b ∧ ∀ c ∈ rest, Text.IsHexDigit c := by
      simpa using hdigits
    obtain ⟨high, hhigh⟩ := Option.isSome_iff_exists.1 (Text.isHexDigit_iff.1 ha)
    obtain ⟨low, hlow⟩ := Option.isSome_iff_exists.1 (Text.isHexDigit_iff.1 hb)
    have hlength' : rest.length = 2 * n := by
      rw [List.length_cons, List.length_cons] at hlength
      omega
    obtain ⟨bytes, hbytes, hsize⟩ := ih hlength' hrest
    refine ⟨UInt8.ofNat (high * 16 + low) :: bytes, ?_, congrArg Nat.succ hsize⟩
    rw [ofDigits?, hhigh, hlow, hbytes]
    rfl

/-! ## Layouts -/

/-- Whether the hyphens of a text cut it into groups of given lengths, which are some digits one behind the other. -/
def Laid (ns : List Nat) (cs ds : List Char) : Prop :=
  (cs.splitOn '-').map List.length = ns ∧ (cs.splitOn '-').flatten = ds

/-- What may stand around five groups: braces, or a word in front of them in either case. -/
inductive Wrapped : List Char → List Char → Prop
  | braces (body : List Char) : Wrapped ('\x7b' :: body ++ ['\x7d']) body
  | word (front body : List Char) (h : front.map Text.lower = "urn:uuid:".toList) : Wrapped (front ++ body) body

/-- The texts that lay out a row of digits in one of the accepted forms. -/
inductive Spells (cs ds : List Char) : Prop
  | row (laid : Laid [32] cs ds)
  | groups (laid : Laid [8, 4, 4, 4, 12] cs ds)
  | wrapped {body : List Char} (around : Wrapped cs body) (laid : Laid [8, 4, 4, 4, 12] body ds)

variable {ns : List Nat} {cs ds body : List Char}

theorem group_flatten (parts : List (List Char)) :
    group (parts.map List.length) parts.flatten = ['-'].intercalate parts := by
  induction parts with
  | nil => rfl
  | cons part parts ih =>
    cases parts with
    | nil => simp [group]
    | cons part' parts =>
      rw [List.map_cons, List.map_cons, group_cons_cons, List.flatten_cons, List.take_left' rfl, List.drop_left' rfl,
        ← List.map_cons (f := List.length), ih, List.intercalate_cons_cons, List.append_assoc, List.singleton_append]

/-- A text is known by its digits and the lengths of their groups. -/
theorem Laid.eq_group (h : Laid ns cs ds) : cs = group ns ds := by
  rw [← h.1, ← h.2, group_flatten, List.intercalate_splitOn]

theorem Laid.length_eq (h : Laid ns cs ds) : ds.length = ns.foldr (· + ·) 0 := by
  rw [← h.1, ← h.2, List.length_flatten]
  rfl

theorem laid_group (hne : ns ≠ []) (hds : '-' ∉ ds) (hlength : ds.length = ns.foldr (· + ·) 0) :
    Laid ns (group ns ds) ds := by
  induction ns generalizing ds with
  | nil => exact absurd rfl hne
  | cons n ns ih =>
    rw [List.foldr_cons] at hlength
    cases ns with
    | nil =>
      have hsplit : (group [n] ds).splitOn '-' = [ds] := List.splitOn_eq_singleton hds
      rw [Laid, hsplit]
      exact ⟨congrArg (fun k => [k]) hlength, List.append_nil ds⟩
    | cons m ns =>
      have htake : '-' ∉ ds.take n := fun hmem => hds (List.mem_of_mem_take hmem)
      have hdrop : '-' ∉ ds.drop n := fun hmem => hds (List.mem_of_mem_drop hmem)
      obtain ⟨hlengths, hflatten⟩ := ih (List.cons_ne_nil m ns) hdrop (by rw [List.length_drop]; omega)
      rw [Laid, group_cons_cons, List.splitOn_append_cons_self_of_not_mem htake, List.map_cons, hlengths,
        List.flatten_cons, hflatten, List.take_append_drop, List.length_take_of_le (by omega)]
      exact ⟨rfl, rfl⟩

theorem eq_group_of_ungroup? (h : ungroup? ns cs = some ds) :
    ds.length = ns.foldr (· + ·) 0 ∧ cs = group ns ds := by
  induction ns generalizing cs ds with
  | nil =>
    rw [ungroup?, Option.ite_none_right_eq_some] at h
    obtain ⟨rfl, hds⟩ := h
    cases hds
    exact ⟨rfl, rfl⟩
  | cons n ns ih =>
    cases ns with
    | nil =>
      rw [ungroup?, Option.ite_none_right_eq_some] at h
      obtain ⟨hlength, hds⟩ := h
      cases hds
      exact ⟨hlength, rfl⟩
    | cons m ns =>
      rw [ungroup?.eq_def] at h
      dsimp only at h
      split at h
      · rename_i rest hrest
        obtain ⟨ds', hds', rfl⟩ := Option.map_eq_some_iff.1 h
        obtain ⟨hlength, rfl⟩ := ih hds'
        have htake : (cs.take n).length = n := by
          have hdrop := congrArg List.length hrest
          rw [List.length_drop, List.length_cons] at hdrop
          exact List.length_take_of_le (by omega)
        refine ⟨?_, ?_⟩
        · rw [List.foldr_cons, List.length_append, htake, hlength]
        · rw [group_cons_cons, List.take_left' htake, List.drop_left' htake, ← hrest, List.take_append_drop]
      · cases h

/-! ## The digits of a text -/

theorem Laid.ungroup? (h : Laid ns cs ds) : ungroup? ns cs = some ds := by
  rw [h.eq_group, ungroup?_group h.length_eq]

theorem Laid.length_groups (h : Laid [8, 4, 4, 4, 12] cs ds) : cs.length = 36 := by
  rw [h.eq_group, length_group h.length_eq, h.length_eq]
  rfl

theorem Laid.length_row (h : Laid [32] cs ds) : cs = ds ∧ ds.length = 32 := ⟨h.eq_group, h.length_eq⟩

theorem length_of_map_lower {front : List Char} (h : front.map Text.lower = "urn:uuid:".toList) :
    front.length = 9 := by
  rw [← List.length_map (f := Text.lower), h]
  rfl

/-- Two characters or nine are around a text. -/
theorem Wrapped.length (around : Wrapped cs body) : cs.length = body.length + 2 ∨ cs.length = body.length + 9 := by
  cases around with
  | braces => exact .inl (by rw [List.length_append, List.length_cons, List.length_singleton])
  | word front _ hfront =>
    have hlength := length_of_map_lower hfront
    exact .inr (by rw [List.length_append]; omega)

theorem unwrap?_of_wrapped (around : Wrapped cs body) (h : body.length = 36) : unwrap? cs = some body := by
  cases around with
  | braces =>
    have hlength : ('\x7b' :: body ++ ['\x7d']).length = 38 := by
      rw [List.length_append, List.length_cons, List.length_singleton, h]
    have hbraces : ('\x7b' :: body ++ ['\x7d']).head? = some '\x7b' ∧
        ('\x7b' :: body ++ ['\x7d']).getLast? = some '\x7d' := ⟨rfl, List.getLast?_concat⟩
    rw [unwrap?, if_neg (by omega), if_pos hlength, if_pos hbraces, List.cons_append, List.drop_one, List.tail_cons,
      List.dropLast_concat]
  | word front _ hfront =>
    have hfive := length_of_map_lower hfront
    have hlength : (front ++ body).length = 45 := by rw [List.length_append, hfive, h]
    have hword : ((front ++ body).take 9).map Text.lower = "urn:uuid:".toList := by
      rw [List.take_left' hfive, hfront]
    rw [unwrap?, if_neg (by omega), if_neg (by omega), if_pos ⟨hlength, hword⟩, List.drop_left' hfive]

theorem eq_or_wrapped_of_unwrap? (h : unwrap? cs = some body) : cs = body ∨ Wrapped cs body := by
  unfold unwrap? at h
  split at h
  · exact .inl (Option.some.inj h)
  · split at h
    · rename_i hlength
      obtain ⟨⟨hhead, hlast⟩, hbody⟩ := Option.ite_none_right_eq_some.1 h
      cases hbody
      obtain ⟨rest, rfl⟩ := List.head?_eq_some_iff.1 hhead
      obtain ⟨init, hinit⟩ := List.getLast?_eq_some_iff.1 hlast
      cases init with
      | nil =>
        obtain rfl : rest = [] := (List.cons.inj hinit).2
        cases hlength
      | cons c init =>
        rw [List.cons_append, List.cons.injEq] at hinit
        obtain ⟨-, rfl⟩ := hinit
        rw [List.drop_one, List.tail_cons, List.dropLast_concat]
        exact .inr (.braces init)
    · obtain ⟨⟨-, hword⟩, hbody⟩ := Option.ite_none_right_eq_some.1 h
      cases hbody
      have around := Wrapped.word (cs.take 9) (cs.drop 9) hword
      rw [List.take_append_drop] at around
      exact .inr around

/-- What lays out digits is taken for these digits. -/
theorem digits?_of_spells (h : Spells cs ds) : digits? cs = some ds := by
  cases h with
  | row laid =>
    obtain ⟨rfl, hlength⟩ := laid.length_row
    exact if_pos hlength
  | groups laid =>
    have hlength := laid.length_groups
    rw [digits?, if_neg (by omega), unwrap?, if_pos hlength, Option.bind_some]
    exact laid.ungroup?
  | wrapped around laid =>
    have hbody := laid.length_groups
    have hlength : cs.length ≠ 32 := by
      have := around.length
      omega
    rw [digits?, if_neg hlength, unwrap?_of_wrapped around hbody, Option.bind_some]
    exact laid.ungroup?

theorem spells_of_digits? (h : digits? cs = some ds) (hds : '-' ∉ ds) : Spells cs ds := by
  unfold digits? at h
  split at h
  · rename_i hlength
    cases h
    have laid : Laid [32] (group [32] cs) cs := laid_group (List.cons_ne_nil _ _) hds hlength
    exact .row laid
  · obtain ⟨body, hbody, hgroup⟩ := Option.bind_eq_some_iff.1 h
    obtain ⟨hlength, rfl⟩ := eq_group_of_ungroup? hgroup
    have laid : Laid [8, 4, 4, 4, 12] (group groups ds) ds := laid_group (List.cons_ne_nil _ _) hds hlength
    rcases eq_or_wrapped_of_unwrap? hbody with rfl | around
    · exact .groups laid
    · exact .wrapped around laid

end Matchday.Id
