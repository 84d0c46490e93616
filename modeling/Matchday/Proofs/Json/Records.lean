import Matchday.Json.Record
import Matchday.Proofs.Json.Reading
import Matchday.Wire

/-!
Decoding what was encoded, one shape after another: integers, values that may be absent, lists and records.
All of them are plain documents, so that what is said of the documents holds of their texts.

Main statements: `Json.Gives.fields?_eq`, `Json.fields?_record`, `Json.intBetween?_ofInt`.
-/

namespace Matchday.Json
set_option autoImplicit false

variable {α : Type}

/-! ## Integers -/

theorem plain_ofInt (n : Int) : (ofInt n).Plain := by
  refine .number ⟨?_, ?_, ?_, nofun⟩
  · dsimp only
    split
    · exact List.cons_ne_nil 0 []
    · rename_i h
      rw [Ne, Decimal.digitsOf_eq_nil_iff]
      omega
  · dsimp only
    split
    · decide
    · exact Decimal.lt_ten_of_mem_digitsOf
  · dsimp only
    split
    · exact fun _ => rfl
    · exact fun hzero => absurd hzero (Decimal.head?_digitsOf_ne_zero _)

theorem intBetween?_ofInt {low high n : Int} (hlow : low ≤ n) (hhigh : n ≤ high) :
    intBetween? low high (ofInt n) = some n := by
  obtain rfl | hne := eq_or_ne n 0
  · have hzero : (Decimal.ofDigits [0] : Int) = 0 := rfl
    simp only [ofInt, intBetween?, if_true, hzero]
    simp [hhigh.not_gt]
  · have hvalue : (Decimal.ofDigits (Decimal.digitsOf n.natAbs) : Int) = n.natAbs := by
      rw [Decimal.ofDigits_digitsOf]
    simp only [ofInt, intBetween?, hne, if_false, hvalue, decide_eq_true_eq]
    split_ifs <;> first | omega | (congr 1; omega)

theorem int32?_ofInt (n : Int32) : int32? (ofInt n.toInt) = some n := by
  rw [int32?, intBetween?_ofInt n.minValue_le_toInt n.toInt_le, Option.map_some, Int32.ofInt_toInt]

theorem int64?_ofInt (n : Int64) : int64? (ofInt n.toInt) = some n := by
  rw [int64?, intBetween?_ofInt n.minValue_le_toInt n.toInt_le, Option.map_some, Int64.ofInt_toInt]

/-! ## Texts, absent values and lists -/

theorem plain_ofOption {encode : α → Json} (h : ∀ a, (encode a).Plain) (o : Option α) :
    (ofOption encode o).Plain := by
  cases o with
  | none => exact .null
  | some a => exact h a

/-- A value that may be absent is read as it was written, provided that no value is written as null. -/
theorem nullable?_ofOption {encode : α → Json} {decode : Json → Option α} {o : Option α}
    (hnull : ∀ a ∈ o, encode a ≠ .null) (h : ∀ a ∈ o, decode (encode a) = some a) :
    nullable? decode (some (ofOption encode o)) = some o := by
  cases o with
  | none => rfl
  | some a =>
    have hsome := h a rfl
    have hne := hnull a rfl
    rw [ofOption]
    generalize encode a = v at *
    cases v <;> first | exact absurd rfl hne | simp [nullable?, hsome]

theorem mapM_map_of_inverse {encode : α → Json} {decode : Json → Option α} {as : List α}
    (h : ∀ a ∈ as, decode (encode a) = some a) : (as.map encode).mapM decode = some as := by
  induction as with
  | nil => rfl
  | cons a as ih =>
    obtain ⟨ha, has⟩ := List.forall_mem_cons.1 h
    rw [List.map_cons, List.mapM_cons, ha, ih has]
    rfl

/-! ## Records -/

theorem plain_record {members : List (String × Json)} (h : ∀ m ∈ members, m.2.Plain) :
    (record members).Plain := by
  refine .object (fun named hnamed => ?_) fun named hnamed => ?_
  · obtain ⟨m, -, rfl⟩ := List.mem_map.1 hnamed
    rfl
  · obtain ⟨m, hm, rfl⟩ := List.mem_map.1 hnamed
    exact h m hm

/-- A record that gives these fields: an object that has each of them once, in any order and among others, or an
array of their values. -/
def Gives (fields : List (String × Json)) (v : Json) : Prop :=
  (∃ members : List (String × Json), v = record members ∧ ∀ f ∈ fields, members.filter (·.1 = f.1) = [f]) ∨
    v = .array (fields.map Prod.snd)

theorem valuesOf_record {members : List (String × Json)} {f : String × Json}
    (h : members.filter (·.1 = f.1) = [f]) : valuesOf f.1 (members.map fun m => (some m.1, m.2)) = [f.2] := by
  rw [valuesOf, List.filter_map, List.map_map]
  simpa [Function.comp_def] using congrArg (List.map Prod.snd) h

theorem itemFields?_values {fields : List (String × Json)} {fs : List Field}
    (hfields : fs.map Field.name = fields.map Prod.fst) :
    itemFields? fs (fields.map Prod.snd) = some (fields.map fun f => some f.2) := by
  induction fields generalizing fs with
  | nil => rw [List.map_eq_nil_iff.1 hfields]; rfl
  | cons f fields ih =>
    cases fs with
    | nil => cases hfields
    | cons field fs =>
      rw [List.map_cons, List.map_cons, List.cons.injEq] at hfields
      rw [List.map_cons, itemFields?, ih hfields.2]
      rfl

/-- The fields of a record are found, whatever else it has. -/
theorem Gives.fields?_eq {fields : List (String × Json)} {fs : List Field} {v : Json} (h : Gives fields v)
    (hfields : fs.map Field.name = fields.map Prod.fst) :
    fields? fs v = some (fields.map fun f => some f.2) := by
  obtain ⟨members, rfl, hmembers⟩ | rfl := h
  · have hall : (members.map fun m => (some m.1, m.2)).all (fun m => m.1.isSome) = true := by
      simp
    have hvalues : ∀ f ∈ fields, valuesOf f.1 (members.map fun m => (some m.1, m.2)) = [f.2] :=
      fun f hf => valuesOf_record (hmembers f hf)
    rw [record, fields?, if_pos hall]
    clear hmembers hall
    induction fields generalizing fs with
    | nil => rw [List.map_eq_nil_iff.1 hfields]; rfl
    | cons f fields ih =>
      obtain ⟨hf, hrest⟩ := List.forall_mem_cons.1 hvalues
      cases fs with
      | nil => cases hfields
      | cons field fs =>
        rw [List.map_cons, List.map_cons, List.cons.injEq] at hfields
        rw [List.mapM_cons, memberField?, hfields.1, hf, ih hfields.2 hrest]
        rfl
  · exact itemFields?_values hfields

/-- A record with these fields, whose names are all different, has their values. -/
theorem fields?_record {members : List (String × Json)} {fs : List Field}
    (names : (fs.map Field.name).Nodup) (hfields : fs.map Field.name = members.map Prod.fst) :
    fields? fs (record members) = some (members.map fun m => some m.2) := by
  have honce : ∀ f ∈ members, members.filter (·.1 = f.1) = [f] := by
    rw [hfields] at names
    clear hfields
    induction members with
    | nil => simp
    | cons first members ih =>
      rw [List.map_cons, List.nodup_cons] at names
      have hne : ∀ f ∈ members, first.1 ≠ f.1 := fun f hf heq => names.1 (heq ▸ List.mem_map_of_mem hf)
      refine List.forall_mem_cons.2 ⟨?_, fun f hf => ?_⟩
      · simpa using fun name v hf => (hne (name, v) hf).symm
      · rw [List.filter_cons_of_neg (by simpa using hne f hf), ih names.2 f hf]
  exact Gives.fields?_eq (.inl ⟨members, rfl, honce⟩) hfields

end Matchday.Json
