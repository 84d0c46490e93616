import Matchday.Proofs.Json.Records
import Mathlib.Data.List.Forall2
import Mathlib.Data.Option.Basic

/-!
What the decoder of a record asks for, no more and no less. Its fields are found in the records that give them and in
no others; so the order of an object's members, the members that it does not know and a rewriting of what it knows
by something that is decoded alike make no difference to it.

Main statements: `Json.fields?_must_iff`, `Json.Alike.fields?`.
-/

namespace Matchday.Json
set_option autoImplicit false

variable {v w : Json} {name : String} {named : List (String × Json)}

/-! ## Records that give their fields -/

theorem mapM_eq_some_iff {α β : Type} {f : α → Option β} {as : List α} {bs : List β} :
    as.mapM f = some bs ↔ List.Forall₂ (fun a b => f a = some b) as bs := by
  induction as generalizing bs with
  | nil => cases bs <;> simp
  | cons a as ih =>
    rw [List.mapM_cons, List.forall₂_cons_left_iff]
    simp only [Option.bind_eq_bind, Option.bind_eq_some_iff, Option.pure_def, Option.some.injEq, ih]
    constructor
    · rintro ⟨b, hb, bs, hbs, rfl⟩
      exact ⟨b, bs, hb, hbs, rfl⟩
    · rintro ⟨b, bs, hb, hbs, rfl⟩
      exact ⟨b, hb, bs, hbs, rfl⟩

theorem exists_record {members : List (Option String × Json)} (h : members.all (·.1.isSome) = true) :
    ∃ named : List (String × Json), members = named.map fun m => (some m.1, m.2) := by
  induction members with
  | nil => exact ⟨[], rfl⟩
  | cons m members ih =>
    simp only [List.all_cons, Bool.and_eq_true] at h
    obtain ⟨name, hname⟩ := Option.isSome_iff_exists.1 h.1
    obtain ⟨named, rfl⟩ := ih h.2
    exact ⟨(name, m.2) :: named, by simp [← hname]⟩

theorem fields?_record_eq (named : List (String × Json)) (fs : List Field) :
    fields? fs (record named) = fs.mapM (memberField? (named.map fun m => (some m.1, m.2))) := by
  rw [record, fields?, if_pos (by simp)]

theorem exists_named_of_fields? {members : List (Option String × Json)} {fs : List Field} {given : List (Option Json)}
    (h : fields? fs (.object members) = some given) : ∃ named : List (String × Json),
      members = named.map (fun m => (some m.1, m.2)) ∧
        fs.mapM (memberField? (named.map fun m => (some m.1, m.2))) = some given := by
  have hall : members.all (·.1.isSome) = true := by
    by_contra hno
    rw [fields?, if_neg hno] at h
    cases h
  obtain ⟨named, rfl⟩ := exists_record hall
  exact ⟨named, rfl, (fields?_record_eq named fs).symm.trans h⟩

theorem valuesOf_named : valuesOf name (named.map fun m => (some m.1, m.2)) =
    (named.filter (·.1 = name)).map Prod.snd := by
  rw [valuesOf, List.filter_map, List.map_map]
  simp [Function.comp_def]

theorem filter_of_valuesOf (h : valuesOf name (named.map fun m => (some m.1, m.2)) = [v]) :
    named.filter (·.1 = name) = [(name, v)] := by
  rw [valuesOf_named, List.map_eq_singleton_iff] at h
  obtain ⟨m, hm, rfl⟩ := h
  have hname : m.1 = name := by
    have hmem : m ∈ named.filter (·.1 = name) := by simp [hm]
    simpa using (List.mem_filter.1 hmem).2
  rw [hm, ← hname]

/-- A member that must be given is there if it is given once. -/
theorem memberField?_must {given : Option Json} :
    memberField? (named.map fun m => (some m.1, m.2)) (.must name) = some given ↔
      ∃ u, given = some u ∧ named.filter (·.1 = name) = [(name, u)] := by
  constructor
  · intro h
    unfold memberField? at h
    split at h
    · simp [Field.must] at h
    · rename_i u hu
      injection h with h
      exact ⟨u, h.symm, filter_of_valuesOf hu⟩
    · cases h
  · rintro ⟨u, rfl, hfilter⟩
    have hvalues := valuesOf_record (f := (name, u)) hfilter
    rw [memberField?, Field.must, hvalues]

theorem itemFields?_must {names : List String} {items : List Json} {given : List (Option Json)}
    (h : itemFields? (names.map .must) items = some given) : ∃ fields : List (String × Json),
      fields.map Prod.fst = names ∧ given = fields.map (fun f => some f.2) ∧ items = fields.map Prod.snd := by
  induction names generalizing items given with
  | nil =>
    cases items with
    | nil =>
      cases h
      exact ⟨[], rfl, rfl, rfl⟩
    | cons u items => cases h
  | cons name names ih =>
    cases items with
    | nil => simp [itemFields?, Field.must] at h
    | cons u items =>
      rw [List.map_cons, itemFields?, Option.map_eq_some_iff] at h
      obtain ⟨rest, hrest, rfl⟩ := h
      obtain ⟨fields, rfl, rfl, rfl⟩ := ih hrest
      exact ⟨(name, u) :: fields, rfl, rfl, rfl⟩

/-- The fields that a record must give are found in the records that give them, and in nothing else. -/
theorem fields?_must_iff {names : List String} {given : List (Option Json)} :
    fields? (names.map .must) v = some given ↔
      ∃ fields : List (String × Json), fields.map Prod.fst = names ∧
        given = fields.map (fun f => some f.2) ∧ Gives fields v := by
  constructor
  · intro h
    cases v with
    | object members =>
      obtain ⟨named, rfl, hmembers⟩ := exists_named_of_fields? h
      rw [mapM_eq_some_iff, List.forall₂_map_left_iff] at hmembers
      have hfields : ∃ fields : List (String × Json), fields.map Prod.fst = names ∧
          given = fields.map (fun f => some f.2) ∧ ∀ f ∈ fields, named.filter (·.1 = f.1) = [f] := by
        clear h
        induction hmembers with
        | nil => exact ⟨[], rfl, rfl, by simp⟩
        | @cons name g names given hg _ ih =>
          obtain ⟨u, rfl, hu⟩ := memberField?_must.1 hg
          obtain ⟨fields, rfl, rfl, hrest⟩ := ih
          exact ⟨(name, u) :: fields, rfl, rfl, List.forall_mem_cons.2 ⟨hu, hrest⟩⟩
      obtain ⟨fields, hnames, hgiven, hfilter⟩ := hfields
      exact ⟨fields, hnames, hgiven, .inl ⟨named, rfl, hfilter⟩⟩
    | array items =>
      obtain ⟨fields, hnames, hgiven, rfl⟩ := itemFields?_must h
      exact ⟨fields, hnames, hgiven, .inr rfl⟩
    | null | bool b | number n | string s => cases h
  · rintro ⟨fields, rfl, rfl, hgives⟩
    apply hgives.fields?_eq
    simp [Field.must, Function.comp_def]

/-- A record that does not give a field. -/
def Lacks (name : String) (v : Json) : Prop :=
  (∃ named : List (String × Json), v = record named ∧ ∀ m ∈ named, m.1 ≠ name) ∨ v = .array []

/-- A field that may be left out is left out or given. -/
theorem fields?_defaulted_iff {given : List (Option Json)} : fields? [⟨name, .defaulted⟩] v = some given ↔
    given = [none] ∧ Lacks name v ∨ ∃ u, given = [some u] ∧ Gives [(name, u)] v := by
  constructor
  · intro h
    cases v with
    | object members =>
      obtain ⟨named, rfl, hmember⟩ := exists_named_of_fields? h
      simp only [List.mapM_cons, List.mapM_nil, Option.bind_eq_bind, Option.bind_eq_some_iff, Option.pure_def,
        Option.some.injEq, exists_eq_left'] at hmember
      obtain ⟨g, hg, rfl⟩ := hmember
      unfold memberField? at hg
      split at hg
      · rename_i hnone
        cases hg
        rw [valuesOf_named, List.map_eq_nil_iff, List.filter_eq_nil_iff] at hnone
        exact .inl ⟨rfl, .inl ⟨named, rfl, by simpa using hnone⟩⟩
      · rename_i u hu
        cases hg
        exact .inr ⟨u, rfl, .inl ⟨named, rfl, List.forall_mem_singleton.2 (filter_of_valuesOf hu)⟩⟩
      · cases hg
    | array items =>
      rcases items with _ | ⟨u, _ | ⟨u', items⟩⟩
      · cases h
        exact .inl ⟨rfl, .inr rfl⟩
      · cases h
        exact .inr ⟨u, rfl, .inr rfl⟩
      · cases h
    | null | bool b | number n | string s => cases h
  · rintro (⟨rfl, ⟨named, rfl, hnone⟩ | rfl⟩ | ⟨u, rfl, hgives⟩)
    · have hvalues : valuesOf name (named.map fun m => (some m.1, m.2)) = [] := by
        rw [valuesOf_named, List.map_eq_nil_iff, List.filter_eq_nil_iff]
        simpa using hnone
      rw [fields?_record_eq, List.mapM_cons, memberField?, hvalues]
      rfl
    · rfl
    · exact hgives.fields?_eq rfl

theorem listOf?_iff {α : Type} {decode : Json → Option α} {as : List α} : listOf? decode v = some as ↔
    ∃ items, v = .array items ∧ List.Forall₂ (fun item a => decode item = some a) items as := by
  cases v with
  | array items => simp [listOf?, mapM_eq_some_iff]
  | null | bool b | number n | string s | object members => simp [listOf?]

/-! ## Records that are decoded alike -/

/-- What two objects give for a name: nothing, related values, or too much. -/
inductive ValuesAlike (R : Json → Json → Prop) : List Json → List Json → Prop where
  | absent : ValuesAlike R [] []
  | once {a b : Json} (h : R a b) : ValuesAlike R [a] [b]
  | repeated {as bs : List Json} (h : 2 ≤ as.length) (h' : 2 ≤ bs.length) : ValuesAlike R as bs

/-- Values in the order of these fields are related, as far as they go. -/
inductive ItemsAlike : List (String × (Json → Json → Prop)) → List Json → List Json → Prop where
  | ended (known : List (String × (Json → Json → Prop))) : ItemsAlike known [] []
  | further {a b : Json} {as bs : List Json} : ItemsAlike [] (a :: as) (b :: bs)
  | item {k : String × (Json → Json → Prop)} {known : List (String × (Json → Json → Prop))} {a b : Json}
      {as bs : List Json} (h : k.2 a b) (rest : ItemsAlike known as bs) : ItemsAlike (k :: known) (a :: as) (b :: bs)

/-- Two documents that a reader of some fields need not tell apart: two objects whose members of these names are
related, two arrays of related values, or one document that is no record. The order of members does not matter, nor
do other members, whatever their values. -/
inductive Alike (known : List (String × (Json → Json → Prop))) : Json → Json → Prop where
  | object {ms ms' : List (Option String × Json)} (names : ms.all (·.1.isSome) = ms'.all (·.1.isSome))
      (values : ∀ k ∈ known, ValuesAlike k.2 (valuesOf k.1 ms) (valuesOf k.1 ms')) : Alike known (.object ms) (.object ms')
  | array {as bs : List Json} (items : ItemsAlike known as bs) : Alike known (.array as) (.array bs)
  | other {v : Json} (object : ∀ ms, v ≠ .object ms) (array : ∀ items, v ≠ .array items) : Alike known v v

/-- Two arrays of related items, or one document. -/
inductive ListAlike (R : Json → Json → Prop) : Json → Json → Prop where
  | array {as bs : List Json} (items : List.Forall₂ R as bs) : ListAlike R (.array as) (.array bs)
  | refl (v : Json) : ListAlike R v v

/-- What is found for some fields, one related to the other. -/
inductive FoundAlike : List (String × (Json → Json → Prop)) → List (Option Json) → List (Option Json) → Prop where
  | nil : FoundAlike [] [] []
  | cons {k : String × (Json → Json → Prop)} {known : List (String × (Json → Json → Prop))} {g g' : Option Json}
      {gs gs' : List (Option Json)} (h : Option.Rel k.2 g g') (rest : FoundAlike known gs gs') :
      FoundAlike (k :: known) (g :: gs) (g' :: gs')

variable {R : Json → Json → Prop} {known : List (String × (Json → Json → Prop))}

theorem ValuesAlike.refl (hR : ∀ v, R v v) (vs : List Json) : ValuesAlike R vs vs := by
  match vs with
  | [] => exact .absent
  | [v] => exact .once (hR v)
  | v :: v' :: vs => exact .repeated (by simp) (by simp)

theorem ValuesAlike.of_perm (hR : ∀ v, R v v) {vs ws : List Json} (h : vs.Perm ws) : ValuesAlike R vs ws := by
  match vs with
  | [] =>
    rw [List.nil_perm.1 h]
    exact .absent
  | [v] =>
    rw [List.perm_singleton.1 h.symm]
    exact .once (hR v)
  | v :: v' :: vs => exact .repeated (by simp) (by simp [← h.length_eq])

theorem ItemsAlike.refl (hknown : ∀ k ∈ known, ∀ v, k.2 v v) (items : List Json) : ItemsAlike known items items := by
  induction items generalizing known with
  | nil => exact .ended known
  | cons v items ih =>
    cases known with
    | nil => exact .further
    | cons k known =>
      obtain ⟨hk, hrest⟩ := List.forall_mem_cons.1 hknown
      exact .item (hk v) (ih hrest)

theorem Alike.refl (hknown : ∀ k ∈ known, ∀ v, k.2 v v) (v : Json) : Alike known v v := by
  cases v with
  | object ms => exact .object rfl fun k hk => .refl (hknown k hk) _
  | array items => exact .array (.refl hknown items)
  | null | bool b | number n | string s => exact .other nofun nofun

/-- The members of an object may come in any order. -/
theorem Alike.of_perm (hknown : ∀ k ∈ known, ∀ v, k.2 v v) {ms ms' : List (Option String × Json)} (h : ms.Perm ms') :
    Alike known (.object ms) (.object ms') :=
  .object (h.all_eq) fun k hk => .of_perm (hknown k hk) ((h.filter _).map _)

/-- An unknown member may be added. -/
theorem Alike.insert (hknown : ∀ k ∈ known, ∀ v, k.2 v v) (ms : List (Option String × Json)) (v : Json)
    (unknown : ∀ k ∈ known, k.1 ≠ name) : Alike known (.object ms) (.object ((some name, v) :: ms)) := by
  refine .object (by simp) fun k hk => ?_
  have hvalues : valuesOf k.1 ((some name, v) :: ms) = valuesOf k.1 ms := by
    rw [valuesOf, List.filter_cons_of_neg (by simpa using (unknown k hk).symm), valuesOf]
  rw [hvalues]
  exact .refl (hknown k hk) _

theorem ValuesAlike.memberField? {ms ms' : List (Option String × Json)} {f : Field}
    (h : ValuesAlike R (valuesOf f.name ms) (valuesOf f.name ms')) :
    Option.Rel (Option.Rel R) (memberField? ms f) (memberField? ms' f) := by
  unfold Json.memberField?
  generalize valuesOf f.name ms = vs at h ⊢
  generalize valuesOf f.name ms' = ws at h ⊢
  cases h with
  | absent =>
    dsimp only
    split
    · exact .none
    · exact .some .none
  | once h => exact .some (.some h)
  | repeated h h' =>
    match vs, ws with
    | v :: v' :: vs, w :: w' :: ws => exact .none

theorem FoundAlike.map_cons {k : String × (Json → Json → Prop)} {g g' : Option Json}
    {found found' : Option (List (Option Json))} (h : Option.Rel k.2 g g')
    (hrest : Option.Rel (FoundAlike known) found found') :
    Option.Rel (FoundAlike (k :: known)) (found.map (g :: ·)) (found'.map (g' :: ·)) := by
  cases hrest with
  | none => exact .none
  | some hrest => exact .some (.cons h hrest)

theorem ItemsAlike.itemFields? {as bs : List Json} {fs : List Field} (h : ItemsAlike known as bs)
    (hfields : fs.map Field.name = known.map Prod.fst) :
    Option.Rel (FoundAlike known) (itemFields? fs as) (itemFields? fs bs) := by
  induction h generalizing fs with
  | ended known =>
    induction known generalizing fs with
    | nil =>
      rw [List.map_eq_nil_iff.1 hfields]
      exact .some .nil
    | cons k known ih =>
      cases fs with
      | nil => cases hfields
      | cons f fs =>
        rw [List.map_cons, List.map_cons, List.cons.injEq] at hfields
        simp only [Json.itemFields?]
        split
        · exact FoundAlike.map_cons .none (ih hfields.2)
        · exact .none
  | further =>
    rw [List.map_eq_nil_iff.1 hfields]
    exact .none
  | item h _ ih =>
    cases fs with
    | nil => cases hfields
    | cons f fs =>
      rw [List.map_cons, List.map_cons, List.cons.injEq] at hfields
      exact FoundAlike.map_cons (.some h) (ih hfields.2)

/-- Documents that are alike give related values for the fields, or both do not give them. -/
theorem Alike.fields? {fs : List Field} (h : Alike known v w) (hfields : fs.map Field.name = known.map Prod.fst) :
    Option.Rel (FoundAlike known) (fields? fs v) (fields? fs w) := by
  cases h with
  | @object ms ms' names values =>
    simp only [Json.fields?, ← names]
    split
    · clear names
      induction known generalizing fs with
      | nil =>
        rw [List.map_eq_nil_iff.1 hfields]
        exact .some .nil
      | cons k known ih =>
        cases fs with
        | nil => cases hfields
        | cons f fs =>
          obtain ⟨hk, hknown⟩ := List.forall_mem_cons.1 values
          rw [List.map_cons, List.map_cons, List.cons.injEq] at hfields
          rw [← hfields.1] at hk
          have hfirst := hk.memberField?
          have hrest := ih hfields.2 hknown
          rw [List.mapM_cons, List.mapM_cons]
          generalize memberField? ms f = g at hfirst ⊢
          generalize memberField? ms' f = g' at hfirst ⊢
          cases hfirst with
          | none => exact .none
          | some hfirst =>
            have hboth := FoundAlike.map_cons hfirst hrest
            simpa only [Option.map_eq_bind, Function.comp_def, Option.bind_eq_bind, Option.bind_some,
              Option.pure_def] using hboth
    · exact .none
  | array items => exact items.itemFields? hfields
  | other object array =>
    cases v with
    | object ms => exact absurd rfl (object ms)
    | array items => exact absurd rfl (array items)
    | null | bool b | number n | string s => exact .none

theorem FoundAlike.eq (hknown : ∀ k ∈ known, ∀ a b, k.2 a b → a = b) {gs gs' : List (Option Json)}
    (h : FoundAlike known gs gs') : gs = gs' := by
  induction h with
  | nil => rfl
  | cons h _ ih =>
    obtain ⟨hk, hrest⟩ := List.forall_mem_cons.1 hknown
    rw [ih hrest]
    cases h with
    | none => rfl
    | some h => rw [hk _ _ h]

theorem Alike.fields?_eq {fs : List Field} (h : Alike known v w) (hfields : fs.map Field.name = known.map Prod.fst)
    (hknown : ∀ k ∈ known, ∀ a b, k.2 a b → a = b) : Json.fields? fs v = Json.fields? fs w := by
  have hfound := h.fields? hfields
  generalize Json.fields? fs v = found at hfound ⊢
  generalize Json.fields? fs w = found' at hfound ⊢
  cases hfound with
  | none => rfl
  | some hfound => rw [hfound.eq hknown]

theorem ListAlike.listOf? {α : Type} {decode : Json → Option α} (h : ListAlike R v w)
    (hdecode : ∀ a b, R a b → decode a = decode b) : listOf? decode v = listOf? decode w := by
  cases h with
  | refl => rfl
  | array items =>
    rw [Json.listOf?, Json.listOf?]
    induction items with
    | nil => rfl
    | cons hab _ ih => rw [List.mapM_cons, List.mapM_cons, hdecode _ _ hab, ih]

end Matchday.Json
