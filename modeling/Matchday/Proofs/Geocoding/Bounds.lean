import Matchday.Geocoding.Resolver
import Matchday.Proofs.Number.Rounding
import Mathlib.Algebra.Order.Field.Basic
import Mathlib.Algebra.Order.Field.Rat
import Mathlib.Data.Rat.Cast.Order

/-!
Whatever a provider sends, a point that is made of it lies on the map: its latitude is a number from -90 to 90 and
its longitude one from -180 to 180. A body that spells something larger, an infinite number or no number at all is
refused, and so does everything that is asked of a server, directly or through the resolver.

Main statements: `Exchange.onlyValid_result`, `Geocoders.Online.resolve`.
-/

namespace Matchday
set_option autoImplicit false

/-! ## Numbers between two others -/

namespace Binary64

/-- The number that a finite number of the format stands for. -/
def Finite.value (x : Finite) : ℚ := x.signedUnits / one

/-- A number that is neither infinite nor NaN and lies between two others. -/
def Between (low high : ℚ) (x : Binary64) : Prop := ∃ f, x = finite f ∧ low ≤ f.value ∧ f.value ≤ high

theorem signedUnits_cases (f : Finite) : f.signedUnits = f.units ∨ f.signedUnits = -f.units := by
  unfold Finite.signedUnits
  split <;> simp

theorem within_iff {bound : ℕ} {x : Binary64} : x.within bound = true ↔ x.Between (-bound) bound := by
  have hone : (0 : ℚ) < (one : ℕ) := Nat.cast_pos.2 one_pos
  cases x with
  | infinite negative => simp [within, Between]
  | nan => simp [within, Between]
  | finite f =>
    have hlow : -(bound : ℚ) ≤ f.value ↔ -((bound * one : ℕ) : ℤ) ≤ f.signedUnits := by
      have hcast : -(bound : ℚ) * (one : ℕ) = ((-((bound * one : ℕ) : ℤ) : ℤ) : ℚ) := by
        push_cast
        exact neg_mul _ _
      rw [Finite.value, le_div_iff₀ hone, hcast, Int.cast_le]
    have hhigh : f.value ≤ bound ↔ f.signedUnits ≤ (bound * one : ℕ) := by
      have hcast : (bound : ℚ) * (one : ℕ) = ((((bound * one : ℕ) : ℤ) : ℤ) : ℚ) := by push_cast; rfl
      rw [Finite.value, div_le_iff₀ hone, hcast, Int.cast_le]
    have hunits := signedUnits_cases f
    simp only [Between, finite.injEq, exists_eq_left', hlow, hhigh, within, decide_eq_true_iff]
    omega

end Binary64

/-! ## Points on the map -/

/-- Latitude from -90 to 90 and longitude from -180 to 180 degrees. -/
def Coordinates.Valid (c : Coordinates) : Prop := c.latitude.Between (-90) 90 ∧ c.longitude.Between (-180) 180

theorem Coordinates.valid_iff {c : Coordinates} : c.Valid ↔ c.inRange = true := by
  have hlatitude : c.latitude.within 90 = true ↔ c.latitude.Between (-(90 : ℕ)) (90 : ℕ) := Binary64.within_iff
  have hlongitude : c.longitude.within 180 = true ↔ c.longitude.Between (-(180 : ℕ)) (180 : ℕ) := Binary64.within_iff
  rw [inRange, Bool.and_eq_true, hlatitude, hlongitude]
  exact Iff.rfl

instance (c : Coordinates) : Decidable c.Valid := decidable_of_iff _ Coordinates.valid_iff.symm

theorem Coordinates.valid_of_read {latitude longitude : String} {c : Coordinates}
    (h : read latitude longitude = .ok c) : c.Valid :=
  valid_iff.2 (inRange_of_read h)

/-- An answer that is a failure or a point on the map. -/
def OnlyValid {ε : Type} (a : Except ε Coordinates) : Prop := ∀ c, a = .ok c → c.Valid

theorem onlyValid_error {ε : Type} (e : ε) : OnlyValid (.error e : Except ε Coordinates) := by
  intro c h
  cases h

theorem mapError_eq_ok_iff {α ε ε' : Type} {f : ε → ε'} {x : Except ε α} {a : α} :
    x.mapError f = .ok a ↔ x = .ok a := by
  cases x <;> simp [Except.mapError]

theorem onlyValid_read (latitude longitude : String) :
    OnlyValid ((Coordinates.read latitude longitude).mapError GeocodeError.coordinates) := by
  intro c h
  exact Coordinates.valid_of_read (mapError_eq_ok_iff.1 h)

/-! ## Answers of the providers -/

theorem Nominatim.onlyValid_answer (body : String) : OnlyValid (answer body) := by
  unfold answer
  split
  · exact onlyValid_error _
  · unfold single
    split
    · exact onlyValid_read _ _
    · exact onlyValid_error _

theorem Yandex.onlyValid_answer (body : String) : OnlyValid (answer body) := by
  unfold answer
  split
  · exact onlyValid_error _
  · unfold best
    split
    · exact onlyValid_error _
    · unfold point
      split
      · exact onlyValid_read _ _
      · exact onlyValid_error _

theorem Exchange.onlyValid_result (p : Provider) (x : Exchange) : OnlyValid (x.result p) := by
  unfold result
  cases x.body p with
  | error e => exact onlyValid_error e
  | ok body =>
    cases p with
    | nominatim => exact Nominatim.onlyValid_answer body
    | yandex => exact Yandex.onlyValid_answer body

/-! ## Geocoders that ask servers -/

/-- Whether answers come from a server. -/
def Source.Online : Source → Prop
  | script _ => False
  | nominatim _ _ | yandex _ _ _ => True

theorem Source.Online.answer {s : Source} (h : s.Online) : OnlyValid s.answer := by
  cases s with
  | script answers => exact h.elim
  | nominatim server exchanges => exact Exchange.onlyValid_result .nominatim _
  | yandex server key exchanges =>
    cases key with
    | none => exact onlyValid_error _
    | some key => exact Exchange.onlyValid_result .yandex _

theorem Source.Online.next {s : Source} (h : s.Online) : s.next.Online := by
  cases s with
  | script answers => exact h.elim
  | nominatim server exchanges => trivial
  | yandex server key exchanges => cases key <;> trivial

theorem Geocoder.extend_of_online {g : Geocoder} (h : g.source.Online) (answers : List Answer) :
    g.extend answers = g := by
  unfold extend
  split
  · rename_i old hold
    rw [hold] at h
    exact h.elim
  · rfl

namespace Geocoders

/-- Whether both geocoders ask servers. -/
structure Online (g : Geocoders) : Prop where
  primary : g.primary.source.Online
  secondary : g.secondary.source.Online

variable {g : Geocoders}

theorem Online.callPrimary (h : g.Online) (address : String) (caller : Caller) :
    (g.callPrimary address caller).Online := ⟨h.primary.next, h.secondary⟩

theorem Online.callSecondary (h : g.Online) (address : String) (caller : Caller) :
    (g.callSecondary address caller).Online := ⟨h.primary, h.secondary.next⟩

theorem onlyValid_conclude {e : GeocodeError} {a : Answer} (h : OnlyValid a) : OnlyValid (g.conclude e a) := by
  cases a with
  | ok c =>
    intro point heq
    cases heq
    exact h c rfl
  | error e' => exact onlyValid_error _

/-- What a lookup comes to is a failure or a point on the map, and so will the next one. -/
theorem Online.resolve (h : g.Online) (address : String) (caller : Caller) :
    OnlyValid (g.resolve address caller).1 ∧ (g.resolve address caller).2.1.Online := by
  have hanswer : OnlyValid g.primary.answer := h.primary.answer
  simp only [Geocoders.resolve]
  cases hprimary : g.primary.answer with
  | ok c =>
    refine ⟨?_, h.callPrimary address caller⟩
    intro point heq
    cases heq
    exact hanswer c hprimary
  | error e =>
    have hsecond : OnlyValid g.secondary.answer := h.secondary.answer
    exact ⟨onlyValid_conclude hsecond, (h.callPrimary address caller).callSecondary address caller⟩

end Geocoders

end Matchday
