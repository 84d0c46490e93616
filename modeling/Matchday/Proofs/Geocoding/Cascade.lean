import Matchday.Geocoding.Resolver
import Mathlib.Data.List.Basic

/-!
A row of lookups with two geocoders that answer from scripts. The first script is used up by one answer with
each lookup, the second only by the lookups whose first answer is a failure; so what a lookup comes to depends
on how many failures stand before its own answer in the first script.

One lookup takes the scripts' first answers away, and those behind it see the rest as if nothing had happened
(`Geocoders.Plays.resolve`, `Geocoders.outcomeAt_succ`); the row follows by induction.

Main statement: `Geocoders.resolveAll_scripted`.
-/

namespace Matchday
set_option autoImplicit false

/-! ## Scripts -/

/-- What a script has for the call with some number; behind its end it gives nothing. -/
def answerAt (script : List Answer) (i : Nat) : Answer := script.getD i (.error .scriptEnded)

def failsAt (script : List Answer) (i : Nat) : Bool := !(answerAt script i).isOk

/-- How many of the first answers of a script are failures. -/
def failuresBefore (script : List Answer) (i : Nat) : Nat := (List.range i).countP (failsAt script)

theorem answer_script (script : List Answer) : (Source.script script).answer = answerAt script 0 := by
  cases script <;> rfl

theorem answerAt_drop (script : List Answer) (n i : Nat) :
    answerAt (script.drop n) i = answerAt script (n + i) := by
  simp [answerAt, List.getD_eq_getElem?_getD]

theorem failsAt_tail (script : List Answer) (i : Nat) : failsAt script.tail i = failsAt script (i + 1) := by
  rw [failsAt, failsAt, ← List.drop_one, answerAt_drop, Nat.add_comm]

theorem failuresBefore_succ (script : List Answer) (i : Nat) :
    failuresBefore script (i + 1) = failuresBefore script.tail i + (failsAt script 0).toNat := by
  have htail : failsAt script.tail = failsAt script ∘ Nat.succ := by
    funext i
    exact failsAt_tail script i
  rw [failuresBefore, failuresBefore, htail, List.range_succ_eq_map, List.countP_cons, List.countP_map]
  cases failsAt script 0 <;> rfl

namespace Geocoders

/-! ## What lookups come to -/

/-- Looks addresses up one after the other: what each comes to and what it logs, and the geocoders after all. -/
def resolveAll (g : Geocoders) : List (String × Caller) → List (Resolution × List LogEntry) × Geocoders
  | [] => ([], g)
  | (address, caller) :: calls =>
    let (outcome, g', entries) := g.resolve address caller
    ((outcome, entries) :: (g'.resolveAll calls).1, (g'.resolveAll calls).2)

/-- What a lookup comes to by the answers of both geocoders, of which it may not need the second. -/
def verdict (primary secondary : String) : Answer → Answer → Resolution
  | .ok c, _ => .ok c
  | .error _, .ok c => .ok c
  | .error e, .error e' => .error ⟨primary, e, secondary, e'⟩

def remarksOn (address : String) : Resolution → List LogEntry
  | .ok _ => []
  | .error _ => [.allGeocodersFailed address]

/-- What the lookup with some number comes to. Its second answer is behind those that the failures before it
have used up. -/
def outcomeAt (primary secondary : String) (ps ss : List Answer) (i : Nat) : Resolution :=
  verdict primary secondary (answerAt ps i) (answerAt ss (failuresBefore ps i))

def failing (script : List Answer) (calls : List (String × Caller)) : List (String × Caller) :=
  (calls.zipIdx.filter fun call => failsAt script call.2).map Prod.fst

variable {primary secondary : String} {ps ss : List Answer} {asked fallbacks calls : List (String × Caller)}
  {g : Geocoders}

theorem outcomeAt_succ (i : Nat) : outcomeAt primary secondary ps ss (i + 1)
    = outcomeAt primary secondary ps.tail (ss.drop (failsAt ps 0).toNat) i := by
  rw [outcomeAt, outcomeAt, failuresBefore_succ, answerAt_drop, ← List.drop_one, answerAt_drop]
  rw [Nat.add_comm i, Nat.add_comm (failsAt ps 0).toNat]

theorem failing_cons (call : String × Caller) (calls : List (String × Caller)) :
    failing ps (call :: calls) = (if failsAt ps 0 then [call] else []) ++ failing ps.tail calls := by
  have hrest : failing ps.tail calls =
      ((calls.zipIdx 1).filter fun call => failsAt ps call.2).map Prod.fst := by
    rw [List.zipIdx_succ, List.filter_map, List.map_map, failing]
    simp [failsAt_tail, Function.comp_def]
  rw [hrest, failing, List.zipIdx_cons, List.filter_cons]
  cases failsAt ps 0 <;> rfl

/-! ## Rows of lookups -/

/-- Geocoders of these names, with what is left of their scripts and the calls that they had. -/
structure Plays (g : Geocoders) (primary secondary : String) (ps ss : List Answer)
    (asked fallbacks : List (String × Caller)) : Prop where
  primaryName : g.primary.name = primary
  primarySource : g.primary.source = .script ps
  primaryCalls : g.primary.calls = asked
  secondaryName : g.secondary.name = secondary
  secondarySource : g.secondary.source = .script ss
  secondaryCalls : g.secondary.calls = fallbacks

theorem remarks_script {geocoder : Geocoder} (h : geocoder.source = .script ps) (address : String)
    (a : Answer) : geocoder.remarks address a = [] := by
  cases a with
  | ok c => rfl
  | error e => simp [Geocoder.remarks, h]

theorem Plays.resolve (h : g.Plays primary secondary ps ss asked fallbacks) (address : String)
    (caller : Caller) :
    ∃ g', g.resolve address caller = (outcomeAt primary secondary ps ss 0, g',
        remarksOn address (outcomeAt primary secondary ps ss 0)) ∧
      g'.Plays primary secondary ps.tail (ss.drop (failsAt ps 0).toNat) (asked ++ [(address, caller)])
        (fallbacks ++ if failsAt ps 0 then [(address, caller)] else []) := by
  have hfirst : g.primary.answer = answerAt ps 0 := by
    rw [Geocoder.answer, h.primarySource, answer_script]
  have hsecond : g.secondary.answer = answerAt ss 0 := by
    rw [Geocoder.answer, h.secondarySource, answer_script]
  have hnext : (g.callPrimary address caller).Plays primary secondary ps.tail ss
      (asked ++ [(address, caller)]) fallbacks := by
    refine ⟨h.primaryName, ?_, congrArg (· ++ [(address, caller)]) h.primaryCalls, h.secondaryName,
      h.secondarySource, h.secondaryCalls⟩
    exact congrArg Source.next h.primarySource
  have houtcome : outcomeAt primary secondary ps ss 0
      = verdict primary secondary (answerAt ps 0) (answerAt ss 0) := rfl
  -- the second geocoder moves on only if the first fails
  cases hanswer : answerAt ps 0 with
  | ok c =>
    have hfails : failsAt ps 0 = false := by simp [failsAt, hanswer, Except.isOk, Except.toBool]
    refine ⟨g.callPrimary address caller, ?_, by simpa [hfails] using hnext⟩
    simp [Geocoders.resolve, hfirst, hanswer, houtcome, remarks_script h.primarySource, verdict, remarksOn]
  | error e =>
    have hfails : failsAt ps 0 = true := by simp [failsAt, hanswer, Except.isOk, Except.toBool]
    have hverdict : g.conclude e (answerAt ss 0) = outcomeAt primary secondary ps ss 0 := by
      rw [houtcome, hanswer, ← h.primaryName, ← h.secondaryName]
      cases answerAt ss 0 <;> rfl
    have hremarks : g.concludingRemarks address (answerAt ss 0)
        = remarksOn address (outcomeAt primary secondary ps ss 0) := by
      rw [← hverdict]
      cases answerAt ss 0 <;> simp [concludingRemarks, remarks_script h.secondarySource, conclude, remarksOn]
    refine ⟨(g.callPrimary address caller).callSecondary address caller, ?_, ?_⟩
    · simp [Geocoders.resolve, hfirst, hsecond, hanswer, hverdict, hremarks, remarks_script h.primarySource]
    · refine ⟨hnext.primaryName, hnext.primarySource, hnext.primaryCalls, hnext.secondaryName, ?_, ?_⟩
      · rw [hfails, Bool.toNat_true, List.drop_one]
        exact congrArg Source.next hnext.secondarySource
      · rw [hfails, if_pos rfl]
        exact congrArg (· ++ [(address, caller)]) hnext.secondaryCalls

theorem Plays.resolveAll (h : g.Plays primary secondary ps ss asked fallbacks)
    (calls : List (String × Caller)) :
    (g.resolveAll calls).1 = calls.mapIdx (fun i call => (outcomeAt primary secondary ps ss i,
        remarksOn call.1 (outcomeAt primary secondary ps ss i))) ∧
      (g.resolveAll calls).2.Plays primary secondary (ps.drop calls.length)
        (ss.drop (failuresBefore ps calls.length)) (asked ++ calls) (fallbacks ++ failing ps calls) := by
  -- on the calls: what is left of the scripts behind the first of them is where the others start
  induction calls generalizing g ps ss asked fallbacks with
  | nil => simpa [Geocoders.resolveAll, failuresBefore, failing] using h
  | cons call calls ih =>
    obtain ⟨g', hresolve, hnext⟩ := h.resolve call.1 call.2
    obtain ⟨houtcomes, hplays⟩ := ih hnext
    rw [Geocoders.resolveAll, hresolve]
    refine ⟨?_, ?_⟩
    · simp only [houtcomes, List.mapIdx_cons, outcomeAt_succ]
    · rw [List.drop_drop, Nat.add_comm, ← failuresBefore_succ, List.append_assoc, List.append_assoc,
        ← failing_cons, ← List.drop_one, List.drop_drop, Nat.add_comm] at hplays
      exact hplays

/-- A row of lookups with two geocoders that answer from scripts. The first is called with every address, the
second with those alone for which the first fails, both in order and as they were asked. A lookup comes to its
answer in the first script if that is a point, or else to the answer of the second script that is due after as
many failures of the first, or else to both failures, each under the name of its geocoder; a script that has
come to its end fails. There is one warning for each lookup that comes to nothing and no other. -/
theorem resolveAll_scripted (primary secondary : String) (ps ss : List Answer)
    (calls : List (String × Caller)) :
    let g : Geocoders := ⟨.scripted primary ps, .scripted secondary ss⟩
    (g.resolveAll calls).2.primary.calls = calls ∧
      (g.resolveAll calls).2.secondary.calls = failing ps calls ∧
      (g.resolveAll calls).1 = calls.mapIdx (fun i call => (outcomeAt primary secondary ps ss i,
        remarksOn call.1 (outcomeAt primary secondary ps ss i))) ∧
      (∀ lookup ∈ (g.resolveAll calls).1,
        lookup.2.countP (·.level = .warn) = if lookup.1.isOk then 0 else 1) ∧
      (∀ e e', (⟨primary, e, secondary, e'⟩ : ResolveError).message
        = primary ++ ": " ++ e.message ++ ", " ++ secondary ++ ": " ++ e'.message) ∧
      GeocodeError.scriptEnded.message = "no scripted response" := by
  intro g
  have hstart : g.Plays primary secondary ps ss [] [] := ⟨rfl, rfl, rfl, rfl, rfl, rfl⟩
  obtain ⟨houtcomes, hplays⟩ := hstart.resolveAll calls
  refine ⟨hplays.primaryCalls, hplays.secondaryCalls, houtcomes, ?_, fun e e' => rfl, rfl⟩
  intro lookup hlookup
  rw [houtcomes, List.mem_mapIdx] at hlookup
  obtain ⟨i, hi, rfl⟩ := hlookup
  cases outcomeAt primary secondary ps ss i <;> simp [remarksOn, Except.isOk, Except.toBool, LogEntry.level]

/-- The second lookup is the second to fail at the first geocoder, so it gets the second answer of the other. -/
example (c : Coordinates) : outcomeAt "open map" "yandex" [.error .keyMissing] [.error .noResults, .ok c] 1 = .ok c :=
  rfl

end Geocoders

end Matchday
