import Matchday.Services.Host
import Mathlib.Order.Bounds.Basic
import Mathlib.Data.List.Basic

/-!
Services that end in any order. Whatever happens to the services of a host, whoever waits for them returns when the
last has ended, and what is logged then is the ending of each under its own name, in the order in which they began.
Services that end when their records say are a case of this.

The invariant (`Host.Attended`) says of a host that somebody waits for either that a service still runs, or that the
waiting ended at the last of the ends.

Main statement: `services_supervised`.
-/

namespace Matchday
set_option autoImplicit false

namespace Host

variable {h : Host}

/-! ## Who has ended -/

theorem allOf_map_some (es : List Ending) : RunningServices.allOf (es.map some) = some es := by
  induction es with
  | nil => rfl
  | cons e es ih => rw [List.map_cons, RunningServices.allOf, ih, Option.map_some]

theorem allOf_of_mem {os : List (Option Ending)} (hnone : none ∈ os) : RunningServices.allOf os = none := by
  induction os with
  | nil => cases hnone
  | cons o os ih =>
    cases o with
    | none => rfl
    | some e =>
      simp only [List.mem_cons, reduceCtorEq, false_or] at hnone
      rw [RunningServices.allOf, ih hnone, Option.map_none]

theorem none_mem_or_all {α : Type} (os : List (Option α)) : none ∈ os ∨ ∃ es : List α, os = es.map some := by
  induction os with
  | nil => exact .inr ⟨[], rfl⟩
  | cons o os ih =>
    cases o with
    | none => exact .inl List.mem_cons_self
    | some e =>
      obtain hnone | ⟨es, rfl⟩ := ih
      · exact .inl (List.mem_cons_of_mem _ hnone)
      · exact .inr ⟨e :: es, rfl⟩

theorem attend_of_mem (hnone : none ∈ h.ends) : h.attend = h := by
  have hendings : none ∈ h.ends.map (Option.map Prod.snd) := List.mem_map.2 ⟨none, hnone, rfl⟩
  rw [attend, allOf_of_mem hendings]
  cases h.stage <;> rfl

theorem attend_of_all {es : List (Nat × Ending)} (awaited : h.stage = .awaited) (all : h.ends = es.map some) :
    h.attend = { h with stage := .returned h.now, log := h.log ++ endEntries h.names (es.map Prod.snd) } := by
  have hendings : h.ends.map (Option.map Prod.snd) = (es.map Prod.snd).map some := by
    rw [all, List.map_map, List.map_map]
    rfl
  rw [attend, hendings, allOf_map_some, awaited]

theorem attend_of_not_awaited (idle : h.stage ≠ .awaited) : h.attend = h := by
  rw [attend]
  split
  · rename_i hstage _
    exact absurd hstage idle
  · rfl

theorem attend_cases (h : Host) :
    h.attend = h ∨ ∃ log, h.attend = { h with stage := .returned h.now, log := h.log ++ log } := by
  unfold attend
  split
  · exact .inr ⟨_, rfl⟩
  · exact .inl rfl

@[simp] theorem attend_names (h : Host) : h.attend.names = h.names := by
  obtain heq | ⟨log, heq⟩ := h.attend_cases <;> rw [heq]

@[simp] theorem attend_now (h : Host) : h.attend.now = h.now := by
  obtain heq | ⟨log, heq⟩ := h.attend_cases <;> rw [heq]

@[simp] theorem attend_ends (h : Host) : h.attend.ends = h.ends := by
  obtain heq | ⟨log, heq⟩ := h.attend_cases <;> rw [heq]

@[simp] theorem attend_isSignalled (h : Host) : h.attend.isSignalled = h.isSignalled := by
  obtain heq | ⟨log, heq⟩ := h.attend_cases <;> rw [heq]

theorem run_append (h : Host) (earlier later : List HostEvent) : h.run (earlier ++ later) = (h.run earlier).run later :=
  List.foldl_append

theorem names_run (h : Host) (events : List HostEvent) : (h.run events).names = h.names := by
  induction events generalizing h with
  | nil => rfl
  | cons event events ih =>
    rw [run, List.foldl_cons, ← run, ih]
    cases event <;> simp [step, record]

/-- The services are told to stop by the signal and by nothing that becomes of one of them. -/
theorem isSignalled_run (h : Host) (events : List HostEvent) :
    (h.run events).isSignalled = true ↔ h.isSignalled = true ∨ .signalled ∈ events := by
  induction events generalizing h with
  | nil => simp [run]
  | cons event events ih =>
    rw [run, List.foldl_cons, ← run, ih]
    cases event <;> simp [step, record]

/-- When and how a service ends, if something happens from some time on. -/
def firstEnd? (service : Nat) : Nat → List HostEvent → Option (Nat × Ending)
  | _, [] => none
  | t, .passed milliseconds :: events => firstEnd? service (t + milliseconds) events
  | t, .ended other ending :: events =>
    if other = service then some (t, ending) else firstEnd? service t events
  | t, .signalled :: events => firstEnd? service t events

/-- What becomes of a service depends on its own end and not on those of others. -/
theorem ends_run (h : Host) (events : List HostEvent) (i : Nat) :
    (h.run events).ends[i]? = h.ends[i]?.map fun e => e.or (firstEnd? i h.now events) := by
  induction events generalizing h with
  | nil => simp [run, firstEnd?]
  | cons event events ih =>
    rw [run, List.foldl_cons, ← run, ih]
    cases event with
    | passed milliseconds => rfl
    | signalled => rfl
    | ended other ending =>
      simp only [step, record, attend_ends, attend_now, List.getElem?_modify, firstEnd?, Option.map_eq_map,
        Option.map_map]
      congr 1
      funext e
      by_cases hother : other = i
      · simp [hother]
      · simp [hother]

/-! ## When the waiting ends -/

/-- Every service has a place for its end, and what has ended did so by now. -/
structure Sound (h : Host) : Prop where
  length : h.ends.length = h.names.length
  past : ∀ e, some e ∈ h.ends → e.1 ≤ h.now

/-- Somebody has waited since some time, when this had been logged: until now, as a service still runs, or until the
last of them ended. -/
structure Attended (since : Nat) (before : List LogEntry) (h : Host) : Prop where
  sound : h.Sound
  since_le : since ≤ h.now
  stage : h.stage = .awaited ∧ none ∈ h.ends ∧ h.log = before ∨
    ∃ (es : List (Nat × Ending)) (t : Nat), h.ends = es.map some ∧ h.stage = .returned t ∧ IsGreatest {x | x ∈ since :: es.map Prod.fst} t ∧
      h.log = before ++ endEntries h.names (es.map Prod.snd)

theorem sound_start (names : List String) (now : Nat) (isSignalled : Bool) : (start names now isSignalled).Sound :=
  ⟨by simp [start], by simp [start]⟩

theorem Sound.attend (sound : h.Sound) : h.attend.Sound := by
  refine ⟨?_, ?_⟩
  · rw [attend_ends, attend_names]
    exact sound.length
  · rw [attend_ends, attend_now]
    exact sound.past

theorem Sound.record (sound : h.Sound) (service : Nat) (ending : Ending) : (h.record service ending).Sound := by
  refine ⟨?_, ?_⟩
  · simpa [Host.record] using sound.length
  · intro e he
    obtain ⟨i, hi⟩ := List.mem_iff_getElem?.1 he
    simp only [Host.record, List.getElem?_modify, Option.map_eq_map, Option.map_eq_some_iff] at hi
    obtain ⟨o, ho, hor⟩ := hi
    have hmem := List.mem_of_getElem? ho
    by_cases hservice : service = i
    · rw [if_pos hservice] at hor
      cases o with
      | none =>
        cases hor
        exact le_rfl
      | some earlier =>
        injection hor with hor
        exact hor ▸ sound.past earlier hmem
    · rw [if_neg hservice] at hor
      subst hor
      exact sound.past e hmem

theorem Sound.step (sound : h.Sound) (event : HostEvent) : (h.step event).Sound := by
  cases event with
  | passed milliseconds => exact ⟨sound.length, fun e he => (sound.past e he).trans (Nat.le_add_right _ _)⟩
  | ended service ending => exact (sound.record service ending).attend
  | signalled => exact ⟨sound.length, sound.past⟩

theorem Sound.run (sound : h.Sound) (events : List HostEvent) : (h.run events).Sound := by
  induction events generalizing h with
  | nil => exact sound
  | cons event events ih => exact ih (sound.step event)

theorem stage_run (idle : h.stage = .unattended) (events : List HostEvent) :
    (h.run events).stage = .unattended ∧ (h.run events).log = h.log := by
  induction events generalizing h with
  | nil => exact ⟨idle, rfl⟩
  | cons event events ih =>
    rw [run, List.foldl_cons, ← run]
    cases event with
    | passed milliseconds => exact ih idle
    | signalled => exact ih idle
    | ended service ending =>
      have hidle : (h.record service ending).stage ≠ .awaited := by
        rw [record, idle]
        nofun
      rw [step, attend_of_not_awaited hidle]
      exact ih idle

theorem Sound.attended_join (sound : h.Sound) : h.join.Attended h.now h.log := by
  have hsound : h.await.Sound := ⟨sound.length, sound.past⟩
  rw [join]
  obtain hnone | ⟨es, hes⟩ := none_mem_or_all h.await.ends
  · rw [attend_of_mem hnone]
    exact ⟨hsound, le_rfl, .inl ⟨rfl, hnone, rfl⟩⟩
  · refine ⟨hsound.attend, by simp [await], .inr ⟨es, h.now, ?_⟩⟩
    rw [attend_of_all rfl hes]
    refine ⟨hes, rfl, ⟨List.mem_cons_self, ?_⟩, rfl⟩
    intro x hx
    obtain rfl | hx := List.mem_cons.1 hx
    · exact le_rfl
    · obtain ⟨e, he, rfl⟩ := List.mem_map.1 hx
      exact sound.past e (hes ▸ List.mem_map_of_mem he)

variable {since : Nat} {before : List LogEntry}

/-- The end for which somebody waited is the last, and it is now. -/
theorem Attended.record_attend (attended : h.Attended since before) (service : Nat) (ending : Ending) :
    (h.record service ending).attend.Attended since before := by
  have hsound := attended.sound.record service ending
  have hsince : since ≤ (h.record service ending).now := attended.since_le
  obtain ⟨hawaited, hnone, hlog⟩ | ⟨es, t, hes, hreturned, hlast, hlog⟩ := attended.stage
  · obtain hstill | ⟨es, hes⟩ := none_mem_or_all (h.record service ending).ends
    · rw [attend_of_mem hstill]
      exact ⟨hsound, hsince, .inl ⟨hawaited, hstill, hlog⟩⟩
    · refine ⟨hsound.attend, by simpa using hsince, .inr ⟨es, h.now, ?_⟩⟩
      rw [attend_of_all (h := h.record service ending) hawaited hes]
      refine ⟨hes, rfl, ⟨List.mem_cons_of_mem _ ?_, ?_⟩, by rw [← hlog]; rfl⟩
      · -- the service that was missing is the one that ended
        obtain ⟨i, hi⟩ := List.mem_iff_getElem?.1 hnone
        have hmissing : (h.record service ending).ends[i]? = some (if service = i then some (h.now, ending) else none) := by
          simp only [record, List.getElem?_modify, hi]
          split <;> rfl
        have hi' := List.mem_of_getElem? hmissing
        rw [hes, List.mem_map] at hi'
        obtain ⟨e, he, heq⟩ := hi'
        split at heq
        · cases heq
          exact List.mem_map_of_mem he
        · cases heq
      · intro x hx
        obtain rfl | hx := List.mem_cons.1 hx
        · exact attended.since_le
        · obtain ⟨e, he, rfl⟩ := List.mem_map.1 hx
          exact hsound.past e (hes ▸ List.mem_map_of_mem he)
  · have hsame : h.record service ending = h := by
      have hends : h.ends.modify service (fun e => e.or (some (h.now, ending))) = h.ends := by
        apply List.ext_getElem?
        intro i
        rw [hes, List.getElem?_modify, List.getElem?_map]
        cases es[i]? <;> simp
      rw [record, hends]
    rw [hsame, attend_of_not_awaited (by rw [hreturned]; nofun)]
    exact attended

theorem Attended.step (attended : h.Attended since before) (event : HostEvent) :
    (h.step event).Attended since before := by
  cases event with
  | passed milliseconds =>
    exact ⟨attended.sound.step (.passed milliseconds), attended.since_le.trans (Nat.le_add_right _ _), attended.stage⟩
  | ended service ending => exact attended.record_attend service ending
  | signalled => exact ⟨attended.sound.step .signalled, attended.since_le, attended.stage⟩

theorem Attended.run (attended : h.Attended since before) (events : List HostEvent) :
    (h.run events).Attended since before := by
  induction events generalizing h with
  | nil => exact attended
  | cons event events ih => exact ih (attended.step event)

theorem Attended.stage_of_mem (attended : h.Attended since before) (hnone : none ∈ h.ends) :
    h.stage = .awaited ∧ h.log = before := by
  obtain ⟨hawaited, -, hlog⟩ | ⟨es, t, hes, -⟩ := attended.stage
  · exact ⟨hawaited, hlog⟩
  · rw [hes] at hnone
    simp at hnone

theorem Attended.stage_of_all (attended : h.Attended since before) {es : List (Nat × Ending)}
    (all : h.ends = es.map some) : ∃ t, h.stage = .returned t ∧ IsGreatest {x | x ∈ since :: es.map Prod.fst} t ∧
      h.log = before ++ endEntries h.names (es.map Prod.snd) := by
  obtain ⟨-, hnone, -⟩ | ⟨es', t, hes, hreturned, hlast, hlog⟩ := attended.stage
  · rw [all] at hnone
    simp at hnone
  · rw [all] at hes
    obtain rfl := List.map_injective_iff.2 (Option.some_injective _) hes
    exact ⟨t, hreturned, hlast, hlog⟩

theorem ends_start_run (names : List String) (startedAt : Nat) (told : Bool) (events : List HostEvent) :
    ((start names startedAt told).run events).ends =
      (List.range names.length).map fun i => firstEnd? i startedAt events := by
  apply List.ext_getElem?
  intro i
  rw [ends_run]
  by_cases hi : i < names.length <;> simp [start, hi]

/-- Waiting changes nothing about the ends. -/
theorem ends_join_run (h : Host) (events : List HostEvent) : (h.join.run events).ends = (h.run events).ends := by
  apply List.ext_getElem?
  intro i
  rw [ends_run, ends_run, join, attend_ends, attend_now, await]

theorem ends_stop_run (h : Host) (events : List HostEvent) : (h.stop.run events).ends = (h.run events).ends := by
  apply List.ext_getElem?
  intro i
  rw [stop, ends_join_run, ends_run, ends_run, step]

/-- Whoever waits, with the signal or without it, is told the same. -/
theorem Sound.attended_finish {finished : Host} (sound : h.Sound) {late : List HostEvent}
    (finish : finished = h.join.run late ∨ finished = h.stop.run late) :
    finished.Attended h.now h.log ∧ finished.names = h.names ∧ finished.ends = (h.run late).ends := by
  obtain rfl | rfl := finish
  · refine ⟨sound.attended_join.run late, ?_, ends_join_run h late⟩
    rw [names_run, join, attend_names]
    rfl
  · refine ⟨(sound.step .signalled).attended_join.run late, ?_, ends_stop_run h late⟩
    rw [names_run, stop, join, attend_names]
    rfl

end Host

/-! ## Services that end when their records say -/

namespace RunningServices

variable {r : RunningServices}

theorem isGreatest_lastEnd (r : RunningServices) (signal now : Nat) :
    IsGreatest {x | x ∈ now :: r.services.map fun s => s.endsAt r.startedAt signal} (r.lastEnd signal now) := by
  rw [lastEnd]
  induction r.services generalizing now with
  | nil => simp
  | cons s services ih =>
    obtain ⟨hmem, hle⟩ := ih (max now (s.endsAt r.startedAt signal))
    rw [List.foldl_cons]
    refine ⟨?_, ?_⟩
    · obtain heq | hmem := List.mem_cons.1 hmem
      · rw [heq]
        obtain hle | hle := Nat.le_total now (s.endsAt r.startedAt signal)
        · simp [Nat.max_eq_right hle]
        · simp [Nat.max_eq_left hle]
      · exact List.mem_cons_of_mem _ (List.mem_cons_of_mem _ hmem)
    · intro x hx
      have hmax : max now (s.endsAt r.startedAt signal) ≤ _ := hle List.mem_cons_self
      simp only [List.map_cons, Set.mem_ofPred_eq, List.mem_cons] at hx
      obtain rfl | rfl | hx := hx
      · exact (le_max_left _ _).trans hmax
      · exact (le_max_right _ _).trans hmax
      · exact hle (List.mem_cons_of_mem _ hx)

/-- Once all have ended, the log has the ending of each. -/
theorem join?_of_ended {now : Nat} (ended : ∀ s ∈ r.services, r.hasEnded now s = true) :
    r.join? now = some (r.services.map fun s => .serviceEnded s.name s.ending) := by
  have houtcomes : r.outcomes now = (r.services.map Service.ending).map some := by
    rw [outcomes, List.map_map]
    apply List.map_congr_left
    intro s hs
    rw [if_pos (ended s hs), Function.comp_apply]
  rw [join?, houtcomes, Host.allOf_map_some, Option.map_some, List.zip_map', List.map_map]
  rfl

theorem stop_eq (r : RunningServices) (now : Nat) : r.stop now = (r.lastEnd (r.signalledAt.getD now) now, r.signal now,
    r.services.map fun s => .serviceEnded s.name s.ending) := by
  have hsignalled : (r.signal now).signalledAt = some (r.signalledAt.getD now) := by
    rw [signal]
    cases r.signalledAt <;> rfl
  have hended : ∀ s ∈ (r.signal now).services,
      (r.signal now).hasEnded (r.lastEnd (r.signalledAt.getD now) now) s = true := by
    intro s hs
    rw [hasEnded, hsignalled]
    have hle := (isGreatest_lastEnd r (r.signalledAt.getD now) now).2
    exact decide_eq_true (hle (List.mem_cons_of_mem _ (List.mem_map_of_mem hs)))
  have hlast : (r.signal now).lastEnd ((r.signal now).signalledAt.getD now) now =
      r.lastEnd (r.signalledAt.getD now) now := by
    rw [hsignalled, Option.getD_some]
    rfl
  rw [stop]
  simp only [hlast, join?_of_ended hended, Option.getD_some]
  rfl

end RunningServices

/-- Whoever waits for services that end when their records say is done when the services are, and has the same to
tell. -/
theorem Host.Attended.as_recorded {h : Host} {now : Nat} {before : List LogEntry} (attended : h.Attended now before)
    {r : RunningServices} (names : h.names = r.services.map Service.name)
    (ends : h.ends = r.services.map fun s => some (s.endsAt r.startedAt (r.signalledAt.getD now), s.ending)) :
    h.stage = .returned (r.stop now).1 ∧ h.log = before ++ (r.stop now).2.2 := by
  have hends : h.ends =
      (r.services.map fun s => (s.endsAt r.startedAt (r.signalledAt.getD now), s.ending)).map some := by
    rw [ends, List.map_map]
    rfl
  obtain ⟨t, hreturned, hlast, hlog⟩ := attended.stage_of_all hends
  rw [List.map_map] at hlast
  rw [r.stop_eq now]
  refine ⟨?_, ?_⟩
  · rw [hreturned, hlast.unique (r.isGreatest_lastEnd _ now)]
  · rw [hlog, endEntries, names, List.map_map, List.zip_map', List.map_map]
    rfl

/-! ### Histories of such services -/

namespace Host

/-- The ends that are planned for some time, of services with these numbers. -/
def dueAt (t : Nat) : Nat → List (Nat × Ending) → List HostEvent
  | _, [] => []
  | k, e :: plan => (if e.1 = t then [.ended k e.2] else []) ++ dueAt t (k + 1) plan

/-- What happens in so many milliseconds from some time on, if every service ends as planned. -/
def timeline (plan : List (Nat × Ending)) : Nat → Nat → List HostEvent
  | 0, _ => []
  | n + 1, t => dueAt t 0 plan ++ .passed 1 :: timeline plan n (t + 1)

variable {plan : List (Nat × Ending)} {e : Nat × Ending} {rest : List HostEvent}

theorem firstEnd?_dueAt_of_lt {i k : Nat} (hi : i < k) (t : Nat) :
    firstEnd? i t (dueAt t k plan ++ rest) = firstEnd? i t rest := by
  induction plan generalizing k with
  | nil => rfl
  | cons e plan ih =>
    have hrest := ih (k := k + 1) (by omega)
    unfold dueAt
    split
    · have hne : k ≠ i := by omega
      simpa [firstEnd?, hne] using hrest
    · exact hrest

theorem firstEnd?_dueAt {j : Nat} (planned : plan[j]? = some e) (k t : Nat) (rest : List HostEvent) :
    firstEnd? (k + j) t (dueAt t k plan ++ rest) = if e.1 = t then some e else firstEnd? (k + j) t rest := by
  induction plan generalizing j k with
  | nil => simp at planned
  | cons first plan ih =>
    unfold dueAt
    cases j with
    | zero =>
      obtain rfl : first = e := by simpa using planned
      split
      · rename_i hfirst
        simp [firstEnd?, ← hfirst]
      · exact firstEnd?_dueAt_of_lt (by omega) t
    | succ j =>
      have hrest := ih (by simpa using planned) (k + 1)
      have hindex : k + 1 + j = k + (j + 1) := by omega
      rw [hindex] at hrest
      split
      · simpa [firstEnd?] using hrest
      · exact hrest

theorem firstEnd?_timeline {i : Nat} (planned : plan[i]? = some e) {n t : Nat} (hle : t ≤ e.1) (hlt : e.1 < t + n) :
    firstEnd? i t (timeline plan n t) = some e := by
  induction n generalizing t with
  | zero => omega
  | succ n ih =>
    have hdue := firstEnd?_dueAt planned 0 t (.passed 1 :: timeline plan n (t + 1))
    rw [Nat.zero_add] at hdue
    rw [timeline, hdue]
    split
    · rfl
    · exact ih (by omega) (by omega)

theorem timeline_add (plan : List (Nat × Ending)) (m n t : Nat) :
    timeline plan (m + n) t = timeline plan m t ++ timeline plan n (t + m) := by
  induction m generalizing t with
  | zero => simp [timeline]
  | succ m ih =>
    have hsucc : m + 1 + n = m + n + 1 := by omega
    have hstart : t + 1 + m = t + (m + 1) := by omega
    rw [hsucc, timeline, timeline, ih, hstart]
    simp

theorem now_run_dueAt (h : Host) (t k : Nat) (plan : List (Nat × Ending)) : (h.run (dueAt t k plan)).now = h.now := by
  induction plan generalizing h k with
  | nil => rfl
  | cons e plan ih =>
    unfold dueAt
    split
    · rw [run_append, ih]
      simp [run, step, record]
    · exact ih h (k + 1)

theorem now_run_timeline (h : Host) (plan : List (Nat × Ending)) (n t : Nat) :
    (h.run (timeline plan n t)).now = h.now + n := by
  induction n generalizing h t with
  | zero => rfl
  | succ n ih =>
    rw [timeline, run_append]
    show (((h.run (dueAt t 0 plan)).step (.passed 1)).run (timeline plan n (t + 1))).now = _
    rw [ih, step]
    dsimp only
    rw [now_run_dueAt]
    omega

end Host

theorem Service.le_endsAt (s : Service) (start signal : Nat) : start ≤ s.endsAt start signal := by
  unfold endsAt Timer.after
  split <;> dsimp only <;> omega

/-- Services can end when their records say, whenever somebody begins to wait. -/
theorem exists_history (services : List Service) {startedAt now : Nat} (told : Bool) (signalledAt : Option Nat)
    (begun : startedAt ≤ now) :
    ∃ early late, ((Host.start (services.map Service.name) startedAt told).run early).now = now ∧
      (List.range services.length).map (fun i => Host.firstEnd? i startedAt (early ++ late)) =
        services.map fun s => some (s.endsAt startedAt (signalledAt.getD now), s.ending) := by
  let r : RunningServices := ⟨services, startedAt, signalledAt⟩
  let last := r.lastEnd (signalledAt.getD now) now
  let plan := services.map fun s => (s.endsAt startedAt (signalledAt.getD now), s.ending)
  refine ⟨Host.timeline plan (now - startedAt) startedAt, Host.timeline plan (last + 1) now, ?_, ?_⟩
  · rw [Host.now_run_timeline]
    exact Nat.add_sub_of_le begun
  · have hwhole := Host.timeline_add plan (now - startedAt) (last + 1) startedAt
    rw [Nat.add_sub_of_le begun] at hwhole
    rw [← hwhole]
    apply List.ext_getElem?
    intro i
    by_cases hi : i < services.length
    · have hplanned : plan[i]? = some (services[i].endsAt startedAt (signalledAt.getD now), services[i].ending) := by
        simp [plan, hi]
      have hlast : services[i].endsAt startedAt (signalledAt.getD now) ≤ last :=
        (r.isGreatest_lastEnd _ now).2 (List.mem_cons_of_mem _ (List.mem_map_of_mem (List.getElem_mem hi)))
      have hfirst := Host.firstEnd?_timeline hplanned (n := now - startedAt + (last + 1))
        (services[i].le_endsAt startedAt _) (by dsimp only; omega)
      simp [hi, hfirst]
    · simp [hi]

/-- Services that begin at some time, whether or not they were told to stop by then, and anything that happens to
them before and after somebody waits, with or without the signal. All begin in their order. What becomes of each
depends on its own end alone, and none of the ends is a signal to the others. Whoever waits does so while a service
runs, and until the last of the ends, or not at all if there is none to come; then the log has one entry for each
service in the order of their beginnings, which says under its name how it ended, with the error of one that failed
and the report of one that broke down. Services that end when their records say, which they can do, are stopped in
the same way. -/
theorem services_supervised (services : List Service) (startedAt : Nat) (told : Bool) (early late : List HostEvent) :
    let names := services.map Service.name
    let before := (Host.start names startedAt told).run early
    let ends := (List.range services.length).map fun i => Host.firstEnd? i startedAt (early ++ late)
    (RunningServices.start services startedAt told).length = services.length ∧
      (before.isSignalled = true ↔ told = true ∨ .signalled ∈ early) ∧ before.stop.isSignalled = true ∧
      (∀ h, h = before.join.run late ∨ h = before.stop.run late →
        h.ends = ends ∧ (none ∈ ends → h.stage = .awaited ∧ h.log = startEntries services) ∧
          (∀ es : List (Nat × Ending), ends = es.map some → ∃ t, h.stage = .returned t ∧
            IsGreatest {x | x ∈ before.now :: es.map Prod.fst} t ∧
            h.log = startEntries services ++ Host.endEntries names (es.map Prod.snd)) ∧
          ∀ signalledAt, let r : RunningServices := ⟨services, startedAt, signalledAt⟩
            ends = services.map (fun s => some (s.endsAt startedAt (signalledAt.getD before.now), s.ending)) →
              h.stage = .returned (r.stop before.now).1 ∧ h.log = startEntries services ++ (r.stop before.now).2.2) ∧
      (∀ (signalledAt : Option Nat) (now : Nat), startedAt ≤ now → ∃ early late, ((Host.start names startedAt told).run early).now = now ∧
        (List.range services.length).map (fun i => Host.firstEnd? i startedAt (early ++ late)) =
          services.map fun s => some (s.endsAt startedAt (signalledAt.getD now), s.ending)) ∧
      (∀ signalledAt now, let r : RunningServices := ⟨services, startedAt, signalledAt⟩
        (r.stop now).2.1.isSignalled = true ∧ (r.stop now).2.2 = services.map (fun s => .serviceEnded s.name s.ending) ∧
          IsGreatest {x | x ∈ now :: services.map fun s => s.endsAt startedAt (signalledAt.getD now)} (r.stop now).1) ∧
      ∀ name error task text?, let entry := LogEntry.serviceEnded name
        ((entry .stopped).level = .info ∧ (entry .stopped).message = "service stopped" ∧
          (entry .stopped).fields = [("service", name)]) ∧
        ((entry (.failed error)).level = .error ∧ (entry (.failed error)).message = "service failed" ∧
          (entry (.failed error)).fields = [("service", name), ("error", error)]) ∧
        (entry (.panicked task text?)).level = .error ∧
          (entry (.panicked task text?)).message = "service panicked" ∧
          (entry (.panicked task text?)).fields = [("service", name), ("error", "task " ++ toString task ++ " panicked" ++
            (text?.map fun text => " with message " ++ Text.quoted text).getD "")] := by
  intro names before ends
  have hlength : names.length = services.length := List.length_map _
  have hsound : before.Sound := (Host.sound_start names startedAt told).run early
  obtain ⟨-, hlog⟩ := Host.stage_run (h := Host.start names startedAt told) rfl early
  have hstart : before.log = startEntries services := by
    rw [hlog, startEntries]
    exact List.map_map
  have hstop : ∀ signalledAt now, let r : RunningServices := ⟨services, startedAt, signalledAt⟩
      (r.stop now).2.1.isSignalled = true ∧ (r.stop now).2.2 = services.map (fun s => .serviceEnded s.name s.ending) ∧
        IsGreatest {x | x ∈ now :: services.map fun s => s.endsAt startedAt (signalledAt.getD now)} (r.stop now).1 := by
    intro signalledAt now r
    rw [r.stop_eq now]
    refine ⟨?_, rfl, r.isGreatest_lastEnd _ _⟩
    simp [RunningServices.isSignalled, RunningServices.signal]
  refine ⟨rfl, Host.isSignalled_run _ early, by simp [Host.stop, Host.join, Host.await, Host.step], ?_, ?_, hstop, ?_⟩
  · intro h hfinish
    obtain ⟨hattended, hkept, hrun⟩ := hsound.attended_finish hfinish
    rw [hstart] at hattended
    have hnames : h.names = names := hkept.trans (Host.names_run _ early)
    have hends : h.ends = ends := by
      rw [hrun, ← Host.run_append, Host.ends_start_run, hlength]
    refine ⟨hends, ?_, ?_, ?_⟩
    · rw [← hends]
      exact hattended.stage_of_mem
    · intro es hes
      rw [← hnames]
      exact hattended.stage_of_all (hends.trans hes)
    · intro signalledAt r hrecords
      exact hattended.as_recorded hnames (hends.trans hrecords)
  · intro signalledAt now begun
    exact exists_history services told signalledAt begun
  · intro name error task text?
    exact ⟨⟨rfl, rfl, rfl⟩, ⟨rfl, rfl, rfl⟩, rfl, rfl, rfl⟩

/-- The second service breaks down at once; the first is not disturbed and returns seven milliseconds after the
signal. -/
example :
    let h := ((Host.start ["sweep", "consumer"] 0 false).run [.ended 1 (.panicked 6 none), .passed 5]).stop.run
      [.passed 7, .ended 0 .stopped]
    h.stage = .returned 12 ∧
      h.log.drop 2 = [.serviceEnded "sweep" .stopped, .serviceEnded "consumer" (.panicked 6 none)] :=
  ⟨rfl, rfl⟩

end Matchday
