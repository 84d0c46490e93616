import Matchday.Proofs.Text.Ascii
import Matchday.Proofs.Text.Trimming
import Matchday.Settings.File

/-!
Plain files of assignments: a line for each, a name, an equals sign and a value without blanks, quotation marks,
backslashes and dollar signs. Such a file gives the assignments that were written, in their order.

Main statement: `Environment.withFile_plainText`.
-/

namespace Matchday
set_option autoImplicit false

namespace AssignmentFile

/-! ## Plain assignments -/

/-- A character that stands for itself wherever it stands in a value but for the start. -/
def isOrdinary (c : Char) : Bool := !Text.isBlank c && c ≠ '\\' && c ≠ '"' && c ≠ '\'' && c ≠ '$'

/-- A name and a value that can be written on a line as they are. -/
structure IsPlain (a : String × String) : Prop where
  begins : a.1.toList.head?.any beginsName = true
  name : a.1.toList.all inName = true
  value : a.2.toList.all isOrdinary = true
  visible : a.2.toList.head? ≠ some '#'

instance (a : String × String) : Decidable (IsPlain a) :=
  decidable_of_iff (_ ∧ _ ∧ _ ∧ _) ⟨fun ⟨h₁, h₂, h₃, h₄⟩ => ⟨h₁, h₂, h₃, h₄⟩, fun ⟨h₁, h₂, h₃, h₄⟩ => ⟨h₁, h₂, h₃, h₄⟩⟩

/-- An assignment on a line. -/
def plainLine (a : String × String) : List Char := a.1.toList ++ '=' :: a.2.toList

/-- A file with an assignment on each line. -/
def plainText (as : List (String × String)) : String := String.ofList (as.flatMap fun a => plainLine a ++ ['\n'])

variable {c : Char} {a : String × String}

theorem ne_of_isOrdinary (h : isOrdinary c = true) :
    Text.isBlank c = false ∧ c ≠ '\\' ∧ c ≠ '"' ∧ c ≠ '\'' ∧ c ≠ '$' := by
  simpa [isOrdinary, and_assoc] using h

theorem toNat_lt_of_inName (h : inName c = true) : c.toNat < 128 := by
  simp only [inName, beginsName, Bool.or_eq_true, Bool.and_eq_true, decide_eq_true_eq] at h
  obtain (((⟨-, h⟩ | ⟨-, h⟩) | rfl) | ⟨-, h⟩) | rfl := h
  · exact Nat.lt_of_le_of_lt (h : c.toNat ≤ 90) (by decide)
  · exact Nat.lt_of_le_of_lt (h : c.toNat ≤ 122) (by decide)
  · decide
  · exact Nat.lt_of_le_of_lt (h : c.toNat ≤ 57) (by decide)
  · decide

theorem isOrdinary_of_inName (h : inName c = true) : isOrdinary c = true :=
  Text.of_ascii (P := fun c => inName c = true → isOrdinary c = true) (by decide +kernel) (toNat_lt_of_inName h) h

theorem IsPlain.ordinary (h : IsPlain a) : ∀ c ∈ plainLine a, isOrdinary c = true := by
  intro c hc
  rcases List.mem_append.1 hc with hc | hc
  · exact isOrdinary_of_inName (List.all_eq_true.1 h.name c hc)
  · rcases List.mem_cons.1 hc with rfl | hc
    · decide
    · exact List.all_eq_true.1 h.value c hc

/-- A line begins with the first letter of its name. -/
theorem IsPlain.exists_cons (h : IsPlain a) :
    ∃ c rest, a.1.toList = c :: rest ∧ beginsName c = true ∧ ∀ d ∈ rest, inName d = true := by
  obtain ⟨c, hhead, hc⟩ := (Option.any_eq_true _ _).1 h.begins
  obtain ⟨rest, hname⟩ := List.head?_eq_some_iff.1 hhead
  refine ⟨c, rest, hname, hc, fun d hd => List.all_eq_true.1 h.name d ?_⟩
  rw [hname]
  exact List.mem_cons_of_mem c hd

theorem IsPlain.plainLine_eq_cons (h : IsPlain a) : ∃ c rest, plainLine a = c :: rest ∧ beginsName c = true := by
  obtain ⟨c, rest, hname, hc, -⟩ := h.exists_cons
  exact ⟨c, rest ++ '=' :: a.2.toList, by rw [plainLine, hname, List.cons_append], hc⟩

/-- No blanks stand around an assignment. -/
theorem IsPlain.trim_plainLine (h : IsPlain a) : Text.trim (plainLine a) = plainLine a := by
  have htrim : Text.trim ([] ++ plainLine a ++ []) = plainLine a := by
    apply Text.trim_append
    · simp
    · simp [plainLine]
    · exact fun c hc => (ne_of_isOrdinary (h.ordinary c hc)).1
  rwa [List.append_nil] at htrim

/-! ## Lines -/

theorem afterPlain_of_isOrdinary (h : isOrdinary c = true) : Place.afterPlain c = .plain := by
  obtain ⟨hblank, hescape, hdouble, hsingle, -⟩ := ne_of_isOrdinary h
  rw [Place.afterPlain, if_neg hescape, if_neg hdouble, if_neg hsingle, hblank]
  rfl

theorem newline_ne_of_isOrdinary (h : isOrdinary c = true) : c ≠ '\n' := by
  rintro rfl
  exact absurd h (by decide)

/-- An ordinary character is put behind those before it. -/
theorem step_of_isOrdinary {place : Place} (h : isOrdinary c = true) (hplace : place.after c = .plain)
    (done : List (List Char)) (current : List Char) :
    Cutter.step ⟨done, current, place⟩ c = ⟨done, c :: current, .plain⟩ := by
  simp only [Cutter.step, hplace, newline_ne_of_isOrdinary h, decide_false, Bool.false_and, Bool.false_eq_true,
    if_false, reduceCtorEq]

theorem foldl_step_plain {cs : List Char} (h : ∀ c ∈ cs, isOrdinary c = true) (done : List (List Char))
    (current : List Char) :
    cs.foldl Cutter.step ⟨done, current, .plain⟩ = ⟨done, cs.reverse ++ current, .plain⟩ := by
  induction cs generalizing current with
  | nil => rfl
  | cons c cs ih =>
    obtain ⟨hc, hcs⟩ := List.forall_mem_cons.1 h
    have hplace : Place.after c .plain = .plain := afterPlain_of_isOrdinary hc
    rw [List.foldl_cons, step_of_isOrdinary hc hplace, ih hcs, List.reverse_cons,
      List.append_assoc, List.singleton_append]

/-- A line that begins with a letter is cut off at its end. -/
theorem foldl_step_plainLine (h : IsPlain a) (done : List (List Char)) :
    (plainLine a ++ ['\n']).foldl Cutter.step ⟨done, [], .start⟩ = ⟨plainLine a :: done, [], .start⟩ := by
  obtain ⟨c, rest, hname, hc, -⟩ := h.exists_cons
  have hordinary := h.ordinary
  have hline : plainLine a = c :: (rest ++ '=' :: a.2.toList) := by
    rw [plainLine, hname]
    rfl
  rw [hline] at hordinary ⊢
  obtain ⟨hfirst, hrest⟩ := List.forall_mem_cons.1 hordinary
  have hplace : Place.after c .start = .plain := by
    have hhash : c ≠ '#' := by
      rintro rfl
      exact absurd hc (by decide)
    rw [Place.after, if_neg hhash, (ne_of_isOrdinary hfirst).1]
    exact afterPlain_of_isOrdinary hfirst
  have hnewline : ∀ current, Cutter.step ⟨done, current, .plain⟩ '\n' = ⟨current.reverse :: done, [], .start⟩ :=
    fun _ => rfl
  rw [List.cons_append, List.foldl_cons, step_of_isOrdinary hfirst hplace, List.foldl_append, foldl_step_plain hrest,
    List.foldl_cons, List.foldl_nil, hnewline, List.reverse_append, List.reverse_reverse]
  rfl

theorem foldl_step_plainText {as : List (String × String)} (h : ∀ a ∈ as, IsPlain a) (done : List (List Char)) :
    (as.flatMap fun a => plainLine a ++ ['\n']).foldl Cutter.step ⟨done, [], .start⟩ =
      ⟨(as.map plainLine).reverse ++ done, [], .start⟩ := by
  induction as generalizing done with
  | nil => rfl
  | cons a as ih =>
    obtain ⟨ha, has⟩ := List.forall_mem_cons.1 h
    rw [List.flatMap_cons, List.foldl_append, foldl_step_plainLine ha, ih has, List.map_cons, List.reverse_cons,
      List.append_assoc, List.singleton_append]

/-- The lines of a plain file, and one without characters behind the last end of a line. -/
theorem lines_plainText {as : List (String × String)} (h : ∀ a ∈ as, IsPlain a) :
    lines (plainText as).toList = as.map plainLine ++ [[]] := by
  rw [lines, plainText, String.toList_ofList, foldl_step_plainText h, List.append_nil, Cutter.finish]
  simp [Place.isClosed]

/-! ## Assignments -/

theorem trimStart_of_isOrdinary {cs : List Char} (h : ∀ c ∈ cs, isOrdinary c = true) : Text.trimStart cs = cs := by
  cases cs with
  | nil => rfl
  | cons c cs =>
    apply List.dropWhile_cons_of_neg
    rw [(ne_of_isOrdinary (h c List.mem_cons_self)).1]
    decide

theorem takeName?_plainLine (h : IsPlain a) : takeName? (plainLine a) = some (a.1.toList, '=' :: a.2.toList) := by
  obtain ⟨c, rest, hname, hc, hrest⟩ := h.exists_cons
  have htake : (rest ++ '=' :: a.2.toList).takeWhile inName = rest := by
    rw [List.takeWhile_append_of_pos hrest, List.takeWhile_cons_of_neg (by decide), List.append_nil]
  have hdrop : (rest ++ '=' :: a.2.toList).dropWhile inName = '=' :: a.2.toList := by
    rw [List.dropWhile_append_of_pos hrest, List.dropWhile_cons_of_neg (by decide)]
  rw [plainLine, hname, List.cons_append, takeName?, if_pos hc, htake, hdrop]
  rfl

theorem parts?_plainLine (h : IsPlain a) : parts? (plainLine a) = some (a.1.toList, a.2.toList) := by
  have hvalue : takeEquals? ('=' :: a.2.toList) = some a.2.toList :=
    congrArg some (trimStart_of_isOrdinary (List.all_eq_true.1 h.value))
  have hname : ¬(a.1.toList = "export".toList ∧ ('=' :: a.2.toList).head? ≠ some '=') := fun ⟨_, hne⟩ => hne rfl
  simp only [parts?, takeName?_plainLine h, Option.bind_eq_bind, Option.bind_some, if_neg hname, hvalue]

theorem step_plain (h : isOrdinary c = true) (valueOf : String → String) (text : List Char) :
    ValueReader.step valueOf ⟨text, false, .plain⟩ c = some ⟨c :: text, false, .plain⟩ := by
  obtain ⟨hblank, hescape, hdouble, hsingle, hdollar⟩ := ne_of_isOrdinary h
  have hspace : c ≠ ' ' := by
    rintro rfl
    exact absurd hblank (by decide)
  have htab : c ≠ '\t' := by
    rintro rfl
    exact absurd hblank (by decide)
  simp [ValueReader.step, ValueReader.stepPlain, ValueReader.push, hescape, hdouble, hsingle, hdollar, hspace, htab]

theorem foldlM_step_plain {cs : List Char} (h : ∀ c ∈ cs, isOrdinary c = true) (valueOf : String → String)
    (text : List Char) :
    cs.foldlM (ValueReader.step valueOf) ⟨text, false, .plain⟩ = some ⟨cs.reverse ++ text, false, .plain⟩ := by
  induction cs generalizing text with
  | nil => rfl
  | cons c cs ih =>
    obtain ⟨hc, hcs⟩ := List.forall_mem_cons.1 h
    rw [List.foldlM_cons, step_plain hc, Option.bind_eq_bind, Option.bind_some, ih hcs, List.reverse_cons,
      List.append_assoc, List.singleton_append]

theorem value?_of_isOrdinary {cs : List Char} (h : ∀ c ∈ cs, isOrdinary c = true) (valueOf : String → String) :
    value? valueOf cs = some (String.ofList cs) := by
  rw [value?, foldlM_step_plain h, List.append_nil, Option.bind_some]
  simp [ValueReader.finish?]

theorem assignment?_plainLine (h : IsPlain a) (valueOf : String → String) :
    assignment? valueOf (plainLine a) = some a := by
  cases hvalue : a.2.toList with
  | nil =>
    have hempty : a.2 = "" := String.toList_eq_nil_iff.1 hvalue
    simp [assignment?, parts?_plainLine h, hvalue, isVoid, ← hempty]
  | cons c cs =>
    have hvoid : isVoid a.2.toList = false := by
      have hvisible := h.visible
      simpa [hvalue, isVoid] using hvisible
    simp [assignment?, parts?_plainLine h, hvoid, value?_of_isOrdinary (List.all_eq_true.1 h.value)]

end AssignmentFile

namespace Environment

open AssignmentFile

theorem readLines_plain {as : List (String × String)} (h : ∀ a ∈ as, IsPlain a) (e : Environment) :
    e.readLines (as.map plainLine ++ [[]]) = { e with assignments := e.assignments ++ as } := by
  induction as generalizing e with
  | nil =>
    rw [List.append_nil]
    rfl
  | cons a as ih =>
    obtain ⟨ha, has⟩ := List.forall_mem_cons.1 h
    have htrim : Text.trim (plainLine a) = plainLine a := ha.trim_plainLine
    have hvoid : isVoid (plainLine a) = false := by
      obtain ⟨c, rest, hline, hc⟩ := ha.plainLine_eq_cons
      have hhash : c ≠ '#' := by
        rintro rfl
        exact absurd hc (by decide)
      simp [isVoid, hline, hhash]
    rw [List.map_cons, List.cons_append, readLines, htrim]
    simp [hvoid, assignment?_plainLine ha, ih has, assign]

/-- A plain file gives its assignments. -/
theorem withFile_plainText {as : List (String × String)} (h : ∀ a ∈ as, IsPlain a) (e : Environment) :
    e.withFile (plainText as) = { e with assignments := e.assignments ++ as } := by
  have hmark : Text.withoutMark (plainText as) = plainText as := by
    apply if_neg
    cases as with
    | nil => simp [plainText]
    | cons a as =>
      obtain ⟨c, rest, hline, hc⟩ := (h a List.mem_cons_self).plainLine_eq_cons
      have hmark : c ≠ '\ufeff' := by
        rintro rfl
        exact absurd hc (by decide)
      simp [plainText, hline, hmark]
  rw [withFile, hmark, lines_plainText h, readLines_plain h]

end Environment

end Matchday
