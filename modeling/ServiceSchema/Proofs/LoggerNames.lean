/-
Which loggers lie below that of the program.

The search for the logger above a name goes through the points of the name from its end. What
follows the points behind the program's name has no say in the answer: in front of its first
character the search stands at the last of these points whatever loggers there are. So a name
with one such point always lies below the program. Of several points in a row the search sees
the next one only if there is a logger whose name ends in front of it, and it ends beside the
program if it leaves out the first one.
-/
import ServiceSchema.Log.Logger

set_option autoImplicit false

namespace ServiceSchema.Log

/-! ## The part behind the points -/

/-- The program's name with points behind it. -/
def dotted (n : Nat) : String := rootSource ++ String.ofList (List.replicate n '.')

theorem toList_dotted (n : Nat) :
    (dotted n).toList = rootSource.toList ++ List.replicate n '.' := by
  simp [dotted]

theorem ofList_reverse_dotted (n : Nat) :
    String.ofList (List.replicate n '.' ++ rootSource.toList.reverse).reverse = dotted n := by
  rw [List.reverse_append, List.reverse_reverse, List.reverse_replicate, ← toList_dotted,
    String.ofList_toList]

theorem dotted_ne_root (n : Nat) : dotted (n + 1) ≠ rootSource := by
  intro h
  have hlength := congrArg (fun s => s.toList.length) h
  simp [toList_dotted] at hlength

/-- A longer name than the program's is another one. -/
theorem ofList_reverse_ne_root {cs : List Char} (h : rootSource.length < cs.length) :
    String.ofList cs.reverse ≠ rootSource := by
  intro heq
  rw [← heq, String.length_ofList, List.length_reverse] at h
  exact Nat.lt_irrefl _ h

/-! ## The search -/

theorem leadsToRoot_point (known : List String) (outer : List Char) :
    leadsToRoot known false ('.' :: outer) =
      (String.ofList outer.reverse == rootSource ||
        leadsToRoot known (!known.contains (String.ofList outer.reverse)) outer) := rfl

/-- A point that is passed over leads where what is in front of it does. -/
theorem leadsToRoot_passed (known : List String) (outer : List Char) :
    leadsToRoot known true ('.' :: outer) = leadsToRoot known false outer := rfl

theorem leadsToRoot_of_ne (known : List String) {c : Char} (h : c ≠ '.') (passes : Bool)
    (outer : List Char) :
    leadsToRoot known passes (c :: outer) = leadsToRoot known false outer := by
  rw [leadsToRoot, decide_eq_false h]
  rfl

/-- There is no point in the program's name. -/
theorem leadsToRoot_root (known : List String) :
    leadsToRoot known false rootSource.toList.reverse = false := rfl

/-- The search skips what does not end in a point and stops at the point in front of it. The
induction is on what it skips, whose last character stays the last one; the points in it are
no way to the program, because the names in front of them are longer than the program's. -/
theorem leadsToRoot_append (known : List String) {tail : List Char}
    (htail : rootSource.length ≤ tail.length) {skipped : List Char} {passes : Bool}
    (hpasses : skipped = [] → passes = false) (hlast : skipped.getLast? ≠ some '.') :
    leadsToRoot known passes (skipped ++ '.' :: tail) = leadsToRoot known false ('.' :: tail) := by
  induction skipped generalizing passes with
  | nil => rw [hpasses rfl, List.nil_append]
  | cons c skipped ih =>
    rw [List.cons_append]
    by_cases hc : c = '.'
    · subst hc
      have hnonempty : skipped ≠ [] := by
        rintro rfl
        exact hlast rfl
      have hlast' : skipped.getLast? ≠ some '.' := by
        rwa [List.getLast?_cons_of_ne_nil hnonempty] at hlast
      have hrest (passes : Bool) := @ih passes (absurd · hnonempty) hlast'
      cases passes with
      | true => rw [leadsToRoot_passed, hrest]
      | false =>
        have hlonger : rootSource.length < (skipped ++ '.' :: tail).length := by
          rw [List.length_append, List.length_cons]
          omega
        rw [leadsToRoot_point, beq_false_of_ne (ofList_reverse_ne_root hlonger), Bool.false_or,
          hrest]
    · have hlast' : skipped.getLast? ≠ some '.' := by
        cases skipped with
        | nil => simp
        | cons c' skipped => rwa [List.getLast?_cons_cons] at hlast
      rw [leadsToRoot_of_ne known hc, ih (fun _ => rfl) hlast']

/-! ## Points in a row -/

/-- Whether the program is found from the last of some points in a row behind its name; the number is
that of the points before the last one. -/
def hangs (known : List String) : Nat → Bool
  | 0 => true
  | 1 => known.contains (dotted 1)
  | n + 2 => if known.contains (dotted (n + 2)) then hangs known (n + 1) else hangs known n

/-- From a point behind other points the search goes on in front of it, with the next point if there is
a logger of the name in front. -/
theorem leadsToRoot_points (known : List String) (n : Nat) :
    leadsToRoot known false (List.replicate (n + 2) '.' ++ rootSource.toList.reverse) =
      leadsToRoot known (!known.contains (dotted (n + 1)))
        (List.replicate (n + 1) '.' ++ rootSource.toList.reverse) := by
  rw [List.replicate_succ, List.cons_append, leadsToRoot_point, ofList_reverse_dotted,
    beq_false_of_ne (dotted_ne_root n), Bool.false_or]

theorem leadsToRoot_eq_hangs (known : List String) (n : Nat) :
    leadsToRoot known false (List.replicate (n + 1) '.' ++ rootSource.toList.reverse) =
      hangs known n := by
  have hone : leadsToRoot known false (List.replicate 1 '.' ++ rootSource.toList.reverse) = true :=
    rfl
  fun_induction hangs known n with
  | case1 => exact hone
  | case2 =>
    rw [leadsToRoot_points]
    cases known.contains (dotted 1) with
    | true => exact hone
    | false =>
      rw [Bool.not_false, List.replicate_succ, List.cons_append, leadsToRoot_passed,
        List.replicate_zero, List.nil_append, leadsToRoot_root]
  | case3 n hknown ih => rw [leadsToRoot_points, hknown, Bool.not_true, ih]
  | case4 n hknown ih =>
    rw [leadsToRoot_points, Bool.eq_false_iff.2 hknown, Bool.not_false, List.replicate_succ,
      List.cons_append, leadsToRoot_passed, ih]

/-! ## Parts of the program -/

/-- The number of the points that a text starts with. -/
def leadingPoints (cs : List Char) : Nat := (cs.takeWhile (· = '.')).length

theorem leadingPoints_append (cs : List Char) :
    List.replicate (leadingPoints cs) '.' ++ cs.dropWhile (· = '.') = cs := by
  have hpoints : List.replicate (leadingPoints cs) '.' = cs.takeWhile (· = '.') := by
    rw [eq_comm, List.eq_replicate_iff]
    refine ⟨rfl, fun c hc => ?_⟩
    simpa using List.all_eq_true.1 List.all_takeWhile c hc
  rw [hpoints, List.takeWhile_append_dropWhile]

theorem head?_dropWhile_point (cs : List Char) : (cs.dropWhile (· = '.')).head? ≠ some '.' := by
  intro h
  have hnot := List.head?_dropWhile_not (· = '.') cs
  simp [h] at hnot

/-- **Which parts lie below the program**: only the points that the name of a part starts with decide,
and which loggers of names with nothing but points behind the program's there are. -/
theorem isAttached_part (known : List String) (name : String) :
    isAttached known (rootSource ++ "." ++ name) = hangs known (leadingPoints name.toList) := by
  generalize hrest : name.toList.dropWhile (· = '.') = rest
  generalize hpoints : leadingPoints name.toList = points
  have hname : List.replicate points '.' ++ rest = name.toList := by
    rw [← hpoints, ← hrest, leadingPoints_append]
  have hcs : (rootSource ++ "." ++ name).toList.reverse =
      rest.reverse ++ '.' :: (List.replicate points '.' ++ rootSource.toList.reverse) := by
    rw [String.toList_append, String.toList_append, ← hname]
    simp [← List.replicate_succ', List.replicate_succ]
  have hlast : rest.reverse.getLast? ≠ some '.' := by
    rw [List.getLast?_reverse, ← hrest]
    exact head?_dropWhile_point name.toList
  have hlength : rootSource.length ≤
      (List.replicate points '.' ++ rootSource.toList.reverse).length := by
    rw [List.length_append, List.length_reverse, String.length_toList]
    exact Nat.le_add_left _ _
  have hne : rootSource ++ "." ++ name ≠ rootSource := by
    intro h
    simpa using congrArg (fun s => s.toList.length) h
  rw [isAttached, beq_false_of_ne hne, Bool.false_or, hcs,
    leadsToRoot_append known hlength (fun _ => rfl) hlast, ← List.cons_append,
    ← List.replicate_succ, leadsToRoot_eq_hangs]

/-- A second point hides the program unless a logger's name ends there, a third one does not. -/
example :
    isAttached [rootSource] "schemadoc..x" = false ∧
      isAttached [rootSource, "schemadoc."] "schemadoc..x" = true ∧
      isAttached [rootSource] "schemadoc...x" = true := by decide

/-- Whether a source is the program, or a part of it whose name does not start with a point. -/
def isPlain (source : String) : Bool :=
  source == rootSource ||
    (dotted 1).toList.isPrefixOf source.toList && !(dotted 2).toList.isPrefixOf source.toList

/-- Whatever loggers there are, these sources lie below the program's logger. -/
theorem isAttached_of_isPlain {source : String} (h : isPlain source = true) (known : List String) :
    isAttached known source = true := by
  simp only [isPlain, Bool.or_eq_true, beq_iff_eq, Bool.and_eq_true, List.isPrefixOf_iff_prefix,
    Bool.not_eq_true', Bool.eq_false_iff, ne_eq] at h
  rcases h with rfl | ⟨⟨name, hname⟩, hnot⟩
  · rw [isAttached, beq_self_eq_true, Bool.true_or]
  · have hsource : source = rootSource ++ "." ++ String.ofList name := by
      rw [← String.toList_inj, ← hname, toList_dotted]
      simp
    have hpoints : leadingPoints name = 0 := by
      cases name with
      | nil => rfl
      | cons c rest =>
        have hc : c ≠ '.' := by
          rintro rfl
          refine hnot ⟨rest, ?_⟩
          rw [← hname, toList_dotted, toList_dotted]
          simp [List.replicate_succ]
        rw [leadingPoints, List.takeWhile_cons_of_neg (by simpa using hc)]
        rfl
    rw [hsource, isAttached_part, String.toList_ofList, hpoints, hangs]

/-! ## Loggers that are asked for -/

end ServiceSchema.Log
