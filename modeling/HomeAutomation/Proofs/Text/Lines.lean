/-
  HomeAutomation.Proofs.Text.Lines

  The lines of a text that are more than blanks, without the blanks around them.
  At a line feed a text falls into two, of which each has its own lines
  (`filledLines_append_lf`); what has only blanks has none, and what has nothing
  that ends a line is one.
-/

import Mathlib.Data.List.DropRight
import HomeAutomation.Text.Blank
import HomeAutomation.Text.Lines

namespace HomeAutomation.Text

-- ============================================================================
-- Trimming
-- ============================================================================

section Trimming

variable {drop : Char → Bool} {before after cs : List Char}

theorem trimBy_eq_rdropWhile (drop : Char → Bool) (cs : List Char) :
    trimBy drop cs = (cs.dropWhile drop).rdropWhile drop := rfl

theorem trimBy_eq_nil_iff : trimBy drop cs = [] ↔ ∀ c ∈ cs, drop c = true := by
  rw [trimBy_eq_rdropWhile, List.rdropWhile_eq_nil_iff]
  constructor
  · intro h
    have whole : cs.takeWhile drop ++ cs.dropWhile drop = cs := List.takeWhile_append_dropWhile
    rw [← whole]
    exact List.forall_mem_append.2 ⟨fun _ => List.mem_takeWhile_imp, h⟩
  · exact fun h c hc => h c ((List.dropWhile_sublist drop).mem hc)

/-- What is dropped in front does not matter. -/
theorem trimBy_append (dropped : ∀ c ∈ before, drop c = true) (cs : List Char) :
    trimBy drop (before ++ cs) = trimBy drop cs := by
  rw [trimBy, List.dropWhile_append_of_pos dropped]
  rfl

/-- From a character that is not dropped, what is left goes up to the last such character. -/
theorem exists_trimBy_cons {c : Char} (kept : drop c = false) (cs : List Char) :
    ∃ more after, trimBy drop (c :: cs) = c :: more ∧ cs = more ++ after := by
  have start : (c :: cs).dropWhile drop = c :: cs :=
    List.dropWhile_cons_of_neg (by simp [kept])
  obtain ⟨after, whole⟩ := List.rdropWhile_prefix drop (c :: cs)
  rw [trimBy_eq_rdropWhile, start]
  cases left : (c :: cs).rdropWhile drop with
  | nil =>
    have all := List.rdropWhile_eq_nil_iff.1 left c List.mem_cons_self
    rw [kept] at all
    cases all
  | cons d more =>
    rw [left, List.cons_append] at whole
    obtain ⟨rfl, rfl⟩ := List.cons.inj whole
    exact ⟨more, after, rfl, rfl⟩

/-- What begins and ends with characters that are not dropped is left. -/
theorem trimBy_of_kept {c d : Char} (first : drop c = false) (last : drop d = false)
    (dropped : ∀ c ∈ after, drop c = true) :
    trimBy drop (c :: (cs ++ d :: after)) = c :: (cs ++ [d]) := by
  have start : (c :: (cs ++ d :: after)).dropWhile drop = c :: (cs ++ d :: after) :=
    List.dropWhile_cons_of_neg (by simp [first])
  have back : (c :: (cs ++ d :: after)).reverse = after.reverse ++ d :: (c :: cs).reverse := by
    simp
  have dropped' : ∀ c ∈ after.reverse, drop c = true := fun c hc =>
    dropped c (List.mem_reverse.1 hc)
  rw [trimBy, start, back, List.dropWhile_append_of_pos dropped',
    List.dropWhile_cons_of_neg (by simp [last])]
  simp

end Trimming

-- ============================================================================
-- Splitting
-- ============================================================================

variable {line cs : List Char}

/-- A line ends at the character, unless that and the next end it together. -/
theorem splitLines_cons_end {c : Char} {rest : List Char} (ends : isLineEnd c = true)
    (apart : ∀ more, c = '\r' → rest ≠ '\n' :: more) (line : List Char) :
    splitLines line (c :: rest) = line.reverse :: splitLines [] rest := by
  rw [splitLines.eq_3 _ _ _ apart, if_pos ends]

theorem splitLines_cons_unbroken {c : Char} (unbroken : isLineEnd c = false)
    (line rest : List Char) : splitLines line (c :: rest) = splitLines (c :: line) rest := by
  have single : c ≠ '\r' := by
    rintro rfl
    cases unbroken
  rw [splitLines.eq_3 _ _ _ fun _ return' => absurd return' single, if_neg (by simp [unbroken])]

/-- What has no end of a line is read into the present line. -/
theorem splitLines_append (unbroken : ∀ c ∈ cs, isLineEnd c = false) (line rest : List Char) :
    splitLines line (cs ++ rest) = splitLines (cs.reverse ++ line) rest := by
  induction cs generalizing line with
  | nil => rfl
  | cons c cs ih =>
    rw [List.cons_append, splitLines_cons_unbroken (unbroken c List.mem_cons_self),
      ih fun d hd => unbroken d (List.mem_cons_of_mem _ hd)]
    simp

/-- The lines of a list of characters that are more than blanks, without the blanks around them,
    `line` being the reversed part of the first that has been read. -/
def filledLines (line cs : List Char) : List (List Char) :=
  ((splitLines line cs).map (trimBy isBlank)).filter (· ≠ [])

/-- A line without the blanks around it, if it is more than blanks. -/
def filledLine (line : List Char) : List (List Char) := [trimBy isBlank line].filter (· ≠ [])

theorem filledLine_of_blank (blank : ∀ c ∈ cs, isBlank c = true) : filledLine cs = [] := by
  simp [filledLine, trimBy_eq_nil_iff.2 blank]

theorem filledLine_of_filled (filled : trimBy isBlank cs ≠ []) :
    filledLine cs = [trimBy isBlank cs] := by
  simp [filledLine, filled]

theorem filledLines_nil (line : List Char) : filledLines line [] = filledLine line.reverse := by
  unfold filledLines filledLine splitLines
  cases line <;> simp [trimBy]

/-- Where a line ends, the others begin. -/
theorem filledLines_of_end {ended rest : List Char}
    (split : splitLines line cs = ended :: splitLines [] rest) :
    filledLines line cs = filledLine ended ++ filledLines [] rest := by
  unfold filledLines filledLine
  rw [split, List.map_cons, ← List.singleton_append, List.filter_append]

theorem filledLines_cons_unbroken {c : Char} (unbroken : isLineEnd c = false)
    (line rest : List Char) : filledLines line (c :: rest) = filledLines (c :: line) rest :=
  congrArg _ (congrArg _ (splitLines_cons_unbroken unbroken line rest))

/-- A text falls into two at a line feed. -/
theorem filledLines_append_lf (line cs rest : List Char) :
    filledLines line (cs ++ '\n' :: rest) = filledLines line cs ++ filledLines [] rest := by
  have ended (line : List Char) :
      filledLines line ('\n' :: rest) = filledLines line [] ++ filledLines [] rest := by
    rw [filledLines_nil]
    exact filledLines_of_end rfl
  fun_induction splitLines line cs with
  | case1 line | case2 line => exact ended line
  | case3 line tail ih =>
    have first : splitLines line ('\r' :: '\n' :: tail) = line.reverse :: splitLines [] tail := rfl
    rw [filledLines_of_end first, List.append_assoc, ← ih]
    exact filledLines_of_end rfl
  | case4 line c tail apart ends ih =>
    rw [filledLines_of_end (splitLines_cons_end ends apart line), List.append_assoc, ← ih]
    cases tail with
    | nil =>
      -- a carriage return that was last ends the line together with the line feed
      by_cases return' : c = '\r'
      · have alone : filledLines [] ('\n' :: rest) = filledLines [] rest := by
          rw [ended, filledLines_nil, filledLine_of_blank (by simp), List.nil_append]
        subst return'
        rw [List.nil_append, alone]
        exact filledLines_of_end rfl
      · exact filledLines_of_end (splitLines_cons_end ends (fun _ h => absurd h return') line)
    | cons d more =>
      have apart' : ∀ tail, c = '\r' → d :: more ++ '\n' :: rest ≠ '\n' :: tail := by
        intro tail return' same
        obtain ⟨rfl, -⟩ := List.cons.inj same
        exact apart more return' rfl
      exact filledLines_of_end (splitLines_cons_end ends apart' line)
  | case5 line c tail apart unbroken ih =>
    have unbroken' : isLineEnd c = false := by simpa using unbroken
    rw [List.cons_append, filledLines_cons_unbroken unbroken',
      filledLines_cons_unbroken unbroken', ih]

/-- Blanks make no line. -/
theorem filledLines_of_blank {line : List Char} (lineBlank : ∀ c ∈ line, isBlank c = true)
    (blank : ∀ c ∈ cs, isBlank c = true) : filledLines line cs = [] := by
  have ended (line : List Char) (h : ∀ c ∈ line, isBlank c = true) :
      filledLine line.reverse = [] :=
    filledLine_of_blank fun c hc => h c (List.mem_reverse.1 hc)
  fun_induction splitLines line cs with
  | case1 line | case2 line =>
    rw [filledLines_nil]
    exact ended line lineBlank
  | case3 line tail ih =>
    have first : splitLines line ('\r' :: '\n' :: tail) = line.reverse :: splitLines [] tail := rfl
    have later : ∀ c ∈ tail, isBlank c = true := fun c hc =>
      blank c (List.mem_cons_of_mem _ (List.mem_cons_of_mem _ hc))
    rw [filledLines_of_end first, ended line lineBlank, ih (by simp) later, List.append_nil]
  | case4 line c tail apart ends ih =>
    have later : ∀ c ∈ tail, isBlank c = true := fun c hc => blank c (List.mem_cons_of_mem _ hc)
    rw [filledLines_of_end (splitLines_cons_end ends apart line), ended line lineBlank,
      ih (by simp) later, List.append_nil]
  | case5 line c tail apart unbroken ih =>
    have head : isBlank c = true := blank c List.mem_cons_self
    have later : ∀ c ∈ tail, isBlank c = true := fun c hc => blank c (List.mem_cons_of_mem _ hc)
    rw [filledLines_cons_unbroken (by simpa using unbroken)]
    exact ih (List.forall_mem_cons.2 ⟨head, lineBlank⟩) later

/-- What no character ends is one line. -/
theorem filledLines_of_unbroken (unbroken : ∀ c ∈ cs, isLineEnd c = false) :
    filledLines [] cs = filledLine cs := by
  have whole := splitLines_append unbroken [] []
  rw [List.append_nil, List.append_nil] at whole
  have last := filledLines_nil cs.reverse
  rw [filledLines, whole]
  rwa [List.reverse_reverse] at last

/-- What a character ends comes first. -/
theorem filledLines_of_broken (unbroken : ∀ c ∈ cs, isLineEnd c = false) {c : Char}
    (ends : isLineEnd c = true) (single : c ≠ '\r') (rest : List Char) :
    filledLines [] (cs ++ c :: rest) = filledLine cs ++ filledLines [] rest := by
  refine filledLines_of_end ?_
  rw [splitLines_append unbroken, List.append_nil,
    splitLines_cons_end ends (fun _ return' => absurd return' single), List.reverse_reverse]

end HomeAutomation.Text
