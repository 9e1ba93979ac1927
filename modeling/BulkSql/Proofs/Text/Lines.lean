import BulkSql.Proofs.Text.Offsets

/-! # Lines and columns

A place in a text has a byte offset, and a line and a column. The line is the one with as many line feeds before it as
there are before the place, and the column counts the characters of it up to the place. Each of the two decides the
place.
-/

namespace BulkSql

namespace Text

variable {text before rest : Text}

theorem uptoOffset_append (before rest : Text) : uptoOffset (before ++ rest) (byteSize before) = before := by
  induction before with
  | nil =>
    cases rest with
    | nil => rfl
    | cons c rest => exact if_neg (Nat.not_le_of_lt c.utf8Size_pos)
  | cons c before ih =>
    rw [List.cons_append, byteSize_cons, uptoOffset, if_pos (Nat.le_add_right ..), Nat.add_sub_cancel_left, ih]

/-! ## The line of a place -/

/-- The lines of a text, without their line feeds. -/
def lines (text : Text) : List Text := split '\n' text

/-- What stands behind the last line feed. -/
def lastLine (text : Text) : Text := (text.reverse.takeWhile (· != '\n')).reverse

/-- What stands before the first line feed. -/
def firstLine (text : Text) : Text := text.takeWhile (· != '\n')

theorem columnAfter_eq (before : Text) : columnAfter before = (lastLine before).length + 1 := by
  rw [columnAfter, lastLine, List.length_reverse]

theorem lastLine_append {line : Text} (inLine : '\n' ∉ line) (text : Text) :
    lastLine (text ++ line) = lastLine text ++ line := by
  have passed : ∀ c ∈ line.reverse, (c != '\n') = true := fun c member =>
    bne_iff_ne.mpr fun same => inLine (same ▸ List.mem_reverse.mp member)
  rw [lastLine, List.reverse_append, List.takeWhile_append_of_pos passed, List.reverse_append, List.reverse_reverse,
    lastLine]

theorem lastLine_of_not_mem (inLine : '\n' ∉ text) : lastLine text = text := lastLine_append inLine []

/-- What stands before a line feed is in no way part of the last line. -/
theorem lastLine_append_of_mem {text : Text} (ended : '\n' ∈ text) (before : Text) :
    lastLine (before ++ text) = lastLine text := by
  have stops : ¬(text.reverse.takeWhile (· != '\n')).length = text.reverse.length := fun whole => by
    have same := (List.takeWhile_prefix (· != '\n')).eq_of_length whole
    have passed : ∀ c ∈ text.reverse.takeWhile (· != '\n'), (c != '\n') = true := List.all_eq_true.mp List.all_takeWhile
    rw [same] at passed
    exact absurd (passed '\n' (List.mem_reverse.mpr ended)) (by decide)
  rw [lastLine, List.reverse_append, List.takeWhile_append, if_neg stops, lastLine]

theorem lastLine_lineFeed (text : Text) : lastLine ('\n' :: text) = lastLine text := by
  rw [← List.singleton_append]
  by_cases more : '\n' ∈ text
  · exact lastLine_append_of_mem more _
  · rw [lastLine_append more, lastLine_of_not_mem more]
    rfl

theorem lines_lineFeed (text : Text) : lines ('\n' :: text) = [] :: lines text := by rw [lines, split, if_pos rfl, lines]

/-- A character that is no line feed goes on with the first line behind it. -/
theorem lines_cons {c : Char} (inLine : c ≠ '\n') (text : Text) :
    ∃ line more, lines text = line :: more ∧ lines (c :: text) = (c :: line) :: more := by
  obtain ⟨line, more, found⟩ := List.exists_cons_of_ne_nil (split_ne_nil '\n' text)
  refine ⟨line, more, found, ?_⟩
  rw [lines, split, if_neg inLine, found]

theorem head?_lines (text : Text) : (lines text).head? = some (firstLine text) := by
  induction text with
  | nil => rfl
  | cons c text ih =>
    by_cases ends : c = '\n'
    · rw [ends, lines_lineFeed]
      rfl
    · obtain ⟨line, more, found, grown⟩ := lines_cons ends text
      rw [found, List.head?_cons] at ih
      have goesOn : firstLine (c :: text) = c :: firstLine text := List.takeWhile_cons_of_pos (by simpa using ends)
      rw [grown, List.head?_cons, goesOn, Option.some.inj ih]

/-- The line of a place goes on from the last line feed before it to the first one behind it. -/
theorem lines_getElem? (before rest : Text) :
    (lines (before ++ rest))[before.count '\n']? = some (lastLine before ++ firstLine rest) := by
  induction before with
  | nil =>
    rw [List.nil_append, List.count_nil, ← List.head?_eq_getElem?, head?_lines]
    rfl
  | cons c before ih =>
    by_cases ends : c = '\n'
    · subst ends
      rw [List.cons_append, lines_lineFeed, List.count_cons_self, List.getElem?_cons_succ, ih, lastLine_lineFeed]
    · obtain ⟨line, more, found, grown⟩ := lines_cons ends (before ++ rest)
      rw [found] at ih
      rw [List.cons_append, grown, List.count_cons_of_ne ends]
      by_cases later : '\n' ∈ before
      · obtain ⟨count, size⟩ := Nat.exists_eq_succ_of_ne_zero (Nat.pos_iff_ne_zero.mp (List.count_pos_iff.mpr later))
        rw [size, List.getElem?_cons_succ] at ih ⊢
        rw [ih, ← List.singleton_append, lastLine_append_of_mem later]
      · rw [List.count_eq_zero.mpr later, List.getElem?_cons_zero] at ih ⊢
        have inLine : '\n' ∉ c :: before := List.not_mem_cons_of_ne_of_not_mem (Ne.symm ends) later
        rw [Option.some.inj ih, lastLine_of_not_mem later, lastLine_of_not_mem inLine, List.cons_append]

/-! ## Line and column decide the place -/

/-- Of two places on one line the later is further right. -/
theorem eq_nil_of_same_coordinates {between : Text} (line : lineAfter (before ++ between) = lineAfter before)
    (column : columnAfter (before ++ between) = columnAfter before) : between = [] := by
  have inLine : '\n' ∉ between := by
    rw [lineAfter, lineAfter, List.count_append] at line
    exact List.count_eq_zero.mp (by omega)
  rw [columnAfter_eq, columnAfter_eq, lastLine_append inLine, List.length_append] at column
  exact List.length_eq_zero_iff.mp (by omega)

theorem eq_of_same_coordinates {before' rest' : Text} (same : before ++ rest = before' ++ rest')
    (line : lineAfter before' = lineAfter before) (column : columnAfter before' = columnAfter before) :
    before' = before := by
  rcases List.append_eq_append_iff.mp same with ⟨between, rfl, -⟩ | ⟨between, rfl, -⟩
  · rw [eq_nil_of_same_coordinates line column, List.append_nil]
  · rw [eq_nil_of_same_coordinates line.symm column.symm, List.append_nil]

theorem eq_of_byteSize {before' rest' : Text} (same : before ++ rest = before' ++ rest')
    (size : byteSize before' = byteSize before) : before' = before := by
  obtain ⟨between, rfl, -⟩ := exists_between same (Nat.le_of_eq size.symm)
  rw [byteSize_append] at size
  have nothing : between = [] := eq_nil_of_byteSize (by omega)
  rw [nothing, List.append_nil]

end Text

end BulkSql
