import BulkSql.Text.Basic

/-! # Layout

White space and comments, which stand between tokens and mean nothing. White space is a space, a tab or a line
break. A line comment runs from two hyphens to the next line break; a block comment does not nest and must be closed.
-/

namespace BulkSql

def isSpace (c : Char) : Bool := c == ' ' || c == '\t' || c == '\r' || c == '\n'

def isLineBreak (c : Char) : Bool := c == '\n' || c == '\r'

/-- What follows the first end of a block comment. -/
def afterBlock? : Text → Option Text
  | '*' :: '/' :: rest => some rest
  | _ :: rest => afterBlock? rest
  | [] => none

theorem suffix_of_afterBlock? {text rest : Text} (h : afterBlock? text = some rest) : rest <:+ text := by
  fun_induction afterBlock? text with
  | case1 rest' => cases h; exact ⟨['*', '/'], rfl⟩
  | case2 _ _ _ ih => exact (ih h).trans (List.suffix_cons ..)
  | case3 => cases h

theorem length_lt_of_afterBlock? {text rest : Text} (h : afterBlock? text = some rest) :
    rest.length < text.length := by
  fun_induction afterBlock? text with
  | case1 rest' => cases h; simp only [List.length_cons]; omega
  | case2 _ _ _ ih => exact Nat.lt_succ_of_lt (ih h)
  | case3 => cases h

/-- What follows a line comment, up to its line break. -/
def afterLine (text : Text) : Text := text.dropWhile fun c => !isLineBreak c

theorem length_afterLine_le (text : Text) : (afterLine text).length ≤ text.length :=
  (List.dropWhile_suffix _).length_le

/-- The text without the layout it starts with. -/
def skipLayout (text : Text) : Text :=
  match text with
  | [] => []
  | c :: rest =>
    if isSpace c then skipLayout rest
    else
      match c, rest with
      | '-', '-' :: line => skipLayout (afterLine line)
      | '/', '*' :: block =>
        match _closed : afterBlock? block with
        | some after => skipLayout after
        | none => text
      | _, _ => text
termination_by text.length
decreasing_by
  all_goals simp_wf
  · have := length_afterLine_le line; omega
  · have := length_lt_of_afterBlock? _closed; omega

end BulkSql
