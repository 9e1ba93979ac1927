import BulkSql.Syntax.Layout
import BulkSql.Text.Digit

/-! # Numbered placeholders

A statement with placeholders is sent with numbered parameters. The text is cut into pieces from left to right; quoted
text and comments are pieces of their own, so that a placeholder inside them is left alone. Where a quote or a block
comment is never closed, its first character is a piece alone. A statement uses one of the two styles, not both.
-/

namespace BulkSql

/-- A piece of a statement. -/
inductive Piece where
  /-- quoted text or a comment, as a whole -/
  | closed (text : Text)
  | placeholder
  /-- a dollar sign and the digits behind it -/
  | numbered (digits : Text)
  | plain (c : Char)
deriving DecidableEq, Repr

namespace Piece

/-- The piece as it stands in the text. -/
def text : Piece → Text
  | closed text => text
  | placeholder => ['?']
  | numbered digits => '$' :: digits
  | plain c => [c]

/-- The shortest rest of a quoted text that cannot be made longer by reading a quote written twice as one, split after
its closing quote. If the last quote is one of two and no other closes the text, the first of the two closes it. -/
def closeQuote? (quote : Char) : Text → Option (Text × Text)
  | [] => none
  | c :: rest =>
    if c = quote then
      match rest with
      | [] => some ([quote], [])
      | d :: rest' =>
        if d = quote then
          match closeQuote? quote rest' with
          | some (body, after) => some (quote :: quote :: body, after)
          | none => some ([quote], rest)
        else some ([quote], rest)
    else (closeQuote? quote rest).map fun (body, after) => (c :: body, after)

theorem append_of_closeQuote? {quote : Char} {text body after : Text}
    (h : closeQuote? quote text = some (body, after)) : body ++ after = text := by
  fun_induction closeQuote? quote text generalizing body after with
  | case1 => cases h
  | case2 | case5 => cases h; rfl
  | case3 rest' body' after' found ih => cases h; simp [ih found]
  | case4 => cases h; rfl
  | case6 c rest different ih =>
    obtain ⟨⟨body', after'⟩, found, same⟩ := Option.map_eq_some_iff.mp h
    cases same
    simp [ih found]

/-- The rest of a line comment behind its first hyphen. -/
def lineComment? : Text → Option (Text × Text)
  | '-' :: line => some ('-' :: line.takeWhile (· != '\n'), line.dropWhile (· != '\n'))
  | _ => none

theorem append_of_lineComment? {text body after : Text} (h : lineComment? text = some (body, after)) :
    body ++ after = text := by
  unfold lineComment? at h
  split at h <;> cases h
  simp

/-- The rest of a block comment behind its slash. -/
def blockComment? : Text → Option (Text × Text)
  | '*' :: block => (afterBlock? block).map fun after => ('*' :: block.take (block.length - after.length), after)
  | _ => none

theorem append_of_blockComment? {text body after : Text} (h : blockComment? text = some (body, after)) :
    body ++ after = text := by
  unfold blockComment? at h
  split at h
  · obtain ⟨after', found, same⟩ := Option.map_eq_some_iff.mp h
    cases same
    obtain ⟨before, rfl⟩ := suffix_of_afterBlock? found
    simp
  · cases h

/-- The rest of a quoted text or comment behind its first character. -/
def closedRest? (c : Char) (rest : Text) : Option (Text × Text) :=
  if c = '\'' ∨ c = '"' then closeQuote? c rest
  else if c = '-' then lineComment? rest
  else if c = '/' then blockComment? rest
  else none

theorem append_of_closedRest? {c : Char} {rest body after : Text} (h : closedRest? c rest = some (body, after)) :
    body ++ after = rest := by
  unfold closedRest? at h
  split at h
  · exact append_of_closeQuote? h
  split at h
  · exact append_of_lineComment? h
  split at h
  · exact append_of_blockComment? h
  · cases h

/-- The first piece of a text that is not empty, and the rest. -/
def first (c : Char) (rest : Text) : Piece × Text :=
  if c = '?' then (placeholder, rest)
  else if c = '$' then
    match rest.takeWhile isAnyDigit with
    | [] => (plain c, rest)
    | d :: digits => (numbered (d :: digits), rest.dropWhile isAnyDigit)
  else
    match closedRest? c rest with
    | some (body, after) => (closed (c :: body), after)
    | none => (plain c, rest)

/-- Nothing is lost: a piece and the rest make up the text. -/
theorem text_first (c : Char) (rest : Text) : (first c rest).1.text ++ (first c rest).2 = c :: rest := by
  unfold first
  split
  · next mark => simp [text, mark]
  split
  · next dollar =>
    split
    · simp [text]
    · next found => simp [text, ← found, dollar]
  · split
    · next found => simp [text, append_of_closedRest? found]
    · simp [text]

theorem text_first_ne_nil (c : Char) (rest : Text) : (first c rest).1.text ≠ [] := by
  unfold first
  repeat' split
  all_goals simp [text]

theorem length_first_lt (c : Char) (rest : Text) : (first c rest).2.length < (c :: rest).length := by
  have total := congrArg List.length (text_first c rest)
  have some := List.length_pos_iff.mpr (text_first_ne_nil c rest)
  rw [List.length_append] at total
  omega

/-- The pieces of a text in order. -/
def cut : Text → List Piece
  | [] => []
  | c :: rest => (first c rest).1 :: cut (first c rest).2
termination_by text => text.length
decreasing_by exact length_first_lt c rest

/-- The pieces are the text. -/
theorem flatMap_text_cut (text : Text) : (cut text).flatMap Piece.text = text := by
  fun_induction cut text with
  | case1 => rfl
  | case2 c rest ih => simp [ih, text_first]

end Piece

/-- A statement whose placeholders are numbered, with their number. -/
structure NumberedStatement where
  sql : Text
  count : Nat
deriving DecidableEq, Repr

namespace Numbering

/-- Why a statement is not numbered. -/
inductive Refusal where
  /-- both styles of parameters -/
  | mixedStyles
deriving DecidableEq, Repr

def Refusal.message : Refusal → Text
  | mixedStyles => "Mixing positional params (?) and numbered params (e.g. $1) is not supported"

/-- The pieces with each placeholder as a dollar sign and its number; the first has the number after the given one. -/
def renumber : Nat → List Piece → Text
  | _, [] => []
  | met, .placeholder :: pieces => '$' :: Text.ofNat (met + 1) ++ renumber (met + 1) pieces
  | met, piece :: pieces => piece.text ++ renumber met pieces

/-- Number the placeholders of a statement from one on. -/
def number (sql : Text) : Except Refusal NumberedStatement :=
  let pieces := Piece.cut sql
  let count := pieces.count .placeholder
  if 0 < count ∧ pieces.any (fun piece => piece matches .numbered _) then .error .mixedStyles
  else .ok { sql := renumber 0 pieces, count }

end Numbering

end BulkSql
