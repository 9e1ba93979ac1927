import BulkSql.Numbering

/-! # Pieces as matches of patterns

Patterns say what the pieces of a statement are. They are matched with preferences: an alternative before the next one,
and one repetition more before or after none, as the pattern says. What was preferred is given up only if the rest of the
pattern does not match behind it. A piece is the preferred match of the first pattern that matches where it starts, and a
single character where none does. The scanner finds the same pieces without giving anything up.
-/

namespace BulkSql

/-- What may stand at the start of a text. -/
inductive Pattern where
  | one (wanted : Char → Bool)
  | andThen (first second : Pattern)
  | orElse (first second : Pattern)
  /-- a part, as often as it can stand there -/
  | many (part : Pattern)
  /-- a part, as rarely as what follows allows -/
  | few (part : Pattern)

namespace Pattern

/-- What is left behind repetitions of a step, the preferred ones first. A step that takes nothing is not repeated. -/
def repeated (greedy : Bool) (step : Text → List Text) (text : Text) : List Text :=
  let more := (step text).flatMap fun rest => if rest.length < text.length then repeated greedy step rest else []
  if greedy then more ++ [text] else text :: more
termination_by text.length

/-- What is left behind each match at the start of a text, the preferred match first. -/
def ends : Pattern → Text → List Text
  | one _, [] => []
  | one wanted, c :: rest => if wanted c then [rest] else []
  | andThen first second, text => (first.ends text).flatMap second.ends
  | orElse first second, text => first.ends text ++ second.ends text
  | many part, text => repeated true part.ends text
  | few part, text => repeated false part.ends text

/-- What the preferred match takes, and what it leaves. -/
def match? (pattern : Pattern) (text : Text) : Option (Text × Text) :=
  (pattern.ends text).head?.map fun rest => (text.take (text.length - rest.length), rest)

def exactly (c : Char) : Pattern := one (· == c)

/-- The rest of a text in quotes, in which a quote is written twice. -/
def quotedRest (quote : Char) : Pattern :=
  (many ((one (· != quote)).orElse ((exactly quote).andThen (exactly quote)))).andThen (exactly quote)

def quoted (quote : Char) : Pattern := (exactly quote).andThen (quotedRest quote)

/-- Two hyphens and what follows them on their line. -/
def lineComment : Pattern := (exactly '-').andThen ((exactly '-').andThen (many (one (· != '\n'))))

def blockEnd : Pattern := (few (one fun _ => true)).andThen ((exactly '*').andThen (exactly '/'))

def blockComment : Pattern := (exactly '/').andThen ((exactly '*').andThen blockEnd)

/-- A dollar sign and digits. -/
def parameter : Pattern := (exactly '$').andThen ((one isAnyDigit).andThen (many (one isAnyDigit)))

/-! ## Parts of patterns -/

variable {c quote : Char} {rest text body after : Text}

@[simp] theorem ends_one_nil (wanted : Char → Bool) : (one wanted).ends [] = [] := rfl

@[simp] theorem ends_one_cons (wanted : Char → Bool) (c : Char) (rest : Text) :
    (one wanted).ends (c :: rest) = if wanted c then [rest] else [] := rfl

@[simp] theorem ends_andThen (first second : Pattern) (text : Text) :
    (first.andThen second).ends text = (first.ends text).flatMap second.ends := rfl

@[simp] theorem ends_orElse (first second : Pattern) (text : Text) :
    (first.orElse second).ends text = first.ends text ++ second.ends text := rfl

theorem ends_many (part : Pattern) (text : Text) :
    (many part).ends text =
      ((part.ends text).flatMap fun rest => if rest.length < text.length then (many part).ends rest else []) ++
        [text] := by
  change repeated true part.ends text = _
  rw [repeated]
  rfl

theorem ends_few (part : Pattern) (text : Text) :
    (few part).ends text =
      text :: (part.ends text).flatMap fun rest => if rest.length < text.length then (few part).ends rest else [] := by
  change repeated false part.ends text = _
  rw [repeated]
  rfl

theorem ends_exactly_cons (wanted : Char) : (exactly wanted).ends (c :: rest) = if c = wanted then [rest] else [] := by
  simp [exactly]

theorem ends_exactly_andThen (wanted : Char) (pattern : Pattern) :
    ((exactly wanted).andThen pattern).ends (c :: rest) = if c = wanted then pattern.ends rest else [] := by
  rw [ends_andThen, ends_exactly_cons]
  split <;> simp

/-- Characters of a class are taken as far as they go. -/
theorem head?_ends_many_one (wanted : Char → Bool) (text : Text) :
    ((many (one wanted)).ends text).head? = some (text.dropWhile wanted) := by
  induction text with
  | nil =>
    rw [ends_many]
    simp
  | cons c rest ih =>
    rw [ends_many, ends_one_cons, List.dropWhile_cons]
    cases wanted c with
    | true => simp [List.head?_append, ih]
    | false => simp

/-- A quoted text goes on with a character or a quote written twice, or ends here. -/
theorem ends_quotedRest (quote : Char) (text : Text) :
    (quotedRest quote).ends text =
      ((((one (· != quote)).orElse ((exactly quote).andThen (exactly quote))).ends text).flatMap fun rest =>
        if rest.length < text.length then (quotedRest quote).ends rest else []) ++ (exactly quote).ends text := by
  rw [quotedRest, ends_andThen, ends_many, List.flatMap_append, List.flatMap_assoc, List.flatMap_singleton]
  congr 2
  funext rest
  split <;> rfl

theorem ends_quotedRest_of_ne (other : c ≠ quote) :
    (quotedRest quote).ends (c :: rest) = (quotedRest quote).ends rest := by
  rw [ends_quotedRest]
  simp [ends_exactly_cons, other]

/-- Of a quote that is written twice, the first may close the text if nothing else does. -/
theorem ends_quotedRest_doubled (quote : Char) (rest : Text) :
    (quotedRest quote).ends (quote :: quote :: rest) = (quotedRest quote).ends rest ++ [quote :: rest] := by
  have shorter : rest.length < (quote :: quote :: rest).length := by simp only [List.length_cons]; omega
  have step : ((one (· != quote)).orElse ((exactly quote).andThen (exactly quote))).ends (quote :: quote :: rest) =
      [rest] := by
    simp [ends_exactly_cons]
  rw [ends_quotedRest, step, List.flatMap_singleton, if_pos shorter, ends_exactly_cons, if_pos rfl]

/-- The preferred rest of a quoted text is the one that the scanner takes. -/
theorem head?_ends_quotedRest (quote : Char) (text : Text) :
    ((quotedRest quote).ends text).head? = (Piece.closeQuote? quote text).map Prod.snd := by
  fun_induction Piece.closeQuote? quote text with
  | case1 | case2 =>
    rw [ends_quotedRest]
    simp [exactly]
  | case3 rest body after found ih =>
    rw [ends_quotedRest_doubled, List.head?_append, ih, found]
    rfl
  | case4 rest open_ ih =>
    rw [ends_quotedRest_doubled, List.head?_append, ih, open_]
    rfl
  | case5 d rest other =>
    rw [ends_quotedRest]
    simp [ends_exactly_cons, other]
  | case6 c rest other ih =>
    rw [ends_quotedRest_of_ne other, ih, Option.map_map]
    rfl

/-- A block comment ends here, or goes on with a character. -/
theorem ends_blockEnd (text : Text) :
    blockEnd.ends text =
      ((exactly '*').andThen (exactly '/')).ends text ++ ((one fun _ => true).ends text).flatMap fun rest =>
        if rest.length < text.length then blockEnd.ends rest else [] := by
  rw [blockEnd, ends_andThen, ends_few, List.flatMap_cons, List.flatMap_assoc]
  congr 2
  funext rest
  split <;> rfl

/-- The first end of a block comment is preferred. -/
theorem head?_ends_blockEnd (text : Text) : (blockEnd.ends text).head? = afterBlock? text := by
  fun_induction afterBlock? text with
  | case1 rest =>
    rw [ends_blockEnd]
    simp [ends_exactly_cons]
  | case2 c rest open_ ih =>
    have none_ : ((exactly '*').andThen (exactly '/')).ends (c :: rest) = [] := by
      rw [ends_exactly_andThen]
      split
      · next star =>
        cases rest with
        | nil => rfl
        | cons d rest =>
          rw [ends_exactly_cons, if_neg]
          rintro rfl
          exact open_ rest star rfl
      · rfl
    rw [ends_blockEnd, none_]
    simp [ih]
  | case3 =>
    rw [ends_blockEnd]
    simp [exactly]

/-! ## Whole patterns -/

theorem take_of_append (split : body ++ after = rest) :
    (c :: rest).take ((c :: rest).length - after.length) = c :: body := by
  have size : (c :: rest).length - after.length = (c :: body).length := by
    rw [← split, List.length_cons, List.length_append, List.length_cons]
    omega
  rw [size, ← split]
  exact @List.take_left _ (c :: body) after

/-- A match that starts with a certain character is one of what follows it. -/
theorem match?_exactly_andThen {wanted : Char} {pattern : Pattern} {found? : Option (Text × Text)}
    (rests : (pattern.ends rest).head? = found?.map Prod.snd)
    (nothingLost : ∀ body after, found? = some (body, after) → body ++ after = rest) :
    ((exactly wanted).andThen pattern).match? (c :: rest) =
      if c = wanted then found?.map fun (body, after) => (c :: body, after) else none := by
  rw [match?, ends_exactly_andThen]
  split
  · rw [rests]
    cases found? with
    | none => rfl
    | some found => exact congrArg (some <| Prod.mk · found.2) (take_of_append (nothingLost _ _ rfl))
  · rfl

theorem match?_quoted (quote c : Char) (rest : Text) :
    (quoted quote).match? (c :: rest) =
      if c = quote then (Piece.closeQuote? quote rest).map fun (body, after) => (c :: body, after) else none :=
  match?_exactly_andThen (head?_ends_quotedRest quote rest) fun _ _ => Piece.append_of_closeQuote?

theorem match?_lineComment (c : Char) (rest : Text) :
    lineComment.match? (c :: rest) =
      if c = '-' then (Piece.lineComment? rest).map fun (body, after) => (c :: body, after) else none := by
  refine match?_exactly_andThen ?_ fun _ _ => Piece.append_of_lineComment?
  cases rest with
  | nil => rfl
  | cons d line =>
    rw [ends_exactly_andThen, Piece.lineComment?.eq_def]
    split
    · next same =>
      subst same
      exact head?_ends_many_one _ line
    · next other =>
      split
      · next same => exact absurd (List.cons.inj same).1 other
      · rfl

theorem match?_blockComment (c : Char) (rest : Text) :
    blockComment.match? (c :: rest) =
      if c = '/' then (Piece.blockComment? rest).map fun (body, after) => (c :: body, after) else none := by
  refine match?_exactly_andThen ?_ fun _ _ => Piece.append_of_blockComment?
  cases rest with
  | nil => rfl
  | cons d block =>
    rw [ends_exactly_andThen, Piece.blockComment?.eq_def]
    split
    · next same =>
      subst same
      rw [head?_ends_blockEnd]
      change _ = Option.map Prod.snd ((afterBlock? block).map _)
      rw [Option.map_map]
      exact Option.map_id'.symm
    · next other =>
      split
      · next same => exact absurd (List.cons.inj same).1 other
      · rfl

theorem match?_exactly (wanted c : Char) (rest : Text) :
    (exactly wanted).match? (c :: rest) = if c = wanted then some ([c], rest) else none := by
  rw [match?, ends_exactly_cons]
  split
  · have whole : [] ++ rest = rest := rfl
    exact congrArg (some <| Prod.mk · rest) (take_of_append whole)
  · rfl

theorem match?_parameter (c : Char) (rest : Text) :
    parameter.match? (c :: rest) =
      if c = '$' then
        (if rest.takeWhile isAnyDigit = [] then none
          else some (rest.takeWhile isAnyDigit, rest.dropWhile isAnyDigit)).map fun (body, after) => (c :: body, after)
      else none := by
  refine match?_exactly_andThen ?_ fun body after found => ?_
  · cases rest with
    | nil => rfl
    | cons d more =>
      rw [ends_andThen, ends_one_cons, List.takeWhile_cons, List.dropWhile_cons]
      cases isAnyDigit d with
      | true => simp [head?_ends_many_one]
      | false => simp
  · split at found
    · cases found
    · cases found
      exact List.takeWhile_append_dropWhile

end Pattern

namespace Piece

/-- The patterns of pieces in the order in which they are tried, each with the piece that a match of it is. -/
def choices : List (Pattern × (Text → Piece)) :=
  [(.quoted '\'', closed), (.quoted '"', closed), (.lineComment, closed), (.blockComment, closed),
    (.exactly '?', fun _ => placeholder), (.parameter, fun text => numbered text.tail)]

/-- The piece at the start of a text and what it leaves: the preferred match of the first pattern that matches, or else a
single character. -/
def preferred (c : Char) (rest : Text) : Piece × Text :=
  (choices.findSome? fun (pattern, piece) =>
    (pattern.match? (c :: rest)).map fun (taken, after) => (piece taken, after)).getD (plain c, rest)

/-- The scanner takes the preferred piece. -/
theorem first_eq_preferred (c : Char) (rest : Text) : first c rest = preferred c rest := by
  simp only [preferred, choices, List.findSome?_cons, List.findSome?_nil, Pattern.match?_quoted, Pattern.match?_lineComment,
    Pattern.match?_blockComment, Pattern.match?_exactly, Pattern.match?_parameter]
  by_cases mark : c = '?'
  · subst mark
    rfl
  by_cases dollar : c = '$'
  · subst dollar
    cases digits : rest.takeWhile isAnyDigit <;> simp [first, digits]
  by_cases single : c = '\''
  · subst single
    cases found : closeQuote? '\'' rest <;> simp [first, closedRest?, found]
  by_cases double : c = '"'
  · subst double
    cases found : closeQuote? '"' rest <;> simp [first, closedRest?, found]
  by_cases hyphen : c = '-'
  · subst hyphen
    cases found : lineComment? rest <;> simp [first, closedRest?, found]
  by_cases slash : c = '/'
  · subst slash
    cases found : blockComment? rest <;> simp [first, closedRest?, found]
  · simp [first, closedRest?, mark, dollar, single, double, hyphen, slash]

/-- A text cut from left to right into preferred pieces. -/
inductive IsCut : Text → List Piece → Prop where
  | nil : IsCut [] []
  | cons {c : Char} {rest : Text} {pieces : List Piece} (more : IsCut (preferred c rest).2 pieces) :
    IsCut (c :: rest) ((preferred c rest).1 :: pieces)

/-- The scanner cuts a text as its patterns do, which is one way only. -/
theorem isCut_iff {text : Text} {pieces : List Piece} : IsCut text pieces ↔ pieces = cut text := by
  constructor
  · intro isCut
    induction isCut with
    | nil => rw [cut]
    | cons _ ih => rw [cut, first_eq_preferred, ih]
  · rintro rfl
    fun_induction cut text with
    | case1 => exact .nil
    | case2 c rest ih =>
      rw [first_eq_preferred] at ih ⊢
      exact .cons ih

end Piece

end BulkSql
