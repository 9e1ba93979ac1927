import BulkSql.Proofs.Syntax.Readings

/-! # Statements select nothing

SELECT is reserved and no statement of the grammar has it as a keyword. Types are the only lexemes that may be written
as a reserved word, and they stand right behind a cast. So whatever a text with SELECT right behind another symbol is
read as, it is no statement.
-/

namespace BulkSql

namespace Lexeme

/-- Types stand behind casts, and SELECT is no keyword. -/
inductive SelectsNothing : List Lexeme → Prop where
  | nil : SelectsNothing []
  | cast (type : Text) {more : List Lexeme} (behind : SelectsNothing more) :
    SelectsNothing (.symbol [':', ':'] :: .type type :: more)
  | other {lexeme : Lexeme} (untyped : ∀ type, lexeme ≠ .type type) (unselecting : lexeme ≠ .keyword .SELECT)
    {more : List Lexeme} (behind : SelectsNothing more) : SelectsNothing (lexeme :: more)

namespace SelectsNothing

variable {first second : List Lexeme}

theorem append (before : SelectsNothing first) (behind : SelectsNothing second) : SelectsNothing (first ++ second) := by
  induction before with
  | nil => exact behind
  | cast type _ ih => exact .cast type ih
  | other untyped unselecting _ ih => exact .other untyped unselecting ih

theorem symbol (symbol : Text) (behind : SelectsNothing first) : SelectsNothing (.symbol symbol :: first) :=
  .other (by simp) (by simp) behind

theorem name (name : Text) (behind : SelectsNothing first) : SelectsNothing (.name name :: first) :=
  .other (by simp) (by simp) behind

theorem keyword {keyword : Keyword} (unselecting : keyword ≠ .SELECT) (behind : SelectsNothing first) :
    SelectsNothing (.keyword keyword :: first) :=
  .other (by simp) (by simpa using unselecting) behind

theorem parenthesized (inside : SelectsNothing first) : SelectsNothing (Lexeme.parenthesized first) :=
  .symbol _ (inside.append (.symbol _ .nil))

theorem commaList {parts : List (List Lexeme)} (each : ∀ part ∈ parts, SelectsNothing part) :
    SelectsNothing (Lexeme.commaList parts) :=
  commaList_of_append .nil append (.symbol _ .nil) each

theorem dotted (qualifier? : Option Text) (name : Text) : SelectsNothing (Lexeme.dotted qualifier? name) := by
  cases qualifier? with
  | none => exact .name name .nil
  | some qualifier => exact .name qualifier (.symbol _ (.name name .nil))

theorem nameList (names : List Text) : SelectsNothing (Lexeme.nameList names) :=
  parenthesized (commaList (List.forall_mem_map.mpr fun name _ => .name name .nil))

end SelectsNothing

end Lexeme

open Lexeme

/-! ## Statements -/

theorem Expr.selectsNothing (tree : Expr) : SelectsNothing tree.lexemes := by
  induction tree using Expr.induction with
  | placeholder | literal => exact .other (by simp) (by simp) .nil
  | column reference => exact .dotted reference.qualifier? reference.name
  | call name arguments ih =>
    rw [lexemes, lexemesOfAll_eq_map]
    exact .name name (.parenthesized (.commaList (List.forall_mem_map.mpr ih)))
  | nested inner ih => exact ih.parenthesized
  | cast inner type ih => exact ih.append (.cast type .nil)
  | signed sign inner ih => exact .symbol _ ih
  | arithmetic op left right ihLeft ihRight => exact ihLeft.append (.symbol _ ihRight)
  | comparison op left right ihLeft ihRight => exact ihLeft.append (.other (by simp) (by simp) ihRight)
  | logical op left right ihLeft ihRight => exact ihLeft.append (.keyword (by cases op <;> decide) ihRight)
  | isNull inner negated ih =>
    refine ih.append (.keyword (by decide) ?_)
    cases negated with
    | true => exact .keyword (by decide) (.keyword (by decide) .nil)
    | false => exact .keyword (by decide) .nil

theorem Update.selectsNothing (update : Update) : SelectsNothing update.lexemes := by
  have assignments : SelectsNothing (Lexeme.commaList (update.assignments.map SetClause.lexemes)) := by
    refine .commaList (List.forall_mem_map.mpr fun clause _ => ?_)
    exact .name clause.column (.symbol _ clause.value.selectsNothing)
  have condition : SelectsNothing (.keyword .WHERE :: update.condition.lexemes) :=
    .keyword (by decide) update.condition.selectsNothing
  exact .keyword (by decide) ((SelectsNothing.dotted _ _).append (.keyword (by decide) (assignments.append condition)))

theorem RowTarget.selectsNothing {verb : Keyword} (unselecting : verb ≠ .SELECT) (row : RowTarget) :
    SelectsNothing (row.lexemes verb) := by
  have values : SelectsNothing (Lexeme.atomList row.values.atoms) :=
    .parenthesized (.commaList (List.forall_mem_map.mpr fun atom _ => atom.selectsNothing))
  have word : SelectsNothing [.keyword .VALUES] := .keyword (by decide) .nil
  have columns := (SelectsNothing.nameList row.columns).append word
  rw [row.lexemes_eq_append]
  exact (SelectsNothing.keyword unselecting (.keyword (by decide) ((SelectsNothing.dotted _ _).append columns))).append
    values

theorem Statement.conflictSelectsNothing (conflict? : Option ConflictTarget) :
    SelectsNothing (conflictLexemes conflict?) := by
  cases conflict? with
  | none => exact .nil
  | some target =>
    have aim : SelectsNothing target.lexemes := by
      cases target with
      | columns names => exact .nameList names
      | constraint name => exact .keyword (by decide) (.keyword (by decide) (.name name .nil))
    have action : SelectsNothing [.keyword .DO, .keyword .NOTHING] := .keyword (by decide) (.keyword (by decide) .nil)
    exact .keyword (by decide) (.keyword (by decide) (aim.append action))

theorem Statement.selectsNothing (statement : Statement) : SelectsNothing statement.lexemes := by
  cases statement with
  | insert row conflict? => exact (row.selectsNothing (by decide)).append (conflictSelectsNothing conflict?)
  | upsert row => exact row.selectsNothing (by decide)
  | update update => exact update.selectsNothing

/-! ## Texts -/

namespace Lexeme

/-- A lexeme that may be written as SELECT is the keyword or a type. -/
theorem eq_of_alike_select {lexeme : Lexeme} (read : lexeme.IsRead) (alike : lexeme.Alike (.keyword .SELECT)) :
    lexeme = .keyword .SELECT ∨ ∃ type, lexeme = .type type := by
  obtain ⟨kind, written, isToken, rfl, spelled⟩ := alike
  cases lexeme with
  | type type => exact .inr ⟨type, rfl⟩
  | keyword keyword =>
    have same := isToken.2.symm.trans spelled
    obtain rfl : keyword = .SELECT := by
      have found := Keyword.lookup?_word keyword
      rw [same, Keyword.lookup?_word] at found
      exact (Option.some.inj found).symm
    exact .inl rfl
  | literal literal =>
    -- the words that are constants are keywords too, but not this one
    obtain ⟨text, rest, reads⟩ := read
    obtain ⟨found, same, isRead⟩ := Expr.isReadAs_of_readLiteral reads
    cases same
    cases isRead with
    | word kind keyword names spelledAs ends =>
      obtain rfl := isToken.2
      have upper := Keyword.lookup?_eq_some_iff.mpr spelled
      rw [spelledAs] at upper
      cases upper
      rcases names with ⟨-, names | names⟩ | ⟨-, names⟩ <;> cases names
    | number | string => cases isToken.1
  | symbol => rcases isToken.1 with other | other <;> cases other
  | placeholder | name | comparison => cases isToken.1

/-- The lexemes of a statement are nowhere read as SELECT behind a symbol that is no cast. -/
theorem SelectsNothing.not_infix_of_alike {first second : List Lexeme} (selects : SelectsNothing first)
    (read : AllRead first) (alike : List.Forall₂ Alike first second) {mark : Text} (apart : mark ≠ [':', ':']) :
    ¬[.symbol mark, .keyword .SELECT] <:+: second := by
  induction selects generalizing second with
  | nil =>
    cases alike
    exact fun inside => nomatch List.infix_nil.mp inside
  | cast type _ ih =>
    obtain ⟨_, read⟩ := allRead_cons.mp read
    obtain ⟨_, read⟩ := allRead_cons.mp read
    obtain ⟨colons, _, ⟨_, _, isToken, isToken'⟩, rest, rfl⟩ := List.forall₂_cons_left_iff.mp alike
    obtain ⟨other, second, ⟨_, _, isType, isType'⟩, more, rfl⟩ := List.forall₂_cons_left_iff.mp rest
    rintro ⟨before, after, same⟩
    match before with
    | [] =>
      cases same
      exact apart (isToken'.2.symm.trans isToken.2)
    | [_] =>
      cases same
      rcases isType.1 with rfl | rfl <;> rcases isType'.1 with other | other <;> cases other
    | _ :: _ :: before =>
      cases same
      exact ih read more ⟨before, after, rfl⟩
  | @other lexeme untyped unselecting first behind ih =>
    obtain ⟨_, readMore⟩ := allRead_cons.mp read
    obtain ⟨_, second, _, more, rfl⟩ := List.forall₂_cons_left_iff.mp alike
    rintro ⟨before, after, same⟩
    match before with
    | [] =>
      cases same
      obtain ⟨head, _, selecting, -, rfl⟩ := List.forall₂_cons_right_iff.mp more
      rcases eq_of_alike_select (allRead_cons.mp readMore).1 selecting with rfl | ⟨type, rfl⟩
      · cases behind with
        | other _ no _ => exact no rfl
      · cases behind with
        | other no _ _ => exact no type rfl
    | _ :: before =>
      cases same
      exact ih readMore more ⟨before, after, rfl⟩

end Lexeme

/-- A text written for lexemes of the grammar with SELECT right behind a symbol that is no cast. -/
def Selects (text : Text) : Prop :=
  ∃ lexemes mark, WrittenAs lexemes text ∧ Regular lexemes ∧ mark ≠ [':', ':'] ∧
    [.symbol mark, .keyword .SELECT] <:+: lexemes

/-- No statement is read from a text that selects. -/
theorem Statement.parse_ne_ok_of_selects {text : Text} (selects : Selects text) (kind : StatementKind)
    (statement : Statement) : parse kind text ≠ .ok statement := by
  obtain ⟨lexemes, mark, written, regular, apart, selected⟩ := selects
  intro parsed
  obtain ⟨-, -, -, rest, spells, ends⟩ := spells_of_parse parsed
  have whole := written [] ends_nil
  rw [List.append_nil, skipLayout_nil] at whole
  obtain ⟨front, back, rfl, alike, regular', more⟩ :=
    statement.regular_lexemes.alike regular spells whole ends.head?_ne_bracket
  rw [eq_nil_of_endsText regular' ends more, List.append_nil] at selected
  exact statement.selectsNothing.not_infix_of_alike spells.allRead alike apart selected

end BulkSql
