import BulkSql.Proofs.Bulk.Totality
import BulkSql.Proofs.Syntax.Tokens

/-! # The yield of a statement

The tokens of a text that is parsed are the lexemes of its tree, one for one and in order. So the parameters of the
tree are counted as the placeholders of the text are, and the bulk form takes an array for each of them.
-/

namespace BulkSql

namespace Lexeme

def isPlaceholder : Lexeme → Bool
  | placeholder => true
  | _ => false

/-- The placeholders among lexemes. -/
def placeholders (lexemes : List Lexeme) : Nat := lexemes.countP isPlaceholder

/-- Lexemes with each placeholder replaced by others, behind a number of other placeholders. -/
def fill (filling : Nat → List Lexeme) : List Lexeme → Nat → List Lexeme
  | [], _ => []
  | lexeme :: more, n =>
    if lexeme.isPlaceholder then filling (n + 1) ++ fill filling more (n + 1) else lexeme :: fill filling more n

/-- Parts with their placeholders replaced, counted from part to part. -/
def fillAll (filling : Nat → List Lexeme) : List (List Lexeme) → Nat → List (List Lexeme)
  | [], _ => []
  | part :: parts, n => fill filling part n :: fillAll filling parts (n + placeholders part)

variable {filling : Nat → List Lexeme} {first second : List Lexeme} {lexeme : Lexeme}

@[simp] theorem placeholders_nil : placeholders [] = 0 := rfl

@[simp] theorem placeholders_append : placeholders (first ++ second) = placeholders first + placeholders second :=
  List.countP_append

@[simp] theorem placeholders_cons :
    placeholders (lexeme :: first) = placeholders first + if lexeme.isPlaceholder then 1 else 0 :=
  List.countP_cons

theorem fill_cons_of_not (other : lexeme.isPlaceholder = false) (n : Nat) :
    fill filling (lexeme :: first) n = lexeme :: fill filling first n := by
  rw [fill, other]
  rfl

theorem fill_append (n : Nat) :
    fill filling (first ++ second) n = fill filling first n ++ fill filling second (n + placeholders first) := by
  induction first generalizing n with
  | nil => rfl
  | cons lexeme first ih =>
    rw [List.cons_append, fill, fill, placeholders_cons]
    cases lexeme.isPlaceholder with
    | true =>
      simp only [if_true, ih, List.append_assoc, Nat.add_assoc, Nat.add_comm 1]
    | false =>
      simp only [Bool.false_eq_true, if_false, ih, List.cons_append, Nat.add_zero]

/-- Where no placeholder stands nothing changes. -/
theorem fill_of_none (none_ : placeholders first = 0) (n : Nat) : fill filling first n = first := by
  induction first with
  | nil => rfl
  | cons lexeme first ih =>
    rw [placeholders_cons] at none_
    cases here : lexeme.isPlaceholder with
    | true => simp [here] at none_
    | false =>
      rw [fill_cons_of_not here, ih (Nat.add_eq_zero_iff.mp none_).1]

/-! ## Lists -/

@[simp] theorem placeholders_parenthesized : placeholders (parenthesized first) = placeholders first := by
  simp [parenthesized, isPlaceholder]

theorem fill_parenthesized (n : Nat) : fill filling (parenthesized first) n = parenthesized (fill filling first n) := by
  rw [parenthesized, parenthesized, fill_append, fill_cons_of_not rfl, @fill_of_none _ [_] rfl]

theorem placeholders_commaList (parts : List (List Lexeme)) :
    placeholders (commaList parts) = (parts.map placeholders).sum := by
  have more (parts : List (List Lexeme)) :
      placeholders (parts.flatMap (.symbol [','] :: ·)) = (parts.map placeholders).sum := by
    induction parts with
    | nil => rfl
    | cons part parts ih => simp [ih, isPlaceholder]
  cases parts with
  | nil => rfl
  | cons part parts => rw [commaList, placeholders_append, more, List.map_cons, List.sum_cons]

theorem fill_commaList (parts : List (List Lexeme)) (n : Nat) :
    fill filling (commaList parts) n = commaList (fillAll filling parts n) := by
  have more (parts : List (List Lexeme)) (n : Nat) : fill filling (parts.flatMap (.symbol [','] :: ·)) n =
      (fillAll filling parts n).flatMap (.symbol [','] :: ·) := by
    induction parts generalizing n with
    | nil => rfl
    | cons part parts ih =>
      rw [List.flatMap_cons, fill_append, fill_cons_of_not rfl, ih, fillAll, List.flatMap_cons, placeholders_cons]
      rfl
  cases parts with
  | nil => rfl
  | cons part parts => rw [commaList, fill_append, more, fillAll, commaList]

@[simp] theorem placeholders_dotted (qualifier? : Option Text) (name : Text) :
    placeholders (dotted qualifier? name) = 0 := by
  cases qualifier? <;> rfl

@[simp] theorem placeholders_nameList (names : List Text) : placeholders (nameList names) = 0 := by
  simp [nameList, placeholders_commaList, Function.comp_def, isPlaceholder]

end Lexeme

open Lexeme

/-! ## Expressions -/

theorem Expr.placeholdersOfAll_eq_sum (trees : List Expr) :
    placeholdersOfAll trees = (trees.map Expr.placeholders).sum := by
  induction trees with
  | nil => rfl
  | cons first more ih => rw [placeholdersOfAll, ih, List.map_cons, List.sum_cons]

/-- A tree has as many placeholders as its lexemes. -/
theorem Expr.placeholders_lexemes (tree : Expr) : Lexeme.placeholders tree.lexemes = tree.placeholders := by
  induction tree using Expr.induction with
  | placeholder | literal => rfl
  | column reference => exact placeholders_dotted _ _
  | call name arguments ih =>
    rw [lexemes, placeholders_cons, placeholders_parenthesized, placeholders_commaList, lexemesOfAll_eq_map,
      List.map_map, placeholders, placeholdersOfAll_eq_sum]
    exact congrArg List.sum (List.map_congr_left ih)
  | nested inner ih => exact placeholders_parenthesized.trans ih
  | cast inner type ih => simp [lexemes, placeholders, ih, isPlaceholder]
  | signed sign inner ih => simp [lexemes, placeholders, ih, isPlaceholder]
  | arithmetic op left right ihLeft ihRight | comparison op left right ihLeft ihRight
  | logical op left right ihLeft ihRight => simp [lexemes, placeholders, ihLeft, ihRight, isPlaceholder]
  | isNull inner negated ih => cases negated <;> simp [lexemes, placeholders, ih, isPlaceholder]

namespace Replacement

variable {replacement : Replacement}

/-- The lexemes that stand in place of a parameter. -/
def filling (replacement : Replacement) (number : Nat) : List Lexeme := (replacement.placeholder number).lexemes

theorem map_lexemes_replaceAll {trees : List Expr}
    (each : ∀ tree ∈ trees, ∀ n, (tree.replace replacement n).lexemes = fill replacement.filling tree.lexemes n)
    (n : Nat) : (Expr.replaceAll replacement trees n).map Expr.lexemes =
      fillAll replacement.filling (trees.map Expr.lexemes) n := by
  induction trees generalizing n with
  | nil => rfl
  | cons first more ih =>
    rw [Expr.replaceAll, List.map_cons, List.map_cons, fillAll, each first (List.mem_cons_self ..),
      ih fun tree member => each tree (List.mem_cons_of_mem _ member), first.placeholders_lexemes]

/-- The parameters of a tree are numbered as the placeholders among its lexemes are. -/
theorem lexemes_replace (keeps : ∀ reference, replacement.column reference = .column reference) (tree : Expr)
    (n : Nat) :
    (tree.replace replacement n).lexemes = fill replacement.filling tree.lexemes n := by
  induction tree using Expr.induction generalizing n with
  | placeholder => exact (List.append_nil _).symm
  | literal written => rfl
  | column reference =>
    rw [Expr.replace, keeps]
    exact (fill_of_none (placeholders_dotted _ _) n).symm
  | call name arguments ih =>
    rw [Expr.replace, Expr.lexemes, Expr.lexemes, Expr.lexemesOfAll_eq_map, Expr.lexemesOfAll_eq_map,
      map_lexemes_replaceAll ih, fill_cons_of_not rfl, fill_parenthesized, fill_commaList]
  | nested inner ih => exact (congrArg Lexeme.parenthesized (ih n)).trans (fill_parenthesized n).symm
  | cast inner type ih => rw [Expr.replace, Expr.lexemes, Expr.lexemes, fill_append, ih, @fill_of_none _ [_, _] rfl]
  | signed sign inner ih => rw [Expr.replace, Expr.lexemes, Expr.lexemes, fill_cons_of_not rfl, ih]
  | arithmetic op left right ihLeft ihRight | comparison op left right ihLeft ihRight
  | logical op left right ihLeft ihRight =>
    rw [Expr.replace, Expr.lexemes, Expr.lexemes, fill_append, fill_cons_of_not rfl, ihLeft, ihRight,
      left.placeholders_lexemes]
  | isNull inner negated ih =>
    have test : Lexeme.placeholders (.keyword .IS ::
        if negated then [.keyword .NOT, .keyword .NULL] else [.keyword .NULL]) = 0 := by cases negated <;> rfl
    rw [Expr.replace, Expr.lexemes, Expr.lexemes, fill_append, ih, fill_of_none test]

end Replacement

/-! ## Statements -/

namespace SetClause

theorem map_lexemes_replaceAll {replacement : Replacement}
    (keeps : ∀ reference, replacement.column reference = .column reference) (clauses : List SetClause) (n : Nat) :
    (replaceAll replacement clauses n).map lexemes = fillAll replacement.filling (clauses.map lexemes) n := by
  induction clauses generalizing n with
  | nil => rfl
  | cons clause clauses ih =>
    have counted : Lexeme.placeholders clause.lexemes = clause.value.placeholders := by
      simp [lexemes, isPlaceholder, Expr.placeholders_lexemes]
    rw [replaceAll, List.map_cons, List.map_cons, fillAll, ih, counted]
    rw [lexemes, lexemes, @fill_cons_of_not _ _ (.name _) rfl, @fill_cons_of_not _ _ (.symbol _) rfl,
      replacement.lexemes_replace keeps]

theorem placeholders_map_lexemes (clauses : List SetClause) :
    Lexeme.placeholders (Lexeme.commaList (clauses.map lexemes)) = placeholdersOfAll clauses := by
  rw [placeholders_commaList, List.map_map]
  refine congrArg List.sum (List.map_congr_left fun clause _ => ?_)
  simp [lexemes, isPlaceholder, Expr.placeholders_lexemes]

end SetClause

theorem Update.placeholders_lexemes (update : Update) : Lexeme.placeholders update.lexemes = update.placeholders := by
  simp [lexemes, placeholders, isPlaceholder, SetClause.placeholders_map_lexemes, Expr.placeholders_lexemes]

theorem Update.lexemes_replace {replacement : Replacement}
    (keeps : ∀ reference, replacement.column reference = .column reference) (update : Update) :
    (update.replace replacement).lexemes = fill replacement.filling update.lexemes 0 := by
  rw [lexemes, lexemes, fill_cons_of_not rfl, fill_append, fill_cons_of_not rfl, fill_append, fill_cons_of_not rfl,
    fill_of_none (placeholders_dotted _ _), placeholders_dotted, fill_commaList, SetClause.placeholders_map_lexemes,
    Nat.add_zero, Nat.zero_add, ← replacement.lexemes_replace keeps, ← SetClause.map_lexemes_replaceAll keeps]
  rfl

/-- The row with its leaves replaced. -/
def RowTarget.replace (replacement : Replacement) (row : RowTarget) : RowTarget :=
  { row with values := { row.values with atoms := Expr.replaceAll replacement row.values.atoms 0 } }

theorem RowTarget.placeholders_lexemes (verb : Keyword) (row : RowTarget) :
    Lexeme.placeholders (row.lexemes verb) = Expr.placeholdersOfAll row.values.atoms := by
  have atoms : row.values.atoms.map (Lexeme.placeholders ∘ Expr.lexemes) = row.values.atoms.map Expr.placeholders :=
    List.map_congr_left fun atom _ => atom.placeholders_lexemes
  simp [lexemes, valueList, isPlaceholder, placeholders_commaList, atoms, Expr.placeholdersOfAll_eq_sum]

theorem RowTarget.lexemes_replace {replacement : Replacement}
    (keeps : ∀ reference, replacement.column reference = .column reference) (verb : Keyword) (row : RowTarget) :
    (row.replace replacement).lexemes verb = fill replacement.filling (row.lexemes verb) 0 := by
  have atoms :=
    @Replacement.map_lexemes_replaceAll _ row.values.atoms fun tree _ => replacement.lexemes_replace keeps tree
  rw [lexemes, lexemes, fill_cons_of_not rfl, fill_cons_of_not rfl, fill_append, fill_append, fill_of_none (by simp),
    fill_of_none (by simp), valueList, valueList, fill_cons_of_not rfl, fill_parenthesized, fill_commaList, ← atoms]
  simp [replace]

namespace Statement

/-- The statement with its leaves replaced. -/
def replace (replacement : Replacement) : Statement → Statement
  | .insert row conflict? => .insert (row.replace replacement) conflict?
  | .upsert row => .upsert (row.replace replacement)
  | .update written => .update (written.replace replacement)

theorem placeholders_conflictLexemes (conflict? : Option ConflictTarget) :
    Lexeme.placeholders (conflictLexemes conflict?) = 0 := by
  cases conflict? with
  | none => rfl
  | some target =>
    cases target <;> simp [conflictLexemes, ConflictTarget.clauseLexemes, ConflictTarget.lexemes, isPlaceholder]

theorem placeholders_lexemes (statement : Statement) :
    Lexeme.placeholders statement.lexemes = statement.placeholders := by
  cases statement with
  | insert row conflict? =>
    rw [lexemes, placeholders_append, placeholders_conflictLexemes, row.placeholders_lexemes]
    rfl
  | upsert row => exact row.placeholders_lexemes .UPSERT
  | update written => exact written.placeholders_lexemes

theorem lexemes_replace {replacement : Replacement}
    (keeps : ∀ reference, replacement.column reference = .column reference) (statement : Statement) :
    (statement.replace replacement).lexemes = fill replacement.filling statement.lexemes 0 := by
  cases statement with
  | insert row conflict? =>
    rw [replace, lexemes, lexemes, fill_append, row.lexemes_replace keeps,
      fill_of_none (placeholders_conflictLexemes _)]
  | upsert row => exact row.lexemes_replace keeps .UPSERT
  | update written => exact written.lexemes_replace keeps

end Statement

/-! ## Tokens -/

namespace Token

def isPlaceholder (token : Token) : Bool := token.kind == .placeholder

end Token

/-- A lexeme is a placeholder exactly if its token is one. -/
theorem Lexeme.IsToken.isPlaceholder_eq {lexeme : Lexeme} {token : Token}
    (isToken : lexeme.IsToken token.kind token.text) : token.isPlaceholder = lexeme.isPlaceholder := by
  unfold Token.isPlaceholder
  cases lexeme with
  | placeholder => rw [isToken.1]; rfl
  | literal written =>
    rw [isToken.1]
    cases written.kind <;> rfl
  | name written => rw [isToken.1]; rfl
  | type written | symbol written => rcases isToken.1 with kind | kind <;> rw [kind] <;> rfl
  | comparison op => rw [isToken.1]; rfl
  | keyword wanted => rw [isToken.1]; rfl

theorem AreTokens.map_isPlaceholder {lexemes : List Lexeme} {tokens : List Token} (are : AreTokens lexemes tokens) :
    tokens.map Token.isPlaceholder = lexemes.map Lexeme.isPlaceholder := by
  induction are with
  | nil => rfl
  | cons isToken _ ih => rw [List.map_cons, List.map_cons, ih, isToken.isPlaceholder_eq]

theorem AreTokens.countP_isPlaceholder {lexemes : List Lexeme} {tokens : List Token} (are : AreTokens lexemes tokens) :
    tokens.countP Token.isPlaceholder = Lexeme.placeholders lexemes := by
  have counted := congrArg (List.countP id) are.map_isPlaceholder
  rw [List.countP_map, List.countP_map] at counted
  exact counted

namespace Statement

/-- The tokens of a text that is parsed are the lexemes of its tree in their order, with at most a semicolon behind
them. The placeholders of the text stand where those of the tree do; they are numbered as the parameters of the tree
are, and there are as many as the bulk form takes arrays. -/
theorem tokens_of_parse {kind : StatementKind} {sql : Text} {statement : Statement} {tokens : List Token}
    (parsed : parse kind sql = .ok statement) (cut : tokenize sql = .ok tokens) :
    (∃ front back, tokens = front ++ back ∧ AreTokens statement.lexemes front ∧
      front.map Token.isPlaceholder = statement.lexemes.map Lexeme.isPlaceholder ∧
      (back = [] ∨ ∃ position, back = [{ kind := .punctuation, text := [';'], position }])) ∧
    (∀ replacement : Replacement, (∀ reference, replacement.column reference = .column reference) →
      (statement.replace replacement).lexemes = Lexeme.fill replacement.filling statement.lexemes 0) ∧
    tokens.countP Token.isPlaceholder = statement.placeholders ∧
    ∀ derived, ∃ bulk, Bulk.ofText derived kind sql = .ok bulk ∧ bulk.parameterCount = statement.placeholders := by
  obtain ⟨-, -, -, rest, spelled, ends⟩ := spells_of_parse parsed
  obtain ⟨front, back, rfl, are, cutBack⟩ := areTokens_of_spells statement.regular_lexemes spelled cut
  have last := tokens_of_endsText ends cutBack
  have counted : (front ++ back).countP Token.isPlaceholder = statement.placeholders := by
    rw [List.countP_append, are.countP_isPlaceholder, statement.placeholders_lexemes]
    rcases last with rfl | ⟨position, rfl⟩ <;> rfl
  refine ⟨⟨front, back, rfl, are, are.map_isPlaceholder, last⟩, ?_, counted, ?_⟩
  · exact fun replacement keeps => statement.lexemes_replace keeps
  · exact fun derived => Bulk.exists_ofText derived parsed

/-- Placeholders in a comment and in a string are no tokens. -/
theorem tokens_of_parse_two_parameters :
    ∃ statement tokens,
      parse .update "update t set a = f(.5, ?) /* ? */ where b <> '?' and c = ? ;" = .ok statement ∧
      tokenize "update t set a = f(.5, ?) /* ? */ where b <> '?' and c = ? ;" = .ok tokens ∧
      (∃ front back, tokens = front ++ back ∧ AreTokens statement.lexemes front) ∧
      tokens.countP Token.isPlaceholder = 2 ∧ statement.placeholders = 2 := by
  have checked : (match parse .update "update t set a = f(.5, ?) /* ? */ where b <> '?' and c = ? ;",
        tokenize "update t set a = f(.5, ?) /* ? */ where b <> '?' and c = ? ;" with
      | .ok _, .ok tokens => tokens.countP Token.isPlaceholder == 2
      | _, _ => false) = true := by decide +kernel
  split at checked
  · next statement tokens parsed cut =>
    obtain ⟨⟨front, back, split, are, -⟩, -, counted, -⟩ := tokens_of_parse parsed cut
    rw [beq_iff_eq] at checked
    exact ⟨statement, tokens, parsed, cut, ⟨front, back, split, are⟩, checked, counted.symm.trans checked⟩
  · cases checked

end Statement

end BulkSql
