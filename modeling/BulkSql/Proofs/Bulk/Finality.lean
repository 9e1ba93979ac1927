import BulkSql.Proofs.Bulk.JoinedText
import BulkSql.Proofs.Bulk.Numbered
import BulkSql.Proofs.Bulk.Totality
import BulkSql.Proofs.Syntax.Selections

/-! # Bulk forms are final

Every bulk form has SELECT right behind a parenthesis: behind the columns of a row, or where the derived table of an
UPDATE opens. No statement has, so a bulk form is never read as a statement again and has no bulk form of its own.
-/

namespace BulkSql

open Reader Lexeme

namespace Bulk

variable {derived : DerivedTable} {kind : StatementKind} {row : RowTarget} {conflict? : Option ConflictTarget}

/-! ## Rows -/

/-- A selected item as lexemes. -/
def itemLexemes (column : Text) (atom : Expr) : List Lexeme :=
  atom.unnest.lexemes ++ if atom.isParameter then [.keyword .AS, .name column] else []

/-- The items selected for the columns of a row. -/
def selectLexemes (row : RowTarget) : List Lexeme :=
  .keyword .SELECT :: Lexeme.commaList (List.zipWith itemLexemes row.columns row.values.atoms)

theorem regular_itemLexemes (column : Text) (atom : Expr) : Regular (itemLexemes column atom) := by
  refine atom.unnest.regular_lexemes.append ?_
  split
  · exact .keyword .AS (.name column .nil)
  · exact .nil

theorem writtenAs_item {column : Text} (named : (Lexeme.name column).IsRead) {atom : Expr}
    (read : AllRead atom.lexemes) : WrittenAs (itemLexemes column atom) (item column atom) := by
  have element := Expr.writtenAs_text atom.unnest (allRead_unnest read)
  unfold itemLexemes item
  split
  · have alias_ := (writtenAs_keyword .AS).spaced (writtenAs_lexeme named (by simp))
    have as_ (after : Text) : (" AS " : Text) ++ after = ' ' :: (Keyword.AS.word ++ ' ' :: after) := rfl
    rw [List.append_assoc, as_]
    exact element.spaced alias_
  · rwa [List.append_nil]

theorem regular_selectLexemes (row : RowTarget) : Regular (selectLexemes row) := by
  rw [selectLexemes, ← List.map_uncurry_zip_eq_zipWith]
  exact .keyword .SELECT (.commaList (List.forall_mem_map.mpr fun pair _ => regular_itemLexemes pair.1 pair.2))

theorem writtenAs_select (named : ∀ column ∈ row.columns, (Lexeme.name column).IsRead)
    (read : ∀ atom ∈ row.values.atoms, AllRead atom.lexemes) :
    WrittenAs (selectLexemes row)
      ("SELECT " ++ Text.commaList (List.zipWith item row.columns row.values.atoms)) := by
  rw [selectLexemes, ← List.map_uncurry_zip_eq_zipWith, ← List.map_uncurry_zip_eq_zipWith]
  have items := writtenAs_commaList fun (pair : Text × Expr) (member : pair ∈ row.columns.zip row.values.atoms) =>
    writtenAs_item (named _ (List.of_mem_zip member).1) (read _ (List.of_mem_zip member).2)
  exact (writtenAs_keyword .SELECT).spaced items

/-- What stands in front of the values of a row ends with the columns in their parentheses. -/
theorem suffix_frontLexemes (verb : Keyword) (row : RowTarget) : [.symbol [')']] <:+ frontLexemes verb row := by
  have columns : [.symbol [')']] <:+ Lexeme.nameList row.columns := List.suffix_append _ _
  exact ((columns.trans (List.suffix_append _ _)).trans (List.suffix_cons _ _)).trans (List.suffix_cons _ _)

/-- SELECT stands right behind the columns. -/
theorem selects_row (read : AllRead (row.lexemes (Statement.verb kind) ++ Statement.conflictLexemes conflict?)) :
    Selects (rowText kind row
      ("SELECT " ++ Text.commaList (List.zipWith item row.columns row.values.atoms)) conflict?) := by
  rw [row_lexemes_eq_append] at read
  simp only [Lexeme.valueList, allRead_append, allRead_cons, Lexeme.allRead_parenthesized, Lexeme.allRead_commaList,
    List.forall_mem_map] at read
  obtain ⟨⟨front, -, atoms⟩, clause⟩ := read
  have names := front
  simp only [frontLexemes, Lexeme.nameList, allRead_cons, allRead_append, Lexeme.allRead_parenthesized,
    Lexeme.allRead_commaList, List.forall_mem_map] at names
  have select := writtenAs_select (fun column member => (names.2.2.2 column member).1) atoms
  have regularFront : Regular (frontLexemes (Statement.verb kind) row) :=
    .keyword _ (.keyword .INTO ((Regular.dotted _ _).append (.nameList _)))
  have regular := (regularFront.append (regular_selectLexemes row)).append (Statement.regular_conflictLexemes conflict?)
  refine ⟨_, [')'], writtenAs_rowText front select clause, regular, by simp, ?_⟩
  obtain ⟨before, closed⟩ := suffix_frontLexemes (Statement.verb kind) row
  have selected : [.symbol [')'], .keyword .SELECT] <:+:
      frontLexemes (Statement.verb kind) row ++ selectLexemes row := by
    rw [← closed, List.append_assoc]
    exact List.infix_append_of_infix_right (List.prefix_append _ _).isInfix
  exact List.infix_append_of_infix_left selected

/-! ## UPDATE -/

theorem infix_joinLexemes {parameters : Nat} (some_ : parameters ≠ 0) :
    [.symbol ['('], .keyword .SELECT] <:+: joinLexemes derived parameters := by
  rw [joinLexemes, if_neg some_]
  exact List.infix_cons (List.prefix_append _ _).isInfix

/-- SELECT stands where the derived table opens. -/
theorem selects_update (named : IsBareWord derived.name) (stem : IsBareWord derived.columnStem) {update : Update}
    (read : AllRead update.lexemes) (some_ : update.placeholders ≠ 0) :
    Selects ((update.replace (joined derived update.table)).textWith (joinText derived update.placeholders)) := by
  obtain ⟨-, regular, written⟩ := writtenAs_form named stem read
  refine ⟨_, ['('], written, regular, by simp, ?_⟩
  rw [formLexemes, Update.spelledWith]
  refine List.infix_cons (List.infix_append_of_infix_right (List.infix_cons (List.infix_append_of_infix_right ?_)))
  exact List.infix_append_of_infix_left (infix_joinLexemes some_)

/-! ## Forms -/

/-- A form selects, unless it is of an UPDATE that has nothing to be joined with. -/
theorem selects_of_ofText (named : IsBareWord derived.name) (stem : IsBareWord derived.columnStem) {sql : Text}
    {bulk : BulkStatement} (formed : ofText derived kind sql = .ok bulk)
    (selecting : 1 ≤ bulk.parameterCount ∨ kind ≠ .update) : Selects bulk.sql := by
  cases parsed : Statement.parse kind sql with
  | error error =>
    rw [ofText_of_unparsed derived parsed] at formed
    cases formed
  | ok statement =>
    rw [ofText, parsed] at formed
    dsimp only at formed
    by_cases joins : kind = .update
    · subst joins
      obtain ⟨same, -, -, rest, spells, -⟩ := Statement.spells_of_parse parsed
      cases statement with
      | insert | upsert => cases same
      | update update =>
        rw [ofStatement, ofUpdate_eq] at formed
        cases formed
        have positive := selecting.resolve_right (not_not_intro rfl)
        exact selects_update named stem spells.allRead (Nat.pos_iff_ne_zero.mp positive)
    · obtain ⟨row, conflict?, rest, built, -, -, fits, spells⟩ := Statement.row_of_parse joins parsed
      rw [ofStatement_eq built, ofRow_eq fits] at formed
      cases formed
      exact selects_row spells.allRead

/-- A bulk form is final. With names that settings may have, the form of a statement with a parameter, and of every
INSERT and UPSERT, is refused by the grammar of each kind, so it has no bulk form under any settings. -/
theorem form_is_final (named : Setting.name? derived.name = some derived.name)
    (stem : Setting.name? derived.columnStem = some derived.columnStem) {sql : Text} {bulk : BulkStatement}
    (formed : ofText derived kind sql = .ok bulk) (selecting : 1 ≤ bulk.parameterCount ∨ kind ≠ .update)
    (other : StatementKind) :
    (∃ error, Statement.parse other bulk.sql = .error error) ∧
      ∀ derived', qualifies derived' other bulk.sql = false := by
  have selects := selects_of_ofText (isBareWord_of_name? named) (isBareWord_of_name? stem) formed selecting
  cases parsed : Statement.parse other bulk.sql with
  | error error =>
    refine ⟨⟨error, rfl⟩, fun derived' => ?_⟩
    rw [qualifies, ofText_of_unparsed derived' parsed]
    rfl
  | ok statement => exact absurd parsed (Statement.parse_ne_ok_of_selects selects other statement)

/-- Joined or selected, with a cast to a type named like the word that tells them, and under a reserved alias. -/
theorem form_is_final_selected_type :
    (∃ bulk, ofText { name := "select" } .update "update t set a = ?::select where b = 'select'" = .ok bulk ∧
      ∀ other, (∃ error, Statement.parse other bulk.sql = .error error) ∧
        ∀ derived', qualifies derived' other bulk.sql = false) ∧
    ∃ bulk, ofText {} .upsert "upsert into t (a) values (1::select)" = .ok bulk ∧ bulk.parameterCount = 0 ∧
      ∀ other, (∃ error, Statement.parse other bulk.sql = .error error) ∧
        ∀ derived', qualifies derived' other bulk.sql = false := by
  have checked : (match ofText { name := "select" } .update "update t set a = ?::select where b = 'select'",
        ofText {} .upsert "upsert into t (a) values (1::select)" with
      | .ok updated, .ok inserted => updated.parameterCount == 1 && inserted.parameterCount == 0
      | _, _ => false) = true := by decide +kernel
  split at checked
  · next updated inserted formed formed' =>
    rw [Bool.and_eq_true, beq_iff_eq, beq_iff_eq] at checked
    obtain ⟨one, none_⟩ := checked
    refine ⟨⟨updated, formed, fun other => ?_⟩, inserted, formed', none_, fun other => ?_⟩
    · exact form_is_final (by decide) (by decide) formed (.inl (Nat.le_of_eq one.symm)) other
    · exact form_is_final (by decide) (by decide) formed' (.inr (by decide)) other
  · cases checked

end Bulk

end BulkSql
