import BulkSql.Proofs.Bulk.JoinedText
import BulkSql.Proofs.Bulk.RowForm

/-! # No statement is its own bulk form

A row statement goes on with VALUES where its form goes on with SELECT. The form of an UPDATE with parameters has all
the lexemes of the UPDATE, or more in their places, and those of the join besides. Both are told from the text alone.
-/

namespace BulkSql

open Reader Lexeme

namespace Bulk

/-! ## Rows -/

theorem headLexemes_eq_append (verb : Keyword) (row : RowTarget) :
    row.headLexemes verb = frontLexemes verb row ++ [.keyword .VALUES] := by
  simp [RowTarget.headLexemes, frontLexemes]

/-- The text of a row statement up to its values, whichever these are. -/
theorem spells_front {kind : StatementKind} {row : RowTarget} (read : AllRead (frontLexemes (Statement.verb kind) row))
    (values : Text) (conflict? : Option ConflictTarget) :
    Spells (frontLexemes (Statement.verb kind) row) (skipLayout (rowText kind row values conflict?))
      (skipLayout (values ++ clauseText conflict?)) := by
  have spelled := writtenAs_front read (' ' :: (values ++ clauseText conflict?)) (ends_cons (by simp) _)
  rw [skipLayout_of_isSpace rfl] at spelled
  rw [rowText_eq_append, List.append_assoc, List.cons_append]
  exact spelled

theorem row_ne_form {kind : StatementKind} {row : RowTarget} {conflict? : Option ConflictTarget} {sql rest : Text}
    (spells : Spells (row.lexemes (Statement.verb kind) ++ Statement.conflictLexemes conflict?) (skipLayout sql) rest)
    (items : Text) : rowText kind row ("SELECT " ++ items) conflict? ≠ sql := by
  rintro rfl
  have read := spells.allRead
  rw [row.lexemes_eq_append, headLexemes_eq_append] at spells read
  simp only [allRead_append] at read
  simp only [spells_append_iff, spells_singleton_iff] at spells
  obtain ⟨_, ⟨_, ⟨mid, front, values⟩, _⟩, _⟩ := spells
  have same := front.rest_unique (spells_front read.1.1.1 ("SELECT " ++ items) conflict?)
  have bare : StartsBare (("SELECT " ++ items : Text) ++ clauseText conflict?) := by simp [StartsBare, isSpace]
  rw [skipLayout_of_startsBare bare] at same
  subst same
  have word : leadWord (("SELECT " ++ items : Text) ++ clauseText conflict?) = Keyword.SELECT.word := by
    have all : ∀ c ∈ Keyword.SELECT.word, isWordChar c := Keyword.isWordChar_of_lookup? (Keyword.lookup?_word .SELECT)
    exact leadWord_append all (show Clear isWordChar (' ' :: (items ++ clauseText conflict?)) from clear_cons.mpr rfl)
  have found := (keyword_eq_done_iff.mp values).1
  rw [word, Keyword.lookup?_word] at found
  cases found

/-! ## UPDATE -/

theorem length_lt_form (derived : DerivedTable) {update : Update} (some_ : update.placeholders ≠ 0) :
    update.lexemes.length < (formLexemes derived update).length := by
  obtain ⟨clauses, condition⟩ := leafwise_form derived update
  have assigned := clauses.length_le fun _ _ => IsLeafOf.length_le
  have filter := condition.length_le fun _ _ => IsLeafOf.length_le
  have join : 0 < (joinLexemes derived update.placeholders).length := by
    rw [joinLexemes, if_neg some_]
    exact Nat.succ_pos _
  have table : (update.replace (joined derived update.table)).table = update.table := rfl
  simp only [formLexemes, Update.spelledWith, Update.lexemes, List.length_cons, List.length_append, table]
  omega

theorem update_ne_form {derived : DerivedTable} (named : IsBareWord derived.name)
    (stem : IsBareWord derived.columnStem) {update : Update} {sql rest : Text}
    (spells : Spells update.lexemes (skipLayout sql) rest) (ends : Statement.EndsText rest)
    (some_ : update.placeholders ≠ 0) :
    (update.replace (joined derived update.table)).textWith (joinText derived update.placeholders) ≠ sql := by
  rintro rfl
  obtain ⟨-, regular, written⟩ := writtenAs_form named stem spells.allRead
  have whole := written [] ends_nil
  rw [List.append_nil, skipLayout_nil] at whole
  obtain ⟨front, back, same, alike, regular', more⟩ :=
    update.regular_lexemes.alike regular spells whole ends.head?_ne_bracket
  rw [eq_nil_of_endsText regular' ends more, List.append_nil] at same
  have lengths := alike.length_eq
  rw [← same] at lengths
  exact absurd lengths (Nat.ne_of_lt (length_lt_form derived some_))

/-- The bulk form of a statement with parameters, in names that settings may have, is another text than its own. -/
theorem form_ne {derived : DerivedTable} (named : IsBareWord derived.name) (stem : IsBareWord derived.columnStem)
    {kind : StatementKind} {sql : Text} {bulk : BulkStatement} (form : ofText derived kind sql = .ok bulk)
    (some_ : bulk.parameterCount ≠ 0) : bulk.sql ≠ sql := by
  unfold ofText at form
  cases parsed : Statement.parse kind sql with
  | error error => rw [parsed] at form; cases form
  | ok statement =>
    rw [parsed] at form
    dsimp only at form
    by_cases hasRow : kind = .update
    · subst hasRow
      obtain ⟨same, shaped, -, rest, spells, ends⟩ := Statement.spells_of_parse parsed
      cases statement with
      | insert | upsert => cases same
      | update update =>
        rw [ofStatement, ofUpdate_eq] at form
        cases form
        exact update_ne_form named stem spells ends some_
    · obtain ⟨row, conflict?, rest, built, -, -, fits, spells⟩ := Statement.row_of_parse hasRow parsed
      rw [ofStatement_eq built, ofRow_eq fits] at form
      cases form
      exact row_ne_form spells _

end Bulk

end BulkSql
