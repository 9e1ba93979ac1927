import BulkSql.Proofs.Bulk.Leafwise
import BulkSql.Proofs.Syntax.Forms

/-! # The bulk form of an UPDATE as lexemes

The text of the form, with its join, spells the UPDATE with columns of the derived table in place of parameters. A
column that is bare in the UPDATE stands behind its table and the schema of the table, so it may have three names, which
the grammar itself never reads as one column.
-/

namespace BulkSql

open Reader Lexeme

namespace Bulk

/-! ## Columns -/

/-- A word as a lexeme, also where it is reserved. -/
def wordLexeme (word : Text) : Lexeme := if isReserved word then .type word else .name word

/-- A column as lexemes, with the table in front of it as two names if it has a schema. -/
def spelledColumn (table : TableRef) (reference : ColumnRef) : List Lexeme :=
  match reference.qualifier? with
  | none => [.name reference.name]
  | some qualifier =>
    (if qualifier = table.text then Lexeme.dotted table.schema? table.table else [wordLexeme qualifier]) ++
      [.symbol ['.'], .name reference.name]

variable {table : TableRef} {reference : ColumnRef} {word : Text}

theorem wordLexeme_text (word : Text) : (wordLexeme word).text = word := by
  unfold wordLexeme
  split <;> rfl

theorem wordLexeme_wordy (symbol : Text) : wordLexeme word ≠ .symbol symbol := by
  unfold wordLexeme
  split <;> simp

theorem wordLexeme_goesOn : (wordLexeme word).goesOn '.' = false := by
  unfold wordLexeme
  split <;> rfl

theorem wordLexeme_isPlaceholder : (wordLexeme word).isPlaceholder = false := by
  unfold wordLexeme
  split <;> rfl

theorem wordLexeme_of_isName (isName : IsName word) : wordLexeme word = .name word := by
  unfold wordLexeme
  rcases isName with ⟨-, free⟩ | ⟨inside, rfl⟩
  · rw [free, if_neg Bool.false_ne_true]
  · rw [if_neg]
    intro reserved
    obtain ⟨keyword, found⟩ := Option.isSome_iff_exists.mp reserved
    exact absurd (Keyword.isAlpha_of_lookup? found '"' (List.mem_cons_self ..)) (by decide)

theorem isRead_wordLexeme (bare : IsBareWord word) : (wordLexeme word).IsRead := by
  unfold wordLexeme
  split
  · exact isRead_iff_hasForm.mpr ⟨word, .inl bare, .inl rfl⟩
  · next free => exact isRead_iff_hasForm.mpr (.inl ⟨bare, Bool.eq_false_iff.mpr free⟩)

theorem writtenAs_spelledColumn (read : AllRead (spelledColumn table reference)) :
    WrittenAs (spelledColumn table reference) reference.text := by
  obtain ⟨qualifier?, name⟩ := reference
  cases qualifier? with
  | none => exact writtenAs_lexeme (allRead_cons.mp read).1 (by simp)
  | some qualifier =>
    unfold spelledColumn at read ⊢
    dsimp only at read ⊢
    rw [allRead_append, allRead_cons, allRead_cons] at read
    obtain ⟨first, -, named, -⟩ := read
    have last : WrittenAs [.name name] name := writtenAs_lexeme named (by simp)
    split at first
    · next same =>
      rw [if_pos same, same]
      obtain ⟨schema?, table⟩ := table
      cases schema? with
      | none => exact last.qualified (allRead_cons.mp first).1 (by simp) rfl
      | some schema =>
        simp only [Lexeme.dotted, allRead_cons] at first
        have behind := last.qualified first.2.2.1 (by simp) rfl
        have whole := behind.qualified first.1 (by simp) rfl
        simpa [ColumnRef.text, TableRef.text, BulkSql.dotted, Lexeme.dotted, Lexeme.text] using whole
    · next other =>
      rw [if_neg other]
      have whole := last.qualified (allRead_cons.mp first).1 wordLexeme_wordy wordLexeme_goesOn
      rw [wordLexeme_text] at whole
      exact whole

theorem regular_spelledColumn : Regular (spelledColumn table reference) := by
  unfold spelledColumn
  split
  · exact .name _ .nil
  · refine Regular.append ?_ (.dot _ .nil)
    split
    · exact .dotted _ _
    · exact .wordy wordLexeme_wordy .nil

theorem placeholders_spelledColumn : placeholders (spelledColumn table reference) = 0 := by
  unfold spelledColumn
  split
  · rfl
  · rw [placeholders_append]
    split
    · rw [placeholders_dotted]
      rfl
    · rw [placeholders_cons, wordLexeme_isPlaceholder]
      rfl

/-! ## The join -/

/-- One element of an array, under the name of its column. -/
def elementLexemes (column : Text) : List Lexeme :=
  .name "unnest" :: Lexeme.parenthesized [.placeholder] ++ [.keyword .AS, .name column]

def joinLexemes (derived : DerivedTable) (parameters : Nat) : List Lexeme :=
  if parameters = 0 then []
  else
    .keyword .FROM :: (Lexeme.parenthesized (.keyword .SELECT ::
      Lexeme.commaList ((List.range parameters).map fun i => elementLexemes (derived.column (i + 1)))) ++
        [.keyword .AS, wordLexeme derived.name])

variable {derived : DerivedTable} (named : IsBareWord derived.name) (stem : IsBareWord derived.columnStem)

theorem isRead_unnest : (Lexeme.name "unnest").IsRead := by
  have isWord : IsBareWord "unnest" := ⟨'u', ['n', 'n', 'e', 's', 't'], rfl, rfl, List.all_eq_true.mp rfl⟩
  exact isRead_iff_hasForm.mpr (.inl ⟨isWord, by decide⟩)

include stem in
theorem isRead_column (number : Nat) : (Lexeme.name (derived.column number)).IsRead :=
  isRead_iff_hasForm.mpr (.inl ⟨isBareWord_numbered stem number, isReserved_numbered derived.columnStem number⟩)

theorem regular_joinLexemes (parameters : Nat) : Regular (joinLexemes derived parameters) := by
  unfold joinLexemes
  split
  · exact .nil
  · have elements : Regular (Lexeme.commaList ((List.range parameters).map fun i =>
        elementLexemes (derived.column (i + 1)))) := by
      refine .commaList (List.forall_mem_map.mpr fun i _ => .name _ ?_)
      exact (Regular.parenthesized (.wordy (by simp) .nil)).append (.keyword .AS (.name _ .nil))
    exact .keyword .FROM ((Regular.parenthesized (.keyword .SELECT elements)).append
      (.keyword .AS (.wordy wordLexeme_wordy .nil)))

include named stem in
theorem allRead_joinLexemes (parameters : Nat) : AllRead (joinLexemes derived parameters) := by
  unfold joinLexemes
  split
  · exact allRead_nil
  · have elements (i : Nat) : AllRead (elementLexemes (derived.column (i + 1))) := by
      refine allRead_append.mpr ⟨allRead_cons.mpr ⟨isRead_unnest, ?_⟩, ?_⟩
      · exact allRead_parenthesized.mpr (allRead_cons.mpr ⟨isRead_placeholder, allRead_nil⟩)
      · exact allRead_cons.mpr ⟨isRead_keyword .AS, allRead_cons.mpr ⟨isRead_column stem (i + 1), allRead_nil⟩⟩
    simp [isRead_wordLexeme named, elements]

include named stem in
/-- The join is written for its lexemes, behind a space. -/
theorem writtenAs_join (parameters : Nat) :
    joinLexemes derived parameters = [] ∧ joinText derived parameters = [] ∨
      ∃ text, joinText derived parameters = ' ' :: text ∧ WrittenAs (joinLexemes derived parameters) text := by
  unfold joinLexemes joinText
  split
  · exact .inl ⟨rfl, rfl⟩
  · have element (i : Nat) (_ : i ∈ List.range parameters) : WrittenAs (elementLexemes (derived.column (i + 1)))
        ("unnest(?) AS " ++ derived.column (i + 1)) := by
      have open_ : WrittenAs [.placeholder] ['?'] := writtenAs_lexeme isRead_placeholder (by simp)
      have column := writtenAs_lexeme (isRead_column stem (i + 1)) (by simp)
      have split : ("unnest(?) AS " : Text) ++ derived.column (i + 1) =
          "unnest" ++ ("(" ++ ['?'] ++ ")") ++ ' ' :: (Keyword.AS.word ++ ' ' :: derived.column (i + 1)) := rfl
      rw [split]
      exact (Expr.writtenAs_call isRead_unnest open_).spaced ((writtenAs_keyword .AS).spaced column)
    have list := ((writtenAs_keyword .SELECT).spaced (writtenAs_commaList element)).parenthesized
    have alias_ := writtenAs_lexeme (isRead_wordLexeme named) wordLexeme_wordy
    rw [wordLexeme_text] at alias_
    have whole := (writtenAs_keyword .FROM).spaced (list.spaced ((writtenAs_keyword .AS).spaced alias_))
    have opened (after : Text) : (" FROM (SELECT " : Text) ++ after =
        ' ' :: (Keyword.FROM.word ++ ' ' :: ("(" ++ (Keyword.SELECT.word ++ ' ' :: after))) := rfl
    have closed (after : Text) : (") AS " : Text) ++ after = ")" ++ ' ' :: (Keyword.AS.word ++ ' ' :: after) := rfl
    refine .inr ⟨_, ?_, whole⟩
    rw [List.append_assoc, List.append_assoc, opened, closed, List.append_assoc, List.append_assoc, List.append_assoc,
      List.cons_append]

/-! ## The whole form -/

omit named stem

/-- The bulk form of an UPDATE as lexemes. -/
def formLexemes (derived : DerivedTable) (update : Update) : List Lexeme :=
  (update.replace (joined derived update.table)).spelledWith (spelledColumn update.table)
    (joinLexemes derived update.placeholders)

/-- What the form has in place of a parameter, and in place of a column that has its own spelling in the UPDATE. -/
inductive IsLeaf (derived : DerivedTable) (table : TableRef) (own : ColumnRef → Prop)
    (spelling : ColumnRef → List Lexeme) : List Lexeme → List Lexeme → Prop where
  | placeholder (number : Nat) :
    IsLeaf derived table own spelling
      (spelledColumn table { qualifier? := some derived.name, name := derived.column number }) [.placeholder]
  | column {reference : ColumnRef} (isOwn : own reference) :
    IsLeaf derived table own spelling
      (spelledColumn table { reference with qualifier? := some (reference.qualifier?.getD table.text) })
      (spelling reference)

variable {own : ColumnRef → Prop} {spelling : ColumnRef → List Lexeme} {written other : List Lexeme}

theorem IsLeaf.regular (leaf : IsLeaf derived table own spelling written other) : Regular written := by
  cases leaf <;> exact regular_spelledColumn

theorem IsLeaf.placeholders_eq_zero (leaf : IsLeaf derived table own spelling written other) :
    placeholders written = 0 := by
  cases leaf <;> exact placeholders_spelledColumn

/-- Replacing leaves by what they are. -/
def unreplaced : Replacement where
  placeholder _ := .placeholder
  column := .column

theorem replaceAll_unreplaced {trees : List Expr} (each : ∀ tree ∈ trees, ∀ n, tree.replace unreplaced n = tree)
    (n : Nat) : Expr.replaceAll unreplaced trees n = trees := by
  induction trees generalizing n with
  | nil => rfl
  | cons first more ih =>
    obtain ⟨one, others⟩ := List.forall_mem_cons.mp each
    rw [Expr.replaceAll, one, ih others]

theorem replace_unreplaced (tree : Expr) (n : Nat) : tree.replace unreplaced n = tree := by
  induction tree using Expr.induction generalizing n with
  | placeholder | literal | column => rfl
  | call name arguments ih => rw [Expr.replace, replaceAll_unreplaced ih]
  | nested inner ih | cast inner type ih | signed sign inner ih | isNull inner negated ih => rw [Expr.replace, ih]
  | arithmetic op left right ihLeft ihRight | comparison op left right ihLeft ihRight
  | logical op left right ihLeft ihRight => rw [Expr.replace, ihLeft, ihRight]

theorem update_replace_unreplaced (update : Update) : update.replace unreplaced = update := by
  have clauses (clauses : List SetClause) (n : Nat) : SetClause.replaceAll unreplaced clauses n = clauses := by
    induction clauses generalizing n with
    | nil => rfl
    | cons first more ih => rw [SetClause.replaceAll, ih, replace_unreplaced]
  rw [Update.replace, clauses, replace_unreplaced]

/-- A leaf of the form in place of one of the UPDATE itself. -/
abbrev IsLeafOf (derived : DerivedTable) (table : TableRef) : List Lexeme → List Lexeme → Prop :=
  IsLeaf derived table (fun _ => True) fun reference => Lexeme.dotted reference.qualifier? reference.name

theorem IsLeafOf.length_le (leaf : IsLeafOf derived table written other) : other.length ≤ written.length := by
  have three (qualifier name : Text) :
      3 ≤ (spelledColumn table { qualifier? := some qualifier, name }).length := by
    unfold spelledColumn
    obtain ⟨schema?, table⟩ := table
    dsimp only
    split
    · cases schema? <;> simp [Lexeme.dotted]
    · simp
  cases leaf with
  | placeholder number => exact Nat.le_trans (by simp) (three _ _)
  | @column reference =>
    refine Nat.le_trans ?_ (three _ _)
    obtain ⟨qualifier?, name⟩ := reference
    cases qualifier? <;> simp [Lexeme.dotted]

theorem allRead_spelledColumn (readTable : AllRead (Lexeme.dotted table.schema? table.table)) {qualifier name : Text}
    (readQualifier : qualifier ≠ table.text → (wordLexeme qualifier).IsRead) (readName : (Lexeme.name name).IsRead) :
    AllRead (spelledColumn table { qualifier? := some qualifier, name }) := by
  unfold spelledColumn
  refine allRead_append.mpr ⟨?_, allRead_cons.mpr ⟨isRead_symbol _, allRead_cons.mpr ⟨readName, allRead_nil⟩⟩⟩
  split
  · exact readTable
  · next other => exact allRead_cons.mpr ⟨readQualifier other, allRead_nil⟩

include named stem in
theorem IsLeafOf.allRead (readTable : AllRead (Lexeme.dotted table.schema? table.table))
    (leaf : IsLeafOf derived table written other) (read : AllRead other) : AllRead written := by
  cases leaf with
  | placeholder number =>
    exact allRead_spelledColumn readTable (fun _ => isRead_wordLexeme named) (isRead_column stem number)
  | @column reference =>
    obtain ⟨qualifier?, name⟩ := reference
    cases qualifier? with
    | none => exact allRead_spelledColumn readTable (fun foreign => absurd rfl foreign) (allRead_cons.mp read).1
    | some qualifier =>
      simp only [Lexeme.dotted, allRead_cons] at read
      refine allRead_spelledColumn readTable (fun _ => ?_) read.2.2.1
      rw [Option.getD_some, wordLexeme_of_isName (isRead_iff_hasForm.mp read.1)]
      exact read.1

/-- The form has the lexemes of the UPDATE but at its leaves, and the join. -/
theorem leafwise_form (derived : DerivedTable) (update : Update) :
    Leafwise (IsLeafOf derived update.table)
        (Lexeme.commaList ((update.replace (joined derived update.table)).assignments.map
          (SetClause.spelled (spelledColumn update.table))))
        (Lexeme.commaList (update.assignments.map SetClause.lexemes)) ∧
      Leafwise (IsLeafOf derived update.table)
        ((update.replace (joined derived update.table)).condition.spelled (spelledColumn update.table))
        update.condition.lexemes := by
  have both := @Update.leafwise_replace (IsLeafOf derived update.table) (joined derived update.table) unreplaced
    (spelledColumn update.table) (fun number => .placeholder number) update fun _ _ => .column trivial
  rw [update_replace_unreplaced] at both
  exact both

include named stem in
/-- The text of the form spells its lexemes, which are those of the grammar one by one. -/
theorem writtenAs_form {update : Update} (read : AllRead update.lexemes) :
    AllRead (formLexemes derived update) ∧ Regular (formLexemes derived update) ∧
      WrittenAs (formLexemes derived update)
        ((update.replace (joined derived update.table)).textWith (joinText derived update.placeholders)) := by
  obtain ⟨clauses, condition⟩ := leafwise_form derived update
  have regular : Regular (formLexemes derived update) := by
    have filter := Regular.keyword .WHERE (condition.regular fun _ _ => IsLeaf.regular)
    have assigned := clauses.regular fun _ _ => IsLeaf.regular
    exact .keyword .UPDATE ((Regular.dotted _ _).append (.keyword .SET (assigned.append
      ((regular_joinLexemes update.placeholders).append filter))))
  have allRead : AllRead (formLexemes derived update) := by
    simp only [Update.lexemes, allRead_cons, allRead_append] at read
    obtain ⟨verb, table, set, readClauses, wanted, readCondition⟩ := read
    have leaves (written other : List Lexeme) (leaf : IsLeafOf derived update.table written other) :=
      leaf.allRead named stem table
    simp only [formLexemes, Update.spelledWith, allRead_cons, allRead_append]
    exact ⟨verb, table, set, clauses.allRead leaves readClauses, allRead_joinLexemes named stem _, wanted,
      condition.allRead leaves readCondition⟩
  exact ⟨allRead, regular, Update.writtenAs_spelledWith (fun _ => writtenAs_spelledColumn)
    (writtenAs_join named stem update.placeholders) allRead⟩

end Bulk

end BulkSql
