import BulkSql.Bulk.Form
import BulkSql.Proofs.Bulk.Rendering
import BulkSql.Proofs.Syntax.Parsing

/-! # The bulk form of an UPDATE

The form is the text of the same UPDATE with parameters and bare columns replaced, joined with the derived table where
there are parameters. Without the join it is read back as this UPDATE.
-/

namespace BulkSql

/-! ## Texts -/

namespace SetClause

def text (clause : SetClause) : Text := clause.column ++ " = " ++ clause.value.text

/-- Clauses with leaves replaced, behind a number of other parameters. -/
def replaceAll (replacement : Replacement) : List SetClause → Nat → List SetClause
  | [], _ => []
  | clause :: clauses, n =>
    { clause with value := clause.value.replace replacement n } ::
      replaceAll replacement clauses (n + clause.value.placeholders)

theorem forall_mem_replaceAll {replacement : Replacement} {good : SetClause → Prop} {clauses : List SetClause}
    (each : ∀ clause ∈ clauses, ∀ n, good { clause with value := clause.value.replace replacement n }) (n : Nat) :
    ∀ clause ∈ replaceAll replacement clauses n, good clause := by
  induction clauses generalizing n with
  | nil => simp [replaceAll]
  | cons first more ih =>
    rw [replaceAll]
    exact List.forall_mem_cons.mpr ⟨each first (List.mem_cons_self ..) n,
      ih (fun other member => each other (List.mem_cons_of_mem _ member)) _⟩

theorem replaceAll_replaceAll {replacement : Replacement}
    (settled : ∀ tree : Expr, tree.placeholders = 0 → ∀ n m,
      (tree.replace replacement n).replace replacement m = tree.replace replacement n)
    {clauses : List SetClause} (closed : (clauses.map fun clause => clause.value.placeholders).sum = 0) (n m : Nat) :
    replaceAll replacement (replaceAll replacement clauses n) m = replaceAll replacement clauses n := by
  induction clauses generalizing n m with
  | nil => rfl
  | cons first more ih =>
    rw [List.map_cons, List.sum_cons, Nat.add_eq_zero_iff] at closed
    simp only [replaceAll, settled first.value closed.1, ih closed.2]

theorem placeholders_replaceAll {replacement : Replacement} {each : Nat}
    (counts : ∀ tree n, (Expr.replace replacement tree n).placeholders = each * tree.placeholders)
    (clauses : List SetClause) (n : Nat) :
    ((replaceAll replacement clauses n).map fun clause => clause.value.placeholders).sum =
      each * (clauses.map fun clause => clause.value.placeholders).sum := by
  induction clauses generalizing n with
  | nil => rfl
  | cons first more ih => simp only [replaceAll, List.map_cons, List.sum_cons, counts, ih, Nat.mul_add]

theorem replaceAll_ne_nil {replacement : Replacement} {clauses : List SetClause} (some_ : clauses ≠ []) (n : Nat) :
    replaceAll replacement clauses n ≠ [] := by
  cases clauses with
  | nil => exact absurd rfl some_
  | cons first more => simp [replaceAll]

/-- The lexemes of a clause, with columns in its value spelled in a way of their own. -/
def spelled (column : ColumnRef → List Lexeme) (clause : SetClause) : List Lexeme :=
  .name clause.column :: .symbol ['='] :: clause.value.spelled column

/-- The parameters of clauses. -/
def placeholdersOfAll (clauses : List SetClause) : Nat := (clauses.map fun clause => clause.value.placeholders).sum

end SetClause

namespace Update

/-- The UPDATE on one line, with a join in its place. -/
def textWith (join : Text) (update : Update) : Text :=
  "UPDATE " ++ update.table.text ++ " SET " ++ Text.commaList (update.assignments.map SetClause.text) ++ join ++
    " WHERE " ++ update.condition.text

def placeholders (update : Update) : Nat :=
  SetClause.placeholdersOfAll update.assignments + update.condition.placeholders

/-- The UPDATE with its leaves replaced, parameters counted from the first assignment to the condition. -/
def replace (replacement : Replacement) (update : Update) : Update where
  table := update.table
  assignments := SetClause.replaceAll replacement update.assignments 0
  condition := update.condition.replace replacement (SetClause.placeholdersOfAll update.assignments)

variable {update : Update}

/-- The lexemes of an UPDATE with a join in its place, and columns in values spelled in a way of their own. -/
def spelledWith (column : ColumnRef → List Lexeme) (join : List Lexeme) (update : Update) : List Lexeme :=
  .keyword .UPDATE :: (Lexeme.dotted update.table.schema? update.table.table ++
    .keyword .SET :: (Lexeme.commaList (update.assignments.map (SetClause.spelled column)) ++
      (join ++ .keyword .WHERE :: update.condition.spelled column)))

theorem spelledWith_dotted (update : Update) :
    update.spelledWith (fun reference => Lexeme.dotted reference.qualifier? reference.name) [] = update.lexemes := by
  have clauses : SetClause.spelled (fun reference => Lexeme.dotted reference.qualifier? reference.name) =
      SetClause.lexemes := by
    funext clause
    rw [SetClause.spelled, SetClause.lexemes, Expr.spelled_dotted]
  rw [spelledWith, lexemes, clauses, Expr.spelled_dotted, List.nil_append]

/-- An UPDATE is written for lexemes that can be read, if its columns and its join are. -/
theorem writtenAs_spelledWith {column : ColumnRef → List Lexeme}
    (columns : ∀ reference, AllRead (column reference) → WrittenAs (column reference) reference.text)
    {join : List Lexeme} {joinText : Text}
    (joined : join = [] ∧ joinText = [] ∨ ∃ text, joinText = ' ' :: text ∧ WrittenAs join text)
    (read : AllRead (update.spelledWith column join)) :
    WrittenAs (update.spelledWith column join) (update.textWith joinText) := by
  simp only [spelledWith, allRead_cons, allRead_append, Lexeme.allRead_commaList, List.forall_mem_map] at read
  obtain ⟨-, table, -, clauses, -, -, condition⟩ := read
  have equals : WrittenAs [.symbol ['=']] ['='] := writtenAs_symbol fun after _ => by simp [StartsBare, isSpace]
  have assigned (clause : SetClause) (member : clause ∈ update.assignments) :
      WrittenAs (clause.spelled column) clause.text := by
    have read := clauses clause member
    simp only [SetClause.spelled, allRead_cons] at read
    have named : WrittenAs [.name clause.column] clause.column := writtenAs_lexeme read.1 fun _ => nofun
    simpa [SetClause.spelled, SetClause.text] using
      (named.spaced equals).spaced (Expr.writtenAs_spelled columns clause.value read.2.2)
  have assignments := writtenAs_commaList assigned
  have filter := (writtenAs_keyword .WHERE).spaced (Expr.writtenAs_spelled columns update.condition condition)
  have behind : WrittenAs (Lexeme.commaList (update.assignments.map (SetClause.spelled column)) ++
      (join ++ .keyword .WHERE :: update.condition.spelled column))
      (Text.commaList (update.assignments.map SetClause.text) ++ joinText ++ ' ' :: (Keyword.WHERE.word ++ ' ' ::
        update.condition.text)) := by
    rcases joined with ⟨rfl, rfl⟩ | ⟨text, rfl, written⟩
    · rw [List.append_nil]
      exact assignments.spaced filter
    · rw [List.append_assoc]
      exact assignments.spaced (written.spaced filter)
  have whole := (writtenAs_keyword .UPDATE).spaced ((writtenAs_dotted table).spaced ((writtenAs_keyword .SET).spaced behind))
  have verb (after : Text) : ("UPDATE " : Text) ++ after = Keyword.UPDATE.word ++ ' ' :: after := rfl
  have set (after : Text) : (" SET " : Text) ++ after = ' ' :: (Keyword.SET.word ++ ' ' :: after) := rfl
  have wanted (after : Text) : (" WHERE " : Text) ++ after = ' ' :: (Keyword.WHERE.word ++ ' ' :: after) := rfl
  delta textWith
  rw [List.append_assoc, List.append_assoc, List.append_assoc, List.append_assoc, verb, set, List.append_assoc, wanted,
    ← List.append_assoc (Text.commaList _)]
  exact whole

/-- An UPDATE whose lexemes can be read is written for them. -/
theorem writtenAs (read : AllRead update.lexemes) : WrittenAs update.lexemes (update.textWith []) := by
  rw [← update.spelledWith_dotted] at read ⊢
  exact writtenAs_spelledWith (fun _ => writtenAs_dotted) (.inl ⟨rfl, rfl⟩) read

theorem Shaped.replace (shaped : update.Shaped) {replacement : Replacement} (primary : replacement.IsPrimary) :
    (update.replace replacement).Shaped where
  assigned := SetClause.replaceAll_ne_nil shaped.assigned 0
  values := SetClause.forall_mem_replaceAll (fun clause member => primary.shaped_replace (shaped.values clause member)) 0
  condition := primary.shaped_replace shaped.condition _

theorem allRead_replace {replacement : Replacement}
    (placeholder : ∀ n, AllRead (replacement.placeholder n).lexemes)
    (column : ∀ reference, AllRead (Expr.column reference).lexemes → AllRead (replacement.column reference).lexemes)
    (read : AllRead update.lexemes) : AllRead (update.replace replacement).lexemes := by
  simp only [lexemes, allRead_cons, allRead_append, Lexeme.allRead_commaList, List.forall_mem_map] at read ⊢
  obtain ⟨verb, table, set, clauses, wanted, condition⟩ := read
  refine ⟨verb, table, set, SetClause.forall_mem_replaceAll (fun clause member n => ?_) 0, wanted, ?_⟩
  · have read := clauses clause member
    simp only [SetClause.lexemes, allRead_cons] at read ⊢
    exact ⟨read.1, read.2.1, Replacement.allRead_replace placeholder column read.2.2 n⟩
  · exact Replacement.allRead_replace placeholder column condition _

end Update

namespace Bulk

open Reader

/-- Parameters as columns of the derived table, bare columns as columns of the updated table. -/
def joined (derived : DerivedTable) (table : TableRef) : Replacement where
  placeholder number := .column { qualifier? := some derived.name, name := derived.column number }
  column column := .column { column with qualifier? := some (column.qualifier?.getD table.text) }

variable {derived : DerivedTable} {table : TableRef}

theorem joined_isPrimary : (joined derived table).IsPrimary where
  placeholder _ := ⟨.column _, rfl⟩
  column _ := ⟨.column _, rfl⟩

theorem updateStyle_writes : (updateStyle derived table).Writes (joined derived table) where
  operands _ := nofun
  placeholder _ := rfl
  column column := by
    obtain ⟨qualifier?, name⟩ := column
    cases qualifier? <;> rfl

/-! ## The walk -/

section Walk

variable {style : LeafStyle} {replacement : Replacement} (writes : style.Writes replacement)

include writes

theorem visitAssignment_eq (clause : SetClause) (state : WalkState) :
    visitAssignment style clause state =
      (.ok { clause with value := clause.value.replace replacement state.parameters }.text,
        state.extended [] clause.value.placeholders) := by
  have named : Walk.push (.name clause.column) state = (.ok (), state.extended [.name clause.column] 0) := rfl
  have value := Expr.isOperand_fragment writes.operands clause.value state.parameters
  apply (bind_of_ok named _).trans
  apply (bind_of_ok (Walk.visit_eq writes.operands clause.value _) _).trans
  apply (bind_of_ok (Walk.onStack_popOperand "set_clause" value _ _) _).trans
  rw [writes.operand_fragment]
  rfl

theorem visitAssignments_eq (clauses : List SetClause) (state : WalkState) :
    visitAssignments style clauses state =
      (.ok ((SetClause.replaceAll replacement clauses state.parameters).map SetClause.text),
        state.extended [] (SetClause.placeholdersOfAll clauses)) := by
  induction clauses generalizing state with
  | nil => rfl
  | cons clause clauses ih =>
    rw [visitAssignments, bind_of_ok (visitAssignment_eq writes clause state), bind_of_ok (ih _)]
    simp only [WalkState.extended, SetClause.placeholdersOfAll, List.map_cons, List.sum_cons, Nat.add_assoc]
    rfl

theorem visitUpdate_eq (update : Update) :
    visitUpdate style update {} =
      (.ok ((update.replace replacement).assignments.map SetClause.text, (update.replace replacement).condition.text),
        { parameters := update.placeholders }) := by
  have condition := Expr.isOperand_fragment writes.operands update.condition
  apply (bind_of_ok (visitAssignments_eq writes update.assignments {}) _).trans
  apply (bind_of_ok (Walk.visit_eq writes.operands update.condition _) _).trans
  apply (bind_of_ok (Walk.onStack_popOperand "where" (condition _) _ _) _).trans
  rw [writes.operand_fragment]
  simp only [WalkState.extended, Nat.zero_add]
  rfl

end Walk

theorem ofUpdate_eq (update : Update) :
    ofUpdate derived update =
      .ok {
        sql := (update.replace (joined derived update.table)).textWith (joinText derived update.placeholders)
        parameterCount := update.placeholders } := by
  rw [ofUpdate, visitUpdate_eq updateStyle_writes]
  rfl

/-- Every text that is read as an UPDATE has a form. -/
theorem ofText_of_parse {sql : Text} {update : Update} (parsed : Statement.parse .update sql = .ok (.update update)) :
    ofText derived .update sql =
      .ok {
        sql := (update.replace (joined derived update.table)).textWith (joinText derived update.placeholders)
        parameterCount := update.placeholders } := by
  rw [ofText, parsed]
  dsimp only [ofStatement]
  rw [ofUpdate_eq]

/-! ## Reading the form back -/

theorem joined_settled (reference : ColumnRef) (n : Nat) :
    ((joined derived table).column reference).replace (joined derived table) n =
      (joined derived table).column reference :=
  rfl

theorem allRead_joined (named : IsBareWord derived.name) (free : isReserved derived.name = false)
    (stem : IsBareWord derived.columnStem) (n : Nat) : AllRead ((joined derived table).placeholder n).lexemes := by
  have isAlias := identifier_of_isBareWord named free
  have column := identifier_of_isBareWord (isBareWord_numbered stem n) (isReserved_numbered derived.columnStem n)
  refine allRead_cons.mpr ⟨⟨_, _, isAlias⟩, allRead_cons.mpr ⟨isRead_symbol _, allRead_cons.mpr ⟨⟨_, _, column⟩, ?_⟩⟩⟩
  exact allRead_nil

theorem allRead_qualified (bare : table.schema? = none) (read : AllRead (Lexeme.dotted table.schema? table.table))
    (reference : ColumnRef) (readColumn : AllRead (Expr.column reference).lexemes) :
    AllRead ((joined derived table).column reference).lexemes := by
  obtain ⟨schema?, name⟩ := table
  obtain rfl : schema? = none := bare
  obtain ⟨qualifier?, column⟩ := reference
  cases qualifier? with
  | some qualifier => exact readColumn
  | none =>
    have first := (allRead_cons.mp read).1
    have last := (allRead_cons.mp readColumn).1
    exact allRead_cons.mpr ⟨first, allRead_cons.mpr ⟨isRead_symbol _, allRead_cons.mpr ⟨last, allRead_nil⟩⟩⟩

/-- Without the join, the form is read as the UPDATE with its leaves replaced. -/
theorem parse_joined (named : IsBareWord derived.name) (free : isReserved derived.name = false)
    (stem : IsBareWord derived.columnStem) {update : Update} (bare : update.table.schema? = none)
    (shaped : update.Shaped)
    (read : AllRead update.lexemes) :
    Statement.parse .update ((update.replace (joined derived update.table)).textWith []) =
      .ok (.update (update.replace (joined derived update.table))) := by
  have table : AllRead (Lexeme.dotted update.table.schema? update.table.table) := by
    simp only [Update.lexemes, allRead_cons, allRead_append] at read
    exact read.2.1
  have replaced := Update.allRead_replace (allRead_joined named free stem) (allRead_qualified bare table) read
  have written := Update.writtenAs replaced [] ends_nil
  rw [List.append_nil, skipLayout_nil] at written
  exact Statement.parse_of_update (shaped.replace joined_isPrimary) written (.inl rfl)

theorem placeholders_joined (update : Update) : (update.replace (joined derived table)).placeholders = 0 := by
  have each (tree : Expr) (n : Nat) : (tree.replace (joined derived table) n).placeholders = 0 * tree.placeholders :=
    Replacement.placeholders_replace (fun _ => rfl) (fun _ => rfl) tree n
  rw [Update.placeholders, Update.replace, SetClause.placeholdersOfAll, SetClause.placeholders_replaceAll each, each,
    Nat.zero_mul, Nat.zero_mul]

theorem joined_replace {update : Update} (closed : update.placeholders = 0) :
    (update.replace (joined derived table)).replace (joined derived table) = update.replace (joined derived table) := by
  obtain ⟨clauses, condition⟩ := Nat.add_eq_zero_iff.mp closed
  have settled (tree : Expr) (none_ : tree.placeholders = 0) (n m : Nat) :
      (tree.replace (joined derived table) n).replace (joined derived table) m = tree.replace (joined derived table) n :=
    Replacement.replace_replace joined_settled none_ n m
  unfold Update.replace
  rw [SetClause.replaceAll_replaceAll settled clauses, settled update.condition condition]

/-- The bulk form of an UPDATE without a schema is the UPDATE with each parameter as a column of the derived table and
each bare column as one of the updated table, joined with the derived table exactly if there is a parameter. Without
the join it is read as just this UPDATE, and a form without parameters is its own form. -/
theorem update_form (named : IsBareWord derived.name) (free : isReserved derived.name = false)
    (stem : IsBareWord derived.columnStem) {sql : Text} {update : Update}
    (parsed : Statement.parse .update sql = .ok (.update update)) (bare : update.table.schema? = none) :
    let replaced := update.replace (joined derived update.table)
    let n := update.placeholders
    let columns := (List.range n).map fun i => "unnest(?) AS " ++ derived.columnStem ++ Text.ofNat (i + 1)
    let join : Text := if n = 0 then [] else " FROM (SELECT " ++ Text.commaList columns ++ ") AS " ++ derived.name
    ofText derived .update sql = .ok { sql := replaced.textWith join, parameterCount := n } ∧
      Statement.parse .update (replaced.textWith []) = .ok (.update replaced) ∧
      (n = 0 → ofText derived .update (replaced.textWith []) = .ok { sql := replaced.textWith [], parameterCount := 0 }) := by
  intro replaced n columns join
  obtain ⟨found, rest, same, shaped, spells⟩ := Statement.update_of_parse parsed
  cases same
  have back := parse_joined named free stem bare shaped spells.allRead
  refine ⟨?_, back, fun closed => ?_⟩
  · rw [ofText, parsed]
    dsimp only [ofStatement]
    rw [ofUpdate_eq]
    rfl
  · rw [ofText, back]
    dsimp only [ofStatement]
    rw [ofUpdate_eq, placeholders_joined]
    have settled : replaced.replace (joined derived update.table) = replaced := joined_replace closed
    exact congrArg (fun update : Update => Except.ok (BulkStatement.mk (update.textWith []) 0)) settled

/-- An UPDATE with two parameters, in the default names. -/
theorem update_form_two_parameters :
    ∃ update, Statement.parse .update "update t set a = a + ? where b is not null and c = ?" = .ok (.update update) ∧
      update.placeholders = 2 ∧
      Statement.parse .update ((update.replace (joined {} update.table)).textWith []) =
        .ok (.update (update.replace (joined {} update.table))) := by
  have isAlias : IsBareWord (DerivedTable.name {}) := ⟨'d', ['t'], rfl, rfl, List.all_eq_true.mp rfl⟩
  have stem : IsBareWord (DerivedTable.columnStem {}) := ⟨'p', [], rfl, rfl, nofun⟩
  have checked : (match Statement.parse .update "update t set a = a + ? where b is not null and c = ?" with
      | .ok (.update update) => update.table.schema?.isNone && update.placeholders == 2
      | _ => false) = true := by decide +kernel
  split at checked
  · next update parsed =>
    rw [Bool.and_eq_true, Option.isNone_iff_eq_none, beq_iff_eq] at checked
    exact ⟨update, parsed, checked.2, (update_form isAlias (by decide) stem parsed checked.1).2.1⟩
  · cases checked

end Bulk

end BulkSql
