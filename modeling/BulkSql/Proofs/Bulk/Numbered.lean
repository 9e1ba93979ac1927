import BulkSql.Proofs.Bulk.Totality
import BulkSql.Proofs.Numbering.Scanning
import BulkSql.Proofs.Url.Settings

/-! # Numbered bulk forms

A bulk form has placeholders exactly where its arrays stand. Numbering it makes it the same text with each array's
number in place of its placeholder, whatever names, strings and signs the statement has.
-/

namespace BulkSql

open Piece Reader

/-! ## Expressions -/

namespace Renumbers

variable {n m k : Nat} {left left' right right' text numbered : Text}

theorem parenthesized (inside : Renumbers n text numbered m) :
    Renumbers n ("(" ++ (text ++ ")")) ("(" ++ (numbered ++ ")")) m :=
  cons_plain (by decide) (inside.append (plain (by decide) m) (clear_cons.mpr rfl))

/-- A sign set apart from a further sign starts no comment. -/
theorem signed (sign : Sign) (inside : Renumbers n text numbered m) :
    Renumbers n (sign.text ++ Expr.gapBefore text ++ text) (sign.text ++ Expr.gapBefore numbered ++ numbered) m := by
  have gapped : Renumbers n (Expr.gapBefore text ++ text) (Expr.gapBefore numbered ++ numbered) m ∧
      (Expr.gapBefore text ++ text).head? ≠ some '-' := by
    rw [inside.gapBefore_eq]
    cases text with
    | nil => exact ⟨inside, nofun⟩
    | cons c more =>
      rw [gapBefore_cons]
      by_cases isSign : c = '-' ∨ c = '+'
      · rw [if_pos isSign]
        exact ⟨cons_plain (by decide) inside, by simp⟩
      · rw [if_neg isSign]
        exact ⟨inside, fun same => isSign (.inl (Option.some.inj same))⟩
  rw [List.append_assoc, List.append_assoc]
  cases sign with
  | plus => exact cons_plain (by decide) gapped.1
  | minus => exact cons_hyphen gapped.1 gapped.2

/-- An operator that may be written in front of any text behind a space. -/
def IsOperator (op : Text) : Prop :=
  ∀ n text numbered m, Renumbers n text numbered m → Renumbers n (op ++ ' ' :: text) (op ++ ' ' :: numbered) m

theorem IsOperator.plain {op : Text} (plain : isPlain op) : IsOperator op :=
  fun _ _ _ _ inside => append_plain plain (cons_plain (by decide) inside)

theorem isOperator_arithmetic (op : ArithmeticOp) : IsOperator op.text := by
  cases op with
  | add | multiply | modulo => exact IsOperator.plain (by decide)
  | subtract => exact fun _ _ _ _ inside => cons_hyphen (cons_plain (by decide) inside) (by simp)
  | divide => exact fun _ _ _ _ inside => cons_slash inside

theorem infixed {op : Text} (isOperator : IsOperator op) (first : Renumbers n left left' m)
    (second : Renumbers m right right' k) :
    Renumbers n (left ++ " " ++ op ++ " " ++ right) (left' ++ " " ++ op ++ " " ++ right') k := by
  simp only [List.append_assoc]
  exact first.spaced (isOperator _ _ _ _ second)

end Renumbers

/-- A replacement is numbered as another one, with a number of placeholders in front of each parameter. -/
structure Replacement.NumberedAs (first second : Replacement) (count : Nat → Nat) : Prop where
  placeholder : ∀ n,
    Renumbers (count n) (first.placeholder (n + 1)).text (second.placeholder (n + 1)).text (count (n + 1))
  column : ∀ reference, AllRead (Expr.column reference).lexemes → ∀ n,
    Renumbers n (first.column reference).text (second.column reference).text n

namespace Replacement.NumberedAs

variable {first second : Replacement} {count : Nat → Nat}

theorem map_text_replaceAll {trees : List Expr}
    (each : ∀ tree ∈ trees, ∀ n, Renumbers (count n) (tree.replace first n).text (tree.replace second n).text
      (count (n + tree.placeholders))) (n : Nat) :
    RenumbersAll (count n) ((Expr.replaceAll first trees n).map Expr.text)
      ((Expr.replaceAll second trees n).map Expr.text) (count (n + Expr.placeholdersOfAll trees)) := by
  induction trees generalizing n with
  | nil => exact .nil _
  | cons tree trees ih =>
    have more := ih (fun other member => each other (List.mem_cons_of_mem _ member)) (n + tree.placeholders)
    rw [Expr.placeholdersOfAll, ← Nat.add_assoc]
    exact .cons (each tree (List.mem_cons_self ..) n) more

/-- A replaced tree is numbered as its parameters are. -/
theorem replace (numbered : first.NumberedAs second count) {tree : Expr} (read : AllRead tree.lexemes) (n : Nat) :
    Renumbers (count n) (tree.replace first n).text (tree.replace second n).text (count (n + tree.placeholders)) := by
  -- the right operand starts where the left one ends, so the number of parameters in front is general
  induction tree using Expr.induction generalizing n with
  | placeholder => exact numbered.placeholder n
  | literal written => exact .literal (Lexeme.isRead_iff_hasForm.mp (allRead_cons.mp read).1) _
  | column reference => exact numbered.column reference read _
  | call name arguments ih =>
    rw [Expr.lexemes, allRead_cons, Lexeme.allRead_parenthesized, Expr.lexemesOfAll_eq_map, Lexeme.allRead_commaList,
      List.forall_mem_map] at read
    have named := Renumbers.name (Lexeme.isRead_iff_hasForm.mp read.1) (count n)
    have list := (map_text_replaceAll (fun argument member => ih argument member (read.2 argument member)) n).commaList
    simp only [Expr.replace, Expr.text, Expr.textOfAll_eq_map, List.append_assoc]
    exact named.append list.parenthesized (clear_cons.mpr rfl)
  | nested inner ih =>
    rw [Expr.lexemes, Lexeme.allRead_parenthesized] at read
    simp only [Expr.replace, Expr.text, List.append_assoc]
    exact (ih read n).parenthesized
  | cast inner type ih =>
    simp only [Expr.lexemes, allRead_append, allRead_cons] at read
    have typed := Renumbers.type (Lexeme.isRead_iff_hasForm.mp read.2.2.1) (count (n + inner.placeholders))
    have cast := Renumbers.append_plain (show isPlain [':', ':'] by decide) typed
    simp only [Expr.replace, Expr.text, List.append_assoc]
    exact (ih read.1 n).append cast (clear_cons.mpr rfl)
  | signed sign inner ih =>
    rw [Expr.lexemes, allRead_cons] at read
    exact (ih read.2 n).signed sign
  | arithmetic op left right ihLeft ihRight =>
    rw [Expr.lexemes, allRead_append, allRead_cons] at read
    rw [Expr.placeholders, ← Nat.add_assoc]
    exact .infixed (Renumbers.isOperator_arithmetic op) (ihLeft read.1 n) (ihRight read.2.2 _)
  | comparison op left right ihLeft ihRight =>
    rw [Expr.lexemes, allRead_append, allRead_cons] at read
    rw [Expr.placeholders, ← Nat.add_assoc]
    have plain : isPlain op.text := by cases op <;> decide
    exact .infixed (Renumbers.IsOperator.plain plain) (ihLeft read.1 n) (ihRight read.2.2 _)
  | logical op left right ihLeft ihRight =>
    rw [Expr.lexemes, allRead_append, allRead_cons] at read
    rw [Expr.placeholders, ← Nat.add_assoc]
    have plain : isPlain op.text := by cases op <;> decide
    exact .infixed (Renumbers.IsOperator.plain plain) (ihLeft read.1 n) (ihRight read.2.2 _)
  | isNull inner negated ih =>
    rw [Expr.lexemes, allRead_append] at read
    have test : Renumbers (count (n + inner.placeholders)) (if negated then "IS NOT NULL" else "IS NULL" : String)
        (if negated then "IS NOT NULL" else "IS NULL" : String) (count (n + inner.placeholders)) :=
      .plain (by cases negated <;> decide) _
    simp only [Expr.replace, Expr.text, List.append_assoc]
    exact (ih read.1 n).spaced test

end Replacement.NumberedAs

namespace Bulk

/-! ## Marked forms -/

/-- Parameters as elements of arrays, with a mark for the array of each number. -/
def elements (mark : Nat → Text) : Replacement where
  placeholder number := .call "unnest" [.column { qualifier? := none, name := mark number }]
  column := .column

/-- The selected items of atoms, with the marks of their arrays. -/
def itemsWith (mark : Nat → Text) : List Text → List Expr → Nat → List Text
  | column :: columns, atom :: atoms, n =>
    let value := (atom.replace (elements mark) n).text
    (if atom.isParameter then value ++ " AS " ++ column else value) ::
      itemsWith mark columns atoms (n + atom.placeholders)
  | _, _, _ => []

/-- The join with the derived table, with the marks of its arrays. -/
def joinWith (mark : Nat → Text) (derived : DerivedTable) (parameters : Nat) : Text :=
  if parameters = 0 then []
  else
    let columns := (List.range parameters).map fun i => "unnest(" ++ mark (i + 1) ++ ") AS " ++ derived.column (i + 1)
    " FROM (SELECT " ++ Text.commaList columns ++ ") AS " ++ derived.name

/-- The bulk form of a statement, with the marks of its arrays. -/
def marked (mark : Nat → Text) (derived : DerivedTable) : Statement → Text
  | .insert row conflict? =>
    rowText .insert row ("SELECT " ++ Text.commaList (itemsWith mark row.columns row.values.atoms 0)) conflict?
  | .upsert row =>
    rowText .upsert row ("SELECT " ++ Text.commaList (itemsWith mark row.columns row.values.atoms 0)) none
  | .update written =>
    (written.replace (joined derived written.table)).textWith (joinWith mark derived written.placeholders)

/-- All arrays are marked alike. -/
def openMark (_ : Nat) : Text := ['?']

/-- Arrays are marked with their numbers. -/
def numberMark (number : Nat) : Text := '$' :: Text.ofNat number

theorem text_element (mark : Nat → Text) (number : Nat) :
    ((elements mark).placeholder number).text = "unnest" ++ ("(" ++ (mark number ++ ")")) := by
  simp [elements, Expr.text, Expr.textOfAll, Text.commaList, Text.join, ColumnRef.text, dotted]

theorem text_replace_openMark (atom : Expr) (n : Nat) :
    (atom.replace (elements openMark) n).text = atom.unnest.text := by
  have writes : rowStyle.Writes (elements openMark) := {
    operands := fun _ => nofun
    placeholder := fun _ => rfl
    column := fun _ => rfl }
  rw [← writes.operand_fragment, rowStyle_writes.operand_fragment, Replacement.unnested_replace]

theorem itemsWith_openMark (columns : List Text) (atoms : List Expr) (n : Nat) :
    itemsWith openMark columns atoms n = List.zipWith item columns atoms := by
  induction columns generalizing atoms n with
  | nil => rfl
  | cons column columns ih =>
    cases atoms with
    | nil => rfl
    | cons atom atoms =>
      simp only [itemsWith, text_replace_openMark, ih]
      rfl

theorem joinWith_openMark (derived : DerivedTable) (parameters : Nat) :
    joinWith openMark derived parameters = joinText derived parameters := rfl

/-- The bulk form of a statement is its marked form with all arrays left open. -/
theorem ofStatement_eq_marked {derived : DerivedTable} {statement : Statement} (fits : statement.FitsArity) :
    ofStatement derived statement =
      .ok { sql := marked openMark derived statement, parameterCount := statement.placeholders } := by
  cases statement with
  | insert row conflict? =>
    rw [marked, itemsWith_openMark]
    exact @ofRow_eq .insert row (fits row rfl) conflict?
  | upsert row =>
    rw [marked, itemsWith_openMark]
    exact @ofRow_eq .upsert row (fits row rfl) none
  | update written =>
    delta marked
    dsimp only
    rw [joinWith_openMark]
    exact ofUpdate_eq written

/-! ## Rows -/

theorem elements_numbered : (elements openMark).NumberedAs (elements numberMark) id where
  placeholder n := by
    rw [text_element, text_element]
    exact .append_plain (by decide) (Renumbers.placeholder n).parenthesized
  column _ read n := .dotted read n

theorem renumbersAll_items {columns : List Text} (names : ∀ column ∈ columns, IsName column) {atoms : List Expr}
    (read : ∀ atom ∈ atoms, AllRead atom.lexemes) (fits : columns.length = atoms.length) (n : Nat) :
    RenumbersAll n (itemsWith openMark columns atoms n) (itemsWith numberMark columns atoms n)
      (n + Expr.placeholdersOfAll atoms) := by
  induction columns generalizing atoms n with
  | nil =>
    obtain rfl := List.length_eq_zero_iff.mp fits.symm
    exact .nil n
  | cons column columns ih =>
    cases atoms with
    | nil => cases fits
    | cons atom atoms =>
      obtain ⟨name, names⟩ := List.forall_mem_cons.mp names
      obtain ⟨one, others⟩ := List.forall_mem_cons.mp read
      have value := elements_numbered.replace one n
      rw [Expr.placeholdersOfAll, ← Nat.add_assoc]
      refine .cons ?_ (ih names others (Nat.succ.inj fits) _)
      by_cases parameter : atom.isParameter
      · have named : Renumbers (n + atom.placeholders) (" AS " ++ column) (" AS " ++ column) (n + atom.placeholders) :=
          .append_plain (by decide) (.name name _)
        simp only [if_pos parameter, List.append_assoc]
        exact value.append named (clear_cons.mpr rfl)
      · simp only [if_neg parameter]
        exact value

theorem isName_of_allRead_nameList {names : List Text} (read : AllRead (Lexeme.nameList names)) :
    ∀ name ∈ names, IsName name := by
  rw [Lexeme.nameList, Lexeme.allRead_parenthesized, Lexeme.allRead_commaList, List.forall_mem_map] at read
  exact fun name member => Lexeme.isRead_iff_hasForm.mp (allRead_cons.mp (read name member)).1

theorem renumbers_names {names : List Text} (read : AllRead (Lexeme.nameList names)) (n : Nat) :
    Renumbers n (Text.commaList names) (Text.commaList names) n :=
  (RenumbersAll.same (fun name member => .name (isName_of_allRead_nameList read name member)) n).commaList

theorem renumbers_clauseText {conflict? : Option ConflictTarget}
    (read : AllRead (Statement.conflictLexemes conflict?)) (n : Nat) :
    Renumbers n (clauseText conflict?) (clauseText conflict?) n := by
  cases conflict? with
  | none => exact .nil n
  | some target =>
    simp only [Statement.conflictLexemes, ConflictTarget.clauseLexemes, allRead_cons, allRead_append] at read
    obtain ⟨-, -, aim, -⟩ := read
    refine .append_plain (show isPlain " " by decide) ?_
    cases target with
    | columns names =>
      change Renumbers n ("ON CONFLICT (" ++ Text.commaList names ++ ") DO NOTHING")
        ("ON CONFLICT (" ++ Text.commaList names ++ ") DO NOTHING") n
      rw [List.append_assoc]
      refine .append_plain (by decide) ?_
      exact (renumbers_names aim n).append (.plain (by decide) n) (clear_cons.mpr rfl)
    | constraint name =>
      have isName := Lexeme.isRead_iff_hasForm.mp (allRead_cons.mp (allRead_cons.mp (allRead_cons.mp aim).2).2).1
      change Renumbers n ("ON CONFLICT ON CONSTRAINT " ++ name ++ " DO NOTHING")
        ("ON CONFLICT ON CONSTRAINT " ++ name ++ " DO NOTHING") n
      rw [List.append_assoc]
      refine .append_plain (by decide) ?_
      exact (Renumbers.name isName n).append (.plain (by decide) n) (clear_cons.mpr rfl)

theorem clear_clauseText (conflict? : Option ConflictTarget) : Clear joins (clauseText conflict?) := by
  cases conflict? with
  | none => exact clear_nil _
  | some target => exact clear_cons.mpr rfl

/-- A row is numbered as its selected items are. -/
theorem renumbers_rowText {kind : StatementKind} {row : RowTarget} {conflict? : Option ConflictTarget}
    (read : AllRead (row.lexemes (Statement.verb kind) ++ Statement.conflictLexemes conflict?)) {items numbered : Text}
    {n m : Nat} (selected : Renumbers n items numbered m) :
    Renumbers n (rowText kind row ("SELECT " ++ items) conflict?) (rowText kind row ("SELECT " ++ numbered) conflict?)
      m := by
  simp only [RowTarget.lexemes, allRead_append, allRead_cons] at read
  obtain ⟨⟨-, -, table, columns, -⟩, clause⟩ := read
  have verb : isPlain kind.name := by cases kind <;> decide
  delta rowText
  simp only [List.append_assoc]
  -- in the order of the text: verb, table, columns, selection, clause
  refine .append_plain verb (.append_plain (by decide) ?_)
  refine (Renumbers.dotted table n).append (.append_plain (by decide) ?_) (clear_cons.mpr rfl)
  refine (renumbers_names columns n).append (.append_plain (by decide) ?_) (clear_cons.mpr rfl)
  refine .append_plain (by decide) ?_
  exact selected.append (renumbers_clauseText clause m) (clear_clauseText conflict?)

theorem renumbers_row {kind : StatementKind} {row : RowTarget} {conflict? : Option ConflictTarget}
    (read : AllRead (row.lexemes (Statement.verb kind) ++ Statement.conflictLexemes conflict?))
    (fits : row.columns.length = row.values.atoms.length) :
    Renumbers 0
      (rowText kind row ("SELECT " ++ Text.commaList (itemsWith openMark row.columns row.values.atoms 0)) conflict?)
      (rowText kind row ("SELECT " ++ Text.commaList (itemsWith numberMark row.columns row.values.atoms 0)) conflict?)
      (Expr.placeholdersOfAll row.values.atoms) := by
  have parts := read
  simp only [RowTarget.lexemes, Lexeme.valueList, allRead_append, allRead_cons, Lexeme.allRead_parenthesized,
    Lexeme.allRead_commaList, List.forall_mem_map] at parts
  obtain ⟨⟨-, -, -, columns, -, atoms⟩, -⟩ := parts
  have items := renumbersAll_items (isName_of_allRead_nameList columns) atoms fits 0
  rw [Nat.zero_add] at items
  exact renumbers_rowText read items.commaList

/-! ## UPDATE -/

variable {derived : DerivedTable}

theorem joined_numbered (named : IsBareWord derived.name) (stem : IsBareWord derived.columnStem) {table : TableRef}
    (read : AllRead (Lexeme.dotted table.schema? table.table)) (m : Nat) :
    (joined derived table).NumberedAs (joined derived table) fun _ => m where
  placeholder n :=
    (Renumbers.bareWord named m).append (.cons_plain (by decide) (.bareWord (isBareWord_numbered stem (n + 1)) m))
      (clear_cons.mpr rfl)
  column reference readColumn n := by
    obtain ⟨qualifier?, name⟩ := reference
    cases qualifier? with
    | some qualifier => exact .dotted readColumn n
    | none =>
      have column := Renumbers.dotted readColumn n
      exact (Renumbers.dotted read n).append (.cons_plain (by decide) column) (clear_cons.mpr rfl)

/-- The columns of the derived table from one number on. -/
theorem renumbersAll_columns (stem : IsBareWord derived.columnStem) (start size : Nat) :
    RenumbersAll start
      ((List.range' start size).map fun i => "unnest(" ++ openMark (i + 1) ++ ") AS " ++ derived.column (i + 1))
      ((List.range' start size).map fun i => "unnest(" ++ numberMark (i + 1) ++ ") AS " ++ derived.column (i + 1))
      (start + size) := by
  induction size generalizing start with
  | zero => exact .nil start
  | succ size ih =>
    rw [List.range'_succ, List.map_cons, List.map_cons, Nat.add_comm size, ← Nat.add_assoc]
    refine .cons ?_ (ih (start + 1))
    simp only [List.append_assoc]
    refine .append_plain (by decide) ?_
    refine (Renumbers.placeholder start).append (.append_plain (by decide) ?_) (clear_cons.mpr rfl)
    exact .bareWord (isBareWord_numbered stem (start + 1)) (start + 1)

theorem renumbers_join (named : IsBareWord derived.name) (stem : IsBareWord derived.columnStem) (parameters : Nat) :
    Renumbers 0 (joinWith openMark derived parameters) (joinWith numberMark derived parameters) parameters := by
  unfold joinWith
  by_cases none_ : parameters = 0
  · rw [if_pos none_, if_pos none_, none_]
    exact .nil 0
  · rw [if_neg none_, if_neg none_]
    have columns := (renumbersAll_columns stem 0 parameters).commaList
    rw [Nat.zero_add, ← List.range_eq_range'] at columns
    simp only [List.append_assoc] at columns ⊢
    refine .append_plain (by decide) ?_
    refine columns.append (.append_plain (by decide) ?_) (clear_cons.mpr rfl)
    exact .bareWord named parameters

theorem clear_joinWith (mark : Nat → Text) (derived : DerivedTable) (parameters : Nat) (after : Text) :
    Clear joins (joinWith mark derived parameters ++ ' ' :: after) := by
  unfold joinWith
  by_cases none_ : parameters = 0
  · rw [if_pos none_]
    exact clear_cons.mpr rfl
  · rw [if_neg none_]
    exact clear_cons.mpr rfl

/-- An UPDATE is numbered in its join only. -/
theorem renumbers_update (named : IsBareWord derived.name) (stem : IsBareWord derived.columnStem) {written : Update}
    (read : AllRead written.lexemes) :
    Renumbers 0 (marked openMark derived (.update written)) (marked numberMark derived (.update written))
      written.placeholders := by
  simp only [Update.lexemes, allRead_cons, allRead_append, Lexeme.allRead_commaList, List.forall_mem_map] at read
  obtain ⟨-, table, -, clauses, -, condition⟩ := read
  have assigned : ∀ clause ∈ SetClause.replaceAll (joined derived written.table) written.assignments 0,
      ∀ n, Renumbers n clause.text clause.text n := by
    refine SetClause.forall_mem_replaceAll (fun clause member k n => ?_) 0
    have read := clauses clause member
    simp only [SetClause.lexemes, allRead_cons] at read
    have column := Renumbers.name (Lexeme.isRead_iff_hasForm.mp read.1) n
    have value := (joined_numbered named stem table n).replace read.2.2 k
    simp only [SetClause.text, List.append_assoc]
    exact column.append (.append_plain (by decide) value) (clear_cons.mpr rfl)
  have assignments := (RenumbersAll.same (List.forall_mem_map.mpr assigned) 0).commaList
  have filter := (joined_numbered named stem table written.placeholders).replace condition
    (SetClause.placeholdersOfAll written.assignments)
  delta marked Update.textWith
  simp only [List.append_assoc]
  -- in the order of the text: table, assignments, join, condition
  refine .append_plain (by decide) ?_
  refine (Renumbers.dotted table 0).append (.append_plain (by decide) ?_) (clear_cons.mpr rfl)
  refine assignments.append ?_ (clear_joinWith _ _ _ _)
  exact (renumbers_join named stem written.placeholders).append (.append_plain (by decide) filter) (clear_cons.mpr rfl)

/-! ## Statements -/

theorem renumbers_marked (named : IsBareWord derived.name) (stem : IsBareWord derived.columnStem)
    {statement : Statement} (read : AllRead statement.lexemes) (fits : statement.FitsArity) :
    Renumbers 0 (marked openMark derived statement) (marked numberMark derived statement) statement.placeholders := by
  cases statement with
  | insert row conflict? => exact @renumbers_row .insert row conflict? read (fits row rfl)
  | upsert row =>
    refine @renumbers_row .upsert row none ?_ (fits row rfl)
    rw [Statement.conflictLexemes, List.append_nil]
    exact read
  | update written => exact renumbers_update named stem read

/-- A name that settings accept is a bare word, and may be a reserved one. -/
theorem isBareWord_of_name? {text found : Text} (named : Setting.name? text = some found) : IsBareWord text :=
  (Setting.name?_eq_some_iff.mp named).1

/-- A bulk form is numbered with as many numbers as it takes arrays: the placeholders of the arrays get their numbers in
order and nothing else changes. No comment, open quote or numbered parameter stands in the form. -/
theorem number_ofText (named : Setting.name? derived.name = some derived.name)
    (stem : Setting.name? derived.columnStem = some derived.columnStem) {kind : StatementKind} {sql : Text}
    {bulk : BulkStatement} (formed : ofText derived kind sql = .ok bulk) :
    ∃ statement, Statement.parse kind sql = .ok statement ∧
      bulk.sql = marked openMark derived statement ∧
      Numbering.number bulk.sql =
        .ok { sql := marked numberMark derived statement, count := bulk.parameterCount } ∧
      ∀ piece ∈ Piece.cut bulk.sql, piece.IsTame := by
  cases parsed : Statement.parse kind sql with
  | error error =>
    rw [ofText_of_unparsed derived parsed] at formed
    cases formed
  | ok statement =>
    obtain ⟨-, -, fits, rest, spelled, -⟩ := Statement.spells_of_parse parsed
    rw [ofText, parsed] at formed
    dsimp only at formed
    rw [ofStatement_eq_marked fits] at formed
    cases formed
    have numbers := renumbers_marked (isBareWord_of_name? named) (isBareWord_of_name? stem) spelled.allRead fits
    exact ⟨statement, rfl, rfl, numbers.number_eq⟩

/-- Two signs in a row, a quotient and a string that holds what starts comments. -/
theorem number_ofText_one_array :
    ∃ bulk, ofText {} .update "update t set a = - -?/b where c = '/*--?'" = .ok bulk ∧
      Numbering.number bulk.sql = .ok {
        sql := "UPDATE t SET a = - -dt.p1 / t.b FROM (SELECT unnest($1) AS p1) AS dt WHERE t.c = '/*--?'"
        count := 1 } := by
  have checked : (match ofText {} .update "update t set a = - -?/b where c = '/*--?'",
        Statement.parse .update "update t set a = - -?/b where c = '/*--?'" with
      | .ok bulk, .ok statement => bulk.parameterCount == 1 && marked numberMark {} statement ==
        "UPDATE t SET a = - -dt.p1 / t.b FROM (SELECT unnest($1) AS p1) AS dt WHERE t.c = '/*--?'"
      | _, _ => false) = true := by decide +kernel
  split at checked
  · next bulk statement formed parsed =>
    rw [Bool.and_eq_true, beq_iff_eq, beq_iff_eq] at checked
    obtain ⟨found, again, -, numbered, -⟩ := number_ofText (by decide) (by decide) formed
    cases parsed.symm.trans again
    rw [checked.1, checked.2] at numbered
    exact ⟨bulk, formed, numbered⟩
  · cases checked

end Bulk

end BulkSql
