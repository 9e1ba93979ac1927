import BulkSql.Proofs.Syntax.Atoms
import BulkSql.Syntax.Statement

/-! # Statements as lexemes

A statement is read from a text exactly where it spells one, and its canonical text is read back as the same
statement. Only the span of a VALUES list, which is a piece of the text itself, differs between spellings.
-/

namespace BulkSql

open Reader

/-! ## UPDATE -/

namespace SetClause

def lexemes (clause : SetClause) : List Lexeme := .name clause.column :: .symbol ['='] :: clause.value.lexemes

end SetClause

namespace Update

def lexemes (update : Update) : List Lexeme :=
  .keyword .UPDATE :: (Lexeme.dotted update.table.schema? update.table.table ++
    .keyword .SET :: (Lexeme.commaList (update.assignments.map SetClause.lexemes) ++
      .keyword .WHERE :: update.condition.lexemes))

/-- There is an assignment, and the grammar gives all expressions. -/
structure Shaped (update : Update) : Prop where
  assigned : update.assignments ≠ []
  values : ∀ clause ∈ update.assignments, clause.value.Shaped
  condition : update.condition.Shaped

end Update

namespace Statement

theorem spells_of_readTable {text rest : Text} {table : TableRef} (done : readTable text = .done table rest) :
    Spells (Lexeme.dotted table.schema? table.table) text rest := by
  obtain ⟨⟨schema?, name⟩, mid, read, built⟩ := bind_eq_done_iff.mp done
  cases built
  exact Expr.spells_of_readDotted read

theorem readTable_of_spells {text rest : Text} {table : TableRef}
    (spells : Spells (Lexeme.dotted table.schema? table.table) text rest) (dotless : ¬['.'] <+: rest) :
    readTable text = .done table rest :=
  bind_of_done (Expr.readDotted_of_spells spells dotless) _

theorem spells_of_readSetClause {text rest : Text} {clause : SetClause}
    (done : readSetClause text = .done clause rest) :
    clause.value.Shaped ∧ Spells clause.lexemes text rest := by
  obtain ⟨column, afterColumn, named, done⟩ := bind_eq_done_iff.mp done
  obtain ⟨equals, afterEquals, symbolRead, done⟩ := bind_eq_done_iff.mp done
  obtain ⟨value, behind, read, built⟩ := bind_eq_done_iff.mp done
  cases built
  obtain ⟨rfl, -⟩ := symbol_eq_done_iff.mp symbolRead
  have covered := Expr.covers_of_read _ _ _ read
  exact ⟨covered.shaped, afterColumn, named, afterEquals, symbolRead, covered.spells⟩

theorem readSetClause_of_spells {text rest : Text} {clause : SetClause} (shaped : clause.value.Shaped)
    (spells : Spells clause.lexemes text rest) (stops : Expr.Stops 0 rest) :
    readSetClause text = .done clause rest := by
  obtain ⟨afterColumn, named, afterEquals, symbolRead, spelled⟩ := spells
  refine (bind_of_done named _).trans ((bind_of_done symbolRead _).trans ?_)
  exact bind_of_done (Expr.read_of_spells shaped spelled stops) _

/-- What is read as an UPDATE is well-shaped and spelled. -/
theorem spells_of_readUpdate {text rest : Text} {update : Update} (done : readUpdate text = .done update rest) :
    update.Shaped ∧ Spells update.lexemes text rest := by
  obtain ⟨_, afterVerb, verb, done⟩ := bind_eq_done_iff.mp done
  obtain ⟨table, afterTable, tableRead, done⟩ := bind_eq_done_iff.mp done
  obtain ⟨_, afterSet, set, done⟩ := bind_eq_done_iff.mp done
  obtain ⟨assignments, afterAssignments, assigned, done⟩ := bind_eq_done_iff.mp done
  obtain ⟨_, afterWhere, wanted, done⟩ := bind_eq_done_iff.mp done
  obtain ⟨condition, behind, read, built⟩ := bind_eq_done_iff.mp done
  cases built
  have covered := Expr.covers_of_read _ _ _ read
  obtain ⟨some_, values, listed⟩ := spells_of_commaSeparated (fun clause : SetClause => clause.value.Shaped) assigned
    fun _ _ _ _ => spells_of_readSetClause
  refine ⟨⟨some_, values, covered.shaped⟩, afterVerb, verb, (spells_of_readTable tableRead).append ⟨afterSet, set, ?_⟩⟩
  exact listed.append ⟨afterWhere, wanted, covered.spells⟩

/-- Behind a keyword that is no operator an expression stops. -/
theorem stops_of_keyword {keyword : Keyword} {text rest : Text} (read : Reader.keyword keyword text = .done () rest)
    (other : keyword ∉ [.IS, .AND, .XOR, .OR]) : Expr.Stops 0 text := by
  refine Expr.stops_of_none ((Expr.nextRank?_of_keyword (keyword_eq_done_iff.mp read).1).trans ?_) 0
  cases keyword <;> simp at other <;> rfl

theorem not_prefix_of_keyword {keyword : Keyword} {text rest : Text}
    (read : Reader.keyword keyword text = .done () rest)
    {symbol : Char} (other : symbol.isAlpha = false) : ¬[symbol] <+: text := by
  obtain ⟨c, more, rfl, letter⟩ := head_of_lookup?_leadWord (keyword_eq_done_iff.mp read).1
  rintro ⟨_, same⟩
  cases same
  simp [letter] at other

theorem readUpdate_of_spells {text rest : Text} {update : Update} (shaped : update.Shaped)
    (spells : Spells update.lexemes text rest) (stops : Expr.Stops 0 rest) : readUpdate text = .done update rest := by
  obtain ⟨afterVerb, verb, more⟩ := spells
  obtain ⟨afterTable, tableSpelled, afterSet, set, more⟩ := spells_append_iff.mp more
  obtain ⟨afterAssignments, listed, afterWhere, wanted, spelled⟩ := spells_append_iff.mp more
  have tableRead := readTable_of_spells tableSpelled (not_prefix_of_keyword set rfl)
  have assigned : commaSeparated readSetClause afterSet = .done update.assignments afterAssignments := by
    apply commaSeparated_of_spells shaped.assigned listed (not_prefix_of_keyword wanted rfl)
    intro clause member start mid _ spelledOne follows
    apply readSetClause_of_spells (shaped.values clause member) spelledOne
    rcases follows with rfl | ⟨behind, rfl⟩
    · exact stops_of_keyword wanted (by simp)
    · exact Expr.stops_comma behind 0
  have conditionRead := Expr.read_of_spells shaped.condition spelled stops
  refine (bind_of_done verb _).trans ((bind_of_done tableRead _).trans ((bind_of_done set _).trans ?_))
  exact (bind_of_done assigned _).trans ((bind_of_done wanted _).trans (bind_of_done conditionRead _))

end Statement

/-! ## Rows -/

/-- Names with commas between, in parentheses. -/
def Lexeme.nameList (names : List Text) : List Lexeme :=
  parenthesized (commaList (names.map fun name => [.name name]))

/-- Atoms behind the keyword for them. -/
def Lexeme.valueList (atoms : List Expr) : List Lexeme :=
  .keyword .VALUES :: parenthesized (commaList (atoms.map Expr.lexemes))

namespace RowTarget

def lexemes (verb : Keyword) (row : RowTarget) : List Lexeme :=
  .keyword verb :: .keyword .INTO :: (Lexeme.dotted row.table.schema? row.table.table ++
    (Lexeme.nameList row.columns ++ Lexeme.valueList row.values.atoms))

/-- There are columns and values, and the grammar gives all atoms. -/
structure Shaped (row : RowTarget) : Prop where
  named : row.columns ≠ []
  filled : row.values.atoms ≠ []
  atoms : ∀ atom ∈ row.values.atoms, atom.IsAtom

/-- The lexemes in front of the values. -/
def headLexemes (verb : Keyword) (row : RowTarget) : List Lexeme :=
  .keyword verb :: .keyword .INTO :: (Lexeme.dotted row.table.schema? row.table.table ++
    (Lexeme.nameList row.columns ++ [.keyword .VALUES]))

/-- The row with its VALUES list written in another way. -/
def spanned (row : RowTarget) (span : Text) : RowTarget := { row with values := { row.values with span } }

end RowTarget

namespace ConflictTarget

def lexemes : ConflictTarget → List Lexeme
  | columns names => Lexeme.nameList names
  | constraint name => [.keyword .ON, .keyword .CONSTRAINT, .name name]

/-- A target of columns names some. -/
def Shaped : ConflictTarget → Prop
  | columns names => names ≠ []
  | constraint _ => True

/-- The clause that lets conflicts on a target pass. -/
def clauseLexemes (target : ConflictTarget) : List Lexeme :=
  .keyword .ON :: .keyword .CONFLICT :: (target.lexemes ++ [.keyword .DO, .keyword .NOTHING])

end ConflictTarget

namespace Statement

/-- The start of a text up to a suffix of it, without the blanks at its end. -/
def spanUpTo (text rest : Text) : Text := Text.trimEnd (text.take (text.length - rest.length))

theorem keywords_eq_done_iff {words : List Keyword} {text rest : Text} :
    keywords words text = .done () rest ↔ Spells (words.map .keyword) text rest := by
  induction words generalizing text with
  | nil =>
    constructor
    · intro done
      cases done
      rfl
    · rintro rfl
      rfl
  | cons first more ih =>
    rw [keywords, bind_eq_done_iff, List.map_cons]
    constructor
    · rintro ⟨_, mid, read, done⟩
      exact ⟨mid, read, ih.mp done⟩
    · rintro ⟨mid, read, spelled⟩
      exact ⟨(), mid, read, ih.mpr spelled⟩

theorem readNames_of_spells {names : List Text} (some_ : names ≠ []) {text rest : Text}
    (spells : Spells (Lexeme.nameList names) text rest) :
    readNames text = .done names rest :=
  listOf_of_spells some_ spells fun _ _ _ _ spelled _ => spells_singleton_iff.mp spelled

theorem spells_of_readNames {names : List Text} {text rest : Text} (done : readNames text = .done names rest) :
    names ≠ [] ∧ Spells (Lexeme.nameList names) text rest := by
  have each (start name mid : Text) (read : identifier start = .done name mid) :
      True ∧ Spells ((fun name => [.name name]) name) start mid := ⟨trivial, spells_singleton_iff.mpr read⟩
  obtain ⟨some_, -, spelled⟩ := spells_of_listOf (fun _ => True) done each
  exact ⟨some_, spelled⟩

/-- What is read as the values is read from the text behind the keyword, of which the span is the part up to where the
reading went on, without the blanks at its end. -/
theorem readValues_of_spells {atoms : List Expr} (some_ : atoms ≠ []) (each : ∀ atom ∈ atoms, atom.IsAtom)
    {text rest : Text}
    (spells : Spells (Lexeme.valueList atoms) text rest) :
    ∃ valuesAt, Spells [.keyword .VALUES] text valuesAt ∧
      readValues text = .done (valuesAt, { atoms, span := spanUpTo valuesAt rest }) rest := by
  obtain ⟨mid, values, spelled⟩ := spells
  have read : listOf Expr.readAtom mid = .done atoms rest := by
    apply listOf_of_spells some_ spelled
    intro atom member start behind spelledOne follows
    apply Expr.readAtom_of_spells (each atom member) spelledOne
    rcases follows with ⟨more, rfl⟩ | ⟨more, rfl⟩
    · exact Expr.stops_comma more 8
    · exact Expr.stops_closing more 8
  have taken := consumed_eq_done_iff.mpr ⟨rfl, read⟩
  refine ⟨mid, spells_singleton_iff.mpr values, (bind_of_done values _).trans ?_⟩
  exact located_eq_done_iff.mpr ⟨rfl, bind_of_done taken _⟩

theorem spells_of_readValues {text rest valuesAt : Text} {values : ValueList}
    (done : readValues text = .done (valuesAt, values) rest) :
    values.atoms ≠ [] ∧ (∀ atom ∈ values.atoms, atom.IsAtom) ∧
      Spells (Lexeme.valueList values.atoms) text rest := by
  obtain ⟨_, mid, word, done⟩ := bind_eq_done_iff.mp done
  obtain ⟨rfl, done⟩ := located_eq_done_iff.mp done
  obtain ⟨⟨span, atoms⟩, behind, taken, built⟩ := bind_eq_done_iff.mp done
  cases built
  obtain ⟨-, read⟩ := consumed_eq_done_iff.mp taken
  obtain ⟨some_, each, spelled⟩ := spells_of_listOf Expr.IsAtom read fun _ _ _ => Expr.spells_of_readAtom
  exact ⟨some_, each, valuesAt, word, spelled⟩

/-- What is read as a row is well-shaped and spelled. -/
theorem spells_of_readRow {verb : Keyword} {text rest valuesAt : Text} {row : RowTarget}
    (done : readRow verb text = .done (valuesAt, row) rest) : row.Shaped ∧ Spells (row.lexemes verb) text rest := by
  obtain ⟨_, afterWords, words, done⟩ := bind_eq_done_iff.mp done
  obtain ⟨table, afterTable, tableRead, done⟩ := bind_eq_done_iff.mp done
  obtain ⟨columns, afterColumns, columnsRead, done⟩ := bind_eq_done_iff.mp done
  obtain ⟨⟨place, values⟩, behind, valuesRead, built⟩ := bind_eq_done_iff.mp done
  cases built
  obtain ⟨afterVerb, verbRead, _, into, rfl⟩ := keywords_eq_done_iff.mp words
  obtain ⟨named, columnsSpelled⟩ := spells_of_readNames columnsRead
  obtain ⟨filled, atoms, valuesSpelled⟩ := spells_of_readValues valuesRead
  refine ⟨⟨named, filled, atoms⟩, afterVerb, verbRead, _, into, ?_⟩
  exact (spells_of_readTable tableRead).append (columnsSpelled.append valuesSpelled)

theorem readRow_of_spells {verb : Keyword} {text rest : Text} {row : RowTarget} (shaped : row.Shaped)
    (spells : Spells (row.lexemes verb) text rest) :
    ∃ valuesAt, Spells (row.headLexemes verb) text valuesAt ∧
      readRow verb text = .done (valuesAt, row.spanned (spanUpTo valuesAt rest)) rest := by
  obtain ⟨afterVerb, verbRead, afterInto, into, more⟩ := spells
  obtain ⟨afterTable, tableSpelled, more⟩ := spells_append_iff.mp more
  obtain ⟨afterColumns, columnsSpelled, valuesSpelled⟩ := spells_append_iff.mp more
  have words : keywords [verb, .INTO] text = .done () afterInto :=
    keywords_eq_done_iff.mpr ⟨afterVerb, verbRead, afterInto, into, rfl⟩
  have tableRead : readTable afterInto = .done row.table afterTable := by
    apply readTable_of_spells tableSpelled
    obtain ⟨_, _, opened, -⟩ := Lexeme.spells_parenthesized_iff.mp columnsSpelled
    obtain ⟨-, mid, rfl, -⟩ := symbol_eq_done_iff.mp opened
    simp
  obtain ⟨valuesAt, word, valuesRead⟩ := readValues_of_spells shaped.filled shaped.atoms valuesSpelled
  refine ⟨valuesAt, ?_, (bind_of_done words _).trans ((bind_of_done tableRead _).trans ?_)⟩
  · exact ⟨afterVerb, verbRead, afterInto, into, tableSpelled.append (columnsSpelled.append word)⟩
  · exact (bind_of_done (readNames_of_spells shaped.named columnsSpelled) _).trans (bind_of_done valuesRead _)

/-! ## Conflicts -/

theorem spells_of_readOnConflict {text rest : Text} {target : ConflictTarget}
    (done : readOnConflict text = .done target rest) : target.Shaped ∧ Spells target.clauseLexemes text rest := by
  obtain ⟨_, afterWords, words, done⟩ := bind_eq_done_iff.mp done
  obtain ⟨found, afterTarget, targetRead, done⟩ := bind_eq_done_iff.mp done
  obtain ⟨_, behind, action, built⟩ := bind_eq_done_iff.mp done
  cases built
  obtain ⟨afterOn, on, start, conflict, rfl⟩ := keywords_eq_done_iff.mp words
  have acted := keywords_eq_done_iff.mp action
  have spelled : target.Shaped ∧ Spells target.lexemes start afterTarget := by
    rcases done_of_firstOf_pair targetRead with read | read
    · obtain ⟨names, mid, namesRead, same⟩ := bind_eq_done_iff.mp read
      cases same
      exact spells_of_readNames namesRead
    · obtain ⟨_, mid, wordsRead, read⟩ := bind_eq_done_iff.mp read
      obtain ⟨name, last, named, same⟩ := bind_eq_done_iff.mp read
      cases same
      obtain ⟨afterOn', on', nameStart, constraint, rfl⟩ := keywords_eq_done_iff.mp wordsRead
      exact ⟨trivial, afterOn', on', nameStart, constraint, afterTarget, named, rfl⟩
  exact ⟨spelled.1, afterOn, on, start, conflict, spelled.2.append acted⟩

theorem readOnConflict_of_spells {text rest : Text} {target : ConflictTarget} (shaped : target.Shaped)
    (spells : Spells target.clauseLexemes text rest) : readOnConflict text = .done target rest := by
  obtain ⟨afterOn, on, afterWords, conflict, more⟩ := spells
  obtain ⟨afterTarget, spelled, acted⟩ := spells_append_iff.mp more
  have words : keywords [.ON, .CONFLICT] text = .done () afterWords :=
    keywords_eq_done_iff.mpr ⟨afterOn, on, afterWords, conflict, rfl⟩
  have action : keywords [.DO, .NOTHING] afterTarget = .done () rest := keywords_eq_done_iff.mpr acted
  have targetRead : readConflictTarget afterWords = .done target afterTarget := by
    cases target with
    | columns names => exact firstOf_of_done (bind_of_done (readNames_of_spells shaped spelled) _)
    | constraint name =>
      obtain ⟨afterOn', on', mid, constraint, _, named, rfl⟩ := spelled
      have noNames : Fails readNames afterWords := fails_parenthesized (not_prefix_of_keyword on' rfl)
      have wordsRead : keywords [.ON, .CONSTRAINT] afterWords = .done () mid :=
        keywords_eq_done_iff.mpr ⟨afterOn', on', mid, constraint, rfl⟩
      refine firstOf_of_fails (noNames.bind _) (firstOf_of_done ?_)
      exact (bind_of_done wordsRead _).trans (bind_of_done named _)
  exact (bind_of_done words _).trans ((bind_of_done targetRead _).trans (bind_of_done action _))

/-! ## Statements of all kinds -/

/-- The verb of a statement with a row. -/
def verb : StatementKind → Keyword
  | .insert => .INSERT
  | .upsert => .UPSERT
  | .update => .UPDATE

/-- The lexemes behind a row. -/
def conflictLexemes : Option ConflictTarget → List Lexeme
  | some target => target.clauseLexemes
  | none => []

/-- A conflict clause that is there has a target. -/
def ConflictShaped (conflict? : Option ConflictTarget) : Prop := ∀ target, conflict? = some target → target.Shaped

/-- The lexemes of a statement in their order. -/
def lexemes : Statement → List Lexeme
  | .insert row conflict? => row.lexemes .INSERT ++ conflictLexemes conflict?
  | .upsert row => row.lexemes .UPSERT
  | .update written => written.lexemes

/-- The lists of a statement are not empty, and the grammar gives all its expressions. -/
def Shaped : Statement → Prop
  | .insert row conflict? => row.Shaped ∧ ConflictShaped conflict?
  | .upsert row => row.Shaped
  | .update written => written.Shaped

/-- What is read as a statement of a kind is one, well-shaped and spelled. -/
theorem spells_of_read {kind : StatementKind} {text rest valuesAt : Text} {statement : Statement}
    (done : read kind text = .done (valuesAt, statement) rest) :
    statement.kind = kind ∧ statement.Shaped ∧ Spells statement.lexemes text rest := by
  cases kind with
  | insert =>
    obtain ⟨⟨place, row⟩, afterRow, rowRead, done⟩ := bind_eq_done_iff.mp done
    obtain ⟨conflict?, behind, conflictRead, built⟩ := bind_eq_done_iff.mp done
    cases built
    obtain ⟨shaped, spelled⟩ := spells_of_readRow rowRead
    have clause : ConflictShaped conflict? ∧ Spells (conflictLexemes conflict?) afterRow rest := by
      rcases optional_eq_done_iff.mp conflictRead with ⟨target, read, rfl⟩ | ⟨-, rfl, rfl⟩
      · obtain ⟨targeted, more⟩ := spells_of_readOnConflict read
        exact ⟨fun _ same => Option.some.inj same ▸ targeted, more⟩
      · exact ⟨nofun, rfl⟩
    exact ⟨rfl, ⟨shaped, clause.1⟩, spelled.append clause.2⟩
  | upsert =>
    obtain ⟨⟨place, row⟩, afterRow, rowRead, built⟩ := bind_eq_done_iff.mp done
    cases built
    obtain ⟨shaped, spelled⟩ := spells_of_readRow rowRead
    exact ⟨rfl, shaped, spelled⟩
  | update =>
    obtain ⟨update, behind, updateRead, built⟩ := bind_eq_done_iff.mp done
    cases built
    obtain ⟨shaped, spelled⟩ := spells_of_readUpdate updateRead
    exact ⟨rfl, shaped, spelled⟩

end Statement

end BulkSql
