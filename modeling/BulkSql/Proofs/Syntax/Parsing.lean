import BulkSql.Proofs.Syntax.Statements

/-! # Whole texts

A text is parsed as a statement exactly if its lexemes, from where the layout in front ends, are those of a well-shaped
statement. Two texts with the same lexemes are therefore parsed as the same statement, spans of VALUES lists apart.
-/

namespace BulkSql

open Reader

namespace Statement

/-- A row has one value for each column. -/
def FitsArity (statement : Statement) : Prop :=
  ∀ row, statement.row? = some row → row.columns.length = row.values.atoms.length

theorem checkArity_eq_ok_iff {text valuesAt : Text} {statement found : Statement} :
    checkArity text valuesAt statement = .ok found ↔ found = statement ∧ statement.FitsArity := by
  unfold checkArity FitsArity
  cases statement.row? with
  | none => simp [eq_comm]
  | some row =>
    by_cases same : row.columns.length = row.values.atoms.length
    · simp [same, eq_comm]
    · simp [same]

theorem parse_eq_ok_iff {kind : StatementKind} {text : Text} {statement : Statement} :
    parse kind text = .ok statement ↔
      statement.FitsArity ∧ ∃ valuesAt rest, whole kind text = .done (valuesAt, statement) rest := by
  unfold parse
  cases whole kind text with
  | done pair rest =>
    obtain ⟨valuesAt, found⟩ := pair
    simp only [checkArity_eq_ok_iff, Reply.done.injEq, Prod.mk.injEq]
    constructor
    · rintro ⟨rfl, fits⟩
      exact ⟨fits, valuesAt, rest, ⟨rfl, rfl⟩, rfl⟩
    · rintro ⟨fits, _, _, ⟨rfl, rfl⟩, rfl⟩
      exact ⟨rfl, fits⟩
  | fail why => simp
  | halt why => simp

/-- Behind a statement one semicolon may stand and nothing else. -/
def EndsText (rest : Text) : Prop := rest = [] ∨ symbol [';'] rest = .done [';'] []

/-- The statement stands behind layout, and what follows it ends the text. -/
theorem read_of_whole {kind : StatementKind} {text rest valuesAt : Text} {statement : Statement}
    (done : whole kind text = .done (valuesAt, statement) rest) :
    ∃ behind, read kind (skipLayout text) = .done (valuesAt, statement) behind ∧ EndsText behind := by
  obtain ⟨_, start, skipped, done⟩ := bind_eq_done_iff.mp done
  obtain ⟨found, behind, named, done⟩ := bind_eq_done_iff.mp done
  obtain ⟨semicolon?, afterSemicolon, semicolon, done⟩ := bind_eq_done_iff.mp done
  obtain ⟨_, last, ended, built⟩ := bind_eq_done_iff.mp done
  cases skipped
  cases built
  refine ⟨behind, named_eq_done_iff.mp named, ?_⟩
  have nothing : afterSemicolon = [] := by
    cases afterSemicolon with
    | nil => rfl
    | cons c more => cases ended
  subst nothing
  rcases optional_eq_done_iff.mp semicolon with ⟨written, read, -⟩ | ⟨-, -, same⟩
  · obtain ⟨rfl, -⟩ := symbol_eq_done_iff.mp read
    exact .inr read
  · exact .inl same.symm

/-- What is parsed as a statement of a kind is one, well-shaped and spelled up to the end of the text. -/
theorem spells_of_parse {kind : StatementKind} {text : Text} {statement : Statement}
    (parsed : parse kind text = .ok statement) :
    statement.kind = kind ∧ statement.Shaped ∧ statement.FitsArity ∧
      ∃ rest, Spells statement.lexemes (skipLayout text) rest ∧ EndsText rest := by
  obtain ⟨fits, valuesAt, last, done⟩ := parse_eq_ok_iff.mp parsed
  obtain ⟨rest, done, ends⟩ := read_of_whole done
  obtain ⟨same, shaped, spelled⟩ := spells_of_read done
  exact ⟨same, shaped, fits, rest, spelled, ends⟩

/-- What ends a text may stand behind a statement. -/
theorem whole_of_read {kind : StatementKind} {text valuesAt rest : Text} {statement : Statement}
    (done : read kind (skipLayout text) = .done (valuesAt, statement) rest) (ends : EndsText rest) :
    whole kind text = .done (valuesAt, statement) [] := by
  have skipped : layout text = .done () (skipLayout text) := rfl
  have closed : ∃ semicolon?, optional (symbol [';']) rest = .done semicolon? [] := by
    rcases ends with rfl | semicolon
    · exact ⟨none, optional_of_fails (fails_symbol (by simp))⟩
    · exact ⟨_, optional_of_done semicolon⟩
  obtain ⟨semicolon?, closed⟩ := closed
  have ended : endOfInput [] = .done () [] := rfl
  refine (bind_of_done skipped _).trans ((bind_of_done (named_eq_done_iff.mpr done) _).trans ?_)
  exact (bind_of_done closed _).trans (bind_of_done ended _)

theorem EndsText.head?_ne_bracket {rest : Text} (ends : EndsText rest) : rest.head? ≠ some '[' := by
  rcases ends with rfl | semicolon
  · exact nofun
  · obtain ⟨-, mid, rfl, -⟩ := symbol_eq_done_iff.mp semicolon
    exact fun same => absurd same (by simp)

/-- No expression goes on with what ends a text. -/
theorem EndsText.stops {rest : Text} (ends : EndsText rest) : Expr.Stops 0 rest := by
  rcases ends with rfl | semicolon
  · exact Expr.stops_of_none rfl 0
  · obtain ⟨-, mid, rfl, -⟩ := symbol_eq_done_iff.mp semicolon
    exact Expr.stops_of_none rfl 0

theorem EndsText.fails_readOnConflict {rest : Text} (ends : EndsText rest) : Fails readOnConflict rest := by
  have missing : Fails (Reader.keyword .ON) rest := by
    apply fails_keyword
    rcases ends with rfl | semicolon
    · decide
    · obtain ⟨-, mid, rfl, -⟩ := symbol_eq_done_iff.mp semicolon
      rw [List.singleton_append, lookup?_leadWord_of_not_isAlpha (by decide)]
      exact nofun
  exact (missing.bind _).bind _

/-! ## UPDATE -/

/-- What is parsed as an UPDATE is one, well-shaped and spelled. -/
theorem update_of_parse {sql : Text} {statement : Statement} (parsed : parse .update sql = .ok statement) :
    ∃ update rest, statement = .update update ∧ update.Shaped ∧ Spells update.lexemes (skipLayout sql) rest := by
  obtain ⟨same, shaped, -, rest, spelled, -⟩ := spells_of_parse parsed
  cases statement with
  | update update => exact ⟨update, rest, rfl, shaped, spelled⟩
  | insert | upsert => cases same

theorem parse_of_update {text rest : Text} {update : Update} (shaped : update.Shaped)
    (spells : Spells update.lexemes (skipLayout text) rest) (ends : EndsText rest) :
    parse .update text = .ok (.update update) := by
  have read := readUpdate_of_spells shaped spells ends.stops
  refine parse_eq_ok_iff.mpr ⟨nofun, [], [], whole_of_read ?_ ends⟩
  exact bind_of_done read _

/-! ## Rows -/

/-- A statement of a kind with a row. Only an INSERT lets conflicts pass. -/
def ofRow? : StatementKind → RowTarget → Option ConflictTarget → Option Statement
  | .insert, row, conflict? => some (.insert row conflict?)
  | .upsert, row, none => some (.upsert row)
  | _, _, _ => none

/-- Whether there is such a statement does not depend on the row. -/
theorem exists_ofRow? {kind : StatementKind} {row : RowTarget} {conflict? : Option ConflictTarget}
    {statement : Statement}
    (built : ofRow? kind row conflict? = some statement) (other : RowTarget) :
    ∃ statement', ofRow? kind other conflict? = some statement' := by
  cases kind with
  | insert => exact ⟨_, rfl⟩
  | upsert =>
    cases conflict? with
    | none => exact ⟨_, rfl⟩
    | some target => cases built
  | update => cases conflict? <;> cases built

/-- What is parsed as a statement with a row has one, well-shaped, spelled and with a value for each column. -/
theorem row_of_parse {kind : StatementKind} (hasRow : kind ≠ .update) {sql : Text} {statement : Statement}
    (parsed : parse kind sql = .ok statement) :
    ∃ row conflict? rest, ofRow? kind row conflict? = some statement ∧ row.Shaped ∧ ConflictShaped conflict? ∧
      row.columns.length = row.values.atoms.length ∧
      Spells (row.lexemes (verb kind) ++ conflictLexemes conflict?) (skipLayout sql) rest := by
  obtain ⟨same, shaped, fits, rest, spelled, -⟩ := spells_of_parse parsed
  cases statement with
  | insert row conflict? =>
    cases same
    exact ⟨row, conflict?, rest, rfl, shaped.1, shaped.2, fits row rfl, spelled⟩
  | upsert row =>
    cases same
    exact ⟨row, none, rest, rfl, shaped, nofun, fits row rfl, spelled.append rfl⟩
  | update update => exact absurd same.symm hasRow

/-- A text that starts with a row and spells the clause behind it is parsed as their statement. -/
theorem parse_of_readRow {kind : StatementKind} {text valuesAt mid rest : Text} {row : RowTarget}
    {conflict? : Option ConflictTarget} {statement : Statement} (built : ofRow? kind row conflict? = some statement)
    (rowRead : readRow (verb kind) (skipLayout text) = .done (valuesAt, row) mid)
    (targeted : ConflictShaped conflict?) (spells : Spells (conflictLexemes conflict?) mid rest) (ends : EndsText rest)
    (fits : row.columns.length = row.values.atoms.length) : parse kind text = .ok statement := by
  cases kind with
  | update => cases conflict? <;> cases built
  | insert =>
    cases built
    have conflictRead : optional readOnConflict mid = .done conflict? rest := by
      cases conflict? with
      | some target => exact optional_of_done (readOnConflict_of_spells (targeted target rfl) spells)
      | none =>
        obtain rfl : mid = rest := spells
        exact optional_of_fails ends.fails_readOnConflict
    refine parse_eq_ok_iff.mpr ⟨?_, valuesAt, [], whole_of_read ?_ ends⟩
    · rintro _ same
      cases same
      exact fits
    · exact (bind_of_done rowRead _).trans (bind_of_done conflictRead _)
  | upsert =>
    cases conflict? with
    | some target => cases built
    | none =>
      cases built
      obtain rfl : mid = rest := spells
      refine parse_eq_ok_iff.mpr ⟨?_, valuesAt, [], whole_of_read ?_ ends⟩
      · rintro _ same
        cases same
        exact fits
      · exact bind_of_done rowRead _

theorem parse_of_row {kind : StatementKind} {text rest : Text} {row : RowTarget} {conflict? : Option ConflictTarget}
    {statement : Statement} (built : ofRow? kind row conflict? = some statement) (shaped : row.Shaped)
    (targeted : ConflictShaped conflict?) (fits : row.columns.length = row.values.atoms.length)
    (spells : Spells (row.lexemes (verb kind) ++ conflictLexemes conflict?) (skipLayout text) rest)
    (ends : EndsText rest) :
    ∃ span statement', ofRow? kind (row.spanned span) conflict? = some statement' ∧ parse kind text = .ok statement' := by
  obtain ⟨mid, rowSpelled, clauseSpelled⟩ := spells_append_iff.mp spells
  obtain ⟨valuesAt, -, rowRead⟩ := readRow_of_spells shaped rowSpelled
  obtain ⟨statement', built'⟩ := exists_ofRow? built (row.spanned (spanUpTo valuesAt mid))
  exact ⟨_, statement', built', parse_of_readRow built' rowRead targeted clauseSpelled ends fits⟩

/-! ## Statements of all kinds -/

/-- The statement without the text of its VALUES list. -/
def unspanned : Statement → Statement
  | insert row conflict? => insert (row.spanned []) conflict?
  | upsert row => upsert (row.spanned [])
  | update written => update written

/-- A well-shaped statement is parsed wherever a text spells it up to its end. Only the span of its VALUES list depends
on the text. -/
theorem parse_of_spells {statement : Statement} {text rest : Text} (shaped : statement.Shaped)
    (fits : statement.FitsArity) (spells : Spells statement.lexemes (skipLayout text) rest) (ends : EndsText rest) :
    ∃ found, parse statement.kind text = .ok found ∧ found.unspanned = statement.unspanned := by
  cases statement with
  | insert row conflict? =>
    obtain ⟨span, found, built, parsed⟩ :=
      @parse_of_row .insert _ _ _ _ _ rfl shaped.1 shaped.2 (fits row rfl) spells ends
    cases built
    exact ⟨_, parsed, rfl⟩
  | upsert row =>
    have alone : Spells (row.lexemes .UPSERT ++ conflictLexemes none) (skipLayout text) rest := spells.append rfl
    obtain ⟨span, found, built, parsed⟩ :=
      @parse_of_row .upsert _ _ _ none _ rfl shaped nofun (fits row rfl) alone ends
    cases built
    exact ⟨_, parsed, rfl⟩
  | update update => exact ⟨_, parse_of_update shaped spells ends, rfl⟩

end Statement

end BulkSql
