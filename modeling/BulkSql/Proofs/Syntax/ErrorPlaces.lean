import BulkSql.Proofs.Syntax.GrammarRefusals
import BulkSql.Proofs.Syntax.Lossless
import BulkSql.Proofs.Text.Lines

/-! # Where errors are reported

Every error is reported at a place that reading the text came to: at its start, where no layout starts, or right behind a
point that was to be followed by digits. Its line and column are those of this place and of no other.
-/

namespace BulkSql

open Reader

/-- The text is refused with the error, as a statement of some kind or when it is cut into tokens. -/
def RefusedWith (text : Text) (error : ParseError) : Prop :=
  (∃ kind, Statement.parse kind text = .error error) ∨ tokenize text = .error error

namespace ParseError

/-- The error stands between the two parts of a text. -/
structure StandsBetween (error : ParseError) (before rest : Text) : Prop where
  position : error.position = Text.byteSize before
  line : error.line = Text.lineAfter before
  column : error.column = Text.columnAfter before
  /-- it is the start, no layout starts there, or it is behind a point -/
  reached : before = [] ∨ skipLayout rest = rest ∨ ['.'] <:+ before
  /-- the character there is named if no token starts with it -/
  token? : error.cause ≠ .unrecognized ∧ error.token? = offending? (before ++ rest) error.position ∨
    error.cause = .unrecognized ∧ skipLayout rest = rest ∧ ∃ c more, rest = c :: more ∧ error.token? = some [c]

variable {before rest : Text}

theorem standsBetween_build {cause : ParseCause} {token? : Option Text} (expected : List Text)
    (reached : before = [] ∨ skipLayout rest = rest ∨ ['.'] <:+ before)
    (names : cause ≠ .unrecognized ∧ token? = offending? (before ++ rest) (Text.byteSize before) ∨
      cause = .unrecognized ∧ skipLayout rest = rest ∧ ∃ c more, rest = c :: more ∧ token? = some [c]) :
    (build (before ++ rest) (Text.byteSize before) cause token? expected).StandsBetween before rest where
  position := rfl
  line := congrArg Text.lineAfter (Text.uptoOffset_append before rest)
  column := congrArg Text.columnAfter (Text.uptoOffset_append before rest)
  reached := reached
  token? := names

theorem standsBetween_unexpected (expected : List Text) (reached : before = [] ∨ skipLayout rest = rest ∨ ['.'] <:+ before) :
    (unexpected (before ++ rest) (Text.byteSize before) expected).StandsBetween before rest :=
  standsBetween_build expected reached (.inl ⟨by decide, rfl⟩)

theorem standsBetween_arity (columns values : Nat) (bare : skipLayout rest = rest) :
    (arity (before ++ rest) (Text.byteSize before) columns values).StandsBetween before rest := by
  have parses : ParseCause.arity columns values ≠ .unrecognized := nofun
  exact standsBetween_build [] (.inr (.inl bare)) (.inl ⟨parses, rfl⟩)

theorem standsBetween_unrecognized (bare : skipLayout rest = rest) (some_ : rest ≠ []) :
    (unrecognized (before ++ rest) rest).StandsBetween before rest := by
  obtain ⟨c, more, rfl⟩ := List.exists_cons_of_ne_nil some_
  rw [unrecognized, Text.offsetOf_append]
  exact standsBetween_build [] (.inr (.inl bare)) (.inr ⟨rfl, bare, c, more, rfl, rfl⟩)

end ParseError

/-! ## Statements behind their verbs -/

namespace Statement

/-- What a statement goes on with behind its verb. -/
def rowBehindVerb : Reader (Text × RowTarget) := do
  Reader.keyword .INTO
  let table ← readTable
  let columns ← readNames
  let (valuesAt, values) ← readValues
  pure (valuesAt, { table, columns, values })

def updateBehindVerb : Reader Update := do
  let table ← readTable
  Reader.keyword .SET
  let assignments ← commaSeparated readSetClause
  Reader.keyword .WHERE
  let condition ← Expr.read
  pure { table, assignments, condition }

def behindVerb : StatementKind → Reader (Text × Statement)
  | .insert => do
    let (valuesAt, row) ← rowBehindVerb
    let conflict? ← optional readOnConflict
    pure (valuesAt, .insert row conflict?)
  | .upsert => do
    let (valuesAt, row) ← rowBehindVerb
    pure (valuesAt, .upsert row)
  | .update => do
    let statement ← updateBehindVerb
    pure ([], .update statement)

theorem readRow_eq (verb : Keyword) : readRow verb = Reader.keyword verb >>= fun _ => rowBehindVerb := by
  unfold readRow rowBehindVerb
  rw [keywords, keywords, keywords, bind_assoc]
  refine congrArg (Reader.keyword verb >>= ·) (funext fun _ => ?_)
  rw [bind_assoc]
  rfl

theorem read_eq (kind : StatementKind) : read kind = Reader.keyword (verb kind) >>= fun _ => behindVerb kind := by
  cases kind with
  | insert =>
    rw [read, readRow_eq, bind_assoc]
    rfl
  | upsert =>
    rw [read, readRow_eq, bind_assoc]
    rfl
  | update =>
    rw [read, readUpdate, bind_assoc]
    rfl

/-- What follows a statement. -/
def ending (found : Text × Statement) : Reader (Text × Statement) := do
  let _ ← optional (symbol [';'])
  endOfInput
  pure found

end Statement

namespace Reader.Accounts

open Statement

theorem rowBehindVerb : Accounts False Statement.rowBehindVerb :=
  (keyword _).bind fun _ => readTable.of_true.bind fun _ => readNames.of_true.bind fun _ =>
    readValues.bind fun _ => pure _

theorem updateBehindVerb : Accounts False Statement.updateBehindVerb :=
  readTable.of_true.bind fun _ => (keyword _).bind fun _ => (commaSeparated readSetClause).of_true.bind fun _ =>
    (keyword _).bind fun _ => expression.of_true.bind fun _ => pure _

theorem behindVerb (kind : StatementKind) : Accounts False (Statement.behindVerb kind) := by
  cases kind with
  | insert => exact rowBehindVerb.bind fun _ => (optional readOnConflict).bind fun _ => pure _
  | upsert => exact rowBehindVerb.bind fun _ => pure _
  | update => exact updateBehindVerb.bind fun _ => pure _

theorem read (kind : StatementKind) : Accounts False (Statement.read kind) := by
  rw [read_eq]
  exact (keyword _).bind fun _ => behindVerb kind

theorem ending (found : Text × Statement) : Accounts True (Statement.ending found) :=
  (optional (symbol _)).bind fun _ => endOfInput.bind fun _ => pure _

end Reader.Accounts

namespace Statement

section

variable {kind : StatementKind} {text rest valuesAt : Text}

/-- The values of a row are behind the word VALUES and the layout there. -/
theorem valuesAt_of_rowBehindVerb {row : RowTarget} (bare : skipLayout text = text)
    (done : rowBehindVerb text = .done (valuesAt, row) rest) : valuesAt <:+ text ∧ skipLayout valuesAt = valuesAt := by
  obtain ⟨_, afterInto, into, done⟩ := bind_eq_done_iff.mp done
  obtain ⟨_, afterTable, tableRead, done⟩ := bind_eq_done_iff.mp done
  obtain ⟨_, afterNames, namesRead, done⟩ := bind_eq_done_iff.mp done
  obtain ⟨⟨place, values⟩, _, valuesRead, built⟩ := bind_eq_done_iff.mp done
  obtain ⟨_, start, valuesWord, listed⟩ := bind_eq_done_iff.mp valuesRead
  obtain ⟨rfl, -⟩ := located_eq_done_iff.mp listed
  cases built
  obtain ⟨word, bare⟩ := (Accounts.keyword .INTO).left bare into
  obtain ⟨table, bare⟩ := Accounts.readTable.left bare tableRead
  obtain ⟨names, bare⟩ := Accounts.readNames.left bare namesRead
  obtain ⟨values, bare⟩ := (Accounts.keyword .VALUES).left bare valuesWord
  exact ⟨values.trans (names.trans (table.trans word)), bare⟩

theorem valuesAt_of_behindVerb {statement : Statement} {row : RowTarget} (hasRow : statement.row? = some row)
    (bare : skipLayout text = text) (done : behindVerb kind text = .done (valuesAt, statement) rest) :
    valuesAt <:+ text ∧ skipLayout valuesAt = valuesAt := by
  cases kind with
  | insert =>
    obtain ⟨⟨place, found⟩, _, rowRead, done⟩ := bind_eq_done_iff.mp done
    obtain ⟨_, _, -, built⟩ := bind_eq_done_iff.mp done
    cases built
    exact valuesAt_of_rowBehindVerb bare rowRead
  | upsert =>
    obtain ⟨⟨place, found⟩, _, rowRead, built⟩ := bind_eq_done_iff.mp done
    cases built
    exact valuesAt_of_rowBehindVerb bare rowRead
  | update =>
    obtain ⟨_, _, -, built⟩ := bind_eq_done_iff.mp done
    cases built
    cases hasRow

end

end Statement

/-! ## Errors of statements -/

namespace Statement

variable {kind : StatementKind} {text valuesAt : Text} {why : Failure}

/-- A statement is refused behind the layout in front of it, or for what follows it. -/
theorem refuses_whole_iff :
    Refuses (whole kind) text why ↔
      (∃ inner, Refuses (read kind) (skipLayout text) inner ∧ why = .within kind.name inner) ∨
        ∃ found rest, read kind (skipLayout text) = .done found rest ∧ Refuses (ending found) rest why := by
  have skipped : layout text = .done () (skipLayout text) := rfl
  unfold whole
  rw [refuses_bind_of_done skipped, refuses_bind_iff, refuses_named_iff]
  simp only [named_eq_done_iff]
  rfl

theorem liesIn_of_whole (refuses : Refuses (whole kind) text why) : LiesIn (skipLayout text) why := by
  have bare := skipLayout_skipLayout text
  rcases refuses_whole_iff.mp refuses with ⟨inner, gaveUp, rfl⟩ | ⟨found, rest, done, ended⟩
  · exact liesIn_within.mpr ((Accounts.read kind).liesIn bare gaveUp)
  · obtain ⟨suffix, bareRest⟩ := (Accounts.read kind).left bare done
    exact ((Accounts.ending found).liesIn bareRest ended).of_suffix suffix

theorem arity_of_checkArity {statement : Statement} {error : ParseError}
    (refused : checkArity text valuesAt statement = .error error) :
    ∃ row, statement.row? = some row ∧
      error = .arity text (Text.offsetOf text valuesAt) row.columns.length row.values.atoms.length := by
  unfold checkArity at refused
  cases hasRow : statement.row? with
  | none =>
    rw [hasRow] at refused
    cases refused
  | some row =>
    rw [hasRow] at refused
    dsimp only at refused
    split at refused
    · cases refused
    · cases refused
      exact ⟨row, rfl, rfl⟩

/-- A refused statement either breaks off where the grammar does not go on, or has a row of the wrong length. -/
theorem error_cases {error : ParseError} (refused : parse kind text = .error error) :
    (∃ why, Refuses (whole kind) text why ∧ error = .ofFailure text why) ∨
      ∃ behind statement rest valuesAt columns values, Reader.keyword (verb kind) (skipLayout text) = .done () behind ∧
        behindVerb kind behind = .done (valuesAt, statement) rest ∧ valuesAt <:+ behind ∧
        skipLayout valuesAt = valuesAt ∧ error = .arity text (Text.offsetOf text valuesAt) columns values := by
  unfold parse at refused
  cases reply : whole kind text with
  | done found rest =>
    obtain ⟨valuesAt, statement⟩ := found
    rw [reply] at refused
    obtain ⟨row, hasRow, rfl⟩ := arity_of_checkArity refused
    obtain ⟨_, statementRead, -⟩ := read_of_whole reply
    rw [read_eq] at statementRead
    obtain ⟨_, behind, verbRead, done⟩ := bind_eq_done_iff.mp statementRead
    obtain ⟨-, bare⟩ := (Accounts.keyword _).left (skipLayout_skipLayout text) verbRead
    obtain ⟨suffix, bare⟩ := valuesAt_of_behindVerb hasRow bare done
    exact .inr ⟨behind, statement, _, valuesAt, _, _, verbRead, done, suffix, bare, rfl⟩
  | fail why =>
    rw [reply] at refused
    cases refused
    exact .inl ⟨why, .inl reply, rfl⟩
  | halt why =>
    rw [reply] at refused
    cases refused
    exact .inl ⟨why, .inr reply, rfl⟩

theorem exists_standsBetween {error : ParseError} (refused : parse kind text = .error error) :
    ∃ before rest, text = before ++ rest ∧ error.StandsBetween before rest := by
  rcases error_cases refused with
    ⟨why, refuses, rfl⟩ | ⟨behind, -, -, valuesAt, columns, values, verbRead, -, suffix, bare, rfl⟩
  · unfold ParseError.ofFailure
    dsimp only
    generalize (why.furthest text).expected = expected
    rcases Failure.furthest_cases text why with start | ⟨⟨place, wanted⟩, member, same⟩
    · rw [start]
      exact ⟨[], text, rfl, @ParseError.standsBetween_unexpected [] text expected (.inl rfl)⟩
    · obtain ⟨suffix, reached⟩ := (liesIn_of_whole refuses _ member).of_suffix (skipLayout_suffix text)
      obtain ⟨before, rfl⟩ := suffix
      rw [same, Text.offsetOf_append]
      refine ⟨before, place, rfl, ParseError.standsBetween_unexpected expected (.inr (reached.imp_right ?_))⟩
      rintro ⟨front, split⟩
      rw [← List.singleton_append, ← List.append_assoc] at split
      exact ⟨front, List.append_cancel_right split⟩
  · obtain ⟨verbSuffix, -⟩ := (Accounts.keyword _).left (skipLayout_skipLayout text) verbRead
    obtain ⟨before, rfl⟩ := suffix.trans (verbSuffix.trans (skipLayout_suffix text))
    rw [Text.offsetOf_append]
    exact ⟨before, valuesAt, rfl, ParseError.standsBetween_arity columns values bare⟩

/-- The error that a text is refused with, if it is. -/
def refusal? (kind : StatementKind) (text : Text) : Option ParseError :=
  match parse kind text with
  | .ok _ => none
  | .error error => some error

theorem refusal?_eq_some_iff {error : ParseError} : refusal? kind text = some error ↔ parse kind text = .error error := by
  unfold refusal?
  cases parse kind text <;> simp

end Statement

/-! ## Errors of token lists -/

theorem exists_standsBetween_of_tokenize {text : Text} {error : ParseError} (refused : tokenize text = .error error) :
    ∃ before rest, text = before ++ rest ∧ error.StandsBetween before rest := by
  obtain ⟨tokens, last, cut, stuck⟩ := CutInto.exists_cut text 0
  cases last with
  | nil => cases refused.symm.trans cut.tokenize_eq
  | cons c rest =>
    have some_ := List.cons_ne_nil c rest
    cases refused.symm.trans (cut.tokenize_of_stuck some_ stuck)
    obtain ⟨before, rfl, -⟩ := cut.exists_front
    exact ⟨before, _, rfl, ParseError.standsBetween_unrecognized (not_startsLayout_iff.mp cut.bare_last) some_⟩

theorem RefusedWith.exists_standsBetween {text : Text} {error : ParseError} (refused : RefusedWith text error) :
    ∃ before rest, text = before ++ rest ∧ error.StandsBetween before rest := by
  rcases refused with ⟨kind, refused⟩ | refused
  · exact Statement.exists_standsBetween refused
  · exact exists_standsBetween_of_tokenize refused

/-! ## Coordinates -/

/-- The coordinates of an error name one place. It is where a character starts, or the end of the text, so that the text
can be cut there; as many line feeds stand before it as lines are counted, and behind the characters that its column
counts its line goes on as the text does. No other place has this line and column, as none has this offset. -/
theorem coordinates_decide_place {text : Text} {error : ParseError} (refused : RefusedWith text error) :
    ∃ before rest, text = before ++ rest ∧ error.position = Text.byteSize before ∧
      error.position ≤ Text.byteSize text ∧ Text.fromOffset? text error.position = some rest ∧
      error.line = 1 + before.count '\n' ∧ 1 ≤ error.column ∧
      (∃ line, (Text.lines text)[error.line - 1]? = some line ∧ error.column - 1 ≤ line.length ∧
        line.drop (error.column - 1) = rest.takeWhile (· != '\n')) ∧
      ∀ before' rest', text = before' ++ rest' →
        (Text.lineAfter before' = error.line ∧ Text.columnAfter before' = error.column ↔
          Text.byteSize before' = error.position) := by
  obtain ⟨before, rest, rfl, position, line, column, -, -⟩ := refused.exists_standsBetween
  have size : Text.byteSize before ≤ Text.byteSize (before ++ rest) := by
    rw [Text.byteSize_append]
    exact Nat.le_add_right ..
  refine ⟨before, rest, rfl, position, position ▸ size, position ▸ Text.fromOffset?_append before rest,
    line.trans (Nat.add_comm ..), column ▸ Nat.le_add_left .., ⟨Text.lastLine before ++ Text.firstLine rest, ?_, ?_, ?_⟩,
    fun before' rest' same => ?_⟩
  · rw [line]
    exact Text.lines_getElem? before rest
  · rw [column, Text.columnAfter_eq, Nat.add_sub_cancel, List.length_append]
    exact Nat.le_add_right ..
  · rw [column, Text.columnAfter_eq, Nat.add_sub_cancel, List.drop_left]
    rfl
  · rw [line, column, position]
    constructor
    · rintro ⟨sameLine, sameColumn⟩
      rw [Text.eq_of_same_coordinates same sameLine sameColumn]
    · intro sameSize
      rw [Text.eq_of_byteSize same sameSize]
      exact ⟨rfl, rfl⟩

/-- A name of two bytes on the second line, behind another one on the first. -/
theorem coordinates_decide_place_on_second_line :
    let sql : Text := "update \"ü\"\n  set é = 1".toList
    let error : ParseError :=
      { cause := .unexpected, token? := some ['é'], position := 18, line := 2, column := 7,
        expected := ["\"", "identifier", "_"] }
    RefusedWith sql error ∧
      ∃ before rest, sql = before ++ rest ∧ Text.byteSize before = 18 ∧ before.count '\n' = 1 ∧
        rest.takeWhile (· != '\n') = "é = 1".toList := by
  intro sql error
  have refused : RefusedWith sql error := .inl ⟨.update, Statement.refusal?_eq_some_iff.mp (by decide +kernel)⟩
  obtain ⟨before, rest, split, position, -, -, line, -, ⟨written, found, -, goesOn⟩, -⟩ := coordinates_decide_place refused
  have second : (Text.lines sql)[1]? = some "  set é = 1".toList := by decide +kernel
  cases second.symm.trans found
  exact ⟨refused, before, rest, split, position.symm, Nat.add_left_cancel line.symm, goesOn.symm⟩

end BulkSql
