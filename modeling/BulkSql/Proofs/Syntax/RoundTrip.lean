import BulkSql.Proofs.Syntax.Forms
import BulkSql.Proofs.Syntax.Parsing
import BulkSql.Proofs.Syntax.Symbols

/-! # The parser and its grammar

What is parsed is well-formed, and every well-formed statement is parsed from its lexemes with single spaces between
them. So the statements that some text is parsed as are those of the grammar, no fewer and no more.
-/

namespace BulkSql

open Reader

/-! ## Spaced lexemes -/

namespace Lexeme

/-- Lexemes with a single space between neighbours. -/
def spaced (lexemes : List Lexeme) : Text := Text.join [' '] (lexemes.map text)

theorem spaced_cons_cons (first second : Lexeme) (more : List Lexeme) :
    spaced (first :: second :: more) = first.text ++ ' ' :: spaced (second :: more) := by
  simp [spaced, Text.join, List.intercalate_cons_cons]

theorem spaced_append {first second : List Lexeme} (some_ : first ≠ []) (more : second ≠ []) :
    spaced (first ++ second) = spaced first ++ ' ' :: spaced second := by
  induction first with
  | nil => exact absurd rfl some_
  | cons lexeme first ih =>
    cases first with
    | nil =>
      obtain ⟨next, second, rfl⟩ := List.exists_cons_of_ne_nil more
      rw [List.singleton_append, spaced_cons_cons]
      simp [spaced, Text.join]
    | cons next first =>
      rw [List.cons_append, List.cons_append, spaced_cons_cons, spaced_cons_cons, ← List.cons_append, ih (by simp)]
      simp

/-- Where a text is read as a lexeme decides what is left. -/
theorem Reads.rest_unique {lexeme : Lexeme} {text rest other : Text} (reads : lexeme.Reads text rest)
    (also : lexeme.Reads text other) : rest = other := by
  cases lexeme <;> exact (Reply.done.inj (reads.symm.trans also)).2

end Lexeme

theorem Spells.rest_unique {lexemes : List Lexeme} {text rest other : Text} (spells : Spells lexemes text rest)
    (also : Spells lexemes text other) : rest = other := by
  induction lexemes generalizing text with
  | nil => exact spells.symm.trans also
  | cons lexeme lexemes ih =>
    obtain ⟨mid, read, more⟩ := spells
    obtain ⟨mid', read', more'⟩ := also
    rw [read'.rest_unique read] at more'
    exact ih more more'

theorem writtenAs_mark {symbol : Text} (member : symbol ∈ ['.'] :: Lexeme.marks) : WrittenAs [.symbol symbol] symbol := by
  apply writtenAs_symbol
  intro after ends
  have other (c : Char) (foreign : c ∉ [' ', ')', ',', ':']) : after.head? ≠ some c := fun here => foreign (ends c here)
  simp only [Lexeme.marks, List.mem_cons, List.not_mem_nil, or_false] at member
  rcases member with rfl | rfl | rfl | rfl | rfl | rfl | rfl | rfl | rfl | rfl | rfl <;>
    simp [StartsBare, isSpace, other]

namespace WrittenAs

theorem cons_spaced {lexeme : Lexeme} {lexemes : List Lexeme} (first : WrittenAs [lexeme] lexeme.text)
    (more : WrittenAs lexemes (Lexeme.spaced lexemes)) :
    WrittenAs (lexeme :: lexemes) (Lexeme.spaced (lexeme :: lexemes)) := by
  cases lexemes with
  | nil => simpa [Lexeme.spaced, Text.join] using first
  | cons next lexemes =>
    rw [Lexeme.spaced_cons_cons]
    exact first.spaced more

end WrittenAs

/-- Lexemes of the grammar are read back where they are written with spaces between. -/
theorem writtenAs_spaced {lexemes : List Lexeme} (regular : Lexeme.Regular lexemes) (read : AllRead lexemes) :
    WrittenAs lexemes (Lexeme.spaced lexemes) := by
  induction regular with
  | nil => exact fun after _ => rfl
  | mark member _ ih => exact (writtenAs_mark (List.mem_cons_of_mem _ member)).cons_spaced (ih (allRead_cons.mp read).2)
  | dot name _ ih =>
    obtain ⟨-, named, more⟩ := (allRead_cons.mp read).imp_right allRead_cons.mp
    have name_ := (writtenAs_lexeme named fun _ => nofun).cons_spaced (ih more)
    exact (writtenAs_mark (List.mem_cons_self ..)).cons_spaced name_
  | wordy wordy _ ih =>
    obtain ⟨one, more⟩ := allRead_cons.mp read
    exact (writtenAs_lexeme one wordy).cons_spaced (ih more)

/-! ## Spans -/

theorem trimEnd_append_space (text : Text) : Text.trimEnd (text ++ [' ']) = Text.trimEnd text := by
  rw [Text.trimEnd, List.reverse_append, List.reverse_singleton, List.singleton_append,
    List.dropWhile_cons_of_pos (by decide)]
  rfl

theorem trimEnd_append_of_not_isBlank {c : Char} (solid : isBlank c = false) (text : Text) :
    Text.trimEnd (text ++ [c]) = text ++ [c] := by
  rw [Text.trimEnd, List.reverse_append, List.reverse_singleton, List.singleton_append,
    List.dropWhile_cons_of_neg (by simp [solid])]
  simp

namespace RowTarget

/-- The VALUES list of a row with single spaces. -/
def spacedValues (row : RowTarget) : Text := Lexeme.spaced (Lexeme.atomList row.values.atoms)

/-- The list stands between parentheses. -/
theorem spacedValues_eq (row : RowTarget) : ∃ inside, row.spacedValues = '(' :: inside ++ [')'] := by
  let inside := Lexeme.commaList (row.values.atoms.map Expr.lexemes)
  have last := @Lexeme.spaced_append (.symbol ['('] :: inside) [.symbol [')']] (by simp) (by simp)
  have first : ∃ more, Lexeme.spaced (.symbol ['('] :: inside) = '(' :: more := by
    cases inside with
    | nil => exact ⟨[], rfl⟩
    | cons next inside => exact ⟨_, Lexeme.spaced_cons_cons ..⟩
  obtain ⟨more, first⟩ := first
  refine ⟨more ++ [' '], last.trans ?_⟩
  rw [first]
  simp [Lexeme.spaced, Text.join, Lexeme.text]

theorem spanUpTo_spacedValues (row : RowTarget) {tail rest : Text} (gap : tail = rest ∨ tail = ' ' :: rest) :
    Statement.spanUpTo (row.spacedValues ++ tail) rest = row.spacedValues := by
  obtain ⟨inside, list⟩ := row.spacedValues_eq
  have solid : isBlank ')' = false := by decide
  unfold Statement.spanUpTo
  rcases gap with rfl | rfl
  · rw [List.length_append, Nat.add_sub_cancel, List.take_left, list]
    exact trimEnd_append_of_not_isBlank solid _
  · have length : (row.spacedValues ++ ' ' :: rest).length - rest.length = (row.spacedValues ++ [' ']).length := by
      simp only [List.length_append, List.length_cons, List.length_nil]
      omega
    rw [length, List.append_cons row.spacedValues ' ' rest, List.take_left, trimEnd_append_space, list]
    exact trimEnd_append_of_not_isBlank solid _

end RowTarget

/-! ## Statements -/

namespace Statement

/-- The trees of the grammar: the levels of operators are respected, lists are not empty, a row has one value for each
column, and names, types and constants look like ones. -/
structure WellFormed (statement : Statement) : Prop where
  shaped : statement.Shaped
  fits : statement.FitsArity
  forms : ∀ lexeme ∈ statement.lexemes, lexeme.HasForm

/-- The statement with its VALUES list, if it has one, written with single spaces. -/
def respaced : Statement → Statement
  | .insert row conflict? => .insert (row.spanned row.spacedValues) conflict?
  | .upsert row => .upsert (row.spanned row.spacedValues)
  | .update written => .update written

theorem wellFormed_of_parse {kind : StatementKind} {text : Text} {statement : Statement}
    (parsed : parse kind text = .ok statement) : statement.kind = kind ∧ statement.WellFormed := by
  obtain ⟨same, shaped, fits, rest, spelled, -⟩ := spells_of_parse parsed
  exact ⟨same, shaped, fits, allRead_iff_hasForm.mp spelled.allRead⟩

/-- What stands behind the values: nothing, or a clause behind a space. -/
theorem spells_conflict {conflict? : Option ConflictTarget} (read : AllRead (conflictLexemes conflict?)) :
    ∃ tail rest, (tail = rest ∨ tail = ' ' :: rest) ∧ Ends tail ∧ skipLayout tail = rest ∧
      Spells (conflictLexemes conflict?) rest [] ∧
      ∀ before, before ≠ [] → Lexeme.spaced (before ++ conflictLexemes conflict?) = Lexeme.spaced before ++ tail := by
  cases conflict? with
  | none => exact ⟨[], [], .inl rfl, ends_nil, skipLayout_nil, rfl, fun before _ => by simp [conflictLexemes]⟩
  | some target =>
    have written := writtenAs_spaced (regular_conflictLexemes (some target)) read [] ends_nil
    rw [List.append_nil, skipLayout_nil] at written
    refine ⟨' ' :: Lexeme.spaced target.clauseLexemes, _, .inr rfl, ends_cons (by simp) _, ?_, ?_, ?_⟩
    · rw [skipLayout_of_isSpace rfl]
      apply skipLayout_of_startsBare
      rw [ConflictTarget.clauseLexemes, Lexeme.spaced_cons_cons]
      exact startsBare_of_startsOperand rfl _
    · rw [skipLayout_of_startsBare] at written
      · exact written
      · change StartsBare (Lexeme.spaced target.clauseLexemes)
        rw [ConflictTarget.clauseLexemes, Lexeme.spaced_cons_cons]
        exact startsBare_of_startsOperand rfl _
    · exact fun before some_ => Lexeme.spaced_append some_ (by simp [conflictLexemes, ConflictTarget.clauseLexemes])

/-- A row and the clause behind it are parsed from their spaced lexemes. -/
theorem parse_spaced_row {kind : StatementKind} {row : RowTarget} {conflict? : Option ConflictTarget}
    {statement : Statement} (built : ofRow? kind (row.spanned row.spacedValues) conflict? = some statement)
    (shaped : row.Shaped) (targeted : ConflictShaped conflict?)
    (fits : row.columns.length = row.values.atoms.length)
    (read : AllRead (row.lexemes (verb kind) ++ conflictLexemes conflict?)) :
    parse kind (Lexeme.spaced (row.lexemes (verb kind) ++ conflictLexemes conflict?)) = .ok statement := by
  rw [row.lexemes_eq_append, allRead_append, allRead_append] at read
  obtain ⟨⟨readHead, readValues⟩, readClause⟩ := read
  obtain ⟨tail, rest, gap, ends, skipped, clauseSpelled, spaced⟩ := spells_conflict readClause
  have text : Lexeme.spaced (row.lexemes (verb kind) ++ conflictLexemes conflict?) =
      Lexeme.spaced (row.headLexemes (verb kind)) ++ ' ' :: (row.spacedValues ++ tail) := by
    rw [spaced _ (by simp [RowTarget.lexemes]), row.lexemes_eq_append,
      Lexeme.spaced_append (by simp [RowTarget.headLexemes]) (by simp [Lexeme.atomList, Lexeme.parenthesized])]
    simp [RowTarget.spacedValues]
  have open_ : skipLayout (row.spacedValues ++ tail) = row.spacedValues ++ tail := by
    obtain ⟨inside, list⟩ := row.spacedValues_eq
    exact skipLayout_of_startsBare (by simp [list, StartsBare, isSpace])
  have head := writtenAs_spaced (row.regular_headLexemes (verb kind)) readHead (' ' :: (row.spacedValues ++ tail))
    (ends_cons (by simp) _)
  rw [skipLayout_of_isSpace rfl, open_] at head
  have list := writtenAs_spaced (regular_atomList row.values.atoms) readValues tail ends
  rw [skipped] at list
  change Spells _ (skipLayout (row.spacedValues ++ tail)) rest at list
  rw [open_] at list
  have spelled := head.append list
  rw [← row.lexemes_eq_append] at spelled
  obtain ⟨valuesAt, before, rowRead⟩ := readRow_of_spells shaped spelled
  rw [before.rest_unique head, row.spanUpTo_spacedValues gap, ← text] at rowRead
  exact parse_of_readRow built rowRead targeted clauseSpelled (.inl rfl) fits

theorem parse_spaced {statement : Statement} (wellFormed : statement.WellFormed) :
    parse statement.kind (Lexeme.spaced statement.lexemes) = .ok statement.respaced := by
  obtain ⟨shaped, fits, forms⟩ := wellFormed
  have read := allRead_iff_hasForm.mpr forms
  cases statement with
  | insert row conflict? =>
    have built : ofRow? .insert (row.spanned row.spacedValues) conflict? = some (insert row conflict?).respaced := rfl
    exact parse_spaced_row built shaped.1 shaped.2 (fits row rfl) read
  | upsert row =>
    have read' : AllRead (row.lexemes .UPSERT ++ conflictLexemes none) := by
      rw [conflictLexemes, List.append_nil]
      exact read
    have targeted : ConflictShaped none := nofun
    have built : ofRow? .upsert (row.spanned row.spacedValues) none = some (upsert row).respaced := rfl
    have parsed := parse_spaced_row built shaped targeted (fits row rfl) read'
    rw [conflictLexemes, List.append_nil] at parsed
    exact parsed
  | update written =>
    have spelled := writtenAs_spaced written.regular_lexemes read [] ends_nil
    rw [List.append_nil, skipLayout_nil] at spelled
    exact parse_of_update shaped spelled (.inl rfl)

/-- A text is only parsed as a well-formed statement of its kind, and every well-formed statement is parsed from its
lexemes with single spaces between. -/
theorem parse_accepts_grammar :
    (∀ kind text statement, parse kind text = .ok statement → statement.kind = kind ∧ statement.WellFormed) ∧
      ∀ statement : Statement, statement.WellFormed →
        parse statement.kind (Lexeme.spaced statement.lexemes) = .ok statement.respaced :=
  ⟨fun _ _ _ => wellFormed_of_parse, fun _ => parse_spaced⟩

/-- Two signs are kept apart, also where nothing stood between them. -/
theorem parse_accepts_grammar_signs :
    ∃ statement, parse .update "update t set a=-(-+?) where b is not null" = .ok statement ∧ statement.WellFormed ∧
      parse .update "UPDATE t SET a = - ( - + ? ) WHERE b IS NOT NULL" = .ok statement := by
  obtain ⟨readOnly, readAgain⟩ := parse_accepts_grammar
  have checked : (match parse .update "update t set a=-(-+?) where b is not null" with
      | .ok (.update written) => Lexeme.spaced written.lexemes == "UPDATE t SET a = - ( - + ? ) WHERE b IS NOT NULL"
      | _ => false) = true := by decide +kernel
  split at checked
  · next written parsed =>
    obtain ⟨-, wellFormed⟩ := readOnly _ _ _ parsed
    rw [beq_iff_eq] at checked
    exact ⟨.update written, parsed, wellFormed, checked ▸ readAgain _ wellFormed⟩
  · cases checked

end Statement

end BulkSql
