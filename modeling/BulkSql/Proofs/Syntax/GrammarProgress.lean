import BulkSql.Proofs.Syntax.Levels
import BulkSql.Proofs.Syntax.Repetitions
import BulkSql.Syntax.TokenList

/-! # Progress of the grammar

Every reader of the grammar leaves a suffix, and all but layout and what may be missing take something. Expressions and
atoms call themselves at shorter suffixes only.
-/

namespace BulkSql

namespace Reader

/-! ## Lexemes -/

namespace Takes

variable {α : Type} {least : Nat}

theorem layout : Takes 0 layout := by
  apply of_suffix
  intro text _ rest done
  cases done
  exact skipLayout_suffix text

theorem lexeme {raw : Reader α} (takes : Takes least raw) : Takes least (Reader.lexeme raw) :=
  takes.bind fun _ => layout.bind fun _ => pure _

theorem digits : Takes 1 digits := by
  intro text written rest done
  obtain ⟨rfl, rfl, some_⟩ := digits_eq_done_iff.mp done
  exact takes_run isDecimalDigit text _ _ (run_eq_done_iff.mpr ⟨rfl, rfl, some_⟩)

theorem oneOf (set : List Char) : Takes 1 (oneOf set) := by
  intro text written rest done
  obtain ⟨c, -, rfl, rfl⟩ := oneOf_eq_done_iff.mp done
  exact ⟨List.suffix_cons .., Nat.le_refl _⟩

theorem exponent : Takes 2 exponent :=
  (oneOf _).bind fun _ => (oneOf _).optional.bind fun _ => digits.bind fun _ => pure _

theorem fraction : Takes 2 fraction :=
  (takes_exactly ['.']).bind fun _ => digits.bind fun _ => pure _

theorem rawNumber : Takes 1 rawNumber := by
  refine firstOf (List.forall_mem_cons.mpr ⟨?_, List.forall_mem_singleton.mpr ?_⟩)
  · exact digits.bind fun _ => fraction.optional.bind fun _ => exponent.optional.bind fun _ => pure _
  · exact (fraction.bind fun _ => exponent.optional.bind fun _ => pure _).mono (Nat.le_succ 1)

theorem rawWord : Takes 1 rawWord := by
  have parts : Takes 1 wordOfParts := by
    have head : Takes 1 (Reader.firstOf [run isLetter, exactly ['_']]) :=
      firstOf (List.forall_mem_cons.mpr ⟨takes_run _, List.forall_mem_singleton.mpr (takes_exactly ['_'])⟩)
    exact head.bind fun _ => takes_wordPart.many.bind fun _ => pure _
  exact fun text written rest done => parts text written rest (rawWord_eq_done_iff_parts.mp done)

/-- A quoted text has two quotes at least. -/
theorem rawQuoted (quote : Char) : Takes 2 (rawQuoted quote) := by
  have parts : Takes 2 (quotedOfParts quote) :=
    (takes_exactly [quote]).bind fun _ => (takes_quotedPart quote).many.bind fun _ =>
      (takes_exactly [quote]).bind fun _ => pure _
  exact fun text written rest done => parts text written rest (rawQuoted_eq_done_iff_parts.mp done)

theorem rawKeyword (keyword : Keyword) : Takes 1 (rawKeyword keyword) := by
  intro text written rest done
  obtain ⟨rfl, rfl, found⟩ := rawKeyword_eq_done_iff.mp done
  exact takes_run isWordChar text _ _ (run_eq_done_iff.mpr ⟨rfl, rfl, Keyword.ne_nil_of_lookup? found⟩)

theorem symbol (wanted : Text) : Takes wanted.length (symbol wanted) := (takes_exactly wanted).lexeme

theorem keywordText (keyword : Keyword) : Takes 1 (keywordText keyword) := (rawKeyword keyword).lexeme

theorem keyword (word : Keyword) : Takes 1 (Reader.keyword word) := (keywordText word).bind fun _ => pure _

theorem keywords (words : List Keyword) : Takes words.length (keywords words) := by
  induction words with
  | nil => exact pure ()
  | cons first more ih =>
    rw [List.length_cons, Nat.add_comm]
    exact (keyword first).bind fun _ => ih

theorem word : Takes 1 word := rawWord.lexeme

theorem quotedName : Takes 2 quotedName := (rawQuoted '"').lexeme

theorem bareName : Takes 1 bareName :=
  fun text name rest done => word text name rest (bareName_eq_done_iff.mp done).1

theorem identifier : Takes 1 identifier :=
  firstOf (List.forall_mem_cons.mpr ⟨quotedName.mono (Nat.le_succ 1), List.forall_mem_singleton.mpr bareName⟩)

theorem number : Takes 1 number := rawNumber.lexeme

theorem string : Takes 2 string := (rawQuoted '\'').lexeme

theorem placeholder : Takes 1 placeholder := symbol ['?']

theorem typeName : Takes 1 typeName := by
  have name : Takes 1 (Reader.firstOf [Reader.rawWord, Reader.rawQuoted '"']) :=
    firstOf (List.forall_mem_cons.mpr ⟨rawWord, List.forall_mem_singleton.mpr ((rawQuoted '"').mono (Nat.le_succ 1))⟩)
  exact (name.bind fun _ => (takes_exactly _).optional.bind fun _ => pure _).lexeme

/-! ## Parts of expressions -/

theorem readPlaceholder : Takes 1 Expr.readPlaceholder := placeholder.bind fun _ => pure _

theorem literalOf {kind : LiteralKind} {text : Reader Text} (takes : Takes least text) :
    Takes least (Expr.literalOf kind text) := takes.bind fun _ => pure _

theorem readLiteral : Takes 1 Expr.readLiteral := by
  apply firstOf
  simp only [List.forall_mem_cons]
  exact ⟨literalOf (keywordText _), literalOf (keywordText _), literalOf (keywordText _), literalOf number,
    literalOf (string.mono (Nat.le_succ 1)), List.forall_mem_nil _⟩

theorem readDotted : Takes 1 Expr.readDotted := by
  have part : Takes 2 (do let _ ← Reader.symbol ['.']; Reader.identifier) :=
    (symbol ['.']).bind fun _ => identifier
  refine identifier.bind fun first => part.optional.bind fun second? => (?_ : Takes 0 _)
  cases second? with
  | none => exact pure _
  | some second => exact pure _

theorem readColumn : Takes 1 Expr.readColumn := readDotted.bind fun _ => pure _

theorem castMark : Takes 3 Expr.castMark := (symbol [':', ':']).bind fun _ => typeName

theorem operator {op : α} (written : Text) : Takes written.length (Expr.operator written op) :=
  (symbol written).bind fun _ => pure _

theorem logicalOperator (word : Keyword) (op : LogicalOp) : Takes 1 (Expr.logicalOperator word op) :=
  (keyword word).bind fun _ => pure _

theorem signOperator : Takes 1 Expr.signOperator := by
  apply firstOf
  simp only [List.forall_mem_cons]
  exact ⟨operator _, operator _, List.forall_mem_nil _⟩

theorem productOperator : Takes 1 Expr.productOperator := by
  apply firstOf
  simp only [List.forall_mem_cons]
  exact ⟨operator _, operator _, operator _, List.forall_mem_nil _⟩

theorem sumOperator : Takes 1 Expr.sumOperator := by
  apply firstOf
  simp only [List.forall_mem_cons]
  exact ⟨operator _, operator _, List.forall_mem_nil _⟩

theorem comparisonOperator : Takes 1 Expr.comparisonOperator := by
  have longer (written : Text) (size : written.length = 2) {op : ComparisonOp} : Takes 1 (Expr.operator written op) :=
    (operator written).mono (by omega)
  apply firstOf
  simp only [List.forall_mem_cons]
  exact ⟨longer _ rfl, longer _ rfl, longer _ rfl, longer _ rfl, operator _, operator _, operator _,
    List.forall_mem_nil _⟩

theorem nullTest : Takes 2 Expr.nullTest :=
  (keyword .IS).bind fun _ => (keyword .NOT).optional.bind fun _ => (keyword .NULL).bind fun _ => pure _

end Takes

/-! ## Expressions and atoms -/

namespace Advances

variable {α β : Type} {apart least : Nat} {build : Reader β → Reader α}

/-- Behind an opening parenthesis every call is at a shorter suffix. -/
theorem parenthesized (advances : Advances 0 least build) :
    Advances 1 (least + 2) fun inner => parenthesized (build inner) := by
  have inside : Advances 0 (least + 1) fun inner => (do
      let value ← build inner
      let _ ← symbol [')']
      pure value : Reader α) :=
    advances.bind fun _ => (const (.symbol [')'])).bind fun _ => const (.pure _)
  have opened := (const (.symbol ['('])).bind_near (fun _ => inside) (Nat.le_refl 1)
  refine opened.mono (Nat.le_refl 1) ?_
  change least + 2 ≤ 1 + (least + 1)
  omega

theorem commaSeparated (advances : Advances apart least build) :
    Advances apart least fun inner => commaSeparated (build inner) := advances.separated (.symbol [','])

section Expressions

variable {build : Reader Expr → Reader Expr}

theorem readCall (advances : Advances 0 least build) : Advances 1 3 fun inner => Expr.readCall (build inner) :=
  (const .identifier).bind fun _ => advances.commaSeparated.optional.parenthesized.bind fun _ => const (.pure _)

theorem readNested (advances : Advances 0 least build) :
    Advances 1 (least + 2) fun inner => Expr.readNested (build inner) :=
  advances.parenthesized.bind fun _ => const (.pure _)

theorem readCasts (advances : Advances apart least build) :
    Advances apart least fun inner => Expr.readCasts (build inner) := advances.marksAfter .castMark

theorem atomLevel : Advances 1 1 Expr.atomLevel := by
  have call : Advances 1 1 fun inner => Expr.readCall inner := (readCall Advances.call).mono (Nat.le_refl 1) (by omega)
  have nested : Advances 1 1 fun inner => Expr.readNested inner :=
    (readNested Advances.call).mono (Nat.le_refl 1) (by omega)
  exact ((const .readPlaceholder).firstOf_cons <| (const .readLiteral).firstOf_cons <|
    call.firstOf_cons <| nested.firstOf_cons firstOf_nil).readCasts

theorem primaryLevel : Advances 1 1 Expr.primaryLevel := by
  have call : Advances 1 1 fun inner => Expr.readCall inner := (readCall Advances.call).mono (Nat.le_refl 1) (by omega)
  have nested : Advances 1 1 fun inner => Expr.readNested inner :=
    (readNested Advances.call).mono (Nat.le_refl 1) (by omega)
  exact (const .readPlaceholder).firstOf_cons <| (const .readLiteral).firstOf_cons <|
    call.firstOf_cons <| (const .readColumn).firstOf_cons <| nested.firstOf_cons firstOf_nil

theorem signLevel : Advances 1 1 Expr.signLevel := signsBefore (readCasts primaryLevel) .signOperator

theorem productLevel : Advances 1 1 Expr.productLevel := chainLeft signLevel .productOperator

theorem sumLevel : Advances 1 1 Expr.sumLevel := chainLeft productLevel .sumOperator

theorem comparisonLevel : Advances 1 1 Expr.comparisonLevel := by
  have right : Advances 1 2 fun inner => furtherOperand Expr.comparisonOperator (Expr.sumLevel inner) :=
    bind (const .comparisonOperator) fun _ => bind sumLevel fun _ => const (.pure _)
  refine bind sumLevel fun left => bind right.optional fun right? => (?_ : Advances 1 0 _)
  cases right? with
  | none => exact const (.pure _)
  | some right => exact const (.pure _)

theorem nullTestLevel : Advances 1 1 Expr.nullTestLevel := marksAfter comparisonLevel .nullTest

theorem andLevel : Advances 1 1 Expr.andLevel := chainLeft nullTestLevel (.logicalOperator _ _)

theorem xorLevel : Advances 1 1 Expr.xorLevel := chainLeft andLevel (.logicalOperator _ _)

theorem orLevel : Advances 1 1 Expr.orLevel := chainLeft xorLevel (.logicalOperator _ _)

end Expressions

end Advances

/-! ## Statements -/

namespace Takes

variable {α : Type} {least : Nat} {item : Reader α}

theorem parenthesized (takes : Takes least item) : Takes (least + 2) (parenthesized item) := by
  have built : Advances 0 least fun _ : Reader α => item := .const takes
  exact built.parenthesized.takes (takes.mono (Nat.zero_le _))

theorem commaSeparated (takes : Takes least item) : Takes least (commaSeparated item) := by
  have built : Advances 0 least fun _ : Reader α => item := .const takes
  exact built.commaSeparated.takes (takes.mono (Nat.zero_le _))

theorem listOf (takes : Takes least item) : Takes (least + 2) (listOf item) := takes.commaSeparated.parenthesized

theorem readAtom : Takes 1 Expr.readAtom := Advances.atomLevel.recursive

theorem expression : Takes 1 Expr.read := Advances.orLevel.recursive

theorem readNames : Takes 3 Statement.readNames := identifier.listOf

theorem readTable : Takes 1 Statement.readTable := readDotted.bind fun _ => pure _

theorem readValues : Takes 4 Statement.readValues :=
  (keyword _).bind fun _ => (readAtom.listOf.consumed.bind fun _ => pure _).located

theorem readConflictTarget : Takes 3 Statement.readConflictTarget :=
  firstOf (List.forall_mem_cons.mpr ⟨readNames.bind fun _ => pure _,
    List.forall_mem_singleton.mpr ((keywords _).bind fun _ => identifier.bind fun _ => pure _)⟩)

theorem readOnConflict : Takes 7 Statement.readOnConflict :=
  (keywords _).bind fun _ => readConflictTarget.bind fun _ => (keywords _).bind fun _ => pure _

theorem readRow (verb : Keyword) : Takes 10 (Statement.readRow verb) :=
  (keywords _).bind fun _ => readTable.bind fun _ => readNames.bind fun _ => readValues.bind fun _ => pure _

theorem readSetClause : Takes 3 Statement.readSetClause :=
  identifier.bind fun _ => (symbol _).bind fun _ => expression.bind fun _ => pure _

theorem readUpdate : Takes 8 Statement.readUpdate :=
  (keyword _).bind fun _ => readTable.bind fun _ => (keyword _).bind fun _ => readSetClause.commaSeparated.bind fun _ =>
    (keyword _).bind fun _ => expression.bind fun _ => pure _

theorem statement (kind : StatementKind) : Takes 8 (Statement.read kind) := by
  cases kind with
  | insert =>
    have row : Takes 10 (Statement.read .insert) :=
      (readRow _).bind fun _ => readOnConflict.optional.bind fun _ => pure _
    exact row.mono (by omega)
  | upsert =>
    have row : Takes 10 (Statement.read .upsert) := (readRow _).bind fun _ => pure _
    exact row.mono (by omega)
  | update => exact readUpdate.bind fun _ => pure _

theorem whole (kind : StatementKind) : Takes 8 (Statement.whole kind) := by
  have read : Takes (0 + 8) (Statement.whole kind) :=
    layout.bind fun _ => ((statement kind).named _).bind fun _ => (symbol [';']).optional.bind fun _ =>
      endOfInput.bind fun _ => pure _
  exact read.mono (by omega)

/-! ## Tokens -/

theorem ofKind (kind : TokenKind) {lexeme : Reader Text} (takes : Takes least lexeme) :
    Takes least (Token.ofKind kind lexeme) := takes.bind fun _ => pure _

theorem oneOfSymbols {symbols : List Text} (some_ : ∀ written ∈ symbols, 1 ≤ written.length) :
    Takes 1 (Reader.firstOf (symbols.map Reader.symbol)) :=
  firstOf (List.forall_mem_map.mpr fun written member => (symbol written).mono (some_ written member))

theorem tokenWord : Takes 1 Token.readWord :=
  firstOf (List.forall_mem_cons.mpr ⟨(ofKind _ quotedName).mono (Nat.le_succ 1),
    List.forall_mem_singleton.mpr (word.bind fun _ => pure _)⟩)

theorem token : Takes 1 Token.read := by
  apply firstOf
  simp only [List.forall_mem_cons]
  exact ⟨ofKind _ (string.mono (Nat.le_succ 1)), ofKind _ number, ofKind _ placeholder, tokenWord,
    ofKind _ (oneOfSymbols (by decide)), ofKind _ (oneOfSymbols (by decide)), List.forall_mem_nil _⟩

end Takes

end Reader

end BulkSql
