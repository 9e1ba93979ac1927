import BulkSql.Proofs.Syntax.GrammarProgress

/-! # Reading ends

Every text is read in finitely many steps, and no guard of a repetition, of a recursion or of the cut into tokens is
ever what stops one. Each reader of the grammar leaves a suffix, each repeated part takes something, and expressions
and atoms call themselves at shorter suffixes only. So the loops and the recursions without their guards have one
meaning each, and it is the one that the readers have.
-/

namespace BulkSql

/-! ## The cut into tokens -/

namespace Token

variable {whole : Text}

/-- One round of the cut: a token and the cut behind it, however short the text is that the token leaves. -/
def listRound (whole : Text) (again : Text → Except ParseError (List Token)) (rest : Text) :
    Except ParseError (List Token) :=
  if rest.isEmpty then .ok []
  else
    match read rest with
    | .done (kind, text) rest' =>
      (again rest').map fun tokens => { kind, text, position := Text.offsetOf whole rest } :: tokens
    | _ => .error (.unrecognized whole rest)

theorem listFrom_apply (rest : Text) : listFrom whole rest = listRound whole (listFrom whole) rest := by
  unfold listRound
  rw [listFrom]
  cases rest.isEmpty with
  | true => rfl
  | false =>
    cases token : read rest with
    | done lexeme rest' =>
      have shorter := (Reader.Takes.token rest lexeme rest' token).2
      dsimp only
      rw [if_neg Bool.false_ne_true, if_neg Bool.false_ne_true, if_pos (by omega)]
      cases listFrom whole rest' <;> rfl
    | fail why => rfl
    | halt why => rfl

/-- Every token takes something, so the cut goes on to the end or to what starts no token. -/
theorem eq_listRound_iff (cut : Text → Except ParseError (List Token)) :
    cut = listRound whole cut ↔ cut = listFrom whole := by
  have again : listFrom whole = listRound whole (listFrom whole) := funext listFrom_apply
  refine ⟨fun rounds => Reader.eq_of_shorter rounds again fun rest same => ?_, fun same => same ▸ again⟩
  unfold listRound
  cases token : read rest with
  | done lexeme rest' =>
    have shorter := (Reader.Takes.token rest lexeme rest' token).2
    dsimp only
    rw [same rest' (by omega)]
  | fail why => rfl
  | halt why => rfl

end Token

namespace Reader

/-! ## Readers and repeated parts of the grammar -/

theorem Advances.levelReader (level : Nat) : Advances 1 1 fun inner => Expr.levelReader inner level := by
  match level with
  | 0 => exact orLevel
  | 1 => exact xorLevel
  | 2 => exact andLevel
  | 3 => exact nullTestLevel
  | 4 => exact comparisonLevel
  | 5 => exact sumLevel
  | 6 => exact productLevel
  | 7 => exact signLevel
  | 8 => exact primaryLevel.readCasts
  | _ + 9 => exact primaryLevel

/-- The readers of the grammar, each with a number of characters that it takes at least. -/
inductive OfGrammar : {α : Type} → Nat → Reader α → Prop where
  | layout : OfGrammar 0 layout
  | lineComment : OfGrammar 2 lineComment
  | blockComment : OfGrammar 2 blockComment
  | rawNumber : OfGrammar 1 rawNumber
  | rawWord : OfGrammar 1 rawWord
  | rawQuoted (quote : Char) : OfGrammar 2 (rawQuoted quote)
  | rawKeyword (keyword : Keyword) : OfGrammar 1 (rawKeyword keyword)
  | symbol (wanted : Text) : OfGrammar wanted.length (symbol wanted)
  | keywordText (keyword : Keyword) : OfGrammar 1 (keywordText keyword)
  | keyword (word : Keyword) : OfGrammar 1 (keyword word)
  | keywords (words : List Keyword) : OfGrammar words.length (keywords words)
  | word : OfGrammar 1 word
  | quotedName : OfGrammar 2 quotedName
  | bareName : OfGrammar 1 bareName
  | identifier : OfGrammar 1 identifier
  | number : OfGrammar 1 number
  | string : OfGrammar 2 string
  | placeholder : OfGrammar 1 placeholder
  | typeName : OfGrammar 1 typeName
  | parenthesized {α : Type} {least : Nat} {item : Reader α} (inside : OfGrammar least item) :
    OfGrammar (least + 2) (parenthesized item)
  | commaSeparated {α : Type} {least : Nat} {item : Reader α} (items : OfGrammar least item) :
    OfGrammar least (commaSeparated item)
  | listOf {α : Type} {least : Nat} {item : Reader α} (items : OfGrammar least item) :
    OfGrammar (least + 2) (listOf item)
  /-- What a reader calls while it reads a text. -/
  | guarded {α : Type} {least : Nat} {reader : Reader α} (called : OfGrammar least reader) (text : Text) :
    OfGrammar least (guarded reader text)
  | readPlaceholder : OfGrammar 1 Expr.readPlaceholder
  | readLiteral : OfGrammar 1 Expr.readLiteral
  | readDotted : OfGrammar 1 Expr.readDotted
  | readColumn : OfGrammar 1 Expr.readColumn
  | readCall {least : Nat} {argument : Reader Expr} (arguments : OfGrammar least argument) :
    OfGrammar 3 (Expr.readCall argument)
  | readNested {least : Nat} {inner : Reader Expr} (inside : OfGrammar least inner) :
    OfGrammar (least + 2) (Expr.readNested inner)
  | readCasts {least : Nat} {operand : Reader Expr} (first : OfGrammar least operand) :
    OfGrammar least (Expr.readCasts operand)
  | logicalOperator (word : Keyword) (op : LogicalOp) : OfGrammar 1 (Expr.logicalOperator word op)
  | signOperator : OfGrammar 1 Expr.signOperator
  | productOperator : OfGrammar 1 Expr.productOperator
  | sumOperator : OfGrammar 1 Expr.sumOperator
  | comparisonOperator : OfGrammar 1 Expr.comparisonOperator
  | nullTest : OfGrammar 2 Expr.nullTest
  | castMark : OfGrammar 3 Expr.castMark
  | atomLevel {least : Nat} {inner : Reader Expr} (inside : OfGrammar least inner) : OfGrammar 1 (Expr.atomLevel inner)
  | level {least : Nat} {inner : Reader Expr} (inside : OfGrammar least inner) (level : Nat) :
    OfGrammar 1 (Expr.levelReader inner level)
  | readAtom : OfGrammar 1 Expr.readAtom
  | expression : OfGrammar 1 Expr.read
  | readNames : OfGrammar 3 Statement.readNames
  | readTable : OfGrammar 1 Statement.readTable
  | readValues : OfGrammar 4 Statement.readValues
  | readConflictTarget : OfGrammar 3 Statement.readConflictTarget
  | readOnConflict : OfGrammar 7 Statement.readOnConflict
  | readRow (verb : Keyword) : OfGrammar 10 (Statement.readRow verb)
  | readSetClause : OfGrammar 3 Statement.readSetClause
  | readUpdate : OfGrammar 8 Statement.readUpdate
  | statement (kind : StatementKind) : OfGrammar 8 (Statement.read kind)
  | whole (kind : StatementKind) : OfGrammar 8 (Statement.whole kind)
  | tokenWord : OfGrammar 1 Token.readWord
  | token : OfGrammar 1 Token.read

theorem OfGrammar.takes {α : Type} {least : Nat} {reader : Reader α} (known : OfGrammar least reader) :
    Takes least reader := by
  have leaves {β : Type} {least : Nat} {inner : Reader β} (takes : Takes least inner) : Takes 0 inner :=
    takes.mono (Nat.zero_le _)
  induction known with
  | layout => exact .layout
  | lineComment => exact takes_lineComment
  | blockComment => exact takes_blockComment
  | rawNumber => exact .rawNumber
  | rawWord => exact .rawWord
  | rawQuoted quote => exact .rawQuoted quote
  | rawKeyword keyword => exact .rawKeyword keyword
  | symbol wanted => exact .symbol wanted
  | keywordText keyword => exact .keywordText keyword
  | keyword word => exact .keyword word
  | keywords words => exact .keywords words
  | word => exact .word
  | quotedName => exact .quotedName
  | bareName => exact .bareName
  | identifier => exact .identifier
  | number => exact .number
  | string => exact .string
  | placeholder => exact .placeholder
  | typeName => exact .typeName
  | parenthesized _ ih => exact ih.parenthesized
  | commaSeparated _ ih => exact ih.commaSeparated
  | listOf _ ih => exact ih.listOf
  | guarded _ text ih => exact ih.guarded text
  | readPlaceholder => exact .readPlaceholder
  | readLiteral => exact .readLiteral
  | readDotted => exact .readDotted
  | readColumn => exact .readColumn
  | readCall _ ih => exact (Advances.readCall Advances.call).takes (leaves ih)
  | readNested _ ih => exact (Advances.readNested (.const ih)).takes (leaves ih)
  | @readCasts _ operand _ ih =>
    have first : Advances 0 _ fun _ : Reader Expr => operand := .const ih
    exact first.readCasts.takes (leaves ih)
  | logicalOperator word op => exact .logicalOperator word op
  | signOperator => exact .signOperator
  | productOperator => exact .productOperator
  | sumOperator => exact .sumOperator
  | comparisonOperator => exact .comparisonOperator
  | nullTest => exact .nullTest
  | castMark => exact .castMark
  | atomLevel _ ih => exact Advances.atomLevel.takes (leaves ih)
  | level _ level ih => exact (Advances.levelReader level).takes (leaves ih)
  | readAtom => exact .readAtom
  | expression => exact .expression
  | readNames => exact .readNames
  | readTable => exact .readTable
  | readValues => exact .readValues
  | readConflictTarget => exact .readConflictTarget
  | readOnConflict => exact .readOnConflict
  | readRow verb => exact .readRow verb
  | readSetClause => exact .readSetClause
  | readUpdate => exact .readUpdate
  | statement kind => exact .statement kind
  | whole kind => exact .whole kind
  | tokenWord => exact .tokenWord
  | token => exact .token

/-- The parts that the grammar repeats: of layout, words and quoted texts, and behind the first item of a list, the
first operand of a chain, an expression that is cast or tested, and before an operand with signs. -/
inductive RepeatedPart : {α : Type} → Reader α → Prop where
  | layout : RepeatedPart layoutPart
  | word : RepeatedPart wordPart
  | quoted (quote : Char) : RepeatedPart (quotedPart quote)
  | list {α : Type} {least : Nat} {item : Reader α} (items : OfGrammar least item) :
    RepeatedPart (furtherItem (symbol [',']) item)
  | logical {least : Nat} {right : Reader Expr} (word : Keyword) (op : LogicalOp) (operands : OfGrammar least right) :
    RepeatedPart (furtherOperand (Expr.logicalOperator word op) right)
  | sum {least : Nat} {right : Reader Expr} (operands : OfGrammar least right) :
    RepeatedPart (furtherOperand Expr.sumOperator right)
  | product {least : Nat} {right : Reader Expr} (operands : OfGrammar least right) :
    RepeatedPart (furtherOperand Expr.productOperator right)
  | sign : RepeatedPart Expr.signOperator
  | cast : RepeatedPart Expr.castMark
  | nullTest : RepeatedPart Expr.nullTest

/-- A separator or an operator takes something, whatever is taken behind it. -/
theorem RepeatedPart.takes {α : Type} {part : Reader α} (repeated : RepeatedPart part) : Takes 1 part := by
  cases repeated with
  | layout => exact takes_layoutPart
  | word => exact takes_wordPart
  | quoted quote => exact takes_quotedPart quote
  | list items => exact ((Takes.symbol [',']).furtherItem items.takes).mono (Nat.le_add_right ..)
  | logical word op operands =>
    exact ((Takes.logicalOperator word op).furtherOperand operands.takes).mono (Nat.le_add_right ..)
  | sum operands => exact (Takes.sumOperator.furtherOperand operands.takes).mono (Nat.le_add_right ..)
  | product operands => exact (Takes.productOperator.furtherOperand operands.takes).mono (Nat.le_add_right ..)
  | sign => exact .signOperator
  | cast => exact Takes.castMark.mono (by omega)
  | nullTest => exact Takes.nullTest.mono (by omega)

/-! ## Without guards -/

/-- Every text is read in finitely many steps.

A reader of the grammar that succeeds leaves a suffix. A repeated part takes something, so a repetition of it goes on
as long as the part succeeds and never fails for want of progress; the lexemes that are scanned by character classes
are repetitions too. The readers of expressions, of their levels and of atoms call themselves at shorter suffixes only.
Each token is taken from what is left. So loops and recursions that nothing guards have exactly one meaning. -/
theorem reading_ends :
    (∀ {α : Type} {least : Nat} {reader : Reader α}, OfGrammar least reader →
      ∀ text value rest, reader text = .done value rest → rest <:+ text ∧ rest.length + least ≤ text.length) ∧
    (∀ {α : Type} {part : Reader α}, RepeatedPart part →
      (∀ text value rest, part text = .done value rest → rest <:+ text ∧ rest.length < text.length) ∧
      ∀ loop, loop = round part loop ↔ loop = many part) ∧
    (layout = layoutOfParts ∧
      (∀ text written rest, rawWord text = .done written rest ↔ wordOfParts text = .done written rest) ∧
      ∀ quote text written rest,
        rawQuoted quote text = .done written rest ↔ quotedOfParts quote text = .done written rest) ∧
    (∀ body ∈ [Expr.readCall, Expr.readNested, Expr.atomLevel], CallsShorter body) ∧
    (∀ level, CallsShorter fun inner => Expr.levelReader inner level) ∧
    (∀ reader, reader = Expr.orLevel reader ↔ reader = Expr.read) ∧
    (∀ reader, reader = Expr.atomLevel reader ↔ reader = Expr.readAtom) ∧
    (∀ rest kind written left, Token.read rest = .done (kind, written) left →
      left <:+ rest ∧ left.length < rest.length) ∧
    ∀ whole cut, cut = Token.listRound whole cut ↔ cut = Token.listFrom whole := by
  refine ⟨fun known => known.takes, fun repeated => ⟨repeated.takes, eq_round_iff repeated.takes⟩,
    ⟨layout_eq_layoutOfParts, fun _ _ _ => rawWord_eq_done_iff_parts, fun _ _ _ _ => rawQuoted_eq_done_iff_parts⟩,
    ?calls, fun level => (Advances.levelReader level).callsShorter, Advances.orLevel.eq_body_iff,
    Advances.atomLevel.eq_body_iff, fun rest kind written => Takes.token rest (kind, written),
    fun _ => Token.eq_listRound_iff⟩
  case calls =>
    simp only [List.forall_mem_cons]
    exact ⟨(Advances.readCall Advances.call).callsShorter, (Advances.readNested Advances.call).callsShorter,
      Advances.atomLevel.callsShorter, List.forall_mem_nil _⟩

theorem reading_ends_cast :
    OfGrammar 3 Expr.castMark ∧ RepeatedPart Expr.castMark ∧
      Expr.castMark ":: int[] )".toList = .done "int[]".toList ")".toList ∧
      (")".toList <:+ ":: int[] )".toList ∧ ")".toList.length + 3 ≤ ":: int[] )".toList.length) ∧
      many Expr.castMark = round Expr.castMark (many Expr.castMark) := by
  have done : Expr.castMark ":: int[] )".toList = .done "int[]".toList ")".toList := by cbv
  exact ⟨.castMark, .cast, done, reading_ends.1 .castMark _ _ _ done, ((reading_ends.2.1 .cast).2 _).mpr rfl⟩

end Reader

end BulkSql
