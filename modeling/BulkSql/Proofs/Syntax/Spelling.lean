import BulkSql.Proofs.Syntax.Lexemes
import BulkSql.Syntax.Expression

/-! # Spelling

The lexemes of the grammar as data, free of layout. A text spells a sequence of lexemes if it is read as one after the
other. A lexeme that was read anywhere is read again wherever it is written, unless a character follows that it goes
on with.
-/

namespace BulkSql

open Reader

/-- A lexeme of a statement, free of layout. -/
inductive Lexeme where
  | placeholder
  | literal (literal : Literal)
  | name (name : Text)
  | type (type : Text)
  | symbol (symbol : Text)
  | comparison (op : ComparisonOp)
  | keyword (keyword : Keyword)

namespace Lexeme

/-- A text is read as a lexeme and leaves a rest. -/
def Reads : Lexeme → Text → Text → Prop
  | placeholder, text, rest => Expr.readPlaceholder text = .done .placeholder rest
  | literal written, text, rest => Expr.readLiteral text = .done (.literal written) rest
  | name written, text, rest => identifier text = .done written rest
  | type written, text, rest => typeName text = .done written rest
  | symbol wanted, text, rest => Reader.symbol wanted text = .done wanted rest
  | comparison op, text, rest => Expr.comparisonOperator text = .done op rest
  | keyword wanted, text, rest => Reader.keyword wanted text = .done () rest

/-- The lexeme as it is written, keywords in upper case and inequality in its first spelling. -/
def text : Lexeme → Text
  | placeholder => "?"
  | literal written => written.text
  | name written | type written | symbol written => written
  | comparison op => op.text
  | keyword wanted => wanted.word

/-- A lexeme that some text is read as. -/
def IsRead (lexeme : Lexeme) : Prop := ∃ text rest, lexeme.Reads text rest

/-- A lexeme that takes something. -/
def TakesSome : Lexeme → Prop
  | symbol wanted => wanted ≠ []
  | _ => True

end Lexeme

theorem Expr.readPlaceholder_eq_done_iff {text rest : Text} {tree : Expr} :
    Expr.readPlaceholder text = .done tree rest ↔
      tree = .placeholder ∧ ∃ mid, text = '?' :: mid ∧ rest = skipLayout mid := by
  unfold Expr.readPlaceholder Reader.placeholder
  rw [bind_eq_done_iff]
  constructor
  · rintro ⟨written, mid, read, done⟩
    cases done
    obtain ⟨-, after, rfl, rfl⟩ := symbol_eq_done_iff.mp read
    exact ⟨rfl, after, rfl, rfl⟩
  · rintro ⟨rfl, mid, rfl, rfl⟩
    exact ⟨_, _, symbol_eq_done_iff.mpr ⟨rfl, mid, rfl, rfl⟩, rfl⟩

theorem Expr.fails_readPlaceholder {text : Text} (clear : Clear (· == '?') text) : Fails Expr.readPlaceholder text := by
  refine (fails_symbol ?_).bind _
  rintro ⟨rest, rfl⟩
  exact absurd (clear_cons.mp clear) (by decide)

/-- A literal is one of the words for constants, a number or a string. -/
inductive Literal.IsReadAs (text rest : Text) : Literal → Prop where
  | word (kind : LiteralKind) (keyword : Keyword)
      (names : kind = .boolean ∧ (keyword = .TRUE ∨ keyword = .FALSE) ∨ kind = .null ∧ keyword = .NULL)
      (spelled : Keyword.lookup? (leadWord text) = some keyword)
      (ends : rest = skipLayout (text.dropWhile isWordChar)) : IsReadAs text rest ⟨kind, leadWord text⟩
  | number (written : Text) (read : Reader.number text = .done written rest) : IsReadAs text rest ⟨.number, written⟩
  | string (written : Text) (read : Reader.string text = .done written rest) : IsReadAs text rest ⟨.string, written⟩

theorem Expr.literalOf_eq_done_iff {kind : LiteralKind} {reader : Reader Text} {text rest : Text} {tree : Expr} :
    Expr.literalOf kind reader text = .done tree rest ↔
      ∃ written, reader text = .done written rest ∧ tree = .literal { kind, text := written } := by
  unfold Expr.literalOf
  rw [bind_eq_done_iff]
  constructor
  · rintro ⟨written, mid, read, done⟩
    cases done
    exact ⟨written, read, rfl⟩
  · rintro ⟨written, read, rfl⟩
    exact ⟨written, rest, read, rfl⟩

theorem Expr.isReadAs_of_readLiteral {text rest : Text} {tree : Expr} (done : Expr.readLiteral text = .done tree rest) :
    ∃ written, tree = .literal written ∧ written.IsReadAs text rest := by
  obtain ⟨reader, member, read⟩ := exists_of_firstOf done
  simp only [List.mem_cons, List.not_mem_nil, or_false] at member
  rcases member with rfl | rfl | rfl | rfl | rfl <;> obtain ⟨written, inner, rfl⟩ := literalOf_eq_done_iff.mp read
  · obtain ⟨rfl, found, ends⟩ := keywordText_eq_done_iff.mp inner
    exact ⟨_, rfl, .word .boolean .TRUE (.inl ⟨rfl, .inl rfl⟩) found ends⟩
  · obtain ⟨rfl, found, ends⟩ := keywordText_eq_done_iff.mp inner
    exact ⟨_, rfl, .word .boolean .FALSE (.inl ⟨rfl, .inr rfl⟩) found ends⟩
  · obtain ⟨rfl, found, ends⟩ := keywordText_eq_done_iff.mp inner
    exact ⟨_, rfl, .word .null .NULL (.inr ⟨rfl, rfl⟩) found ends⟩
  · exact ⟨_, rfl, .number written inner⟩
  · exact ⟨_, rfl, .string written inner⟩

theorem Expr.fails_literalOf {kind : LiteralKind} {reader : Reader Text} {text : Text} (fails : Fails reader text) :
    Fails (Expr.literalOf kind reader) text := fails.bind _

theorem Reader.number_head {text written rest : Text} (done : Reader.number text = .done written rest) :
    ∃ c more after, written = c :: more ∧ text = written ++ after ∧ (isDecimalDigit c ∨ c = '.') := by
  obtain ⟨mid, raw, -⟩ := lexeme_eq_done_iff.mp done
  obtain ⟨c, more, rfl, head⟩ := rawNumber_head raw
  exact ⟨c, more, mid, rfl, (reproducible_rawNumber _ _ _ raw).1, head⟩

namespace Expr

theorem fails_literalOf_keyword {kind : LiteralKind} {keyword : Keyword} {text : Text}
    (other : Keyword.lookup? (leadWord text) ≠ some keyword) : Fails (literalOf kind (keywordText keyword)) text :=
  fails_literalOf (fails_keywordText other)

theorem fails_literalOf_number {text : Text} (clear : Clear (fun c => isDecimalDigit c || c == '.') text) :
    Fails (literalOf .number number) text :=
  fails_literalOf (fails_lexeme (fails_rawNumber clear))

/-- Constants are told apart by how they start, so each is read as itself. -/
theorem readLiteral_of_isReadAs {literal : Literal} {text rest : Text} (read : literal.IsReadAs text rest) :
    readLiteral text = .done (.literal literal) rest := by
  cases read with
  | word kind keyword names spelled ends =>
    have done (kind : LiteralKind) :
        literalOf kind (keywordText keyword) text = .done (.literal ⟨kind, leadWord text⟩) rest :=
      literalOf_eq_done_iff.mpr ⟨_, keywordText_eq_done_iff.mpr ⟨rfl, spelled, ends⟩, rfl⟩
    rcases names with ⟨rfl, rfl | rfl⟩ | ⟨rfl, rfl⟩
    · exact firstOf_of_done (done _)
    · exact firstOf_of_fails (fails_literalOf_keyword (by simp [spelled])) (firstOf_of_done (done _))
    · exact firstOf_of_fails (fails_literalOf_keyword (by simp [spelled]))
        (firstOf_of_fails (fails_literalOf_keyword (by simp [spelled])) (firstOf_of_done (done _)))
  | number written read =>
    obtain ⟨c, more, after, rfl, rfl, head⟩ := number_head read
    have noLetter : c.isAlpha = false := by
      rcases head with digit | rfl
      · exact not_isAlpha_of_isDecimalDigit digit
      · decide
    have noWord (keyword : Keyword) : Keyword.lookup? (leadWord (c :: more ++ after)) ≠ some keyword := by
      rw [List.cons_append, lookup?_leadWord_of_not_isAlpha noLetter]
      simp
    have done := literalOf_eq_done_iff.mpr ⟨_, read, show _ = Expr.literal ⟨.number, _⟩ from rfl⟩
    exact firstOf_of_fails (fails_literalOf_keyword (noWord _)) (firstOf_of_fails (fails_literalOf_keyword (noWord _))
      (firstOf_of_fails (fails_literalOf_keyword (noWord _)) (firstOf_of_done done)))
  | string written read =>
    obtain ⟨mid, raw, -⟩ := lexeme_eq_done_iff.mp read
    obtain ⟨body, inside, rfl, rfl, -⟩ := rawQuoted_eq_done_iff.mp raw
    have noWord (keyword : Keyword) : Keyword.lookup? (leadWord ('\'' :: inside)) ≠ some keyword := by
      rw [lookup?_leadWord_of_not_isAlpha (by decide)]
      simp
    have noNumber : Fails (literalOf .number number) ('\'' :: inside) :=
      fails_literalOf_number (clear_cons.mpr (by decide))
    have done := literalOf_eq_done_iff.mpr ⟨_, read, show _ = Expr.literal ⟨.string, _⟩ from rfl⟩
    exact firstOf_of_fails (fails_literalOf_keyword (noWord _)) (firstOf_of_fails (fails_literalOf_keyword (noWord _))
      (firstOf_of_fails (fails_literalOf_keyword (noWord _)) (firstOf_of_fails noNumber (firstOf_of_done done))))

/-- The characters that a constant starts with, words apart. -/
def startsConstant (c : Char) : Bool := isDecimalDigit c || c == '.' || c == '\''

theorem fails_readLiteral {text : Text} (clear : Clear startsConstant text)
    (noWord : ∀ keyword ∈ [Keyword.TRUE, .FALSE, .NULL], Keyword.lookup? (leadWord text) ≠ some keyword) :
    Fails readLiteral text := by
  apply fails_firstOf
  intro reader member
  simp only [List.mem_cons, List.not_mem_nil, or_false] at member
  rcases member with rfl | rfl | rfl | rfl | rfl
  · exact fails_literalOf_keyword (noWord _ (by simp))
  · exact fails_literalOf_keyword (noWord _ (by simp))
  · exact fails_literalOf_keyword (noWord _ (by simp))
  · exact fails_literalOf_number (clear.mono fun c is => by
      simp only [startsConstant, Bool.or_eq_true] at is ⊢
      exact .inl is)
  · exact fails_literalOf (fails_lexeme (fails_rawQuoted (clear.mono fun c is => by simp [startsConstant, is])))

theorem operator_eq_done_iff {α : Type} {written text rest : Text} {op found : α} :
    operator written op text = .done found rest ↔ found = op ∧ ∃ mid, text = written ++ mid ∧ rest = skipLayout mid := by
  unfold operator
  rw [bind_eq_done_iff]
  constructor
  · rintro ⟨wanted, after, read, done⟩
    cases done
    obtain ⟨-, mid, rfl, rfl⟩ := symbol_eq_done_iff.mp read
    exact ⟨rfl, mid, rfl, rfl⟩
  · rintro ⟨rfl, mid, rfl, rfl⟩
    exact ⟨_, _, symbol_eq_done_iff.mpr ⟨rfl, mid, rfl, rfl⟩, rfl⟩

theorem fails_operator {α : Type} {written text : Text} {op : α} (missing : ¬written <+: text) :
    Fails (operator written op) text :=
  (fails_symbol missing).bind _

theorem firstOf_of_missing {α : Type} {written text rest : Text} {other found : α} {readers : List (Reader α)}
    (missing : ¬written <+: text) (later : firstOf readers text = .done found rest) :
    firstOf (operator written other :: readers) text = .done found rest :=
  firstOf_of_fails (fails_operator missing) later

/-- The ways to write a comparison, a longer one before those it starts with. -/
def comparisonSpellings : List (Text × ComparisonOp) :=
  [(['>', '='], .greaterOrEqual), (['<', '='], .lessOrEqual), (['!', '='], .notEqual), (['<', '>'], .notEqual),
    (['='], .equal), (['<'], .less), (['>'], .greater)]

theorem spelling_of_comparisonOperator {text rest : Text} {op : ComparisonOp}
    (done : comparisonOperator text = .done op rest) :
    ∃ written mid, (written, op) ∈ comparisonSpellings ∧ text = written ++ mid ∧ rest = skipLayout mid := by
  obtain ⟨reader, member, read⟩ := exists_of_firstOf done
  simp only [List.mem_cons, List.not_mem_nil, or_false] at member
  rcases member with rfl | rfl | rfl | rfl | rfl | rfl | rfl <;>
    obtain ⟨rfl, mid, rfl, rfl⟩ := operator_eq_done_iff.mp read <;> exact ⟨_, mid, by simp [comparisonSpellings], rfl, rfl⟩

/-- The characters that a comparison goes on with. -/
def goesOnComparison (c : Char) : Bool := c == '=' || c == '>'

theorem not_prefix_of_clear {avoided : Char → Bool} {text : Text} (clear : Clear avoided text) {c : Char}
    (avoids : avoided c) (more : Text) : ¬(c :: more) <+: text := by
  rintro ⟨rest, rfl⟩
  exact Bool.eq_false_iff.mp (clear_cons.mp clear) avoids

theorem comparisonOperator_text (op : ComparisonOp) {after : Text} (clear : Clear goesOnComparison after) :
    comparisonOperator (op.text ++ after) = .done op (skipLayout after) := by
  have noEqual : ¬['='] <+: after := not_prefix_of_clear clear rfl []
  have noGreater : ¬['>'] <+: after := not_prefix_of_clear clear rfl []
  have done (written : Text) : operator written op (written ++ after) = .done op (skipLayout after) :=
    operator_eq_done_iff.mpr ⟨rfl, after, rfl, rfl⟩
  cases op with
  | equal =>
    exact firstOf_of_missing (by simp [ComparisonOp.text]) <| firstOf_of_missing (by simp [ComparisonOp.text]) <|
      firstOf_of_missing (by simp [ComparisonOp.text]) <| firstOf_of_missing (by simp [ComparisonOp.text]) <|
      firstOf_of_done (done ['='])
  | notEqual =>
    exact firstOf_of_missing (by simp [ComparisonOp.text]) <| firstOf_of_missing (by simp [ComparisonOp.text]) <|
      firstOf_of_done (done ['!', '='])
  | less =>
    exact firstOf_of_missing (by simp [ComparisonOp.text]) <| firstOf_of_missing (by simp [ComparisonOp.text, noEqual]) <|
      firstOf_of_missing (by simp [ComparisonOp.text]) <| firstOf_of_missing (by simp [ComparisonOp.text, noGreater]) <|
      firstOf_of_missing (by simp [ComparisonOp.text]) <| firstOf_of_done (done ['<'])
  | lessOrEqual =>
    exact firstOf_of_missing (by simp [ComparisonOp.text]) <| firstOf_of_done (done ['<', '='])
  | greater =>
    exact firstOf_of_missing (by simp [ComparisonOp.text, noEqual]) <| firstOf_of_missing (by simp [ComparisonOp.text]) <|
      firstOf_of_missing (by simp [ComparisonOp.text]) <| firstOf_of_missing (by simp [ComparisonOp.text]) <|
      firstOf_of_missing (by simp [ComparisonOp.text]) <| firstOf_of_missing (by simp [ComparisonOp.text]) <|
      firstOf_of_done (done ['>'])
  | greaterOrEqual => exact firstOf_of_done (done ['>', '='])

end Expr

namespace Lexeme

/-- The characters that must not stand right behind a lexeme, since it would go on with them. -/
def goesOn : Lexeme → Char → Bool
  | placeholder | symbol _ => fun _ => false
  | literal _ => fun c => goesOnNumber c || isWordChar c || c == '\''
  | name _ => goesOnName
  | type _ => goesOnType
  | comparison _ => Expr.goesOnComparison
  | keyword _ => isWordChar

/-- A lexeme that was read once is read again wherever it is written. -/
theorem Reads.again {lexeme : Lexeme} {text rest : Text} (reads : lexeme.Reads text rest) {after : Text}
    (clear : Clear lexeme.goesOn after) : lexeme.Reads (lexeme.text ++ after) (skipLayout after) := by
  cases lexeme with
  | placeholder => exact Expr.readPlaceholder_eq_done_iff.mpr ⟨rfl, after, rfl, rfl⟩
  | literal written =>
    apply Expr.readLiteral_of_isReadAs
    obtain ⟨found, same, isRead⟩ := Expr.isReadAs_of_readLiteral reads
    cases same
    cases isRead with
    | word kind keyword names spelled ends =>
      have all := Keyword.isWordChar_of_lookup? spelled
      have stops : Clear isWordChar after := clear.mono fun c is => by simp [goesOn, is]
      have lead : leadWord (leadWord text ++ after) = leadWord text := leadWord_append all stops
      have isRead :
          Literal.IsReadAs (leadWord text ++ after) (skipLayout after) ⟨kind, leadWord (leadWord text ++ after)⟩ :=
        .word kind keyword names (by rw [lead]; exact spelled) (by rw [dropWhile_append_of_clear all stops])
      rw [lead] at isRead
      exact isRead
    | number written read =>
      exact .number written (lexeme_again reproducible_rawNumber read (clear.mono fun c is => by simp [goesOn, is]))
    | string written read =>
      exact .string written (lexeme_again (reproducible_rawQuoted _) read (clear.mono fun c is => by simp [goesOn, is]))
  | name written => exact identifier_again reads clear
  | type written => exact lexeme_again reproducible_rawTypeName reads clear
  | symbol wanted => exact symbol_eq_done_iff.mpr ⟨rfl, after, rfl, rfl⟩
  | comparison op => exact Expr.comparisonOperator_text op clear
  | keyword wanted =>
    have all : ∀ c ∈ wanted.word, isWordChar c := Keyword.isWordChar_of_lookup? (Keyword.lookup?_word wanted)
    refine keyword_eq_done_iff.mpr ⟨?_, ?_⟩
    · change Keyword.lookup? (leadWord (wanted.word ++ after)) = _
      rw [leadWord_append all clear, Keyword.lookup?_word]
    · change _ = skipLayout ((wanted.word ++ after).dropWhile isWordChar)
      rw [dropWhile_append_of_clear all clear]

theorem length_behind_word_lt {text : Text} {keyword : Keyword}
    (spelled : Keyword.lookup? (leadWord text) = some keyword) :
    (skipLayout (text.dropWhile isWordChar)).length < text.length := by
  have skip := length_skipLayout_le (text.dropWhile isWordChar)
  have some_ := List.length_pos_iff.mpr (Keyword.ne_nil_of_lookup? spelled)
  have split : (leadWord text ++ text.dropWhile isWordChar).length = text.length :=
    congrArg List.length List.takeWhile_append_dropWhile
  rw [List.length_append] at split
  omega

theorem Reads.shorter {lexeme : Lexeme} {text rest : Text} (reads : lexeme.Reads text rest) (some_ : lexeme.TakesSome) :
    rest.length < text.length := by
  have skip (mid : Text) := length_skipLayout_le mid
  cases lexeme with
  | placeholder =>
    obtain ⟨-, mid, rfl, rfl⟩ := Expr.readPlaceholder_eq_done_iff.mp reads
    exact Nat.lt_succ_of_le (skip mid)
  | literal written =>
    obtain ⟨found, same, isRead⟩ := Expr.isReadAs_of_readLiteral reads
    cases same
    cases isRead with
    | word kind keyword names spelled ends => exact ends ▸ length_behind_word_lt spelled
    | number written read =>
      obtain ⟨c, more, -, rfl, -⟩ := number_head read
      exact lexeme_shorter reproducible_rawNumber read (by simp)
    | string written read =>
      obtain ⟨mid, raw, -⟩ := lexeme_eq_done_iff.mp read
      obtain ⟨body, inside, rfl, -, -⟩ := rawQuoted_eq_done_iff.mp raw
      exact lexeme_shorter (reproducible_rawQuoted _) read (by simp)
  | name written => exact identifier_shorter reads
  | type written =>
    obtain ⟨mid, raw, -⟩ := lexeme_eq_done_iff.mp reads
    exact lexeme_shorter reproducible_rawTypeName reads (rawTypeName_ne_nil raw)
  | symbol wanted => exact symbol_shorter reads some_
  | comparison op =>
    obtain ⟨written, mid, member, rfl, rfl⟩ := Expr.spelling_of_comparisonOperator reads
    have positive : 0 < written.length := by
      simp only [Expr.comparisonSpellings, List.mem_cons, Prod.mk.injEq, List.not_mem_nil, or_false] at member
      rcases member with ⟨rfl, -⟩ | ⟨rfl, -⟩ | ⟨rfl, -⟩ | ⟨rfl, -⟩ | ⟨rfl, -⟩ | ⟨rfl, -⟩ | ⟨rfl, -⟩ <;> decide
    have := skip mid
    rw [List.length_append]
    omega
  | keyword wanted =>
    obtain ⟨spelled, rfl⟩ := keyword_eq_done_iff.mp reads
    exact length_behind_word_lt spelled

theorem Reads.length_le {lexeme : Lexeme} {text rest : Text} (reads : lexeme.Reads text rest) :
    rest.length ≤ text.length := by
  by_cases some_ : lexeme.TakesSome
  · exact Nat.le_of_lt (reads.shorter some_)
  · cases lexeme with
    | symbol wanted =>
      obtain ⟨-, mid, rfl, rfl⟩ := symbol_eq_done_iff.mp reads
      have := length_skipLayout_le mid
      rw [List.length_append]
      omega
    | _ => exact absurd trivial some_

end Lexeme

/-! ## Texts -/

/-- A text is read as lexemes one after the other and leaves a rest. -/
def Spells : List Lexeme → Text → Text → Prop
  | [], text, rest => text = rest
  | lexeme :: lexemes, text, rest => ∃ mid, lexeme.Reads text mid ∧ Spells lexemes mid rest

theorem spells_append_iff {first second : List Lexeme} {text rest : Text} :
    Spells (first ++ second) text rest ↔ ∃ mid, Spells first text mid ∧ Spells second mid rest := by
  induction first generalizing text with
  | nil => simp [Spells]
  | cons lexeme first ih =>
    simp only [List.cons_append, Spells, ih]
    constructor
    · rintro ⟨mid, read, after, spelled, more⟩
      exact ⟨after, ⟨mid, read, spelled⟩, more⟩
    · rintro ⟨after, ⟨mid, read, spelled⟩, more⟩
      exact ⟨mid, read, after, spelled, more⟩

theorem Spells.append {first second : List Lexeme} {text mid rest : Text} (spells : Spells first text mid)
    (more : Spells second mid rest) : Spells (first ++ second) text rest :=
  spells_append_iff.mpr ⟨mid, spells, more⟩

theorem spells_singleton_iff {lexeme : Lexeme} {text rest : Text} :
    Spells [lexeme] text rest ↔ lexeme.Reads text rest := by
  constructor
  · rintro ⟨mid, read, rfl⟩
    exact read
  · exact fun read => ⟨rest, read, rfl⟩

theorem Spells.length_le {lexemes : List Lexeme} {text rest : Text} (spells : Spells lexemes text rest) :
    rest.length ≤ text.length := by
  induction lexemes generalizing text with
  | nil => exact Nat.le_of_eq (congrArg List.length spells.symm)
  | cons lexeme lexemes ih =>
    obtain ⟨mid, read, more⟩ := spells
    exact Nat.le_trans (ih more) read.length_le

@[simp] theorem isRead_placeholder : Lexeme.placeholder.IsRead :=
  ⟨['?'], [], Expr.readPlaceholder_eq_done_iff.mpr ⟨rfl, [], rfl, skipLayout_nil.symm⟩⟩

@[simp] theorem isRead_symbol (symbol : Text) : (Lexeme.symbol symbol).IsRead :=
  ⟨symbol ++ [], skipLayout [], symbol_eq_done_iff.mpr ⟨rfl, [], rfl, rfl⟩⟩

@[simp] theorem isRead_keyword (keyword : Keyword) : (Lexeme.keyword keyword).IsRead := by
  refine ⟨keyword.word, skipLayout (keyword.word.dropWhile isWordChar), keyword_eq_done_iff.mpr ⟨?_, rfl⟩⟩
  have all : ∀ c ∈ keyword.word, isWordChar c := Keyword.isWordChar_of_lookup? (Keyword.lookup?_word keyword)
  have lead := leadWord_append all (clear_nil isWordChar)
  rw [List.append_nil] at lead
  rw [lead, Keyword.lookup?_word]

@[simp] theorem isRead_comparison (op : ComparisonOp) : (Lexeme.comparison op).IsRead :=
  ⟨op.text ++ [], skipLayout [], Expr.comparisonOperator_text op (clear_nil _)⟩

/-- Lexemes that are read somewhere, each by itself. -/
def AllRead (lexemes : List Lexeme) : Prop := ∀ lexeme ∈ lexemes, lexeme.IsRead

@[simp] theorem allRead_nil : AllRead [] := nofun

@[simp] theorem allRead_cons {lexeme : Lexeme} {lexemes : List Lexeme} :
    AllRead (lexeme :: lexemes) ↔ lexeme.IsRead ∧ AllRead lexemes := List.forall_mem_cons

@[simp] theorem allRead_append {first second : List Lexeme} :
    AllRead (first ++ second) ↔ AllRead first ∧ AllRead second :=
  List.forall_mem_append

theorem Spells.allRead {lexemes : List Lexeme} {text rest : Text}
    (spells : Spells lexemes text rest) : AllRead lexemes := by
  induction lexemes generalizing text with
  | nil => exact allRead_nil
  | cons lexeme lexemes ih =>
    obtain ⟨mid, read, more⟩ := spells
    exact allRead_cons.mpr ⟨⟨text, mid, read⟩, ih more⟩

end BulkSql
