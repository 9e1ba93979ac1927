import BulkSql.Proofs.Syntax.Endings
import BulkSql.Proofs.Syntax.Parsing
import BulkSql.Proofs.Syntax.Symbols
import BulkSql.Syntax.TokenList

/-! # Lexemes as tokens

The grammar reads lexemes from characters and never sees the tokens of a text. Where a text spells lexemes of the
grammar and can be cut into tokens, each lexeme is one token nevertheless, with the same text.
-/

namespace BulkSql

open Reader

/-! ## Kinds of tokens -/

/-- The kind of token that a constant is. -/
def LiteralKind.tokenKind : LiteralKind → TokenKind
  | boolean | null => .keyword
  | number => .number
  | string => .string

namespace Lexeme

/-- A token of a kind and with a text is a lexeme. Keywords may be written in any case and inequality in two ways; all
else is written as it stands in the tree. -/
def IsToken : Lexeme → TokenKind → Text → Prop
  | placeholder, kind, text => kind = .placeholder ∧ text = ['?']
  | literal written, kind, text => kind = written.kind.tokenKind ∧ text = written.text
  | name written, kind, text => kind = .identifier ∧ text = written
  | type written, kind, text => (kind = .identifier ∨ kind = .keyword) ∧ text = written
  | symbol written, kind, text => (kind = .operator ∨ kind = .punctuation) ∧ text = written
  | comparison op, kind, text => kind = .operator ∧ (text = op.text ∨ op = .notEqual ∧ text = ['<', '>'])
  | keyword wanted, kind, text => kind = .keyword ∧ Text.upperCase text = wanted.word

/-- A type of arrays has brackets behind the name of the type of its elements. -/
def IsArray : Lexeme → Prop
  | type written => ['[', ']'] <:+ written
  | _ => False

theorem IsArray.exists_type {lexeme : Lexeme} (array : lexeme.IsArray) : ∃ written, lexeme = .type written := by
  cases lexeme with
  | type written => exact ⟨written, rfl⟩
  | placeholder | literal | name | symbol | comparison | keyword => exact array.elim

end Lexeme

namespace Token

variable {text rest written : Text}

theorem ofKind_of_done (kind : TokenKind) {lexeme : Reader Text} (done : lexeme text = .done written rest) :
    ofKind kind lexeme text = .done (kind, written) rest := bind_of_done done _

/-! ## How tokens start -/

/-- A string starts with a quote. -/
theorem read_string (done : Reader.string text = .done written rest) : read text = .done (.string, written) rest :=
  firstOf_of_done (ofKind_of_done .string done)

theorem fails_string (clear : Clear (· == '\'') text) : Fails (ofKind .string Reader.string) text :=
  (fails_lexeme (fails_rawQuoted clear)).bind _

theorem read_number (done : Reader.number text = .done written rest) : read text = .done (.number, written) rest := by
  obtain ⟨c, more, after, rfl, rfl, head⟩ := number_head done
  have noQuote : (c == '\'') = false := by
    rw [beq_eq_false_iff_ne]
    rintro rfl
    exact absurd head (by decide)
  exact firstOf_of_fails (fails_string (clear_cons.mpr noQuote)) (firstOf_of_done (ofKind_of_done .number done))

/-- Where no constant starts, a token is a placeholder, a word or a symbol. -/
theorem read_of_not_constant {token : TokenKind × Text} (noQuote : Clear (· == '\'') text)
    (noNumber : Fails rawNumber text)
    (done : firstOf [ofKind .placeholder .placeholder, readWord, ofKind .operator (.firstOf (operators.map .symbol)),
      ofKind .punctuation (.firstOf (punctuationMarks.map .symbol))] text = .done token rest) :
    read text = .done token rest :=
  firstOf_of_fails (fails_string noQuote) (firstOf_of_fails ((fails_lexeme noNumber).bind _) done)

theorem read_placeholder (mid : Text) : read ('?' :: mid) = .done (.placeholder, ['?']) (skipLayout mid) := by
  have done : Reader.placeholder ('?' :: mid) = .done ['?'] (skipLayout mid) :=
    symbol_eq_done_iff.mpr ⟨rfl, mid, rfl, rfl⟩
  exact read_of_not_constant (clear_cons.mpr rfl) (fails_rawNumber (clear_cons.mpr rfl))
    (firstOf_of_done (ofKind_of_done .placeholder done))

theorem fails_placeholder (clear : Clear (· == '?') text) : Fails (ofKind .placeholder Reader.placeholder) text := by
  refine (fails_symbol ?_).bind _
  rintro ⟨more, rfl⟩
  exact absurd (clear_cons.mp clear) (by decide)

/-- No word starts with a digit. -/
theorem not_isWordStart_of_isDecimalDigit {c : Char} (digit : isDecimalDigit c) : isWordStart c = false := by
  rw [isWordStart, isLetter, not_isAlpha_of_isDecimalDigit digit, Bool.false_or, beq_eq_false_iff_ne]
  rintro rfl
  exact absurd digit (by decide)

/-- Where a word or a quoted name starts, the token is one. -/
theorem read_of_readWord {token : TokenKind × Text} {c : Char} {more : Text} (start : isWordStart c ∨ c = '"')
    (done : readWord (c :: more) = .done token rest) : read (c :: more) = .done token rest := by
  have noNumber : (isDecimalDigit c || c == '.') = false := by
    apply Bool.eq_false_iff.mpr
    intro number
    simp only [Bool.or_eq_true, beq_iff_eq] at number
    rcases number with digit | rfl
    · rcases start with start | rfl
      · exact Bool.eq_false_iff.mp (not_isWordStart_of_isDecimalDigit digit) start
      · exact absurd digit (by decide)
    · exact absurd start (by decide)
  have other {mark : Char} (apart : ¬(isWordStart mark ∨ mark = '"')) : (c == mark) = false := by
    rw [beq_eq_false_iff_ne]
    rintro rfl
    exact apart start
  apply read_of_not_constant (clear_cons.mpr (other (by decide))) (fails_rawNumber (clear_cons.mpr noNumber))
  exact firstOf_of_fails (fails_placeholder (clear_cons.mpr (other (by decide)))) (firstOf_of_done done)

theorem read_quotedName (done : quotedName text = .done written rest) :
    read text = .done (.identifier, written) rest := by
  obtain ⟨mid, raw, -⟩ := lexeme_eq_done_iff.mp done
  obtain ⟨body, inside, -, rfl, -⟩ := rawQuoted_eq_done_iff.mp raw
  exact read_of_readWord (.inr rfl) (firstOf_of_done (ofKind_of_done .identifier done))

theorem read_word (done : Reader.word text = .done written rest) :
    read text = .done (if isReserved written then .keyword else .identifier, written) rest := by
  obtain ⟨mid, raw, -⟩ := lexeme_eq_done_iff.mp done
  obtain ⟨-, -, c, more, rfl, start⟩ := rawWord_eq_done_iff.mp raw
  have noQuote : (c == '"') = false := by
    rw [beq_eq_false_iff_ne]
    rintro rfl
    exact absurd start (by decide)
  have noName : Fails (ofKind .identifier quotedName) (c :: more) :=
    (fails_lexeme (fails_rawQuoted (clear_cons.mpr noQuote))).bind _
  exact read_of_readWord (.inl start) (firstOf_of_fails noName (firstOf_of_done (bind_of_done done _)))

/-- The characters that start a token that is neither a symbol nor a number. -/
def startsNoSymbol (c : Char) : Bool := isWordStart c || c == '\'' || c == '"' || c == '?'

theorem fails_readWord (clear : Clear startsNoSymbol text) : Fails readWord text := by
  apply fails_firstOf
  intro reader member
  simp only [List.mem_cons, List.not_mem_nil, or_false] at member
  rcases member with rfl | rfl
  · exact (fails_lexeme (fails_rawQuoted (clear.mono fun c is => by simp [startsNoSymbol, is]))).bind _
  · exact (fails_lexeme (fails_rawWord (clear.mono fun c is => by simp [startsNoSymbol, is]))).bind _

/-- Where nothing else starts, the token is a symbol. -/
theorem read_of_symbol {token : TokenKind × Text} (clear : Clear startsNoSymbol text) (noNumber : Fails rawNumber text)
    (done : firstOf [ofKind .operator (.firstOf (operators.map .symbol)),
      ofKind .punctuation (.firstOf (punctuationMarks.map .symbol))] text = .done token rest) :
    read text = .done token rest := by
  apply read_of_not_constant (clear.mono fun c is => by simp [startsNoSymbol, is]) noNumber
  refine firstOf_of_fails (fails_placeholder (clear.mono fun c is => by simp [startsNoSymbol, is])) ?_
  exact firstOf_of_fails (fails_readWord clear) done

/-! ## Symbols -/

theorem symbols_of_missing {wanted : Text} {wishes : List Text} (missing : ¬wanted <+: text)
    (later : firstOf (wishes.map Reader.symbol) text = .done written rest) :
    firstOf ((wanted :: wishes).map Reader.symbol) text = .done written rest :=
  firstOf_of_fails (fails_symbol missing) later

theorem fails_symbols {wishes : List Text} (missing : ∀ wanted ∈ wishes, ¬wanted <+: text) :
    Fails (firstOf (wishes.map Reader.symbol)) text := by
  apply fails_firstOf
  intro reader member
  obtain ⟨wanted, inside, rfl⟩ := List.mem_map.mp member
  exact fails_symbol (missing wanted inside)

/-- The first symbol of a list that the text starts with is read. -/
theorem symbols_of_find {wishes before behind : List Text} {wanted : Text} (split : wishes = before ++ wanted :: behind)
    (missing : ∀ other ∈ before, ¬other <+: wanted ++ text) :
    firstOf (wishes.map Reader.symbol) (wanted ++ text) = .done wanted (skipLayout text) := by
  induction before generalizing wishes with
  | nil =>
    subst split
    exact firstOf_of_done (symbol_eq_done_iff.mpr ⟨rfl, text, rfl, rfl⟩)
  | cons first before ih =>
    subst split
    obtain ⟨one, others⟩ := List.forall_mem_cons.mp missing
    exact symbols_of_missing one (ih rfl others)

/-- The characters that start no operator. -/
def startsNoOperator (c : Char) : Bool := startsNoSymbol c || isDecimalDigit c || c == '.'

theorem fails_rawNumber_of_clear (clear : Clear startsNoOperator text) : Fails rawNumber text :=
  fails_rawNumber (clear.mono fun c is => by
    simp only [startsNoOperator, Bool.or_eq_true] at is ⊢
    rcases is with digit | point
    · exact .inl (.inr digit)
    · exact .inr point)

theorem read_operator {before behind : List Text} {wanted : Text} (split : operators = before ++ wanted :: behind)
    (missing : ∀ other ∈ before, ¬other <+: wanted ++ text) (clear : Clear startsNoOperator (wanted ++ text)) :
    read (wanted ++ text) = .done (.operator, wanted) (skipLayout text) := by
  apply read_of_symbol (clear.mono fun c is => by simp [startsNoOperator, is]) (fails_rawNumber_of_clear clear)
  exact firstOf_of_done (ofKind_of_done .operator (symbols_of_find split missing))

/-- A punctuation mark is read where no number starts, as with a point. -/
theorem read_punctuation {before behind : List Text} {wanted : Text}
    (split : punctuationMarks = before ++ wanted :: behind) (missing : ∀ other ∈ before, ¬other <+: wanted ++ text)
    (noOperator : ∀ other ∈ operators, ¬other <+: wanted ++ text) (clear : Clear startsNoSymbol (wanted ++ text))
    (noNumber : Fails rawNumber (wanted ++ text)) :
    read (wanted ++ text) = .done (.punctuation, wanted) (skipLayout text) := by
  apply read_of_symbol clear noNumber
  refine firstOf_of_fails ((fails_symbols noOperator).bind _) (firstOf_of_done ?_)
  exact ofKind_of_done .punctuation (symbols_of_find split missing)

/-- Each mark is a token whatever follows it. -/
theorem read_mark {mark : Text} (member : mark ∈ Lexeme.marks) (mid : Text) :
    ∃ kind, read (mark ++ mid) = .done (kind, mark) (skipLayout mid) ∧ (kind = .operator ∨ kind = .punctuation) := by
  simp only [Lexeme.marks, List.mem_cons, List.not_mem_nil, or_false] at member
  rcases member with rfl | rfl | rfl | rfl | rfl | rfl | rfl | rfl | rfl | rfl
  · exact ⟨_, @read_punctuation _ [] _ _ rfl (by simp) (by simp [operators]) (clear_cons.mpr rfl)
      (fails_rawNumber (clear_cons.mpr rfl)), .inr rfl⟩
  · exact ⟨_, @read_punctuation _ ["("] _ _ rfl (by simp) (by simp [operators]) (clear_cons.mpr rfl)
      (fails_rawNumber (clear_cons.mpr rfl)), .inr rfl⟩
  · exact ⟨_, @read_punctuation _ ["(", ")"] _ _ rfl (by simp) (by simp [operators]) (clear_cons.mpr rfl)
      (fails_rawNumber (clear_cons.mpr rfl)), .inr rfl⟩
  · exact ⟨_, @read_operator _ (operators.take 10) _ _ rfl (by simp [operators]) (clear_cons.mpr rfl), .inl rfl⟩
  · exact ⟨_, @read_operator _ [] _ _ rfl (by simp) (clear_cons.mpr rfl), .inl rfl⟩
  · exact ⟨_, @read_operator _ (operators.take 5) _ _ rfl (by simp [operators]) (clear_cons.mpr rfl), .inl rfl⟩
  · exact ⟨_, @read_operator _ (operators.take 6) _ _ rfl (by simp [operators]) (clear_cons.mpr rfl), .inl rfl⟩
  · exact ⟨_, @read_operator _ (operators.take 7) _ _ rfl (by simp [operators]) (clear_cons.mpr rfl), .inl rfl⟩
  · exact ⟨_, @read_operator _ (operators.take 8) _ _ rfl (by simp [operators]) (clear_cons.mpr rfl), .inl rfl⟩
  · exact ⟨_, @read_operator _ (operators.take 9) _ _ rfl (by simp [operators]) (clear_cons.mpr rfl), .inl rfl⟩

/-- A comparison of two characters is read whatever follows it. -/
theorem comparisonOperator_pair (first second : Char) {op : ComparisonOp}
    (member : ([first, second], op) ∈ Expr.comparisonSpellings) (more : Text) :
    Expr.comparisonOperator (first :: second :: more) = .done op (skipLayout more) := by
  have done (written : Text) (op : ComparisonOp) :
      Expr.operator written op (written ++ more) = .done op (skipLayout more) :=
    Expr.operator_eq_done_iff.mpr ⟨rfl, more, rfl, rfl⟩
  simp only [Expr.comparisonSpellings, List.mem_cons, Prod.mk.injEq, List.cons.injEq, List.not_mem_nil, or_false,
    and_true, reduceCtorEq, and_false, false_and] at member
  rcases member with ⟨⟨rfl, rfl⟩, rfl⟩ | ⟨⟨rfl, rfl⟩, rfl⟩ | ⟨⟨rfl, rfl⟩, rfl⟩ | ⟨⟨rfl, rfl⟩, rfl⟩
  · exact firstOf_of_done (done ['>', '='] _)
  · exact Expr.firstOf_of_missing (by simp) (firstOf_of_done (done ['<', '='] _))
  · exact Expr.firstOf_of_missing (by simp) (Expr.firstOf_of_missing (by simp) (firstOf_of_done (done ['!', '='] _)))
  · exact Expr.firstOf_of_missing (by simp) (Expr.firstOf_of_missing (by simp)
      (Expr.firstOf_of_missing (by simp) (firstOf_of_done (done ['<', '>'] _))))

/-- A comparison that was read is the longest operator there. -/
theorem read_comparison {op : ComparisonOp} (done : Expr.comparisonOperator text = .done op rest) :
    ∃ written, read text = .done (.operator, written) rest ∧
      (written = op.text ∨ op = .notEqual ∧ written = ['<', '>']) := by
  obtain ⟨written, mid, member, rfl, rfl⟩ := Expr.spelling_of_comparisonOperator done
  simp only [Expr.comparisonSpellings, List.mem_cons, Prod.mk.injEq, List.not_mem_nil, or_false] at member
  rcases member with ⟨rfl, rfl⟩ | ⟨rfl, rfl⟩ | ⟨rfl, rfl⟩ | ⟨rfl, rfl⟩ | ⟨rfl, rfl⟩ | ⟨rfl, rfl⟩ | ⟨rfl, rfl⟩
  · exact ⟨_, @read_operator _ (operators.take 1) _ _ rfl (by simp [operators]) (clear_cons.mpr rfl), .inl rfl⟩
  · exact ⟨_, @read_operator _ (operators.take 2) _ _ rfl (by simp [operators]) (clear_cons.mpr rfl), .inl rfl⟩
  · exact ⟨_, @read_operator _ (operators.take 3) _ _ rfl (by simp [operators]) (clear_cons.mpr rfl), .inl rfl⟩
  · exact ⟨_, @read_operator _ (operators.take 4) _ _ rfl (by simp [operators]) (clear_cons.mpr rfl), .inr ⟨rfl, rfl⟩⟩
  · exact ⟨_, @read_operator _ (operators.take 10) _ _ rfl (by simp [operators]) (clear_cons.mpr rfl), .inl rfl⟩
  · have noEqual : ¬['='] <+: mid := by
      rintro ⟨more, rfl⟩
      cases done.symm.trans (@comparisonOperator_pair '<' '=' .lessOrEqual (by simp [Expr.comparisonSpellings]) more)
    have noGreater : ¬['>'] <+: mid := by
      rintro ⟨more, rfl⟩
      cases done.symm.trans (@comparisonOperator_pair '<' '>' .notEqual (by simp [Expr.comparisonSpellings]) more)
    have missing : ∀ other ∈ operators.take 11, ¬other <+: '<' :: mid := by simp [operators, noEqual, noGreater]
    exact ⟨_, read_operator rfl missing (clear_cons.mpr rfl), .inl rfl⟩
  · have noEqual : ¬['='] <+: mid := by
      rintro ⟨more, rfl⟩
      cases done.symm.trans (@comparisonOperator_pair '>' '=' .greaterOrEqual (by simp [Expr.comparisonSpellings]) more)
    have missing : ∀ other ∈ operators.take 12, ¬other <+: '>' :: mid := by simp [operators, noEqual]
    exact ⟨_, read_operator rfl missing (clear_cons.mpr rfl), .inl rfl⟩

/-! ## Words -/

theorem read_keyword {keyword : Keyword} (spelled : Keyword.lookup? (leadWord text) = some keyword) :
    read text = .done (.keyword, leadWord text) (skipLayout (text.dropWhile isWordChar)) := by
  obtain ⟨c, more, rfl, letter⟩ := head_of_lookup?_leadWord spelled
  have start : isWordStart c := by simp [isWordStart, isLetter, letter]
  have raw := rawWord_eq_done_iff.mpr ⟨rfl, rfl, c, more, rfl, start⟩
  have reserved : isReserved (leadWord (c :: more)) = true := by rw [isReserved, spelled, Option.isSome_some]
  have done := read_word (lexeme_eq_done_iff.mpr ⟨_, raw, rfl⟩)
  rw [show List.takeWhile isWordChar (c :: more) = leadWord (c :: more) from rfl, if_pos reserved] at done
  exact done

theorem read_literal {literal : Literal} (isRead : literal.IsReadAs text rest) :
    read text = .done (literal.kind.tokenKind, literal.text) rest := by
  cases isRead with
  | word kind keyword names spelled ends =>
    subst ends
    rcases names with ⟨rfl, -⟩ | ⟨rfl, -⟩
    · exact read_keyword spelled
    · exact read_keyword spelled
  | number written done => exact read_number done
  | string written done => exact read_string done

theorem read_identifier (done : identifier text = .done written rest) :
    read text = .done (.identifier, written) rest := by
  rcases identifier_eq_done_iff.mp done with quoted | bare
  · exact read_quotedName quoted
  · obtain ⟨isWord, free⟩ := bareName_eq_done_iff.mp bare
    have done := read_word isWord
    rw [free] at done
    exact done

/-- The name of a type is one token, also in front of brackets. -/
theorem read_type (done : typeName text = .done written rest) :
    ¬['[', ']'] <:+ written ∧ (∃ kind, read text = .done (kind, written) rest ∧ (kind = .identifier ∨ kind = .keyword)) ∨
      ['[', ']'] <:+ written ∧ ∃ token more, read text = .done token ('[' :: ']' :: more) := by
  obtain ⟨name, mid, nameRead, ends⟩ := exists_of_typeName done
  have named : ∃ kind, read text = .done (kind, name) (skipLayout mid) ∧ (kind = .identifier ∨ kind = .keyword) := by
    rcases nameRead with isWord | isQuoted
    · refine ⟨_, read_word (lexeme_eq_done_iff.mpr ⟨_, isWord, rfl⟩), ?_⟩
      cases isReserved name with
      | true => exact .inr rfl
      | false => exact .inl rfl
    · exact ⟨_, read_quotedName (lexeme_eq_done_iff.mpr ⟨_, isQuoted, rfl⟩), .inl rfl⟩
  rcases ends with ⟨rfl, rfl⟩ | ⟨rfl, more, rfl⟩
  · exact .inl ⟨(nameRead.elim nameForm_of_rawWord nameForm_of_rawQuoted).not_suffix_brackets, named⟩
  · obtain ⟨kind, nameDone, -⟩ := named
    rw [skipLayout_of_startsBare (by simp [StartsBare, isSpace])] at nameDone
    exact .inr ⟨List.suffix_append .., _, more, nameDone⟩

/-- A dot in front of a name is a token, since no number starts there. -/
theorem read_dot {mid : Text} (named : identifier (skipLayout mid) = .done written rest) :
    read ('.' :: mid) = .done (.punctuation, ['.']) (skipLayout mid) := by
  have noDigit : Clear isDecimalDigit mid := by
    intro d head
    apply Bool.eq_false_iff.mpr
    intro digit
    obtain ⟨more, rfl⟩ := List.head?_eq_some_iff.mp head
    have bare := startsBare_of_startsOperand (show Expr.startsOperand d by
      simp [Expr.startsOperand, Expr.startsConstant, digit]) more
    rw [skipLayout_of_startsBare bare] at named
    obtain ⟨c, behind, same, -, head⟩ := identifier_head named
    cases same
    rcases head with rfl | ⟨start, -⟩
    · exact absurd digit (by decide)
    · exact Bool.eq_false_iff.mp (not_isWordStart_of_isDecimalDigit digit) start
  have noNumber : Fails rawNumber ('.' :: mid) := by
    apply fails_firstOf
    intro reader member
    simp only [List.mem_cons, List.not_mem_nil, or_false] at member
    rcases member with rfl | rfl
    · exact (fails_digits (clear_cons.mpr rfl)).bind _
    · have point : exactly ['.'] ('.' :: mid) = .done ['.'] mid := exactly_eq_done_iff.mpr ⟨rfl, rfl⟩
      exact (fails_bind_of_done point ((fails_digits noDigit).bind _)).bind _
  exact @read_punctuation mid ["(", ")", ","] [";"] ['.'] rfl (by simp) (by simp [operators]) (clear_cons.mpr rfl)
    noNumber

theorem read_semicolon (mid : Text) : read (';' :: mid) = .done (.punctuation, [';']) (skipLayout mid) :=
  @read_punctuation mid ["(", ")", ",", "."] [] [';'] rfl (by simp) (by simp [operators]) (clear_cons.mpr rfl)
    (fails_rawNumber (clear_cons.mpr rfl))

/-! ## Lexemes that are read -/

/-- The first token of a text is a lexeme and leaves a rest. -/
def IsFirst (lexeme : Lexeme) (text rest : Text) : Prop :=
  ∃ kind written, read text = .done (kind, written) rest ∧ lexeme.IsToken kind written

/-- A lexeme that a text is read as is its first token, unless it is a type of arrays. -/
theorem isFirst_of_reads {lexeme : Lexeme} (wordy : ∀ symbol, lexeme ≠ .symbol symbol)
    (reads : lexeme.Reads text rest) :
    ¬lexeme.IsArray ∧ IsFirst lexeme text rest ∨
      lexeme.IsArray ∧ ∃ token more, read text = .done token ('[' :: ']' :: more) := by
  cases lexeme with
  | placeholder =>
    obtain ⟨-, mid, rfl, rfl⟩ := Expr.readPlaceholder_eq_done_iff.mp reads
    exact .inl ⟨id, _, _, read_placeholder mid, rfl, rfl⟩
  | literal written =>
    obtain ⟨found, same, isRead⟩ := Expr.isReadAs_of_readLiteral reads
    cases same
    exact .inl ⟨id, _, _, read_literal isRead, rfl, rfl⟩
  | name written => exact .inl ⟨id, _, _, read_identifier reads, rfl, rfl⟩
  | type written =>
    rcases read_type reads with ⟨plain, kind, done, names⟩ | bracketed
    · exact .inl ⟨plain, _, _, done, names, rfl⟩
    · exact .inr bracketed
  | symbol wanted => exact absurd rfl (wordy wanted)
  | comparison op =>
    obtain ⟨spelling, done, names⟩ := read_comparison reads
    exact .inl ⟨id, _, _, done, rfl, names⟩
  | keyword wanted =>
    obtain ⟨spelled, rfl⟩ := keyword_eq_done_iff.mp reads
    exact .inl ⟨id, _, _, read_keyword spelled, rfl, Keyword.lookup?_eq_some_iff.mp spelled⟩

theorem isFirst_mark {mark : Text} (member : mark ∈ Lexeme.marks) (reads : (Lexeme.symbol mark).Reads text rest) :
    IsFirst (.symbol mark) text rest := by
  obtain ⟨-, mid, rfl, rfl⟩ := symbol_eq_done_iff.mp reads
  obtain ⟨kind, done, names⟩ := read_mark member mid
  exact ⟨kind, mark, done, names, rfl⟩

theorem isFirst_dot {mid : Text} (reads : (Lexeme.symbol ['.']).Reads text mid)
    (named : (Lexeme.name written).Reads mid rest) : IsFirst (.symbol ['.']) text mid := by
  obtain ⟨-, behind, rfl, rfl⟩ := symbol_eq_done_iff.mp reads
  exact ⟨_, _, read_dot named, .inr rfl, rfl⟩

/-! ## Cuts -/

section Cut

variable {whole : Text} {tokens : List Token}

theorem fails_read_nil : Fails read [] := by
  apply fails_firstOf
  intro reader member
  simp only [List.mem_cons, List.not_mem_nil, or_false] at member
  rcases member with rfl | rfl | rfl | rfl | rfl | rfl <;> exact ⟨_, rfl⟩

/-- A token that is read starts the list, and the other tokens are cut from the rest of the text. -/
theorem listFrom_of_read {kind : TokenKind} (done : read text = .done (kind, written) rest)
    (cut : listFrom whole text = .ok tokens) :
    ∃ token more,
      tokens = token :: more ∧ token.kind = kind ∧ token.text = written ∧ listFrom whole rest = .ok more := by
  have some_ : text.isEmpty = false := by
    cases text with
    | nil =>
      obtain ⟨why, failed⟩ := fails_read_nil
      cases done.symm.trans failed
    | cons c more => rfl
  rw [listFrom, some_, done] at cut
  simp only [Bool.false_eq_true, if_false] at cut
  split at cut
  · split at cut
    · next more cutMore =>
      cases cut
      exact ⟨_, more, rfl, rfl, rfl, cutMore⟩
    · cases cut
  · cases cut

/-- No token is an opening bracket. -/
theorem fails_read_bracket (more : Text) : Fails read ('[' :: more) := by
  have clear : Clear startsNoOperator ('[' :: more) := clear_cons.mpr rfl
  have noSymbol : Clear startsNoSymbol ('[' :: more) := clear_cons.mpr rfl
  apply fails_firstOf
  intro reader member
  simp only [List.mem_cons, List.not_mem_nil, or_false] at member
  rcases member with rfl | rfl | rfl | rfl | rfl | rfl
  · exact fails_string (clear_cons.mpr rfl)
  · exact (fails_lexeme (fails_rawNumber_of_clear clear)).bind _
  · exact fails_placeholder (clear_cons.mpr rfl)
  · exact fails_readWord noSymbol
  · exact (fails_symbols (by simp [operators])).bind _
  · exact (fails_symbols (by simp [punctuationMarks])).bind _

theorem listFrom_bracket (more : Text) : listFrom whole ('[' :: more) ≠ .ok tokens := by
  obtain ⟨why, failed⟩ := fails_read_bracket more
  rw [listFrom, failed]
  exact nofun

/-- The first token of a list is a lexeme, and the others are cut from a rest of the text. -/
def StartsAs (whole rest : Text) (lexeme : Lexeme) (tokens : List Token) : Prop :=
  ∃ token more, tokens = token :: more ∧ lexeme.IsToken token.kind token.text ∧ listFrom whole rest = .ok more

theorem startsAs_of_read {lexeme : Lexeme} {kind : TokenKind} (done : read text = .done (kind, written) rest)
    (isToken : lexeme.IsToken kind written) (cut : listFrom whole text = .ok tokens) :
    StartsAs whole rest lexeme tokens := by
  obtain ⟨token, more, rfl, rfl, rfl, cutMore⟩ := listFrom_of_read done cut
  exact ⟨token, more, rfl, isToken, cutMore⟩

/-- A lexeme that a text is read as is its first token. -/
theorem startsAs_of_reads {lexeme : Lexeme} (wordy : ∀ symbol, lexeme ≠ .symbol symbol)
    (reads : lexeme.Reads text rest) (cut : listFrom whole text = .ok tokens) : StartsAs whole rest lexeme tokens := by
  rcases isFirst_of_reads wordy reads with ⟨-, kind, written, done, isToken⟩ | ⟨-, ⟨kind, name⟩, behind, done⟩
  · exact startsAs_of_read done isToken cut
  · obtain ⟨token, more, -, -, -, cutMore⟩ := listFrom_of_read done cut
    exact absurd cutMore (listFrom_bracket (']' :: behind))

theorem startsAs_mark {mark : Text} (member : mark ∈ Lexeme.marks) (reads : (Lexeme.symbol mark).Reads text rest)
    (cut : listFrom whole text = .ok tokens) : StartsAs whole rest (.symbol mark) tokens := by
  obtain ⟨kind, written, done, isToken⟩ := isFirst_mark member reads
  exact startsAs_of_read done isToken cut

theorem startsAs_dot {mid : Text} (reads : (Lexeme.symbol ['.']).Reads text mid)
    (named : (Lexeme.name written).Reads mid rest) (cut : listFrom whole text = .ok tokens) :
    StartsAs whole mid (.symbol ['.']) tokens := by
  obtain ⟨kind, written, done, isToken⟩ := isFirst_dot reads named
  exact startsAs_of_read done isToken cut

end Cut

end Token

/-- Tokens are lexemes, one for one. -/
def AreTokens (lexemes : List Lexeme) (tokens : List Token) : Prop :=
  List.Forall₂ (fun lexeme token => lexeme.IsToken token.kind token.text) lexemes tokens

/-- The lexemes that a text starts with are its first tokens. -/
theorem areTokens_of_spells {lexemes : List Lexeme} (regular : Lexeme.Regular lexemes) {whole text rest : Text}
    (spells : Spells lexemes text rest) {tokens : List Token} (cut : Token.listFrom whole text = .ok tokens) :
    ∃ front back, tokens = front ++ back ∧ AreTokens lexemes front ∧ Token.listFrom whole rest = .ok back := by
  induction regular generalizing text tokens with
  | nil =>
    cases spells
    exact ⟨[], tokens, rfl, .nil, cut⟩
  | mark member _ ih =>
    obtain ⟨mid, reads, spells⟩ := spells
    obtain ⟨token, more, rfl, isToken, cutMore⟩ := Token.startsAs_mark member reads cut
    obtain ⟨front, back, rfl, are, cutBack⟩ := ih spells cutMore
    exact ⟨token :: front, back, rfl, .cons isToken are, cutBack⟩
  | dot name _ ih =>
    -- only the name behind it tells that the dot starts no number
    obtain ⟨mid, reads, behind, named, spells⟩ := spells
    obtain ⟨point, more, rfl, isPoint, cutMore⟩ := Token.startsAs_dot reads named cut
    obtain ⟨token, more, rfl, isToken, cutMore⟩ := Token.startsAs_of_reads (by simp) named cutMore
    obtain ⟨front, back, rfl, are, cutBack⟩ := ih spells cutMore
    exact ⟨point :: token :: front, back, rfl, .cons isPoint (.cons isToken are), cutBack⟩
  | wordy wordy _ ih =>
    obtain ⟨mid, reads, spells⟩ := spells
    obtain ⟨token, more, rfl, isToken, cutMore⟩ := Token.startsAs_of_reads wordy reads cut
    obtain ⟨front, back, rfl, are, cutBack⟩ := ih spells cutMore
    exact ⟨token :: front, back, rfl, .cons isToken are, cutBack⟩

/-- What ends a text is no token or a semicolon. -/
theorem tokens_of_endsText {whole rest : Text} (ends : Statement.EndsText rest) {tokens : List Token}
    (cut : Token.listFrom whole rest = .ok tokens) :
    tokens = [] ∨ ∃ position, tokens = [{ kind := .punctuation, text := [';'], position }] := by
  have nothing {more : List Token} (cut : Token.listFrom whole [] = .ok more) : more = [] := by
    rw [Token.listFrom] at cut
    cases cut
    rfl
  rcases ends with rfl | semicolon
  · exact .inl (nothing cut)
  · obtain ⟨-, mid, rfl, skipped⟩ := symbol_eq_done_iff.mp semicolon
    obtain ⟨⟨kind, text, position⟩, more, rfl, rfl, rfl, cutMore⟩ := Token.listFrom_of_read (Token.read_semicolon mid) cut
    rw [← skipped] at cutMore
    rw [nothing cutMore]
    exact .inr ⟨position, rfl⟩

end BulkSql
