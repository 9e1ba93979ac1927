import BulkSql.Proofs.Syntax.Endings

/-! # Forms of lexemes

What names, types and constants look like, said without a reader. A lexeme can be read exactly if it has the form of
its kind, so that a tree of lexemes that have their forms is all that a reader can ever return.
-/

namespace BulkSql

open Reader

/-! ## Quoted texts -/

/-- A text with every quote in it written twice. -/
def doubleQuotes (quote : Char) (inside : Text) : Text :=
  inside.flatMap fun c => if c = quote then [quote, quote] else [c]

theorem doubleQuotes_cons_self (quote : Char) (inside : Text) :
    doubleQuotes quote (quote :: inside) = quote :: quote :: doubleQuotes quote inside := by
  rw [doubleQuotes, List.flatMap_cons, if_pos rfl]
  rfl

theorem doubleQuotes_cons_of_ne {quote c : Char} (other : c ≠ quote) (inside : Text) :
    doubleQuotes quote (c :: inside) = c :: doubleQuotes quote inside := by
  rw [doubleQuotes, List.flatMap_cons, if_neg other]
  rfl

/-- Anything between two quotes, in which a quote is written twice. -/
def IsQuoted (quote : Char) (text : Text) : Prop :=
  ∃ inside, text = quote :: (doubleQuotes quote inside ++ [quote])

theorem closedWhole_doubleQuotes (quote : Char) (inside : Text) :
    ClosedWhole quote (doubleQuotes quote inside ++ [quote]) := by
  induction inside with
  | nil => exact closeQuote?_of_clear (clear_nil _)
  | cons c inside ih =>
    by_cases same : c = quote
    · rw [same, doubleQuotes_cons_self]
      exact closedWhole_doubled_iff.mpr ih
    · rw [doubleQuotes_cons_of_ne same]
      exact (closedWhole_cons_iff same).mpr ih

/-- A text that its last quote closes is paired up in front of it. -/
theorem exists_doubleQuotes {quote : Char} : ∀ {text : Text}, ClosedWhole quote text →
    ∃ inside, text = doubleQuotes quote inside ++ [quote]
  | [], closed => absurd closed not_closedWhole_nil
  | [c], closed => by
    by_cases same : c = quote
    · exact ⟨[], by rw [same]; rfl⟩
    · exact absurd ((closedWhole_cons_iff same).mp closed) not_closedWhole_nil
  | c :: d :: rest, closed => by
    by_cases same : c = quote
    · rw [same] at closed
      by_cases doubled : d = quote
      · rw [doubled] at closed
        obtain ⟨inside, split⟩ := exists_doubleQuotes (closedWhole_doubled_iff.mp closed)
        exact ⟨quote :: inside, by rw [split, same, doubled, doubleQuotes_cons_self]; rfl⟩
      · cases eq_nil_of_closedWhole closed (by simpa using doubled)
    · obtain ⟨inside, split⟩ := exists_doubleQuotes ((closedWhole_cons_iff same).mp closed)
      exact ⟨c :: inside, by rw [split, doubleQuotes_cons_of_ne same]; rfl⟩

theorem isQuoted_of_rawQuoted {quote : Char} {text written rest : Text}
    (done : rawQuoted quote text = .done written rest) : IsQuoted quote written := by
  obtain ⟨body, inside, rfl, -, closed⟩ := rawQuoted_eq_done_iff.mp done
  obtain ⟨doubled, rfl⟩ := exists_doubleQuotes (closedWhole_of_closeQuote? closed)
  exact ⟨doubled, rfl⟩

theorem rawQuoted_of_isQuoted {quote : Char} {text : Text} (quoted : IsQuoted quote text) :
    rawQuoted quote text = .done text [] := by
  obtain ⟨inside, rfl⟩ := quoted
  exact rawQuoted_eq_done_iff.mpr ⟨_, _, rfl, rfl, closedWhole_doubleQuotes quote inside⟩

/-! ## Numbers -/

def IsDigits (text : Text) : Prop := text ≠ [] ∧ ∀ c ∈ text, isDecimalDigit c

/-- A point and digits. -/
def IsFraction (text : Text) : Prop := ∃ places, IsDigits places ∧ text = '.' :: places

/-- The letter of a power, a sign or none, and digits. -/
def IsExponent (text : Text) : Prop :=
  ∃ mark ∈ ['e', 'E'], ∃ sign ∈ [[], ['+'], ['-']], ∃ power, IsDigits power ∧ text = mark :: (sign ++ power)

/-- Digits, a fraction or both, with an exponent behind them or none. -/
def IsNumber (text : Text) : Prop :=
  ∃ whole part power, text = whole ++ part ++ power ∧ (power = [] ∨ IsExponent power) ∧
    (IsDigits whole ∧ (part = [] ∨ IsFraction part) ∨ whole = [] ∧ IsFraction part)

section Numbers

variable {text written rest after : Text}

theorem isDigits_of_digits (done : digits text = .done written rest) : IsDigits written := by
  obtain ⟨rfl, -, some_⟩ := digits_eq_done_iff.mp done
  exact ⟨some_, List.all_eq_true.mp List.all_takeWhile⟩

theorem IsDigits.read (isDigits : IsDigits text) (clear : Clear isDecimalDigit after) :
    digits (text ++ after) = .done text after :=
  digits_eq_done_iff.mpr ⟨(takeWhile_append_of_clear isDigits.2 clear).symm,
    (dropWhile_append_of_clear isDigits.2 clear).symm, isDigits.1⟩

theorem isFraction_of_fraction (done : fraction text = .done written rest) : IsFraction written := by
  obtain ⟨point, afterPoint, pointRead, done⟩ := bind_eq_done_iff.mp done
  obtain ⟨places, afterPlaces, placesRead, done⟩ := bind_eq_done_iff.mp done
  cases done
  obtain ⟨rfl, -⟩ := exactly_eq_done_iff.mp pointRead
  exact ⟨places, isDigits_of_digits placesRead, rfl⟩

theorem IsFraction.read (isFraction : IsFraction text) (clear : Clear isDecimalDigit after) :
    fraction (text ++ after) = .done text after := by
  obtain ⟨places, isDigits, rfl⟩ := isFraction
  have point : exactly ['.'] ('.' :: places ++ after) = .done ['.'] (places ++ after) :=
    exactly_eq_done_iff.mpr ⟨rfl, rfl⟩
  exact (bind_of_done point _).trans (bind_of_done (isDigits.read clear) _)

theorem isExponent_of_exponent (done : exponent text = .done written rest) : IsExponent written := by
  obtain ⟨mark, afterMark, markRead, done⟩ := bind_eq_done_iff.mp done
  obtain ⟨sign?, afterSign, signRead, done⟩ := bind_eq_done_iff.mp done
  obtain ⟨power, afterPower, powerRead, done⟩ := bind_eq_done_iff.mp done
  cases done
  obtain ⟨c, member, rfl, -⟩ := oneOf_eq_done_iff.mp markRead
  have isSign : sign?.getD [] ∈ [[], ['+'], ['-']] := by
    rcases optional_eq_done_iff.mp signRead with ⟨sign, read, rfl⟩ | ⟨-, rfl, -⟩
    · obtain ⟨d, member, rfl, -⟩ := oneOf_eq_done_iff.mp read
      simpa using member
    · exact List.mem_cons_self ..
  exact ⟨c, member, _, isSign, power, isDigits_of_digits powerRead, rfl⟩

/-- Digits start with no other character. -/
theorem IsDigits.clear {avoided : Char → Bool} (isDigits : IsDigits text)
    (apart : ∀ c, isDecimalDigit c → avoided c = false) (after : Text) : Clear avoided (text ++ after) := by
  obtain ⟨c, more, rfl⟩ := List.exists_cons_of_ne_nil isDigits.1
  exact clear_cons.mpr (apart c (isDigits.2 c (List.mem_cons_self ..)))

theorem IsExponent.read (isExponent : IsExponent text) (clear : Clear isDecimalDigit after) :
    exponent (text ++ after) = .done text after := by
  obtain ⟨mark, isMark, sign, isSign, power, isDigits, rfl⟩ := isExponent
  have marked : oneOf ['e', 'E'] (mark :: (sign ++ power) ++ after) = .done [mark] (sign ++ (power ++ after)) :=
    oneOf_eq_done_iff.mpr ⟨mark, isMark, rfl, by simp⟩
  have signed : ∃ sign?, optional (oneOf ['+', '-']) (sign ++ (power ++ after)) = .done sign? (power ++ after) ∧
      sign?.getD [] = sign := by
    have some_ (c : Char) (member : c ∈ ['+', '-']) :
        optional (oneOf ['+', '-']) (c :: (power ++ after)) = .done (some [c]) (power ++ after) :=
      optional_of_done (oneOf_eq_done_iff.mpr ⟨c, member, rfl, rfl⟩)
    simp only [List.mem_cons, List.not_mem_nil, or_false] at isSign
    rcases isSign with rfl | rfl | rfl
    · refine ⟨none, optional_of_fails (fails_oneOf (isDigits.clear (fun c digit => ?_) after)), rfl⟩
      simp only [List.contains_cons, List.contains_nil, Bool.or_false, Bool.or_eq_false_iff, beq_eq_false_iff_ne]
      constructor <;> rintro rfl <;> cases digit
    · exact ⟨_, some_ '+' (by simp), rfl⟩
    · exact ⟨_, some_ '-' (by simp), rfl⟩
  obtain ⟨sign?, signRead, rfl⟩ := signed
  apply (bind_of_done marked _).trans
  apply (bind_of_done signRead _).trans
  exact (bind_of_done (isDigits.read clear) _).trans (by rw [List.append_assoc]; rfl)

theorem isNumber_of_rawNumber (done : rawNumber text = .done written rest) : IsNumber written := by
  have power_ {text rest : Text} {power? : Option Text} (done : optional exponent text = .done power? rest) :
      power?.getD [] = [] ∨ IsExponent (power?.getD []) := by
    rcases optional_eq_done_iff.mp done with ⟨power, read, rfl⟩ | ⟨-, rfl, -⟩
    · exact .inr (isExponent_of_exponent read)
    · exact .inl rfl
  rcases done_of_firstOf_pair done with read | read
  · obtain ⟨whole, afterWhole, wholeRead, read⟩ := bind_eq_done_iff.mp read
    obtain ⟨part?, afterPart, partRead, read⟩ := bind_eq_done_iff.mp read
    obtain ⟨power?, afterPower, powerRead, built⟩ := bind_eq_done_iff.mp read
    cases built
    refine ⟨whole, _, _, rfl, power_ powerRead, .inl ⟨isDigits_of_digits wholeRead, ?_⟩⟩
    rcases optional_eq_done_iff.mp partRead with ⟨part, fractionRead, rfl⟩ | ⟨-, rfl, -⟩
    · exact .inr (isFraction_of_fraction fractionRead)
    · exact .inl rfl
  · obtain ⟨part, afterPart, partRead, read⟩ := bind_eq_done_iff.mp read
    obtain ⟨power?, afterPower, powerRead, built⟩ := bind_eq_done_iff.mp read
    cases built
    exact ⟨[], part, _, rfl, power_ powerRead, .inr ⟨rfl, isFraction_of_fraction partRead⟩⟩

theorem optional_exponent_of_isExponent (isPower : text = [] ∨ IsExponent text) :
    ∃ power?, optional exponent text = .done power? [] ∧ power?.getD [] = text := by
  rcases isPower with rfl | isExponent
  · exact ⟨none, optional_of_fails (fails_exponent (clear_nil _)), rfl⟩
  · have read := isExponent.read (clear_nil _)
    rw [List.append_nil] at read
    exact ⟨some text, optional_of_done read, rfl⟩

/-- What may stand behind digits or a fraction goes on with neither. -/
theorem clear_of_isExponent {avoided : Char → Bool} (isPower : text = [] ∨ IsExponent text) (lower : avoided 'e' = false)
    (upper : avoided 'E' = false) : Clear avoided text := by
  rcases isPower with rfl | ⟨mark, isMark, sign, -, power, -, rfl⟩
  · exact clear_nil _
  · simp only [List.mem_cons, List.not_mem_nil, or_false] at isMark
    rcases isMark with rfl | rfl
    · exact clear_cons.mpr lower
    · exact clear_cons.mpr upper

theorem rawNumber_of_isNumber (isNumber : IsNumber text) : rawNumber text = .done text [] := by
  obtain ⟨whole, part, power, rfl, isPower, parts⟩ := isNumber
  obtain ⟨power?, powerRead, rfl⟩ := optional_exponent_of_isExponent isPower
  have noDigit : Clear isDecimalDigit (power?.getD []) := clear_of_isExponent isPower (by decide) (by decide)
  rcases parts with ⟨isDigits, isPart⟩ | ⟨rfl, isFraction⟩
  · have partRead : ∃ part?, optional fraction (part ++ power?.getD []) = .done part? (power?.getD []) ∧
        part?.getD [] = part ∧ Clear isDecimalDigit (part ++ power?.getD []) := by
      rcases isPart with rfl | isFraction
      · have noPoint : Clear (· == '.') (power?.getD []) := clear_of_isExponent isPower (by decide) (by decide)
        exact ⟨none, optional_of_fails (fails_fraction noPoint), rfl, noDigit⟩
      · refine ⟨some part, optional_of_done (isFraction.read noDigit), rfl, ?_⟩
        obtain ⟨places, -, rfl⟩ := isFraction
        exact clear_cons.mpr (by decide)
    obtain ⟨part?, partRead, rfl, clear⟩ := partRead
    have wholeRead : digits (whole ++ part?.getD [] ++ power?.getD []) =
        .done whole (part?.getD [] ++ power?.getD []) := by
      rw [List.append_assoc]
      exact isDigits.read clear
    refine firstOf_of_done ((bind_of_done wholeRead _).trans ?_)
    exact (bind_of_done partRead _).trans (bind_of_done powerRead _)
  · have partRead : fraction ([] ++ part ++ power?.getD []) = .done part (power?.getD []) := isFraction.read noDigit
    have noWhole : Fails digits ([] ++ part ++ power?.getD []) := by
      obtain ⟨places, -, rfl⟩ := isFraction
      exact fails_digits (clear_cons.mpr (by decide))
    refine firstOf_of_fails (noWhole.bind _) (firstOf_of_done ?_)
    exact (bind_of_done partRead _).trans (bind_of_done powerRead _)

end Numbers

/-! ## Names, types and constants -/

/-- A word that is not reserved, or anything in double quotes. -/
def IsName (text : Text) : Prop := IsBareWord text ∧ isReserved text = false ∨ IsQuoted '"' text

/-- Any word or anything in double quotes, with brackets behind it or without. -/
def IsType (text : Text) : Prop :=
  ∃ name, (IsBareWord name ∨ IsQuoted '"' name) ∧ (text = name ∨ text = name ++ ['[', ']'])

/-- The text of a constant is a lexeme of its kind. -/
def Literal.HasForm (literal : Literal) : Prop :=
  match literal.kind with
  | .boolean => Text.upperCase literal.text ∈ [Keyword.TRUE.word, Keyword.FALSE.word]
  | .null => Text.upperCase literal.text = Keyword.NULL.word
  | .number => IsNumber literal.text
  | .string => IsQuoted '\'' literal.text

theorem isBareWord_of_rawWord {text written rest : Text} (done : rawWord text = .done written rest) :
    IsBareWord written := by
  obtain ⟨rfl, -, c, more, rfl, start⟩ := rawWord_eq_done_iff.mp done
  rw [List.takeWhile_cons_of_pos (isWordChar_of_isWordStart start)]
  exact ⟨c, _, rfl, start, List.all_eq_true.mp List.all_takeWhile⟩

theorem rawWord_of_isBareWord {word : Text} (bare : IsBareWord word) {after : Text} (clear : Clear isWordChar after) :
    rawWord (word ++ after) = .done word after := by
  obtain ⟨c, more, rfl, start, all⟩ := bare
  have whole : ∀ d ∈ c :: more, isWordChar d := List.forall_mem_cons.mpr ⟨isWordChar_of_isWordStart start, all⟩
  exact rawWord_eq_done_iff.mpr ⟨(takeWhile_append_of_clear whole clear).symm,
    (dropWhile_append_of_clear whole clear).symm, c, more ++ after, rfl, start⟩

theorem isName_of_identifier {text name rest : Text} (done : identifier text = .done name rest) : IsName name := by
  rcases identifier_eq_done_iff.mp done with read | read
  · obtain ⟨mid, raw, -⟩ := lexeme_eq_done_iff.mp read
    exact .inr (isQuoted_of_rawQuoted raw)
  · obtain ⟨isWord, free⟩ := bareName_eq_done_iff.mp read
    obtain ⟨mid, raw, -⟩ := lexeme_eq_done_iff.mp isWord
    exact .inl ⟨isBareWord_of_rawWord raw, free⟩

theorem identifier_of_isName {name : Text} (isName : IsName name) : identifier name = .done name [] := by
  rcases isName with ⟨bare, free⟩ | quoted
  · exact identifier_of_isBareWord bare free
  · have read := lexeme_eq_done_iff.mpr ⟨[], rawQuoted_of_isQuoted quoted, skipLayout_nil.symm⟩
    exact identifier_eq_done_iff.mpr (.inl read)

theorem isType_of_typeName {text type rest : Text} (done : typeName text = .done type rest) : IsType type := by
  obtain ⟨mid, raw, -⟩ := lexeme_eq_done_iff.mp done
  obtain ⟨name, afterName, nameRead, more⟩ := bind_eq_done_iff.mp raw
  obtain ⟨brackets?, afterBrackets, bracketsRead, built⟩ := bind_eq_done_iff.mp more
  cases built
  refine ⟨name, ?_, ?_⟩
  · rcases done_of_firstOf_pair nameRead with read | read
    · exact .inl (isBareWord_of_rawWord read)
    · exact .inr (isQuoted_of_rawQuoted read)
  · rcases optional_eq_done_iff.mp bracketsRead with ⟨brackets, read, rfl⟩ | ⟨-, rfl, -⟩
    · obtain ⟨rfl, -⟩ := exactly_eq_done_iff.mp read
      exact .inr rfl
    · exact .inl (List.append_nil name)

theorem typeName_of_isType {type : Text} (isType : IsType type) : typeName type = .done type [] := by
  obtain ⟨name, form, split⟩ := isType
  have named (after : Text) (clear : Clear goesOnName after) :
      firstOf [rawWord, rawQuoted '"'] (name ++ after) = .done name after := by
    rcases form with bare | quoted
    · exact firstOf_of_done (rawWord_of_isBareWord bare (clear.mono fun c is => by simp [goesOnName, is]))
    · have again := (reproducible_rawQuoted '"' _ _ _ (rawQuoted_of_isQuoted quoted)).2 after
        (clear.mono fun c is => by simp [goesOnName, is])
      obtain ⟨inside, rfl⟩ := quoted
      exact firstOf_of_fails (fails_rawWord (clear_cons.mpr (by decide))) (firstOf_of_done again)
  refine lexeme_eq_done_iff.mpr ⟨[], ?_, skipLayout_nil.symm⟩
  rcases split with rfl | rfl
  · have open_ : optional (exactly ['[', ']']) [] = .done none [] := optional_of_fails (fails_exactly (by simp))
    have read := named [] (clear_nil _)
    rw [List.append_nil] at read
    exact (bind_of_done read _).trans ((bind_of_done open_ _).trans (by rw [Option.getD_none, List.append_nil]; rfl))
  · have brackets : optional (exactly ['[', ']']) ['[', ']'] = .done (some ['[', ']']) [] :=
      optional_of_done (exactly_eq_done_iff.mpr ⟨rfl, rfl⟩)
    exact (bind_of_done (named _ (clear_cons.mpr rfl)) _).trans (bind_of_done brackets _)

theorem Literal.hasForm_of_isReadAs {literal : Literal} {text rest : Text} (read : literal.IsReadAs text rest) :
    literal.HasForm := by
  cases read with
  | word kind keyword names spelled ends =>
    have upper := Keyword.lookup?_eq_some_iff.mp spelled
    rcases names with ⟨rfl, rfl | rfl⟩ | ⟨rfl, rfl⟩
    · exact List.mem_cons.mpr (.inl upper)
    · exact List.mem_cons_of_mem _ (List.mem_singleton.mpr upper)
    · exact upper
  | number written read =>
    obtain ⟨mid, raw, -⟩ := lexeme_eq_done_iff.mp read
    exact isNumber_of_rawNumber raw
  | string written read =>
    obtain ⟨mid, raw, -⟩ := lexeme_eq_done_iff.mp read
    exact isQuoted_of_rawQuoted raw

theorem Literal.isReadAs_of_hasForm {literal : Literal} (form : literal.HasForm) : literal.IsReadAs literal.text [] := by
  obtain ⟨kind, text⟩ := literal
  have word (keyword : Keyword) (upper : Text.upperCase text = keyword.word)
      (names : kind = .boolean ∧ (keyword = .TRUE ∨ keyword = .FALSE) ∨ kind = .null ∧ keyword = .NULL) :
      Literal.IsReadAs text [] ⟨kind, text⟩ := by
    have found := Keyword.lookup?_eq_some_iff.mpr upper
    have all := Keyword.isWordChar_of_lookup? found
    have lead := leadWord_append all (clear_nil isWordChar)
    have drop := dropWhile_append_of_clear all (clear_nil isWordChar)
    rw [List.append_nil] at lead drop
    have read : Literal.IsReadAs text [] ⟨kind, leadWord text⟩ :=
      .word kind keyword names (by rw [lead]; exact found) (by rw [drop, skipLayout_nil])
    rw [lead] at read
    exact read
  cases kind with
  | boolean =>
    rcases List.mem_cons.mp form with upper | member
    · exact word .TRUE upper (.inl ⟨rfl, .inl rfl⟩)
    · exact word .FALSE (List.mem_singleton.mp member) (.inl ⟨rfl, .inr rfl⟩)
  | null => exact word .NULL form (.inr ⟨rfl, rfl⟩)
  | number => exact .number text (lexeme_eq_done_iff.mpr ⟨[], rawNumber_of_isNumber form, skipLayout_nil.symm⟩)
  | string => exact .string text (lexeme_eq_done_iff.mpr ⟨[], rawQuoted_of_isQuoted form, skipLayout_nil.symm⟩)

namespace Lexeme

/-- The lexeme has the form of its kind. Symbols, operators and keywords have no other. -/
def HasForm : Lexeme → Prop
  | literal written => written.HasForm
  | name written => IsName written
  | type written => IsType written
  | placeholder | symbol _ | comparison _ | keyword _ => True

/-- A lexeme can be read exactly if it has its form. -/
theorem isRead_iff_hasForm {lexeme : Lexeme} : lexeme.IsRead ↔ lexeme.HasForm := by
  cases lexeme with
  | placeholder => exact iff_of_true isRead_placeholder trivial
  | symbol wanted => exact iff_of_true (isRead_symbol wanted) trivial
  | comparison op => exact iff_of_true (isRead_comparison op) trivial
  | keyword wanted => exact iff_of_true (isRead_keyword wanted) trivial
  | literal written =>
    constructor
    · rintro ⟨text, rest, reads⟩
      obtain ⟨found, same, isRead⟩ := Expr.isReadAs_of_readLiteral reads
      cases same
      exact Literal.hasForm_of_isReadAs isRead
    · exact fun form => ⟨_, _, Expr.readLiteral_of_isReadAs (Literal.isReadAs_of_hasForm form)⟩
  | name written =>
    constructor
    · rintro ⟨text, rest, reads⟩
      exact isName_of_identifier reads
    · exact fun form => ⟨_, _, identifier_of_isName form⟩
  | type written =>
    constructor
    · rintro ⟨text, rest, reads⟩
      exact isType_of_typeName reads
    · exact fun form => ⟨_, _, typeName_of_isType form⟩

end Lexeme

theorem allRead_iff_hasForm {lexemes : List Lexeme} : AllRead lexemes ↔ ∀ lexeme ∈ lexemes, lexeme.HasForm :=
  forall₂_congr fun _ _ => Lexeme.isRead_iff_hasForm

end BulkSql
