import BulkSql.Numbering
import BulkSql.Proofs.Syntax.Forms

/-! # Numbered texts

The scanner that numbers placeholders knows nothing of the grammar. A text that is cut into the same pieces wherever
it stands can be numbered apart from its surroundings; names, types and constants are such texts, and nothing in them
is numbered.
-/

namespace BulkSql

open Reader

namespace Piece

/-! ## Single pieces -/

/-- The characters that may start something else than a plain piece. -/
def opens (c : Char) : Bool := c == '?' || c == '$' || c == '\'' || c == '"' || c == '-' || c == '/'

/-- A text without such characters. -/
def isPlain (text : Text) : Bool := text.all fun c => !opens c

theorem isPlain_iff {text : Text} : isPlain text ↔ ∀ c ∈ text, opens c = false := by simp [isPlain]

theorem cut_of_closedRest? {c : Char} {rest body after : Text} (noMark : c ≠ '?' ∧ c ≠ '$')
    (found : closedRest? c rest = some (body, after)) : cut (c :: rest) = .closed (c :: body) :: cut after := by
  rw [cut, first, if_neg noMark.1, if_neg noMark.2, found]

/-- Where nothing is closed, a character is a piece alone. -/
theorem cut_of_open {c : Char} {rest : Text} (noMark : c ≠ '?' ∧ c ≠ '$') (open_ : closedRest? c rest = none) :
    cut (c :: rest) = .plain c :: cut rest := by
  rw [cut, first, if_neg noMark.1, if_neg noMark.2, open_]

theorem cut_plain {c : Char} (plain : opens c = false) (rest : Text) : cut (c :: rest) = .plain c :: cut rest := by
  simp only [opens, Bool.or_eq_false_iff, beq_eq_false_iff_ne] at plain
  obtain ⟨⟨⟨⟨⟨mark, dollar⟩, single⟩, double⟩, hyphen⟩, slash⟩ := plain
  have noQuote : ¬(c = '\'' ∨ c = '"') := by simp [single, double]
  exact cut_of_open ⟨mark, dollar⟩ (by rw [closedRest?, if_neg noQuote, if_neg hyphen, if_neg slash])

theorem cut_placeholder (rest : Text) : cut ('?' :: rest) = .placeholder :: cut rest := by
  rw [cut, first, if_pos rfl]

/-- A hyphen alone starts no comment. -/
theorem cut_hyphen {rest : Text} (apart : rest.head? ≠ some '-') : cut ('-' :: rest) = .plain '-' :: cut rest := by
  have noComment : closedRest? '-' rest = none := by
    rw [closedRest?, if_neg (by decide), if_pos rfl, lineComment?.eq_def]
    split
    · exact absurd rfl apart
    · rfl
  exact cut_of_open (by decide) noComment

/-- A slash in front of anything but a star starts no comment. -/
theorem cut_slash {rest : Text} (apart : rest.head? ≠ some '*') : cut ('/' :: rest) = .plain '/' :: cut rest := by
  have noComment : closedRest? '/' rest = none := by
    rw [closedRest?, if_neg (by decide), if_neg (by decide), if_pos rfl, blockComment?.eq_def]
    split
    · exact absurd rfl apart
    · rfl
  exact cut_of_open (by decide) noComment

/-- A quoted text is closed where the grammar closes it. -/
theorem closeQuote?_doubleQuotes (quote : Char) (inside : Text) {after : Text} (clear : Clear (· == quote) after) :
    closeQuote? quote (doubleQuotes quote inside ++ [quote] ++ after) =
      some (doubleQuotes quote inside ++ [quote], after) := by
  induction inside with
  | nil =>
    change closeQuote? quote (quote :: after) = some ([quote], after)
    cases after with
    | nil => rw [closeQuote?, if_pos rfl]
    | cons d after =>
      have apart : (d == quote) = false := clear d rfl
      rw [closeQuote?, if_pos rfl]
      exact if_neg (beq_eq_false_iff_ne.mp apart)
  | cons c inside ih =>
    by_cases same : c = quote
    · rw [same, doubleQuotes_cons_self, List.cons_append, List.cons_append, List.cons_append, List.cons_append,
        closeQuote?, if_pos rfl]
      simp only [if_true, ih]
    · rw [doubleQuotes_cons_of_ne same, List.cons_append, List.cons_append, closeQuote?.eq_def]
      simp only [if_neg same, ih, Option.map_some]

/-- A quoted text is one piece where its quote does not follow it. -/
theorem cut_quoted {quote : Char} (isQuote : quote ∈ ['\'', '"']) {text after : Text} (quoted : IsQuoted quote text)
    (clear : Clear (· == quote) after) : cut (text ++ after) = .closed text :: cut after := by
  obtain ⟨inside, rfl⟩ := quoted
  have closed : closedRest? quote (doubleQuotes quote inside ++ [quote] ++ after) =
      some (doubleQuotes quote inside ++ [quote], after) := by
    rw [closedRest?, if_pos (by simpa using isQuote), closeQuote?_doubleQuotes quote inside clear]
  have noMark : quote ≠ '?' ∧ quote ≠ '$' := by
    constructor <;> rintro rfl <;> exact absurd isQuote (by decide)
  rw [List.cons_append, cut_of_closedRest? noMark closed]

/-- A piece of a text without comments, open quotes and numbered parameters. -/
def IsTame : Piece → Prop
  | closed text => ∃ quote ∈ ['\'', '"'], text.head? = some quote
  | placeholder => True
  | numbered _ => False
  | plain c => c ≠ '\'' ∧ c ≠ '"'

/-- The characters that a quoted text or a hyphen might go on with. -/
def joins (c : Char) : Bool := c == '\'' || c == '"' || c == '-'

/-- A text is cut into pieces wherever nothing follows that it might go on with. -/
def CutsInto (text : Text) (pieces : List Piece) : Prop :=
  ∀ after, Clear joins after → cut (text ++ after) = pieces ++ cut after

theorem CutsInto.append {left right : Text} {before behind : List Piece} (first : CutsInto left before)
    (second : CutsInto right behind) (apart : Clear joins right) : CutsInto (left ++ right) (before ++ behind) := by
  intro after clear
  have next : Clear joins (right ++ after) := by
    cases right with
    | nil => exact clear
    | cons c right => exact clear_cons.mpr (clear_cons.mp apart)
  rw [List.append_assoc, first _ next, second _ clear, List.append_assoc]

end Piece

open Piece

/-! ## Numbering -/

namespace Numbering

theorem renumber_append (met : Nat) (before behind : List Piece) :
    renumber met (before ++ behind) = renumber met before ++ renumber (met + before.count .placeholder) behind := by
  induction before generalizing met with
  | nil => rfl
  | cons piece before ih =>
    cases piece with
    | placeholder =>
      rw [List.cons_append, renumber, renumber, ih, List.count_cons_self, List.append_assoc, Nat.add_assoc,
        Nat.add_comm 1]
    | closed | numbered | plain => simp [renumber, ih]

/-- Pieces without a placeholder are written as they stand. -/
theorem renumber_of_not_mem {pieces : List Piece} (met : Nat) (none_ : .placeholder ∉ pieces) :
    renumber met pieces = pieces.flatMap Piece.text := by
  induction pieces with
  | nil => rfl
  | cons piece pieces ih =>
    obtain ⟨other, others⟩ := not_or.mp (mt List.mem_cons.mpr none_)
    cases piece with
    | placeholder => exact absurd rfl other
    | closed | numbered | plain => simp [renumber, ih others]

variable {sql : Text}

theorem number_of_mixed (mixed : .placeholder ∈ cut sql ∧ ∃ digits, .numbered digits ∈ cut sql) :
    number sql = .error .mixedStyles := by
  obtain ⟨placeholder, digits, numbered⟩ := mixed
  exact if_pos ⟨List.count_pos_iff.mpr placeholder, List.any_eq_true.mpr ⟨_, numbered, rfl⟩⟩

theorem number_of_not_mixed (oneStyle : ¬ (.placeholder ∈ cut sql ∧ ∃ digits, .numbered digits ∈ cut sql)) :
    number sql = .ok { sql := renumber 0 (cut sql), count := (cut sql).count .placeholder } := by
  apply if_neg
  rintro ⟨some_, any⟩
  refine oneStyle ⟨List.count_pos_iff.mp some_, ?_⟩
  obtain ⟨piece, member, isNumber⟩ := List.any_eq_true.mp any
  cases piece with
  | numbered digits => exact ⟨digits, member⟩
  | closed | placeholder | plain => cases isNumber

theorem number_eq_error_iff :
    number sql = .error .mixedStyles ↔ .placeholder ∈ cut sql ∧ ∃ digits, .numbered digits ∈ cut sql := by
  refine ⟨fun refused => ?_, number_of_mixed⟩
  by_contra oneStyle
  rw [number_of_not_mixed oneStyle] at refused
  cases refused

end Numbering

/-- A text is numbered apart from its surroundings: behind one number of placeholders, as another text, up to another
number of placeholders. -/
def Renumbers (before : Nat) (text numbered : Text) (behind : Nat) : Prop :=
  ∃ pieces, CutsInto text pieces ∧ (∀ piece ∈ pieces, piece.IsTame) ∧
    before + pieces.count .placeholder = behind ∧ Numbering.renumber before pieces = numbered

namespace Renumbers

variable {n m k : Nat} {left left' right right' text numbered : Text}

theorem append (first : Renumbers n left left' m) (second : Renumbers m right right' k) (apart : Clear joins right) :
    Renumbers n (left ++ right) (left' ++ right') k := by
  obtain ⟨before, cutsBefore, tameBefore, rfl, rfl⟩ := first
  obtain ⟨behind, cutsBehind, tameBehind, rfl, rfl⟩ := second
  have tame := List.forall_mem_append.mpr ⟨tameBefore, tameBehind⟩
  refine ⟨before ++ behind, cutsBefore.append cutsBehind apart, tame, ?_, ?_⟩
  · rw [List.count_append, Nat.add_assoc]
  · exact Numbering.renumber_append n before behind

theorem nil (n : Nat) : Renumbers n [] [] n := ⟨[], fun _ _ => rfl, by simp, rfl, rfl⟩

/-- A plain character in front of a text, also of one that starts with a quote. -/
theorem cons_plain {c : Char} (plain : opens c = false) (inside : Renumbers n text numbered m) :
    Renumbers n (c :: text) (c :: numbered) m := by
  obtain ⟨pieces, cuts, tame, rfl, rfl⟩ := inside
  have noQuote : c ≠ '\'' ∧ c ≠ '"' := by
    constructor <;> rintro rfl <;> exact absurd plain (by decide)
  refine ⟨.plain c :: pieces, fun after clear => ?_, List.forall_mem_cons.mpr ⟨noQuote, tame⟩, ?_, rfl⟩
  · rw [List.cons_append, cut_plain plain, cuts after clear, List.cons_append]
  · rw [List.count_cons_of_ne (by simp)]

theorem append_plain {front : Text} (plain : isPlain front) (inside : Renumbers n text numbered m) :
    Renumbers n (front ++ text) (front ++ numbered) m := by
  rw [isPlain_iff] at plain
  induction front with
  | nil => exact inside
  | cons c front ih =>
    obtain ⟨one, others⟩ := List.forall_mem_cons.mp plain
    exact cons_plain one (ih others)

theorem plain (plain : isPlain text) (n : Nat) : Renumbers n text text n := by
  have whole := append_plain plain (nil n)
  rw [List.append_nil] at whole
  exact whole

/-- Texts with a space between. -/
theorem spaced (first : Renumbers n left left' m) (second : Renumbers m right right' k) :
    Renumbers n (left ++ ' ' :: right) (left' ++ ' ' :: right') k :=
  first.append (cons_plain (by decide) second) (clear_cons.mpr rfl)

theorem cons_hyphen (inside : Renumbers n text numbered m) (apart : text.head? ≠ some '-') :
    Renumbers n ('-' :: text) ('-' :: numbered) m := by
  obtain ⟨pieces, cuts, tame, rfl, rfl⟩ := inside
  have noQuote : (Piece.plain '-').IsTame := by constructor <;> decide
  refine ⟨.plain '-' :: pieces, fun after clear => ?_, List.forall_mem_cons.mpr ⟨noQuote, tame⟩, ?_, rfl⟩
  · have alone : (text ++ after).head? ≠ some '-' := by
      cases text with
      | nil => exact fun here => absurd (clear _ here) (by decide)
      | cons c text => exact apart
    rw [List.cons_append, cut_hyphen alone, cuts after clear, List.cons_append]
  · rw [List.count_cons_of_ne (by simp)]

/-- A slash between spaces. -/
theorem cons_slash (inside : Renumbers n text numbered m) :
    Renumbers n ('/' :: ' ' :: text) ('/' :: ' ' :: numbered) m := by
  obtain ⟨pieces, cuts, tame, rfl, same⟩ := cons_plain (show opens ' ' = false by decide) inside
  have noQuote : (Piece.plain '/').IsTame := by constructor <;> decide
  refine ⟨.plain '/' :: pieces, fun after clear => ?_, List.forall_mem_cons.mpr ⟨noQuote, tame⟩, ?_, ?_⟩
  · rw [List.cons_append, cut_slash (by simp), cuts after clear, List.cons_append]
  · rw [List.count_cons_of_ne (by simp)]
  · exact congrArg ('/' :: ·) same

theorem quoted {quote : Char} (isQuote : quote ∈ ['\'', '"']) (quoted : IsQuoted quote text) (n : Nat) :
    Renumbers n text text n := by
  refine ⟨[.closed text], fun after clear => ?_, List.forall_mem_singleton.mpr ⟨quote, isQuote, ?_⟩, rfl, ?_⟩
  · refine cut_quoted isQuote quoted (clear.mono fun c is => ?_)
    rw [beq_iff_eq] at is
    subst is
    simp only [List.mem_cons, List.not_mem_nil, or_false] at isQuote
    rcases isQuote with rfl | rfl <;> rfl
  · obtain ⟨inside, rfl⟩ := quoted
    rfl
  · exact List.append_nil text

theorem placeholder (n : Nat) : Renumbers n ['?'] ('$' :: Text.ofNat (n + 1)) (n + 1) := by
  refine ⟨[.placeholder], fun after _ => cut_placeholder after, by simp [IsTame], rfl, ?_⟩
  exact List.append_nil _

theorem gapBefore_cons (c : Char) (more : Text) :
    Expr.gapBefore (c :: more) = if c = '-' ∨ c = '+' then [' '] else [] := by
  unfold Expr.gapBefore
  split
  · next same => simp [(List.cons.inj same).1]
  · next same => simp [(List.cons.inj same).1]
  · next noMinus noPlus =>
    rw [if_neg]
    rintro (rfl | rfl)
    · exact noMinus more rfl
    · exact noPlus more rfl

/-- Numbering changes no character that a sign is set apart from. -/
theorem gapBefore_eq (numbers : Renumbers n text numbered m) : Expr.gapBefore numbered = Expr.gapBefore text := by
  obtain ⟨pieces, cuts, tame, rfl, rfl⟩ := numbers
  have whole := cuts [] (clear_nil _)
  rw [List.append_nil, show cut [] = [] by rw [cut], List.append_nil] at whole
  rw [← flatMap_text_cut text, whole]
  cases pieces with
  | nil => rfl
  | cons piece pieces =>
    cases piece with
    | placeholder => rfl
    | plain c => exact (gapBefore_cons c _).trans (gapBefore_cons c _).symm
    | closed written =>
      obtain ⟨quote, -, head⟩ := tame _ (List.mem_cons_self ..)
      obtain ⟨more, rfl⟩ := List.head?_eq_some_iff.mp head
      exact (gapBefore_cons quote _).trans (gapBefore_cons quote _).symm
    | numbered digits => exact absurd (tame _ (List.mem_cons_self ..)) id

/-! ## Lexemes -/

theorem opens_of_isWordChar {c : Char} (isWord : isWordChar c) : opens c = false := by
  apply Bool.eq_false_iff.mpr
  intro other
  simp only [opens, Bool.or_eq_true, beq_iff_eq] at other
  rcases other with ((((rfl | rfl) | rfl) | rfl) | rfl) | rfl <;> exact absurd isWord (by decide)

theorem isPlain_of_isWordChar (all : ∀ c ∈ text, isWordChar c) : isPlain text :=
  isPlain_iff.mpr fun c member => opens_of_isWordChar (all c member)

theorem word (all : ∀ c ∈ text, isWordChar c) (n : Nat) : Renumbers n text text n := plain (isPlain_of_isWordChar all) n

theorem bareWord (bare : IsBareWord text) (n : Nat) : Renumbers n text text n :=
  word (isWordChar_of_isBareWord bare) n

theorem name (isName : IsName text) (n : Nat) : Renumbers n text text n := by
  rcases isName with ⟨bare, -⟩ | isQuoted
  · exact bareWord bare n
  · exact quoted (by simp) isQuoted n

theorem type (isType : IsType text) (n : Nat) : Renumbers n text text n := by
  obtain ⟨name, form, split⟩ := isType
  have named : Renumbers n name name n := by
    rcases form with bare | isQuoted
    · exact bareWord bare n
    · exact quoted (by simp) isQuoted n
  rcases split with rfl | rfl
  · exact named
  · exact named.append (plain (by decide) n) (clear_cons.mpr rfl)

theorem isWordChar_of_isDecimalDigit {c : Char} (digit : isDecimalDigit c) : isWordChar c := by
  simp only [isDecimalDigit] at digit
  simp [isWordChar, Char.isAlphanum, digit]

theorem isPlain_of_isDigits (isDigits : IsDigits text) : isPlain text :=
  isPlain_of_isWordChar fun c member => isWordChar_of_isDecimalDigit (isDigits.2 c member)

theorem digits (isDigits : IsDigits text) (n : Nat) : Renumbers n text text n := plain (isPlain_of_isDigits isDigits) n

/-- The sign of an exponent stands in front of a digit. -/
theorem exponent (isExponent : IsExponent text) (n : Nat) : Renumbers n text text n := by
  obtain ⟨mark, isMark, sign, isSign, power, isDigits, rfl⟩ := isExponent
  have signed : Renumbers n (sign ++ power) (sign ++ power) n := by
    simp only [List.mem_cons, List.not_mem_nil, or_false] at isSign
    rcases isSign with rfl | rfl | rfl
    · exact digits isDigits n
    · exact cons_plain (by decide) (digits isDigits n)
    · refine cons_hyphen (digits isDigits n) fun here => ?_
      exact absurd (isDigits.2 '-' (List.mem_of_mem_head? here)) (by decide)
  simp only [List.mem_cons, List.not_mem_nil, or_false] at isMark
  rcases isMark with rfl | rfl <;> exact cons_plain (by decide) signed

/-- Only the exponent of a number has a sign. -/
theorem isPlain_of_parts {whole part : Text}
    (parts : IsDigits whole ∧ (part = [] ∨ IsFraction part) ∨ whole = [] ∧ IsFraction part) :
    isPlain (whole ++ part) := by
  have fraction {part : Text} (isFraction : IsFraction part) : isPlain part := by
    obtain ⟨places, isDigits, rfl⟩ := isFraction
    have plain := isPlain_of_isDigits isDigits
    exact plain
  rw [isPlain, List.all_append, Bool.and_eq_true]
  rcases parts with ⟨isDigits, rfl | isFraction⟩ | ⟨rfl, isFraction⟩
  · exact ⟨isPlain_of_isDigits isDigits, rfl⟩
  · exact ⟨isPlain_of_isDigits isDigits, fraction isFraction⟩
  · exact ⟨rfl, fraction isFraction⟩

theorem number (isNumber : IsNumber text) (n : Nat) : Renumbers n text text n := by
  obtain ⟨whole, part, power, rfl, isPower, parts⟩ := isNumber
  have power_ : Renumbers n power power n := by
    rcases isPower with rfl | isExponent
    · exact nil n
    · exact exponent isExponent n
  exact append_plain (isPlain_of_parts parts) power_

theorem literal {literal : Literal} (form : literal.HasForm) (n : Nat) : Renumbers n literal.text literal.text n := by
  obtain ⟨kind, written⟩ := literal
  have keyword {keyword : Keyword} (upper : Text.upperCase written = keyword.word) : Renumbers n written written n :=
    word (Keyword.isWordChar_of_lookup? (Keyword.lookup?_eq_some_iff.mpr upper)) n
  cases kind with
  | boolean =>
    rcases List.mem_cons.mp form with upper | member
    · exact keyword upper
    · exact keyword (List.mem_singleton.mp member)
  | null => exact keyword form
  | number => exact number form n
  | string => exact quoted (by simp) form n

theorem dotted {qualifier? : Option Text} {written : Text} (read : AllRead (Lexeme.dotted qualifier? written))
    (n : Nat) : Renumbers n (BulkSql.dotted qualifier? written) (BulkSql.dotted qualifier? written) n := by
  cases qualifier? with
  | none => exact name (Lexeme.isRead_iff_hasForm.mp (allRead_cons.mp read).1) n
  | some qualifier =>
    simp only [Lexeme.dotted, allRead_cons] at read
    have named := name (Lexeme.isRead_iff_hasForm.mp read.2.2.1) n
    exact (name (Lexeme.isRead_iff_hasForm.mp read.1) n).append (cons_plain (by decide) named) (clear_cons.mpr rfl)

end Renumbers

/-! ## Lists -/

/-- Texts that are numbered one behind the other. -/
inductive RenumbersAll : Nat → List Text → List Text → Nat → Prop where
  | nil (n : Nat) : RenumbersAll n [] [] n
  | cons {n m k : Nat} {text numbered : Text} {texts others : List Text} (one : Renumbers n text numbered m)
    (more : RenumbersAll m texts others k) : RenumbersAll n (text :: texts) (numbered :: others) k

theorem RenumbersAll.commaList {n m : Nat} {texts numbered : List Text} (all : RenumbersAll n texts numbered m) :
    Renumbers n (Text.commaList texts) (Text.commaList numbered) m := by
  induction all with
  | nil => exact .nil _
  | cons one more ih =>
    cases more with
    | nil => simpa [Text.commaList, Text.join] using one
    | cons next more =>
      have behind := Renumbers.append_plain (show isPlain [',', ' '] by decide) ih
      have whole := one.append behind (clear_cons.mpr rfl)
      simpa [Text.commaList, Text.join, List.intercalate_cons_cons] using whole

theorem RenumbersAll.same {texts : List Text} (each : ∀ text ∈ texts, ∀ n, Renumbers n text text n) (n : Nat) :
    RenumbersAll n texts texts n := by
  induction texts with
  | nil => exact .nil n
  | cons text texts ih =>
    obtain ⟨one, others⟩ := List.forall_mem_cons.mp each
    exact .cons (one n) (ih others)

/-! ## Whole texts -/

/-- A text that is numbered apart from its surroundings is numbered as a statement. -/
theorem Renumbers.number_eq {text numbered : Text} {count : Nat} (numbers : Renumbers 0 text numbered count) :
    Numbering.number text = .ok { sql := numbered, count } ∧ ∀ piece ∈ cut text, piece.IsTame := by
  obtain ⟨pieces, cuts, tame, rfl, rfl⟩ := numbers
  have whole : cut text = pieces := by
    have whole := cuts [] (clear_nil _)
    rwa [List.append_nil, show cut [] = [] by rw [cut], List.append_nil] at whole
  rw [Numbering.number_of_not_mixed, whole, Nat.zero_add]
  · exact ⟨rfl, tame⟩
  · rw [whole]
    rintro ⟨-, digits, member⟩
    exact tame _ member

end BulkSql
