import BulkSql.Proofs.Syntax.FromTokens
import BulkSql.Proofs.Syntax.Lossless

/-! # Tokens set apart anew

The tokens of a text written with other layout between them are the tokens of what is written, if each gap starts with a
space. No token starts with a space or a comment, no number, word or symbol goes on with a space, and in front of a space
a quoted text is closed; so it does not matter what stood behind a token.
-/

namespace BulkSql

open Reader Token

variable {text written after mid : Text} {kind : TokenKind}

/-! ## In front of spaces -/

/-- The text is empty or starts with a space. -/
def SetApart (text : Text) : Prop := Clear (fun c => !isSpace c) text

def Spaceless (text : Text) : Prop := ∀ c ∈ text, isSpace c = false

/-- What is spaceless ends in front of a space. -/
theorem prefix_of_setApart (spaceless : Spaceless text) (apart : SetApart after) (starts : text <+: written ++ after) :
    text <+: written := by
  obtain ⟨rest, split⟩ := starts
  rcases List.append_eq_append_iff.mp split with ⟨more, rfl, -⟩ | ⟨beyond, rfl, rfl⟩
  · exact List.prefix_append text more
  · cases beyond with
    | nil => rw [List.append_nil]
    | cons c beyond =>
      have space : isSpace c := by simpa using apart c rfl
      rw [spaceless c (by simp)] at space
      cases space

/-- The characters of a number. -/
def isNumberChar (c : Char) : Bool := isDecimalDigit c || ['.', 'e', 'E', '+', '-'].contains c

theorem isNumberChar_of_isNumber {number : Text} (isNumber : IsNumber number) : ∀ c ∈ number, isNumberChar c := by
  have run {digits : Text} (isDigits : IsDigits digits) : ∀ c ∈ digits, isNumberChar c :=
    fun c member => by simp [isNumberChar, isDigits.2 c member]
  have fraction {part : Text} (isPart : part = [] ∨ IsFraction part) : ∀ c ∈ part, isNumberChar c := by
    rcases isPart with rfl | ⟨places, isDigits, rfl⟩
    · exact List.forall_mem_nil _
    · exact List.forall_mem_cons.mpr ⟨rfl, run isDigits⟩
  have exponent {power : Text} (isPower : power = [] ∨ IsExponent power) : ∀ c ∈ power, isNumberChar c := by
    rcases isPower with rfl | ⟨mark, isMark, sign, isSign, digits, isDigits, rfl⟩
    · exact List.forall_mem_nil _
    · have marks : ∀ mark ∈ ['e', 'E'], isNumberChar mark := by simp [isNumberChar]
      have signs : ∀ sign ∈ [[], ['+'], ['-']], ∀ c ∈ sign, isNumberChar c := by simp [isNumberChar]
      exact List.forall_mem_cons.mpr ⟨marks mark isMark, List.forall_mem_append.mpr ⟨signs sign isSign, run isDigits⟩⟩
  obtain ⟨whole, part, power, rfl, isPower, ⟨isDigits, isPart⟩ | ⟨rfl, isFraction⟩⟩ := isNumber
  · exact List.forall_mem_append.mpr ⟨List.forall_mem_append.mpr ⟨run isDigits, fraction isPart⟩, exponent isPower⟩
  · exact List.forall_mem_append.mpr ⟨fraction (.inr isFraction), exponent isPower⟩

/-- The characters of numbers and words are no spaces. -/
theorem isSpace_eq_false {c : Char} (goesOn : isNumberChar c ∨ isWordChar c) : isSpace c = false := by
  apply Bool.eq_false_iff.mpr
  intro space
  simp only [isSpace, Bool.or_eq_true, beq_iff_eq] at space
  rcases space with ((rfl | rfl) | rfl) | rfl <;> exact absurd goesOn (by decide)

theorem spaceless_of_isNumber {number : Text} (isNumber : IsNumber number) : Spaceless number :=
  fun c member => isSpace_eq_false (.inl (isNumberChar_of_isNumber isNumber c member))

theorem spaceless_of_isBareWord {word : Text} (bare : IsBareWord word) : Spaceless word :=
  fun c member => isSpace_eq_false (.inr (isWordChar_of_isBareWord bare c member))

theorem spaceless_of_isSymbol {symbol : Text} (member : symbol ∈ operators ++ punctuationMarks) : Spaceless symbol := by
  have each : ∀ symbol ∈ operators ++ punctuationMarks, symbol.all (!isSpace ·) := by decide
  intro c inside
  simpa using List.all_eq_true.mp (each symbol member) c inside

theorem Longest.setApart {form : Text → Prop} (spaceless : ∀ {text}, form text → Spaceless text)
    (longest : Longest form written mid) (apart : SetApart after) : Longest form written after :=
  ⟨longest.1, fun _ isForm starts => (prefix_of_setApart (spaceless isForm) apart starts).length_le⟩

namespace Token

/-- A token that fits somewhere fits in front of every space. -/
theorem Fits.setApart (fits : Fits kind written mid) (apart : SetApart after) : Fits kind written after := by
  have unquoted (quote : Char) (noSpace : isSpace quote = false) : Clear (· == quote) after := by
    refine apart.mono fun c same => ?_
    rw [beq_iff_eq.mp same, noSpace]
    rfl
  cases fits with
  | string quoted => exact .string quoted (unquoted _ rfl)
  | number longest => exact .number (longest.setApart spaceless_of_isNumber apart)
  | placeholder => exact .placeholder
  | quotedName quoted => exact .quotedName quoted (unquoted _ rfl)
  | word longest => exact .word (longest.setApart spaceless_of_isBareWord apart)
  | operator longest =>
    exact .operator (longest.setApart (fun member => spaceless_of_isSymbol (List.mem_append_left _ member)) apart)
  | punctuation longest noNumber =>
    refine .punctuation (longest.setApart (fun member => spaceless_of_isSymbol (List.mem_append_right _ member)) apart) ?_
    intro number isNumber starts
    have inside := prefix_of_setApart (spaceless_of_isNumber isNumber) apart starts
    exact noNumber number isNumber (inside.trans (List.prefix_append written mid))

/-- A symbol starts no comment: a hyphen or a slash is a symbol of its own. -/
theorem startsBare_of_isSymbol {symbol : Text} (member : symbol ∈ operators ++ punctuationMarks) (apart : SetApart after) :
    StartsBare (symbol ++ after) := by
  have each : ∀ symbol ∈ operators ++ punctuationMarks, symbol = ['-'] ∨ symbol = ['/'] ∨
      symbol ≠ [] ∧ symbol.head?.all fun c => !isSpace c && c != '-' && c != '/' := by decide
  have other {mark : Char} (noSpace : isSpace mark = false) : after.head? ≠ some mark := by
    intro here
    have space : isSpace mark := by simpa using apart mark here
    rw [noSpace] at space
    cases space
  rcases each symbol member with rfl | rfl | ⟨some_, plain⟩
  · exact ⟨rfl, fun _ => other rfl, nofun⟩
  · exact ⟨rfl, nofun, fun _ => other rfl⟩
  · obtain ⟨c, more, rfl⟩ := List.exists_cons_of_ne_nil some_
    simp only [List.head?_cons, Option.all_some, Bool.and_eq_true, Bool.not_eq_true', bne_iff_ne] at plain
    exact ⟨plain.1.1, fun same => absurd same plain.1.2, fun same => absurd same plain.2⟩

/-- No layout starts where a token stands that is set apart from what follows. -/
theorem Fits.startsBare (fits : Fits kind written mid) (apart : SetApart after) : StartsBare (written ++ after) := by
  cases fits with
  | string quoted =>
    obtain ⟨inside, rfl⟩ := quoted
    exact startsBare_of_startsOperand rfl _
  | number longest =>
    obtain ⟨c, more, rfl, starts⟩ := rawNumber_head (rawNumber_of_isNumber longest.1)
    refine startsBare_of_startsOperand ?_ _
    rcases starts with digit | rfl
    · simp [Expr.startsOperand, Expr.startsConstant, digit]
    · rfl
  | placeholder => exact startsBare_of_startsOperand rfl _
  | quotedName quoted =>
    obtain ⟨inside, rfl⟩ := quoted
    exact startsBare_of_startsOperand rfl _
  | word longest =>
    obtain ⟨c, more, rfl, start, -⟩ := longest.1
    exact startsBare_of_startsOperand (by simp [Expr.startsOperand, start]) _
  | operator longest => exact startsBare_of_isSymbol (List.mem_append_left _ longest.1) apart
  | punctuation longest => exact startsBare_of_isSymbol (List.mem_append_right _ longest.1) apart

end Token

/-! ## Other layouts -/

/-- Texts in order with layout between neighbours that starts with a space. -/
inductive LaidOut : List Text → (laid : Text) → Prop where
  | nil : LaidOut [] []
  | single (text : Text) : LaidOut [text] text
  | cons {text next laid gap : Text} {c : Char} {texts : List Text} (space : isSpace c) (layout : IsLayout laid gap)
    (more : LaidOut (next :: texts) laid) : LaidOut (text :: next :: texts) (text ++ c :: (gap ++ laid))

/-- Single spaces are such layout. -/
theorem laidOut_join (texts : List Text) : LaidOut texts (Text.join [' '] texts) := by
  induction texts with
  | nil => exact .nil
  | cons text texts ih =>
    cases texts with
    | nil =>
      have alone : Text.join [' '] [text] = text := by simp [Text.join, List.intercalate]
      rw [alone]
      exact .single text
    | cons next texts =>
      have whole : Text.join [' '] (text :: next :: texts) = text ++ ' ' :: ([] ++ Text.join [' '] (next :: texts)) := by
        simp [Text.join, List.intercalate]
      rw [whole]
      exact .cons rfl .nil ih

namespace CutInto

variable {offset : Nat} {last gap : Text} {tokens : List Token}

theorem exists_fits (cut : CutInto offset text tokens last) : ∀ token ∈ tokens, ∃ mid, Fits token.kind token.text mid := by
  induction cut with
  | last => exact List.forall_mem_nil _
  | token _ _ fits _ _ ih => exact List.forall_mem_cons.mpr ⟨⟨_, fits⟩, ih⟩

/-- More layout in front of a cut. -/
theorem behind (layout : IsLayout text gap) (cut : CutInto (offset + Text.byteSize gap) text tokens last) :
    CutInto offset (gap ++ text) tokens last := by
  cases cut with
  | last inner bare =>
    rw [← List.append_assoc]
    exact .last (layout.append inner) bare
  | token inner bare fits position more =>
    rw [← List.append_assoc]
    refine .token (layout.append inner) bare fits ?_ more
    rw [position, Text.byteSize_append, Nat.add_assoc]

/-- A token that is set apart from what is cut behind it. -/
theorem cons_token {token : Token} {mid after : Text} (fits : Fits token.kind token.text mid) (apart : SetApart after)
    (more : CutInto (offset + Text.byteSize token.text) after tokens last) :
    CutInto offset (token.text ++ after) ({ token with position := offset } :: tokens) last := by
  have bare := not_startsLayout_iff.mpr (skipLayout_of_startsBare (fits.startsBare apart))
  exact @CutInto.token offset [] after last { token with position := offset } tokens .nil bare (fits.setApart apart) rfl more

end CutInto

theorem exists_cut_of_laidOut {tokens : List Token} (each : ∀ token ∈ tokens, ∃ mid, Fits token.kind token.text mid)
    {laid : Text} (out : LaidOut (tokens.map (·.text)) laid) (offset : Nat) :
    ∃ spaced, CutInto offset laid spaced [] ∧ spaced.map Token.content = tokens.map Token.content := by
  have nothing (offset : Nat) : CutInto offset [] [] [] :=
    @CutInto.last offset [] [] .nil (not_startsLayout_iff.mpr skipLayout_nil)
  induction tokens generalizing laid offset with
  | nil =>
    cases out
    exact ⟨[], nothing offset, rfl⟩
  | cons token tokens ih =>
    obtain ⟨⟨mid, fits⟩, others⟩ := List.forall_mem_cons.mp each
    cases tokens with
    | nil =>
      cases out
      have cut := CutInto.cons_token fits (clear_nil _) (nothing (offset + Text.byteSize token.text))
      rw [List.append_nil] at cut
      exact ⟨_, cut, rfl⟩
    | cons next tokens =>
      cases out with
      | @cons _ _ laid gap c _ space layout more =>
        obtain ⟨spaced, cut, same⟩ := ih others more (offset + Text.byteSize token.text + Text.byteSize (c :: gap))
        have behind := CutInto.behind (.space space layout) cut
        have apart : SetApart (c :: gap ++ laid) := clear_cons.mpr (by simp [space])
        exact ⟨_, CutInto.cons_token fits apart behind, congrArg (token.content :: ·) same⟩

/-- A text has the same tokens as a list, wherever they stand. -/
def HasTokens (text : Text) (tokens : List Token) : Prop :=
  ∃ found, tokenize text = .ok found ∧ found.map Token.content = tokens.map Token.content

/-- The tokens of a text are found again when they are written with spaces between them, and with any layout between
them that starts with a space. -/
theorem hasTokens_of_laidOut {text : Text} {tokens : List Token} (cut : tokenize text = .ok tokens) :
    HasTokens (Text.join [' '] (tokens.map (·.text))) tokens ∧
      ∀ laid, LaidOut (tokens.map (·.text)) laid → HasTokens laid tokens := by
  have each := (tokenize_eq_ok_iff_cutInto.mp cut).exists_fits
  have found (laid : Text) (out : LaidOut (tokens.map (·.text)) laid) : HasTokens laid tokens := by
    obtain ⟨spaced, cut, same⟩ := exists_cut_of_laidOut each out 0
    exact ⟨spaced, tokenize_eq_ok_iff_cutInto.mpr cut, same⟩
  exact ⟨found _ (laidOut_join _), found⟩

/-- A comparison with a negative number: a comment in a gap, and a sign that starts none. -/
theorem hasTokens_of_laidOut_four_tokens :
    ∃ tokens, tokenize "a<-.5--x" = .ok tokens ∧ HasTokens "a < - .5" tokens ∧ HasTokens "a --x\n< - .5" tokens := by
  have cut : tokenize "a<-.5--x" =
      .ok [⟨.identifier, "a", 0⟩, ⟨.operator, "<", 1⟩, ⟨.operator, "-", 2⟩, ⟨.number, ".5", 3⟩] := by decide +kernel
  obtain ⟨spaced, laid⟩ := hasTokens_of_laidOut cut
  have comment : IsLayout "< - .5" "--x\n" :=
    @IsLayout.line _ ['x'] ['\n'] (by simp [isLineBreak]) (clear_cons.mpr rfl) (.space rfl .nil)
  have out : LaidOut ["a", "<", "-", ".5"] "a --x\n< - .5" :=
    @LaidOut.cons "a" "<" "< - .5" "--x\n" ' ' ["-", ".5"] rfl comment (laidOut_join ["<", "-", ".5"])
  exact ⟨_, cut, spaced, laid _ out⟩

end BulkSql
