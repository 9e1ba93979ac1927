import BulkSql.Proofs.Syntax.RawLexemes

/-! # Lexemes of the grammar

A lexeme of the grammar is a raw one with the layout behind it. Words are told apart by the word that the text starts
with: it is a keyword, or else a name, and it is never both.
-/

namespace BulkSql

namespace Reader

theorem lexeme_eq_done_iff {α : Type} {raw : Reader α} {text rest : Text} {value : α} :
    lexeme raw text = .done value rest ↔ ∃ mid, raw text = .done value mid ∧ rest = skipLayout mid := by
  unfold lexeme
  rw [bind_eq_done_iff]
  constructor
  · rintro ⟨found, mid, read, done⟩
    cases done
    exact ⟨mid, read, rfl⟩
  · rintro ⟨mid, read, rfl⟩
    exact ⟨value, mid, read, rfl⟩

theorem fails_lexeme {α : Type} {raw : Reader α} {text : Text} (fails : Fails raw text) : Fails (lexeme raw) text :=
  fails.bind _

/-- A lexeme that takes something leaves less. -/
theorem lexeme_shorter {raw : Reader Text} {avoided : Char → Bool} (reproducible : Reproducible raw avoided)
    {text written rest : Text} (done : lexeme raw text = .done written rest) (some_ : written ≠ []) :
    rest.length < text.length := by
  obtain ⟨mid, read, rfl⟩ := lexeme_eq_done_iff.mp done
  obtain ⟨rfl, -⟩ := reproducible _ _ _ read
  have := length_skipLayout_le mid
  have := List.length_pos_iff.mpr some_
  rw [List.length_append]
  omega

/-- A lexeme is read again before what does not go on with it. -/
theorem lexeme_again {raw : Reader Text} {avoided : Char → Bool} (reproducible : Reproducible raw avoided)
    {text written rest : Text} (done : lexeme raw text = .done written rest) {after : Text}
    (clear : Clear avoided after) : lexeme raw (written ++ after) = .done written (skipLayout after) := by
  obtain ⟨mid, read, -⟩ := lexeme_eq_done_iff.mp done
  exact lexeme_eq_done_iff.mpr ⟨after, (reproducible _ _ _ read).2 after clear, rfl⟩

theorem symbol_eq_done_iff {wanted text written rest : Text} :
    symbol wanted text = .done written rest ↔ written = wanted ∧ ∃ mid, text = wanted ++ mid ∧ rest = skipLayout mid := by
  unfold symbol
  rw [lexeme_eq_done_iff]
  constructor
  · rintro ⟨mid, read, rfl⟩
    obtain ⟨rfl, rfl⟩ := exactly_eq_done_iff.mp read
    exact ⟨rfl, mid, rfl, rfl⟩
  · rintro ⟨rfl, mid, rfl, rfl⟩
    exact ⟨mid, exactly_eq_done_iff.mpr ⟨rfl, rfl⟩, rfl⟩

theorem fails_symbol {wanted text : Text} (missing : ¬wanted <+: text) : Fails (symbol wanted) text :=
  fails_lexeme (fails_exactly missing)

theorem symbol_shorter {wanted text written rest : Text} (done : symbol wanted text = .done written rest)
    (some_ : wanted ≠ []) : rest.length < text.length := by
  obtain ⟨-, mid, rfl, rfl⟩ := symbol_eq_done_iff.mp done
  have := List.length_pos_iff.mpr some_
  have := length_skipLayout_le mid
  rw [List.length_append]
  omega

theorem keywordText_eq_done_iff {keyword : Keyword} {text written rest : Text} :
    keywordText keyword text = .done written rest ↔
      written = leadWord text ∧ Keyword.lookup? written = some keyword ∧
        rest = skipLayout (text.dropWhile isWordChar) := by
  unfold keywordText
  rw [lexeme_eq_done_iff]
  constructor
  · rintro ⟨mid, read, rfl⟩
    obtain ⟨rfl, rfl, found⟩ := rawKeyword_eq_done_iff.mp read
    exact ⟨rfl, found, rfl⟩
  · rintro ⟨rfl, found, rfl⟩
    exact ⟨_, rawKeyword_eq_done_iff.mpr ⟨rfl, rfl, found⟩, rfl⟩

theorem fails_keywordText {keyword : Keyword} {text : Text}
    (other : Keyword.lookup? (leadWord text) ≠ some keyword) : Fails (keywordText keyword) text :=
  fails_lexeme (fails_rawKeyword other)

theorem keyword_eq_done_iff {keyword : Keyword} {text rest : Text} :
    Reader.keyword keyword text = .done () rest ↔
      Keyword.lookup? (leadWord text) = some keyword ∧ rest = skipLayout (text.dropWhile isWordChar) := by
  unfold Reader.keyword
  rw [bind_eq_done_iff]
  constructor
  · rintro ⟨written, mid, read, done⟩
    cases done
    obtain ⟨rfl, found, rfl⟩ := keywordText_eq_done_iff.mp read
    exact ⟨found, rfl⟩
  · rintro ⟨found, rfl⟩
    exact ⟨_, _, keywordText_eq_done_iff.mpr ⟨rfl, found, rfl⟩, rfl⟩

theorem fails_keyword {keyword : Keyword} {text : Text} (other : Keyword.lookup? (leadWord text) ≠ some keyword) :
    Fails (Reader.keyword keyword) text :=
  (fails_keywordText other).bind _

/-! ## Names and types -/

theorem bareName_eq_done_iff {text name rest : Text} :
    bareName text = .done name rest ↔ word text = .done name rest ∧ isReserved name = false := by
  unfold bareName
  cases read : word text with
  | done found mid =>
    dsimp only
    cases reserved : isReserved found with
    | false =>
      simp only [Bool.false_eq_true, if_false, Reply.done.injEq]
      constructor
      · rintro ⟨rfl, rfl⟩
        exact ⟨⟨rfl, rfl⟩, reserved⟩
      · exact fun same => same.1
    | true =>
      simp only [if_true, Reply.done.injEq, reduceCtorEq, false_iff, not_and]
      rintro ⟨rfl, rfl⟩
      simp [reserved]
  | fail why => simp
  | halt why => simp

theorem identifier_eq_done_iff {text name rest : Text} :
    identifier text = .done name rest ↔ quotedName text = .done name rest ∨ bareName text = .done name rest := by
  constructor
  · intro done
    rcases done_of_firstOf_pair done with read | read
    · exact .inl read
    · exact .inr read
  · rintro (read | read)
    · exact firstOf_of_done read
    · obtain ⟨isWord, -⟩ := bareName_eq_done_iff.mp read
      obtain ⟨mid, raw, -⟩ := lexeme_eq_done_iff.mp isWord
      obtain ⟨-, -, c, more, rfl, start⟩ := rawWord_eq_done_iff.mp raw
      have apart : (c == '"') = false := by
        rw [beq_eq_false_iff_ne]
        rintro rfl
        exact absurd start (by decide)
      exact firstOf_of_fails (fails_lexeme (fails_rawQuoted (clear_cons.mpr apart))) (firstOf_of_done read)

/-- The characters that a name or a type goes on with. -/
def goesOnName (c : Char) : Bool := isWordChar c || c == '"'

theorem identifier_again {text name rest : Text} (done : identifier text = .done name rest) {after : Text}
    (clear : Clear goesOnName after) : identifier (name ++ after) = .done name (skipLayout after) := by
  have quote (c : Char) (is : c == '"') : goesOnName c := by simp [goesOnName, is]
  have goesOn (c : Char) (is : isWordChar c) : goesOnName c := by simp [goesOnName, is]
  rw [identifier_eq_done_iff] at done ⊢
  rcases done with read | read
  · exact .inl (lexeme_again (reproducible_rawQuoted _) read (clear.mono quote))
  · obtain ⟨isWord, free⟩ := bareName_eq_done_iff.mp read
    exact .inr (bareName_eq_done_iff.mpr ⟨lexeme_again reproducible_rawWord isWord (clear.mono goesOn), free⟩)

/-- A name starts with a quote or as a word that is not reserved. -/
theorem identifier_head {text name rest : Text} (done : identifier text = .done name rest) :
    ∃ c more, text = c :: more ∧ name.head? = some c ∧
      (c = '"' ∨ isWordStart c ∧ isReserved (leadWord text) = false) := by
  rcases identifier_eq_done_iff.mp done with read | read
  · obtain ⟨mid, raw, -⟩ := lexeme_eq_done_iff.mp read
    obtain ⟨body, inside, rfl, rfl, -⟩ := rawQuoted_eq_done_iff.mp raw
    exact ⟨'"', inside, rfl, rfl, .inl rfl⟩
  · obtain ⟨isWord, free⟩ := bareName_eq_done_iff.mp read
    obtain ⟨mid, raw, -⟩ := lexeme_eq_done_iff.mp isWord
    obtain ⟨rfl, -, c, more, rfl, start⟩ := rawWord_eq_done_iff.mp raw
    refine ⟨c, more, rfl, ?_, .inr ⟨start, free⟩⟩
    rw [List.takeWhile_cons_of_pos (isWordChar_of_isWordStart start)]
    rfl

theorem identifier_shorter {text name rest : Text} (done : identifier text = .done name rest) :
    rest.length < text.length := by
  obtain ⟨c, more, -, head, -⟩ := identifier_head done
  have some_ : name ≠ [] := by rintro rfl; cases head
  rcases identifier_eq_done_iff.mp done with read | read
  · exact lexeme_shorter (reproducible_rawQuoted _) read some_
  · exact lexeme_shorter reproducible_rawWord (bareName_eq_done_iff.mp read).1 some_

theorem fails_identifier_of_clear {text : Text} (clear : Clear (fun c => isWordStart c || c == '"') text) :
    Fails identifier text := by
  have start : Clear isWordStart text := clear.mono fun c is => by simp [is]
  have quote : Clear (· == '"') text := clear.mono fun c is => by simp [is]
  obtain ⟨why, failed⟩ := fails_lexeme (fails_rawWord start)
  have bare : Fails bareName text := ⟨why, by rw [bareName, word, failed]⟩
  apply fails_firstOf
  intro reader member
  rcases List.mem_cons.mp member with rfl | member
  · exact fails_lexeme (fails_rawQuoted quote)
  · obtain rfl := List.mem_singleton.mp member
    exact bare

/-- A word that can be written without quotes. -/
def IsBareWord (word : Text) : Prop := ∃ c more, word = c :: more ∧ isWordStart c ∧ ∀ d ∈ more, isWordChar d

theorem isWordChar_of_isBareWord {word : Text} (bare : IsBareWord word) : ∀ c ∈ word, isWordChar c := by
  obtain ⟨c, more, rfl, start, all⟩ := bare
  exact List.forall_mem_cons.mpr ⟨isWordChar_of_isWordStart start, all⟩

theorem identifier_of_isBareWord {word : Text} (bare : IsBareWord word) (free : isReserved word = false) :
    identifier word = .done word [] := by
  have whole := isWordChar_of_isBareWord bare
  obtain ⟨c, more, rfl, start, all⟩ := bare
  have raw : rawWord (c :: more) = .done (c :: more) [] := by
    have took := takeWhile_append_of_clear whole (clear_nil _)
    have left := dropWhile_append_of_clear whole (clear_nil _)
    rw [List.append_nil] at took left
    exact rawWord_eq_done_iff.mpr ⟨took.symm, left.symm, c, more, rfl, start⟩
  have read : word (c :: more) = .done (c :: more) [] := lexeme_eq_done_iff.mpr ⟨[], raw, skipLayout_nil.symm⟩
  exact identifier_eq_done_iff.mpr (.inr (bareName_eq_done_iff.mpr ⟨read, free⟩))

/-- Behind a word a number makes another word, which is never reserved. -/
theorem isBareWord_numbered {stem : Text} (bare : IsBareWord stem) (number : Nat) :
    IsBareWord (stem ++ Text.ofNat number) := by
  obtain ⟨c, more, rfl, start, all⟩ := bare
  refine ⟨c, more ++ Text.ofNat number, rfl, start, List.forall_mem_append.mpr ⟨all, fun d member => ?_⟩⟩
  have digit := Nat.isDigit_of_mem_toDigits (by decide) (by decide) member
  simp [isWordChar, Char.isAlphanum, digit]

theorem isReserved_numbered (stem : Text) (number : Nat) : isReserved (stem ++ Text.ofNat number) = false := by
  apply Bool.eq_false_iff.mpr
  intro reserved
  obtain ⟨keyword, found⟩ := Option.isSome_iff_exists.mp reserved
  obtain ⟨digit, more, digits⟩ := List.exists_cons_of_ne_nil (show Text.ofNat number ≠ [] from Nat.toDigits_ne_nil)
  have letter : digit.isAlpha := Keyword.isAlpha_of_lookup? found digit (by simp [digits])
  have isDigit : isDecimalDigit digit :=
    Nat.isDigit_of_mem_toDigits (b := 10) (n := number) (by decide) (by decide) (show digit ∈ Text.ofNat number by simp [digits])
  rw [not_isAlpha_of_isDecimalDigit isDigit] at letter
  cases letter

/-- The name of a type without the layout behind it. -/
def rawTypeName : Reader Text := do
  let name ← firstOf [rawWord, rawQuoted '"']
  let brackets ← optional (exactly ['[', ']'])
  pure (name ++ brackets.getD [])

def goesOnType (c : Char) : Bool := goesOnName c || c == '['

theorem reproducible_rawTypeName : Reproducible rawTypeName goesOnType := by
  have name : Reproducible (firstOf [rawWord, rawQuoted '"']) goesOnName := by
    refine Reproducible.firstOf (reproducible_rawWord.mono fun c is => by simp [goesOnName, is])
      ((reproducible_rawQuoted _).mono fun c is => by simp [goesOnName, is]) ?_
    intro text written rest done after
    obtain ⟨body, inside, rfl, -, -⟩ := rawQuoted_eq_done_iff.mp done
    exact fails_rawWord (clear_cons.mpr rfl)
  intro text written rest done
  obtain ⟨word, afterWord, wordRead, done⟩ := bind_eq_done_iff.mp done
  obtain ⟨brackets?, afterBrackets, bracketsRead, done⟩ := bind_eq_done_iff.mp done
  cases done
  obtain ⟨wordSplit, wordAgain⟩ := name _ _ _ wordRead
  obtain ⟨bracketsSplit, bracketsAgain⟩ := (reproducible_exactly _).optional bracketsRead
  refine ⟨by rw [wordSplit, bracketsSplit, List.append_assoc], fun after clear => ?_⟩
  rw [List.append_assoc]
  have closes : Clear goesOnName (brackets?.getD [] ++ after) := by
    refine clear_getD (fun brackets same => ?_) (clear.mono fun c is => by simp [goesOnType, is])
    subst same
    rcases optional_eq_done_iff.mp bracketsRead with ⟨_, read, same⟩ | ⟨_, same, _⟩
    · cases same
      obtain ⟨rfl, -⟩ := exactly_eq_done_iff.mp read
      exact ⟨by simp, clear_cons.mpr rfl⟩
    · cases same
  have noBrackets (_ : brackets? = none) : Fails (exactly ['[', ']']) after := by
    apply fails_exactly
    rintro ⟨rest', rfl⟩
    exact absurd (clear_cons.mp clear) (by decide)
  apply (bind_of_done (wordAgain _ closes) _).trans
  exact bind_of_done (bracketsAgain after (fun _ _ => rfl) noBrackets) _

theorem rawTypeName_ne_nil {text written rest : Text}
    (done : rawTypeName text = .done written rest) : written ≠ [] := by
  obtain ⟨word, afterWord, wordRead, done⟩ := bind_eq_done_iff.mp done
  obtain ⟨brackets?, afterBrackets, -, done⟩ := bind_eq_done_iff.mp done
  cases done
  rcases done_of_firstOf_pair wordRead with read | read
  · obtain ⟨rfl, -, c, more, rfl, start⟩ := rawWord_eq_done_iff.mp read
    simp [List.takeWhile_cons_of_pos (isWordChar_of_isWordStart start)]
  · obtain ⟨body, inside, rfl, -, -⟩ := rawQuoted_eq_done_iff.mp read
    simp

end Reader

end BulkSql
