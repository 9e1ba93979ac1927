import BulkSql.Proofs.Syntax.Gaps

/-! # Tokens are as long as they can be

What is read as a token, said without a reader: numbers, words and operators are the longest that stand there, quoted
texts go on over doubled quotes, and a point is a punctuation mark where no number starts. Such a token stays one if the
text ends early, and where nothing in a text has the form of a token none is read.
-/

namespace BulkSql

open Reader

/-! ## Readers that answer -/

section Decisive

variable {α β : Type}

/-- The reader never stops others from being tried. -/
def Decisive (reader : Reader α) : Prop := ∀ text, (∃ value rest, reader text = .done value rest) ∨ Fails reader text

namespace Decisive

theorem pure (value : α) : Decisive (Pure.pure value) := fun text => .inl ⟨value, text, rfl⟩

theorem bind {first : Reader α} {next : α → Reader β} (one : Decisive first) (other : ∀ value, Decisive (next value)) :
    Decisive (first >>= next) := by
  intro text
  rcases one text with ⟨value, mid, done⟩ | fails
  · rcases other value mid with ⟨found, rest, done'⟩ | fails
    · exact .inl ⟨found, rest, (bind_of_done done next).trans done'⟩
    · exact .inr (fails_bind_of_done done fails)
  · exact .inr (fails.bind next)

theorem exists_optional {reader : Reader α} (decisive : Decisive reader) (text : Text) :
    ∃ value? rest, optional reader text = .done value? rest := by
  rcases decisive text with ⟨value, rest, done⟩ | fails
  · exact ⟨_, _, optional_of_done done⟩
  · exact ⟨_, _, optional_of_fails fails⟩

theorem optional {reader : Reader α} (decisive : Decisive reader) : Decisive (Reader.optional reader) :=
  fun text => .inl (decisive.exists_optional text)

theorem firstOf {readers : List (Reader α)} (each : ∀ reader ∈ readers, Decisive reader) :
    Decisive (firstOf readers) := by
  intro text
  by_cases all : ∀ reader ∈ readers, Fails reader text
  · exact .inr (fails_firstOf all)
  · left
    induction readers with
    | nil => exact absurd (List.forall_mem_nil _) all
    | cons first more ih =>
      obtain ⟨one, others⟩ := List.forall_mem_cons.mp each
      rcases one text with ⟨value, rest, done⟩ | fails
      · exact ⟨value, rest, firstOf_of_done done⟩
      · obtain ⟨value, rest, done⟩ := ih others fun failed => all (List.forall_mem_cons.mpr ⟨fails, failed⟩)
        exact ⟨value, rest, firstOf_of_fails fails done⟩

theorem exactly (wanted : Text) : Decisive (exactly wanted) := by
  intro text
  by_cases starts : wanted <+: text
  · obtain ⟨rest, rfl⟩ := starts
    exact .inl ⟨wanted, rest, exactly_eq_done_iff.mpr ⟨rfl, rfl⟩⟩
  · exact .inr (fails_exactly starts)

theorem digits : Decisive digits := by
  intro text
  cases run : text.takeWhile isDecimalDigit with
  | nil => exact .inr ⟨_, by rw [Reader.digits, run]⟩
  | cons d more => exact .inl ⟨_, _, by rw [Reader.digits, run]⟩

theorem oneOf (set : List Char) : Decisive (oneOf set) := by
  intro text
  cases text with
  | nil => exact .inr ⟨_, rfl⟩
  | cons c rest =>
    by_cases member : c ∈ set
    · exact .inl ⟨_, _, if_pos member⟩
    · exact .inr ⟨_, if_neg member⟩

theorem fraction : Decisive fraction := (exactly _).bind fun _ => digits.bind fun _ => pure _

theorem exponent : Decisive exponent :=
  (oneOf _).bind fun _ => (oneOf _).optional.bind fun _ => digits.bind fun _ => pure _

theorem rawNumber : Decisive rawNumber := by
  refine firstOf (List.forall_mem_cons.mpr ⟨?_, List.forall_mem_singleton.mpr ?_⟩)
  · exact digits.bind fun _ => fraction.optional.bind fun _ => exponent.optional.bind fun _ => pure _
  · exact fraction.bind fun _ => exponent.optional.bind fun _ => pure _

end Decisive

end Decisive

/-! ## The longest of a form -/

/-- Of the texts of a form that start a longer text, the longest one. -/
def Longest (form : Text → Prop) (written after : Text) : Prop :=
  form written ∧ ∀ longer, form longer → longer <+: written ++ after → longer.length ≤ written.length

/-- If the text ends early, no longer one of the form comes up. -/
theorem Longest.of_append {form : Text → Prop} {written after rest : Text} (longest : Longest form written (after ++ rest)) :
    Longest form written after := by
  refine ⟨longest.1, fun longer isForm starts => longest.2 longer isForm (starts.trans ?_)⟩
  rw [← List.append_assoc]
  exact List.prefix_append _ _

/-- A reader takes texts of one form, and never less than what has the form. -/
structure Greedy (raw : Reader Text) (form : Text → Prop) : Prop where
  sound : ∀ {text written rest}, raw text = .done written rest → text = written ++ rest ∧ form written
  grows : ∀ {text}, form text → ∀ after, ∃ written rest, raw (text ++ after) = .done written rest ∧ text <+: written

theorem Greedy.eq_done_iff {raw : Reader Text} {form : Text → Prop} (greedy : Greedy raw form) {text written rest : Text} :
    raw text = .done written rest ↔ text = written ++ rest ∧ Longest form written rest := by
  constructor
  · intro done
    obtain ⟨split, isForm⟩ := greedy.sound done
    refine ⟨split, isForm, fun longer isForm' starts => ?_⟩
    rw [← split] at starts
    obtain ⟨after, rfl⟩ := starts
    obtain ⟨found, behind, done', grown⟩ := greedy.grows isForm' after
    cases done.symm.trans done'
    exact grown.length_le
  · rintro ⟨rfl, isForm, longest⟩
    obtain ⟨found, behind, done, grown⟩ := greedy.grows isForm rest
    obtain ⟨split, isForm'⟩ := greedy.sound done
    have short := longest found isForm' ⟨behind, split.symm⟩
    obtain rfl := grown.eq_of_length (Nat.le_antisymm grown.length_le short)
    obtain rfl := List.append_cancel_left split
    exact done

/-! ## Numbers -/

section Numbers

variable {text : Text}

/-- A form that goes on with digits is read with all the digits behind it. -/
theorem greedy_of_digits {raw : Reader Text} {form : Text → Prop}
    (sound : ∀ {text written rest}, raw text = .done written rest → text = written ++ rest ∧ form written)
    (goesOn : ∀ {text run}, form text → (∀ c ∈ run, isDecimalDigit c) → form (text ++ run))
    (again : ∀ {text after}, form text → Clear isDecimalDigit after → raw (text ++ after) = .done text after) :
    Greedy raw form where
  sound := sound
  grows {text} isForm after := by
    have run : ∀ c ∈ after.takeWhile isDecimalDigit, isDecimalDigit c := List.all_eq_true.mp List.all_takeWhile
    have done := again (goesOn isForm run) (clear_dropWhile isDecimalDigit after)
    rw [List.append_assoc, List.takeWhile_append_dropWhile] at done
    exact ⟨_, _, done, List.prefix_append _ _⟩

theorem IsDigits.append (isDigits : IsDigits text) {run : Text} (digits : ∀ c ∈ run, isDecimalDigit c) :
    IsDigits (text ++ run) :=
  ⟨List.append_ne_nil_of_left_ne_nil isDigits.1 run, List.forall_mem_append.mpr ⟨isDigits.2, digits⟩⟩

theorem greedy_digits : Greedy digits IsDigits :=
  greedy_of_digits (fun done => ⟨(reproducible_digits _ _ _ done).1, isDigits_of_digits done⟩)
    (fun isDigits digits => isDigits.append digits) IsDigits.read

theorem greedy_fraction : Greedy fraction IsFraction := by
  refine greedy_of_digits (fun done => ⟨(reproducible_fraction _ _ _ done).1, isFraction_of_fraction done⟩) ?_
    IsFraction.read
  rintro _ run ⟨places, isDigits, rfl⟩ digits
  exact ⟨places ++ run, isDigits.append digits, rfl⟩

theorem greedy_exponent : Greedy exponent IsExponent := by
  refine greedy_of_digits (fun done => ⟨(reproducible_exponent _ _ _ done).1, isExponent_of_exponent done⟩) ?_
    IsExponent.read
  rintro _ run ⟨mark, isMark, sign, isSign, power, isDigits, rfl⟩ digits
  exact ⟨mark, isMark, sign, isSign, power ++ run, isDigits.append digits, by simp⟩

/-- The letter of an exponent ends what stands in front of it. -/
theorem IsExponent.clear {avoided : Char → Bool} {power : Text} (isExponent : IsExponent power)
    (lower : avoided 'e' = false) (upper : avoided 'E' = false) (after : Text) : Clear avoided (power ++ after) := by
  have clear := clear_of_isExponent (.inr isExponent) lower upper
  obtain ⟨mark, -, sign, -, digits, -, rfl⟩ := isExponent
  exact clear

/-- What an optional part grows to. -/
theorem Greedy.exists_optional {raw : Reader Text} {form : Text → Prop} (greedy : Greedy raw form)
    (decisive : Decisive raw) {part : Text} (isPart : part = [] ∨ form part) (after : Text) :
    ∃ part? rest, optional raw (part ++ after) = .done part? rest ∧ part <+: part?.getD [] := by
  rcases isPart with rfl | isForm
  · obtain ⟨part?, rest, done⟩ := decisive.exists_optional after
    exact ⟨part?, rest, done, List.nil_prefix⟩
  · obtain ⟨written, rest, done, grown⟩ := greedy.grows isForm after
    exact ⟨some written, rest, optional_of_done done, grown⟩

/-- A fraction and an exponent, either of which may be missing. -/
theorem exists_optionals {part power : Text} (isPart : part = [] ∨ IsFraction part)
    (isPower : power = [] ∨ IsExponent power) (after : Text) :
    ∃ part? mid power? rest, optional fraction (part ++ (power ++ after)) = .done part? mid ∧
      optional exponent mid = .done power? rest ∧ part ++ power <+: part?.getD [] ++ power?.getD [] := by
  rcases isPower with rfl | isExponent
  · obtain ⟨part?, mid, done, grown⟩ := greedy_fraction.exists_optional .fraction isPart after
    obtain ⟨power?, rest, done'⟩ := Decisive.exponent.exists_optional mid
    refine ⟨part?, mid, power?, rest, done, done', ?_⟩
    rw [List.append_nil]
    exact grown.trans (List.prefix_append _ _)
  · obtain ⟨power?, rest, done, grown⟩ := greedy_exponent.exists_optional .exponent (.inr isExponent) after
    rcases isPart with rfl | isFraction
    · exact ⟨none, _, power?, rest, optional_of_fails (fails_fraction (isExponent.clear (by decide) (by decide) after)), done, grown⟩
    · have ends : Clear isDecimalDigit (power ++ after) := isExponent.clear (by decide) (by decide) after
      refine ⟨some part, _, power?, rest, optional_of_done (isFraction.read ends), done, ?_⟩
      exact (List.prefix_append_right_inj part).mpr grown

/-- The same behind digits. -/
theorem exists_digits_optionals {whole part power : Text} (isDigits : IsDigits whole) (isPart : part = [] ∨ IsFraction part)
    (isPower : power = [] ∨ IsExponent power) (after : Text) :
    ∃ run mid part? mid' power? rest, digits (whole ++ (part ++ (power ++ after))) = .done run mid ∧
      optional fraction mid = .done part? mid' ∧ optional exponent mid' = .done power? rest ∧
      whole ++ (part ++ power) <+: run ++ (part?.getD [] ++ power?.getD []) := by
  -- digits alone may go on; with something behind them they end there
  by_cases alone : part ++ power = []
  · obtain ⟨rfl, rfl⟩ := List.append_eq_nil_iff.mp alone
    obtain ⟨run, mid, done, grown⟩ := greedy_digits.grows isDigits after
    obtain ⟨part?, mid', power?, rest, partDone, powerDone, -⟩ := exists_optionals isPart isPower mid
    refine ⟨run, mid, part?, mid', power?, rest, done, partDone, powerDone, ?_⟩
    rw [alone, List.append_nil]
    exact grown.trans (List.prefix_append _ _)
  · obtain ⟨part?, mid', power?, rest, partDone, powerDone, grown⟩ := exists_optionals isPart isPower after
    have ends : Clear isDecimalDigit (part ++ (power ++ after)) := by
      rcases isPart with rfl | ⟨places, -, rfl⟩
      · exact (isPower.resolve_left alone).clear (by decide) (by decide) after
      · exact clear_cons.mpr (by decide)
    exact ⟨whole, _, part?, mid', power?, rest, isDigits.read ends, partDone, powerDone,
      (List.prefix_append_right_inj whole).mpr grown⟩

theorem greedy_rawNumber : Greedy rawNumber IsNumber where
  sound done := ⟨(reproducible_rawNumber _ _ _ done).1, isNumber_of_rawNumber done⟩
  grows := by
    rintro _ ⟨whole, part, power, rfl, isPower, ⟨isDigits, isPart⟩ | ⟨rfl, isFraction⟩⟩ after
    · obtain ⟨run, mid, part?, mid', power?, rest, digitsDone, partDone, powerDone, grown⟩ :=
        exists_digits_optionals isDigits isPart isPower after
      simp only [List.append_assoc]
      rw [← List.append_assoc run] at grown
      exact ⟨_, rest, firstOf_of_done ((bind_of_done digitsDone _).trans ((bind_of_done partDone _).trans
        (bind_of_done powerDone _))), grown⟩
    · obtain ⟨part?, mid, power?, rest, partDone, powerDone, grown⟩ := exists_optionals (.inr isFraction) isPower after
      obtain ⟨found, mid', done, -⟩ := greedy_fraction.grows isFraction (power ++ after)
      cases partDone.symm.trans (optional_of_done done)
      have noWhole : Fails digits (part ++ (power ++ after)) := by
        obtain ⟨places, -, rfl⟩ := isFraction
        exact fails_digits (clear_cons.mpr (by decide))
      simp only [List.nil_append, List.append_assoc]
      exact ⟨_, rest, firstOf_of_fails (noWhole.bind _) (firstOf_of_done ((bind_of_done done _).trans
        (bind_of_done powerDone _))), grown⟩

end Numbers

/-! ## Words and symbols -/

theorem greedy_rawWord : Greedy rawWord IsBareWord where
  sound done := ⟨(reproducible_rawWord _ _ _ done).1, isBareWord_of_rawWord done⟩
  grows := by
    intro text bare after
    have whole := isWordChar_of_isBareWord bare
    obtain ⟨c, more, rfl, start, -⟩ := bare
    refine ⟨_, _, rawWord_eq_done_iff.mpr ⟨rfl, rfl, c, more ++ after, rfl, start⟩, ?_⟩
    rw [List.takeWhile_append_of_pos whole]
    exact List.prefix_append _ _

/-- Texts of a list, longer ones first, are tried in the order of their lengths. -/
theorem greedy_exactly {wishes : List Text} (sorted : wishes.Pairwise fun first second => second.length ≤ first.length) :
    Greedy (firstOf (wishes.map exactly)) (· ∈ wishes) where
  sound := by
    intro text written rest done
    obtain ⟨reader, member, done⟩ := exists_of_firstOf done
    obtain ⟨wanted, inside, rfl⟩ := List.mem_map.mp member
    obtain ⟨rfl, split⟩ := exactly_eq_done_iff.mp done
    exact ⟨split, inside⟩
  grows := by
    intro text member after
    induction sorted with
    | nil => cases member
    | @cons first more longest _ ih =>
      by_cases starts : first <+: text ++ after
      · obtain ⟨rest, split⟩ := starts
        refine ⟨first, rest, firstOf_of_done (exactly_eq_done_iff.mpr ⟨rfl, split.symm⟩), ?_⟩
        have long : text.length ≤ first.length := by
          rcases List.mem_cons.mp member with rfl | later
          · exact Nat.le_refl _
          · exact longest text later
        exact List.prefix_of_prefix_length_le (List.prefix_append text after) ⟨rest, split⟩ long
      · have later : text ∈ more := by
          rcases List.mem_cons.mp member with rfl | later
          · exact absurd (List.prefix_append text after) starts
          · exact later
        obtain ⟨written, rest, done, grown⟩ := ih later
        exact ⟨written, rest, firstOf_of_fails (fails_exactly starts) done, grown⟩

/-- Layout is dropped behind the first that is read, whichever it is. -/
theorem firstOf_map_lexeme {α : Type} (readers : List (Reader α)) (text : Text) :
    firstOf (readers.map lexeme) text = lexeme (firstOf readers) text := by
  induction readers with
  | nil => rfl
  | cons first more ih =>
    have dropped (reader : Reader α) : lexeme reader = reader.andThen fun value rest => .done value (skipLayout rest) := rfl
    simp only [dropped, andThen] at ih
    simp only [List.map_cons, firstOf, orElse, dropped, andThen, ih]
    cases first text with
    | done value rest => rfl
    | halt why => rfl
    | fail why => cases firstOf more text <;> rfl

theorem symbols_eq_done_iff {wishes : List Text}
    (sorted : wishes.Pairwise fun first second => second.length ≤ first.length) {text written rest : Text} :
    firstOf (wishes.map symbol) text = .done written rest ↔
      ∃ mid, text = written ++ mid ∧ rest = skipLayout mid ∧ Longest (· ∈ wishes) written mid := by
  have same : firstOf (wishes.map symbol) text = lexeme (firstOf (wishes.map exactly)) text := by
    rw [← firstOf_map_lexeme, List.map_map]
    rfl
  rw [same, lexeme_eq_done_iff]
  constructor
  · rintro ⟨mid, done, ends⟩
    obtain ⟨split, longest⟩ := (greedy_exactly sorted).eq_done_iff.mp done
    exact ⟨mid, split, ends, longest⟩
  · rintro ⟨mid, split, ends, longest⟩
    exact ⟨mid, (greedy_exactly sorted).eq_done_iff.mpr ⟨split, longest⟩, ends⟩

theorem exists_symbol {wishes : List Text}
    (sorted : wishes.Pairwise fun first second => second.length ≤ first.length) {wanted : Text} (member : wanted ∈ wishes)
    (after : Text) : ∃ written rest, firstOf (wishes.map symbol) (wanted ++ after) = .done written rest := by
  obtain ⟨written, mid, raw, -⟩ := (greedy_exactly sorted).grows member after
  obtain ⟨split, longest⟩ := (greedy_exactly sorted).eq_done_iff.mp raw
  exact ⟨written, _, (symbols_eq_done_iff sorted).mpr ⟨mid, split, rfl, longest⟩⟩

namespace Token

variable {text written mid rest after : Text} {kind : TokenKind}

theorem operators_sorted : operators.Pairwise fun first second => second.length ≤ first.length := by decide

theorem punctuationMarks_sorted : punctuationMarks.Pairwise fun first second => second.length ≤ first.length := by decide

/-- A token of a kind as written in front of a text: it ends just there. -/
inductive Fits : TokenKind → (written after : Text) → Prop where
  | string {written after : Text} (quoted : IsQuoted '\'' written) (closed : Clear (· == '\'') after) :
    Fits .string written after
  | number {written after : Text} (longest : Longest IsNumber written after) : Fits .number written after
  | placeholder {after : Text} : Fits .placeholder ['?'] after
  | quotedName {written after : Text} (quoted : IsQuoted '"' written) (closed : Clear (· == '"') after) :
    Fits .identifier written after
  | word {written after : Text} (longest : Longest IsBareWord written after) :
    Fits (if isReserved written then .keyword else .identifier) written after
  | operator {written after : Text} (longest : Longest (· ∈ operators) written after) : Fits .operator written after
  | punctuation {written after : Text} (longest : Longest (· ∈ punctuationMarks) written after)
    (noNumber : ∀ number, IsNumber number → ¬ number <+: written ++ after) : Fits .punctuation written after

theorem read_of_operators (done : firstOf (operators.map symbol) text = .done written rest) :
    read text = .done (.operator, written) rest := by
  obtain ⟨mid, rfl, rfl, member, -⟩ := (symbols_eq_done_iff operators_sorted).mp done
  have clear : Clear startsNoOperator (written ++ mid) := by
    have each : ∀ operator ∈ operators, operator.head?.all (!startsNoOperator ·) ∧ operator ≠ [] := by decide
    obtain ⟨free, some_⟩ := each written member
    obtain ⟨c, more, rfl⟩ := List.exists_cons_of_ne_nil some_
    exact clear_cons.mpr (by simpa using free)
  apply read_of_symbol (clear.mono fun c is => by simp [startsNoOperator, is]) (fails_rawNumber_of_clear clear)
  exact firstOf_of_done (ofKind_of_done .operator done)

/-- No operator starts where a punctuation mark does. -/
theorem read_of_punctuationMarks (done : firstOf (punctuationMarks.map symbol) text = .done written rest)
    (noNumber : Fails rawNumber text) : read text = .done (.punctuation, written) rest := by
  obtain ⟨mid, rfl, rfl, member, -⟩ := (symbols_eq_done_iff punctuationMarks_sorted).mp done
  have each : ∀ mark ∈ punctuationMarks, mark ≠ [] ∧ mark.head?.all (!startsNoSymbol ·) ∧
      ∀ operator ∈ operators, operator ≠ [] ∧ operator.head? ≠ mark.head? := by decide
  obtain ⟨some_, free, apart⟩ := each written member
  obtain ⟨c, more, rfl⟩ := List.exists_cons_of_ne_nil some_
  have clear : Clear startsNoSymbol (c :: more ++ mid) := clear_cons.mpr (by simpa using free)
  have missing : ∀ operator ∈ operators, ¬ operator <+: c :: more ++ mid := by
    intro operator inside starts
    obtain ⟨some_, other⟩ := apart operator inside
    obtain ⟨d, rest, rfl⟩ := List.exists_cons_of_ne_nil some_
    exact other (congrArg some (List.cons_prefix_cons.mp starts).1)
  refine read_of_symbol clear noNumber (firstOf_of_fails ((fails_symbols missing).bind _) ?_)
  exact firstOf_of_done (ofKind_of_done .punctuation done)

/-- What fits in front of a text is read there. -/
theorem read_of_fits (fits : Fits kind written after) :
    read (written ++ after) = .done (kind, written) (skipLayout after) := by
  cases fits with
  | string quoted closed =>
    have raw := (reproducible_rawQuoted _ _ _ _ (rawQuoted_of_isQuoted quoted)).2 after closed
    exact read_string (lexeme_eq_done_iff.mpr ⟨after, raw, rfl⟩)
  | number longest =>
    have raw := greedy_rawNumber.eq_done_iff.mpr ⟨rfl, longest⟩
    exact read_number (lexeme_eq_done_iff.mpr ⟨after, raw, rfl⟩)
  | placeholder => exact read_placeholder after
  | quotedName quoted closed =>
    have raw := (reproducible_rawQuoted _ _ _ _ (rawQuoted_of_isQuoted quoted)).2 after closed
    exact read_quotedName (lexeme_eq_done_iff.mpr ⟨after, raw, rfl⟩)
  | word longest =>
    have raw := greedy_rawWord.eq_done_iff.mpr ⟨rfl, longest⟩
    exact read_word (lexeme_eq_done_iff.mpr ⟨after, raw, rfl⟩)
  | operator longest =>
    exact read_of_operators ((symbols_eq_done_iff operators_sorted).mpr ⟨after, rfl, rfl, longest⟩)
  | punctuation longest noNumber =>
    refine read_of_punctuationMarks ((symbols_eq_done_iff punctuationMarks_sorted).mpr ⟨after, rfl, rfl, longest⟩) ?_
    refine (Decisive.rawNumber (written ++ after)).resolve_left ?_
    rintro ⟨number, rest, done⟩
    obtain ⟨split, isNumber⟩ := greedy_rawNumber.sound done
    exact noNumber number isNumber ⟨rest, split.symm⟩

theorem fits_of_read (done : read text = .done (kind, written) rest) :
    ∃ mid, text = written ++ mid ∧ rest = skipLayout mid ∧ Fits kind written mid := by
  have comes := comes_of_read done
  have ofWord (isWord : word text = .done written rest) : ∃ mid, text = written ++ mid ∧ rest = skipLayout mid ∧
      Fits (if isReserved written then .keyword else .identifier) written mid := by
    obtain ⟨mid, raw, ends⟩ := lexeme_eq_done_iff.mp isWord
    obtain ⟨split, longest⟩ := greedy_rawWord.eq_done_iff.mp raw
    exact ⟨mid, split, ends, .word longest⟩
  cases kind with
  | string =>
    obtain ⟨mid, raw, ends⟩ := lexeme_eq_done_iff.mp comes
    exact ⟨mid, (reproducible_rawQuoted _ _ _ _ raw).1, ends, .string (isQuoted_of_rawQuoted raw) (clear_of_rawQuoted raw)⟩
  | number =>
    obtain ⟨mid, raw, ends⟩ := lexeme_eq_done_iff.mp comes
    obtain ⟨split, longest⟩ := greedy_rawNumber.eq_done_iff.mp raw
    exact ⟨mid, split, ends, .number longest⟩
  | placeholder =>
    obtain ⟨rfl, mid, rfl, ends⟩ := symbol_eq_done_iff.mp comes
    exact ⟨mid, rfl, ends, .placeholder⟩
  | identifier =>
    rcases identifier_eq_done_iff.mp comes with quoted | bare
    · obtain ⟨mid, raw, ends⟩ := lexeme_eq_done_iff.mp quoted
      exact ⟨mid, (reproducible_rawQuoted _ _ _ _ raw).1, ends,
        .quotedName (isQuoted_of_rawQuoted raw) (clear_of_rawQuoted raw)⟩
    · obtain ⟨isWord, free⟩ := bareName_eq_done_iff.mp bare
      rw [free] at ofWord
      exact ofWord isWord
  | keyword =>
    obtain ⟨isWord, reserved⟩ := comes
    rw [if_pos reserved] at ofWord
    exact ofWord isWord
  | operator =>
    obtain ⟨member, standing⟩ := comes
    obtain ⟨-, mid, rfl, -⟩ := symbol_eq_done_iff.mp standing
    -- the longest operator there is the one that is read
    obtain ⟨found, rest', symbols⟩ := exists_symbol operators_sorted member mid
    cases done.symm.trans (read_of_operators symbols)
    obtain ⟨behind, split, ends, longest⟩ := (symbols_eq_done_iff operators_sorted).mp symbols
    exact ⟨behind, split, ends, .operator longest⟩
  | punctuation =>
    obtain ⟨member, standing⟩ := comes
    obtain ⟨-, mid, rfl, ends⟩ := symbol_eq_done_iff.mp standing
    refine ⟨mid, rfl, ends, .punctuation ⟨member, fun longer inside _ => ?_⟩ fun number isNumber starts => ?_⟩
    · have single : ∀ mark ∈ punctuationMarks, mark.length = 1 := by decide
      rw [single longer inside, single written member]
    · obtain ⟨behind, split⟩ := starts
      obtain ⟨found, rest', raw, -⟩ := greedy_rawNumber.grows isNumber behind
      rw [split] at raw
      cases done.symm.trans (read_number (lexeme_eq_done_iff.mpr ⟨_, raw, rfl⟩))

/-- A token is read exactly where one fits, and the layout behind it is dropped. -/
theorem read_eq_done_iff :
    read text = .done (kind, written) rest ↔ ∃ mid, text = written ++ mid ∧ rest = skipLayout mid ∧ Fits kind written mid := by
  constructor
  · exact fits_of_read
  · rintro ⟨mid, rfl, rfl, fits⟩
    exact read_of_fits fits

/-! ## Texts that end early, and texts without tokens -/

theorem Fits.of_append (fits : Fits kind written (after ++ rest)) : Fits kind written after := by
  cases fits with
  | string quoted closed => exact .string quoted closed.of_append
  | number longest => exact .number longest.of_append
  | placeholder => exact .placeholder
  | quotedName quoted closed => exact .quotedName quoted closed.of_append
  | word longest => exact .word longest.of_append
  | operator longest => exact .operator longest.of_append
  | punctuation longest noNumber =>
    refine .punctuation longest.of_append fun number isNumber starts => noNumber number isNumber (starts.trans ?_)
    rw [← List.append_assoc]
    exact List.prefix_append _ _

theorem Fits.ne_nil (fits : Fits kind written after) : written ≠ [] := by
  obtain ⟨mid, split, -, stands⟩ := stands_of_read (read_of_fits fits)
  exact stands.ne_nil

/-- Where something has the form of a token, a token is read. -/
theorem exists_read_of_stands (stands : Stands kind written after) :
    ∃ token rest, read (written ++ after) = .done token rest := by
  have lexical {raw : Reader Text} {form : Text → Prop} (greedy : Greedy raw form) (isForm : form written) :
      ∃ found mid, lexeme raw (written ++ after) = .done found (skipLayout mid) := by
    obtain ⟨found, mid, done, -⟩ := greedy.grows isForm after
    exact ⟨found, mid, lexeme_eq_done_iff.mpr ⟨mid, done, rfl⟩⟩
  cases stands with
  | string quoted closed => exact ⟨_, _, read_of_fits (.string quoted closed)⟩
  | number isNumber =>
    obtain ⟨found, mid, done⟩ := lexical greedy_rawNumber isNumber
    exact ⟨_, _, read_number done⟩
  | placeholder => exact ⟨_, _, read_placeholder after⟩
  | quotedName quoted closed => exact ⟨_, _, read_of_fits (.quotedName quoted closed)⟩
  | word bare =>
    obtain ⟨found, mid, done⟩ := lexical greedy_rawWord bare
    exact ⟨_, _, read_word done⟩
  | operator member =>
    obtain ⟨found, rest, symbols⟩ := exists_symbol operators_sorted member after
    exact ⟨_, rest, read_of_operators symbols⟩
  | punctuation member =>
    rcases Decisive.rawNumber (written ++ after) with ⟨number, rest, raw⟩ | noNumber
    · exact ⟨_, _, read_number (lexeme_eq_done_iff.mpr ⟨rest, raw, rfl⟩)⟩
    · obtain ⟨found, rest, symbols⟩ := exists_symbol punctuationMarks_sorted member after
      exact ⟨_, rest, read_of_punctuationMarks symbols noNumber⟩

end Token

end BulkSql
