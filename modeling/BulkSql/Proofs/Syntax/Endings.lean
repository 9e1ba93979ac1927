import BulkSql.Proofs.Syntax.Printing

/-! # How texts end

A name in quotes or a bare one, written behind some character, tells what this character is: so no text that ends in a
type behind a cast ends in a name behind a space.
-/

namespace BulkSql

namespace Reader

/-! ## Quotes -/

/-- A text that is closed by its last character. -/
def ClosedWhole (quote : Char) (text : Text) : Prop := closeQuote? quote text = some (text, [])

variable {quote : Char}

theorem closedWhole_cons_iff {c : Char} (apart : c ≠ quote) {rest : Text} :
    ClosedWhole quote (c :: rest) ↔ ClosedWhole quote rest := by
  unfold ClosedWhole
  rw [closeQuote?_of_ne apart, Option.map_eq_some_iff]
  constructor
  · rintro ⟨⟨body, after⟩, found, same⟩
    cases same
    exact found
  · exact fun found => ⟨_, found, rfl⟩

theorem closedWhole_doubled_iff {rest : Text} :
    ClosedWhole quote (quote :: quote :: rest) ↔ ClosedWhole quote rest := by
  unfold ClosedWhole
  rw [closeQuote?_doubled, Option.map_eq_some_iff]
  constructor
  · rintro ⟨⟨body, after⟩, found, same⟩
    cases same
    exact found
  · exact fun found => ⟨_, found, rfl⟩

/-- A single quote closes only at the end. -/
theorem eq_nil_of_closedWhole {rest : Text} (closed : ClosedWhole quote (quote :: rest))
    (single : rest.head? ≠ some quote) : rest = [] := by
  have clear : Clear (· == quote) rest := fun c here => beq_eq_false_iff_ne.mpr fun same => single (same ▸ here)
  unfold ClosedWhole at closed
  rw [closeQuote?_of_clear clear, Option.some.injEq, Prod.mk.injEq] at closed
  exact closed.2

theorem not_closedWhole_nil : ¬ClosedWhole quote [] := nofun

/-- A closed text behind a character that is no quote is closed by itself. -/
theorem closedWhole_behind {c : Char} (apart : c ≠ quote) {rest : Text} :
    ∀ front, ClosedWhole quote (front ++ c :: rest) → ClosedWhole quote rest
  | [], closed => (closedWhole_cons_iff apart).mp closed
  | [d], closed => by
    by_cases same : d = quote
    · rw [same] at closed
      cases eq_nil_of_closedWhole closed (by simpa using apart)
    · exact (closedWhole_cons_iff apart).mp ((closedWhole_cons_iff same).mp closed)
  | d :: e :: front, closed => by
    by_cases same : d = quote
    · rw [same] at closed
      by_cases doubled : e = quote
      · rw [doubled] at closed
        exact closedWhole_behind apart front (closedWhole_doubled_iff.mp closed)
      · cases eq_nil_of_closedWhole closed (by simpa using doubled)
    · exact closedWhole_behind apart (e :: front) ((closedWhole_cons_iff same).mp closed)

/-- With one quote more in front, the quotes of a closed text are paired otherwise. -/
theorem not_closedWhole_cons : ∀ {text : Text}, ClosedWhole quote text → ¬ClosedWhole quote (quote :: text)
  | [], closed, _ => not_closedWhole_nil closed
  | [c], closed, more => by
    by_cases same : c = quote
    · rw [same] at more
      exact not_closedWhole_nil (closedWhole_doubled_iff.mp more)
    · exact not_closedWhole_nil ((closedWhole_cons_iff same).mp closed)
  | c :: d :: rest, closed, more => by
    by_cases same : c = quote
    · rw [same] at closed more
      by_cases doubled : d = quote
      · rw [doubled] at closed more
        exact not_closedWhole_cons (closedWhole_doubled_iff.mp closed) (closedWhole_doubled_iff.mp more)
      · cases eq_nil_of_closedWhole closed (by simpa using doubled)
    · cases eq_nil_of_closedWhole more (by simpa using same)

theorem last_of_closedWhole : ∀ {text : Text}, ClosedWhole quote text → ∃ front, text = front ++ [quote]
  | [], closed => absurd closed not_closedWhole_nil
  | [c], closed => by
    by_cases same : c = quote
    · exact ⟨[], by rw [same]; rfl⟩
    · exact absurd ((closedWhole_cons_iff same).mp closed) not_closedWhole_nil
  | c :: d :: rest, closed => by
    by_cases same : c = quote
    · rw [same] at closed
      by_cases doubled : d = quote
      · rw [doubled] at closed
        obtain ⟨front, split⟩ := last_of_closedWhole (closedWhole_doubled_iff.mp closed)
        exact ⟨c :: d :: front, by rw [split]; rfl⟩
      · cases eq_nil_of_closedWhole closed (by simpa using doubled)
    · obtain ⟨front, split⟩ := last_of_closedWhole ((closedWhole_cons_iff same).mp closed)
      exact ⟨c :: front, by rw [split]; rfl⟩

theorem closedWhole_of_closeQuote? {text body rest : Text} (closed : closeQuote? quote text = some (body, rest)) :
    ClosedWhole quote body := by
  have again := (closeQuote?_split closed).2 [] (clear_nil _)
  rw [List.append_nil] at again
  exact again

theorem last_of_rawQuoted {text written rest : Text} (done : rawQuoted quote text = .done written rest) :
    ∃ front, written = front ++ [quote] := by
  obtain ⟨body, inside, rfl, -, closed⟩ := rawQuoted_eq_done_iff.mp done
  obtain ⟨front, rfl⟩ := last_of_closedWhole (closedWhole_of_closeQuote? closed)
  exact ⟨quote :: front, rfl⟩

/-! ## Names and types -/

/-- A text in quotes, or a word. -/
inductive NameForm (text : Text) : Prop where
  | quoted (body : Text) (split : text = '"' :: body) (closed : ClosedWhole '"' body)
  | word (some_ : text ≠ []) (all : ∀ c ∈ text, isWordChar c)

theorem nameForm_of_rawQuoted {text written rest : Text} (done : rawQuoted '"' text = .done written rest) :
    NameForm written := by
  obtain ⟨body, inside, rfl, rfl, closed⟩ := rawQuoted_eq_done_iff.mp done
  exact .quoted body rfl (closedWhole_of_closeQuote? closed)

theorem nameForm_of_rawWord {text written rest : Text} (done : rawWord text = .done written rest) :
    NameForm written := by
  obtain ⟨rfl, -, c, more, rfl, start⟩ := rawWord_eq_done_iff.mp done
  refine .word ?_ (List.all_eq_true.mp List.all_takeWhile)
  rw [List.takeWhile_cons_of_pos (isWordChar_of_isWordStart start)]
  simp

theorem nameForm_of_identifier {text name rest : Text} (done : identifier text = .done name rest) : NameForm name := by
  rcases identifier_eq_done_iff.mp done with read | read
  · obtain ⟨mid, raw, -⟩ := lexeme_eq_done_iff.mp read
    exact nameForm_of_rawQuoted raw
  · obtain ⟨mid, raw, -⟩ := lexeme_eq_done_iff.mp (bareName_eq_done_iff.mp read).1
    exact nameForm_of_rawWord raw

/-- A type is a word or a quoted name, with brackets right behind it or without. -/
theorem exists_of_typeName {text type rest : Text} (done : typeName text = .done type rest) :
    ∃ name mid, (rawWord text = .done name mid ∨ rawQuoted '"' text = .done name mid) ∧
      (type = name ∧ rest = skipLayout mid ∨ type = name ++ ['[', ']'] ∧ ∃ more, mid = '[' :: ']' :: more) := by
  obtain ⟨behind, raw, rfl⟩ := lexeme_eq_done_iff.mp done
  obtain ⟨name, mid, nameRead, raw⟩ := bind_eq_done_iff.mp raw
  obtain ⟨brackets?, afterBrackets, bracketsRead, built⟩ := bind_eq_done_iff.mp raw
  cases built
  refine ⟨name, mid, done_of_firstOf_pair nameRead, ?_⟩
  rcases optional_eq_done_iff.mp bracketsRead with ⟨brackets, read, rfl⟩ | ⟨-, rfl, rfl⟩
  · obtain ⟨rfl, rfl⟩ := exactly_eq_done_iff.mp read
    exact .inr ⟨rfl, behind, rfl⟩
  · exact .inl ⟨by rw [Option.getD_none, List.append_nil], rfl⟩

/-- A type is a name, with brackets behind it or without. -/
theorem form_of_typeName {text type rest : Text} (done : typeName text = .done type rest) :
    NameForm type ∨ ∃ front, type = front ++ [']'] := by
  obtain ⟨name, mid, read, ⟨rfl, -⟩ | ⟨rfl, -⟩⟩ := exists_of_typeName done
  · exact .inl (read.elim nameForm_of_rawWord nameForm_of_rawQuoted)
  · exact .inr ⟨name ++ ['['], by simp⟩

/-! ## The character in front -/

theorem NameForm.last {text : Text} (form : NameForm text) :
    ∃ front c, text = front ++ [c] ∧ (isWordChar c ∨ c = '"') := by
  cases form with
  | quoted body split closed =>
    obtain ⟨front, rfl⟩ := last_of_closedWhole closed
    exact ⟨'"' :: front, '"', split, .inr rfl⟩
  | word some_ all =>
    refine ⟨text.dropLast, text.getLast some_, (List.dropLast_concat_getLast some_).symm, .inl ?_⟩
    exact all _ (List.getLast_mem some_)

theorem NameForm.not_suffix_brackets {text : Text} (form : NameForm text) : ¬['[', ']'] <:+ text := by
  rintro ⟨before, rfl⟩
  obtain ⟨front, c, same, inName⟩ := form.last
  have last : ']' = c := by simpa using congrArg List.getLast? same
  subst last
  exact absurd inName (by decide)

/-- No text in quotes ends in another one behind a character. -/
theorem quoted_ne_append {body other front : Text} {d : Char} (closed : ClosedWhole '"' body)
    (closed' : ClosedWhole '"' other) (apart : d ≠ '"') : '"' :: body ≠ front ++ d :: '"' :: other := by
  intro same
  cases front with
  | nil =>
    cases same
    exact apart rfl
  | cons e front =>
    cases same
    exact not_closedWhole_cons closed' (closedWhole_behind apart front closed)

theorem eq_of_quoted {body other first second : Text} {c d : Char} (closed : ClosedWhole '"' body)
    (closed' : ClosedWhole '"' other) (apart : c ≠ '"') (apart' : d ≠ '"')
    (same : first ++ c :: '"' :: body = second ++ d :: '"' :: other) : c = d := by
  rcases List.append_eq_append_iff.mp same with ⟨between, -, split⟩ | ⟨between, -, split⟩
  · cases between with
    | nil => exact (List.cons.inj split).1
    | cons e between => exact absurd (List.cons.inj split).2 (quoted_ne_append closed closed' apart')
  · cases between with
    | nil => exact (List.cons.inj split).1.symm
    | cons e between => exact absurd (List.cons.inj split).2 (quoted_ne_append closed' closed apart)

theorem eq_of_words {left right first second : Text} {c d : Char} (all : ∀ e ∈ left, isWordChar e)
    (all' : ∀ e ∈ right, isWordChar e) (apart : isWordChar c = false) (apart' : isWordChar d = false)
    (same : first ++ c :: left = second ++ d :: right) : c = d := by
  have drop (front : Text) {run : Text} {e : Char} (word : ∀ e ∈ run, isWordChar e) (stop : isWordChar e = false) :
      (front ++ e :: run).reverse.dropWhile isWordChar = e :: front.reverse := by
    have inReverse : ∀ e ∈ run.reverse, isWordChar e := fun e member => word e (List.mem_reverse.mp member)
    rw [List.reverse_append, List.reverse_cons, List.append_assoc]
    exact dropWhile_append_of_clear inReverse (clear_cons.mpr stop)
  have reversed := drop first all apart
  rw [same, drop second all' apart'] at reversed
  exact (List.cons.inj reversed).1.symm

/-- A word and a text in quotes end in different characters. -/
theorem word_ne_quoted {word body first second : Text} (some_ : word ≠ []) (all : ∀ e ∈ word, isWordChar e)
    (closed : ClosedWhole '"' body) : first ++ word ≠ second ++ body := by
  intro same
  obtain ⟨front, rfl⟩ := last_of_closedWhole closed
  rw [← List.dropLast_concat_getLast some_, ← List.append_assoc, ← List.append_assoc] at same
  have last := (List.append_inj' same rfl).2
  have inWord := all _ (List.getLast_mem some_)
  rw [List.singleton_inj.mp last] at inWord
  exact absurd inWord (by decide)

/-- A text ends in a name behind one character that is neither of a word nor a quote. -/
theorem NameForm.front_unique {left right first second : Text} {c d : Char} (form : NameForm left)
    (other : NameForm right)
    (apart : isWordChar c = false ∧ c ≠ '"') (apart' : isWordChar d = false ∧ d ≠ '"')
    (same : first ++ c :: left = second ++ d :: right) : c = d := by
  cases form with
  | word some_ all =>
    cases other with
    | word _ all' => exact eq_of_words all all' apart.1 apart'.1 same
    | quoted body split closed =>
      rw [split, List.append_cons first, List.append_cons second, List.append_cons (second ++ [d])] at same
      exact absurd same (word_ne_quoted some_ all closed)
  | quoted body split closed =>
    cases other with
    | word some_ all =>
      rw [split, List.append_cons first, List.append_cons (first ++ [c]), List.append_cons second] at same
      exact absurd same.symm (word_ne_quoted some_ all closed)
    | quoted body' split' closed' =>
      rw [split, split'] at same
      exact eq_of_quoted closed closed' apart.2 apart'.2 same

/-! ## Numbers -/

section Numbers

variable {text written rest : Text}

theorem space_not_mem_digits (done : digits text = .done written rest) : ' ' ∉ written := by
  obtain ⟨rfl, -, -⟩ := digits_eq_done_iff.mp done
  intro member
  exact absurd (List.all_eq_true.mp List.all_takeWhile ' ' member) (by decide)

theorem space_not_mem_fraction (done : fraction text = .done written rest) : ' ' ∉ written := by
  obtain ⟨point, afterPoint, pointRead, done⟩ := bind_eq_done_iff.mp done
  obtain ⟨places, afterPlaces, placesRead, done⟩ := bind_eq_done_iff.mp done
  cases done
  obtain ⟨rfl, -⟩ := exactly_eq_done_iff.mp pointRead
  simp [space_not_mem_digits placesRead]

theorem space_not_mem_exponent (done : exponent text = .done written rest) : ' ' ∉ written := by
  obtain ⟨mark, afterMark, markRead, done⟩ := bind_eq_done_iff.mp done
  obtain ⟨sign?, afterSign, signRead, done⟩ := bind_eq_done_iff.mp done
  obtain ⟨power, afterPower, powerRead, done⟩ := bind_eq_done_iff.mp done
  cases done
  have mark_ : ' ' ∉ mark := by
    obtain ⟨c, member, rfl, -⟩ := oneOf_eq_done_iff.mp markRead
    simp only [List.mem_cons, List.not_mem_nil, or_false] at member
    rcases member with rfl | rfl <;> decide
  have sign_ : ' ' ∉ sign?.getD [] := by
    rcases optional_eq_done_iff.mp signRead with ⟨sign, read, rfl⟩ | ⟨-, rfl, -⟩
    · obtain ⟨c, member, rfl, -⟩ := oneOf_eq_done_iff.mp read
      simp only [List.mem_cons, List.not_mem_nil, or_false] at member
      rcases member with rfl | rfl <;> decide
    · decide
  simp [mark_, sign_, space_not_mem_digits powerRead]

theorem space_not_mem_optional {raw : Reader Text} {part? : Option Text}
    (spaceless : ∀ {text written rest}, raw text = .done written rest → ' ' ∉ written)
    (done : optional raw text = .done part? rest) : ' ' ∉ part?.getD [] := by
  rcases optional_eq_done_iff.mp done with ⟨part, read, rfl⟩ | ⟨-, rfl, -⟩
  · exact spaceless read
  · decide

theorem space_not_mem_rawNumber (done : rawNumber text = .done written rest) : ' ' ∉ written := by
  rcases done_of_firstOf_pair done with read | read
  · obtain ⟨whole, afterWhole, wholeRead, read⟩ := bind_eq_done_iff.mp read
    obtain ⟨part?, afterPart, partRead, read⟩ := bind_eq_done_iff.mp read
    obtain ⟨power?, afterPower, powerRead, built⟩ := bind_eq_done_iff.mp read
    cases built
    simp [space_not_mem_digits wholeRead, space_not_mem_optional space_not_mem_fraction partRead,
      space_not_mem_optional space_not_mem_exponent powerRead]
  · obtain ⟨part, afterPart, partRead, read⟩ := bind_eq_done_iff.mp read
    obtain ⟨power?, afterPower, powerRead, built⟩ := bind_eq_done_iff.mp read
    cases built
    simp [space_not_mem_fraction partRead, space_not_mem_optional space_not_mem_exponent powerRead]

end Numbers

end Reader

open Reader

/-! ## Aliases -/

section Aliases

variable {column text front : Text} (form : NameForm column)

include form

/-- A text that ends in a character that ends no name ends in no name. -/
theorem not_alias_of_last {c : Char} (apart : isWordChar c = false ∧ c ≠ '"') :
    ¬(" AS " ++ column : Text) <:+ front ++ [c] := by
  rintro ⟨before, same⟩
  obtain ⟨name, d, rfl, ends⟩ := form.last
  rw [← List.append_assoc, ← List.append_assoc] at same
  have last := (List.append_inj' same rfl).2
  rw [List.singleton_inj.mp last] at ends
  rcases ends with word | quote
  · rw [apart.1] at word
    cases word
  · exact apart.2 quote

theorem not_alias_of_cast {type : Text} (typeForm : NameForm type ∨ ∃ front, type = front ++ [']']) :
    ¬(" AS " ++ column : Text) <:+ text ++ "::" ++ type := by
  rcases typeForm with named | ⟨front, rfl⟩
  · rintro ⟨before, same⟩
    have colons : text ++ "::" ++ type = (text ++ [':']) ++ ':' :: type := by
      rw [List.append_assoc, List.append_assoc]
      rfl
    have spaced : before ++ (" AS " ++ column) = (before ++ [' ', 'A', 'S']) ++ ' ' :: column := by
      rw [List.append_assoc]
      rfl
    rw [colons, spaced] at same
    exact absurd (form.front_unique named (by decide) (by decide) same) (by decide)
  · rw [← List.append_assoc]
    exact not_alias_of_last form (by decide)

omit form in
theorem not_alias_of_spaceless (spaceless : ' ' ∉ text) : ¬(" AS " ++ column : Text) <:+ text := by
  intro ends
  exact spaceless (ends.subset (by simp))

/-- No written atom ends in an alias. -/
theorem Expr.not_alias_text {atom : Expr} (isAtom : atom.IsAtom) (read : AllRead atom.lexemes) :
    ¬(" AS " ++ column : Text) <:+ atom.text := by
  cases isAtom with
  | placeholder => exact not_alias_of_spaceless (by decide)
  | literal written =>
    obtain ⟨start, rest, reads⟩ := (allRead_cons.mp read).1
    obtain ⟨found, same, isRead⟩ := isReadAs_of_readLiteral reads
    cases same
    cases isRead with
    | word kind keyword names spelled ends =>
      apply not_alias_of_spaceless
      intro member
      exact absurd (List.all_eq_true.mp List.all_takeWhile ' ' member) (by decide)
    | number written done =>
      obtain ⟨mid, raw, -⟩ := lexeme_eq_done_iff.mp done
      exact not_alias_of_spaceless (space_not_mem_rawNumber raw)
    | string written done =>
      obtain ⟨mid, raw, -⟩ := lexeme_eq_done_iff.mp done
      obtain ⟨front, rfl⟩ := last_of_rawQuoted raw
      exact not_alias_of_last form (by decide)
  | call name each => exact not_alias_of_last form (by decide)
  | nested atom => exact not_alias_of_last form (by decide)
  | cast type atom =>
    obtain ⟨start, rest, reads⟩ := (allRead_cons.mp (allRead_cons.mp (allRead_append.mp read).2).2).1
    exact not_alias_of_cast form (form_of_typeName reads)

end Aliases

end BulkSql
