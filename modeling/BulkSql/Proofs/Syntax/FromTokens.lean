import BulkSql.Proofs.Syntax.Scans

/-! # Lexemes from tokens

Every token is read as each lexeme that it may be, whatever layout stands behind it. So the tokens of a text decide
which lexemes it spells, and thereby which statement it is parsed as.
-/

namespace BulkSql

open Reader

namespace Expr

/-- Where one of some operators stands, one of them is read. -/
theorem exists_operator {α : Type} {spellings : List (Text × α)} {written : Text} {op : α}
    (member : (written, op) ∈ spellings) (mid : Text) :
    ∃ found rest,
      firstOf (spellings.map fun spelling => operator spelling.1 spelling.2) (written ++ mid) = .done found rest := by
  induction spellings with
  | nil => cases member
  | cons first spellings ih =>
    by_cases here : first.1 <+: written ++ mid
    · obtain ⟨behind, split⟩ := here
      have done : operator first.1 first.2 (written ++ mid) = .done first.2 (skipLayout behind) :=
        operator_eq_done_iff.mpr ⟨rfl, behind, split.symm, rfl⟩
      exact ⟨_, _, firstOf_of_done done⟩
    · have later : (written, op) ∈ spellings := by
        refine (List.mem_cons.mp member).resolve_left ?_
        rintro rfl
        exact here (List.prefix_append ..)
      obtain ⟨found, rest, done⟩ := ih later
      exact ⟨found, rest, firstOf_of_missing here done⟩

theorem mem_comparisonSpellings_iff {written : Text} {op : ComparisonOp} :
    (written, op) ∈ comparisonSpellings ↔ written = op.text ∨ op = .notEqual ∧ written = ['<', '>'] := by
  cases op <;> simp [comparisonSpellings, ComparisonOp.text]

/-- No two comparisons are written alike. -/
theorem comparison_unique {written : Text} {op other : ComparisonOp} (member : (written, op) ∈ comparisonSpellings)
    (member' : (written, other) ∈ comparisonSpellings) : op = other := by
  have apart : ∀ spelling ∈ comparisonSpellings, ∀ spelling' ∈ comparisonSpellings,
      spelling.1 = spelling'.1 → spelling.2 = spelling'.2 := by decide
  exact apart _ member _ member' rfl

end Expr

namespace Token

variable {text written rest : Text} {kind : TokenKind}

theorem eq_leadWord_of_word (done : word text = .done written rest) :
    written = leadWord text ∧ rest = skipLayout (text.dropWhile isWordChar) := by
  obtain ⟨mid, raw, rfl⟩ := lexeme_eq_done_iff.mp done
  obtain ⟨rfl, rfl, -⟩ := rawWord_eq_done_iff.mp raw
  exact ⟨rfl, rfl⟩

/-- A word or a quoted name is read as a type up to its brackets. -/
theorem typeStem_of_comes (comes : Comes kind text written rest) (names : kind = .identifier ∨ kind = .keyword) :
    ∃ mid, firstOf [rawWord, rawQuoted '"'] text = .done written mid ∧ rest = skipLayout mid := by
  have ofWord (isWord : word text = .done written rest) :
      ∃ mid, firstOf [rawWord, rawQuoted '"'] text = .done written mid ∧ rest = skipLayout mid := by
    obtain ⟨mid, raw, left⟩ := lexeme_eq_done_iff.mp isWord
    exact ⟨mid, firstOf_of_done raw, left⟩
  rcases names with rfl | rfl
  · rcases identifier_eq_done_iff.mp comes with quoted | bare
    · obtain ⟨mid, raw, left⟩ := lexeme_eq_done_iff.mp quoted
      obtain ⟨body, inside, -, rfl, -⟩ := rawQuoted_eq_done_iff.mp raw
      have noWord : Fails rawWord ('"' :: inside) := fails_rawWord (clear_cons.mpr (by decide))
      exact ⟨mid, firstOf_of_fails noWord (firstOf_of_done raw), left⟩
    · exact ofWord (bareName_eq_done_iff.mp bare).1
  · exact ofWord comes.1

theorem typeName_of_comes (comes : Comes kind text written rest) (names : kind = .identifier ∨ kind = .keyword)
    (open_ : rest.head? ≠ some '[') : typeName text = .done written rest := by
  obtain ⟨mid, raw, rfl⟩ := typeStem_of_comes comes names
  have noBrackets : Fails (exactly ['[', ']']) mid := by
    apply fails_exactly
    rintro ⟨more, rfl⟩
    apply open_
    rw [skipLayout_of_startsBare (by simp [StartsBare, isSpace])]
    rfl
  refine lexeme_eq_done_iff.mpr ⟨mid, (bind_of_done raw _).trans ?_, rfl⟩
  refine (bind_of_done (optional_of_fails noBrackets) _).trans ?_
  rw [Option.getD_none, List.append_nil]
  rfl

/-- The comparison of a token is read there, since the token is the longest operator. -/
theorem comparisonOperator_of_read {op : ComparisonOp} (done : read text = .done (.operator, written) rest)
    (spelled : (written, op) ∈ Expr.comparisonSpellings) : Expr.comparisonOperator text = .done op rest := by
  obtain ⟨mid, rfl, -, -⟩ := stands_of_read done
  obtain ⟨found, behind, compared⟩ := Expr.exists_operator spelled mid
  obtain ⟨longest, again, names⟩ := read_comparison compared
  cases done.symm.trans again
  obtain rfl := Expr.comparison_unique spelled (Expr.mem_comparisonSpellings_iff.mpr names)
  exact compared

end Token

namespace Lexeme

/-- A lexeme is read where one of its tokens stands, in front of anything but a bracket. -/
theorem reads_of_read {lexeme : Lexeme} (isRead : lexeme.IsRead) {kind : TokenKind} {text written rest : Text}
    (isToken : lexeme.IsToken kind written) (done : Token.read text = .done (kind, written) rest)
    (open_ : rest.head? ≠ some '[') : lexeme.Reads text rest := by
  have comes := Token.comes_of_read done
  cases lexeme with
  | placeholder =>
    obtain ⟨rfl, rfl⟩ := isToken
    obtain ⟨-, mid, split, left⟩ := symbol_eq_done_iff.mp comes
    exact Expr.readPlaceholder_eq_done_iff.mpr ⟨rfl, mid, split, left⟩
  | literal constant =>
    obtain ⟨rfl, rfl⟩ := isToken
    obtain ⟨kind, written⟩ := constant
    apply Expr.readLiteral_of_isReadAs
    have form : Literal.HasForm ⟨kind, written⟩ := isRead_iff_hasForm.mp isRead
    cases kind with
    | boolean =>
      obtain ⟨rfl, left⟩ := Token.eq_leadWord_of_word comes.1
      rcases List.mem_cons.mp form with upper | member
      · exact .word .boolean .TRUE (.inl ⟨rfl, .inl rfl⟩) (Keyword.lookup?_eq_some_iff.mpr upper) left
      · have upper := Keyword.lookup?_eq_some_iff.mpr (List.mem_singleton.mp member)
        exact .word .boolean .FALSE (.inl ⟨rfl, .inr rfl⟩) upper left
    | null =>
      obtain ⟨rfl, left⟩ := Token.eq_leadWord_of_word comes.1
      exact .word .null .NULL (.inr ⟨rfl, rfl⟩) (Keyword.lookup?_eq_some_iff.mpr form) left
    | number => exact .number written comes
    | string => exact .string written comes
  | name name =>
    obtain ⟨rfl, rfl⟩ := isToken
    exact comes
  | type type =>
    obtain ⟨names, rfl⟩ := isToken
    exact Token.typeName_of_comes comes names open_
  | symbol symbol =>
    obtain ⟨rfl | rfl, rfl⟩ := isToken
    · exact comes.2
    · exact comes.2
  | comparison op =>
    obtain ⟨rfl, names⟩ := isToken
    exact Token.comparisonOperator_of_read done (Expr.mem_comparisonSpellings_iff.mpr names)
  | keyword keyword =>
    obtain ⟨rfl, upper⟩ := isToken
    obtain ⟨rfl, left⟩ := Token.eq_leadWord_of_word comes.1
    exact keyword_eq_done_iff.mpr ⟨Keyword.lookup?_eq_some_iff.mpr upper, left⟩

end Lexeme

/-! ## Cuts -/

namespace Token

variable {whole text rest : Text} {token : Token} {tokens : List Token}

/-- The first token of a list was read where the text starts, and the others are cut from the rest. -/
theorem read_of_listFrom (cut : listFrom whole text = .ok (token :: tokens)) :
    token.position = Text.offsetOf whole text ∧
      ∃ rest, read text = .done (token.kind, token.text) rest ∧ listFrom whole rest = .ok tokens := by
  rw [listFrom] at cut
  split at cut
  · cases cut
  · split at cut
    · next kind written rest done =>
      split at cut
      · split at cut
        · next more cutMore =>
          cases cut
          exact ⟨rfl, rest, done, cutMore⟩
        · cases cut
      · cases cut
    · cases cut

theorem eq_nil_of_listFrom (cut : listFrom whole text = .ok []) : text = [] := by
  cases text with
  | nil => rfl
  | cons c text =>
    rw [listFrom, List.isEmpty_cons, if_neg Bool.false_ne_true] at cut
    split at cut
    · split at cut
      · split at cut
        · cases cut
        · cases cut
      · cases cut
    · cases cut

/-- What a text is cut into starts with no bracket. -/
theorem head?_ne_bracket (cut : listFrom whole text = .ok tokens) : text.head? ≠ some '[' := by
  intro here
  obtain ⟨more, rfl⟩ := List.head?_eq_some_iff.mp here
  exact listFrom_bracket more cut

/-- The kind and the text of a token, without its place. -/
def content (token : Token) : TokenKind × Text := (token.kind, token.text)

/-- The token at the start of a text is the first that it is cut into. -/
theorem at?_zero_of_tokenize {sql : Text} (cut : tokenize sql = .ok tokens) : at? sql 0 = tokens.head? := by
  unfold at?
  rw [Text.fromOffset?]
  dsimp only
  cases tokens with
  | nil =>
    rw [eq_nil_of_listFrom cut]
    rfl
  | cons token tokens =>
    obtain ⟨place, rest, done, -⟩ := read_of_listFrom cut
    have some_ : (skipLayout sql).isEmpty = false := by
      apply Bool.eq_false_iff.mpr
      intro empty
      rw [List.isEmpty_iff.mp empty] at done
      exact fails_read_nil.not_done done
    rw [some_, done, ← place]
    rfl

end Token

/-- Tokens are told to be lexemes by what they contain. -/
theorem AreTokens.congr {lexemes : List Lexeme} {tokens tokens' : List Token} (are : AreTokens lexemes tokens)
    (same : tokens.map Token.content = tokens'.map Token.content) : AreTokens lexemes tokens' := by
  have contents : List.Forall₂ (fun (lexeme : Lexeme) content => lexeme.IsToken content.1 content.2) lexemes
      (tokens.map Token.content) := List.forall₂_map_right_iff.mpr are
  rw [same] at contents
  exact List.forall₂_map_right_iff.mp contents

/-- A text that is cut into tokens of lexemes spells them. -/
theorem spells_of_areTokens {lexemes : List Lexeme} {front : List Token} (are : AreTokens lexemes front)
    (read : AllRead lexemes) {whole text : Text} {back : List Token}
    (cut : Token.listFrom whole text = .ok (front ++ back)) :
    ∃ rest, Spells lexemes text rest ∧ Token.listFrom whole rest = .ok back := by
  induction are generalizing text with
  | nil => exact ⟨text, rfl, cut⟩
  | cons isToken _ ih =>
    obtain ⟨one, more⟩ := allRead_cons.mp read
    obtain ⟨-, mid, done, cutMore⟩ := Token.read_of_listFrom cut
    obtain ⟨rest, spelled, cutBack⟩ := ih more cutMore
    exact ⟨rest, ⟨mid, Lexeme.reads_of_read one isToken done (Token.head?_ne_bracket cutMore), spelled⟩, cutBack⟩

/-- No token and a semicolon are what ends a text. -/
theorem endsText_of_tokens {whole rest : Text} {back : List Token} (cut : Token.listFrom whole rest = .ok back)
    (last : back.map Token.content = [] ∨ back.map Token.content = [(.punctuation, [';'])]) :
    Statement.EndsText rest := by
  rcases last with none_ | semicolon
  · rw [List.map_eq_nil_iff.mp none_] at cut
    exact .inl (Token.eq_nil_of_listFrom cut)
  · obtain ⟨⟨kind, written, position⟩, same, one⟩ := List.map_eq_singleton_iff.mp semicolon
    cases one
    rw [same] at cut
    obtain ⟨-, left, done, nothing⟩ := Token.read_of_listFrom cut
    rw [Token.eq_nil_of_listFrom nothing] at done
    exact .inr (Token.comes_of_read done).2

end BulkSql
