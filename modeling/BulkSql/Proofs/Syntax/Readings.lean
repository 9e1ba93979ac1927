import BulkSql.Proofs.Syntax.RoundTrip
import BulkSql.Proofs.Syntax.Tokens

/-! # Two readings of one text

A text may spell several sequences of lexemes, since a word may be a name or a type and a constant may be a keyword.
The tokens are the same whichever it is read as, and these tokens with spaces between them spell each of the sequences
again.
-/

namespace BulkSql

open Reader

namespace Lexeme

variable {lexeme : Lexeme} {first second : List Lexeme} {text rest : Text}

/-- One token may be either of two lexemes. -/
def Alike (lexeme other : Lexeme) : Prop := ∃ kind written, lexeme.IsToken kind written ∧ other.IsToken kind written

/-! ## Tokens of both readings -/

/-- What is read first of lexemes of the grammar is the first token, unless it is a type of arrays. -/
theorem Regular.isFirst (regular : Regular (lexeme :: first)) (spells : Spells (lexeme :: first) text rest) :
    ∃ mid, lexeme.Reads text mid ∧ Spells first mid rest ∧ Regular first ∧
      (¬lexeme.IsArray ∧ Token.IsFirst lexeme text mid ∨
        lexeme.IsArray ∧ ∃ token more, Token.read text = .done token ('[' :: ']' :: more)) := by
  obtain ⟨mid, reads, spells⟩ := spells
  refine ⟨mid, reads, spells, ?_⟩
  cases regular with
  | mark member regular => exact ⟨regular, .inl ⟨id, Token.isFirst_mark member reads⟩⟩
  | dot name regular =>
    obtain ⟨behind, named, -⟩ := spells
    exact ⟨.name name regular, .inl ⟨id, Token.isFirst_dot reads named⟩⟩
  | wordy wordy regular => exact ⟨regular, Token.isFirst_of_reads wordy reads⟩

/-- Where no token is, there is no lexeme. -/
theorem Regular.eq_nil (regular : Regular first) (fails : Fails Token.read text) (spells : Spells first text rest) :
    first = [] := by
  obtain ⟨why, failed⟩ := fails
  cases first with
  | nil => rfl
  | cons lexeme first =>
    obtain ⟨mid, _, _, _, ⟨_, kind, written, done, _⟩ | ⟨_, token, more, done⟩⟩ := regular.isFirst spells
    · cases done.symm.trans failed
    · cases done.symm.trans failed

/-- Of two readings of a text the longer one starts like the other. -/
theorem Regular.alike (regular : Regular first) (regular' : Regular second) (spells : Spells first text rest)
    (whole : Spells second text []) (closed : rest.head? ≠ some '[') :
    ∃ front back, second = front ++ back ∧ List.Forall₂ Alike first front ∧ Regular back ∧ Spells back rest [] := by
  induction first generalizing second text with
  | nil =>
    obtain rfl : text = rest := spells
    exact ⟨[], second, rfl, .nil, regular', whole⟩
  | cons lexeme first ih =>
    cases second with
    | nil =>
      obtain rfl : text = [] := whole
      cases regular.eq_nil Token.fails_read_nil spells
    | cons other second =>
      obtain ⟨mid, reads, spells, regular, isFirst⟩ := regular.isFirst spells
      obtain ⟨mid', reads', whole, regular', isFirst'⟩ := regular'.isFirst whole
      have same : mid = mid' ∧ Alike lexeme other := by
        rcases isFirst with ⟨-, kind, written, done, isToken⟩ | ⟨array, token, more, done⟩
        · rcases isFirst' with ⟨-, kind', written', done', isToken'⟩ | ⟨-, token, more, done'⟩
          · cases done.symm.trans done'
            exact ⟨rfl, kind, written, isToken, isToken'⟩
          · -- a type of arrays leaves nothing that the other reading could go on with
            cases done.symm.trans done'
            cases regular.eq_nil (Token.fails_read_bracket (']' :: more)) spells
            obtain rfl : '[' :: ']' :: more = rest := spells
            exact absurd rfl closed
        · obtain ⟨type, rfl⟩ := array.exists_type
          rcases isFirst' with ⟨-, kind', written', done', isToken'⟩ | ⟨array', -, -, -⟩
          · cases done'.symm.trans done
            cases regular'.eq_nil (Token.fails_read_bracket (']' :: more)) whole
            cases whole
          · obtain ⟨type', rfl⟩ := array'.exists_type
            obtain ⟨rfl, rfl⟩ := Reply.done.inj (reads.symm.trans reads')
            exact ⟨rfl, .identifier, type, ⟨.inl rfl, rfl⟩, ⟨.inl rfl, rfl⟩⟩
      obtain ⟨rfl, alike⟩ := same
      obtain ⟨front, back, rfl, alikeMore, more⟩ := ih regular regular' spells whole
      exact ⟨other :: front, back, rfl, .cons alike alikeMore, more⟩

/-! ## Marks -/

theorem Regular.mem_marks (regular : Regular first) {symbol : Text} (member : .symbol symbol ∈ first) :
    symbol ∈ ['.'] :: marks := by
  induction regular with
  | nil => cases member
  | mark mark _ ih =>
    rcases List.mem_cons.mp member with same | member
    · cases same
      exact List.mem_cons_of_mem _ mark
    · exact ih member
  | dot name _ ih =>
    rcases List.mem_cons.mp member with same | member
    · cases same
      exact List.mem_cons_self ..
    · exact ih ((List.mem_cons.mp member).resolve_left nofun)
  | wordy wordy _ ih => exact ih ((List.mem_cons.mp member).resolve_left fun same => wordy symbol same.symm)

/-- No lexeme of a statement is a semicolon. -/
theorem eq_nil_of_endsText {lexemes : List Lexeme} (regular : Regular lexemes) {rest : Text}
    (ends : Statement.EndsText rest) (spells : Spells lexemes rest []) : lexemes = [] := by
  rcases ends with rfl | semicolon
  · exact regular.eq_nil Token.fails_read_nil spells
  · obtain ⟨-, mid, rfl, skipped⟩ := symbol_eq_done_iff.mp semicolon
    have done := Token.read_semicolon mid
    cases lexemes with
    | nil => rfl
    | cons lexeme lexemes =>
      obtain ⟨behind, _, _, _, ⟨_, kind, written, found, isToken⟩ | ⟨_, token, more, found⟩⟩ := regular.isFirst spells
      · cases done.symm.trans found
        cases lexeme with
        | symbol mark =>
          have member := regular.mem_marks (List.mem_cons_self ..)
          rw [← isToken.2] at member
          exact absurd member (by decide)
        | literal written =>
          obtain ⟨kind, text⟩ := written
          cases kind <;> cases isToken.1
        | type => rcases isToken.1 with other | other <;> cases other
        | placeholder | name | comparison | keyword => cases isToken.1
      · rw [← skipped] at done
        cases done.symm.trans found

/-! ## Tokens with spaces between -/

/-- A lexeme is read where one of its tokens is written. -/
theorem reads_of_isToken {kind : TokenKind} {written : Text} (isToken : lexeme.IsToken kind written)
    (read : lexeme.IsRead) {after : Text} (clear : Clear lexeme.goesOn after) :
    lexeme.Reads (written ++ after) (skipLayout after) := by
  obtain ⟨text, rest, reads⟩ := read
  have again := reads.again clear
  cases lexeme with
  | placeholder | literal | name | type | symbol =>
    rw [isToken.2]
    exact again
  | comparison op =>
    rcases isToken.2 with rfl | ⟨rfl, rfl⟩
    · exact again
    · exact Token.comparisonOperator_pair '<' '>' (by simp [Expr.comparisonSpellings]) after
  | keyword wanted =>
    have spelled := Keyword.lookup?_eq_some_iff.mpr isToken.2
    have word := Keyword.isWordChar_of_lookup? spelled
    refine keyword_eq_done_iff.mpr ⟨?_, ?_⟩
    · rw [leadWord_append word clear, spelled]
    · rw [dropWhile_append_of_clear word clear]

theorem writtenAs_of_isToken {kind : TokenKind} {written : Text} (isToken : lexeme.IsToken kind written)
    (read : lexeme.IsRead) (marked : ∀ symbol, lexeme = .symbol symbol → symbol ∈ ['.'] :: marks) :
    WrittenAs [lexeme] written := by
  by_cases wordy : ∀ symbol, lexeme ≠ .symbol symbol
  · intro after ends
    have reads := reads_of_isToken isToken read (ends.clear_goesOn lexeme)
    rw [skipLayout_of_startsBare (reads.startsBare wordy)]
    exact spells_singleton_iff.mpr reads
  · obtain ⟨symbol, same⟩ := not_forall_not.mp wordy
    have member := marked symbol same
    subst same
    rw [isToken.2]
    exact writtenAs_mark member

/-- Sequences with the same tokens are spelled by one text. -/
theorem exists_writtenAs (alike : List.Forall₂ Alike first second) (regular : Regular first) (read : AllRead first)
    (regular' : Regular second) (read' : AllRead second) :
    ∃ text, WrittenAs first text ∧ WrittenAs second text := by
  have marked : ∀ symbol, .symbol symbol ∈ first → symbol ∈ ['.'] :: marks := fun _ => regular.mem_marks
  have marked' : ∀ symbol, .symbol symbol ∈ second → symbol ∈ ['.'] :: marks := fun _ => regular'.mem_marks
  clear regular regular'
  induction alike with
  | nil => exact ⟨[], fun after _ => rfl, fun after _ => rfl⟩
  | @cons lexeme other first second both _ ih =>
    obtain ⟨kind, written, isToken, isToken'⟩ := both
    obtain ⟨one, more⟩ := allRead_cons.mp read
    obtain ⟨one', more'⟩ := allRead_cons.mp read'
    obtain ⟨text, firstWritten, secondWritten⟩ := ih more more'
      (fun symbol member => marked symbol (List.mem_cons_of_mem _ member))
      fun symbol member => marked' symbol (List.mem_cons_of_mem _ member)
    have head := writtenAs_of_isToken isToken one fun symbol same => marked symbol (List.mem_cons.mpr (.inl same.symm))
    have head' := writtenAs_of_isToken isToken' one' fun symbol same =>
      marked' symbol (List.mem_cons.mpr (.inl same.symm))
    exact ⟨written ++ ' ' :: text, head.spaced firstWritten, head'.spaced secondWritten⟩

end Lexeme

end BulkSql
