import BulkSql.Proofs.Syntax.Readings
import BulkSql.Proofs.Syntax.Scans

/-! # What the cut covers of the grammar

Each lexeme of a statement is one token, except for a type of arrays: its name is a token, but no token starts with the
bracket behind it. So the text of a statement is cut into tokens exactly if no cast in it is to a type of arrays.
-/

namespace BulkSql

open Reader Lexeme

namespace Token

variable {whole text rest written : Text} {kind : TokenKind}

/-- Over a token and the layout behind it. -/
theorem scans_of_read (bare : skipLayout text = text) (done : read text = .done (kind, written) rest) :
    Scans whole text [{ kind, text := written, position := Text.offsetOf whole text }] rest := by
  obtain ⟨mid, split, rfl, -⟩ := stands_of_read done
  simpa using (Scans.single (.token bare split done)).append (scans_skipLayout whole mid)

/-- The cut passes all lexemes that a text spells, each as one token, or stops at the bracket of an array type. -/
theorem scans_of_spells (whole : Text) {lexemes : List Lexeme} (regular : Regular lexemes)
    (bare : skipLayout text = text) (spells : Spells lexemes text rest) :
    (∀ lexeme ∈ lexemes, ¬lexeme.IsArray) ∧ (∃ tokens, AreTokens lexemes tokens ∧ Scans whole text tokens rest) ∨
      (∃ lexeme ∈ lexemes, lexeme.IsArray) ∧ ∃ tokens more, Scans whole text tokens ('[' :: ']' :: more) := by
  induction lexemes generalizing text with
  | nil =>
    obtain rfl : text = rest := spells
    exact .inl ⟨nofun, [], .nil, .stop text⟩
  | cons lexeme lexemes ih =>
    obtain ⟨mid, reads, spells, regular, ⟨plain, kind, written, done, isToken⟩ | ⟨array, token, more, done⟩⟩ :=
      regular.isFirst spells
    · have first := @scans_of_read whole _ _ _ _ bare done
      obtain ⟨behind, -, rfl, -⟩ := stands_of_read done
      rcases ih regular (skipLayout_skipLayout behind) spells with
        ⟨plains, tokens, are, passed⟩ | ⟨⟨other, member, array⟩, tokens, more, passed⟩
      · exact .inl ⟨List.forall_mem_cons.mpr ⟨plain, plains⟩, _, .cons isToken are, first.append passed⟩
      · exact .inr ⟨⟨other, List.mem_cons_of_mem _ member, array⟩, _, more, first.append passed⟩
    · exact .inr ⟨⟨lexeme, List.mem_cons_self .., array⟩, _, more, scans_of_read bare done⟩

/-- What ends the text of a statement is cut into nothing or a semicolon. -/
theorem scans_of_endsText (whole : Text) (ends : Statement.EndsText rest) :
    ∃ tokens, Scans whole rest tokens [] ∧
      (tokens = [] ∨ ∃ position, tokens = [{ kind := .punctuation, text := [';'], position }]) := by
  rcases ends with rfl | semicolon
  · exact ⟨[], .stop [], .inl rfl⟩
  · obtain ⟨-, mid, rfl, skipped⟩ := symbol_eq_done_iff.mp semicolon
    have done := read_semicolon mid
    have bare : skipLayout (';' :: mid) = ';' :: mid := skipLayout_of_startsBare (by simp [StartsBare, isSpace])
    rw [← skipped] at done
    exact ⟨_, scans_of_read bare done, .inr ⟨_, rfl⟩⟩

/-- A text with a place that the cut passes and where no token starts is refused there. -/
theorem tokenize_of_stuck {sql more : Text} {tokens : List Token} (passed : Scans sql sql tokens ('[' :: more)) :
    tokenize sql = .error (.unrecognized sql ('[' :: more)) := by
  have bare : skipLayout ('[' :: more) = '[' :: more := skipLayout_of_startsBare (by simp [StartsBare, isSpace])
  obtain ⟨why, failed⟩ := fails_read_bracket more
  rw [tokenize, listFrom_eq_of_scans passed, bare, listFrom, failed]
  rfl

end Token

/-- Some cast in a statement is to a type of arrays. -/
def Statement.HasArrayCast (statement : Statement) : Prop := ∃ lexeme ∈ statement.lexemes, lexeme.IsArray

/-- The text of a statement is cut into its lexemes, each one token, with at most a semicolon behind them, exactly if no
cast in it is to a type of arrays. If one is, the cut stops at the bracket of such a type, where no token starts. -/
theorem tokenize_of_parse {kind : StatementKind} {sql : Text} {statement : Statement}
    (parsed : Statement.parse kind sql = .ok statement) :
    ((∃ tokens, tokenize sql = .ok tokens) ↔ ¬statement.HasArrayCast) ∧
      (¬statement.HasArrayCast → ∃ front back, tokenize sql = .ok (front ++ back) ∧
        AreTokens statement.lexemes front ∧
        (back = [] ∨ ∃ position, back = [{ kind := .punctuation, text := [';'], position }])) ∧
      (statement.HasArrayCast → ∃ before more, sql = before ++ '[' :: ']' :: more ∧
        tokenize sql = .error (.unrecognized sql ('[' :: ']' :: more))) := by
  obtain ⟨-, -, -, rest, spells, ends⟩ := Statement.spells_of_parse parsed
  have start := Token.scans_skipLayout sql sql
  rcases Token.scans_of_spells sql statement.regular_lexemes (skipLayout_skipLayout sql) spells with
    ⟨plain, front, are, passed⟩ | ⟨array, front, more, passed⟩
  · obtain ⟨back, last, semicolon⟩ := Token.scans_of_endsText sql ends
    have none_ : ¬statement.HasArrayCast := fun ⟨lexeme, member, array⟩ => plain lexeme member array
    have cut : tokenize sql = .ok (front ++ back) :=
      Token.tokenize_eq_ok_iff.mpr (start.append (passed.append last))
    exact ⟨iff_of_true ⟨_, cut⟩ none_, fun _ => ⟨front, back, cut, are, semicolon⟩, fun some_ => absurd some_ none_⟩
  · have stuck := start.append passed
    have refused := Token.tokenize_of_stuck stuck
    refine ⟨iff_of_false ?_ (not_not_intro array), fun none_ => absurd array none_, fun _ => ?_⟩
    · rintro ⟨tokens, cut⟩
      cases refused.symm.trans cut
    · obtain ⟨before, split⟩ := stuck.suffix
      exact ⟨before, more, split.symm, refused⟩

/-- A cast to a type of numbers and one to a type of their arrays. -/
theorem tokenize_of_parse_two_casts :
    (∃ statement, Statement.parse .update "update t set a = ?::int where b = ?;" = .ok statement ∧
      ¬statement.HasArrayCast) ∧
    ∃ statement before more, Statement.parse .update "update t set a = ?::int[] where b = ?" = .ok statement ∧
      statement.HasArrayCast ∧ ("update t set a = ?::int[] where b = ?" : Text) = before ++ '[' :: ']' :: more ∧
      tokenize "update t set a = ?::int[] where b = ?" =
        .error (.unrecognized "update t set a = ?::int[] where b = ?" ('[' :: ']' :: more)) := by
  have checked : (match Statement.parse .update "update t set a = ?::int where b = ?;",
        tokenize "update t set a = ?::int where b = ?;",
        Statement.parse .update "update t set a = ?::int[] where b = ?",
        tokenize "update t set a = ?::int[] where b = ?" with
      | .ok _, .ok _, .ok _, .error _ => true
      | _, _, _, _ => false) = true := by decide +kernel
  split at checked
  · next single tokens arrays error parsed cut parsed' refused =>
    refine ⟨⟨single, parsed, (tokenize_of_parse parsed).1.mp ⟨tokens, cut⟩⟩, ?_⟩
    obtain ⟨covered, -, stuck⟩ := tokenize_of_parse parsed'
    have some_ : arrays.HasArrayCast := by
      by_contra none_
      obtain ⟨_, cut⟩ := covered.mpr none_
      cases refused.symm.trans cut
    obtain ⟨before, more, split, stuck⟩ := stuck some_
    exact ⟨arrays, before, more, parsed', some_, split, stuck⟩
  · cases checked

/-- A statement is parsed whose text is not cut into tokens. -/
theorem tokenize_misses_array_type :
    ∃ statement error, Statement.parse .update "update t set a = ?::int[] where b = ?" = .ok statement ∧
      tokenize "update t set a = ?::int[] where b = ?" = .error error ∧ error.cause = .unrecognized ∧
      error.position = 23 := by
  have checked : (match Statement.parse .update "update t set a = ?::int[] where b = ?",
        tokenize "update t set a = ?::int[] where b = ?" with
      | .ok _, .error error => error.cause == .unrecognized && error.position == 23
      | _, _ => false) = true := by decide +kernel
  split at checked
  · next statement error parsed refused =>
    rw [Bool.and_eq_true, beq_iff_eq, beq_iff_eq] at checked
    exact ⟨statement, error, parsed, refused, checked⟩
  · cases checked

end BulkSql
