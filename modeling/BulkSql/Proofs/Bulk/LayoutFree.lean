import BulkSql.Proofs.Bulk.Totality
import BulkSql.Proofs.Syntax.FromTokens

/-! # Layout says nothing

Texts that are cut into the same tokens are taken for the same kind of statement, parsed as the same tree and given the
same form, wherever white space and comments stand in them. Only the span of a VALUES list, which no form shows, keeps
the layout of its text.
-/

namespace BulkSql

section Tokens

variable {sql sql' : Text} {tokens tokens' : List Token}

/-- The kind of a text is told by what its first token contains. -/
theorem StatementKind.detect?_of_tokenize (cut : tokenize sql = .ok tokens) :
    detect? sql =
      match (tokens.map Token.content).head?.bind fun content => Keyword.lookup? content.2 with
      | some .INSERT => some .insert
      | some .UPSERT => some .upsert
      | some .UPDATE => some .update
      | _ => none := by
  rw [detect?, Token.at?_zero_of_tokenize cut, List.head?_map, Option.bind_map]
  rfl

/-- What one text is parsed as, a text with the same tokens is parsed as too, the span of the VALUES list apart. -/
theorem Statement.exists_parse_of_tokens {kind : StatementKind} {statement : Statement}
    (cut : tokenize sql = .ok tokens) (cut' : tokenize sql' = .ok tokens')
    (same : tokens.map Token.content = tokens'.map Token.content) (parsed : parse kind sql = .ok statement) :
    ∃ found, parse kind sql' = .ok found ∧ found.unspanned = statement.unspanned := by
  obtain ⟨rfl, shaped, fits, rest, spelled, ends⟩ := spells_of_parse parsed
  obtain ⟨front, back, rfl, are, cutBack⟩ := areTokens_of_spells statement.regular_lexemes spelled cut
  have last : back.map Token.content = [] ∨ back.map Token.content = [(.punctuation, [';'])] := by
    rcases tokens_of_endsText ends cutBack with rfl | ⟨position, rfl⟩
    · exact .inl rfl
    · exact .inr rfl
  rw [List.map_append] at same
  obtain ⟨front', back', rfl, sameFront, sameBack⟩ := List.map_eq_append_iff.mp same.symm
  obtain ⟨rest', spelled', cutBack'⟩ := spells_of_areTokens (are.congr sameFront.symm) spelled.allRead cut'
  rw [← sameBack] at last
  exact parse_of_spells shaped fits spelled' (endsText_of_tokens cutBack' last)

theorem Statement.parse_eq_of_tokens (cut : tokenize sql = .ok tokens) (cut' : tokenize sql' = .ok tokens')
    (same : tokens.map Token.content = tokens'.map Token.content) (kind : StatementKind) :
    (parse kind sql).toOption.map unspanned = (parse kind sql').toOption.map unspanned := by
  cases parsed : parse kind sql with
  | ok statement =>
    obtain ⟨found, parsed', unspanned⟩ := exists_parse_of_tokens cut cut' same parsed
    rw [parsed']
    exact congrArg some unspanned.symm
  | error refused =>
    cases parsed' : parse kind sql' with
    | ok statement =>
      obtain ⟨found, accepted, -⟩ := exists_parse_of_tokens cut' cut same.symm parsed'
      rw [parsed] at accepted
      cases accepted
    | error refused' => rfl

end Tokens

namespace Bulk

/-- No form shows the span of a VALUES list. -/
theorem ofStatement_unspanned (derived : DerivedTable) (statement : Statement) :
    ofStatement derived statement.unspanned = ofStatement derived statement := by
  cases statement with
  | insert row conflict? => rfl
  | upsert row => rfl
  | update update => rfl

/-- The form of a text is that of what it is parsed as, the span of the VALUES list apart. -/
theorem ofText_toOption (derived : DerivedTable) (kind : StatementKind) (sql : Text) :
    (ofText derived kind sql).toOption =
      ((Statement.parse kind sql).toOption.map Statement.unspanned).bind fun statement =>
        (ofStatement derived statement).toOption := by
  unfold ofText
  cases Statement.parse kind sql with
  | error refused => rfl
  | ok statement =>
    dsimp only [Except.toOption, Option.map_some, Option.bind_some]
    rw [ofStatement_unspanned]
    cases ofStatement derived statement with
    | error broken => rfl
    | ok bulk => rfl

/-- Two texts that are cut into tokens of the same kinds with the same texts, so that they differ in white space and
comments only, are taken for the same kind of statement. For each kind both are parsed or both refused; their trees
are the same but for the spans of VALUES lists, and their bulk forms are the same. -/
theorem layout_irrelevant {sql sql' : Text} {tokens tokens' : List Token} (cut : tokenize sql = .ok tokens)
    (cut' : tokenize sql' = .ok tokens') (same : tokens.map Token.content = tokens'.map Token.content) :
    StatementKind.detect? sql = StatementKind.detect? sql' ∧
      (∀ kind, (Statement.parse kind sql).toOption.map Statement.unspanned =
        (Statement.parse kind sql').toOption.map Statement.unspanned) ∧
      ∀ derived kind, (ofText derived kind sql).toOption = (ofText derived kind sql').toOption := by
  have trees := Statement.parse_eq_of_tokens cut cut' same
  refine ⟨?_, trees, fun derived kind => ?_⟩
  · rw [StatementKind.detect?_of_tokenize cut, StatementKind.detect?_of_tokenize cut', same]
  · rw [ofText_toOption, ofText_toOption, trees]

/-- Comments and a line break are dropped, the blanks in a string are kept. -/
theorem layout_irrelevant_comments :
    ∃ tokens tokens' bulk,
      tokenize "upsert into t(a,b)values(?,f(?,'x  y'))" = .ok tokens ∧
      tokenize "/* a */ upsert into t ( a, b ) --b\n values ( ?, f(? ,'x  y' ))" = .ok tokens' ∧
      tokens.map Token.content = tokens'.map Token.content ∧
      StatementKind.detect? "/* a */ upsert into t ( a, b ) --b\n values ( ?, f(? ,'x  y' ))" = some .upsert ∧
      ofText {} .upsert "upsert into t(a,b)values(?,f(?,'x  y'))" = .ok bulk ∧
      ofText {} .upsert "/* a */ upsert into t ( a, b ) --b\n values ( ?, f(? ,'x  y' ))" = .ok bulk := by
  have detected : StatementKind.detect? "upsert into t(a,b)values(?,f(?,'x  y'))" = some .upsert := by decide +kernel
  have checked : (match tokenize "upsert into t(a,b)values(?,f(?,'x  y'))",
        tokenize "/* a */ upsert into t ( a, b ) --b\n values ( ?, f(? ,'x  y' ))",
        ofText {} .upsert "upsert into t(a,b)values(?,f(?,'x  y'))" with
      | .ok tokens, .ok tokens', .ok _ => tokens.map Token.content == tokens'.map Token.content
      | _, _, _ => false) = true := by decide +kernel
  split at checked
  · next tokens tokens' bulk cut cut' formed =>
    rw [beq_iff_eq] at checked
    obtain ⟨kinds, -, forms⟩ := layout_irrelevant cut cut' checked
    have formed' := forms {} .upsert
    rw [formed] at formed'
    refine ⟨tokens, tokens', bulk, cut, cut', checked, kinds.symm.trans detected, formed, ?_⟩
    cases again : ofText {} .upsert "/* a */ upsert into t ( a, b ) --b\n values ( ?, f(? ,'x  y' ))" with
    | ok bulk' =>
      rw [again] at formed'
      cases formed'
      rfl
    | error refusal =>
      rw [again] at formed'
      cases formed'
  · cases checked

end Bulk

end BulkSql
