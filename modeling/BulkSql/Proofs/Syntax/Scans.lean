import BulkSql.Proofs.Syntax.Tokens
import BulkSql.Proofs.Syntax.Forms

/-! # The cut into tokens, place by place

The cut of a text passes places where layout or a token starts. Each place decides the next one, so of two places that
one cut passes, the scan from one comes to the other.
-/

namespace BulkSql

open Reader

/-- A block comment is dropped if it is closed. -/
theorem skipLayout_block (block : Text) :
    skipLayout ('/' :: '*' :: block) = (afterBlock? block).elim ('/' :: '*' :: block) skipLayout := by
  rw [skipLayout.eq_def]
  refine (if_neg (by decide)).trans ?_
  split
  · next isLine _ => exact absurd isLine (by decide)
  · next same =>
    cases same
    split
    · next closed => rw [closed, Option.elim_some]
    · next open_ => rw [open_, Option.elim_none]
  · next noBlock => exact (noBlock _ rfl rfl).elim

theorem skipLayout_skipLayout (text : Text) : skipLayout (skipLayout text) = skipLayout text := by
  fun_induction skipLayout text with
  | case1 => exact skipLayout_nil
  | case2 c rest space ih => exact ih
  | case3 line space ih => exact ih
  | case4 block after closed space ih => exact ih
  | case5 block open_ space => rw [skipLayout_block, open_, Option.elim_none]
  | case6 c rest space noLine noBlock =>
    rw [skipLayout.eq_def]
    refine (if_neg space).trans ?_
    split
    · exact (noLine _ rfl rfl).elim
    · exact (noBlock _ rfl rfl).elim
    · rfl

/-- Behind a closing quote there is no other. -/
theorem clear_of_closeQuote? {quote : Char} {text body rest : Text}
    (closed : closeQuote? quote text = some (body, rest)) : Clear (· == quote) rest := by
  fun_induction closeQuote? quote text generalizing body rest with
  | case1 => cases closed
  | case2 _ ih | case5 _ _ _ ih =>
    obtain ⟨⟨inner, behind⟩, found, same⟩ := Option.map_eq_some_iff.mp closed
    cases same
    exact ih found
  | case3 d rest' other =>
    cases closed
    exact clear_cons.mpr (beq_eq_false_iff_ne.mpr other)
  | case4 =>
    cases closed
    exact clear_nil _

theorem clear_of_rawQuoted {quote : Char} {text written rest : Text}
    (done : rawQuoted quote text = .done written rest) : Clear (· == quote) rest := by
  obtain ⟨body, inside, -, -, closed⟩ := rawQuoted_eq_done_iff.mp done
  exact clear_of_closeQuote? closed

namespace Token

/-! ## Tokens as written -/

/-- What a token of a kind is written as in front of a rest. A quoted token goes as far as it can. -/
inductive Stands : TokenKind → (written rest : Text) → Prop where
  | string {written rest : Text} (quoted : IsQuoted '\'' written) (closed : Clear (· == '\'') rest) :
    Stands .string written rest
  | number {written rest : Text} (isNumber : IsNumber written) : Stands .number written rest
  | placeholder {rest : Text} : Stands .placeholder ['?'] rest
  | quotedName {written rest : Text} (quoted : IsQuoted '"' written) (closed : Clear (· == '"') rest) :
    Stands .identifier written rest
  | word {written rest : Text} (bare : IsBareWord written) :
    Stands (if isReserved written then .keyword else .identifier) written rest
  | operator {written rest : Text} (member : written ∈ operators) : Stands .operator written rest
  | punctuation {written rest : Text} (member : written ∈ punctuationMarks) : Stands .punctuation written rest

variable {whole text written mid rest last : Text} {kind : TokenKind} {tokens front back : List Token}

theorem symbol_of_read {wishes : List Text} {found : TokenKind × Text}
    (done : ofKind kind (.firstOf (wishes.map .symbol)) text = .done found rest) :
    ∃ written, found = (kind, written) ∧ written ∈ wishes ∧ symbol written text = .done written rest := by
  obtain ⟨written, behind, done, built⟩ := bind_eq_done_iff.mp done
  cases built
  obtain ⟨reader, member, done⟩ := exists_of_firstOf done
  obtain ⟨wanted, inside, rfl⟩ := List.mem_map.mp member
  obtain ⟨rfl, -⟩ := symbol_eq_done_iff.mp done
  exact ⟨_, rfl, inside, done⟩

/-- What reads a token of a kind. A reserved word is a keyword, any other is a name. -/
def Comes : TokenKind → (text written rest : Text) → Prop
  | .string, text, written, rest => Reader.string text = .done written rest
  | .number, text, written, rest => Reader.number text = .done written rest
  | .placeholder, text, written, rest => Reader.placeholder text = .done written rest
  | .identifier, text, written, rest => identifier text = .done written rest
  | .keyword, text, written, rest => word text = .done written rest ∧ isReserved written
  | .operator, text, written, rest => written ∈ operators ∧ symbol written text = .done written rest
  | .punctuation, text, written, rest => written ∈ punctuationMarks ∧ symbol written text = .done written rest

theorem comes_of_read (done : read text = .done (kind, written) rest) : Comes kind text written rest := by
  obtain ⟨reader, member, done⟩ := exists_of_firstOf done
  simp only [List.mem_cons, List.not_mem_nil, or_false] at member
  rcases member with rfl | rfl | rfl | rfl | rfl | rfl
  · obtain ⟨_, _, done, built⟩ := bind_eq_done_iff.mp done
    cases built
    exact done
  · obtain ⟨_, _, done, built⟩ := bind_eq_done_iff.mp done
    cases built
    exact done
  · obtain ⟨_, _, done, built⟩ := bind_eq_done_iff.mp done
    cases built
    exact done
  · rcases done_of_firstOf_pair done with done | done
    · obtain ⟨_, _, done, built⟩ := bind_eq_done_iff.mp done
      cases built
      exact identifier_eq_done_iff.mpr (.inl done)
    · obtain ⟨found, _, done, built⟩ := bind_eq_done_iff.mp done
      cases reserved : isReserved found with
      | true =>
        rw [reserved] at built
        cases built
        exact ⟨done, reserved⟩
      | false =>
        rw [reserved] at built
        cases built
        exact identifier_eq_done_iff.mpr (.inr (bareName_eq_done_iff.mpr ⟨done, reserved⟩))
  · obtain ⟨_, same, member, done⟩ := symbol_of_read done
    cases same
    exact ⟨member, done⟩
  · obtain ⟨_, same, member, done⟩ := symbol_of_read done
    cases same
    exact ⟨member, done⟩

/-- A token that is read starts the text, and the layout behind it is dropped. -/
theorem stands_of_read (done : read text = .done (kind, written) rest) :
    ∃ mid, text = written ++ mid ∧ rest = skipLayout mid ∧ Stands kind written mid := by
  have comes := comes_of_read done
  have ofWord (isWord : word text = .done written rest) : ∃ mid, text = written ++ mid ∧ rest = skipLayout mid ∧
      Stands (if isReserved written then .keyword else .identifier) written mid := by
    obtain ⟨mid, raw, rfl⟩ := lexeme_eq_done_iff.mp isWord
    exact ⟨mid, (reproducible_rawWord _ _ _ raw).1, rfl, .word (isBareWord_of_rawWord raw)⟩
  cases kind with
  | string =>
    obtain ⟨mid, raw, rfl⟩ := lexeme_eq_done_iff.mp comes
    exact ⟨mid, (reproducible_rawQuoted _ _ _ _ raw).1, rfl, .string (isQuoted_of_rawQuoted raw) (clear_of_rawQuoted raw)⟩
  | number =>
    obtain ⟨mid, raw, rfl⟩ := lexeme_eq_done_iff.mp comes
    exact ⟨mid, (reproducible_rawNumber _ _ _ raw).1, rfl, .number (isNumber_of_rawNumber raw)⟩
  | placeholder =>
    obtain ⟨rfl, mid, rfl, rfl⟩ := symbol_eq_done_iff.mp comes
    exact ⟨mid, rfl, rfl, .placeholder⟩
  | identifier =>
    rcases identifier_eq_done_iff.mp comes with quoted | bare
    · obtain ⟨mid, raw, rfl⟩ := lexeme_eq_done_iff.mp quoted
      exact ⟨mid, (reproducible_rawQuoted _ _ _ _ raw).1, rfl,
        .quotedName (isQuoted_of_rawQuoted raw) (clear_of_rawQuoted raw)⟩
    · obtain ⟨isWord, free⟩ := bareName_eq_done_iff.mp bare
      rw [free] at ofWord
      exact ofWord isWord
  | keyword =>
    obtain ⟨isWord, reserved⟩ := comes
    rw [if_pos reserved] at ofWord
    exact ofWord isWord
  | operator =>
    obtain ⟨member, done⟩ := comes
    obtain ⟨-, mid, rfl, rfl⟩ := symbol_eq_done_iff.mp done
    exact ⟨mid, rfl, rfl, .operator member⟩
  | punctuation =>
    obtain ⟨member, done⟩ := comes
    obtain ⟨-, mid, rfl, rfl⟩ := symbol_eq_done_iff.mp done
    exact ⟨mid, rfl, rfl, .punctuation member⟩

theorem Stands.ne_nil (stands : Stands kind written rest) : written ≠ [] := by
  cases stands with
  | string quoted | quotedName quoted =>
    obtain ⟨inside, rfl⟩ := quoted
    exact nofun
  | number isNumber =>
    obtain ⟨c, more, rfl, -⟩ := rawNumber_head (rawNumber_of_isNumber isNumber)
    exact nofun
  | placeholder => exact nofun
  | word bare =>
    obtain ⟨c, more, rfl, -⟩ := bare
    exact nofun
  | operator member | punctuation member =>
    rintro rfl
    exact absurd member (by decide)

/-! ## Steps -/

/-- From a place to the next one: over a space, a comment or a token. -/
inductive Step (whole : Text) : Text → List Token → Text → Prop where
  | space {c : Char} (space : isSpace c) (rest : Text) : Step whole (c :: rest) [] rest
  | line (line : Text) : Step whole ('-' :: '-' :: line) [] (afterLine line)
  | block {block after : Text} (closed : afterBlock? block = some after) : Step whole ('/' :: '*' :: block) [] after
  | token {text written mid : Text} {kind : TokenKind} (bare : skipLayout text = text) (split : text = written ++ mid)
    (done : read text = .done (kind, written) (skipLayout mid)) :
    Step whole text [{ kind, text := written, position := Text.offsetOf whole text }] mid

namespace Step

theorem skipLayout_eq (step : Step whole text [] mid) : skipLayout text = skipLayout mid := by
  cases step with
  | space space => exact skipLayout_of_isSpace space mid
  | line line =>
    rw [skipLayout.eq_def]
    rfl
  | block closed =>
    rw [skipLayout_block, closed, Option.elim_some]

theorem suffix (step : Step whole text tokens mid) : mid <:+ text := by
  cases step with
  | space => exact List.suffix_cons ..
  | line line => exact (List.dropWhile_suffix _).trans ⟨['-', '-'], rfl⟩
  | block closed => exact (suffix_of_afterBlock? closed).trans ⟨['/', '*'], rfl⟩
  | token _ split => exact ⟨_, split.symm⟩

theorem length_lt (step : Step whole text tokens mid) : mid.length < text.length := by
  cases step with
  | space => exact Nat.lt_succ_self _
  | line line =>
    have := length_afterLine_le line
    simp only [List.length_cons]
    omega
  | block closed =>
    have := length_lt_of_afterBlock? closed
    simp only [List.length_cons]
    omega
  | token _ split done =>
    obtain ⟨_, -, -, stands⟩ := stands_of_read done
    have := List.length_pos_iff.mpr stands.ne_nil
    rw [split, List.length_append]
    omega

/-- A step over layout leaves less. -/
theorem not_bare (step : Step whole text [] mid) : skipLayout text ≠ text := by
  intro bare
  have shorter := step.length_lt
  have rest := length_skipLayout_le mid
  rw [← step.skipLayout_eq, bare] at rest
  omega

/-- A place decides the next one. -/
theorem unique {tokens' : List Token} {mid' : Text} (step : Step whole text tokens mid)
    (other : Step whole text tokens' mid') : tokens = tokens' ∧ mid = mid' := by
  cases step with
  | space space =>
    cases other with
    | space => exact ⟨rfl, rfl⟩
    | line | block => exact absurd space (by decide)
    | token bare => exact absurd bare (@Step.space whole _ space _).not_bare
  | line =>
    cases other with
    | space space => exact absurd space (by decide)
    | line => exact ⟨rfl, rfl⟩
    | token bare => exact absurd bare (@Step.line whole _).not_bare
  | block closed =>
    cases other with
    | space space => exact absurd space (by decide)
    | block closed' => exact ⟨rfl, Option.some.inj (closed.symm.trans closed')⟩
    | token bare => exact absurd bare (@Step.block whole _ _ closed).not_bare
  | token bare split done =>
    cases other with
    | space space => exact absurd bare (@Step.space whole _ space _).not_bare
    | line => exact absurd bare (@Step.line whole _).not_bare
    | block closed => exact absurd bare (@Step.block whole _ _ closed).not_bare
    | token _ split' done' =>
      obtain ⟨same, -⟩ := Reply.done.inj (done.symm.trans done')
      cases same
      exact ⟨rfl, List.append_cancel_left (split.symm.trans split')⟩

end Step

/-! ## Runs -/

/-- From a place to a later one, with the tokens between them. -/
inductive Scans (whole : Text) : Text → List Token → Text → Prop where
  | stop (text : Text) : Scans whole text [] text
  | step {text mid last : Text} {front back : List Token} (one : Step whole text front mid)
    (more : Scans whole mid back last) : Scans whole text (front ++ back) last

namespace Scans

theorem append (scans : Scans whole text front mid) (more : Scans whole mid back last) :
    Scans whole text (front ++ back) last := by
  induction scans with
  | stop => exact more
  | step one _ ih =>
    rw [List.append_assoc]
    exact .step one (ih more)

theorem single (one : Step whole text front mid) : Scans whole text front mid := by
  simpa using Scans.step one (.stop mid)

theorem suffix (scans : Scans whole text tokens last) : last <:+ text := by
  induction scans with
  | stop => exact List.suffix_rfl
  | step one _ ih => exact ih.trans one.suffix

theorem eq_or_length_lt (scans : Scans whole text tokens last) : tokens = [] ∧ text = last ∨ last.length < text.length := by
  cases scans with
  | stop => exact .inl ⟨rfl, rfl⟩
  | step one more => exact .inr (Nat.lt_of_le_of_lt more.suffix.length_le one.length_lt)

/-- What a scan from a place passes next, if it goes on. -/
theorem of_step (scans : Scans whole text tokens last) (one : Step whole text front mid) :
    tokens = [] ∧ last = text ∨ ∃ back, tokens = front ++ back ∧ Scans whole mid back last := by
  cases scans with
  | stop => exact .inl ⟨rfl, rfl⟩
  | step other more =>
    obtain ⟨rfl, rfl⟩ := one.unique other
    exact .inr ⟨_, rfl, more⟩

/-- Of two places that are passed from one, the later is passed from the other. -/
theorem ordered {place place' : Text} {tokens' : List Token} (scans : Scans whole text tokens place)
    (other : Scans whole text tokens' place') :
    (∃ between, tokens' = tokens ++ between ∧ Scans whole place between place') ∨
      ∃ between, tokens = tokens' ++ between ∧ Scans whole place' between place := by
  induction scans generalizing tokens' with
  | stop => exact .inl ⟨tokens', rfl, other⟩
  | step one more ih =>
    rcases other.of_step one with ⟨rfl, rfl⟩ | ⟨back, rfl, behind⟩
    · exact .inr ⟨_, rfl, .step one more⟩
    · rcases ih behind with ⟨between, rfl, scans⟩ | ⟨between, rfl, scans⟩
      · exact .inl ⟨between, (List.append_assoc ..).symm, scans⟩
      · exact .inr ⟨between, (List.append_assoc ..).symm, scans⟩

/-- The tokens up to a place are decided by the place. -/
theorem unique {tokens' : List Token} (scans : Scans whole text tokens last) (other : Scans whole text tokens' last) :
    tokens = tokens' := by
  rcases scans.ordered other with ⟨between, rfl, loop⟩ | ⟨between, rfl, loop⟩
  · rcases loop.eq_or_length_lt with ⟨rfl, -⟩ | shorter
    · exact (List.append_nil _).symm
    · omega
  · rcases loop.eq_or_length_lt with ⟨rfl, -⟩ | shorter
    · exact List.append_nil _
    · omega

/-- What is left behind a place that the whole cut passes. -/
theorem rest_of_whole (scans : Scans whole text front mid) (all : Scans whole text tokens []) :
    ∃ back, tokens = front ++ back ∧ Scans whole mid back [] := by
  rcases scans.ordered all with passed | ⟨between, rfl, loop⟩
  · exact passed
  · rcases loop.eq_or_length_lt with ⟨rfl, rfl⟩ | shorter
    · exact ⟨[], by simp, .stop []⟩
    · exact absurd shorter (Nat.not_lt_zero _)

theorem offsetOf_le_of_suffix (suffix : rest <:+ text) : Text.offsetOf whole text ≤ Text.offsetOf whole rest := by
  obtain ⟨before, rfl⟩ := suffix
  rw [Text.offsetOf, Text.offsetOf, Text.byteSize_append]
  omega

/-- Tokens stand where they are passed. -/
theorem le_position (scans : Scans whole text tokens last) :
    ∀ token ∈ tokens, Text.offsetOf whole text ≤ token.position := by
  induction scans with
  | stop => exact List.forall_mem_nil _
  | step one more ih =>
    refine List.forall_mem_append.mpr ⟨?_, fun token member => (offsetOf_le_of_suffix one.suffix).trans (ih token member)⟩
    cases one with
    | space | line | block => exact List.forall_mem_nil _
    | token => exact List.forall_mem_singleton.mpr (Nat.le_refl _)

end Scans

/-! ## The whole cut -/

theorem scans_skipLayout (whole text : Text) : Scans whole text [] (skipLayout text) := by
  fun_induction skipLayout text with
  | case1 => exact .stop []
  | case2 c rest space ih => exact .step (.space space rest) ih
  | case3 line space ih => exact .step (.line line) ih
  | case4 block after closed space ih => exact .step (.block closed) ih
  | case5 => exact .stop _
  | case6 => exact .stop _

theorem scans_of_listFrom (bare : skipLayout text = text) (cut : listFrom whole text = .ok tokens) :
    Scans whole text tokens [] := by
  fun_induction listFrom whole text generalizing tokens with
  | case1 text empty =>
    cases cut
    obtain rfl := List.isEmpty_iff.mp empty
    exact .stop []
  | case2 text _ kind written rest done _ more cutMore ih =>
    cases cut
    obtain ⟨mid, split, rfl, -⟩ := stands_of_read done
    have behind := (scans_skipLayout whole mid).append (ih (skipLayout_skipLayout mid) cutMore)
    exact .step (.token bare split done) behind
  | case3 | case4 | case5 => cases cut

/-- The cut goes on from every place that it passes. -/
theorem listFrom_eq_of_scans (scans : Scans whole text front mid) :
    listFrom whole (skipLayout text) = (listFrom whole (skipLayout mid)).map (front ++ ·) := by
  induction scans with
  | stop text => cases listFrom whole (skipLayout text) <;> rfl
  | @step text mid last _ back one more ih =>
    cases one with
    | space space =>
      rw [(@Step.space whole _ space mid).skipLayout_eq]
      exact ih
    | line line =>
      rw [(@Step.line whole line).skipLayout_eq]
      exact ih
    | block closed =>
      rw [(@Step.block whole _ _ closed).skipLayout_eq]
      exact ih
    | token bare split done =>
      have shorter : (skipLayout mid).length < text.length :=
        Nat.lt_of_le_of_lt (length_skipLayout_le mid) (@Step.token whole _ _ _ _ bare split done).length_lt
      have some_ : text.isEmpty = false := by
        cases text with
        | nil => exact absurd shorter (Nat.not_lt_zero _)
        | cons => rfl
      rw [bare, listFrom, some_, done]
      simp only [Bool.false_eq_true, if_false, if_pos shorter, ih]
      cases listFrom whole (skipLayout last) <;> rfl

theorem listFrom_of_scans (scans : Scans whole text tokens []) : listFrom whole (skipLayout text) = .ok tokens := by
  rw [listFrom_eq_of_scans scans, skipLayout_nil, listFrom]
  exact congrArg Except.ok (List.append_nil tokens)

/-- The tokens of a text are those that a scan of the whole text passes. -/
theorem tokenize_eq_ok_iff {sql : Text} : tokenize sql = .ok tokens ↔ Scans sql sql tokens [] := by
  constructor
  · intro cut
    exact (scans_skipLayout sql sql).append (scans_of_listFrom (skipLayout_skipLayout sql) cut)
  · exact listFrom_of_scans

end Token

end BulkSql
