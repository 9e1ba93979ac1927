import BulkSql.Proofs.Syntax.ErrorPlaces
import BulkSql.Proofs.Syntax.TokenPlaces

/-! # The offending token

An error names the token that stands at its place behind the layout there, or nothing at the end of the text. Where no
token can be read it names the first character behind the blanks instead. Blanks are not layout: comments are not passed
and more characters than spaces are, so what is named then is what stands there only if both end at the same place.
-/

namespace BulkSql

open Token

/-- What is named as the offending token starts the text, and nothing is named at the end of it. -/
def Names : (token? : Option Text) → Text → Prop
  | none, text => text = []
  | some token, text => token ≠ [] ∧ token <+: text

def StartsToken (text : Text) : Prop := ∃ token rest, read text = .done token rest

variable {text rest : Text}

theorem names_head? (text : Text) : Names (text.head?.map fun c => [c]) text := by
  cases text with
  | nil => rfl
  | cons c more => exact ⟨List.cons_ne_nil c [], more, rfl⟩

/-! ## Blanks and layout -/

theorem isBlank_of_isSpace {c : Char} (space : isSpace c) : isBlank c := by
  simp only [isSpace, Bool.or_eq_true, beq_iff_eq] at space
  rcases space with ((rfl | rfl) | rfl) | rfl <;> decide

theorem not_isBlank_of_head? {c : Char} (starts : (Text.trimStart text).head? = some c) : isBlank c = false :=
  clear_dropWhile isBlank text c starts

/-- Both comments start with an operator. -/
theorem startsToken_of_operator {c : Char} (member : [c] ∈ operators) (starts : text.head? = some c) :
    StartsToken text := by
  obtain ⟨more, rfl⟩ := List.head?_eq_some_iff.mp starts
  exact exists_read_of_stands (.operator member)

/-- If blanks and layout end with the same character at a place without a token, they end at the same place. -/
theorem trimStart_eq_skipLayout {c : Char} (stuck : ¬StartsToken (skipLayout text))
    (afterBlanks : (Text.trimStart text).head? = some c) (afterLayout : (skipLayout text).head? = some c) :
    Text.trimStart text = skipLayout text := by
  have kept (d : Char) (more : Text) (inked : isBlank d = false) : Text.trimStart (d :: more) = d :: more :=
    List.dropWhile_cons_of_neg (by simp [inked])
  have passed (d : Char) (more : Text) (starts : (Text.trimStart (d :: more)).head? = some d) :
      Text.trimStart (d :: more) = d :: more := kept d more (not_isBlank_of_head? starts)
  fun_induction skipLayout text with
  | case1 => rfl
  | case2 d rest space ih =>
    have same : Text.trimStart (d :: rest) = Text.trimStart rest := List.dropWhile_cons_of_pos (isBlank_of_isSpace space)
    rw [same] at afterBlanks ⊢
    exact ih stuck afterBlanks afterLayout
  | case3 line space ih =>
    -- the hyphen is no blank, so the layout would have to end at an operator
    rw [kept '-' _ (by decide)] at afterBlanks
    cases afterBlanks
    exact absurd (startsToken_of_operator (by decide) afterLayout) stuck
  | case4 block after closed space ih =>
    rw [kept '/' _ (by decide)] at afterBlanks
    cases afterBlanks
    exact absurd (startsToken_of_operator (by decide) afterLayout) stuck
  | case5 block open_ space =>
    cases afterLayout
    exact passed _ _ afterBlanks
  | case6 d rest space noLine noBlock =>
    cases afterLayout
    exact passed _ _ afterBlanks

/-! ## Names of places -/

/-- Where no token can be read, the first character behind the blanks is named. -/
theorem names_behind_blanks_iff (stuck : ¬StartsToken (skipLayout rest)) :
    Names ((Text.trimStart rest).head?.map fun c => [c]) (skipLayout rest) ↔ Text.trimStart rest = skipLayout rest := by
  constructor
  · intro names
    cases trimmed : Text.trimStart rest with
    | nil =>
      rw [trimmed] at names
      exact names.symm
    | cons c more =>
      rw [trimmed] at names
      obtain ⟨behind, split⟩ := names.2
      rw [← trimmed]
      exact trimStart_eq_skipLayout stuck (by rw [trimmed]; rfl) (by rw [← split]; rfl)
  · intro same
    rw [same]
    exact names_head? _

theorem names_offending?_iff (before rest : Text) :
    Names (ParseError.offending? (before ++ rest) (Text.byteSize before)) (skipLayout rest) ↔
      StartsToken (skipLayout rest) ∨ Text.trimStart rest = skipLayout rest := by
  obtain ⟨tokens, last, cut, stuck⟩ := CutInto.exists_cut rest (Text.byteSize before)
  have found := cut.at?_eq_head? before stuck rfl
  unfold ParseError.offending?
  rw [found, Text.fromOffset?_append]
  cases cut with
  | @last _ gap _ layout bare =>
    have same : skipLayout (gap ++ last) = last := layout.skipLayout_eq.trans (not_startsLayout_iff.mp bare)
    have unread : ¬StartsToken (skipLayout (gap ++ last)) := by
      rw [same]
      exact fun ⟨token, behind, done⟩ => stuck token behind done
    exact (names_behind_blanks_iff unread).trans (or_iff_right unread).symm
  | @token _ gap mid _ token _ layout bare fits =>
    have same : skipLayout (gap ++ (token.text ++ mid)) = token.text ++ mid :=
      layout.skipLayout_eq.trans (not_startsLayout_iff.mp bare)
    rw [same]
    exact ⟨fun _ => .inl ⟨_, _, read_of_fits fits⟩, fun _ => ⟨fits.ne_nil, List.prefix_append ..⟩⟩

/-! ## Messages -/

/-- The end of the text is reported only where nothing is named. -/
theorem token?_of_end_of_input {error : ParseError} (message : error.message = "unexpected end of input".toList) :
    error.token? = none := by
  unfold ParseError.message at message
  split at message
  · next token _ _ =>
    have starts : "unexpected '".toList <+: "unexpected end of input".toList :=
      ⟨token ++ "'".toList, (List.append_assoc ..).symm.trans message⟩
    exact absurd starts (by decide)
  · next token _ _ =>
    have starts : "unrecognized character '".toList <+: "unexpected end of input".toList :=
      ⟨token ++ "'".toList, (List.append_assoc ..).symm.trans message⟩
    exact absurd starts (by decide)
  · assumption
  · assumption
  · have ends : " values in VALUES list".toList <:+ "unexpected end of input".toList := ⟨_, message⟩
    exact absurd ends (by decide)

/-! ## Offending tokens -/

/-- What an error names stands at its place behind the layout there, and the end of the text is reported only where
nothing but layout follows, if a token can be read there or the blanks there are the layout; nowhere else. The character
at which a text cannot be cut into tokens is always named. -/
theorem names_offending_token_iff {error : ParseError} (refused : RefusedWith text error) :
    ∃ before rest, text = before ++ rest ∧ Text.byteSize before = error.position ∧
      (before = [] ∨ ¬StartsLayout rest ∨ ['.'] <:+ before) ∧
      (error.message = "unexpected end of input".toList → error.token? = none) ∧
      (Names error.token? (skipLayout rest) ↔
        error.cause = .unrecognized ∨ StartsToken (skipLayout rest) ∨ Text.trimStart rest = skipLayout rest) := by
  obtain ⟨before, rest, rfl, position, -, -, reached, token?⟩ := refused.exists_standsBetween
  refine ⟨before, rest, rfl, position.symm, ?_, token?_of_end_of_input, ?_⟩
  · exact reached.imp_right fun bare => bare.imp_left not_startsLayout_iff.mpr
  · rcases token? with ⟨parses, named⟩ | ⟨unrecognized, bare, c, more, rfl, named⟩
    · rw [named, position, names_offending?_iff, or_iff_right parses]
    · rw [named, bare]
      exact ⟨fun _ => .inl unrecognized, fun _ => ⟨List.cons_ne_nil c [], more, rfl⟩⟩

/-- A block comment in front of the token, and layout in front of the end. -/
theorem names_offending_token_iff_behind_layout :
    let sql : Text := "insert into t /* ( */ values".toList
    let error : ParseError :=
      { cause := .unexpected, token? := some "values".toList, position := 22, line := 1, column := 23, expected := ["("] }
    RefusedWith sql error ∧
      ∃ before rest, sql = before ++ rest ∧ Text.byteSize before = 22 ∧ Names error.token? (skipLayout rest) := by
  intro sql error
  have refused : RefusedWith sql error := .inl ⟨.insert, Statement.refusal?_eq_some_iff.mp (by decide +kernel)⟩
  obtain ⟨before, rest, split, position, -, -, names⟩ := names_offending_token_iff refused
  have same : "insert into t /* ( */ ".toList ++ "values".toList = before ++ rest := split
  obtain rfl := Text.eq_of_byteSize same position
  obtain rfl := List.append_cancel_left same
  have keyword : StartsToken (skipLayout "values") := ⟨_, _, read_keyword (show _ = some Keyword.VALUES by decide +kernel)⟩
  exact ⟨refused, _, _, split, position, names.mpr (.inr (.inl keyword))⟩

/-- A comment behind a point is named though nothing follows it, and a letter behind a blank that is no space. -/
theorem offending_token_misses_layout :
    (let before : Text := "update t set a = .".toList
      let rest : Text := "--x".toList
      ∃ error, Statement.parse .update (before ++ rest) = .error error ∧ error.position = Text.byteSize before ∧
        skipLayout rest = [] ∧ error.token? = some ['-'] ∧ ¬Names error.token? (skipLayout rest)) ∧
      (let before : Text := "insert".toList
        let rest : Text := "\u00a0into t".toList
        ∃ error, Statement.parse .insert (before ++ rest) = .error error ∧ error.position = Text.byteSize before ∧
          skipLayout rest = rest ∧ error.token? = some ['i'] ∧ ¬Names error.token? (skipLayout rest)) := by
  constructor
  · intro before rest
    have refused := Statement.refusal?_eq_some_iff.mp (show Statement.refusal? .update (before ++ rest) =
      some { cause := .unexpected, token? := some ['-'], position := 18, line := 1, column := 19, expected := ["number"] }
      by decide +kernel)
    have layout : skipLayout rest = [] := by decide +kernel
    refine ⟨_, refused, rfl, layout, rfl, fun names => ?_⟩
    rw [layout] at names
    exact absurd names.2 (by decide)
  · intro before rest
    have refused := Statement.refusal?_eq_some_iff.mp (show Statement.refusal? .insert (before ++ rest) =
      some { cause := .unexpected, token? := some ['i'], position := 6, line := 1, column := 7, expected := ["INTO"] }
      by decide +kernel)
    have bare : skipLayout rest = rest := by decide +kernel
    refine ⟨_, refused, rfl, bare, rfl, fun names => ?_⟩
    rw [bare] at names
    exact absurd names.2 (by decide)

end BulkSql
