import BulkSql.Proofs.Syntax.Munch

/-! # Nothing is lost between tokens

A text that is cut into tokens is made of the tokens and the gaps between them, each as long as it can be. Where the cut
stops neither layout nor a token starts, and the text up to there is cut as if nothing followed.
-/

namespace BulkSql

open Token

/-- A text that starts at a byte offset, cut into gaps and tokens. No layout starts behind a gap, so that it could not be
longer. What is last is not cut. -/
inductive CutInto : (offset : Nat) → (text : Text) → List Token → (last : Text) → Prop where
  | last {offset : Nat} {gap last : Text} (layout : IsLayout last gap) (bare : ¬ StartsLayout last) :
    CutInto offset (gap ++ last) [] last
  | token {offset : Nat} {gap mid last : Text} {token : Token} {tokens : List Token}
    (layout : IsLayout (token.text ++ mid) gap) (bare : ¬ StartsLayout (token.text ++ mid))
    (fits : Fits token.kind token.text mid) (position : token.position = offset + Text.byteSize gap)
    (more : CutInto (token.position + Text.byteSize token.text) mid tokens last) :
    CutInto offset (gap ++ (token.text ++ mid)) (token :: tokens) last

namespace CutInto

variable {offset : Nat} {text last gap : Text} {tokens : List Token}

/-! ## Positions -/

theorem text_ne_nil (cut : CutInto offset text tokens last) : ∀ token ∈ tokens, token.text ≠ [] := by
  induction cut with
  | last => exact List.forall_mem_nil _
  | token _ _ fits _ _ ih => exact List.forall_mem_cons.mpr ⟨fits.ne_nil, ih⟩

theorem le_position (cut : CutInto offset text tokens last) : ∀ token ∈ tokens, offset ≤ token.position := by
  induction cut with
  | last => exact List.forall_mem_nil _
  | token _ _ _ position _ ih =>
    refine List.forall_mem_cons.mpr ⟨by omega, fun other member => ?_⟩
    have later := ih other member
    omega

theorem increasing (cut : CutInto offset text tokens last) :
    tokens.Pairwise fun first second => first.position < second.position := by
  induction cut with
  | last => exact .nil
  | @token offset gap mid last token tokens _ _ fits _ more ih =>
    refine List.pairwise_cons.mpr ⟨fun other member => ?_, ih⟩
    obtain ⟨c, rest, written⟩ := List.exists_cons_of_ne_nil fits.ne_nil
    have later := more.le_position other member
    have some_ := c.utf8Size_pos
    rw [written, Text.byteSize_cons] at later
    omega

/-! ## The cut and the scan -/

/-- A cut passes the places that a scan of the whole text passes. -/
theorem scans (cut : CutInto offset text tokens last) {before : Text} (starts : Text.byteSize before = offset) :
    Scans (before ++ text) text tokens last := by
  have skipped {gap rest : Text} (layout : IsLayout rest gap) (bare : ¬ StartsLayout rest) (whole : Text) :
      Scans whole (gap ++ rest) [] rest := by
    have scans := scans_skipLayout whole (gap ++ rest)
    rwa [layout.skipLayout_eq, not_startsLayout_iff.mp bare] at scans
  induction cut generalizing before with
  | last layout bare => exact skipped layout bare _
  | @token offset gap mid last token tokens layout bare fits position more ih =>
    have whole : before ++ (gap ++ (token.text ++ mid)) = before ++ gap ++ token.text ++ mid := by simp
    have behind := @ih (before ++ gap ++ token.text) (by simp only [Text.byteSize_append]; omega)
    have step := @Step.token (before ++ gap ++ token.text ++ mid) _ _ _ _ (not_startsLayout_iff.mp bare) rfl
      (read_of_fits fits)
    have place : Text.offsetOf (before ++ gap ++ token.text ++ mid) (token.text ++ mid) = token.position := by
      rw [List.append_assoc _ token.text, Text.offsetOf_append, Text.byteSize_append]
      omega
    rw [place] at step
    rw [whole]
    exact (skipped layout bare _).append (.step step behind)

/-- Every text is cut up to its end, or to a place where no token is read. -/
theorem exists_cut (text : Text) (offset : Nat) :
    ∃ tokens last, CutInto offset text tokens last ∧ ∀ token rest, read last ≠ .done token rest := by
  induction size : text.length using Nat.strong_induction_on generalizing text offset with
  | h n ih =>
    obtain ⟨gap, split, layout⟩ := exists_isLayout text
    have bare := not_startsLayout_skipLayout text
    generalize skipLayout text = rest at split layout bare
    subst split
    by_cases goesOn : ∃ token behind, read rest = .done token behind
    · obtain ⟨⟨kind, written⟩, behind, done⟩ := goesOn
      obtain ⟨mid, rfl, -, fits⟩ := read_eq_done_iff.mp done
      have some_ := List.length_pos_iff.mpr fits.ne_nil
      have shorter : mid.length < n := by
        rw [← size, List.length_append, List.length_append]
        omega
      obtain ⟨tokens, last, cut, stuck⟩ := ih _ shorter mid (offset + Text.byteSize gap + Text.byteSize written) rfl
      let token : Token := { kind, text := written, position := offset + Text.byteSize gap }
      exact ⟨token :: tokens, last, @CutInto.token offset gap mid last token tokens layout bare fits rfl cut, stuck⟩
    · exact ⟨[], rest, .last layout bare, fun token behind done => goesOn ⟨token, behind, done⟩⟩

theorem bare_last (cut : CutInto offset text tokens last) : ¬ StartsLayout last := by
  induction cut with
  | last _ bare => exact bare
  | token _ _ _ _ _ ih => exact ih

theorem tokenize_eq (cut : CutInto 0 text tokens []) : tokenize text = .ok tokens :=
  tokenize_eq_ok_iff.mpr (@scans _ _ _ _ cut [] rfl)

/-- The cut of a text stops where no token is read. -/
theorem tokenize_of_stuck (cut : CutInto 0 text tokens last) (some_ : last ≠ [])
    (stuck : ∀ token rest, read last ≠ .done token rest) : tokenize text = .error (.unrecognized text last) := by
  have stops : listFrom text last = .error (.unrecognized text last) := by
    rw [listFrom, if_neg (by simpa using some_)]
    split
    · next token rest done => exact absurd done (stuck _ _)
    · rfl
  have scan := listFrom_eq_of_scans (@scans _ _ _ _ cut [] rfl)
  rw [List.nil_append, not_startsLayout_iff.mp cut.bare_last, stops] at scan
  exact scan

/-- If the text ends where a cut stops, the cut is the same. -/
theorem exists_front (cut : CutInto offset text tokens last) :
    ∃ front, text = front ++ last ∧ CutInto offset front tokens [] := by
  induction cut with
  | @last offset gap last layout bare =>
    have ended : IsLayout [] gap := (show IsLayout ([] ++ last) gap from layout).of_append
    have cut := @CutInto.last offset _ _ ended (not_startsLayout_iff.mpr skipLayout_nil)
    rw [List.append_nil] at cut
    exact ⟨gap, rfl, cut⟩
  | @token offset gap mid last token tokens layout bare fits position more ih =>
    obtain ⟨front, rfl, cut⟩ := ih
    rw [← List.append_assoc] at layout bare
    exact ⟨gap ++ (token.text ++ front), by simp,
      .token layout.of_append (fun starts => bare (starts.append last)) fits.of_append position cut⟩

end CutInto

/-- The tokens of a text are those that it is cut into. -/
theorem tokenize_eq_ok_iff_cutInto {text : Text} {tokens : List Token} :
    tokenize text = .ok tokens ↔ CutInto 0 text tokens [] := by
  constructor
  · intro all
    obtain ⟨found, last, cut, stuck⟩ := CutInto.exists_cut text 0
    by_cases ended : last = []
    · subst ended
      cases all.symm.trans cut.tokenize_eq
      exact cut
    · cases all.symm.trans (cut.tokenize_of_stuck ended stuck)
  · exact CutInto.tokenize_eq

/-- Nothing but gaps is lost when a text is cut into tokens: they stand where their positions say, one behind the other.
A text that is not cut has a character at which neither layout nor a token starts, and is cut up to it. -/
theorem tokenize_lossless (text : Text) :
    match tokenize text with
    | .ok tokens =>
      CutInto 0 text tokens [] ∧ (∀ token ∈ tokens, token.text ≠ []) ∧
        tokens.Pairwise fun first second => first.position < second.position
    | .error error =>
      ∃ before c rest, text = before ++ c :: rest ∧ error.position = Text.byteSize before ∧ error.token? = some [c] ∧
        (∃ tokens, tokenize before = .ok tokens) ∧ ¬ StartsLayout (c :: rest) ∧
        ∀ kind written after, c :: rest = written ++ after → ¬ Stands kind written after := by
  obtain ⟨tokens, last, cut, stuck⟩ := CutInto.exists_cut text 0
  cases last with
  | nil =>
    rw [cut.tokenize_eq]
    exact ⟨cut, cut.text_ne_nil, cut.increasing⟩
  | cons c rest =>
    rw [cut.tokenize_of_stuck (List.cons_ne_nil c rest) stuck]
    obtain ⟨front, rfl, cutFront⟩ := cut.exists_front
    refine ⟨front, c, rest, rfl, Text.offsetOf_append front _, rfl, ⟨tokens, cutFront.tokenize_eq⟩, cut.bare_last, ?_⟩
    intro kind written after split stands
    obtain ⟨token, behind, done⟩ := exists_read_of_stands stands
    rw [← split] at done
    exact stuck token behind done

end BulkSql
