import BulkSql.Bulk.Form
import BulkSql.Proofs.Syntax.ErrorPlaces

/-! # Keywords that run on

A keyword that runs on into a longer word is refused for nothing that counts. Where another branch wanted something at
the same place this is reported instead; where the keyword is all that the grammar goes on with, the whole statement is
refused for nothing that counts, and is reported at the start of its text. Every other error of a statement that starts
with its verb lies behind the verb.
-/

namespace BulkSql

open Reader

variable {α β : Type} {text mid rest : Text} {why : Failure} {keyword : Keyword}

/-! ## Refusals for nothing that counts -/

/-- The reader gives up for nothing that counts. -/
def RefusesQuietly (reader : Reader α) (text : Text) : Prop := ∃ why, Refuses reader text why ∧ ¬why.Counts

theorem Reader.Refuses.unique {reader : Reader α} {why' : Failure} (refuses : Refuses reader text why)
    (other : Refuses reader text why') : why = why' := by
  unfold Refuses at refuses other
  rcases refuses with refused | refused
  · rw [refused] at other
    simpa using other
  · rw [refused] at other
    simpa using other

theorem Reader.Refuses.quietly_iff {reader : Reader α} (refuses : Refuses reader text why) :
    RefusesQuietly reader text ↔ ¬why.Counts := by
  constructor
  · rintro ⟨why', refuses', quiet⟩
    rwa [refuses.unique refuses']
  · exact fun quiet => ⟨why, refuses, quiet⟩

theorem refusesQuietly_bind_iff {first : Reader α} {next : α → Reader β} :
    RefusesQuietly (first >>= next) text ↔
      RefusesQuietly first text ∨ ∃ value mid, first text = .done value mid ∧ RefusesQuietly (next value) mid := by
  unfold RefusesQuietly
  simp only [refuses_bind_iff, or_and_right, exists_or]
  refine or_congr_right ?_
  constructor
  · rintro ⟨why, ⟨value, mid, done, refuses⟩, quiet⟩
    exact ⟨value, mid, done, why, refuses, quiet⟩
  · rintro ⟨value, mid, done, why, refuses, quiet⟩
    exact ⟨why, ⟨value, mid, done, refuses⟩, quiet⟩

theorem not_refusesQuietly_of_done {reader : Reader α} {value : α} (done : reader text = .done value rest) :
    ¬RefusesQuietly reader text := by
  rintro ⟨why, refused | refused, -⟩
  · cases done.symm.trans refused
  · cases done.symm.trans refused

theorem Reader.Accounts.not_quiet {reader : Reader α} (accounts : Accounts True reader) (bare : skipLayout text = text) :
    ¬RefusesQuietly reader text := fun ⟨_, refuses, quiet⟩ => quiet (accounts.counts bare refuses)

/-- Behind a part that is never refused quietly, only what follows may be. -/
theorem refusesQuietly_behind {first : Reader α} {next : α → Reader β} {quiet : α → Text → Prop}
    (accounts : Accounts True first) (bare : skipLayout text = text)
    (follows : ∀ value mid, skipLayout mid = mid → (RefusesQuietly (next value) mid ↔ quiet value mid)) :
    RefusesQuietly (first >>= next) text ↔ ∃ value mid, first text = .done value mid ∧ quiet value mid :=
  (refusesQuietly_bind_iff.trans (or_iff_right (accounts.not_quiet bare))).trans <|
    exists_congr fun value => exists_congr fun mid => and_congr_right fun done =>
      follows value mid (accounts.left bare done).2

/-- What follows and is never refused quietly plays no part. -/
theorem refusesQuietly_before {first : Reader α} {next : α → Reader β} {counted : Prop} (one : Accounts counted first)
    (accounts : ∀ value, Accounts True (next value)) (bare : skipLayout text = text) :
    RefusesQuietly (first >>= next) text ↔ RefusesQuietly first text := by
  refine refusesQuietly_bind_iff.trans (or_iff_left ?_)
  rintro ⟨value, mid, done, quiet⟩
  exact (accounts value).not_quiet (one.left bare done).2 quiet

theorem refusesQuietly_before_done {first : Reader α} {next : α → Reader β}
    (always : ∀ value mid, ∃ found rest, next value mid = .done found rest) :
    RefusesQuietly (first >>= next) text ↔ RefusesQuietly first text := by
  refine refusesQuietly_bind_iff.trans (or_iff_left ?_)
  rintro ⟨value, mid, -, quiet⟩
  obtain ⟨found, rest, done⟩ := always value mid
  exact not_refusesQuietly_of_done done quiet

/-! ## Keywords -/

/-- The keyword stands there in any case, but a longer word goes on with it. -/
def RunsOn (keyword : Keyword) (text : Text) : Prop :=
  ∃ written c more, text = written ++ c :: more ∧ Text.upperCase written = keyword.word ∧ isWordChar c

theorem rawKeyword_of_runsOn {written more : Text} {c : Char} (upper : Text.upperCase written = keyword.word)
    (goesOn : isWordChar c) : rawKeyword keyword (written ++ c :: more) = .fail (.leaf (c :: more) .wordEnd) := by
  have size : written.length = keyword.word.length := by rw [← upper, Text.upperCase, List.length_map]
  unfold rawKeyword
  dsimp only
  rw [← size, List.take_left, List.drop_left, if_pos upper]
  exact if_pos goesOn

theorem refusesQuietly_rawKeyword_iff : RefusesQuietly (rawKeyword keyword) text ↔ RunsOn keyword text := by
  constructor
  · rintro ⟨why, refuses, quiet⟩
    have split := List.take_append_drop keyword.word.length text
    unfold Refuses rawKeyword at refuses
    dsimp only at refuses
    by_cases upper : Text.upperCase (text.take keyword.word.length) = keyword.word
    · rw [if_pos upper] at refuses
      cases behind : text.drop keyword.word.length with
      | nil =>
        rw [behind] at refuses
        rcases refuses with refused | refused <;> cases refused
      | cons c more =>
        rw [behind] at refuses split
        by_cases goesOn : isWordChar c
        · exact ⟨_, c, more, split.symm, upper, goesOn⟩
        · dsimp only at refuses
          rw [if_neg goesOn] at refuses
          rcases refuses with refused | refused <;> cases refused
    · rw [if_neg upper] at refuses
      rcases refuses with refused | refused
      · cases refused
        exact absurd (Failure.counts_leaf.mpr (by simp)) quiet
      · cases refused
  · rintro ⟨written, c, more, rfl, upper, goesOn⟩
    exact ⟨_, .inl (rawKeyword_of_runsOn upper goesOn), Failure.counts_leaf.not.mpr (not_not.mpr rfl)⟩

/-- A keyword is refused quietly exactly where it runs on. -/
theorem refusesQuietly_keyword_iff : RefusesQuietly (Reader.keyword keyword) text ↔ RunsOn keyword text := by
  have raw : RefusesQuietly (Reader.keyword keyword) text ↔ RefusesQuietly (rawKeyword keyword) text :=
    (refusesQuietly_before_done fun _ mid => ⟨(), mid, rfl⟩).trans
      (refusesQuietly_before_done fun written mid => ⟨written, skipLayout mid, rfl⟩)
  exact raw.trans refusesQuietly_rawKeyword_iff

/-- Behind a keyword too something may be refused quietly. -/
theorem refusesQuietly_keyword_bind {next : Unit → Reader β} {quiet : Text → Prop} (bare : skipLayout text = text)
    (follows : ∀ mid, skipLayout mid = mid → (RefusesQuietly (next ()) mid ↔ quiet mid)) :
    RefusesQuietly (Reader.keyword keyword >>= next) text ↔
      RunsOn keyword text ∨ ∃ mid, Reader.keyword keyword text = .done () mid ∧ quiet mid := by
  refine refusesQuietly_bind_iff.trans (or_congr refusesQuietly_keyword_iff ?_)
  constructor
  · rintro ⟨_, mid, done, refused⟩
    exact ⟨mid, done, (follows mid ((Accounts.keyword _).left bare done).2).mp refused⟩
  · rintro ⟨mid, done, refused⟩
    exact ⟨(), mid, done, (follows mid ((Accounts.keyword _).left bare done).2).mpr refused⟩

/-! ## Statements behind their verbs -/

namespace Statement

/-- A keyword that the statement cannot do without runs on. What else might have stood there is optional, so that its
failures are not kept. -/
def RequiredRunsOn : StatementKind → (behindVerb : Text) → Prop
  | .insert, text | .upsert, text =>
    RunsOn .INTO text ∨
      ∃ afterInto, Reader.keyword .INTO text = .done () afterInto ∧
        ∃ table afterTable, readTable afterInto = .done table afterTable ∧
          ∃ names afterNames, readNames afterTable = .done names afterNames ∧ RunsOn .VALUES afterNames
  | .update, text =>
    ∃ table afterTable, readTable text = .done table afterTable ∧
      (RunsOn .SET afterTable ∨
        ∃ afterSet, Reader.keyword .SET afterTable = .done () afterSet ∧
          ∃ assignments afterAssignments, commaSeparated readSetClause afterSet = .done assignments afterAssignments ∧
            RunsOn .WHERE afterAssignments)

theorem refusesQuietly_readValues_iff (bare : skipLayout text = text) :
    RefusesQuietly readValues text ↔ RunsOn .VALUES text := by
  refine Iff.trans (refusesQuietly_before (Accounts.keyword .VALUES) (fun _ => ?_) bare) refusesQuietly_keyword_iff
  exact .located ((Accounts.consumed (.listOf .readAtom)).bind fun _ => .pure _)

theorem refusesQuietly_rowBehindVerb_iff (bare : skipLayout text = text) :
    RefusesQuietly rowBehindVerb text ↔ RequiredRunsOn .insert text := by
  refine refusesQuietly_keyword_bind bare fun afterInto bare => ?_
  refine refusesQuietly_behind .readTable bare fun table afterTable bare => ?_
  refine refusesQuietly_behind .readNames bare fun names afterNames bare => ?_
  exact (refusesQuietly_before_done fun _ mid => ⟨_, mid, rfl⟩).trans (refusesQuietly_readValues_iff bare)

theorem refusesQuietly_updateBehindVerb_iff (bare : skipLayout text = text) :
    RefusesQuietly updateBehindVerb text ↔ RequiredRunsOn .update text := by
  refine refusesQuietly_behind .readTable bare fun table afterTable bare => ?_
  refine refusesQuietly_keyword_bind bare fun afterSet bare => ?_
  refine refusesQuietly_behind (.commaSeparated .readSetClause) bare fun assignments afterAssignments bare => ?_
  have accounts : Accounts True (do
      let condition ← Expr.read
      pure ({ table, assignments, condition } : Update)) := Accounts.expression.bind fun _ => .pure _
  exact (refusesQuietly_before (Accounts.keyword _) (fun _ => accounts) bare).trans refusesQuietly_keyword_iff

/-- Behind the verb a statement is refused quietly exactly where a required keyword runs on. -/
theorem refusesQuietly_behindVerb_iff (kind : StatementKind) (bare : skipLayout text = text) :
    RefusesQuietly (behindVerb kind) text ↔ RequiredRunsOn kind text := by
  cases kind with
  | insert =>
    refine Iff.trans ?_ (refusesQuietly_rowBehindVerb_iff bare)
    have clause (place : Text) (row : RowTarget) : Accounts True (do
        let conflict? ← optional readOnConflict
        pure (place, Statement.insert row conflict?)) := (Accounts.optional .readOnConflict).bind fun _ => .pure _
    exact refusesQuietly_before .rowBehindVerb (fun found => clause found.1 found.2) bare
  | upsert =>
    exact (refusesQuietly_before_done fun _ mid => ⟨_, mid, rfl⟩).trans (refusesQuietly_rowBehindVerb_iff bare)
  | update =>
    exact (refusesQuietly_before_done fun _ mid => ⟨_, mid, rfl⟩).trans (refusesQuietly_updateBehindVerb_iff bare)

/-- A refusal behind the verb lies behind it, and counts unless a required keyword runs on. -/
theorem counts_of_whole_iff {kind : StatementKind} {behind : Text}
    (verbRead : Reader.keyword (verb kind) (skipLayout text) = .done () behind)
    (refuses : Refuses (whole kind) text why) : LiesIn behind why ∧ (why.Counts ↔ ¬RequiredRunsOn kind behind) := by
  have bare := ((Accounts.keyword _).left (skipLayout_skipLayout text) verbRead).2
  rw [← refusesQuietly_behindVerb_iff kind bare]
  rcases refuses_whole_iff.mp refuses with ⟨inner, gaveUp, rfl⟩ | ⟨found, rest, done, ended⟩
  · rw [read_eq, refuses_bind_of_done verbRead] at gaveUp
    refine ⟨liesIn_within.mpr ((Accounts.behindVerb kind).liesIn bare gaveUp), ?_⟩
    rw [Failure.counts_within, gaveUp.quietly_iff, not_not]
  · rw [read_eq, bind_of_done verbRead] at done
    obtain ⟨suffix, bareRest⟩ := (Accounts.behindVerb kind).left bare done
    exact ⟨((Accounts.ending found).liesIn bareRest ended).of_suffix suffix,
      iff_of_true ((Accounts.ending found).counts bareRest ended) (not_refusesQuietly_of_done done)⟩

end Statement

/-! ## Detected statements -/

/-- The first token of a statement whose kind is detected is its verb. -/
theorem StatementKind.verb_of_detect? {kind : StatementKind} {sql : Text} (detected : detect? sql = some kind) :
    ∃ token behind, Token.at? sql 0 = some token ∧ token.position = Text.offsetOf sql (skipLayout sql) ∧
      Reader.keyword (Statement.verb kind) (skipLayout sql) = .done () behind := by
  unfold detect? at detected
  cases found : Token.at? sql 0 with
  | none =>
    rw [found] at detected
    cases detected
  | some token =>
    rw [found, Option.bind_some] at detected
    have spelled : Keyword.lookup? token.text = some (Statement.verb kind) := by
      split at detected <;> cases detected <;> assumption
    unfold Token.at? at found
    rw [Text.fromOffset?] at found
    dsimp only at found
    split at found
    · cases found
    split at found
    · next kind' written rest done =>
      cases found
      -- a token that spells a keyword starts with a letter, and so is the whole word that stands there
      obtain ⟨mid, split_, -, stands⟩ := Token.stands_of_read done
      obtain ⟨c, more, rfl⟩ := List.exists_cons_of_ne_nil stands.ne_nil
      have letter := Keyword.isAlpha_of_lookup? spelled c (List.mem_cons_self ..)
      have start : isWordStart c := by simp [isWordStart, isLetter, letter]
      have raw := rawWord_eq_done_iff.mpr ⟨rfl, rfl, c, more ++ mid, split_, start⟩
      obtain ⟨same, -⟩ := Reply.done.inj (done.symm.trans (Token.read_word (lexeme_eq_done_iff.mpr ⟨_, raw, rfl⟩)))
      have whole : c :: more = leadWord (skipLayout sql) := congrArg Prod.snd same
      rw [whole] at spelled
      exact ⟨_, _, rfl, rfl, keyword_eq_done_iff.mpr ⟨spelled, rfl⟩⟩
    · cases found

theorem offsetOf_lt_of_suffix {whole text rest : Text} (inside : text <:+ whole) (suffix : rest <:+ text)
    (shorter : rest.length < text.length) : Text.offsetOf whole text < Text.offsetOf whole rest := by
  obtain ⟨before, rfl⟩ := inside
  obtain ⟨between, rfl⟩ := suffix
  have some_ : Text.byteSize between ≠ 0 := by
    intro nothing
    rw [Text.eq_nil_of_byteSize nothing] at shorter
    exact Nat.lt_irrefl _ shorter
  rw [Text.offsetOf_append, ← List.append_assoc, Text.offsetOf_append, Text.byteSize_append]
  omega

/-- Errors of a statement that starts with its verb lie behind the verb, except where a keyword runs on that the
statement cannot do without: then the error is at the start of the text, and nothing is expected there. -/
theorem error_behind_verb_iff {kind : StatementKind} {sql : Text} {error : ParseError}
    (detected : StatementKind.detect? sql = some kind) (refused : Statement.parse kind sql = .error error) :
    ∃ token behind, Token.at? sql 0 = some token ∧
      Reader.keyword (Statement.verb kind) (skipLayout sql) = .done () behind ∧
      (token.position < error.position ↔ ¬Statement.RequiredRunsOn kind behind) ∧
      (Statement.RequiredRunsOn kind behind → error.position = 0 ∧ error.expected = []) := by
  obtain ⟨token, behind, found, position, verbRead⟩ := StatementKind.verb_of_detect? detected
  obtain ⟨suffix, bare⟩ := (Accounts.keyword _).left (skipLayout_skipLayout sql) verbRead
  have shorter : behind.length < (skipLayout sql).length := by
    obtain ⟨spelled, rfl⟩ := keyword_eq_done_iff.mp verbRead
    exact Lexeme.length_behind_word_lt spelled
  have later := offsetOf_lt_of_suffix (skipLayout_suffix sql) suffix shorter
  refine ⟨token, behind, found, verbRead, ?_⟩
  rw [position]
  rcases Statement.error_cases refused with
    ⟨why, refuses, rfl⟩ | ⟨behind', statement, rest, valuesAt, columns, values, verbRead', done, suffix', -, rfl⟩
  · obtain ⟨lies, counts⟩ := Statement.counts_of_whole_iff verbRead refuses
    rw [← counts]
    by_cases counted : why.Counts
    · refine ⟨iff_of_true ?_ counted, fun runsOn => absurd runsOn (counts.mp counted)⟩
      obtain ⟨leaf, member, wanted⟩ := counted
      calc Text.offsetOf sql (skipLayout sql)
        _ < Text.offsetOf sql behind := later
        _ ≤ Text.offsetOf sql leaf.1 := Token.Scans.offsetOf_le_of_suffix (lies leaf member).1
        _ ≤ (why.furthest sql).position := Failure.le_furthest member wanted
    · have nothing := Failure.furthest_of_not_counts counted sql
      have start : (ParseError.ofFailure sql why).position = 0 := congrArg Failure.Furthest.position nothing
      exact ⟨iff_of_false (by omega) counted, fun _ => ⟨start, congrArg Failure.Furthest.expected nothing⟩⟩
  · cases verbRead.symm.trans verbRead'
    have fine : ¬Statement.RequiredRunsOn kind behind := by
      rw [← Statement.refusesQuietly_behindVerb_iff kind bare]
      exact not_refusesQuietly_of_done done
    refine ⟨iff_of_true ?_ fine, fun runsOn => absurd runsOn fine⟩
    exact Nat.lt_of_lt_of_le later (Token.Scans.offsetOf_le_of_suffix suffix')

/-- The columns are missing: the error stands where they should, behind the verb and the blank in front of it. -/
theorem error_behind_verb_iff_missing_columns :
    let sql : Text := " insert into t values (?)".toList
    StatementKind.detect? sql = some .insert ∧
      ∃ error token behind, Statement.parse .insert sql = .error error ∧ Token.at? sql 0 = some token ∧
        Reader.keyword .INSERT (skipLayout sql) = .done () behind ∧ token.position < error.position ∧
        ¬Statement.RequiredRunsOn .insert behind := by
  intro sql
  have detected : StatementKind.detect? sql = some .insert := by decide +kernel
  have refused := Statement.refusal?_eq_some_iff.mp (show Statement.refusal? .insert sql = some
    { cause := .unexpected, token? := some "values".toList, position := 15, line := 1, column := 16, expected := ["("] }
    by decide +kernel)
  have first : Token.at? sql 0 = some ⟨.keyword, "insert".toList, 1⟩ := by decide +kernel
  obtain ⟨token, behind, found, verbRead, later, -⟩ := error_behind_verb_iff detected refused
  cases first.symm.trans found
  exact ⟨detected, _, _, behind, refused, first, verbRead, by decide, later.mp (by decide)⟩

/-- With INTO running on, the error stands at the verb, and what was missed behind it is not told. -/
theorem error_at_verb_of_run_on_keyword :
    let sql : Text := "insert intox t (a) values (?)".toList
    StatementKind.detect? sql = some .insert ∧
      ∃ error token, Statement.parse .insert sql = .error error ∧ Token.at? sql 0 = some token ∧
        token.text = "insert".toList ∧ error.token? = some token.text ∧ error.expected = [] ∧
        ¬token.position < error.position := by
  intro sql
  have refused := Statement.refusal?_eq_some_iff.mp (show Statement.refusal? .insert sql = some
    { cause := .unexpected, token? := some "insert".toList, position := 0, line := 1, column := 1, expected := [] }
    by decide +kernel)
  have first : Token.at? sql 0 = some ⟨.keyword, "insert".toList, 0⟩ := by decide +kernel
  exact ⟨by decide +kernel, _, _, refused, first, rfl, rfl, rfl, by decide⟩

end BulkSql
