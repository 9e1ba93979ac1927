import BulkSql.Proofs.Deferred.Execution
import BulkSql.Proofs.Syntax.Tokens

/-! # Detection of the kind

The kind of a statement is told from its first token before anything else of it is read. The first lexeme of every
statement is the verb of its kind, and a verb is one token, so no other kind than the detected one can have a bulk form.
-/

namespace BulkSql

open Reader

namespace Statement

/-- A statement starts with the verb of its kind. -/
theorem exists_lexemes_eq_verb_cons (statement : Statement) :
    ∃ more, statement.lexemes = .keyword (verb statement.kind) :: more := by
  cases statement with
  | insert row conflict? => exact ⟨_, rfl⟩
  | upsert row => exact ⟨_, rfl⟩
  | update written => exact ⟨_, rfl⟩

/-- What a kind is parsed from starts with its verb behind the layout, in any case. -/
theorem lookup?_leadWord_of_parse {kind : StatementKind} {sql : Text} {statement : Statement}
    (parsed : parse kind sql = .ok statement) :
    Keyword.lookup? (leadWord (skipLayout sql)) = some (verb kind) := by
  obtain ⟨rfl, -, -, rest, spells, -⟩ := spells_of_parse parsed
  obtain ⟨more, same⟩ := statement.exists_lexemes_eq_verb_cons
  rw [same] at spells
  obtain ⟨_, reads, -⟩ := spells
  exact (keyword_eq_done_iff.mp reads).1

end Statement

/-- A word that spells a keyword is the token at the start of its text. -/
theorem Token.exists_at?_zero_of_keyword {sql : Text} {keyword : Keyword}
    (spelled : Keyword.lookup? (leadWord (skipLayout sql)) = some keyword) :
    ∃ token, Token.at? sql 0 = some token ∧ token.text = leadWord (skipLayout sql) := by
  have done := Token.read_keyword spelled
  have some_ : (skipLayout sql).isEmpty = false := by
    cases same : skipLayout sql with
    | nil =>
      rw [same] at done
      obtain ⟨why, failed⟩ := Token.fails_read_nil
      cases done.symm.trans failed
    | cons c more => rfl
  unfold Token.at?
  rw [Text.fromOffset?]
  dsimp only
  rw [some_, done]
  exact ⟨_, rfl, rfl⟩

/-- A text is detected as the kind that it is parsed as. -/
theorem StatementKind.detect?_of_parse {kind : StatementKind} {sql : Text} {statement : Statement}
    (parsed : Statement.parse kind sql = .ok statement) : detect? sql = some kind := by
  have spelled := Statement.lookup?_leadWord_of_parse parsed
  obtain ⟨token, found, same⟩ := Token.exists_at?_zero_of_keyword spelled
  rw [detect?, found, Option.bind_some, same, spelled]
  cases kind <;> rfl

/-- A text is detected as the kind that it has a bulk form for. -/
theorem StatementKind.detect?_of_ofText {derived : DerivedTable} {kind : StatementKind} {sql : Text}
    {bulk : BulkStatement} (form : Bulk.ofText derived kind sql = .ok bulk) : detect? sql = some kind := by
  unfold Bulk.ofText at form
  cases parsed : Statement.parse kind sql with
  | error error => rw [parsed] at form; cases form
  | ok statement => exact detect?_of_parse parsed

theorem StatementKind.detect?_of_qualifies {derived : DerivedTable} {kind : StatementKind} {sql : Text}
    (qualified : Bulk.qualifies derived kind sql) : detect? sql = some kind := by
  unfold Bulk.qualifies at qualified
  cases form : Bulk.ofText derived kind sql with
  | error refusal => rw [form] at qualified; cases qualified
  | ok bulk => exact detect?_of_ofText form

/-- Whether the detected kind has a bulk form is whether any kind has one. -/
theorem isBulkForm_iff {sql : Text} {settings : Settings} {bulk : BulkStatement} :
    IsBulkForm sql settings bulk ↔
      ∃ kind, settings.isEnabled kind ∧ Bulk.ofText settings.derived kind sql = .ok bulk ∧ 1 ≤ bulk.parameterCount := by
  constructor
  · rintro ⟨⟨kind, -, enabled, form⟩, positive⟩
    exact ⟨kind, enabled, form, positive⟩
  · rintro ⟨kind, enabled, form, positive⟩
    exact ⟨⟨kind, StatementKind.detect?_of_ofText form, enabled, form⟩, positive⟩

namespace Deferred

/-- Detection is exact where there is something to execute in bulk. What is parsed as a kind is detected as this kind,
so a text qualifies for one kind at most; and a deferred statement with rows executes them in bulk if some enabled kind
has a bulk form of its text with a parameter, and one by one if none has, though it only ever tries the detected one. -/
theorem detection_exact (sql : Text) :
    (∀ kind statement, Statement.parse kind sql = .ok statement → StatementKind.detect? sql = some kind) ∧
      (∀ derived kind derived' kind', Bulk.qualifies derived kind sql → Bulk.qualifies derived' kind' sql →
        kind = kind') ∧
      ∀ {Connection Handle Rows : Type} (client : Client Connection Handle Rows)
        (session : Session Connection Handle),
        session.statement.sql = sql → session.statement.phase = .deferred → session.statement.batch.isEmpty = false →
        (∀ kind bulk, session.statement.settings.isEnabled kind →
          Bulk.ofText session.statement.settings.derived kind sql = .ok bulk → 1 ≤ bulk.parameterCount →
          (executeBatch client).on session = (executeBulk client bulk).on session) ∧
        ((∀ kind bulk, session.statement.settings.isEnabled kind →
          Bulk.ofText session.statement.settings.derived kind sql = .ok bulk → bulk.parameterCount = 0) →
          (executeBatch client).on session = (executeRows client).on session) := by
  refine ⟨fun kind statement => StatementKind.detect?_of_parse, ?_, ?_⟩
  · intro derived kind derived' kind' qualified qualified'
    have detected := StatementKind.detect?_of_qualifies qualified
    exact Option.some.inj (detected.symm.trans (StatementKind.detect?_of_qualifies qualified'))
  · rintro Connection Handle Rows client session rfl deferred filled
    rw [on_executeBatch_of_deferred client deferred, filled]
    constructor
    · intro kind bulk enabled form positive
      have found := (session.statement.bulk?_eq_some_iff bulk).mpr (isBulkForm_iff.mpr ⟨kind, enabled, form, positive⟩)
      rw [found]
      rfl
    · intro formless
      have none_ : session.statement.bulk? = none := by
        apply Option.eq_none_iff_forall_not_mem.mpr
        intro bulk found
        obtain ⟨kind, enabled, form, positive⟩ :=
          isBulkForm_iff.mp ((session.statement.bulk?_eq_some_iff bulk).mp found)
        exact absurd (formless kind bulk enabled form) (Nat.pos_iff_ne_zero.mp positive)
      rw [none_]
      rfl

/-- The verb is found behind a comment, in any case; with its kind switched off the rows go one by one. -/
theorem detection_exact_behind_comment :
    let sql : Text := "/* ü */ uPsert into t (a) values (?)".toList
    let session (settings : Settings) : Session Unit Unit :=
      { connection := (), statement := { sql, settings, batch := .ofRow [.ofValue 1 (.int 5)] } }
    StatementKind.detect? sql = some .upsert ∧
      (∃ bulk, Bulk.ofText {} .upsert sql = .ok bulk ∧
        (executeBatch compliantClient).on (session {}) = (executeBulk compliantClient bulk).on (session {})) ∧
      (executeBatch compliantClient).on (session { upserts := false }) =
        (executeRows compliantClient).on (session { upserts := false }) := by
  intro sql session
  obtain ⟨parses, qualifiesOnce, executes⟩ := detection_exact sql
  have parsed : (match Statement.parse .upsert sql, Bulk.ofText {} .upsert sql with
      | .ok _, .ok bulk => bulk.parameterCount == 1
      | _, _ => false) = true := by decide +kernel
  split at parsed
  · next statement bulk read form =>
    obtain ⟨inBulk, -⟩ := executes compliantClient (session {}) rfl rfl rfl
    obtain ⟨-, oneByOne⟩ := executes compliantClient (session { upserts := false }) rfl rfl rfl
    refine ⟨parses .upsert statement read, ⟨bulk, form, ?_⟩, oneByOne fun kind other enabled formed => ?_⟩
    · exact inBulk .upsert bulk rfl form (Nat.le_of_eq (beq_iff_eq.mp parsed).symm)
    · have qualified : Bulk.qualifies {} kind sql := by rw [Bulk.qualifies, formed]; rfl
      have upserts : Bulk.qualifies {} .upsert sql := by rw [Bulk.qualifies, form]; rfl
      obtain rfl := qualifiesOnce {} kind {} .upsert qualified upserts
      cases enabled
  · cases parsed

end Deferred

end BulkSql
