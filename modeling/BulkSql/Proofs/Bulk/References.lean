import BulkSql.Proofs.Bulk.UpdateForm
import BulkSql.Proofs.Syntax.Forms
import BulkSql.Proofs.Url.Settings

/-! # Parameters as columns

In the bulk form of an UPDATE each parameter stands as a column of the derived table. The names that settings give to this
table and its columns are bare words, and words with a number behind them are never reserved; but the name of the table
alone may be, and then the grammar reads none of the columns.
-/

namespace BulkSql

open Reader

/-! ## Texts inside of texts -/

/-- A text stands in another one, and what stands behind it ends it. -/
def StandsIn (inner whole : Text) : Prop := ∃ before after, whole = before ++ (inner ++ after) ∧ Ends after

namespace StandsIn

variable {inner text whole : Text}

theorem refl (text : Text) : StandsIn text text := ⟨[], [], by simp, ends_nil⟩

theorem trans (stands : StandsIn inner text) (wider : StandsIn text whole) : StandsIn inner whole := by
  obtain ⟨before, after, rfl, ends⟩ := stands
  obtain ⟨front, back, rfl, endsBack⟩ := wider
  refine ⟨front ++ before, after ++ back, by simp, ?_⟩
  cases after with
  | nil => exact endsBack
  | cons c more => exact ends

/-- The text at the end of another one. -/
theorem behind (before text : Text) : StandsIn text (before ++ text) := ⟨before, [], by simp, ends_nil⟩

theorem commaList {parts : List Text} (member : text ∈ parts) : StandsIn text (Text.commaList parts) := by
  induction parts with
  | nil => cases member
  | cons first more ih =>
    rcases List.mem_cons.mp member with rfl | inside
    · cases more with
      | nil => simpa [Text.commaList, Text.join] using refl text
      | cons next more =>
        exact ⟨[], ", " ++ Text.commaList (next :: more), rfl, ends_cons (by decide) _⟩
    · cases more with
      | nil => cases inside
      | cons next more =>
        refine (ih inside).trans ?_
        have whole : Text.commaList (first :: next :: more) = first ++ ", " ++ Text.commaList (next :: more) := by
          simp [Text.commaList, Text.join, List.intercalate]
        rw [whole]
        exact behind _ _

end StandsIn

/-! ## Replaced parameters -/

section Replaced

variable {replacement : Replacement} {number : Nat}

/-- The text that stands for the parameter with a number. -/
def Replacement.written (replacement : Replacement) (number : Nat) : Text := (replacement.placeholder number).text

theorem Expr.exists_written_of_replaceAll {trees : List Expr}
    (each : ∀ tree ∈ trees, ∀ n, n < number → number ≤ n + tree.placeholders →
      StandsIn (replacement.written number) (tree.replace replacement n).text) {n : Nat} (after : n < number)
    (before : number ≤ n + placeholdersOfAll trees) :
    ∃ text ∈ (replaceAll replacement trees n).map Expr.text, StandsIn (replacement.written number) text := by
  induction trees generalizing n with
  | nil =>
    rw [placeholdersOfAll] at before
    omega
  | cons first more ih =>
    obtain ⟨here, others⟩ := List.forall_mem_cons.mp each
    rw [placeholdersOfAll] at before
    rw [replaceAll, List.map_cons]
    by_cases inFirst : number ≤ n + first.placeholders
    · exact ⟨_, .head _, here n after inFirst⟩
    · obtain ⟨text, member, stands⟩ := ih others (Nat.not_le.mp inFirst) (by omega)
      exact ⟨text, .tail _ member, stands⟩

/-- Two operands with an operator between. -/
theorem StandsIn.operand {inner left right : Text} (op : Text) (side : StandsIn inner left ∨ StandsIn inner right) :
    StandsIn inner (left ++ " " ++ op ++ " " ++ right) := by
  rcases side with stands | stands
  · exact stands.trans ⟨[], " " ++ op ++ " " ++ right, by simp, ends_cons (by decide) _⟩
  · exact stands.trans (.behind _ _)

/-- Every parameter of a tree stands in the text of the replaced tree. -/
theorem Expr.standsIn_replace (tree : Expr) {n : Nat} (after : n < number) (before : number ≤ n + tree.placeholders) :
    StandsIn (replacement.written number) (tree.replace replacement n).text := by
  induction tree using Expr.induction generalizing n with
  | placeholder =>
    obtain rfl : number = n + 1 := Nat.le_antisymm before after
    exact .refl _
  | literal written | column reference => exact absurd before (Nat.not_le.mpr after)
  | call name arguments ih =>
    obtain ⟨text, member, stands⟩ := exists_written_of_replaceAll (fun tree inside n => @ih tree inside n) after before
    rw [replace, Expr.text, textOfAll_eq_map]
    exact (stands.trans (.commaList member)).trans ⟨name ++ "(", ")", by simp, ends_cons (by decide) _⟩
  | nested inner ih =>
    exact (ih after before).trans ⟨"(", ")", by simp [replace, Expr.text], ends_cons (by decide) _⟩
  | cast inner type ih =>
    exact (ih after before).trans ⟨[], "::" ++ type, by simp [replace, Expr.text], ends_cons (by decide) _⟩
  | signed sign inner ih => exact (ih after before).trans (.behind _ _)
  | arithmetic op left right ihLeft ihRight | comparison op left right ihLeft ihRight
  | logical op left right ihLeft ihRight =>
    rw [placeholders, ← Nat.add_assoc] at before
    refine StandsIn.operand op.text ?_
    by_cases inLeft : number ≤ n + left.placeholders
    · exact .inl (ihLeft after inLeft)
    · exact .inr (ihRight (Nat.not_le.mp inLeft) before)
  | isNull inner negated ih =>
    exact (ih after before).trans ⟨[], " " ++ if negated then "IS NOT NULL" else "IS NULL",
      by simp [replace, Expr.text], ends_cons (by decide) _⟩

theorem SetClause.standsIn_replaceAll {clauses : List SetClause} {n : Nat} (after : n < number)
    (before : number ≤ n + placeholdersOfAll clauses) :
    ∃ text ∈ (replaceAll replacement clauses n).map SetClause.text, StandsIn (replacement.written number) text := by
  induction clauses generalizing n with
  | nil => exact absurd before (Nat.not_le.mpr after)
  | cons first more ih =>
    rw [placeholdersOfAll, List.map_cons, List.sum_cons, ← Nat.add_assoc] at before
    rw [replaceAll, List.map_cons]
    by_cases inFirst : number ≤ n + first.value.placeholders
    · exact ⟨_, .head _, (first.value.standsIn_replace after inFirst).trans (.behind _ _)⟩
    · obtain ⟨text, member, stands⟩ := ih (Nat.not_le.mp inFirst) before
      exact ⟨text, .tail _ member, stands⟩

/-- Every parameter of an UPDATE stands in the text of the replaced UPDATE, whatever it is joined with. -/
theorem Update.standsIn_replace (update : Update) (join : Text) (positive : 0 < number)
    (before : number ≤ update.placeholders) :
    StandsIn (replacement.written number) ((update.replace replacement).textWith (' ' :: join)) := by
  by_cases assigned : number ≤ SetClause.placeholdersOfAll update.assignments
  · obtain ⟨text, member, stands⟩ := @SetClause.standsIn_replaceAll replacement number _ _ positive (by rwa [Nat.zero_add])
    refine (stands.trans (.commaList member)).trans ?_
    delta textWith
    rw [List.append_assoc _ (' ' :: join), List.append_assoc _ (' ' :: join ++ _), List.append_assoc]
    exact ⟨_, _, rfl, ends_cons (by decide) _⟩
  · delta textWith
    exact (update.condition.standsIn_replace (Nat.not_le.mp assigned) before).trans (.behind _ _)

end Replaced

/-! ## Reading them -/

namespace Reader

/-- A bare word is a name exactly if it is not reserved. -/
theorem identifier_word_iff {word found after rest : Text} (bare : IsBareWord word) (clear : Clear isWordChar after) :
    identifier (word ++ after) = .done found rest ↔
      isReserved word = false ∧ found = word ∧ rest = skipLayout after := by
  have raw := rawWord_of_isBareWord bare clear
  rw [identifier_eq_done_iff]
  constructor
  · rintro (quoted | read)
    · obtain ⟨mid, opened, -⟩ := lexeme_eq_done_iff.mp quoted
      obtain ⟨body, inside, -, starts, -⟩ := rawQuoted_eq_done_iff.mp opened
      obtain ⟨c, more, rfl, start, -⟩ := bare
      cases starts
      exact absurd start (by decide)
    · obtain ⟨isWord, free⟩ := bareName_eq_done_iff.mp read
      obtain ⟨mid, again, rfl⟩ := lexeme_eq_done_iff.mp isWord
      cases raw.symm.trans again
      exact ⟨free, rfl, rfl⟩
  · rintro ⟨free, rfl, rfl⟩
    exact .inr (bareName_eq_done_iff.mpr ⟨lexeme_eq_done_iff.mpr ⟨after, raw, rfl⟩, free⟩)

end Reader

namespace Bulk

variable {derived : DerivedTable}

/-- A parameter as it is written in the bulk form: a column of the derived table. -/
def reference (derived : DerivedTable) (number : Nat) : Text := derived.name ++ '.' :: derived.column number

/-- The grammar takes the whole text for the column of the derived table that has the number of the parameter. -/
def ReadsReference (derived : DerivedTable) (number : Nat) (after : Text) : Prop :=
  Expr.readColumn (reference derived number ++ after) =
    .done (.column { qualifier? := some derived.name, name := derived.column number }) (skipLayout after)

/-- A name with a bare word behind a point, neither of them reserved. -/
theorem readDotted_words {qualifier word after : Text} (isQualifier : IsBareWord qualifier) (isWord : IsBareWord word)
    (qualifierFree : isReserved qualifier = false) (wordFree : isReserved word = false) (ends : Clear isWordChar after) :
    Expr.readDotted (qualifier ++ '.' :: (word ++ after)) = .done (some qualifier, word) (skipLayout after) := by
  have dot : Clear isWordChar ('.' :: (word ++ after)) := clear_cons.mpr rfl
  have first := (identifier_word_iff isQualifier dot).mpr ⟨qualifierFree, rfl, rfl⟩
  have bare : StartsBare ('.' :: (word ++ after)) := by simp [StartsBare, isSpace]
  rw [skipLayout_of_startsBare bare] at first
  have second := (identifier_word_iff isWord ends).mpr ⟨wordFree, rfl, rfl⟩
  have name : (Lexeme.name word).Reads (word ++ after) (skipLayout after) := second
  have noLayout := skipLayout_of_startsBare (name.startsBare (by simp))
  have point : symbol ['.'] ('.' :: (word ++ after)) = .done ['.'] (word ++ after) :=
    symbol_eq_done_iff.mpr ⟨rfl, _, rfl, noLayout.symm⟩
  have behind : (do let _ ← symbol ['.']; identifier) ('.' :: (word ++ after)) = .done word (skipLayout after) := by
    apply (bind_of_done point _).trans
    exact second
  exact (bind_of_done first _).trans (bind_of_done (optional_of_done behind) _)

/-- Wherever a parameter stands it is read exactly if the name of the derived table is not reserved. -/
theorem readsReference_iff (named : IsBareWord derived.name) (stem : IsBareWord derived.columnStem) (number : Nat)
    {after : Text} (ends : Ends after) : ReadsReference derived number after ↔ isReserved derived.name = false := by
  have whole : reference derived number ++ after = derived.name ++ '.' :: (derived.column number ++ after) := by
    rw [reference, List.append_assoc, List.cons_append]
  rw [ReadsReference, whole]
  constructor
  · intro read
    obtain ⟨names, behind, dotted, -⟩ := bind_eq_done_iff.mp read
    obtain ⟨first, mid, name, -⟩ := bind_eq_done_iff.mp dotted
    exact ((identifier_word_iff named (clear_cons.mpr rfl)).mp name).1
  · intro free
    have dotted := readDotted_words named (isBareWord_numbered stem number) free
      (isReserved_numbered derived.columnStem number) (ends.clear (by simp [isWordChar]))
    exact bind_of_done dotted _

theorem written_joined (derived : DerivedTable) (table : TableRef) (number : Nat) :
    (joined derived table).written number = reference derived number := rfl

/-- A form has a join in front of its condition exactly if there are parameters. -/
theorem exists_joinText {parameters : Nat} (some_ : parameters ≠ 0) :
    ∃ join, joinText derived parameters = ' ' :: join := by
  rw [joinText, if_neg some_]
  exact ⟨_, rfl⟩

/-- With the names of a url, the bulk form of an UPDATE with parameters has a reference for each of them. The grammar
takes it for a column of the derived table exactly if the name of this table is not reserved, wherever it stands. -/
theorem references_read_iff {dsn sql : Text} {settings : Settings} {update : Update}
    (accepted : Settings.ofUrl dsn = .ok settings) (parsed : Statement.parse .update sql = .ok (.update update))
    (some_ : update.placeholders ≠ 0) :
    ∃ bulk, ofText settings.derived .update sql = .ok bulk ∧ bulk.parameterCount = update.placeholders ∧
      ∀ number, 0 < number → number ≤ update.placeholders →
        StandsIn (reference settings.derived number) bulk.sql ∧
          ∀ after, Ends after →
            (ReadsReference settings.derived number after ↔ isReserved settings.derived.name = false) := by
  have named := @Settings.isBareWord_of_choice _ _ accepted .derivedName _ rfl
  have stem := @Settings.isBareWord_of_choice _ _ accepted .columnStem _ rfl
  refine ⟨_, ofText_of_parse parsed, rfl, fun number positive before => ⟨?_, fun after ends => ?_⟩⟩
  · obtain ⟨join, joins⟩ := @exists_joinText settings.derived _ some_
    rw [joins, ← written_joined settings.derived update.table]
    exact update.standsIn_replace join positive before
  · exact readsReference_iff named stem number ends

/-- The default names. -/
theorem references_read_iff_one_parameter :
    ∃ settings update, Settings.ofUrl "postgresql://localhost/db" = .ok settings ∧
      Statement.parse .update "update t set a = ? where b = 1" = .ok (.update update) ∧ update.placeholders ≠ 0 ∧
      ReadsReference settings.derived 1 [] := by
  have accepted : Settings.ofUrl "postgresql://localhost/db" = .ok {} := by decide +kernel
  have checked : (match Statement.parse .update "update t set a = ? where b = 1" with
      | .ok (.update update) => update.placeholders == 1
      | _ => false) = true := by decide +kernel
  split at checked
  · next update parsed =>
    have one := beq_iff_eq.mp checked
    have some_ : update.placeholders ≠ 0 := by
      rw [one]
      decide
    obtain ⟨bulk, -, -, each⟩ := references_read_iff accepted parsed some_
    obtain ⟨-, reads⟩ := each 1 Nat.one_pos (by rw [one])
    exact ⟨{}, update, accepted, parsed, some_, (reads [] ends_nil).mpr (by decide)⟩
  · cases checked

/-- A reserved word is taken from a url as the name of the derived table, and the grammar finds no column in the bulk form
where the parameter stands. -/
theorem reference_of_reserved_name_fails :
    ∃ settings, Settings.ofUrl "postgresql://localhost/db?rewriteDerivedAlias=select" = .ok settings ∧
      ofText settings.derived .update "update t set a = ? where b = 1" =
        .ok {
          sql := "UPDATE t SET a = select.p1 FROM (SELECT unnest(?) AS p1) AS select WHERE t.b = 1"
          parameterCount := 1 } ∧
      ¬ ReadsReference settings.derived 1 " FROM (SELECT unnest(?) AS p1) AS select WHERE t.b = 1" := by
  have accepted : Settings.ofUrl "postgresql://localhost/db?rewriteDerivedAlias=select" =
      .ok { derived.name := "select" } := by decide +kernel
  have named := @Settings.isBareWord_of_choice _ _ accepted .derivedName _ rfl
  have stem := @Settings.isBareWord_of_choice _ _ accepted .columnStem _ rfl
  refine ⟨_, accepted, by decide +kernel, fun reads => ?_⟩
  have ends : Ends " FROM (SELECT unnest(?) AS p1) AS select WHERE t.b = 1" := ends_cons (by decide) _
  have free := (readsReference_iff named stem 1 ends).mp reads
  exact absurd free (by decide)

end Bulk

end BulkSql
