import BulkSql.Proofs.Bulk.JoinedText

/-! # Columns that are not captured

The bulk form of an UPDATE tells the columns of the updated table from those of the derived table, unless the updated
table has the name of the derived one and a column is named like a parameter. Otherwise the form decides the UPDATE, up
to whether columns are written with their table.
-/

namespace BulkSql

open Reader Lexeme

namespace Bulk

/-- Columns behind the name of the updated table, without its schema. -/
def qualify (table : TableRef) : Replacement where
  placeholder _ := .placeholder
  column reference := .column { reference with qualifier? := some table.table }

end Bulk

/-- The UPDATE with every column written with its table. -/
def Update.qualified (update : Update) : Update := update.replace (Bulk.qualify update.table)

namespace Bulk

variable {derived : DerivedTable} {table : TableRef} {reference : ColumnRef}

/-! ## Lexemes around the join -/

theorem isPlaceholder_eq_of_alike {lexeme other : Lexeme} (alike : Alike lexeme other) :
    lexeme.isPlaceholder = other.isPlaceholder := by
  obtain ⟨kind, written, isToken, isToken'⟩ := alike
  have first := @IsToken.isPlaceholder_eq lexeme { kind, text := written, position := 0 } isToken
  have second := @IsToken.isPlaceholder_eq other { kind, text := written, position := 0 } isToken'
  exact first.symm.trans second

theorem placeholders_eq_of_alike {first second : List Lexeme} (alike : List.Forall₂ Alike first second) :
    placeholders first = placeholders second := by
  induction alike with
  | nil => rfl
  | cons here _ ih => rw [placeholders_cons, placeholders_cons, ih, isPlaceholder_eq_of_alike here]

/-- The first placeholder is the same in sequences with the same tokens. -/
theorem length_eq_of_alike {front front' back back' : List Lexeme} (none_ : placeholders front = 0)
    (none' : placeholders front' = 0)
    (alike : List.Forall₂ Alike (front ++ .placeholder :: back) (front' ++ .placeholder :: back')) :
    front.length = front'.length := by
  induction front generalizing front' with
  | nil =>
    cases front' with
    | nil => rfl
    | cons lexeme front' =>
      cases alike with
      | cons here _ =>
        rw [placeholders_cons, ← isPlaceholder_eq_of_alike here] at none'
        simp [isPlaceholder] at none'
  | cons lexeme front ih =>
    cases front' with
    | nil =>
      cases alike with
      | cons here _ =>
        rw [placeholders_cons, isPlaceholder_eq_of_alike here] at none_
        simp [isPlaceholder] at none_
    | cons lexeme' front' =>
      cases alike with
      | cons _ alike =>
        rw [placeholders_cons, Nat.add_eq_zero_iff] at none_ none'
        exact congrArg Nat.succ (ih none_.1 none'.1 alike)

theorem alike_of_append {front front' back back' : List Lexeme} (same : front.length = front'.length)
    (alike : List.Forall₂ Alike (front ++ back) (front' ++ back')) :
    List.Forall₂ Alike front front' ∧ List.Forall₂ Alike back back' := by
  have first := List.forall₂_take_append _ _ _ alike
  have second := List.forall₂_drop_append _ _ _ alike
  rw [← same, List.take_left] at first
  rw [← same, List.drop_left] at second
  exact ⟨first, second⟩

theorem placeholders_joinLexemes (parameters : Nat) : placeholders (joinLexemes derived parameters) = parameters := by
  have element (column : Text) : placeholders (elementLexemes column) = 1 := rfl
  have keyword (word : Keyword) : (Lexeme.keyword word).isPlaceholder = false := rfl
  unfold joinLexemes
  split
  · next nothing => rw [nothing, placeholders_nil]
  · simp [placeholders_commaList, Function.comp_def, element, keyword, wordLexeme_isPlaceholder]

/-- Up to its first placeholder every join is the same. -/
theorem exists_joinLexemes {parameters : Nat} (some_ : parameters ≠ 0) :
    ∃ more, joinLexemes derived parameters = [.keyword .FROM, .symbol ['('], .keyword .SELECT, .name "unnest",
      .symbol ['(']] ++ .placeholder :: more := by
  obtain ⟨more, rfl⟩ := Nat.exists_eq_succ_of_ne_zero some_
  rw [joinLexemes, if_neg some_, List.range_succ_eq_map]
  exact ⟨_, rfl⟩

/-- Joins of forms with the same tokens may be left out. -/
theorem alike_without_join {front front' back back' : List Lexeme} {parameters parameters' : Nat}
    (noneFront : placeholders front = 0) (noneFront' : placeholders front' = 0) (noneBack : placeholders back = 0)
    (noneBack' : placeholders back' = 0)
    (alike : List.Forall₂ Alike (front ++ (joinLexemes derived parameters ++ back))
      (front' ++ (joinLexemes derived parameters' ++ back'))) :
    List.Forall₂ Alike (front ++ back) (front' ++ back') := by
  have counts := placeholders_eq_of_alike alike
  simp only [placeholders_append, placeholders_joinLexemes, noneFront, noneFront', noneBack, noneBack',
    Nat.zero_add, Nat.add_zero] at counts
  subst counts
  by_cases nothing : parameters = 0
  · subst nothing
    exact alike
  · obtain ⟨more, join⟩ := @exists_joinLexemes derived parameters nothing
    have lengths : front.length = front'.length := by
      have whole := alike
      rw [join, List.append_assoc, List.append_assoc, ← List.append_assoc front, ← List.append_assoc front',
        List.cons_append, List.cons_append] at whole
      have same := length_eq_of_alike (by rw [placeholders_append, noneFront]; rfl)
        (by rw [placeholders_append, noneFront']; rfl) whole
      rw [List.length_append, List.length_append] at same
      exact Nat.add_right_cancel same
    obtain ⟨fronts, behind⟩ := alike_of_append lengths alike
    exact List.rel_append fronts (alike_of_append rfl behind).2

/-! ## Leaves as names -/

/-- A column that the UPDATE itself writes with nothing or with its table in front of it. -/
def IsOwn (table : TableRef) (reference : ColumnRef) : Prop :=
  reference.qualifier? = none ∨ reference.qualifier? = some table.table

instance : Decidable (IsOwn table reference) := inferInstanceAs (Decidable (_ ∨ _))

/-- A column that the form does not write like one of the derived table. Behind a schema nothing is written like it. -/
def IsApart (derived : DerivedTable) (table : TableRef) (reference : ColumnRef) : Prop :=
  ∀ number, table.table = derived.name → table.schema? = none ∨ reference.qualifier?.isSome →
    reference.name ≠ derived.column number

/-- A column of the updated table in the form: behind its schema too, if nothing was in front of it. -/
def ownLexemes (table : TableRef) (reference : ColumnRef) : List Lexeme :=
  match table.schema?, reference.qualifier? with
  | some schema, none => names schema [table.table, reference.name]
  | _, _ => names table.table [reference.name]

theorem names_injective {name name' : Text} {more more' : List Text} (same : names name more = names name' more') :
    name = name' ∧ more = more' := by
  have alike : List.Forall₂ Alike (names name more ++ []) (names name' more' ++ []) := by
    rw [same]
    exact List.forall₂_same.mpr fun lexeme _ => alike_refl lexeme
  obtain ⟨first, others, -⟩ := names_inj alike (by simp) (by simp)
  exact ⟨first, others⟩

/-- No name without quotes has a schema. -/
theorem text_of_bareWord {word : Text} (bare : IsBareWord word) (same : word = table.text) :
    table.schema? = none ∧ table.table = word := by
  obtain ⟨schema?, table⟩ := table
  cases schema? with
  | none => exact ⟨rfl, same.symm⟩
  | some schema =>
    have dot : '.' ∈ word := by
      rw [same, TableRef.text, BulkSql.dotted]
      simp
    exact absurd (isWordChar_of_isBareWord bare '.' dot) (by decide)

theorem spelledColumn_derived (named : IsBareWord derived.name) (free : isReserved derived.name = false)
    (table : TableRef) (name : Text) :
    spelledColumn table { qualifier? := some derived.name, name } = names derived.name [name] := by
  unfold spelledColumn
  dsimp only
  split
  · next same =>
    obtain ⟨bare, first⟩ := text_of_bareWord named same
    rw [bare, first]
    rfl
  · rw [wordLexeme_of_isName (.inl ⟨named, free⟩)]
    rfl

theorem spelledColumn_own (isName : IsName table.table) (own : IsOwn table reference) :
    spelledColumn table { reference with qualifier? := some (reference.qualifier?.getD table.text) } =
      ownLexemes table reference := by
  obtain ⟨schema?, table⟩ := table
  obtain ⟨qualifier?, name⟩ := reference
  unfold spelledColumn ownLexemes
  dsimp only
  rcases own with bare | own
  · obtain rfl : qualifier? = none := bare
    rw [Option.getD_none, if_pos rfl]
    cases schema? <;> rfl
  · obtain rfl : qualifier? = some table := own
    rw [Option.getD_some]
    split
    · next same =>
      cases schema? with
      | none => rfl
      | some schema =>
        have lengths := congrArg List.length same
        rw [TableRef.text, BulkSql.dotted, List.length_append, List.length_cons] at lengths
        dsimp only at lengths
        omega
    · rw [wordLexeme_of_isName isName]
      cases schema? <;> rfl

/-- Own columns that are written alike have the same name. -/
theorem name_of_ownLexemes {other : ColumnRef} (same : ownLexemes table reference = ownLexemes table other) :
    reference.name = other.name := by
  have last (reference : ColumnRef) :
      ∃ first more, ownLexemes table reference = names first (more ++ [reference.name]) := by
    unfold ownLexemes
    split
    · exact ⟨_, [table.table], rfl⟩
    · exact ⟨_, [], rfl⟩
  obtain ⟨first, more, written⟩ := last reference
  obtain ⟨first', more', written'⟩ := last other
  rw [written, written'] at same
  exact List.singleton_inj.mp (List.append_inj_right' (names_injective same).2 rfl)

theorem IsApart.ownLexemes_ne (apart : IsApart derived table reference) (number : Nat) :
    ownLexemes table reference ≠ names derived.name [derived.column number] := by
  intro same
  unfold ownLexemes at same
  split at same
  · obtain ⟨-, more⟩ := names_injective same
    have lengths := congrArg List.length more
    simp at lengths
  · next free =>
    obtain ⟨first, more⟩ := names_injective same
    refine apart number first ?_ (List.head_eq_of_cons_eq more)
    cases hasSchema : table.schema? with
    | none => exact .inl rfl
    | some schema =>
      cases hasQualifier : reference.qualifier? with
      | none => exact (free schema hasSchema hasQualifier).elim
      | some qualifier => exact .inr rfl

/-- A leaf of the form in place of a parameter, or of an own column that is apart behind its table. -/
abbrev IsOwnLeaf (derived : DerivedTable) (table : TableRef) : List Lexeme → List Lexeme → Prop :=
  IsLeaf derived table (fun reference => IsOwn table reference ∧ IsApart derived table reference) fun reference =>
    names table.table [reference.name]

/-- Own columns that are apart can be told from parameters. -/
theorem isDotted_ownLeaf (named : IsBareWord derived.name) (free : isReserved derived.name = false)
    (isName : IsName table.table) : Leafwise.IsDotted (IsOwnLeaf derived table) := by
  have shape {written other : List Lexeme} (leaf : IsOwnLeaf derived table written other) :
      (∃ number, written = names derived.name [derived.column number] ∧ other = [.placeholder]) ∨
        ∃ reference, IsApart derived table reference ∧ written = ownLexemes table reference ∧
          other = names table.table [reference.name] := by
    cases leaf with
    | placeholder number => exact .inl ⟨number, spelledColumn_derived named free table _, rfl⟩
    | column isOwn => exact .inr ⟨_, isOwn.2, spelledColumn_own isName isOwn.1, rfl⟩
  constructor
  · intro written other leaf
    rcases shape leaf with ⟨number, rfl, -⟩ | ⟨reference, -, rfl, -⟩
    · exact ⟨_, _, _, rfl⟩
    · unfold ownLexemes
      split <;> exact ⟨_, _, _, rfl⟩
  · intro written other other' leaf leaf'
    rcases shape leaf with ⟨number, rfl, rfl⟩ | ⟨reference, apart, rfl, rfl⟩
    · rcases shape leaf' with ⟨_, -, rfl⟩ | ⟨reference', apart', same, -⟩
      · rfl
      · exact absurd same.symm (apart'.ownLexemes_ne number)
    · rcases shape leaf' with ⟨number, same, -⟩ | ⟨reference', apart', same, rfl⟩
      · exact absurd same (apart.ownLexemes_ne number)
      · rw [name_of_ownLexemes same]

/-! ## Forms with the same text -/

/-- The lexemes of an UPDATE in front of its assignments. -/
def leadLexemes (table : TableRef) : List Lexeme :=
  .keyword .UPDATE :: (Lexeme.dotted table.schema? table.table ++ [.keyword .SET])

/-- The form has the lexemes of the qualified UPDATE but at its leaves, and the join. -/
theorem leafwise_qualified (derived : DerivedTable) {update : Update}
    (own : ∀ reference ∈ update.columns, IsOwn update.table reference)
    (apart : ∀ reference ∈ update.columns, IsApart derived update.table reference) :
    ∃ clauses condition behind,
      formLexemes derived update = leadLexemes update.table ++ (clauses ++
        (joinLexemes derived update.placeholders ++ .keyword .WHERE :: condition)) ∧
      update.qualified.lexemes = leadLexemes update.table ++ behind ∧
      placeholders clauses = 0 ∧ placeholders (.keyword .WHERE :: condition) = 0 ∧
      Leafwise (IsOwnLeaf derived update.table) (clauses ++ .keyword .WHERE :: condition) behind := by
  have leaves (reference : ColumnRef) (member : reference ∈ update.columns) :
      IsOwnLeaf derived update.table
        (((joined derived update.table).column reference).spelled (spelledColumn update.table))
        ((qualify update.table).column reference).lexemes :=
    .column ⟨own reference member, apart reference member⟩
  obtain ⟨clauses, condition⟩ := update.leafwise_replace (fun number => .placeholder number) leaves
  have filter := @Leafwise.wordy _ (.keyword .WHERE) (by simp) (by simp) _ _ condition
  refine ⟨_, _, _, ?_, ?_, clauses.placeholders_eq_zero fun _ _ => IsLeaf.placeholders_eq_zero,
    filter.placeholders_eq_zero fun _ _ => IsLeaf.placeholders_eq_zero, clauses.append filter⟩
  · simp [formLexemes, leadLexemes, Update.spelledWith, Update.replace]
  · simp [Update.lexemes, leadLexemes, Update.qualified, Update.replace]

/-- Forms with the same tokens are those of UPDATEs that have the same tokens once they are qualified. -/
theorem alike_qualified (named : IsBareWord derived.name) (free : isReserved derived.name = false)
    {update other : Update} (same : other.table = update.table) (isName : IsName update.table.table)
    (own : ∀ reference ∈ update.columns ++ other.columns, IsOwn update.table reference)
    (apart : ∀ reference ∈ update.columns ++ other.columns, IsApart derived update.table reference)
    (alike : List.Forall₂ Alike (formLexemes derived update) (formLexemes derived other)) :
    List.Forall₂ Alike update.qualified.lexemes other.qualified.lexemes := by
  rw [List.forall_mem_append] at own apart
  obtain ⟨clauses, condition, behind, form, whole, none_, noneWhere, leafwise⟩ :=
    leafwise_qualified derived own.1 apart.1
  rw [← same] at own apart
  obtain ⟨clauses', condition', behind', form', whole', none', noneWhere', leafwise'⟩ :=
    leafwise_qualified derived own.2 apart.2
  rw [form, form', same] at alike
  rw [same] at leafwise'
  have assigned := (alike_of_append rfl alike).2
  have behindLead := leafwise.alike (isDotted_ownLeaf named free isName) leafwise'
    (alike_without_join none_ none' noneWhere noneWhere' assigned)
  rw [whole, whole', same]
  exact List.rel_append (List.forall₂_same.mpr fun lexeme _ => alike_refl lexeme) behindLead

theorem qualify_isPrimary : (qualify table).IsPrimary where
  placeholder _ := ⟨.placeholder, rfl⟩
  column _ := ⟨.column _, rfl⟩

/-- A qualified UPDATE can be read if the UPDATE can. -/
theorem allRead_qualify {update : Update} (isName : IsName update.table.table) (read : AllRead update.lexemes) :
    AllRead update.qualified.lexemes := by
  refine Update.allRead_replace (fun _ => allRead_cons.mpr ⟨isRead_placeholder, allRead_nil⟩) ?_ read
  intro reference readColumn
  have isTable := isRead_iff_hasForm.mpr (show (Lexeme.name update.table.table).HasForm from isName)
  have column : (Lexeme.name reference.name).IsRead := by
    obtain ⟨qualifier?, name⟩ := reference
    cases qualifier? with
    | none => exact (allRead_cons.mp readColumn).1
    | some qualifier => exact (allRead_cons.mp (allRead_cons.mp (allRead_cons.mp readColumn).2).2).1
  exact allRead_cons.mpr ⟨isTable, allRead_cons.mpr ⟨isRead_symbol _, allRead_cons.mpr ⟨column, allRead_nil⟩⟩⟩

theorem isName_of_allRead {update : Update} (read : AllRead update.lexemes) : IsName update.table.table := by
  simp only [Update.lexemes, allRead_cons, allRead_append] at read
  obtain ⟨-, target, -⟩ := read
  obtain ⟨⟨schema?, table⟩, _, _⟩ := update
  cases schema? with
  | none => exact isRead_iff_hasForm.mp (allRead_cons.mp target).1
  | some schema => exact isRead_iff_hasForm.mp (allRead_cons.mp (allRead_cons.mp (allRead_cons.mp target).2).2).1

/-- Forms with the same text have the same tokens. -/
theorem alike_form (named : IsBareWord derived.name) (stem : IsBareWord derived.columnStem) {update other : Update}
    (read : AllRead update.lexemes) (read' : AllRead other.lexemes)
    (same : (update.replace (joined derived update.table)).textWith (joinText derived update.placeholders) =
      (other.replace (joined derived other.table)).textWith (joinText derived other.placeholders)) :
    List.Forall₂ Alike (formLexemes derived update) (formLexemes derived other) := by
  obtain ⟨-, regular, written⟩ := writtenAs_form named stem read
  obtain ⟨-, regular', written'⟩ := writtenAs_form named stem read'
  have whole := written [] ends_nil
  have whole' := written' [] ends_nil
  rw [← same, skipLayout_nil] at whole'
  rw [skipLayout_nil] at whole
  obtain ⟨front, back, split, alike, regularBack, more⟩ := regular.alike regular' whole whole' nofun
  rw [regularBack.eq_nil Token.fails_read_nil more, List.append_nil] at split
  rw [split]
  exact alike

/-- UPDATEs with the same tokens are the same. -/
theorem eq_of_alike {update other : Update} (shaped : update.Shaped) (shaped' : other.Shaped)
    (read : AllRead update.lexemes) (read' : AllRead other.lexemes)
    (alike : List.Forall₂ Alike update.lexemes other.lexemes) : update = other := by
  obtain ⟨text, written, written'⟩ :=
    exists_writtenAs alike update.regular_lexemes read other.regular_lexemes read'
  have spells := written [] ends_nil
  have spells' := written' [] ends_nil
  rw [List.append_nil, skipLayout_nil] at spells spells'
  have parsed := Statement.parse_of_update shaped spells (.inl rfl)
  rw [Statement.parse_of_update shaped' spells' (.inl rfl)] at parsed
  cases parsed
  rfl

/-! ## Columns with the text of a parameter -/

theorem dotted_eq_iff (named : IsBareWord derived.name) (stem : IsBareWord derived.columnStem)
    {qualifier name : Text} {number : Nat} :
    BulkSql.dotted (some qualifier) name = BulkSql.dotted (some derived.name) (derived.column number) ↔
      qualifier = derived.name ∧ name = derived.column number := by
  have noDot {word : Text} (bare : IsBareWord word) : '.' ∉ word := fun member =>
    absurd (isWordChar_of_isBareWord bare '.' member) (by decide)
  have split := @List.append_cons_inj_of_notMem Char derived.name qualifier (derived.column number) name '.' '.'
    (noDot named) (noDot (isBareWord_numbered stem number))
  constructor
  · intro same
    obtain ⟨first, -, last⟩ := split.mp same.symm
    exact ⟨first.symm, last.symm⟩
  · rintro ⟨rfl, rfl⟩
    rfl

/-- The own columns that have the text of a parameter in the form are those that are not apart. -/
theorem isApart_iff (named : IsBareWord derived.name) (stem : IsBareWord derived.columnStem)
    (own : IsOwn table reference) :
    IsApart derived table reference ↔ ∀ number,
      (updateStyle derived table).column reference ≠ BulkSql.dotted (some derived.name) (derived.column number) := by
  obtain ⟨qualifier?, name⟩ := reference
  rcases own with bare | behind
  · obtain rfl : qualifier? = none := bare
    have text : table.text = derived.name ↔ table.table = derived.name ∧ table.schema? = none := by
      constructor
      · intro same
        obtain ⟨bare, first⟩ := text_of_bareWord named same.symm
        exact ⟨first, bare⟩
      · rintro ⟨first, bare⟩
        rw [TableRef.text, bare]
        exact first
    simp [IsApart, updateStyle, dotted_eq_iff named stem, text]
  · obtain rfl : qualifier? = some table.table := behind
    simp [IsApart, updateStyle, ColumnRef.text, dotted_eq_iff named stem]

/-! ## No capture -/

/-- Two UPDATEs of one table, with no columns but its own, can be told from their forms up to how columns are written,
unless a column has the text of a parameter. Only columns of a table with the name of the derived one, named like its
columns, have such a text. -/
theorem form_captures_no_column (named : IsBareWord derived.name) (free : isReserved derived.name = false)
    (stem : IsBareWord derived.columnStem) {sql sql' : Text} {update other : Update}
    (parsed : Statement.parse .update sql = .ok (.update update))
    (parsed' : Statement.parse .update sql' = .ok (.update other)) (same : other.table = update.table)
    (own : ∀ reference ∈ update.columns ++ other.columns, IsOwn update.table reference) :
    (∀ reference ∈ update.columns ++ other.columns, IsApart derived update.table reference ↔ ∀ number,
      (updateStyle derived update.table).column reference ≠
        BulkSql.dotted (some derived.name) (derived.column number)) ∧
    ∃ bulk bulk', ofText derived .update sql = .ok bulk ∧ ofText derived .update sql' = .ok bulk' ∧
      ((∀ reference ∈ update.columns ++ other.columns, IsApart derived update.table reference) →
        bulk.sql = bulk'.sql → update.qualified = other.qualified) := by
  obtain ⟨_, rest, isUpdate, shaped, spells⟩ := Statement.update_of_parse parsed
  cases isUpdate
  obtain ⟨_, rest', isUpdate, shaped', spells'⟩ := Statement.update_of_parse parsed'
  cases isUpdate
  refine ⟨fun reference member => isApart_iff named stem (own reference member), ?_⟩
  refine ⟨_, _, ofText_of_parse parsed, ofText_of_parse parsed', fun apart text => ?_⟩
  have isName := isName_of_allRead spells.allRead
  have isName' := isName_of_allRead spells'.allRead
  have alike := alike_form named stem spells.allRead spells'.allRead text
  exact eq_of_alike (shaped.replace qualify_isPrimary) (shaped'.replace qualify_isPrimary)
    (allRead_qualify isName spells.allRead) (allRead_qualify isName' spells'.allRead)
    (alike_qualified named free same isName own apart alike)

/-- Two ways to write one UPDATE of a table with the name of the derived one. -/
theorem form_captures_no_column_two_ways :
    ∃ update other, Statement.parse .update "update dt set a = x + ? where id = ?" = .ok (.update update) ∧
      Statement.parse .update "UPDATE dt SET a = dt.x + ? WHERE dt.id = ?" = .ok (.update other) ∧
      update.qualified = other.qualified := by
  have isAlias : IsBareWord (DerivedTable.name {}) := ⟨'d', ['t'], rfl, rfl, List.all_eq_true.mp rfl⟩
  have stem : IsBareWord (DerivedTable.columnStem {}) := ⟨'p', [], rfl, rfl, nofun⟩
  have checked : (match Statement.parse .update "update dt set a = x + ? where id = ?",
        Statement.parse .update "UPDATE dt SET a = dt.x + ? WHERE dt.id = ?" with
      | .ok (.update update), .ok (.update other) =>
        decide (other.table = update.table) &&
          ((update.columns ++ other.columns).all (fun reference => decide (IsOwn update.table reference)) &&
            ((update.columns ++ other.columns).all (fun reference => reference.name.head? != some 'p') &&
              (ofText {} .update "update dt set a = x + ? where id = ?").toOption.map BulkStatement.sql ==
                (ofText {} .update "UPDATE dt SET a = dt.x + ? WHERE dt.id = ?").toOption.map BulkStatement.sql))
      | _, _ => false) = true := by decide +kernel
  split at checked
  · next update other parsed parsed' =>
    simp only [Bool.and_eq_true, decide_eq_true_eq, List.all_eq_true, beq_iff_eq, bne_iff_ne] at checked
    obtain ⟨same, own, names, text⟩ := checked
    obtain ⟨-, bulk, bulk', form, form', decides⟩ :=
      form_captures_no_column isAlias (by decide) stem parsed parsed' same own
    rw [form, form'] at text
    refine ⟨update, other, parsed, parsed', decides (fun reference member number _ _ isColumn => ?_) (Option.some.inj text)⟩
    exact names reference member (isColumn ▸ rfl)
  · cases checked

/-- In a table with the name of the derived one, a column named like a parameter is captured: a column and a parameter
trade places, and the form stays the same. -/
theorem form_captures_column_of_derived_name :
    ∃ update other bulk, Statement.parse .update "update dt set a = p1 where b = ?" = .ok (.update update) ∧
      Statement.parse .update "update dt set a = ? where b = p1" = .ok (.update other) ∧
      other.table = update.table ∧ (∀ reference ∈ update.columns ++ other.columns, IsOwn update.table reference) ∧
      ofText {} .update "update dt set a = p1 where b = ?" = .ok bulk ∧
      ofText {} .update "update dt set a = ? where b = p1" = .ok bulk ∧
      bulk.sql = "UPDATE dt SET a = dt.p1 FROM (SELECT unnest(?) AS p1) AS dt WHERE dt.b = dt.p1" ∧
      update.qualified ≠ other.qualified := by
  have checked : (match Statement.parse .update "update dt set a = p1 where b = ?",
        Statement.parse .update "update dt set a = ? where b = p1",
        ofText {} .update "update dt set a = p1 where b = ?", ofText {} .update "update dt set a = ? where b = p1" with
      | .ok (.update update), .ok (.update other), .ok bulk, .ok bulk' =>
        decide (other.table = update.table) &&
          ((update.columns ++ other.columns).all (fun reference => decide (IsOwn update.table reference)) &&
            (decide (bulk' = bulk) && (bulk.sql ==
              "UPDATE dt SET a = dt.p1 FROM (SELECT unnest(?) AS p1) AS dt WHERE dt.b = dt.p1" &&
                update.qualified.textWith [] != other.qualified.textWith [])))
      | _, _, _, _ => false) = true := by decide +kernel
  split at checked
  · next update other bulk bulk' parsed parsed' form form' =>
    simp only [Bool.and_eq_true, decide_eq_true_eq, List.all_eq_true, beq_iff_eq, bne_iff_ne] at checked
    obtain ⟨same, own, rfl, text, differ⟩ := checked
    exact ⟨update, other, _, parsed, parsed', same, own, form, form', text,
      fun equal => differ (congrArg (Update.textWith []) equal)⟩
  · cases checked

end Bulk

end BulkSql
