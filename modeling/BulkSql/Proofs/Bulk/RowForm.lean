import BulkSql.Bulk.Form
import BulkSql.Proofs.Bulk.Rendering
import BulkSql.Proofs.Syntax.Endings
import BulkSql.Proofs.Syntax.Parsing

/-! # The bulk form of a row

The form selects, for each column, the text of its atom with every parameter unnested; the atoms that are parameters
themselves are named after their columns. With VALUES in place of SELECT and without these names it is read back as
the row of the unnested atoms.
-/

namespace BulkSql

/-- Parameters as elements of arrays, columns as they are. -/
def unnested : Replacement where
  placeholder _ := .call "unnest" [.placeholder]
  column := .column

namespace Expr

/-- The tree with each parameter as the element of an array. -/
def unnest (tree : Expr) : Expr := tree.replace unnested 0

/-- A parameter under casts, of which there may be none. -/
def isParameter : Expr → Bool
  | .placeholder => true
  | .cast inner _ => inner.isParameter
  | _ => false

/-- A call that takes one element of a bound array. -/
def isElement (name : Text) : List Expr → Bool
  | [.placeholder] => name == "unnest"
  | _ => false

mutual

/-- The calls in a tree that take one element of a bound array. -/
def elements : Expr → Nat
  | .placeholder | .literal _ | .column _ => 0
  | .call name arguments => (if isElement name arguments then 1 else 0) + elementsOfAll arguments
  | .nested inner | .cast inner _ | .signed _ inner | .isNull inner _ => inner.elements
  | .arithmetic _ left right | .comparison _ left right | .logical _ left right => left.elements + right.elements

def elementsOfAll : List Expr → Nat
  | [] => 0
  | first :: more => first.elements + elementsOfAll more

end

end Expr

namespace Replacement

/-- Where parameters are replaced without regard to their number, so is a tree without regard to its place. -/
theorem unnested_replaceAll {trees : List Expr} (each : ∀ tree ∈ trees, ∀ n, tree.replace unnested n = tree.unnest)
    (n : Nat) : Expr.replaceAll unnested trees n = trees.map Expr.unnest := by
  induction trees generalizing n with
  | nil => rfl
  | cons first more ih =>
    rw [Expr.replaceAll, List.map_cons, each first (List.mem_cons_self ..),
      ih fun tree member => each tree (List.mem_cons_of_mem _ member)]

theorem unnested_replace (tree : Expr) (n : Nat) : tree.replace unnested n = tree.unnest := by
  unfold Expr.unnest
  induction tree using Expr.induction generalizing n with
  | placeholder | literal | column => rfl
  | call name arguments ih =>
    rw [Expr.replace, Expr.replace, unnested_replaceAll ih, unnested_replaceAll ih]
  | nested inner ih | cast inner type ih | signed sign inner ih | isNull inner negated ih =>
    simp only [Expr.replace, ih n]
  | arithmetic op left right ihLeft ihRight | comparison op left right ihLeft ihRight
  | logical op left right ihLeft ihRight =>
    simp only [Expr.replace, ihLeft n, ihRight (n + _), ihRight (0 + _)]

/-- No parameter is left bare, so no other call takes one. -/
theorem not_isElement_replaceAll (name : Text) (arguments : List Expr) (n : Nat) :
    Expr.isElement name (Expr.replaceAll unnested arguments n) = false := by
  match arguments with
  | [] => rfl
  | [argument] => cases argument <;> rfl
  | first :: second :: more => cases first <;> rfl

theorem elementsOfAll_replaceAll {trees : List Expr}
    (each : ∀ tree ∈ trees, ∀ n, (tree.replace unnested n).elements = tree.placeholders) (n : Nat) :
    Expr.elementsOfAll (Expr.replaceAll unnested trees n) = Expr.placeholdersOfAll trees := by
  induction trees generalizing n with
  | nil => rfl
  | cons first more ih =>
    rw [Expr.replaceAll, Expr.elementsOfAll, Expr.placeholdersOfAll, each first (List.mem_cons_self ..),
      ih fun tree member => each tree (List.mem_cons_of_mem _ member)]

/-- Each parameter becomes an element of an array, and nothing else does. -/
theorem elements_replace (tree : Expr) (n : Nat) : (tree.replace unnested n).elements = tree.placeholders := by
  induction tree using Expr.induction generalizing n with
  | placeholder | literal | column => rfl
  | call name arguments ih =>
    rw [Expr.replace, Expr.elements, not_isElement_replaceAll, elementsOfAll_replaceAll ih, Expr.placeholders]
    exact Nat.zero_add _
  | nested inner ih | cast inner type ih | signed sign inner ih | isNull inner negated ih => exact ih n
  | arithmetic op left right ihLeft ihRight | comparison op left right ihLeft ihRight
  | logical op left right ihLeft ihRight =>
    rw [Expr.replace, Expr.elements, ihLeft, ihRight, Expr.placeholders]

end Replacement

namespace Bulk

open Reader

theorem rowStyle_writes : rowStyle.Writes unnested where
  operands _ := nofun
  placeholder _ := rfl
  column _ := rfl

/-! ## Selected items -/

/-- An atom as an item: the text of the unnested atom, and for a parameter the name of the column. -/
def item (column : Text) (atom : Expr) : Text :=
  if atom.isParameter then atom.unnest.text ++ " AS " ++ column else atom.unnest.text

theorem cast_placeholder_iff {fragment : Fragment} {type : Text} :
    (∃ casts?, fragment.cast type = .placeholder casts?) ↔ ∃ casts?, fragment = .placeholder casts? := by
  match fragment with
  | .placeholder none | .placeholder (some _) => exact ⟨fun _ => ⟨_, rfl⟩, fun _ => ⟨_, rfl⟩⟩
  | .expr _ | .name _ => exact ⟨nofun, nofun⟩

/-- The fragment of an atom is a parameter exactly if the atom is one. -/
theorem isParameter_iff (atom : Expr) (n : Nat) :
    atom.isParameter ↔ ∃ casts?, atom.fragment rowStyle n = .placeholder casts? := by
  induction atom using Expr.induction with
  | placeholder => exact ⟨fun _ => ⟨none, rfl⟩, fun _ => rfl⟩
  | cast inner type ih => exact ih.trans cast_placeholder_iff.symm
  | literal | column | call | nested | signed | arithmetic | comparison | logical | isNull => exact ⟨nofun, nofun⟩

theorem selectItem_eq (column : Text) (atom : Expr) (n : Nat) :
    selectItem column (atom.fragment rowStyle n) = .ok (item column atom) := by
  have isOperand := Expr.isOperand_fragment rowStyle_writes.operands atom n
  have operand : (atom.fragment rowStyle n).operand? = some atom.unnest.text := by
    rw [isOperand.operand?_eq, rowStyle_writes.operand_fragment, Replacement.unnested_replace]
  have parameter := isParameter_iff atom n
  unfold selectItem item
  rw [operand]
  cases found : atom.fragment rowStyle n with
  | placeholder casts? => rw [if_pos (parameter.mpr ⟨casts?, found⟩)]
  | expr text =>
    rw [if_neg]
    intro isParameter
    obtain ⟨casts?, other⟩ := parameter.mp isParameter
    cases found.symm.trans other
  | name text => exact absurd found (isOperand text)

theorem selectItems_eq (columns : List Text) (atoms : List Expr) (n : Nat) :
    selectItems columns (Expr.fragmentsOfAll rowStyle atoms n) = .ok (List.zipWith item columns atoms) := by
  induction columns generalizing atoms n with
  | nil => rfl
  | cons column columns ih =>
    cases atoms with
    | nil => rfl
    | cons atom atoms =>
      rw [Expr.fragmentsOfAll, selectItems, selectItem_eq, ih]
      rfl

/-- An item without the name of its column. -/
def unnamed (column item : Text) : Text :=
  let suffix := " AS " ++ column
  if suffix <:+ item then item.take (item.length - suffix.length) else item

theorem unnamed_append (column text : Text) : unnamed column (text ++ (" AS " ++ column)) = text := by
  unfold unnamed
  rw [if_pos (List.suffix_append ..), List.length_append, Nat.add_sub_cancel, List.take_left]

theorem unnamed_of_not_suffix {column item : Text} (none_ : ¬(" AS " ++ column : Text) <:+ item) :
    unnamed column item = item :=
  if_neg none_

/-! ## The walk -/

theorem visitRow_eq (values : ValueList) :
    visitRow values {} =
      (.ok (Expr.fragmentsOfAll rowStyle values.atoms 0), { parameters := Expr.placeholdersOfAll values.atoms }) := by
  let fragments := Expr.fragmentsOfAll rowStyle values.atoms 0
  have visited : Walk.visitAll rowStyle values.atoms {} =
      (.ok (), WalkState.extended {} fragments (Expr.placeholdersOfAll values.atoms)) :=
    Walk.visitAll_of_visit fun tree _ state => Walk.visit_eq rowStyle_writes.operands tree state
  have popped : FragmentStack.popMany values.atoms.length "value_list" (fragments.reverse ++ []) =
      (.ok fragments, []) := by
    rw [← Expr.length_fragmentsOfAll rowStyle values.atoms 0]
    exact FragmentStack.popMany_append "value_list" fragments
  apply (bind_of_ok visited _).trans
  apply (bind_of_ok (Walk.onStack_of_ok popped) _).trans
  simp only [WalkState.extended, Nat.zero_add]
  rfl

/-- The clause behind the values, if there is one. -/
def clauseText : Option ConflictTarget → Text
  | some target => " " ++ conflictText target
  | none => []

/-- A statement with a row on one line, with a text where its values stand. -/
def rowText (kind : StatementKind) (row : RowTarget) (values : Text) (conflict? : Option ConflictTarget) : Text :=
  kind.name ++ " INTO " ++ row.table.text ++ " (" ++ Text.commaList row.columns ++ ") " ++ values ++ clauseText conflict?

theorem ofRow_eq {kind : StatementKind} {row : RowTarget} (fits : row.columns.length = row.values.atoms.length)
    (conflict? : Option ConflictTarget) :
    ofRow kind.name row conflict? =
      .ok {
        sql := rowText kind row ("SELECT " ++ Text.commaList (List.zipWith item row.columns row.values.atoms)) conflict?
        parameterCount := Expr.placeholdersOfAll row.values.atoms } := by
  have length : (Expr.fragmentsOfAll rowStyle row.values.atoms 0).length = row.columns.length :=
    (Expr.length_fragmentsOfAll rowStyle row.values.atoms 0).trans fits.symm
  delta ofRow
  rw [visitRow_eq]
  dsimp only
  rw [if_neg (not_not_intro length), selectItems_eq]
  have select (after : Text) : (") SELECT " : Text) ++ after = ") " ++ ("SELECT " ++ after) := rfl
  delta rowText
  change Except.ok (BulkStatement.mk (_ ++ (") SELECT " : Text) ++ _ ++ clauseText conflict?) _) = _
  rw [List.append_assoc _ (") SELECT " : Text), select, ← List.append_assoc _ (") " : Text)]

/-! ## Reading the form back -/

theorem isAtom_unnest {atom : Expr} (isAtom : atom.IsAtom) : atom.unnest.IsAtom := by
  refine Replacement.isAtom_replace (fun _ => ?_) isAtom 0
  exact .call "unnest" (List.forall_mem_singleton.mpr .placeholder)

theorem allRead_unnest {atom : Expr} (read : AllRead atom.lexemes) : AllRead atom.unnest.lexemes := by
  have isWord : IsBareWord "unnest" := ⟨'u', ['n', 'n', 'e', 's', 't'], rfl, rfl, List.all_eq_true.mp rfl⟩
  have named : (Lexeme.name "unnest").IsRead := ⟨_, _, identifier_of_isBareWord isWord (by decide)⟩
  have element : AllRead (Expr.call "unnest" [.placeholder]).lexemes := by
    rw [Expr.lexemes, allRead_cons, Lexeme.allRead_parenthesized, Expr.lexemesOfAll_eq_map, Lexeme.allRead_commaList]
    exact ⟨named, List.forall_mem_singleton.mpr (allRead_cons.mpr ⟨isRead_placeholder, allRead_nil⟩)⟩
  exact Replacement.allRead_replace (fun _ => element) (fun _ => id) read 0

/-- An item is named after its column exactly if its atom is a parameter. -/
theorem item_suffix_iff {column : Text} (form : NameForm column) {atom : Expr} (isAtom : atom.IsAtom)
    (read : AllRead atom.lexemes) : (" AS " ++ column : Text) <:+ item column atom ↔ atom.isParameter := by
  unfold item
  by_cases parameter : atom.isParameter
  · rw [if_pos parameter, List.append_assoc]
    exact iff_of_true (List.suffix_append ..) parameter
  · rw [if_neg parameter]
    exact iff_of_false (Expr.not_alias_text form (isAtom_unnest isAtom) (allRead_unnest read)) parameter

theorem unnamed_item {column : Text} (form : NameForm column) {atom : Expr} (isAtom : atom.IsAtom)
    (read : AllRead atom.lexemes) : unnamed column (item column atom) = atom.unnest.text := by
  have named := item_suffix_iff form isAtom read
  by_cases parameter : atom.isParameter
  · rw [item, if_pos parameter, List.append_assoc, unnamed_append]
  · rw [unnamed_of_not_suffix (mt named.mp parameter), item, if_neg parameter]

theorem unnamed_items {columns : List Text} (forms : ∀ column ∈ columns, NameForm column) {atoms : List Expr}
    (each : ∀ atom ∈ atoms, atom.IsAtom ∧ AllRead atom.lexemes) (fits : columns.length = atoms.length) :
    List.zipWith unnamed columns (List.zipWith item columns atoms) = (atoms.map Expr.unnest).map Expr.text := by
  induction columns generalizing atoms with
  | nil =>
    obtain rfl := List.length_eq_zero_iff.mp fits.symm
    rfl
  | cons column columns ih =>
    cases atoms with
    | nil => cases fits
    | cons atom atoms =>
      obtain ⟨form, forms⟩ := List.forall_mem_cons.mp forms
      obtain ⟨⟨isAtom, read⟩, each⟩ := List.forall_mem_cons.mp each
      rw [List.zipWith_cons_cons, List.zipWith_cons_cons, unnamed_item form isAtom read,
        ih forms each (Nat.succ.inj fits)]
      rfl

theorem writtenAs_nameList {names : List Text} (read : AllRead (Lexeme.nameList names)) :
    WrittenAs (Lexeme.nameList names) ("(" ++ Text.commaList names ++ ")") := by
  rw [Lexeme.nameList, Lexeme.allRead_parenthesized, Lexeme.allRead_commaList, List.forall_mem_map] at read
  have each (name : Text) (member : name ∈ names) : WrittenAs [.name name] (id name) :=
    writtenAs_lexeme (allRead_cons.mp (read name member)).1 (by simp)
  have list := (writtenAs_commaList each).parenthesized
  rw [List.map_id] at list
  exact list

theorem writtenAs_valueList {atoms : List Expr} (read : ∀ atom ∈ atoms, AllRead atom.lexemes) :
    WrittenAs (Lexeme.valueList atoms) ("VALUES (" ++ Text.commaList (atoms.map Expr.text) ++ ")") := by
  have list := (writtenAs_commaList fun atom member => Expr.writtenAs_text atom (read atom member)).parenthesized
  exact (writtenAs_keyword .VALUES).spaced list

theorem writtenAs_target {target : ConflictTarget} (read : AllRead target.clauseLexemes) :
    WrittenAs target.clauseLexemes (conflictText target) := by
  have onConflict := (writtenAs_keyword .ON).spaced (writtenAs_keyword .CONFLICT)
  have action := (writtenAs_keyword .DO).spaced (writtenAs_keyword .NOTHING)
  simp only [ConflictTarget.clauseLexemes, allRead_cons, allRead_append] at read
  cases target with
  | columns names =>
    have whole := onConflict.spaced ((writtenAs_nameList read.2.2.1).spaced action)
    have start (after : Text) : ("ON CONFLICT (" : Text) ++ after =
        Keyword.ON.word ++ ' ' :: Keyword.CONFLICT.word ++ ' ' :: ("(" ++ after) := rfl
    have close : (") DO NOTHING" : Text) = ")" ++ ' ' :: (Keyword.DO.word ++ ' ' :: Keyword.NOTHING.word) := rfl
    change WrittenAs _ ("ON CONFLICT (" ++ Text.commaList names ++ ") DO NOTHING")
    rw [List.append_assoc, start, close, ← List.append_assoc _ (")" : Text), ← List.append_assoc ("(" : Text)]
    exact whole
  | constraint name =>
    have named : WrittenAs [.name name] name :=
      writtenAs_lexeme (allRead_cons.mp (allRead_cons.mp (allRead_cons.mp read.2.2.1).2).2).1 (by simp)
    have onConstraint := (writtenAs_keyword .ON).spaced ((writtenAs_keyword .CONSTRAINT).spaced named)
    have start (after : Text) : ("ON CONFLICT ON CONSTRAINT " : Text) ++ after =
        Keyword.ON.word ++ ' ' :: Keyword.CONFLICT.word ++ ' ' :: (Keyword.ON.word ++ ' ' :: (Keyword.CONSTRAINT.word ++
          ' ' :: after)) := rfl
    have close : (" DO NOTHING" : Text) = ' ' :: (Keyword.DO.word ++ ' ' :: Keyword.NOTHING.word) := rfl
    change WrittenAs _ ("ON CONFLICT ON CONSTRAINT " ++ name ++ " DO NOTHING")
    rw [List.append_assoc, start, close]
    have whole := onConflict.spaced (onConstraint.spaced action)
    exact whole

/-- The lexemes of a row statement in front of its values. -/
def frontLexemes (verb : Keyword) (row : RowTarget) : List Lexeme :=
  .keyword verb :: .keyword .INTO :: (Lexeme.dotted row.table.schema? row.table.table ++ Lexeme.nameList row.columns)

/-- The text of a row statement in front of its values. -/
def frontText (kind : StatementKind) (row : RowTarget) : Text :=
  kind.name ++ " INTO " ++ row.table.text ++ " (" ++ Text.commaList row.columns ++ ")"

theorem rowText_eq_append (kind : StatementKind) (row : RowTarget) (values : Text) (conflict? : Option ConflictTarget) :
    rowText kind row values conflict? = frontText kind row ++ ' ' :: values ++ clauseText conflict? := by
  have closed (after : Text) : (") " : Text) ++ after = ")" ++ ' ' :: after := rfl
  delta rowText frontText
  simp only [List.append_assoc, List.cons_append, closed]

theorem writtenAs_front {kind : StatementKind} {row : RowTarget}
    (read : AllRead (frontLexemes (Statement.verb kind) row)) :
    WrittenAs (frontLexemes (Statement.verb kind) row) (frontText kind row) := by
  simp only [frontLexemes, allRead_cons, allRead_append] at read
  have target := (writtenAs_dotted read.2.2.1).spaced (writtenAs_nameList read.2.2.2)
  have whole := (writtenAs_keyword (Statement.verb kind)).spaced ((writtenAs_keyword .INTO).spaced target)
  have name : kind.name = (Statement.verb kind).word := by cases kind <;> rfl
  have into (after : Text) : (" INTO " : Text) ++ after = ' ' :: (Keyword.INTO.word ++ ' ' :: after) := rfl
  have opened (after : Text) : (" (" : Text) ++ after = ' ' :: ("(" ++ after) := rfl
  delta frontText
  rw [name]
  simp only [List.append_assoc, into, opened] at whole ⊢
  exact whole

/-- A row statement is written for its lexemes, whichever its values are written for. -/
theorem writtenAs_rowText {kind : StatementKind} {row : RowTarget} {conflict? : Option ConflictTarget}
    (front : AllRead (frontLexemes (Statement.verb kind) row)) {lexemes : List Lexeme} {values : Text}
    (written : WrittenAs lexemes values) (clause : AllRead (Statement.conflictLexemes conflict?)) :
    WrittenAs (frontLexemes (Statement.verb kind) row ++ lexemes ++ Statement.conflictLexemes conflict?)
      (rowText kind row values conflict?) := by
  have start := (writtenAs_front front).spaced written
  rw [rowText_eq_append]
  cases conflict? with
  | none =>
    rw [Statement.conflictLexemes, clauseText, List.append_nil, List.append_nil]
    exact start
  | some target => exact start.spaced (writtenAs_target clause)

theorem row_lexemes_eq_append (verb : Keyword) (row : RowTarget) :
    row.lexemes verb = frontLexemes verb row ++ Lexeme.valueList row.values.atoms := by
  simp [RowTarget.lexemes, frontLexemes]

/-- A row and the clause behind it are written for their lexemes. -/
theorem writtenAs_row {kind : StatementKind} {row : RowTarget} {conflict? : Option ConflictTarget}
    (read : AllRead (row.lexemes (Statement.verb kind) ++ Statement.conflictLexemes conflict?)) :
    WrittenAs (row.lexemes (Statement.verb kind) ++ Statement.conflictLexemes conflict?)
      (rowText kind row ("VALUES (" ++ Text.commaList (row.values.atoms.map Expr.text) ++ ")") conflict?) := by
  rw [row_lexemes_eq_append] at read ⊢
  simp only [Lexeme.valueList, allRead_append, allRead_cons, Lexeme.allRead_parenthesized, Lexeme.allRead_commaList,
    List.forall_mem_map] at read
  obtain ⟨⟨front, -, atoms⟩, clause⟩ := read
  exact writtenAs_rowText front (writtenAs_valueList atoms) clause

/-- With the values of its items in place of the selection, the form is read as the row of the unnested atoms. -/
theorem parse_unnested {kind : StatementKind} {row : RowTarget} {conflict? : Option ConflictTarget}
    {statement : Statement} (built : Statement.ofRow? kind row conflict? = some statement) (shaped : row.Shaped)
    (targeted : Statement.ConflictShaped conflict?) (fits : row.columns.length = row.values.atoms.length)
    (read : AllRead (row.lexemes (Statement.verb kind) ++ Statement.conflictLexemes conflict?)) :
    ∃ span statement',
      Statement.ofRow? kind { row with values := { atoms := row.values.atoms.map Expr.unnest, span } } conflict? =
        some statement' ∧
      Statement.parse kind (rowText kind row ("VALUES (" ++
        Text.commaList ((row.values.atoms.map Expr.unnest).map Expr.text) ++ ")") conflict?) = .ok statement' := by
  let atoms := row.values.atoms.map Expr.unnest
  let replaced : RowTarget := { row with values := { atoms, span := [] } }
  have shaped' : replaced.Shaped := {
    named := shaped.named
    filled := fun none_ => shaped.filled (List.map_eq_nil_iff.mp none_)
    atoms := List.forall_mem_map.mpr fun atom member => isAtom_unnest (shaped.atoms atom member) }
  have fits' : replaced.columns.length = replaced.values.atoms.length := fits.trans (List.length_map ..).symm
  have read' : AllRead (replaced.lexemes (Statement.verb kind) ++ Statement.conflictLexemes conflict?) := by
    simp only [RowTarget.lexemes, Lexeme.valueList, allRead_append, allRead_cons, Lexeme.allRead_parenthesized,
      Lexeme.allRead_commaList, List.forall_mem_map] at read ⊢
    obtain ⟨⟨verb, into, table, columns, values, each⟩, clause⟩ := read
    refine ⟨⟨verb, into, table, columns, values, ?_⟩, clause⟩
    exact List.forall_mem_map.mpr fun atom member => allRead_unnest (each atom member)
  have written := writtenAs_row read' [] ends_nil
  rw [List.append_nil, skipLayout_nil] at written
  obtain ⟨statement', built'⟩ := Statement.exists_ofRow? built replaced
  exact Statement.parse_of_row built' shaped' targeted fits' written (.inl rfl)

theorem placeholdersOfAll_unnest (atoms : List Expr) :
    Expr.placeholdersOfAll (atoms.map Expr.unnest) = Expr.placeholdersOfAll atoms := by
  have each (atom : Expr) (n : Nat) : (atom.replace unnested n).placeholders = 1 * atom.placeholders :=
    Replacement.placeholders_replace (fun _ => rfl) (fun _ => rfl) atom n
  rw [← Replacement.unnested_replaceAll (fun atom _ => Replacement.unnested_replace atom) 0,
    Replacement.placeholdersOfAll_replaceAll (fun atom _ => each atom) 0, Nat.one_mul]

theorem elementsOfAll_unnest (atoms : List Expr) :
    Expr.elementsOfAll (atoms.map Expr.unnest) = Expr.placeholdersOfAll atoms := by
  rw [← Replacement.unnested_replaceAll (fun atom _ => Replacement.unnested_replace atom) 0,
    Replacement.elementsOfAll_replaceAll (fun atom _ => Replacement.elements_replace atom) 0]

theorem ofStatement_eq {derived : DerivedTable} {kind : StatementKind} {row : RowTarget}
    {conflict? : Option ConflictTarget} {statement : Statement}
    (built : Statement.ofRow? kind row conflict? = some statement) :
    ofStatement derived statement = ofRow kind.name row conflict? := by
  cases kind with
  | insert =>
    cases built
    rfl
  | upsert =>
    cases conflict? <;> cases built
    rfl
  | update => cases conflict? <;> cases built

/-- The bulk form of an INSERT or UPSERT selects one item for each column, which is named after it exactly if its atom
is a parameter. With the items, free of these names, as VALUES in place of the selection it is read as the same
statement with each parameter unnested. As many arrays are bound as there are parameters, each for one element. -/
theorem row_form {derived : DerivedTable} {kind : StatementKind} (hasRow : kind ≠ .update) {sql : Text}
    {statement : Statement} (parsed : Statement.parse kind sql = .ok statement) :
    ∃ row conflict?, Statement.ofRow? kind row conflict? = some statement ∧
      row.columns.length = row.values.atoms.length ∧
      let items := List.zipWith item row.columns row.values.atoms
      let values := List.zipWith unnamed row.columns items
      let count := Expr.placeholdersOfAll row.values.atoms
      ofText derived kind sql =
        .ok { sql := rowText kind row ("SELECT " ++ Text.commaList items) conflict?, parameterCount := count } ∧
      (∀ pair ∈ row.columns.zip row.values.atoms,
        (" AS " ++ pair.1 : Text) <:+ item pair.1 pair.2 ↔ pair.2.isParameter) ∧
      (∃ span statement',
        Statement.ofRow? kind { row with values := { atoms := row.values.atoms.map Expr.unnest, span } } conflict? =
          some statement' ∧
        Statement.parse kind (rowText kind row ("VALUES (" ++ Text.commaList values ++ ")") conflict?) =
          .ok statement') ∧
      Expr.placeholdersOfAll (row.values.atoms.map Expr.unnest) = count ∧
      Expr.elementsOfAll (row.values.atoms.map Expr.unnest) = count := by
  obtain ⟨row, conflict?, rest, built, shaped, targeted, fits, spells⟩ := Statement.row_of_parse hasRow parsed
  have read := spells.allRead
  have parts := read
  simp only [RowTarget.lexemes, Lexeme.nameList, Lexeme.valueList, allRead_append, allRead_cons,
    Lexeme.allRead_parenthesized, Lexeme.allRead_commaList, List.forall_mem_map] at parts
  obtain ⟨⟨-, -, -, columns, -, atoms⟩, -⟩ := parts
  have forms (column : Text) (member : column ∈ row.columns) : NameForm column := by
    obtain ⟨text, behind, named⟩ := (columns column member).1
    exact nameForm_of_identifier named
  have each (atom : Expr) (member : atom ∈ row.values.atoms) : atom.IsAtom ∧ AllRead atom.lexemes :=
    ⟨shaped.atoms atom member, atoms atom member⟩
  refine ⟨row, conflict?, built, fits, ?_, ?_, ?_, placeholdersOfAll_unnest _, elementsOfAll_unnest _⟩
  · rw [ofText, parsed]
    dsimp only
    rw [ofStatement_eq built, ofRow_eq fits]
  · intro pair member
    have inside := List.of_mem_zip member
    exact item_suffix_iff (forms _ inside.1) (each _ inside.2).1 (each _ inside.2).2
  · rw [unnamed_items forms each fits]
    exact parse_unnested built shaped targeted fits read

/-- An INSERT with a parameter under a cast, one inside a call and a constant. -/
theorem row_form_two_parameters :
    ∃ row conflict?,
      Statement.parse .insert "insert into t (a, b, c) values (?::int, f(?), 1) on conflict (a) do nothing" =
        .ok (.insert row conflict?) ∧
      ofText {} .insert "insert into t (a, b, c) values (?::int, f(?), 1) on conflict (a) do nothing" =
        .ok {
          sql := rowText .insert row ("SELECT " ++
            Text.commaList (List.zipWith item row.columns row.values.atoms)) conflict?
          parameterCount := 2 } ∧
      Expr.elementsOfAll (row.values.atoms.map Expr.unnest) = 2 := by
  have checked : (match Statement.parse .insert
        "insert into t (a, b, c) values (?::int, f(?), 1) on conflict (a) do nothing" with
      | .ok (.insert row _) => Expr.placeholdersOfAll row.values.atoms == 2
      | _ => false) = true := by decide +kernel
  split at checked
  · next row conflict? parsed =>
    obtain ⟨found, foundConflict?, built, -, form, -, -, -, elements⟩ := @row_form {} .insert (by decide) _ _ parsed
    cases built
    rw [beq_iff_eq] at checked
    rw [checked] at form elements
    exact ⟨row, conflict?, parsed, form, elements⟩
  · cases checked

end Bulk

end BulkSql
