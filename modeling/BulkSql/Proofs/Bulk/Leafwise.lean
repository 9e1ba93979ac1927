import BulkSql.Proofs.Bulk.UpdateForm
import BulkSql.Proofs.Bulk.Yield
import BulkSql.Proofs.Syntax.Readings

/-! # Lexemes that differ at leaves

Two forms of one tree, with other things in place of its parameters and columns, have the same lexemes but at these
leaves. What holds of all else and of each leaf holds of the whole. Where leaves are names with dots between, they can be
told from the lexemes around them, so one form decides the other.
-/

namespace BulkSql

/-! ## Columns -/

namespace Expr

mutual

/-- The columns that a tree looks up, in the order of the text. -/
def columns : Expr → List ColumnRef
  | .placeholder | .literal _ => []
  | .column reference => [reference]
  | .call _ arguments => columnsOfAll arguments
  | .nested inner | .cast inner _ | .signed _ inner | .isNull inner _ => inner.columns
  | .arithmetic _ left right | .comparison _ left right | .logical _ left right => left.columns ++ right.columns

def columnsOfAll : List Expr → List ColumnRef
  | [] => []
  | first :: more => first.columns ++ columnsOfAll more

end

end Expr

namespace Update

/-- The columns that an UPDATE looks up. Those it assigns to are not among them. -/
def columns (update : Update) : List ColumnRef :=
  (update.assignments.flatMap fun clause => clause.value.columns) ++ update.condition.columns

end Update

namespace Lexeme

/-- The same lexemes but for leaves, which are in relation. -/
inductive Leafwise (leaf : List Lexeme → List Lexeme → Prop) : List Lexeme → List Lexeme → Prop where
  | nil : Leafwise leaf [] []
  | mark {mark : Text} (member : mark ∈ marks) {first second : List Lexeme} (more : Leafwise leaf first second) :
    Leafwise leaf (.symbol mark :: first) (.symbol mark :: second)
  | wordy {lexeme : Lexeme} (wordy : ∀ symbol, lexeme ≠ .symbol symbol) (bound : lexeme ≠ .placeholder)
    {first second : List Lexeme} (more : Leafwise leaf first second) :
    Leafwise leaf (lexeme :: first) (lexeme :: second)
  | leaf {written other : List Lexeme} (here : leaf written other) {first second : List Lexeme}
    (more : Leafwise leaf first second) : Leafwise leaf (written ++ first) (other ++ second)

namespace Leafwise

variable {leaf : List Lexeme → List Lexeme → Prop} {first second first' second' : List Lexeme}

/-! ## How forms are put together -/

theorem single {written other : List Lexeme} (here : leaf written other) : Leafwise leaf written other := by
  simpa using Leafwise.leaf here .nil

theorem append (leafwise : Leafwise leaf first second) (more : Leafwise leaf first' second') :
    Leafwise leaf (first ++ first') (second ++ second') := by
  induction leafwise with
  | nil => exact more
  | mark member _ ih => exact .mark member ih
  | wordy wordy bound _ ih => exact .wordy wordy bound ih
  | leaf here _ ih =>
    rw [List.append_assoc, List.append_assoc]
    exact .leaf here ih

theorem parenthesized (leafwise : Leafwise leaf first second) :
    Leafwise leaf (Lexeme.parenthesized first) (Lexeme.parenthesized second) :=
  (Leafwise.mark (by decide) leafwise).append (.mark (by decide) .nil)

theorem commaList {parts parts' : List (List Lexeme)} (each : List.Forall₂ (Leafwise leaf) parts parts') :
    Leafwise leaf (Lexeme.commaList parts) (Lexeme.commaList parts') := by
  have more {parts parts' : List (List Lexeme)} (each : List.Forall₂ (Leafwise leaf) parts parts') :
      Leafwise leaf (parts.flatMap (.symbol [','] :: ·)) (parts'.flatMap (.symbol [','] :: ·)) := by
    induction each with
    | nil => exact .nil
    | cons one _ ih => exact (Leafwise.mark (by decide) one).append ih
  cases each with
  | nil => exact .nil
  | cons one others => exact one.append (more others)

/-! ## What leaves decide -/

theorem allRead (leaves : ∀ written other, leaf written other → AllRead other → AllRead written)
    (leafwise : Leafwise leaf first second) (read : AllRead second) : AllRead first := by
  induction leafwise with
  | nil => exact allRead_nil
  | mark _ _ ih | wordy _ _ _ ih =>
    obtain ⟨one, more⟩ := allRead_cons.mp read
    exact allRead_cons.mpr ⟨one, ih more⟩
  | leaf here _ ih =>
    obtain ⟨one, more⟩ := allRead_append.mp read
    exact allRead_append.mpr ⟨leaves _ _ here one, ih more⟩

theorem regular (leaves : ∀ written other, leaf written other → Regular written)
    (leafwise : Leafwise leaf first second) : Regular first := by
  induction leafwise with
  | nil => exact .nil
  | mark member _ ih => exact .mark member ih
  | wordy wordy _ _ ih => exact .wordy wordy ih
  | leaf here _ ih => exact (leaves _ _ here).append ih

theorem placeholders_eq_zero (leaves : ∀ written other, leaf written other → placeholders written = 0)
    (leafwise : Leafwise leaf first second) : placeholders first = 0 := by
  induction leafwise with
  | nil => rfl
  | mark _ _ ih =>
    rw [placeholders_cons, ih]
    rfl
  | @wordy lexeme _ bound _ _ _ ih =>
    rw [placeholders_cons, ih]
    cases lexeme with
    | placeholder => exact absurd rfl bound
    | _ => rfl
  | leaf here _ ih => rw [placeholders_append, leaves _ _ here, ih]

theorem length_le (leaves : ∀ written other, leaf written other → other.length ≤ written.length)
    (leafwise : Leafwise leaf first second) : second.length ≤ first.length := by
  induction leafwise with
  | nil => exact Nat.le_refl _
  | mark _ _ ih | wordy _ _ _ ih => exact Nat.succ_le_succ ih
  | leaf here _ ih =>
    rw [List.length_append, List.length_append]
    exact Nat.add_le_add (leaves _ _ here) ih

end Leafwise

end Lexeme

open Lexeme

/-! ## Replaced trees -/

section Replaced

variable {leaf : List Lexeme → List Lexeme → Prop} {replacement other : Replacement}
  {column : ColumnRef → List Lexeme}

theorem Expr.leafwise_replaceAll {trees : List Expr}
    (each : ∀ tree ∈ trees, (∀ reference ∈ tree.columns,
      leaf ((replacement.column reference).spelled column) (other.column reference).lexemes) →
      ∀ n, Leafwise leaf ((tree.replace replacement n).spelled column) (tree.replace other n).lexemes)
    (columns : ∀ reference ∈ columnsOfAll trees,
      leaf ((replacement.column reference).spelled column) (other.column reference).lexemes) (n : Nat) :
    List.Forall₂ (Leafwise leaf) ((replaceAll replacement trees n).map (spelled column))
      ((replaceAll other trees n).map lexemes) := by
  induction trees generalizing n with
  | nil => exact .nil
  | cons first more ih =>
    rw [columnsOfAll, List.forall_mem_append] at columns
    obtain ⟨here, others⟩ := List.forall_mem_cons.mp each
    exact .cons (here columns.1 n) (ih others columns.2 _)

/-- A tree with its leaves replaced in two ways has the same lexemes but at leaves. -/
theorem Expr.leafwise_replace
    (placeholder : ∀ n, leaf ((replacement.placeholder n).spelled column) (other.placeholder n).lexemes) (tree : Expr)
    (columns : ∀ reference ∈ tree.columns,
      leaf ((replacement.column reference).spelled column) (other.column reference).lexemes) (n : Nat) :
    Leafwise leaf ((tree.replace replacement n).spelled column) (tree.replace other n).lexemes := by
  induction tree using Expr.induction generalizing n with
  | placeholder => exact .single (placeholder (n + 1))
  | literal written => exact .wordy (by simp) (by simp) .nil
  | column reference => exact .single (columns reference (List.mem_singleton_self _))
  | call name arguments ih =>
    rw [replace, replace, spelled, lexemes, spelledAll_eq_map, lexemesOfAll_eq_map]
    exact .wordy (by simp) (by simp) (.parenthesized (.commaList (leafwise_replaceAll ih columns n)))
  | nested inner ih => exact (ih columns n).parenthesized
  | cast inner type ih =>
    exact (ih columns n).append (.mark (by decide) (.wordy (by simp) (by simp) .nil))
  | signed sign inner ih => exact .mark (by cases sign <;> decide) (ih columns n)
  | arithmetic op left right ihLeft ihRight =>
    obtain ⟨inLeft, inRight⟩ := List.forall_mem_append.mp columns
    exact (ihLeft inLeft n).append (.mark (by cases op <;> decide) (ihRight inRight _))
  | comparison op left right ihLeft ihRight | logical op left right ihLeft ihRight =>
    obtain ⟨inLeft, inRight⟩ := List.forall_mem_append.mp columns
    exact (ihLeft inLeft n).append (.wordy (by simp) (by simp) (ihRight inRight _))
  | isNull inner negated ih =>
    refine (ih columns n).append (.wordy (by simp) (by simp) ?_)
    cases negated with
    | true => exact .wordy (by simp) (by simp) (.wordy (by simp) (by simp) .nil)
    | false => exact .wordy (by simp) (by simp) .nil

theorem SetClause.leafwise_replaceAll
    (placeholder : ∀ n, leaf ((replacement.placeholder n).spelled column) (other.placeholder n).lexemes)
    (clauses : List SetClause)
    (columns : ∀ clause ∈ clauses, ∀ reference ∈ clause.value.columns,
      leaf ((replacement.column reference).spelled column) (other.column reference).lexemes) (n : Nat) :
    List.Forall₂ (Leafwise leaf) ((replaceAll replacement clauses n).map (spelled column))
      ((replaceAll other clauses n).map lexemes) := by
  induction clauses generalizing n with
  | nil => exact .nil
  | cons first more ih =>
    obtain ⟨here, others⟩ := List.forall_mem_cons.mp columns
    have value := Expr.leafwise_replace placeholder first.value here n
    exact .cons (.wordy (by simp) (by simp) (.mark (by decide) value)) (ih others _)

/-- The assignments and the condition of an UPDATE with its leaves replaced in two ways. -/
theorem Update.leafwise_replace
    (placeholder : ∀ n, leaf ((replacement.placeholder n).spelled column) (other.placeholder n).lexemes)
    (update : Update)
    (columns : ∀ reference ∈ update.columns,
      leaf ((replacement.column reference).spelled column) (other.column reference).lexemes) :
    Leafwise leaf (Lexeme.commaList ((update.replace replacement).assignments.map (SetClause.spelled column)))
        (Lexeme.commaList ((update.replace other).assignments.map SetClause.lexemes)) ∧
      Leafwise leaf ((update.replace replacement).condition.spelled column) (update.replace other).condition.lexemes := by
  obtain ⟨clauses, condition⟩ := List.forall_mem_append.mp columns
  refine ⟨.commaList (SetClause.leafwise_replaceAll placeholder update.assignments ?_ 0),
    Expr.leafwise_replace placeholder update.condition condition _⟩
  intro clause member reference inside
  exact clauses reference (List.mem_flatMap.mpr ⟨clause, member, inside⟩)

end Replaced

namespace Lexeme

/-! ## Names with dots between -/

/-- Names with a dot between neighbours. -/
def names (first : Text) (more : List Text) : List Lexeme :=
  .name first :: more.flatMap fun next => [.symbol ['.'], .name next]

variable {first second first' second' : List Lexeme} {lexeme other : Lexeme}

theorem alike_refl (lexeme : Lexeme) : Alike lexeme lexeme := by
  cases lexeme with
  | placeholder => exact ⟨_, _, ⟨rfl, rfl⟩, rfl, rfl⟩
  | literal | name => exact ⟨_, _, ⟨rfl, rfl⟩, rfl, rfl⟩
  | type => exact ⟨_, _, ⟨.inl rfl, rfl⟩, .inl rfl, rfl⟩
  | symbol => exact ⟨_, _, ⟨.inl rfl, rfl⟩, .inl rfl, rfl⟩
  | comparison => exact ⟨_, _, ⟨rfl, .inl rfl⟩, rfl, .inl rfl⟩
  | keyword wanted =>
    have upper := Keyword.lookup?_eq_some_iff.mp (Keyword.lookup?_word wanted)
    exact ⟨.keyword, wanted.word, ⟨rfl, upper⟩, rfl, upper⟩

theorem Alike.symm (alike : Alike lexeme other) : Alike other lexeme := by
  obtain ⟨kind, written, isToken, isToken'⟩ := alike
  exact ⟨kind, written, isToken', isToken⟩

theorem eq_of_alike_name {name name' : Text} (alike : Alike (.name name) (.name name')) : name = name' := by
  obtain ⟨kind, written, ⟨-, same⟩, -, same'⟩ := alike
  exact same.symm.trans same'

/-- A dot is nothing else. -/
theorem eq_dot_of_alike (alike : Alike (.symbol ['.']) other) : other = .symbol ['.'] := by
  obtain ⟨kind, written, ⟨isSymbol, rfl⟩, isToken⟩ := alike
  cases other with
  | symbol mark => rw [← isToken.2]
  | comparison op =>
    rcases isToken.2 with same | ⟨-, same⟩
    · cases op <;> cases same
    · cases same
  | type =>
    rcases isToken.1 with rfl | rfl
    · simp at isSymbol
    · simp at isSymbol
  | literal written =>
    obtain ⟨kind, text⟩ := written
    obtain ⟨rfl, -⟩ := isToken
    cases kind <;> simp [LiteralKind.tokenKind] at isSymbol
  | placeholder | name | keyword =>
    obtain ⟨rfl, -⟩ := isToken
    simp at isSymbol

/-- Where no dot follows, tokens tell how far names with dots between go. -/
theorem names_inj {name name' : Text} {more more' : List Text}
    (alike : List.Forall₂ Alike (names name more ++ first) (names name' more' ++ second))
    (ends : first.head? ≠ some (.symbol ['.'])) (ends' : second.head? ≠ some (.symbol ['.'])) :
    name = name' ∧ more = more' ∧ List.Forall₂ Alike first second := by
  induction more generalizing name name' more' with
  | nil =>
    cases alike with
    | cons here alike =>
      cases more' with
      | nil => exact ⟨eq_of_alike_name here, rfl, alike⟩
      | cons next more' =>
        cases alike with
        | cons dot _ => exact absurd (congrArg some (eq_dot_of_alike dot.symm)) ends
  | cons next more ih =>
    cases alike with
    | cons here alike =>
      cases more' with
      | nil =>
        cases alike with
        | cons dot _ => exact absurd (congrArg some (eq_dot_of_alike dot)) ends'
      | cons next' more' =>
        cases alike with
        | cons dot alike =>
          obtain ⟨rfl, rfl, rest⟩ := ih alike
          exact ⟨eq_of_alike_name here, rfl, rest⟩

namespace Leafwise

variable {leaf : List Lexeme → List Lexeme → Prop}

/-- Leaves are written as several names with dots between, and one such writing stands for one leaf. -/
structure IsDotted (leaf : List Lexeme → List Lexeme → Prop) : Prop where
  names : ∀ written other, leaf written other → ∃ name next more, written = Lexeme.names name (next :: more)
  unique : ∀ written other other', leaf written other → leaf written other' → other = other'

/-- Neither a leaf nor anything else starts with a dot. -/
theorem head?_ne_dot (dotted : IsDotted leaf) (leafwise : Leafwise leaf first second) :
    first.head? ≠ some (.symbol ['.']) := by
  cases leafwise with
  | nil => exact nofun
  | mark member _ =>
    rintro same
    cases same
    exact absurd member (by decide)
  | wordy wordy _ _ =>
    rintro same
    cases same
    exact wordy _ rfl
  | leaf here _ =>
    obtain ⟨name, next, more, rfl⟩ := dotted.names _ _ here
    exact nofun

/-- Behind what is no leaf no dot stands. -/
theorem not_alike_names (dotted : IsDotted leaf) (leafwise : Leafwise leaf first second) {name next : Text}
    {more : List Text} {behind : List Lexeme} :
    ¬List.Forall₂ Alike (lexeme :: first) (names name (next :: more) ++ behind) := by
  rintro (_ | ⟨-, _ | ⟨dot, -⟩⟩)
  exact leafwise.head?_ne_dot dotted (congrArg some (eq_dot_of_alike dot.symm))

theorem eq_nil (dotted : IsDotted leaf) (leafwise : Leafwise leaf [] second) : second = [] := by
  generalize same : ([] : List Lexeme) = first at leafwise
  cases leafwise with
  | nil => rfl
  | mark | wordy => cases same
  | leaf here more =>
    obtain ⟨name, next, rest, rfl⟩ := dotted.names _ _ here
    cases same

/-- Forms with the same tokens stand for forms with the same tokens. -/
theorem alike (dotted : IsDotted leaf) (leafwise : Leafwise leaf first second)
    (leafwise' : Leafwise leaf first' second') (alike : List.Forall₂ Alike first first') :
    List.Forall₂ Alike second second' := by
  induction leafwise generalizing first' second' with
  | nil =>
    cases alike
    rw [leafwise'.eq_nil dotted]
    exact .nil
  | mark _ more ih | wordy _ _ more ih =>
    cases leafwise' with
    | nil => cases alike
    | mark _ more' | wordy _ _ more' =>
      cases alike with
      | cons here alike => exact .cons here (ih more' alike)
    | leaf here' more' =>
      obtain ⟨name, next, rest, rfl⟩ := dotted.names _ _ here'
      exact absurd alike (more.not_alike_names dotted)
  | leaf here more ih =>
    obtain ⟨name, next, rest, rfl⟩ := dotted.names _ _ here
    cases leafwise' with
    | nil => cases alike
    | mark _ more' | wordy _ _ more' =>
      have flipped := alike.flip.imp fun _ _ => Alike.symm
      exact absurd flipped (more'.not_alike_names dotted)
    | leaf here' more' =>
      obtain ⟨name', next', rest', rfl⟩ := dotted.names _ _ here'
      obtain ⟨rfl, same, alike⟩ := names_inj alike (more.head?_ne_dot dotted) (more'.head?_ne_dot dotted)
      rw [← same] at here'
      rw [dotted.unique _ _ _ here here']
      exact List.rel_append (List.forall₂_same.mpr fun lexeme _ => alike_refl lexeme) (ih more' alike)

end Leafwise

end Lexeme

end BulkSql
