import BulkSql.Proofs.Syntax.Lists

/-! # The grammar of expressions without a parser

A tree is a sequence of lexemes, and it has the shape of the grammar if each operand binds at least as close as its
place asks for. Levels are counted from the loosest: OR, XOR, AND, IS NULL tests, comparisons, sums, products, signs,
casts, primaries. What may stand behind an expression depends on the level of the operator that stands there.
-/

namespace BulkSql

namespace LogicalOp

def rank : LogicalOp → Nat
  | or => 0
  | xor => 1
  | and => 2

def keyword : LogicalOp → Keyword
  | or => .OR
  | xor => .XOR
  | and => .AND

end LogicalOp

def ArithmeticOp.rank : ArithmeticOp → Nat
  | add | subtract => 5
  | multiply | divide | modulo => 6

namespace Expr

/-! ## Induction over trees -/

/-- What holds of a node if it holds of its parts holds of every tree. -/
@[elab_as_elim]
theorem induction {motive : Expr → Prop} (placeholder : motive .placeholder)
    (literal : ∀ literal, motive (.literal literal)) (column : ∀ column, motive (.column column))
    (call : ∀ name arguments, (∀ argument ∈ arguments, motive argument) → motive (.call name arguments))
    (nested : ∀ inner, motive inner → motive (.nested inner))
    (cast : ∀ inner type, motive inner → motive (.cast inner type))
    (signed : ∀ sign inner, motive inner → motive (.signed sign inner))
    (arithmetic : ∀ op left right, motive left → motive right → motive (.arithmetic op left right))
    (comparison : ∀ op left right, motive left → motive right → motive (.comparison op left right))
    (logical : ∀ op left right, motive left → motive right → motive (.logical op left right))
    (isNull : ∀ inner negated, motive inner → motive (.isNull inner negated)) (tree : Expr) : motive tree :=
  @Expr.rec motive (fun trees => ∀ tree ∈ trees, motive tree) placeholder literal column call nested cast signed
    arithmetic comparison logical isNull (by simp) (fun _ _ first more => List.forall_mem_cons.mpr ⟨first, more⟩) tree

/-! ## Levels -/

/-- The level of the outermost operator. -/
def rank : Expr → Nat
  | .logical op _ _ => op.rank
  | .isNull .. => 3
  | .comparison .. => 4
  | .arithmetic op _ _ => op.rank
  | .signed .. => 7
  | .cast .. => 8
  | _ => 9

theorem rank_le (tree : Expr) : tree.rank ≤ 9 := by
  cases tree with
  | logical op => cases op <;> simp [rank, LogicalOp.rank]
  | arithmetic op => cases op <;> simp [rank, ArithmeticOp.rank]
  | _ => simp [rank]

/-- Operands bind as close as their places ask for. Operators of one level group from the left; comparisons do not
chain. -/
inductive Shaped : Expr → Prop where
  | placeholder : Shaped .placeholder
  | literal (literal : Literal) : Shaped (.literal literal)
  | column (column : ColumnRef) : Shaped (.column column)
  | call (name : Text) {arguments : List Expr} (each : ∀ argument ∈ arguments, Shaped argument) :
    Shaped (.call name arguments)
  | nested {inner : Expr} (shaped : Shaped inner) : Shaped (.nested inner)
  | cast {inner : Expr} (type : Text) (shaped : Shaped inner) (close : 8 ≤ inner.rank) : Shaped (.cast inner type)
  | signed (sign : Sign) {inner : Expr} (shaped : Shaped inner) (close : 7 ≤ inner.rank) : Shaped (.signed sign inner)
  | arithmetic (op : ArithmeticOp) {left right : Expr} (shapedLeft : Shaped left) (shapedRight : Shaped right)
    (closeLeft : op.rank ≤ left.rank) (closeRight : op.rank < right.rank) : Shaped (.arithmetic op left right)
  | comparison (op : ComparisonOp) {left right : Expr} (shapedLeft : Shaped left) (shapedRight : Shaped right)
    (closeLeft : 4 < left.rank) (closeRight : 4 < right.rank) : Shaped (.comparison op left right)
  | logical (op : LogicalOp) {left right : Expr} (shapedLeft : Shaped left) (shapedRight : Shaped right)
    (closeLeft : op.rank ≤ left.rank) (closeRight : op.rank < right.rank) : Shaped (.logical op left right)
  | isNull {inner : Expr} (negated : Bool) (shaped : Shaped inner) (close : 3 ≤ inner.rank) :
    Shaped (.isNull inner negated)

/-- An atom of a VALUES list: no operators and no columns. -/
inductive IsAtom : Expr → Prop where
  | placeholder : IsAtom .placeholder
  | literal (literal : Literal) : IsAtom (.literal literal)
  | call (name : Text) {arguments : List Expr} (each : ∀ argument ∈ arguments, IsAtom argument) :
    IsAtom (.call name arguments)
  | nested {inner : Expr} (atom : IsAtom inner) : IsAtom (.nested inner)
  | cast {inner : Expr} (type : Text) (atom : IsAtom inner) : IsAtom (.cast inner type)

end Expr

/-! ## Lexemes of trees -/

namespace Lexeme

def dotted (qualifier? : Option Text) (name : Text) : List Lexeme :=
  match qualifier? with
  | some qualifier => [.name qualifier, .symbol ['.'], .name name]
  | none => [.name name]

end Lexeme

namespace Expr

open Reader

mutual

/-- A tree as lexemes in their order. -/
def lexemes : Expr → List Lexeme
  | .placeholder => [.placeholder]
  | .literal written => [.literal written]
  | .column reference => Lexeme.dotted reference.qualifier? reference.name
  | .call name arguments => .name name :: Lexeme.parenthesized (Lexeme.commaList (lexemesOfAll arguments))
  | .nested inner => Lexeme.parenthesized inner.lexemes
  | .cast inner type => inner.lexemes ++ [.symbol [':', ':'], .type type]
  | .signed sign inner => .symbol sign.text :: inner.lexemes
  | .arithmetic op left right => left.lexemes ++ .symbol op.text :: right.lexemes
  | .comparison op left right => left.lexemes ++ .comparison op :: right.lexemes
  | .logical op left right => left.lexemes ++ .keyword op.keyword :: right.lexemes
  | .isNull inner negated =>
    inner.lexemes ++ .keyword .IS :: (if negated then [.keyword .NOT, .keyword .NULL] else [.keyword .NULL])

def lexemesOfAll : List Expr → List (List Lexeme)
  | [] => []
  | first :: more => first.lexemes :: lexemesOfAll more

end

theorem lexemesOfAll_eq_map (trees : List Expr) : lexemesOfAll trees = trees.map lexemes := by
  induction trees with
  | nil => rw [lexemesOfAll, List.map_nil]
  | cons first more ih => rw [lexemesOfAll, ih, List.map_cons]

/-! ## What stands in front -/

/-- The characters that start an expression without an operator in front. -/
def startsOperand (c : Char) : Bool := isWordStart c || startsConstant c || c == '"' || c == '?' || c == '('

theorem startsOperand_of_identifier {text name rest : Text} (done : identifier text = .done name rest) :
    ∃ c more, text = c :: more ∧ startsOperand c := by
  obtain ⟨c, more, rfl, -, rfl | ⟨start, -⟩⟩ := identifier_head done
  · exact ⟨'"', more, rfl, rfl⟩
  · exact ⟨c, more, rfl, by simp [startsOperand, start]⟩

theorem startsOperand_of_readLiteral {text rest : Text} {tree : Expr} (done : readLiteral text = .done tree rest) :
    ∃ c more, text = c :: more ∧ startsOperand c := by
  obtain ⟨written, rfl, isRead⟩ := isReadAs_of_readLiteral done
  cases isRead with
  | word kind keyword names spelled ends =>
    obtain ⟨c, more, rfl, letter⟩ := head_of_lookup?_leadWord spelled
    exact ⟨c, more, rfl, by simp [startsOperand, isWordStart, isLetter, letter]⟩
  | number written read =>
    obtain ⟨c, more, after, rfl, rfl, head⟩ := number_head read
    exact ⟨c, more ++ after, rfl, by rcases head with head | head <;> simp [startsOperand, startsConstant, head]⟩
  | string written read =>
    obtain ⟨mid, raw, -⟩ := lexeme_eq_done_iff.mp read
    obtain ⟨body, inside, -, rfl, -⟩ := rawQuoted_eq_done_iff.mp raw
    exact ⟨'\'', inside, rfl, rfl⟩

theorem startsOperand_of_typeName {text type rest : Text} (done : typeName text = .done type rest) :
    ∃ c more, text = c :: more ∧ startsOperand c := by
  obtain ⟨mid, raw, -⟩ := lexeme_eq_done_iff.mp done
  obtain ⟨word, afterWord, wordRead, -⟩ := bind_eq_done_iff.mp raw
  rcases done_of_firstOf_pair wordRead with read | read
  · obtain ⟨-, -, c, more, rfl, start⟩ := rawWord_eq_done_iff.mp read
    exact ⟨c, more, rfl, by simp [startsOperand, start]⟩
  · obtain ⟨body, inside, -, rfl, -⟩ := rawQuoted_eq_done_iff.mp read
    exact ⟨'"', inside, rfl, rfl⟩

theorem startsOperand_of_keyword {keyword : Keyword} {text rest : Text}
    (done : Reader.keyword keyword text = .done () rest) : ∃ c more, text = c :: more ∧ startsOperand c := by
  obtain ⟨c, more, rfl, letter⟩ := head_of_lookup?_leadWord (keyword_eq_done_iff.mp done).1
  exact ⟨c, more, rfl, by simp [startsOperand, isWordStart, isLetter, letter]⟩

/-- An expression of the closest levels starts with one of these characters. -/
theorem startsOperand_of_spells {tree : Expr} (shaped : tree.Shaped) (close : 8 ≤ tree.rank) {text rest : Text}
    (spells : Spells tree.lexemes text rest) : ∃ c more, text = c :: more ∧ startsOperand c := by
  induction shaped generalizing rest with
  | placeholder =>
    obtain ⟨mid, read, -⟩ := spells
    obtain ⟨-, after, rfl, -⟩ := readPlaceholder_eq_done_iff.mp read
    exact ⟨'?', after, rfl, rfl⟩
  | literal written =>
    obtain ⟨mid, read, -⟩ := spells
    exact startsOperand_of_readLiteral read
  | column reference =>
    rw [lexemes, Lexeme.dotted.eq_def] at spells
    split at spells <;> obtain ⟨mid, read, -⟩ := spells <;> exact startsOperand_of_identifier read
  | call name each ih =>
    obtain ⟨mid, read, -⟩ := spells
    exact startsOperand_of_identifier read
  | nested shapedInner ih =>
    obtain ⟨mid, read, -⟩ := spells
    obtain ⟨-, after, rfl, -⟩ := symbol_eq_done_iff.mp read
    exact ⟨'(', after, rfl, rfl⟩
  | cast type shapedInner closeInner ih =>
    obtain ⟨mid, before, -⟩ := spells_append_iff.mp spells
    exact ih closeInner before
  | arithmetic op => cases op <;> simp [rank, ArithmeticOp.rank] at close
  | logical op => cases op <;> simp [rank, LogicalOp.rank] at close
  | signed | comparison | isNull => simp [rank] at close

/-! ## What stands behind -/

/-- The level of the operator that a text starts with. A name goes on with a dot or an opening parenthesis. -/
def nextRank? (text : Text) : Option Nat :=
  match text with
  | '.' :: _ | '(' :: _ => some 9
  | ':' :: ':' :: _ => some 8
  | '*' :: _ | '/' :: _ | '%' :: _ => some 6
  | '+' :: _ | '-' :: _ => some 5
  | '=' :: _ | '<' :: _ | '>' :: _ | '!' :: '=' :: _ => some 4
  | _ =>
    match Keyword.lookup? (leadWord text) with
    | some .IS => some 3
    | some .AND => some 2
    | some .XOR => some 1
    | some .OR => some 0
    | _ => none

/-- A text does not go on with an operator of a level or of a closer one. -/
def Stops (level : Nat) (text : Text) : Prop := ∀ next, nextRank? text = some next → next < level

theorem Stops.mono {level closer : Nat} {text : Text} (stops : Stops level text) (le : level ≤ closer) :
    Stops closer text := fun next here => Nat.lt_of_lt_of_le (stops next here) le

theorem stops_of_nextRank? {level next : Nat} {text : Text} (here : nextRank? text = some next) (lt : next < level) :
    Stops level text := by
  intro other also
  rw [here] at also
  cases also
  exact lt

theorem stops_of_none {text : Text} (nothing : nextRank? text = none) (level : Nat) : Stops level text := by
  intro next here
  rw [nothing] at here
  cases here

theorem nextRank?_of_keyword {text : Text} {keyword : Keyword}
    (found : Keyword.lookup? (leadWord text) = some keyword) :
    nextRank? text =
      match some keyword with
      | some .IS => some 3
      | some .AND => some 2
      | some .XOR => some 1
      | some .OR => some 0
      | _ => none := by
  obtain ⟨c, rest, rfl, letter⟩ := head_of_lookup?_leadWord found
  unfold nextRank?
  split
  case h_13 => rw [found]
  all_goals
    rename_i same
    cases same
    exact absurd letter (by decide)

end Expr

end BulkSql
