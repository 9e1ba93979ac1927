import BulkSql.Proofs.Syntax.Grammar

/-! # Written expressions

An expression in one canonical layout. It spells the lexemes of the tree, so with the grammar it is read back as the
same tree. Every piece is read from where the layout in front of it ends to where the layout behind it ends, so pieces
compose whatever spaces stand between them.
-/

namespace BulkSql

open Reader

/-- What may stand behind a piece: nothing, a space, a comma, a cast or a closing parenthesis. -/
def Ends (after : Text) : Prop := ∀ c, after.head? = some c → c ∈ [' ', ')', ',', ':']

theorem ends_nil : Ends [] := by simp [Ends]

theorem ends_cons {c : Char} (closes : c ∈ [' ', ')', ',', ':']) (after : Text) : Ends (c :: after) := by
  intro other here
  cases here
  exact closes

theorem Ends.clear {after : Text} (ends : Ends after) {avoided : Char → Bool}
    (free : ∀ c ∈ [' ', ')', ',', ':'], avoided c = false) : Clear avoided after :=
  fun c here => free c (ends c here)

theorem Ends.clear_goesOn {after : Text} (ends : Ends after) (lexeme : Lexeme) : Clear lexeme.goesOn after := by
  apply ends.clear
  intro c member
  simp only [List.mem_cons, List.not_mem_nil, or_false] at member
  cases lexeme <;> rcases member with rfl | rfl | rfl | rfl <;> rfl

/-! ## Lexemes -/

theorem startsBare_of_startsOperand {c : Char} (starts : Expr.startsOperand c) (more : Text) :
    StartsBare (c :: more) := by
  refine ⟨Bool.eq_false_iff.mpr fun space => ?_, ?_, ?_⟩
  · simp only [isSpace, Bool.or_eq_true, beq_iff_eq] at space
    rcases space with ((rfl | rfl) | rfl) | rfl <;> exact absurd starts (by decide)
  · rintro rfl
    exact absurd starts (by decide)
  · rintro rfl
    exact absurd starts (by decide)

/-- Where a lexeme other than a symbol is read, no layout starts. -/
theorem Lexeme.Reads.startsBare {lexeme : Lexeme} {text rest : Text} (reads : lexeme.Reads text rest)
    (wordy : ∀ symbol, lexeme ≠ .symbol symbol) : StartsBare text := by
  cases lexeme with
  | placeholder =>
    obtain ⟨-, mid, rfl, -⟩ := Expr.readPlaceholder_eq_done_iff.mp reads
    exact startsBare_of_startsOperand rfl mid
  | literal written =>
    obtain ⟨c, more, rfl, starts⟩ := Expr.startsOperand_of_readLiteral reads
    exact startsBare_of_startsOperand starts more
  | name name =>
    obtain ⟨c, more, rfl, starts⟩ := Expr.startsOperand_of_identifier reads
    exact startsBare_of_startsOperand starts more
  | type type =>
    obtain ⟨c, more, rfl, starts⟩ := Expr.startsOperand_of_typeName reads
    exact startsBare_of_startsOperand starts more
  | symbol symbol => exact absurd rfl (wordy symbol)
  | comparison op =>
    obtain ⟨written, mid, member, rfl, -⟩ := Expr.spelling_of_comparisonOperator reads
    simp only [Expr.comparisonSpellings, List.mem_cons, Prod.mk.injEq, List.not_mem_nil, or_false] at member
    rcases member with ⟨rfl, -⟩ | ⟨rfl, -⟩ | ⟨rfl, -⟩ | ⟨rfl, -⟩ | ⟨rfl, -⟩ | ⟨rfl, -⟩ | ⟨rfl, -⟩ <;>
      simp [StartsBare, isSpace]
  | keyword keyword =>
    obtain ⟨c, more, rfl, starts⟩ := Expr.startsOperand_of_keyword reads
    exact startsBare_of_startsOperand starts more

/-- A lexeme that was read is read again where it is written. -/
theorem spells_lexeme {lexeme : Lexeme} (read : lexeme.IsRead)
    (wordy : ∀ symbol, lexeme ≠ .symbol symbol) {after : Text}
    (clear : Clear lexeme.goesOn after) : Spells [lexeme] (skipLayout (lexeme.text ++ after)) (skipLayout after) := by
  obtain ⟨text, rest, reads⟩ := read
  have again := reads.again clear
  rw [skipLayout_of_startsBare (again.startsBare wordy)]
  exact spells_singleton_iff.mpr again

theorem spells_symbol {symbol after : Text} (bare : StartsBare (symbol ++ after)) :
    Spells [.symbol symbol] (skipLayout (symbol ++ after)) (skipLayout after) := by
  rw [skipLayout_of_startsBare bare]
  exact spells_singleton_iff.mpr (symbol_eq_done_iff.mpr ⟨rfl, after, rfl, rfl⟩)

/-! ## Pieces -/

/-- A text is written for lexemes if it spells them wherever it ends. -/
def WrittenAs (lexemes : List Lexeme) (text : Text) : Prop :=
  ∀ after, Ends after → Spells lexemes (skipLayout (text ++ after)) (skipLayout after)

theorem writtenAs_lexeme {lexeme : Lexeme} (read : lexeme.IsRead) (wordy : ∀ symbol, lexeme ≠ .symbol symbol) :
    WrittenAs [lexeme] lexeme.text :=
  fun _ ends => spells_lexeme read wordy (ends.clear_goesOn lexeme)

theorem writtenAs_keyword (keyword : Keyword) : WrittenAs [.keyword keyword] keyword.word :=
  writtenAs_lexeme (isRead_keyword keyword) fun _ => nofun

theorem writtenAs_symbol {symbol : Text} (bare : ∀ after, Ends after → StartsBare (symbol ++ after)) :
    WrittenAs [.symbol symbol] symbol :=
  fun after ends => spells_symbol (bare after ends)

namespace WrittenAs

variable {before behind : List Lexeme} {left right : Text}

/-- Pieces with a space between. -/
theorem spaced (first : WrittenAs before left) (second : WrittenAs behind right) :
    WrittenAs (before ++ behind) (left ++ ' ' :: right) := by
  intro after ends
  have one := first (' ' :: (right ++ after)) (ends_cons (by simp) _)
  rw [skipLayout_of_isSpace rfl] at one
  rw [List.append_assoc, List.cons_append]
  exact one.append (second after ends)

/-- Pieces of which the second starts with what may stand behind the first. -/
theorem followed (first : WrittenAs before left) (second : WrittenAs behind right)
    (closes : ∀ after, Ends after → Ends (right ++ after)) : WrittenAs (before ++ behind) (left ++ right) := by
  intro after ends
  rw [List.append_assoc]
  exact (first (right ++ after) (closes after ends)).append (second after ends)

theorem parenthesized (inside : WrittenAs before left) :
    WrittenAs (Lexeme.parenthesized before) ("(" ++ left ++ ")") := by
  have opening (after : Text) : Spells [.symbol ['(']] (skipLayout ('(' :: after)) (skipLayout after) :=
    spells_symbol (by simp [StartsBare, isSpace])
  have closing : WrittenAs [.symbol [')']] [')'] := writtenAs_symbol fun after _ => by simp [StartsBare, isSpace]
  intro after ends
  have closed := inside.followed closing (fun _ _ => ends_cons (by simp) _) after ends
  exact (opening (left ++ [')'] ++ after)).append closed

end WrittenAs

theorem writtenAs_commaList {α : Type} {spelling : α → List Lexeme} {written : α → Text} {values : List α}
    (each : ∀ value ∈ values, WrittenAs (spelling value) (written value)) :
    WrittenAs (Lexeme.commaList (values.map spelling)) (Text.commaList (values.map written)) := by
  induction values with
  | nil => exact fun after _ => rfl
  | cons value values ih =>
    have rest := ih fun other member => each other (List.mem_cons_of_mem _ member)
    have first := each value (List.mem_cons_self ..)
    cases values with
    | nil => simpa [Lexeme.commaList, Text.commaList, Text.join] using first
    | cons next values =>
      have comma : WrittenAs [.symbol [',']] [','] := writtenAs_symbol fun after _ => by simp [StartsBare, isSpace]
      have all := (first.followed comma fun _ _ => ends_cons (by simp) _).spaced rest
      have lexemes : Lexeme.commaList ((value :: next :: values).map spelling) =
          spelling value ++ [.symbol [',']] ++ Lexeme.commaList ((next :: values).map spelling) := by
        simp [Lexeme.commaList]
      have text : Text.commaList ((value :: next :: values).map written) =
          written value ++ [','] ++ ' ' :: Text.commaList ((next :: values).map written) := by
        simp [Text.commaList, Text.join, List.intercalate_cons_cons]
      rw [lexemes, text]
      exact all

/-- A piece behind a word and a dot. -/
theorem WrittenAs.qualified {lexeme : Lexeme} (read : lexeme.IsRead) (wordy : ∀ symbol, lexeme ≠ .symbol symbol)
    (stops : lexeme.goesOn '.' = false) {lexemes : List Lexeme} {text : Text} (inside : WrittenAs lexemes text) :
    WrittenAs (lexeme :: .symbol ['.'] :: lexemes) (lexeme.text ++ '.' :: text) := by
  intro after ends
  have first := spells_lexeme read wordy (show Clear lexeme.goesOn ('.' :: (text ++ after)) from clear_cons.mpr stops)
  have dot : Spells [.symbol ['.']] (skipLayout ('.' :: (text ++ after))) (skipLayout (text ++ after)) :=
    spells_symbol (by simp [StartsBare, isSpace])
  rw [List.append_assoc]
  exact first.append (dot.append (inside after ends))

/-- A name, or a name behind a qualifier. -/
theorem writtenAs_dotted {qualifier? : Option Text} {name : Text}
    (read : AllRead (Lexeme.dotted qualifier? name)) :
    WrittenAs (Lexeme.dotted qualifier? name) (dotted qualifier? name) := by
  cases qualifier? with
  | none => exact writtenAs_lexeme (allRead_cons.mp read).1 fun _ => nofun
  | some qualifier =>
    simp only [Lexeme.dotted, allRead_cons] at read
    exact (writtenAs_lexeme read.2.2.1 fun _ => nofun).qualified read.1 (fun _ => nofun) rfl

/-! ## Expressions -/

namespace Expr

/-- A sign is set apart from what it stands before if that starts with a sign. -/
def gapBefore (written : Text) : Text :=
  match written with
  | '-' :: _ | '+' :: _ => [' ']
  | _ => []

mutual

/-- The expression on one line, with spaces around operators of two operands and behind commas. -/
def text : Expr → Text
  | .placeholder => "?"
  | .literal written => written.text
  | .column reference => reference.text
  | .call name arguments => name ++ "(" ++ Text.commaList (textOfAll arguments) ++ ")"
  | .nested inner => "(" ++ inner.text ++ ")"
  | .cast inner type => inner.text ++ "::" ++ type
  | .signed sign inner => sign.text ++ gapBefore inner.text ++ inner.text
  | .arithmetic op left right => left.text ++ " " ++ op.text ++ " " ++ right.text
  | .comparison op left right => left.text ++ " " ++ op.text ++ " " ++ right.text
  | .logical op left right => left.text ++ " " ++ op.text ++ " " ++ right.text
  | .isNull inner negated => inner.text ++ " " ++ if negated then "IS NOT NULL" else "IS NULL"

def textOfAll : List Expr → List Text
  | [] => []
  | first :: more => first.text :: textOfAll more

end

theorem textOfAll_eq_map (trees : List Expr) : textOfAll trees = trees.map text := by
  induction trees with
  | nil => rw [textOfAll, List.map_nil]
  | cons first more ih => rw [textOfAll, ih, List.map_cons]

/-- An arithmetic operator between spaces starts no comment. -/
theorem writtenAs_arithmetic (op : ArithmeticOp) : WrittenAs [.symbol op.text] op.text := by
  apply writtenAs_symbol
  intro after ends
  have other (c : Char) (foreign : c ∉ [' ', ')', ',', ':']) : after.head? ≠ some c := fun here => foreign (ends c here)
  cases op <;> simp [ArithmeticOp.text, StartsBare, isSpace, other]

/-- A sign set apart from a further sign starts no comment. -/
theorem writtenAs_signed {sign : Sign} {lexemes : List Lexeme} {written : Text} (inside : WrittenAs lexemes written) :
    WrittenAs (.symbol sign.text :: lexemes) (sign.text ++ gapBefore written ++ written) := by
  intro after ends
  have read (behind : Text) (apart : behind.head? ≠ some '-') :
      Spells [.symbol sign.text] (skipLayout (sign.text ++ behind)) (skipLayout behind) := by
    apply spells_symbol
    cases sign <;> simp [Sign.text, StartsBare, isSpace, apart]
  have spaced (behind : Text) :
      Spells [.symbol sign.text] (skipLayout (sign.text ++ ' ' :: behind)) (skipLayout behind) := by
    have := read (' ' :: behind) (by simp)
    rwa [skipLayout_of_isSpace rfl] at this
  rw [List.append_assoc, List.append_assoc]
  unfold gapBefore
  split
  · exact (spaced _).append (inside after ends)
  · exact (spaced _).append (inside after ends)
  · next noMinus noPlus =>
    refine (read (written ++ after) ?_).append (inside after ends)
    cases written with
    | nil => exact fun here => absurd (ends _ here) (by decide)
    | cons c more =>
      rintro same
      cases same
      exact noMinus more rfl

/-- A name with its arguments right behind it. -/
theorem writtenAs_call {name : Text} (read : (Lexeme.name name).IsRead) {lexemes : List Lexeme} {arguments : Text}
    (inside : WrittenAs lexemes arguments) :
    WrittenAs (.name name :: Lexeme.parenthesized lexemes) (name ++ ("(" ++ arguments ++ ")")) := by
  intro after ends
  have opened : Clear goesOnName ('(' :: (arguments ++ [')'] ++ after)) := clear_cons.mpr rfl
  have named := spells_lexeme read (fun _ => nofun) opened
  rw [List.append_assoc]
  exact named.append (inside.parenthesized after ends)

theorem writtenAs_cast {type : Text} (read : (Lexeme.type type).IsRead) :
    WrittenAs [.symbol [':', ':'], .type type] ([':', ':'] ++ type) := by
  intro after ends
  have colons : Spells [.symbol [':', ':']] (skipLayout (':' :: ':' :: (type ++ after))) (skipLayout (type ++ after)) :=
    spells_symbol (by simp [StartsBare, isSpace])
  exact colons.append (writtenAs_lexeme read (by simp) after ends)

theorem writtenAs_nullTest (negated : Bool) :
    WrittenAs (.keyword .IS :: if negated then [.keyword .NOT, .keyword .NULL] else [.keyword .NULL])
      (if negated then "IS NOT NULL" else "IS NULL" : String) := by
  cases negated with
  | true => exact ((writtenAs_keyword .IS).spaced (writtenAs_keyword .NOT)).spaced (writtenAs_keyword .NULL)
  | false => exact (writtenAs_keyword .IS).spaced (writtenAs_keyword .NULL)

mutual

/-- The lexemes of a tree, with columns spelled in a way of their own. -/
def spelled (column : ColumnRef → List Lexeme) : Expr → List Lexeme
  | .placeholder => [.placeholder]
  | .literal written => [.literal written]
  | .column reference => column reference
  | .call name arguments => .name name :: Lexeme.parenthesized (Lexeme.commaList (spelledAll column arguments))
  | .nested inner => Lexeme.parenthesized (inner.spelled column)
  | .cast inner type => inner.spelled column ++ [.symbol [':', ':'], .type type]
  | .signed sign inner => .symbol sign.text :: inner.spelled column
  | .arithmetic op left right => left.spelled column ++ .symbol op.text :: right.spelled column
  | .comparison op left right => left.spelled column ++ .comparison op :: right.spelled column
  | .logical op left right => left.spelled column ++ .keyword op.keyword :: right.spelled column
  | .isNull inner negated =>
    inner.spelled column ++ .keyword .IS :: (if negated then [.keyword .NOT, .keyword .NULL] else [.keyword .NULL])

def spelledAll (column : ColumnRef → List Lexeme) : List Expr → List (List Lexeme)
  | [] => []
  | first :: more => first.spelled column :: spelledAll column more

end

variable {column : ColumnRef → List Lexeme}

theorem spelledAll_eq_map (trees : List Expr) : spelledAll column trees = trees.map (spelled column) := by
  induction trees with
  | nil => rw [spelledAll, List.map_nil]
  | cons first more ih => rw [spelledAll, ih, List.map_cons]

/-- Columns are lexemes of the grammar where they are spelled as such. -/
theorem spelled_dotted (tree : Expr) :
    tree.spelled (fun reference => Lexeme.dotted reference.qualifier? reference.name) = tree.lexemes := by
  induction tree using induction with
  | placeholder | literal | column => rfl
  | call name arguments ih =>
    rw [spelled, lexemes, spelledAll_eq_map, lexemesOfAll_eq_map, List.map_congr_left ih]
  | nested inner ih | cast inner type ih | signed sign inner ih | isNull inner negated ih =>
    rw [spelled, lexemes, ih]
  | arithmetic op left right ihLeft ihRight | comparison op left right ihLeft ihRight
  | logical op left right ihLeft ihRight => rw [spelled, lexemes, ihLeft, ihRight]

/-- An expression is written for lexemes that can be read, if each of its columns is. -/
theorem writtenAs_spelled (columns : ∀ reference, AllRead (column reference) → WrittenAs (column reference) reference.text)
    (tree : Expr) (read : AllRead (tree.spelled column)) : WrittenAs (tree.spelled column) tree.text := by
  induction tree using induction with
  | placeholder => exact writtenAs_lexeme isRead_placeholder (by simp)
  | literal written =>
    rw [spelled, allRead_cons] at read
    exact writtenAs_lexeme read.1 (by simp)
  | column reference => exact columns reference read
  | call name arguments ih =>
    rw [spelled, spelledAll_eq_map] at read ⊢
    rw [text, textOfAll_eq_map]
    rw [allRead_cons, Lexeme.allRead_parenthesized, Lexeme.allRead_commaList, List.forall_mem_map] at read
    have list := writtenAs_commaList fun argument member => ih argument member (read.2 argument member)
    rw [List.append_assoc, List.append_assoc, ← List.append_assoc ("(" : Text)]
    exact writtenAs_call read.1 list
  | nested inner ih =>
    rw [spelled, Lexeme.allRead_parenthesized] at read
    exact (ih read).parenthesized
  | cast inner type ih =>
    rw [spelled, allRead_append, allRead_cons, allRead_cons] at read
    rw [text, List.append_assoc]
    exact (ih read.1).followed (writtenAs_cast read.2.2.1) fun _ _ => ends_cons (show ':' ∈ _ by simp) _
  | signed sign inner ih =>
    rw [spelled, allRead_cons] at read
    exact writtenAs_signed (ih read.2)
  | arithmetic op left right ihLeft ihRight =>
    rw [spelled, allRead_append, allRead_cons] at read
    have all := ((ihLeft read.1).spaced (writtenAs_arithmetic op)).spaced (ihRight read.2.2)
    simpa [spelled, text] using all
  | comparison op left right ihLeft ihRight =>
    rw [spelled, allRead_append, allRead_cons] at read
    have middle : WrittenAs [.comparison op] op.text := writtenAs_lexeme (isRead_comparison op) (by simp)
    simpa [spelled, text] using ((ihLeft read.1).spaced middle).spaced (ihRight read.2.2)
  | logical op left right ihLeft ihRight =>
    rw [spelled, allRead_append, allRead_cons] at read
    have middle : WrittenAs [.keyword op.keyword] op.text := by
      cases op <;> exact writtenAs_keyword _
    simpa [spelled, text] using ((ihLeft read.1).spaced middle).spaced (ihRight read.2.2)
  | isNull inner negated ih =>
    rw [spelled, allRead_append] at read
    rw [spelled, text, List.append_assoc]
    exact (ih read.1).spaced (writtenAs_nullTest negated)

/-- An expression whose lexemes can be read is written for them. -/
theorem writtenAs_text (tree : Expr) (read : AllRead tree.lexemes) : WrittenAs tree.lexemes tree.text := by
  rw [← tree.spelled_dotted] at read ⊢
  exact writtenAs_spelled (fun _ => writtenAs_dotted) tree read

end Expr

end BulkSql
