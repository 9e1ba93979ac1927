import BulkSql.Proofs.Syntax.Munch
import BulkSql.Proofs.Syntax.Refusals
import BulkSql.Syntax.Statement

/-! # Where the grammar gives up

Every reader of the grammar accounts for its failures. A report counts all of them but that of a keyword which runs into
a word character, so that a statement is refused for nothing that counts only at one of its own keywords.
-/

namespace BulkSql

open Reader

/-- What is left behind layout is a part of the text. -/
theorem skipLayout_suffix (text : Text) : skipLayout text <:+ text := (Token.scans_skipLayout text text).suffix

namespace Reader

variable {α β : Type} {text : Text} {counted : Prop}

/-! ## Raw lexemes -/

namespace AccountsRaw

/-- A raw reader whose further parts never give up. -/
theorem bind {first : Reader α} {next : α → Reader β} (one : AccountsRaw counted first)
    (goesOn : ∀ value text, ∃ value' rest, next value text = .done value' rest ∧ rest <:+ text) :
    AccountsRaw counted (first >>= next) := by
  intro text bare
  have keeps := one text bare
  change Keeps _ counted text (first.andThen next text)
  rw [andThen]
  revert keeps
  cases first text with
  | done value mid =>
    intro keeps
    obtain ⟨value', rest, done, suffix⟩ := goesOn value mid
    dsimp only
    rw [done]
    exact ⟨suffix.trans keeps.1, trivial⟩
  | fail why => exact id
  | halt why => exact id

end AccountsRaw

/-- An optional raw lexeme takes a part of the text or nothing. -/
theorem exists_optional_done {raw : Reader Text} {avoided : Char → Bool} (decisive : Decisive raw)
    (reproducible : Reproducible raw avoided) (text : Text) :
    ∃ value? rest, optional raw text = .done value? rest ∧ rest <:+ text := by
  rcases decisive text with ⟨value, rest, done⟩ | fails
  · exact ⟨_, _, optional_of_done done, _, (reproducible _ _ _ done).1.symm⟩
  · exact ⟨_, _, optional_of_fails fails, List.suffix_rfl⟩

theorem accountsRaw_exactly (wanted : Text) : AccountsRaw counted (exactly wanted) := by
  intro text bare
  rw [exactly]
  split
  · next rest found => exact ⟨⟨wanted, (Text.after?_eq_some_iff.mp found).symm⟩, trivial⟩
  · exact keeps_leaf bare (by simp)

theorem accountsRaw_digits : AccountsRaw counted digits := by
  intro text bare
  rw [digits]
  split
  · exact keeps_leaf bare (by simp)
  · exact ⟨List.dropWhile_suffix _, trivial⟩

/-- Behind a point without digits layout may start. -/
theorem accountsRaw_fraction : AccountsRaw counted fraction := by
  intro text bare
  have keeps : Keeps _ counted text (exactly ['.'] text) := accountsRaw_exactly ['.'] text bare
  change Keeps _ counted text ((exactly ['.']).andThen _ text)
  rw [andThen]
  cases reply : exactly ['.'] text with
  | done point mid =>
    obtain ⟨rfl, rfl⟩ := exactly_eq_done_iff.mp reply
    change Keeps _ counted ('.' :: mid) (digits.andThen _ mid)
    rw [andThen, digits]
    cases mid.takeWhile isDecimalDigit with
    | nil =>
      refine ⟨liesIn_leaf.mpr ⟨List.suffix_cons .., .inr List.suffix_rfl⟩, fun _ => ?_⟩
      exact Failure.counts_leaf.mpr (by simp)
    | cons d more => exact ⟨(List.dropWhile_suffix _).trans (List.suffix_cons ..), trivial⟩
  | fail why => rwa [reply] at keeps
  | halt why => rwa [reply] at keeps

theorem accountsRaw_rawNumber : AccountsRaw counted rawNumber := by
  have done (written text : Text) : ∃ value' rest, (pure written : Reader Text) text = .done value' rest ∧ rest <:+ text :=
    ⟨written, text, rfl, List.suffix_rfl⟩
  have power (front : Option Text → Text) (text : Text) : ∃ value' rest,
      (optional exponent >>= fun power => pure (front power)) text = .done value' rest ∧ rest <:+ text := by
    obtain ⟨power, rest, read, suffix⟩ := exists_optional_done Decisive.exponent reproducible_exponent text
    exact ⟨_, _, bind_of_done read _, suffix⟩
  have whole : AccountsRaw True (digits >>= fun whole => optional fraction >>= fun part =>
      optional exponent >>= fun power => pure (whole ++ part.getD [] ++ power.getD [])) := by
    refine accountsRaw_digits.bind fun whole text => ?_
    obtain ⟨part, mid, read, suffix⟩ := exists_optional_done Decisive.fraction reproducible_fraction text
    obtain ⟨value, rest, done, suffix'⟩ := power (fun power => whole ++ part.getD [] ++ power.getD []) mid
    exact ⟨value, rest, (bind_of_done read _).trans done, suffix'.trans suffix⟩
  have part : AccountsRaw True (fraction >>= fun part => optional exponent >>= fun power => pure (part ++ power.getD [])) :=
    accountsRaw_fraction.bind fun part => power fun power => part ++ power.getD []
  exact ((whole.orElse (part.orElse AccountsAs.firstOf_nil)).mono fun _ => .inl trivial)

theorem accountsRaw_rawQuoted (quote : Char) : AccountsRaw counted (rawQuoted quote) := by
  intro text bare
  unfold rawQuoted
  split
  · next c inside =>
    split
    · split
      · next body rest closed =>
        obtain ⟨rfl, -⟩ := closeQuote?_split closed
        exact ⟨(List.suffix_append ..).trans (List.suffix_cons ..), trivial⟩
      · refine ⟨liesIn_leaf.mpr ⟨List.nil_suffix, .inl skipLayout_nil⟩, fun _ => ?_⟩
        exact Failure.counts_leaf.mpr (by simp)
    · exact keeps_leaf bare (by simp)
  · exact keeps_leaf bare (by simp)

theorem accountsRaw_rawWord : AccountsRaw counted rawWord := by
  intro text bare
  have refused : Keeps (α := Text) (fun _ => True) counted text
      (.fail (.alternatives [.leaf text .identifier, .leaf text (.exactly ['_'])])) := by
    refine ⟨liesIn_alternatives.mpr ?_, fun _ => Failure.counts_alternatives.mpr ⟨.leaf text .identifier, ?_⟩⟩
    · simp [liesIn_leaf, isReached_self bare]
    · simp [Failure.counts_leaf]
  unfold rawWord
  split
  · split
    · exact ⟨(List.dropWhile_suffix _).trans (List.suffix_cons ..), trivial⟩
    · exact refused
  · exact refused

/-- A word character starts no layout. -/
theorem skipLayout_of_isWordChar {c : Char} (goesOn : isWordChar c) (more : Text) :
    skipLayout (c :: more) = c :: more := by
  apply skipLayout_of_startsBare
  refine ⟨?_, ?_, ?_⟩
  · apply Bool.eq_false_iff.mpr
    intro space
    simp only [isSpace, Bool.or_eq_true, beq_iff_eq] at space
    rcases space with ((rfl | rfl) | rfl) | rfl <;> exact absurd goesOn (by decide)
  · rintro rfl
    exact absurd goesOn (by decide)
  · rintro rfl
    exact absurd goesOn (by decide)

/-- A keyword that runs on is refused at its end, which does not count. -/
theorem accountsRaw_rawKeyword (keyword : Keyword) : AccountsRaw False (rawKeyword keyword) := by
  intro text bare
  unfold rawKeyword
  dsimp only
  split
  · have suffix := List.drop_suffix keyword.word.length text
    split
    · next same => exact ⟨same ▸ suffix, trivial⟩
    · next c rest same =>
      rw [same] at suffix
      split
      · next goesOn =>
        exact ⟨liesIn_leaf.mpr ⟨suffix, .inl (skipLayout_of_isWordChar goesOn rest)⟩, False.elim⟩
      · exact ⟨suffix, trivial⟩
  · exact keeps_leaf bare (by simp)

/-! ## Lexemes -/

namespace Accounts

theorem lexeme {raw : Reader Text} (accounts : AccountsRaw counted raw) : Accounts counted (Reader.lexeme raw) := by
  intro text bare
  have keeps := accounts text bare
  change Keeps _ counted text (raw.andThen _ text)
  rw [andThen]
  revert keeps
  cases raw text with
  | done value mid => exact fun keeps => ⟨(skipLayout_suffix mid).trans keeps.1, skipLayout_skipLayout mid⟩
  | fail why => exact id
  | halt why => exact id

theorem symbol (wanted : Text) : Accounts counted (Reader.symbol wanted) := lexeme (accountsRaw_exactly wanted)

theorem keywordText (keyword : Keyword) : Accounts False (Reader.keywordText keyword) :=
  lexeme (accountsRaw_rawKeyword keyword)

theorem keyword (keyword : Keyword) : Accounts False (Reader.keyword keyword) := (keywordText keyword).bind fun _ => pure _

theorem keywords (words : List Keyword) : Accounts False (Reader.keywords words) := by
  induction words with
  | nil => exact pure ()
  | cons first more ih => exact (keyword first).bind fun _ => ih

theorem quotedName : Accounts counted Reader.quotedName := lexeme (accountsRaw_rawQuoted '"')

theorem bareName : Accounts counted Reader.bareName := by
  intro text bare
  have keeps : Keeps _ counted text (Reader.word text) := lexeme accountsRaw_rawWord text bare
  unfold Reader.bareName
  revert keeps
  cases Reader.word text with
  | done name rest =>
    dsimp only
    split
    · exact fun _ => keeps_leaf bare (by simp)
    · exact id
  | fail why => exact id
  | halt why => exact id

theorem identifier : Accounts True Reader.identifier := by
  refine AccountsAs.firstOf ?_ ⟨_, List.mem_cons_self .., quotedName⟩
  exact List.forall_mem_cons.mpr ⟨quotedName, List.forall_mem_singleton.mpr bareName⟩

theorem number : Accounts counted Reader.number := lexeme accountsRaw_rawNumber

theorem string : Accounts counted Reader.string := lexeme (accountsRaw_rawQuoted '\'')

theorem placeholder : Accounts counted Reader.placeholder := symbol ['?']

theorem typeName : Accounts counted Reader.typeName := by
  have name : AccountsRaw True (Reader.firstOf [rawWord, rawQuoted '"']) := by
    refine AccountsAs.firstOf ?_ ⟨_, List.mem_cons_self .., accountsRaw_rawWord⟩
    exact List.forall_mem_cons.mpr ⟨accountsRaw_rawWord, List.forall_mem_singleton.mpr (accountsRaw_rawQuoted '"')⟩
  have written : AccountsRaw True rawTypeName := by
    refine name.bind fun name text => ?_
    obtain ⟨brackets, rest, read, suffix⟩ :=
      exists_optional_done (Decisive.exactly ['[', ']']) (reproducible_exactly _) text
    exact ⟨_, rest, bind_of_done read _, suffix⟩
  exact lexeme (written.mono fun _ => trivial)

/-! ## Lists -/

section

variable {inner : Reader α}

theorem parenthesized (accounts : Accounts counted inner) : Accounts counted (Reader.parenthesized inner) :=
  (symbol ['(']).bind fun _ => accounts.bind fun _ => (symbol [')']).bind fun _ => pure _

theorem commaSeparated (accounts : Accounts True inner) : Accounts True (Reader.commaSeparated inner) :=
  separated accounts (symbol [','])

theorem listOf (accounts : Accounts True inner) : Accounts True (Reader.listOf inner) :=
  parenthesized (commaSeparated accounts)

/-- Branches that all count. -/
theorem branches {readers : List (Reader α)} (some_ : readers ≠ []) (all : ∀ reader ∈ readers, Accounts True reader) :
    Accounts True (Reader.firstOf readers) := by
  obtain ⟨first, more, rfl⟩ := List.exists_cons_of_ne_nil some_
  exact AccountsAs.firstOf (fun reader member => (all reader member).of_true)
    ⟨first, List.mem_cons_self .., all first (List.mem_cons_self ..)⟩

end

/-! ## Expressions -/

variable {inner : Reader Expr}

theorem literalOf {kind : LiteralKind} {text : Reader Text} (accounts : Accounts counted text) :
    Accounts counted (Expr.literalOf kind text) := accounts.bind fun _ => pure _

theorem readLiteral : Accounts True Expr.readLiteral := by
  refine AccountsAs.firstOf ?_ ⟨Expr.literalOf .number Reader.number, by simp, literalOf number⟩
  simp only [List.forall_mem_cons]
  exact ⟨literalOf (keywordText _), literalOf (keywordText _), literalOf (keywordText _), literalOf number,
    literalOf string, List.forall_mem_nil _⟩

theorem readPlaceholder : Accounts True Expr.readPlaceholder := placeholder.bind fun _ => pure _

theorem readCall (accounts : Accounts True inner) : Accounts True (Expr.readCall inner) :=
  identifier.bind fun _ =>
    (parenthesized (optional (commaSeparated accounts).of_true)).bind fun _ => pure _

theorem readNested (accounts : Accounts True inner) : Accounts True (Expr.readNested inner) :=
  (parenthesized accounts).bind fun _ => pure _

theorem readDotted : Accounts True Expr.readDotted := by
  have part : Accounts False (do let _ ← Reader.symbol ['.']; Reader.identifier) :=
    (symbol ['.']).bind fun _ => identifier.of_true
  refine identifier.bind fun first => (optional part).bind fun second? => ?_
  cases second? with
  | none => exact pure _
  | some second => exact pure _

theorem readColumn : Accounts True Expr.readColumn := readDotted.bind fun _ => pure _

theorem readCasts {operand : Reader Expr} (accounts : Accounts True operand) : Accounts True (Expr.readCasts operand) :=
  marksAfter accounts ((symbol _).bind fun _ => typeName)

theorem readAtom : Accounts True Expr.readAtom := by
  refine recursive fun inner accounts => readCasts (branches (by simp) ?_)
  simp only [List.forall_mem_cons]
  exact ⟨readPlaceholder, readLiteral, readCall accounts, readNested accounts, List.forall_mem_nil _⟩

theorem operator {op : α} (written : Text) : Accounts counted (Expr.operator written op) :=
  (symbol written).bind fun _ => pure _

theorem logicalOperator (word : Keyword) (op : LogicalOp) : Accounts False (Expr.logicalOperator word op) :=
  (keyword word).bind fun _ => pure _

theorem signOperator : Accounts True Expr.signOperator := by
  refine branches (by simp) ?_
  simp only [List.forall_mem_cons]
  exact ⟨operator _, operator _, List.forall_mem_nil _⟩

theorem productOperator : Accounts True Expr.productOperator := by
  refine branches (by simp) ?_
  simp only [List.forall_mem_cons]
  exact ⟨operator _, operator _, operator _, List.forall_mem_nil _⟩

theorem sumOperator : Accounts True Expr.sumOperator := by
  refine branches (by simp) ?_
  simp only [List.forall_mem_cons]
  exact ⟨operator _, operator _, List.forall_mem_nil _⟩

theorem comparisonOperator : Accounts True Expr.comparisonOperator := by
  refine branches (by simp) ?_
  simp only [List.forall_mem_cons]
  exact ⟨operator _, operator _, operator _, operator _, operator _, operator _, operator _, List.forall_mem_nil _⟩

theorem nullTest : Accounts False Expr.nullTest :=
  (keyword .IS).bind fun _ => (optional (keyword .NOT)).bind fun _ => (keyword .NULL).bind fun _ => pure _

theorem primaryLevel (accounts : Accounts True inner) : Accounts True (Expr.primaryLevel inner) := by
  refine branches (by simp) ?_
  simp only [List.forall_mem_cons]
  exact ⟨readPlaceholder, readLiteral, readCall accounts, readColumn, readNested accounts, List.forall_mem_nil _⟩

theorem sumLevel (accounts : Accounts True inner) : Accounts True (Expr.sumLevel inner) :=
  chainLeft (chainLeft (signsBefore (readCasts (primaryLevel accounts)) signOperator.of_true)
    productOperator.of_true) sumOperator.of_true

theorem comparisonLevel (accounts : Accounts True inner) : Accounts True (Expr.comparisonLevel inner) := by
  have right : Accounts False (do
      let op ← Expr.comparisonOperator
      let right ← Expr.sumLevel inner
      Pure.pure (op, right)) :=
    comparisonOperator.of_true.bind fun _ => (sumLevel accounts).of_true.bind fun _ => pure _
  refine (sumLevel accounts).bind fun left => (optional right).bind fun right? => ?_
  cases right? with
  | none => exact pure _
  | some right => exact pure _

/-- Expressions call themselves in parentheses only, and no level of theirs is refused for nothing that counts. -/
theorem expression : Accounts True Expr.read :=
  recursive fun _ accounts =>
    chainLeft (chainLeft (chainLeft (marksAfter (comparisonLevel accounts) nullTest) (logicalOperator _ _))
      (logicalOperator _ _)) (logicalOperator _ _)

/-! ## Parts of statements -/

theorem readNames : Accounts True Statement.readNames := listOf identifier

theorem readTable : Accounts True Statement.readTable := readDotted.bind fun _ => pure _

theorem readValues : Accounts False Statement.readValues :=
  (keyword _).bind fun _ => located ((consumed (listOf readAtom)).of_true.bind fun _ => pure _)

theorem readConflictTarget : Accounts True Statement.readConflictTarget := by
  have columns : Accounts True (do
      let names ← Statement.readNames
      Pure.pure (ConflictTarget.columns names)) := readNames.bind fun _ => pure _
  refine AccountsAs.firstOf ?_ ⟨_, List.mem_cons_self .., columns⟩
  refine List.forall_mem_cons.mpr ⟨columns.of_true, List.forall_mem_singleton.mpr ?_⟩
  exact (keywords _).bind fun _ => identifier.of_true.bind fun _ => pure _

theorem readOnConflict : Accounts False Statement.readOnConflict :=
  (keywords _).bind fun _ => readConflictTarget.of_true.bind fun _ => (keywords _).bind fun _ => pure _

theorem readSetClause : Accounts True Statement.readSetClause :=
  identifier.bind fun _ => (symbol _).bind fun _ => expression.bind fun _ => pure _

end Accounts

end Reader

end BulkSql
