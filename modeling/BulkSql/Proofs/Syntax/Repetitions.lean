import BulkSql.Proofs.Syntax.GrammarRefusals
import BulkSql.Proofs.Syntax.Progress

/-! # Layout, words and quoted texts as repetitions

Layout is white space and then comments, each with the white space behind it. A word goes on in runs of letters and
digits and with underscores, a quoted text in runs without a quote and with quotes written twice. Each of these parts
takes something, and repeating it reads what the lexemes read.
-/

namespace BulkSql

namespace Reader

/-! ## Parts -/

/-- One or more characters of a class. -/
def run (kind : Char → Bool) : Reader Text := fun text =>
  match text.takeWhile kind with
  | [] => .fail (.leaf text .unnamed)
  | c :: more => .done (c :: more) (text.dropWhile kind)

def spaces : Reader Unit := fun text => .done () (text.dropWhile isSpace)

def lineComment : Reader Unit := do
  let _ ← exactly ['-', '-']
  fun text => .done () (afterLine text)

def blockEnd : Reader Unit := fun text =>
  match afterBlock? text with
  | some rest => .done () rest
  | none => .fail (.leaf text (.exactly ['*', '/']))

def blockComment : Reader Unit := do
  let _ ← exactly ['/', '*']
  blockEnd

/-- A comment and the white space behind it. -/
def layoutPart : Reader Unit :=
  firstOf [
    do
      lineComment
      spaces,
    do
      blockComment
      spaces]

def layoutOfParts : Reader Unit := do
  spaces
  let _ ← many layoutPart
  pure ()

def wordPart : Reader Text := firstOf [run Char.isAlphanum, exactly ['_']]

def wordOfParts : Reader Text := do
  let head ← firstOf [run isLetter, exactly ['_']]
  let parts ← many wordPart
  pure (head ++ parts.flatten)

def quotedPart (quote : Char) : Reader Text := firstOf [run (· != quote), exactly [quote, quote]]

def quotedOfParts (quote : Char) : Reader Text := do
  let opening ← exactly [quote]
  let parts ← many (quotedPart quote)
  let closing ← exactly [quote]
  pure (opening ++ parts.flatten ++ closing)

/-! ## What parts take -/

theorem run_eq_done_iff {kind : Char → Bool} {text written rest : Text} :
    run kind text = .done written rest ↔
      written = text.takeWhile kind ∧ rest = text.dropWhile kind ∧ text.takeWhile kind ≠ [] := by
  unfold run
  cases text.takeWhile kind with
  | nil => simp
  | cons c more => simp [eq_comm]

theorem run_cons {kind : Char → Bool} {c : Char} (first : kind c) (more : Text) :
    run kind (c :: more) = .done ((c :: more).takeWhile kind) ((c :: more).dropWhile kind) := by
  apply run_eq_done_iff.mpr
  rw [List.takeWhile_cons_of_pos first]
  simp

theorem fails_run {kind : Char → Bool} {text : Text} (clear : Clear kind text) : Fails (run kind) text := by
  unfold Fails run
  cases text with
  | nil => exact ⟨_, rfl⟩
  | cons c more =>
    rw [List.takeWhile_cons_of_neg (by simp [clear_cons.mp clear])]
    exact ⟨_, rfl⟩

theorem takes_run (kind : Char → Bool) : Takes 1 (run kind) := by
  intro text written rest done
  obtain ⟨rfl, rfl, some_⟩ := run_eq_done_iff.mp done
  have size := congrArg List.length (List.takeWhile_append_dropWhile (p := kind) (l := text))
  have positive := List.length_pos_iff.mpr some_
  rw [List.length_append] at size
  exact ⟨List.dropWhile_suffix kind, by omega⟩

theorem takes_exactly (wanted : Text) : Takes wanted.length (exactly wanted) := by
  intro text written rest done
  obtain ⟨rfl, rfl⟩ := exactly_eq_done_iff.mp done
  exact ⟨List.suffix_append .., by rw [List.length_append, Nat.add_comm]⟩

theorem takes_spaces : Takes 0 spaces := by
  apply Takes.of_suffix
  intro text _ rest done
  cases done
  exact List.dropWhile_suffix isSpace

theorem takes_lineComment : Takes 2 lineComment := by
  refine (takes_exactly ['-', '-']).bind fun _ => Takes.of_suffix ?_
  intro text _ rest done
  cases done
  exact List.dropWhile_suffix _

theorem fails_blockEnd {text : Text} (unclosed : afterBlock? text = none) : Fails blockEnd text := by
  rw [Fails, blockEnd, unclosed]
  exact ⟨_, rfl⟩

theorem blockEnd_of_closed {text rest : Text} (closed : afterBlock? text = some rest) :
    blockEnd text = .done () rest := by
  rw [blockEnd, closed]

theorem takes_blockComment : Takes 2 blockComment := by
  refine (takes_exactly ['/', '*']).bind fun _ => Takes.of_suffix ?_
  intro text _ rest done
  cases closed : afterBlock? text with
  | some after =>
    rw [blockEnd_of_closed closed] at done
    cases done
    exact suffix_of_afterBlock? closed
  | none => exact absurd done (fails_blockEnd closed).not_done

theorem takes_layoutPart : Takes 1 layoutPart := by
  refine Takes.firstOf (List.forall_mem_cons.mpr ⟨?_, List.forall_mem_singleton.mpr ?_⟩)
  · exact (takes_lineComment.bind fun _ => takes_spaces).mono (by omega)
  · exact (takes_blockComment.bind fun _ => takes_spaces).mono (by omega)

theorem takes_wordPart : Takes 1 wordPart :=
  Takes.firstOf (List.forall_mem_cons.mpr ⟨takes_run _, List.forall_mem_singleton.mpr (takes_exactly ['_'])⟩)

theorem takes_quotedPart (quote : Char) : Takes 1 (quotedPart quote) :=
  Takes.firstOf (List.forall_mem_cons.mpr
    ⟨takes_run _, List.forall_mem_singleton.mpr ((takes_exactly [quote, quote]).mono (Nat.le_succ 1))⟩)

/-! ## Rounds -/

section Rounds

variable {α : Type} {part : Reader α} {text mid : Text}

theorem many_of_fails (fails : Fails part text) : many part text = .done [] text := by
  obtain ⟨why, failed⟩ := fails
  rw [many, failed]

theorem many_of_done (takes : Takes 1 part) {value : α} (done : part text = .done value mid) {values : List α}
    {rest : Text} (more : many part mid = .done values rest) : many part text = .done (value :: values) rest := by
  have shorter := (takes text value mid done).2
  rw [many, done]
  dsimp only
  rw [if_pos (by omega), more]

/-- What is gathered round by round, from where the part fails backwards. -/
theorem exists_many (gathered : List α → Text → Text → Prop) (takes : Takes 1 part)
    (step : ∀ text, (Fails part text ∧ gathered [] text text) ∨
      ∃ value mid, part text = .done value mid ∧
        ∀ values rest, gathered values mid rest → gathered (value :: values) text rest)
    (text : Text) : ∃ values rest, many part text = .done values rest ∧ gathered values text rest := by
  induction size : text.length using Nat.strongRecOn generalizing text with
  | ind size ih =>
    rcases step text with ⟨fails, start⟩ | ⟨value, mid, done, next⟩
    · exact ⟨[], text, many_of_fails fails, start⟩
    · have shorter := (takes text value mid done).2
      obtain ⟨values, rest, again, behind⟩ := ih mid.length (by omega) mid rfl
      exact ⟨value :: values, rest, many_of_done takes done again, next values rest behind⟩

end Rounds

/-! ## Layout -/

theorem fails_layoutPart {text : Text} (noLine : ¬['-', '-'] <+: text)
    (noBlock : ∀ block, text = '/' :: '*' :: block → afterBlock? block = none) : Fails layoutPart text := by
  refine fails_firstOf (List.forall_mem_cons.mpr ⟨?_, List.forall_mem_singleton.mpr ?_⟩)
  · exact ((fails_exactly noLine).bind _).bind _
  · refine Fails.bind ?_ _
    by_cases opens : ['/', '*'] <+: text
    · obtain ⟨block, rfl⟩ := opens
      have opened : exactly ['/', '*'] (['/', '*'] ++ block) = .done ['/', '*'] block :=
        exactly_eq_done_iff.mpr ⟨rfl, rfl⟩
      exact fails_bind_of_done opened (fails_blockEnd (noBlock block rfl))
    · exact (fails_exactly opens).bind _

theorem layoutPart_of_line (line : Text) :
    layoutPart ('-' :: '-' :: line) = .done () ((afterLine line).dropWhile isSpace) := by
  have opened : exactly ['-', '-'] ('-' :: '-' :: line) = .done ['-', '-'] line := exactly_eq_done_iff.mpr ⟨rfl, rfl⟩
  have comment : lineComment ('-' :: '-' :: line) = .done () (afterLine line) := bind_of_done opened _
  exact firstOf_of_done (bind_of_done comment _)

theorem layoutPart_of_block {block after : Text} (closed : afterBlock? block = some after) :
    layoutPart ('/' :: '*' :: block) = .done () (after.dropWhile isSpace) := by
  have opened : exactly ['/', '*'] ('/' :: '*' :: block) = .done ['/', '*'] block := exactly_eq_done_iff.mpr ⟨rfl, rfl⟩
  have comment : blockComment ('/' :: '*' :: block) = .done () after :=
    (bind_of_done opened _).trans (blockEnd_of_closed closed)
  have noLine : Fails lineComment ('/' :: '*' :: block) := (fails_exactly (by simp)).bind _
  exact firstOf_of_fails (noLine.bind _) (firstOf_of_done (bind_of_done comment _))

/-- Behind white space, comments are read up to where the layout ends. -/
theorem many_layoutPart (text : Text) :
    ∃ parts, many layoutPart (text.dropWhile isSpace) = .done parts (skipLayout text) := by
  fun_induction skipLayout text with
  | case1 => exact ⟨[], many_of_fails (fails_layoutPart (by simp) (by simp))⟩
  | case2 c rest space ih =>
    rw [List.dropWhile_cons_of_pos space]
    exact ih
  | case3 line space ih =>
    obtain ⟨parts, more⟩ := ih
    exact ⟨_, many_of_done takes_layoutPart (layoutPart_of_line line) more⟩
  | case4 block after closed space ih =>
    obtain ⟨parts, more⟩ := ih
    exact ⟨_, many_of_done takes_layoutPart (layoutPart_of_block closed) more⟩
  | case5 block unclosed space =>
    rw [List.dropWhile_cons_of_neg space]
    refine ⟨[], many_of_fails (fails_layoutPart (by simp) ?_)⟩
    rintro other same
    cases same
    exact unclosed
  | case6 c rest space noLine noBlock =>
    rw [List.dropWhile_cons_of_neg space]
    refine ⟨[], many_of_fails (fails_layoutPart ?_ ?_)⟩
    · rintro ⟨line, same⟩
      cases same
      exact noLine line rfl rfl
    · rintro block same
      cases same
      exact (noBlock block rfl rfl).elim

/-- Layout is white space and then comments. -/
theorem layout_eq_layoutOfParts : layout = layoutOfParts := by
  funext text
  obtain ⟨parts, read⟩ := many_layoutPart text
  have spaced : spaces text = .done () (text.dropWhile isSpace) := rfl
  exact ((bind_of_done spaced _).trans (bind_of_done read _)).symm

/-! ## Words -/

/-- Where a run of some word characters stops, the other ones go on. -/
theorem takeWhile_dropWhile_isWordChar {kind : Char → Bool} (goesOn : ∀ c, kind c → isWordChar c) (text : Text) :
    text.takeWhile isWordChar = text.takeWhile kind ++ (text.dropWhile kind).takeWhile isWordChar ∧
      text.dropWhile isWordChar = (text.dropWhile kind).dropWhile isWordChar := by
  have all : ∀ c ∈ text.takeWhile kind, isWordChar c := fun c member =>
    goesOn c (List.all_eq_true.mp List.all_takeWhile c member)
  constructor
  · conv_lhs => rw [← List.takeWhile_append_dropWhile (p := kind) (l := text)]
    exact List.takeWhile_append_of_pos all
  · conv_lhs => rw [← List.takeWhile_append_dropWhile (p := kind) (l := text)]
    exact List.dropWhile_append_of_pos all

/-- A run of some word characters or an underscore, and what is left of the word behind it. -/
theorem exists_run_or_underscore {kind : Char → Bool} (goesOn : ∀ c, kind c → isWordChar c) (apart : kind '_' = false)
    {c : Char} (first : kind c ∨ c = '_') (more : Text) :
    ∃ part mid, firstOf [run kind, exactly ['_']] (c :: more) = .done part mid ∧
      (c :: more).takeWhile isWordChar = part ++ mid.takeWhile isWordChar ∧
      (c :: more).dropWhile isWordChar = mid.dropWhile isWordChar := by
  rcases first with plain | rfl
  · obtain ⟨taken, left⟩ := takeWhile_dropWhile_isWordChar goesOn (c :: more)
    exact ⟨_, _, firstOf_of_done (run_cons plain more), taken, left⟩
  · have underscore : isWordChar '_' := by decide
    have mark : exactly ['_'] ('_' :: more) = .done ['_'] more := exactly_eq_done_iff.mpr ⟨rfl, rfl⟩
    refine ⟨['_'], more, firstOf_of_fails (fails_run (clear_cons.mpr apart)) (firstOf_of_done mark), ?_, ?_⟩
    · rw [List.takeWhile_cons_of_pos underscore, List.singleton_append]
    · rw [List.dropWhile_cons_of_pos underscore]

theorem fails_run_or_underscore {kind : Char → Bool} {text : Text} (clear : Clear (fun c => kind c || c == '_') text) :
    Fails (firstOf [run kind, exactly ['_']]) text := by
  refine fails_firstOf (List.forall_mem_cons.mpr ⟨?_, List.forall_mem_singleton.mpr ?_⟩)
  · exact fails_run (clear.mono fun c first => by simp [first])
  · apply fails_exactly
    rintro ⟨rest, rfl⟩
    exact absurd (clear_cons.mp clear) (by simp)

/-- Parts of a word are read up to its end. -/
theorem many_wordPart (text : Text) :
    ∃ parts rest, many wordPart text = .done parts rest ∧
      rest = text.dropWhile isWordChar ∧ parts.flatten = text.takeWhile isWordChar := by
  refine exists_many (fun parts text rest =>
    rest = text.dropWhile isWordChar ∧ parts.flatten = text.takeWhile isWordChar) takes_wordPart (fun text => ?_) text
  cases text with
  | nil => exact .inl ⟨fails_run_or_underscore (clear_nil _), rfl, rfl⟩
  | cons c more =>
    by_cases goesOn : isWordChar c
    · have first : c.isAlphanum ∨ c = '_' := by simpa [isWordChar] using goesOn
      have wide : ∀ d, Char.isAlphanum d → isWordChar d := fun d plain => by simp [isWordChar, plain]
      obtain ⟨part, mid, read, taken, left⟩ := exists_run_or_underscore wide (by decide) first more
      refine .inr ⟨part, mid, read, fun parts rest behind => ?_⟩
      rw [left, taken, List.flatten_cons]
      exact ⟨behind.1, congrArg _ behind.2⟩
    · have stop := Bool.eq_false_iff.mpr goesOn
      rw [List.dropWhile_cons_of_neg goesOn, List.takeWhile_cons_of_neg goesOn]
      exact .inl ⟨fails_run_or_underscore (clear_cons.mpr stop), rfl, rfl⟩

/-- A word is made of its parts. -/
theorem rawWord_eq_done_iff_parts {text written rest : Text} :
    rawWord text = .done written rest ↔ wordOfParts text = .done written rest := by
  rw [rawWord_eq_done_iff]
  by_cases start : ∃ c more, text = c :: more ∧ isWordStart c
  · obtain ⟨c, more, rfl, starts⟩ := start
    have first : isLetter c ∨ c = '_' := by simpa [isWordStart] using starts
    have wide : ∀ d, isLetter d → isWordChar d := fun d letter =>
      isWordChar_of_isWordStart (by simp [isWordStart, letter])
    obtain ⟨head, mid, read, taken, left⟩ := exists_run_or_underscore wide (by decide) first more
    obtain ⟨parts, _, again, rfl, joined⟩ := many_wordPart mid
    have whole : wordOfParts (c :: more) = .done (head ++ parts.flatten) (mid.dropWhile isWordChar) :=
      (bind_of_done read _).trans (bind_of_done again _)
    rw [whole, joined, ← taken, ← left, Reply.done.injEq]
    constructor
    · rintro ⟨rfl, rfl, -⟩
      exact ⟨rfl, rfl⟩
    · rintro ⟨rfl, rfl⟩
      exact ⟨rfl, rfl, c, more, rfl, starts⟩
  · have clear : Clear isWordStart text := by
      intro c here
      obtain ⟨more, rfl⟩ := List.head?_eq_some_iff.mp here
      exact Bool.eq_false_iff.mpr fun starts => start ⟨c, more, rfl, starts⟩
    have fails : Fails wordOfParts text := (fails_run_or_underscore clear).bind _
    exact iff_of_false (fun done => start done.2.2) fails.not_done

/-! ## Quoted texts -/

theorem closeQuote?_append {quote : Char} {run : Text} (all : ∀ c ∈ run, c ≠ quote) (after : Text) :
    closeQuote? quote (run ++ after) = (closeQuote? quote after).map fun (body, rest) => (run ++ body, rest) := by
  induction run with
  | nil => simp
  | cons c run ih =>
    obtain ⟨apart, others⟩ := List.forall_mem_cons.mp all
    rw [List.cons_append, closeQuote?_of_ne apart, ih others, Option.map_map]
    rfl

/-- A part of a quoted text, unless it ends or the quote that closes it is there. -/
theorem exists_quotedPart (quote : Char) (text : Text) :
    (Fails (quotedPart quote) text ∧ ∀ body rest,
      closeQuote? quote text = some (body, rest) ↔ text = quote :: rest ∧ body = [quote]) ∨
    ∃ part mid, quotedPart quote text = .done part mid ∧
      closeQuote? quote text = (closeQuote? quote mid).map fun (body, rest) => (part ++ body, rest) := by
  cases text with
  | nil =>
    refine .inl ⟨?_, fun body rest => iff_of_false (by simp [closeQuote?]) (by simp)⟩
    refine fails_firstOf (List.forall_mem_cons.mpr ⟨fails_run (clear_nil _), List.forall_mem_singleton.mpr ?_⟩)
    exact fails_exactly (by simp)
  | cons c more =>
    by_cases opens : c = quote
    · subst opens
      have noRun : Fails (run (· != c)) (c :: more) := fails_run (clear_cons.mpr (by simp))
      by_cases doubled : ∃ after, more = c :: after
      · obtain ⟨after, rfl⟩ := doubled
        have twice : exactly [c, c] (c :: c :: after) = .done [c, c] after := exactly_eq_done_iff.mpr ⟨rfl, rfl⟩
        exact .inr ⟨_, _, firstOf_of_fails noRun (firstOf_of_done twice), closeQuote?_doubled c after⟩
      · have clear : Clear (· == c) more := by
          intro d here
          obtain ⟨after, rfl⟩ := List.head?_eq_some_iff.mp here
          exact beq_false_of_ne fun same => doubled ⟨after, by rw [same]⟩
        left
        constructor
        · refine fails_firstOf (List.forall_mem_cons.mpr ⟨noRun, List.forall_mem_singleton.mpr (fails_exactly ?_)⟩)
          rintro ⟨after, same⟩
          cases same
          exact doubled ⟨after, rfl⟩
        · intro body rest
          rw [closeQuote?_of_clear clear]
          simp [eq_comm, and_comm]
    · have plain : (c != quote) = true := by simpa using opens
      have read := @run_cons (· != quote) c plain more
      refine .inr ⟨_, _, firstOf_of_done read, ?_⟩
      conv_lhs => rw [← List.takeWhile_append_dropWhile (p := (· != quote)) (l := c :: more)]
      refine closeQuote?_append (fun d member => ?_) _
      simpa using List.all_eq_true.mp List.all_takeWhile d member

/-- Parts of a quoted text are read up to the quote that closes it, if there is one. -/
theorem many_quotedPart (quote : Char) (text : Text) :
    ∃ parts mid, many (quotedPart quote) text = .done parts mid ∧ ∀ body rest,
      closeQuote? quote text = some (body, rest) ↔ mid = quote :: rest ∧ body = parts.flatten ++ [quote] := by
  refine exists_many (fun parts text mid => ∀ body rest,
    closeQuote? quote text = some (body, rest) ↔ mid = quote :: rest ∧ body = parts.flatten ++ [quote])
    (takes_quotedPart quote) (fun text => ?_) text
  refine (exists_quotedPart quote text).imp id ?_
  rintro ⟨part, mid, read, splits⟩
  refine ⟨part, mid, read, fun parts last closes body rest => ?_⟩
  rw [splits, Option.map_eq_some_iff, List.flatten_cons, List.append_assoc]
  constructor
  · rintro ⟨⟨inner, behind⟩, closed, same⟩
    cases same
    obtain ⟨here, rfl⟩ := (closes inner rest).mp closed
    exact ⟨here, rfl⟩
  · rintro ⟨here, rfl⟩
    exact ⟨(parts.flatten ++ [quote], rest), (closes _ _).mpr ⟨here, rfl⟩, rfl⟩

/-- A quoted text is made of its parts and the quotes around them. -/
theorem rawQuoted_eq_done_iff_parts {quote : Char} {text written rest : Text} :
    rawQuoted quote text = .done written rest ↔ quotedOfParts quote text = .done written rest := by
  rw [rawQuoted_eq_done_iff]
  constructor
  · rintro ⟨body, inside, rfl, rfl, closed⟩
    obtain ⟨parts, mid, read, closes⟩ := many_quotedPart quote inside
    obtain ⟨rfl, rfl⟩ := (closes body rest).mp closed
    have opening : exactly [quote] (quote :: inside) = .done [quote] inside := exactly_eq_done_iff.mpr ⟨rfl, rfl⟩
    have closing : exactly [quote] (quote :: rest) = .done [quote] rest := exactly_eq_done_iff.mpr ⟨rfl, rfl⟩
    exact (bind_of_done opening _).trans ((bind_of_done read _).trans (bind_of_done closing _))
  · intro done
    obtain ⟨opening, inside, opened, done⟩ := bind_eq_done_iff.mp done
    obtain ⟨parts, mid, read, done⟩ := bind_eq_done_iff.mp done
    obtain ⟨closing, last, closed, built⟩ := bind_eq_done_iff.mp done
    cases built
    obtain ⟨rfl, rfl⟩ := exactly_eq_done_iff.mp opened
    obtain ⟨rfl, rfl⟩ := exactly_eq_done_iff.mp closed
    obtain ⟨parts', mid', read', closes⟩ := many_quotedPart quote inside
    rw [read] at read'
    cases read'
    exact ⟨_, inside, rfl, rfl, (closes _ rest).mpr ⟨rfl, rfl⟩⟩

end Reader

end BulkSql
