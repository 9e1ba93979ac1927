import BulkSql.Proofs.Bulk.Yield
import BulkSql.Proofs.Numbering.Scanning
import BulkSql.Proofs.Syntax.Scans

/-! # Tokens that are numbered

The scanner that numbers placeholders passes over the same strings, names and block comments as the cut into tokens, but
takes a line comment up to the line feed, where the cut ends it at any line break. Where the cut passes each of these line
feeds too, just the placeholders behind a line break of the other kind stay without a number.
-/

namespace BulkSql

open Reader Token

namespace Piece

/-! ## Texts that are passed over -/

/-- A piece that stays as it is, and is no numbered parameter. -/
def IsStill : Piece → Prop
  | closed _ | plain _ => True
  | placeholder | numbered _ => False

/-- In front of a text another one is cut into pieces that stay as they are. -/
def PassesOver (text after : Text) : Prop :=
  ∃ pieces, (∀ piece ∈ pieces, piece.IsStill) ∧ cut (text ++ after) = pieces ++ cut after

variable {text left right after block written mid : Text} {kind : TokenKind}

theorem PassesOver.count_cut (passes : PassesOver text after) :
    (cut (text ++ after)).count .placeholder = (cut after).count .placeholder := by
  obtain ⟨pieces, still, cuts⟩ := passes
  have noMark : pieces.count .placeholder = 0 := List.count_eq_zero.mpr fun member => still _ member
  rw [cuts, List.count_append, noMark, Nat.zero_add]

theorem PassesOver.append (first : PassesOver left (right ++ after)) (second : PassesOver right after) :
    PassesOver (left ++ right) after := by
  obtain ⟨before, still, cuts⟩ := first
  obtain ⟨behind, still', cuts'⟩ := second
  refine ⟨before ++ behind, List.forall_mem_append.mpr ⟨still, still'⟩, ?_⟩
  rw [List.append_assoc, cuts, cuts', List.append_assoc]

theorem PassesOver.cons {c : Char} (alone : cut (c :: (text ++ after)) = .plain c :: cut (text ++ after))
    (more : PassesOver text after) : PassesOver (c :: text) after :=
  @PassesOver.append [c] _ _ ⟨[.plain c], List.forall_mem_singleton.mpr trivial, alone⟩ more

theorem passesOver_nil (after : Text) : PassesOver [] after := ⟨[], List.forall_mem_nil _, rfl⟩

theorem passesOver_plain (plain : isPlain text) (after : Text) : PassesOver text after := by
  rw [isPlain_iff] at plain
  induction text with
  | nil => exact passesOver_nil after
  | cons c text ih =>
    obtain ⟨one, others⟩ := List.forall_mem_cons.mp plain
    exact .cons (cut_plain one _) (ih others)

theorem passesOver_quoted {quote : Char} (isQuote : quote ∈ ['\'', '"']) (quoted : IsQuoted quote text)
    (clear : Clear (· == quote) after) : PassesOver text after :=
  ⟨[.closed text], List.forall_mem_singleton.mpr trivial, cut_quoted isQuote quoted clear⟩

theorem passesOver_exponent (isExponent : IsExponent text) (after : Text) : PassesOver text after := by
  obtain ⟨mark, isMark, sign, isSign, power, isDigits, rfl⟩ := isExponent
  have digits := passesOver_plain (Renumbers.isPlain_of_isDigits isDigits) after
  have signed : PassesOver (sign ++ power) after := by
    simp only [List.mem_cons, List.not_mem_nil, or_false] at isSign
    rcases isSign with rfl | rfl | rfl
    · exact digits
    · exact .cons (cut_plain (by decide) _) digits
    · refine .cons (cut_hyphen fun here => ?_) digits
      obtain ⟨d, more, rfl⟩ := List.exists_cons_of_ne_nil isDigits.1
      cases here
      exact absurd (isDigits.2 '-' (List.mem_cons_self ..)) (by decide)
  simp only [List.mem_cons, List.not_mem_nil, or_false] at isMark
  rcases isMark with rfl | rfl <;> exact .cons (cut_plain (by decide) _) signed

theorem passesOver_number (isNumber : IsNumber text) (after : Text) : PassesOver text after := by
  obtain ⟨whole, part, power, rfl, isPower, parts⟩ := isNumber
  have behind : PassesOver power after := by
    rcases isPower with rfl | isExponent
    · exact passesOver_nil after
    · exact passesOver_exponent isExponent after
  exact .append (passesOver_plain (Renumbers.isPlain_of_parts parts) _) behind

/-! ## Comments -/

/-- What is left of a line behind hyphens from the next line feed on. -/
def fromLineFeed (line : Text) : Text := line.dropWhile (· != '\n')

theorem passesOver_of_closedRest? {c : Char} {rest body : Text} (found : closedRest? c rest = some (body, after))
    (noMark : c ≠ '?' ∧ c ≠ '$') : c :: rest = (c :: body) ++ after ∧ PassesOver (c :: body) after := by
  have split : c :: rest = (c :: body) ++ after := congrArg _ (append_of_closedRest? found).symm
  refine ⟨split, [.closed (c :: body)], List.forall_mem_singleton.mpr trivial, ?_⟩
  rw [← split, cut_of_closedRest? noMark found]
  rfl

/-- A line comment is passed over up to the line feed. -/
theorem passesOver_line (line : Text) :
    ∃ comment, '-' :: '-' :: line = comment ++ fromLineFeed line ∧ PassesOver comment (fromLineFeed line) := by
  have found : closedRest? '-' ('-' :: line) = some ('-' :: line.takeWhile (· != '\n'), fromLineFeed line) := by
    rw [closedRest?, if_neg (by decide), if_pos rfl]
    rfl
  exact ⟨_, passesOver_of_closedRest? found (by decide)⟩

theorem passesOver_block (closed : afterBlock? block = some after) :
    ∃ comment, '/' :: '*' :: block = comment ++ after ∧ PassesOver comment after := by
  have found : closedRest? '/' ('*' :: block) = some ('*' :: block.take (block.length - after.length), after) := by
    rw [closedRest?, if_neg (by decide), if_neg (by decide), if_pos rfl, blockComment?, closed]
    rfl
  exact ⟨_, passesOver_of_closedRest? found (by decide)⟩

/-- A block comment that is never closed is none. -/
theorem cut_open_block (open_ : afterBlock? block = none) :
    cut ('/' :: '*' :: block) = .plain '/' :: cut ('*' :: block) := by
  have noComment : closedRest? '/' ('*' :: block) = none := by
    rw [closedRest?, if_neg (by decide), if_neg (by decide), if_pos rfl, blockComment?, open_]
    rfl
  exact cut_of_open (by decide) noComment

/-! ## Tokens -/

/-- Where a token is an operator, its hyphen or slash starts no comment. -/
theorem passesOver_operator (member : written ∈ operators) (bare : skipLayout (written ++ mid) = written ++ mid) :
    PassesOver written mid := by
  have special : ∀ other ∈ operators, isPlain other ∨ other = ['-'] ∨ other = ['/'] := by decide
  rcases special written member with plain | rfl | rfl
  · exact passesOver_plain plain mid
  · refine .cons (cut_hyphen fun here => ?_) (passesOver_nil mid)
    obtain ⟨line, rfl⟩ := List.head?_eq_some_iff.mp here
    exact (@Step.line [] line).not_bare bare
  · refine .cons ?_ (passesOver_nil mid)
    by_cases star : mid.head? = some '*'
    · obtain ⟨block, rfl⟩ := List.head?_eq_some_iff.mp star
      cases closed : afterBlock? block with
      | none => exact cut_open_block closed
      | some after => exact absurd bare (@Step.block [] _ _ closed).not_bare
    · exact cut_slash star

theorem passesOver_of_stands (stands : Stands kind written mid) (noMark : kind ≠ .placeholder)
    (bare : skipLayout (written ++ mid) = written ++ mid) : PassesOver written mid := by
  cases stands with
  | string quoted closed => exact passesOver_quoted (by decide) quoted closed
  | quotedName quoted closed => exact passesOver_quoted (by decide) quoted closed
  | number isNumber => exact passesOver_number isNumber mid
  | placeholder => exact absurd rfl noMark
  | word isWord =>
    have plain : isPlain written := Renumbers.isPlain_of_isWordChar (isWordChar_of_isBareWord isWord)
    exact passesOver_plain plain mid
  | operator member => exact passesOver_operator member bare
  | punctuation member =>
    have plain : ∀ other ∈ punctuationMarks, isPlain other := by decide
    exact passesOver_plain (plain written member) mid

/-- Over a step of the cut into tokens the numbering goes too, unless it is over a line comment. -/
theorem step_cases {whole text mid : Text} {tokens : List Token} (step : Step whole text tokens mid)
    (noLine : ∀ line, text ≠ '-' :: '-' :: line) :
    (text = '?' :: mid ∧ tokens = [{ kind := .placeholder, text := ['?'], position := Text.offsetOf whole text }]) ∨
      ∃ written, text = written ++ mid ∧ PassesOver written mid ∧ tokens.countP Token.isPlaceholder = 0 := by
  cases step with
  | @space c space rest =>
    have plain : opens c = false := by
      simp only [isSpace, Bool.or_eq_true, beq_iff_eq] at space
      rcases space with ((rfl | rfl) | rfl) | rfl <;> rfl
    exact .inr ⟨[c], rfl, .cons (cut_plain plain _) (passesOver_nil mid), rfl⟩
  | line line => exact absurd rfl (noLine line)
  | block closed =>
    obtain ⟨comment, split, passes⟩ := passesOver_block closed
    exact .inr ⟨comment, split, passes, rfl⟩
  | @token _ written _ kind bare split done =>
    obtain ⟨mid', split', -, stands⟩ := stands_of_read done
    obtain rfl := List.append_cancel_left (split.symm.trans split')
    by_cases isMark : kind = .placeholder
    · subst isMark
      generalize same : TokenKind.placeholder = kind at stands
      cases stands with
      | placeholder => exact .inl ⟨split, rfl⟩
      | word => split at same <;> cases same
      | string | number | quotedName | operator | punctuation => cases same
    · rw [split] at bare
      refine .inr ⟨written, split, passesOver_of_stands stands isMark bare, ?_⟩
      simp [Token.isPlaceholder, isMark]

end Piece

/-! ## Places that are numbered -/

/-- The text with the character at each of the places, which are byte offsets, as a dollar sign and the number of the
place; the first has the number after the given one. -/
def Text.numberAt (places : List Nat) : (met offset : Nat) → Text → Text
  | _, _, [] => []
  | met, offset, c :: rest =>
    if offset ∈ places then '$' :: Text.ofNat (met + 1) ++ numberAt places (met + 1) (offset + c.utf8Size) rest
    else c :: numberAt places met (offset + c.utf8Size) rest

/-- The byte offsets of placeholders. -/
def Token.places (tokens : List Token) : List Nat := (tokens.filter Token.isPlaceholder).map Token.position

namespace Numbering

open Piece

variable {whole text mid rest line sql : Text} {tokens front back hidden : List Token} {places : List Nat}

theorem numberAt_append {before : Text} {offset : Nat}
    (free : ∀ place ∈ places, offset ≤ place → offset + Text.byteSize before ≤ place) (met : Nat) :
    Text.numberAt places met offset (before ++ rest) =
      before ++ Text.numberAt places met (offset + Text.byteSize before) rest := by
  induction before generalizing offset with
  | nil => rfl
  | cons c before ih =>
    have size := Char.utf8Size_pos c
    rw [Text.byteSize_cons, ← Nat.add_assoc] at free ⊢
    have apart : offset ∉ places := fun member => by
      have := free offset member (Nat.le_refl _)
      omega
    rw [List.cons_append, Text.numberAt, if_neg apart, List.cons_append]
    refine congrArg _ (ih fun place member behind => ?_)
    exact free place member (by omega)

theorem places_append (front back : List Token) :
    Token.places (front ++ back) = Token.places front ++ Token.places back := by
  rw [Token.places, List.filter_append, List.map_append]
  rfl

theorem length_places (tokens : List Token) : (Token.places tokens).length = tokens.countP Token.isPlaceholder := by
  rw [Token.places, List.length_map, List.countP_eq_length_filter]

theorem places_eq_nil_iff : Token.places tokens = [] ↔ tokens.countP Token.isPlaceholder = 0 := by
  rw [← length_places, List.length_eq_zero_iff]

/-! ## Line comments -/

/-- Behind each line comment, the cut into tokens passes the line feed at which the numbering goes on. -/
def IsAligned (whole text : Text) : Prop :=
  ∀ front line, Scans whole text front ('-' :: '-' :: line) → ∃ hidden, Scans whole (afterLine line) hidden (fromLineFeed line)

/-- Between the end of a line comment and the next line feed there is no placeholder. -/
def HidesNone (whole text : Text) : Prop :=
  ∀ front line hidden, Scans whole text front ('-' :: '-' :: line) →
    Scans whole (afterLine line) hidden (fromLineFeed line) → hidden.countP Token.isPlaceholder = 0

theorem IsAligned.of_scans (aligned : IsAligned whole text) (scans : Scans whole text front mid) : IsAligned whole mid :=
  fun _ line more => aligned _ line (scans.append more)

theorem HidesNone.of_scans (hidesNone : HidesNone whole text) (scans : Scans whole text front mid) : HidesNone whole mid :=
  fun _ line hidden more => hidesNone _ line hidden (scans.append more)

/-- A scan of a text at the pace of the numbering: from a line comment to the line feed, and step by step else. -/
theorem IsAligned.induction {motive : Text → List Token → Prop} (nil : motive [] [])
    (line : ∀ {line hidden back}, Scans whole (afterLine line) hidden (fromLineFeed line) →
      Scans whole (fromLineFeed line) back [] → motive (fromLineFeed line) back →
        motive ('-' :: '-' :: line) (hidden ++ back))
    (step : ∀ {text rest front back}, Step whole text front rest → (∀ line, text ≠ '-' :: '-' :: line) →
      Scans whole rest back [] → motive rest back → motive text (front ++ back))
    (aligned : IsAligned whole text) (scans : Scans whole text tokens []) : motive text tokens := by
  induction size : text.length using Nat.strong_induction_on generalizing text tokens with
  | _ size ih =>
    subst size
    cases scans with
    | stop => exact nil
    | @step _ rest _ front back one more =>
      by_cases comment : ∃ line, text = '-' :: '-' :: line
      · obtain ⟨written, rfl⟩ := comment
        obtain ⟨rfl, rfl⟩ := one.unique (.line written)
        obtain ⟨hidden, passed⟩ := aligned [] written (.stop _)
        obtain ⟨back, rfl, behind⟩ := passed.rest_of_whole more
        have toFeed : Scans whole ('-' :: '-' :: written) hidden (fromLineFeed written) := .step (.line written) passed
        have shorter := Nat.lt_of_le_of_lt passed.suffix.length_le one.length_lt
        rw [List.nil_append]
        exact line passed behind (ih _ shorter (aligned.of_scans toFeed) behind rfl)
      · exact step one (fun line same => comment ⟨line, same⟩) more
          (ih _ one.length_lt (aligned.of_scans (.single one)) more rfl)

/-! ## Where nothing is hidden -/

/-- A text is numbered at the placeholders among the tokens. -/
structure Agrees (whole : Text) (places : List Nat) (text : Text) (tokens : List Token) : Prop where
  noNumbers : ∀ piece ∈ cut text, ∀ digits, piece ≠ .numbered digits
  count : (cut text).count .placeholder = tokens.countP Token.isPlaceholder
  written : ∀ met, renumber met (cut text) = Text.numberAt places met (Text.offsetOf whole text) text

theorem agrees_nil (whole : Text) (places : List Nat) : Agrees whole places [] [] := by
  have nothing : cut [] = [] := by rw [cut]
  constructor <;> rw [nothing]
  · exact List.forall_mem_nil _
  · rfl
  · exact fun _ => rfl

theorem Agrees.passing {written : Text} (agrees : Agrees whole places rest back) (passes : PassesOver written rest)
    (suffix : written ++ rest <:+ whole) (free : ∀ place ∈ places, Text.offsetOf whole (written ++ rest) ≤ place →
      Text.offsetOf whole rest ≤ place) (none_ : front.countP Token.isPlaceholder = 0) :
    Agrees whole places (written ++ rest) (front ++ back) := by
  obtain ⟨pieces, still, cuts⟩ := passes
  have same : pieces.flatMap Piece.text = written := by
    have whole := flatMap_text_cut (written ++ rest)
    rw [cuts, List.flatMap_append, flatMap_text_cut] at whole
    exact List.append_cancel_right whole
  have noMark : .placeholder ∉ pieces := fun member => still _ member
  obtain ⟨before, rfl⟩ := suffix
  have offset : Text.offsetOf (before ++ (written ++ rest)) rest =
      Text.offsetOf (before ++ (written ++ rest)) (written ++ rest) + Text.byteSize written := by
    simp only [Text.offsetOf, Text.byteSize_append]
    omega
  constructor
  · rw [cuts]
    refine List.forall_mem_append.mpr ⟨fun piece member digits isNumber => ?_, agrees.noNumbers⟩
    subst isNumber
    exact still _ member
  · rw [cuts, List.count_append, List.count_eq_zero.mpr noMark, agrees.count, List.countP_append, none_]
  · intro met
    rw [offset] at free
    rw [cuts, renumber_append, renumber_of_not_mem met noMark, List.count_eq_zero.mpr noMark, same, Nat.add_zero,
      agrees.written, offset, numberAt_append free]

theorem Agrees.placeholder (agrees : Agrees whole places rest back) (suffix : '?' :: rest <:+ whole)
    (isPlace : Text.offsetOf whole ('?' :: rest) ∈ places) {token : Token} (isPlaceholder : token.isPlaceholder) :
    Agrees whole places ('?' :: rest) (token :: back) := by
  obtain ⟨before, rfl⟩ := suffix
  have offset : Text.offsetOf (before ++ '?' :: rest) rest =
      Text.offsetOf (before ++ '?' :: rest) ('?' :: rest) + Char.utf8Size '?' := by
    simp only [Text.offsetOf, Text.byteSize_append, Text.byteSize_cons]
    omega
  constructor
  · rw [cut_placeholder]
    refine List.forall_mem_cons.mpr ⟨fun digits same => ?_, agrees.noNumbers⟩
    cases same
  · rw [cut_placeholder, List.count_cons_self, agrees.count, List.countP_cons_of_pos isPlaceholder]
  · intro met
    rw [cut_placeholder, renumber, agrees.written, Text.numberAt, if_pos isPlace, offset]

/-- From a place on, places are those of the placeholders behind it. -/
def Fits (whole : Text) (places : List Nat) (text : Text) (tokens : List Token) : Prop :=
  ∀ place, Text.offsetOf whole text ≤ place → (place ∈ places ↔ place ∈ Token.places tokens)

/-- Where no placeholder is passed, there is no place before the next one. -/
theorem Fits.passed (fits : Fits whole places text (front ++ back)) (none_ : front.countP Token.isPlaceholder = 0)
    (scans : Scans whole text front rest) (behind : Scans whole rest back []) :
    Fits whole places rest back ∧
      ∀ place ∈ places, Text.offsetOf whole text ≤ place → Text.offsetOf whole rest ≤ place := by
  have nothing : Token.places (front ++ back) = Token.places back := by
    rw [places_append, places_eq_nil_iff.mpr none_, List.nil_append]
  rw [Fits, nothing] at fits
  refine ⟨fun place later => fits place ((Scans.offsetOf_le_of_suffix scans.suffix).trans later),
    fun place member later => ?_⟩
  obtain ⟨token, inside, rfl⟩ := List.mem_map.mp ((fits place later).mp member)
  exact behind.le_position token (List.mem_of_mem_filter inside)

theorem Fits.placeholder {token : Token} (fits : Fits whole places ('?' :: rest) (token :: back))
    (isPlaceholder : token.isPlaceholder) (position : token.position = Text.offsetOf whole ('?' :: rest))
    (offset : Text.offsetOf whole ('?' :: rest) < Text.offsetOf whole rest) :
    Fits whole places rest back ∧ Text.offsetOf whole ('?' :: rest) ∈ places := by
  have here : Token.places (token :: back) = token.position :: Token.places back := by
    rw [Token.places, List.filter_cons_of_pos isPlaceholder, List.map_cons]
    rfl
  rw [Fits, here, position] at fits
  refine ⟨fun place later => ?_, (fits _ (Nat.le_refl _)).mpr (List.mem_cons_self ..)⟩
  rw [fits place (by omega), List.mem_cons, or_iff_right]
  omega

theorem agrees_of_hidesNone (aligned : IsAligned whole text) (scans : Scans whole text tokens [])
    (suffix : text <:+ whole) (hidesNone : HidesNone whole text) (fits : Fits whole places text tokens) :
    Agrees whole places text tokens := by
  refine aligned.induction (motive := fun text tokens => text <:+ whole → HidesNone whole text →
    Fits whole places text tokens → Agrees whole places text tokens) ?nil ?line ?step scans suffix hidesNone fits
  case nil => exact fun _ _ _ => agrees_nil whole places
  case line =>
    intro line hidden back passed behind ih suffix hidesNone fits
    have toFeed : Scans whole ('-' :: '-' :: line) hidden (fromLineFeed line) := .step (.line line) passed
    have none_ := hidesNone [] line hidden (.stop _) passed
    obtain ⟨fits, free⟩ := fits.passed none_ toFeed behind
    have agrees := ih (toFeed.suffix.trans suffix) (hidesNone.of_scans toFeed) fits
    obtain ⟨comment, split, passes⟩ := passesOver_line line
    rw [split] at suffix free ⊢
    exact agrees.passing passes suffix free none_
  case step =>
    intro text rest front back one noLine behind ih suffix hidesNone fits
    have agrees := ih (one.suffix.trans suffix) (hidesNone.of_scans (.single one))
    rcases step_cases one noLine with ⟨rfl, rfl⟩ | ⟨written, rfl, passes, none_⟩
    · have offset : Text.offsetOf whole ('?' :: rest) < Text.offsetOf whole rest := by
        obtain ⟨before, rfl⟩ := suffix
        have size := Char.utf8Size_pos '?'
        simp only [Text.offsetOf, Text.byteSize_append, Text.byteSize_cons]
        omega
      obtain ⟨fits, isPlace⟩ := fits.placeholder rfl rfl offset
      exact (agrees fits).placeholder suffix isPlace rfl
    · obtain ⟨fits, free⟩ := fits.passed none_ (.single one) behind
      exact (agrees fits).passing passes suffix free none_

/-! ## What is hidden is missed -/

theorem fromLineFeed_of_suffix {other : Text} (later : other <:+ line) (before : fromLineFeed line <:+ other) :
    fromLineFeed other = fromLineFeed line := by
  obtain ⟨between, rfl⟩ := before
  obtain ⟨front, split⟩ := later
  have whole : line.takeWhile (· != '\n') ++ fromLineFeed line = line := List.takeWhile_append_dropWhile
  have same : front ++ between = line.takeWhile (· != '\n') := by
    rw [← List.append_assoc] at split
    exact List.append_cancel_right (split.trans whole.symm)
  have inside : ∀ c ∈ between, (c != '\n') = true := fun c member =>
    List.all_eq_true.mp List.all_takeWhile c (same ▸ List.mem_append_right front member)
  exact dropWhile_append_of_clear inside (clear_dropWhile _ line)

/-- A line comment that starts in what another one hides hides no more. -/
theorem hidesNone_of_line (hides : HidesNone whole (fromLineFeed line))
    (passed : Scans whole (afterLine line) hidden (fromLineFeed line)) (none_ : hidden.countP Token.isPlaceholder = 0) :
    HidesNone whole ('-' :: '-' :: line) := by
  intro front line' hidden' toComment toFeed
  rcases toComment.of_step (.line line) with ⟨rfl, same⟩ | ⟨front, rfl, inside⟩
  · cases same
    rw [← passed.unique toFeed]
    exact none_
  · -- it starts in front of the line feed or behind it
    rcases inside.ordered passed with ⟨between, rfl, toEnd⟩ | ⟨between, rfl, behind⟩
    · rcases toEnd.of_step (.line line') with ⟨-, same⟩ | ⟨more, rfl, toEnd⟩
      · have clear := clear_dropWhile (· != '\n') line
        rw [show line.dropWhile (· != '\n') = '-' :: '-' :: line' from same] at clear
        exact absurd (clear_cons.mp clear) (by decide)
      · have inLine : line' <:+ line :=
          (show line' <:+ '-' :: '-' :: line' from ⟨['-', '-'], rfl⟩).trans
            (inside.suffix.trans (List.dropWhile_suffix _))
        have same := fromLineFeed_of_suffix inLine (toEnd.suffix.trans (List.dropWhile_suffix _))
        rw [same] at toFeed
        rw [toFeed.unique toEnd]
        rw [List.countP_append, Nat.add_eq_zero_iff] at none_
        exact none_.2
    · exact hides between line' hidden' behind toFeed

/-- No more placeholders are numbered than there are, and all of them only if none is hidden. -/
theorem count_cut_le (aligned : IsAligned whole text) (scans : Scans whole text tokens []) :
    (cut text).count .placeholder ≤ tokens.countP Token.isPlaceholder ∧
      ((cut text).count .placeholder = tokens.countP Token.isPlaceholder → HidesNone whole text) := by
  refine aligned.induction (motive := fun text tokens =>
    (cut text).count .placeholder ≤ tokens.countP Token.isPlaceholder ∧
      ((cut text).count .placeholder = tokens.countP Token.isPlaceholder → HidesNone whole text)) ?nil ?line ?step scans
  case nil =>
    refine ⟨by rw [cut]; exact Nat.zero_le _, fun _ front line hidden scans => ?_⟩
    exact absurd scans.suffix.length_le (by simp)
  case line =>
    intro line hidden back passed behind ih
    obtain ⟨comment, split, passes⟩ := passesOver_line line
    rw [split, passes.count_cut, List.countP_append, ← split]
    exact ⟨by omega, fun same => hidesNone_of_line (ih.2 (by omega)) passed (by omega)⟩
  case step =>
    intro text rest front back one noLine behind ih
    have count : (cut text).count .placeholder =
        front.countP Token.isPlaceholder + (cut rest).count .placeholder := by
      rcases step_cases one noLine with ⟨rfl, rfl⟩ | ⟨written, rfl, passes, none_⟩
      · rw [cut_placeholder, List.count_cons_self, Nat.add_comm]
        rfl
      · rw [passes.count_cut, none_, Nat.zero_add]
    rw [count, List.countP_append]
    refine ⟨by omega, fun same front' line hidden scans => ?_⟩
    rcases scans.of_step one with ⟨-, isLine⟩ | ⟨between, rfl, later⟩
    · exact absurd isLine.symm (noLine line)
    · exact ih.2 (by omega) between line hidden later

/-! ## Statements -/

theorem number_of_hidesNone (tokenized : tokenize sql = .ok tokens) (aligned : IsAligned sql sql)
    (hidesNone : HidesNone sql sql) :
    number sql = .ok {
      sql := Text.numberAt (Token.places tokens) 0 0 sql
      count := tokens.countP Token.isPlaceholder } := by
  have scans := tokenize_eq_ok_iff.mp tokenized
  have agrees := agrees_of_hidesNone aligned scans List.suffix_rfl hidesNone fun _ _ => Iff.rfl
  have start : Text.offsetOf sql sql = 0 := Nat.sub_self _
  rw [number_of_not_mixed, agrees.count, agrees.written, start]
  rintro ⟨-, digits, member⟩
  exact agrees.noNumbers _ member digits rfl

/-- The first line feed is behind the first line break. -/
theorem fromLineFeed_afterLine (line : Text) : fromLineFeed (afterLine line) = fromLineFeed line := by
  have kept : ∀ c ∈ line.takeWhile fun c => !isLineBreak c, (c != '\n') = true := by
    intro c member
    have apart := List.all_eq_true.mp List.all_takeWhile c member
    simp only [isLineBreak, Bool.not_eq_true', Bool.or_eq_false_iff, beq_eq_false_iff_ne] at apart
    simpa using apart.1
  calc
    fromLineFeed (afterLine line) = fromLineFeed ((line.takeWhile fun c => !isLineBreak c) ++ afterLine line) :=
      (List.dropWhile_append_of_pos kept).symm
    _ = fromLineFeed line := congrArg _ List.takeWhile_append_dropWhile

/-- Where each carriage return stands in front of a line feed, nothing but it is between the ends of a comment. -/
theorem scans_fromLineFeed (returns : ∀ rest, '\r' :: rest <:+ sql → rest.head? = some '\n')
    (inside : '-' :: '-' :: line <:+ sql) : Scans sql (afterLine line) [] (fromLineFeed line) := by
  have toComment : line <:+ '-' :: '-' :: line := ⟨['-', '-'], rfl⟩
  have suffix : afterLine line <:+ sql := (List.dropWhile_suffix _).trans (toComment.trans inside)
  have ends : Clear (fun c => !isLineBreak c) (afterLine line) := clear_dropWhile _ line
  rw [← fromLineFeed_afterLine]
  generalize afterLine line = after at suffix ends
  cases after with
  | nil => exact .stop []
  | cons c rest =>
    have isBreak := clear_cons.mp ends
    simp only [isLineBreak, Bool.not_eq_false', Bool.or_eq_true, beq_iff_eq] at isBreak
    rcases isBreak with rfl | rfl
    · exact .stop _
    · obtain ⟨more, rfl⟩ := List.head?_eq_some_iff.mp (returns rest suffix)
      exact .step (.space rfl _) (.stop _)

theorem aligned_of_returns (returns : ∀ rest, '\r' :: rest <:+ sql → rest.head? = some '\n') :
    IsAligned sql sql ∧ HidesNone sql sql := by
  refine ⟨fun front line scans => ⟨[], scans_fromLineFeed returns scans.suffix⟩, fun front line hidden scans toFeed => ?_⟩
  rw [toFeed.unique (scans_fromLineFeed returns scans.suffix)]
  rfl

/-- In a text in which each carriage return stands in front of a line feed, the placeholders among the tokens are
numbered, and nothing else is changed. -/
theorem number_of_returns (tokenized : tokenize sql = .ok tokens)
    (returns : ∀ rest, '\r' :: rest <:+ sql → rest.head? = some '\n') :
    number sql = .ok {
      sql := Text.numberAt (Token.places tokens) 0 0 sql
      count := tokens.countP Token.isPlaceholder } := by
  obtain ⟨aligned, hidesNone⟩ := aligned_of_returns returns
  exact number_of_hidesNone tokenized aligned hidesNone

/-- Where the cut into tokens passes the line feed behind each line comment, a statement is numbered just at its
placeholders, each of them with its number, if and only if there are none between the end of a line comment and its line
feed. -/
theorem number_eq_iff (tokenized : tokenize sql = .ok tokens) (aligned : IsAligned sql sql) :
    number sql = .ok {
        sql := Text.numberAt (Token.places tokens) 0 0 sql
        count := tokens.countP Token.isPlaceholder } ↔
      HidesNone sql sql := by
  constructor
  · intro numbered
    refine (count_cut_le aligned (tokenize_eq_ok_iff.mp tokenized)).2 ?_
    unfold number at numbered
    dsimp only at numbered
    split at numbered
    · cases numbered
    · exact congrArg NumberedStatement.count (Except.ok.inj numbered)
  · exact number_of_hidesNone tokenized aligned

/-- A text with line breaks of two characters, and question marks that are no placeholders. -/
theorem number_eq_iff_two_placeholders :
    number "select -- a ?\r\n ? /* ? */ 'b?' \"?\" ?" =
      .ok { sql := "select -- a ?\r\n $1 /* ? */ 'b?' \"?\" $2", count := 2 } := by
  have checked : (match tokenize "select -- a ?\r\n ? /* ? */ 'b?' \"?\" ?" with
      | .ok tokens => Token.places tokens == [16, 35] && tokens.countP Token.isPlaceholder == 2
      | _ => false) = true := by decide +kernel
  have breaks : ∀ suffix ∈ List.tails ("select -- a ?\r\n ? /* ? */ 'b?' \"?\" ?" : Text),
      suffix.head? = some '\r' → suffix.tail.head? = some '\n' := by decide +kernel
  obtain ⟨aligned, hidesNone⟩ := aligned_of_returns fun rest suffix => breaks _ ((List.mem_tails _ _).mpr suffix) rfl
  split at checked
  · next tokens tokenized =>
    rw [Bool.and_eq_true, beq_iff_eq, beq_iff_eq] at checked
    have numbered := (number_eq_iff tokenized aligned).mpr hidesNone
    rw [checked.1, checked.2] at numbered
    exact numbered.trans (by decide +kernel)
  · cases checked

/-- A carriage return ends a comment for the cut into tokens, but not for the numbering: the placeholder behind it is left
as it is and not counted. -/
theorem number_misses_placeholder_behind_return :
    (tokenize "-- a\r?").toOption = some [{ kind := .placeholder, text := ['?'], position := 5 }] ∧
      number "-- a\r?" = .ok { sql := "-- a\r?", count := 0 } ∧
      Text.numberAt [5] 0 0 "-- a\r?" = ("-- a\r$1" : Text) := by
  refine ⟨by decide +kernel, by decide +kernel, by decide +kernel⟩

end Numbering

end BulkSql
