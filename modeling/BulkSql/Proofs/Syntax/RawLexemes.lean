import Mathlib
import BulkSql.Proofs.Syntax.Replies
import BulkSql.Syntax.Lexeme

/-! # Where raw lexemes end

A raw lexeme takes a start of the text, and takes the same characters again before any text that does not go on with
one of a few characters. So a lexeme that was read once can be written anywhere and is read there as the same lexeme.
-/

namespace BulkSql

/-! ## Layout -/

theorem skipLayout_nil : skipLayout [] = [] := by rw [skipLayout]

theorem skipLayout_of_isSpace {c : Char} (space : isSpace c) (rest : Text) :
    skipLayout (c :: rest) = skipLayout rest := by
  rw [skipLayout.eq_def]
  exact if_pos space

theorem length_skipLayout_le (text : Text) : (skipLayout text).length ≤ text.length := by
  fun_induction skipLayout text with
  | case1 => exact Nat.le_refl _
  | case2 c rest space ih => exact Nat.le_succ_of_le ih
  | case3 line space ih =>
    have := length_afterLine_le line
    simp only [List.length_cons]
    omega
  | case4 block after closed space ih =>
    have := length_lt_of_afterBlock? closed
    simp only [List.length_cons]
    omega
  | case5 => exact Nat.le_refl _
  | case6 => exact Nat.le_refl _

/-- A text that starts with no layout: not with a space, and with a hyphen or a slash only if no comment starts. -/
def StartsBare : Text → Prop
  | [] => True
  | c :: rest => isSpace c = false ∧ (c = '-' → rest.head? ≠ some '-') ∧ (c = '/' → rest.head? ≠ some '*')

theorem skipLayout_of_startsBare {text : Text} (bare : StartsBare text) : skipLayout text = text := by
  fun_cases skipLayout text with
  | case1 => rfl
  | case2 c rest space => simp [StartsBare, space] at bare
  | case3 line space => exact absurd rfl (bare.2.1 rfl)
  | case4 block after closed space => exact absurd rfl (bare.2.2 rfl)
  | case5 => rfl
  | case6 => rfl

/-! ## Runs of characters -/

/-- The text does not go on with one of these characters. -/
def Clear (avoided : Char → Bool) (text : Text) : Prop := ∀ c, text.head? = some c → avoided c = false

theorem clear_nil (avoided : Char → Bool) : Clear avoided [] := by simp [Clear]

theorem clear_cons {avoided : Char → Bool} {c : Char} {text : Text} :
    Clear avoided (c :: text) ↔ avoided c = false := by
  simp [Clear]

theorem Clear.mono {avoided more : Char → Bool} {text : Text} (clear : Clear more text)
    (wider : ∀ c, avoided c → more c) : Clear avoided text := fun c here =>
  Bool.eq_false_iff.mpr fun avoided => Bool.eq_false_iff.mp (clear c here) (wider c avoided)

theorem clear_dropWhile (avoided : Char → Bool) (text : Text) : Clear avoided (text.dropWhile avoided) := by
  intro c here
  have := List.head?_dropWhile_not avoided text
  rw [here] at this
  simpa using this

theorem takeWhile_append_of_clear {avoided : Char → Bool} {run after : Text} (all : ∀ c ∈ run, avoided c)
    (clear : Clear avoided after) : (run ++ after).takeWhile avoided = run := by
  rw [List.takeWhile_append_of_pos all]
  cases after with
  | nil => simp
  | cons c after => simp [clear_cons.mp clear]

theorem dropWhile_append_of_clear {avoided : Char → Bool} {run after : Text} (all : ∀ c ∈ run, avoided c)
    (clear : Clear avoided after) : (run ++ after).dropWhile avoided = after := by
  rw [List.dropWhile_append_of_pos all]
  cases after with
  | nil => simp
  | cons c after => simp [clear_cons.mp clear]

namespace Reader

/-- A raw lexeme takes a start of the text, and takes it again before any text that goes on with none of some
characters. -/
def Reproducible (raw : Reader Text) (avoided : Char → Bool) : Prop :=
  ∀ text written rest, raw text = .done written rest →
    text = written ++ rest ∧ ∀ after, Clear avoided after → raw (written ++ after) = .done written after

theorem Reproducible.mono {raw : Reader Text} {avoided more : Char → Bool} (reproducible : Reproducible raw avoided)
    (wider : ∀ c, avoided c → more c) : Reproducible raw more := by
  intro text written rest done
  obtain ⟨split, again⟩ := reproducible text written rest done
  exact ⟨split, fun after clear => again after (clear.mono wider)⟩

theorem Reproducible.firstOf {first second : Reader Text} {avoided : Char → Bool} (one : Reproducible first avoided)
    (other : Reproducible second avoided)
    (apart : ∀ text written rest, second text = .done written rest → ∀ after, Fails first (written ++ after)) :
    Reproducible (firstOf [first, second]) avoided := by
  intro text written rest done
  rcases done_of_firstOf_pair done with read | read
  · obtain ⟨split, again⟩ := one text written rest read
    exact ⟨split, fun after clear => firstOf_of_done (again after clear)⟩
  · obtain ⟨split, again⟩ := other text written rest read
    exact ⟨split, fun after clear =>
      firstOf_of_fails (apart text written rest read after) (firstOf_of_done (again after clear))⟩

/-- An optional part is there again, or missing again where the lexeme does not start with what goes on. -/
theorem Reproducible.optional {raw : Reader Text} {avoided : Char → Bool} (reproducible : Reproducible raw avoided)
    {text rest : Text} {written? : Option Text} (done : optional raw text = .done written? rest) :
    text = written?.getD [] ++ rest ∧ ∀ after, Clear avoided after → (written? = none → Fails raw after) →
      optional raw (written?.getD [] ++ after) = .done written? after := by
  rcases optional_eq_done_iff.mp done with ⟨written, read, rfl⟩ | ⟨_, rfl, rfl⟩
  · obtain ⟨split, again⟩ := reproducible text written rest read
    exact ⟨split, fun after clear _ => optional_of_done (again after clear)⟩
  · exact ⟨rfl, fun after _ fails => optional_of_fails (fails rfl)⟩

theorem exactly_eq_done_iff {wanted text written rest : Text} :
    exactly wanted text = .done written rest ↔ written = wanted ∧ text = wanted ++ rest := by
  unfold exactly
  cases found : Text.after? wanted text with
  | none =>
    apply iff_of_false (by simp)
    rintro ⟨-, split⟩
    simp [Text.after?_eq_some_iff.mpr split] at found
  | some after =>
    rw [Text.after?_eq_some_iff] at found
    simp [found, eq_comm]

theorem fails_exactly {wanted text : Text} (missing : ¬wanted <+: text) : Fails (exactly wanted) text := by
  unfold Fails exactly
  cases found : Text.after? wanted text with
  | none => exact ⟨_, rfl⟩
  | some after => exact absurd ⟨after, (Text.after?_eq_some_iff.mp found).symm⟩ missing

theorem reproducible_exactly (wanted : Text) : Reproducible (exactly wanted) fun _ => false := by
  intro text written rest done
  obtain ⟨rfl, split⟩ := exactly_eq_done_iff.mp done
  exact ⟨split, fun after _ => exactly_eq_done_iff.mpr ⟨rfl, rfl⟩⟩

/-! ## Numbers -/

theorem digits_eq_done_iff {text written rest : Text} :
    digits text = .done written rest ↔
      written = text.takeWhile isDecimalDigit ∧ rest = text.dropWhile isDecimalDigit ∧ written ≠ [] := by
  unfold digits
  cases run : text.takeWhile isDecimalDigit with
  | nil =>
    apply iff_of_false (by simp)
    rintro ⟨rfl, -, some_⟩
    exact some_ rfl
  | cons d more =>
    constructor
    · intro same
      cases same
      exact ⟨rfl, rfl, by simp⟩
    · rintro ⟨rfl, rfl, -⟩
      rfl

theorem fails_digits {text : Text} (clear : Clear isDecimalDigit text) : Fails digits text := by
  unfold Fails digits
  cases text with
  | nil => exact ⟨_, rfl⟩
  | cons c rest => simp [clear_cons.mp clear]

theorem reproducible_digits : Reproducible digits isDecimalDigit := by
  intro text written rest done
  obtain ⟨rfl, rfl, some_⟩ := digits_eq_done_iff.mp done
  refine ⟨List.takeWhile_append_dropWhile.symm, fun after clear => digits_eq_done_iff.mpr ?_⟩
  have all := List.all_eq_true.mp (List.all_takeWhile (p := isDecimalDigit) (l := text))
  exact ⟨(takeWhile_append_of_clear all clear).symm, (dropWhile_append_of_clear all clear).symm, some_⟩

theorem oneOf_eq_done_iff {set : List Char} {text written rest : Text} :
    oneOf set text = .done written rest ↔ ∃ c ∈ set, written = [c] ∧ text = c :: rest := by
  unfold oneOf
  cases text with
  | nil => simp
  | cons c after =>
    by_cases member : c ∈ set
    · simp only [if_pos member, Reply.done.injEq]
      constructor
      · rintro ⟨rfl, rfl⟩
        exact ⟨c, member, rfl, rfl⟩
      · rintro ⟨d, -, rfl, same⟩
        cases same
        exact ⟨rfl, rfl⟩
    · simp only [if_neg member]
      apply iff_of_false (by simp)
      rintro ⟨d, inside, -, same⟩
      cases same
      exact member inside

theorem fails_oneOf {set : List Char} {text : Text} (clear : Clear (set.contains ·) text) : Fails (oneOf set) text := by
  unfold Fails oneOf
  cases text with
  | nil => exact ⟨_, rfl⟩
  | cons c rest =>
    have outside : c ∉ set := by simpa using clear_cons.mp clear
    exact ⟨_, if_neg outside⟩

theorem reproducible_oneOf (set : List Char) : Reproducible (oneOf set) fun _ => false := by
  intro text written rest done
  obtain ⟨c, member, rfl, rfl⟩ := oneOf_eq_done_iff.mp done
  exact ⟨rfl, fun after _ => oneOf_eq_done_iff.mpr ⟨c, member, rfl, rfl⟩⟩

/-- What starts with digits goes on with no other character. -/
theorem clear_of_digits {text written rest : Text} (done : digits text = .done written rest) {avoided : Char → Bool}
    (apart : ∀ c, isDecimalDigit c → avoided c = false) (after : Text) : Clear avoided (written ++ after) := by
  obtain ⟨rfl, -, some_⟩ := digits_eq_done_iff.mp done
  have all := List.all_eq_true.mp (List.all_takeWhile (p := isDecimalDigit) (l := text))
  obtain ⟨d, more, run⟩ := List.exists_cons_of_ne_nil some_
  rw [run] at all ⊢
  exact clear_cons.mpr (apart d (all d (List.mem_cons_self ..)))

theorem reproducible_exponent : Reproducible exponent isDecimalDigit := by
  intro text written rest done
  obtain ⟨mark, afterMark, markRead, done⟩ := bind_eq_done_iff.mp done
  obtain ⟨sign?, afterSign, signRead, done⟩ := bind_eq_done_iff.mp done
  obtain ⟨power, afterPower, powerRead, done⟩ := bind_eq_done_iff.mp done
  cases done
  obtain ⟨markSplit, markAgain⟩ := reproducible_oneOf _ _ _ _ markRead
  obtain ⟨signSplit, signAgain⟩ := (reproducible_oneOf _).optional signRead
  obtain ⟨powerSplit, powerAgain⟩ := reproducible_digits _ _ _ powerRead
  refine ⟨by rw [markSplit, signSplit, powerSplit]; simp only [List.append_assoc], fun after clear => ?_⟩
  simp only [List.append_assoc]
  have unsigned (_ : sign? = none) : Fails (oneOf ['+', '-']) (power ++ after) :=
    fails_oneOf (clear_of_digits powerRead (fun c digit => by
      simp only [List.contains_cons, List.contains_nil, Bool.or_false, Bool.or_eq_false_iff, beq_eq_false_iff_ne]
      constructor <;> rintro rfl <;> cases digit) after)
  apply (bind_of_done (markAgain _ fun _ _ => rfl) _).trans
  apply (bind_of_done (signAgain _ (fun _ _ => rfl) unsigned) _).trans
  exact (bind_of_done (powerAgain after clear) _).trans (by rw [List.append_assoc]; rfl)

theorem reproducible_fraction : Reproducible fraction isDecimalDigit := by
  intro text written rest done
  obtain ⟨point, afterPoint, pointRead, done⟩ := bind_eq_done_iff.mp done
  obtain ⟨places, afterPlaces, placesRead, done⟩ := bind_eq_done_iff.mp done
  cases done
  obtain ⟨pointSplit, pointAgain⟩ := reproducible_exactly _ _ _ _ pointRead
  obtain ⟨placesSplit, placesAgain⟩ := reproducible_digits _ _ _ placesRead
  refine ⟨by rw [pointSplit, placesSplit, List.append_assoc], fun after clear => ?_⟩
  rw [List.append_assoc]
  apply (bind_of_done (pointAgain _ fun _ _ => rfl) _).trans
  exact bind_of_done (placesAgain after clear) _

/-- The characters that a number goes on with. -/
def goesOnNumber (c : Char) : Bool := isDecimalDigit c || c == '.' || c == 'e' || c == 'E'

theorem fails_fraction {text : Text} (clear : Clear (· == '.') text) : Fails fraction text := by
  refine Fails.bind (fails_exactly ?_) _
  rintro ⟨rest, rfl⟩
  simpa using clear_cons.mp clear

theorem fails_exponent {text : Text} (clear : Clear (['e', 'E'].contains ·) text) : Fails exponent text :=
  Fails.bind (fails_oneOf clear) _

theorem fraction_head {text written rest : Text} (done : fraction text = .done written rest) :
    ∃ places, written = '.' :: places := by
  obtain ⟨point, afterPoint, pointRead, done⟩ := bind_eq_done_iff.mp done
  obtain ⟨places, afterPlaces, placesRead, done⟩ := bind_eq_done_iff.mp done
  cases done
  obtain ⟨rfl, -⟩ := exactly_eq_done_iff.mp pointRead
  exact ⟨places, rfl⟩

theorem exponent_head {text written rest : Text} (done : exponent text = .done written rest) :
    ∃ mark power, (mark = 'e' ∨ mark = 'E') ∧ written = mark :: power := by
  obtain ⟨mark, afterMark, markRead, done⟩ := bind_eq_done_iff.mp done
  obtain ⟨sign?, afterSign, signRead, done⟩ := bind_eq_done_iff.mp done
  obtain ⟨power, afterPower, powerRead, done⟩ := bind_eq_done_iff.mp done
  cases done
  obtain ⟨c, member, rfl, -⟩ := oneOf_eq_done_iff.mp markRead
  exact ⟨c, _, by simpa using member, rfl⟩

/-- A part of a number, if it is there, starts with its first character. -/
theorem clear_getD {part? : Option Text} {avoided : Char → Bool} {after : Text}
    (head : ∀ part, part? = some part → part ≠ [] ∧ Clear avoided part) (clear : Clear avoided after) :
    Clear avoided (part?.getD [] ++ after) := by
  cases part? with
  | none => exact clear
  | some part =>
    obtain ⟨some_, first⟩ := head part rfl
    obtain ⟨c, more, rfl⟩ := List.exists_cons_of_ne_nil some_
    exact first

theorem optional_fraction_clear {text rest : Text} {part? : Option Text}
    (done : optional fraction text = .done part? rest)
    {avoided : Char → Bool} (point : avoided '.' = false) {after : Text} (clear : Clear avoided after) :
    Clear avoided (part?.getD [] ++ after) := by
  refine clear_getD (fun part same => ?_) clear
  subst same
  rcases optional_eq_done_iff.mp done with ⟨_, read, same⟩ | ⟨_, same, _⟩
  · cases same
    obtain ⟨places, rfl⟩ := fraction_head read
    exact ⟨by simp, clear_cons.mpr point⟩
  · cases same

theorem optional_exponent_clear {text rest : Text} {power? : Option Text}
    (done : optional exponent text = .done power? rest) {avoided : Char → Bool} (lower : avoided 'e' = false)
    (upper : avoided 'E' = false) {after : Text} (clear : Clear avoided after) :
    Clear avoided (power?.getD [] ++ after) := by
  refine clear_getD (fun power same => ?_) clear
  subst same
  rcases optional_eq_done_iff.mp done with ⟨_, read, same⟩ | ⟨_, same, _⟩
  · cases same
    obtain ⟨mark, digits, rfl | rfl, rfl⟩ := exponent_head read
    · exact ⟨by simp, clear_cons.mpr lower⟩
    · exact ⟨by simp, clear_cons.mpr upper⟩
  · cases same

theorem reproducible_rawNumber : Reproducible rawNumber goesOnNumber := by
  have digit (c : Char) (is : isDecimalDigit c) : goesOnNumber c := by simp [goesOnNumber, is]
  have point (c : Char) (is : c == '.') : goesOnNumber c := by simp [goesOnNumber, is]
  have mark (c : Char) (is : ['e', 'E'].contains c) : goesOnNumber c := by
    simp only [List.contains_cons, List.contains_nil, Bool.or_false, Bool.or_eq_true] at is
    rcases is with is | is <;> simp [goesOnNumber, is]
  refine Reproducible.firstOf ?_ ?_ ?_
  · intro text written rest done
    obtain ⟨whole, afterWhole, wholeRead, done⟩ := bind_eq_done_iff.mp done
    obtain ⟨part?, afterPart, partRead, done⟩ := bind_eq_done_iff.mp done
    obtain ⟨power?, afterPower, powerRead, done⟩ := bind_eq_done_iff.mp done
    cases done
    obtain ⟨wholeSplit, wholeAgain⟩ := reproducible_digits _ _ _ wholeRead
    obtain ⟨partSplit, partAgain⟩ := reproducible_fraction.optional partRead
    obtain ⟨powerSplit, powerAgain⟩ := reproducible_exponent.optional powerRead
    refine ⟨by rw [wholeSplit, partSplit, powerSplit]; simp only [List.append_assoc], fun after clear => ?_⟩
    simp only [List.append_assoc]
    have afterDigits : Clear isDecimalDigit (power?.getD [] ++ after) :=
      optional_exponent_clear powerRead rfl rfl (clear.mono digit)
    have afterPoint : Clear (· == '.') (power?.getD [] ++ after) :=
      optional_exponent_clear powerRead rfl rfl (clear.mono point)
    apply (bind_of_done (wholeAgain _ (optional_fraction_clear partRead rfl afterDigits)) _).trans
    apply (bind_of_done (partAgain _ afterDigits fun _ => fails_fraction afterPoint) _).trans
    apply (bind_of_done (powerAgain _ (clear.mono digit) fun _ => fails_exponent (clear.mono mark)) _).trans
    rfl
  · intro text written rest done
    obtain ⟨part, afterPart, partRead, done⟩ := bind_eq_done_iff.mp done
    obtain ⟨power?, afterPower, powerRead, done⟩ := bind_eq_done_iff.mp done
    cases done
    obtain ⟨partSplit, partAgain⟩ := reproducible_fraction _ _ _ partRead
    obtain ⟨powerSplit, powerAgain⟩ := reproducible_exponent.optional powerRead
    refine ⟨by rw [partSplit, powerSplit, List.append_assoc], fun after clear => ?_⟩
    rw [List.append_assoc]
    apply (bind_of_done (partAgain _ (optional_exponent_clear powerRead rfl rfl (clear.mono digit))) _).trans
    exact bind_of_done (powerAgain _ (clear.mono digit) fun _ => fails_exponent (clear.mono mark)) _
  · intro text written rest done after
    obtain ⟨part, afterPart, partRead, done⟩ := bind_eq_done_iff.mp done
    obtain ⟨power?, afterPower, powerRead, done⟩ := bind_eq_done_iff.mp done
    cases done
    obtain ⟨places, rfl⟩ := fraction_head partRead
    exact Fails.bind (fails_digits (clear_cons.mpr rfl)) _

theorem rawNumber_head {text written rest : Text} (done : rawNumber text = .done written rest) :
    ∃ c more, written = c :: more ∧ (isDecimalDigit c ∨ c = '.') := by
  rcases done_of_firstOf_pair done with read | read
  · obtain ⟨whole, afterWhole, wholeRead, done⟩ := bind_eq_done_iff.mp read
    obtain ⟨part?, afterPart, -, done⟩ := bind_eq_done_iff.mp done
    obtain ⟨power?, afterPower, -, done⟩ := bind_eq_done_iff.mp done
    cases done
    obtain ⟨rfl, -, some_⟩ := digits_eq_done_iff.mp wholeRead
    have all := List.all_eq_true.mp (List.all_takeWhile (p := isDecimalDigit) (l := text))
    obtain ⟨d, more, run⟩ := List.exists_cons_of_ne_nil some_
    rw [run] at all ⊢
    exact ⟨d, _, rfl, .inl (all d (List.mem_cons_self ..))⟩
  · obtain ⟨part, afterPart, partRead, done⟩ := bind_eq_done_iff.mp read
    obtain ⟨power?, afterPower, -, done⟩ := bind_eq_done_iff.mp done
    cases done
    obtain ⟨places, rfl⟩ := fraction_head partRead
    exact ⟨'.', _, rfl, .inr rfl⟩

theorem fails_rawNumber {text : Text} (clear : Clear (fun c => isDecimalDigit c || c == '.') text) :
    Fails rawNumber text := by
  apply fails_firstOf
  intro reader member
  rcases List.mem_cons.mp member with rfl | member
  · exact (fails_digits (clear.mono fun c is => by simp [is])).bind _
  · obtain rfl := List.mem_singleton.mp member
    exact (fails_fraction (clear.mono fun c is => by simp [is])).bind _

/-! ## Quoted texts and words -/

theorem closeQuote?_of_ne {quote c : Char} (apart : c ≠ quote) (rest : Text) :
    closeQuote? quote (c :: rest) = (closeQuote? quote rest).map fun (body, after) => (c :: body, after) := by
  rw [closeQuote?.eq_def]
  exact if_neg apart

theorem closeQuote?_doubled (quote : Char) (rest : Text) :
    closeQuote? quote (quote :: quote :: rest) =
      (closeQuote? quote rest).map fun (body, after) => (quote :: quote :: body, after) := by
  rw [closeQuote?.eq_def]
  exact (if_pos rfl).trans (if_pos rfl)

theorem closeQuote?_of_clear {quote : Char} {after : Text} (clear : Clear (· == quote) after) :
    closeQuote? quote (quote :: after) = some ([quote], after) := by
  rw [closeQuote?.eq_def]
  apply (if_pos rfl).trans
  cases after with
  | nil => rfl
  | cons c after =>
    have apart : c ≠ quote := by simpa using clear_cons.mp clear
    exact if_neg apart

theorem closeQuote?_split {quote : Char} {text body rest : Text} (closed : closeQuote? quote text = some (body, rest)) :
    text = body ++ rest ∧
      ∀ after, Clear (· == quote) after → closeQuote? quote (body ++ after) = some (body, after) := by
  fun_induction closeQuote? quote text generalizing body rest with
  | case1 => cases closed
  | case2 rest' ih =>
    obtain ⟨⟨inner, behind⟩, found, same⟩ := Option.map_eq_some_iff.mp closed
    cases same
    obtain ⟨split, again⟩ := ih found
    refine ⟨by rw [split]; rfl, fun after clear => ?_⟩
    exact (closeQuote?_doubled quote _).trans (congrArg (Option.map _) (again after clear))
  | case3 d rest' other =>
    cases closed
    exact ⟨rfl, fun after clear => closeQuote?_of_clear clear⟩
  | case4 =>
    cases closed
    exact ⟨rfl, fun after clear => closeQuote?_of_clear clear⟩
  | case5 c rest' other ih =>
    obtain ⟨⟨inner, behind⟩, found, same⟩ := Option.map_eq_some_iff.mp closed
    cases same
    obtain ⟨split, again⟩ := ih found
    refine ⟨by rw [split]; rfl, fun after clear => ?_⟩
    exact (closeQuote?_of_ne other _).trans (congrArg (Option.map _) (again after clear))

theorem rawQuoted_eq_done_iff {quote : Char} {text written rest : Text} :
    rawQuoted quote text = .done written rest ↔
      ∃ body inside, written = quote :: body ∧ text = quote :: inside ∧ closeQuote? quote inside = some (body, rest) := by
  unfold rawQuoted
  constructor
  · intro done
    split at done
    · next c inside =>
      split at done
      · next opens =>
        subst opens
        split at done
        · next body after closed =>
          cases done
          exact ⟨body, inside, rfl, rfl, closed⟩
        · cases done
      · cases done
    · cases done
  · rintro ⟨body, inside, rfl, rfl, closed⟩
    simp [closed]

theorem reproducible_rawQuoted (quote : Char) : Reproducible (rawQuoted quote) (· == quote) := by
  intro text written rest done
  obtain ⟨body, inside, rfl, rfl, closed⟩ := rawQuoted_eq_done_iff.mp done
  obtain ⟨rfl, again⟩ := closeQuote?_split closed
  exact ⟨rfl, fun after clear => rawQuoted_eq_done_iff.mpr ⟨body, body ++ after, rfl, rfl, again after clear⟩⟩

theorem fails_rawQuoted {quote : Char} {text : Text} (clear : Clear (· == quote) text) :
    Fails (rawQuoted quote) text := by
  unfold Fails rawQuoted
  cases text with
  | nil => exact ⟨_, rfl⟩
  | cons c rest =>
    have apart : c ≠ quote := by simpa using clear_cons.mp clear
    exact ⟨_, if_neg apart⟩

theorem isWordChar_of_isWordStart {c : Char} (start : isWordStart c) : isWordChar c := by
  simp only [isWordStart, isLetter, isWordChar, Char.isAlphanum, Bool.or_eq_true] at start ⊢
  exact start.imp_left .inl

theorem rawWord_eq_done_iff {text written rest : Text} :
    rawWord text = .done written rest ↔
      written = text.takeWhile isWordChar ∧ rest = text.dropWhile isWordChar ∧
        ∃ c more, text = c :: more ∧ isWordStart c := by
  unfold rawWord
  cases text with
  | nil => simp
  | cons c more =>
    dsimp only
    by_cases start : isWordStart c
    · have goesOn := isWordChar_of_isWordStart start
      rw [if_pos start, List.takeWhile_cons_of_pos goesOn, List.dropWhile_cons_of_pos goesOn, Reply.done.injEq]
      constructor
      · rintro ⟨rfl, rfl⟩
        exact ⟨rfl, rfl, c, more, rfl, start⟩
      · rintro ⟨rfl, rfl, -⟩
        exact ⟨rfl, rfl⟩
    · rw [if_neg start]
      apply iff_of_false (by simp)
      rintro ⟨-, -, d, rest', same, isStart⟩
      cases same
      exact start isStart

theorem fails_rawWord {text : Text} (clear : Clear isWordStart text) : Fails rawWord text := by
  unfold Fails rawWord
  cases text with
  | nil => exact ⟨_, rfl⟩
  | cons c more => exact ⟨_, if_neg (by simp [clear_cons.mp clear])⟩

theorem reproducible_rawWord : Reproducible rawWord isWordChar := by
  intro text written rest done
  obtain ⟨rfl, rfl, c, more, rfl, start⟩ := rawWord_eq_done_iff.mp done
  refine ⟨List.takeWhile_append_dropWhile.symm, fun after clear => rawWord_eq_done_iff.mpr ?_⟩
  have all := List.all_eq_true.mp (List.all_takeWhile (p := isWordChar) (l := c :: more))
  refine ⟨(takeWhile_append_of_clear all clear).symm, (dropWhile_append_of_clear all clear).symm, ?_⟩
  rw [List.takeWhile_cons_of_pos (isWordChar_of_isWordStart start)]
  exact ⟨c, _, rfl, start⟩

end Reader

/-! ## Keywords -/

theorem isAlpha_of_toUpper {c : Char} (upper : c.toUpper.isUpper) : c.isAlpha := by
  by_cases lower : c.isLower
  · simp [Char.isAlpha, lower]
  · have kept : c.toUpper = c := by
      rw [Char.toUpper]
      exact dif_neg fun inside => lower (by simpa [Char.isLower] using inside)
    rw [kept] at upper
    simp [Char.isAlpha, upper]

theorem isWordChar_of_isAlpha {c : Char} (letter : c.isAlpha) : isWordChar c := by
  simp [isWordChar, Char.isAlphanum, letter]

theorem not_isAlpha_of_isDecimalDigit {c : Char} (digit : isDecimalDigit c) : c.isAlpha = false := by
  simp only [isDecimalDigit, Char.isDigit, Char.isAlpha, Char.isUpper, Char.isLower, Bool.and_eq_true,
    decide_eq_true_eq, Bool.or_eq_false_iff, Bool.and_eq_false_iff, decide_eq_false_iff_not, UInt32.le_iff_toNat_le,
    ge_iff_le] at digit ⊢
  have : 'A'.val.toNat = 65 := rfl
  have : 'a'.val.toNat = 97 := rfl
  have : '9'.val.toNat = 57 := rfl
  omega

namespace Keyword

theorem isUpper_of_mem_word {keyword : Keyword} {c : Char} (member : c ∈ keyword.word) : c.isUpper := by
  have all : keyword.word.all Char.isUpper := by cases keyword <;> decide
  exact List.all_eq_true.mp all c member

theorem word_ne_nil (keyword : Keyword) : keyword.word ≠ [] := by cases keyword <;> decide

theorem lookup?_word (keyword : Keyword) : lookup? keyword.word = some keyword := by cases keyword <;> decide

theorem upperCase_word (keyword : Keyword) : Text.upperCase keyword.word = keyword.word := by cases keyword <;> decide

theorem lookup?_eq_some_iff {word : Text} {keyword : Keyword} :
    lookup? word = some keyword ↔ Text.upperCase word = keyword.word := by
  constructor
  · intro found
    have same := List.find?_some found
    exact (beq_iff_eq.mp same).symm
  · intro spells
    rw [← lookup?_word keyword, lookup?, lookup?, spells, upperCase_word]

theorem isAlpha_of_lookup? {word : Text} {keyword : Keyword} (found : lookup? word = some keyword) :
    ∀ c ∈ word, c.isAlpha := by
  intro c member
  have upper : c.toUpper ∈ keyword.word := by
    rw [← lookup?_eq_some_iff.mp found]
    exact List.mem_map_of_mem member
  exact isAlpha_of_toUpper (isUpper_of_mem_word upper)

theorem isWordChar_of_lookup? {word : Text} {keyword : Keyword} (found : lookup? word = some keyword) :
    ∀ c ∈ word, isWordChar c := fun c member => isWordChar_of_isAlpha (isAlpha_of_lookup? found c member)

theorem ne_nil_of_lookup? {word : Text} {keyword : Keyword} (found : lookup? word = some keyword) : word ≠ [] := by
  rintro rfl
  exact word_ne_nil keyword (lookup?_eq_some_iff.mp found).symm

end Keyword

/-- The word that a text starts with, which may be empty. -/
def leadWord (text : Text) : Text := text.takeWhile isWordChar

/-- A text that starts with a keyword starts with a letter. -/
theorem head_of_lookup?_leadWord {text : Text} {keyword : Keyword}
    (found : Keyword.lookup? (leadWord text) = some keyword) :
    ∃ c rest, text = c :: rest ∧ c.isAlpha := by
  have some_ := Keyword.ne_nil_of_lookup? found
  cases text with
  | nil => exact absurd rfl some_
  | cons c rest =>
    refine ⟨c, rest, rfl, Keyword.isAlpha_of_lookup? found c ?_⟩
    by_cases goesOn : isWordChar c
    · rw [leadWord, List.takeWhile_cons_of_pos goesOn]
      exact List.mem_cons_self ..
    · rw [leadWord, List.takeWhile_cons_of_neg goesOn] at some_
      exact absurd rfl some_

/-- Elsewhere no keyword stands. -/
theorem lookup?_leadWord_of_not_isAlpha {c : Char} (other : c.isAlpha = false) (rest : Text) :
    Keyword.lookup? (leadWord (c :: rest)) = none := by
  cases found : Keyword.lookup? (leadWord (c :: rest)) with
  | none => rfl
  | some keyword =>
    obtain ⟨d, rest', same, letter⟩ := head_of_lookup?_leadWord found
    cases same
    rw [other] at letter
    cases letter

theorem leadWord_append {word after : Text} (all : ∀ c ∈ word, isWordChar c) (clear : Clear isWordChar after) :
    leadWord (word ++ after) = word :=
  takeWhile_append_of_clear all clear

namespace Reader

/-- What is read as a keyword is the first word of the text. -/
theorem lookup?_of_rawKeyword {keyword : Keyword} {text written rest : Text}
    (done : rawKeyword keyword text = .done written rest) :
    written = leadWord text ∧ rest = text.dropWhile isWordChar ∧ Keyword.lookup? written = some keyword := by
  unfold rawKeyword at done
  dsimp only at done
  split at done
  · next spells =>
    have found := Keyword.lookup?_eq_some_iff.mpr spells
    have all := Keyword.isWordChar_of_lookup? found
    have ends (clear : Clear isWordChar (text.drop keyword.word.length)) :
        text.take keyword.word.length = leadWord text ∧
          text.drop keyword.word.length = text.dropWhile isWordChar := by
      have split := List.take_append_drop keyword.word.length text
      refine ⟨?_, ?_⟩
      · rw [← leadWord_append all clear, split]
      · rw [← dropWhile_append_of_clear all clear, split]
    split at done
    · next nothing =>
      cases done
      obtain ⟨lead, rest⟩ := ends (by rw [nothing]; exact clear_nil _)
      exact ⟨lead, nothing.symm.trans rest, found⟩
    · next c rest' behind =>
      split at done
      · cases done
      · next stops =>
        cases done
        obtain ⟨lead, rest⟩ := ends (by rw [behind]; exact clear_cons.mpr (Bool.eq_false_iff.mpr stops))
        exact ⟨lead, behind.symm.trans rest, found⟩
  · cases done

theorem take_leadWord (text : Text) : text.take (leadWord text).length = leadWord text := by
  have split : leadWord text ++ text.dropWhile isWordChar = text := List.takeWhile_append_dropWhile
  calc text.take (leadWord text).length
    _ = (leadWord text ++ text.dropWhile isWordChar).take (leadWord text).length := by rw [split]
    _ = leadWord text := List.take_left

theorem drop_leadWord (text : Text) : text.drop (leadWord text).length = text.dropWhile isWordChar := by
  have split : leadWord text ++ text.dropWhile isWordChar = text := List.takeWhile_append_dropWhile
  calc text.drop (leadWord text).length
    _ = (leadWord text ++ text.dropWhile isWordChar).drop (leadWord text).length := by rw [split]
    _ = text.dropWhile isWordChar := List.drop_left

theorem rawKeyword_of_lookup? {keyword : Keyword} {text : Text}
    (found : Keyword.lookup? (leadWord text) = some keyword) :
    rawKeyword keyword text = .done (leadWord text) (text.dropWhile isWordChar) := by
  have spells := Keyword.lookup?_eq_some_iff.mp found
  have size : keyword.word.length = (leadWord text).length := by rw [← spells, Text.upperCase, List.length_map]
  have clear := clear_dropWhile isWordChar text
  unfold rawKeyword
  dsimp only
  rw [size, take_leadWord, drop_leadWord, if_pos spells]
  cases rest : text.dropWhile isWordChar with
  | nil => rfl
  | cons c after =>
    rw [rest] at clear
    exact if_neg (Bool.eq_false_iff.mp (clear_cons.mp clear))

/-- A keyword is read exactly where the text starts with it as a word. -/
theorem rawKeyword_eq_done_iff {keyword : Keyword} {text written rest : Text} :
    rawKeyword keyword text = .done written rest ↔
      written = leadWord text ∧ rest = text.dropWhile isWordChar ∧ Keyword.lookup? written = some keyword := by
  constructor
  · exact lookup?_of_rawKeyword
  · rintro ⟨rfl, rfl, found⟩
    exact rawKeyword_of_lookup? found

theorem fails_rawKeyword {keyword : Keyword} {text : Text} (other : Keyword.lookup? (leadWord text) ≠ some keyword) :
    Fails (rawKeyword keyword) text := by
  cases read : rawKeyword keyword text with
  | done written rest =>
    obtain ⟨rfl, -, found⟩ := rawKeyword_eq_done_iff.mp read
    exact absurd found other
  | fail why => exact ⟨why, read⟩
  | halt why =>
    unfold rawKeyword at read
    dsimp only at read
    split at read
    · split at read
      · cases read
      · split at read <;> cases read
    · cases read

end Reader

end BulkSql
