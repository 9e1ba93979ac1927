import BulkSql.Proofs.Syntax.Lossless
import BulkSql.Proofs.Text.Offsets

/-! # The token at a place

The token at a byte offset is read from the text there, without a list of the tokens before it. Where the offset is the
start of the text, the end of a token or in white space in front of a token, it is the token with which the list of
tokens goes on; and going on from the end of each token that is found gives the list.
-/

namespace BulkSql

open Reader Token

/-! ## What is found at a place -/

namespace Token

variable {text whole written : Text} {place : Nat} {token : Token}

theorem at?_eq_none (outside : ¬ Text.IsBoundary text place) : at? text place = none := by
  have nothing : Text.fromOffset? text place = none := by
    refine Option.eq_none_iff_forall_ne_some.mpr fun rest found => outside ?_
    obtain ⟨before, split, size⟩ := Text.fromOffset?_eq_some_iff.mp found
    exact ⟨before, rest, split, size⟩
  rw [at?, nothing]

/-- A token that is found does not stand in front of the place, and inside the text. -/
theorem bounds_of_at? (found : at? whole place = some token) :
    place ≤ token.position ∧ token.text ≠ [] ∧ token.position + Text.byteSize token.text ≤ Text.byteSize whole := by
  unfold at? at found
  split at found
  · cases found
  next from_ isFrom =>
  obtain ⟨before, rfl, rfl⟩ := Text.fromOffset?_eq_some_iff.mp isFrom
  obtain ⟨gap, split_, -⟩ := exists_isLayout from_
  dsimp only at found
  generalize skipLayout from_ = rest at found split_
  subst split_
  split at found
  · cases found
  split at found
  · next kind written behind done =>
    cases found
    obtain ⟨mid, rfl, -, stands⟩ := stands_of_read done
    refine ⟨?_, stands.ne_nil, ?_⟩
    · rw [← List.append_assoc, Text.offsetOf_append, Text.byteSize_append]
      exact Nat.le_add_right _ _
    · rw [← List.append_assoc, Text.offsetOf_append]
      simp only [Text.byteSize_append]
      omega
  · cases found

/-- The tokens one by one: the one at a place, and those at the end of each that is found. -/
def listAt (whole : Text) (place : Nat) : List Token :=
  match _found : at? whole place with
  | none => []
  | some token => token :: listAt whole (token.position + Text.byteSize token.text)
termination_by Text.byteSize whole - place
decreasing_by
  obtain ⟨behind, some_, inside⟩ := bounds_of_at? _found
  have size := Nat.pos_of_ne_zero (mt Text.eq_nil_of_byteSize some_)
  omega

theorem listAt_of_none (nothing : at? whole place = none) : listAt whole place = [] := by
  rw [listAt]
  split
  · rfl
  · next found => cases nothing.symm.trans found

theorem listAt_of_some (found : at? whole place = some token) :
    listAt whole place = token :: listAt whole (token.position + Text.byteSize token.text) := by
  rw [listAt]
  split
  · next nothing => cases nothing.symm.trans found
  · next other same => cases same.symm.trans found; rfl

end Token

/-! ## Places of a cut -/

namespace CutInto

variable {offset place : Nat} {text before blank rest last : Text} {token : Token} {tokens front back : List Token}

/-- Where a cut starts, its first token is found. -/
theorem at?_eq_head? (cut : CutInto offset rest tokens last) (before : Text)
    (stuck : ∀ token rest, read last ≠ .done token rest) (starts : Text.byteSize before = offset) :
    at? (before ++ rest) offset = tokens.head? := by
  subst starts
  rw [at?, Text.fromOffset?_append]
  dsimp only
  cases cut with
  | @last _ gap _ layout bare =>
    rw [layout.skipLayout_eq, not_startsLayout_iff.mp bare]
    split
    · rfl
    split
    · next done => exact absurd done (stuck _ _)
    · rfl
  | @token _ gap mid _ token tokens layout bare fits position more =>
    rw [layout.skipLayout_eq, not_startsLayout_iff.mp bare]
    have some_ : (token.text ++ mid).isEmpty = false := by simp [fits.ne_nil]
    have here : Text.offsetOf (before ++ (gap ++ (token.text ++ mid))) (token.text ++ mid) = token.position := by
      rw [← List.append_assoc, Text.offsetOf_append, Text.byteSize_append, position]
    rw [some_, read_of_fits fits, here]
    rfl

/-- What is found one by one is the list. -/
theorem listAt_eq (cut : CutInto offset rest tokens last) (before : Text)
    (stuck : ∀ token rest, read last ≠ .done token rest) (starts : Text.byteSize before = offset) :
    listAt (before ++ rest) offset = tokens := by
  have first := cut.at?_eq_head? before stuck starts
  induction cut generalizing before with
  | last => exact listAt_of_none first
  | @token offset gap mid last token tokens layout bare fits position more ih =>
    rw [listAt_of_some first]
    have whole : before ++ (gap ++ (token.text ++ mid)) = before ++ gap ++ token.text ++ mid := by simp
    have ends : Text.byteSize (before ++ gap ++ token.text) = token.position + Text.byteSize token.text := by
      simp only [Text.byteSize_append]
      omega
    rw [whole, ih _ stuck ends (more.at?_eq_head? _ stuck ends)]

/-- A token of a cut stands at its position, in front of what is cut behind it. -/
theorem exists_at (cut : CutInto offset text tokens last) (member : token ∈ tokens) :
    ∃ front back before mid, tokens = front ++ token :: back ∧ text = before ++ (token.text ++ mid) ∧
      token.position = offset + Text.byteSize before ∧ ¬ StartsLayout (token.text ++ mid) ∧
        Fits token.kind token.text mid ∧ CutInto (token.position + Text.byteSize token.text) mid back last := by
  induction cut with
  | last => cases member
  | @token offset gap mid last first tokens layout bare fits position more ih =>
    rcases List.mem_cons.mp member with rfl | later
    · exact ⟨[], tokens, gap, mid, rfl, rfl, position, bare, fits, more⟩
    · obtain ⟨front, back, before, mid', rfl, rfl, position', inside⟩ := ih later
      refine ⟨first :: front, back, gap ++ (first.text ++ before), mid', rfl, by simp, ?_, inside⟩
      simp only [Text.byteSize_append]
      omega

/-- The first token from a place on, where the place parts the tokens. -/
theorem find?_eq_head? (earlier : ∀ token ∈ front, token.position < place)
    (later : ∀ token ∈ back, place ≤ token.position) :
    (front ++ back).find? (place ≤ ·.position) = back.head? := by
  rw [List.find?_append, List.find?_eq_none.mpr fun token member => by simpa using earlier token member, Option.none_or]
  cases back with
  | nil => rfl
  | cons token back => rw [List.find?_cons_of_pos (by simpa using later token (List.mem_cons_self ..)), List.head?_cons]

theorem position_lt (cut : CutInto offset text (front ++ token :: back) last) :
    ∀ earlier ∈ front, earlier.position < token.position := fun earlier member =>
  (List.pairwise_append.mp cut.increasing).2.2 earlier member token (List.mem_cons_self ..)

/-- No token starts in white space. -/
theorem not_mem_of_blank (cut : CutInto 0 (before ++ (blank ++ rest)) tokens last) (spaces : ∀ c ∈ blank, isSpace c)
    (member : token ∈ tokens) (inside : Text.byteSize before ≤ token.position) :
    Text.byteSize (before ++ blank) ≤ token.position := by
  obtain ⟨-, -, before', mid, -, split, position, bare, -, -⟩ := cut.exists_at member
  rw [Nat.zero_add] at position
  obtain ⟨between, rfl, same⟩ := Text.exists_between split (by omega)
  rcases List.append_eq_append_iff.mp same.symm with ⟨more, rfl, here⟩ | ⟨more, rfl, -⟩
  · cases more with
    | nil => rw [position, List.append_nil]
    | cons c more =>
      have space : isSpace c := spaces c (by simp)
      rw [here] at bare
      exact absurd ⟨[c], _, nofun, rfl, .space space .nil⟩ bare
  · rw [position, ← List.append_assoc, Text.byteSize_append (before ++ blank)]
    exact Nat.le_add_right _ _

end CutInto

/-- White space is layout in front of every text. -/
theorem isLayout_of_spaces {blank : Text} (spaces : ∀ c ∈ blank, isSpace c) (after : Text) : IsLayout after blank := by
  induction blank with
  | nil => exact .nil
  | cons c blank ih =>
    obtain ⟨space, others⟩ := List.forall_mem_cons.mp spaces
    exact .space space (ih others)

/-- The start of a text, the ends of its tokens, and the places in white space in front of a token. -/
inductive IsPlace (text : Text) (tokens : List Token) : Nat → Prop where
  | start : IsPlace text tokens 0
  | behind {token : Token} (member : token ∈ tokens) :
    IsPlace text tokens (token.position + Text.byteSize token.text)
  | blank {token : Token} {before blank after : Text} (member : token ∈ tokens) (split : text = before ++ (blank ++ after))
    (spaces : ∀ c ∈ blank, isSpace c) (position : token.position = Text.byteSize (before ++ blank)) :
    IsPlace text tokens (Text.byteSize before)

/-- At each of these places the token is found with which the list of tokens goes on. -/
theorem at?_of_isPlace {text : Text} {tokens : List Token} {place : Nat} (cut : CutInto 0 text tokens [])
    (isPlace : IsPlace text tokens place) : at? text place = tokens.find? (place ≤ ·.position) := by
  have stuck : ∀ token rest, read [] ≠ .done token rest := fun _ _ => fails_read_nil.not_done
  cases isPlace with
  | start =>
    have found := cut.at?_eq_head? [] stuck rfl
    exact found.trans (CutInto.find?_eq_head? (List.forall_mem_nil _) fun _ _ => Nat.zero_le _).symm
  | @behind token member =>
    obtain ⟨front, back, before, mid, rfl, rfl, position, -, fits, more⟩ := cut.exists_at member
    rw [Nat.zero_add] at position
    have size := Nat.pos_of_ne_zero (mt Text.eq_nil_of_byteSize fits.ne_nil)
    have found := more.at?_eq_head? (before ++ token.text) stuck (by rw [Text.byteSize_append, position])
    have earlier : ∀ other ∈ front ++ [token], other.position < token.position + Text.byteSize token.text := by
      refine List.forall_mem_append.mpr ⟨fun other inside => ?_, List.forall_mem_singleton.mpr (by omega)⟩
      exact Nat.lt_of_lt_of_le (cut.position_lt other inside) (Nat.le_add_right _ _)
    rw [← List.append_assoc, found, List.append_cons]
    exact (CutInto.find?_eq_head? earlier more.le_position).symm
  | @blank token before blank after member split_ spaces position =>
    obtain ⟨front, back, before', mid, rfl, whole, position', bare, fits, more⟩ := cut.exists_at member
    rw [Nat.zero_add, position] at position'
    -- the split at the token is the one that the cut makes
    obtain ⟨between, rfl, same⟩ :=
      Text.exists_between ((List.append_assoc ..).trans (split_.symm.trans whole)) (Nat.le_of_eq position')
    rw [Text.byteSize_append (before ++ blank)] at position'
    have nothing : between = [] := Text.eq_nil_of_byteSize (by omega)
    subst nothing
    rw [List.nil_append] at same
    subst same split_
    have rest := CutInto.token (isLayout_of_spaces spaces _) bare fits (position.trans (Text.byteSize_append ..)) more
    have earlier : ∀ other ∈ front, other.position < Text.byteSize before := by
      intro other inside
      by_contra later
      have behind := cut.not_mem_of_blank spaces (List.mem_append_left _ inside) (Nat.le_of_not_lt later)
      have := cut.position_lt other inside
      omega
    rw [rest.at?_eq_head? before stuck rfl]
    exact (CutInto.find?_eq_head? earlier rest.le_position).symm

/-- Finding tokens agrees with listing them. In a text that is cut into tokens, the token at the start, at the end of a
token or in white space in front of one is the first of the list from there on, and finding one behind the other gives the
list. At an offset behind the end or inside a character nothing is found, in any text. -/
theorem at?_agrees_with_tokenize (text : Text) :
    (∀ tokens, tokenize text = .ok tokens →
      (∀ place, IsPlace text tokens place → at? text place = tokens.find? (place ≤ ·.position)) ∧
        listAt text 0 = tokens) ∧
      ∀ place, Text.byteSize text < place ∨ ¬ Text.IsBoundary text place → at? text place = none := by
  constructor
  · intro tokens listed
    have cut := tokenize_eq_ok_iff_cutInto.mp listed
    exact ⟨fun place => at?_of_isPlace cut, cut.listAt_eq [] (fun _ _ => fails_read_nil.not_done) rfl⟩
  · rintro place (past | inside)
    · refine at?_eq_none fun ⟨before, rest, split, size⟩ => ?_
      rw [split, Text.byteSize_append] at past
      omega
    · exact at?_eq_none inside

/-- A string behind a comment is found at the end of the word in front of the comment and from the space behind it, and
nothing is found at its own end. -/
theorem at?_agrees_with_tokenize_string_behind_comment :
    tokenize "a /* é */  'ü' " = .ok [⟨.identifier, "a", 0⟩, ⟨.string, "'ü'", 12⟩] ∧
      at? "a /* é */  'ü' " 1 = some ⟨.string, "'ü'", 12⟩ ∧ at? "a /* é */  'ü' " 11 = some ⟨.string, "'ü'", 12⟩ ∧
        at? "a /* é */  'ü' " 16 = none ∧ at? "a /* é */  'ü' " 18 = none := by
  have listed : tokenize "a /* é */  'ü' " = .ok [⟨.identifier, "a", 0⟩, ⟨.string, "'ü'", 12⟩] := by decide +kernel
  obtain ⟨agrees, nothing⟩ := at?_agrees_with_tokenize "a /* é */  'ü' "
  obtain ⟨found, -⟩ := agrees _ listed
  have blank := @IsPlace.blank _ _ _ "a /* é */ " [' '] "'ü' "
    (List.mem_cons_of_mem ⟨.identifier, "a", 0⟩ (List.mem_singleton_self ⟨.string, "'ü'", 12⟩)) rfl
    (List.forall_mem_singleton.mpr rfl) rfl
  exact ⟨listed, found 1 (.behind (List.mem_cons_self ..)), found 11 blank,
    found 16 (.behind (List.mem_cons_of_mem _ (List.mem_cons_self ..))), nothing 18 (.inl (by decide))⟩

end BulkSql
