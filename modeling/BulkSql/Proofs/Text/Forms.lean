import BulkSql.Proofs.Text.Utf8
import BulkSql.Text.Percent
import Mathlib.Data.List.TakeWhile

/-! # Web forms that were written are read again

What is written for a key or value has no character that parts pairs, so a form that was written is read as the pairs
it was written for. The converse fails: many texts are read as one and the same key. A reader of percent signs only
reads what was written with plus signs in the place of spaces, and that is all it reads differently.
-/

namespace BulkSql

namespace Text

/-! ## Splitting -/

theorem all_ne {mark : Char} {text : Text} (free : mark ∉ text) : ∀ c ∈ text, (c != mark) = true := by
  intro c member
  simpa using ne_of_mem_of_not_mem member free

theorem takeWhile_append_cons {mark : Char} {text : Text} (free : mark ∉ text) (rest : Text) :
    (text ++ mark :: rest).takeWhile (· != mark) = text := by
  rw [List.takeWhile_append_of_pos (all_ne free), List.takeWhile_cons_of_neg (by simp), List.append_nil]

theorem dropWhile_append_cons {mark : Char} {text : Text} (free : mark ∉ text) (rest : Text) :
    (text ++ mark :: rest).dropWhile (· != mark) = mark :: rest := by
  rw [List.dropWhile_append_of_pos (all_ne free), List.dropWhile_cons_of_neg (by simp)]

theorem cutAt_append_cons {mark : Char} {text : Text} (free : mark ∉ text) (rest : Text) :
    cutAt mark (text ++ mark :: rest) = (text, some rest) := by
  rw [cutAt, dropWhile_append_cons free, takeWhile_append_cons free]

theorem cutAt_of_not_mem {mark : Char} {text : Text} (free : mark ∉ text) : cutAt mark text = (text, none) := by
  have none_ : text.dropWhile (· != mark) = [] := by
    rw [← List.append_nil text, List.dropWhile_append_of_pos (all_ne free), List.dropWhile_nil]
  rw [cutAt, none_]

theorem cutAt_subset (mark : Char) (text : Text) : (cutAt mark text).1 ⊆ text := by
  unfold cutAt
  split
  · exact List.Subset.refl text
  · exact (List.takeWhile_prefix _).subset

theorem not_mem_cutAt (mark : Char) (text : Text) : mark ∉ (cutAt mark text).1 := by
  intro member
  unfold cutAt at member
  split at member
  · next none_ =>
    rw [← List.takeWhile_append_dropWhile (p := (· != mark)) (l := text), none_, List.append_nil] at member
    simpa using List.mem_takeWhile_imp member
  · simpa using List.mem_takeWhile_imp member

theorem split_of_not_mem {separator : Char} {part : Text} (free : separator ∉ part) :
    split separator part = [part] := by
  induction part with
  | nil => rfl
  | cons c part ih =>
    rw [List.mem_cons, not_or] at free
    rw [split, if_neg (Ne.symm free.1), ih free.2]

theorem split_append_cons {separator : Char} {part : Text} (free : separator ∉ part) (rest : Text) :
    split separator (part ++ separator :: rest) = part :: split separator rest := by
  induction part with
  | nil => rw [List.nil_append, split, if_pos rfl]
  | cons c part ih =>
    rw [List.mem_cons, not_or] at free
    rw [List.cons_append, split, if_neg (Ne.symm free.1), ih free.2]

/-- Parts without separators are found again. No parts are not: they are joined like one empty part. -/
theorem split_join {separator : Char} {parts : List Text} (some_ : parts ≠ [])
    (free : ∀ part ∈ parts, separator ∉ part) : split separator (join [separator] parts) = parts := by
  induction parts with
  | nil => exact absurd rfl some_
  | cons part more ih =>
    cases more with
    | nil => simpa [join, List.intercalate] using split_of_not_mem (free part (by simp))
    | cons next more =>
      have behind := ih (List.cons_ne_nil _ _) fun part member => free part (List.mem_cons_of_mem _ member)
      rw [join, List.intercalate_cons_cons, List.append_assoc, List.singleton_append,
        split_append_cons (free part (by simp)), ← join, behind]

/-! ## Hexadecimal digits -/

theorem toDigits_of_le {n : Nat} (long : 16 ≤ n) :
    Nat.toDigits 16 n = Nat.toDigits 16 (n / 16) ++ [(n % 16).digitChar] := by
  have both := Nat.toDigits_append_toDigits (b := 16) (n := n / 16) (d := n % 16) (by omega) (by omega) (by omega)
  rw [Nat.div_add_mod, Nat.toDigits_of_lt_base (show n % 16 < 16 by omega)] at both
  exact both.symm

theorem hex_two {n : Nat} (small : n < 256) : hex 2 n = [(n / 16).digitChar, (n % 16).digitChar] := by
  unfold hex
  by_cases one : n < 16
  · have zero : n / 16 = 0 := by omega
    rw [Nat.toDigits_of_lt_base one, zero, Nat.mod_eq_of_lt one]
    rfl
  · rw [toDigits_of_le (by omega), Nat.toDigits_of_lt_base (show n / 16 < 16 by omega)]
    rfl

theorem hexValue?_toUpper_digitChar : ∀ d < 16, hexValue? (Nat.digitChar d).toUpper = some d := by decide

end Text

namespace Percent

/-! ## Percent signs -/

theorem escape_eq (b : UInt8) :
    escape b = ['%', (b.toNat / 16).digitChar.toUpper, (b.toNat % 16).digitChar.toUpper] := by
  rw [escape, Text.hex_two b.toNat_lt]
  rfl

theorem mem_escape {b : UInt8} {c : Char} (member : c ∈ escape b) : c = '%' ∨ c.isAlphanum = true := by
  have digit : ∀ d < 16, (Nat.digitChar d).toUpper.isAlphanum = true := by decide
  have bound := b.toNat_lt
  simp only [escape_eq, List.mem_cons, List.not_mem_nil, or_false] at member
  rcases member with rfl | rfl | rfl
  · exact .inl rfl
  · exact .inr (digit _ (by omega))
  · exact .inr (digit _ (by omega))

/-- What is written for a text: its characters outside the set, percent signs and digits. -/
theorem mem_encode {set : Char → Bool} {text : Text} {c : Char} (member : c ∈ encode set text) :
    c ∈ text ∧ set c = false ∨ c = '%' ∨ c.isAlphanum = true := by
  simp only [encode, List.mem_flatMap] at member
  obtain ⟨d, inside, member⟩ := member
  split at member
  · next plain =>
    obtain rfl := List.mem_singleton.mp member
    simp only [Bool.and_eq_true, Bool.not_eq_true'] at plain
    exact .inl ⟨inside, plain.2⟩
  · obtain ⟨b, -, member⟩ := List.mem_flatMap.mp member
    exact .inr (mem_escape member)

theorem decode_digits {high low : Char} {h l : Nat} (first : Text.hexValue? high = some h)
    (second : Text.hexValue? low = some l) (rest : Text) :
    decode ('%' :: high :: low :: rest) = UInt8.ofNat (16 * h + l) :: decode rest := by
  simp only [decode, first, second]

/-- A percent sign and two digits. -/
def StartsEscape (text : Text) : Prop :=
  ∃ high low rest h l,
    text = '%' :: high :: low :: rest ∧ Text.hexValue? high = some h ∧ Text.hexValue? low = some l

/-- All other characters stand for themselves. -/
theorem decode_cons {c : Char} {rest : Text} (alone : ¬ StartsEscape (c :: rest)) :
    decode (c :: rest) = String.utf8EncodeChar c ++ decode rest := by
  by_cases long : ∃ high low more, c :: rest = '%' :: high :: low :: more
  · obtain ⟨high, low, more, same⟩ := long
    cases same
    rw [decode]
    split
    · next h l first second => exact absurd ⟨high, low, more, h, l, rfl, first, second⟩ alone
    · rfl
  · rw [decode]
    rintro high low more rfl rfl
    exact long ⟨high, low, more, rfl⟩

/-- A text is read escape by escape and character by character. -/
theorem reading_induction {motive : Text → Prop} (nil : motive [])
    (escape : ∀ {high low rest h l}, Text.hexValue? high = some h → Text.hexValue? low = some l → motive rest →
      motive ('%' :: high :: low :: rest))
    (alone : ∀ {c rest}, ¬ StartsEscape (c :: rest) → motive rest → motive (c :: rest)) (text : Text) :
    motive text := by
  induction text using decode.induct with
  | case1 high low rest h l second first ih => exact escape first second ih
  | case2 high low rest none_ ih =>
    refine alone ?_ ih
    rintro ⟨_, _, _, h, l, same, first, second⟩
    cases same
    exact none_ h l first second
  | case3 c rest short ih =>
    refine alone ?_ ih
    rintro ⟨high, low, more, _, _, same, -, -⟩
    cases same
    exact short high low more rfl rfl
  | case4 => exact nil

theorem decode_cons_of_ne {c : Char} (plain : c ≠ '%') (rest : Text) :
    decode (c :: rest) = String.utf8EncodeChar c ++ decode rest :=
  decode_cons fun ⟨_, _, _, _, _, same, _⟩ => plain (List.cons.inj same).1

theorem decode_escape (b : UInt8) (rest : Text) : decode (escape b ++ rest) = b :: decode rest := by
  have bound := b.toNat_lt
  have bits : 16 * (b.toNat / 16) + b.toNat % 16 = b.toNat := Nat.div_add_mod _ _
  rw [escape_eq, List.cons_append, List.cons_append, List.cons_append, List.nil_append,
    decode_digits (Text.hexValue?_toUpper_digitChar _ (by omega)) (Text.hexValue?_toUpper_digitChar _ (by omega)), bits,
    UInt8.ofNat_toNat]

theorem decode_flatMap_escape (bytes : Bytes) (rest : Text) :
    decode (bytes.flatMap escape ++ rest) = bytes ++ decode rest := by
  induction bytes with
  | nil => rfl
  | cons b bytes ih => rw [List.flatMap_cons, List.append_assoc, decode_escape, ih, List.cons_append]

/-! ## Plus signs -/

/-- A character as a form means it. -/
def plusAsSpace (c : Char) : Char := if c = '+' then ' ' else c

theorem plusAsSpace_cases (c : Char) : c = '+' ∧ plusAsSpace c = ' ' ∨ plusAsSpace c = c := by
  by_cases plus : c = '+' <;> simp [plusAsSpace, plus]

theorem hexValue?_plusAsSpace (c : Char) : Text.hexValue? (plusAsSpace c) = Text.hexValue? c := by
  rcases plusAsSpace_cases c with ⟨rfl, same⟩ | same
  · rw [same]
    rfl
  · rw [same]

theorem plusAsSpace_eq_percent_iff {c : Char} : plusAsSpace c = '%' ↔ c = '%' := by
  rcases plusAsSpace_cases c with ⟨rfl, same⟩ | same
  · rw [same]
    decide
  · rw [same]

theorem StartsEscape.of_plusAsSpace {text : Text} (escape : StartsEscape (text.map plusAsSpace)) :
    StartsEscape text := by
  obtain ⟨_, _, _, h, l, same, first, second⟩ := escape
  obtain ⟨c, _, rfl, percent, digits⟩ := List.map_eq_cons_iff.mp same
  obtain ⟨high, _, rfl, rfl, more⟩ := List.map_eq_cons_iff.mp digits
  obtain ⟨low, rest, rfl, rfl, -⟩ := List.map_eq_cons_iff.mp more
  rw [hexValue?_plusAsSpace] at first second
  rw [plusAsSpace_eq_percent_iff.mp percent]
  exact ⟨high, low, rest, h, l, rfl, first, second⟩

/-- Bytes with plus signs in the place of spaces. -/
def withPluses (bytes : Bytes) : Bytes := bytes.map fun b => if b = 0x20 then 0x2b else b

theorem withPluses_append (left right : Bytes) : withPluses (left ++ right) = withPluses left ++ withPluses right :=
  List.map_append

theorem withPluses_plusAsSpace (c : Char) :
    withPluses (String.utf8EncodeChar (plusAsSpace c)) = withPluses (String.utf8EncodeChar c) := by
  rcases plusAsSpace_cases c with ⟨rfl, same⟩ | same
  · rw [same]
    rfl
  · rw [same]

/-- A plus sign that stands for a space is no digit and no percent sign, so nothing else is read differently. -/
theorem withPluses_decode_plusAsSpace (part : Text) :
    withPluses (decode (part.map plusAsSpace)) = withPluses (decode part) := by
  induction part using reading_induction with
  | nil => rfl
  | @escape high low rest h l first second ih =>
    rw [List.map_cons, List.map_cons, List.map_cons, plusAsSpace_eq_percent_iff.mpr rfl,
      decode_digits ((hexValue?_plusAsSpace high).trans first) ((hexValue?_plusAsSpace low).trans second),
      decode_digits first second]
    exact congrArg (_ :: ·) ih
  | @alone c rest alone ih =>
    have alone' : ¬ StartsEscape ((c :: rest).map plusAsSpace) := fun escape => alone escape.of_plusAsSpace
    rw [List.map_cons] at alone' ⊢
    rw [decode_cons alone', decode_cons alone, withPluses_append, withPluses_append, withPluses_plusAsSpace, ih]

end Percent

namespace Form

/-! ## Keys and values -/

theorem mem_encodePart {text : Text} {c : Char} (member : c ∈ encodePart text) :
    isLiteral c = true ∨ c = '+' ∨ c = '%' := by
  simp only [encodePart, List.mem_flatMap] at member
  obtain ⟨d, -, member⟩ := member
  split at member
  · next literal => exact .inl (List.mem_singleton.mp member ▸ literal)
  split at member
  · exact .inr (.inl (List.mem_singleton.mp member))
  · obtain ⟨b, -, member⟩ := List.mem_flatMap.mp member
    rcases Percent.mem_escape member with sign | digit
    · exact .inr (.inr sign)
    · exact .inl (by simp [isLiteral, digit])

theorem not_mem_encodePart {mark : Char} (text : Text) (special : isLiteral mark = false) (plus : mark ≠ '+')
    (percent : mark ≠ '%') : mark ∉ encodePart text := by
  intro member
  rcases mem_encodePart member with literal | rfl | rfl
  · rw [special] at literal
    cases literal
  · exact plus rfl
  · exact percent rfl

/-- What a reader of percent signs makes of a part, if it reads the plus sign in a way of its own. -/
theorem decode_map_encodePart (read : Char → Char) (fixes : ∀ c ≠ '+', read c = c) (plain : read '+' ≠ '%')
    (text : Text) :
    Percent.decode ((encodePart text).map read) =
      Utf8.encode (text.map fun c => if c = ' ' then read '+' else c) := by
  induction text with
  | nil => rfl
  | cons c text ih =>
    rw [encodePart, List.flatMap_cons, ← encodePart, List.map_append, List.map_cons, Utf8.encode_cons, ← ih]
    by_cases literal : isLiteral c = true
    · have apart : c ≠ '+' ∧ c ≠ '%' ∧ c ≠ ' ' := by
        refine ⟨?_, ?_, ?_⟩ <;> rintro rfl <;> cases literal
      rw [if_pos literal, if_neg apart.2.2, List.map_singleton, fixes c apart.1, List.singleton_append,
        Percent.decode_cons_of_ne apart.2.1]
    rw [if_neg literal]
    by_cases space : c = ' '
    · rw [if_pos space, if_pos space, List.map_singleton, List.singleton_append, Percent.decode_cons_of_ne plain]
    · have kept : ((String.utf8EncodeChar c).flatMap Percent.escape).map read =
          (String.utf8EncodeChar c).flatMap Percent.escape := by
        refine (List.map_congr_left fun d member => fixes d ?_).trans (List.map_id _)
        rintro rfl
        obtain ⟨b, -, member⟩ := List.mem_flatMap.mp member
        simpa using Percent.mem_escape member
      rw [if_neg space, if_neg space, kept, Percent.decode_flatMap_escape]

theorem decodePart_eq (part : Text) :
    decodePart part = Utf8.decodeLenient (Percent.decode (part.map Percent.plusAsSpace)) :=
  rfl

/-- Keys and values are read as they were meant. -/
theorem decodePart_encodePart (text : Text) : decodePart (encodePart text) = text := by
  have spaces : (text.map fun c => if c = ' ' then Percent.plusAsSpace '+' else c) = text := by
    refine List.map_id'' (fun c => ?_) text
    split
    · next space => exact space.symm
    · rfl
  have read := decode_map_encodePart Percent.plusAsSpace (fun c other => if_neg other) (by decide) text
  rw [decodePart_eq, read, spaces, Utf8.decodeLenient_encode]

/-! ## Readers of percent signs only -/

/-- The text with plus signs in the place of spaces. -/
def withPluses (text : Text) : Text := text.map fun c => if c = ' ' then '+' else c

theorem space_not_mem_withPluses (text : Text) : ' ' ∉ withPluses text := by
  simp only [withPluses, List.mem_map, not_exists, not_and]
  intro c _
  split
  · decide
  · assumption

theorem withPluses_of_not_mem {text : Text} (free : ' ' ∉ text) : withPluses text = text := by
  refine (List.map_congr_left fun c member => if_neg ?_).trans (List.map_id text)
  rintro rfl
  exact free member

theorem percentDecode_encodePart (text : Text) : Percent.decode (encodePart text) = Utf8.encode (withPluses text) := by
  have read := decode_map_encodePart id (fun _ _ => rfl) (by decide) text
  rwa [List.map_id] at read

/-- The two readings of a part differ in spaces and plus signs only. -/
theorem withPluses_decodePart (part : Text) :
    withPluses (decodePart part) = withPluses (Utf8.decodeLenient (Percent.decode part)) := by
  have blind : ∀ bytes, withPluses (Utf8.decodeLenient (Percent.withPluses bytes)) =
      withPluses (Utf8.decodeLenient bytes) := by
    refine Utf8.decodeLenient_map ?_ ?_ _ ?_
    · intro b high
      refine if_neg ?_
      rintro rfl
      exact absurd high (by decide)
    · intro b ascii
      split
      · decide
      · exact ascii
    -- the two bytes that are swapped are the two characters that are not told apart
    · intro b _
      by_cases space : b = 0x20
      · rw [if_pos space, space]
        rfl
      · rw [if_neg space]
  rw [decodePart_eq, ← blind, Percent.withPluses_decode_plusAsSpace, blind]

/-- What such a reader finds in a part that was read as a form and written again. -/
theorem percentDecode_rewritten (part : Text) :
    Percent.decode (encodePart (decodePart part)) =
      Utf8.encode (withPluses (Utf8.decodeLenient (Percent.decode part))) := by
  rw [percentDecode_encodePart, withPluses_decodePart]

/-- It finds what it found before exactly if this was a text without spaces. -/
theorem percentDecode_rewritten_eq_iff {part : Text} :
    Percent.decode (encodePart (decodePart part)) = Percent.decode part ↔
      ∃ text, Percent.decode part = Utf8.encode text ∧ ' ' ∉ text := by
  rw [percentDecode_rewritten]
  constructor
  · intro same
    exact ⟨_, same.symm, space_not_mem_withPluses _⟩
  · rintro ⟨text, same, free⟩
    rw [same, Utf8.decodeLenient_encode, withPluses_of_not_mem free]

/-! ## Pairs -/

/-- What stands before the first equals sign of a pair. -/
def keyOf (segment : Text) : Text := segment.takeWhile (· != '=')

/-- What stands behind the first equals sign of a pair. -/
def valueOf (segment : Text) : Text := (segment.dropWhile (· != '=')).drop 1

theorem decodePair_eq (segment : Text) :
    decodePair segment = (decodePart (keyOf segment), decodePart (valueOf segment)) :=
  rfl

def encodePair (pair : Text × Text) : Text := encodePart pair.1 ++ '=' :: encodePart pair.2

theorem equals_not_mem_encodePart (text : Text) : '=' ∉ encodePart text :=
  not_mem_encodePart text (by decide) (by decide) (by decide)

theorem ampersand_not_mem_encodePart (text : Text) : '&' ∉ encodePart text :=
  not_mem_encodePart text (by decide) (by decide) (by decide)

theorem ampersand_not_mem_encodePair (pair : Text × Text) : '&' ∉ encodePair pair := by
  simp [encodePair, ampersand_not_mem_encodePart]

theorem encodePair_ne_nil (pair : Text × Text) : encodePair pair ≠ [] := by simp [encodePair]

theorem decodePair_encodePair (pair : Text × Text) : decodePair (encodePair pair) = pair := by
  have free := equals_not_mem_encodePart pair.1
  rw [decodePair_eq, keyOf, valueOf, encodePair, Text.takeWhile_append_cons free, Text.dropWhile_append_cons free,
    List.drop_one, List.tail_cons, decodePart_encodePart, decodePart_encodePart]

theorem encode_eq (form : Form) : encode form = Text.join ['&'] (form.map encodePair) := rfl

theorem encode_singleton (pair : Text × Text) : encode [pair] = encodePair pair := by
  simp [encode_eq, Text.join, List.intercalate]

theorem encode_cons_cons (pair next : Text × Text) (more : Form) :
    encode (pair :: next :: more) = encodePair pair ++ '&' :: encode (next :: more) := by
  rw [encode_eq, List.map_cons, List.map_cons, Text.join, List.intercalate_cons_cons, List.append_assoc]
  rfl

theorem split_encode {form : Form} (some_ : form ≠ []) : Text.split '&' (encode form) = form.map encodePair := by
  refine Text.split_join (by simpa using some_) fun part member => ?_
  obtain ⟨pair, -, rfl⟩ := List.mem_map.mp member
  exact ampersand_not_mem_encodePair pair

/-- A form is read as it was meant. -/
theorem decode_encode (form : Form) : decode (encode form) = form := by
  by_cases none_ : form = []
  · rw [none_]
    rfl
  · have kept : (form.map encodePair).filter (!·.isEmpty) = form.map encodePair := by
      refine List.filter_eq_self.mpr fun part member => ?_
      obtain ⟨pair, -, rfl⟩ := List.mem_map.mp member
      simpa using encodePair_ne_nil pair
    rw [decode, split_encode none_, kept, List.map_map]
    exact List.map_id'' decodePair_encodePair form

end Form

end BulkSql
