import BulkSql.Proofs.Text.Forms
import BulkSql.Url.Basic

/-! # Where the query of a url starts and ends

The first question mark of a url that was read starts its query, and the first hash sign ends it: neither stands in
scheme, authority or path, since reading encodes it there or refuses the url, and no hash sign stands in the query. So
anybody who looks for these marks finds the parts that the url was read with.
-/

namespace BulkSql

/-! ## Texts without marks -/

/-- The marks in front of a query and of a fragment. -/
def isMark (c : Char) : Bool := c == '?' || c == '#'

theorem isMark_iff {c : Char} : isMark c = true ↔ c = '?' ∨ c = '#' := by
  rw [isMark, Bool.or_eq_true, beq_iff_eq, beq_iff_eq]

theorem isMark_eq_false_iff {c : Char} : isMark c = false ↔ c ≠ '?' ∧ c ≠ '#' := by
  rw [isMark, Bool.or_eq_false_iff, beq_eq_false_iff_ne, beq_eq_false_iff_ne]

theorem isMark_of_isAlphanum {c : Char} (alphanum : c.isAlphanum = true) : isMark c = false := by
  refine isMark_eq_false_iff.mpr ⟨?_, ?_⟩ <;> rintro rfl <;> cases alphanum

/-- Neither mark stands in a text. -/
def Unmarked (text : Text) : Prop := ∀ c ∈ text, isMark c = false

namespace Unmarked

@[simp] theorem nil : Unmarked [] := List.forall_mem_nil _

@[simp] theorem cons_iff {c : Char} {text : Text} : Unmarked (c :: text) ↔ isMark c = false ∧ Unmarked text :=
  List.forall_mem_cons

@[simp] theorem append_iff {left right : Text} : Unmarked (left ++ right) ↔ Unmarked left ∧ Unmarked right :=
  List.forall_mem_append

theorem subset {left right : Text} (unmarked : Unmarked right) (within : left ⊆ right) : Unmarked left :=
  fun c member => unmarked c (within member)

theorem not_mem {text : Text} (unmarked : Unmarked text) : '?' ∉ text ∧ '#' ∉ text :=
  ⟨fun member => absurd (unmarked _ member) (by decide), fun member => absurd (unmarked _ member) (by decide)⟩

theorem join {separator : Char} {parts : List Text} (between : isMark separator = false)
    (each : ∀ part ∈ parts, Unmarked part) : Unmarked (Text.join [separator] parts) := by
  induction parts with
  | nil => simp [Text.join, List.intercalate]
  | cons part more ih =>
    rw [List.forall_mem_cons] at each
    cases more with
    | nil => simpa [Text.join, List.intercalate] using each.1
    | cons next more =>
      rw [Text.join, List.intercalate_cons_cons, append_iff, append_iff, cons_iff]
      exact ⟨⟨each.1, between, nil⟩, ih each.2⟩

/-- A set with both marks takes them out. -/
theorem encode_of_set {set : Char → Bool} (marks : ∀ c, isMark c = true → set c = true) (text : Text) :
    Unmarked (Percent.encode set text) := by
  intro c member
  rcases Percent.mem_encode member with ⟨-, outside⟩ | rfl | alphanum
  · rw [← Bool.not_eq_true]
    exact fun mark => absurd (marks c mark) (by simp [outside])
  · rfl
  · exact isMark_of_isAlphanum alphanum

theorem encode {text : Text} (unmarked : Unmarked text) (set : Char → Bool) : Unmarked (Percent.encode set text) := by
  intro c member
  rcases Percent.mem_encode member with ⟨inside, -⟩ | rfl | alphanum
  · exact unmarked c inside
  · rfl
  · exact isMark_of_isAlphanum alphanum

end Unmarked

/-! ## Numerals -/

namespace Text

theorem isAlphanum_of_mem_toDigits {n : Nat} {c : Char} (member : c ∈ Nat.toDigits 16 n) : c.isAlphanum = true := by
  have digit : ∀ d < 16, (Nat.digitChar d).isAlphanum = true := by decide
  induction n using Nat.strongRecOn with
  | _ n ih =>
    by_cases one : n < 16
    · rw [Nat.toDigits_of_lt_base one, List.mem_singleton] at member
      exact member ▸ digit n one
    · rw [toDigits_of_le (by omega), List.mem_append, List.mem_singleton] at member
      rcases member with member | rfl
      · exact ih (n / 16) (by omega) member
      · exact digit _ (by omega)

theorem unmarked_hex (width n : Nat) : Unmarked (hex width n) := by
  rw [hex, Unmarked.append_iff]
  refine ⟨fun c member => ?_, fun c member => isMark_of_isAlphanum (isAlphanum_of_mem_toDigits member)⟩
  rw [List.eq_of_mem_replicate member]
  rfl

theorem unmarked_ofNat (n : Nat) : Unmarked (ofNat n) := by
  intro c member
  have digit := Nat.isDigit_of_mem_toDigits (by decide) (by decide) member
  exact isMark_of_isAlphanum (by simp [Char.isAlphanum, digit])

end Text

/-! ## Hosts -/

namespace Address

theorem unmarked_hexGroups (groups : List Nat) : Unmarked (hexGroups groups) := by
  refine Unmarked.join rfl fun part member => ?_
  obtain ⟨group, -, rfl⟩ := List.mem_map.mp member
  exact Text.unmarked_hex 1 group

theorem unmarked_ipv6Text (groups : List Nat) : Unmarked (ipv6Text groups) := by
  unfold ipv6Text
  split
  split
  · exact unmarked_hexGroups groups
  · simp [unmarked_hexGroups]
    rfl

theorem unmarked_ipv4Text (address : Nat) : Unmarked (ipv4Text address) := by
  refine Unmarked.join rfl fun part member => ?_
  obtain ⟨place, -, rfl⟩ := List.mem_map.mp member
  exact Text.unmarked_ofNat _

end Address

namespace Host

theorem isForbidden_of_isMark {c : Char} (mark : isMark c = true) : isForbidden c = true := by
  rcases isMark_iff.mp mark with rfl | rfl <;> rfl

theorem isForbiddenInDomain_of_isMark {c : Char} (mark : isMark c = true) : isForbiddenInDomain c = true := by
  simp [isForbiddenInDomain, isForbidden_of_isMark mark]

theorem unmarked_of_allowed {host : Text} {forbidden : Char → Bool}
    (marks : ∀ c, isMark c = true → forbidden c = true) (allowed : host.any forbidden = false) : Unmarked host := by
  intro c member
  rw [← Bool.not_eq_true]
  intro mark
  rw [List.any_eq_false] at allowed
  exact allowed c member (marks c mark)

theorem unmarked_bracketed {written host : Text} (read : bracketed? written = some (.ok host)) : Unmarked host := by
  unfold bracketed? at read
  split at read
  · split at read
    · split at read
      · obtain rfl := Except.ok.inj (Option.some.inj read)
        rw [List.cons_append, Unmarked.cons_iff, Unmarked.append_iff, Unmarked.cons_iff]
        exact ⟨rfl, Address.unmarked_ipv6Text _, rfl, Unmarked.nil⟩
      · cases read
    · cases read
  · cases read

theorem unmarked_readOther {written host : Text} (read : readOther written = .ok host) : Unmarked host := by
  unfold readOther at read
  split at read
  · next address bracketed =>
    subst read
    exact unmarked_bracketed bracketed
  · split at read
    · cases read
    · next allowed =>
      cases read
      exact (unmarked_of_allowed (fun _ => isForbidden_of_isMark) (by simpa using allowed)).encode _

theorem unmarked_readDomain {written host : Text} (read : readDomain written = .ok host) : Unmarked host := by
  unfold readDomain at read
  split at read
  · next address bracketed =>
    subst read
    exact unmarked_bracketed bracketed
  split at read
  · cases read
  split at read
  · cases read
  next domain _ =>
    split at read
    · cases read
    next allowed =>
    split at read
    · cases read
    split at read
    · split at read
      · cases read
        exact Address.unmarked_ipv4Text _
      · cases read
    · cases read
      exact unmarked_of_allowed (fun _ => isForbiddenInDomain_of_isMark) (by simpa using allowed)

end Host

/-! ## Authorities -/

namespace Url

section Ensures

variable {α β : Type}

/-- What holds of a reading that is not refused. -/
def Ensures (reading : Except UrlError α) (holds : α → Prop) : Prop :=
  ∀ value, reading = .ok value → holds value

namespace Ensures

variable {holds : α → Prop} {holds' : β → Prop}

theorem pure {value : α} (true_ : holds value) : Ensures (Pure.pure value) holds := by
  intro _ same
  exact Except.ok.inj same ▸ true_

theorem bind {reading : Except UrlError α} {next : α → Except UrlError β} (first : Ensures reading holds)
    (then_ : ∀ value, holds value → Ensures (next value) holds') : Ensures (reading >>= next) holds' := by
  cases reading with
  | error => exact fun _ same => nomatch same
  | ok value => exact then_ value (first value rfl)

/-- A reading that goes on if it is not refused. -/
theorem unrefused {refused : Prop} [Decidable refused] {error : UrlError} {next : Unit → Except UrlError β}
    (otherwise : Ensures (next ()) holds') :
    Ensures (if refused then throw error >>= next else next ()) holds' := by
  split
  · exact fun _ same => nomatch same
  · exact otherwise

/-- A reading that starts in one of two ways. -/
theorem either {chosen : Prop} [Decidable chosen] {left right : Except UrlError α} {next : α → Except UrlError β}
    (first : Ensures left holds) (second : Ensures right holds)
    (then_ : ∀ value, holds value → Ensures (next value) holds') :
    Ensures (if chosen then left >>= next else right >>= next) holds' := by
  split
  · exact first.bind then_
  · exact second.bind then_

end Ensures

end Ensures

theorem isEncodedInPath_of_isMark {c : Char} (mark : isMark c = true) : isEncodedInPath c = true := by
  rcases isMark_iff.mp mark with rfl | rfl <;> rfl

theorem isEncodedInUser_of_isMark {c : Char} (mark : isMark c = true) : isEncodedInUser c = true := by
  simp [isEncodedInUser, isEncodedInPath_of_isMark mark]

/-- No mark stands in the authority, if there is one. -/
def AuthorityUnmarked (authority? : Option Authority) : Prop :=
  ∀ authority, authority? = some authority → Unmarked (authorityText authority)

theorem unmarked_authorityText {authority : Authority} (user : Unmarked authority.user)
    (password : Unmarked authority.password) (host : Unmarked authority.host) : Unmarked (authorityText authority) := by
  have sign : Unmarked ['@'] := Unmarked.cons_iff.mpr ⟨rfl, Unmarked.nil⟩
  have credentials : ∀ named, Unmarked named → Unmarked (if named.isEmpty then [] else named ++ ['@']) := by
    intro named unmarked
    split
    · exact Unmarked.nil
    · exact Unmarked.append_iff.mpr ⟨unmarked, sign⟩
  have behind : Unmarked (if authority.password.isEmpty then [] else ':' :: authority.password) := by
    split
    · exact Unmarked.nil
    · exact Unmarked.cons_iff.mpr ⟨rfl, password⟩
  rw [authorityText, Unmarked.append_iff, Unmarked.append_iff]
  refine ⟨⟨credentials _ (Unmarked.append_iff.mpr ⟨user, behind⟩), host⟩, ?_⟩
  split
  · exact Unmarked.cons_iff.mpr ⟨rfl, Text.unmarked_ofNat _⟩
  · exact Unmarked.nil

theorem ensures_readAuthority (scheme : SchemeClass) (followed : Bool) (written : Text) :
    Ensures (readAuthority scheme followed written) fun (authority, _) => Unmarked (authorityText authority) := by
  have encoded : ∀ text, Unmarked (Percent.encode isEncodedInUser text) :=
    Unmarked.encode_of_set fun _ => isEncodedInUser_of_isMark
  unfold readAuthority
  refine Ensures.unrefused (Ensures.unrefused ?_)
  refine Ensures.either (fun _ => Host.unmarked_readDomain) (fun _ => Host.unmarked_readOther) fun host unmarked => ?_
  refine Ensures.unrefused (Ensures.bind (fun _ _ => trivial) fun (portNumber?, rest) _ => ?_)
  exact Ensures.unrefused (Ensures.pure (unmarked_authorityText (encoded _) (encoded _) unmarked))

/-! ## Paths -/

theorem unmarked_resolve {path segments : List Text} (before : ∀ segment ∈ path, Unmarked segment) :
    ∀ segment ∈ resolve path segments, Unmarked segment := by
  have atEnd : ∀ more : List Text, ∀ segment ∈ (if more.isEmpty then [[]] else [] : List Text), Unmarked segment := by
    intro more
    split <;> simp
  induction segments generalizing path with
  | nil => exact before
  | cons segment more ih =>
    rw [resolve]
    split
    · refine ih (List.forall_mem_append.mpr ⟨fun part member => before part ?_, atEnd more⟩)
      unfold parent at member
      split at member
      · exact member
      · exact List.dropLast_subset _ member
    split
    · exact ih (List.forall_mem_append.mpr ⟨before, atEnd more⟩)
    · refine ih (List.forall_mem_append.mpr ⟨before, ?_⟩)
      simpa using Unmarked.encode_of_set (fun _ => isEncodedInPath_of_isMark) segment

theorem unmarked_rooted {segments : List Text} (each : ∀ segment ∈ segments, Unmarked segment) (hasAuthority : Bool) :
    Unmarked (pathText hasAuthority (.rooted segments)) := by
  have written : Unmarked (segments.flatMap fun segment => '/' :: segment) := by
    intro c member
    obtain ⟨segment, inside, member⟩ := List.mem_flatMap.mp member
    exact Unmarked.cons_iff.mpr ⟨rfl, each segment inside⟩ c member
  simp only [pathText]
  split
  · split
    · exact written
    · exact Unmarked.cons_iff.mpr ⟨rfl, Unmarked.cons_iff.mpr ⟨rfl, written⟩⟩
  · exact written

/-- No mark stands in a path, written behind an authority or without one. -/
def PathUnmarked (path : UrlPath) : Prop := ∀ hasAuthority, Unmarked (pathText hasAuthority path)

theorem unmarked_resolved (segments : List Text) : ∀ segment ∈ resolve [] segments, Unmarked segment :=
  unmarked_resolve (List.forall_mem_nil _)

theorem pathUnmarked_readPath (scheme : SchemeClass) (text : Text) : PathUnmarked (readPath scheme text) := by
  unfold readPath
  split
  · exact unmarked_rooted (List.forall_mem_nil _)
  · exact unmarked_rooted (unmarked_resolved _)

theorem unmarked_filePath {host : Text} (unmarked : Unmarked host) (segments : List Text) :
    Unmarked (filePath host segments).1 ∧ PathUnmarked (filePath host segments).2 := by
  have each := unmarked_resolved segments
  have root : PathUnmarked (.rooted [[]]) := unmarked_rooted (by simp)
  unfold filePath
  split
  · exact ⟨unmarked, root⟩
  next first more resolved =>
  rw [resolved] at each
  split
  · have drive : Unmarked (first.take 1 ++ [':']) :=
      Unmarked.append_iff.mpr ⟨(each first (by simp)).subset (List.take_subset 1 first), by simp; rfl⟩
    exact ⟨Unmarked.nil, unmarked_rooted (List.forall_mem_cons.mpr ⟨drive, (List.forall_mem_cons.mp each).2⟩)⟩
  split
  · exact ⟨unmarked, root⟩
  · refine ⟨unmarked, unmarked_rooted fun segment member => each segment ?_⟩
    exact (List.dropWhile_suffix _).subset member

theorem ensures_readFileLocation (text : Text) :
    Ensures (readFileLocation text) fun (host, path) => Unmarked host ∧ PathUnmarked path := by
  have nowhere : ∀ segments, Ensures (.ok (filePath [] segments)) fun (host, path) =>
      Unmarked host ∧ PathUnmarked path :=
    fun segments => Ensures.pure (unmarked_filePath Unmarked.nil segments)
  unfold readFileLocation
  split
  · dsimp only
    split
    · split
      · exact nowhere _
      · refine Ensures.either (Ensures.pure Unmarked.nil) (fun _ => Host.unmarked_readDomain) fun host unmarked => ?_
        split
        · exact nowhere _
        · exact Ensures.pure (unmarked_filePath unmarked _)
    · exact nowhere _
  · exact nowhere _

theorem ensures_readFile (text : Text) :
    Ensures (readFile text) fun (authority?, path) => AuthorityUnmarked authority? ∧ PathUnmarked path := by
  intro (authority?, path) read
  unfold readFile at read
  cases location : readFileLocation text with
  | error => rw [location] at read; cases read
  | ok found =>
    rw [location] at read
    cases read
    have unmarked := ensures_readFileLocation text found location
    refine ⟨fun authority same => ?_, unmarked.2⟩
    cases same
    exact unmarked_authorityText Unmarked.nil Unmarked.nil unmarked.1

theorem ensures_readHierarchy {scheme : SchemeClass} {followed : Bool} {text : Text} (unmarked : Unmarked text) :
    Ensures (readHierarchy scheme followed text) fun (authority?, path) =>
      AuthorityUnmarked authority? ∧ PathUnmarked path := by
  have none_ : AuthorityUnmarked none := fun _ same => nomatch same
  have located : ∀ written path followed, Ensures (readAuthority scheme followed written >>= fun (authority, rest) =>
      pure (some authority, readPath scheme (rest ++ path))) fun (authority?, path) =>
        AuthorityUnmarked authority? ∧ PathUnmarked path := by
    intro written path followed
    refine (ensures_readAuthority _ _ _).bind fun (authority, rest) unmarked => Ensures.pure ⟨?_, ?_⟩
    · intro _ same
      cases same
      exact unmarked
    · exact pathUnmarked_readPath _ _
  unfold readHierarchy
  dsimp only
  split
  · exact ensures_readFile text
  · exact located _ _ _
  · exact located _ _ _
  · exact Ensures.pure ⟨none_, unmarked_rooted (unmarked_resolved _)⟩
  · exact Ensures.pure ⟨none_, fun _ => unmarked.encode _⟩

/-! ## Urls -/

/-- A character that is no lower letter is what it is in lower case of itself only. -/
theorem eq_of_toLower_eq {c d : Char} (same : c.toLower = d) (other : d.isLower = false) : c = d := by
  unfold Char.toLower at same
  split at same
  · next upper =>
    have range : 65 ≤ c.val.toNat ∧ c.val.toNat ≤ 90 := upper
    have value : d.val.toNat = c.val.toNat + 32 := by
      rw [← same, UInt32.toNat_add]
      exact Nat.mod_eq_of_lt (show c.val.toNat + 32 < 4294967296 by omega)
    have lower : d.isLower = true := by
      refine Bool.and_eq_true_iff.mpr ⟨decide_eq_true ?_, decide_eq_true ?_⟩
      · exact show 97 ≤ d.val.toNat by omega
      · exact show d.val.toNat ≤ 122 by omega
    rw [lower] at other
    cases other
  · exact same

theorem unmarked_scheme {text scheme rest : Text} (read : scheme? text = some (scheme, rest)) : Unmarked scheme := by
  unfold scheme? at read
  split at read
  · split at read
    · split at read
      · cases read
        intro c member
        obtain ⟨d, inside, lower⟩ := List.mem_map.mp member
        have scheme := List.mem_takeWhile_imp inside
        refine isMark_eq_false_iff.mpr ⟨?_, ?_⟩ <;>
        · rintro rfl
          obtain rfl := eq_of_toLower_eq lower rfl
          cases scheme
      · cases read
    · cases read
  · cases read

/-- What is written of a url in front of its query. -/
def front (url : Url) : Text := ({ url with query? := none, fragment? := none } : Url).text

/-- Marks stand only where they are meant. -/
structure Marked (url : Url) : Prop where
  front : Unmarked url.front
  query : ∀ query, url.query? = some query → '#' ∉ query

theorem ensures_ofText (text : Text) : Ensures (ofText text) Marked := by
  unfold ofText
  split
  · exact fun _ same => nomatch same
  next scheme rest read =>
  have hierarchy : Unmarked (Text.cutAt '?' (Text.cutAt '#' rest).1).1 := by
    intro c member
    refine isMark_eq_false_iff.mpr ⟨?_, ?_⟩
    · rintro rfl
      exact Text.not_mem_cutAt _ _ member
    · rintro rfl
      exact Text.not_mem_cutAt _ _ (Text.cutAt_subset _ _ member)
  refine (ensures_readHierarchy hierarchy).bind fun (authority?, path) unmarked => Ensures.pure ⟨?_, ?_⟩
  · simp only [front, Url.text, List.append_nil, Unmarked.append_iff, Unmarked.cons_iff]
    refine ⟨⟨unmarked_scheme read, rfl, ?_⟩, unmarked.2 _⟩
    cases authority? with
    | none => exact Unmarked.nil
    | some authority =>
      exact Unmarked.cons_iff.mpr ⟨rfl, Unmarked.cons_iff.mpr ⟨rfl, unmarked.1 _ rfl⟩⟩
  · intro query same member
    obtain ⟨written, -, rfl⟩ := Option.map_eq_some_iff.mp same
    rcases Percent.mem_encode member with ⟨-, outside⟩ | percent | alphanum
    · simp [isEncodedInQuery] at outside
    · cases percent
    · cases alphanum

/-! ## Parts of a text -/

/-- A text cut at its marks: what stands in front of the query, the query and the fragment. -/
def cutAtMarks (text : Text) : Text × Option Text × Option Text :=
  let (rest, fragment?) := Text.cutAt '#' text
  let (front, query?) := Text.cutAt '?' rest
  (front, query?, fragment?)

/-- A part of a text behind its mark, if there is one. -/
def behind (mark : Char) (part? : Option Text) : Text :=
  match part? with
  | some part => mark :: part
  | none => []

theorem cutAt_behind {mark : Char} {text : Text} (free : mark ∉ text) (part? : Option Text) :
    Text.cutAt mark (text ++ behind mark part?) = (text, part?) := by
  cases part? with
  | none => rw [behind, List.append_nil, Text.cutAt_of_not_mem free]
  | some part => exact Text.cutAt_append_cons free part

theorem text_eq (url : Url) : url.text = url.front ++ behind '?' url.query? ++ behind '#' url.fragment? := by
  simp only [front, Url.text, List.append_nil]
  rfl

/-- The text of a url is cut into what the url is made of. -/
theorem Marked.cutAtMarks_text {url : Url} (marked : url.Marked) :
    cutAtMarks url.text = (url.front, url.query?, url.fragment?) := by
  have question := marked.front.not_mem.1
  have hash : '#' ∉ url.front ++ behind '?' url.query? := by
    rw [List.mem_append, not_or]
    refine ⟨marked.front.not_mem.2, ?_⟩
    cases query : url.query? with
    | none => simp [behind]
    | some text => simpa [behind] using marked.query text query
  rw [cutAtMarks, text_eq, cutAt_behind hash]
  simp only [cutAt_behind question]

end Url

end BulkSql
