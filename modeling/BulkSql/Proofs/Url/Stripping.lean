import BulkSql.Postgres.ConnectionString
import BulkSql.Proofs.Url.Marks
import Mathlib.Data.List.Forall2

/-! # What is left of a query

A connection url that loses its settings keeps the pairs of its other options, and all of it but the query. The options
are written anew, so that a client that is no reader of web forms finds a plus sign wherever a space was meant; it finds
what it found before in options without spaces only.
-/

namespace BulkSql

namespace ConnectionOptions

/-- A pair at the end of a query, or with more behind it. -/
theorem queryPairs_pair {key value : Text} (keyFree : '=' ∉ key) (valueFree : '&' ∉ value) (more? : Option Text) :
    queryPairs (key ++ '=' :: (value ++ Url.behind '&' more?)) =
      (key, some value) :: (more?.map queryPairs).getD [] := by
  have query : (key ++ '=' :: (value ++ Url.behind '&' more?)).isEmpty = false := by simp
  have first := Text.cutAt_append_cons keyFree (value ++ Url.behind '&' more?)
  have second := Url.cutAt_behind valueFree more?
  rw [queryPairs, query]
  cases more? with
  | none => grind
  | some more => grind

/-- A client cuts a form where it was joined. -/
theorem queryPairs_encode (form : Form) :
    queryPairs (Form.encode form) =
      form.map fun pair => (Form.encodePart pair.1, some (Form.encodePart pair.2)) := by
  induction form with
  | nil => rw [queryPairs]; rfl
  | cons pair more ih =>
    have here := queryPairs_pair (Form.equals_not_mem_encodePart pair.1) (Form.ampersand_not_mem_encodePart pair.2)
    cases more with
    | nil =>
      have last := here none
      rw [Url.behind, List.append_nil] at last
      rw [Form.encode_singleton, Form.encodePair, last]
      rfl
    | cons next more =>
      have whole : Form.encode (pair :: next :: more) =
          Form.encodePart pair.1 ++
            '=' :: (Form.encodePart pair.2 ++ Url.behind '&' (some (Form.encode (next :: more)))) := by
        rw [Form.encode_cons_cons, Form.encodePair, List.append_assoc]
        rfl
      rw [whole, here, Option.map_some, Option.getD_some, ih]
      rfl

end ConnectionOptions

namespace Settings

/-- A part of a query that is no setting. -/
def isForeign (segment : Text) : Bool := (Setting.ofKey? (Form.decodePair segment).1).isNone

/-- The parts of a query that are no settings, as they stand in the url. -/
def foreignSegments (url : Url) : List Text := (Text.split '&' (url.query?.getD [])).filter isForeign

/-- The options that are no settings, as a form means them. -/
def foreignPairs (url : Url) : Form := url.queryPairs.filter fun pair => (Setting.ofKey? pair.1).isNone

theorem foreignPairs_eq (url : Url) :
    foreignPairs url = ((foreignSegments url).filter (!·.isEmpty)).map Form.decodePair := by
  rw [foreignPairs, foreignSegments, Url.queryPairs, Form.decode, List.filter_map, List.filter_filter,
    List.filter_filter]
  congr 2
  funext segment
  exact Bool.and_comm _ _

theorem ampersand_not_mem_foreignSegments {url : Url} : ∀ segment ∈ foreignSegments url, '&' ∉ segment :=
  fun _ member => Text.not_mem_of_mem_split (List.mem_of_mem_filter member)

/-- Nothing is written otherwise than it stood exactly if all that is left was written as a form writes it. -/
theorem encode_foreignPairs_eq_iff {url : Url} (foreign : foreignPairs url ≠ []) :
    Form.encode (foreignPairs url) = Text.join ['&'] (foreignSegments url) ↔
      ∀ segment ∈ foreignSegments url, ∃ pair, segment = Form.encodePair pair := by
  have some_ : foreignSegments url ≠ [] := by
    intro none_
    rw [foreignPairs_eq, none_] at foreign
    exact foreign rfl
  constructor
  · intro same segment member
    have parts := congrArg (Text.split '&') same
    rw [Form.split_encode foreign, Text.split_join some_ ampersand_not_mem_foreignSegments] at parts
    rw [← parts] at member
    obtain ⟨pair, -, written⟩ := List.mem_map.mp member
    exact ⟨pair, written.symm⟩
  · intro each
    have whole : (foreignSegments url).filter (!·.isEmpty) = foreignSegments url := by
      refine List.filter_eq_self.mpr fun segment member => ?_
      obtain ⟨pair, rfl⟩ := each segment member
      simpa using Form.encodePair_ne_nil pair
    have again : (foreignSegments url).map (fun segment => Form.encodePair (Form.decodePair segment)) =
        foreignSegments url := by
      refine (List.map_congr_left fun segment member => ?_).trans (List.map_id _)
      obtain ⟨pair, rfl⟩ := each segment member
      rw [Form.decodePair_encodePair]
      rfl
    rw [Form.encode_eq, foreignPairs_eq, whole, List.map_map]
    exact congrArg (Text.join ['&']) again

/-- What a client that reads percent signs only finds where a part of a query stood. -/
structure FoundAs (part written : Text) : Prop where
  found : Percent.decode written = Utf8.encode (Form.withPluses (Utf8.decodeLenient (Percent.decode part)))
  same_iff : Percent.decode written = Percent.decode part ↔
    ∃ text, Percent.decode part = Utf8.encode text ∧ ' ' ∉ text

/-- A pair of a client stands where a part of a query stood. -/
def PairFoundAs (segment : Text) (pair : Text × Option Text) : Prop :=
  FoundAs (Form.keyOf segment) pair.1 ∧ ∃ value, pair.2 = some value ∧ FoundAs (Form.valueOf segment) value

theorem foundAs_rewritten (part : Text) : FoundAs part (Form.encodePart (Form.decodePart part)) :=
  ⟨Form.percentDecode_rewritten part, Form.percentDecode_rewritten_eq_iff⟩

/-- A client finds the parts one for one, but for empty ones. -/
theorem pairs_foundAs (url : Url) :
    List.Forall₂ PairFoundAs ((foreignSegments url).filter (!·.isEmpty))
      (ConnectionOptions.queryPairs (Form.encode (foreignPairs url))) := by
  rw [ConnectionOptions.queryPairs_encode, foreignPairs_eq, List.map_map, List.forall₂_map_right_iff]
  refine List.forall₂_same.mpr fun segment _ => ?_
  exact ⟨foundAs_rewritten _, _, rfl, foundAs_rewritten _⟩

theorem unmarked_encode (form : Form) : Unmarked (Form.encode form) := by
  have part : ∀ text, Unmarked (Form.encodePart text) := by
    intro text c member
    refine isMark_eq_false_iff.mpr ⟨?_, ?_⟩ <;>
    · rintro rfl
      exact Form.not_mem_encodePart text rfl (by decide) (by decide) member
  refine Unmarked.join rfl fun text member => ?_
  obtain ⟨pair, -, rfl⟩ := List.mem_map.mp member
  exact Unmarked.append_iff.mpr ⟨part _, Unmarked.cons_iff.mpr ⟨rfl, part _⟩⟩

theorem strip_eq {dsn : Text} {url : Url} (read : readUrl dsn = .ok url) (foreign : foreignPairs url ≠ []) :
    strip dsn = .ok (url.withQueryPairs (foreignPairs url)).text := by
  unfold strip
  simp only [read, bind, Except.bind]
  split
  · next none_ => exact absurd none_ foreign
  · rfl

theorem marked_of_readUrl {dsn : Text} {url : Url} (read : readUrl dsn = .ok url) : url.Marked := by
  unfold readUrl at read
  cases found : Url.ofText dsn with
  | error => rw [found] at read; cases read
  | ok url' =>
    rw [found] at read
    cases read
    exact Url.ensures_ofText dsn url found

/-- How a url with options that are no settings is stripped of the settings. -/
structure Strips (dsn : Text) (url : Url) (stripped query : Text) : Prop where
  answer : strip dsn = .ok stripped
  /-- all but the query is kept -/
  elsewhere : stripped = ({ url with query? := some query } : Url).text
  cut : Url.cutAtMarks stripped = (url.front, some query, url.fragment?)
  /-- the query means the other options in their order -/
  options : Form.decode query = foreignPairs url
  kept_iff : query = Text.join ['&'] (foreignSegments url) ↔
    ∀ segment ∈ foreignSegments url, ∃ pair, segment = Form.encodePair pair
  client : List.Forall₂ PairFoundAs ((foreignSegments url).filter (!·.isEmpty)) (ConnectionOptions.queryPairs query)

/-- The url `postgresql://localhost/db` with a query. -/
def localUrl (query : Text) : Url where
  scheme := "postgresql"
  authority? := some { user := [], password := [], host := "localhost", portNumber? := none }
  path := .rooted ["db"]
  query? := some query
  fragment? := none

/-- Settings are taken out of a url with other options. What is left is the query without the settings exactly if each
of the other options stood as a form writes it. A client that reads percent signs only finds each key and value with
plus signs in the place of spaces, so it finds them as they were exactly if they were texts without spaces. -/
theorem strip_rewrites_query {dsn : Text} {url : Url} (read : readUrl dsn = .ok url) (foreign : foreignPairs url ≠ []) :
    ∃ stripped query, Strips dsn url stripped query := by
  have marked : (url.withQueryPairs (foreignPairs url)).Marked := by
    refine ⟨(marked_of_readUrl read).front, fun query same => ?_⟩
    obtain rfl := Option.some.inj same
    exact (unmarked_encode _).not_mem.2
  exact ⟨_, Form.encode (foreignPairs url), {
    answer := strip_eq read foreign
    elsewhere := rfl
    cut := marked.cutAtMarks_text
    options := Form.decode_encode _
    kept_iff := encode_foreignPairs_eq_iff foreign
    client := pairs_foundAs url }⟩

theorem strip_rewrites_query_one_option :
    (readUrl "postgresql://localhost/db?rewriteBatchedInserts=0&sslmode=disable" =
        .ok (localUrl "rewriteBatchedInserts=0&sslmode=disable") ∧
      foreignPairs (localUrl "rewriteBatchedInserts=0&sslmode=disable") ≠ []) ∧
    ∃ stripped query, Strips "postgresql://localhost/db?rewriteBatchedInserts=0&sslmode=disable"
      (localUrl "rewriteBatchedInserts=0&sslmode=disable") stripped query :=
  ⟨⟨rfl, by decide +kernel⟩, strip_rewrites_query rfl (by decide +kernel)⟩

/-- An escaped space is written as a plus sign, which a client reads as a plus sign. -/
theorem strip_rewrites_escaped_space :
    foreignSegments (localUrl "options=-c%20geqo%3Doff") = ["options=-c%20geqo%3Doff".toList] ∧
      readUrl "postgresql://localhost/db?options=-c%20geqo%3Doff" = .ok (localUrl "options=-c%20geqo%3Doff") ∧
      strip "postgresql://localhost/db?options=-c%20geqo%3Doff" =
        .ok "postgresql://localhost/db?options=-c+geqo%3Doff" ∧
      ConnectionOptions.decodeText "-c%20geqo%3Doff" = .ok "-c geqo=off" ∧
      ConnectionOptions.decodeText "-c+geqo%3Doff" = .ok "-c+geqo=off" :=
  ⟨by decide +kernel, by decide +kernel, by decide +kernel, by decide +kernel, by decide +kernel⟩

end Settings

end BulkSql
