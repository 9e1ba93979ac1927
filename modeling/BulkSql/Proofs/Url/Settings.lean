import BulkSql.Proofs.Syntax.Lexemes
import BulkSql.Proofs.Url.Stripping
import Mathlib.Data.List.DropRight

/-! # Settings in a url

A setting is what the last value under its key means. All values have to be right, also those that a later one
overrides. A url that lost its settings reads as one that never had any, and has nothing more to lose.
-/

namespace BulkSql

namespace Url

/-- The text of the url is read as this very url. -/
def ReadsBack (url : Url) : Prop := ofText url.text = .ok url

theorem trimmedPath_trimmedPath (path : UrlPath) (fragment? : Option Text) :
    trimmedPath (trimmedPath path fragment?) fragment? = trimmedPath path fragment? := by
  cases path with
  | rooted segments => rfl
  | rootless text =>
    cases fragment? with
    | none => exact congrArg UrlPath.rootless (List.rdropWhile_idempotent _ _)
    | some fragment => rfl

theorem withoutQuery_withoutQuery (url : Url) : url.withoutQuery.withoutQuery = url.withoutQuery := by
  simp only [withoutQuery, trimmedPath_trimmedPath]

end Url

/-! ## Values -/

/-- What a setting is set to. -/
inductive Choice where
  | switch (on : Bool)
  | name (name : Text)
deriving DecidableEq, Repr

namespace Setting

open Reader

theorem ofKey?_eq_some_iff {key : Text} {setting : Setting} : ofKey? key = some setting ↔ key = setting.key := by
  constructor
  · intro found
    have same := List.find?_some found
    exact (beq_iff_eq.mp same).symm
  · rintro rfl
    cases setting <;> rfl

theorem ofKey?_eq_none_iff {key : Text} : ofKey? key = none ↔ ∀ setting : Setting, key ≠ setting.key := by
  simp only [Option.eq_none_iff_forall_ne_some, ne_eq, ofKey?_eq_some_iff]

def switchTexts : Bool → List Text
  | true => ["1", "true", "TRUE"]
  | false => ["0", "false", "FALSE"]

/-- What a value means for a setting: three of them are switched on and off, the other two are words that stand in
statements without quotes. -/
inductive Means : Setting → Text → Choice → Prop where
  | switch {setting : Setting} {value : Text} {on : Bool} (isSwitch : setting ∈ [inserts, upserts, updates])
    (means : value ∈ switchTexts on) : Means setting value (.switch on)
  | name {setting : Setting} {word : Text} (isName : setting ∈ [derivedName, columnStem]) (bare : IsBareWord word) :
    Means setting word (.name word)

theorem switch?_eq_some_iff {value : Text} {on : Bool} : switch? value = some on ↔ value ∈ switchTexts on := by
  unfold switch?
  split
  · next isOn =>
    obtain rfl | rfl | rfl := isOn <;> revert on <;> decide
  · next notOn =>
    split
    · next isOff =>
      obtain rfl | rfl | rfl := isOff <;> revert on <;> decide
    · next notOff =>
      cases on
      · simpa [switchTexts] using notOff
      · simpa [switchTexts] using notOn

theorem name?_eq_some_iff {value word : Text} : name? value = some word ↔ IsBareWord value ∧ word = value := by
  cases value with
  | nil =>
    constructor
    · nofun
    · rintro ⟨⟨c, more, empty, -⟩, -⟩
      cases empty
  | cons c more =>
    have bare : IsBareWord (c :: more) ↔
        ((c.isAlpha || c == '_') && more.all fun d => d.isAlphanum || d == '_') = true := by
      rw [Bool.and_eq_true, List.all_eq_true]
      exact ⟨fun ⟨_, _, same, shape⟩ => by cases same; exact shape, fun shape => ⟨c, more, rfl, shape⟩⟩
    rw [name?, bare]
    split
    · next shape => simp [shape, eq_comm]
    · next shape => simp [shape]

end Setting

namespace Settings

def choice (settings : Settings) : Setting → Choice
  | .inserts => .switch settings.inserts
  | .upserts => .switch settings.upserts
  | .updates => .switch settings.updates
  | .derivedName => .name settings.derived.name
  | .columnStem => .name settings.derived.columnStem

end Settings

namespace Setting

open Settings

/-- A value that is taken changes its own setting and no other. -/
theorem means_of_assign? {settings changed : Settings} {value : Text} {setting : Setting}
    (assigned : setting.assign? settings value = some changed) :
    setting.Means value (changed.choice setting) ∧
      ∀ other ≠ setting, changed.choice other = settings.choice other := by
  cases setting with
  | inserts | upserts | updates =>
    obtain ⟨on, means, rfl⟩ := Option.map_eq_some_iff.mp assigned
    refine ⟨.switch (by decide) (switch?_eq_some_iff.mp means), fun other isOther => ?_⟩
    cases other <;> first | rfl | exact absurd rfl isOther
  | derivedName | columnStem =>
    obtain ⟨word, means, rfl⟩ := Option.map_eq_some_iff.mp assigned
    obtain ⟨bare, rfl⟩ := name?_eq_some_iff.mp means
    refine ⟨.name (by decide) bare, fun other isOther => ?_⟩
    cases other <;> first | rfl | exact absurd rfl isOther

theorem not_means_of_assign? {settings : Settings} {value : Text} {setting : Setting}
    (refused : setting.assign? settings value = none) (choice : Choice) : ¬ setting.Means value choice := by
  rintro (⟨isSwitch, means⟩ | ⟨isName, bare⟩)
  · have read := switch?_eq_some_iff.mpr means
    cases setting with
    | inserts | upserts | updates => rw [assign?, read] at refused; cases refused
    | derivedName | columnStem => exact absurd isSwitch (by decide)
  · have read := name?_eq_some_iff.mpr ⟨bare, rfl⟩
    cases setting with
    | inserts | upserts | updates => exact absurd isName (by decide)
    | derivedName | columnStem => rw [assign?, read] at refused; cases refused

/-- The last value under the key of a setting. -/
def lastValue? (setting : Setting) (pairs : Form) : Option Text :=
  (pairs.filter (·.1 == setting.key)).getLast?.map Prod.snd

theorem lastValue?_cons_of_ne {setting : Setting} {key : Text} (other : key ≠ setting.key) (value : Text)
    (pairs : Form) : setting.lastValue? ((key, value) :: pairs) = setting.lastValue? pairs := by
  rw [lastValue?, List.filter_cons_of_neg (by simpa using other)]
  rfl

theorem lastValue?_cons_key (setting : Setting) (value : Text) (pairs : Form) :
    setting.lastValue? ((setting.key, value) :: pairs) = some ((setting.lastValue? pairs).getD value) := by
  rw [lastValue?, List.filter_cons_of_pos (by simp), List.getLast?_cons, lastValue?]
  cases (pairs.filter (·.1 == setting.key)).getLast? <;> rfl

end Setting

/-! ## Pairs in order -/

namespace Settings

open Reader

/-- A pair whose value means nothing for the setting that has its key. -/
def IsRefused (pair : Text × Text) : Prop :=
  ∃ setting : Setting, pair.1 = setting.key ∧ ∀ choice, ¬ setting.Means pair.2 choice

/-- A setting after pairs were read in order. -/
def ChosenBy (pairs : Form) (before after : Settings) (setting : Setting) : Prop :=
  match setting.lastValue? pairs with
  | none => after.choice setting = before.choice setting
  | some value => setting.Means value (after.choice setting)

theorem ChosenBy.skip {key value : Text} {pairs : Form} {before after : Settings} {setting : Setting}
    (other : key ≠ setting.key) (chosen : ChosenBy pairs before after setting) :
    ChosenBy ((key, value) :: pairs) before after setting := by
  rw [ChosenBy, Setting.lastValue?_cons_of_ne other]
  exact chosen

/-- One pair more in front: it decides its setting if no pair behind it does. -/
theorem ChosenBy.assign {value : Text} {pairs : Form} {before changed after : Settings} {assigned setting : Setting}
    (assigns : assigned.assign? before value = some changed) (chosen : ChosenBy pairs changed after setting) :
    ChosenBy ((assigned.key, value) :: pairs) before after setting := by
  obtain ⟨means, others⟩ := Setting.means_of_assign? assigns
  by_cases same : setting = assigned
  · subst same
    rw [ChosenBy, Setting.lastValue?_cons_key]
    rw [ChosenBy] at chosen
    cases last : setting.lastValue? pairs with
    | none =>
      rw [last] at chosen
      change setting.Means value (after.choice setting)
      rw [chosen]
      exact means
    | some found =>
      rw [last] at chosen
      exact chosen
  · have other : assigned.key ≠ setting.key := fun keys =>
      same (Option.some.inj ((Setting.ofKey?_eq_some_iff.mpr keys).symm.trans (Setting.ofKey?_eq_some_iff.mpr rfl)))
    rw [ChosenBy, others setting same] at chosen
    exact .skip other chosen

/-- Pairs are read without an error exactly if none of them is refused; then each setting is what its last value means,
and as it was without one. -/
theorem withPairs_spec (settings : Settings) (pairs : Form) :
    match settings.withPairs pairs with
    | .ok after => (∀ pair ∈ pairs, ¬ IsRefused pair) ∧ ∀ setting, ChosenBy pairs settings after setting
    | .error error => ∃ pair ∈ pairs, IsRefused pair ∧ error = .invalidSetting pair.1 pair.2 := by
  fun_induction withPairs settings pairs with
  | case1 settings => exact ⟨nofun, fun setting => rfl⟩
  | case2 settings key value pairs foreign ih =>
    have other := Setting.ofKey?_eq_none_iff.mp foreign
    have passed : ¬ IsRefused (key, value) := fun ⟨setting, same, _⟩ => other setting same
    split at ih
    · exact ⟨List.forall_mem_cons.mpr ⟨passed, ih.1⟩, fun setting => .skip (other setting) (ih.2 setting)⟩
    · obtain ⟨pair, member, refused⟩ := ih
      exact ⟨pair, .tail _ member, refused⟩
  | case3 settings key value pairs setting found refused =>
    obtain rfl := Setting.ofKey?_eq_some_iff.mp found
    exact ⟨_, .head _, ⟨setting, rfl, Setting.not_means_of_assign? refused⟩, rfl⟩
  | case4 settings key value pairs assigned found changed assigns ih =>
    obtain rfl := Setting.ofKey?_eq_some_iff.mp found
    have passed : ¬ IsRefused (assigned.key, value) := by
      rintro ⟨setting, same, silent⟩
      obtain rfl := Option.some.inj (found.symm.trans (Setting.ofKey?_eq_some_iff.mpr same))
      exact silent _ (Setting.means_of_assign? assigns).1
    split at ih
    · exact ⟨List.forall_mem_cons.mpr ⟨passed, ih.1⟩, fun setting => .assign assigns (ih.2 setting)⟩
    · obtain ⟨pair, member, refused⟩ := ih
      exact ⟨pair, .tail _ member, refused⟩

theorem ofUrl_of_readUrl {dsn : Text} {url : Url} (read : readUrl dsn = .ok url) :
    ofUrl dsn = withPairs {} url.queryPairs := by
  rw [ofUrl, read]
  rfl

/-- How the settings in a url are read. -/
structure ReadsSettings (dsn : Text) (url : Url) : Prop where
  /-- a wrong value is refused wherever it stands -/
  refused_iff : (∃ error, ofUrl dsn = .error error) ↔ ∃ pair ∈ url.queryPairs, IsRefused pair
  chosen : ∀ settings, ofUrl dsn = .ok settings → ∀ setting, ChosenBy url.queryPairs {} settings setting

theorem readsSettings_of_readUrl {dsn : Text} {url : Url} (read : readUrl dsn = .ok url) : ReadsSettings dsn url := by
  have spec := withPairs_spec {} url.queryPairs
  rw [← ofUrl_of_readUrl read] at spec
  cases answer : ofUrl dsn with
  | ok settings =>
    rw [answer] at spec
    obtain ⟨passed, chosen⟩ := spec
    refine ⟨⟨fun ⟨error, failed⟩ => ?_, fun ⟨pair, member, refused⟩ => absurd refused (passed pair member)⟩, ?_⟩
    · cases answer.symm.trans failed
    · rintro found same
      cases answer.symm.trans same
      exact chosen
  | error error =>
    rw [answer] at spec
    obtain ⟨pair, member, refused, -⟩ := spec
    refine ⟨⟨fun _ => ⟨pair, member, refused⟩, fun _ => ⟨error, answer⟩⟩, fun settings found => ?_⟩
    cases answer.symm.trans found

/-- Names that are taken from a url stand in statements without quotes, as the default ones do. -/
theorem isBareWord_of_choice {dsn : Text} {settings : Settings} (accepted : ofUrl dsn = .ok settings)
    {setting : Setting} {word : Text} (named : settings.choice setting = .name word) : IsBareWord word := by
  cases read : readUrl dsn with
  | error error =>
    rw [ofUrl, read] at accepted
    cases accepted
  | ok url =>
    have chosen := (readsSettings_of_readUrl read).chosen settings accepted setting
    rw [ChosenBy, named] at chosen
    split at chosen
    · cases setting with
      | inserts | upserts | updates => cases named
      | derivedName =>
        cases chosen
        exact ⟨'d', ['t'], rfl, rfl, List.all_eq_true.mp rfl⟩
      | columnStem =>
        cases chosen
        exact ⟨'p', [], rfl, rfl, nofun⟩
    · obtain - | ⟨-, bare⟩ := chosen
      exact bare

/-! ## Urls without settings -/

/-- A url without its settings. The options that are left are written anew. -/
def withoutSettings (url : Url) : Url :=
  match foreignPairs url with
  | [] => url.withoutQuery
  | kept => url.withQueryPairs kept

theorem strip_of_readUrl {dsn : Text} {url : Url} (read : readUrl dsn = .ok url) :
    strip dsn = .ok (withoutSettings url).text := by
  unfold strip withoutSettings
  simp only [read, bind, Except.bind]
  change (match foreignPairs url with
    | [] => pure url.withoutQuery.text
    | kept => pure (url.withQueryPairs kept).text) = _
  cases foreignPairs url <;> rfl

theorem queryPairs_withoutSettings (url : Url) : (withoutSettings url).queryPairs = foreignPairs url := by
  unfold withoutSettings
  split
  · next none_ =>
    rw [none_]
    rfl
  · exact Form.decode_encode _

theorem foreignPairs_withoutSettings (url : Url) : foreignPairs (withoutSettings url) = foreignPairs url := by
  rw [foreignPairs, queryPairs_withoutSettings]
  exact List.filter_eq_self.mpr fun pair member => (List.mem_filter.mp member).2

theorem withoutSettings_withoutSettings (url : Url) : withoutSettings (withoutSettings url) = withoutSettings url := by
  have same := foreignPairs_withoutSettings url
  cases none_ : foreignPairs url with
  | nil =>
    simp only [withoutSettings, none_] at same ⊢
    rw [same]
    exact url.withoutQuery_withoutQuery
  | cons pair pairs =>
    simp only [withoutSettings, none_] at same ⊢
    rw [same]
    rfl

/-- Pairs of other options leave all settings as they are. -/
theorem withPairs_foreignPairs (settings : Settings) (url : Url) :
    settings.withPairs (foreignPairs url) = .ok settings := by
  have foreign : ∀ pair ∈ foreignPairs url, Setting.ofKey? pair.1 = none :=
    fun pair member => Option.isNone_iff_eq_none.mp (List.mem_filter.mp member).2
  generalize foreignPairs url = pairs at foreign
  induction pairs with
  | nil => rfl
  | cons pair pairs ih =>
    obtain ⟨other, others⟩ := List.forall_mem_cons.mp foreign
    rw [withPairs, other]
    exact ih others

/-- A url as it is when its settings were taken out. -/
structure IsStripped (dsn : Text) (pairs : Form) : Prop where
  settings : ofUrl dsn = .ok {}
  strip : Settings.strip dsn = .ok dsn
  pairs : ∃ url, readUrl dsn = .ok url ∧ url.queryPairs = pairs

theorem isStripped_of_readsBack {url : Url} (readsBack : (withoutSettings url).ReadsBack) :
    IsStripped (withoutSettings url).text (foreignPairs url) := by
  have read : readUrl (withoutSettings url).text = .ok (withoutSettings url) := by
    rw [readUrl, readsBack]
    rfl
  refine ⟨?_, ?_, _, read, queryPairs_withoutSettings url⟩
  · rw [ofUrl_of_readUrl read, queryPairs_withoutSettings, withPairs_foreignPairs]
  · rw [strip_of_readUrl read, withoutSettings_withoutSettings]

/-- Settings are taken out of a url just as they are read: what is stripped has no setting left and all the other
options, wherever the url that is written is read back. A url is refused for each wrong value in it; otherwise the last
value under a key counts. -/
theorem strip_fits_ofUrl (dsn : Text) :
    (∀ stripped, strip dsn = .ok stripped →
      ∃ url, readUrl dsn = .ok url ∧ stripped = (withoutSettings url).text ∧
        ((withoutSettings url).ReadsBack → IsStripped stripped (foreignPairs url))) ∧
      ∀ url, readUrl dsn = .ok url → ReadsSettings dsn url := by
  refine ⟨fun stripped strips => ?_, fun url read => readsSettings_of_readUrl read⟩
  cases read : readUrl dsn with
  | error error =>
    rw [strip, read] at strips
    cases strips
  | ok url =>
    rw [strip_of_readUrl read] at strips
    cases strips
    exact ⟨url, rfl, rfl, isStripped_of_readsBack⟩

/-- Two names for the derived table, between two modes that are kept. -/
theorem strip_fits_ofUrl_two_modes :
    strip "postgresql://localhost/db?rewriteDerivedAlias=a&sslmode=disable&rewriteDerivedAlias=b&sslmode=prefer" =
        .ok "postgresql://localhost/db?sslmode=disable&sslmode=prefer" ∧
      (localUrl "sslmode=disable&sslmode=prefer").ReadsBack ∧
      IsStripped "postgresql://localhost/db?sslmode=disable&sslmode=prefer"
        [("sslmode", "disable"), ("sslmode", "prefer")] := by
  have read : readUrl
      "postgresql://localhost/db?rewriteDerivedAlias=a&sslmode=disable&rewriteDerivedAlias=b&sslmode=prefer" =
        .ok (localUrl "rewriteDerivedAlias=a&sslmode=disable&rewriteDerivedAlias=b&sslmode=prefer") := by
    decide +kernel
  have left : withoutSettings (localUrl "rewriteDerivedAlias=a&sslmode=disable&rewriteDerivedAlias=b&sslmode=prefer") =
      localUrl "sslmode=disable&sslmode=prefer" := by decide +kernel
  have pairs : foreignPairs (localUrl "rewriteDerivedAlias=a&sslmode=disable&rewriteDerivedAlias=b&sslmode=prefer") =
      ([("sslmode", "disable"), ("sslmode", "prefer")] : List (Text × Text)) := by
    rw [← queryPairs_withoutSettings, left]
    decide +kernel
  have strips := strip_of_readUrl read
  rw [left] at strips
  have readsBack : (localUrl "sslmode=disable&sslmode=prefer").ReadsBack := rfl
  obtain ⟨url, read', -, fits⟩ := (strip_fits_ofUrl _).1 _ strips
  cases read.symm.trans read'
  rw [left, pairs] at fits
  exact ⟨strips, readsBack, fits readsBack⟩

end Settings

end BulkSql
