import BulkSql.Bulk.Form
import BulkSql.Error
import BulkSql.Url.Basic

/-! # Settings

Which kinds of statements are executed in bulk, and the names in the bulk form of an UPDATE. Settings stand in the
query of a connection url, between options that are meant for others.
-/

namespace BulkSql

structure Settings where
  inserts : Bool := true
  upserts : Bool := true
  updates : Bool := true
  derived : DerivedTable := {}
deriving DecidableEq, Repr

/-- One of the settings. -/
inductive Setting where
  | inserts | upserts | updates | derivedName | columnStem
deriving DecidableEq, Repr

namespace Setting

def all : List Setting := [inserts, upserts, updates, derivedName, columnStem]

/-- The key of the setting in a query. -/
def key : Setting → Text
  | inserts => "rewriteBatchedInserts"
  | upserts => "rewriteBatchedUpserts"
  | updates => "rewriteBatchedUpdates"
  | derivedName => "rewriteDerivedAlias"
  | columnStem => "rewriteParameterPrefix"

def ofKey? (key : Text) : Option Setting := all.find? (·.key == key)

/-- A switch is on or off. -/
def switch? (value : Text) : Option Bool :=
  if value = "1".toList ∨ value = "true".toList ∨ value = "TRUE".toList then some true
  else if value = "0".toList ∨ value = "false".toList ∨ value = "FALSE".toList then some false
  else none

/-- Names stand in statements without quotes: a letter or underscore, then letters, digits and underscores. -/
def name? : Text → Option Text
  | [] => none
  | c :: rest =>
    if (c.isAlpha || c == '_') && rest.all fun d => d.isAlphanum || d == '_' then some (c :: rest) else none

/-- The settings with one of them read from a value. -/
def assign? (settings : Settings) (value : Text) : Setting → Option Settings
  | inserts => (switch? value).map fun on => { settings with inserts := on }
  | upserts => (switch? value).map fun on => { settings with upserts := on }
  | updates => (switch? value).map fun on => { settings with updates := on }
  | derivedName => (name? value).map fun name => { settings with derived.name := name }
  | columnStem => (name? value).map fun stem => { settings with derived.columnStem := stem }

end Setting

namespace Settings

def isEnabled (settings : Settings) : StatementKind → Bool
  | .insert => settings.inserts
  | .upsert => settings.upserts
  | .update => settings.updates

/-- Settings changed by pairs in order. Pairs with other keys are passed over; the first invalid value is refused. -/
def withPairs (settings : Settings) : Form → Except SqlError Settings
  | [] => .ok settings
  | (key, value) :: pairs =>
    match Setting.ofKey? key with
    | none => settings.withPairs pairs
    | some setting =>
      match setting.assign? settings value with
      | none => .error (.invalidSetting key value)
      | some changed => changed.withPairs pairs

def readUrl (text : Text) : Except SqlError Url := (Url.ofText text).mapError .invalidUrl

/-- The settings in a connection url. -/
def ofUrl (text : Text) : Except SqlError Settings := do withPairs {} (← readUrl text).queryPairs

/-- A connection url without its settings, for clients that refuse options they do not know. The options that are
left are written anew. -/
def strip (text : Text) : Except SqlError Text := do
  let url ← readUrl text
  match url.queryPairs.filter fun (key, _) => (Setting.ofKey? key).isNone with
  | [] => pure url.withoutQuery.text
  | kept => pure (url.withQueryPairs kept).text

end Settings

end BulkSql
