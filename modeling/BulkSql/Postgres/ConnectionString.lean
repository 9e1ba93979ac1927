import BulkSql.Postgres.ConnectionOptions
import BulkSql.Settings
import BulkSql.Text.Blank

/-! # Connection strings

Connection options are written as a url of the scheme postgres or postgresql, or as pairs of keys and values with
blanks between them. Both are read from left to right, and the first fault is reported.
-/

namespace BulkSql

namespace ConnectionOptions

/-! ## The url form -/

def decodeText (text : Text) : Except ConnectionStringError Text :=
  (Utf8.decode (Percent.decode text)).mapError .notUtf8

/-- The options with one more host. The path of a socket starts with a slash and need not be text. -/
def addHost (options : ConnectionOptions) (written : Text) : Except ConnectionStringError ConnectionOptions :=
  let bytes := Percent.decode written
  let extended := { options with hosts := options.hosts ++ [bytes] }
  if bytes.head? = some 0x2f then .ok extended
  else
    match Utf8.decode bytes with
    | .ok _ => .ok extended
    | .error refusal => .error (.notUtf8 refusal)

/-- A host and the port behind its colon. An address in brackets has colons of its own. -/
def splitHost (written : Text) : Except ConnectionStringError (Text × Option Text) :=
  match written with
  | '[' :: rest =>
    match Text.cutAt ']' rest with
    | (_, none) => .error (.invalidValue "host")
    | (host, some []) => .ok (host, none)
    | (host, some (':' :: port)) => .ok (host, some port)
    | _ => .error (.invalidValue "host")
  | _ => .ok (Text.cutAt ':' written)

def addHosts (options : ConnectionOptions) : List Text → Except ConnectionStringError ConnectionOptions
  | [] => .ok options
  | written :: more => do
    let (host, port?) ← splitHost written
    let options ← options.addHost host
    let port ← decodeText (port?.getD "5432")
    let options ← options.add "port" port
    options.addHosts more

theorem length_cutAt_lt {mark : Char} {text before behind : Text} (h : Text.cutAt mark text = (before, some behind)) :
    behind.length < text.length := by
  unfold Text.cutAt at h
  split at h
  · cases h
  · next found =>
    cases h
    have whole := congrArg List.length (List.takeWhile_append_dropWhile (p := (· != mark)) (l := text))
    rw [found] at whole
    simp at whole
    omega

/-- The pairs of a query. A key goes up to the next equals sign, its value to the next ampersand; a key without an
equals sign has no value. -/
def queryPairs (query : Text) : List (Text × Option Text) :=
  if query.isEmpty then []
  else
    match _ : Text.cutAt '=' query with
    | (key, none) => [(key, none)]
    | (key, some rest) =>
      match _ : Text.cutAt '&' rest with
      | (value, none) => [(key, some value)]
      | (value, some more) => (key, some value) :: queryPairs more
termination_by query.length
decreasing_by
  have first := length_cutAt_lt ‹Text.cutAt '=' query = _›
  have second := length_cutAt_lt ‹Text.cutAt '&' rest = _›
  omega

def addPairs (options : ConnectionOptions) :
    List (Text × Option Text) → Except ConnectionStringError ConnectionOptions
  | [] => .ok options
  | (_, none) :: _ => .error .unterminatedParameter
  | (key, some value) :: pairs => do
    let key ← decodeText key
    let options ← if key = "host".toList then options.addHost value else do options.add key (← decodeText value)
    options.addPairs pairs

/-- The options in a url behind its scheme: credentials before the first at sign, hosts, the name of a database, and
more options. -/
def ofLocation (location : Text) : Except ConnectionStringError ConnectionOptions := do
  let location ← match Text.cutAt '@' location with
    | (_, none) => pure location
    | (credentials, some behind) =>
      let _ ← decodeText (Text.cutAt ':' credentials).1
      pure behind
  let isEnd (c : Char) : Bool := c == '/' || c == '?'
  let hosts := location.takeWhile (!isEnd ·)
  let options ← if hosts.isEmpty then pure {} else addHosts {} (Text.split ',' hosts)
  let (database, query?) := Text.cutAt '?' (location.dropWhile (!isEnd ·))
  let _ ← decodeText (database.drop 1)
  options.addPairs (queryPairs (query?.getD []))

/-- What stands behind the scheme of a url that is one of Postgres. -/
def location? (text : Text) : Option Text :=
  (Text.after? "postgres://" text).or (Text.after? "postgresql://" text)

/-! ## Keys and values -/

/-- A value up to its closing quote, and the text behind the quote. A backslash takes the next character as it is. -/
def quotedValue : Text → Except ConnectionStringError (Text × Text)
  | [] => .error .unterminatedQuote
  | '\'' :: rest => .ok ([], rest)
  | '\\' :: c :: rest => (quotedValue rest).map fun (value, behind) => (c :: value, behind)
  | ['\\'] => .error .unterminatedQuote
  | c :: rest => (quotedValue rest).map fun (value, behind) => (c :: value, behind)

/-- A value up to the next blank. A backslash takes the next character as it is. -/
def plainValue : Text → Text × Text
  | [] => ([], [])
  | '\\' :: c :: rest =>
    let (value, behind) := plainValue rest
    (c :: value, behind)
  | ['\\'] => ([], [])
  | c :: rest =>
    if isBlank c then ([], c :: rest)
    else
      let (value, behind) := plainValue rest
      (c :: value, behind)

def readValue (text : Text) : Except ConnectionStringError (Text × Text) :=
  match text with
  | '\'' :: rest => quotedValue rest
  | _ =>
    match plainValue text with
    | ([], _) => .error .unexpectedEnd
    | found => .ok found

theorem length_quotedValue_le {text value behind : Text} (h : quotedValue text = .ok (value, behind)) :
    behind.length ≤ text.length := by
  fun_induction quotedValue text generalizing value behind with
  | case1 => cases h
  | case2 rest => cases h; simp
  | case4 => cases h
  | case3 c rest ih | case5 c rest _ _ _ ih =>
    match more : quotedValue rest with
    | .error error => rw [more] at h; cases h
    | .ok (value', behind') =>
      rw [more] at h
      cases h
      have shorter := ih more
      simp
      omega

theorem length_plainValue_le (text : Text) : (plainValue text).2.length ≤ text.length := by
  fun_induction plainValue text with
  | case1 => simp
  | case3 => simp
  | case4 => simp
  | case2 c rest value behind found ih | case5 c rest _ _ _ value behind found ih =>
    rw [found] at ih
    simp at ih ⊢
    omega

theorem length_readValue_le {text value behind : Text} (h : readValue text = .ok (value, behind)) :
    behind.length ≤ text.length := by
  unfold readValue at h
  split at h
  · exact Nat.le_succ_of_le (length_quotedValue_le h)
  · split at h
    · cases h
    · have shorter := length_plainValue_le text
      rw [Except.ok.inj h] at shorter
      exact shorter

def isKeyChar (c : Char) : Bool := !(isBlank c || c == '=')

/-- The options in pairs at the end of a text. A place that no key starts at ends the pairs. -/
def ofPairs (whole : Text) (options : ConnectionOptions) (rest : Text) :
    Except ConnectionStringError ConnectionOptions :=
  let start := Text.trimStart rest
  let key := start.takeWhile isKeyChar
  if key.isEmpty then .ok options
  else
    match _ : Text.trimStart (start.dropWhile isKeyChar) with
    | [] => .error .unexpectedEnd
    | '=' :: behind =>
      match _ : readValue (Text.trimStart behind) with
      | .error error => .error error
      | .ok (value, after) => do
        let options ← options.add key value
        ofPairs whole options after
    | c :: behind => .error (.unexpectedChar (Text.offsetOf whole (c :: behind)) c '=')
termination_by rest.length
decreasing_by
  have first := length_readValue_le ‹readValue (Text.trimStart behind) = _›
  have second : (Text.trimStart behind).length ≤ behind.length := (List.dropWhile_suffix _).length_le
  have third : ('=' :: behind).length ≤ (start.dropWhile isKeyChar).length := by
    rw [← ‹Text.trimStart (start.dropWhile isKeyChar) = '=' :: behind›]
    exact (List.dropWhile_suffix _).length_le
  have fourth : (start.dropWhile isKeyChar).length ≤ start.length := (List.dropWhile_suffix _).length_le
  have fifth : start.length ≤ rest.length := (List.dropWhile_suffix _).length_le
  simp at third
  omega

/-! ## Both forms -/

def ofText (text : Text) : Except ConnectionStringError ConnectionOptions :=
  match location? text with
  | some location => ofLocation location
  | none => ofPairs text {} text

end ConnectionOptions

/-- What is read from a connection url before a connection is opened: the settings, and the options that are left for
the client. -/
def Settings.withOptions (url : Text) : Except SqlError (Settings × ConnectionOptions) := do
  let settings ← ofUrl url
  let stripped ← strip url
  let options ← (ConnectionOptions.ofText stripped).mapError fun error => .postgres (.connectionString error)
  options.check.mapError fun mismatch => .postgres (.configuration mismatch)
  pure (settings, options)

end BulkSql
