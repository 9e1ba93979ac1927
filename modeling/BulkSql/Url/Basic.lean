import BulkSql.Url.Host

/-! # Urls

A url is read from a text, may have its query changed, and is written again. Reading trims blanks, drops tabs and
line breaks, resolves dots in paths and encodes characters that may not stand where they are; so a url that was read
is written in one form only.
-/

namespace BulkSql

/-- Who is asked, and as whom. -/
structure Authority where
  user : Text
  password : Text
  host : Text
  portNumber? : Option Nat
deriving DecidableEq, Repr

inductive UrlPath where
  /-- a path that does not start with a slash -/
  | rootless (text : Text)
  /-- the parts behind each slash -/
  | rooted (segments : List Text)
deriving DecidableEq, Repr

structure Url where
  scheme : Text
  authority? : Option Authority
  path : UrlPath
  query? : Option Text
  fragment? : Option Text
deriving DecidableEq, Repr

namespace Url

/-! ## Characters that are encoded, by their place -/

def isEncodedInFragment (c : Char) : Bool :=
  Host.isControl c || c == ' ' || c == '"' || c == '<' || c == '>' || c == '`'

def isEncodedInPath (c : Char) : Bool :=
  isEncodedInFragment c || c == '#' || c == '?' || c == '\x7b' || c == '\x7d'

def isEncodedInUser (c : Char) : Bool :=
  isEncodedInPath c || c == '/' || c == ':' || c == ';' || c == '=' || c == '@' || c == '[' || c == '\\' ||
    c == ']' || c == '^' || c == '|'

def isEncodedInQuery (scheme : SchemeClass) (c : Char) : Bool :=
  Host.isControl c || c == ' ' || c == '"' || c == '#' || c == '<' || c == '>' || (scheme.isSpecial && c == '\'')

/-! ## Writing -/

def authorityText (authority : Authority) : Text :=
  let password := if authority.password.isEmpty then [] else ':' :: authority.password
  let credentials := authority.user ++ password
  let port : Text := match authority.portNumber? with
    | some n => ':' :: Text.ofNat n
    | none => []
  (if credentials.isEmpty then [] else credentials ++ ['@']) ++ authority.host ++ port

/-- A path without an authority before it must not start with two slashes. -/
def pathText (hasAuthority : Bool) : UrlPath → Text
  | .rootless text => text
  | .rooted segments =>
    let written := segments.flatMap fun segment => '/' :: segment
    match segments with
    | [] :: _ :: _ => if hasAuthority then written else '/' :: '.' :: written
    | _ => written

def text (url : Url) : Text :=
  let authority : Text := match url.authority? with
    | some authority => '/' :: '/' :: authorityText authority
    | none => []
  let query : Text := match url.query? with
    | some query => '?' :: query
    | none => []
  let fragment : Text := match url.fragment? with
    | some fragment => '#' :: fragment
    | none => []
  url.scheme ++ ':' :: authority ++ pathText url.authority?.isSome url.path ++ query ++ fragment

/-! ## Reading -/

/-- The text without controls and spaces at its ends, and without tabs and line breaks anywhere. -/
def cleaned (text : Text) : Text :=
  let isOuter (c : Char) : Bool := decide (c.toNat ≤ 0x20)
  let trimmed := ((text.dropWhile isOuter).reverse.dropWhile isOuter).reverse
  trimmed.filter fun c => !(c == '\t' || c == '\n' || c == '\r')

def isSchemeChar (c : Char) : Bool := c.isAlphanum || c == '+' || c == '-' || c == '.'

/-- The scheme in lower case and what follows its colon. -/
def scheme? (text : Text) : Option (Text × Text) :=
  match text with
  | c :: _ =>
    if c.isAlpha then
      match text.dropWhile isSchemeChar with
      | ':' :: rest => some (Text.lowerCase (text.takeWhile isSchemeChar), rest)
      | _ => none
    else none
  | [] => none

/-- What stands before the last at sign, if there is one, and what stands behind it. -/
def splitCredentials (authority : Text) : Option Text × Text :=
  if '@' ∈ authority then
    let behind := authority.reverse.takeWhile (· != '@')
    (some (authority.take (authority.length - behind.length - 1)), behind.reverse)
  else (none, authority)

/-- The host at the start of a text: it ends at a colon outside brackets. -/
def takeHost : (inBrackets : Bool) → Text → Text × Text
  | _, [] => ([], [])
  | inBrackets, c :: rest =>
    if c = ':' ∧ !inBrackets then ([], c :: rest)
    else
      let inside := if c = '[' then true else if c = ']' then false else inBrackets
      let (host, after) := takeHost inside rest
      (c :: host, after)

/-- The port behind the colon, and what follows it. No digits, and the standard port, are no port. -/
def readPort (standard? : Option Nat) (text : Text) : Except UrlError (Option Nat × Text) :=
  let digits := text.takeWhile Char.isDigit
  let rest := text.dropWhile Char.isDigit
  let ends := match rest with
    | [] | '\\' :: _ => true
    | _ => false
  match Text.number? digits with
  | none => if ends then .ok (none, rest) else .error .invalidPort
  | some n =>
    if 65535 < n || !ends then .error .invalidPort
    else .ok (if standard? = some n then none else some n, rest)

/-- The authority in a text up to the next slash, and what of it belongs to the path. A text is followed by more if
a slash, a query or a fragment stands behind it. -/
def readAuthority (scheme : SchemeClass) (followed : Bool) (text : Text) :
    Except UrlError (Authority × Text) := do
  let (credentials?, behind) := splitCredentials text
  if credentials? = some [] && behind.isEmpty && followed then throw .emptyHost
  let (user, password?) := Text.cutAt ':' (credentials?.getD [])
  let user := Percent.encode isEncodedInUser user
  let password := Percent.encode isEncodedInUser (password?.getD [])
  let (written, after) := takeHost false behind
  if scheme.isSpecial && written.isEmpty then throw .emptyHost
  let host ← if scheme.isSpecial then Host.readDomain written else Host.readOther written
  if host.isEmpty && !after.isEmpty then throw .emptyHost
  let standard? := match scheme with
    | .special standard => some standard
    | _ => none
  let (portNumber?, rest) ← readPort standard? (after.drop 1)
  if host.isEmpty && !(user.isEmpty && password.isEmpty) then throw .emptyHost
  pure ({ user, password, host, portNumber? }, rest)

/-- Part of a path that stands for the part before it. -/
def isDoubleDot (segment : Text) : Bool :=
  ["..", ".%2e", "%2e.", "%2e%2e"].contains (String.ofList (Text.lowerCase segment))

/-- Part of a path that stands for nothing. -/
def isSingleDot (segment : Text) : Bool := [".", "%2e"].contains (String.ofList (Text.lowerCase segment))

/-- A letter with a colon or a bar behind it names a drive. -/
def isDrive : Text → Bool
  | [letter, mark] => letter.isAlpha && (mark == ':' || mark == '|')
  | _ => false

/-- A part that starts with a drive: what follows the drive is nothing or a backslash. -/
def startsWithDrive (segment : Text) : Bool :=
  isDrive (segment.take 2) && (match segment.drop 2 with
    | [] | '\\' :: _ => true
    | _ => false)

/-- The path one part up. No path goes up from a drive. -/
def parent (path : List Text) : List Text :=
  if path.getLast?.any startsWithDrive then path else path.dropLast

/-- Add parts to a path. Dots at the end leave an empty part. -/
def resolve (path : List Text) : List Text → List Text
  | [] => path
  | segment :: more =>
    let atEnd : List Text := if more.isEmpty then [[]] else []
    if isDoubleDot segment then resolve (parent path ++ atEnd) more
    else if isSingleDot segment then resolve (path ++ atEnd) more
    else resolve (path ++ [Percent.encode isEncodedInPath segment]) more

/-- The parts of a path between its slashes. -/
def splitPath (scheme : SchemeClass) (text : Text) : List Text :=
  Text.split '/' (text.map fun c => if scheme.isSlash c then '/' else c)

/-- A text without the slash in front. -/
def afterSlash (scheme : SchemeClass) : Text → Text
  | [] => []
  | c :: rest => if scheme.isSlash c then rest else c :: rest

/-- The path behind an authority. -/
def readPath (scheme : SchemeClass) (text : Text) : UrlPath :=
  if text.isEmpty && !scheme.isSpecial then .rooted []
  else .rooted (resolve [] (splitPath scheme (afterSlash scheme text)))

/-- Host and path of a file. A path that starts at a drive has no host, and its drive is written with a colon;
elsewhere slashes in front count once. -/
def filePath (host : Text) (segments : List Text) : Text × UrlPath :=
  match resolve [] segments with
  | [] => (host, .rooted [[]])
  | first :: more =>
    if isDrive first then ([], .rooted ((first.take 1 ++ [':']) :: more))
    else
      match (first :: more).dropWhile (·.isEmpty) with
      | [] => (host, .rooted [[]])
      | named => (host, .rooted named)

/-- Host and path of a file. The local host has no name, and a drive is no host. -/
def readFileLocation (text : Text) : Except UrlError (Text × UrlPath) :=
  let isSlash := SchemeClass.file.isSlash
  match text with
  | a :: b :: rest =>
    if isSlash a && isSlash b then
      let written := rest.takeWhile (!isSlash ·)
      if isDrive written then .ok (filePath [] (splitPath .file rest))
      else do
        let host ← if written.isEmpty then pure [] else Host.readDomain written
        let path := rest.drop written.length
        -- without a host the slash in front of the path is an empty part
        if host.isEmpty || host = "localhost".toList then pure (filePath [] (splitPath .file path))
        else pure (filePath host (splitPath .file (afterSlash .file path)))
    else .ok (filePath [] (splitPath .file (afterSlash .file text)))
  | _ => .ok (filePath [] (splitPath .file (afterSlash .file text)))

/-- Authority and path of a file. -/
def readFile (text : Text) : Except UrlError (Option Authority × UrlPath) :=
  (readFileLocation text).map fun (host, path) => (some { user := [], password := [], host, portNumber? := none }, path)

/-- Authority and path of a text without query and fragment. -/
def readHierarchy (scheme : SchemeClass) (followed : Bool) (text : Text) :
    Except UrlError (Option Authority × UrlPath) := do
  let withAuthority (behind : Text) : Except UrlError (Option Authority × UrlPath) := do
    let written := behind.takeWhile fun c => !scheme.isSlash c
    let path := behind.drop written.length
    let (authority, rest) ← readAuthority scheme (followed || !path.isEmpty) written
    pure (some authority, readPath scheme (rest ++ path))
  match scheme, text with
  | .file, _ => readFile text
  | .special _, _ => withAuthority (text.dropWhile scheme.isSlash)
  | .other, '/' :: '/' :: behind => withAuthority behind
  | .other, '/' :: behind => pure (none, .rooted (resolve [] (splitPath .other behind)))
  | .other, _ => pure (none, .rootless (Percent.encode Host.isControl text))

/-- Read a text as a url that stands on its own. -/
def ofText (text : Text) : Except UrlError Url := do
  match scheme? (cleaned text) with
  | none => throw .relativeWithoutBase
  | some (scheme, rest) =>
    let sort := SchemeClass.ofScheme scheme
    let (rest, fragment?) := Text.cutAt '#' rest
    let (rest, query?) := Text.cutAt '?' rest
    let (authority?, path) ← readHierarchy sort (query?.isSome || fragment?.isSome) rest
    pure {
      scheme, authority?, path
      query? := query?.map (Percent.encode (isEncodedInQuery sort))
      fragment? := fragment?.map (Percent.encode isEncodedInFragment) }

/-! ## Queries -/

/-- The pairs of the query, read as a web form. -/
def queryPairs (url : Url) : Form := Form.decode (url.query?.getD [])

/-- The url with pairs for its query. -/
def withQueryPairs (url : Url) (pairs : Form) : Url := { url with query? := some (Form.encode pairs) }

/-- A path that is followed by nothing and has no slash in front loses the spaces at its end. -/
def trimmedPath (path : UrlPath) (fragment? : Option Text) : UrlPath :=
  match path, fragment? with
  | .rootless text, none => .rootless (text.reverse.dropWhile (· == ' ')).reverse
  | path, _ => path

/-- The url without a query. -/
def withoutQuery (url : Url) : Url := { url with query? := none, path := trimmedPath url.path url.fragment? }

end Url

end BulkSql
