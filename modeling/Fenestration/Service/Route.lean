import Fenestration.Json.Parser

/-!
# Routes of the service

What is asked for is written as a reference.  Of a reference the path counts: it is made straight,
its escapes are taken back twice, and its segments name the route.
-/

namespace Fenestration.Service

/-! ## Routes -/

inductive Product
  | calculate
  | production
  | document (name : String)
  deriving DecidableEq

inductive Route
  | health
  | product (product : Product)
  deriving DecidableEq

def Route.method : Route → String
  | .health => "GET"
  | .product _ => "POST"

/-! ## Straight paths -/

-- Adds a segment to those before it: one dot stays where it is, two dots go one segment back.
def addSegment (before : List (List Char)) (segment : List Char) : List (List Char) :=
  if segment = ['.'] then before
  else if segment = ['.', '.'] then (if before = [[]] then before else before.dropLast)
  else before ++ [segment]

def straighten (path : List Char) : List Char :=
  ['/'].intercalate ((path.splitOn '/').foldl addSegment [])

-- A path below the root: exactly one slash begins it.
def belowRoot (path : List Char) : List Char :=
  '/' :: path.dropWhile (· = '/')

/-! ## References -/

/-- What is asked for, as it is written.  Neither a query nor a fragment is part of it. -/
structure Reference where
  scheme : List Char
  authority : List Char
  path : List Char

namespace Reference

-- Whether a text can be a scheme; an empty one can.
def isScheme : List Char → Bool
  | [] => true
  | c :: rest => c.isAlpha && rest.all fun c => c.isAlphanum || c = '+' || c = '-' || c = '.'

def splitScheme (cs : List Char) : List Char × List Char :=
  match cs.dropWhile (· ≠ ':') with
  | [] => ([], cs)
  | _ :: rest =>
      let scheme := cs.takeWhile (· ≠ ':')
      if isScheme scheme then (scheme, rest) else ([], cs)

-- An authority, which two slashes begin and a slash ends, and what follows it.
def splitAuthority : List Char → List Char × List Char
  | '/' :: '/' :: rest => (rest.takeWhile (· ≠ '/'), rest.dropWhile (· ≠ '/'))
  | cs => ([], cs)

def ofText (text : String) : Reference :=
  let cs := text.toList.takeWhile fun c => c ≠ '?' && c ≠ '#'
  let (scheme, rest) := splitScheme cs
  let (authority, path) := splitAuthority rest
  ⟨scheme, authority, path⟩

-- Whether an authority names a host: more than a port follows the at sign of its user, if it has
-- one.
def namesHost (authority : List Char) : Bool :=
  match (authority.reverse.takeWhile (· ≠ '@')).reverse with
  | [] => false
  | c :: _ => c ≠ ':'

def isWhole (reference : Reference) : Bool :=
  !reference.scheme.isEmpty && namesHost reference.authority

-- Whether a reference is a bare path: it has no scheme, and its authority names neither user nor
-- host nor port.
def isBare (reference : Reference) : Bool :=
  reference.scheme.isEmpty && ["", "@", ":", "@:"].any (·.toList = reference.authority)

/-- The straight path of a reference.  A whole reference has its path as it stands, any other a path
below the root of the service; only a bare path is not straightened before. -/
def straightPath (reference : Reference) : List Char :=
  if reference.isWhole then straighten reference.path
  else if reference.isBare then straighten (belowRoot reference.path)
  else straighten (belowRoot (straighten reference.path))

def schemes : List String :=
  ["http", "https", "ws", "wss"]

def unknownScheme? (reference : Reference) : Option String :=
  let scheme := String.ofList (reference.scheme.map Char.toLower)
  if reference.isWhole && !schemes.contains scheme then some scheme else none

end Reference

/-! ## Segments -/

-- Takes back percent escapes of ASCII characters; any other escape stays as it is, since no
-- route holds one.
def unescape : List Char → List Char
  | '%' :: a :: b :: rest =>
      match Json.hexDigit? a, Json.hexDigit? b with
      | some high, some low =>
          if high < 8 then Char.ofNat (high * 16 + low) :: unescape rest
          else '%' :: a :: b :: unescape rest
      | _, _ => '%' :: unescape (a :: b :: rest)
  | c :: rest => c :: unescape rest
  | [] => []

-- The segments of what is asked for; an escape may itself be escaped once.
def segments (path : String) : List (List Char) :=
  (unescape (unescape (Reference.ofText path).straightPath)).splitOn '/'

-- A text is a word also if a line break follows it.
def isWord (word : String) (cs : List Char) : Bool :=
  cs = word.toList || cs = word.toList ++ ['\n']

def route? (path : String) : Option Route :=
  match segments path with
  | [[], last] => if isWord "health" last then some .health else none
  | [[], first, last] =>
      if first ≠ "api".toList then none
      else if isWord "calculate" last then some (.product .calculate)
      else if isWord "production" last then some (.product .production)
      else none
  | [[], first, second, last] =>
      if first = "api".toList && second = "documents".toList && !last.isEmpty then
        some (.product (.document (String.ofList last)))
      else none
  | _ => none

end Fenestration.Service
