import PatchLint.Uri.Basic

/-!
# Reading URIs

A text is read as a URI the way browsers and editors do: blanks around it and
line ends in it do not count, backslashes are slashes for the schemes of the
web, segments of one and two dots are resolved, and characters that may not
stand for themselves are encoded.  There is no base, so a text without a scheme
is no URI.

A query starts at the first question mark and a fragment at the first number
sign, whatever comes before them; so both are cut off first, and the rest is a
host and a path, or a path alone.
-/

namespace PatchLint.Uri

open Text

/-! ## The parts of a text -/

/-- The text that counts: without control characters and blanks around it, and
without tabs and line ends in it. -/
def counted (cs : List Char) : List Char :=
  let isOuter (c : Char) : Bool := c.toNat ≤ 0x20
  let inner := ((cs.dropWhile isOuter).reverse.dropWhile isOuter).reverse
  inner.filter fun c => c ≠ '\t' ∧ c ≠ '\n' ∧ c ≠ '\r'

/-- An ASCII letter. -/
def isLetter (c : Char) : Bool := ('a' ≤ c && c ≤ 'z') || ('A' ≤ c && c ≤ 'Z')

/-- A character of a scheme behind its first letter. -/
def isSchemeChar (c : Char) : Bool :=
  isLetter c || (digitValue? c).isSome || c = '+' || c = '-' || c = '.'

/-- The scheme in lower case and the text behind its colon. -/
def cutScheme (cs : List Char) : Option (String × List Char) :=
  match cutAt (!isSchemeChar ·) cs with
  | (name, some (':', rest)) =>
      if (name.head?.map isLetter).getD false then
        some (String.ofList (name.map HostName.lower), rest)
      else none
  | _ => none

/-- The number of the service that goes without saying for a scheme of the web. -/
def ownService : String → Option Nat
  | "http" => some 80
  | "ws" => some 80
  | "https" => some 443
  | "wss" => some 443
  | "ftp" => some 21
  | _ => none

/-- Whether a scheme is one of the web's. -/
def isWeb (scheme : String) : Bool := (ownService scheme).isSome

/-- A text with the query and the fragment cut off. -/
structure Parts where
  /-- What comes before them. -/
  main : List Char
  /-- What follows the question mark. -/
  query : Option (List Char)
  /-- What follows the number sign. -/
  fragment : Option (List Char)

/-- Cuts off the query and the fragment. -/
def cutParts (cs : List Char) : Parts :=
  let (front, fragment) := cutAt (· = '#') cs
  let (main, query) := cutAt (· = '?') front
  ⟨main, query.map Prod.snd, fragment.map Prod.snd⟩

/-! ## Paths -/

/-- A text with forward slashes only. -/
def forward (cs : List Char) : List Char := cs.map fun c => if c = '\\' then '/' else c

/-- A segment that means the folder it is in. -/
def isHere (segment : List Char) : Bool :=
  [".", "%2e"].contains (String.ofList (segment.map HostName.lower))

/-- A segment that means the folder above. -/
def isUp (segment : List Char) : Bool :=
  ["..", ".%2e", "%2e.", "%2e%2e"].contains (String.ofList (segment.map HostName.lower))

/-- A letter and a colon or bar. -/
def isDrive : List Char → Bool
  | [letter, mark] => isLetter letter && (mark = ':' || mark = '|')
  | _ => false

/-- Segments without the last, which stays if it is the letter of a drive. -/
def shorten (ss : List String) : List String :=
  match ss.getLast? with
  | some s => if isDrive s.toList then ss else ss.dropLast
  | none => ss

/-- A segment that is no dots, as it is kept.  In front of a file's path the
letter of a drive has a colon. -/
def keptSegment (file : Bool) (before : List String) (segment : List Char) : String :=
  match segment with
  | [letter, _] =>
      if file && before.isEmpty && isDrive segment then String.ofList [letter, ':']
      else encodeText .path segment
  | _ => encodeText .path segment

/-- Segments resolved one by one behind those that are kept already.  A path that
ends in dots ends in a slash. -/
def resolveFrom (file : Bool) (kept : List String) : List (List Char) → List String
  | [] => kept
  | s :: rest =>
      let kept :=
        if isUp s then shorten kept
        else if isHere s then kept
        else kept ++ [keptSegment file kept s]
      if rest.isEmpty && (isUp s || isHere s) then kept ++ [""] else resolveFrom file kept rest

/-- The segments of a text behind the first slash. -/
def resolve (file : Bool) (cs : List Char) : List String := resolveFrom file [] (splitOn '/' cs)

/-- Segments without empty ones in front, but for the last. -/
def withoutEmptyFront : List String → List String
  | "" :: s :: rest => withoutEmptyFront (s :: rest)
  | ss => ss

/-! ## Hosts -/

/-- The name and the password, each encoded, none if both are empty. -/
def readUser (cs : List Char) : Option (String × Option String) :=
  let (name, password) := cutAt (· = ':') cs
  let password := (password.map Prod.snd).filter (· ≠ [])
  if name = [] ∧ password = none then none
  else some (encodeText .userinfo name, password.map (encodeText .userinfo))

/-- The texts before and behind the last of a character. -/
def cutLast (mark : Char) (cs : List Char) : Option (List Char × List Char) :=
  match cutAt (· = mark) cs.reverse with
  | (behind, some (_, before)) => some (before.reverse, behind.reverse)
  | _ => none

/-- The host up to the first colon that is not in brackets, and what follows. -/
def cutHost : Bool → List Char → List Char × List Char
  | _, [] => ([], [])
  | inBrackets, c :: cs =>
      if c = ':' ∧ ¬ inBrackets then ([], c :: cs)
      else
        let inBrackets := if c = '[' then true else if c = ']' then false else inBrackets
        let (host, rest) := cutHost inBrackets cs
        (c :: host, rest)

/-- The number of a service behind a colon and the text behind its digits.  It is
below 65536, and only a backslash may follow. -/
def readService : List Char → Except UriFault (Option Nat × List Char)
  | ':' :: cs =>
      let digits := cs.takeWhile fun c => (digitValue? c).isSome
      let rest := cs.dropWhile fun c => (digitValue? c).isSome
      match digits, rest with
      | [], [] => .ok (none, [])
      | [], '\\' :: _ => .ok (none, rest)
      | [], _ => .error .invalidService
      | _, _ => match naturalBelow? 65536 digits with
        | none => .error .invalidService
        | some n => if rest = [] ∨ rest.head? = some '\\' then .ok (some n, rest)
            else .error .invalidService
  | rest => .ok (none, rest)

/-- A place of a host: its user, its host and service, and the text behind. -/
structure Authority where
  /-- The name and the password. -/
  user : Option (String × Option String)
  host : HostName
  /-- The number of the service. -/
  service : Option Nat
  /-- What follows. -/
  rest : List Char

/-- Reads what stands between the two slashes and the path.  `more` says whether
anything follows it. -/
def readAuthority (scheme : String) (more : Bool) (cs : List Char) : Except UriFault Authority := do
  let (user, place) := match cutLast '@' cs with
    | some (before, behind) => (readUser before, behind)
    | none => (none, cs)
  let bareUser := (cutLast '@' cs).map Prod.fst = some []
  if bareUser ∧ place = [] ∧ more then throw .emptyHost
  let (name, rest) := cutHost false place
  if isWeb scheme ∧ name = [] then throw .emptyHost
  let host ← if isWeb scheme then HostName.read name else HostName.readOther name
  if name = [] ∧ rest ≠ [] then throw .emptyHost
  let (service, rest) ← readService rest
  if name = [] ∧ user.isSome then throw .emptyHost
  return ⟨user, host, service.filter fun n => some n ≠ ownService scheme, rest⟩

/-! ## URIs -/

/-- The host of a file, if there is one in front of its path: the empty host if
it is this machine. -/
def readFileHost (cs : List Char) : Except UriFault HostName :=
  if cs = [] then .ok (.name "")
  else match HostName.read cs with
    | .ok host => .ok (if host.isLocal then .name "" else host)
    | .error fault => .error fault

/-- The URI of a file with a host and the text of its path.  A path that starts
with the letter of a drive has no host. -/
def fileUri (host : HostName) (path : List Char) : Uri :=
  let segments := resolve true (skip '/' path)
  let onDrive := (segments.head?.map fun s => isDrive s.toList).getD false
  { scheme := fileScheme
    host := some (if onDrive then .name "" else host)
    path := .segments (withoutEmptyFront segments) }

/-- The URI of a file, from the text behind the scheme. -/
def readFile (cs : List Char) : Except UriFault Uri :=
  match after? ['/', '/'] (forward cs) with
  | none => .ok (fileUri (.name "") (forward cs))
  | some rest =>
      let (name, _) := cutAt (· = '/') rest
      if isDrive name then .ok (fileUri (.name "") rest)
      else match readFileHost name with
        | .ok host => .ok (fileUri host (rest.drop name.length))
        | .error fault => .error fault

/-- The path behind a host.  Only for a scheme of the web there has to be one. -/
def pathBehind (scheme : String) (cs : List Char) : List String :=
  if cs = [] ∧ ¬ isWeb scheme then [] else resolve false (skip '/' cs)

/-- The URI with a host and a path, from the text behind the two slashes. -/
def readPlaced (scheme : String) (more : Bool) (cs : List Char) : Except UriFault Uri := do
  let cs := if isWeb scheme then forward cs else cs
  let (front, _) := cutAt (· = '/') cs
  let path := cs.drop front.length
  let a ← readAuthority scheme (more || path ≠ []) front
  return { scheme, user := a.user, host := some a.host, service := a.service
           path := .segments (pathBehind scheme (a.rest ++ path)) }

/-- The URI without query and fragment, from the text behind the scheme. -/
def readMain (scheme : String) (more : Bool) (cs : List Char) : Except UriFault Uri :=
  if scheme = fileScheme then readFile cs
  else if isWeb scheme then readPlaced scheme more (cs.dropWhile fun c => c = '/' || c = '\\')
  else match cs with
    | '/' :: '/' :: rest => readPlaced scheme more rest
    | '/' :: rest => .ok { scheme, path := .segments (resolve false rest) }
    | _ => .ok { scheme, path := .opaqueText (encodeText .controls cs) }

def ofText (text : String) : Except UriFault Uri := do
  let some (scheme, rest) := cutScheme (counted text.toList) | throw .relative
  let parts := cutParts rest
  let u ← readMain scheme (parts.query.isSome || parts.fragment.isSome) parts.main
  let querySet : EncodeSet :=
    if isWeb scheme ∨ scheme = fileScheme then .specialQuery else .query
  return { u with
    query := parts.query.map (encodeText querySet)
    fragment := parts.fragment.map (encodeText .fragment) }

end PatchLint.Uri
