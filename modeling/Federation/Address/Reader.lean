import Federation.Address.Basic

/-!
# Reading addresses

`Address.ofText` takes a text apart from left to right: scheme, user, host, port, path and the rest.
A URI without a host is no error; the result then is `none`.

**Path.**  The segments of a path are taken one after the other.  A segment of one dot is dropped, a
segment of two dots drops the one before it unless that looks like a drive letter, and either of them
at the end leaves an empty last segment.  In a file path a drive letter at the start takes the place
of the host.

The texts read here hold neither blanks nor control characters, so nothing has to be skipped.
-/

namespace Federation.Address

/-- The scheme in lower case and what follows its colon. -/
def scheme? : List Char → Option (List Char × List Char)
  | [] => none
  | c :: rest => if c.isAlpha then go [c.toLower] rest else none
where
  /-- Goes on with a scheme whose characters so far are given last first. -/
  go (before : List Char) : List Char → Option (List Char × List Char)
    | [] => none
    | ':' :: rest => some (before.reverse, rest)
    | c :: rest =>
      if c.isAlphanum || c == '+' || c == '-' || c == '.' then go (c.toLower :: before) rest
      else none

/-- Whether a character ends the authority. -/
def endsAuthority (family : Family) (c : Char) : Bool :=
  c == '/' || c == '?' || c == '#' || (family.isSpecial && c == '\\')

/-- Whether a character is a slash in this family. -/
def isSlash (family : Family) (c : Char) : Bool :=
  c == '/' || (family.isSpecial && c == '\\')

/-! ### User -/

/-- What stands before the last at sign of an authority, if there is one, and what follows. -/
def splitUser (authority : List Char) : Option (List Char) × List Char :=
  if authority.contains '@' then
    let after := (authority.reverse.takeWhile (· != '@')).reverse
    (some (authority.take (authority.length - after.length - 1)), after)
  else (none, authority)

/-- The user name and the password of a user part, encoded. -/
def userAndPassword (user : List Char) : String × String :=
  let name := user.takeWhile (· != ':')
  let password := (user.dropWhile (· != ':')).drop 1
  (String.ofList (Percent.encode Percent.isUserinfoReserved name),
    String.ofList (Percent.encode Percent.isUserinfoReserved password))

/-! ### Host and port -/

/-- A numeric host in brackets. -/
def bracketed (cs : List Char) : Except Defect Host :=
  if cs.getLast? = some ']' then
    match Internet.ofColons? (cs.drop 1).dropLast with
    | some groups => .ok (.colons groups)
    | none => .error .invalidColons
  else .error .invalidColons

/-- The host of a special scheme. -/
def specialHost (cs : List Char) : Except Defect Host :=
  if cs.head? = some '[' then bracketed cs
  else
    match Domain.toAscii? (Percent.decode cs) with
    | none => .error .invalidName
    | some name =>
      if name.isEmpty then .error .emptyHost
      else if Internet.endsInNumber name.toList then
        match Internet.ofDots? name.toList with
        | some address => .ok (.dots address)
        | none => .error .invalidDots
      else .ok (.name name)

/-- Characters that no host of another scheme may hold. -/
def isForbiddenInHost (c : Char) : Bool :=
  ['\x00', '\t', '\n', '\r', ' ', '#', '/', ':', '<', '>', '?', '@', '[', '\\', ']', '^', '|'].contains c

/-- The host of any other scheme. -/
def otherHost (cs : List Char) : Except Defect Host :=
  if cs.head? = some '[' then bracketed cs
  else if cs.any isForbiddenInHost then .error .invalidNameCharacter
  else .ok (.name (String.ofList (Percent.encode Percent.isControl cs)))

/-- The characters of a host at the front of an authority; a colon inside brackets belongs to it. -/
def hostPart (inBrackets : Bool) : List Char → List Char
  | [] => []
  | c :: rest =>
    if c == ':' && !inBrackets then []
    else c :: hostPart (c == '[' || (inBrackets && c != ']')) rest

/-- A port and what follows it.  It ends at a slash, a backslash or the marks of query and
fragment. -/
def port? (scheme : String) (cs : List Char) : Except Defect (Option Nat × List Char) :=
  let digits := cs.takeWhile Char.isDigit
  let rest := cs.dropWhile Char.isDigit
  let port := digits.foldl (fun value d => value * 10 + (d.toNat - 48)) 0
  if 65535 < port then .error .invalidPort
  else if (rest.head?.any fun c => !(c == '/' || c == '\\' || c == '?' || c == '#')) then
    .error .invalidPort
  else if digits.isEmpty || some port = defaultPort? scheme then .ok (none, rest)
  else .ok (some port, rest)

/-! ### Path -/

/-- Whether a segment stands for the segment before it. -/
def isDoubleDot (segment : String) : Bool :=
  ["..", "%2e.", ".%2e", "%2e%2e"].contains segment.toLower

/-- Whether a segment stands for itself. -/
def isSingleDot (segment : String) : Bool :=
  [".", "%2e"].contains segment.toLower

/-- Whether characters start like a drive letter. -/
def startsLikeDrive : List Char → Bool
  | a :: b :: rest => a.isAlpha && (b == ':' || b == '|') && (rest.isEmpty || rest.head? == some '\\')
  | _ => false

/-- Whether a segment is a drive letter. -/
def isDrive (segment : List Char) : Bool :=
  segment.length == 2 && startsLikeDrive segment

/-- The segments of a path, cut at slashes. -/
def segments (family : Family) (cs : List Char) : List (List Char) :=
  Internet.splitOn '/' (cs.map fun c => if isSlash family c then '/' else c)

/-- The segments before a segment of two dots that stay. -/
def dropSegment : List String → List String
  | [] => []
  | segment :: before => if startsLikeDrive segment.toList then segment :: before else before

/-- Takes the segments in order.  `before` holds those that stay, last first; the result tells too
whether the host stays. -/
def takeSegments (family : Family) (before : List String) :
    List (List Char) → List String × Bool
  | [] => (before.reverse, true)
  | raw :: rest =>
    let segment := String.ofList (Percent.encode Percent.isPathReserved raw)
    if isDoubleDot segment then
      let stay := dropSegment before
      takeSegments family (if rest.isEmpty then "" :: stay else stay) rest
    else if isSingleDot segment then
      takeSegments family (if rest.isEmpty then "" :: before else before) rest
    else if family = .file ∧ before.isEmpty then
      if isDrive raw then
        let (all, _) := takeSegments family [String.ofList (raw.take 1 ++ [':'])] rest
        (all, false)
      else if isDrive (raw.take 2) && (raw.drop 1).head? == some ':' then
        takeSegments family
          [String.ofList (Percent.encode Percent.isPathReserved (raw.drop 2)),
            String.ofList (raw.take 2)] rest
      else takeSegments family [segment] rest
    else takeSegments family (segment :: before) rest

/-- The text of segments; leading empty ones of a file path do not count. -/
def pathText (family : Family) (segments : List String) : String :=
  let kept :=
    if family = .file then
      match segments.dropWhile String.isEmpty with
      | [] => [""]
      | first :: rest => first :: rest
    else segments
  "/" ++ String.intercalate "/" kept

/-- The path that follows an authority, and whether the host stays. -/
def readPath (family : Family) (cs : List Char) : String × Bool :=
  if cs.isEmpty && !family.isSpecial then ("", true)
  else
    let relative := if cs.head?.any (isSlash family) then cs.drop 1 else cs
    let (kept, hostStays) := takeSegments family [] (segments family relative)
    (pathText family kept, hostStays)

/-! ### The whole -/

/-- The path and the rest of an address. -/
def pathAndSuffix (family : Family) (cs : List Char) : (String × Bool) × String :=
  let isMark (c : Char) : Bool := c == '?' || c == '#'
  (readPath family (cs.takeWhile fun c => !isMark c),
    String.ofList (cs.dropWhile fun c => !isMark c))

/-- What follows the slashes of an authority. -/
def ofAuthority (scheme : String) (family : Family) (cs : List Char) :
    Except Defect (Option Address) := do
  let authority := cs.takeWhile fun c => !endsAuthority family c
  let tail := cs.drop authority.length
  let (user, hostAndPort) := splitUser authority
  let (username, password) := userAndPassword (user.getD [])
  if user = some [] && hostAndPort.isEmpty && !tail.isEmpty then
    .error .emptyHost
  else
    let host := hostPart false hostAndPort
    let rest := hostAndPort.drop host.length
    if host.isEmpty then
      if family.isSpecial || !rest.isEmpty then .error .emptyHost
      else if !username.isEmpty || !password.isEmpty then .error .emptyHost
      else return none
    else
      let host ← if family.isSpecial then specialHost host else otherHost host
      let (port, rest) ←
        match rest with
        | ':' :: digits => port? scheme (digits ++ tail)
        | _ => .ok (none, tail)
      let ((path, _), suffix) := pathAndSuffix family rest
      return some { scheme, username, password, host, port, path, suffix }

/-- What follows the slashes of a file address. -/
def ofFileAuthority (cs : List Char) : Except Defect (Option Address) := do
  let host := cs.takeWhile fun c => !endsAuthority .file c
  if host.isEmpty || isDrive host then return none
  else
    let name ← specialHost host
    let ((path, hostStays), suffix) := pathAndSuffix .file (cs.drop host.length)
    if name = .name "localhost" || !hostStays then return none
    else
      return some
        { scheme := "file", username := "", password := "", host := name, port := none, path, suffix }

/-- The address of a text, if it is an absolute URI with a host; `none` for one without a host. -/
def ofText (text : String) : Except Defect (Option Address) :=
  match scheme? text.toList with
  | none => .error .noScheme
  | some (scheme, rest) =>
    let scheme := String.ofList scheme
    match Family.of scheme, rest with
    | .special, rest => ofAuthority scheme .special (rest.dropWhile (isSlash .special))
    | .file, a :: b :: rest =>
      if isSlash .file a && isSlash .file b then ofFileAuthority rest else .ok none
    | .other, '/' :: '/' :: rest => ofAuthority scheme .other rest
    | _, _ => .ok none

end Federation.Address
