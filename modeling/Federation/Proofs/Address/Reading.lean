import Federation.Address.Reader
import Federation.Proofs.Checks
import Mathlib.Data.List.DropRight

/-!
# What a read address is made of

The reader of addresses goes through a text once.  Here the success of each of its stages is turned
into what it says about the parts of the address, so that no other proof opens the reader again.

**Stages.**  `Address.ofText_eq_ok_some_iff` splits off the scheme and finds where the authority starts
(`Address.Opens`).  `Address.ofAuthority_eq_ok_some_iff` and `Address.ofFileAuthority_eq_ok_some_iff`
take the authority apart into user, host and port, and leave the path.

**Path.**  One segment changes the segments before it in one of a few ways (`Address.takeSegment`), and
a path is read one segment after the other (`Address.takeSegments_cons`).
-/

namespace Federation.Address

variable {scheme : String} {family : Family} {cs : List Char} {a : Address}

/-! ### Path and suffix -/

lemma suffix_eq_empty_iff :
    (pathAndSuffix family cs).2 = "" ↔ ∀ c ∈ cs, (c == '?' || c == '#') = false := by
  rw [pathAndSuffix, String.ofList_eq_empty_iff, List.dropWhile_eq_nil_iff]
  simp

/-- Where there is no suffix all is path. -/
lemma pathAndSuffix_of_plain (plain : (pathAndSuffix family cs).2 = "") :
    (pathAndSuffix family cs).1 = readPath family cs := by
  have whole : cs.takeWhile (fun c => !(c == '?' || c == '#')) = cs :=
    List.takeWhile_eq_self_iff.mpr fun c mem => by rw [suffix_eq_empty_iff.mp plain c mem]; rfl
  exact congrArg (readPath family) whole

/-! ### Authority -/

lemma endsAuthority_slash (family : Family) : endsAuthority family '/' = true := by
  cases family with
  | special => rfl
  | file => rfl
  | other => rfl

/-- The authority at the front of what follows the slashes. -/
def authority (family : Family) (cs : List Char) : List Char :=
  cs.takeWhile fun c => !endsAuthority family c

/-- What follows the authority. -/
def behind (family : Family) (cs : List Char) : List Char :=
  cs.drop (authority family cs).length

/-- The user part of an authority. -/
def user (authority : List Char) : List Char :=
  (splitUser authority).1.getD []

/-- The host of an authority as it is written. -/
def writtenHost (authority : List Char) : List Char :=
  hostPart false (splitUser authority).2

/-- What follows the host in an authority. -/
def behindHost (authority : List Char) : List Char :=
  (splitUser authority).2.drop (writtenHost authority).length

/-- The host that is written in an authority. -/
def readHost (family : Family) (cs : List Char) : Except Defect Host :=
  if family.isSpecial then specialHost cs else otherHost cs

/-- The port and what follows it, if what follows the host begins with a colon. -/
def readPort (scheme : String) (behindHost tail : List Char) :
    Except Defect (Option Nat × List Char) :=
  match behindHost with
  | ':' :: digits => port? scheme (digits ++ tail)
  | _ => .ok (none, tail)

/-- An address put together from its parts, of which path and suffix are still to be read. -/
def assemble (scheme : String) (family : Family) (user : List Char) (host : Host)
    (port : Option Nat) (rest : List Char) : Address :=
  { scheme, host, port
    username := (userAndPassword user).1
    password := (userAndPassword user).2
    path := (pathAndSuffix family rest).1.1
    suffix := (pathAndSuffix family rest).2 }

/-- The parts of an address of the web, or of any scheme without rules of its own. -/
lemma ofAuthority_eq_ok_some_iff : ofAuthority scheme family cs = .ok (some a) ↔
    writtenHost (authority family cs) ≠ [] ∧ ∃ host port rest,
      readHost family (writtenHost (authority family cs)) = .ok host ∧
      readPort scheme (behindHost (authority family cs)) (behind family cs) = .ok (port, rest) ∧
      assemble scheme family (user (authority family cs)) host port rest = a := by
  have unfolded : ofAuthority scheme family cs =
      if (splitUser (authority family cs)).1 = some [] &&
          (splitUser (authority family cs)).2.isEmpty && !(behind family cs).isEmpty then
        .error .emptyHost
      else if (writtenHost (authority family cs)).isEmpty then
        if family.isSpecial || !(behindHost (authority family cs)).isEmpty then .error .emptyHost
        else if !(userAndPassword (user (authority family cs))).1.isEmpty ||
            !(userAndPassword (user (authority family cs))).2.isEmpty then .error .emptyHost
        else .ok none
      else
        readHost family (writtenHost (authority family cs)) >>= fun host =>
        readPort scheme (behindHost (authority family cs)) (behind family cs) >>= fun read =>
        .ok (some (assemble scheme family (user (authority family cs)) host read.1 read.2)) := by
    have hosts : ∀ next : Host → Except Defect (Option Address),
        (if family.isSpecial then specialHost (writtenHost (authority family cs)) >>= next
          else otherHost (writtenHost (authority family cs)) >>= next) =
        readHost family (writtenHost (authority family cs)) >>= next := by
      intro next
      unfold readHost
      split
      · rfl
      · rfl
    simp only [ofAuthority]
    refine congrArg₂ (@ite _ _ _) rfl (congrArg₂ (@ite _ _ _) rfl ((hosts _).trans ?_))
    refine bind_congr fun host => ?_
    unfold readPort
    change (match behindHost (authority family cs) with
      | ':' :: digits => _
      | _ => _) = _
    split
    · rfl
    · rfl
  rw [unfolded]
  constructor
  · intro h
    split at h
    · cases h
    · split at h
      · split at h
        · cases h
        · split at h
          · cases h
          · cases h
      · rename_i filled
        obtain ⟨host, hostRead, h⟩ := Except.bind_eq_ok_iff.mp h
        obtain ⟨⟨port, rest⟩, portRead, h⟩ := Except.bind_eq_ok_iff.mp h
        cases h
        exact ⟨fun nothing => filled (List.isEmpty_iff.mpr nothing), host, port, rest, hostRead,
          portRead, rfl⟩
  · rintro ⟨filled, host, port, rest, hostRead, portRead, rfl⟩
    have something : (splitUser (authority family cs)).2.isEmpty = false := by
      refine Bool.eq_false_iff.mpr fun nothing => filled ?_
      rw [writtenHost, List.isEmpty_iff.mp nothing]
      rfl
    have filled' : ¬(writtenHost (authority family cs)).isEmpty = true :=
      fun nothing => filled (List.isEmpty_iff.mp nothing)
    rw [something, Bool.and_false, Bool.false_and, if_neg Bool.false_ne_true, if_neg filled', hostRead]
    show (readPort _ _ _ >>= _) = _
    rw [portRead]
    rfl

/-- The parts of a file address. -/
lemma ofFileAuthority_eq_ok_some_iff : ofFileAuthority cs = .ok (some a) ↔
    authority .file cs ≠ [] ∧ isDrive (authority .file cs) = false ∧ ∃ host,
      specialHost (authority .file cs) = .ok host ∧ host ≠ .name "localhost" ∧
      (pathAndSuffix .file (behind .file cs)).1.2 = true ∧
      assemble "file" .file [] host none (behind .file cs) = a := by
  have unfolded : ofFileAuthority cs =
      if (authority .file cs).isEmpty || isDrive (authority .file cs) then .ok none
      else
        specialHost (authority .file cs) >>= fun host =>
        if host = .name "localhost" || !(pathAndSuffix .file (behind .file cs)).1.2 then .ok none
        else .ok (some (assemble "file" .file [] host none (behind .file cs))) := rfl
  rw [unfolded]
  constructor
  · intro h
    split at h
    · cases h
    · rename_i named
      obtain ⟨host, hostRead, h⟩ := Except.bind_eq_ok_iff.mp h
      split at h
      · cases h
      · rename_i remote
        cases h
        simp only [Bool.or_eq_true, List.isEmpty_iff, not_or, Bool.not_eq_true] at named
        simp only [Bool.or_eq_true, decide_eq_true_eq, Bool.not_eq_true', not_or,
          Bool.not_eq_false] at remote
        exact ⟨named.1, named.2, host, hostRead, remote.1, remote.2, rfl⟩
  · rintro ⟨filled, noDrive, host, hostRead, remote, stays, rfl⟩
    have named : ¬((authority .file cs).isEmpty || isDrive (authority .file cs)) = true := by
      simp [filled, noDrive]
    rw [if_neg named, hostRead]
    show (if _ then _ else _) = _
    rw [if_neg (by simp [remote, stays])]

/-! ### Scheme -/

/-- Where the authority starts in what follows the colon of the scheme. -/
inductive Opens : Family → List Char → List Char → Prop where
  | special (rest : List Char) : Opens .special rest (rest.dropWhile (isSlash .special))
  | file {first second : Char} {cs : List Char} (slash : isSlash .file first = true)
      (slash' : isSlash .file second = true) : Opens .file (first :: second :: cs) cs
  | other (cs : List Char) : Opens .other ('/' :: '/' :: cs) cs

/-- Reads the authority and what follows it by the rules of the family. -/
def readAuthority (scheme : String) : Family → List Char → Except Defect (Option Address)
  | .file, cs => ofFileAuthority cs
  | family, cs => ofAuthority scheme family cs

lemma ofText_eq_ok_some_iff {text : String} : ofText text = .ok (some a) ↔
    ∃ scheme rest cs, scheme? text.toList = some (scheme, rest) ∧
      Opens (Family.of (String.ofList scheme)) rest cs ∧
      readAuthority (String.ofList scheme) (Family.of (String.ofList scheme)) cs = .ok (some a) := by
  unfold ofText
  cases named : scheme? text.toList with
  | none => simp
  | some found =>
      obtain ⟨scheme, rest⟩ := found
      simp only [Option.some.injEq, Prod.mk.injEq]
      constructor
      · intro h
        refine ⟨scheme, rest, ?_⟩
        split at h
        · rename_i special
          rw [special]
          exact ⟨_, ⟨rfl, rfl⟩, .special _, h⟩
        · rename_i first second cs file
          rw [file]
          split at h
          · rename_i slashes
            rw [Bool.and_eq_true] at slashes
            exact ⟨cs, ⟨rfl, rfl⟩, .file slashes.1 slashes.2, h⟩
          · cases h
        · rename_i cs other
          rw [other]
          exact ⟨cs, ⟨rfl, rfl⟩, .other cs, h⟩
        · cases h
      · rintro ⟨_, _, cs, ⟨rfl, rfl⟩, opens, h⟩
        generalize Family.of (String.ofList scheme) = family at opens h ⊢
        cases opens with
        | special => exact h
        | file slash slash' =>
            show (if _ then _ else _) = _
            rw [if_pos (by rw [slash, slash']; rfl)]
            exact h
        | other => exact h

/-! ### Path -/

/-- What one segment makes of the segments before it, and whether the host stays. -/
def takeSegment (family : Family) (before : List String) (raw : List Char) (isLast : Bool) :
    List String × Bool :=
  let segment := String.ofList (Percent.encode Percent.isPathReserved raw)
  if isDoubleDot segment then
    (if isLast then "" :: dropSegment before else dropSegment before, true)
  else if isSingleDot segment then (if isLast then "" :: before else before, true)
  else if family = .file ∧ before.isEmpty then
    if isDrive raw then ([String.ofList (raw.take 1 ++ [':'])], false)
    else if isDrive (raw.take 2) && (raw.drop 1).head? == some ':' then
      ([String.ofList (Percent.encode Percent.isPathReserved (raw.drop 2)),
        String.ofList (raw.take 2)], true)
    else ([segment], true)
  else (segment :: before, true)

lemma takeSegments_cons (before : List String) (raw : List Char) (rest : List (List Char)) :
    takeSegments family before (raw :: rest) =
      ((takeSegments family (takeSegment family before raw rest.isEmpty).1 rest).1,
        (takeSegment family before raw rest.isEmpty).2 &&
          (takeSegments family (takeSegment family before raw rest.isEmpty).1 rest).2) := by
  rw [takeSegments, takeSegment]
  simp only []
  split
  · rfl
  · split
    · rfl
    · split
      · split
        · rfl
        · split
          · rfl
          · rfl
      · rfl

end Federation.Address
