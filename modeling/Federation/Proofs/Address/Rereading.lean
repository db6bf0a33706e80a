import Federation.Proofs.Address.Parts

/-!
# Addresses are read again

**Stages.**  Of an address that has been read (`Address.IsRead`), each part is found again in the text: the
scheme (`Address.scheme?_append`), the authority (`Address.IsRead.authority_append`) and in it user, host and
port, and what they are read as is the part itself.

**The whole.**  `Address.IsRead.rereads_iff` says which addresses are the ones their own texts are read as:
all but those with a name that is not its own ASCII form, and those of files whose path is read in another
way once it stands alone.
-/

namespace Federation.Address

variable {family : Family} {cs : List Char} {a : Address}

/-! ### Scheme -/

lemma scheme?_append {named : List Char} (h : IsScheme named) (rest : List Char) :
    scheme? (named ++ ':' :: rest) = some (named, rest) := by
  have go : ∀ more before : List Char, (∀ c ∈ more, IsSchemeCharacter c) →
      scheme?.go before (more ++ ':' :: rest) = some (before.reverse ++ more, rest) := by
    intro more
    induction more with
    | nil => intro before _; rw [List.append_nil]; rfl
    | cons c more ih =>
        intro before characters
        obtain ⟨⟨allowed, lower⟩, later⟩ := List.forall_mem_cons.mp characters
        have noColon : c ≠ ':' := by
          rintro rfl
          exact absurd allowed (by decide)
        simp only [List.cons_append, scheme?.go, allowed, if_true, lower, ih _ later]
        simp
  obtain ⟨head, characters⟩ := h
  cases named with
  | nil => cases head
  | cons c more =>
      obtain ⟨⟨-, lower⟩, later⟩ := List.forall_mem_cons.mp characters
      rw [List.cons_append, scheme?, if_pos (show c.isAlpha = true from head), lower, go more [c] later]
      rfl

/-- The slashes before an authority are found, if it does not begin with one itself. -/
lemma opens_iff {rest : List Char} (head : ∀ c ∈ cs.head?, isSlash family c = false) :
    Opens family ('/' :: '/' :: cs) rest ↔ rest = cs := by
  have slashes : ('/' :: '/' :: cs).dropWhile (isSlash family) = cs := by
    rw [List.dropWhile_cons_of_pos (isSlash_slash family),
      List.dropWhile_cons_of_pos (isSlash_slash family)]
    cases cs with
    | nil => rfl
    | cons c cs => rw [List.dropWhile_cons_of_neg (by rw [head c rfl]; exact Bool.false_ne_true)]
  constructor
  · intro opens
    cases opens with
    | special => exact slashes
    | file => rfl
    | other => rfl
  · rintro rfl
    cases family with
    | special =>
        have opens := Opens.special ('/' :: '/' :: rest)
        rwa [slashes] at opens
    | file => exact .file rfl rfl
    | other => exact .other rest

/-! ### Authority -/

lemma splitUser_of_not_mem (noAt : '@' ∉ cs) : splitUser cs = (none, cs) := by
  rw [splitUser, if_neg (by simpa using noAt)]

lemma splitUser_append (user : List Char) (noAt : '@' ∉ cs) :
    splitUser (user ++ '@' :: cs) = (some user, cs) := by
  have after : ((user ++ '@' :: cs).reverse.takeWhile (· != '@')).reverse = cs := by
    have free : ∀ c ∈ cs.reverse, (c != '@') = true := fun c mem =>
      bne_iff_ne.mpr fun same => noAt (same ▸ List.mem_reverse.mp mem)
    rw [List.reverse_append, List.reverse_cons, List.append_assoc, List.takeWhile_append_of_pos free]
    simp
  have front : (user ++ '@' :: cs).length - cs.length - 1 = user.length := by
    rw [List.length_append, List.length_cons]
    omega
  rw [splitUser, if_pos (by simp)]
  simp only [after, front, List.take_left]

/-- The user part of the text of an address, without its mark. -/
def userText (a : Address) : List Char :=
  if a.password.isEmpty then a.username.toList else a.username.toList ++ ':' :: a.password.toList

/-- The authority in the text of an address. -/
def authorityText (a : Address) : List Char :=
  a.userinfoText.toList ++ (a.host.text.toList ++ a.portText.toList)

lemma toList_userinfoText (a : Address) :
    a.userinfoText.toList = if userText a = [] then [] else userText a ++ ['@'] := by
  unfold userinfoText userText
  cases password : a.password.isEmpty with
  | true =>
      simp only [Bool.and_true, if_true, String.toList_eq_nil_iff]
      cases username : a.username.isEmpty with
      | true => simp [String.isEmpty_iff.mp username]
      | false =>
          have filled : a.username ≠ "" := fun nothing => by simp [nothing] at username
          simp [filled]
  | false => simp [String.toList_append]

lemma toList_text (a : Address) :
    a.text.toList = a.scheme.toList ++ ':' :: '/' :: '/' :: (authorityText a ++ a.path.toList) := by
  simp [text, authorityText, String.toList_append]

namespace IsRead

lemma isInner_of_userinfo {c : Char} (clean : Percent.isUserinfoReserved c = false) : IsInner c :=
  (Percent.isGraphic_of_not_isUserinfoReserved clean).of_listed
    (P := fun c => Percent.isUserinfoReserved c = false) clean (by decide)

lemma isInner_userText (h : a.IsRead) : ∀ c ∈ userText a, IsInner c := by
  have username : ∀ c ∈ a.username.toList, IsInner c := fun c mem =>
    isInner_of_userinfo (h.username c mem)
  have password : ∀ c ∈ a.password.toList, IsInner c := fun c mem =>
    isInner_of_userinfo (h.password c mem)
  unfold userText
  split
  · exact username
  · exact List.forall_mem_append.mpr ⟨username, List.forall_mem_cons.mpr ⟨by decide, password⟩⟩

/-- The user and the password are found on both sides of the first colon. -/
lemma userAndPassword_userText (h : a.IsRead) :
    userAndPassword (userText a) = (a.username, a.password) := by
  have noColon : ∀ c ∈ a.username.toList, (c != ':') = true := by
    intro c mem
    refine bne_iff_ne.mpr ?_
    rintro rfl
    exact absurd (h.username _ mem) (by decide)
  have name : (userText a).takeWhile (· != ':') = a.username.toList ∧
      ((userText a).dropWhile (· != ':')).drop 1 = a.password.toList := by
    unfold userText
    split
    · rename_i empty
      rw [String.isEmpty_iff.mp empty]
      exact ⟨List.takeWhile_eq_self_iff.mpr noColon, by rw [List.dropWhile_eq_nil_iff.mpr noColon]; rfl⟩
    · rw [List.takeWhile_append_of_pos noColon, List.dropWhile_append_of_pos noColon]
      simp
  rw [userAndPassword]
  simp only [name.1, name.2, Percent.encode_eq_self h.username, Percent.encode_eq_self h.password,
    String.ofList_toList]

lemma portText_characters (a : Address) : ∀ c ∈ a.portText.toList, c.isDigit = true ∨ c = ':' := by
  unfold portText
  split
  · exact List.forall_mem_nil _
  · rename_i port
    rw [String.toList_append, toList_toString]
    refine List.forall_mem_append.mpr ⟨List.forall_mem_singleton.mpr (.inr rfl), fun c mem => ?_⟩
    exact .inl (Nat.isDigit_of_mem_toDigits (by decide) (by decide) mem)

lemma isInner_portText (a : Address) : ∀ c ∈ a.portText.toList, IsInner c := fun c mem =>
  (graphic_portText a c mem).of_listed (P := fun c => c.isDigit = true ∨ c = ':')
    (portText_characters a c mem) (by decide)

/-- The port comes behind the host. -/
lemma hostPart_portText (a : Address) : hostPart false a.portText.toList = [] := by
  unfold portText
  split
  · rfl
  · rw [String.toList_append]
    rfl

/-- A port is found in its digits. -/
lemma readPort_portText (h : a.IsRead) :
    readPort a.scheme a.portText.toList a.path.toList = .ok (a.port, a.path.toList) := by
  unfold portText
  cases given : a.port with
  | none => rfl
  | some port =>
      obtain ⟨small, other⟩ := h.port port given
      have digits : ∀ c ∈ Nat.toDigits 10 port, c.isDigit = true := fun c mem =>
        Nat.isDigit_of_mem_toDigits (by decide) (by decide) mem
      have path : a.path.toList.takeWhile Char.isDigit = [] ∧
          a.path.toList.dropWhile Char.isDigit = a.path.toList ∧
          (a.path.toList.head?.any fun c => !(c == '/' || c == '\\' || c == '?' || c == '#')) = false := by
        rcases h.path.head with empty | ⟨rest, slash⟩
        · rw [empty]
          exact ⟨rfl, rfl, rfl⟩
        · rw [slash]
          exact ⟨rfl, rfl, rfl⟩
      have value : (Nat.toDigits 10 port).foldl (fun value d => value * 10 + (d.toNat - 48)) 0 = port :=
        Json.natOfDigits_toDigits port
      have filled : (Nat.toDigits 10 port).isEmpty = false :=
        Bool.eq_false_iff.mpr fun nothing => Nat.toDigits_ne_nil (List.isEmpty_iff.mp nothing)
      have written : (":" ++ toString port).toList = ':' :: Nat.toDigits 10 port := by
        rw [String.toList_append, toList_toString]
        rfl
      rw [written]
      show port? a.scheme (Nat.toDigits 10 port ++ a.path.toList) = _
      rw [port?, List.takeWhile_append_of_pos digits, List.dropWhile_append_of_pos digits, path.1,
        path.2.1, List.append_nil]
      simp only [value, filled, path.2.2, Nat.not_lt.mpr small, other, decide_false, Bool.or_false,
        Bool.false_eq_true, if_false]

variable (h : a.IsRead)

include h

lemma endsAuthority_authorityText (family : Family) :
    ∀ c ∈ authorityText a, endsAuthority family c = false := by
  have userinfo : ∀ c ∈ a.userinfoText.toList, endsAuthority family c = false := by
    rw [toList_userinfoText]
    split
    · exact List.forall_mem_nil _
    · refine List.forall_mem_append.mpr
        ⟨fun c mem => (h.isInner_userText c mem).endsAuthority_eq_false family, ?_⟩
      exact List.forall_mem_singleton.mpr (by cases family <;> rfl)
  refine List.forall_mem_append.mpr ⟨userinfo, List.forall_mem_append.mpr ⟨fun c mem => ?_, fun c mem => ?_⟩⟩
  · exact (h.host.isHostText.inner c mem).endsAuthority_eq_false family
  · exact (isInner_portText a c mem).endsAuthority_eq_false family

/-- The authority is found before the path. -/
lemma authority_append (family : Family) :
    authority family (authorityText a ++ a.path.toList) = authorityText a ∧
      behind family (authorityText a ++ a.path.toList) = a.path.toList := by
  have before : authority family (authorityText a ++ a.path.toList) = authorityText a := by
    have inside : ∀ c ∈ authorityText a, (!endsAuthority family c) = true := fun c mem => by
      rw [h.endsAuthority_authorityText family c mem]
      rfl
    rw [authority, List.takeWhile_append_of_pos inside]
    rcases h.path.head with empty | ⟨rest, slash⟩
    · rw [empty, List.takeWhile_nil, List.append_nil]
    · rw [slash, List.takeWhile_cons, endsAuthority_slash]
      exact List.append_nil _
  exact ⟨before, by rw [behind, before, List.drop_left]⟩

/-- User, host and port are found in the authority. -/
lemma splitUser_authorityText : user (authorityText a) = userText a ∧
    writtenHost (authorityText a) = a.host.text.toList ∧
    behindHost (authorityText a) = a.portText.toList := by
  have noAt : '@' ∉ a.host.text.toList ++ a.portText.toList := by
    rw [List.mem_append]
    rintro (mem | mem)
    · exact (h.host.isHostText.inner _ mem).1 rfl
    · exact (isInner_portText a _ mem).1 rfl
  have split : (splitUser (authorityText a)).1.getD [] = userText a ∧
      (splitUser (authorityText a)).2 = a.host.text.toList ++ a.portText.toList := by
    rw [authorityText, toList_userinfoText]
    split
    · rename_i nobody
      rw [List.nil_append, splitUser_of_not_mem noAt, nobody]
      exact ⟨rfl, rfl⟩
    · rw [List.append_assoc, List.singleton_append, splitUser_append _ noAt]
      exact ⟨rfl, rfl⟩
  have host : writtenHost (authorityText a) = a.host.text.toList := by
    rw [writtenHost, split.2, h.host.isHostText.hostPart_append, hostPart_portText, List.append_nil]
  exact ⟨split.1, host, by rw [behindHost, host, split.2, List.drop_left]⟩

/-- Where the path ends all ends. -/
lemma pathAndSuffix_path (family : Family) :
    pathAndSuffix family a.path.toList = (readPath family a.path.toList, "") := by
  have plain : (pathAndSuffix family a.path.toList).2 = "" :=
    suffix_eq_empty_iff.mpr fun c mem => by
      have clean := h.path.clean c mem
      rw [Bool.or_eq_false_iff, beq_eq_false_iff_ne, beq_eq_false_iff_ne]
      constructor
      · rintro rfl
        exact absurd clean (by decide)
      · rintro rfl
        exact absurd clean (by decide)
  exact Prod.ext (pathAndSuffix_of_plain plain) plain

/-- What the parts are read as is put together to the same address. -/
lemma assemble_eq_iff (plain : a.suffix = "") {host : Host} :
    assemble a.scheme family (userText a) host a.port a.path.toList = a ↔
      host = a.host ∧ (readPath family a.path.toList).1 = a.path := by
  rw [assemble, h.userAndPassword_userText, h.pathAndSuffix_path]
  constructor
  · intro same
    exact ⟨congrArg Address.host same, congrArg Address.path same⟩
  · rintro ⟨rfl, path⟩
    dsimp only
    rw [path, ← plain]

lemma ofText_text_iff {b : Address} : ofText a.text = .ok (some b) ↔
    readAuthority a.scheme (Family.of a.scheme) (authorityText a ++ a.path.toList) = .ok (some b) := by
  have filled : authorityText a ≠ [] := fun nothing =>
    h.host.isHostText.filled (List.append_eq_nil_iff.mp (List.append_eq_nil_iff.mp nothing).2).1
  have head : ∀ c ∈ (authorityText a ++ a.path.toList).head?, isSlash (Family.of a.scheme) c = false := by
    intro c mem
    rw [List.head?_append_of_ne_nil _ filled] at mem
    have inside := h.endsAuthority_authorityText (Family.of a.scheme) c (List.mem_of_mem_head? mem)
    simp only [endsAuthority, Bool.or_eq_false_iff] at inside
    rw [isSlash, inside.1.1.1, inside.2]
    rfl
  rw [ofText_eq_ok_some_iff, toList_text, scheme?_append h.isScheme]
  simp only [Option.some.injEq, Prod.mk.injEq]
  constructor
  · rintro ⟨_, _, cs, ⟨rfl, rfl⟩, opens, read⟩
    rw [String.ofList_toList] at opens read
    rwa [(opens_iff head).mp opens] at read
  · intro read
    refine ⟨_, _, authorityText a ++ a.path.toList, ⟨rfl, rfl⟩, ?_⟩
    rw [String.ofList_toList]
    exact ⟨(opens_iff head).mpr rfl, read⟩

lemma ofAuthority_eq_ok_iff (noFile : Family.of a.scheme ≠ .file) (plain : a.suffix = "") :
    ofAuthority a.scheme (Family.of a.scheme) (authorityText a ++ a.path.toList) = .ok (some a) ↔
      a.host.IsSettled (Family.of a.scheme) := by
  obtain ⟨before, behind⟩ := h.authority_append (Family.of a.scheme)
  obtain ⟨user, host, port⟩ := h.splitUser_authorityText
  have path : (readPath (Family.of a.scheme) a.path.toList).1 = a.path :=
    congrArg Prod.fst (h.path.readPath_eq noFile)
  rw [ofAuthority_eq_ok_some_iff, before, behind, user, host, port, h.readPort_portText,
    ← h.host.readHost_text_iff]
  constructor
  · rintro ⟨-, found, _, _, read, again, whole⟩
    obtain ⟨rfl, rfl⟩ := Prod.mk.inj (Except.ok.inj again)
    obtain ⟨rfl, -⟩ := (h.assemble_eq_iff plain).mp whole
    exact read
  · intro read
    exact ⟨h.host.isHostText.filled, _, _, _, read, rfl, (h.assemble_eq_iff plain).mpr ⟨rfl, path⟩⟩

lemma ofFileAuthority_eq_ok_iff (file : a.scheme = "file") (plain : a.suffix = "") :
    ofFileAuthority (authorityText a ++ a.path.toList) = .ok (some a) ↔
      a.host.IsSettled .file ∧ readPath .file a.path.toList = (a.path, true) := by
  obtain ⟨username, password, port, remote⟩ := h.file file
  obtain ⟨before, behind⟩ := h.authority_append .file
  have family : Family.of a.scheme = .file := Family.of_eq_file_iff.mpr file
  have host := h.host
  rw [family] at host
  have nobody : userText a = [] := by
    rw [userText, username, password]
    rfl
  have only : authorityText a = a.host.text.toList := by
    rw [authorityText, toList_userinfoText, if_pos nobody, portText, port]
    exact List.append_nil _
  have special : specialHost a.host.text.toList = readHost .file a.host.text.toList := rfl
  have whole := fun host => @assemble_eq_iff .file a h plain host
  rw [file, nobody, port] at whole
  rw [ofFileAuthority_eq_ok_some_iff, before, behind, only, special, h.pathAndSuffix_path,
    ← host.readHost_text_iff]
  constructor
  · rintro ⟨-, -, found, read, -, stays, same⟩
    obtain ⟨rfl, path⟩ := (whole _).mp same
    exact ⟨read, Prod.ext path stays⟩
  · rintro ⟨read, path⟩
    refine ⟨host.isHostText.filled, host.isDrive_eq_false, _, read, remote, ?_, (whole _).mpr ⟨rfl, ?_⟩⟩
    · rw [path]
    · rw [path]

end IsRead

/-- The address is the one its own text is read as.  Not every address that has been read is: a label may
become too long to be decoded when it is encoded, and in a file path a drive letter behind empty segments
takes the place of the host when those are gone. -/
def Rereads (a : Address) : Prop :=
  ofText a.text = .ok (some a)

instance (a : Address) : Decidable a.Rereads :=
  decidable_of_iff ((Address.ofText a.text).toOption = some (some a)) Except.toOption_eq_some_iff

/-- **Which addresses are the ones their own texts are read as.**  A name must be its own ASCII form where
names are put into that form, and the path of a file must be read as itself. -/
theorem IsRead.rereads_iff (h : a.IsRead) (plain : a.suffix = "") : a.Rereads ↔
    a.host.IsSettled (Family.of a.scheme) ∧
      (a.scheme = "file" → readPath .file a.path.toList = (a.path, true)) := by
  rw [Rereads, h.ofText_text_iff]
  by_cases file : a.scheme = "file"
  · have read := h.ofFileAuthority_eq_ok_iff file plain
    rw [Family.of_eq_file_iff.mpr file, imp_iff_right file]
    exact read
  · have noFile : Family.of a.scheme ≠ .file := mt Family.of_eq_file_iff.mp file
    have read := h.ofAuthority_eq_ok_iff noFile plain
    rw [and_iff_left (fun given => absurd given file), ← read]
    cases family : Family.of a.scheme with
    | special => rfl
    | other => rfl
    | file => exact absurd family noFile

end Federation.Address
