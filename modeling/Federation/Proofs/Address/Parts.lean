import Federation.Proofs.Address.Hosts

/-!
# What is known of an address that has been read

`Address.IsRead` holds what the reader guarantees of each part of an address, whatever text it was read
from (`Address.isRead_of_ofText`).  None of what follows from it opens the reader again.

**Scheme.**  A scheme begins with a letter, and is in lower case (`Address.IsScheme`).

**Whole.**  The text of such an address can be seen (`Address.IsRead.graphic_text`).  The reader does not ask
for that where it could; each part of the text is so for a reason of its own.
-/

namespace Federation.Address

variable {scheme : String} {family : Family} {cs : List Char} {a : Address}

/-! ### Scheme -/

/-- A character of a scheme in lower case. -/
def IsSchemeCharacter (c : Char) : Prop :=
  (c.isAlphanum || c == '+' || c == '-' || c == '.') = true ∧ c.toLower = c

instance (c : Char) : Decidable (IsSchemeCharacter c) :=
  inferInstanceAs (Decidable (_ ∧ _))

/-- A scheme in lower case. -/
structure IsScheme (cs : List Char) : Prop where
  head : cs.head?.any Char.isAlpha = true
  characters : ∀ c ∈ cs, IsSchemeCharacter c

lemma isGraphic_of_schemeCharacter {c : Char}
    (h : (c.isAlphanum || c == '+' || c == '-' || c == '.') = true) : IsGraphic c := by
  simp only [Bool.or_eq_true, beq_iff_eq] at h
  obtain ((letter | rfl) | rfl) | rfl := h
  · exact .of_isAlphanum letter
  · decide
  · decide
  · decide

lemma isSchemeCharacter_toLower {c : Char}
    (h : (c.isAlphanum || c == '+' || c == '-' || c == '.') = true) : IsSchemeCharacter c.toLower :=
  (isGraphic_of_schemeCharacter h).of_listed
    (P := fun c => (c.isAlphanum || c == '+' || c == '-' || c == '.') = true) h (by decide)

/-- Reading on keeps what has been read, and adds characters in lower case. -/
lemma go_eq_some {before rest found : List Char} (h : scheme?.go before cs = some (found, rest)) :
    ∃ more, found = before.reverse ++ more ∧ ∀ c ∈ more, IsSchemeCharacter c := by
  induction cs generalizing before with
  | nil => cases h
  | cons c cs ih =>
      by_cases colon : c = ':'
      · subst colon
        cases h
        exact ⟨[], by simp, List.forall_mem_nil _⟩
      · simp only [scheme?.go] at h
        split at h
        · rename_i allowed
          obtain ⟨more, rfl, characters⟩ := ih h
          refine ⟨c.toLower :: more, by simp, List.forall_mem_cons.mpr ⟨?_, characters⟩⟩
          exact isSchemeCharacter_toLower allowed
        · cases h

lemma isScheme_of_scheme? {rest found : List Char} (h : scheme? cs = some (found, rest)) :
    IsScheme found := by
  cases cs with
  | nil => cases h
  | cons c cs =>
      simp only [scheme?] at h
      split at h
      · rename_i letter
        obtain ⟨more, rfl, characters⟩ := go_eq_some h
        have allowed : (c.isAlphanum || c == '+' || c == '-' || c == '.') = true := by
          rw [Char.isAlphanum, letter]
          rfl
        have lower : c.toLower.isAlpha = true :=
          (isGraphic_of_schemeCharacter allowed).of_listed (P := fun c => c.isAlpha = true) letter
            (by decide)
        exact
          { head := lower
            characters := List.forall_mem_cons.mpr
              ⟨isSchemeCharacter_toLower allowed, characters⟩ }
      · cases h

/-! ### Whole -/

/-- What is known of an address that has been read. -/
structure IsRead (a : Address) : Prop where
  isScheme : IsScheme a.scheme.toList
  username : ∀ c ∈ a.username.toList, Percent.isUserinfoReserved c = false
  password : ∀ c ∈ a.password.toList, Percent.isUserinfoReserved c = false
  host : a.host.IsRead (Family.of a.scheme)
  /-- A port fits into 16 bits, and it is not the one that goes without saying. -/
  port : ∀ port, a.port = some port → port ≤ 65535 ∧ some port ≠ defaultPort? a.scheme
  path : IsPath (Family.of a.scheme) a.path
  /-- There is nothing else in the address of a file, and its host is not this one. -/
  file : a.scheme = "file" →
    a.username = "" ∧ a.password = "" ∧ a.port = none ∧ a.host ≠ .name "localhost"

lemma port_of_readPort {behindHost tail rest : List Char} {port : Option Nat}
    (h : readPort scheme behindHost tail = .ok (port, rest)) :
    ∀ n, port = some n → n ≤ 65535 ∧ some n ≠ defaultPort? scheme := by
  rintro n rfl
  unfold readPort at h
  split at h
  · unfold port? at h
    dsimp only at h
    split at h
    · cases h
    · rename_i small
      split at h
      · cases h
      · split at h
        · cases h
        · rename_i other
          cases h
          simp only [Bool.or_eq_true, decide_eq_true_eq, not_or] at other
          exact ⟨Nat.le_of_not_lt small, other.2⟩
  · cases h

lemma clean_userAndPassword (user : List Char) :
    (∀ c ∈ (userAndPassword user).1.toList, Percent.isUserinfoReserved c = false) ∧
      ∀ c ∈ (userAndPassword user).2.toList, Percent.isUserinfoReserved c = false := by
  have clean : ∀ cs : List Char,
      ∀ c ∈ (String.ofList (Percent.encode Percent.isUserinfoReserved cs)).toList,
        Percent.isUserinfoReserved c = false := by
    intro cs c mem
    rw [String.toList_ofList] at mem
    exact Percent.clean_of_mem_encode (by decide) mem
  exact ⟨clean _, clean _⟩

lemma Family.of_eq_file_iff : Family.of scheme = .file ↔ scheme = "file" := by
  unfold Family.of
  split
  · rename_i port
    refine iff_of_false nofun ?_
    rintro rfl
    revert port
    decide
  · split
    · rename_i file
      exact iff_of_true rfl file
    · rename_i other
      exact iff_of_false nofun other

/-- **What the reader guarantees of an address.** -/
theorem isRead_of_ofText {text : String} (h : ofText text = .ok (some a)) : a.IsRead := by
  obtain ⟨scheme, rest, cs, named, -, h⟩ := ofText_eq_ok_some_iff.mp h
  have isScheme : IsScheme (String.ofList scheme).toList := by
    rw [String.toList_ofList]
    exact isScheme_of_scheme? named
  have authority : ∀ family, Family.of (String.ofList scheme) = family → family ≠ .file →
      ofAuthority (String.ofList scheme) family cs = .ok (some a) → a.IsRead := by
    rintro _ rfl noFile h
    obtain ⟨filled, host, port, rest, hostRead, portRead, rfl⟩ := ofAuthority_eq_ok_some_iff.mp h
    exact
      { isScheme
        username := (clean_userAndPassword _).1
        password := (clean_userAndPassword _).2
        host := isRead_of_readHost filled hostRead
        port := port_of_readPort portRead
        path := isPath_readPath _ _
        file := fun file => absurd (Family.of_eq_file_iff.mpr file) noFile }
  cases family : Family.of (String.ofList scheme) with
  | special =>
      rw [family] at h
      exact authority _ family nofun h
  | other =>
      rw [family] at h
      exact authority _ family nofun h
  | file =>
      rw [family] at h
      obtain ⟨filled, -, host, hostRead, remote, -, rfl⟩ :=
        ofFileAuthority_eq_ok_some_iff.mp (show ofFileAuthority cs = _ from h)
      exact
        { isScheme := by
            rw [Family.of_eq_file_iff.mp family] at isScheme
            exact isScheme
          username := (clean_userAndPassword _).1
          password := (clean_userAndPassword _).2
          host := isRead_of_readHost filled hostRead
          port := nofun
          path := isPath_readPath _ _
          file := fun _ => ⟨rfl, rfl, rfl, remote⟩ }

namespace IsRead

lemma graphic_userinfoText (h : a.IsRead) : Graphic a.userinfoText.toList := by
  have visible : ∀ {cs : List Char}, (∀ c ∈ cs, Percent.isUserinfoReserved c = false) → Graphic cs :=
    fun clean c mem => Percent.isGraphic_of_not_isUserinfoReserved (clean c mem)
  have marks : Graphic ":".toList ∧ Graphic "@".toList := by decide
  unfold userinfoText
  rw [apply_ite String.toList, apply_ite String.toList]
  split
  · exact graphic_nil
  · split
    · rw [String.toList_append, graphic_append_iff]
      exact ⟨visible h.username, marks.2⟩
    · simp only [String.toList_append, graphic_append_iff]
      exact ⟨⟨⟨visible h.username, marks.1⟩, visible h.password⟩, marks.2⟩

lemma graphic_portText (a : Address) : Graphic a.portText.toList := by
  unfold portText
  split
  · exact graphic_nil
  · rw [String.toList_append, graphic_append_iff]
    exact ⟨by decide, graphic_toString _⟩

/-- **The text of an address that was read can be seen.** -/
theorem graphic_text (h : a.IsRead) : Graphic a.text.toList := by
  have named : Graphic a.scheme.toList := fun c mem =>
    isGraphic_of_schemeCharacter (h.isScheme.characters c mem).1
  have path : Graphic a.path.toList := fun c mem =>
    Percent.isGraphic_of_not_isPathReserved (h.path.clean c mem)
  have slashes : Graphic "://".toList := by decide
  simp only [text, String.toList_append, graphic_append_iff]
  exact ⟨⟨⟨⟨⟨named, slashes⟩, h.graphic_userinfoText⟩, h.host.graphic⟩, graphic_portText a⟩, path⟩

end IsRead

end Federation.Address
