import Federation.Proofs.Address.Numeric
import Federation.Proofs.Address.Reading

/-!
# Hosts are read again

**What hosts are.**  `Host.IsRead` says for each kind of host what is known of it once it has been read.

**Their texts.**  `Address.IsHostText` is what it takes to be found again in an authority: no character ends
the user or the authority, and no colon outside brackets ends the host.

**Again.**  `Host.IsRead.readHost_text_iff`: a host is read again from its text if and only if it is settled
(`Host.IsSettled`), which only a name can fail to be, by not being its own ASCII form.
-/

namespace Federation

open Address

variable {family : Family} {cs : List Char} {host : Host}

/-! ### What hosts are -/

/-- What a host is like that has been read by the rules of a family. -/
inductive Host.IsRead (family : Family) : Host → Prop where
  | name {name : String} (isSpecial : family.isSpecial = true) (filled : name ≠ "")
      (allowed : ∀ c ∈ name.toList, Domain.IsAllowed c)
      (noNumber : Internet.endsInNumber name.toList = false) : IsRead family (.name name)
  | kept {name : String} (isOther : family.isSpecial = false) (filled : name ≠ "")
      (allowed : ∀ c ∈ name.toList, isForbiddenInHost c = false ∧ Percent.isControl c = false) :
      IsRead family (.name name)
  | dots {address : Nat} (isSpecial : family.isSpecial = true) (small : address < 2 ^ 32) :
      IsRead family (.dots address)
  | colons {groups : List Nat} (length : groups.length = 8) (small : ∀ group ∈ groups, group < 2 ^ 16) :
      IsRead family (.colons groups)

namespace Address

lemma isRead_of_bracketed (h : bracketed cs = .ok host) : host.IsRead family := by
  unfold bracketed at h
  split at h
  · split at h
    · rename_i groups read
      cases h
      obtain ⟨length, small⟩ := Internet.length_and_lt_of_ofColons? read
      exact .colons length small
    · cases h
  · cases h

/-- The host that a name in ASCII is taken for. -/
inductive Names : String → Host → Prop where
  | name {name : String} (filled : name ≠ "") (noNumber : Internet.endsInNumber name.toList = false) :
      Names name (.name name)
  | dots {name : String} {address : Nat} (number : Internet.endsInNumber name.toList = true)
      (read : Internet.ofDots? name.toList = some address) : Names name (.dots address)

lemma specialHost_eq_ok_iff (noBracket : cs.head? ≠ some '[') : specialHost cs = .ok host ↔
    ∃ name, Domain.toAscii? (Percent.decode cs) = some name ∧ Names name host := by
  rw [specialHost, if_neg noBracket]
  cases Domain.toAscii? (Percent.decode cs) with
  | none => simp
  | some name =>
      simp only [Option.some.injEq, exists_eq_left', String.isEmpty_iff]
      constructor
      · intro h
        split at h
        · cases h
        · rename_i filled
          split at h
          · rename_i number
            split at h
            · rename_i address read
              cases h
              exact .dots number read
            · cases h
          · rename_i noNumber
            cases h
            exact .name filled (Bool.eq_false_iff.mpr noNumber)
      · intro names
        cases names with
        | name filled noNumber => simp [filled, noNumber]
        | dots number read =>
            have filled : name ≠ "" := by
              rintro rfl
              cases number
            simp [filled, number, read]

/-- In what a name may hold there is nothing to decode. -/
lemma specialHost_toList_iff {name : String} (allowed : ∀ c ∈ name.toList, Domain.IsAllowed c) :
    specialHost name.toList = .ok host ↔
      ∃ named, Domain.toAscii? (Text.bytes name) = some named ∧ Names named host := by
  have noBracket : name.toList.head? ≠ some '[' := fun bracket =>
    absurd (allowed _ (List.mem_of_mem_head? bracket)) (by decide)
  have noPercent : '%' ∉ name.toList := fun mem => absurd (allowed _ mem) (by decide)
  rw [specialHost_eq_ok_iff noBracket, Percent.decode_of_not_mem noPercent, String.ofList_toList]

lemma isRead_of_specialHost (isSpecial : family.isSpecial = true) (h : specialHost cs = .ok host) :
    host.IsRead family := by
  by_cases bracket : cs.head? = some '['
  · rw [specialHost, if_pos bracket] at h
    exact isRead_of_bracketed h
  · obtain ⟨name, named, names⟩ := (specialHost_eq_ok_iff bracket).mp h
    cases names with
    | name filled noNumber => exact .name isSpecial filled (Domain.allowed_of_toAscii? named) noNumber
    | dots number read => exact .dots isSpecial (Internet.lt_of_ofDots? read)

lemma isRead_of_otherHost (isOther : family.isSpecial = false) (filled : cs ≠ [])
    (h : otherHost cs = .ok host) : host.IsRead family := by
  unfold otherHost at h
  split at h
  · exact isRead_of_bracketed h
  · split at h
    · cases h
    · rename_i allowed
      cases h
      refine .kept isOther (fun nothing => ?_) fun c mem => ?_
      · exact Percent.encode_ne_nil filled (String.ofList_eq_empty_iff.mp nothing)
      · rw [String.toList_ofList] at mem
        refine ⟨?_, Percent.clean_of_mem_encode (by decide) mem⟩
        rcases Percent.mem_encode mem with escape | ⟨mem, -⟩
        · have kept : Percent.escapeCharacters.any isForbiddenInHost = false := by decide
          exact Bool.eq_false_iff.mpr (List.any_eq_false.mp kept c escape)
        · exact Bool.eq_false_iff.mpr fun forbidden => allowed (List.any_eq_true.mpr ⟨c, mem, forbidden⟩)

/-- **What is known of a host that has been read.** -/
theorem isRead_of_readHost (filled : cs ≠ []) (h : readHost family cs = .ok host) :
    host.IsRead family := by
  unfold readHost at h
  split at h
  · rename_i isSpecial
    exact isRead_of_specialHost isSpecial h
  · rename_i isOther
    exact isRead_of_otherHost (Bool.eq_false_iff.mpr isOther) filled h

/-! ### Their texts -/

/-- A character that ends neither a user nor an authority. -/
def IsInner (c : Char) : Prop :=
  c ≠ '@' ∧ endsAuthority .special c = false

instance (c : Char) : Decidable (IsInner c) :=
  inferInstanceAs (Decidable (_ ∧ _))

lemma IsInner.endsAuthority_eq_false {c : Char} (h : IsInner c) (family : Family) :
    endsAuthority family c = false := by
  cases family with
  | special => exact h.2
  | file => exact h.2
  | other =>
      have marks := h.2
      rw [endsAuthority, Bool.or_eq_false_iff] at marks ⊢
      exact ⟨marks.1, rfl⟩

/-- A text that is found as the host of an authority it stands at the front of. -/
structure IsHostText (cs : List Char) : Prop where
  filled : cs ≠ []
  inner : ∀ c ∈ cs, IsInner c
  hostPart_append : ∀ more, hostPart false (cs ++ more) = cs ++ hostPart false more

/-- Outside brackets a colon ends the host, and nothing else does. -/
lemma hostPart_append_of_plain (plain : ∀ c ∈ cs, c ≠ ':' ∧ c ≠ '[') (more : List Char) :
    hostPart false (cs ++ more) = cs ++ hostPart false more := by
  induction cs with
  | nil => rfl
  | cons c cs ih =>
      obtain ⟨⟨noColon, noBracket⟩, later⟩ := List.forall_mem_cons.mp plain
      rw [List.cons_append, hostPart, if_neg (by simpa using noColon),
        show (c == '[' || (false && c != ']')) = false by simpa using noBracket, ih later,
        List.cons_append]

/-- Inside brackets only a bracket ends it. -/
lemma hostPart_append_of_inside (inside : ']' ∉ cs) (more : List Char) :
    hostPart true (cs ++ ']' :: more) = cs ++ ']' :: hostPart false more := by
  induction cs with
  | nil => rfl
  | cons c cs ih =>
      obtain ⟨here, later⟩ := not_or.mp (mt List.mem_cons.mpr inside)
      have stays : (c == '[' || (true && c != ']')) = true := by
        simpa using .inr (Ne.symm here)
      rw [List.cons_append, hostPart, stays, ih later, List.cons_append]
      simp

lemma isHostText_of_plain (filled : cs ≠ []) (plain : ∀ c ∈ cs, IsInner c ∧ c ≠ ':' ∧ c ≠ '[') :
    IsHostText cs where
  filled := filled
  inner c mem := (plain c mem).1
  hostPart_append := hostPart_append_of_plain fun c mem => (plain c mem).2

end Address

/-- A name is its own ASCII form, where names are put into that form. -/
def Host.IsSettled (family : Family) : Host → Prop
  | .name text => family.isSpecial = true → Domain.IsOwnForm text
  | _ => True

/-- Nothing is encoded in the host. -/
def Host.IsPlain : Host → Prop
  | .name text => Domain.isPlain text.toList = true ∧ ∀ c ∈ text.toList, c.toLower = c
  | _ => True

lemma Host.toList_text_colons (groups : List Nat) :
    (Host.colons groups).text.toList = '[' :: ((Internet.colonText groups).toList ++ [']']) := by
  rw [Host.text, String.toList_append, String.toList_append]
  rfl

namespace Host.IsRead

/-- The text of a host can be seen. -/
lemma graphic (h : host.IsRead family) : Graphic host.text.toList := by
  cases h with
  | name isSpecial filled allowed noNumber => exact fun c mem => (allowed c mem).isGraphic
  | kept isOther filled allowed =>
      refine fun c mem => Percent.isGraphic_of_not_isControl (allowed c mem).2 ?_
      rintro rfl
      exact absurd (allowed _ mem).1 (by decide)
  | dots isSpecial small => exact Internet.graphic_dotText _
  | colons length small =>
      rw [toList_text_colons, graphic_cons_iff, graphic_append_iff]
      exact ⟨by decide, Internet.graphic_colonText _, by decide⟩

lemma isHostText (h : host.IsRead family) : IsHostText host.text.toList := by
  have visible := h.graphic
  cases h with
  | @name name isSpecial filled allowed noNumber =>
      refine isHostText_of_plain (fun nothing => filled (String.toList_eq_nil_iff.mp nothing)) ?_
      exact fun c mem => (visible c mem).of_listed (allowed c mem) (by decide)
  | @kept name isOther filled allowed =>
      refine isHostText_of_plain (fun nothing => filled (String.toList_eq_nil_iff.mp nothing)) ?_
      exact fun c mem => (visible c mem).of_listed (P := fun c => isForbiddenInHost c = false)
        (allowed c mem).1 (by decide)
  | @dots address isSpecial small =>
      refine isHostText_of_plain (fun nothing => ?_) fun c mem => ?_
      · have number := Internet.endsInNumber_dotText address
        rw [show (Internet.dotText address).toList = [] from nothing] at number
        cases number
      · exact (visible c mem).of_listed (P := fun c => c.isDigit = true ∨ c = '.')
          (Internet.dotText_characters address c mem) (by decide)
  | @colons groups length small =>
      have inside : ∀ c ∈ (Internet.colonText groups).toList, IsInner c ∧ c ≠ ']' := fun c mem =>
        (Internet.graphic_colonText groups c mem).of_listed
          (P := fun c => Internet.isDigitOf 16 c = true ∨ c = ':')
          (Internet.colonText_characters groups c mem) (by decide)
      rw [toList_text_colons]
      exact
        { filled := List.cons_ne_nil _ _
          inner := List.forall_mem_cons.mpr ⟨by decide, List.forall_mem_append.mpr
            ⟨fun c mem => (inside c mem).1, List.forall_mem_singleton.mpr (by decide)⟩⟩
          hostPart_append := fun more => by
            have found := hostPart_append_of_inside (fun mem => (inside _ mem).2 rfl) more
            have written : '[' :: ((Internet.colonText groups).toList ++ [']']) ++ more =
                '[' :: ((Internet.colonText groups).toList ++ ']' :: more) := by simp
            rw [written, hostPart]
            show '[' :: hostPart true _ = _
            rw [found]
            simp }

/-- What needs no encoding is its own form. -/
lemma isSettled_of_isPlain (h : host.IsRead family) (plain : host.IsPlain) : host.IsSettled family := by
  cases h with
  | name isSpecial filled allowed noNumber =>
      intro _
      refine Domain.isOwnForm_of_lower plain.1 (List.any_eq_false.mpr fun c mem => ?_) plain.2
      exact Bool.eq_false_iff.mp (allowed c mem).2
  | kept isOther filled allowed => exact fun isSpecial => absurd isSpecial (isOther ▸ Bool.false_ne_true)
  | dots isSpecial small => exact trivial
  | colons length small => exact trivial

/-- No host is taken for a drive letter. -/
lemma isDrive_eq_false (h : host.IsRead family) : isDrive host.text.toList = false := by
  have marks : (':' ∉ host.text.toList ∧ '|' ∉ host.text.toList) ∨
      host.text.toList.head? = some '[' := by
    cases h with
    | name isSpecial filled allowed noNumber =>
        exact .inl ⟨fun mem => absurd (allowed _ mem) (by decide),
          fun mem => absurd (allowed _ mem) (by decide)⟩
    | kept isOther filled allowed =>
        exact .inl ⟨fun mem => absurd (allowed _ mem).1 (by decide),
          fun mem => absurd (allowed _ mem).1 (by decide)⟩
    | dots isSpecial small =>
        exact .inl ⟨fun mem => absurd (Internet.dotText_characters _ _ mem) (by decide),
          fun mem => absurd (Internet.dotText_characters _ _ mem) (by decide)⟩
    | colons length small =>
        rw [toList_text_colons]
        exact .inr rfl
  refine Bool.eq_false_iff.mpr fun drive => ?_
  obtain ⟨letter, mark, written, isLetter, isMark⟩ := exists_of_isDrive drive
  rw [written] at marks
  rcases marks with ⟨noColon, noBar⟩ | bracket
  · rcases isMark with rfl | rfl
    · exact noColon (by simp)
    · exact noBar (by simp)
  · obtain rfl : letter = '[' := Option.some.inj bracket
    exact absurd isLetter (by decide)

end Host.IsRead

/-! ### Again -/

/-- **A host is read again from its text if and only if it is settled.** -/
theorem Host.IsRead.readHost_text_iff (h : host.IsRead family) :
    readHost family host.text.toList = .ok host ↔ host.IsSettled family := by
  cases h with
  | @name name isSpecial filled allowed noNumber =>
      rw [readHost, if_pos isSpecial, Host.text, Host.IsSettled, imp_iff_right isSpecial,
        specialHost_toList_iff allowed]
      constructor
      · rintro ⟨_, named, names⟩
        cases names
        exact named
      · exact fun own => ⟨name, own, .name filled noNumber⟩
  | @kept name isOther filled allowed =>
      have noBracket : name.toList.head? ≠ some '[' := fun bracket =>
        absurd (allowed _ (List.mem_of_mem_head? bracket)).1 (by decide)
      have accepted : ¬name.toList.any isForbiddenInHost = true :=
        Bool.not_eq_true _ ▸ List.any_eq_false.mpr fun c mem => by simp [(allowed c mem).1]
      have same := Percent.encode_eq_self fun c mem => (allowed c mem).2
      rw [readHost, isOther, if_neg Bool.false_ne_true, Host.text, otherHost, if_neg noBracket,
        if_neg accepted, same, String.ofList_toList]
      exact iff_of_true rfl fun isSpecial => absurd isSpecial (isOther ▸ Bool.false_ne_true)
  | @dots address isSpecial small =>
      -- four numbers are read as a name first
      have own := Internet.isOwnForm_dotText address
      rw [readHost, if_pos isSpecial, Host.text, specialHost_toList_iff (Domain.allowed_of_toAscii? own)]
      exact iff_of_true ⟨_, own, .dots (Internet.endsInNumber_dotText address)
        (Internet.ofDots?_dotText small)⟩ trivial
  | @colons groups length small =>
      have read : bracketed (Host.colons groups).text.toList = .ok (.colons groups) := by
        rw [Host.toList_text_colons, bracketed, ← List.cons_append, if_pos List.getLast?_concat]
        simp [Internet.ofColons?_colonText length small]
      have bracket : (Host.colons groups).text.toList.head? = some '[' := by
        rw [Host.toList_text_colons]
        rfl
      have either : readHost family (Host.colons groups).text.toList = .ok (.colons groups) := by
        rw [readHost, specialHost, otherHost, if_pos bracket, if_pos bracket, read, ite_self]
      exact iff_of_true either trivial

end Federation
