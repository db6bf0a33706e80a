import Federation.Proofs.Json.Printed

/-!
# Where a written value ends

A value that is written without blanks can be cut off from what follows it without being understood: it
ends at the first comma, colon or closing bracket outside of its own brackets and strings.  So values
written one after the other, with such marks between them, are told apart by the whole text.

**Extents.**  `Json.afterValue` finds that place.  `Json.afterValue_compact` says that it passes over a
written value, floats included, and `Json.compact_append_inj` that two texts that go on with a mark agree
only if the values do.

**Objects.**  `Json.compactObject_inj`: the text of an object determines the names and the texts of the
values, in order.
-/

namespace Federation.Json

/-! ### Extents -/

/-- Where a reader stands that looks at quotes and brackets only. -/
inductive Place where
  | outside
  | inString
  | escaped

/-- The marks that end a value. -/
def marks : List Char := [']', '\x7d', ',', ':']

/-- What follows the value at the start of a text, in so many open brackets. -/
def afterValue : Nat → Place → List Char → List Char
  | _, _, [] => []
  | depth, .escaped, _ :: rest => afterValue depth .inString rest
  | depth, .inString, c :: rest =>
    if c = '"' then afterValue depth .outside rest
    else if c = '\\' then afterValue depth .escaped rest
    else afterValue depth .inString rest
  | depth, .outside, c :: rest =>
    if c = '"' then afterValue depth .inString rest
    else if c ∈ ['[', '\x7b'] then afterValue (depth + 1) .outside rest
    else if c ∈ marks then
      if depth = 0 then c :: rest
      else afterValue (if c ∈ [',', ':'] then depth else depth - 1) .outside rest
    else afterValue depth .outside rest

/-- A character that neither opens nor closes anything. -/
def IsInert (c : Char) : Prop :=
  c ∉ ['"', '[', '\x7b'] ∧ c ∉ marks

/-- What follows a value: nothing, or one of the marks that end it. -/
def Stops (rest : List Char) : Prop :=
  ∀ c ∈ rest.head?, c ∈ marks

variable {depth : Nat} {rest : List Char}

lemma stops_cons {c : Char} (mark : c ∈ marks) : Stops (c :: rest) := by
  intro d mem
  obtain rfl : c = d := by
    simpa using mem
  exact mark

lemma afterValue_of_stops (stops : Stops rest) : afterValue 0 .outside rest = rest := by
  cases rest with
  | nil => rfl
  | cons c rest =>
      have mark := stops c rfl
      have others : ∀ c ∈ marks, c ≠ '"' ∧ c ∉ ['[', '\x7b'] := by simp [marks]
      obtain ⟨noQuote, noBracket⟩ := others c mark
      rw [afterValue, if_neg noQuote, if_neg noBracket, if_pos mark, if_pos rfl]

lemma afterValue_inert {cs : List Char} (inert : ∀ c ∈ cs, IsInert c) :
    afterValue depth .outside (cs ++ rest) = afterValue depth .outside rest := by
  induction cs with
  | nil => rfl
  | cons c cs ih =>
      obtain ⟨⟨opens, noMark⟩, inert⟩ := List.forall_mem_cons.mp inert
      simp only [List.mem_cons, not_or] at opens
      rw [List.cons_append, afterValue, if_neg opens.1, if_neg (by simp [opens.2]), if_neg noMark,
        ih inert]

/-! ### Strings -/

lemma hexDigit_plain : ∀ n < 16, hexDigit n ≠ '"' ∧ hexDigit n ≠ '\\' := by
  decide

lemma afterValue_plain {c : Char} (noQuote : c ≠ '"') (noEscape : c ≠ '\\') :
    afterValue depth .inString (c :: rest) = afterValue depth .inString rest := by
  rw [afterValue, if_neg noQuote, if_neg noEscape]

lemma afterValue_escape (c : Char) :
    afterValue depth .inString (escape c ++ rest) = afterValue depth .inString rest := by
  unfold escape
  split
  case h_8 =>
    rename_i noQuote noEscape _ _ _ _ _
    split
    · rename_i control
      have small := toNat_lt_of_lt_blank control
      obtain ⟨noQuote₁, noEscape₁⟩ := hexDigit_plain (c.toNat / 16) (by omega)
      obtain ⟨noQuote₂, noEscape₂⟩ := hexDigit_plain (c.toNat % 16) (by omega)
      rw [List.cons_append, afterValue, if_neg (by decide), if_pos rfl, List.cons_append, afterValue,
        List.cons_append, afterValue_plain (by decide) (by decide), List.cons_append,
        afterValue_plain (by decide) (by decide), List.cons_append,
        afterValue_plain noQuote₁ noEscape₁, List.cons_append, afterValue_plain noQuote₂ noEscape₂]
      rfl
    · exact afterValue_plain noQuote noEscape
  all_goals rfl

lemma afterValue_quote (s : String) :
    afterValue depth .outside ((quote s).toList ++ rest) = afterValue depth .outside rest := by
  have inside : ∀ cs : List Char, afterValue depth .inString (cs.flatMap escape ++ '"' :: rest) =
      afterValue depth .outside rest := by
    intro cs
    induction cs with
    | nil => rfl
    | cons c cs ih => rw [List.flatMap_cons, List.append_assoc, afterValue_escape, ih]
  have quoted : (quote s).toList ++ rest = '"' :: (s.toList.flatMap escape ++ '"' :: rest) := by
    simp [quote]
  rw [quoted, afterValue, if_pos rfl, inside]

/-- A text is found in its quotes. -/
lemma quote_injective : Function.Injective quote := by
  intro s t same
  have read : ∀ s : String, ((literal? ((quote s).toList.drop 1)).bind fun read =>
      Literal.text? read.1) = some s := by
    intro s
    have inner : (quote s).toList.drop 1 = s.toList.flatMap escape ++ '"' :: [] := by
      simp [quote]
    rw [inner, literal?_quoted]
    exact Literal.text?_ofText s
  exact Option.some.inj ((read s).symm.trans (same ▸ read t))

/-! ### Numbers -/

/-- Nothing in the text opens or closes anything. -/
def Inert (cs : List Char) : Prop :=
  ∀ c ∈ cs, IsInert c

lemma inert_append_iff {cs ds : List Char} : Inert (cs ++ ds) ↔ Inert cs ∧ Inert ds :=
  List.forall_mem_append

lemma inert_cons_iff {c : Char} {cs : List Char} : Inert (c :: cs) ↔ IsInert c ∧ Inert cs :=
  List.forall_mem_cons

lemma isInert_of_isDigit {c : Char} (digit : c.isDigit = true) : IsInert c := by
  have others : ∀ c ∈ ['"', '[', '\x7b'] ++ marks, c.isDigit = false := by simp [marks]
  have noDigit : ∀ cs : List Char, cs ⊆ ['"', '[', '\x7b'] ++ marks → c ∉ cs := by
    intro cs listed mem
    rw [others c (listed mem)] at digit
    cases digit
  exact ⟨noDigit _ (List.subset_append_left _ _), noDigit _ (List.subset_append_right _ _)⟩

/-- The characters of numbers that are no digits. -/
lemma isInert_of_mem : ∀ c ∈ ['-', '+', '.', 'e', '0'], IsInert c := by
  simp [IsInert, marks]

lemma inert_of_subset {cs : List Char} (listed : cs ⊆ ['-', '+', '.', 'e', '0']) : Inert cs :=
  fun c mem => isInert_of_mem c (listed mem)

lemma inert_toDigits (n : Nat) : Inert (Nat.toDigits 10 n) :=
  fun _ mem => isInert_of_isDigit (Nat.isDigit_of_mem_toDigits (by decide) (by decide) mem)

lemma inert_exponentText (power : Int) : Inert (FloatFormat.exponentText power).toList := by
  have text : (FloatFormat.exponentText power).toList =
      (if power < 0 then ['e', '-'] else ['e', '+']) ++ Nat.toDigits 10 power.natAbs := by
    unfold FloatFormat.exponentText
    split
    · simp [Nat.repr_eq_ofList_toDigits, Nat.toString_eq_repr]
      rfl
    · simp [Nat.repr_eq_ofList_toDigits, Nat.toString_eq_repr]
      rfl
  rw [text, inert_append_iff]
  refine ⟨?_, inert_toDigits _⟩
  split
  · exact inert_of_subset (by simp)
  · exact inert_of_subset (by simp)

lemma inert_decimalText (format : FloatFormat) (digits : Nat) (power : Int) :
    Inert (format.decimalText digits power).toList := by
  have shown := inert_toDigits digits
  have point : IsInert '.' := isInert_of_mem _ (by decide)
  have zero : IsInert '0' := isInert_of_mem _ (by decide)
  have zeros : ∀ n, Inert (List.replicate n '0') := fun n c mem =>
    List.eq_of_mem_replicate mem ▸ zero
  unfold FloatFormat.decimalText
  dsimp only
  split
  · split
    · exact fun c mem => by cases mem
    · rename_i digit only
      rw [only] at shown
      rw [String.toList_append, inert_append_iff, String.toList_ofList]
      exact ⟨shown, inert_exponentText _⟩
    · rename_i digit rest _ several
      rw [several, inert_cons_iff] at shown
      rw [String.toList_append, inert_append_iff, String.toList_ofList, inert_cons_iff, inert_cons_iff]
      exact ⟨⟨shown.1, point, shown.2⟩, inert_exponentText _⟩
  · split
    · rw [String.toList_ofList, List.cons_append, List.cons_append, inert_cons_iff, inert_cons_iff,
        inert_append_iff]
      exact ⟨zero, point, zeros _, shown⟩
    · split
      · rw [String.toList_ofList, inert_append_iff, inert_append_iff]
        exact ⟨⟨shown, zeros _⟩, inert_of_subset (by simp)⟩
      · rw [String.toList_ofList, inert_append_iff, inert_cons_iff]
        exact ⟨fun c mem => shown c (List.mem_of_mem_take mem), point,
          fun c mem => shown c (List.mem_of_mem_drop mem)⟩

lemma inert_number (n : Number) : Inert n.text.toList := by
  have sign : IsInert '-' := isInert_of_mem _ (by decide)
  cases n with
  | integer value =>
      rw [Number.text, toList_toString_int]
      split
      · exact inert_cons_iff.mpr ⟨sign, inert_toDigits _⟩
      · exact inert_toDigits _
  | float value =>
      have size : Inert (if value.isZero then "0.0" else
          floatFormat.decimalText (Shortest.digits value).1 (Shortest.digits value).2).toList := by
        split
        · exact inert_of_subset (by simp)
        · exact inert_decimalText _ _ _
      rw [Number.text, FloatFormat.text]
      dsimp only
      split
      · rw [String.toList_append, inert_append_iff]
        exact ⟨inert_cons_iff.mpr ⟨sign, nofun⟩, size⟩
      · exact size

/-! ### Values -/

lemma afterValue_closed {depth : Nat} {c : Char} {rest : List Char} (closes : c ∈ [']', '\x7d']) :
    afterValue (depth + 1) .outside (c :: rest) = afterValue depth .outside rest := by
  have others : ∀ c ∈ [']', '\x7d'], c ≠ '"' ∧ c ∉ ['[', '\x7b'] ∧ c ∈ marks ∧ c ∉ [',', ':'] := by
    simp [marks]
  obtain ⟨noQuote, noBracket, mark, noSeparator⟩ := others c closes
  rw [afterValue, if_neg noQuote, if_neg noBracket, if_pos mark, if_neg (Nat.succ_ne_zero depth),
    if_neg noSeparator, Nat.add_sub_cancel]

lemma afterValue_separated {depth : Nat} {c : Char} {rest : List Char} (separates : c ∈ [',', ':']) :
    afterValue (depth + 1) .outside (c :: rest) = afterValue (depth + 1) .outside rest := by
  have others : ∀ c ∈ [',', ':'], c ≠ '"' ∧ c ∉ ['[', '\x7b'] ∧ c ∈ marks := by
    simp [marks]
  obtain ⟨noQuote, noBracket, mark⟩ := others c separates
  rw [afterValue, if_neg noQuote, if_neg noBracket, if_pos mark, if_neg (Nat.succ_ne_zero depth),
    if_pos separates]

mutual

/-- A written value is passed over. -/
lemma afterValue_compact : ∀ (value : Json) (depth : Nat) (rest : List Char),
    afterValue depth .outside ((compact value).toList ++ rest) = afterValue depth .outside rest
  | .null, depth, rest => by
      rw [compact]
      rfl
  | .boolean true, depth, rest => by
      rw [compact]
      rfl
  | .boolean false, depth, rest => by
      rw [compact]
      rfl
  | .number n, depth, rest => by
      rw [compact]
      exact afterValue_inert (inert_number n)
  | .string s, depth, rest => by
      rw [compact]
      exact afterValue_quote s
  | .array items, depth, rest => by
      have opened : (compact (.array items)).toList ++ rest =
          '[' :: ((compactItems items).toList ++ ']' :: rest) := by
        simp [compact]
      rw [opened]
      exact (afterValue_items items depth _).trans (afterValue_closed (by decide))
  | .object members, depth, rest => by
      have opened : (compact (.object members)).toList ++ rest =
          '\x7b' :: ((compactMembers members).toList ++ '\x7d' :: rest) := by
        simp [compact]
      rw [opened]
      exact (afterValue_members members depth _).trans (afterValue_closed (by decide))

lemma afterValue_items : ∀ (items : List Json) (depth : Nat) (rest : List Char),
    afterValue (depth + 1) .outside ((compactItems items).toList ++ rest) =
      afterValue (depth + 1) .outside rest
  | [], depth, rest => by
      rw [compactItems]
      rfl
  | [item], depth, rest => by
      rw [compactItems]
      exact afterValue_compact item (depth + 1) rest
  | item :: next :: further, depth, rest => by
      have items := afterValue_items (next :: further) depth rest
      rw [compactItems]
      · simp only [String.toList_append, List.append_assoc]
        rw [afterValue_compact item (depth + 1), ← items]
        exact afterValue_separated (by decide)
      · simp

lemma afterValue_members : ∀ (members : List (String × Json)) (depth : Nat) (rest : List Char),
    afterValue (depth + 1) .outside ((compactMembers members).toList ++ rest) =
      afterValue (depth + 1) .outside rest
  | [], depth, rest => by
      rw [compactMembers]
      rfl
  | [(name, value)], depth, rest => by
      rw [compactMembers]
      simp only [String.toList_append, List.append_assoc]
      rw [afterValue_quote, ← afterValue_compact value (depth + 1) rest]
      exact afterValue_separated (by decide)
  | (name, value) :: next :: further, depth, rest => by
      have members := afterValue_members (next :: further) depth rest
      rw [compactMembers]
      · simp only [String.toList_append, List.append_assoc]
        rw [afterValue_quote, ← members]
        refine (afterValue_separated (by decide)).trans ?_
        refine (afterValue_compact value (depth + 1) _).trans ?_
        exact afterValue_separated (by decide)
      · simp

end

/-- **What follows tells where a value ends.**  Two texts that go on with a mark are equal only if the
values in front are written alike. -/
theorem compact_append_inj {a b : Json} {rest rest' : List Char} (stops : Stops rest)
    (stops' : Stops rest') (same : (compact a).toList ++ rest = (compact b).toList ++ rest') :
    compact a = compact b ∧ rest = rest' := by
  have left := (afterValue_compact a 0 rest).trans (afterValue_of_stops stops)
  have right := (afterValue_compact b 0 rest').trans (afterValue_of_stops stops')
  have followed : rest = rest' := by
    rw [← left, same, right]
  subst followed
  exact ⟨String.toList_inj.mp (List.append_cancel_right same), rfl⟩

/-! ### Objects -/

/-- What is written after a member. -/
def afterMember (further : List (String × Json)) (rest : List Char) : List Char :=
  if further.isEmpty then rest else ',' :: ((compactMembers further).toList ++ rest)

lemma toList_compactMembers_cons (name : String) (value : Json) (further : List (String × Json))
    (rest : List Char) :
    (compactMembers ((name, value) :: further)).toList ++ rest =
      (compact (.string name)).toList ++
        ':' :: ((compact value).toList ++ afterMember further rest) := by
  cases further with
  | nil => simp [compactMembers, compact, afterMember]
  | cons next further =>
      rw [compactMembers]
      · simp [compact, afterMember]
      · simp

lemma stops_afterMember (further : List (String × Json)) (rest : List Char) :
    Stops (afterMember further ('\x7d' :: rest)) := by
  unfold afterMember
  split
  · exact stops_cons (by decide)
  · exact stops_cons (by decide)

lemma mapValues_of_compactMembers {members members' : Members Json} {rest rest' : List Char}
    (same : (compactMembers members).toList ++ '\x7d' :: rest =
      (compactMembers members').toList ++ '\x7d' :: rest') :
    Members.mapValues compact members = Members.mapValues compact members' := by
  -- a written name starts with a quote and so is not the end of an object
  have quoted : ∀ (name : String) (value : Json) (further : Members Json) (rest rest' : List Char),
      '\x7d' :: rest ≠ (compactMembers ((name, value) :: further)).toList ++ rest' := by
    intro name value further rest rest' ends
    rw [toList_compactMembers_cons] at ends
    simp [compact, quote] at ends
  induction members generalizing members' with
  | nil =>
      cases members' with
      | nil => rfl
      | cons member further => exact absurd same (quoted _ _ _ _ _)
  | cons member further ih =>
      obtain ⟨name, value⟩ := member
      cases members' with
      | nil => exact absurd same.symm (quoted _ _ _ _ _)
      | cons member' further' =>
          obtain ⟨name', value'⟩ := member'
          rw [toList_compactMembers_cons, toList_compactMembers_cons] at same
          obtain ⟨names, same⟩ :=
            compact_append_inj (stops_cons (by decide)) (stops_cons (by decide)) same
          obtain ⟨values, same⟩ := compact_append_inj (stops_afterMember _ _)
            (stops_afterMember _ _) (List.cons.inj same).2
          have later : Members.mapValues compact further = Members.mapValues compact further' := by
            cases further with
            | nil =>
                cases further' with
                | nil => rfl
                | cons _ _ => cases same
            | cons _ _ =>
                cases further' with
                | nil => cases same
                | cons _ _ => exact ih (List.cons.inj same).2
          rw [compact, compact] at names
          show (name, compact value) :: Members.mapValues compact further = _
          rw [quote_injective names, values, later]
          rfl

lemma compactMembers_of_mapValues {members members' : Members Json}
    (same : Members.mapValues compact members = Members.mapValues compact members') :
    compactMembers members = compactMembers members' := by
  induction members generalizing members' with
  | nil =>
      cases members' with
      | nil => rfl
      | cons _ _ => cases same
  | cons member further ih =>
      obtain ⟨name, value⟩ := member
      cases members' with
      | nil => cases same
      | cons member' further' =>
          obtain ⟨name', value'⟩ := member'
          obtain ⟨member, later⟩ := List.cons.inj same
          obtain ⟨names, values⟩ := Prod.mk.inj member
          have further_eq : afterMember further [] = afterMember further' [] := by
            have empty : further.isEmpty = further'.isEmpty := by
              simpa [Members.mapValues] using congrArg List.isEmpty later
            rw [afterMember, afterMember, empty, ih later]
          have left := toList_compactMembers_cons name value further []
          have right := toList_compactMembers_cons name' value' further' []
          rw [List.append_nil] at left right
          dsimp only at names values
          rw [← String.toList_inj, left, right, names, values, further_eq]

/-- **The text of an object determines its names and the texts of its values**, in order, and nothing
else. -/
theorem compactObject_inj {members members' : Members Json} :
    compactObject members = compactObject members' ↔
      Members.mapValues compact members = Members.mapValues compact members' := by
  have text : ∀ members : Members Json, (compactObject members).toList =
      '\x7b' :: ((compactMembers members).toList ++ '\x7d' :: []) := by
    intro members
    simp [compactObject, compact]
  constructor
  · intro same
    have texts := congrArg String.toList same
    rw [text, text] at texts
    exact mapValues_of_compactMembers (List.cons.inj texts).2
  · intro same
    rw [← String.toList_inj, text, text, compactMembers_of_mapValues same]

end Federation.Json
