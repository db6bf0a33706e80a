import Federation.Json.Document
import Federation.Json.Printer
import Federation.Proofs.Members
import Mathlib.Logic.Basic
import Mathlib.Tactic.Lemma

/-!
# Printed values are read back

What `Json.pretty` and `Json.compact` write are JSON texts, and the reader finds the value in them as it
was written.  The way there and the way back meet at the words and marks of a document
(`Document.tokens`).

**Strings.**  Every text has one way to be written, with its escapes (`Literal.ofText`), and it is the
text of this literal (`Literal.text?_ofText`).

**Numbers.**  An integer is written by its digits (`Numeral.ofInt`).  Where a number ends is seen by what
follows it (`Ends`), so every lemma about a number asks for that.

**Documents.**  The reader makes a document of its own words and marks (`Document.ofTokens?_tokens`), and
a printed value is cut into those of `Json.document?` (`Document.parse?_pretty`,
`Document.parse?_compact`).  Floats are left out: their digits are those of the shortest decimal.

**Values.**  A value without floats, without integers of more than 64 bits and without repeated names is
the value of its document (`value?_of_isSimple`).
-/

namespace Federation.Json

/-! ### Strings -/

/-- How a character is written. -/
def Piece.ofChar (c : Char) : Piece :=
  if c < ' ' ∧ c ∉ ['\x08', '\x0c', '\n', '\r', '\t'] then .codeUnit c.toNat else .character c

/-- How a text is written. -/
def Literal.ofText (s : String) : Literal := s.toList.map Piece.ofChar

lemma codeUnit?_hexDigits : ∀ n < 32,
    codeUnit? '0' '0' (hexDigit (n / 16)) (hexDigit (n % 16)) = some n := by
  decide

lemma toNat_lt_of_lt_blank {c : Char} (control : c < ' ') : c.toNat < 32 := by
  simpa [Char.lt_def, UInt32.lt_iff_toNat_lt] using control

lemma literal?_short {e c : Char} {rest more : List Char} {pieces : Literal}
    (short : escaped? e = some c) (letter : e ≠ 'u') (later : literal? rest = some (pieces, more)) :
    literal? ('\\' :: e :: rest) = some (.character c :: pieces, more) := by
  rw [literal?, short, later]
  · rfl
  · rintro _ _ _ _ _ rfl
    exact absurd rfl letter

lemma literal?_escape {c : Char} {rest more : List Char} {pieces : Literal}
    (later : literal? rest = some (pieces, more)) :
    literal? (escape c ++ rest) = some (Piece.ofChar c :: pieces, more) := by
  unfold escape
  split
  case h_8 =>
    rename_i noQuote noBackslash noBackspace noFeed noNewline noReturn noTab
    split
    · rename_i control
      have unit := codeUnit?_hexDigits c.toNat (toNat_lt_of_lt_blank control)
      have piece : Piece.ofChar c = .codeUnit c.toNat := by
        simp_all [Piece.ofChar]
      simp [literal?, unit, later, piece]
    · rename_i printed
      have piece : Piece.ofChar c = .character c := by
        simp [Piece.ofChar, printed]
      have plain : ¬(c < ' ' ∨ c = '\\') := by
        simp_all
      rw [List.singleton_append, literal?, if_neg plain, later]
      · simp [piece]
      · exact noQuote
      · simp_all
      · simp_all
  all_goals exact literal?_short rfl (by decide) later

lemma literal?_quoted (cs more : List Char) :
    literal? (cs.flatMap escape ++ '"' :: more) = some (cs.map Piece.ofChar, more) := by
  induction cs with
  | nil => rfl
  | cons c rest ih =>
      rw [List.flatMap_cons, List.append_assoc]
      exact literal?_escape ih

lemma characters?_ofChars (cs : List Char) : Literal.characters? (cs.map Piece.ofChar) = some cs := by
  induction cs with
  | nil => rfl
  | cons c rest ih =>
      rw [List.map_cons, Piece.ofChar]
      split
      · rename_i control
        have small := toNat_lt_of_lt_blank control.1
        have notHigh : isHighHalf c.toNat = false := by
          simp only [isHighHalf, Bool.and_eq_false_iff, decide_eq_false_iff_not]
          omega
        have notLow : isLowHalf c.toNat = false := by
          simp only [isLowHalf, Bool.and_eq_false_iff, decide_eq_false_iff_not]
          omega
        unfold Literal.characters?
        simp [notHigh, notLow, ih]
      · simp [Literal.characters?, ih]

lemma Literal.text?_ofText (s : String) : (Literal.ofText s).text? = some s := by
  simp [Literal.text?, Literal.ofText, characters?_ofChars]

/-! ### Numbers -/

/-- What follows does not go on with a number. -/
def Ends (rest : List Char) : Prop :=
  ∀ c ∈ rest.head?, c.isDigit = false ∧ c ∉ ['.', 'e', 'E']

lemma ends_cons {c : Char} {rest : List Char} (digit : c.isDigit = false)
    (other : c ∉ ['.', 'e', 'E']) : Ends (c :: rest) := by
  intro d mem
  obtain rfl : c = d := by
    simpa using mem
  exact ⟨digit, other⟩

lemma natOfDigits_toDigits (n : Nat) : natOfDigits (Nat.toDigits 10 n) = n := by
  have read := Nat.ofDigitChars_ten_toDigits (n := n)
  simpa [Nat.ofDigitChars_eq_foldl, natOfDigits, Nat.mul_comm] using read

lemma digits?_append {ds rest : List Char} (nonempty : ds ≠ []) (digits : ∀ c ∈ ds, c.isDigit = true)
    (ends : Ends rest) : digits? (ds ++ rest) = some (ds, rest) := by
  have front : (ds ++ rest).takeWhile Char.isDigit = ds := by
    rw [List.takeWhile_append_of_pos digits]
    cases rest with
    | nil => simp
    | cons c rest => simp [(ends c rfl).1]
  have back : (ds ++ rest).dropWhile Char.isDigit = rest := by
    rw [List.dropWhile_append_of_pos digits]
    cases rest with
    | nil => simp
    | cons c rest => simp [(ends c rfl).1]
  obtain ⟨d, ds', rfl⟩ := List.exists_cons_of_ne_nil nonempty
  rw [digits?, front, back]

lemma toDigits_eq_cons {n : Nat} (pos : 0 < n) :
    ∃ d ds, Nat.toDigits 10 n = d :: ds ∧ d ≠ '0' := by
  induction n using Nat.strongRecOn with
  | ind n ih =>
      rw [Nat.toDigits_eq_if (by decide)]
      split
      · rename_i small
        have nonzero : ∀ n < 10, 0 < n → Nat.digitChar n ≠ '0' := by decide
        exact ⟨n.digitChar, [], rfl, nonzero n small pos⟩
      · rename_i large
        obtain ⟨d, ds, front, nonzero⟩ := ih (n / 10) (by omega) (by omega)
        exact ⟨d, ds ++ [(n % 10).digitChar], by rw [front, List.cons_append], nonzero⟩

lemma wholeDigits?_toDigits (n : Nat) {rest : List Char} (ends : Ends rest) :
    wholeDigits? (Nat.toDigits 10 n ++ rest) = some (Nat.toDigits 10 n, rest) := by
  rcases Nat.eq_zero_or_pos n with rfl | pos
  · rfl
  · obtain ⟨d, ds, split, nonzero⟩ := toDigits_eq_cons pos
    rw [wholeDigits?]
    · exact digits?_append Nat.toDigits_ne_nil
        (fun c mem => Nat.isDigit_of_mem_toDigits (by decide) (by decide) mem) ends
    · intro tail same
      rw [split, List.cons_append] at same
      exact nonzero (List.cons.inj same).1

lemma unsigned?_toDigits (negative : Bool) (n : Nat) {rest : List Char} (ends : Ends rest) :
    unsigned? negative (Nat.toDigits 10 n ++ rest) =
      some (⟨negative, Nat.toDigits 10 n, none, none⟩, rest) := by
  have noPoint : fraction? rest = some (none, rest) := by
    cases rest with
    | nil => rfl
    | cons c rest =>
        have next := (ends c rfl).2
        rw [fraction?]
        simp_all
  have noExponent : exponent? rest = some (none, rest) := by
    cases rest with
    | nil => rfl
    | cons c rest =>
        have next := (ends c rfl).2
        rw [exponent?] <;> simp_all
  simp [unsigned?, wholeDigits?_toDigits n ends, noPoint, noExponent]

/-- How an integer is written. -/
def Numeral.ofInt (n : Int) : Numeral := ⟨n < 0, Nat.toDigits 10 n.natAbs, none, none⟩

lemma Numeral.value?_ofInt {n : Int} (least : -0x8000000000000000 ≤ n) (most : n < UInt64.size) :
    (Numeral.ofInt n).value? = some (.integer n) := by
  have size : natOfDigits (ofInt n).whole = n.natAbs := natOfDigits_toDigits n.natAbs
  have whole : ((ofInt n).fraction.isNone && (ofInt n).exponent.isNone) = true := rfl
  by_cases negative : n < 0
  · have sign : (ofInt n).negative = true := decide_eq_true negative
    have inRange : n.natAbs ≠ 0 ∧ n.natAbs ≤ 0x8000000000000000 := by omega
    have same : -(n.natAbs : Int) = n := by omega
    simp only [value?, whole, sign, size, if_true, if_pos inRange, same]
  · have sign : (ofInt n).negative = false := decide_eq_false negative
    have inRange : n.natAbs < UInt64.size := by omega
    have same : (n.natAbs : Int) = n := by omega
    simp only [value?, whole, sign, size, if_true, Bool.false_eq_true, if_false, if_pos inRange, same]

lemma toList_toString_int (n : Int) :
    (toString n).toList =
      if n < 0 then '-' :: Nat.toDigits 10 n.natAbs else Nat.toDigits 10 n.natAbs := by
  cases n with
  | ofNat n => simp [toString, Int.repr, Nat.repr_eq_ofList_toDigits]
  | negSucc n => simp [toString, Int.repr, Nat.repr_eq_ofList_toDigits]

lemma isBlank_of_isDigit {c : Char} (digit : c.isDigit = true) : isBlank c = false := by
  rw [Bool.eq_false_iff]
  intro blank
  have cases : c = ' ' ∨ c = '\t' ∨ c = '\n' ∨ c = '\r' := by
    simpa [isBlank, or_assoc] using blank
  rcases cases with rfl | rfl | rfl | rfl <;> cases digit

lemma next?_digit {d : Char} (digit : d.isDigit = true) (rest : List Char) :
    Token.next? (d :: rest) = (unsigned? false (d :: rest)).map fun (numeral, rest) =>
      (Token.number numeral, rest) := by
  unfold Token.next?
  split <;> simp_all

/-! ### Cutting a text -/

lemma tokens?_nil : tokens? [] = some [] := by
  rw [tokens?]

lemma tokens?_blank {c : Char} (blank : isBlank c = true) (rest : List Char) :
    tokens? (c :: rest) = tokens? rest := by
  rw [tokens?, if_pos blank]

lemma tokens?_of_next? {c : Char} {rest after : List Char} {token : Token} {more : List Token}
    (visible : isBlank c = false) (next : Token.next? (c :: rest) = some (token, after))
    (later : tokens? after = some more) : tokens? (c :: rest) = some (token :: more) := by
  rw [tokens?, if_neg (by simp [visible])]
  split
  · simp_all
  · simp_all

/-! ### Documents -/

namespace Document

mutual

/-- The words and marks of a document. -/
def tokens : Document → List Token
  | .null => [.null]
  | .boolean value => [.boolean value]
  | .number numeral => [.number numeral]
  | .string literal => [.string literal]
  | .array items => .openArray :: tokensOfItems items ++ [.closeArray]
  | .object members => .openObject :: tokensOfMembers members ++ [.closeObject]

/-- The words and marks of items, with commas between them. -/
def tokensOfItems : List Document → List Token
  | [] => []
  | [item] => tokens item
  | item :: rest => tokens item ++ .comma :: tokensOfItems rest

/-- The words and marks of members, with commas between them. -/
def tokensOfMembers : List (Literal × Document) → List Token
  | [] => []
  | [(name, value)] => .string name :: .colon :: tokens value
  | (name, value) :: rest =>
    .string name :: .colon :: (tokens value ++ .comma :: tokensOfMembers rest)

end

/-- A value may follow, inside what is open. -/
def Reader.TakesValue (r : Reader) (outer : List Frame) : Prop :=
  ∀ token, token ≠ .closeArray → r.step token = begin outer token

/-- A name may follow, after some members and inside what is open. -/
def Reader.TakesName (r : Reader) (before : List (Literal × Document)) (outer : List Frame) : Prop :=
  ∀ name, r.step (.string name) = some (.wantsColon before name outer)

lemma Reader.takesValue_wantsValue (outer : List Frame) : TakesValue (.wantsValue outer) outer :=
  fun _ _ => rfl

lemma Reader.takesValue_wantsFirstItem (outer : List Frame) :
    TakesValue (.wantsFirstItem outer) (.items [] :: outer) := by
  intro token notClosed
  cases token <;> first | rfl | exact absurd rfl notClosed

lemma Reader.foldlM_cons {r next : Reader} {token : Token} (h : r.step token = some next)
    (more : List Token) : (token :: more).foldlM step r = more.foldlM step next := by
  rw [List.foldlM_cons, h]
  rfl

mutual

lemma foldlM_tokens : ∀ (document : Document) {r : Reader} {outer : List Frame} (more : List Token),
    r.TakesValue outer →
    (document.tokens ++ more).foldlM Reader.step r =
      more.foldlM Reader.step (.complete document outer)
  | .null, _, _, more, ready => Reader.foldlM_cons (ready .null (by simp)) more
  | .boolean value, _, _, more, ready => Reader.foldlM_cons (ready (.boolean value) (by simp)) more
  | .number numeral, _, _, more, ready => Reader.foldlM_cons (ready (.number numeral) (by simp)) more
  | .string literal, _, _, more, ready => Reader.foldlM_cons (ready (.string literal) (by simp)) more
  | .array items, r, outer, more, ready => by
      have opened : r.step .openArray = some (.wantsFirstItem outer) := ready .openArray (by simp)
      rw [tokens, List.append_assoc, List.cons_append, Reader.foldlM_cons opened]
      rcases eq_or_ne items [] with rfl | nonempty
      · exact Reader.foldlM_cons rfl more
      · exact foldlM_tokensOfItems items more nonempty (Reader.takesValue_wantsFirstItem outer)
  | .object members, r, outer, more, ready => by
      have opened : r.step .openObject = some (.wantsFirstName outer) := ready .openObject (by simp)
      have first : Reader.TakesName (.wantsFirstName outer) [] outer := fun _ => rfl
      rw [tokens, List.append_assoc, List.cons_append, Reader.foldlM_cons opened]
      rcases eq_or_ne members [] with rfl | nonempty
      · exact Reader.foldlM_cons rfl more
      · exact foldlM_tokensOfMembers members more nonempty first

lemma foldlM_tokensOfItems : ∀ (items : List Document) {r : Reader} {before : List Document}
    {outer : List Frame} (more : List Token), items ≠ [] → r.TakesValue (.items before :: outer) →
    (tokensOfItems items ++ .closeArray :: more).foldlM Reader.step r =
      more.foldlM Reader.step (.complete (.array (before.reverse ++ items)) outer)
  | [item], _, before, outer, more, _, ready => by
      rw [tokensOfItems, foldlM_tokens item _ ready, Reader.foldlM_cons rfl, List.reverse_cons]
  | item :: next :: rest, _, before, outer, more, _, ready => by
      rw [tokensOfItems, List.append_assoc, foldlM_tokens item _ ready, List.cons_append,
        Reader.foldlM_cons rfl,
        foldlM_tokensOfItems (next :: rest) more (by simp) (Reader.takesValue_wantsValue _)]
      · rw [List.reverse_cons, List.append_assoc, List.singleton_append]
      · simp

lemma foldlM_tokensOfMembers : ∀ (members : List (Literal × Document)) {r : Reader}
    {before : List (Literal × Document)} {outer : List Frame} (more : List Token), members ≠ [] →
    r.TakesName before outer →
    (tokensOfMembers members ++ .closeObject :: more).foldlM Reader.step r =
      more.foldlM Reader.step (.complete (.object (before.reverse ++ members)) outer)
  | [(name, value)], _, before, outer, more, _, ready => by
      rw [tokensOfMembers, List.cons_append, Reader.foldlM_cons (ready name), List.cons_append,
        Reader.foldlM_cons rfl, foldlM_tokens value _ (Reader.takesValue_wantsValue _),
        Reader.foldlM_cons rfl, List.reverse_cons]
  | (name, value) :: next :: rest, _, before, outer, more, _, ready => by
      have further : Reader.TakesName (.wantsName ((name, value) :: before) outer)
          ((name, value) :: before) outer := fun _ => rfl
      rw [tokensOfMembers, List.cons_append, Reader.foldlM_cons (ready name), List.cons_append,
        Reader.foldlM_cons rfl, List.append_assoc,
        foldlM_tokens value _ (Reader.takesValue_wantsValue _), List.cons_append,
        Reader.foldlM_cons rfl, foldlM_tokensOfMembers (next :: rest) more (by simp) further]
      · rw [List.reverse_cons, List.append_assoc, List.singleton_append]
      · simp

end

/-- **A document is made of its words and marks.** -/
theorem ofTokens?_tokens (document : Document) : ofTokens? document.tokens = some document := by
  have whole := foldlM_tokens document [] (Reader.takesValue_wantsValue [])
  rw [List.append_nil] at whole
  simp [ofTokens?, whole, Reader.finish?]

end Document



/-! ### Printed values -/

mutual

/-- The document that is written for a value, unless there is a float in it. -/
def document? : Json → Option Document
  | .null => some .null
  | .boolean value => some (.boolean value)
  | .number (.integer n) => some (.number (.ofInt n))
  | .number (.float _) => none
  | .string s => some (.string (.ofText s))
  | .array items => (documentsOfItems? items).map .array
  | .object members => (documentsOfMembers? members).map .object

/-- The documents that are written for items. -/
def documentsOfItems? : List Json → Option (List Document)
  | [] => some []
  | item :: rest => do return (← document? item) :: (← documentsOfItems? rest)

/-- The names and documents that are written for members. -/
def documentsOfMembers? : List (String × Json) → Option (List (Literal × Document))
  | [] => some []
  | (name, value) :: rest => do
    return (.ofText name, ← document? value) :: (← documentsOfMembers? rest)

end

lemma tokens?_quote {s : String} {rest : List Char} {more : List Token}
    (later : tokens? rest = some more) :
    tokens? ((quote s).toList ++ rest) = some (.string (.ofText s) :: more) := by
  have quoted : (quote s).toList ++ rest = '"' :: (s.toList.flatMap escape ++ '"' :: rest) := by
    simp [quote]
  rw [quoted]
  refine tokens?_of_next? rfl ?_ later
  simp [Token.next?, literal?_quoted, Literal.ofText]

lemma tokens?_integer {n : Int} {rest : List Char} {more : List Token} (ends : Ends rest)
    (later : tokens? rest = some more) :
    tokens? ((toString n).toList ++ rest) = some (.number (.ofInt n) :: more) := by
  rw [toList_toString_int]
  split
  · rename_i negative
    refine tokens?_of_next? rfl ?_ later
    simp [Token.next?, unsigned?_toDigits true _ ends, Numeral.ofInt, negative]
  · rename_i notNegative
    obtain ⟨d, ds, split⟩ := List.exists_cons_of_ne_nil (Nat.toDigits_ne_nil (n := n.natAbs) (b := 10))
    have digit : d.isDigit = true :=
      Nat.isDigit_of_mem_toDigits (b := 10) (n := n.natAbs) (by decide) (by decide) (by simp [split])
    have read := unsigned?_toDigits false n.natAbs ends
    rw [split, List.cons_append] at read
    rw [split, List.cons_append]
    refine tokens?_of_next? ?_ ?_ later
    · exact isBlank_of_isDigit digit
    · rw [next?_digit digit, read]
      simp [Numeral.ofInt, notNegative, split]

lemma tokens?_blanks (n : Nat) (rest : List Char) :
    tokens? (List.replicate n ' ' ++ rest) = tokens? rest := by
  induction n with
  | zero => rfl
  | succ n ih => rw [List.replicate_succ, List.cons_append, tokens?_blank rfl, ih]

lemma toList_lineBreak (level : Nat) (rest : List Char) :
    (lineBreak level).toList ++ rest = '\n' :: (List.replicate (2 * level) ' ' ++ rest) := by
  simp [lineBreak]

lemma tokens?_lineBreak (level : Nat) (rest : List Char) :
    tokens? ((lineBreak level).toList ++ rest) = tokens? rest := by
  rw [toList_lineBreak, tokens?_blank rfl, tokens?_blanks]

lemma tokens?_name (name : String) {rest : List Char} {more : List Token}
    (later : tokens? rest = some more) :
    tokens? ((quote name).toList ++ ':' :: rest) = some (.string (.ofText name) :: .colon :: more) :=
  tokens?_quote (tokens?_of_next? rfl rfl later)

lemma tokens?_member (name : String) {rest : List Char} {more : List Token}
    (later : tokens? rest = some more) :
    tokens? ((quote name).toList ++ ':' :: ' ' :: rest) =
      some (.string (.ofText name) :: .colon :: more) :=
  tokens?_name name ((tokens?_blank rfl rest).trans later)

lemma ends_lineBreak (level : Nat) (rest : List Char) :
    Ends ((lineBreak level).toList ++ rest) := by
  rw [toList_lineBreak]
  exact ends_cons rfl (by decide)

lemma toList_prettyAt_array {items : List Json} (nonempty : items ≠ []) (level : Nat)
    (rest : List Char) :
    (prettyAt level (.array items)).toList ++ rest =
      '[' :: ((prettyItems (level + 1) items).toList ++ ((lineBreak level).toList ++ ']' :: rest)) := by
  rw [prettyAt]
  · simp
  · exact nonempty

lemma toList_prettyAt_object {members : List (String × Json)} (nonempty : members ≠ []) (level : Nat)
    (rest : List Char) :
    (prettyAt level (.object members)).toList ++ rest =
      '\x7b' :: ((prettyMembers (level + 1) members).toList ++
        ((lineBreak level).toList ++ '\x7d' :: rest)) := by
  rw [prettyAt]
  · simp
  · exact nonempty

lemma ne_nil_of_documentsOfItems? {item : Json} {rest : List Json} {documents : List Document}
    (written : documentsOfItems? (item :: rest) = some documents) : documents ≠ [] := by
  obtain ⟨_, _, written⟩ := Option.bind_eq_some_iff.mp written
  obtain ⟨_, _, same⟩ := Option.bind_eq_some_iff.mp written
  cases same
  simp

lemma ne_nil_of_documentsOfMembers? {member : String × Json} {rest : List (String × Json)}
    {documents : List (Literal × Document)}
    (written : documentsOfMembers? (member :: rest) = some documents) : documents ≠ [] := by
  obtain ⟨_, _, written⟩ := Option.bind_eq_some_iff.mp written
  obtain ⟨_, _, same⟩ := Option.bind_eq_some_iff.mp written
  cases same
  simp

mutual

/-- A printed value is cut into the words and marks of its document. -/
lemma tokens?_prettyAt : ∀ (value : Json) {document : Document} (level : Nat) {rest : List Char}
    {more : List Token}, value.document? = some document → Ends rest → tokens? rest = some more →
    tokens? ((prettyAt level value).toList ++ rest) = some (document.tokens ++ more)
  | .null, _, level, rest, more, written, ends, later => by
      cases written
      rw [prettyAt]
      exact tokens?_of_next? rfl rfl later
  | .boolean true, _, level, rest, more, written, ends, later => by
      cases written
      rw [prettyAt]
      exact tokens?_of_next? rfl rfl later
  | .boolean false, _, level, rest, more, written, ends, later => by
      cases written
      rw [prettyAt]
      exact tokens?_of_next? rfl rfl later
  | .number (.integer n), _, level, rest, more, written, ends, later => by
      cases written
      rw [prettyAt]
      exact tokens?_integer ends later
  | .string s, _, level, rest, more, written, ends, later => by
      cases written
      rw [prettyAt]
      exact tokens?_quote later
  | .array items, _, level, rest, more, written, ends, later => by
      obtain ⟨documents, inside, rfl⟩ := Option.map_eq_some_iff.mp written
      have closed : tokens? (']' :: rest) = some (.closeArray :: more) := tokens?_of_next? rfl rfl later
      by_cases empty : items = []
      · cases empty
        cases inside
        rw [prettyAt]
        exact tokens?_of_next? rfl rfl closed
      · rw [toList_prettyAt_array empty]
        refine tokens?_of_next? rfl rfl ?_
        rw [tokens?_prettyItems items (level + 1) inside (ends_lineBreak level _)
          ((tokens?_lineBreak level _).trans closed)]
        simp
  | .object members, _, level, rest, more, written, ends, later => by
      obtain ⟨documents, inside, rfl⟩ := Option.map_eq_some_iff.mp written
      have closed : tokens? ('\x7d' :: rest) = some (.closeObject :: more) :=
        tokens?_of_next? rfl rfl later
      by_cases empty : members = []
      · cases empty
        cases inside
        rw [prettyAt]
        exact tokens?_of_next? rfl rfl closed
      · rw [toList_prettyAt_object empty]
        refine tokens?_of_next? rfl rfl ?_
        rw [tokens?_prettyMembers members (level + 1) inside (ends_lineBreak level _)
          ((tokens?_lineBreak level _).trans closed)]
        simp

lemma tokens?_prettyItems : ∀ (items : List Json) {documents : List Document} (level : Nat)
    {rest : List Char} {more : List Token}, documentsOfItems? items = some documents → Ends rest →
    tokens? rest = some more →
    tokens? ((prettyItems level items).toList ++ rest) =
      some (Document.tokensOfItems documents ++ more)
  | [], _, level, rest, more, written, ends, later => by
      cases written
      exact later
  | [item], _, level, rest, more, written, ends, later => by
      obtain ⟨document, here, nil⟩ := Option.bind_eq_some_iff.mp written
      cases nil
      rw [prettyItems, String.toList_append, List.append_assoc, tokens?_lineBreak]
      exact tokens?_prettyAt item level here ends later
  | item :: next :: rest, _, level, after, more, written, ends, later => by
      obtain ⟨document, here, written⟩ := Option.bind_eq_some_iff.mp written
      obtain ⟨documents, there, same⟩ := Option.bind_eq_some_iff.mp written
      cases same
      have further : tokens? (',' :: ((prettyItems level (next :: rest)).toList ++ after)) =
          some (.comma :: (Document.tokensOfItems documents ++ more)) :=
        tokens?_of_next? rfl rfl (tokens?_prettyItems (next :: rest) level there ends later)
      have first := tokens?_prettyAt item level here (ends_cons rfl (by decide)) further
      rw [prettyItems, Document.tokensOfItems]
      · simpa [tokens?_lineBreak] using first
      · exact ne_nil_of_documentsOfItems? there
      · simp

lemma tokens?_prettyMembers : ∀ (members : List (String × Json))
    {documents : List (Literal × Document)} (level : Nat) {rest : List Char} {more : List Token},
    documentsOfMembers? members = some documents → Ends rest → tokens? rest = some more →
    tokens? ((prettyMembers level members).toList ++ rest) =
      some (Document.tokensOfMembers documents ++ more)
  | [], _, level, rest, more, written, ends, later => by
      cases written
      exact later
  | [(name, value)], _, level, rest, more, written, ends, later => by
      obtain ⟨document, here, nil⟩ := Option.bind_eq_some_iff.mp written
      cases nil
      have named := tokens?_member name (tokens?_prettyAt value level here ends later)
      rw [prettyMembers, Document.tokensOfMembers]
      simpa [tokens?_lineBreak] using named
  | (name, value) :: next :: rest, _, level, after, more, written, ends, later => by
      obtain ⟨document, here, written⟩ := Option.bind_eq_some_iff.mp written
      obtain ⟨documents, there, same⟩ := Option.bind_eq_some_iff.mp written
      cases same
      have further : tokens? (',' :: ((prettyMembers level (next :: rest)).toList ++ after)) =
          some (.comma :: (Document.tokensOfMembers documents ++ more)) :=
        tokens?_of_next? rfl rfl (tokens?_prettyMembers (next :: rest) level there ends later)
      have first := tokens?_prettyAt value level here (ends_cons rfl (by decide)) further
      have named := tokens?_member name first
      rw [prettyMembers, Document.tokensOfMembers]
      · simpa [tokens?_lineBreak] using named
      · exact ne_nil_of_documentsOfMembers? there
      · simp

end

/-- **A printed value is read back**: what `Json.pretty` writes is the document of the value. -/
theorem Document.parse?_pretty {value : Json} {document : Document}
    (written : value.document? = some document) : Document.parse? (pretty value) = some document := by
  have ends : Ends [] := by
    simp [Ends]
  have cut := tokens?_prettyAt value 0 written ends tokens?_nil
  rw [List.append_nil, List.append_nil] at cut
  rw [Document.parse?, pretty, cut]
  exact Document.ofTokens?_tokens document

/-! ### Printed without blanks -/

mutual

/-- What is written without blanks is cut into the same words and marks. -/
lemma tokens?_compact : ∀ (value : Json) {document : Document} {rest : List Char}
    {more : List Token}, value.document? = some document → Ends rest → tokens? rest = some more →
    tokens? ((compact value).toList ++ rest) = some (document.tokens ++ more)
  | .null, _, rest, more, written, ends, later => by
      cases written
      rw [compact]
      exact tokens?_of_next? rfl rfl later
  | .boolean true, _, rest, more, written, ends, later => by
      cases written
      rw [compact]
      exact tokens?_of_next? rfl rfl later
  | .boolean false, _, rest, more, written, ends, later => by
      cases written
      rw [compact]
      exact tokens?_of_next? rfl rfl later
  | .number (.integer n), _, rest, more, written, ends, later => by
      cases written
      rw [compact]
      exact tokens?_integer ends later
  | .string s, _, rest, more, written, ends, later => by
      cases written
      rw [compact]
      exact tokens?_quote later
  | .array items, _, rest, more, written, ends, later => by
      obtain ⟨documents, inside, rfl⟩ := Option.map_eq_some_iff.mp written
      have closed : tokens? (']' :: rest) = some (.closeArray :: more) := tokens?_of_next? rfl rfl later
      have cut := tokens?_compactItems items inside (ends_cons rfl (by decide)) closed
      have opened : (compact (.array items)).toList ++ rest =
          '[' :: ((compactItems items).toList ++ ']' :: rest) := by
        simp [compact]
      rw [opened]
      exact tokens?_of_next? rfl rfl (by simpa [Document.tokens] using cut)
  | .object members, _, rest, more, written, ends, later => by
      obtain ⟨documents, inside, rfl⟩ := Option.map_eq_some_iff.mp written
      have closed : tokens? ('\x7d' :: rest) = some (.closeObject :: more) :=
        tokens?_of_next? rfl rfl later
      have cut := tokens?_compactMembers members inside (ends_cons rfl (by decide)) closed
      have opened : (compact (.object members)).toList ++ rest =
          '\x7b' :: ((compactMembers members).toList ++ '\x7d' :: rest) := by
        simp [compact]
      rw [opened]
      exact tokens?_of_next? rfl rfl (by simpa [Document.tokens] using cut)

lemma tokens?_compactItems : ∀ (items : List Json) {documents : List Document} {rest : List Char}
    {more : List Token}, documentsOfItems? items = some documents → Ends rest →
    tokens? rest = some more →
    tokens? ((compactItems items).toList ++ rest) =
      some (Document.tokensOfItems documents ++ more)
  | [], _, rest, more, written, ends, later => by
      cases written
      exact later
  | [item], _, rest, more, written, ends, later => by
      obtain ⟨document, here, nil⟩ := Option.bind_eq_some_iff.mp written
      cases nil
      exact tokens?_compact item here ends later
  | item :: next :: rest, _, after, more, written, ends, later => by
      obtain ⟨document, here, written⟩ := Option.bind_eq_some_iff.mp written
      obtain ⟨documents, there, same⟩ := Option.bind_eq_some_iff.mp written
      cases same
      have further : tokens? (',' :: ((compactItems (next :: rest)).toList ++ after)) =
          some (.comma :: (Document.tokensOfItems documents ++ more)) :=
        tokens?_of_next? rfl rfl (tokens?_compactItems (next :: rest) there ends later)
      have first := tokens?_compact item here (ends_cons rfl (by decide)) further
      rw [compactItems, Document.tokensOfItems]
      · simpa using first
      · exact ne_nil_of_documentsOfItems? there
      · simp

lemma tokens?_compactMembers : ∀ (members : List (String × Json))
    {documents : List (Literal × Document)} {rest : List Char} {more : List Token},
    documentsOfMembers? members = some documents → Ends rest → tokens? rest = some more →
    tokens? ((compactMembers members).toList ++ rest) =
      some (Document.tokensOfMembers documents ++ more)
  | [], _, rest, more, written, ends, later => by
      cases written
      exact later
  | [(name, value)], _, rest, more, written, ends, later => by
      obtain ⟨document, here, nil⟩ := Option.bind_eq_some_iff.mp written
      cases nil
      have named := tokens?_name name (tokens?_compact value here ends later)
      rw [compactMembers, Document.tokensOfMembers]
      simpa using named
  | (name, value) :: next :: rest, _, after, more, written, ends, later => by
      obtain ⟨document, here, written⟩ := Option.bind_eq_some_iff.mp written
      obtain ⟨documents, there, same⟩ := Option.bind_eq_some_iff.mp written
      cases same
      have further : tokens? (',' :: ((compactMembers (next :: rest)).toList ++ after)) =
          some (.comma :: (Document.tokensOfMembers documents ++ more)) :=
        tokens?_of_next? rfl rfl (tokens?_compactMembers (next :: rest) there ends later)
      have first := tokens?_compact value here (ends_cons rfl (by decide)) further
      have named := tokens?_name name first
      rw [compactMembers, Document.tokensOfMembers]
      · simpa using named
      · exact ne_nil_of_documentsOfMembers? there
      · simp

end

/-- What `Json.compact` writes is cut into the words and marks of the value. -/
lemma tokens?_toList_compact {value : Json} {document : Document}
    (written : value.document? = some document) :
    tokens? value.compact.toList = some document.tokens := by
  have ends : Ends [] := by
    simp [Ends]
  have cut := tokens?_compact value written ends tokens?_nil
  rwa [List.append_nil, List.append_nil] at cut

/-- **What is written without blanks is read back** as the document of the value. -/
theorem Document.parse?_compact {value : Json} {document : Document}
    (written : value.document? = some document) : Document.parse? value.compact = some document := by
  rw [Document.parse?, tokens?_toList_compact written]
  exact Document.ofTokens?_tokens document

/-! ### Values read back -/

mutual

/-- All numbers in a value are integers of 64 bits, and no object repeats a name. -/
def isSimple : Json → Bool
  | .number (.integer n) => decide (-0x8000000000000000 ≤ n ∧ n < UInt64.size)
  | .number (.float _) => false
  | .array items => areSimple items
  | .object members => decide (Members.keys members).Nodup && areSimpleMembers members
  | _ => true

/-- All values of a list are simple. -/
def areSimple : List Json → Bool
  | [] => true
  | item :: rest => isSimple item && areSimple rest

/-- All members of a list are simple. -/
def areSimpleMembers : List (String × Json) → Bool
  | [] => true
  | (_, value) :: rest => isSimple value && areSimpleMembers rest

end

mutual

/-- A simple value is the value of its document. -/
lemma value?_of_isSimple : ∀ {value : Json}, value.isSimple = true →
    ∃ document, value.document? = some document ∧ document.value? = some value
  | .null, _ => ⟨_, rfl, rfl⟩
  | .boolean _, _ => ⟨_, rfl, rfl⟩
  | .number (.integer n), simple => by
      obtain ⟨least, most⟩ := of_decide_eq_true simple
      refine ⟨_, rfl, ?_⟩
      rw [Document.value?, Numeral.value?_ofInt least most]
      rfl
  | .string s, _ => by
      refine ⟨_, rfl, ?_⟩
      rw [Document.value?, Literal.text?_ofText]
      rfl
  | .array items, simple => by
      obtain ⟨documents, written, values⟩ := valuesOfItems?_of_areSimple simple
      refine ⟨.array documents, ?_, ?_⟩
      · rw [document?, written]
        rfl
      · rw [Document.value?, values]
        rfl
  | .object members, simple => by
      rw [isSimple, Bool.and_eq_true] at simple
      obtain ⟨documents, written, values⟩ := valuesOfMembers?_of_areSimple simple.2
      refine ⟨.object documents, ?_, ?_⟩
      · rw [document?, written]
        rfl
      · have distinct : (Members.keys members).Nodup := of_decide_eq_true simple.1
        have same : Members.ofList members = members := Members.foldl_insert_of_distinct distinct
        rw [Document.value?, values, Option.map_some, same]

lemma valuesOfItems?_of_areSimple : ∀ {items : List Json}, areSimple items = true →
    ∃ documents, documentsOfItems? items = some documents ∧
      Document.valuesOfItems? documents = some items
  | [], _ => ⟨[], rfl, rfl⟩
  | item :: rest, simple => by
      rw [areSimple, Bool.and_eq_true] at simple
      obtain ⟨document, here, value⟩ := value?_of_isSimple simple.1
      obtain ⟨documents, there, values⟩ := valuesOfItems?_of_areSimple simple.2
      refine ⟨document :: documents, ?_, ?_⟩
      · rw [documentsOfItems?, here, there]
        rfl
      · rw [Document.valuesOfItems?, value, values]
        rfl

lemma valuesOfMembers?_of_areSimple : ∀ {members : List (String × Json)},
    areSimpleMembers members = true →
    ∃ documents, documentsOfMembers? members = some documents ∧
      Document.valuesOfMembers? documents = some members
  | [], _ => ⟨[], rfl, rfl⟩
  | (name, value) :: rest, simple => by
      rw [areSimpleMembers, Bool.and_eq_true] at simple
      obtain ⟨document, here, same⟩ := value?_of_isSimple simple.1
      obtain ⟨documents, there, values⟩ := valuesOfMembers?_of_areSimple simple.2
      refine ⟨(.ofText name, document) :: documents, ?_, ?_⟩
      · rw [documentsOfMembers?, here, there]
        rfl
      · rw [Document.valuesOfMembers?, Literal.text?_ofText, same, values]
        rfl

end

/-- A simple value is read back from its text, if it is not nested too deep. -/
lemma parse?_compact {value : Json} (simple : value.isSimple = true)
    (shallow : (value.document?.all fun document => decide (document.depth ≤ maxDepth)) = true) :
    parse? value.compact = some value := by
  obtain ⟨document, written, same⟩ := value?_of_isSimple simple
  rw [written, Option.all_some, decide_eq_true_eq] at shallow
  simp [parse?, Document.parse?_compact written, shallow, same]

end Federation.Json
