import Federation.Text.Blank
import Mathlib.Data.String.Basic
import Mathlib.Tactic.Lemma

/-!
# Texts are cut and trimmed

**Cutting.**  `String.splitOn` looks for a separator at positions in the bytes of a text.  If the
separator is one character, it cuts the list of characters (`Text.splitOn_singleton`), so parts that do
not hold it come out as they were joined.

**Trimming.**  Nothing is taken off a text without blanks (`Text.trim_eq_self`).
-/

namespace Federation.Text

open String in
/-- Between the places of two parts a text is cut at each separator. -/
lemma splitOnAux_singleton (separator : Char) (l m r : List Char) (before : List String) :
    splitOnAux (ofList (l ++ m ++ r)) (singleton separator) ⟨utf8Len l⟩ ⟨utf8Len l + utf8Len m⟩ 0
        before =
      before.reverse ++ (List.splitOnPPrepend (· == separator) r m.reverse).map ofList := by
  have ends : Pos.Raw.atEnd (ofList (l ++ m ++ r)) ⟨utf8Len l + utf8Len m⟩ = true ↔ r = [] := by
    rw [atEnd_iff, rawEndPos_ofList, utf8Len_append, utf8Len_append, Pos.Raw.mk_le_mk,
      ← utf8Len_eq_zero]
    omega
  have character : Pos.Raw.get (singleton separator) 0 = separator := get_of_valid [] [separator]
  have behind : Pos.Raw.next (singleton separator) 0 = ⟨0 + separator.utf8Size⟩ :=
    next_of_valid [] separator []
  have complete : Pos.Raw.atEnd (singleton separator) ⟨0 + separator.utf8Size⟩ = true := by
    have length : (singleton separator).rawEndPos = ⟨utf8Len [separator]⟩ :=
      rawEndPos_ofList [separator]
    rw [atEnd_iff, length, utf8Len_cons, utf8Len_nil, Pos.Raw.mk_le_mk]
  rw [splitOnAux]
  cases r with
  | nil =>
      rw [if_pos (ends.mpr rfl)]
      simpa using extract_of_valid l m []
  | cons c r =>
      have here := get_of_valid (l ++ m) (c :: r)
      have next := next_of_valid (l ++ m) c r
      have part := extract_of_valid l m (c :: r)
      rw [utf8Len_append] at here next
      rw [if_neg (mt ends.mp (by simp)), here, next, List.headD_cons, character, behind]
      by_cases separates : c = separator
      · subst separates
        have rest := splitOnAux_singleton c (l ++ m ++ [c]) [] r (ofList m :: before)
        have size : utf8Len (l ++ m ++ [c]) = utf8Len l + utf8Len m + c.utf8Size := by
          rw [utf8Len_append, utf8Len_append, utf8Len_cons, utf8Len_nil, Nat.zero_add]
        have back : Pos.Raw.unoffsetBy ⟨utf8Len l + utf8Len m + c.utf8Size⟩ ⟨0 + c.utf8Size⟩ =
            ⟨utf8Len l + utf8Len m⟩ := by
          simp [Pos.Raw.unoffsetBy]
        rw [size, List.append_nil, List.append_assoc (l ++ m), List.singleton_append] at rest
        rw [if_pos (beq_self_eq_true c), if_pos complete, List.splitOnPPrepend_cons_pos (by simp),
          back, part]
        exact rest.trans (by simp)
      · have rest := splitOnAux_singleton separator l (m ++ [c]) r before
        have size : utf8Len (m ++ [c]) = utf8Len m + c.utf8Size := by
          rw [utf8Len_append, utf8Len_cons, utf8Len_nil, Nat.zero_add]
        have other : (c == separator) = false := by simpa using separates
        rw [size, ← Nat.add_assoc, ← List.append_assoc, List.append_assoc (l ++ m),
          List.singleton_append, List.reverse_append, List.reverse_singleton,
          List.singleton_append] at rest
        rw [other, if_neg Bool.false_ne_true, List.splitOnPPrepend_cons_neg (by exact other)]
        exact Eq.trans (congrArg (fun place => splitOnAux _ _ _ place 0 before) next) rest

/-- **A text is cut where a character separates its parts.** -/
theorem splitOn_singleton (s : String) (separator : Char) :
    s.splitOn (String.singleton separator) = (s.toList.splitOn separator).map String.ofList := by
  have cut := splitOnAux_singleton separator [] [] s.toList []
  have filled : (String.singleton separator == "") = false := by
    rw [beq_eq_false_iff_ne]
    intro empty
    have characters := congrArg String.toList empty
    simp at characters
  rw [List.nil_append, List.nil_append, String.ofList_toList] at cut
  rw [String.splitOn, filled, if_neg Bool.false_ne_true]
  exact cut

/-- Nothing is taken off a text without blanks. -/
lemma trim_eq_self {s : String} (visible : ∀ c ∈ s.toList, isBlank c = false) : trim s = s := by
  have kept : ∀ cs : List Char, (∀ c ∈ cs, isBlank c = false) → cs.dropWhile isBlank = cs := by
    intro cs visible
    cases cs with
    | nil => rfl
    | cons c cs => exact List.dropWhile_cons_of_neg (by simp [visible c List.mem_cons_self])
  rw [trim, kept s.toList visible, trimEnd, kept s.toList.reverse (by simpa using visible),
    List.reverse_reverse, String.ofList_toList]

end Federation.Text
