import Federation.Proofs.Address.Names
import Federation.Proofs.Address.Path
import Federation.Proofs.Json.Printed

/-!
# Numeric hosts are read again

**Digits.**  Digits of any base up to sixteen denote the number they were written for
(`Internet.ofDigits_toDigits`).

**Four bytes.**  A number of 32 bits is found in its four decimal parts (`Internet.ofDots?_dotText`), and the
reader gives no other numbers (`Internet.lt_of_ofDots?`).  The text is also a name in its own form, and
ends in a number, so it is not taken for a name.

**Eight groups.**  Groups between colons have digits on both sides of every colon, so a double colon is
found where a run of zeros was left out (`Internet.splitDoubleColon_groupsText`), and as many groups are
missing there as the run was long (`Internet.ofColons?_colonText`).
-/

namespace Federation

namespace Internet

variable {base n : Nat} {cs : List Char} {groups : List Nat}

/-! ### Digits -/

lemma value_digitChar (n : Nat) (small : n < 16) : Text.hexValue? n.digitChar = some n := by
  have listed : ∀ n < 16, Text.hexValue? n.digitChar = some n := by decide
  exact listed n small

lemma ofDigits_concat (digits : List Char) (small : n < 16) :
    ofDigits base (digits ++ [n.digitChar]) = ofDigits base digits * base + n := by
  rw [ofDigits, List.foldl_concat, value_digitChar n small]
  rfl

/-- **Digits denote the number they were written for.** -/
theorem ofDigits_toDigits (large : 1 < base) (small : base ≤ 16) (n : Nat) :
    ofDigits base (Nat.toDigits base n) = n := by
  induction n using Nat.strongRecOn with
  | ind n ih =>
      rw [Nat.toDigits_eq_if large]
      split
      · have last := @ofDigits_concat base n [] (show n < 16 by omega)
        rw [List.nil_append] at last
        simpa [ofDigits] using last
      · have rest : n % base < base := Nat.mod_lt n (by omega)
        rw [ofDigits_concat _ (show n % base < 16 by omega),
          ih _ (Nat.div_lt_self (by omega) large), Nat.mul_comm, Nat.div_add_mod]

lemma all_isDigitOf (large : 1 < base) (small : base ≤ 16) (n : Nat) :
    (Nat.toDigits base n).all (isDigitOf base) = true := by
  have digit : ∀ n < base, isDigitOf base n.digitChar = true := fun n lt => by
    rw [isDigitOf, value_digitChar n (by omega)]
    exact decide_eq_true lt
  induction n using Nat.strongRecOn with
  | ind n ih =>
      rw [Nat.toDigits_eq_if large]
      split
      · rename_i single
        simpa using digit n single
      · rw [List.all_append, ih _ (Nat.div_lt_self (by omega) large), List.all_cons, List.all_nil,
          digit _ (Nat.mod_lt n (by omega))]
        rfl

/-- As many places have room for the number. -/
lemma foldl_lt {places : List Nat} (small : ∀ n ∈ places, n < base) :
    places.foldl (fun value n => value * base + n) 0 < base ^ places.length := by
  induction places using List.reverseRecOn with
  | nil => exact Nat.zero_lt_one
  | append_singleton places n ih =>
      have front := ih fun n mem => small n (List.mem_append_left _ mem)
      have here := small n (by simp)
      rw [List.foldl_concat, List.length_append, List.length_singleton, Nat.pow_succ]
      calc places.foldl (fun value n => value * base + n) 0 * base + n
          < places.foldl (fun value n => value * base + n) 0 * base + base :=
            Nat.add_lt_add_left here _
        _ = (places.foldl (fun value n => value * base + n) 0 + 1) * base := (Nat.succ_mul _ _).symm
        _ ≤ base ^ places.length * base := Nat.mul_le_mul_right base front

lemma ofDigits_lt (digits : cs.all (isDigitOf base) = true) : ofDigits base cs < base ^ cs.length := by
  have places := @foldl_lt base (cs.map fun c => (Text.hexValue? c).getD 0) fun n mem => by
    obtain ⟨c, mem', rfl⟩ := List.mem_map.mp mem
    have digit := List.all_eq_true.mp digits c mem'
    rw [isDigitOf] at digit
    cases value : Text.hexValue? c with
    | none =>
        rw [value] at digit
        cases digit
    | some n =>
        rw [value] at digit
        exact of_decide_eq_true digit
  rwa [List.foldl_map, List.length_map] at places

/-! ### Four bytes -/

lemma part?_toDigits (n : Nat) : part? (Nat.toDigits 10 n) = some n := by
  have decimal : baseOf (Nat.toDigits 10 n) = (10, Nat.toDigits 10 n) := by
    rcases Nat.eq_zero_or_pos n with rfl | pos
    · rfl
    · obtain ⟨d, ds, written, nonzero⟩ := Json.toDigits_eq_cons pos
      rw [written]
      unfold baseOf
      split
      all_goals first | rfl | (rename_i same; cases same; exact absurd rfl nonzero)
  have filled : (Nat.toDigits 10 n).isEmpty = false :=
    Bool.eq_false_iff.mpr fun nothing => Nat.toDigits_ne_nil (List.isEmpty_iff.mp nothing)
  rw [part?, filled, decimal]
  simp only [Bool.false_eq_true, if_false, all_isDigitOf (show 1 < 10 by decide) (by decide), if_true,
    ofDigits_toDigits (show 1 < 10 by decide) (by decide)]

/-- The four numbers that an address is written as. -/
def dots (address : Nat) : List Nat :=
  [address / 0x1000000, address / 0x10000 % 0x100, address / 0x100 % 0x100, address % 0x100]

lemma toList_dotText (address : Nat) :
    (dotText address).toList = List.intercalate ['.'] ((dots address).map (Nat.toDigits 10)) := by
  rw [dotText, String.toList_intercalate, List.map_map]
  refine congrArg _ (List.map_congr_left fun n _ => ?_)
  rw [Function.comp_apply, toList_toString]

lemma not_mem_toDigits {c : Char} (other : c.isDigit = false) (n : Nat) : c ∉ Nat.toDigits 10 n := by
  intro mem
  rw [Nat.isDigit_of_mem_toDigits (by decide) (by decide) mem] at other
  cases other

lemma dotParts_dotText (address : Nat) :
    dotParts (dotText address).toList = (dots address).map (Nat.toDigits 10) := by
  have cut : splitOn '.' (dotText address).toList = (dots address).map (Nat.toDigits 10) := by
    rw [toList_dotText, splitOn_eq]
    refine List.splitOn_intercalate '.' (fun part mem => ?_) (by simp [dots])
    obtain ⟨n, -, rfl⟩ := List.mem_map.mp mem
    exact not_mem_toDigits (by decide) n
  rw [dotParts, cut]
  refine if_neg fun nothing => ?_
  rw [dots] at nothing
  exact Nat.toDigits_ne_nil (Option.some.inj nothing)

lemma endsInNumber_dotText (address : Nat) : endsInNumber (dotText address).toList = true := by
  rw [endsInNumber, dotParts_dotText]
  show (_ || (part? (Nat.toDigits 10 (address % 0x100))).isSome) = true
  rw [part?_toDigits, Option.isSome_some, Bool.or_true]

/-- **A number of 32 bits is found in its four decimal parts.** -/
theorem ofDots?_dotText {address : Nat} (small : address < 2 ^ 32) :
    ofDots? (dotText address).toList = some address := by
  have numbers : ((dots address).map (Nat.toDigits 10)).mapM part? = some (dots address) := by
    simp [dots, List.mapM_cons, part?_toDigits]
  rw [ofDots?, dotParts_dotText]
  have length : ¬4 < ((dots address).map (Nat.toDigits 10)).length := by simp [dots]
  simp only [if_neg length, numbers, Option.bind_eq_bind, Option.bind_some]
  have bytes : address / 16777216 ≤ 255 ∧ address / 65536 % 256 ≤ 255 ∧ address / 256 % 256 ≤ 255 := by
    omega
  have last : address % 256 < 256 := by omega
  have value : ((address / 16777216 * 256 + address / 65536 % 256) * 256 + address / 256 % 256) * 256 +
      address % 256 = address := by
    omega
  simpa [dots] using ⟨⟨bytes, last⟩, value⟩

/-- The reader gives numbers of 32 bits only. -/
lemma lt_of_ofDots? {address : Nat} (h : ofDots? cs = some address) : address < 2 ^ 32 := by
  unfold ofDots? at h
  dsimp only at h
  split at h
  · cases h
  · rename_i few
    simp only [Option.bind_eq_bind, Option.bind_eq_some_iff] at h
    obtain ⟨numbers, read, last, -, h⟩ := h
    split at h
    · cases h
    · rename_i fits
      simp only [Bool.or_eq_true, List.any_eq_true, decide_eq_true_eq, not_or, not_exists, not_and,
        Nat.not_lt, Nat.not_le] at fits
      cases h
      have high := @foldl_lt 256 _ fun n mem => Nat.lt_succ_of_le (fits.1 n mem)
      have length : numbers.dropLast.length ≤ 3 := by
        rw [List.length_dropLast, List.length_of_mapM_eq_some read]
        omega
      generalize numbers.dropLast.length = l at fits high length
      generalize numbers.dropLast.foldl (fun value n => value * 256 + n) 0 = value at high
      have whole : 256 ^ l * 256 ^ (4 - l) = 2 ^ 32 := by
        rw [← Nat.pow_add, show l + (4 - l) = 4 by omega]
        decide
      calc value * 256 ^ (4 - l) + last
          < value * 256 ^ (4 - l) + 256 ^ (4 - l) := Nat.add_lt_add_left fits.2 _
        _ = (value + 1) * 256 ^ (4 - l) := by rw [Nat.add_mul, Nat.one_mul]
        _ ≤ 256 ^ l * 256 ^ (4 - l) := Nat.mul_le_mul_right _ high
        _ = 2 ^ 32 := whole

lemma graphic_dotText (address : Nat) : Graphic (dotText address).toList := by
  refine graphic_intercalate_text (by decide) fun part mem => ?_
  obtain ⟨n, -, rfl⟩ := List.mem_map.mp mem
  exact graphic_toString n

lemma dotText_characters (address : Nat) :
    ∀ c ∈ (dotText address).toList, c.isDigit = true ∨ c = '.' := by
  refine forall_mem_intercalate_text (List.forall_mem_singleton.mpr (.inr rfl)) fun part mem c mem_part => ?_
  obtain ⟨n, -, rfl⟩ := List.mem_map.mp mem
  rw [toList_toString] at mem_part
  exact .inl (Nat.isDigit_of_mem_toDigits (by decide) (by decide) mem_part)

end Internet

lemma Domain.labelsOf_eq (cs : List Char) : labelsOf cs = Internet.splitOn '.' cs := by
  induction cs with
  | nil => rfl
  | cons c cs ih =>
      rw [labelsOf, Internet.splitOn, ih]
      by_cases dot : c = '.'
      · rw [if_pos dot, if_pos (beq_iff_eq.mpr dot)]
      · have other : (c == '.') = false := by simpa using dot
        cases Internet.splitOn '.' cs with
        | nil => simp only [dot, other, if_false, Bool.false_eq_true]
        | cons part parts => simp only [dot, other, if_false, Bool.false_eq_true]

/-- Four numbers are a name in its own form, as far as names go. -/
lemma Internet.isOwnForm_dotText (address : Nat) : Domain.IsOwnForm (dotText address) := by
  have each : ∀ c ∈ (dotText address).toList, Domain.IsAllowed c ∧ c.toLower = c ∧ c ≠ 'x' :=
    fun c mem => (graphic_dotText address c mem).of_listed (P := fun c => c.isDigit = true ∨ c = '.')
      (dotText_characters address c mem) (by decide)
  have lower : (dotText address).toList.map Char.toLower = (dotText address).toList :=
    (List.map_congr_left fun c mem => (each c mem).2.1).trans (List.map_id' _)
  refine Domain.isOwnForm_of_lower ?_ (List.any_eq_false.mpr fun c mem => ?_)
    fun c mem => (each c mem).2.1
  · rw [Domain.isPlain, Bool.and_eq_true, lower, Domain.labelsOf_eq]
    refine ⟨List.all_eq_true.mpr fun c mem => (each c mem).1.1,
      List.all_eq_true.mpr fun label mem => ?_⟩
    rw [Bool.not_eq_true', Bool.eq_false_iff]
    intro marked
    have x_mem : 'x' ∈ label := (List.isPrefixOf_iff_prefix.mp marked).subset (by decide)
    exact (each 'x' (of_mem_splitOn mem 'x' x_mem).1).2.2 rfl
  · exact Bool.eq_false_iff.mp (each c mem).1.2

/-! ### Eight groups -/

namespace Internet

variable {groups : List Nat} {cs : List Char}

/-- A group is a number of 16 bits. -/
lemma group?_toDigits {group : Nat} (small : group < 2 ^ 16) :
    group? (Nat.toDigits 16 group) = some group := by
  have filled : (Nat.toDigits 16 group).isEmpty = false :=
    Bool.eq_false_iff.mpr fun nothing => Nat.toDigits_ne_nil (List.isEmpty_iff.mp nothing)
  have short : (Nat.toDigits 16 group).length ≤ 4 :=
    (Nat.length_toDigits_le_iff (by decide) (by decide)).mpr small
  rw [group?, filled, all_isDigitOf (by decide) (by decide), ofDigits_toDigits (by decide) (by decide),
    decide_eq_true short]
  rfl

/-- What is no hexadecimal digit does not stand in a group. -/
lemma not_mem_group {c : Char} (other : isDigitOf 16 c = false) (group : Nat) :
    c ∉ Nat.toDigits 16 group := by
  intro mem
  rw [List.all_eq_true.mp (all_isDigitOf (by decide) (by decide) group) c mem] at other
  cases other

lemma toList_groupsText (groups : List Nat) :
    (groupsText groups).toList = List.intercalate [':'] (groups.map (Nat.toDigits 16)) := by
  rw [groupsText, String.toList_intercalate, List.map_map]
  refine congrArg _ (List.map_congr_left fun n _ => ?_)
  rw [Function.comp_apply, String.toList_ofList]

lemma toList_groupsText_cons (group next : Nat) (rest : List Nat) :
    (groupsText (group :: next :: rest)).toList =
      Nat.toDigits 16 group ++ ':' :: (groupsText (next :: rest)).toList := by
  rw [toList_groupsText, toList_groupsText, List.map_cons, List.map_cons,
    List.intercalate_cons_of_ne_nil (by simp), List.append_assoc]
  rfl

lemma toList_groupsText_singleton (group : Nat) :
    (groupsText [group]).toList = Nat.toDigits 16 group := by
  rw [toList_groupsText]
  simp [List.intercalate]

lemma groupsText_characters (groups : List Nat) :
    ∀ c ∈ (groupsText groups).toList, isDigitOf 16 c = true ∨ c = ':' := by
  rw [toList_groupsText]
  refine List.forall_mem_intercalate (List.forall_mem_singleton.mpr (.inr rfl)) fun part mem c mem_part => ?_
  obtain ⟨n, -, rfl⟩ := List.mem_map.mp mem
  exact .inl (List.all_eq_true.mp (all_isDigitOf (by decide) (by decide) n) c mem_part)

/-- A group begins with a digit. -/
lemma exists_cons_group (group : Nat) (rest : List Nat) (tail : List Char) :
    ∃ d ds, (groupsText (group :: rest)).toList ++ tail = d :: ds ∧ d ≠ ':' := by
  obtain ⟨d, ds, written⟩ := List.exists_cons_of_ne_nil (@Nat.toDigits_ne_nil group 16)
  have other : d ≠ ':' := by
    rintro rfl
    have noColon : ':' ∉ Nat.toDigits 16 group := not_mem_group (by decide) group
    exact noColon (by rw [written]; exact List.mem_cons_self)
  cases rest with
  | nil => exact ⟨d, ds ++ tail, by rw [toList_groupsText_singleton, written]; rfl, other⟩
  | cons next more => exact ⟨d, _, by rw [toList_groupsText_cons, written]; rfl, other⟩

/-! #### Cutting -/

lemma splitDoubleColon_cons {c : Char} {rest : List Char} (single : ∀ ds, c :: rest ≠ ':' :: ':' :: ds) :
    splitDoubleColon (c :: rest) =
      (c :: (splitDoubleColon rest).1, (splitDoubleColon rest).2) := by
  rw [splitDoubleColon]
  rintro ds rfl rfl
  exact single ds rfl

lemma splitDoubleColon_append {digits : List Char} (noColon : ':' ∉ digits) (tail : List Char) :
    splitDoubleColon (digits ++ tail) =
      (digits ++ (splitDoubleColon tail).1, (splitDoubleColon tail).2) := by
  induction digits with
  | nil => rfl
  | cons d digits ih =>
      obtain ⟨here, later⟩ := not_or.mp (mt List.mem_cons.mpr noColon)
      rw [List.cons_append, splitDoubleColon_cons, ih later, List.cons_append]
      rintro ds same
      exact here (List.cons.inj same).1.symm

/-- **There is no double colon between groups**, so the first one comes behind them. -/
theorem splitDoubleColon_groupsText (groups : List Nat) (tail : List Char) :
    splitDoubleColon ((groupsText groups).toList ++ tail) =
      ((groupsText groups).toList ++ (splitDoubleColon tail).1, (splitDoubleColon tail).2) := by
  induction groups with
  | nil => rfl
  | cons group rest ih =>
      have noColon : ':' ∉ Nat.toDigits 16 group := not_mem_group (by decide) group
      cases rest with
      | nil =>
          rw [toList_groupsText_singleton]
          exact splitDoubleColon_append noColon tail
      | cons next more =>
          rw [toList_groupsText_cons, List.append_assoc, splitDoubleColon_append noColon,
            List.cons_append, splitDoubleColon_cons, ih, List.append_assoc, List.cons_append]
          intro ds same
          obtain ⟨d, rest, written, other⟩ := exists_cons_group next more tail
          rw [written] at same
          exact other (List.cons.inj (List.cons.inj same).2).1

lemma splitDoubleColon_nil : splitDoubleColon [] = ([], none) := by
  rw [splitDoubleColon]

lemma splitDoubleColon_colons (rest : List Char) :
    splitDoubleColon (':' :: ':' :: rest) = ([], some rest) := by
  rw [splitDoubleColon]

/-! #### Groups -/

lemma groups?_map (small : ∀ group ∈ groups, group < 2 ^ 16) :
    groups? (groups.map (Nat.toDigits 16)) = some groups := by
  induction groups with
  | nil => rfl
  | cons group rest ih =>
      obtain ⟨here, later⟩ := List.forall_mem_cons.mp small
      cases rest with
      | nil =>
          have noDot : (Nat.toDigits 16 group).contains '.' = false := by
            rw [Bool.eq_false_iff, ne_eq, List.contains_iff_mem]
            exact not_mem_group (by decide) group
          rw [List.map_singleton, groups?, noDot, if_neg Bool.false_ne_true, group?_toDigits here]
          rfl
      | cons next more =>
          have read := ih later
          rw [List.map_cons] at read ⊢
          rw [List.map_cons, groups?, group?_toDigits here, read]
          · rfl
          · intro nothing
            cases nothing

lemma splitOn_groupsText (filled : groups ≠ []) :
    splitOn ':' (groupsText groups).toList = groups.map (Nat.toDigits 16) := by
  rw [toList_groupsText, splitOn_eq]
  refine List.splitOn_intercalate ':' (fun part mem => ?_) (by simpa using filled)
  obtain ⟨group, -, rfl⟩ := List.mem_map.mp mem
  exact not_mem_group (by decide) group

lemma side?_groupsText (small : ∀ group ∈ groups, group < 2 ^ 16) :
    side? (groupsText groups).toList = some groups := by
  rw [side?]
  cases groups with
  | nil => rfl
  | cons group rest =>
      obtain ⟨d, ds, written, -⟩ := exists_cons_group group rest []
      rw [List.append_nil] at written
      rw [splitOn_groupsText (by simp), groups?_map small, written]
      rfl

/-! #### Zeros -/

/-- A run of zero groups at a place. -/
def ZerosAt (groups : List Nat) (place : Nat × Nat) : Prop :=
  groups.take place.1 ++ List.replicate place.2 0 ++ groups.drop (place.1 + place.2) = groups

lemma zerosAt_zeroRun (groups : List Nat) (start : Nat) :
    ZerosAt groups (start, zeroRun (groups.drop start)) := by
  have zeros : (groups.drop start).takeWhile (· == 0) =
      List.replicate (zeroRun (groups.drop start)) 0 :=
    List.eq_replicate_iff.mpr ⟨rfl, fun g mem => by simpa using List.mem_takeWhile_imp mem⟩
  have rest : groups.drop (start + zeroRun (groups.drop start)) =
      (groups.drop start).dropWhile (· == 0) := by
    have split := List.takeWhile_append_dropWhile (p := (· == 0)) (l := groups.drop start)
    rw [← List.drop_drop]
    exact (congrArg (List.drop _) split.symm).trans List.drop_left
  rw [ZerosAt, rest, ← zeros, List.append_assoc, List.takeWhile_append_dropWhile,
    List.take_append_drop]

/-- What is left out is a run of zeros. -/
lemma zerosAt_longestZeroRun (groups : List Nat) : ZerosAt groups (longestZeroRun groups) := by
  refine List.foldlRecOn _ _ ?_ fun best zeros start _ => ?_
  · simp [ZerosAt]
  · dsimp only
    split
    · exact zerosAt_zeroRun groups start
    · exact zeros

/-- **Eight groups are found in their shortest form.** -/
theorem ofColons?_colonText (length : groups.length = 8) (small : ∀ group ∈ groups, group < 2 ^ 16) :
    ofColons? (colonText groups).toList = some groups := by
  have zeros := zerosAt_longestZeroRun groups
  unfold colonText
  generalize longestZeroRun groups = place at zeros ⊢
  obtain ⟨start, run⟩ := place
  dsimp only [ZerosAt] at zeros ⊢
  have filled : groups ≠ [] := fun nothing => by
    rw [nothing] at length
    cases length
  split
  · have cut := splitDoubleColon_groupsText groups []
    rw [splitDoubleColon_nil, List.append_nil] at cut
    rw [ofColons?, cut]
    dsimp only
    rw [splitOn_groupsText filled, groups?_map small]
    exact if_pos length
  · rename_i long
    have before : ∀ group ∈ groups.take start, group < 2 ^ 16 :=
      fun group mem => small group (List.mem_of_mem_take mem)
    have behind : ∀ group ∈ groups.drop (start + run), group < 2 ^ 16 :=
      fun group mem => small group (List.mem_of_mem_drop mem)
    have noDot : (groupsText (groups.take start)).toList.contains '.' = false := by
      rw [Bool.eq_false_iff, ne_eq, List.contains_iff_mem]
      intro dot
      rcases groupsText_characters _ '.' dot with digit | colon
      · cases digit
      · cases colon
    have counted := congrArg List.length zeros
    rw [List.length_append, List.length_append, List.length_replicate, length] at counted
    have cut := splitDoubleColon_groupsText (groups.take start)
      (':' :: ':' :: (groupsText (groups.drop (start + run))).toList)
    rw [splitDoubleColon_colons, List.append_nil] at cut
    have written : (groupsText (groups.take start) ++ "::" ++ groupsText (groups.drop (start + run))).toList =
        (groupsText (groups.take start)).toList ++
          ':' :: ':' :: (groupsText (groups.drop (start + run))).toList := by
      rw [String.toList_append, String.toList_append, List.append_assoc]
      rfl
    rw [written, ofColons?, cut]
    dsimp only
    rw [noDot, side?_groupsText before, side?_groupsText behind, if_neg Bool.false_ne_true]
    show (if _ then _ else _) = _
    rw [if_pos (by omega), show 8 - ((groups.take start).length + (groups.drop (start + run)).length) = run
      by omega, zeros]

/-! #### Bounds -/

lemma lt_of_group? {group : Nat} (h : group? cs = some group) : group < 2 ^ 16 := by
  unfold group? at h
  split at h
  · rename_i digits
    rw [Bool.and_eq_true, Bool.and_eq_true, decide_eq_true_eq] at digits
    rw [← Option.some.inj h]
    calc ofDigits 16 cs
        < 16 ^ cs.length := ofDigits_lt digits.2
      _ ≤ 16 ^ 4 := Nat.pow_le_pow_right (by decide) digits.1.2
  · cases h

lemma le_of_byte? {byte : Nat} (h : byte? cs = some byte) : byte ≤ 255 := by
  unfold byte? at h
  split at h
  · cases h
  · dsimp only at h
    split at h
    · rename_i small
      exact Option.some.inj h ▸ small
    · cases h

/-- Two bytes are a group. -/
lemma lt_of_dottedGroups? (h : dottedGroups? cs = some groups) : ∀ group ∈ groups, group < 2 ^ 16 := by
  unfold dottedGroups? at h
  split at h
  · simp only [Option.bind_eq_bind, Option.bind_eq_some_iff] at h
    obtain ⟨a, a_read, b, b_read, c, c_read, d, d_read, same⟩ := h
    have := le_of_byte? a_read
    have := le_of_byte? b_read
    have := le_of_byte? c_read
    have := le_of_byte? d_read
    rw [← Option.some.inj same, List.forall_mem_cons, List.forall_mem_singleton]
    omega
  · cases h

lemma lt_of_groups? {parts : List (List Char)} (h : groups? parts = some groups) :
    ∀ group ∈ groups, group < 2 ^ 16 := by
  fun_induction groups? parts generalizing groups with
  | case1 =>
      cases h
      exact List.forall_mem_nil _
  | case2 last dotted => exact lt_of_dottedGroups? h
  | case3 last plain =>
      obtain ⟨group, read, rfl⟩ := Option.map_eq_some_iff.mp h
      exact List.forall_mem_singleton.mpr (lt_of_group? read)
  | case4 part rest more ih =>
      simp only [Option.bind_eq_bind, Option.bind_eq_some_iff] at h
      obtain ⟨group, read, groups, later, same⟩ := h
      rw [← Option.some.inj same]
      exact List.forall_mem_cons.mpr ⟨lt_of_group? read, ih later⟩

lemma lt_of_side? (h : side? cs = some groups) : ∀ group ∈ groups, group < 2 ^ 16 := by
  unfold side? at h
  split at h
  · cases h
    exact List.forall_mem_nil _
  · exact lt_of_groups? h

/-- The reader gives eight groups of 16 bits only. -/
lemma length_and_lt_of_ofColons? (h : ofColons? cs = some groups) :
    groups.length = 8 ∧ ∀ group ∈ groups, group < 2 ^ 16 := by
  unfold ofColons? at h
  split at h
  · simp only [Option.bind_eq_bind, Option.bind_eq_some_iff] at h
    obtain ⟨all, read, h⟩ := h
    split at h
    · rename_i eight
      cases h
      exact ⟨eight, lt_of_groups? read⟩
    · cases h
  · split at h
    · cases h
    · simp only [Option.bind_eq_bind, Option.bind_eq_some_iff] at h
      obtain ⟨left, left_read, right, right_read, h⟩ := h
      split at h
      · rename_i known
        cases h
        have zeros : ∀ group ∈ List.replicate (8 - (left.length + right.length)) 0, group < 2 ^ 16 :=
          fun group mem => by simp [List.eq_of_mem_replicate mem]
        refine ⟨?_, List.forall_mem_append.mpr ⟨List.forall_mem_append.mpr
          ⟨lt_of_side? left_read, zeros⟩, lt_of_side? right_read⟩⟩
        rw [List.length_append, List.length_append, List.length_replicate]
        omega
      · cases h

lemma colonText_characters (groups : List Nat) :
    ∀ c ∈ (colonText groups).toList, isDigitOf 16 c = true ∨ c = ':' := by
  unfold colonText
  dsimp only
  split
  · exact groupsText_characters groups
  · have colons : ∀ c ∈ "::".toList, isDigitOf 16 c = true ∨ c = ':' :=
      List.forall_mem_cons.mpr ⟨.inr rfl, List.forall_mem_singleton.mpr (.inr rfl)⟩
    rw [String.toList_append, String.toList_append]
    exact List.forall_mem_append.mpr ⟨List.forall_mem_append.mpr
      ⟨groupsText_characters _, colons⟩, groupsText_characters _⟩

lemma isGraphic_of_isDigitOf {c : Char} (digit : isDigitOf base c = true) : IsGraphic c := by
  have value : Text.hexValue? c ≠ none := by
    intro nothing
    rw [isDigitOf, nothing] at digit
    cases digit
  rw [Text.hexValue?] at value
  split at value
  · rename_i decimal
    exact .of_isDigit decimal
  · split at value
    · rename_i letter
      have low : 97 ≤ c.toNat := letter.1
      have high : c.toNat ≤ 102 := letter.2
      exact ⟨by omega, by omega⟩
    · split at value
      · rename_i letter
        have low : 65 ≤ c.toNat := letter.1
        have high : c.toNat ≤ 70 := letter.2
        exact ⟨by omega, by omega⟩
      · exact absurd rfl value

lemma graphic_colonText (groups : List Nat) : Graphic (colonText groups).toList := by
  intro c mem
  rcases colonText_characters groups c mem with digit | rfl
  · exact isGraphic_of_isDigitOf digit
  · decide

end Internet

end Federation
