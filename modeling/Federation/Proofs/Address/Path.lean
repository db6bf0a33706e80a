import Federation.Proofs.Address.Percent
import Federation.Proofs.Address.Reading
import Mathlib.Data.String.Basic

/-!
# Paths are read again

**Segments.**  Whatever the family, the segments that stay are clean: they hold nothing that must be
encoded, and no slash (`Address.clean_takeSegments`).  Away from files there are no dot segments among them
either (`Address.noDots_takeSegments`), so all of them stay when they are read again
(`Address.takeSegments_of_settled`).

**Paths.**  `Address.IsPath` is what every path consists of.  A path is cut into the segments between its
slashes (`Address.segments_joined`), so it is read again (`Address.IsPath.readPath_eq`).  This leaves file
paths out: a drive letter that was not at the start may come to stand there.
-/

namespace Federation

namespace Internet

variable {separator : Char} {cs part : List Char}

/-- Cutting at separators is what the library's lists do. -/
lemma splitOn_eq (separator : Char) (cs : List Char) : splitOn separator cs = cs.splitOn separator := by
  induction cs with
  | nil => rfl
  | cons c cs ih =>
      rw [splitOn, ih, List.splitOn_cons_eq_if_modifyHead]
      by_cases here : c = separator
      · rw [if_pos here, if_pos (beq_iff_eq.mpr here)]
      · rw [if_neg here, if_neg (by simpa using here)]
        cases parts : cs.splitOn separator with
        | nil => exact absurd parts (List.splitOn_ne_nil separator cs)
        | cons part parts => rfl

/-- A part holds characters from between the separators. -/
lemma of_mem_splitOn (mem : part ∈ splitOn separator cs) : ∀ c ∈ part, c ∈ cs ∧ c ≠ separator := by
  induction cs generalizing part with
  | nil =>
      rw [List.mem_singleton.mp mem]
      exact fun c mem => nomatch mem
  | cons c cs ih =>
      have later : ∀ {part : List Char}, part ∈ splitOn separator cs →
          ∀ d ∈ part, d ∈ c :: cs ∧ d ≠ separator :=
        fun mem d mem_part => ⟨List.mem_cons_of_mem c (ih mem d mem_part).1, (ih mem d mem_part).2⟩
      rw [splitOn] at mem
      split at mem
      · rcases List.mem_cons.mp mem with rfl | mem
        · exact fun d mem => nomatch mem
        · exact later mem
      · rename_i other
        cases parts : splitOn separator cs with
        | nil =>
            rw [splitOn_eq] at parts
            exact absurd parts (List.splitOn_ne_nil separator cs)
        | cons first rest =>
            rw [parts] at mem later
            rcases List.mem_cons.mp mem with rfl | mem
            · exact List.forall_mem_cons.mpr
                ⟨⟨List.mem_cons_self, other⟩, later List.mem_cons_self⟩
            · exact later (List.mem_cons_of_mem _ mem)

end Internet

namespace Address

variable {family : Family} {before : List String} {raw cs : List Char} {raws : List (List Char)}
  {isLast : Bool}

/-! ### Segments -/

lemma isSlash_slash (family : Family) : isSlash family '/' = true := by
  cases family with
  | special => rfl
  | file => rfl
  | other => rfl

/-- Nothing in a segment must be encoded, and nothing ends it. -/
def Clean (family : Family) (cs : List Char) : Prop :=
  ∀ c ∈ cs, Percent.isPathReserved c = false ∧ isSlash family c = false

/-- A segment stands for neither itself nor the one before it. -/
def NoDots (segment : String) : Prop :=
  isDoubleDot segment = false ∧ isSingleDot segment = false

lemma clean_nil : Clean family [] :=
  fun _ mem => nomatch mem

lemma clean_encode (free : ∀ c ∈ raw, isSlash family c = false) :
    Clean family (Percent.encode Percent.isPathReserved raw) := by
  have noSlash : Percent.escapeCharacters.any (isSlash family) = false := by
    cases family with
    | special => decide
    | file => decide
    | other => decide
  intro c mem
  refine ⟨Percent.clean_of_mem_encode (by decide) mem, ?_⟩
  rcases Percent.mem_encode mem with escape | ⟨mem, -⟩
  · exact Bool.eq_false_iff.mpr (List.any_eq_false.mp noSlash c escape)
  · exact free c mem

lemma clean_letter {c : Char} (letter : c.isAlpha = true) :
    Percent.isPathReserved c = false ∧ isSlash family c = false := by
  have visible : IsGraphic c := .of_isAlphanum (by rw [Char.isAlphanum, letter]; rfl)
  refine visible.of_listed (P := fun c => c.isAlpha = true) letter ?_
  cases family with
  | special => decide
  | file => decide
  | other => decide

/-- A drive letter is a letter and a mark. -/
lemma exists_of_isDrive (drive : isDrive raw = true) :
    ∃ letter mark, raw = [letter, mark] ∧ letter.isAlpha = true ∧ (mark = ':' ∨ mark = '|') := by
  match raw, drive with
  | [letter, mark], drive =>
      rw [isDrive, Bool.and_eq_true, startsLikeDrive, Bool.and_eq_true, Bool.and_eq_true,
        Bool.or_eq_true, beq_iff_eq, beq_iff_eq, beq_iff_eq] at drive
      exact ⟨letter, mark, rfl, drive.2.1⟩

lemma clean_of_isDrive (drive : isDrive raw = true) : Clean family raw := by
  obtain ⟨letter, mark, rfl, isLetter, isMark⟩ := exists_of_isDrive drive
  refine List.forall_mem_cons.mpr ⟨clean_letter isLetter, List.forall_mem_singleton.mpr ?_⟩
  rcases isMark with rfl | rfl
  · exact ⟨by decide, by cases family <;> rfl⟩
  · exact ⟨by decide, by cases family <;> rfl⟩

lemma noDots_empty : NoDots "" := by
  unfold NoDots
  decide +kernel

/-- What stays of the segments before is clean after each segment that is taken. -/
lemma clean_takeSegment (clean : ∀ s ∈ before, Clean family s.toList)
    (free : ∀ c ∈ raw, isSlash family c = false) :
    ∀ s ∈ (takeSegment family before raw isLast).1, Clean family s.toList := by
  have dropped : ∀ s ∈ dropSegment before, Clean family s.toList := by
    unfold dropSegment
    split
    · exact clean
    · split
      · exact clean
      · exact fun s mem => clean s (List.mem_cons_of_mem _ mem)
  have empty : Clean family "".toList := clean_nil
  have encoded : ∀ {raw : List Char}, (∀ c ∈ raw, isSlash family c = false) →
      Clean family (String.ofList (Percent.encode Percent.isPathReserved raw)).toList := by
    intro raw free
    rw [String.toList_ofList]
    exact clean_encode free
  have drive : ∀ {raw : List Char}, isDrive raw = true → Clean family (String.ofList raw).toList := by
    intro raw drive
    rw [String.toList_ofList]
    exact clean_of_isDrive drive
  unfold takeSegment
  dsimp only
  split
  · split
    · exact List.forall_mem_cons.mpr ⟨empty, dropped⟩
    · exact dropped
  · split
    · split
      · exact List.forall_mem_cons.mpr ⟨empty, clean⟩
      · exact clean
    · split
      · split
        · rename_i letter
          rw [List.forall_mem_singleton, String.toList_ofList]
          have mark : Percent.isPathReserved ':' = false ∧ isSlash family ':' = false :=
            ⟨by decide, by cases family <;> rfl⟩
          exact List.forall_mem_append.mpr
            ⟨fun c mem => clean_of_isDrive letter c (List.mem_of_mem_take mem),
              List.forall_mem_singleton.mpr mark⟩
        · split
          · rename_i letter
            rw [Bool.and_eq_true] at letter
            rw [List.forall_mem_cons, List.forall_mem_singleton]
            exact ⟨encoded fun c mem => free c (List.mem_of_mem_drop mem), drive letter.1⟩
          · exact List.forall_mem_singleton.mpr (encoded free)
      · exact List.forall_mem_cons.mpr ⟨encoded free, clean⟩

lemma clean_takeSegments (clean : ∀ s ∈ before, Clean family s.toList)
    (free : ∀ raw ∈ raws, ∀ c ∈ raw, isSlash family c = false) :
    ∀ s ∈ (takeSegments family before raws).1, Clean family s.toList := by
  induction raws generalizing before with
  | nil => exact fun s mem => clean s (List.mem_reverse.mp mem)
  | cons raw rest ih =>
      obtain ⟨here, later⟩ := List.forall_mem_cons.mp free
      rw [takeSegments_cons]
      exact ih (clean_takeSegment clean here) later

/-- Away from files no dots stay. -/
lemma noDots_takeSegment (noFile : family ≠ .file) (noDots : ∀ s ∈ before, NoDots s) :
    ∀ s ∈ (takeSegment family before raw isLast).1, NoDots s := by
  have dropped : ∀ s ∈ dropSegment before, NoDots s := by
    unfold dropSegment
    split
    · exact noDots
    · split
      · exact noDots
      · exact fun s mem => noDots s (List.mem_cons_of_mem _ mem)
  unfold takeSegment
  dsimp only
  split
  · split
    · exact List.forall_mem_cons.mpr ⟨noDots_empty, dropped⟩
    · exact dropped
  · rename_i noDouble
    split
    · split
      · exact List.forall_mem_cons.mpr ⟨noDots_empty, noDots⟩
      · exact noDots
    · rename_i noSingle
      rw [if_neg fun first => noFile first.1]
      exact List.forall_mem_cons.mpr
        ⟨⟨Bool.eq_false_iff.mpr noDouble, Bool.eq_false_iff.mpr noSingle⟩, noDots⟩

lemma noDots_takeSegments (noFile : family ≠ .file) (noDots : ∀ s ∈ before, NoDots s) :
    ∀ s ∈ (takeSegments family before raws).1, NoDots s := by
  induction raws generalizing before with
  | nil => exact fun s mem => noDots s (List.mem_reverse.mp mem)
  | cons raw rest ih =>
      rw [takeSegments_cons]
      exact ih (noDots_takeSegment noFile noDots)

/-- A path never loses all its segments. -/
lemma takeSegments_ne_nil (filled : raws ≠ []) : (takeSegments family before raws).1 ≠ [] := by
  induction raws generalizing before with
  | nil => exact absurd rfl filled
  | cons raw rest ih =>
      rw [takeSegments_cons]
      cases rest with
      | nil =>
          have last : (takeSegment family before raw true).1 ≠ [] := by
            unfold takeSegment
            dsimp only
            split
            · simp
            · split
              · simp
              · split
                · split
                  · simp
                  · split
                    · simp
                    · simp
                · simp
          simpa [takeSegments] using last
      | cons next more => exact ih (by simp)

/-- **Clean segments without dots all stay.** -/
lemma takeSegments_of_settled (noFile : family ≠ .file) {kept : List String}
    (clean : ∀ s ∈ kept, Clean family s.toList) (noDots : ∀ s ∈ kept, NoDots s) :
    takeSegments family before (kept.map String.toList) = (before.reverse ++ kept, true) := by
  induction kept generalizing before with
  | nil => rw [List.map_nil, takeSegments, List.append_nil]
  | cons segment rest ih =>
      obtain ⟨here, later⟩ := List.forall_mem_cons.mp clean
      obtain ⟨here', later'⟩ := List.forall_mem_cons.mp noDots
      have same : Percent.encode Percent.isPathReserved segment.toList = segment.toList :=
        Percent.encode_eq_self fun c mem => (here c mem).1
      have taken : ∀ isLast, takeSegment family before segment.toList isLast =
          (segment :: before, true) := by
        intro isLast
        rw [takeSegment, same, String.ofList_toList]
        simp only [here'.1, here'.2, Bool.false_eq_true, if_false, noFile, false_and]
      rw [List.map_cons, takeSegments_cons, taken, ih later later']
      simp

/-! ### Paths -/

lemma segments_ne_nil (cs : List Char) : segments family cs ≠ [] := by
  rw [segments, Internet.splitOn_eq]
  exact List.splitOn_ne_nil _ _

/-- A path is cut into raw segments without slashes. -/
lemma free_of_mem_segments (mem : raw ∈ segments family cs) : ∀ c ∈ raw, isSlash family c = false := by
  intro c mem_raw
  obtain ⟨mem_path, noSeparator⟩ := Internet.of_mem_splitOn mem c mem_raw
  obtain ⟨d, -, same⟩ := List.mem_map.mp mem_path
  split at same
  · exact absurd same.symm noSeparator
  · rename_i noSlash
    rw [← same]
    exact Bool.eq_false_iff.mpr noSlash

/-- The segments of a path are found between its slashes. -/
lemma segments_joined {kept : List String} (filled : kept ≠ [])
    (clean : ∀ s ∈ kept, Clean family s.toList) :
    segments family (String.intercalate "/" kept).toList = kept.map String.toList := by
  have free : ∀ part ∈ kept.map String.toList, '/' ∉ part := by
    intro part mem slash_mem
    obtain ⟨s, mem', rfl⟩ := List.mem_map.mp mem
    have noSlash := (clean s mem' '/' slash_mem).2
    rw [isSlash_slash] at noSlash
    cases noSlash
  -- no backslash has to be turned around
  have straight : ∀ c ∈ (String.intercalate "/" kept).toList,
      (if isSlash family c then '/' else c) = c := by
    refine forall_mem_intercalate_text ?_ fun s mem c mem_segment => ?_
    · exact List.forall_mem_singleton.mpr (ite_self _)
    · rw [(clean s mem c mem_segment).2]
      rfl
  rw [segments, List.map_congr_left straight, List.map_id', String.toList_intercalate,
    Internet.splitOn_eq]
  exact List.splitOn_intercalate '/' free (by simpa using filled)

/-- What a path consists of: nothing at all, or clean segments behind slashes. -/
inductive IsPath (family : Family) : String → Prop where
  | empty (isOther : family.isSpecial = false) : IsPath family ""
  | joined {kept : List String} (filled : kept ≠ []) (clean : ∀ s ∈ kept, Clean family s.toList)
      (noDots : family ≠ .file → ∀ s ∈ kept, NoDots s) :
      IsPath family ("/" ++ String.intercalate "/" kept)

lemma isPath_pathText {kept : List String} (filled : kept ≠ [])
    (clean : ∀ s ∈ kept, Clean family s.toList) (noDots : family ≠ .file → ∀ s ∈ kept, NoDots s) :
    IsPath family (pathText family kept) := by
  unfold pathText
  split
  · -- in a file path there may be nothing but empty segments
    rename_i file
    cases found : kept.dropWhile String.isEmpty with
    | nil =>
        exact .joined (by simp) (List.forall_mem_singleton.mpr clean_nil)
          fun noFile => absurd file noFile
    | cons first rest =>
        have within : first :: rest ⊆ kept := found ▸ (List.dropWhile_sublist _).subset
        exact .joined (by simp) (fun s mem => clean s (within mem)) fun noFile => absurd file noFile
  · exact .joined filled clean noDots

lemma isPath_readPath (family : Family) (cs : List Char) : IsPath family (readPath family cs).1 := by
  unfold readPath
  split
  · rename_i empty
    rw [Bool.and_eq_true, Bool.not_eq_true'] at empty
    exact .empty empty.2
  · exact isPath_pathText (takeSegments_ne_nil (segments_ne_nil _))
      (clean_takeSegments (List.forall_mem_nil _) fun raw mem => free_of_mem_segments mem)
      fun noFile => noDots_takeSegments noFile (List.forall_mem_nil _)

namespace IsPath

variable {path : String}

/-- Nothing in a path must be encoded. -/
lemma clean (h : IsPath family path) : ∀ c ∈ path.toList, Percent.isPathReserved c = false := by
  have slash : ∀ c ∈ "/".toList, Percent.isPathReserved c = false :=
    List.forall_mem_singleton.mpr (by decide)
  cases h with
  | empty => exact fun c mem => nomatch mem
  | joined filled clean noDots =>
      rw [String.toList_append]
      exact List.forall_mem_append.mpr
        ⟨slash, forall_mem_intercalate_text slash fun s mem c mem_segment =>
          (clean s mem c mem_segment).1⟩

/-- A path is nothing, or it begins with a slash. -/
lemma head (h : IsPath family path) : path.toList = [] ∨ ∃ rest, path.toList = '/' :: rest := by
  cases h with
  | empty => exact .inl rfl
  | joined filled clean noDots => exact .inr ⟨_, String.toList_append⟩

/-- **A path is read again**, unless it is one of a file. -/
theorem readPath_eq (h : IsPath family path) (noFile : family ≠ .file) :
    readPath family path.toList = (path, true) := by
  cases h with
  | empty isOther =>
      rw [readPath, isOther]
      rfl
  | @joined kept filled clean noDots =>
      have written : ("/" ++ String.intercalate "/" kept).toList =
          '/' :: (String.intercalate "/" kept).toList :=
        String.toList_append
      rw [readPath, written]
      simp only [List.head?_cons, Option.any_some, isSlash_slash, if_true, List.drop_succ_cons,
        List.drop_zero, List.isEmpty_cons, Bool.false_and, Bool.false_eq_true, if_false,
        segments_joined filled clean, takeSegments_of_settled noFile clean (noDots noFile), pathText,
        noFile, List.reverse_nil, List.nil_append]

end IsPath

end Address

end Federation
