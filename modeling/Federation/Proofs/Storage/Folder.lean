import Federation.Proofs.Members
import Federation.Proofs.Text
import Federation.Storage.Path

/-!
# Folders stay where they are

What is put at a place is found there, and nothing that puts or makes folders takes one away.

**Inside.**  `Folder.inside?` looks at folders only and goes down one name at a time, as all changes do.

**Making.**  Once the missing folders on a path have been made, all places on it are folders
(`Folder.passes_of_makeFrom`), and making them again changes nothing (`Folder.makeFrom_of_passes`).

**Putting.**  A folder that holds the folders of the one it takes the place of can be put there without
any other place being lost (`Folder.inside_of_put`), so a path that has been made stays made
(`Folder.make_of_put`).

**Files.**  A file in the working directory is found under its name (`Folder.textAt?_of_name`).
-/

namespace Federation

namespace Folder

/-! ### Inside -/

/-- What the folder at a place holds. -/
def inside? (folder : Folder) : List String → Option Folder
  | [] => some folder
  | name :: rest => ((folder.get? name).bind FileNode.entries?).bind fun entries => inside? entries rest

variable {folder made changed entries : Folder} {name : String} {place rest : List String}

lemma entries?_eq_some_iff {node : FileNode} :
    node.entries? = some entries ↔ node = .folder entries := by
  cases node with
  | file text => simp [FileNode.entries?]
  | folder listed => simp [FileNode.entries?]

lemma inside?_cons_eq_some_iff : inside? folder (name :: rest) = some entries ↔
    ∃ listed, folder.get? name = some (.folder listed) ∧ inside? listed rest = some entries := by
  simp only [inside?, Option.bind_eq_some_iff, entries?_eq_some_iff]
  constructor
  · rintro ⟨listed, ⟨node, found, rfl⟩, inside⟩
    exact ⟨listed, found, inside⟩
  · rintro ⟨listed, found, inside⟩
    exact ⟨listed, ⟨_, found, rfl⟩, inside⟩

lemma inside?_eq (folder : Folder) (place : List String) :
    inside? folder place = (folder.find? place).bind FileNode.entries? := by
  fun_induction find? folder place with
  | case1 folder => rfl
  | case2 folder name =>
      rw [inside?]
      cases (folder.get? name).bind FileNode.entries? <;> rfl
  | case3 folder name rest deeper listed found ih =>
      rw [inside?, found, Option.bind_some]
      exact ih
  | case4 folder name rest deeper absent =>
      rw [inside?, Option.bind_none]
      cases found : folder.get? name with
      | none => rfl
      | some node =>
          cases node with
          | file text => rfl
          | folder listed => exact absurd found (absent listed)

lemma folderAt?_of_inside (inside : inside? folder place = some entries) :
    folder.folderAt? place = some entries := by
  rw [inside?_eq] at inside
  obtain ⟨node, found, holds⟩ := Option.bind_eq_some_iff.mp inside
  rw [folderAt?, found]
  exact holds

/-- A folder that has all places of another. -/
def Covers (larger smaller : Folder) : Prop :=
  ∀ place, (inside? smaller place).isSome = true → (inside? larger place).isSome = true

lemma Covers.refl (folder : Folder) : Covers folder folder :=
  fun _ there => there

/-- Setting an entry to a folder that has all places of the one before loses no place. -/
lemma covers_insert {node : FileNode}
    (kept : ∀ listed, folder.get? name = some (.folder listed) →
      ∃ larger, node = .folder larger ∧ Covers larger listed) :
    Covers (folder.insert name node) folder := by
  intro place there
  cases place with
  | nil => rfl
  | cons first rest =>
      obtain ⟨entries, inside⟩ := Option.isSome_iff_exists.mp there
      obtain ⟨listed, found, deeper⟩ := inside?_cons_eq_some_iff.mp inside
      by_cases same : name = first
      · subst same
        obtain ⟨larger, rfl, covers⟩ := kept listed found
        obtain ⟨entries', inside'⟩ := Option.isSome_iff_exists.mp
          (covers rest (Option.isSome_iff_exists.mpr ⟨entries, deeper⟩))
        exact Option.isSome_iff_exists.mpr ⟨entries',
          inside?_cons_eq_some_iff.mpr ⟨larger, Members.get?_insert_self _ _ _, inside'⟩⟩
      · refine Option.isSome_iff_exists.mpr ⟨entries, inside?_cons_eq_some_iff.mpr ⟨listed, ?_, deeper⟩⟩
        rw [Members.get?_insert_of_ne _ _ same, found]

/-! ### Making -/

/-- What has been made is there, and nothing is lost. -/
lemma inside_of_open (h : folder.open? place = some made) :
    (inside? made place).isSome = true ∧ Covers made folder := by
  fun_induction open? folder place generalizing made with
  | case1 folder =>
      cases h
      exact ⟨rfl, Covers.refl folder⟩
  | case2 folder name rest absent ih =>
      obtain ⟨below, opened, rfl⟩ := Option.map_eq_some_iff.mp h
      obtain ⟨entries, inside⟩ := Option.isSome_iff_exists.mp (ih opened).1
      refine ⟨Option.isSome_iff_exists.mpr ⟨entries,
        inside?_cons_eq_some_iff.mpr ⟨below, Members.get?_insert_self _ _ _, inside⟩⟩, ?_⟩
      refine covers_insert fun listed found => ?_
      rw [absent] at found
      cases found
  | case3 folder name rest listed found ih =>
      obtain ⟨below, opened, rfl⟩ := Option.map_eq_some_iff.mp h
      obtain ⟨there, covers⟩ := ih opened
      obtain ⟨entries, inside⟩ := Option.isSome_iff_exists.mp there
      refine ⟨Option.isSome_iff_exists.mpr ⟨entries,
        inside?_cons_eq_some_iff.mpr ⟨below, Members.get?_insert_self _ _ _, inside⟩⟩, ?_⟩
      refine covers_insert fun listed' found' => ?_
      rw [found, Option.some.injEq, FileNode.folder.injEq] at found'
      exact ⟨below, rfl, found' ▸ covers⟩
  | case4 folder name rest text found => cases h

/-- Nothing is made where there is a folder. -/
lemma open?_of_inside (there : (inside? folder place).isSome = true) :
    folder.open? place = some folder := by
  induction place generalizing folder with
  | nil => rfl
  | cons name rest ih =>
      obtain ⟨entries, inside⟩ := Option.isSome_iff_exists.mp there
      obtain ⟨listed, found, deeper⟩ := inside?_cons_eq_some_iff.mp inside
      rw [open?, found]
      show (open? listed rest).map _ = _
      rw [ih (Option.isSome_iff_exists.mpr ⟨entries, deeper⟩), Option.map_some,
        Members.insert_of_get? found]

/-- The way on from a place, given with its last name first, goes through folders only. -/
def Passes (folder : Folder) : List String → List String → Prop
  | _, [] => True
  | before, name :: rest =>
    name.utf8ByteSize ≤ Path.longestName ∧
      (inside? folder (Path.follow before name).reverse).isSome = true ∧
      Passes folder (Path.follow before name) rest

lemma Passes.mono (covers : Covers made folder) {steps before : List String}
    (passes : Passes folder before steps) : Passes made before steps := by
  induction steps generalizing before with
  | nil => trivial
  | cons name rest ih => exact ⟨passes.1, covers _ passes.2.1, ih passes.2.2⟩

/-- The place that a way leads to is a folder. -/
lemma Passes.inside {steps before : List String} (passes : Passes folder before steps)
    (start : (inside? folder before.reverse).isSome = true ∨ steps ≠ []) :
    (inside? folder (steps.foldl Path.follow before).reverse).isSome = true := by
  induction steps generalizing before with
  | nil => exact start.resolve_right fun moved => moved rfl
  | cons name rest ih => exact ih passes.2.2 (.inl passes.2.1)

lemma passes_of_makeFrom {steps before : List String}
    (h : folder.makeFrom before steps = (made, true)) :
    Passes made before steps ∧ Covers made folder := by
  induction steps generalizing folder before with
  | nil =>
      cases h
      exact ⟨trivial, Covers.refl _⟩
  | cons name rest ih =>
      rw [makeFrom] at h
      split at h
      · cases h
      · rename_i short
        split at h
        · rename_i opened found
          obtain ⟨there, covers⟩ := inside_of_open found
          obtain ⟨passes, covers'⟩ := ih h
          exact ⟨⟨Nat.not_lt.mp short, covers' _ there, passes⟩,
            fun place known => covers' place (covers place known)⟩
        · cases h

lemma makeFrom_of_passes {steps before : List String} (passes : Passes folder before steps) :
    folder.makeFrom before steps = (folder, true) := by
  induction steps generalizing before with
  | nil => rfl
  | cons name rest ih =>
      rw [makeFrom, if_neg (Nat.not_lt.mpr passes.1), open?_of_inside passes.2.1]
      exact ih passes.2.2

/-! ### Putting -/

/-- What is put in the place of a folder is found there, and if it has all places that were there,
nothing is lost. -/
lemma inside_of_put (larger : Folder) (nonempty : place ≠ [])
    (inside : inside? folder place = some entries) :
    ∃ changed, folder.put? (.folder larger) place = some changed ∧
      inside? changed place = some larger ∧ (Covers larger entries → Covers changed folder) := by
  fun_induction put? folder (.folder larger) place with
  | case1 folder => exact absurd rfl nonempty
  | case2 folder name =>
      refine ⟨_, rfl, ?_, fun covers => covers_insert fun listed found => ?_⟩
      · exact inside?_cons_eq_some_iff.mpr ⟨larger, Members.get?_insert_self _ _ _, rfl⟩
      · obtain ⟨listed', found', same⟩ := inside?_cons_eq_some_iff.mp inside
        cases same
        rw [found', Option.some.injEq, FileNode.folder.injEq] at found
        exact ⟨larger, rfl, found ▸ covers⟩
  | case3 folder name rest deeper listed found ih =>
      obtain ⟨listed', found', below⟩ := inside?_cons_eq_some_iff.mp inside
      rw [found, Option.some.injEq, FileNode.folder.injEq] at found'
      subst found'
      obtain ⟨changed, put, there, kept⟩ := ih (fun empty => deeper empty) below
      rw [put]
      refine ⟨_, rfl, ?_, fun covers => covers_insert fun listed' found' => ?_⟩
      · exact inside?_cons_eq_some_iff.mpr ⟨changed, Members.get?_insert_self _ _ _, there⟩
      · rw [found, Option.some.injEq, FileNode.folder.injEq] at found'
        exact ⟨changed, rfl, found' ▸ kept covers⟩
  | case4 folder name rest deeper absent =>
      obtain ⟨listed, found, _⟩ := inside?_cons_eq_some_iff.mp inside
      exact absurd found (absent listed)

/-- **A path that has been made stays made.**  What is put in the folder it leads to is found when it is
made again, and nothing else changes. -/
theorem make_of_put (larger : Folder) {path : String} (made_path : folder.make path = (made, true))
    (nonempty : Path.names path ≠ []) (steps : Path.steps path ≠ []) :
    ∃ entries, made.folderAt? (Path.names path) = some entries ∧
      (Covers larger entries → ∃ changed, made.put? (.folder larger) (Path.names path) = some changed ∧
        changed.make path = (changed, true) ∧ changed.folderAt? (Path.names path) = some larger) := by
  rw [make] at made_path
  split at made_path
  · cases made_path
  · rename_i short
    obtain ⟨passes, -⟩ := passes_of_makeFrom made_path
    obtain ⟨entries, inside⟩ := Option.isSome_iff_exists.mp (passes.inside (.inr steps))
    refine ⟨entries, folderAt?_of_inside inside, fun covers => ?_⟩
    obtain ⟨changed, put, there, kept⟩ := inside_of_put larger nonempty inside
    refine ⟨changed, put, ?_, folderAt?_of_inside there⟩
    rw [make, if_neg short]
    exact makeFrom_of_passes (passes.mono (kept covers))

/-! ### Files -/

/-- A file in the working directory is found under its name, as long as this says nothing else. -/
theorem textAt?_of_name (folder : Folder) {name : String} (nonempty : name ≠ "")
    (plain : '/' ∉ name.toList) (noDots : name ≠ "." ∧ name ≠ Path.above)
    (short : name.utf8ByteSize ≤ Path.longestName) :
    folder.textAt? name = (folder.get? name).bind FileNode.text? := by
  have slash : "/" = String.singleton '/' := rfl
  have filled : name.isEmpty = false := by simpa [String.isEmpty_iff] using nonempty
  have ends : name.endsWith "/" = false := by
    rw [String.endsWith_eq_endsWith_toSlice, String.Slice.endsWith_string_eq_false_iff,
      String.copy_toSlice]
    exact fun suffix => plain (suffix.subset List.mem_cons_self)
  have starts : name.startsWith "/" = false := by
    rw [String.startsWith_eq_startsWith_toSlice, String.Slice.startsWith_string_eq_false_iff,
      String.copy_toSlice]
    exact fun opening => plain (opening.subset List.mem_cons_self)
  have steps : Path.steps name = [name] := by
    rw [Path.steps, slash, Text.splitOn_singleton, List.splitOn_eq_singleton plain, List.map_singleton,
      String.ofList_toList, List.filter_singleton, filled]
    rfl
  have place : folder.locate? name = some [name] := by
    have fits : ¬Path.longestPath < name.utf8ByteSize := by
      have limits : Path.longestName ≤ Path.longestPath := by decide
      omega
    rw [locate?, filled, Bool.false_or, if_neg (by simpa using fits), Path.start, starts, steps]
    show (if _ then some (Path.follow [] name).reverse else none) = _
    have follows : Path.follow [] name = [name] := (if_neg noDots.1).trans (if_neg noDots.2)
    rw [follows]
    exact if_pos (by simp [folderAt?, find?, FileNode.entries?, short])
  rw [textAt?, Path.isFolderPath, filled, ends, place]
  rfl

end Folder

end Federation
