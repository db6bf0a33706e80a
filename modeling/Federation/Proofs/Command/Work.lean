import Federation.Command.Run
import Federation.Proofs.Checks
import Federation.Proofs.Json.Reading
import Federation.Proofs.Signing
import Federation.Proofs.Storage.Folder

/-!
# Steps of commands

What the steps of a command do to the files it works on.

**Reading.**  A step that only reads leaves everything as it is (`Work.Reads`), and one that only prints
leaves the files (`Work.Prints`).  The steps that follow each other do what each of them does.

**The store.**  A store that has been written back is the one that is opened next
(`Work.openStore_of_closeStore`): the path to it has been made, and what is written there has all folders
that were there before.
-/

namespace Federation.Command.Work

variable {α β : Type} {desk desk' mid : Desk}

/-! ### Reading and printing -/

/-- The step leaves everything as it is. -/
def Reads (x : Work α) : Prop := ∀ desk, (x desk).2 = desk

namespace Reads

lemma pure (a : α) : Reads (Pure.pure a : Work α) := fun _ => rfl

lemma fail (message : String) : Reads (Work.fail message : Work α) := fun _ => rfl

lemma bind {x : Work α} {f : α → Work β} (first : Reads x) (later : ∀ a, Reads (f a)) :
    Reads (x >>= f) := by
  intro desk
  show (ExceptT.bindCont f (x desk).1 (x desk).2).2 = desk
  rw [first desk]
  cases (x desk).1 with
  | error message => rfl
  | ok a => exact later a desk

lemma orFail {ε : Type} (result : Except ε α) (message : String) :
    Reads (Work.orFail result message) := by
  cases result with
  | error _ => exact fail message
  | ok a => exact pure a

lemma loadText (path message : String) : Reads (Work.loadText path message) := by
  intro desk
  rw [Work.loadText]
  cases desk.files.textAt? path with
  | none => rfl
  | some text => rfl

lemma readJson (path : String) : Reads (Work.readJson path) := by
  refine bind (loadText path _) fun text => ?_
  cases Json.parse? text with
  | none => exact fail _
  | some value => exact pure value

lemma readObject (path : String) : Reads (Work.readObject path) := by
  refine bind (readJson path) fun value => ?_
  cases value with
  | object members => exact pure members
  | _ => exact fail _

lemma readKey (path : String) : Reads (Work.readKey path) :=
  bind (loadText path _) fun text => orFail (SigningKey.read text) _

end Reads

lemma Reads.of_eq {x : Work α} {a : α} (reads : Reads x) (h : x desk = (.ok a, desk')) :
    desk' = desk := by
  have kept := reads desk
  rw [h] at kept
  exact kept

/-- The step succeeds and leaves the files as they are. -/
def Prints (x : Work Unit) : Prop := ∀ desk, (x desk).1 = .ok () ∧ (x desk).2.files = desk.files

namespace Prints

lemma pure : Prints (Pure.pure () : Work Unit) := fun _ => ⟨rfl, rfl⟩

lemma say (line : String) : Prints (Work.say line) := fun _ => ⟨rfl, rfl⟩

lemma bind {x : Work Unit} {f : Unit → Work Unit} (first : Prints x) (later : Prints (f ())) :
    Prints (x >>= f) := by
  intro desk
  show (ExceptT.bindCont f (x desk).1 (x desk).2).1 = .ok () ∧
    (ExceptT.bindCont f (x desk).1 (x desk).2).2.files = desk.files
  obtain ⟨done, kept⟩ := first desk
  rw [done, ← kept]
  exact later (x desk).2

end Prints

lemma bind_of_eq {x : Work α} {f : α → Work β} {a : α} (h : x desk = (.ok a, mid)) :
    (x >>= f) desk = f a mid := by
  show ExceptT.bindCont f (x desk).1 (x desk).2 = f a mid
  rw [h]
  rfl

lemma orFail_eq_ok_iff {ε : Type} {result : Except ε α} {message : String} {a : α} :
    orFail result message desk = (.ok a, desk') ↔ result = .ok a ∧ desk = desk' := by
  cases result with
  | error e =>
      constructor
      · intro h
        cases h
      · rintro ⟨h, _⟩
        cases h
  | ok b =>
      constructor
      · intro h
        cases h
        exact ⟨rfl, rfl⟩
      · rintro ⟨h, rfl⟩
        cases h
        rfl

lemma loadText_eq_ok {path text : String} (found : desk.files.textAt? path = some text)
    (message : String) : loadText path message desk = (.ok text, desk) := by
  rw [loadText, found]

/-- The key is read whose text a file holds. -/
lemma readKey_of_text {path : String} {key : SigningKey} (length : key.seed.length = 32)
    (found : desk.files.textAt? path = some key.text) : readKey path desk = (.ok key, desk) := by
  rw [readKey, bind_of_eq (loadText_eq_ok found _)]
  exact orFail_eq_ok_iff.mpr ⟨SigningKey.read_text length, rfl⟩

/-- The object is read whose text a file holds. -/
lemma readObject_of_text {path text : String} {members : Members Json}
    (parsed : Json.parse? text = some (.object members))
    (found : desk.files.textAt? path = some text) : readObject path desk = (.ok members, desk) := by
  have read : readJson path desk = (.ok (.object members), desk) := by
    rw [readJson, bind_of_eq (loadText_eq_ok found _), parsed]
    rfl
  rw [readObject, bind_of_eq read]
  rfl

/-- The members of an object in a file are well-formed. -/
lemma wellFormed_of_readObject {path : String} {members : Members Json}
    (h : readObject path desk = (.ok members, desk')) : (Json.object members).WellFormed := by
  obtain ⟨value, mid, read, h⟩ := ExceptT.bind_eq_ok_iff.mp h
  obtain ⟨text, mid', _, parsed⟩ := ExceptT.bind_eq_ok_iff.mp read
  cases found : Json.parse? text with
  | none =>
      rw [found] at parsed
      cases parsed
  | some value =>
      rw [found] at parsed
      cases parsed
      cases value with
      | object members =>
          cases h
          exact Json.wellFormed_of_parse? found
      | _ => cases h

/-! ### The store -/

variable {i : Invocation} {s : Surroundings} {store changed : StatementStore}

lemma storeLocation_eq_ok_iff {location : String} :
    storeLocation i s desk = (.ok location, desk') ↔
      i.storeLocation? s.environment = some location ∧ desk = desk' := by
  rw [storeLocation]
  cases i.storeLocation? s.environment with
  | none =>
      constructor
      · intro h
        cases h
      · rintro ⟨h, _⟩
        cases h
  | some given =>
      constructor
      · intro h
        cases h
        exact ⟨rfl, rfl⟩
      · rintro ⟨h, rfl⟩
        cases h
        rfl

/-- The store is what the folder at its path holds, once this has been made. -/
lemma openStore_eq_ok_iff : openStore i s desk = (.ok store, desk') ↔
    i.storeLocation? s.environment = some store.location ∧
      desk.files.make (storePath store.location) = (desk'.files, true) ∧
      store.entries = (desk'.files.folderAt? (Path.names (storePath store.location))).getD [] ∧
      desk'.output = desk.output := by
  rw [openStore, ExceptT.bind_eq_ok_iff]
  constructor
  · rintro ⟨location, mid, located, h⟩
    obtain ⟨given, rfl⟩ := storeLocation_eq_ok_iff.mp located
    dsimp only at h
    split at h
    · rename_i files made
      cases h
      exact ⟨given, made, rfl, rfl⟩
    · cases h
  · rintro ⟨given, made, entries, output⟩
    refine ⟨store.location, desk, storeLocation_eq_ok_iff.mpr ⟨given, rfl⟩, ?_⟩
    dsimp only
    rw [made]
    obtain ⟨location, listed⟩ := store
    obtain ⟨files, printed⟩ := desk'
    dsimp only at entries output ⊢
    rw [entries, output]

/-- The path of the store ends in its own name. -/
lemma steps_storePath (location : String) :
    ∃ before, Path.steps (storePath location) = before ++ [StatementStore.folderName] := by
  have slash : "/" = String.singleton '/' := rfl
  have name : StatementStore.folderName.toList.splitOn '/' = [StatementStore.folderName.toList] :=
    List.splitOn_eq_singleton (by decide)
  have alone : StatementStore.folderName.splitOn "/" = [StatementStore.folderName] := by
    rw [slash, Text.splitOn_singleton, name, List.map_singleton, String.ofList_toList]
  have behind : ∀ base : String, (base ++ "/" ++ StatementStore.folderName).splitOn "/" =
      base.splitOn "/" ++ [StatementStore.folderName] := by
    intro base
    have characters : (base ++ "/" ++ StatementStore.folderName).toList =
        base.toList ++ '/' :: StatementStore.folderName.toList := by
      simp
    rw [slash] at characters ⊢
    rw [Text.splitOn_singleton, Text.splitOn_singleton, characters, List.splitOn_append_cons_self,
      name, List.map_append, List.map_singleton, String.ofList_toList]
  have kept : ∀ parts : List String,
      (parts ++ [StatementStore.folderName]).filter (fun name => !name.isEmpty) =
        parts.filter (fun name => !name.isEmpty) ++ [StatementStore.folderName] := by
    intro parts
    rw [List.filter_append]
    rfl
  rw [storePath, StatementStore.joined, Path.steps]
  split
  · rw [alone]
    exact ⟨[], kept []⟩
  · split
    · rename_i slashed
      rw [String.endsWith_eq_endsWith_toSlice, String.Slice.endsWith_string_iff,
        String.copy_toSlice] at slashed
      obtain ⟨front, joined⟩ := slashed
      have base : location = String.ofList front ++ "/" :=
        String.toList_inj.mp (by simpa using joined.symm)
      rw [base, behind, kept]
      exact ⟨_, rfl⟩
    · rw [behind, kept]
      exact ⟨_, rfl⟩

lemma names_storePath (location : String) : Path.names (storePath location) ≠ [] := by
  obtain ⟨before, steps⟩ := steps_storePath location
  have follows : ∀ place, Path.follow place StatementStore.folderName =
      StatementStore.folderName :: place := fun _ =>
    (if_neg (by decide)).trans (if_neg (by decide))
  rw [Path.names, steps, List.foldl_append, List.foldl_cons, follows]
  simp

/-- **A store that has been written back is opened again**, if it has all folders that it had. -/
theorem openStore_of_closeStore (opened : openStore i s desk = (.ok store, mid))
    (location : changed.location = store.location)
    (covers : Folder.Covers changed.entries store.entries)
    (files : desk'.files = (closeStore changed mid).2.files) :
    openStore i s desk' = (.ok changed, desk') := by
  obtain ⟨given, made, entries, -⟩ := openStore_eq_ok_iff.mp opened
  have steps : Path.steps (storePath store.location) ≠ [] := by
    obtain ⟨before, steps⟩ := steps_storePath store.location
    simp [steps]
  obtain ⟨listed, found, put⟩ := Folder.make_of_put changed.entries made
    (names_storePath store.location) steps
  rw [found, Option.getD_some] at entries
  obtain ⟨after, put, again, there⟩ := put (entries ▸ covers)
  have written : desk'.files = after := by
    rw [files, closeStore, location]
    show (mid.files.put? _ _).getD mid.files = after
    rw [put, Option.getD_some]
  rw [openStore_eq_ok_iff, location, written, there]
  exact ⟨given, again, rfl, rfl⟩

end Federation.Command.Work
