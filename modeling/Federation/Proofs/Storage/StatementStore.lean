import Federation.Proofs.Storage.StatementFile
import Federation.Storage.Memory
import Federation.Storage.StatementStore
import Mathlib.Data.List.Nodup
import Mathlib.Data.Prod.Lex
import Mathlib.Data.Set.Defs
import Mathlib.Logic.Function.Basic

/-!
# The statement store as a map

What a store answers is what a map from pairs of issuer and subject to texts would answer, whatever has
been saved and removed before, as long as it can tell the pairs apart.

**The map.**  `StatementMap.perform` says what saving and removing do to a map.  Statements in memory are
such a map (`MemoryStore.Agrees.performAll`).

**Pairs apart.**  `StatementStore.TellsApart` is what a set of pairs needs: identifiers that can be read
again, no bar that could be moved from one to the other, and digests without a collision.

**Steps and runs.**  `StatementStore.Holds` says how the files of a store stand for a map.  One call
keeps it (`StatementStore.Holds.perform`), so every sequence of calls does, and the answers are read off
it (`StatementStore.mirrors_of_calls`).

**Shifted pairs.**  Two pairs that are shifted against each other share one file
(`StatementStore.shared_of_shifted`).
-/

namespace Federation

/-- A call that changes what is stored. -/
inductive StoreCall where
  | save (issuer subject : EntityId) (raw : String)
  | remove (issuer subject : EntityId)

/-- The pair a call is about. -/
def StoreCall.pair : StoreCall → EntityId × EntityId
  | save issuer subject _ => (issuer, subject)
  | remove issuer subject => (issuer, subject)

/-! ### The map -/

/-- Statements as a map from issuer and subject. -/
abbrev StatementMap := EntityId × EntityId → Option String

namespace StatementMap

/-- No statements. -/
def empty : StatementMap := fun _ => none

/-- What a call does to a map.  A removal says whether there was something to remove. -/
def perform : StoreCall → StateM StatementMap (Option Bool)
  | .save issuer subject raw => fun texts =>
    (none, Function.update texts (issuer, subject) (some (Text.trim raw)))
  | .remove issuer subject => fun texts =>
    (some (texts (issuer, subject)).isSome, Function.update texts (issuer, subject) none)

lemma perform_of_ne (texts : StatementMap) {call : StoreCall} {pair : EntityId × EntityId}
    (differs : pair ≠ call.pair) : ((perform call).run texts).2 pair = texts pair := by
  cases call with
  | save issuer subject raw => exact Function.update_of_ne differs _ _
  | remove issuer subject => exact Function.update_of_ne differs _ _

/-- What a map answers to a request. -/
def answer (texts : StatementMap) (issuer subject : EntityId) : Except FetchFailure String :=
  match texts (issuer, subject) with
  | some raw => .ok raw
  | none => .error (.notFound issuer subject)

end StatementMap

/-! ### Statements in memory -/

namespace MemoryStore

variable {store : MemoryStore}

/-- The same call with statements in memory. -/
def perform : StoreCall → StateM MemoryStore (Option Bool)
  | .save issuer subject raw => fun store => (none, store.put issuer subject (.ok (Text.trim raw)))
  | .remove issuer subject => fun store =>
    (some (store.answer? issuer subject).isSome, store.erase issuer subject)

lemma answer?_erase (store : MemoryStore) (pair other : EntityId × EntityId) :
    (store.erase pair.1 pair.2).answer? other.1 other.2 =
      if other = pair then none else store.answer? other.1 other.2 := by
  rw [erase, answer?, answer?]
  induction store.answers with
  | nil => simp
  | cons entry rest ih =>
      obtain ⟨key, answer⟩ := entry
      by_cases removed : key = pair
      · by_cases same : other = pair
        · simpa [removed, same] using ih
        · have differs : (other == pair) = false := by simpa using same
          simpa [removed, same, List.lookup_cons, differs] using ih
      · by_cases found : other = key
        · simp [removed, found]
        · have differs : (other == key) = false := by simpa using found
          simpa [removed, List.lookup_cons, differs] using ih

lemma answer?_put (store : MemoryStore) (pair other : EntityId × EntityId)
    (answer : Except FetchFailure String) :
    (store.put pair.1 pair.2 answer).answer? other.1 other.2 =
      if other = pair then some answer else store.answer? other.1 other.2 := by
  have first : (store.put pair.1 pair.2 answer).answer? other.1 other.2 =
      if other = pair then some answer
      else (store.erase pair.1 pair.2).answer? other.1 other.2 := by
    by_cases same : other = pair
    · simp [put, answer?, same]
    · have differs : (other == pair) = false := by simpa using same
      simp [put, answer?, same, List.lookup_cons, differs]
  rw [first, answer?_erase]
  split <;> rfl

/-- The statements in memory are those of a map. -/
def Agrees (store : MemoryStore) (texts : StatementMap) : Prop :=
  ∀ pair : EntityId × EntityId, store.answer? pair.1 pair.2 = (texts pair).map .ok

lemma agrees_empty : Agrees empty StatementMap.empty :=
  fun _ => rfl

variable {texts : StatementMap}

lemma Agrees.perform (agrees : Agrees store texts) (call : StoreCall) :
    ((MemoryStore.perform call).run store).1 = ((StatementMap.perform call).run texts).1 ∧
      Agrees ((MemoryStore.perform call).run store).2 ((StatementMap.perform call).run texts).2 := by
  cases call with
  | save issuer subject raw =>
      refine ⟨rfl, fun other => ?_⟩
      show (store.put issuer subject _).answer? other.1 other.2 =
        (Function.update texts _ _ other).map _
      rw [answer?_put store (issuer, subject), Function.update_apply, agrees other]
      split <;> rfl
  | remove issuer subject =>
      refine ⟨?_, fun other => ?_⟩
      · show some (store.answer? issuer subject).isSome = some (texts (issuer, subject)).isSome
        rw [agrees (issuer, subject), Option.isSome_map]
      · show (store.erase issuer subject).answer? other.1 other.2 =
          (Function.update texts _ _ other).map _
        rw [answer?_erase store (issuer, subject), Function.update_apply, agrees other]
        split <;> rfl

lemma Agrees.performAll (agrees : Agrees store texts) (calls : List StoreCall) :
    ((calls.mapM MemoryStore.perform).run store).1 =
        ((calls.mapM StatementMap.perform).run texts).1 ∧
      Agrees ((calls.mapM MemoryStore.perform).run store).2
        ((calls.mapM StatementMap.perform).run texts).2 := by
  induction calls generalizing store texts with
  | nil => exact ⟨rfl, agrees⟩
  | cons call calls ih =>
      obtain ⟨said, agrees'⟩ := agrees.perform call
      obtain ⟨later, agrees''⟩ := ih agrees'
      rw [List.mapM_cons, List.mapM_cons]
      exact ⟨congrArg₂ List.cons said later, agrees''⟩

lemma Agrees.fetch (agrees : Agrees store texts) (pair : EntityId × EntityId) :
    (MemoryStore.fetch pair.1 pair.2 store).1 = texts.answer pair.1 pair.2 := by
  rw [MemoryStore.fetch, agrees pair, StatementMap.answer]
  cases texts pair with
  | none => rfl
  | some raw => rfl

end MemoryStore

/-! ### Pairs apart -/

namespace StatementStore

/-- The same call with statements in files. -/
def perform : StoreCall → StateT StatementStore (Except Failure) (Option Bool)
  | .save issuer subject raw => fun store =>
    (store.saveFor issuer subject raw).map fun next => (none, next)
  | .remove issuer subject => fun store =>
    (store.remove issuer subject).map fun (removed, next) => (some removed, next)

/-- Pairs that a store can tell apart. -/
structure TellsApart (pairs : Set (EntityId × EntityId)) : Prop where
  /-- The identifiers are the ones their own texts denote. -/
  stable : ∀ pair ∈ pairs, pair.1.Stable ∧ pair.2.Stable
  /-- No text between bars can be moved from one identifier to the other. -/
  notShifted : ∀ pair ∈ pairs, ∀ other ∈ pairs, ¬StatementFile.Shifted pair other
  /-- The digests of what is joined are different. -/
  digests : ∀ pair ∈ pairs, ∀ other ∈ pairs,
    Sha2.sha256 (Text.bytes (StatementFile.joined pair)) =
        Sha2.sha256 (Text.bytes (StatementFile.joined other)) →
      StatementFile.joined pair = StatementFile.joined other

variable {pairs : Set (EntityId × EntityId)} {store : StatementStore} {texts : StatementMap}

lemma TellsApart.eq_of_name {pair other : EntityId × EntityId} (apart : TellsApart pairs)
    (mem : pair ∈ pairs) (mem' : other ∈ pairs)
    (same : StatementFile.name pair.1 pair.2 = StatementFile.name other.1 other.2) : pair = other := by
  have joined := apart.digests pair mem other mem' (StatementFile.name_eq_iff.mp same)
  rcases StatementFile.joined_eq_iff.mp joined with equal | shifted | shifted
  · exact equal
  · exact absurd shifted (apart.notShifted pair mem other mem')
  · exact absurd shifted (apart.notShifted other mem' pair mem)

/-! ### Steps -/

/-- The file that holds a text for a pair. -/
def fileFor (pair : EntityId × EntityId) (raw : String) : StatementFile :=
  { version := StatementFile.currentVersion, issuer := pair.1, subject := pair.2, jws := raw }

/-- What saving changes: the file of the pair, unless there is a folder in its place. -/
lemma saveFor_eq_ok {changed : StatementStore} {issuer subject : EntityId} {raw : String}
    (saved : store.saveFor issuer subject raw = .ok changed) :
    changed = ⟨store.location, store.entries.insert (StatementFile.name issuer subject)
        (.file (fileFor (issuer, subject) (Text.trim raw)).text)⟩ ∧
      ∀ listed, store.entry? issuer subject ≠ some (.folder listed) := by
  unfold saveFor at saved
  split at saved
  · cases saved
  · rename_i notFolder
    cases saved
    exact ⟨rfl, notFolder⟩

/-- The files of a store stand for a map. -/
structure Holds (pairs : Set (EntityId × EntityId)) (store : StatementStore) (texts : StatementMap) :
    Prop where
  /-- No two files have one name. -/
  distinct : Members.Distinct store.entries
  /-- For each text there is a file that holds it, and for no text there is none. -/
  entry : ∀ pair ∈ pairs, store.entries.get? (StatementFile.name pair.1 pair.2) =
    (texts pair).map fun raw => .file (fileFor pair raw).text
  /-- Every file is the one of some pair. -/
  named : ∀ name ∈ Members.keys store.entries,
    ∃ pair ∈ pairs, name = StatementFile.name pair.1 pair.2
  /-- There are texts for no other pairs. -/
  known : ∀ pair, (texts pair).isSome → pair ∈ pairs

lemma holds_empty (pairs : Set (EntityId × EntityId)) (location : String) :
    Holds pairs ⟨location, []⟩ StatementMap.empty where
  distinct := List.nodup_nil
  entry _ _ := rfl
  named _ mem := nomatch mem
  known _ present := nomatch present

/-- A change at the file of one pair is a change of the map at this pair. -/
lemma Holds.update (holds : Holds pairs store texts) (apart : TellsApart pairs)
    {pair : EntityId × EntityId} (mem : pair ∈ pairs) {entries : Folder} {text : Option String}
    (distinct : Members.Distinct entries)
    (here : entries.get? (StatementFile.name pair.1 pair.2) =
      text.map fun raw => .file (fileFor pair raw).text)
    (elsewhere : ∀ name, StatementFile.name pair.1 pair.2 ≠ name →
      entries.get? name = store.entries.get? name)
    (named : ∀ name ∈ Members.keys entries,
      name = StatementFile.name pair.1 pair.2 ∨ name ∈ Members.keys store.entries) :
    Holds pairs ⟨store.location, entries⟩ (Function.update texts pair text) where
  distinct := distinct
  entry other mem' := by
    by_cases same : other = pair
    · rw [same, Function.update_self]
      exact here
    · rw [Function.update_of_ne same, ← holds.entry other mem']
      exact elsewhere _ fun shared => same (apart.eq_of_name mem mem' shared).symm
  named name name_mem := by
    rcases named name name_mem with rfl | before
    · exact ⟨pair, mem, rfl⟩
    · exact holds.named name before
  known other present := by
    by_cases same : other = pair
    · exact same ▸ mem
    · rw [Function.update_of_ne same] at present
      exact holds.known other present

lemma Holds.saveFor (holds : Holds pairs store texts) (apart : TellsApart pairs)
    {pair : EntityId × EntityId} (mem : pair ∈ pairs) (raw : String) :
    ∃ next, store.saveFor pair.1 pair.2 raw = .ok next ∧
      Holds pairs next (Function.update texts pair (some (Text.trim raw))) := by
  refine ⟨⟨store.location, store.entries.insert (StatementFile.name pair.1 pair.2)
    (.file (fileFor pair (Text.trim raw)).text)⟩, ?_, ?_⟩
  · rw [StatementStore.saveFor, entry?, holds.entry pair mem]
    cases texts pair with
    | none => rfl
    | some old => rfl
  · exact holds.update apart mem (Members.distinct_insert holds.distinct)
      (Members.get?_insert_self _ _ _) (fun _ differs => Members.get?_insert_of_ne _ _ differs)
      fun _ named => Members.mem_keys_insert.mp named

lemma Holds.remove (holds : Holds pairs store texts) (apart : TellsApart pairs)
    {pair : EntityId × EntityId} (mem : pair ∈ pairs) :
    ∃ next, store.remove pair.1 pair.2 = .ok ((texts pair).isSome, next) ∧
      Holds pairs next (Function.update texts pair none) := by
  have here := holds.entry pair mem
  cases stored : texts pair with
  | none =>
      rw [stored] at here
      refine ⟨store, ?_, ?_⟩
      · rw [StatementStore.remove, entry?, here]
        rfl
      · rw [← stored, Function.update_eq_self]
        exact holds
  | some raw =>
      rw [stored] at here
      refine ⟨⟨store.location, store.entries.erase (StatementFile.name pair.1 pair.2)⟩, ?_, ?_⟩
      · rw [StatementStore.remove, entry?, here]
        rfl
      · exact holds.update apart mem (Members.distinct_erase holds.distinct)
          Members.get?_erase_self (fun _ differs => Members.get?_erase_of_ne differs)
          fun _ named => .inr (Members.keys_erase_subset named)

lemma Holds.perform (holds : Holds pairs store texts) (apart : TellsApart pairs) {call : StoreCall}
    (mem : call.pair ∈ pairs) :
    ∃ next, (StatementStore.perform call).run store =
        .ok (((StatementMap.perform call).run texts).1, next) ∧
      Holds pairs next ((StatementMap.perform call).run texts).2 := by
  cases call with
  | save issuer subject raw =>
      obtain ⟨next, saved, holds'⟩ := holds.saveFor apart mem raw
      refine ⟨next, ?_, holds'⟩
      show (store.saveFor issuer subject raw).map _ = _
      rw [show store.saveFor issuer subject raw = .ok next from saved]
      rfl
  | remove issuer subject =>
      obtain ⟨next, removed, holds'⟩ := holds.remove apart mem
      refine ⟨next, ?_, holds'⟩
      show (store.remove issuer subject).map _ = _
      rw [show store.remove issuer subject = .ok _ from removed]
      rfl

/-! ### Answers -/

lemma readNode_fileFor {pair : EntityId × EntityId} (stable : pair.1.Stable ∧ pair.2.Stable)
    (store : StatementStore) (name raw : String) :
    store.readNode name (.file (fileFor pair raw).text) = .ok (fileFor pair raw) := by
  have version : StatementFile.currentVersion < UInt32.size := by decide
  have read : StatementFile.read? (fileFor pair raw).text = some (fileFor pair raw) :=
    StatementFile.read?_text version stable.1 stable.2
  rw [readNode, read]
  exact if_pos rfl

/-- The text in the file for a pair is the one that is loaded. -/
lemma load?_of_entry (pair : EntityId × EntityId) {raw : String}
    (entry : store.entry? pair.1 pair.2 = some (.file (fileFor pair raw).text))
    (stable : pair.1.Stable ∧ pair.2.Stable) : store.load? pair.1 pair.2 = .ok (some raw) := by
  have read := readNode_fileFor stable store (StatementFile.name pair.1 pair.2) raw
  rw [load?, entry]
  show (store.readNode _ _ >>= _) = _
  rw [read]
  exact if_pos ⟨rfl, rfl⟩

lemma Holds.load? (holds : Holds pairs store texts) (apart : TellsApart pairs)
    {pair : EntityId × EntityId} (mem : pair ∈ pairs) :
    store.load? pair.1 pair.2 = .ok (texts pair) := by
  have entry := holds.entry pair mem
  cases stored : texts pair with
  | none =>
      rw [stored] at entry
      rw [StatementStore.load?, entry?, entry]
      rfl
  | some raw =>
      rw [stored] at entry
      exact load?_of_entry pair entry (apart.stable pair mem)

lemma Holds.contains (holds : Holds pairs store texts) {pair : EntityId × EntityId}
    (mem : pair ∈ pairs) : store.contains pair.1 pair.2 = (texts pair).isSome := by
  rw [StatementStore.contains, entry?, holds.entry pair mem, Option.isSome_map]

lemma fetch_of_load? {issuer subject : EntityId}
    (loaded : store.load? issuer subject = .ok (texts (issuer, subject))) :
    fetch issuer subject store = (texts.answer issuer subject, store) := by
  rw [fetch, loaded, StatementMap.answer]
  cases texts (issuer, subject) with
  | none => rfl
  | some raw => rfl

/-! ### The list -/

lemma isStatementName_name (pair : EntityId × EntityId) :
    isStatementName (StatementFile.name pair.1 pair.2) = true := by
  have ends : (StatementFile.name pair.1 pair.2).endsWith ".json" = true := by
    rw [String.endsWith_eq_endsWith_toSlice, String.Slice.endsWith_string_iff, String.copy_toSlice,
      StatementFile.name, String.toList_append]
    exact List.suffix_append _ _
  have longer : StatementFile.name pair.1 pair.2 ≠ ".json" := by
    intro same
    have length := congrArg String.length same
    simp [StatementFile.name, Text.length_hex, Sha2.length_sha256] at length
  simp [isStatementName, ends, longer]

lemma pairLe_iff {a b : EntityId × EntityId} :
    pairLe a b = true ↔ toLex (a.1.text, a.2.text) ≤ toLex (b.1.text, b.2.text) := by
  rw [Prod.Lex.toLex_le_toLex, pairLe]
  split
  · rename_i same
    simp [same]
  · rename_i differs
    have apart : a.1.text ≠ b.1.text := fun same => differs (congrArg EntityId.mk same)
    simp [apart, le_iff_lt_or_eq]

lemma pairwise_mergeSort_pairLe (listed : List (EntityId × EntityId)) :
    (listed.mergeSort pairLe).Pairwise fun a b => pairLe a b = true := by
  apply List.pairwise_mergeSort
  · intro a b c first second
    exact pairLe_iff.mpr ((pairLe_iff.mp first).trans (pairLe_iff.mp second))
  · intro a b
    rw [Bool.or_eq_true, pairLe_iff, pairLe_iff]
    exact le_total _ _

/-- Every file is read, and it is the one of the pair it names. -/
lemma Holds.readNode (holds : Holds pairs store texts) (apart : TellsApart pairs)
    {entry : String × FileNode} (mem : entry ∈ store.entries) :
    ∃ file, store.readNode entry.1 entry.2 = .ok file ∧
      (texts (file.issuer, file.subject)).isSome = true ∧
      StatementFile.name file.issuer file.subject = entry.1 := by
  obtain ⟨name, node⟩ := entry
  obtain ⟨pair, pair_mem, rfl⟩ := holds.named name (List.mem_map_of_mem mem)
  have found := Members.get?_of_mem holds.distinct mem
  rw [holds.entry pair pair_mem, Option.map_eq_some_iff] at found
  obtain ⟨raw, stored, rfl⟩ := found
  refine ⟨fileFor pair raw, readNode_fileFor (apart.stable pair pair_mem) store _ raw, ?_, rfl⟩
  show (texts pair).isSome = true
  rw [stored]
  rfl

lemma Holds.list (holds : Holds pairs store texts) (apart : TellsApart pairs) :
    ∃ listed, store.list = .ok listed ∧ listed.Nodup ∧
      listed.Pairwise (fun a b => pairLe a b = true) ∧
      ∀ pair, pair ∈ listed ↔ (texts pair).isSome = true := by
  have all : store.entries.filter (fun entry => isStatementName entry.1) = store.entries := by
    rw [List.filter_eq_self]
    intro entry mem
    obtain ⟨pair, -, named⟩ := holds.named entry.1 (List.mem_map_of_mem mem)
    rw [named]
    exact isStatementName_name pair
  have sorted := List.mergeSort_perm store.entries fun a b => a.1 ≤ b.1
  have each : ∀ entry ∈ store.entries.mergeSort fun a b => a.1 ≤ b.1,
      ∃ file, store.readNode entry.1 entry.2 = .ok file ∧
        StatementFile.name file.issuer file.subject = entry.1 := by
    intro entry mem
    obtain ⟨file, read, -, named⟩ := holds.readNode apart (sorted.mem_iff.mp mem)
    exact ⟨file, read, named⟩
  obtain ⟨files, read, names⟩ := List.exists_mapM_eq_ok each
  have listed : store.list =
      .ok ((files.map fun file => (file.issuer, file.subject)).mergeSort pairLe) := by
    rw [StatementStore.list, all]
    show ((store.entries.mergeSort fun a b => a.1 ≤ b.1).mapM
      (fun entry => store.readNode entry.1 entry.2) >>= _) = _
    rw [read]
    rfl
  have perm := List.mergeSort_perm (files.map fun file => (file.issuer, file.subject)) pairLe
  have names' : (files.map fun file => (file.issuer, file.subject)).map
      (fun pair => StatementFile.name pair.1 pair.2) =
        (store.entries.mergeSort fun a b => a.1 ≤ b.1).map Prod.fst := by
    rw [List.map_map, ← names]
    rfl
  refine ⟨_, listed, ?_, pairwise_mergeSort_pairLe _, fun pair => ?_⟩
  · apply perm.nodup_iff.mpr
    apply List.Nodup.of_map fun pair => StatementFile.name pair.1 pair.2
    rw [names']
    exact (sorted.map Prod.fst).nodup_iff.mpr holds.distinct
  · rw [perm.mem_iff, List.mem_map]
    constructor
    · rintro ⟨file, mem, rfl⟩
      obtain ⟨entry, entry_mem, read_entry⟩ := List.exists_of_mapM_eq_ok read mem
      obtain ⟨file', read_entry', present, -⟩ := holds.readNode apart (sorted.mem_iff.mp entry_mem)
      rw [read_entry] at read_entry'
      cases read_entry'
      exact present
    · intro present
      have mem := holds.known pair present
      obtain ⟨raw, stored⟩ := Option.isSome_iff_exists.mp present
      have found : store.entries.get? (StatementFile.name pair.1 pair.2) =
          some (.file (fileFor pair raw).text) := by
        rw [holds.entry pair mem, stored]
        rfl
      obtain ⟨file, read_pair, present', named⟩ := holds.readNode apart (Members.mem_of_get? found)
      have same : (file.issuer, file.subject) = pair :=
        apart.eq_of_name (holds.known _ present') mem named
      have file_mem := List.mem_of_mapM_eq_ok read
        (sorted.mem_iff.mpr (Members.mem_of_get? found)) read_pair
      exact ⟨file, file_mem, same⟩

/-! ### Runs -/

lemma Holds.performAll (holds : Holds pairs store texts) (apart : TellsApart pairs)
    {calls : List StoreCall} (within : ∀ call ∈ calls, call.pair ∈ pairs) :
    ∃ next, (calls.mapM StatementStore.perform).run store =
        .ok (((calls.mapM StatementMap.perform).run texts).1, next) ∧
      Holds pairs next ((calls.mapM StatementMap.perform).run texts).2 := by
  induction calls generalizing store texts with
  | nil => exact ⟨store, rfl, holds⟩
  | cons call calls ih =>
      obtain ⟨middle, performed, holds'⟩ := holds.perform apart (within call List.mem_cons_self)
      obtain ⟨next, later, holds''⟩ :=
        ih holds' fun other mem => within other (List.mem_cons_of_mem call mem)
      refine ⟨next, ?_, ?_⟩
      · rw [List.mapM_cons, StateT.run_bind, performed]
        show ((calls.mapM StatementStore.perform >>= fun answers =>
          pure (((StatementMap.perform call).run texts).1 :: answers)).run middle) = _
        rw [StateT.run_bind, later, List.mapM_cons]
        rfl
      · rw [List.mapM_cons]
        exact holds''

/-- A call changes no answer about another pair. -/
lemma Holds.perform_of_ne (holds : Holds pairs store texts) (apart : TellsApart pairs)
    {call : StoreCall} (mem : call.pair ∈ pairs) :
    ∃ said next, (StatementStore.perform call).run store = .ok (said, next) ∧
      ∀ pair ∈ pairs, pair ≠ call.pair →
        next.load? pair.1 pair.2 = store.load? pair.1 pair.2 ∧
        next.contains pair.1 pair.2 = store.contains pair.1 pair.2 ∧
        (fetch pair.1 pair.2 next).1 = (fetch pair.1 pair.2 store).1 := by
  obtain ⟨next, performed, holds'⟩ := holds.perform apart mem
  refine ⟨_, next, performed, fun pair pair_mem differs => ?_⟩
  have same := StatementMap.perform_of_ne texts differs
  have loaded := holds.load? apart pair_mem
  have loaded' := holds'.load? apart pair_mem
  refine ⟨?_, ?_, ?_⟩
  · rw [loaded, loaded', same]
  · rw [holds.contains pair_mem, holds'.contains pair_mem, same]
  · rw [fetch_of_load? loaded, fetch_of_load? loaded', StatementMap.answer, same]
    rfl

/-- What a store answers is what a map answers, and so do the statements in memory. -/
structure Mirrors (pairs : Set (EntityId × EntityId)) (store : StatementStore) (texts : StatementMap)
    (memory : MemoryStore) : Prop where
  load : ∀ pair ∈ pairs, store.load? pair.1 pair.2 = .ok (texts pair)
  contains : ∀ pair ∈ pairs, store.contains pair.1 pair.2 = (texts pair).isSome
  /-- A request is answered from the map, and the files stay as they are. -/
  fetch : ∀ pair ∈ pairs,
    StatementStore.fetch pair.1 pair.2 store = (texts.answer pair.1 pair.2, store)
  memory : ∀ pair ∈ pairs, (MemoryStore.fetch pair.1 pair.2 memory).1 = texts.answer pair.1 pair.2
  /-- The pairs with a text are listed once each and in order, and no others. -/
  list : ∃ listed, store.list = .ok listed ∧ listed.Nodup ∧
    listed.Pairwise (fun a b => pairLe a b = true) ∧
    ∀ pair, pair ∈ listed ↔ (texts pair).isSome = true
  /-- One more call changes no answer about another pair. -/
  others : ∀ call : StoreCall, call.pair ∈ pairs →
    ∃ said next, (StatementStore.perform call).run store = .ok (said, next) ∧
      ∀ pair ∈ pairs, pair ≠ call.pair →
        next.load? pair.1 pair.2 = store.load? pair.1 pair.2 ∧
        next.contains pair.1 pair.2 = store.contains pair.1 pair.2 ∧
        (StatementStore.fetch pair.1 pair.2 next).1 = (StatementStore.fetch pair.1 pair.2 store).1

/-- **A store is a map of the pairs it can tell apart.**  Every sequence of calls about such pairs
succeeds on an empty store and says what it says to a map, and afterwards the store answers as the map
does. -/
theorem mirrors_of_calls (apart : TellsApart pairs) {calls : List StoreCall}
    (within : ∀ call ∈ calls, call.pair ∈ pairs) (location : String) :
    ∃ said store texts memory,
      (calls.mapM StatementStore.perform).run ⟨location, []⟩ = .ok (said, store) ∧
      (calls.mapM StatementMap.perform).run StatementMap.empty = (said, texts) ∧
      (calls.mapM MemoryStore.perform).run MemoryStore.empty = (said, memory) ∧
      store.Mirrors pairs texts memory := by
  obtain ⟨store, performed, holds⟩ :=
    (holds_empty pairs location).performAll apart within
  obtain ⟨remembered, agrees⟩ := MemoryStore.agrees_empty.performAll calls
  refine ⟨_, store, _, _, performed, rfl, Prod.ext remembered rfl, ?_⟩
  exact {
    load := fun pair mem => holds.load? apart mem
    contains := fun pair mem => holds.contains mem
    fetch := fun pair mem => fetch_of_load? (holds.load? apart mem)
    memory := fun pair _ => agrees.fetch pair
    list := holds.list apart
    others := fun call mem => holds.perform_of_ne apart mem }

/-- Two statements of an anchor are saved, and the one about itself is removed twice. -/
theorem mirrors_removed_configuration :
    let anchor : EntityId := ⟨"https://ta.example"⟩
    let party : EntityId := ⟨"https://rp.example/x|y"⟩
    let pairs : Set (EntityId × EntityId) := {pair | pair ∈ [(anchor, anchor), (anchor, party)]}
    let calls : List StoreCall :=
      [.save anchor anchor " a.b.c\n", .save anchor party "d.e.f", .remove anchor anchor,
        .remove anchor anchor]
    TellsApart pairs ∧ (∀ call ∈ calls, call.pair ∈ pairs) ∧
      ∃ said store texts memory,
        (calls.mapM StatementStore.perform).run ⟨"store", []⟩ = .ok (said, store) ∧
        said = [none, none, some true, some false] ∧ store.Mirrors pairs texts memory ∧
        texts (anchor, anchor) = none ∧ texts (anchor, party) = some "d.e.f" := by
  intro anchor party pairs calls
  have read : ∀ id ∈ [anchor, party], (EntityId.read id.text).toOption = some id := by
    decide +kernel
  have digests : ∀ pair ∈ [(anchor, anchor), (anchor, party)],
      ∀ other ∈ [(anchor, anchor), (anchor, party)],
        Sha2.sha256 (Text.bytes (StatementFile.joined pair)) =
            Sha2.sha256 (Text.bytes (StatementFile.joined other)) →
          StatementFile.joined pair = StatementFile.joined other := by
    decide +kernel
  have noBar : ∀ pair ∈ [(anchor, anchor), (anchor, party)], '|' ∉ pair.1.text.toList := by
    decide
  have identifiers : ∀ pair ∈ [(anchor, anchor), (anchor, party)],
      pair.1 ∈ [anchor, party] ∧ pair.2 ∈ [anchor, party] := by
    decide
  have apart : TellsApart pairs := {
    stable := fun pair mem =>
      ⟨Except.toOption_eq_some_iff.mp (read pair.1 (identifiers pair mem).1),
        Except.toOption_eq_some_iff.mp (read pair.2 (identifiers pair mem).2)⟩
    notShifted := fun _ _ other mem => StatementFile.not_shifted_of_noBar (noBar other mem)
    digests := digests }
  have within : ∀ call ∈ calls, call.pair ∈ [(anchor, anchor), (anchor, party)] := by
    decide
  obtain ⟨said, store, texts, memory, performed, mapped, -, mirrors⟩ :=
    mirrors_of_calls apart within "store"
  cases mapped
  exact ⟨apart, within, _, store, _, memory, performed, rfl, mirrors, rfl, rfl⟩

/-! ### Shifted pairs -/

/-- **Shifted pairs share a file.**  After one of them has been saved, there is something for the other
one as well, but it cannot be loaded, and removing it removes what was saved. -/
theorem shared_of_shifted {pair other : EntityId × EntityId}
    (shifted : StatementFile.Shifted pair other) (stable : pair.1.Stable ∧ pair.2.Stable)
    (location raw : String) :
    let name := StatementFile.name other.1 other.2
    ∃ store next, StatementStore.saveFor ⟨location, []⟩ pair.1 pair.2 raw = .ok store ∧
      store.contains other.1 other.2 = true ∧
      store.load? other.1 other.2 =
        .error (.fileFormat s!"{store.path name} holds a statement by {pair.1} about {pair.2}") ∧
      store.remove other.1 other.2 = .ok (true, next) ∧ next.load? pair.1 pair.2 = .ok none := by
  intro name
  have sameName : name = StatementFile.name pair.1 pair.2 :=
    StatementFile.name_eq_iff.mpr (congrArg _ (congrArg _ shifted.joined_eq.symm))
  have differs : ¬(pair.1 = other.1 ∧ pair.2 = other.2) :=
    fun same => shifted.ne (Prod.ext same.1 same.2)
  let store : StatementStore := ⟨location,
    [(StatementFile.name pair.1 pair.2, .file (fileFor pair (Text.trim raw)).text)]⟩
  have found : store.entry? other.1 other.2 = some (.file (fileFor pair (Text.trim raw)).text) := by
    show store.entries.get? name = _
    rw [sameName]
    exact if_pos rfl
  have removed : store.entries.erase name = [] := by
    rw [sameName]
    simp [store, Members.erase]
  refine ⟨store, ⟨location, []⟩, rfl, ?_, ?_, ?_, rfl⟩
  · rw [StatementStore.contains, found]
    rfl
  · rw [StatementStore.load?, found]
    show (store.readNode _ _ >>= _) = _
    rw [readNode_fileFor stable]
    exact if_neg differs
  · rw [StatementStore.remove, found]
    show Except.ok (true, (⟨location, store.entries.erase name⟩ : StatementStore)) = _
    rw [removed]

/-- **A statement about one pair is taken for one about another.**  The bar in the path of an identifier
is read as the one between issuer and subject. -/
theorem shared_bar :
    let pair : EntityId × EntityId :=
      (⟨"https://a.example/x"⟩, ⟨"https://b.example/y|https://c.example"⟩)
    let other : EntityId × EntityId :=
      (⟨"https://a.example/x|https://b.example/y"⟩, ⟨"https://c.example"⟩)
    pair ≠ other ∧ (∀ id ∈ [pair.1, pair.2, other.1, other.2], id.Stable) ∧
      StatementStore.load? ⟨"store", []⟩ other.1 other.2 = .ok none ∧
      ∃ store failure next,
        StatementStore.saveFor ⟨"store", []⟩ pair.1 pair.2 "a.b.c" = .ok store ∧
        store.contains other.1 other.2 = true ∧ store.load? other.1 other.2 = .error failure ∧
        store.remove other.1 other.2 = .ok (true, next) ∧ next.load? pair.1 pair.2 = .ok none := by
  intro pair other
  have read : ∀ id ∈ [pair.1, pair.2, other.1, other.2],
      (EntityId.read id.text).toOption = some id := by
    decide +kernel
  have stable : ∀ id ∈ [pair.1, pair.2, other.1, other.2], id.Stable :=
    fun id mem => Except.toOption_eq_some_iff.mp (read id mem)
  have shifted : StatementFile.Shifted pair other := ⟨"https://b.example/y", rfl, rfl⟩
  obtain ⟨store, next, saved, contained, failed, removed, lost⟩ :=
    shared_of_shifted shifted ⟨stable _ (by simp), stable _ (by simp)⟩ "store" "a.b.c"
  exact ⟨shifted.ne, stable, rfl, store, _, next, saved, contained, failed, removed, lost⟩

end StatementStore

end Federation
