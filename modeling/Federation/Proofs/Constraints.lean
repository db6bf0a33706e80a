import Federation.Proofs.Statement
import Federation.Proofs.Subtrees

/-!
# Constraints that are written and read again

Writing constraints and reading them back keeps the path length.  It keeps the names as far as the
written identifiers denote themselves, with one exception: an empty list is not written, so a list
that permits nothing becomes no list at all.

**Reading back.**  `Constraints.read_toJson` says what is read from written constraints, list by list
(`Constraints.rereadNames`).

**Verdicts.**  `Constraints.Reread` compares the constraints that are read back with those that were
written.

**Statements.**  A statement that is decoded and encoded has its constraints written
(`Statement.written_of_toClaims`), and read back if it is decoded again
(`Statement.reread_of_toClaims`).  `Constraints.reread_of_read` puts this together, and
`Constraints.lossy_rereadings` shows both exceptions at work.
-/

namespace Federation

/-! ### Reading back -/

/-- The identifier is the one its own text denotes.  Not every identifier that can be read is: a name
may become too long to be decoded again when it is encoded. -/
def EntityId.Stable (id : EntityId) : Prop :=
  EntityId.read id.text = .ok id

namespace Constraints

variable {c c' : Constraints} {value : Json}

/-- What becomes of a list of names. -/
def rereadNames : Option (List EntityId) → Except Failure (Option (List EntityId))
  | .none => .ok .none
  | some [] => .ok .none
  | some ids => (ids.mapM fun id => EntityId.read id.text).map some

lemma get?_namesMember_of_ne {claim other : String} (names : Option (List EntityId))
    (differs : claim ≠ other) : (namesMember claim names).get? other = .none := by
  unfold namesMember
  split
  · rfl
  · rfl
  · rw [Members.get?_cons_of_ne differs]
    rfl

/-- Written identifiers are read by their texts. -/
lemma mapM_readId (claim : String) (ids : List EntityId) :
    (ids.map fun id => Json.string id.text).mapM (readId claim) =
      ids.mapM fun id => EntityId.read id.text := by
  simp only [List.mapM_map, Function.comp_def, readId]

lemma mapM_read_of_stable {ids : List EntityId} (stable : ∀ id ∈ ids, id.Stable) :
    (ids.mapM fun id => EntityId.read id.text) = .ok ids := by
  simpa using List.mapM_eq_ok (g := id) stable

lemma readNames_namesMember (claim : String) (names : Option (List EntityId)) :
    readNames claim ((namesMember claim names).get? claim) = rereadNames names := by
  unfold namesMember
  split
  · rfl
  · rfl
  · rename_i ids filled
    have found : Members.get? [(claim, Json.array (ids.map fun id => .string id.text))] claim =
        some (.array (ids.map fun id => .string id.text)) := by
      simp [Members.get?]
    rw [found]
    dsimp only [readNames, readIds]
    rw [mapM_readId, rereadNames]
    exact filled

/-- The members that hold the lists of names. -/
def namingMembers (c : Constraints) : Members Json :=
  namesMember "permitted" c.permitted ++ namesMember "excluded" c.excluded

lemma get?_permitted (c : Constraints) :
    c.namingMembers.get? "permitted" = (namesMember "permitted" c.permitted).get? "permitted" := by
  rw [namingMembers, Members.get?_append, get?_namesMember_of_ne c.excluded (by decide),
    Option.or_none]

lemma get?_excluded (c : Constraints) :
    c.namingMembers.get? "excluded" = (namesMember "excluded" c.excluded).get? "excluded" := by
  rw [namingMembers, Members.get?_append, get?_namesMember_of_ne c.permitted (by decide),
    Option.none_or]

/-- The path length is one that can be written. -/
def Writable (c : Constraints) : Prop :=
  ∀ max, c.maxPathLength = some max → max ≤ greatestPathLength

lemma readPathLength_le {written : Option Json} {max : Nat}
    (h : readPathLength written = .ok (some max)) : max ≤ greatestPathLength := by
  unfold readPathLength at h
  split at h
  · cases h
  · cases h
  · split at h
    · cases h
    · split at h
      · rename_i within
        cases h
        exact within
      · cases h

lemma writable_of_read (h : read value = .ok c) : c.Writable := by
  intro max bound
  unfold read at h
  split at h
  · obtain ⟨maxPathLength, length, h⟩ := Except.bind_eq_ok_iff.mp h
    have kept : c.maxPathLength = maxPathLength := by
      split at h
      · cases h
        rfl
      · cases h
        rfl
      · obtain ⟨_, _, h⟩ := Except.bind_eq_ok_iff.mp h
        obtain ⟨_, _, h⟩ := Except.bind_eq_ok_iff.mp h
        cases h
        rfl
      · cases h
    rw [← kept, bound] at length
    exact readPathLength_le length
  · cases h

lemma readPathLength_of_nat64? {written : Json} {max : Nat} (filled : written ≠ .null)
    (number : written.nat64? = some max) (writable : max ≤ greatestPathLength) :
    readPathLength (some written) = .ok (some max) := by
  unfold readPathLength
  split
  · rename_i absent
    cases absent
  · rename_i null
    cases null
    exact absurd rfl filled
  · rename_i value _ given
    cases given
    rw [number]
    dsimp only
    rw [if_pos writable]

lemma greatestPathLength_lt : greatestPathLength < UInt64.size := by
  decide

lemma nat64?_int {max : Nat} (small : max < UInt64.size) : (Json.int max).nat64? = some max := by
  have within : 0 ≤ (max : Int) ∧ (max : Int) < UInt64.size :=
    ⟨Int.natCast_nonneg max, Int.ofNat_lt.mpr small⟩
  simp only [Json.int, Json.nat64?, if_pos within, Int.toNat_natCast]

/-- The member that holds the path length. -/
def pathLengthMember (c : Constraints) : Members Json :=
  match c.maxPathLength with
  | .none => []
  | some max => [("max_path_length", Json.int max)]

lemma readPathLength_pathLengthMember (writable : c.Writable) :
    readPathLength (c.pathLengthMember.get? "max_path_length") = .ok c.maxPathLength := by
  unfold pathLengthMember
  split
  · rename_i absent
    rw [absent]
    rfl
  · rename_i max bound
    have found : Members.get? [("max_path_length", Json.int max)] "max_path_length" =
        some (Json.int max) := by
      simp [Members.get?]
    have within := writable max bound
    rw [found, bound]
    exact readPathLength_of_nat64? (fun null => by cases null)
      (nat64?_int (Nat.lt_of_le_of_lt within greatestPathLength_lt)) within

lemma get?_pathLengthMember_of_ne (c : Constraints) {other : String}
    (differs : "max_path_length" ≠ other) : c.pathLengthMember.get? other = .none := by
  unfold pathLengthMember
  split
  · rfl
  · rw [Members.get?_cons_of_ne differs]
    rfl

/-- The member that holds the lists of names, if there is anything to hold. -/
def namingMember (c : Constraints) : Members Json :=
  if c.namingMembers.isEmpty then [] else [("naming_constraints", .object c.namingMembers)]

lemma toJson_eq (c : Constraints) : c.toJson = .object (c.pathLengthMember ++ c.namingMember) :=
  rfl

/-- **Written constraints are read back list by list.** -/
theorem read_toJson (writable : c.Writable) :
    read c.toJson = do
      let permitted ← rereadNames c.permitted
      let excluded ← rereadNames c.excluded
      return ⟨c.maxPathLength, permitted, excluded⟩ := by
  have length : readPathLength ((c.pathLengthMember ++ c.namingMember).get? "max_path_length") =
      .ok c.maxPathLength := by
    have elsewhere : c.namingMember.get? "max_path_length" = .none := by
      unfold namingMember
      split
      · rfl
      · rw [Members.get?_cons_of_ne (by decide)]
        rfl
    rw [Members.get?_append, elsewhere, Option.or_none]
    exact readPathLength_pathLengthMember writable
  have naming : (c.pathLengthMember ++ c.namingMember).get? "naming_constraints" =
      c.namingMember.get? "naming_constraints" := by
    rw [Members.get?_append, c.get?_pathLengthMember_of_ne (by decide), Option.none_or]
  have permitted := readNames_namesMember "permitted" c.permitted
  have excluded := readNames_namesMember "excluded" c.excluded
  rw [← get?_permitted] at permitted
  rw [← get?_excluded] at excluded
  rw [toJson_eq, read, readMembers, length, naming, ← permitted, ← excluded]
  by_cases nothing : c.namingMembers.isEmpty = true
  · -- nothing is written, and nothing is read back
    have absent : c.namingMember.get? "naming_constraints" = .none := by
      rw [namingMember, if_pos nothing]
      rfl
    rw [absent, List.isEmpty_iff.mp nothing]
    rfl
  · have present : c.namingMember.get? "naming_constraints" = some (.object c.namingMembers) := by
      rw [namingMember, if_neg nothing]
      simp [Members.get?]
    rw [present]
    rfl

/-! ### Verdicts -/

/-- The identifiers in the lists of names. -/
def listed (c : Constraints) : List EntityId :=
  c.permitted.getD [] ++ c.excluded.getD []

/-- A list with nothing in it as none at all. -/
def filled : Option (List EntityId) → Option (List EntityId)
  | some [] => .none
  | names => names

lemma getD_filled (names : Option (List EntityId)) : (filled names).getD [] = names.getD [] := by
  unfold filled
  split
  · rfl
  · rfl

lemma filled_of_ne {names : Option (List EntityId)} (some_listed : names ≠ some []) :
    filled names = names := by
  unfold filled
  split
  · exact absurd rfl some_listed
  · rfl

lemma rereadNames_of_stable {names : Option (List EntityId)}
    (stable : ∀ id ∈ names.getD [], id.Stable) : rereadNames names = .ok (filled names) := by
  unfold rereadNames
  split
  · rfl
  · rfl
  · rename_i ids some_listed
    have reread : (ids.mapM fun id => EntityId.read id.text) = .ok ids := mapM_read_of_stable stable
    rw [reread, filled_of_ne fun empty => some_listed (Option.some.inj empty)]
    rfl

/-- Constraints with empty lists of names as none at all. -/
def refilled (c : Constraints) : Constraints :=
  ⟨c.maxPathLength, filled c.permitted, filled c.excluded⟩

lemma read_toJson_of_stable {c : Constraints} (writable : c.Writable)
    (stable : ∀ id ∈ c.listed, id.Stable) : read c.toJson = .ok c.refilled := by
  rw [read_toJson writable,
    rereadNames_of_stable fun id mem => stable id (List.mem_append_left _ mem),
    rereadNames_of_stable fun id mem => stable id (List.mem_append_right _ mem)]
  rfl

/-- What reading back has made of constraints. -/
structure Reread (c c' : Constraints) : Prop where
  /-- The path length is kept. -/
  maxPathLength_eq : c'.maxPathLength = c.maxPathLength
  /-- So is the verdict on every identifier, unless there is an empty list of permitted ones. -/
  verdict_eq : c.permitted ≠ some [] → ∀ entity, c'.checkNaming entity = c.checkNaming entity
  /-- Such a list refuses everything. -/
  refuses : c.permitted = some [] → ∀ entity, c.checkNaming entity ≠ .ok ()
  /-- After reading back it is gone, and only what is excluded is refused. -/
  forgets : c.permitted = some [] → ∀ entity,
    c'.checkNaming entity = .ok () ↔ ∀ root ∈ c.excluded.getD [], entity.isUnder root = false

lemma checkNaming_ne_ok_of_none_permitted (empty : c.permitted = some []) (entity : EntityId) :
    c.checkNaming entity ≠ .ok () := by
  intro accepted
  obtain ⟨root, mem, _⟩ := (checkNaming_eq_ok_iff.mp accepted).1 [] empty
  cases mem

lemma checkNaming_eq_ok_of_permitted_none (absent : c.permitted = .none) (entity : EntityId) :
    c.checkNaming entity = .ok () ↔
      ∀ root ∈ c.excluded.getD [], entity.isUnder root = false := by
  have covers : c.Covers entity := by
    intro roots permitted
    rw [absent] at permitted
    cases permitted
  rw [checkNaming_eq_ok_iff]
  exact and_iff_right covers

lemma reread_filled (c : Constraints) :
    c.Reread c.refilled where
  maxPathLength_eq := rfl
  verdict_eq := fun some_listed entity => by
    simp only [checkNaming, refilled, getD_filled, filled_of_ne some_listed]
  refuses := checkNaming_ne_ok_of_none_permitted
  forgets := fun empty entity => by
    rw [checkNaming_eq_ok_of_permitted_none (by rw [refilled, empty, filled]), refilled, getD_filled]

lemma maxPathLength_of_reread (writable : c.Writable) (h : read c.toJson = .ok c') :
    c'.maxPathLength = c.maxPathLength := by
  rw [read_toJson writable] at h
  obtain ⟨_, _, h⟩ := Except.bind_eq_ok_iff.mp h
  obtain ⟨_, _, h⟩ := Except.bind_eq_ok_iff.mp h
  cases h
  rfl

lemma reread_of_stable (writable : c.Writable) (stable : ∀ id ∈ c.listed, id.Stable) :
    ∃ c', read c.toJson = .ok c' ∧ c.Reread c' :=
  ⟨c.refilled, read_toJson_of_stable writable stable, reread_filled c⟩

end Constraints

/-! ### Statements -/

namespace Statement

variable {claims value : Json} {s s' : Statement} {c : Constraints}

/-- When a statement is decoded and encoded, its constraints are written. -/
lemma written_of_toClaims (decoded : ofClaims claims = .ok s) (constrained : s.constraints = some c) :
    s.toMembers.get? "constraints" = some c.toJson := by
  obtain ⟨_, _, decoded⟩ := decoded_of_ofClaims decoded
  rw [decoded.get?_constraints, constrained]
  rfl

/-- When it is decoded once more, they are read back. -/
lemma reread_of_toClaims (written : s.toMembers.get? "constraints" = some c.toJson)
    (h : ofClaims s.toClaims = .ok s') :
    ∃ c', s'.constraints = some c' ∧ Constraints.read c.toJson = .ok c' := by
  obtain ⟨members, same, decoded⟩ := decoded_of_ofClaims h
  have reread := decoded.constraints
  cases same
  simp only [written, readConstraints, Constraints.toJson_eq] at reread ⊢
  cases read : Constraints.read (.object (c.pathLengthMember ++ c.namingMember)) with
  | error failure =>
      rw [read] at reread
      cases reread
  | ok c' =>
      rw [read] at reread
      have same : some c' = s'.constraints := Except.ok.inj reread
      exact ⟨c', same.symm, rfl⟩

end Statement

namespace Constraints

/-- **Constraints are written and read back without loss, but for empty lists.**  This holds of
constraints whose identifiers denote themselves.  The path length is kept whatever identifiers there
are.  A decoded statement is encoded with its constraints written in this way, and they are what is
read if it is decoded once more. -/
theorem reread_of_read {value : Json} {c : Constraints} (h : read value = .ok c) :
    (∀ c', read c.toJson = .ok c' → c'.maxPathLength = c.maxPathLength) ∧
      ((∀ id ∈ c.listed, id.Stable) → ∃ c', read c.toJson = .ok c' ∧ c.Reread c') ∧
      ∀ claims s, Statement.ofClaims claims = .ok s → s.constraints = some c →
        s.toMembers.get? "constraints" = some c.toJson ∧
          ∀ s', Statement.ofClaims s.toClaims = .ok s' →
            ∃ c', s'.constraints = some c' ∧ read c.toJson = .ok c' := by
  have writable := writable_of_read h
  refine ⟨fun _ => maxPathLength_of_reread writable, reread_of_stable writable, ?_⟩
  intro claims s decoded constrained
  have written := Statement.written_of_toClaims decoded constrained
  exact ⟨written, fun _ => Statement.reread_of_toClaims written⟩

/-- Constraints with a path length and names of both kinds are read back with the same verdicts. -/
theorem reread_underExample :
    ∃ c c', read (.object [("max_path_length", .int 1),
        ("naming_constraints", .object [("permitted", .array [.string "https://example"]),
          ("excluded", .array [.string "https://example/old"])])]) = .ok c ∧
      (∀ id ∈ c.listed, id.Stable) ∧ read c.toJson = .ok c' ∧ c.Reread c' := by
  have evaluated : (read (.object [("max_path_length", .int 1),
      ("naming_constraints", .object [("permitted", .array [.string "https://example"]),
        ("excluded", .array [.string "https://example/old"])])])).toOption =
      some ⟨some 1, some [⟨"https://example"⟩], some [⟨"https://example/old"⟩]⟩ := by
    decide +kernel
  have stable : ∀ id ∈ [(⟨"https://example"⟩ : EntityId), ⟨"https://example/old"⟩],
      (EntityId.read id.text).toOption = some id := by
    decide +kernel
  have decoded := Except.toOption_eq_some_iff.mp evaluated
  have stable' : ∀ id ∈ [(⟨"https://example"⟩ : EntityId), ⟨"https://example/old"⟩], id.Stable :=
    fun id mem => Except.toOption_eq_some_iff.mp (stable id mem)
  obtain ⟨c', reread, kept⟩ := (reread_of_read decoded).2.1 stable'
  exact ⟨_, c', decoded, stable', reread, kept⟩

/-- **Neither condition can be left out.**  Constraints that admit no identifier admit every one when they
have been written and read back.  A drive letter behind two slashes is a segment like others, behind one it
stands in the place of the host, so constraints with the identifier of such an address are not read back at
all. -/
theorem lossy_rereadings :
    (∃ c c', read (.object [("naming_constraints", .object [("permitted", .array [])])]) = .ok c ∧
      read c.toJson = .ok c' ∧ (∀ entity, c.checkNaming entity ≠ .ok ()) ∧
        ∀ entity, c'.checkNaming entity = .ok ()) ∧
    ∃ c, read (.object [("naming_constraints", .object
        [("permitted", .array [.string "file://h//C:/x"])])]) = .ok c ∧
      ∀ c', read c.toJson ≠ .ok c' := by
  constructor
  · refine ⟨⟨.none, some [], .none⟩, none, rfl, rfl, checkNaming_ne_ok_of_none_permitted rfl, ?_⟩
    intro entity
    rfl
  · have evaluated : (read (.object [("naming_constraints", .object
        [("permitted", .array [.string "file://h//C:/x"])])])).toOption =
          some ⟨.none, some [⟨"file://h/C:/x"⟩], .none⟩ ∧
        (read (toJson ⟨.none, some [⟨"file://h/C:/x"⟩], .none⟩)).toOption = .none := by
      decide +kernel
    refine ⟨_, Except.toOption_eq_some_iff.mp evaluated.1, fun c' reread => ?_⟩
    rw [reread] at evaluated
    cases evaluated.2

end Constraints

end Federation
