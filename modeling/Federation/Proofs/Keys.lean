import Federation.KeySet
import Federation.Proofs.Checks
import Federation.Proofs.Members

/-!
# Keys that are written and read again

A key is read member by member.  The known ones go to their places, whatever their order, and all others
are kept; so a key that is written is read back as it was.

**Keys.**  `Key.Plain` holds of what is read: no known member is among the others
(`Key.plain_of_read`).  `Key.read_toJson` reads such keys back.

**Members.**  `Key.member?` is a member of a key by its name.  It depends on the members that are read, but
not on their order (`Key.exists_read_of_perm`).

**Key sets.**  `KeySet.read_toJson` does the same for whole sets.
-/

namespace Federation

namespace Key

variable {key : Key} {value : Json}

/-- The members a key has places for. -/
def knownMembers : List String :=
  ["kty", "crv", "x", "kid", "alg", "use"]

/-- None of the other members has a place in the key. -/
def Plain (key : Key) : Prop :=
  ∀ member ∈ key.others, member.1 ∉ knownMembers

/-- A member without a place is kept at the end of the others. -/
lemma readMember_of_unknown {draft : Draft} {member : String × Json}
    (unknown : member.1 ∉ knownMembers) : readMember draft member =
      .ok { draft with rest := { draft.rest with others := draft.rest.others ++ [member] } } := by
  obtain ⟨name, value⟩ := member
  simp only [knownMembers, List.mem_cons, List.not_mem_nil, or_false, not_or] at unknown
  unfold readMember
  dsimp only
  split
  case h_7 => rfl
  all_goals simp at unknown

/-- A member with a place does not touch the others. -/
lemma others_of_known {draft draft' : Draft} {member : String × Json}
    (known : member.1 ∈ knownMembers) (h : readMember draft member = .ok draft') :
    draft'.rest.others = draft.rest.others := by
  obtain ⟨name, value⟩ := member
  simp only [knownMembers, List.mem_cons, List.not_mem_nil, or_false] at known
  rcases known with rfl | rfl | rfl | rfl | rfl | rfl
  all_goals
    obtain ⟨_, _, h⟩ := Except.bind_eq_ok_iff.mp h
    cases h
    rfl

lemma plain_of_readMember {draft draft' : Draft} {member : String × Json} (plain : draft.rest.Plain)
    (h : readMember draft member = .ok draft') : draft'.rest.Plain := by
  by_cases known : member.1 ∈ knownMembers
  · rw [Plain, others_of_known known h]
    exact plain
  · rw [readMember_of_unknown known] at h
    cases h
    intro other mem
    rcases List.mem_append.mp mem with mem | mem
    · exact plain other mem
    · rwa [List.mem_singleton.mp mem]

/-- A key before any member is read. -/
def unread : Draft :=
  ⟨none, ⟨"", none, none, none, none, none, []⟩⟩

/-- A key is read from an object, member by member, and has to have a type in the end. -/
lemma read_eq_ok_iff : read value = .ok key ↔ ∃ members draft type, value = .object members ∧
    members.foldlM readMember unread = .ok draft ∧ draft.type = some type ∧
      key = { draft.rest with type := type } := by
  cases value with
  | object members =>
      show (members.foldlM readMember unread >>= _) = _ ↔ _
      rw [Except.bind_eq_ok_iff]
      constructor
      · rintro ⟨draft, folded, h⟩
        split at h
        · rename_i type typed
          cases h
          exact ⟨members, draft, type, rfl, folded, typed, rfl⟩
        · cases h
      · rintro ⟨_, draft, type, ⟨⟩, folded, typed, rfl⟩
        refine ⟨draft, folded, ?_⟩
        rw [typed]
        rfl
  | _ => simp [read]

/-- What is read has no known member among the others. -/
lemma plain_of_read (h : read value = .ok key) : key.Plain := by
  obtain ⟨members, draft, type, rfl, folded, _, rfl⟩ := read_eq_ok_iff.mp h
  exact List.foldlM_induction (P := fun draft => draft.rest.Plain) folded
    (fun _ mem => absurd mem List.not_mem_nil) fun _ _ _ _ plain h => plain_of_readMember plain h

/-- An optional member is put in its place, if it is written. -/
lemma foldlM_optionalMember {members : Members Json} {a b c : Draft} {name : String}
    {text : Option String} (earlier : members.foldlM readMember a = .ok b)
    (absent : text = none → b = c)
    (present : ∀ t, text = some t → readMember b (name, .string t) = .ok c) :
    (members ++ optionalMember name text).foldlM readMember a = .ok c := by
  rw [List.foldlM_append, Except.bind_eq_ok_iff]
  refine ⟨b, earlier, ?_⟩
  cases text with
  | none =>
      rw [absent rfl]
      rfl
  | some t =>
      rw [optionalMember, List.foldlM_cons, present t rfl]
      rfl

lemma foldlM_others {draft : Draft} {members : Members Json}
    (unknown : ∀ member ∈ members, member.1 ∉ knownMembers) :
    members.foldlM readMember draft =
      .ok { draft with rest := { draft.rest with others := draft.rest.others ++ members } } := by
  induction members generalizing draft with
  | nil =>
      rw [List.append_nil]
      rfl
  | cons member rest ih =>
      rw [List.foldlM_cons, readMember_of_unknown (unknown member List.mem_cons_self)]
      show rest.foldlM readMember _ = _
      rw [ih fun other mem => unknown other (List.mem_cons_of_mem member mem)]
      simp

/-- **A key that was read is written and read back unchanged.** -/
theorem read_toJson (plain : key.Plain) : read key.toJson = .ok key := by
  obtain ⟨type, curve, x, id, algorithm, purpose, others⟩ := key
  have folded : (("kty", Json.string type) :: optionalMember "crv" curve ++ optionalMember "x" x ++
      optionalMember "kid" id ++ optionalMember "alg" algorithm ++ optionalMember "use" purpose ++
        others).foldlM readMember unread =
      .ok ⟨some type, ⟨"", curve, x, id, algorithm, purpose, others⟩⟩ := by
    rw [List.foldlM_append, Except.bind_eq_ok_iff]
    refine ⟨⟨some type, ⟨"", curve, x, id, algorithm, purpose, []⟩⟩, ?_, foldlM_others plain⟩
    -- member by member, from the last one back to the first one
    refine foldlM_optionalMember (b := ⟨some type, ⟨"", curve, x, id, algorithm, none, []⟩⟩)
      ?_ (by rintro rfl; rfl) (by rintro t rfl; rfl)
    refine foldlM_optionalMember (b := ⟨some type, ⟨"", curve, x, id, none, none, []⟩⟩)
      ?_ (by rintro rfl; rfl) (by rintro t rfl; rfl)
    refine foldlM_optionalMember (b := ⟨some type, ⟨"", curve, x, none, none, none, []⟩⟩)
      ?_ (by rintro rfl; rfl) (by rintro t rfl; rfl)
    refine foldlM_optionalMember (b := ⟨some type, ⟨"", curve, none, none, none, none, []⟩⟩)
      ?_ (by rintro rfl; rfl) (by rintro t rfl; rfl)
    have type_read : [("kty", Json.string type)].foldlM readMember unread =
        .ok ⟨some type, ⟨"", none, none, none, none, none, []⟩⟩ := rfl
    exact foldlM_optionalMember type_read (by rintro rfl; rfl) (by rintro t rfl; rfl)
  exact read_eq_ok_iff.mpr ⟨_, _, type, rfl, folded, rfl, rfl⟩

/-! ### Members by name -/

/-- A member of a key by its name. -/
def member? (key : Key) (name : String) : Option Json :=
  match name with
  | "kty" => some (.string key.type)
  | "crv" => key.curve.map .string
  | "x" => key.x.map .string
  | "kid" => key.id.map .string
  | "alg" => key.algorithm.map .string
  | "use" => key.purpose.map .string
  | name => key.others.get? name

lemma member?_of_unknown {name : String} (unknown : name ∉ knownMembers) :
    key.member? name = key.others.get? name := by
  simp only [knownMembers, List.mem_cons, List.not_mem_nil, or_false, not_or] at unknown
  unfold member?
  split
  case h_7 => rfl
  all_goals simp at unknown

/-- A member of a key that is being read.  Its type may not have been read yet. -/
def Draft.member? (draft : Draft) (name : String) : Option Json :=
  if name = "kty" then draft.type.map .string else draft.rest.member? name

/-- What a key keeps of a member.  Where a text is optional, null stands for no text. -/
def kept (name : String) (value : Json) : Option Json :=
  if name ∈ knownMembers.tail ∧ value.isNull then none else some value

lemma readText_eq_ok_iff {text : String} : readText value = .ok text ↔ value = .string text := by
  cases value with
  | string s => simp [readText]
  | _ => simp [readText]

/-- An optional text is kept unless it is null. -/
lemma kept_of_readOptionalText {name : String} {text : Option String}
    (optional : name ∈ knownMembers.tail) (h : readOptionalText value = .ok text) :
    text.map Json.string = kept name value := by
  rw [kept]
  unfold readOptionalText at h
  split at h
  · cases h
    simp [optional, Json.isNull]
  · obtain ⟨s, read, rfl⟩ := Except.map_eq_ok_iff.mp h
    cases readText_eq_ok_iff.mp read
    simp [Json.isNull]

variable {draft draft' : Draft} {name other : String}

/-- A known member goes to its place, and no other place is touched. -/
lemma member?_of_readMember_of_known (known : name ∈ knownMembers)
    (h : readMember draft (name, value) = .ok draft') :
    draft'.member? other = if other = name then kept name value else draft.member? other := by
  rcases List.mem_cons.mp known with rfl | optional
  · obtain ⟨text, read, h⟩ := Except.bind_eq_ok_iff.mp h
    cases h
    cases readText_eq_ok_iff.mp read
    unfold Draft.member?
    split
    · rfl
    · rfl
  · have place : ∀ text, readOptionalText value = .ok text → text.map Json.string = kept name value :=
      fun _ => kept_of_readOptionalText optional
    simp only [List.mem_cons, List.not_mem_nil, or_false] at optional
    rcases optional with rfl | rfl | rfl | rfl | rfl
    all_goals
      obtain ⟨text, read, h⟩ := Except.bind_eq_ok_iff.mp h
      cases h
      rw [← place text read]
      unfold Draft.member? Key.member?
      split
      · rename_i type
        rw [type]
        rfl
      · split
        all_goals simp_all

lemma Draft.member?_of_unknown (unknown : name ∉ knownMembers) :
    draft.member? name = draft.rest.others.get? name := by
  have untyped : name ≠ "kty" := by
    rintro rfl
    exact unknown List.mem_cons_self
  rw [Draft.member?, if_neg untyped, Key.member?_of_unknown unknown]

/-- What stands among the others makes no difference to the known members. -/
lemma Draft.member?_of_known {others : Members Json} (known : name ∈ knownMembers) :
    Draft.member? { draft with rest := { draft.rest with others := others } } name =
      draft.member? name := by
  simp only [knownMembers, List.mem_cons, List.not_mem_nil, or_false] at known
  rcases known with rfl | rfl | rfl | rfl | rfl | rfl
  all_goals rfl

/-- Reading a member puts it under its name, where nothing was, and changes nothing else. -/
lemma member?_of_readMember (h : readMember draft (name, value) = .ok draft')
    (fresh : draft.rest.others.get? name = none) :
    draft'.member? other = if other = name then kept name value else draft.member? other := by
  by_cases known : name ∈ knownMembers
  · exact member?_of_readMember_of_known known h
  · rw [readMember_of_unknown known] at h
    cases h
    by_cases same : other = name
    · subst same
      have required : ¬ (other ∈ knownMembers.tail ∧ value.isNull = true) := fun optional =>
        known (List.mem_of_mem_tail optional.1)
      rw [if_pos rfl, Draft.member?_of_unknown known, Members.get?_append, fresh, kept, if_neg required]
      simp [Members.get?]
    · rw [if_neg same]
      by_cases placed : other ∈ knownMembers
      · exact Draft.member?_of_known placed
      · rw [Draft.member?_of_unknown placed, Draft.member?_of_unknown placed, Members.get?_append,
          Members.get?_cons_of_ne (Ne.symm same), Members.get?_nil, Option.or_none]

/-- What is kept of the members of an object, by name. -/
lemma member?_of_foldlM {members : Members Json} (distinct : members.Distinct)
    (fresh : ∀ name ∈ members.keys, draft.rest.others.get? name = none)
    (h : members.foldlM readMember draft = .ok draft') (name : String) :
    draft'.member? name = match members.get? name with
      | some value => kept name value
      | none => draft.member? name := by
  induction members generalizing draft with
  | nil =>
      cases h
      rfl
  | cons member rest ih =>
      obtain ⟨first, value⟩ := member
      obtain ⟨single, distinct'⟩ := List.nodup_cons.mp distinct
      rw [List.foldlM_cons, Except.bind_eq_ok_iff] at h
      obtain ⟨next, read, later⟩ := h
      have fresh' : ∀ name ∈ Members.keys rest, next.rest.others.get? name = none := by
        intro name mem
        have before := fresh name (List.mem_cons_of_mem first mem)
        have differs : first ≠ name := fun same => single (same ▸ mem)
        by_cases known : first ∈ knownMembers
        · rwa [others_of_known known read]
        · rw [readMember_of_unknown known] at read
          cases read
          rw [Members.get?_append, before, Members.get?_cons_of_ne differs]
          rfl
      have here : next.member? name = if name = first then kept first value else draft.member? name :=
        member?_of_readMember read (fresh first List.mem_cons_self)
      rw [ih distinct' fresh' later, here]
      by_cases same : first = name
      · subst same
        have unnamed := (Members.get?_eq_none_iff rest first).mpr single
        simp [Members.get?, unnamed]
      · rw [Members.get?_cons_of_ne same, if_neg (Ne.symm same)]

/-- Whether a member can be read does not depend on those before it. -/
lemma exists_readMember (h : readMember draft (name, value) = .ok draft') (other : Draft) :
    ∃ other', readMember other (name, value) = .ok other' := by
  by_cases known : name ∈ knownMembers
  · simp only [knownMembers, List.mem_cons, List.not_mem_nil, or_false] at known
    rcases known with rfl | rfl | rfl | rfl | rfl | rfl
    all_goals
      obtain ⟨text, read, _⟩ := Except.bind_eq_ok_iff.mp h
      exact ⟨_, Except.bind_eq_ok_iff.mpr ⟨text, read, rfl⟩⟩
  · exact ⟨_, readMember_of_unknown known⟩

/-- Members can be read one after the other if each of them can be read. -/
lemma exists_foldlM_iff {members : Members Json} (draft : Draft) :
    (∃ final, members.foldlM readMember draft = .ok final) ↔
      ∀ member ∈ members, ∃ before after, readMember before member = .ok after := by
  induction members generalizing draft with
  | nil =>
      refine ⟨fun _ _ mem => absurd mem List.not_mem_nil, fun _ => ⟨draft, rfl⟩⟩
  | cons member rest ih =>
      rw [List.foldlM_cons, List.forall_mem_cons]
      constructor
      · rintro ⟨final, h⟩
        obtain ⟨next, read, later⟩ := Except.bind_eq_ok_iff.mp h
        exact ⟨⟨draft, next, read⟩, (ih next).mp ⟨final, later⟩⟩
      · rintro ⟨⟨before, after, read⟩, others⟩
        obtain ⟨next, read⟩ := exists_readMember read draft
        obtain ⟨final, later⟩ := (ih next).mpr others
        exact ⟨final, Except.bind_eq_ok_iff.mpr ⟨next, read, later⟩⟩

lemma member?_of_typed {type : String} (typed : draft.type = some type) (name : String) :
    Key.member? { draft.rest with type := type } name = draft.member? name := by
  unfold Draft.member?
  split
  · rename_i same
    rw [same, typed]
    rfl
  · rename_i other
    unfold Key.member?
    split
    case h_1 => exact absurd rfl other
    all_goals rfl

/-- **The order in which the members of a key are written makes no difference.**  The key that is read has
the same members by name. -/
theorem exists_read_of_perm {members members' : Members Json} (distinct : members.Distinct)
    (perm : members'.Perm members) (h : read (.object members) = .ok key) :
    ∃ key', read (.object members') = .ok key' ∧ ∀ name, key'.member? name = key.member? name := by
  have distinct' : members'.Distinct := (perm.map Prod.fst).nodup_iff.mpr distinct
  obtain ⟨_, draft, type, ⟨⟩, folded, typed, rfl⟩ := read_eq_ok_iff.mp h
  have readable := (exists_foldlM_iff unread).mp ⟨draft, folded⟩
  obtain ⟨draft', folded'⟩ := (exists_foldlM_iff unread).mpr fun member mem =>
    readable member (perm.mem_iff.mp mem)
  have same : ∀ name, draft'.member? name = draft.member? name := by
    intro name
    rw [member?_of_foldlM distinct' (fun _ _ => rfl) folded',
      member?_of_foldlM distinct (fun _ _ => rfl) folded, Members.get?_of_perm distinct perm]
  have typed' : draft'.type = some type := by
    have written := same "kty"
    simpa [Draft.member?, typed] using written
  refine ⟨_, read_eq_ok_iff.mpr ⟨members', draft', type, rfl, folded', typed', rfl⟩, fun name => ?_⟩
  rw [member?_of_typed typed', member?_of_typed typed, same]

end Key

namespace KeySet

variable {set : KeySet} {value : Json}

/-- No key of the set has a known member among the others. -/
def Plain (set : KeySet) : Prop :=
  ∀ key ∈ set.keys, key.Plain

lemma plain_of_readKeys {keys : List Key} (h : readKeys value = .ok keys) :
    ∀ key ∈ keys, key.Plain := by
  unfold readKeys at h
  split at h
  · intro key mem
    obtain ⟨_, _, read⟩ := List.exists_of_mapM_eq_ok h mem
    exact Key.plain_of_read read
  · cases h

lemma plain_of_read (h : read value = .ok set) : set.Plain := by
  rw [read, Except.mapError_eq_ok_iff] at h
  unfold ofJson at h
  split at h
  · split at h
    · rename_i written _
      cases read : readKeys written with
      | error why =>
          rw [read] at h
          cases h
      | ok keys =>
          rw [read] at h
          cases h
          exact plain_of_readKeys read
    · cases h
  · cases h
  · obtain ⟨keys, read, h⟩ := Except.bind_eq_ok_iff.mp h
    split at h
    · cases h
      exact plain_of_readKeys read
    · cases h
  · cases h

/-- **A key set that was read is written and read back unchanged.** -/
theorem read_toJson (plain : set.Plain) : read set.toJson = .ok set := by
  have keys : (set.keys.map Key.toJson).mapM Key.read = .ok set.keys := by
    rw [List.mapM_map]
    simpa using List.mapM_eq_ok (f := Key.read ∘ Key.toJson) (g := id) fun key mem =>
      Key.read_toJson (plain key mem)
  rw [toJson, read, Except.mapError_eq_ok_iff]
  show (readKeys _).map mk = _
  rw [readKeys, keys]
  rfl

end KeySet

end Federation
