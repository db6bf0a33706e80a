import Federation.Json.Document
import Federation.Proofs.Json.Equality

/-!
# Values that are read are well-formed

Of a name that is repeated in a text only one member survives, so no object in the value of a text
repeats a name (`Json.wellFormed_of_parse?`).  Lemmas about well-formed values hold of all values that
come from outside, and of what they become when members are set.
-/

namespace Federation

namespace Members

variable {α : Type} {members written : Members α} {entry : String × α}

lemma mem_of_mem_foldl_insert
    (mem : entry ∈ written.foldl (fun members entry => insert members entry.1 entry.2) members) :
    entry ∈ members ∨ entry ∈ written := by
  induction written generalizing members with
  | nil => exact .inl mem
  | cons first rest ih =>
      rcases ih mem with set | later
      · rcases eq_or_mem_of_mem_insert set with rfl | before
        · exact .inr List.mem_cons_self
        · exact .inl before
      · exact .inr (List.mem_cons_of_mem _ later)

end Members

namespace Json

variable {members : Members Json}

/-- An object stays well-formed when a member is set. -/
lemma WellFormed.insert (wellFormed : (Json.object members).WellFormed) (name : String) {value : Json}
    (well : value.WellFormed) : (Json.object (members.insert name value)).WellFormed := by
  refine ⟨Members.distinct_insert wellFormed.1, allMembersWellFormed_iff.mpr fun entry mem => ?_⟩
  rcases Members.eq_or_mem_of_mem_insert mem with rfl | before
  · exact well
  · exact allMembersWellFormed_iff.mp wellFormed.2 entry before

mutual

lemma wellFormed_of_value? : ∀ {document : Document} {value : Json},
    document.value? = some value → value.WellFormed
  | .null, _, h => by
      cases h
      trivial
  | .boolean _, _, h => by
      cases h
      trivial
  | .number numeral, _, h => by
      obtain ⟨n, _, rfl⟩ := Option.map_eq_some_iff.mp h
      trivial
  | .string literal, _, h => by
      obtain ⟨s, _, rfl⟩ := Option.map_eq_some_iff.mp h
      trivial
  | .array items, _, h => by
      obtain ⟨values, read, rfl⟩ := Option.map_eq_some_iff.mp h
      exact allWellFormed_of_valuesOfItems? read
  | .object members, _, h => by
      obtain ⟨written, read, rfl⟩ := Option.map_eq_some_iff.mp h
      refine ⟨Members.distinct_foldl_insert List.nodup_nil, allMembersWellFormed_iff.mpr ?_⟩
      intro entry mem
      have listed := (Members.mem_of_mem_foldl_insert mem).resolve_left List.not_mem_nil
      exact allMembersWellFormed_iff.mp (allMembersWellFormed_of_valuesOfMembers? read) entry listed

lemma allWellFormed_of_valuesOfItems? : ∀ {items : List Document} {values : List Json},
    Document.valuesOfItems? items = some values → AllWellFormed values
  | [], _, h => by
      cases h
      trivial
  | item :: rest, _, h => by
      obtain ⟨value, here, h⟩ := Option.bind_eq_some_iff.mp h
      obtain ⟨values, there, same⟩ := Option.bind_eq_some_iff.mp h
      cases same
      exact ⟨wellFormed_of_value? here, allWellFormed_of_valuesOfItems? there⟩

lemma allMembersWellFormed_of_valuesOfMembers? : ∀ {members : List (Literal × Document)}
    {written : List (String × Json)}, Document.valuesOfMembers? members = some written →
    AllMembersWellFormed written
  | [], _, h => by
      cases h
      trivial
  | (literal, document) :: rest, _, h => by
      obtain ⟨name, _, h⟩ := Option.bind_eq_some_iff.mp h
      obtain ⟨value, here, h⟩ := Option.bind_eq_some_iff.mp h
      obtain ⟨written, there, same⟩ := Option.bind_eq_some_iff.mp h
      cases same
      exact ⟨wellFormed_of_value? here, allMembersWellFormed_of_valuesOfMembers? there⟩

end

/-- **The value of a text is well-formed.** -/
theorem wellFormed_of_parse? {text : String} {value : Json} (h : parse? text = some value) :
    value.WellFormed := by
  obtain ⟨document, _, h⟩ := Option.bind_eq_some_iff.mp h
  split at h
  · exact wellFormed_of_value? h
  · cases h

end Json

end Federation
