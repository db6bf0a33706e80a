import Federation.EntityId
import Federation.Proofs.Address.Path

/-!
# Slashes at the end of an address

The text of an identifier is the text of an address whose final slashes have been taken off, so it is
in general no text that an address is written as.  It still denotes that address, but for slashes at
the end of the path.

**Stages.**  A slash at the end of what a stage of the reader is given shows only in what the stage
leaves behind: the scheme, the authority and the port are the same (`Address.scheme?_concat_slash`,
`Address.authority_concat_slash`, `Address.port?_concat_slash`).

**Path.**  One more slash is one more segment, and that one is empty (`Address.segments_concat_slash`).
Taking it adds an empty segment unless dots at the end have left one already
(`Address.takeSegments_concat_nil`), which is a slash at the end of the path or nothing.

**The whole.**  `Address.SameButSlashes` is what two such addresses have in common.
`Address.ofText_append_slash` is about one slash, `Address.ofText_withoutFinalSlashes` about all of
them.
-/

namespace Federation

section

variable {α : Type} {p : α → Bool} {l : List α} {c : α}

/-- What is taken off the front of a list does not reach beyond an item that ends it. -/
lemma List.takeWhile_concat_of_neg (ends : p c = false) : (l ++ [c]).takeWhile p = l.takeWhile p := by
  induction l with
  | nil => rw [List.nil_append, List.takeWhile_cons_of_neg (by simp [ends]), List.takeWhile_nil]
  | cons d l ih => simp only [List.cons_append, List.takeWhile_cons, ih]

lemma List.dropWhile_concat_of_neg (ends : p c = false) :
    (l ++ [c]).dropWhile p = l.dropWhile p ++ [c] := by
  induction l with
  | nil => rw [List.nil_append, List.dropWhile_cons_of_neg (by simp [ends]), List.dropWhile_nil,
      List.nil_append]
  | cons d l ih =>
      simp only [List.cons_append, List.dropWhile_cons, ih]
      split
      · rfl
      · rfl

end

namespace EntityId

/-! ### Texts -/

lemma toList_withoutFinalSlashes (s : String) :
    (withoutFinalSlashes s).toList = s.toList.rdropWhile (· == '/') := by
  rw [withoutFinalSlashes, String.toList_ofList, List.rdropWhile]

lemma withoutFinalSlashes_append_slash (s : String) :
    withoutFinalSlashes (s ++ "/") = withoutFinalSlashes s := by
  rw [← String.toList_inj, toList_withoutFinalSlashes, toList_withoutFinalSlashes,
    String.toList_append]
  exact List.rdropWhile_concat_pos _ _ _ rfl

/-- Slashes at the end do not depend on what stands before them. -/
lemma withoutFinalSlashes_append_congr (s : String) {t t' : String}
    (same : withoutFinalSlashes t = withoutFinalSlashes t') :
    withoutFinalSlashes (s ++ t) = withoutFinalSlashes (s ++ t') := by
  have split : ∀ u : String, withoutFinalSlashes (s ++ u) =
      if (withoutFinalSlashes u).toList = [] then withoutFinalSlashes s
      else s ++ withoutFinalSlashes u := by
    intro u
    simp only [withoutFinalSlashes, String.toList_append, List.reverse_append, List.dropWhile_append,
      String.toList_ofList, List.isEmpty_iff, List.reverse_eq_nil_iff]
    split
    · rfl
    · rw [List.reverse_append, List.reverse_reverse, String.ofList_append, String.ofList_toList]
  rw [split, split, same]

end EntityId

namespace Address

open EntityId (withoutFinalSlashes)

variable {scheme : String} {family : Family} {cs : List Char} {a : Address}

/-! ### Scheme -/

lemma scheme?_concat_slash (cs : List Char) :
    scheme? (cs ++ ['/']) = (scheme? cs).map fun found => (found.1, found.2 ++ ['/']) := by
  have go : ∀ cs before, scheme?.go before (cs ++ ['/']) =
      (scheme?.go before cs).map fun found => (found.1, found.2 ++ ['/']) := by
    intro cs
    induction cs with
    | nil => intro before; rfl
    | cons c rest ih =>
        intro before
        by_cases colon : c = ':'
        · subst colon
          rfl
        · simp only [List.cons_append, scheme?.go]
          split
          · exact ih _
          · rfl
  cases cs with
  | nil => rfl
  | cons c rest =>
      simp only [List.cons_append, scheme?]
      split
      · exact go rest _
      · rfl

/-! ### Authority -/

lemma authority_concat_slash : authority family (cs ++ ['/']) = authority family cs :=
  List.takeWhile_concat_of_neg (by rw [endsAuthority_slash]; rfl)

lemma behind_concat_slash : behind family (cs ++ ['/']) = behind family cs ++ ['/'] := by
  have within : (authority family cs).length ≤ cs.length :=
    (List.takeWhile_prefix _).length_le
  rw [behind, authority_concat_slash, List.drop_append_of_le_length within, behind]

lemma port?_concat_slash : port? scheme (cs ++ ['/']) =
    (port? scheme cs).map fun read => (read.1, read.2 ++ ['/']) := by
  have digits : (cs ++ ['/']).takeWhile Char.isDigit = cs.takeWhile Char.isDigit :=
    List.takeWhile_concat_of_neg rfl
  have rest : (cs ++ ['/']).dropWhile Char.isDigit = cs.dropWhile Char.isDigit ++ ['/'] :=
    List.dropWhile_concat_of_neg rfl
  have follows : ∀ (cs : List Char) (p : Char → Bool), p '/' = false →
      (cs ++ ['/']).head?.any p = cs.head?.any p := by
    intro cs p fits
    cases cs with
    | nil => exact fits
    | cons c more => rfl
  simp only [port?, digits, rest]
  rw [follows _ _ rfl]
  simp only [apply_ite (Except.map _)]
  rfl

lemma readPort_concat_slash {behindHost tail : List Char} :
    readPort scheme behindHost (tail ++ ['/']) =
      (readPort scheme behindHost tail).map fun read => (read.1, read.2 ++ ['/']) := by
  unfold readPort
  split
  · rw [← List.append_assoc]
    exact port?_concat_slash
  · rfl

/-! ### Path -/

/-- A segment without characters is kept as it is. -/
lemma takeSegment_nil (before : List String) (isLast : Bool) :
    takeSegment family before [] isLast = ("" :: before, true) := by
  have noDots : isDoubleDot "" = false ∧ isSingleDot "" = false := by
    decide +kernel
  have text : String.ofList (Percent.encode Percent.isPathReserved []) = "" := rfl
  rw [takeSegment, text]
  simp only [noDots.1, noDots.2, Bool.false_eq_true, if_false]
  split
  · rename_i first
    rw [List.isEmpty_iff.mp first.2]
    rfl
  · rfl

/-- Only dots at the end of a path make a difference: they leave an empty segment behind. -/
lemma takeSegment_last (before : List String) (raw : List Char) :
    takeSegment family before raw true = takeSegment family before raw false ∨
      takeSegment family before raw true = ("" :: (takeSegment family before raw false).1,
        (takeSegment family before raw false).2) := by
  unfold takeSegment
  simp only []
  split
  · exact .inr rfl
  · split
    · exact .inr rfl
    · exact .inl rfl

/-- One more slash at the end of a path adds an empty segment, unless there is one already because of
dots. -/
lemma takeSegments_concat_nil {raws : List (List Char)} (nonempty : raws ≠ []) (before : List String) :
    takeSegments family before (raws ++ [[]]) = takeSegments family before raws ∨
      takeSegments family before (raws ++ [[]]) =
        ((takeSegments family before raws).1 ++ [""], (takeSegments family before raws).2) := by
  induction raws generalizing before with
  | nil => exact absurd rfl nonempty
  | cons raw rest ih =>
      rw [List.cons_append, takeSegments_cons, takeSegments_cons]
      cases rest with
      | nil =>
          rw [List.nil_append, takeSegments_cons, takeSegment_nil]
          simp only [List.isEmpty_cons, List.isEmpty_nil, takeSegments]
          rcases @takeSegment_last family before raw with same | dots
          · right
            rw [same]
            simp
          · left
            rw [dots]
            simp
      | cons next more =>
          have later : (next :: more ++ [[]]).isEmpty = (next :: more).isEmpty := rfl
          rw [later]
          rcases ih (by simp) (takeSegment family before raw (next :: more).isEmpty).1 with same | added
          · left
            rw [same]
          · right
            rw [added]

lemma segments_concat_slash : segments family (cs ++ ['/']) = segments family cs ++ [[]] := by
  have slash : (if isSlash family '/' then '/' else '/') = '/' := ite_self _
  rw [segments, List.map_append, List.map_cons, List.map_nil, slash, Internet.splitOn_eq,
    List.splitOn_append_cons_self, segments, Internet.splitOn_eq]
  rfl

/-- An empty segment at the end of a path is a slash at its end. -/
lemma withoutFinalSlashes_pathText (segments : List String) :
    withoutFinalSlashes (pathText family (segments ++ [""])) =
      withoutFinalSlashes (pathText family segments) := by
  have joined : ∀ kept : List String, withoutFinalSlashes ("/" ++ String.intercalate "/" (kept ++ [""])) =
      withoutFinalSlashes ("/" ++ String.intercalate "/" kept) := by
    intro kept
    cases kept with
    | nil => rfl
    | cons first rest =>
        rw [String.intercalate_append_of_ne_nil (by simp) (by simp), String.intercalate_singleton,
          String.append_empty, ← String.append_assoc]
        exact EntityId.withoutFinalSlashes_append_slash _
  unfold pathText
  split
  · -- in a file path there may be nothing but empty segments
    rw [List.dropWhile_append]
    cases found : segments.dropWhile String.isEmpty with
    | nil => rfl
    | cons first rest => exact joined (first :: rest)
  · exact joined segments

/-- **A slash at the end of a text is at most a slash at the end of the path.** -/
lemma readPath_concat_slash (family : Family) (cs : List Char) :
    (readPath family (cs ++ ['/'])).2 = (readPath family cs).2 ∧
      withoutFinalSlashes (readPath family (cs ++ ['/'])).1 =
        withoutFinalSlashes (readPath family cs).1 := by
  cases cs with
  | nil =>
      cases family with
      | special => exact ⟨rfl, rfl⟩
      | file => exact ⟨rfl, rfl⟩
      | other =>
          -- the path is empty without the slash
          have kept : takeSegments .other [] [[]] = ([""], true) := by
            rw [takeSegments_cons, takeSegment_nil]
            rfl
          have path : readPath .other ['/'] = ("/", true) := by
            show (pathText .other (takeSegments .other [] [[]]).1,
              (takeSegments .other [] [[]]).2) = _
            rw [kept]
            rfl
          rw [List.nil_append, path]
          exact ⟨rfl, EntityId.withoutFinalSlashes_append_slash ""⟩
  | cons c rest =>
      have relative : (if ((c :: rest) ++ ['/']).head?.any (isSlash family) then ((c :: rest) ++ ['/']).drop 1
          else (c :: rest) ++ ['/']) =
          (if (c :: rest).head?.any (isSlash family) then (c :: rest).drop 1 else c :: rest) ++ ['/'] := by
        simp only [List.cons_append, List.head?_cons, Option.any_some, List.drop_succ_cons,
          List.drop_zero]
        split
        · rfl
        · rfl
      have filled : ∀ cs : List Char, ((c :: cs).isEmpty && !family.isSpecial) = false := fun _ => rfl
      rw [readPath, readPath]
      simp only [relative, segments_concat_slash]
      rw [List.cons_append, filled, filled]
      simp only [Bool.false_eq_true, if_false]
      generalize (if (c :: rest).head?.any (isSlash family) then (c :: rest).drop 1 else c :: rest) =
        relative
      have nonempty : segments family relative ≠ [] := segments_ne_nil _
      rcases takeSegments_concat_nil nonempty [] with same | added
      · rw [same]
        exact ⟨rfl, rfl⟩
      · rw [added]
        exact ⟨rfl, withoutFinalSlashes_pathText _⟩

/-! ### The whole -/

/-- Two addresses that differ in slashes at the end of the path only. -/
structure SameButSlashes (a b : Address) : Prop where
  elsewhere : { a with path := "" } = { b with path := "" }
  path : withoutFinalSlashes a.path = withoutFinalSlashes b.path

namespace SameButSlashes

variable {a b c : Address}

lemma refl (a : Address) : SameButSlashes a a := ⟨rfl, rfl⟩

lemma trans (h : SameButSlashes a b) (h' : SameButSlashes b c) : SameButSlashes a c :=
  ⟨h.elsewhere.trans h'.elsewhere, h.path.trans h'.path⟩

lemma suffix_eq (h : SameButSlashes a b) : a.suffix = b.suffix := by
  show ({ a with path := "" } : Address).suffix = ({ b with path := "" } : Address).suffix
  rw [h.elsewhere]

/-- The texts differ in slashes at the end only. -/
lemma text_eq (h : SameButSlashes a b) : withoutFinalSlashes a.text = withoutFinalSlashes b.text := by
  have front : ∀ a : Address, a.text = ({ a with path := "" } : Address).text ++ a.path := by
    intro a
    simp [text, userinfoText, portText]
  rw [front a, front b, h.elsewhere]
  exact EntityId.withoutFinalSlashes_append_congr _ h.path

end SameButSlashes

lemma suffix_concat_slash :
    (pathAndSuffix family (cs ++ ['/'])).2 = "" ↔ (pathAndSuffix family cs).2 = "" := by
  rw [suffix_eq_empty_iff, suffix_eq_empty_iff]
  simp [or_imp, forall_and]

lemma stays_concat_slash (plain : (pathAndSuffix family cs).2 = "") :
    (pathAndSuffix family (cs ++ ['/'])).1.2 = (pathAndSuffix family cs).1.2 := by
  rw [pathAndSuffix_of_plain plain, pathAndSuffix_of_plain (suffix_concat_slash.mpr plain)]
  exact (readPath_concat_slash family cs).1

variable {user : List Char} {host : Host} {port : Option Nat}

lemma assemble_concat_slash (plain : (pathAndSuffix family cs).2 = "") :
    SameButSlashes (assemble scheme family user host port (cs ++ ['/']))
      (assemble scheme family user host port cs) where
  elsewhere := by
    simp only [assemble, suffix_concat_slash.mpr plain, plain]
  path := by
    simp only [assemble, pathAndSuffix_of_plain plain,
      pathAndSuffix_of_plain (suffix_concat_slash.mpr plain)]
    exact (readPath_concat_slash family cs).2

/-- What is read without a suffix is read again, but for slashes at the end. -/
def Corresponds (x y : Except Defect (Option Address)) : Prop :=
  ∀ a, x = .ok (some a) → a.suffix = "" → ∃ b, y = .ok (some b) ∧ SameButSlashes a b

lemma ofAuthority_concat_slash :
    Corresponds (ofAuthority scheme family (cs ++ ['/'])) (ofAuthority scheme family cs) := by
  intro a h plain
  obtain ⟨filled, host, port, rest, hostRead, portRead, rfl⟩ := ofAuthority_eq_ok_some_iff.mp h
  rw [authority_concat_slash] at filled hostRead portRead plain ⊢
  rw [behind_concat_slash, readPort_concat_slash, Except.map_eq_ok_iff] at portRead
  obtain ⟨⟨port', rest'⟩, portRead', same⟩ := portRead
  obtain ⟨rfl, rfl⟩ := Prod.mk.inj same
  exact ⟨_, ofAuthority_eq_ok_some_iff.mpr ⟨filled, host, _, _, hostRead, portRead', rfl⟩,
    assemble_concat_slash (suffix_concat_slash.mp plain)⟩

lemma ofFileAuthority_concat_slash :
    Corresponds (ofFileAuthority (cs ++ ['/'])) (ofFileAuthority cs) := by
  intro a h plain
  obtain ⟨filled, noDrive, host, hostRead, remote, stays, rfl⟩ := ofFileAuthority_eq_ok_some_iff.mp h
  rw [behind_concat_slash] at plain stays ⊢
  rw [authority_concat_slash] at filled noDrive hostRead
  have plain' : (pathAndSuffix .file (behind .file cs)).2 = "" := suffix_concat_slash.mp plain
  rw [stays_concat_slash plain'] at stays
  exact ⟨_, ofFileAuthority_eq_ok_some_iff.mpr ⟨filled, noDrive, host, hostRead, remote, stays, rfl⟩,
    assemble_concat_slash plain'⟩

lemma readAuthority_concat_slash :
    Corresponds (readAuthority scheme family (cs ++ ['/'])) (readAuthority scheme family cs) := by
  cases family with
  | file => exact ofFileAuthority_concat_slash
  | special => exact ofAuthority_concat_slash
  | other => exact ofAuthority_concat_slash

/-- Of nothing no address is read. -/
lemma readAuthority_nil : readAuthority scheme family [] ≠ .ok (some a) := by
  intro h
  cases family with
  | file => exact (ofFileAuthority_eq_ok_some_iff.mp (show ofFileAuthority [] = _ from h)).1 rfl
  | special =>
      exact (ofAuthority_eq_ok_some_iff.mp (show ofAuthority scheme .special [] = _ from h)).1 rfl
  | other => exact (ofAuthority_eq_ok_some_iff.mp (show ofAuthority scheme .other [] = _ from h)).1 rfl

/-- A slash behind an authority that is not empty is none of those before it. -/
lemma opens_concat_slash {rest : List Char} (opens : Opens family (rest ++ ['/']) cs)
    (filled : cs ≠ []) : ∃ cs', Opens family rest cs' ∧ cs = cs' ++ ['/'] := by
  generalize whole : rest ++ ['/'] = text at opens
  cases opens with
  | special =>
      subst whole
      refine ⟨_, .special rest, ?_⟩
      rw [List.dropWhile_append] at filled ⊢
      split at filled
      · exact absurd rfl filled
      · rename_i more
        rw [if_neg more]
  | @file first second cs slash slash' =>
      match rest, whole with
      | [], whole => cases whole
      | [_], whole =>
          cases whole
          exact absurd rfl filled
      | _ :: _ :: cs', whole =>
          cases whole
          exact ⟨cs', .file slash slash', rfl⟩
  | other cs =>
      match rest, whole with
      | [], whole => cases whole
      | [_], whole =>
          cases whole
          exact absurd rfl filled
      | _ :: _ :: cs', whole =>
          cases whole
          exact ⟨cs', .other cs', rfl⟩

/-- **A slash at the end of a text changes nothing but slashes at the end.** -/
theorem ofText_append_slash (text : String) : Corresponds (ofText (text ++ "/")) (ofText text) := by
  intro a h plain
  obtain ⟨scheme, rest, cs, named, opens, h⟩ := ofText_eq_ok_some_iff.mp h
  have characters : (text ++ "/").toList = text.toList ++ ['/'] := by
    rw [String.toList_append]
    rfl
  rw [characters, scheme?_concat_slash, Option.map_eq_some_iff] at named
  obtain ⟨⟨scheme', rest'⟩, named', same⟩ := named
  obtain ⟨rfl, rfl⟩ := Prod.mk.inj same
  obtain ⟨cs', opens', rfl⟩ := opens_concat_slash opens fun nothing => by
    rw [nothing] at h
    exact readAuthority_nil h
  obtain ⟨b, h', same⟩ := readAuthority_concat_slash a h plain
  exact ⟨b, ofText_eq_ok_some_iff.mpr ⟨_, _, cs', named', opens', h'⟩, same⟩

/-- **Without its final slashes a text denotes the same address but for slashes at the end.** -/
theorem ofText_withoutFinalSlashes (text : String) :
    Corresponds (ofText text) (ofText (withoutFinalSlashes text)) := by
  -- from the last character on, one slash after the other
  have cut : ∀ cs : List Char,
      Corresponds (ofText (String.ofList cs)) (ofText (withoutFinalSlashes (String.ofList cs))) := by
    intro cs
    induction cs using List.reverseRecOn with
    | nil => exact fun a h _ => ⟨a, h, .refl a⟩
    | append_singleton cs c ih =>
        by_cases slash : c = '/'
        · subst slash
          intro a h plain
          have text : String.ofList (cs ++ ['/']) = String.ofList cs ++ "/" := String.ofList_append
          rw [text] at h ⊢
          rw [EntityId.withoutFinalSlashes_append_slash]
          obtain ⟨b, read, same⟩ := ofText_append_slash _ a h plain
          obtain ⟨c, read', same'⟩ := ih b read (same.suffix_eq ▸ plain)
          exact ⟨c, read', same.trans same'⟩
        · have kept : withoutFinalSlashes (String.ofList (cs ++ [c])) = String.ofList (cs ++ [c]) := by
            rw [← String.toList_inj, EntityId.toList_withoutFinalSlashes, String.toList_ofList,
              List.rdropWhile_concat_neg _ _ _ (by simpa using slash)]
          rw [kept]
          exact fun a h _ => ⟨a, h, .refl a⟩
  simpa only [String.ofList_toList] using cut text.toList

end Address

end Federation
