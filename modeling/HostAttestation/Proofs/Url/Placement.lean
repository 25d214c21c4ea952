import HostAttestation.Proofs.Url.Extension

/-! # Where a path leads

Behind a path that stays, segments are entered one after the other, and none of them leads out of
what is behind it. A name is entered as one segment, from which it can be told; other texts, of
which some characters are skipped, lead to a place that is not told apart from others. -/

namespace HostAttestation

namespace Url

/-! ## Segments of a name -/

theorem encodeSegment_injective (scheme : String) {left right : List Char}
    (same : encodeSegment scheme left = encodeSegment scheme right) : left = right :=
  Percent.encode_injective (List.mem_append_left _ (by decide)) same

theorem decode_encodeSegment (scheme : String) (segment : List Char) :
    Percent.decode (Utf8.encode (encodeSegment scheme segment)) =
      Utf8.encode (String.ofList segment) :=
  Percent.decode_encodeChars (List.mem_append_left _ (by decide)) segment

/-- Every way to write dots is an escape of them. -/
theorem isName_encodeSegment (scheme : String) {segment : List Char}
    (one : String.ofList segment ≠ ".") (two : String.ofList segment ≠ "..") :
    IsName (encodeSegment scheme segment) := by
  have ofOne : ∀ form ∈ dotForms, Percent.decode (Utf8.encode form) = Utf8.encode "." := by
    decide +kernel
  have ofTwo : ∀ form ∈ doubleDotForms, Percent.decode (Utf8.encode form) = Utf8.encode ".." := by
    decide +kernel
  constructor
  · intro dots
    have decoded := ofTwo _ dots
    rw [decode_encodeSegment] at decoded
    exact two (Utf8.encode_injective decoded)
  · intro dots
    have decoded := ofOne _ dots
    rw [decode_encodeSegment] at decoded
    exact one (Utf8.encode_injective decoded)

/-! ## Behind a path that stays -/

/-- Where a segment leads from the segments that were entered before. -/
def place (scheme : String) (more : List String) (segment : String) : List String :=
  if segment = "." ∨ segment = ".." then more
  else enter more (encodeSegment scheme (withoutIgnored segment.toList)) true

def placeAll (scheme : String) (more path : List String) : List String :=
  path.foldl (place scheme) more

theorem place_ne_nil (scheme : String) {more : List String} (filled : more ≠ [])
    (segment : String) : place scheme more segment ≠ [] := by
  rw [place]
  split
  next => exact filled
  next => exact enter_ne_nil _ _

theorem parent_append (front : List String) {more : List String} (filled : more ≠ []) :
    parent (front ++ more) = front ++ parent more := by
  rw [parent, parent, List.getLast?_append_of_ne_nil front filled,
    List.dropLast_append_of_ne_nil filled]
  split <;> rfl

theorem enter_append (front : List String) {more : List String} (filled : more ≠ [])
    (segment : String) (last : Bool) :
    enter (front ++ more) segment last = front ++ enter more segment last := by
  rw [enter, enter, parent_append front filled]
  split
  next => rw [List.append_assoc]
  next =>
    split
    next => rw [List.append_assoc]
    next => rw [List.append_assoc]

theorem enterPart_of_ne_nil (file : Bool) (encode : List Char → String) {segments : List String}
    (filled : segments ≠ []) (part : List Char) (last : Bool) :
    enterPart file encode segments part last =
      enter segments (encode (withoutIgnored part)) last := by
  rw [enterPart]
  split
  next =>
    have inside : segments.isEmpty = false := List.isEmpty_eq_false_iff.mpr filled
    rw [inside, Bool.and_false]
    rfl
  next => rfl

section

variable {scheme : String} {front : List String}
  (trimmed : trimFile (isFile scheme) front = front) (rooted : withoutRoot front ≠ [])

include trimmed rooted

theorem appendSegment_append {more : List String} (filled : more ≠ []) (segment : String) :
    appendSegment scheme (front ++ more) segment = front ++ place scheme more segment := by
  have longer : front ++ more ≠ [] := List.append_ne_nil_of_right_ne_nil front filled
  have rootless : withoutRoot (front ++ more) = front ++ more := by
    apply if_neg
    intro root
    rcases List.append_eq_singleton_iff.mp root with ⟨rfl, _⟩ | ⟨_, empty⟩
    · exact rooted rfl
    · exact filled empty
  rw [appendSegment, place]
  split
  next => rfl
  next =>
    rw [rootless, enterPart_of_ne_nil _ _ longer, enter_append front filled,
      trimFile_append trimmed rooted]

/-- Whatever is appended, the path in front stays. -/
theorem appendSegments_append {more : List String} (filled : more ≠ []) (path : List String) :
    appendSegments scheme (front ++ more) path = front ++ placeAll scheme more path := by
  induction path generalizing more with
  | nil => rfl
  | cons segment rest induction =>
      rw [appendSegments, appendSegment_append trimmed rooted filled,
        induction (place_ne_nil scheme filled segment)]
      rfl

end

/-! ## Names that are whole -/

/-- A text that is entered as one segment. -/
def isWhole (segment : String) : Bool :=
  segment ≠ "." && segment ≠ ".." && segment.toList.all fun c => c ≠ '/' && !isIgnored c

theorem isWhole_iff (segment : String) : isWhole segment ↔
    segment ≠ "." ∧ segment ≠ ".." ∧ '/' ∉ segment.toList ∧
      withoutIgnored segment.toList = segment.toList := by
  have chars : (segment.toList.all fun c => c ≠ '/' && !isIgnored c) ↔
      '/' ∉ segment.toList ∧ withoutIgnored segment.toList = segment.toList := by
    rw [withoutIgnored, List.filter_eq_self, List.all_eq_true]
    constructor
    · intro all
      refine ⟨fun slash => ?_, fun c member => ?_⟩
      · simpa using all '/' slash
      · exact (Bool.and_eq_true_iff.mp (all c member)).2
    · rintro ⟨slashless, kept⟩ c member
      have different : c ≠ '/' := fun same => slashless (same ▸ member)
      simp [different, kept c member]
  rw [isWhole, Bool.and_eq_true, Bool.and_eq_true, chars, decide_eq_true_iff, decide_eq_true_iff,
    and_assoc]

theorem mem_place {scheme : String} {more : List String} {segment other : String}
    (member : other ∈ place scheme more segment) : other ∈ more ∨ other = "" ∨
      other = encodeSegment scheme (withoutIgnored segment.toList) := by
  rw [place] at member
  split at member
  next => exact .inl member
  next =>
    rcases mem_enter member with before | empty | ⟨own, _⟩
    · exact .inl before
    · exact .inr (.inl empty)
    · exact .inr (.inr own)

theorem mem_placeAll {scheme : String} {more path : List String} {other : String}
    (member : other ∈ placeAll scheme more path) : other ∈ more ∨ other = "" ∨
      ∃ segment ∈ path, other = encodeSegment scheme (withoutIgnored segment.toList) := by
  induction path generalizing more with
  | nil => exact .inl member
  | cons segment rest induction =>
      rcases induction member with before | empty | ⟨later, listed, own⟩
      · rcases mem_place before with earlier | empty | own
        · exact .inl earlier
        · exact .inr (.inl empty)
        · exact .inr (.inr ⟨segment, List.mem_cons_self, own⟩)
      · exact .inr (.inl empty)
      · exact .inr (.inr ⟨later, List.mem_cons_of_mem segment listed, own⟩)

theorem placeAll_of_isWhole (scheme : String) (more : List String) {segment : String}
    (whole : isWhole segment) : placeAll scheme more (Text.splitText '/' segment) =
      more ++ [encodeSegment scheme segment.toList] := by
  rcases (isWhole_iff segment).mp whole with ⟨one, two, slashless, kept⟩
  have isName : IsName (encodeSegment scheme segment.toList) := by
    apply isName_encodeSegment
    · rwa [String.ofList_toList]
    · rwa [String.ofList_toList]
  rw [Text.splitText_of_not_mem slashless]
  change place scheme more segment = _
  rw [place, if_neg (not_or.mpr ⟨one, two⟩), kept, enter, if_neg isName.1, if_neg isName.2]

/-- The parts of a text have neither separators nor, once entered, characters that are skipped. -/
theorem chars_of_mem_splitText {text part : String} (listed : part ∈ Text.splitText '/' text) :
    '/' ∉ withoutIgnored part.toList ∧
      withoutIgnored (withoutIgnored part.toList) = withoutIgnored part.toList := by
  rcases List.mem_map.mp listed with ⟨chars, cut, rfl⟩
  rw [String.toList_ofList]
  refine ⟨fun slash => ?_, List.filter_eq_self.mpr fun c member => (List.mem_filter.mp member).2⟩
  exact (Text.mem_of_mem_split cut (List.mem_filter.mp slash).1).2 rfl

theorem isWhole_of_isPlain {name : String} (plain : isPlain name) : isWhole name := by
  have different {other : String} (unplain : isPlain other = false) : name ≠ other := by
    rintro rfl
    rw [unplain] at plain
    cases plain
  have slashless : '/' ∉ name.toList := fun slash =>
    absurd (isPlainChar_of_mem plain slash) (by decide)
  exact (isWhole_iff name).mpr ⟨different (by decide), different (by decide), slashless,
    withoutIgnored_eq_of_isPlain plain⟩

theorem placeAll_of_isPlain (scheme : String) (more path : List String) {name : String}
    (plain : isPlain name) :
    placeAll scheme more (path ++ [name]) = placeAll scheme more path ++ [name] := by
  have whole := isWhole_of_isPlain plain
  have entered := placeAll_of_isWhole scheme (placeAll scheme more path) whole
  rw [Text.splitText_of_not_mem ((isWhole_iff name).mp whole).2.2.1,
    encodeSegment_of_isPlain plain] at entered
  rw [← entered, placeAll, List.foldl_append]
  rfl

/-- Only a whole text is entered as one segment that is made of all its characters. -/
theorem placeAll_eq_iff (scheme : String) {name : String} (plain : isPlain name)
    (segment : String) : placeAll scheme [name] (Text.splitText '/' segment) =
      [name, encodeSegment scheme segment.toList] ↔ isWhole segment := by
  constructor
  · intro placed
    have dotted {other : String} (stays : placeAll scheme [name] (Text.splitText '/' other) = [name]) :
        segment ≠ other := by
      rintro rfl
      rw [stays] at placed
      cases placed
    have member : encodeSegment scheme segment.toList ∈
        placeAll scheme [name] (Text.splitText '/' segment) := by
      rw [placed]
      exact List.mem_cons_of_mem name List.mem_cons_self
    have chars : '/' ∉ segment.toList ∧ withoutIgnored segment.toList = segment.toList := by
      rcases mem_placeAll member with front | empty | ⟨part, listed, own⟩
      · rw [List.mem_singleton, ← encodeSegment_of_isPlain plain scheme] at front
        rw [encodeSegment_injective scheme front]
        exact ((isWhole_iff name).mp (isWhole_of_isPlain plain)).2.2
      · have empties : encodeSegment scheme segment.toList = encodeSegment scheme [] := empty
        rw [encodeSegment_injective scheme empties]
        exact ⟨List.not_mem_nil, rfl⟩
      · rw [encodeSegment_injective scheme own]
        exact chars_of_mem_splitText listed
    exact (isWhole_iff segment).mpr ⟨dotted rfl, dotted rfl, chars⟩
  · exact placeAll_of_isWhole scheme [name]

/-! ## Below an address -/

/-- The segments that stay when others are appended. -/
def kept (scheme : String) (segments : List String) : List String :=
  if isFile scheme then (withoutRoot segments).dropWhile (· = "") else withoutRoot segments

def stem (url : Url) : List String :=
  match url.path with
  | .verbatim _ => []
  | .segments list => kept url.scheme (withoutEmptyEnd list)

theorem trimFile_concat (file : Bool) (segments : List String) {segment : String}
    (filled : segment ≠ "") : trimFile file (segments ++ [segment]) =
      (if file then segments.dropWhile (· = "") else segments) ++ [segment] := by
  induction segments with
  | nil => cases file <;> simp [trimFile]
  | cons first rest induction =>
      by_cases empty : first = ""
      · subst empty
        cases rest with
        | nil => cases file <;> simp [trimFile]
        | cons second others =>
            rw [List.cons_append, List.cons_append, trimFile]
            cases file with
            | false => rfl
            | true => simpa using induction
      · have short : trimFile file (first :: rest ++ [segment]) = first :: rest ++ [segment] := by
          rw [trimFile_eq_self_iff]
          exact fun _ next others equal => empty (List.cons.inj equal).1
        rw [short, List.dropWhile_cons_of_neg (by simpa using empty), ite_self]

theorem appendSegments_append_path (scheme : String) (segments first second : List String) :
    appendSegments scheme segments (first ++ second) =
      appendSegments scheme (appendSegments scheme segments first) second := by
  induction first generalizing segments with
  | nil => rfl
  | cons segment rest induction => exact induction _

theorem withoutRoot_append_cons_ne_nil (front rest : List String) {segment : String}
    (filled : segment ≠ "") : withoutRoot (front ++ segment :: rest) ≠ [] := by
  have rootless : front ++ segment :: rest ≠ [""] := by
    intro root
    have member : segment ∈ [""] := by
      rw [← root]
      exact List.mem_append_right front List.mem_cons_self
    exact filled (List.mem_singleton.mp member)
  rw [withoutRoot, if_neg rootless]
  exact List.append_ne_nil_of_right_ne_nil front (List.cons_ne_nil segment rest)

theorem trimFile_kept_append (scheme : String) (segments rest : List String) {segment : String}
    (filled : segment ≠ "") : trimFile (isFile scheme) (kept scheme segments ++ segment :: rest) =
      kept scheme segments ++ segment :: rest := by
  have again := trimFile_trimFile (isFile scheme) (withoutRoot segments ++ [segment])
  rw [trimFile_concat _ _ filled] at again
  have rooted := withoutRoot_append_cons_ne_nil (kept scheme segments) [] filled
  rw [List.append_cons]
  exact trimFile_append again rooted rest

section

variable {first : String} {names : List String}
  (unreserved : ∀ segment ∈ first :: names, isUnreserved segment)

include unreserved

theorem appendSegments_names (scheme : String) (segments : List String) :
    appendSegments scheme segments (first :: names) = kept scheme segments ++ first :: names := by
  rcases List.forall_mem_cons.mp unreserved with ⟨begins, others⟩
  have filled := (isUnreserved_iff begins).1
  have trimmed := trimFile_kept_append scheme segments [] filled
  have rooted := withoutRoot_append_cons_ne_nil (kept scheme segments) [] filled
  have entered : appendSegment scheme segments first = kept scheme segments ++ [first] := by
    rw [appendSegment_of_isUnreserved begins, trimFile_concat _ _ filled]
    rfl
  rw [appendSegments, entered, appendSegments_of_isUnreserved trimmed rooted others,
    List.append_assoc, List.singleton_append]

/-- Behind names the path stays, and everything else is entered. -/
theorem appendSegments_behind_names (scheme : String) (segments : List String) {name : String}
    (named : isUnreserved name) (path : List String) :
    appendSegments scheme segments (first :: names ++ name :: path) =
      kept scheme segments ++ first :: names ++ placeAll scheme [name] path := by
  have filled := (isUnreserved_iff (unreserved first List.mem_cons_self)).1
  have trimmed := trimFile_kept_append scheme segments names filled
  have rooted := withoutRoot_append_cons_ne_nil (kept scheme segments) names filled
  have all : ∀ segment ∈ first :: (names ++ [name]), isUnreserved segment := by
    intro segment member
    rcases List.mem_append.mp (List.cons_append ▸ member) with own | last
    · exact unreserved segment own
    · rwa [List.mem_singleton.mp last]
  have fronts := appendSegments_names all scheme segments
  rw [← List.cons_append, ← List.append_assoc] at fronts
  rw [List.append_cons, appendSegments_append_path, fronts,
    appendSegments_append trimmed rooted (List.cons_ne_nil _ _)]

end

/-- Whether and where something below names is found. -/
theorem below?_behind_names (base : Url) {first name : String} {names : List String}
    (unreserved : ∀ segment ∈ first :: names, isUnreserved segment) (named : isUnreserved name)
    (path : List String) : base.below? (first :: names ++ name :: path) =
      if base.isBase then
        some { base with
          path := .segments (base.stem ++ first :: names ++ placeAll base.scheme [name] path) }
      else none := by
  rw [below?, append?, isBase_trimmed]
  split
  next isBase =>
    cases verbatim : base.path with
    | verbatim text => simp [Url.isBase, verbatim] at isBase
    | segments list =>
        simp only [trimmed, verbatim, stem]
        rw [appendSegments_behind_names unreserved _ _ named]
  next => rfl

end Url

end HostAttestation
