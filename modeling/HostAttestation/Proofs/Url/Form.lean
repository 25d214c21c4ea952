import HostAttestation.Proofs.Url.Segments

/-! # Addresses that were read

What every address has that was read from a text, whatever the text: its parts are escaped as
their places in an address need it, its path has a form that its scheme allows, and its port is
not the one that goes without saying. -/

namespace HostAttestation

namespace Url

open Percent (IsClean)

/-! ## Parts -/

structure IsScheme (scheme : String) : Prop where
  starts : scheme.toList.head?.any Char.isAlpha
  chars : scheme.toList.all isSchemeChar
  lower : scheme.toList.map Char.toLower = scheme.toList

/-- The authority of a file has no user and no port, and its host is not the local one by name. -/
structure IsLocal (authority : Authority) : Prop where
  username : authority.username = ""
  password : authority.password = ""
  port : authority.port = none
  host : authority.host = .name "" ∨
    (authority.host.IsRead true ∧ authority.host ≠ .name "localhost")

def IsReadAuthority (scheme : String) (authority : Authority) : Prop :=
  if isFile scheme then IsLocal authority else authority.IsRead scheme

/-- The path behind an authority, or in the place of one. -/
inductive IsReadPath (scheme : String) : (authority : Option Authority) → Path → Prop
  | segments {authority : Option Authority} {list : List String} (filled : list ≠ [])
      (read : AreRead scheme list) : IsReadPath scheme authority (.segments list)
  | bare (authority : Authority) (plain : isSpecial scheme = false) :
      IsReadPath scheme (some authority) (.segments [])
  | verbatim {text : String} (clean : IsClean ['?', '#'] text.toList)
      (flat : text.toList.head? ≠ some '/') : IsReadPath scheme none (.verbatim text)

def queryMarks (scheme : String) : List Char :=
  Percent.querySet ++ if isSpecial scheme then ['\x27'] else []

structure IsRead (url : Url) : Prop where
  scheme : IsScheme url.scheme
  authority : ∀ authority, url.authority = some authority → IsReadAuthority url.scheme authority
  /-- Only addresses that are not well known do without an authority. -/
  located : isSpecial url.scheme → url.authority.isSome
  guarded : url.isGuarded = needsGuard url.authority url.path
  path : IsReadPath url.scheme url.authority url.path
  /-- Without anything behind it, a path in the form of a text does not end with a space. -/
  ending : url.query = none → url.fragment = none → url.path.text.toList.getLast? ≠ some ' '
  query : ∀ query, url.query = some query → IsClean (queryMarks url.scheme) query.toList
  fragment : ∀ fragment, url.fragment = some fragment →
    IsClean Percent.fragmentSet fragment.toList

/-! ## Schemes -/

theorem isAscii_of_isSchemeChar {c : Char} (schemeChar : isSchemeChar c) :
    Punycode.isAscii c := by
  simp only [isSchemeChar, Bool.or_eq_true, decide_eq_true_eq] at schemeChar
  rcases schemeChar with ((alphanumeric | rfl) | rfl) | rfl
  · exact isAscii_of_isAlphanum alphanumeric
  all_goals decide

theorem isSchemeChar_toLower {c : Char} (schemeChar : isSchemeChar c) :
    isSchemeChar c.toLower ∧ c.toLower.toLower = c.toLower := by
  have all := holds_of_isAscii (fun c => !isSchemeChar c ||
    (isSchemeChar c.toLower && c.toLower.toLower == c.toLower)) (by decide)
    (isAscii_of_isSchemeChar schemeChar)
  simpa [schemeChar] using all

theorem isScheme_map_toLower {chars : List Char} (starts : chars.head?.any Char.isAlpha)
    (all : chars.all isSchemeChar) : IsScheme (String.ofList (chars.map Char.toLower)) where
  starts := by
    rw [String.toList_ofList, List.head?_map]
    cases first : chars.head? with
    | none => rw [first] at starts; cases starts
    | some c =>
        rw [first] at starts
        have alphabetic : c.isAlpha := starts
        have lower := holds_of_isAscii (fun c => !c.isAlpha || c.toLower.isAlpha)
          (by decide) (isAscii_of_isAlphanum (by rw [Char.isAlphanum, alphabetic]; rfl))
        rw [alphabetic] at lower
        exact lower
  chars := by
    rw [String.toList_ofList, List.all_map, List.all_eq_true]
    exact fun c member => (isSchemeChar_toLower (List.all_eq_true.mp all c member)).1
  lower := by
    rw [String.toList_ofList, List.map_map]
    exact List.map_congr_left fun c member =>
      (isSchemeChar_toLower (List.all_eq_true.mp all c member)).2

theorem isScheme_of_scheme? {text rest : List Char} {scheme : String}
    (read : scheme? text = some (scheme, rest)) : IsScheme scheme := by
  rw [scheme?] at read
  split at read
  next => cases read
  next before _ _ =>
    dsimp only at read
    split at read
    next fits =>
      cases read
      rw [Bool.and_eq_true] at fits
      exact isScheme_map_toLower fits.1 fits.2
    next => cases read

/-! ## Query and fragment -/

theorem isClean_encode {escaped fewer : List Char} (text : List Char)
    (covered : fewer.all fun c => escaped.contains c && !Percent.marks.contains c) :
    IsClean fewer (Percent.encode escaped text).toList := by
  rw [Percent.encode, String.toList_ofList]
  apply Percent.isClean_encodeChars
  intro c listed
  simpa using List.all_eq_true.mp covered c listed

theorem isClean_queryText (scheme : String) (text : List Char) :
    IsClean (queryMarks scheme) (queryText scheme text).toList := by
  rw [queryText, queryMarks]
  split
  next => exact isClean_encode text (by decide)
  next => exact isClean_encode text (by decide)

/-- Query and fragment are escaped, and one of them is there if the rest begins with its mark. -/
theorem exists_of_finish (scheme : String) (authority : Option Authority) (path : Path)
    (rest : Rest) : ∃ query fragment,
      finish scheme authority path rest =
          ⟨scheme, authority, needsGuard authority path, path, query, fragment⟩ ∧
        (∀ text, query = some text → IsClean (queryMarks scheme) text.toList) ∧
        (∀ text, fragment = some text → IsClean Percent.fragmentSet text.toList) ∧
        (query = none → fragment = none → rest.head?.all beforeQuery) := by
  have cleanFragment (text : List Char) :
      IsClean Percent.fragmentSet (Percent.encode Percent.fragmentSet text).toList :=
    isClean_encode text (by decide)
  unfold finish
  split
  next query fragmentPart asked =>
    refine ⟨query, _, rfl, ?_, fun text named => ?_, ?_⟩
    · rintro text rfl
      split at asked
      next => cases asked; exact isClean_queryText scheme _
      next => cases asked
    · split at named
      next => cases named; exact cleanFragment _
      next => cases named
    · rintro rfl unnamed
      split at asked
      next => cases asked
      next unasked =>
        cases asked
        split at unnamed
        next => cases unnamed
        next unmarked =>
          cases rest with
          | nil => rfl
          | cons c others =>
              have question : c ≠ '?' := fun equal => unasked others (by rw [equal])
              have hash : c ≠ '#' := fun equal => unmarked others (by rw [equal])
              simp [beforeQuery, question, hash]

/-! ## Paths -/

theorem toList_segments (list : List String) :
    (Path.segments list).text.toList = list.flatMap fun segment => '/' :: segment.toList := by
  rw [Path.text, String.toList_join, List.flatMap_map]
  congr 1
  funext segment
  simp

theorem toList_segments_of_ne_nil {list : List String} (filled : list ≠ []) :
    (Path.segments list).text.toList = '/' :: Text.join '/' (list.map String.toList) := by
  rw [toList_segments]
  induction list with
  | nil => exact absurd rfl filled
  | cons segment rest induction =>
      cases rest with
      | nil => simp [Text.join]
      | cons next more =>
          rw [List.flatMap_cons, induction (List.cons_ne_nil next more)]
          rfl

/-- What ends a path, and the space. -/
def pathEnds : List Char :=
  [' ', '?', '#']

theorem isClean_segments {special : Bool} {list : List String}
    (areSegments : ∀ segment ∈ list, IsSegment special segment) :
    IsClean pathEnds (Path.segments list).text.toList := by
  rw [toList_segments]
  intro c member
  rcases List.mem_flatMap.mp member with ⟨segment, listed, inside⟩
  rcases List.mem_cons.mp inside with rfl | inside
  · decide
  · refine IsClean.mono (areSegments segment listed) ?_ c inside
    cases special <;> decide

theorem areRead_root (scheme : String) : AreRead scheme [""] where
  segments := by
    intro segment member
    rw [List.mem_singleton.mp member]
    exact fun c inside => absurd inside List.not_mem_nil
  names := by
    intro _ segment member
    rw [List.mem_singleton.mp member]
    exact ⟨by decide, by decide⟩
  trimmed := rfl

theorem isReadPath_pathOf {scheme : String} (authority : Authority) (text : List Char) :
    IsReadPath scheme (some authority) (pathOf scheme text) := by
  cases text with
  | nil =>
      rw [pathOf.eq_def]
      dsimp only
      split
      next => exact .segments (List.cons_ne_nil _ _) (areRead_root scheme)
      next plain => exact .bare authority (Bool.eq_false_iff.mpr plain)
  | cons c rest => exact .segments (segmentsOf_ne_nil _ _) (areRead_segmentsOf _ _)

/-- Only a path in the form of a text may end with a space. -/
theorem getLast?_text_ne_space {scheme : String} {authority : Authority} {path : Path}
    (read : IsReadPath scheme (some authority) path) : path.text.toList.getLast? ≠ some ' ' := by
  intro space
  have member := List.mem_of_getLast? space
  cases read with
  | segments _ areRead => exact (isClean_segments areRead.segments ' ' member).2 (by decide)
  | bare => cases member

theorem isRead_finish {scheme : String} {authority : Option Authority} {path : Path} {rest : Rest}
    (isScheme : IsScheme scheme)
    (isAuthority : ∀ named, authority = some named → IsReadAuthority scheme named)
    (located : isSpecial scheme → authority.isSome) (isPath : IsReadPath scheme authority path)
    (ending : rest = [] → path.text.toList.getLast? ≠ some ' ')
    (starts : rest.head?.all fun c => !beforeQuery c) :
    (finish scheme authority path rest).IsRead := by
  rcases exists_of_finish scheme authority path rest with
    ⟨query, fragment, equal, cleanQuery, cleanFragment, bare⟩
  rw [equal]
  refine ⟨isScheme, isAuthority, located, rfl, isPath, fun noQuery noFragment => ?_, cleanQuery,
    cleanFragment⟩
  apply ending
  cases rest with
  | nil => rfl
  | cons c others =>
      have unmarked := bare noQuery noFragment
      simp_all

theorem starts_dropWhile (text : List Char) :
    (text.dropWhile beforeQuery).head?.all fun c => !beforeQuery c := by
  have stops := List.head?_dropWhile_not beforeQuery text
  cases first : (text.dropWhile beforeQuery).head? with
  | none => rfl
  | some c =>
      rw [first] at stops
      simpa using stops

theorem starts_withoutIgnored {text : List Char} (starts : text.head?.all fun c => !beforeQuery c) :
    (withoutIgnored text).head?.all fun c => !beforeQuery c := by
  cases text with
  | nil => rfl
  | cons c rest =>
      have mark : c = '?' ∨ c = '#' := by simpa [beforeQuery] using starts
      have kept : isIgnored c = false := by rcases mark with rfl | rfl <;> rfl
      rw [withoutIgnored, List.filter_cons_of_pos (by rw [kept]; rfl)]
      exact starts

/-! ## The end of a text -/

theorem isMargin_getLast?_withoutMargins {text : String} {c : Char}
    (ends : (withoutMargins text).getLast? = some c) : isMargin c = false := by
  rw [withoutMargins, List.getLast?_reverse] at ends
  have stops := List.head?_dropWhile_not isMargin (text.toList.dropWhile isMargin).reverse
  rw [ends] at stops
  exact stops

theorem getLast?_withoutIgnored {text : List Char}
    (ends : ∀ c, text.getLast? = some c → isMargin c = false) :
    (withoutIgnored text).getLast? = text.getLast? := by
  rw [withoutIgnored, List.getLast?_filter, ← List.head?_reverse]
  rw [← List.head?_reverse] at ends
  generalize text.reverse = reversed at ends ⊢
  cases reversed with
  | nil => rfl
  | cons c rest =>
      have kept : isIgnored c = false := by
        cases ignored : isIgnored c with
        | false => rfl
        | true =>
            have margin := ends c rfl
            simp only [isIgnored, Bool.or_eq_true, decide_eq_true_eq] at ignored
            rcases ignored with (rfl | rfl) | rfl <;> exact absurd margin (by decide)
      rw [List.find?_cons_of_pos (by rw [kept]; rfl), List.head?_cons]

theorem isMargin_getLast?_of_scheme? {text : String} {scheme : String} {rest : List Char}
    (parted : scheme? (withoutMargins text) = some (scheme, rest)) :
    ∀ c, (withoutIgnored rest).getLast? = some c → isMargin c = false := by
  rw [scheme?] at parted
  split at parted
  next => cases parted
  next before behind cut =>
    dsimp only at parted
    split at parted
    next =>
      cases parted
      rcases Text.append_cons_of_cut? cut with ⟨_, whole⟩
      have ends : ∀ c, rest.getLast? = some c → isMargin c = false := by
        intro c last
        have ending : (withoutMargins text).getLast? = some c := by
          rw [whole, List.getLast?_append_of_ne_nil _ (List.cons_ne_nil _ _), List.getLast?_cons,
            last]
          rfl
        exact isMargin_getLast?_withoutMargins ending
      rwa [getLast?_withoutIgnored ends]
    next => cases parted

/-! ## Addresses -/

theorem isRead_withAuthority {scheme : String} {text : List Char} {url : Url}
    (isScheme : IsScheme scheme) (remote : isFile scheme = false)
    (read : withAuthority scheme text = some url) : url.IsRead := by
  rcases Option.bind_eq_some_iff.mp read with ⟨⟨authority, rest⟩, located, equal⟩
  cases equal
  have path : IsReadPath scheme (some authority) (pathOf scheme (rest.takeWhile beforeQuery)) :=
    isReadPath_pathOf authority _
  refine isRead_finish isScheme ?_ (fun _ => rfl) path ?_ (starts_dropWhile rest)
  · rintro _ ⟨⟩
    rw [IsReadAuthority, remote]
    exact isRead_of_authority? located
  · exact fun _ => getLast?_text_ne_space path

theorem isLocal_of_fileHost? {text : List Char} {host : Host} (read : fileHost? text = some host) :
    IsLocal ⟨"", "", host, none⟩ := by
  refine ⟨rfl, rfl, rfl, ?_⟩
  rw [fileHost?] at read
  split at read
  next => cases read; exact .inl rfl
  next =>
    split at read
    next named ofDomain =>
      cases read
      split
      next => exact .inl rfl
      next remote => exact .inr ⟨Host.isRead_of_ofDomain ofDomain, remote⟩
    next => cases read

theorem isRead_fileAt {scheme : String} {host : Host} (isScheme : IsScheme scheme)
    (file : isFile scheme) (isLocal : IsLocal ⟨"", "", host, none⟩) (text : List Char) :
    (fileAt scheme host text).IsRead := by
  have path (text : List Char) :
      IsReadPath scheme (localAuthority host) (.segments (segmentsOf scheme text)) :=
    .segments (segmentsOf_ne_nil _ _) (areRead_segmentsOf _ _)
  refine isRead_finish isScheme ?_ (fun _ => rfl) (path _) (fun _ => getLast?_text_ne_space (path _)) ?_
  · rintro _ ⟨⟩
    rw [IsReadAuthority, file]
    exact isLocal
  · exact starts_withoutIgnored (starts_dropWhile text)

theorem isRead_of_fileUrl? {scheme : String} {text : List Char} {url : Url}
    (isScheme : IsScheme scheme) (file : isFile scheme) (read : fileUrl? scheme text = some url) :
    url.IsRead := by
  have nowhere : IsLocal ⟨"", "", .name "", none⟩ := ⟨rfl, rfl, rfl, .inl rfl⟩
  rw [fileUrl?] at read
  split at read
  next rest _ =>
    rw [remoteFile?] at read
    split at read
    next => cases read; exact isRead_fileAt isScheme file nowhere _
    next =>
      rcases Option.map_eq_some_iff.mp read with ⟨host, named, rfl⟩
      exact isRead_fileAt isScheme file (isLocal_of_fileHost? named) _
  next => cases read; exact isRead_fileAt isScheme file nowhere _

theorem isRead_withoutAuthority {scheme : String} {text : List Char} (isScheme : IsScheme scheme)
    (plain : isSpecial scheme = false) (ends : ∀ c, text.getLast? = some c → isMargin c = false) :
    (withoutAuthority scheme text).IsRead := by
  have starts := starts_dropWhile text
  have located : isSpecial scheme → (none : Option Authority).isSome := fun special => by
    rw [plain] at special
    cases special
  have nobody : ∀ named, (none : Option Authority) = some named → IsReadAuthority scheme named :=
    fun _ impossible => by cases impossible
  rw [withoutAuthority]
  split
  next rest _ =>
    refine isRead_finish isScheme nobody located
      (.segments (segmentsOf_ne_nil _ _) (areRead_segmentsOf _ _)) (fun _ space => ?_) starts
    have member := List.mem_of_getLast? space
    exact (isClean_segments (areRead_segmentsOf scheme rest).segments ' ' member).2 (by decide)
  next flat =>
    refine isRead_finish isScheme nobody located (.verbatim ?_ ?_) (fun empty => ?_) starts
    · rw [Percent.encode, String.toList_ofList]
      intro c member
      rcases Percent.mem_encodeChars member with mark | ⟨own, printed, _⟩
      · refine ⟨Percent.isControl_of_mem_marks mark, fun ends => absurd mark ?_⟩
        rcases (by simpa using ends : c = '?' ∨ c = '#') with rfl | rfl <;> decide
      · refine ⟨printed, fun ends => ?_⟩
        have within := List.mem_takeWhile_imp own
        rcases (by simpa using ends : c = '?' ∨ c = '#') with rfl | rfl <;> cases within
    · rw [Percent.encode, String.toList_ofList]
      intro slash
      rcases Percent.mem_marks_or_head?_of_encodeChars slash with mark | first
      · exact absurd mark (by decide)
      · rcases List.head?_eq_some_iff.mp first with ⟨rest, body⟩
        exact flat rest body
    · rw [Path.text, Percent.encode, String.toList_ofList]
      intro space
      rcases Percent.mem_marks_or_getLast?_of_encodeChars space with mark | last
      · exact absurd mark (by decide)
      · rw [List.takeWhile_eq_self_iff.mpr (List.dropWhile_eq_nil_iff.mp empty)] at last
        exact absurd (ends ' ' last) (by decide)

theorem isRead_of_parse? {text : String} {url : Url} (read : parse? text = some url) :
    url.IsRead := by
  rw [parse?] at read
  split at read
  next => cases read
  next scheme rest parted =>
    have isScheme := isScheme_of_scheme? parted
    split at read
    next file => exact isRead_of_fileUrl? isScheme file read
    next remote =>
      rw [Bool.not_eq_true] at remote
      dsimp only at read
      split at read
      next => exact isRead_withAuthority isScheme remote read
      next plain =>
        rw [Bool.not_eq_true] at plain
        split at read
        next => exact isRead_withAuthority isScheme remote read
        next =>
          cases read
          exact isRead_withoutAuthority isScheme plain (isMargin_getLast?_of_scheme? parted)

/-! ## The scheme of an address -/

theorem scheme_finish (scheme : String) (authority : Option Authority) (path : Path)
    (rest : Rest) : (finish scheme authority path rest).scheme = scheme := by
  rcases exists_of_finish scheme authority path rest with ⟨query, fragment, equal, _⟩
  rw [equal]

theorem scheme_of_fileUrl? {scheme : String} {text : List Char} {url : Url}
    (read : fileUrl? scheme text = some url) : url.scheme = scheme := by
  rw [fileUrl?] at read
  split at read
  next =>
    rw [remoteFile?] at read
    split at read
    next => cases read; exact scheme_finish _ _ _ _
    next =>
      rcases Option.map_eq_some_iff.mp read with ⟨host, _, rfl⟩
      exact scheme_finish _ _ _ _
  next => cases read; exact scheme_finish _ _ _ _

theorem scheme_of_withAuthority {scheme : String} {text : List Char} {url : Url}
    (read : withAuthority scheme text = some url) : url.scheme = scheme := by
  rcases Option.bind_eq_some_iff.mp read with ⟨_, _, equal⟩
  cases equal
  exact scheme_finish _ _ _ _

theorem exists_scheme?_of_parse? {text : String} {url : Url} (read : parse? text = some url) :
    ∃ rest, scheme? (withoutMargins text) = some (url.scheme, rest) := by
  rw [parse?] at read
  split at read
  next => cases read
  next scheme rest parted =>
    have kept (same : url.scheme = scheme) :
        ∃ rest, scheme? (withoutMargins text) = some (url.scheme, rest) :=
      ⟨rest, by rw [same, parted]⟩
    apply kept
    split at read
    next => exact scheme_of_fileUrl? read
    next =>
      dsimp only at read
      split at read
      next => exact scheme_of_withAuthority read
      next =>
        split at read
        next => exact scheme_of_withAuthority read
        next => cases read; exact scheme_finish _ _ _ _

end Url

end HostAttestation
