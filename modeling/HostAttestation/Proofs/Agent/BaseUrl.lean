import HostAttestation.Agent.Address
import HostAttestation.Proofs.Url.Extension
import HostAttestation.Proofs.Url.Unescaped
import HostAttestation.Proofs.Url.Unread

/-! # Base addresses

Normalising an address keeps whom to contact and the segments of the path, and puts the version
behind them unless it is there already. What comes out is a normal form: its text is normalised to
itself, and the addresses of the operations below it differ. -/

namespace HostAttestation

namespace Agent

open Url (isUnreserved)

/-! ## Segments -/

/-- The segments that the version is put behind. The root holds none, and it is all that is left
of a path of two empty segments. -/
def keptSegments (list : List String) : List String :=
  if list = ["", ""] then []
  else if list.getLast? = some "" then list.dropLast
  else list

def versionedSegments (version : String) (list : List String) : List String :=
  if (keptSegments list).getLast? = some version then keptSegments list
  else keptSegments list ++ [version]

theorem keptSegments_eq (list : List String) :
    keptSegments list = Url.withoutRoot (Url.withoutEmptyEnd list) := by
  match list with
  | [] => rfl
  | [segment] =>
      by_cases empty : segment = "" <;> simp [keptSegments, Url.withoutRoot, Url.withoutEmptyEnd, empty]
  | first :: second :: rest =>
      have ends : Url.withoutEmptyEnd (first :: second :: rest) =
          if (first :: second :: rest).getLast? = some "" then (first :: second :: rest).dropLast
          else first :: second :: rest := rfl
      rw [keptSegments, ends]
      by_cases bare : first :: second :: rest = ["", ""]
      · cases bare
        rfl
      · have rootless : (if (first :: second :: rest).getLast? = some "" then
            (first :: second :: rest).dropLast else first :: second :: rest) ≠ [""] := by
          split
          next last =>
            intro root
            cases rest with
            | nil =>
                cases last
                cases root
                exact bare rfl
            | cons => cases root
          next => rintro ⟨⟩
        rw [if_neg bare, Url.withoutRoot, if_neg rootless]

theorem keptSegments_isPrefix (list : List String) : keptSegments list <+: list := by
  rw [keptSegments]
  split
  next => exact List.nil_prefix
  next =>
    split
    next => exact List.dropLast_prefix list
    next => exact List.prefix_rfl

theorem keptSegments_ne_root (list : List String) : keptSegments list ≠ [""] := by
  rw [keptSegments_eq, Url.withoutRoot]
  split
  next => exact (List.cons_ne_nil _ _).symm
  next other => exact other

theorem getLast?_versionedSegments (version : String) (list : List String) :
    (versionedSegments version list).getLast? = some version := by
  rw [versionedSegments]
  split
  next last => exact last
  next => exact List.getLast?_concat

theorem mem_versionedSegments {version segment : String} {list : List String}
    (member : segment ∈ versionedSegments version list) : segment ∈ list ∨ segment = version := by
  have kept (inside : segment ∈ keptSegments list) : segment ∈ list :=
    (keptSegments_isPrefix list).subset inside
  rw [versionedSegments] at member
  split at member
  next => exact .inl (kept member)
  next =>
    rcases List.mem_append.mp member with front | last
    · exact .inl (kept front)
    · exact .inr (List.mem_singleton.mp last)

theorem versionedSegments_versionedSegments {version : String} (named : version ≠ "")
    (list : List String) :
    versionedSegments version (versionedSegments version list) = versionedSegments version list := by
  have last := getLast?_versionedSegments version list
  generalize versionedSegments version list = again at last ⊢
  have kept : keptSegments again = again := by
    rw [keptSegments, if_neg, if_neg]
    · rw [last]
      simpa using named
    · rintro rfl
      cases last
      exact named rfl
  rw [versionedSegments, kept, if_pos last]

section

variable {scheme version : String} {list : List String}
  (trimmed : Url.trimFile (Url.isFile scheme) list = list) (unreserved : isUnreserved version)

include trimmed unreserved

theorem trimFile_versionedSegments :
    Url.trimFile (Url.isFile scheme) (versionedSegments version list) =
      versionedSegments version list := by
  rw [Url.trimFile_eq_self_iff] at trimmed ⊢
  intro isFile next rest equal
  rcases keptSegments_isPrefix list with ⟨behind, whole⟩
  have unnamed := keptSegments_ne_root list
  have named := (Url.isUnreserved_iff unreserved).1
  rw [versionedSegments] at equal
  split at equal
  next =>
    rw [equal] at whole
    exact trimmed isFile next (rest ++ behind) whole.symm
  next =>
    match kept : keptSegments list with
    | [] =>
        rw [kept] at equal
        cases equal
    | [segment] =>
        rw [kept] at equal unnamed
        cases equal
        exact unnamed rfl
    | first :: second :: others =>
        rw [kept] at equal whole
        cases equal
        exact trimmed isFile next (others ++ behind) whole.symm

theorem versionedSegments_eq :
    (if (Url.withoutEmptyEnd list).getLast?.getD "" = version then Url.withoutEmptyEnd list
      else Url.appendSegments scheme (Url.withoutEmptyEnd list) [version]) =
      versionedSegments version list := by
  have named := (Url.isUnreserved_iff unreserved).1
  have kept := keptSegments_eq list
  have stays := trimFile_versionedSegments trimmed unreserved
  rw [versionedSegments] at stays ⊢
  rw [Url.appendSegments, Url.appendSegments, Url.appendSegment_of_isUnreserved unreserved, ← kept]
  by_cases root : Url.withoutEmptyEnd list = [""]
  · have nothing : keptSegments list = [] := by rw [kept, root]; rfl
    have bare : ([] : List String).getLast? ≠ some version := by simp
    rw [nothing, if_neg bare] at stays
    rw [nothing, root, if_neg bare,
      if_neg (show ¬[""].getLast?.getD "" = version from Ne.symm named), stays]
  · have same : keptSegments list = Url.withoutEmptyEnd list := by
      rw [kept, Url.withoutRoot, if_neg root]
    rw [← same]
    by_cases last : (keptSegments list).getLast? = some version
    · rw [if_pos last, if_pos (by rw [last]; rfl)]
    · rw [if_neg last] at stays ⊢
      rw [if_neg, stays]
      intro equal
      cases ends : (keptSegments list).getLast? with
      | none =>
          rw [ends] at equal
          exact named equal.symm
      | some segment =>
          rw [ends] at equal last
          exact last (congrArg some equal)

end

/-! ## Normalised addresses -/

/-- What becomes of an address with the given segments. -/
def baseOf (version : String) (url : Url) (list : List String) : Url :=
  { url with
    path := .segments (versionedSegments version list)
    query := none
    fragment := none }

theorem exists_segments {url : Url} (read : url.IsRead) (located : url.authority.isSome) :
    ∃ list, url.path = .segments list ∧ Url.AreRead url.scheme list := by
  rcases Option.isSome_iff_exists.mp located with ⟨authority, named⟩
  have path := read.path
  rw [named] at path
  generalize url.path = path at path ⊢
  cases path with
  | @segments _ list _ areRead => exact ⟨list, rfl, areRead⟩
  | bare =>
      exact ⟨[], rfl, fun segment member => absurd member List.not_mem_nil,
        fun _ segment member => absurd member List.not_mem_nil, rfl⟩

theorem areRead_versionedSegments {scheme version : String} {list : List String}
    (areRead : Url.AreRead scheme list) (unreserved : isUnreserved version) :
    Url.AreRead scheme (versionedSegments version list) where
  segments segment member := by
    rcases mem_versionedSegments member with own | rfl
    · exact areRead.segments segment own
    · exact Url.isSegment_of_isUnreserved unreserved _
  names remote segment member := by
    rcases mem_versionedSegments member with own | rfl
    · exact areRead.names remote segment own
    · exact Url.isName_of_isUnreserved unreserved
  trimmed := trimFile_versionedSegments areRead.trimmed unreserved

theorem versionedSegments_ne_nil (version : String) (list : List String) :
    versionedSegments version list ≠ [] := by
  intro empty
  have last := getLast?_versionedSegments version list
  rw [empty] at last
  cases last

section

variable {version : String} {url : Url} {list : List String} (located : url.authority.isSome)
  (areRead : Url.AreRead url.scheme list) (unreserved : isUnreserved version)

include located areRead unreserved

theorem baseUrl?_eq (path : url.path = .segments list) :
    Address.baseUrl? url version = some (baseOf version url list) := by
  rcases url with ⟨scheme, authority, isGuarded, _, query, fragment⟩
  cases path
  have versioned := versionedSegments_eq areRead.trimmed unreserved
  have isBase (list : List String) :
      Url.isBase ⟨scheme, authority, isGuarded, .segments list, query, fragment⟩ := by
    rw [Url.isBase]
    exact Bool.or_eq_true_iff.mpr (.inl located)
  rw [Address.baseUrl?, if_pos (isBase list), Url.trimmed]
  dsimp only
  split
  next last =>
    rw [if_pos (show (Url.withoutEmptyEnd list).getLast?.getD "" = version from last)] at versioned
    rw [versioned]
    rfl
  next other =>
    rw [if_neg (show (Url.withoutEmptyEnd list).getLast?.getD "" ≠ version from other)] at versioned
    rw [Url.append?, if_pos (isBase _)]
    dsimp only
    rw [versioned]
    rfl

/-- A base address is its own base address. -/
theorem baseUrl?_baseOf :
    Address.baseUrl? (baseOf version url list) version = some (baseOf version url list) := by
  have again : Address.baseUrl? (baseOf version url list) version = some (baseOf version
      (baseOf version url list) (versionedSegments version list)) :=
    baseUrl?_eq located (areRead_versionedSegments areRead unreserved) unreserved rfl
  rw [again, baseOf, versionedSegments_versionedSegments (Url.isUnreserved_iff unreserved).1]
  rfl

theorem isRead_baseOf (read : url.IsRead) : (baseOf version url list).IsRead := by
  rcases Option.isSome_iff_exists.mp located with ⟨authority, named⟩
  have isPath : Url.IsReadPath url.scheme url.authority
      (.segments (versionedSegments version list)) :=
    .segments (versionedSegments_ne_nil version list) (areRead_versionedSegments areRead unreserved)
  refine ⟨read.scheme, read.authority, read.located, ?_, isPath, fun _ _ => ?_, ?_, ?_⟩
  · change url.isGuarded = Url.needsGuard url.authority _
    rw [read.guarded, named]
    rfl
  · rw [named] at isPath
    exact Url.getLast?_text_ne_space isPath
  · rintro _ ⟨⟩
  · rintro _ ⟨⟩

theorem parse_baseOf (read : url.IsRead) (path : url.path = .segments list)
    (direct : url.scheme ≠ Address.busScheme) (settled : url.IsSettled)
    (undotted : url.IsUndotted) :
    Address.parse (baseOf version url list).text version =
      .ok (.direct (baseOf version url list)) := by
  have isRead := isRead_baseOf located areRead unreserved read
  have names : (baseOf version url list).IsUndotted := by
    rintro _ ⟨⟩ segment member
    rcases mem_versionedSegments member with own | rfl
    · exact undotted list path segment own
    · exact Url.isName_of_isUnreserved unreserved
  rw [Address.parse, Url.parse?_text isRead settled names]
  dsimp only
  rw [if_neg (show (baseOf version url list).scheme ≠ Address.busScheme from direct),
    baseUrl?_baseOf located areRead unreserved]

theorem join_baseOf (operation : Operation) :
    HttpAgent.join (baseOf version url list) operation.path =
      .ok { baseOf version url list with
        path := .segments (versionedSegments version list ++ operation.path) } := by
  have last := getLast?_versionedSegments version list
  have named := (Url.isUnreserved_iff unreserved).1
  have trimmed := trimFile_versionedSegments areRead.trimmed unreserved
  have operations : ∀ segment ∈ operation.path, isUnreserved segment := by
    cases operation <;> decide
  have kept : Url.withoutEmptyEnd (versionedSegments version list) =
      versionedSegments version list := by
    unfold Url.withoutEmptyEnd
    split
    next => rfl
    next => rw [last, if_neg (by simpa using named)]
  have filled : Url.withoutRoot (versionedSegments version list) ≠ [] := by
    rw [Url.withoutRoot, if_neg]
    · exact versionedSegments_ne_nil version list
    · intro root
      rw [root] at last
      cases last
      exact named rfl
  have appended := Url.appendSegments_of_isUnreserved trimmed filled operations
  have isBase : (baseOf version url list).isBase := by
    rw [Url.isBase]
    exact Bool.or_eq_true_iff.mpr (.inl located)
  have same : (baseOf version url list).trimmed = baseOf version url list :=
    congrArg (fun segments => { baseOf version url list with path := .segments segments }) kept
  have below : (baseOf version url list).below? operation.path =
      some { baseOf version url list with
        path := .segments (versionedSegments version list ++ operation.path) } := by
    rw [Url.below?, same, Url.append?, if_pos isBase, ← appended]
    rfl
  rw [HttpAgent.join, below]

end

/-- Nothing stands behind the version, which ends the text. -/
theorem getLast?_text_baseOf {version : String} (unreserved : isUnreserved version) (url : Url)
    (list : List String) : (baseOf version url list).text.toList.getLast? ≠ some '/' := by
  have named := (Url.isUnreserved_iff unreserved).1
  rcases List.getLast?_eq_some_iff.mp (getLast?_versionedSegments version list) with ⟨front, ends⟩
  have filled : version.toList ≠ [] := fun empty => named (String.toList_eq_nil_iff.mp empty)
  have path : (baseOf version url list).path.text.toList =
      (front.flatMap fun segment => '/' :: segment.toList) ++ '/' :: version.toList := by
    rw [baseOf, Url.toList_segments, ends, List.flatMap_append, List.flatMap_singleton]
  have parts : (baseOf version url list).text.toList =
      (url.scheme.toList ++ ':' :: ((baseOf version url list).leadText.toList ++
        front.flatMap fun segment => '/' :: segment.toList)) ++ '/' :: version.toList := by
    have nothing : (baseOf version url list).tail = [] := rfl
    rw [Url.toList_text_eq, path, nothing]
    simp [baseOf]
  intro slash
  rw [parts, List.getLast?_append_cons, List.getLast?_cons,
    List.getLast?_eq_some_getLast filled] at slash
  have last : version.toList.getLast filled = '/' := Option.some.inj slash
  have clean := Url.isClean_of_isUnreserved unreserved _ (List.getLast_mem filled)
  rw [last] at clean
  exact clean.2 (by decide)

theorem Operation.eq_of_text_eq {left right : Operation} {base : Url} {list : List String}
    (same : ({ base with path := .segments (list ++ left.path) } : Url).text =
      ({ base with path := .segments (list ++ right.path) } : Url).text) : left = right := by
  have all : ∀ left ∈ Operation.all, ∀ right ∈ Operation.all,
      (left.path.flatMap fun segment => '/' :: segment.toList) =
        (right.path.flatMap fun segment => '/' :: segment.toList) → left = right := by
    decide +kernel
  apply all left left.mem_all right right.mem_all
  have chars := congrArg String.toList same
  rw [Url.toList_text_eq, Url.toList_text_eq] at chars
  have behindScheme := (List.cons.inj (List.append_cancel_left chars)).2
  have paths := List.append_cancel_right (List.append_cancel_left behindScheme)
  dsimp only at paths
  rw [Url.toList_segments, Url.toList_segments, List.flatMap_append, List.flatMap_append] at paths
  exact List.append_cancel_left paths

namespace Address

/-! ## Normalising -/

/-- A base address has whom to contact and the path from the address that it was made of. -/
structure IsBaseOf (version : String) (url base : Url) : Prop where
  scheme : base.scheme = url.scheme
  authority : base.authority = url.authority
  path : ∃ list, url.path = .segments list ∧
    base.path = .segments (versionedSegments version list)
  last : base.lastSegment = version
  query : base.query = none
  fragment : base.fragment = none
  closed : base.text.toList.getLast? ≠ some '/'

/-- The addresses of the operations are the base address with more segments, and no two
operations have one address. -/
structure Serves (base : Url) : Prop where
  below : ∃ list, base.path = .segments list ∧ ∀ operation : Operation,
    HttpAgent.join base operation.path =
      .ok { base with path := .segments (list ++ operation.path) }
  apart : ∀ (left right : Operation) (leftUrl rightUrl : Url),
    HttpAgent.join base left.path = .ok leftUrl → HttpAgent.join base right.path = .ok rightUrl →
      leftUrl.text = rightUrl.text → left = right

/-- Every address with a host that is not on the bus is normalised, and what it is normalised to
is a normal form: read again, it is normalised to itself, as long as the library takes the domain
that it wrote for the same one and no segment of a file for a place. It does so for every domain
of an address that is plainly given. -/
theorem direct_of_parse? {address version : String} {url : Url}
    (read : Url.parse? address = some url) (direct : url.scheme ≠ busScheme)
    (named : url.hostText?.isSome) (unreserved : isUnreserved version) :
    ∃ base, parse address version = .ok (.direct base) ∧ IsBaseOf version url base ∧
      (Url.IsPlainlyGiven address url → url.IsSettled) ∧
      (url.IsSettled → (Url.isFile url.scheme → url.IsUndotted) →
        parse base.text version = .ok (.direct base)) ∧
      Serves base := by
  have isRead := Url.isRead_of_parse? read
  have located : url.authority.isSome := by
    rw [Url.hostText?] at named
    split at named
    next => cases named
    next equal => rw [equal]; rfl
  rcases exists_segments isRead located with ⟨list, path, areRead⟩
  have base := baseUrl?_eq located areRead unreserved path
  have last := getLast?_versionedSegments version list
  refine ⟨baseOf version url list, ?_, ?_, fun given => Url.isSettled_of_isPlainlyGiven given read,
    ?_, ?_⟩
  · rw [parse, read]
    dsimp only
    rw [if_neg direct, base]
  · exact {
      scheme := rfl
      authority := rfl
      path := ⟨list, path, rfl⟩
      last := by rw [Url.lastSegment, baseOf]; dsimp only; rw [last]; rfl
      query := rfl
      fragment := rfl
      closed := getLast?_text_baseOf unreserved url list }
  · intro settled undotted
    refine parse_baseOf located areRead unreserved isRead path direct settled ?_
    cases file : Url.isFile url.scheme with
    | false => exact Url.isUndotted_of_remote isRead file
    | true => exact undotted file
  · refine ⟨⟨_, rfl, join_baseOf located areRead unreserved⟩, ?_⟩
    intro left right leftUrl rightUrl leftJoined rightJoined same
    rw [join_baseOf located areRead unreserved] at leftJoined rightJoined
    cases leftJoined
    cases rightJoined
    exact Operation.eq_of_text_eq same

theorem direct_of_host_and_path :
    ∃ url base, Url.parse? "http://10.0.0.1:1443/agent/?x=1" = some url ∧
      parse "http://10.0.0.1:1443/agent/?x=1" "v2" = .ok (.direct base) ∧
      IsBaseOf "v2" url base ∧ parse base.text "v2" = .ok (.direct base) ∧ Serves base := by
  have read : Url.parse? "http://10.0.0.1:1443/agent/?x=1" =
      some ⟨"http", some ⟨"", "", .address4 0x0A000001, some 1443⟩, false,
        .segments ["agent", ""], some "x=1", none⟩ := by
    decide +kernel
  rcases direct_of_parse? read (by decide) (by decide +kernel) (by decide : isUnreserved "v2") with
    ⟨base, parsed, isBase, settles, again, serves⟩
  have unescaped : Url.IsUnescaped "http://10.0.0.1:1443/agent/?x=1".toList := fun c member => by
    have all : "http://10.0.0.1:1443/agent/?x=1".toList.all fun c =>
        Punycode.isAscii c && c ≠ '%' := by decide
    simpa using List.all_eq_true.mp all c member
  exact ⟨_, base, read, parsed, isBase,
    again (settles (.unescaped unescaped)) (fun file => absurd file (by decide)), serves⟩

/-- Neither segment of a path of two empty ones is kept, a segment of dots behind a drive is taken
for a place when the base address is read again, and a domain that is too long once it is encoded
is not read again. -/
theorem not_kept_and_not_read_again :
    (Url.parse? "http://h//" =
        some ⟨"http", some ⟨"", "", .name "h", none⟩, false, .segments ["", ""], none, none⟩ ∧
      parse "http://h//" "v2" =
        .ok (.direct ⟨"http", some ⟨"", "", .name "h", none⟩, false, .segments ["v2"], none, none⟩) ∧
      ["v2"] ≠ ["", ""].dropLast ++ ["v2"]) ∧
    (∃ base again, parse "file://h/C:\t.." "v2" = .ok (.direct base) ∧
      parse base.text "v2" = .ok (.direct again) ∧ again ≠ base) ∧
    ∃ base, parse (Url.sparseText 900) "v2" = .ok (.direct base) ∧
      ∀ again, parse base.text "v2" ≠ .ok again := by
  refine ⟨⟨by decide +kernel, by decide +kernel, by decide⟩, ?_, ?_⟩
  · exact ⟨⟨"file", some ⟨"", "", .name "h", none⟩, false, .segments ["C:", "..", "v2"], none, none⟩,
      ⟨"file", some ⟨"", "", .name "h", none⟩, false, .segments ["C:", "v2"], none, none⟩,
      by decide +kernel, by decide +kernel, by decide⟩
  · have most : 900 ≤ Domain.meaningLimit := by decide
    have read := Url.parse?_sparseText most (by decide)
    have areRead : Url.AreRead (Url.sparseUrl 900).scheme [""] := Url.areRead_root _
    have isRead := isRead_baseOf rfl areRead (by decide : isUnreserved "v2")
      (Url.isRead_of_parse? read)
    have direct : (Url.sparseUrl 900).scheme ≠ busScheme := (by decide : "https" ≠ busScheme)
    refine ⟨baseOf "v2" (Url.sparseUrl 900) [""], ?_, fun again => ?_⟩
    · rw [parse, read]
      dsimp only
      rw [if_neg direct, baseUrl?_eq rfl areRead (by decide) rfl]
    · rw [parse, Url.parse?_text_eq_none_of_sparse most (by decide) isRead rfl rfl]
      rintro ⟨⟩

end Address

end Agent

end HostAttestation
