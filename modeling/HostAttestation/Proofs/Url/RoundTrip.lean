import HostAttestation.Proofs.Text.Blank
import HostAttestation.Proofs.Url.Form

/-! # Reading the text of an address

The text of an address that was read is read as the address again, provided that its domain is.
Only the path of a file may change: what was a segment behind a drive is taken for a place when it
is read again, if it is made of dots. -/

namespace HostAttestation

namespace Url

open Percent (IsClean)

/-- The domain of a well known scheme is written as itself. -/
def IsSettled (url : Url) : Prop :=
  isSpecial url.scheme → ∀ authority, url.authority = some authority → authority.host.IsSettled

theorem isSettled_of_not_isSpecial {url : Url} (plain : isSpecial url.scheme = false) :
    url.IsSettled := by
  intro special
  rw [plain] at special
  cases special

/-- No segment of the path is a place made of dots. -/
def IsUndotted (url : Url) : Prop :=
  ∀ list, url.path = .segments list → ∀ segment ∈ list, IsName segment

/-- What becomes of a path that is read again. -/
def Path.again (scheme : String) : Path → Path
  | .verbatim text => .verbatim text
  | .segments [] => .segments []
  | .segments (segment :: rest) =>
      .segments (segmentsOf scheme (Text.join '/' ((segment :: rest).map String.toList)))

/-! ## Visible characters -/

/-- Neither a control nor a space, so that it is not taken off a text. -/
def IsVisible (c : Char) : Prop :=
  Percent.isControl c = false ∧ c ≠ ' '

theorem IsVisible.code {c : Char} (visible : IsVisible c) : 0x20 < c.toNat ∧ c.toNat < 0x7F := by
  have code : c.toNat ≠ 0x20 := fun equal => visible.2 (Char.toNat_inj.mp equal)
  have printed := visible.1
  simp only [Percent.isControl, Bool.or_eq_false_iff, decide_eq_false_iff_not] at printed
  omega

theorem IsVisible.isMargin_eq_false {c : Char} (visible : IsVisible c) : isMargin c = false := by
  have code := visible.code
  rw [isMargin, decide_eq_false_iff_not]
  omega

theorem IsVisible.not_isBlank {c : Char} (visible : IsVisible c) : ¬Text.isBlank c := by
  have code := visible.code
  have apart : ∀ range ∈ Text.blankRanges, range.2 ≤ 0x20 ∨ 0x7F ≤ range.1 := by decide
  intro blank
  rcases List.any_eq_true.mp blank with ⟨range, listed, within⟩
  have bounds := apart range listed
  rw [Bool.and_eq_true, decide_eq_true_eq, decide_eq_true_eq] at within
  omega

theorem isVisible_of_mem {text : List Char} (clean : IsClean [' '] text) {c : Char}
    (member : c ∈ text) : IsVisible c :=
  ⟨(clean c member).1, fun space => (clean c member).2 (List.mem_singleton.mpr space)⟩

theorem withoutMargins_eq_self {text : List Char}
    (starts : ∀ c, text.head? = some c → isMargin c = false)
    (ends : ∀ c, text.getLast? = some c → isMargin c = false) :
    withoutMargins (String.ofList text) = text := by
  have reversed : ∀ c, text.reverse.head? = some c → isMargin c = false := by
    intro c last
    rw [List.head?_reverse] at last
    exact ends c last
  rw [withoutMargins, String.toList_ofList, Text.dropWhile_eq_self starts,
    Text.dropWhile_eq_self reversed, List.reverse_reverse]

/-! ## Query and fragment -/

def tail (url : Url) : List Char :=
  (marked "?" url.query).toList ++ (marked "#" url.fragment).toList

theorem finish_marked (scheme : String) (authority : Option Authority) (path : Path)
    {fragment : Option String}
    (kept : ∀ text, fragment = some text → Percent.encode Percent.fragmentSet text.toList = text) :
    finish scheme authority path (marked "#" fragment).toList =
      ⟨scheme, authority, needsGuard authority path, path, none, fragment⟩ := by
  cases fragment with
  | none => rfl
  | some text =>
      have chars : (marked "#" (some text)).toList = '#' :: text.toList := by simp [marked]
      rw [chars, finish, kept text rfl]

theorem finish_query {scheme query : String} (authority : Option Authority) (path : Path)
    (fragment : Option String) (hashless : ∀ c ∈ query.toList, (c ≠ '#' : Bool) = true)
    (kept : queryText scheme query.toList = query) :
    finish scheme authority path ('?' :: (query.toList ++ (marked "#" fragment).toList)) =
      { finish scheme authority path (marked "#" fragment).toList with query := some query } := by
  have ends : ∀ c, (marked "#" fragment).toList.head? = some c → (c ≠ '#' : Bool) = false := by
    cases fragment with
    | none => rintro _ ⟨⟩
    | some text =>
        intro c first
        simp [marked] at first
        simp [← first]
  rw [finish]
  dsimp only
  rw [Text.takeWhile_append_eq_left hashless ends, Text.dropWhile_append_eq_right hashless ends, kept]
  cases fragment with
  | none => rfl
  | some text =>
      have chars : (marked "#" (some text)).toList = '#' :: text.toList := by simp [marked]
      rw [chars]
      rfl

section

variable {url : Url} (read : url.IsRead)

include read

theorem fragment_kept {fragment : String} (named : url.fragment = some fragment) :
    Percent.encode Percent.fragmentSet fragment.toList = fragment := by
  rw [Percent.encode, Percent.encodeChars_eq_self (read.fragment fragment named),
    String.ofList_toList]

theorem query_kept {query : String} (asked : url.query = some query) :
    queryText url.scheme query.toList = query := by
  have clean := read.query query asked
  rw [queryMarks] at clean
  rw [queryText, Percent.encode, Percent.encodeChars_eq_self clean, String.ofList_toList]

theorem finish_tail (path : Path) :
    finish url.scheme url.authority path url.tail =
      { url with isGuarded := needsGuard url.authority path, path := path } := by
  have kept (fragment : String) (named : url.fragment = some fragment) :=
    fragment_kept read named
  have behind := finish_marked url.scheme url.authority path kept
  cases asked : url.query with
  | none =>
      have bare : url.tail = (marked "#" url.fragment).toList := by rw [tail, asked]; rfl
      rw [bare, behind, ← asked]
  | some query =>
      have hashless : ∀ c ∈ query.toList, (c ≠ '#' : Bool) = true := fun c member => by
        have unmarked := (read.query query asked c member).2
        refine decide_eq_true fun hash => unmarked ?_
        rw [hash]
        exact List.mem_append_left _ (by decide)
      have marks : url.tail = '?' :: (query.toList ++ (marked "#" url.fragment).toList) := by
        rw [tail, asked]
        simp [marked]
      rw [marks, finish_query url.authority path url.fragment hashless (query_kept read asked),
        behind, ← asked]

omit read in
theorem beforeQuery_head?_tail : ∀ c, url.tail.head? = some c → beforeQuery c = false := by
  intro c first
  rcases url with ⟨_, _, _, _, query, fragment⟩
  cases query with
  | none =>
      cases fragment with
      | none => cases first
      | some fragment =>
          have hash : c = '#' := by simpa [tail, marked, eq_comm] using first
          rw [hash]
          rfl
  | some query =>
      have question : c = '?' := by simpa [tail, marked, eq_comm] using first
      rw [question]
      rfl

theorem isClean_tail : IsClean [' '] url.tail := by
  have query : IsClean [' '] (marked "?" url.query).toList := by
    cases asked : url.query with
    | none => exact fun c member => absurd member List.not_mem_nil
    | some query =>
        rw [marked, String.toList_append]
        refine Percent.isClean_append (Percent.isClean_of_all (by decide)) ((read.query query asked).mono ?_)
        rw [queryMarks]
        split <;> decide
  have fragment : IsClean [' '] (marked "#" url.fragment).toList := by
    cases named : url.fragment with
    | none => exact fun c member => absurd member List.not_mem_nil
    | some fragment =>
        rw [marked, String.toList_append]
        exact Percent.isClean_append (Percent.isClean_of_all (by decide))
          ((read.fragment fragment named).mono (by decide))
  exact Percent.isClean_append query fragment

/-! ## Path -/

theorem isClean_path : IsClean ['?', '#'] url.path.text.toList := by
  have path := read.path
  revert path
  generalize url.authority = authority
  generalize url.path = path
  rintro (⟨_, areRead⟩ | ⟨_, _⟩ | ⟨clean, _⟩)
  · exact (isClean_segments areRead.segments).mono (by decide)
  · exact fun c member => absurd member List.not_mem_nil
  · exact clean

theorem beforeQuery_of_mem_path : ∀ c ∈ url.path.text.toList, beforeQuery c := by
  intro c member
  have unmarked := (isClean_path read c member).2
  simpa [beforeQuery] using unmarked

theorem takeWhile_path_tail :
    (url.path.text.toList ++ url.tail).takeWhile beforeQuery = url.path.text.toList :=
  Text.takeWhile_append_eq_left (beforeQuery_of_mem_path read) beforeQuery_head?_tail

theorem dropWhile_path_tail :
    (url.path.text.toList ++ url.tail).dropWhile beforeQuery = url.tail :=
  Text.dropWhile_append_eq_right (beforeQuery_of_mem_path read) beforeQuery_head?_tail

end

theorem segmentsOf_guarded (scheme : String) (text : List Char) :
    segmentsOf scheme ('.' :: '/' :: text) = segmentsOf scheme text := by
  have parts : splitPath (isSpecial scheme) ('.' :: '/' :: text) =
      ['.'] :: splitPath (isSpecial scheme) text := by
    cases special : isSpecial scheme <;> simp [splitPath, isSlash, Text.split]
  have here : enterPart (isFile scheme) (Percent.encode Percent.pathSet) [] ['.'] false = [] := by
    cases isFile scheme <;> decide
  cases behind : splitPath (isSpecial scheme) text with
  | nil => exact absurd behind (Text.split_ne_nil '/' _)
  | cons part rest => rw [segmentsOf, segmentsOf, parts, behind, enterAll, here]; simp

theorem pathOf_text {scheme : String} {authority : Authority} {path : Path}
    (read : IsReadPath scheme (some authority) path) :
    pathOf scheme path.text.toList = path.again scheme := by
  cases read with
  | @segments _ list filled _ =>
      cases list with
      | nil => exact absurd rfl filled
      | cons segment rest =>
          rw [toList_segments_of_ne_nil filled, pathOf]
          simp [isSlash, Path.again]
  | bare _ plain => simp [Path.text, Path.again, pathOf, plain]

theorem again_of_isUndotted {scheme : String} {authority : Option Authority} {path : Path}
    (read : IsReadPath scheme authority path)
    (names : ∀ list, path = .segments list → ∀ segment ∈ list, IsName segment) :
    path.again scheme = path := by
  cases read with
  | @segments _ list filled areRead =>
      have kept := segmentsOf_join filled areRead (names list rfl)
      cases list with
      | nil => exact absurd rfl filled
      | cons segment rest => exact congrArg Path.segments kept
  | bare => rfl
  | verbatim => rfl

/-- Only the path of a file may have dots in it. -/
theorem isUndotted_of_remote {url : Url} (read : url.IsRead) (remote : isFile url.scheme = false) :
    url.IsUndotted := by
  intro list path segment member
  have isPath := read.path
  rw [path] at isPath
  generalize url.authority = authority at isPath
  cases isPath with
  | segments _ areRead => exact areRead.names remote segment member
  | bare => cases member

/-! ## Local authorities -/

theorem isDrive_text {host : Host} (read : host.IsRead true) :
    isDrive host.text.toList = false := by
  have clean := Host.isClean_text read
  have span : spanHost false (host.text.toList ++ []) = (host.text.toList, []) :=
    spanHost_text read (.inl rfl)
  rw [List.append_nil] at span
  unfold isDrive
  split
  next letter mark chars =>
    rw [chars] at clean span
    have barless : mark ≠ '|' := by
      rintro rfl
      exact (clean '|' (List.mem_cons_of_mem _ (List.mem_singleton_self _))).2 (by decide)
    cases alphabetic : letter.isAlpha with
    | false => rfl
    | true =>
        have uncolon : letter ≠ ':' := by rintro rfl; cases alphabetic
        have unbracketed : letter ≠ '[' := by rintro rfl; cases alphabetic
        have colonless : mark ≠ ':' := by
          rintro rfl
          simp [spanHost, uncolon, unbracketed] at span
        simp [barless, colonless]
  next => rfl

section

variable {authority : Authority} (isLocal : IsLocal authority)

include isLocal

theorem toList_text_of_isLocal : authority.text.toList = authority.host.text.toList := by
  rw [toList_text, Authority.hasUser, isLocal.username, isLocal.password, isLocal.port]
  simp [portText]

theorem isClean_text_of_isLocal : IsClean Host.boundaries authority.host.text.toList := by
  rcases isLocal.host with missing | ⟨remote, _⟩
  · rw [missing]
    exact fun c member => absurd member List.not_mem_nil
  · exact Host.isClean_text remote

theorem isDrive_text_of_isLocal : isDrive authority.host.text.toList = false := by
  rcases isLocal.host with missing | ⟨remote, _⟩
  · rw [missing]
    rfl
  · exact isDrive_text remote

theorem fileHost?_text (settled : authority.host.IsSettled) :
    fileHost? authority.host.text.toList = some authority.host := by
  rw [fileHost?]
  rcases isLocal.host with missing | ⟨remote, named⟩
  · rw [missing]
    exact if_pos rfl
  · rw [if_neg, Host.ofDomain_text remote settled]
    · dsimp only
      rw [if_neg named]
    · intro empty
      exact Host.ne_name_empty remote ((Host.text_eq_nil_iff remote).mp empty)

theorem eq_localAuthority : some authority = localAuthority authority.host := by
  rcases authority with ⟨username, password, host, port⟩
  rcases isLocal with ⟨rfl, rfl, rfl, _⟩
  rfl

end

/-! ## Addresses with an authority -/

section

variable {url : Url} (read : url.IsRead)

include read

theorem finish_again {authority : Authority} (named : url.authority = some authority)
    (path : Path) : finish url.scheme url.authority path url.tail = { url with path := path } := by
  have unguarded : url.isGuarded = false := by rw [read.guarded, named]; rfl
  rw [finish_tail read, named, unguarded]
  rfl

theorem head?_path_tail {authority : Authority} (named : url.authority = some authority)
    {c : Char} (first : (url.path.text.toList ++ url.tail).head? = some c) :
    c = '/' ∨ beforeQuery c = false := by
  have path := read.path
  rw [named] at path
  cases chars : url.path.text.toList with
  | nil =>
      rw [chars, List.nil_append] at first
      exact .inr (beforeQuery_head?_tail c first)
  | cons front rest =>
      rw [chars] at first
      cases first
      revert path chars
      generalize url.path = path
      rintro (⟨filled, _⟩ | ⟨_, _⟩) chars
      · rw [toList_segments_of_ne_nil filled] at chars
        cases chars
        exact .inl rfl
      · cases chars

theorem endsAuthority_head? {authority : Authority} (named : url.authority = some authority) :
    ∀ c, (url.path.text.toList ++ url.tail).head? = some c →
      endsAuthority (isSpecial url.scheme) c := by
  intro c first
  rcases head?_path_tail read named first with rfl | marks
  · rfl
  · have mark : c = '?' ∨ c = '#' := by
      simpa [beforeQuery, or_iff_not_imp_left] using marks
    rcases mark with rfl | rfl
    · simp [endsAuthority]
    · simp [endsAuthority]

theorem withAuthority_text {authority : Authority} (named : url.authority = some authority)
    (remote : isFile url.scheme = false) (settled : url.IsSettled) :
    withAuthority url.scheme
        (authority.text.toList ++ (url.path.text.toList ++ url.tail)) =
      some { url with path := url.path.again url.scheme } := by
  have isRead := read.authority authority named
  rw [IsReadAuthority, remote] at isRead
  have path := read.path
  rw [named] at path
  rw [withAuthority, authority?_text isRead (endsAuthority_head? read named)
    (fun special => settled special authority named)]
  dsimp only [Option.bind_eq_bind, Option.bind_some]
  rw [takeWhile_path_tail read, dropWhile_path_tail read, pathOf_text path, ← named,
    finish_again read named]
  rfl

/-! ## Files -/

theorem fileAt_text {host : Host} (named : url.authority = localAuthority host)
    (file : isFile url.scheme) :
    fileAt url.scheme host (url.path.text.toList ++ url.tail) =
      { url with path := url.path.again url.scheme } := by
  have path := read.path
  rw [named] at path
  have special : isSpecial url.scheme := by rw [isSpecial, file, Bool.or_true]
  have unignored : withoutIgnored url.tail = url.tail := withoutIgnored_eq_self (isClean_tail read)
  rw [fileAt, takeWhile_path_tail read, dropWhile_path_tail read, unignored]
  have kept : (.segments (segmentsOf url.scheme
      (let path := url.path.text.toList.dropWhile isIgnored
        if path.head?.any (isSlash true) then path.drop 1 else path))) =
      url.path.again url.scheme := by
    generalize url.path = path at path ⊢
    cases path with
    | @segments _ list filled _ =>
        cases list with
        | nil => exact absurd rfl filled
        | cons segment rest =>
            rw [toList_segments_of_ne_nil filled]
            rfl
    | bare _ plain =>
        rw [special] at plain
        cases plain
  rw [kept, ← named]
  exact finish_again read named _

theorem remoteFile?_text {authority : Authority} (named : url.authority = some authority)
    (file : isFile url.scheme) (settled : url.IsSettled) :
    remoteFile? url.scheme (authority.text.toList ++ (url.path.text.toList ++ url.tail)) =
      some { url with path := url.path.again url.scheme } := by
  have special : isSpecial url.scheme := by rw [isSpecial, file, Bool.or_true]
  have isLocal := read.authority authority named
  rw [IsReadAuthority, if_pos file] at isLocal
  have clean := isClean_text_of_isLocal isLocal
  have within : ∀ c ∈ authority.host.text.toList, (!endsAuthority true c) = true := by
    intro c member
    rw [Bool.not_eq_true', Bool.eq_false_iff]
    intro ending
    have marks : outside.all Host.boundaries.contains := by decide
    exact (clean.mono marks c member).2 (mem_outside_of_endsAuthority ending)
  have stops : ∀ c, (url.path.text.toList ++ url.tail).head? = some c →
      (!endsAuthority true c) = false := fun c first => by
    rw [← special, endsAuthority_head? read named c first]
    rfl
  have settledHost := settled special authority named
  have readHost := fileHost?_text isLocal settledHost
  have isHere := isDrive_text_of_isLocal isLocal
  rw [toList_text_of_isLocal isLocal, remoteFile?, Text.takeWhile_append_eq_left within stops,
    Text.dropWhile_append_eq_right within stops, withoutIgnored_eq_self clean]
  rw [isHere, readHost]
  exact congrArg some (fileAt_text read (named.trans (eq_localAuthority isLocal)) file)

/-! ## Addresses without an authority -/

theorem isSpecial_of_none (named : url.authority = none) : isSpecial url.scheme = false := by
  cases special : isSpecial url.scheme with
  | false => rfl
  | true =>
      have located := read.located special
      rw [named] at located
      cases located

theorem isFile_of_none (named : url.authority = none) : isFile url.scheme = false := by
  have plain := isSpecial_of_none read named
  rw [isSpecial, Bool.or_eq_false_iff] at plain
  exact plain.2

omit read in
theorem toList_leadText_of_none (named : url.authority = none) :
    url.leadText.toList = if url.isGuarded then ['/', '.'] else [] := by
  rw [leadText, named]
  dsimp only
  split <;> simp

omit read in
theorem head?_join_ne_slash {special : Bool} {list : List String}
    (areSegments : ∀ segment ∈ list, IsSegment special segment)
    (unguarded : needsGuard none (.segments list) = false) :
    (Text.join '/' (list.map String.toList)).head? ≠ some '/' := by
  have slash : '/' ∈ segmentMarks special := by cases special <;> decide
  intro starts
  cases list with
  | nil => cases starts
  | cons segment rest =>
      have slashless : '/' ∉ segment.toList := fun inside =>
        (areSegments segment List.mem_cons_self '/' inside).2 slash
      cases rest with
      | nil => exact slashless (List.mem_of_head? starts)
      | cons next more =>
          cases chars : segment.toList with
          | nil =>
              rw [String.toList_eq_nil_iff.mp chars] at unguarded
              cases unguarded
          | cons c others =>
              simp only [List.map_cons, Text.join, chars, List.cons_append, List.head?_cons] at starts
              cases starts
              rw [chars] at slashless
              exact slashless List.mem_cons_self

/-- In the place of an authority, a path is read from behind its first slash, after which there is
no second one, or as it is. -/
theorem path_of_none (named : url.authority = none) :
    (∃ rest, url.leadText.toList ++ url.path.text.toList = '/' :: rest ∧
        rest.head? ≠ some '/' ∧ Path.segments (segmentsOf url.scheme rest) = url.path) ∨
      ((url.leadText.toList ++ url.path.text.toList).head? ≠ some '/' ∧
        Path.verbatim (Percent.encode [] (url.leadText.toList ++ url.path.text.toList)) =
          url.path) := by
  have lead := toList_leadText_of_none named
  have guarded := read.guarded
  have names := isUndotted_of_remote read (isFile_of_none read named)
  have isPath := read.path
  rw [named] at guarded isPath
  rw [lead, guarded]
  unfold IsUndotted at names
  generalize url.path = path at isPath names ⊢
  cases isPath with
  | @segments _ list filled areRead =>
      left
      have kept := segmentsOf_join filled areRead (names list rfl)
      rw [toList_segments_of_ne_nil filled]
      cases guard : needsGuard none (.segments list) with
      | true =>
          refine ⟨'.' :: '/' :: Text.join '/' (list.map String.toList), rfl, by simp, ?_⟩
          rw [segmentsOf_guarded, kept]
      | false =>
          refine ⟨Text.join '/' (list.map String.toList), rfl, ?_, congrArg Path.segments kept⟩
          exact head?_join_ne_slash areRead.segments guard
  | @verbatim text clean flat =>
      right
      have kept : Percent.encodeChars [] text.toList = text.toList :=
        Percent.encodeChars_eq_self (clean.mono (by decide))
      have unguarded : needsGuard none (.verbatim text) = false := rfl
      rw [unguarded, if_neg Bool.false_ne_true, List.nil_append, Path.text, Percent.encode, kept,
        String.ofList_toList]
      exact ⟨flat, rfl⟩

theorem withoutAuthority_text (named : url.authority = none) :
    withoutAuthority url.scheme
        (url.leadText.toList ++ (url.path.text.toList ++ url.tail)) = url := by
  have lead := toList_leadText_of_none named
  have inLead : ∀ c ∈ url.leadText.toList ++ url.path.text.toList, beforeQuery c := by
    intro c member
    rcases List.mem_append.mp member with front | inside
    · rw [lead] at front
      split at front
      next =>
        rcases (by simpa using front : c = '/' ∨ c = '.') with rfl | rfl <;> rfl
      next => cases front
    · exact beforeQuery_of_mem_path read c inside
  have path : IsReadPath url.scheme none url.path := by
    rw [← named]
    exact read.path
  have remote : isFile url.scheme = false := isFile_of_none read named
  have names := isUndotted_of_remote read remote
  rw [withoutAuthority, ← List.append_assoc,
    Text.takeWhile_append_eq_left inLead beforeQuery_head?_tail,
    Text.dropWhile_append_eq_right inLead beforeQuery_head?_tail]
  have kept : ∀ path, path = url.path → finish url.scheme none path url.tail = url := by
    rintro _ rfl
    rw [← named, finish_tail read, ← read.guarded]
  apply kept
  rcases path_of_none read named with ⟨rest, chars, _, kept⟩ | ⟨flat, kept⟩
  · rw [chars]
    exact kept
  · split
    next rest chars =>
      rw [chars] at flat
      exact absurd rfl flat
    next => exact kept

theorem not_slashes_of_none (named : url.authority = none) (rest : List Char) :
    url.leadText.toList ++ (url.path.text.toList ++ url.tail) ≠ '/' :: '/' :: rest := by
  have tailless : url.tail.head? ≠ some '/' := fun slash =>
    absurd (beforeQuery_head?_tail '/' slash) (by decide)
  rw [← List.append_assoc]
  intro slashes
  rcases path_of_none read named with ⟨front, chars, single, _⟩ | ⟨flat, _⟩
  · rw [chars, List.cons_append, List.cons.injEq] at slashes
    have first := congrArg List.head? slashes.2
    rw [List.head?_append] at first
    rcases Option.or_eq_some_iff.mp first with inside | ⟨_, behind⟩
    · exact single inside
    · exact tailless behind
  · have first := congrArg List.head? slashes
    rw [List.head?_append] at first
    rcases Option.or_eq_some_iff.mp first with inside | ⟨_, behind⟩
    · exact flat inside
    · exact tailless behind

/-! ## Whole texts -/

omit read in
theorem toList_text_eq :
    url.text.toList =
      url.scheme.toList ++
        ':' :: (url.leadText.toList ++ (url.path.text.toList ++ url.tail)) := by
  simp [text, tail]

theorem isClean_scheme : IsClean [' ', ':'] url.scheme.toList := by
  intro c member
  have schemeChar := List.all_eq_true.mp read.scheme.chars c member
  have all := holds_of_isAscii (fun c => !isSchemeChar c ||
    (!Percent.isControl c && c ≠ ' ' && c ≠ ':')) (by decide)
    (isAscii_of_isSchemeChar schemeChar)
  simpa [schemeChar, and_assoc] using all

theorem isClean_leadText : IsClean [' '] url.leadText.toList := by
  cases named : url.authority with
  | none =>
      rw [toList_leadText_of_none named]
      split <;> exact Percent.isClean_of_all (by decide)
  | some authority =>
      have clean : IsClean [' '] authority.text.toList := by
        have isRead := read.authority authority named
        rw [IsReadAuthority] at isRead
        split at isRead
        next =>
          rw [toList_text_of_isLocal isRead]
          exact (isClean_text_of_isLocal isRead).mono (by decide)
        next => exact (isClean_text isRead).mono (by decide)
      rw [leadText, named]
      dsimp only
      rw [String.toList_append]
      exact Percent.isClean_append (Percent.isClean_of_all (by decide)) clean

theorem withoutIgnored_text :
    withoutIgnored (url.leadText.toList ++ (url.path.text.toList ++ url.tail)) =
      url.leadText.toList ++ (url.path.text.toList ++ url.tail) := by
  have lead : IsClean [] url.leadText.toList := (isClean_leadText read).mono rfl
  have path : IsClean [] url.path.text.toList := (isClean_path read).mono rfl
  have tail : IsClean [] url.tail := (isClean_tail read).mono rfl
  exact withoutIgnored_eq_self (Percent.isClean_append lead (Percent.isClean_append path tail))

theorem scheme?_text (rest : List Char) :
    scheme? (url.scheme.toList ++ ':' :: rest) = some (url.scheme, rest) := by
  have clean := isClean_scheme read
  have colonless : ':' ∉ url.scheme.toList := fun colon => (clean ':' colon).2 (by decide)
  rw [scheme?, Text.cut?_append_cons colonless]
  dsimp only
  rw [withoutIgnored_eq_self clean, read.scheme.starts, read.scheme.chars, read.scheme.lower,
    String.ofList_toList]
  rfl

omit read in
theorem eq_none_of_tail_eq_nil (bare : url.tail = []) :
    url.query = none ∧ url.fragment = none := by
  have unmarked {mark : String} (filled : mark ≠ "") {part : Option String}
      (empty : (marked mark part).toList = []) : part = none := by
    cases part with
    | none => rfl
    | some text =>
        rw [marked, String.toList_append, List.append_eq_nil_iff] at empty
        exact absurd (String.toList_eq_nil_iff.mp empty.1) filled
  rcases List.append_eq_nil_iff.mp bare with ⟨query, fragment⟩
  exact ⟨unmarked (by decide) query, unmarked (by decide) fragment⟩

theorem isVisible_head?_text {c : Char} (first : url.text.toList.head? = some c) :
    IsVisible c := by
  rw [toList_text_eq, List.head?_append] at first
  rcases Option.or_eq_some_iff.mp first with inside | ⟨missing, _⟩
  · exact isVisible_of_mem ((isClean_scheme read).mono (by decide)) (List.mem_of_head? inside)
  · have present := read.scheme.starts
    rw [missing] at present
    cases present

theorem isVisible_getLast?_text {c : Char} (last : url.text.toList.getLast? = some c) :
    IsVisible c := by
  have front : IsClean [' '] (url.scheme.toList ++ ':' :: url.leadText.toList) :=
    Percent.isClean_append ((isClean_scheme read).mono (by decide))
      (List.forall_mem_cons.mpr ⟨by decide, isClean_leadText read⟩)
  have parts : url.text.toList =
      (url.scheme.toList ++ ':' :: url.leadText.toList) ++ (url.path.text.toList ++ url.tail) := by
    rw [toList_text_eq]
    simp
  rw [parts, List.getLast?_append, List.getLast?_append] at last
  rcases Option.or_eq_some_iff.mp last with behind | ⟨_, before⟩
  · rcases Option.or_eq_some_iff.mp behind with marks | ⟨empty, path⟩
    · exact isVisible_of_mem (isClean_tail read) (List.mem_of_getLast? marks)
    · rcases eq_none_of_tail_eq_nil (List.getLast?_eq_none_iff.mp empty) with ⟨query, fragment⟩
      have ending := read.ending query fragment
      refine ⟨(isClean_path read c (List.mem_of_getLast? path)).1, ?_⟩
      rintro rfl
      exact ending path
  · exact isVisible_of_mem front (List.mem_of_getLast? before)

theorem withoutMargins_text : withoutMargins url.text = url.text.toList := by
  have kept := withoutMargins_eq_self
    (fun c first => (isVisible_head?_text read first).isMargin_eq_false)
    (fun c last => (isVisible_getLast?_text read last).isMargin_eq_false)
  rwa [String.ofList_toList] at kept

/-- The text of an address has no blanks around it. -/
theorem trim_text : Text.trim url.text = url.text := by
  have trimmed := (Text.trimChars_eq_self_iff url.text.toList).mpr
    ⟨fun c first => (isVisible_head?_text read first).not_isBlank,
      fun c last => (isVisible_getLast?_text read last).not_isBlank⟩
  rw [Text.trim, trimmed, String.ofList_toList]

omit read in
theorem toList_leadText {authority : Authority} (named : url.authority = some authority) :
    url.leadText.toList = '/' :: '/' :: authority.text.toList := by
  rw [leadText, named]
  simp

theorem isRead_authority {authority : Authority} (named : url.authority = some authority)
    (remote : isFile url.scheme = false) : authority.IsRead url.scheme := by
  have isRead := read.authority authority named
  rwa [IsReadAuthority, remote] at isRead

omit read in
/-- No slash is skipped in front of the authority of a well known scheme. -/
theorem dropWhile_isSlash_text {scheme : String} {authority : Authority}
    (isRead : authority.IsRead scheme) (special : isSpecial scheme) (rest : List Char) :
    (authority.text.toList ++ rest).dropWhile (isSlash true) = authority.text.toList ++ rest := by
  have host := isRead.host
  rw [special] at host
  have filled : authority.text.toList ≠ [] := by
    intro empty
    rw [toList_text, List.append_eq_nil_iff, List.append_eq_nil_iff] at empty
    exact Host.ne_name_empty host ((Host.text_eq_nil_iff host).mp empty.2.1)
  have starts : ∀ c, (authority.text.toList ++ rest).head? = some c → isSlash true c = false := by
    intro c first
    rw [List.head?_append, List.head?_eq_some_head filled] at first
    cases first
    rw [Bool.eq_false_iff]
    intro slash
    apply (isClean_text isRead _ (List.head_mem filled)).2
    have ending : endsAuthority true (authority.text.toList.head filled) = true := by
      rw [endsAuthority, slash]
      rfl
    exact mem_outside_of_endsAuthority ending
  exact Text.dropWhile_eq_self starts

theorem parse?_text_of_remote {authority : Authority} (named : url.authority = some authority)
    (remote : isFile url.scheme = false) :
    parse? url.text =
      withAuthority url.scheme (authority.text.toList ++ (url.path.text.toList ++ url.tail)) := by
  have unignored := withoutIgnored_text read
  rw [toList_leadText named] at unignored
  rw [parse?, withoutMargins_text read, toList_text_eq, scheme?_text read]
  dsimp only
  rw [if_neg (by rw [remote]; exact Bool.false_ne_true), toList_leadText named, unignored]
  split
  next special =>
    have dropped := dropWhile_isSlash_text (isRead_authority read named remote) special
    exact congrArg (withAuthority url.scheme) (dropped _)
  next => rfl

/-- An address is not read again if its host is not. -/
theorem parse?_text_eq_none {authority : Authority} (named : url.authority = some authority)
    (remote : isFile url.scheme = false)
    (unread : hostOf? url.scheme authority.host.text.toList = none) : parse? url.text = none := by
  rw [parse?_text_of_remote read named remote, withAuthority,
    authority?_text_eq (isRead_authority read named remote) (endsAuthority_head? read named), unread]
  rfl

/-- The text of an address is read as the address, but for the path of a file. -/
theorem parse?_text_again (settled : url.IsSettled) :
    parse? url.text = some { url with path := url.path.again url.scheme } := by
  cases file : isFile url.scheme with
  | true =>
      have special : isSpecial url.scheme := by rw [isSpecial, file, Bool.or_true]
      rcases Option.isSome_iff_exists.mp (read.located special) with ⟨authority, named⟩
      rw [parse?, withoutMargins_text read, toList_text_eq, scheme?_text read]
      dsimp only
      rw [if_pos file, toList_leadText named, fileUrl?]
      exact remoteFile?_text read named file settled
  | false =>
      cases named : url.authority with
      | some authority =>
          have readAgain := withAuthority_text read named file settled
          rw [named] at readAgain
          rw [parse?_text_of_remote read named file, readAgain]
      | none =>
          have kept := again_of_isUndotted read.path (isUndotted_of_remote read file)
          have flat := not_slashes_of_none read named
          have readAgain := withoutAuthority_text read named
          rw [parse?, withoutMargins_text read, toList_text_eq, scheme?_text read]
          dsimp only
          rw [if_neg (by rw [file]; exact Bool.false_ne_true), withoutIgnored_text read,
            if_neg (by rw [isSpecial_of_none read named]; exact Bool.false_ne_true), kept]
          split
          next rest chars => exact absurd chars (flat rest)
          next => rw [readAgain, ← named]

theorem parse?_text (settled : url.IsSettled) (undotted : url.IsUndotted) :
    parse? url.text = some url := by
  rw [parse?_text_again read settled, again_of_isUndotted read.path undotted]

/-- Whether settled or not, if the text of an address is read, it keeps the scheme. -/
theorem scheme_of_parse?_text {again : Url} (readAgain : parse? url.text = some again) :
    again.scheme = url.scheme := by
  rcases exists_scheme?_of_parse? readAgain with ⟨rest, parted⟩
  rw [withoutMargins_text read, toList_text_eq, scheme?_text read] at parted
  exact (Prod.mk.inj (Option.some.inj parted)).1.symm

end

end Url

end HostAttestation
