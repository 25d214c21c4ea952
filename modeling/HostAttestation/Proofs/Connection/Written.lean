import HostAttestation.Connection
import HostAttestation.Proofs.Outcome
import HostAttestation.Proofs.Text.Blank

/-! # Connection strings as they may be written

Between the semicolons of a connection string stand the address, options and blanks, with any
blanks around them. Main statement: whichever way a connection string is written, it is read as
what it was written for. -/

namespace HostAttestation

/-- An address has a scheme, so it cannot begin with a slash. -/
theorem Url.head?_ne_slash_of_parse? {text : String} {url : Url} (parsed : parse? text = some url) :
    text.toList.head? ≠ some '/' := by
  intro slashed
  rcases List.head?_eq_some_iff.mp slashed with ⟨rest, chars⟩
  have kept : ∃ others, withoutMargins text = '/' :: others := by
    rw [withoutMargins, chars, List.dropWhile_cons_of_neg (by decide), List.reverse_cons,
      List.dropWhile_append]
    split
    · exact ⟨[], rfl⟩
    · exact ⟨_, List.reverse_append⟩
  rcases kept with ⟨others, kept⟩
  have nameless : scheme? (withoutMargins text) = none := by
    rw [kept, scheme?, Text.cut?, if_neg (by decide)]
    cases Text.cut? ':' others <;> rfl
  rw [parse?, nameless] at parsed
  cases parsed

namespace Vendor

variable {vendor : Vendor} {tag : List Char}
  (letters : tag.map Char.toLower = vendor.name.toList)

include letters

theorem parse?_eq_some : parse? (String.ofList tag) = some vendor := by
  rw [parse?, String.toList_ofList, letters]
  cases vendor <;> decide

/-- The tag of a vendor has letters only. -/
theorem letter_of_mem_tag {c : Char} (member : c ∈ tag) : 65 ≤ c.toNat ∧ c.toNat ≤ 122 := by
  have small : c.toLower ∈ vendor.name.toList := letters ▸ List.mem_map_of_mem member
  have names : vendor.name.toList.all fun c => 65 ≤ c.toNat && c.toNat ≤ 122 := by
    cases vendor <;> decide
  have bounds : ∀ c ∈ vendor.name.toList, 65 ≤ c.toNat ∧ c.toNat ≤ 122 := by simpa using names
  delta Char.toLower at small
  split at small
  next capital =>
    have above : 65 ≤ c.toNat := capital.1
    have below : c.toNat ≤ 90 := capital.2
    omega
  next => exact bounds c small

end Vendor

namespace Connection

/-! ## Written options -/

def OptionKey.spellings : OptionKey → List String
  | .host => ["h", "hostname"]
  | .username => ["u", "username"]
  | .password => ["p", "password"]

abbrev Blanks := { margin : List Char // ∀ c ∈ margin, Text.isBlank c }

/-- Blanks may stand around an option and behind its key; those behind the equals sign belong to
the value. -/
structure WrittenOption where
  key : OptionKey
  spelling : String
  value : String
  lead : Blanks
  gap : Blanks
  trail : Blanks
  spelled : spelling ∈ key.spellings
  unbroken : ';' ∉ value.toList
  ended : ∀ c ∈ value.toList.getLast?, ¬Text.isBlank c

inductive Segment
  | blank (margin : Blanks)
  | option (written : WrittenOption)

namespace WrittenOption

/-- The option without the blanks around it. -/
def core (written : WrittenOption) : List Char :=
  written.spelling.toList ++ written.gap ++ '=' :: written.value.toList

def chars (written : WrittenOption) : List Char :=
  written.lead ++ written.core ++ written.trail

end WrittenOption

namespace Segment

def chars : Segment → List Char
  | .blank margin => margin
  | .option written => written.chars

/-- The value that the segment gives for a key. -/
def value? (key : OptionKey) : Segment → Option String
  | .blank _ => none
  | .option written => if written.key = key then some written.value else none

end Segment

/-- The value that counts. -/
def lastGiven (segments : List Segment) (key : OptionKey) : Option String :=
  (segments.filterMap (Segment.value? key)).getLast?

theorem lastGiven_cons (segment : Segment) (rest : List Segment) (key : OptionKey) :
    lastGiven (segment :: rest) key = (lastGiven rest key).or (segment.value? key) := by
  rw [lastGiven, List.filterMap_cons, lastGiven]
  cases segment.value? key with
  | none => rw [Option.or_none]
  | some value =>
      rw [List.getLast?_cons]
      cases (rest.filterMap (Segment.value? key)).getLast? <;> rfl

/-! ## Reading an option -/

def given (connection : Connection) : OptionKey → Option String
  | .host => connection.host
  | .username => connection.username
  | .password => connection.password

theorem given_set (connection : Connection) (key other : OptionKey) (value : String) :
    (connection.set key value).given other =
      (if key = other then some value else none).or (connection.given other) := by
  cases key <;> cases other <;> rfl

namespace WrittenOption

variable (written : WrittenOption)

theorem parse?_spelling : OptionKey.parse? written.spelling = some written.key := by
  have known : ∀ key : OptionKey, ∀ spelling ∈ key.spellings,
      OptionKey.parse? spelling = some key := by
    intro key
    cases key <;> decide
  exact known written.key written.spelling written.spelled

/-- A key has no blanks and no marks in it. -/
theorem plain_of_mem_spelling {c : Char} (member : c ∈ written.spelling.toList) :
    ¬Text.isBlank c ∧ c ≠ '=' ∧ c ≠ ';' := by
  have plain : ∀ key : OptionKey, ∀ spelling ∈ key.spellings,
      spelling.toList.all fun c => !Text.isBlank c && c != '=' && c != ';' := by
    intro key
    cases key <;> decide
  have visible := List.all_eq_true.mp (plain written.key written.spelling written.spelled) c member
  simpa [and_assoc] using visible

theorem trimChars_core : Text.trimChars written.core = written.core := by
  refine (Text.trimChars_eq_self_iff _).mpr ⟨?_, ?_⟩
  · intro c first
    cases spelling : written.spelling.toList with
    | nil =>
        have filled : ∀ key : OptionKey, ∀ spelling ∈ key.spellings, spelling.toList ≠ [] := by
          intro key
          cases key <;> decide
        exact absurd spelling (filled written.key written.spelling written.spelled)
    | cons letter rest =>
        have member : letter ∈ written.spelling.toList := spelling ▸ List.mem_cons_self
        rw [core, spelling] at first
        cases first
        exact (written.plain_of_mem_spelling member).1
  · intro c last
    rw [core, List.getLast?_append, List.getLast?_cons] at last
    cases ends : written.value.toList.getLast? with
    | none =>
        rw [ends] at last
        cases last
        decide
    | some other =>
        rw [ends] at last
        cases last
        exact written.ended other ends

theorem trimChars_chars : Text.trimChars written.chars = written.core := by
  rw [chars, Text.trimChars_append_right written.trail.property,
    Text.trimChars_append_left written.lead.property, trimChars_core]

theorem core_ne_nil : written.core ≠ [] := by
  simp [core]

theorem parseOption_core (connection : Connection) :
    parseOption connection written.core = .ok (connection.set written.key written.value) := by
  have keyed : '=' ∉ written.spelling.toList ++ written.gap := by
    intro member
    rcases List.mem_append.mp member with spelled | blank
    · exact (written.plain_of_mem_spelling spelled).2.1 rfl
    · exact absurd (written.gap.property _ blank) (by decide)
  have spelled : Text.trimChars (written.spelling.toList ++ written.gap) =
      written.spelling.toList := by
    rw [Text.trimChars_append_right written.gap.property]
    exact Text.trimChars_eq_self fun c member => (written.plain_of_mem_spelling member).1
  rw [parseOption, core, Text.cut?_append_cons keyed]
  dsimp only
  rw [spelled, String.ofList_toList, parse?_spelling, String.ofList_toList]

theorem not_mem_chars : ';' ∉ written.chars := by
  have unblank : ¬Text.isBlank ';' := by decide
  simp only [chars, core, List.mem_append, List.mem_cons, not_or]
  exact ⟨⟨Text.not_mem_of_isBlank unblank written.lead.property,
    ⟨⟨fun member => (written.plain_of_mem_spelling member).2.2 rfl,
      Text.not_mem_of_isBlank unblank written.gap.property⟩, by decide, written.unbroken⟩⟩,
    Text.not_mem_of_isBlank unblank written.trail.property⟩

end WrittenOption

theorem Segment.not_mem_chars (segment : Segment) : ';' ∉ segment.chars := by
  cases segment with
  | blank margin => exact Text.not_mem_of_isBlank (by decide) margin.property
  | option written => exact written.not_mem_chars

/-! ## Reading all options -/

/-- What a connection string says about the options counts in place of what was said before. -/
structure Continues (connection : Connection) (segments : List Segment) (result : Connection) :
    Prop where
  vendor_eq : result.vendor = connection.vendor
  url_eq : result.url = connection.url
  given_eq : ∀ key, result.given key = (lastGiven segments key).or (connection.given key)

theorem parseOptions_segments (connection : Connection) (segments : List Segment) :
    ∃ result, parseOptions connection (segments.map Segment.chars) = .ok result ∧
      Continues connection segments result := by
  induction segments generalizing connection with
  | nil => exact ⟨connection, rfl, rfl, rfl, fun _ => rfl⟩
  | cons segment rest induction =>
      cases segment with
      | blank margin =>
          rcases induction connection with ⟨result, parsed, vendor_eq, url_eq, given_eq⟩
          refine ⟨result, ?_, vendor_eq, url_eq, fun key => ?_⟩
          · rw [List.map_cons, parseOptions, Segment.chars,
              Text.trimChars_of_isBlank margin.property, if_pos rfl, parsed]
          · rw [given_eq, lastGiven_cons, Segment.value?, Option.or_none]
      | option written =>
          rcases induction (connection.set written.key written.value) with
            ⟨result, parsed, vendor_eq, url_eq, given_eq⟩
          refine ⟨result, ?_, ?_, ?_, fun key => ?_⟩
          · rw [List.map_cons, parseOptions, Segment.chars, written.trimChars_chars,
              if_neg written.core_ne_nil, written.parseOption_core]
            exact parsed
          · rw [vendor_eq]
            cases written.key <;> rfl
          · rw [url_eq]
            cases written.key <;> rfl
          · rw [given_eq, given_set, lastGiven_cons, Segment.value?, Option.or_assoc]

/-- The blanks around the parts do not matter. -/
theorem parseOptions_map_trimChars (connection : Connection) (parts : List (List Char)) :
    parseOptions connection (parts.map Text.trimChars) = parseOptions connection parts := by
  induction parts generalizing connection with
  | nil => rfl
  | cons part rest induction =>
      rw [List.map_cons, parseOptions, parseOptions, Text.trimChars_trimChars, induction]
      simp only [induction]

theorem ofParts_map_trimChars (address : List Char) (options : List (List Char)) :
    ofParts (Text.trimChars address) (options.map Text.trimChars) = ofParts address options := by
  simp only [ofParts, Text.trimChars_trimChars, parseOptions_map_trimChars]

/-! ## Reading a connection string -/

/-- The ways to name a vendor in front of an address. It may be left out if two slashes follow the
first colon of the address. -/
inductive Names (address : List Char) : Vendor → List Char → Prop
  | tagged {vendor : Vendor} (tag : List Char)
      (letters : tag.map Char.toLower = vendor.name.toList) :
      Names address vendor (tag ++ ':' :: address)
  | bare {scheme rest : List Char} (first : ':' ∉ scheme)
      (slashes : address = scheme ++ ':' :: '/' :: '/' :: rest) : Names address .intel address

/-- The text with the given segments behind an address and the blanks around it. -/
def written (lead : Blanks) (address : List Char) (trail : Blanks) (segments : List Segment) :
    String :=
  String.ofList (Text.join ';'
    ((lead ++ address ++ trail) :: segments.map Segment.chars))

/-- What a vendor needs to be told must have been told. -/
def completed (vendor : Vendor) (url : Url) (segments : List Segment) :
    Except Connector.Error Connection :=
  if vendor = .vmware ∧ lastGiven segments .host = none then
    .error (.configuration .missingHost)
  else .ok ⟨vendor, url, lastGiven segments .host, lastGiven segments .username,
    lastGiven segments .password⟩

section

variable {vendor : Vendor} {url : Url} {address : List Char}

namespace Names

theorem splitVendor_eq (names : Names url.text.toList vendor address)
    (parsed : Url.parse? url.text = some url) :
    splitVendor address = .ok (vendor, url.text.toList) := by
  cases names with
  | tagged tag letters =>
      have unmarked : ':' ∉ tag := fun member =>
        absurd (Vendor.letter_of_mem_tag letters member).1 (by decide)
      have unslashed : ¬['/', '/'].isPrefixOf url.text.toList := by
        intro slashed
        rcases List.isPrefixOf_iff_prefix.mp slashed with ⟨rest, chars⟩
        exact Url.head?_ne_slash_of_parse? parsed (by rw [← chars]; rfl)
      rw [splitVendor, Text.cut?_append_cons unmarked]
      dsimp only
      rw [if_neg unslashed, Vendor.parse?_eq_some letters]
  | bare first slashes =>
      rw [splitVendor, slashes, Text.cut?_append_cons first]
      rfl

theorem not_mem_address (names : Names url.text.toList vendor address)
    (unbroken : ';' ∉ url.text.toList) : ';' ∉ address := by
  cases names with
  | tagged tag letters =>
      rw [List.mem_append, List.mem_cons, not_or, not_or]
      exact ⟨fun member => absurd (Vendor.letter_of_mem_tag letters member).1 (by decide),
        by decide, unbroken⟩
  | bare => exact unbroken

theorem trimChars_address (names : Names url.text.toList vendor address)
    (trimmed : Text.trimChars url.text.toList = url.text.toList) :
    Text.trimChars address = address := by
  cases names with
  | tagged tag letters =>
      have ends := ((Text.trimChars_eq_self_iff _).mp trimmed).2
      refine (Text.trimChars_eq_self_iff _).mpr ⟨fun c first => ?_, fun c last => ?_⟩
      · cases tag with
        | nil =>
            cases first
            decide
        | cons letter rest =>
            cases first
            have bounds := Vendor.letter_of_mem_tag letters List.mem_cons_self
            exact Text.not_isBlank_of_printed (by omega) (by omega)
      · rw [List.getLast?_append, List.getLast?_cons] at last
        cases final : url.text.toList.getLast? with
        | none =>
            rw [final] at last
            cases last
            decide
        | some other =>
            rw [final] at last
            cases last
            exact ends other final
  | bare => exact trimmed

end Names

theorem ofParts_segments (names : Names url.text.toList vendor address)
    (parsed : Url.parse? url.text = some url)
    (trimmed : Text.trimChars url.text.toList = url.text.toList) (segments : List Segment) :
    (ofParts address (segments.map Segment.chars)).mapError .configuration =
      completed vendor url segments := by
  rcases parseOptions_segments ⟨vendor, url, none, none, none⟩ segments with
    ⟨⟨_, _, host, username, password⟩, accepted, vendor_eq, url_eq, given_eq⟩
  cases vendor_eq
  cases url_eq
  have hostGiven := given_eq .host
  have usernameGiven := given_eq .username
  have passwordGiven := given_eq .password
  simp only [given, Option.or_none] at hostGiven usernameGiven passwordGiven
  simp only [ofParts, names.trimChars_address trimmed, names.splitVendor_eq parsed, bind,
    Except.bind, String.ofList_toList, parsed, accepted]
  rw [hostGiven, usernameGiven, passwordGiven, completed]
  split
  · rfl
  · rfl

/-- A connection string is read as what it was written for. -/
theorem parse_written (names : Names url.text.toList vendor address)
    (parsed : Url.parse? url.text = some url) (unbroken : ';' ∉ url.text.toList)
    (trimmed : Text.trimChars url.text.toList = url.text.toList) (lead trail : Blanks)
    (segments : List Segment) :
    parse (written lead address trail segments) = completed vendor url segments := by
  have unblank : ¬Text.isBlank ';' := by decide
  have whole : ∀ part ∈ (lead ++ address ++ trail) :: segments.map Segment.chars, ';' ∉ part := by
    rw [List.forall_mem_cons, List.forall_mem_map]
    refine ⟨?_, fun segment _ => segment.not_mem_chars⟩
    rw [List.mem_append, List.mem_append, not_or, not_or]
    exact ⟨⟨Text.not_mem_of_isBlank unblank lead.property, names.not_mem_address unbroken⟩,
      Text.not_mem_of_isBlank unblank trail.property⟩
  have parts := Text.map_trimChars_split_trimChars unblank
    (written lead address trail segments).toList
  rw [written, String.toList_ofList, Text.split_join (List.cons_ne_nil _ _) whole,
    List.map_cons, Text.trimChars_append_right trail.property,
    Text.trimChars_append_left lead.property] at parts
  rw [parse, written, String.toList_ofList]
  cases cut : Text.split ';' (Text.trimChars (Text.join ';'
      ((lead ++ address ++ trail) :: segments.map Segment.chars))) with
  | nil => exact absurd cut (Text.split_ne_nil _ _)
  | cons first rest =>
      rw [cut, List.map_cons, List.cons_eq_cons] at parts
      dsimp only
      rw [← ofParts_map_trimChars, parts.1, parts.2, ofParts_map_trimChars]
      exact ofParts_segments names parsed trimmed segments

end

def node : Url :=
  ⟨"nats", some ⟨"", "", .name "node-7", none⟩, false, .segments [], none, none⟩

def noBlanks : Blanks :=
  ⟨[], nofun⟩

def space : Blanks :=
  ⟨[' '], List.all_eq_true.mp (by decide)⟩

/-- A name that is given twice, and around it all that is to be left out. -/
def repeated : List Segment :=
  [.option ⟨.username, "u", "old", space, noBlanks, ⟨['\t'], List.all_eq_true.mp (by decide)⟩,
      by decide, by decide, by rintro _ ⟨⟩; decide⟩,
    .blank space,
    .option ⟨.username, "username", " a=b:c", noBlanks, space, space, by decide, by decide,
      by rintro _ ⟨⟩; decide⟩]

theorem parse_written_repeated :
    parse " InTeL:nats://node-7 ; u=old\t; ;username = a=b:c " =
      .ok ⟨.intel, node, none, some " a=b:c", none⟩ := by
  have tagged : Names node.text.toList .intel ("InTeL:nats://node-7".toList) :=
    .tagged ['I', 'n', 'T', 'e', 'L'] (by decide)
  have parsed : Url.parse? node.text = some node := by rfl
  have text : written space "InTeL:nats://node-7".toList space repeated =
      " InTeL:nats://node-7 ; u=old\t; ;username = a=b:c " := by decide
  rw [← text, parse_written tagged parsed (by decide) (by decide)]
  rfl

end Connection

end HostAttestation
