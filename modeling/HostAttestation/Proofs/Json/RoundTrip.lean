import HostAttestation.Json.Tagged
import HostAttestation.Proofs.Json.Fields
import Mathlib.Data.List.Nodup

/-! # Reading what was written

A record is written member by member, in the order of its description or with the members of
another record in between. Main statements: such a record is read exactly if every part of it fits
its reader, and then its value is the one that was written. -/

namespace HostAttestation

namespace Json

variable {ε κ α β : Type}

/-! ## Outcomes that are known -/

/-- The outcome is the value if that fits, and a fault otherwise. -/
def Returns (outcome : Except (Fault ε) α) (fits : Prop) (value : α) : Prop :=
  ∀ result, outcome = .ok result ↔ fits ∧ result = value

namespace Returns

variable {outcome : Except (Fault ε) α} {fits : Prop} {value : α}

theorem of_eq_ok (equal : outcome = .ok value) : Returns outcome True value := by
  intro result
  rw [equal, Except.ok.injEq, true_and, eq_comm]

theorem eq_ok_iff (returns : Returns outcome fits value) : outcome = .ok value ↔ fits := by
  rw [returns value]
  exact and_iff_left rfl

theorem eq_ok (returns : Returns outcome True value) : outcome = .ok value :=
  returns.eq_ok_iff.mpr trivial

theorem congr {other : Prop} (returns : Returns outcome fits value) (same : fits ↔ other) :
    Returns outcome other value := by
  intro result
  rw [returns result, same]

theorem map (returns : Returns outcome fits value) (transform : α → β) :
    Returns (outcome.map transform) fits (transform value) := by
  intro result
  rw [Outcome.map_eq_ok_iff]
  constructor
  · intro mapped
    rcases mapped with ⟨other, given, rfl⟩
    rcases (returns other).mp given with ⟨fit, rfl⟩
    exact ⟨fit, rfl⟩
  · intro expected
    rcases expected with ⟨fit, rfl⟩
    exact ⟨value, returns.eq_ok_iff.mpr fit, rfl⟩

end Returns

/-- What the text of a value is read back as. -/
def written (json : Json) : Document :=
  ⟨json.toSource, true⟩

theorem Returns.written {read : Reader ε α} {json : Json} {fits : Prop} {value : α}
    (returns : Returns (read json.toSource) fits value) :
    Returns (json.written.read read) fits value := by
  have whole : json.written.read read = read json.toSource := bind_pure _
  rw [whole]
  exact returns

/-! ## Sources that were never texts -/

mutual

theorem toJson?_toSource : ∀ json : Json, json.toSource.toJson? = some json
  | .null => rfl
  | .bool _ => rfl
  | .number _ => rfl
  | .string _ => rfl
  | .array items => by
      rw [toSource, Source.toJson?, itemsJson?_sourceItems items]
      rfl
  | .object members => by
      rw [toSource, Source.toJson?, membersJson?_sourceMembers members]
      rfl

theorem itemsJson?_sourceItems :
    ∀ items : List Json, Source.itemsJson? (sourceItems items) = some items
  | [] => rfl
  | item :: rest => by
      rw [sourceItems, Source.itemsJson?, toJson?_toSource item, itemsJson?_sourceItems rest]

theorem membersJson?_sourceMembers :
    ∀ members : List (String × Json), Source.membersJson? (sourceMembers members) = some members
  | [] => rfl
  | member :: rest => by
      rw [sourceMembers, Source.membersJson?, memberJson?_sourceMember member,
        membersJson?_sourceMembers rest]

theorem memberJson?_sourceMember :
    ∀ member : String × Json, Source.memberJson? (sourceMember member) = some member
  | (_, value) => by
      simp only [sourceMember, Source.memberJson?, toJson?_toSource value]

end

theorem isReadable_toSource (json : Json) : json.toSource.isReadable := by
  rw [Source.isReadable, toJson?_toSource]
  rfl

theorem sourceItems_eq (items : List Json) : sourceItems items = items.map toSource := by
  induction items with
  | nil => rfl
  | cons item rest induction => rw [sourceItems, induction, List.map_cons]

theorem sourceMembers_eq (members : List (String × Json)) :
    sourceMembers members = members.map sourceMember := by
  induction members with
  | nil => rfl
  | cons member rest induction => rw [sourceMembers, induction, List.map_cons]

theorem sourceMembers_append (left right : List (String × Json)) :
    sourceMembers (left ++ right) = sourceMembers left ++ sourceMembers right := by
  simp only [sourceMembers_eq, List.map_append]

/-! ## Values -/

/-- A number of so many bits beside its sign. -/
def IsSigned (bits : Nat) (value : Int) : Prop :=
  -capacity bits ≤ value ∧ value ≤ capacity bits - 1

namespace Reader

theorem returns_text (text : String) :
    Returns (Reader.text (ε := ε) (Json.string text).toSource) True text :=
  .of_eq_ok rfl

theorem returns_bool (value : Bool) :
    Returns (Reader.bool (ε := ε) (Json.bool value).toSource) True value :=
  .of_eq_ok rfl

theorem returns_integer (low high value : Int) :
    Returns (Reader.integer (ε := ε) low high (Json.int value).toSource)
      (low ≤ value ∧ value ≤ high) value := by
  intro result
  change (if low ≤ value ∧ value ≤ high then Except.ok value else _) = _ ↔ _
  split
  next fits => simp [fits, eq_comm]
  next unfit => simp [unfit]

theorem returns_signed (bits : Nat) (value : Int) :
    Returns (Reader.signed (ε := ε) bits (Json.int value).toSource) (IsSigned bits value) value :=
  returns_integer _ _ value

theorem returns_natural (bits value : Nat) :
    Returns (Reader.natural (ε := ε) bits (Json.nat value).toSource) (value < capacity bits)
      value :=
  ((returns_integer 0 (capacity bits - 1) value).map Int.toNat).congr (by omega)

theorem returns_encoded {decode? : String → Option α} {text : String} {value : α}
    (decoded : decode? text = some value) :
    Returns (Reader.encoded (ε := ε) decode? (Json.string text).toSource) True value := by
  apply Returns.of_eq_ok
  rw [toSource, encoded, decoded]

theorem returns_checked {read : Reader ε α} {source : Source} {fits : Prop} {value : α}
    (returns : Returns (read source) fits value) {check : α → Except ε β} {result : β}
    (met : check value = .ok result) : Returns (checked read check source) fits result := by
  intro other
  rw [checked_eq_ok_iff]
  constructor
  · intro accepted
    rcases accepted with ⟨given, givenRead, givenMet⟩
    rcases (returns given).mp givenRead with ⟨fit, rfl⟩
    exact ⟨fit, Except.ok.inj (givenMet.symm.trans met)⟩
  · intro expected
    rcases expected with ⟨fit, rfl⟩
    exact ⟨value, returns.eq_ok_iff.mpr fit, met⟩

theorem returns_nullable {read : Reader ε α} {json : Json} {fits : Prop} {value : α}
    (returns : Returns (read json.toSource) fits value) (given : json ≠ .null) :
    Returns (nullable read json.toSource) fits (some value) := by
  have mapped : nullable read json.toSource = (read json.toSource).map some := by
    cases json with
    | null => exact absurd rfl given
    | _ => rfl
  rw [mapped]
  exact returns.map some

theorem returns_items {read : Reader ε α} {write : α → Json} {fits : α → Prop}
    (values : List α)
    (returns : ∀ value ∈ values, Returns (read (write value).toSource) (fits value) value) :
    Returns (items read (values.map fun value => (write value).toSource))
      (∀ value ∈ values, fits value) values := by
  induction values with
  | nil => exact (Returns.of_eq_ok rfl).congr (by simp)
  | cons value rest induction =>
      have headed := List.forall_mem_cons.mp returns
      intro result
      rw [List.map_cons, items, Outcome.bind_eq_ok_iff, List.forall_mem_cons]
      constructor
      · intro accepted
        rcases accepted with ⟨first, firstRead, accepted⟩
        rcases Outcome.bind_eq_ok_iff.mp accepted with ⟨others, othersRead, accepted⟩
        cases accepted
        rcases (headed.1 first).mp firstRead with ⟨firstFits, rfl⟩
        rcases (induction headed.2 others).mp othersRead with ⟨othersFit, rfl⟩
        exact ⟨⟨firstFits, othersFit⟩, rfl⟩
      · intro expected
        rcases expected with ⟨⟨firstFits, othersFit⟩, rfl⟩
        exact ⟨value, headed.1.eq_ok_iff.mpr firstFits, Outcome.bind_eq_ok_iff.mpr
          ⟨rest, (induction headed.2).eq_ok_iff.mpr othersFit, rfl⟩⟩

theorem returns_list {read : Reader ε α} {write : α → Json} {fits : α → Prop}
    (values : List α)
    (returns : ∀ value ∈ values, Returns (read (write value).toSource) (fits value) value) :
    Returns (list read (Json.array (values.map write)).toSource)
      (∀ value ∈ values, fits value) values := by
  have written : list read (Json.array (values.map write)).toSource =
      items read (values.map fun value => (write value).toSource) := by
    rw [toSource, sourceItems_eq, List.map_map, list]
    exact bind_pure _
  rw [written]
  exact returns_items values returns

theorem returns_texts (values : List String) :
    Returns (list (ε := ε) text (Json.texts values).toSource) True values :=
  (returns_list values fun value _ => returns_text value).congr (by simp)

end Reader

/-! ## Parts of a record -/

namespace Fields

theorem ofMembers_eq_ok_iff {fields : Fields ε α} {members : List (Option String × Source)}
    {value : α} : fields.ofMembers members true = .ok value ↔
      ∃ slots, fields.fillAll members fields.empty = .ok slots ∧ fields.finish slots = .ok value :=
  Outcome.bind_eq_ok_iff

/-- What was read for both parts so far. -/
def bothSlots (functions : Fields ε (α → β)) (arguments : Fields ε α) (left : functions.Slots)
    (right : arguments.Slots) : (functions.apply arguments).Slots :=
  (left, right)

theorem fill_apply (functions : Fields ε (α → β)) (arguments : Fields ε α)
    (left : functions.Slots) (right : arguments.Slots) (key : String) (source : Source) :
    (functions.apply arguments).fill (bothSlots functions arguments left right) key source =
      match functions.fill left key source with
      | some filled => some (filled.map fun left => bothSlots functions arguments left right)
      | none => (arguments.fill right key source).map fun filled =>
          filled.map fun right => bothSlots functions arguments left right :=
  rfl

/-- Members that the first part knows are taken by it. -/
theorem fillAll_apply_left {functions : Fields ε (α → β)} (arguments : Fields ε α)
    {members : List (String × Json)} (known : ∀ member ∈ members, ∀ slots source,
      (functions.fill slots member.1 source).isSome)
    (others : List (Option String × Source)) (left : functions.Slots) (right : arguments.Slots) :
    (functions.apply arguments).fillAll (sourceMembers members ++ others)
        (bothSlots functions arguments left right) =
      functions.fillAll (sourceMembers members) left >>= fun left =>
        (functions.apply arguments).fillAll others (bothSlots functions arguments left right) := by
  induction members generalizing left with
  | nil => rfl
  | cons member rest induction =>
      rcases member with ⟨key, json⟩
      have headed := List.forall_mem_cons.mp known
      rcases Option.isSome_iff_exists.mp (headed.1 left json.toSource) with ⟨outcome, taken⟩
      rw [sourceMembers, sourceMember, List.cons_append, fillAll, fill_apply, fillAll, taken]
      cases outcome with
      | error fault => rfl
      | ok filled => exact induction headed.2 filled

/-- Members that the first part does not know are left to the second one. -/
theorem fillAll_apply_right {functions : Fields ε (α → β)} (arguments : Fields ε α)
    {members : List (String × Json)} (unknown : ∀ member ∈ members, ∀ slots source,
      functions.fill slots member.1 source = none)
    (left : functions.Slots) (right : arguments.Slots) :
    (functions.apply arguments).fillAll (sourceMembers members)
        (bothSlots functions arguments left right) =
      (arguments.fillAll (sourceMembers members) right).map fun right =>
        bothSlots functions arguments left right := by
  induction members generalizing right with
  | nil => rfl
  | cons member rest induction =>
      rcases member with ⟨key, json⟩
      have headed := List.forall_mem_cons.mp unknown
      rw [sourceMembers, sourceMember, fillAll, fill_apply, headed.1 left json.toSource, fillAll]
      cases arguments.fill right key json.toSource with
      | none =>
          change (do Reader.skip json.toSource; _) = Except.map _ (do Reader.skip json.toSource; _)
          cases Reader.skip (ε := ε) json.toSource with
          | error fault => rfl
          | ok => exact induction headed.2 right
      | some outcome =>
          cases outcome with
          | error fault => rfl
          | ok filled => exact induction headed.2 filled

/-- Two parts with different keys are filled independently of each other. -/
theorem ofMembers_apply_eq_ok_iff {functions : Fields ε (α → β)} {arguments : Fields ε α}
    {leftMembers rightMembers : List (String × Json)}
    (known : ∀ member ∈ leftMembers, ∀ slots source,
      (functions.fill slots member.1 source).isSome)
    (unknown : ∀ member ∈ rightMembers, ∀ slots source,
      functions.fill slots member.1 source = none) {result : β} :
    (functions.apply arguments).ofMembers (sourceMembers (leftMembers ++ rightMembers)) true =
        .ok result ↔
      ∃ function argument, functions.ofMembers (sourceMembers leftMembers) true = .ok function ∧
        arguments.ofMembers (sourceMembers rightMembers) true = .ok argument ∧
        result = function argument := by
  simp only [ofMembers_eq_ok_iff]
  change (∃ slots, (functions.apply arguments).fillAll _
    (bothSlots functions arguments functions.empty arguments.empty) = _ ∧ _) ↔ _
  simp only [sourceMembers_append, fillAll_apply_left arguments known,
    fillAll_apply_right arguments unknown, Outcome.bind_eq_ok_iff, Outcome.map_eq_ok_iff]
  constructor
  · intro accepted
    rcases accepted with ⟨_, ⟨left, leftFilled, right, rightFilled, rfl⟩, finished⟩
    rcases Outcome.bind_eq_ok_iff.mp finished with ⟨function, leftFinished, finished⟩
    rcases Outcome.bind_eq_ok_iff.mp finished with ⟨argument, rightFinished, finished⟩
    cases finished
    exact ⟨function, argument, ⟨left, leftFilled, leftFinished⟩,
      ⟨right, rightFilled, rightFinished⟩, rfl⟩
  · intro parts
    rcases parts with ⟨function, argument, ⟨left, leftFilled, leftFinished⟩,
      ⟨right, rightFilled, rightFinished⟩, rfl⟩
    exact ⟨_, ⟨left, leftFilled, right, rightFilled, rfl⟩, Outcome.bind_eq_ok_iff.mpr
      ⟨function, leftFinished, Outcome.bind_eq_ok_iff.mpr ⟨argument, rightFinished, rfl⟩⟩⟩

/-- The fields are those with the given keys, and what is written for a value under these keys
returns it. -/
structure Restores (fields : Fields ε α) (keys : List String) (members : List (String × Json))
    (fits : Prop) (value : α) : Prop where
  knows : ∀ key slots source, (fields.fill slots key source).isSome ↔ key ∈ keys
  listed : ∀ member ∈ members, member.1 ∈ keys
  returned : keys.Nodup → Returns (fields.ofMembers (sourceMembers members) true) fits value

namespace Restores

variable {fields : Fields ε α} {keys : List String} {members : List (String × Json)}
  {fits : Prop} {value : α}

theorem congr {other : Prop} (restores : Restores fields keys members fits value)
    (same : fits ↔ other) : Restores fields keys members other value :=
  ⟨restores.knows, restores.listed, fun distinct => (restores.returned distinct).congr same⟩

theorem of_eq {others : List (String × Json)} (same : others = members)
    (restores : Restores fields keys members fits value) :
    Restores fields keys others fits value :=
  same ▸ restores

theorem constant (value : α) : Restores (Fields.constant (ε := ε) value) [] [] True value :=
  ⟨by simp [Fields.constant], nofun, fun _ => .of_eq_ok rfl⟩

/-- No member of one part is known to the other. -/
theorem seq {functions : Fields ε (α → β)} {functionKeys : List String}
    {functionMembers : List (String × Json)} {functionFits : Prop} {function : α → β}
    (left : Restores functions functionKeys functionMembers functionFits function)
    (right : Restores fields keys members fits value) :
    Restores (functions <*> fields) (functionKeys ++ keys) (functionMembers ++ members)
      (functionFits ∧ fits) (function value) := by
  refine ⟨?_, ?_, ?_⟩
  · intro key slots source
    rcases slots with ⟨first, second⟩
    rw [List.mem_append, ← left.knows key first source, ← right.knows key second source]
    change ((functions.apply fields).fill (bothSlots functions fields first second) _ _).isSome ↔ _
    rw [fill_apply]
    cases functions.fill first key source with
    | none => simp
    | some outcome => simp
  · intro member listed
    rcases List.mem_append.mp listed with first | second
    · exact List.mem_append_left _ (left.listed member first)
    · exact List.mem_append_right _ (right.listed member second)
  · intro distinct result
    have known : ∀ member ∈ functionMembers, ∀ slots source,
        (functions.fill slots member.1 source).isSome := fun member listed slots source =>
      (left.knows member.1 slots source).mpr (left.listed member listed)
    have unknown : ∀ member ∈ members, ∀ slots source,
        functions.fill slots member.1 source = none := by
      intro member listed slots source
      have absent := (left.knows member.1 slots source).not.mpr fun first =>
        (List.disjoint_of_nodup_append distinct) first (right.listed member listed)
      simpa using absent
    have leftReturned := left.returned distinct.of_append_left
    have rightReturned := right.returned distinct.of_append_right
    refine (ofMembers_apply_eq_ok_iff known unknown).trans ⟨?_, ?_⟩
    · intro parts
      rcases parts with ⟨_, _, leftRead, rightRead, rfl⟩
      rcases (leftReturned _).mp leftRead with ⟨leftFits, rfl⟩
      rcases (rightReturned _).mp rightRead with ⟨rightFits, rfl⟩
      exact ⟨⟨leftFits, rightFits⟩, rfl⟩
    · intro expected
      rcases expected with ⟨⟨leftFits, rightFits⟩, rfl⟩
      exact ⟨function, value, leftReturned.eq_ok_iff.mpr leftFits,
        rightReturned.eq_ok_iff.mpr rightFits, rfl⟩

theorem map (restores : Restores fields keys members fits value) (transform : α → β) :
    Restores (transform <$> fields) keys members fits (transform value) :=
  ((constant transform).seq restores).congr (by simp)

/-! ### Members -/

theorem isSome_fill_member (keys : List String) (read : Reader ε α)
    (absent : Except (Fault ε) α) (key : String) (slot : Option α) (source : Source) :
    ((Fields.member keys read absent).fill slot key source).isSome ↔ key ∈ keys := by
  by_cases named : key ∈ keys
  · simp [Fields.member, named]
  · simp [Fields.member, named]

/-- A member that is written. -/
theorem member {key : String} (named : key ∈ keys) {read : Reader ε α} {json : Json}
    (returns : Returns (read json.toSource) fits value) (absent : Except (Fault ε) α) :
    Restores (Fields.member keys read absent) keys [(key, json)] fits value := by
  refine ⟨isSome_fill_member keys read absent, by simpa using named, fun _ => ?_⟩
  have taken : (Fields.member keys read absent).ofMembers (sourceMembers [(key, json)]) true =
      read json.toSource := by
    simp only [ofMembers, sourceMembers, sourceMember, fillAll, Fields.member, if_pos named]
    cases read json.toSource <;> rfl
  rw [taken]
  exact returns

/-- A member that is left out. -/
theorem absent (keys : List String) (read : Reader ε α) (default : α) :
    Restores (Fields.member keys read (.ok default)) keys [] True default :=
  ⟨isSome_fill_member keys read (.ok default), nofun, fun _ => .of_eq_ok rfl⟩

theorem required (key : String) {read : Reader ε α} {json : Json}
    (returns : Returns (read json.toSource) fits value) :
    Restores (Fields.required key read) [key] [(key, json)] fits value :=
  member (List.mem_singleton_self key) returns _

theorem defaulted (key : String) {read : Reader ε α} {json : Json}
    (returns : Returns (read json.toSource) fits value) (default : α) :
    Restores (Fields.defaulted key read default) [key] [(key, json)] fits value :=
  member (List.mem_singleton_self key) returns _

theorem optional (key : String) {read : Reader ε α} {write : α → Json}
    (returns : ∀ value, Returns (read (write value).toSource) True value)
    (given : ∀ value, write value ≠ .null) (value? : Option α) :
    Restores (Fields.optional key read) [key] (Json.optional key write value?) True value? := by
  cases value? with
  | none => exact absent [key] _ none
  | some value =>
      exact member (List.mem_singleton_self key)
        (Reader.returns_nullable (returns value) (given value)) _

theorem unlessEmpty (key : String) {read : Reader ε (List α)} {write : List α → Json}
    (returns : ∀ items, Returns (read (write items).toSource) True items) (items : List α) :
    Restores (Fields.defaulted key read []) [key] (Json.unlessEmpty key write items) True
      items := by
  cases items with
  | nil => exact absent [key] read []
  | cons first rest => exact defaulted key (returns (first :: rest)) []

/-! ### Whole records -/

theorem read (restores : Restores fields keys members fits value) (distinct : keys.Nodup) :
    Returns (fields.read (Json.object members).toSource) fits value :=
  restores.returned distinct

/-- What the fields do not know is kept for the other part. -/
theorem fillKnown_eq (restores : Restores fields keys members fits value)
    (written : List (String × Json)) (slots : fields.Slots) :
    fields.fillKnown (sourceMembers written) slots =
      (fields.fillAll (sourceMembers (written.filter fun member => member.1 ∈ keys)) slots).map
        fun slots => (slots, sourceMembers (written.filter fun member => member.1 ∉ keys)) := by
  induction written generalizing slots with
  | nil => rfl
  | cons member rest induction =>
      rcases member with ⟨key, json⟩
      rw [sourceMembers, sourceMember, fillKnown]
      by_cases named : key ∈ keys
      · rcases Option.isSome_iff_exists.mp ((restores.knows key slots json.toSource).mpr named) with
          ⟨outcome, taken⟩
        rw [List.filter_cons_of_neg (by simpa using named),
          List.filter_cons_of_pos (by simpa using named), sourceMembers, sourceMember, fillAll,
          taken]
        cases outcome with
        | error fault => rfl
        | ok filled => exact induction filled
      · have unknown := (restores.knows key slots json.toSource).not.mpr named
        rw [Option.not_isSome_iff_eq_none] at unknown
        rw [List.filter_cons_of_pos (by simpa using named),
          List.filter_cons_of_neg (by simpa using named), unknown, sourceMembers, sourceMember]
        change (if _ then _ else _) = _
        rw [if_pos (isReadable_toSource json), induction]
        cases fields.fillAll (sourceMembers _) slots <;> rfl

/-- The members of the other part may stand on both sides of the own ones. -/
theorem readWith {function : β → α} {functions : Fields ε (β → α)}
    (restores : Restores functions keys members fits function) (distinct : keys.Nodup)
    {before after : List (String × Json)} (unknown : ∀ member ∈ before ++ after, member.1 ∉ keys)
    {others : List (Option String × Source) → Except (Fault ε) β} {otherFits : Prop} {value : β}
    (returns : Returns (others (sourceMembers (before ++ after))) otherFits value) :
    Returns (functions.readWith others (Json.object (before ++ members ++ after)).toSource)
      (fits ∧ otherFits) (function value) := by
  have headed := List.forall_mem_append.mp unknown
  have own : (before ++ members ++ after).filter (fun member => member.1 ∈ keys) = members := by
    rw [List.filter_append, List.filter_append,
      List.filter_eq_nil_iff.mpr (by simpa using headed.1),
      List.filter_eq_self.mpr (by simpa using restores.listed),
      List.filter_eq_nil_iff.mpr (by simpa using headed.2), List.nil_append, List.append_nil]
  have rest : (before ++ members ++ after).filter (fun member => member.1 ∉ keys) =
      before ++ after := by
    rw [List.filter_append, List.filter_append,
      List.filter_eq_self.mpr (by simpa using headed.1),
      List.filter_eq_nil_iff.mpr (by simpa using restores.listed),
      List.filter_eq_self.mpr (by simpa using headed.2), List.append_nil]
  have returned := restores.returned distinct
  intro result
  change (do
    let slots ← functions.fillKnown (sourceMembers (before ++ members ++ after)) functions.empty
    let function ← functions.finish slots.1
    function <$> others slots.2) = _ ↔ _
  rw [restores.fillKnown_eq, own, rest, Outcome.bind_eq_ok_iff]
  constructor
  · intro accepted
    rcases accepted with ⟨_, kept, accepted⟩
    rcases Outcome.map_eq_ok_iff.mp kept with ⟨slots, filled, rfl⟩
    rcases Outcome.bind_eq_ok_iff.mp accepted with ⟨_, finished, accepted⟩
    rcases Outcome.map_eq_ok_iff.mp accepted with ⟨_, otherRead, rfl⟩
    rcases (returned _).mp (ofMembers_eq_ok_iff.mpr ⟨slots, filled, finished⟩) with ⟨fit, rfl⟩
    rcases (returns _).mp otherRead with ⟨otherFit, rfl⟩
    exact ⟨⟨fit, otherFit⟩, rfl⟩
  · intro expected
    rcases expected with ⟨⟨fit, otherFit⟩, rfl⟩
    rcases ofMembers_eq_ok_iff.mp (returned.eq_ok_iff.mpr fit) with ⟨slots, filled, finished⟩
    refine ⟨_, Outcome.map_eq_ok_iff.mpr ⟨slots, filled, rfl⟩, ?_⟩
    exact Outcome.bind_eq_ok_iff.mpr ⟨function, finished,
      Outcome.map_eq_ok_iff.mpr ⟨value, returns.eq_ok_iff.mpr otherFit, rfl⟩⟩

end Restores

end Fields

/-! ## Records of several kinds -/

namespace Tagged

/-- What is written for a value is the word that names its kind, and then the members of the
kind. -/
inductive Restores (tagged : Tagged ε κ α) (keys : List String) :
    List (String × Json) → Prop → α → Prop
  | intro {name : String} {kind : κ} {own : List (String × Json)} {fits : Prop} {value : α}
      (named : tagged.ofName name = some kind)
      (restores : Fields.Restores (tagged.fields kind) keys own fits value)
      (distinct : (tagged.key :: keys).Nodup) :
      Restores tagged keys ((tagged.key, .string name) :: own) fits value

namespace Restores

variable {tagged : Tagged ε κ α} {keys : List String} {members : List (String × Json)}
  {fits : Prop} {value : α}

theorem listed (written : tagged.Restores keys members fits value) :
    ∀ member ∈ members, member.1 ∈ tagged.key :: keys := by
  cases written with
  | intro _ restores _ =>
      rw [List.forall_mem_cons]
      exact ⟨List.mem_cons_self, fun member own =>
        List.mem_cons_of_mem _ (restores.listed member own)⟩

theorem ofMembers (kindOf : Source → Option κ)
    (byName : ∀ name, kindOf (.string name) = tagged.ofName name)
    (written : tagged.Restores keys members fits value) :
    Returns (tagged.ofMembers kindOf (sourceMembers members)) fits value := by
  cases written with
  | @intro name kind own _ _ named restores distinct =>
      have apart := List.nodup_cons.mp distinct
      have others : ∀ member ∈ sourceMembers own,
          member.1 ≠ some tagged.key ∧ member.1.isSome ∧ member.2.isReadable := by
        rw [sourceMembers_eq, List.forall_mem_map]
        intro member listed
        rcases member with ⟨key, json⟩
        exact ⟨fun same => apart.1 (Option.some.inj same ▸ restores.listed _ listed), rfl,
          isReadable_toSource json⟩
      have tags : (sourceMembers ((tagged.key, .string name) :: own)).filter
          (fun member => member.1 = some tagged.key) = [(some tagged.key, .string name)] := by
        rw [sourceMembers, sourceMember, List.filter_cons_of_pos (by simp),
          List.filter_eq_nil_iff.mpr]
        · rfl
        · intro member listed
          simpa using (others member listed).1
      have rest : (sourceMembers ((tagged.key, .string name) :: own)).filter
          (fun member => member.1 ≠ some tagged.key) = sourceMembers own := by
        rw [sourceMembers, sourceMember, List.filter_cons_of_neg (by simp), List.filter_eq_self]
        intro member listed
        simpa using (others member listed).1
      have readable : (sourceMembers own).all
          (fun member => member.1.isSome && member.2.isReadable) := by
        rw [List.all_eq_true]
        intro member listed
        rw [(others member listed).2.1, (others member listed).2.2]
        rfl
      have same : tagged.ofMembers kindOf (sourceMembers ((tagged.key, .string name) :: own)) =
          (tagged.fields kind).ofMembers (sourceMembers own) true := by
        simp only [Tagged.ofMembers, tags, byName, named, rest]
        exact if_pos readable
      rw [same]
      exact restores.returned apart.2

theorem read (written : tagged.Restores keys members fits value) :
    Returns (tagged.read (Json.object members).toSource) fits value :=
  written.ofMembers tagged.ofWord fun _ => rfl

theorem readInside (written : tagged.Restores keys members fits value) :
    Returns (tagged.readInside (sourceMembers members)) fits value :=
  written.ofMembers tagged.ofWordOrPosition fun _ => rfl

end Restores

end Tagged

end Json

end HostAttestation
