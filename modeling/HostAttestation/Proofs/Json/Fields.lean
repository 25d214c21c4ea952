import HostAttestation.Json.Fields
import HostAttestation.Proofs.Outcome

/-! # What is read

A value with a condition is what was read before the condition, if it is met. A record of two
members shows where each of them stands, whichever of its written forms it has. Main statements:
such a record that is read has its parts, and if it has them, reading it means reading the parts. -/

namespace HostAttestation

namespace Json

variable {ε α β γ : Type}

/-! ## Conditions -/

theorem Reader.checked_of_read {read : Reader ε α} {source : Source} {value : α}
    (given : read source = .ok value) (check : α → Except ε β) :
    checked read check source = (check value).mapError .refused := by
  cases met : check value with
  | error reason => simp [checked, given, met, bind, Except.bind, Except.mapError]
  | ok result =>
      simp [checked, given, met, bind, Except.bind, Except.mapError, pure, Except.pure]

theorem Reader.checked_eq_ok_iff {read : Reader ε α} {check : α → Except ε β} {source : Source}
    {result : β} : checked read check source = .ok result ↔
      ∃ value, read source = .ok value ∧ check value = .ok result := by
  constructor
  · intro accepted
    rcases Outcome.bind_eq_ok_iff.mp accepted with ⟨value, given, _⟩
    rw [checked_of_read given, Outcome.mapError_eq_ok_iff] at accepted
    exact ⟨value, given, accepted⟩
  · intro accepted
    rcases accepted with ⟨value, given, met⟩
    rw [checked_of_read given, met]
    rfl

theorem Reader.checked_map (read : Reader ε α) {check : α → Except ε β} {other : α → Except ε γ}
    (transform : β → γ) (same : ∀ value, other value = (check value).map transform)
    (source : Source) : checked read other source = (checked read check source).map transform := by
  cases given : read source with
  | error fault => simp [checked, given, bind, Except.bind, Except.map]
  | ok value =>
      rw [checked_of_read given, checked_of_read given, same]
      cases check value <;> rfl

theorem Document.read_map {read : Reader ε α} {other : Reader ε β} {transform : α → β}
    (same : ∀ source, other source = (read source).map transform) (document : Document) :
    document.read other = (document.read read).map transform := by
  rw [Document.read, Document.read, same]
  cases read document.root with
  | error fault => rfl
  | ok value =>
      cases ended : document.ended <;> simp [bind, Except.bind, Except.map, pure, Except.pure]

theorem Document.read_root_of_read {read : Reader ε α} {document : Document} {value : α}
    (accepted : document.read read = .ok value) : read document.root = .ok value := by
  rcases Outcome.bind_eq_ok_iff.mp accepted with ⟨result, given, ended⟩
  split at ended
  · cases ended
    exact given
  · cases ended

theorem Document.read_of_ok {read : Reader ε α} {document : Document} {value : α}
    (given : read document.root = .ok value) (ended : document.ended) :
    document.read read = .ok value := by
  rw [Document.read, given]
  exact if_pos ended

theorem Document.read_of_error {read : Reader ε α} {document : Document} {fault : Fault ε}
    (refused : read document.root = .error fault) : document.read read = .error fault := by
  rw [Document.read, refused]
  rfl

/-! ## Records of two members -/

/-- What stands under a key of an object. -/
def under (key : String) (members : List (Option String × Source)) : List Source :=
  (members.filter fun member => member.1 = some key).map Prod.snd

theorem under_cons (key other : String) (source : Source)
    (members : List (Option String × Source)) :
    under key ((some other, source) :: members) =
      if other = key then source :: under key members else under key members := by
  by_cases named : other = key
  · simp [under, named]
  · simp [under, named]

/-- An object or an array that holds one value for the first member and at most one for the
second. -/
inductive Parts (first second : String) : Source → Source → Option Source → Prop
  | object {members : List (Option String × Source)} {left : Source} {right? : Option Source}
      (named : ∀ member ∈ members, member.1.isSome)
      (others : ∀ member ∈ members, member.1 ≠ some first → member.1 ≠ some second →
        member.2.isWellFormed)
      (left_eq : under first members = [left]) (right_eq : under second members = right?.toList) :
      Parts first second (.object members true) left right?
  | array (left : Source) (right? : Option Source) :
      Parts first second (.array (left :: right?.toList) true) left right?

namespace Reader

/-- Takes a value into a slot that must still be empty. -/
def settle (read : Reader ε α) (slot : Option α) (source : Source) :
    Except (Fault ε) (Option α) :=
  match slot with
  | some _ => .error .malformed
  | none => (read source).map some

/-- A value that need not be given. -/
def given (read : Reader ε α) (default : α) : Option Source → Except (Fault ε) α
  | some source => read source
  | none => .ok default

/-- Every value after the first one is refused. -/
theorem foldlM_settle_eq_ok_iff (read : Reader ε α) (sources : List Source) (slot : Option α) :
    sources.foldlM (settle read) none = .ok slot ↔
      ∃ source? : Option Source, sources = source?.toList ∧
        given (fun source => (read source).map some) none source? = .ok slot := by
  constructor
  · intro settled
    cases sources with
    | nil => exact ⟨none, rfl, settled⟩
    | cons source rest =>
        rw [List.foldlM_cons] at settled
        rcases Outcome.bind_eq_ok_iff.mp settled with ⟨filled, taken, remaining⟩
        rcases Outcome.map_eq_ok_iff.mp taken with ⟨value, _, rfl⟩
        cases rest with
        | nil =>
            cases remaining
            exact ⟨some source, rfl, taken⟩
        | cons other rest => cases remaining
  · intro single
    rcases single with ⟨source?, rfl, settled⟩
    cases source? with
    | none => exact settled
    | some source =>
        rw [Option.toList_some, List.foldlM_cons]
        exact Outcome.bind_eq_ok_iff.mpr ⟨slot, settled, rfl⟩

end Reader

namespace Fields

def pair (first second : String) (read : Reader ε α) (next : Reader ε β) (default : β) :
    Fields ε (α × β) :=
  Prod.mk <$> .required first read <*> .defaulted second next default

variable {first second : String} {read : Reader ε α} {next : Reader ε β} {default : β}

/-! ### Objects -/

/-- What was read for the two members so far. -/
def slots (first second : String) (read : Reader ε α) (next : Reader ε β) (default : β)
    (left : Option α) (right : Option β) : (pair first second read next default).Slots :=
  (((), left), right)

theorem fill_pair (left : Option α) (right : Option β) (key : String) (source : Source) :
    (pair first second read next default).fill (slots _ _ _ _ _ left right) key source =
      if key = first then
        some ((read.settle left source).map fun left => slots _ _ _ _ _ left right)
      else if key = second then
        some ((next.settle right source).map fun right => slots _ _ _ _ _ left right)
      else none := by
  by_cases isFirst : key = first
  · rw [if_pos isFirst]
    simp only [pair, required, defaulted, Functor.map, Seq.seq, constant, apply, member,
      List.mem_singleton, if_pos isFirst, Option.map_some]
    change some (Except.map _ (Except.map _ (read.settle left source))) = _
    cases read.settle left source <;> rfl
  · rw [if_neg isFirst]
    simp only [pair, required, defaulted, Functor.map, Seq.seq, constant, apply, member,
      List.mem_singleton, if_neg isFirst, Option.map_none]
    by_cases isSecond : key = second
    · rw [if_pos isSecond, if_pos isSecond]
      rfl
    · rw [if_neg isSecond, if_neg isSecond]
      rfl

variable (first second read next default) in
theorem finish_pair (left : Option α) (right : Option β) :
    (pair first second read next default).finish (slots _ _ _ _ _ left right) =
      match left with
      | some value => .ok (value, right.getD default)
      | none => .error .malformed := by
  cases left with
  | none => rfl
  | some value => cases right <;> rfl

/-- What remains to be read of an object whose members are named and whose first member is in
order. -/
theorem fillAll_pair (distinct : first ≠ second) {members : List (Option String × Source)}
    (named : ∀ member ∈ members, member.1.isSome)
    (others : ∀ member ∈ members, member.1 ≠ some first → member.1 ≠ some second →
      member.2.isWellFormed)
    {left filledLeft : Option α} (right : Option β)
    (settled : (under first members).foldlM read.settle left = .ok filledLeft) :
    (pair first second read next default).fillAll members (slots _ _ _ _ _ left right) =
      ((under second members).foldlM next.settle right).map fun right =>
        slots _ _ _ _ _ filledLeft right := by
  -- the key of the next member tells which of the two slots it goes to, or that it is passed over
  induction members generalizing left right with
  | nil =>
      cases settled
      rfl
  | cons member rest induction =>
      rcases member with ⟨key?, source⟩
      have headNamed := List.forall_mem_cons.mp named
      have headOther := List.forall_mem_cons.mp others
      rcases Option.isSome_iff_exists.mp headNamed.1 with ⟨key, rfl⟩
      rw [under_cons] at settled
      rw [fillAll, fill_pair, under_cons]
      by_cases isFirst : key = first
      · rw [if_pos isFirst, List.foldlM_cons] at settled
        rcases Outcome.bind_eq_ok_iff.mp settled with ⟨filled, taken, remaining⟩
        rw [if_pos isFirst, taken, if_neg fun isSecond => distinct (isFirst.symm.trans isSecond)]
        exact induction headNamed.2 headOther.2 right remaining
      · rw [if_neg isFirst] at settled
        rw [if_neg isFirst]
        by_cases isSecond : key = second
        · rw [if_pos isSecond, if_pos isSecond, List.foldlM_cons]
          cases next.settle right source with
          | error fault => rfl
          | ok filled => exact induction headNamed.2 headOther.2 filled settled
        · have skipped := headOther.1 (by simpa using isFirst) (by simpa using isSecond)
          rw [if_neg isSecond, if_neg isSecond]
          change (do Reader.skip source; _) = _
          rw [Reader.skip, if_pos skipped]
          exact induction headNamed.2 headOther.2 right settled

theorem of_fillAll_pair (distinct : first ≠ second) {members : List (Option String × Source)}
    {left : Option α} {right : Option β}
    {filled : (pair first second read next default).Slots}
    (done : (pair first second read next default).fillAll members (slots _ _ _ _ _ left right) =
      .ok filled) :
    (∀ member ∈ members, member.1.isSome) ∧
      (∀ member ∈ members, member.1 ≠ some first → member.1 ≠ some second →
        member.2.isWellFormed) ∧
      ∃ filledLeft filledRight, filled = slots _ _ _ _ _ filledLeft filledRight ∧
        (under first members).foldlM read.settle left = .ok filledLeft ∧
        (under second members).foldlM next.settle right = .ok filledRight := by
  induction members generalizing left right with
  | nil =>
      cases done
      exact ⟨nofun, nofun, left, right, rfl, rfl, rfl⟩
  | cons member rest induction =>
      rcases member with ⟨key?, source⟩
      cases key? with
      | none => cases done
      | some key =>
          rw [fillAll, fill_pair] at done
          rw [under_cons, under_cons, List.forall_mem_cons, List.forall_mem_cons]
          by_cases isFirst : key = first
          · rw [if_pos isFirst] at done
            rcases Outcome.bind_eq_ok_iff.mp done with ⟨between, taken, remaining⟩
            rcases Outcome.map_eq_ok_iff.mp taken with ⟨between, settled, rfl⟩
            rcases induction remaining with ⟨named, others, last, right, rfl, lefts, rights⟩
            rw [if_pos isFirst, if_neg fun isSecond => distinct (isFirst.symm.trans isSecond),
              List.foldlM_cons, settled]
            exact ⟨⟨rfl, named⟩, ⟨fun other => absurd (congrArg some isFirst) other, others⟩,
              last, right, rfl, lefts, rights⟩
          · rw [if_neg isFirst] at done
            rw [if_neg isFirst]
            by_cases isSecond : key = second
            · rw [if_pos isSecond] at done
              rcases Outcome.bind_eq_ok_iff.mp done with ⟨between, taken, remaining⟩
              rcases Outcome.map_eq_ok_iff.mp taken with ⟨between, settled, rfl⟩
              rcases induction remaining with ⟨named, others, left, last, rfl, lefts, rights⟩
              rw [if_pos isSecond, List.foldlM_cons, settled]
              exact ⟨⟨rfl, named⟩,
                ⟨fun _ other => absurd (congrArg some isSecond) other, others⟩,
                left, last, rfl, lefts, rights⟩
            · rw [if_neg isSecond] at done
              rcases Outcome.bind_eq_ok_iff.mp done with ⟨_, skipped, remaining⟩
              rw [if_neg isSecond]
              have wellFormed : source.isWellFormed := by
                by_contra broken
                rw [Reader.skip, if_neg broken] at skipped
                cases skipped
              rcases induction remaining with ⟨named, others, filled⟩
              exact ⟨⟨rfl, named⟩, ⟨fun _ _ => wellFormed, others⟩, filled⟩

/-! ### Both forms -/

theorem inOrder_pair (sources : List Source) :
    (pair first second read next default).inOrder sources =
      (match sources with
      | [] => .error .malformed
      | left :: rest => do
          let value ← read left
          let other ← Reader.given next default rest.head?
          pure ((value, other), rest.tail)) := by
  simp only [pair, required, defaulted, Functor.map, Seq.seq, constant, apply, member]
  cases sources with
  | nil => rfl
  | cons left rest =>
      cases taken : read left with
      | error fault => simp [bind, Except.bind, Except.map, taken]
      | ok value =>
          cases rest with
          | nil => simp [bind, Except.bind, Except.map, pure, Except.pure, Reader.given, taken]
          | cons right rest =>
              cases given : next right with
              | error fault =>
                  simp [bind, Except.bind, Except.map, pure, Except.pure, Reader.given, taken,
                    given]
              | ok other =>
                  simp [bind, Except.bind, Except.map, pure, Except.pure, Reader.given, taken,
                    given]

variable (next default) in
/-- A record that has its parts is what is read from them. -/
theorem read_pair_of_parts (distinct : first ≠ second) {source left : Source}
    {right? : Option Source} {value : α} (parts : Parts first second source left right?)
    (given : read left = .ok value) :
    (pair first second read next default).read source =
      (Reader.given next default right?).map fun other => (value, other) := by
  cases parts with
  | object named others left_eq right_eq =>
      have settled : ([left] : List Source).foldlM read.settle none = .ok (some value) := by
        rw [List.foldlM_cons, Reader.settle, given]
        rfl
      rw [← left_eq] at settled
      change (do
        let filled ← (pair first second read next default).fillAll _ (slots _ _ _ _ _ none none)
        _) = _
      rw [fillAll_pair distinct named others none settled, right_eq]
      cases right? with
      | none => exact finish_pair first second read next default (some value) none
      | some right =>
          rw [Option.toList_some, List.foldlM_cons, Reader.settle, Reader.given]
          cases next right with
          | error fault => rfl
          | ok other => exact finish_pair first second read next default (some value) (some other)
  | array =>
      rw [Fields.read, ofItems, inOrder_pair]
      simp only [given]
      cases right? with
      | none => rfl
      | some right =>
          change _ = Except.map _ (next right)
          cases taken : next right with
          | error fault => simp [bind, Except.bind, Except.map, Reader.given, taken]
          | ok other => simp [bind, Except.bind, Except.map, pure, Except.pure, Reader.given, taken]

theorem parts_of_read_pair (distinct : first ≠ second) {source : Source} {value : α} {other : β}
    (done : (pair first second read next default).read source = .ok (value, other)) :
    ∃ left right?, Parts first second source left right? ∧ read left = .ok value ∧
      Reader.given next default right? = .ok other := by
  cases source with
  | object members closed =>
      rcases Outcome.bind_eq_ok_iff.mp done with ⟨filled, taken, finished⟩
      cases closed with
      | false => cases finished
      | true =>
          rcases of_fillAll_pair distinct taken with
            ⟨named, others, left, right, rfl, lefts, rights⟩
          rcases (Reader.foldlM_settle_eq_ok_iff ..).mp lefts with ⟨left?, left_eq, leftRead⟩
          rcases (Reader.foldlM_settle_eq_ok_iff ..).mp rights with ⟨right?, right_eq, rightRead⟩
          change (pair first second read next default).finish (slots _ _ _ _ _ left right) = _
            at finished
          rw [finish_pair] at finished
          cases left? with
          | none =>
              cases leftRead
              cases finished
          | some source =>
              rcases Outcome.map_eq_ok_iff.mp leftRead with ⟨_, sourceRead, rfl⟩
              cases finished
              refine ⟨source, right?, .object named others left_eq right_eq, sourceRead, ?_⟩
              cases right? with
              | none =>
                  cases rightRead
                  rfl
              | some source =>
                  rcases Outcome.map_eq_ok_iff.mp rightRead with ⟨_, sourceRead, rfl⟩
                  exact sourceRead
  | array items closed =>
      rcases Outcome.bind_eq_ok_iff.mp done with ⟨⟨pair, rest⟩, taken, ended⟩
      rw [inOrder_pair] at taken
      cases items with
      | nil => cases taken
      | cons left items =>
          rcases Outcome.bind_eq_ok_iff.mp taken with ⟨_, leftRead, taken⟩
          rcases Outcome.bind_eq_ok_iff.mp taken with ⟨_, rightRead, taken⟩
          cases taken
          change (if (items.tail.isEmpty && closed) = true then _ else _) = _ at ended
          by_cases whole : items.tail.isEmpty && closed
          · rw [if_pos whole] at ended
            cases ended
            rcases Bool.and_eq_true_iff.mp whole with ⟨last, rfl⟩
            have items_eq : items = items.head?.toList := by
              cases items with
              | nil => rfl
              | cons right rest => simpa using last
            rw [items_eq]
            exact ⟨left, items.head?, .array left items.head?, leftRead, rightRead⟩
          · rw [if_neg whole] at ended
            cases ended
  | _ => cases done

end Fields

end Json

end HostAttestation
