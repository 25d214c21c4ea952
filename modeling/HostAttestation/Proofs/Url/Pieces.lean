import HostAttestation.Proofs.Outcome
import HostAttestation.Proofs.Url.Numerals

/-! # Addresses of 128 bits

The text of a numeric address of eight pieces is read as the address. A double colon stands for
the longest run of zeros, and since the number of pieces is known, so is the length of the run. -/

namespace HostAttestation

namespace Host

/-! ## Pieces -/

/-- What the text of an address is made of. -/
def pieceChars : List Char :=
  ['0', '1', '2', '3', '4', '5', '6', '7', '8', '9', 'a', 'b', 'c', 'd', 'e', 'f', ':']

/-- A part between colons, as it is written. -/
structure IsPart (part : List Char) : Prop where
  filled : part ≠ []
  whole : ':' ∉ part

theorem isPart_toDigits (piece : Nat) : IsPart (Nat.toDigits 16 piece) where
  filled := Nat.toDigits_ne_nil
  whole := by
    intro colon
    have unequal : ∀ c ∈ Nat.toDigits 16 piece, (c != ':') = true :=
      all_toDigits (by decide) (by decide) piece
    exact absurd (unequal ':' colon) (by decide)

theorem toList_joined (pieces : List Nat) :
    (joined pieces).toList = Text.join ':' (pieces.map (Nat.toDigits 16)) := by
  have texts : (pieces.map hexText).map String.toList = pieces.map (Nat.toDigits 16) := by
    rw [List.map_map]
    exact List.map_congr_left fun piece _ => String.toList_ofList
  rw [joined, ← texts]
  exact Text.toList_intercalate ':' (pieces.map hexText)

theorem mem_pieceChars_of_mem_joined {pieces : List Nat} {c : Char}
    (member : c ∈ (joined pieces).toList) : c ∈ pieceChars := by
  rw [toList_joined] at member
  rcases Text.mem_join member with rfl | ⟨part, listed, inside⟩
  · decide
  · rcases List.mem_map.mp listed with ⟨piece, _, rfl⟩
    have written : ∀ c ∈ Nat.toDigits 16 piece, pieceChars.contains c :=
      all_toDigits (by decide) (by decide) piece
    exact List.contains_iff_mem.mp (written c inside)

theorem mem_pieceChars_of_mem_text6 {pieces : List Nat} {c : Char}
    (member : c ∈ (text6 pieces).toList) : c ∈ pieceChars := by
  rw [text6] at member
  split at member
  next start length _ =>
    split at member
    next => exact mem_pieceChars_of_mem_joined member
    next =>
      rw [String.toList_append, String.toList_append, List.mem_append, List.mem_append] at member
      rcases member with (front | colons) | behind
      · exact mem_pieceChars_of_mem_joined front
      · have colon : c = ':' := by simpa using colons
        rw [colon]
        decide
      · exact mem_pieceChars_of_mem_joined behind

/-! ## The double colon -/

theorem cutColons_append_of_not_mem {part : List Char} (whole : ':' ∉ part) (rest : List Char) :
    cutColons (part ++ rest) = (cutColons rest).map fun (left, right) => (part ++ left, right) := by
  induction part with
  | nil => simp
  | cons c others induction =>
      rw [List.mem_cons, not_or] at whole
      rw [List.cons_append, cutColons, induction whole.2, Option.map_map]
      · rfl
      · rintro after rfl
        exact absurd rfl whole.1

theorem cutColons_colon_cons {c : Char} (other : c ≠ ':') (rest : List Char) :
    cutColons (':' :: c :: rest) =
      (cutColons (c :: rest)).map fun (left, right) => (':' :: left, right) := by
  rw [cutColons]
  rintro after _ equal
  cases equal
  exact other rfl

theorem exists_join_eq_cons {part : List Char} (isPart : IsPart part) (parts : List (List Char)) :
    ∃ c rest, Text.join ':' (part :: parts) = c :: rest ∧ c ≠ ':' := by
  cases part with
  | nil => exact absurd rfl isPart.filled
  | cons c others =>
      have unequal : c ≠ ':' := by
        rintro rfl
        exact isPart.whole List.mem_cons_self
      cases parts with
      | nil => exact ⟨c, others, rfl, unequal⟩
      | cons next more =>
          exact ⟨c, others ++ ':' :: Text.join ':' (next :: more), rfl, unequal⟩

/-- Parts between single colons have no double colon in them. -/
theorem cutColons_join_append {parts : List (List Char)} (areParts : ∀ part ∈ parts, IsPart part)
    (rest : List Char) :
    cutColons (Text.join ':' parts ++ rest) =
      (cutColons rest).map fun (left, right) => (Text.join ':' parts ++ left, right) := by
  induction parts with
  | nil => simp [Text.join]
  | cons part others induction =>
      rcases List.forall_mem_cons.mp areParts with ⟨isPart, areOthers⟩
      cases others with
      | nil => exact cutColons_append_of_not_mem isPart.whole rest
      | cons next more =>
          rcases exists_join_eq_cons (areOthers next List.mem_cons_self) more with
            ⟨c, behind, starts, unequal⟩
          have later := induction areOthers
          have step : cutColons (':' :: (Text.join ':' (next :: more) ++ rest)) =
              (cutColons (Text.join ':' (next :: more) ++ rest)).map
                fun (left, right) => (':' :: left, right) := by
            rw [starts]
            exact cutColons_colon_cons unequal (behind ++ rest)
          change cutColons ((part ++ ':' :: Text.join ':' (next :: more)) ++ rest) = _
          rw [List.append_assoc, cutColons_append_of_not_mem isPart.whole, List.cons_append, step,
            later, Option.map_map, Option.map_map]
          congr 1
          funext sides
          simp [Text.join]

/-! ## Sides of the double colon -/

theorem split_join_toDigits {pieces : List Nat} (filled : pieces ≠ []) :
    Text.split ':' (Text.join ':' (pieces.map (Nat.toDigits 16))) =
      pieces.map (Nat.toDigits 16) := by
  apply Text.split_join
  · simpa using filled
  · intro part listed
    rcases List.mem_map.mp listed with ⟨piece, _, rfl⟩
    exact (isPart_toDigits piece).whole

theorem join_toDigits_eq_nil_iff (pieces : List Nat) :
    Text.join ':' (pieces.map (Nat.toDigits 16)) = [] ↔ pieces = [] := by
  cases pieces with
  | nil => simp [Text.join]
  | cons piece rest =>
      rcases exists_join_eq_cons (isPart_toDigits piece) (rest.map (Nat.toDigits 16)) with
        ⟨c, behind, starts, _⟩
      rw [List.map_cons, starts]
      simp

section

variable {pieces : List Nat} (small : ∀ piece ∈ pieces, piece < 65536)

include small

theorem pieces?_toDigits : pieces? (pieces.map (Nat.toDigits 16)) = some pieces := by
  induction pieces with
  | nil => rfl
  | cons piece rest induction =>
      rcases List.forall_mem_cons.mp small with ⟨first, others⟩
      cases rest with
      | nil =>
          rw [List.map_singleton, pieces?, piece?_toDigits first]
      | cons next more =>
          have later := induction others
          rw [List.map_cons] at later
          rw [List.map_cons, List.map_cons, pieces?, piece?_toDigits first, later]
          exact fun empty => absurd empty (List.cons_ne_nil _ _)

theorem mapM_piece?_toDigits :
    (pieces.map (Nat.toDigits 16)).mapM piece? = some pieces :=
  Outcome.mapM_map_eq_some fun piece member => piece?_toDigits (small piece member)

theorem side?_joined : side? (joined pieces).toList = some pieces := by
  rw [toList_joined, side?]
  by_cases empty : pieces = []
  · rw [if_pos ((join_toDigits_eq_nil_iff pieces).mpr empty), empty]
  · rw [if_neg (mt (join_toDigits_eq_nil_iff pieces).mp empty), split_join_toDigits empty,
      pieces?_toDigits small]

theorem leftSide?_joined : leftSide? (joined pieces).toList = some pieces := by
  rw [toList_joined, leftSide?]
  by_cases empty : pieces = []
  · rw [if_pos ((join_toDigits_eq_nil_iff pieces).mpr empty), empty]
  · rw [if_neg (mt (join_toDigits_eq_nil_iff pieces).mp empty), split_join_toDigits empty,
      mapM_piece?_toDigits small]

end

theorem cutColons_joined_append (pieces : List Nat) (rest : List Char) :
    cutColons ((joined pieces).toList ++ rest) =
      (cutColons rest).map fun (left, right) => ((joined pieces).toList ++ left, right) := by
  rw [toList_joined]
  apply cutColons_join_append
  intro part listed
  rcases List.mem_map.mp listed with ⟨piece, _, rfl⟩
  exact isPart_toDigits piece

/-! ## Runs of zeros -/

theorem takeWhile_eq_replicate (pieces : List Nat) :
    pieces.takeWhile (· = 0) = List.replicate (zerosAt pieces) 0 :=
  List.eq_replicate_iff.mpr ⟨rfl, fun piece member => by
    simpa using List.mem_takeWhile_imp member⟩

/-- The run that the double colon stands for is a run of zeros. -/
theorem longestZeros_eq {start first length : Nat} {pieces : List Nat}
    (longest : longestZeros start pieces = (first, length)) :
    ∃ before after, pieces = before ++ List.replicate length 0 ++ after ∧
      first = start + before.length := by
  induction pieces generalizing start with
  | nil =>
      cases longest
      exact ⟨[], [], rfl, rfl⟩
  | cons piece rest induction =>
      rw [longestZeros] at longest
      split at longest
      next here =>
        cases longest
        refine ⟨[], (piece :: rest).dropWhile (· = 0), ?_, rfl⟩
        rw [List.nil_append, ← takeWhile_eq_replicate, List.takeWhile_append_dropWhile]
      next later =>
        rcases induction longest with ⟨before, after, parts, place⟩
        refine ⟨piece :: before, after, by rw [parts]; rfl, ?_⟩
        rw [List.length_cons, place]
        omega

theorem text6_cases (pieces : List Nat) :
    text6 pieces = joined pieces ∨
      ∃ before length after, pieces = before ++ List.replicate length 0 ++ after ∧ 2 ≤ length ∧
        text6 pieces = joined before ++ "::" ++ joined after := by
  rw [text6]
  split
  next start length longest =>
    rcases longestZeros_eq longest with ⟨before, after, parts, place⟩
    rw [Nat.zero_add] at place
    split
    next => exact .inl rfl
    next long =>
      refine .inr ⟨before, length, after, parts, by omega, ?_⟩
      rw [parts, place, List.append_assoc, List.take_left, ← List.drop_drop, List.drop_left,
        List.drop_left' List.length_replicate]

/-! ## Reading an address -/

theorem address6?_text6 {pieces : List Nat} (count : pieces.length = 8)
    (small : ∀ piece ∈ pieces, piece < 65536) :
    address6? (text6 pieces).toList = some (.address6 pieces) := by
  rcases text6_cases pieces with written | ⟨before, length, after, parts, long, written⟩
  · have uncut : cutColons (joined pieces).toList = none := by
      simpa [cutColons] using cutColons_joined_append pieces []
    rw [written, address6?, uncut]
    dsimp only
    rw [side?_joined small]
    exact if_pos count
  · have cut : cutColons (joined before ++ "::" ++ joined after).toList =
        some ((joined before).toList, (joined after).toList) := by
      have colons : cutColons (':' :: ':' :: (joined after).toList) =
          some ([], (joined after).toList) := rfl
      rw [String.toList_append, String.toList_append, List.append_assoc, cutColons_joined_append]
      change (cutColons (':' :: ':' :: (joined after).toList)).map _ = _
      rw [colons]
      simp
    have smallBefore : ∀ piece ∈ before, piece < 65536 := fun piece member =>
      small piece (by rw [parts]; simp [member])
    have smallAfter : ∀ piece ∈ after, piece < 65536 := fun piece member =>
      small piece (by rw [parts]; simp [member])
    have sum : before.length + length + after.length = 8 := by
      rw [parts] at count
      simpa [Nat.add_assoc] using count
    have missing : 8 - (before.length + after.length) = length := by omega
    rw [written, address6?, cut]
    dsimp only
    rw [leftSide?_joined smallBefore, side?_joined smallAfter]
    dsimp only
    rw [if_pos (by omega), missing, parts]

/-! ## What is read -/

theorem lt_of_byte? {digits : List Char} {value : Nat} (read : byte? digits = some value) :
    value < 256 := by
  rw [byte?] at read
  split at read
  next => cases read
  next =>
    split at read
    next =>
      split at read
      next small => cases read; exact small
      next => cases read
    next => cases read

theorem lt_of_mem_dotted? {text : List Char} {pieces : List Nat}
    (read : dotted? text = some pieces) : ∀ piece ∈ pieces, piece < 65536 := by
  have bytes : ∀ {parts : List (List Char)} {values : List Nat},
      parts.mapM byte? = some values → ∀ value ∈ values, value < 256 :=
    fun read value member => by
      rcases Outcome.exists_of_mem_mapM read member with ⟨digits, _, byte⟩
      exact lt_of_byte? byte
  rw [dotted?] at read
  split at read
  next first second third fourth values =>
    cases read
    have small := bytes values
    simp only [List.mem_cons, List.not_mem_nil, or_false, forall_eq_or_imp, forall_eq] at small ⊢
    omega
  next => cases read

theorem lt_of_mem_pieces? {parts : List (List Char)} {pieces : List Nat}
    (read : pieces? parts = some pieces) : ∀ piece ∈ pieces, piece < 65536 := by
  fun_induction pieces? parts generalizing pieces with
  | case1 =>
      cases read
      exact fun piece member => absurd member List.not_mem_nil
  | case2 last piece single =>
      cases read
      simpa using lt_of_piece? single
  | case3 last single => exact lt_of_mem_dotted? read
  | case4 part rest nonempty piece pieces later single induction =>
      cases read
      exact List.forall_mem_cons.mpr ⟨lt_of_piece? single, induction later⟩
  | case5 => cases read

theorem lt_of_mem_side? {text : List Char} {pieces : List Nat} (read : side? text = some pieces) :
    ∀ piece ∈ pieces, piece < 65536 := by
  rw [side?] at read
  split at read
  next =>
    cases read
    exact fun piece member => absurd member List.not_mem_nil
  next => exact lt_of_mem_pieces? read

theorem lt_of_mem_leftSide? {text : List Char} {pieces : List Nat}
    (read : leftSide? text = some pieces) : ∀ piece ∈ pieces, piece < 65536 := by
  rw [leftSide?] at read
  split at read
  next =>
    cases read
    exact fun piece member => absurd member List.not_mem_nil
  next =>
    intro piece member
    rcases Outcome.exists_of_mem_mapM read member with ⟨digits, _, single⟩
    exact lt_of_piece? single

theorem exists_of_address6? {text : List Char} {host : Host} (read : address6? text = some host) :
    ∃ pieces, host = .address6 pieces ∧ pieces.length = 8 ∧ ∀ piece ∈ pieces, piece < 65536 := by
  rw [address6?] at read
  split at read
  next =>
    split at read
    next pieces side =>
      split at read
      next count =>
        cases read
        exact ⟨pieces, rfl, count, lt_of_mem_side? side⟩
      next => cases read
    next => cases read
  next left right _ =>
    split at read
    next before after leftSide side =>
      split at read
      next missing =>
        cases read
        refine ⟨_, rfl, ?_, ?_⟩
        · rw [List.length_append, List.length_append, List.length_replicate]
          omega
        · intro piece member
          simp only [List.mem_append, List.mem_replicate] at member
          rcases member with (front | ⟨_, rfl⟩) | behind
          · exact lt_of_mem_leftSide? leftSide piece front
          · decide
          · exact lt_of_mem_side? side piece behind
      next => cases read
    next => cases read

end Host

end HostAttestation
