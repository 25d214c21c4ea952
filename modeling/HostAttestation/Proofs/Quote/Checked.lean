import HostAttestation.Proofs.Quote.Grammar

/-! # Reading by positions

A program that reads a buffer by positions can reach out of the buffer or out of a machine word.
Here every sum, difference, slice and index is checked, and one that is out of range is a trap. As
long as the position is inside of the buffer there is none, and what is read is what a cursor
reads; the position stays inside, through every part of a quote. -/

namespace HostAttestation

open BigEndian (capacity)

namespace TpmQuote

/-- The parts of the attested structure before the selections, and the number of these. -/
def readPreface : QuoteReader (Bytes × Bytes × UInt64 × Nat) := do
  if (← Cursor.number 4 "magic") ≠ generated then throw .notGenerated
  if (← Cursor.number 2 "type") ≠ quoteType then throw .notQuote
  let qualifiedSigner ← Cursor.sized "qualifiedSigner"
  let extraData ← Cursor.sized "extraData"
  let _ ← Cursor.take clockInfoLength "clockInfo"
  let firmwareVersion := UInt64.ofNat (← Cursor.number 8 "firmwareVersion")
  let count ← Cursor.number 4 "pcrSelect count"
  pure (qualifiedSigner, extraData, firmwareVersion, count)

theorem ite_bind {α β : Type} (condition : Prop) [Decidable condition]
    (reader other : QuoteReader α) (next : α → QuoteReader β) :
    (if condition then reader else other) >>= next =
      if condition then reader >>= next else other >>= next := by
  split <;> rfl

theorem readAttested_eq : readAttested = readPreface >>= fun front =>
    Cursor.times PcrSelection.read front.2.2.2 >>= fun selections =>
      Cursor.sized "pcrDigest" >>= fun pcrDigest =>
        pure ⟨front.1, front.2.1, front.2.2.1, selections, pcrDigest⟩ := by
  simp only [readPreface, bind_assoc, ite_bind, pure_bind]
  rfl

/-- How many bytes are left. -/
def readLeft : QuoteReader Nat := fun cursor =>
  .ok (cursor.rest.length, cursor)

theorem readEnd_eq : readEnd = readLeft >>= fun bytes =>
    if bytes ≠ 0 then readLeft >>= fun count => throw (.trailing count) else pure () := by
  funext cursor
  rcases cursor with ⟨rest, offset⟩
  cases rest <;> rfl

/-- What stands behind the attested structure. -/
def readBehind (attested : Attested) : QuoteReader TpmQuote := do
  let signature ← QuoteSignature.read
  let values ← readValues (selected attested.selections)
  readEnd
  pure (ofParts attested signature values)

theorem read_eq_behind : read = Cursor.sized "TPM2B_ATTEST" >>= fun bytes =>
    liftM (readAttested.run (.ofBytes bytes)) >>= fun result => readBehind result.1 := rfl

end TpmQuote

/-- What ends a program that reaches out of a buffer or out of a machine word. -/
inductive Trap
  | overflow (left right : Nat)
  | underflow (left right : Nat)
  | slice (first last length : Nat)
  | index (position length : Nat)
  | width (expected length : Nat)
  | beyond (position length : Nat)
  deriving DecidableEq, Repr

/-- Why reading ends: the bytes are at fault, or the program is. -/
inductive Halt
  | fault (fault : QuoteFault)
  | trap (trap : Trap)
  deriving DecidableEq

/-- A buffer and the position that was reached in it. -/
structure Window where
  buffer : Bytes
  position : Nat
  deriving DecidableEq

abbrev WindowReader :=
  StateT Window (Except Halt)

namespace Window

def ofBytes (bytes : Bytes) : Window :=
  ⟨bytes, 0⟩

/-! ## Checked steps

A machine word holds the numbers below `words`. -/

/-- A sum that does not fit would be answered as if the bytes were missing; here it is told
apart from that. -/
def add (words left right : Nat) : WindowReader Nat :=
  if left + right < words then pure (left + right) else throw (.trap (.overflow left right))

def subtract (left right : Nat) : WindowReader Nat :=
  if right ≤ left then pure (left - right) else throw (.trap (.underflow left right))

def slice (bytes : Bytes) (first last : Nat) : WindowReader Bytes :=
  if first ≤ last ∧ last ≤ bytes.length then pure ((bytes.take last).drop first)
  else throw (.trap (.slice first last bytes.length))

def byteAt (bytes : Bytes) (position : Nat) : WindowReader UInt8 :=
  match bytes[position]? with
  | some byte => pure byte
  | none => throw (.trap (.index position bytes.length))

/-- The bytes as the contents of an array of the width. -/
def array (width : Nat) (bytes : Bytes) : WindowReader Bytes :=
  if bytes.length = width then pure bytes else throw (.trap (.width width bytes.length))

def moveTo (position : Nat) : WindowReader Unit := do
  let window ← get
  if position ≤ window.buffer.length then set { window with position := position }
  else throw (.trap (.beyond position window.buffer.length))

def remaining : WindowReader Nat := do
  let window ← get
  subtract window.buffer.length window.position

def lift (step : Except QuoteFault α) : WindowReader α :=
  liftM (step.mapError Halt.fault)

/-! ## Parts -/

section

variable (words : Nat)

def take (length : Nat) (part : String) : WindowReader Bytes := do
  let window ← get
  let last ← add words window.position length
  if last ≤ window.buffer.length then
    let bytes ← slice window.buffer window.position last
    moveTo last
    pure bytes
  else
    let left ← remaining
    throw (.fault (.truncated part length window.position left))

def byte (part : String) : WindowReader Nat := do
  let bytes ← take words 1 part
  let only ← byteAt bytes 0
  pure (BigEndian.decode [only])

def pair (part : String) : WindowReader Nat := do
  let bytes ← take words 2 part
  let first ← byteAt bytes 0
  let second ← byteAt bytes 1
  pure (BigEndian.decode [first, second])

def number (width : Nat) (part : String) : WindowReader Nat := do
  let bytes ← take words width part
  let raw ← array width bytes
  pure (BigEndian.decode raw)

def sized (part : String) : WindowReader Bytes := do
  let length ← pair words part
  take words length part

def times (read : WindowReader α) : (count : Nat) → WindowReader (List α)
  | 0 => pure []
  | count + 1 => do
      let first ← read
      let others ← times read count
      pure (first :: others)

def selection : WindowReader PcrSelection := do
  let algorithm ← pair words "selection hash"
  match PcrSelection.bankOfId? algorithm with
  | none => throw (.fault (.unsupportedBank algorithm))
  | some bank =>
      let size ← byte words "sizeofSelect"
      let bitmap ← take words size "pcrSelect"
      let pcrs ← lift (PcrSelection.indexes bank (PcrSelection.setBits 0 bitmap))
      pure ⟨bank, pcrs⟩

def signatureBytes (scheme : UInt16) : WindowReader Bytes :=
  if scheme = QuoteSignature.rsaPkcs ∨ scheme = QuoteSignature.rsaPss then sized words "signature"
  else if scheme = QuoteSignature.ellipticCurve then do
    let first ← sized words "signatureR"
    let second ← sized words "signatureS"
    pure (first ++ second)
  else throw (.fault (.unsupportedSignature scheme.toNat))

def signature : WindowReader QuoteSignature := do
  let scheme := UInt16.ofNat (← pair words "sigAlg")
  if scheme = QuoteSignature.noScheme then pure ⟨scheme, 0, []⟩
  else
    let hash := UInt16.ofNat (← pair words "signature hash")
    let bytes ← signatureBytes words scheme
    pure ⟨scheme, hash, bytes⟩

/-- The parts of the attested structure before the selections, and the number of these. -/
def preface : WindowReader (Bytes × Bytes × UInt64 × Nat) := do
  if (← number words 4 "magic") ≠ TpmQuote.generated then throw (.fault .notGenerated)
  if (← pair words "type") ≠ TpmQuote.quoteType then throw (.fault .notQuote)
  let qualifiedSigner ← sized words "qualifiedSigner"
  let extraData ← sized words "extraData"
  let _ ← take words TpmQuote.clockInfoLength "clockInfo"
  let firmwareVersion := UInt64.ofNat (← number words 8 "firmwareVersion")
  let count ← number words 4 "pcrSelect count"
  pure (qualifiedSigner, extraData, firmwareVersion, count)

def attested : WindowReader TpmQuote.Attested := do
  let front ← preface words
  let selections ← times (selection words) front.2.2.2
  let pcrDigest ← sized words "pcrDigest"
  pure ⟨front.1, front.2.1, front.2.2.1, selections, pcrDigest⟩

def value (pcr : PcrId) : WindowReader PcrValue := do
  let digest ← take words pcr.bank.digestLength "PCR value"
  lift ((PcrValue.ofDigest pcr digest).mapError .invalidValue)

def values : List PcrId → WindowReader (List PcrValue)
  | [] => pure []
  | pcr :: rest => do
      let first ← value words pcr
      let others ← values rest
      pure (first :: others)

def finish : WindowReader Unit := do
  if (← remaining) ≠ 0 then
    let count ← remaining
    throw (.fault (.trailing count))

/-- What stands behind the attested structure. -/
def behind (attested : TpmQuote.Attested) : WindowReader TpmQuote := do
  let signature ← signature words
  let values ← values words (TpmQuote.selected attested.selections)
  finish
  pure (TpmQuote.ofParts attested signature values)

def quote : WindowReader TpmQuote := do
  let bytes ← sized words "TPM2B_ATTEST"
  let result ← (attested words).run (.ofBytes bytes)
  behind words result.1

def parse (blob : Bytes) : Except Halt TpmQuote :=
  ((quote words).run (.ofBytes blob)).map Prod.fst

end

/-! ## The cursor of a window -/

def cursor (window : Window) : Cursor :=
  ⟨window.buffer.drop window.position, window.position⟩

/-- The position is inside of the buffer, and no length of two bytes leads from there out of a
machine word. A buffer that takes up no more than half of a memory of 32 bits or more leaves that
room. -/
structure IsSound (words : Nat) (window : Window) : Prop where
  inside : window.position ≤ window.buffer.length
  narrow : window.buffer.length + capacity 2 ≤ words

/-- In a sound window both readers end with the same fault, or with the same value where the
window is sound. -/
def Mirrors (words : Nat) (checked : WindowReader α) (reader : QuoteReader α) : Prop :=
  ∀ window : Window, window.IsSound words →
    (∀ fault, reader.run window.cursor = .error fault →
      checked.run window = .error (.fault fault)) ∧
    ∀ value next, reader.run window.cursor = .ok (value, next) →
      ∃ after : Window, checked.run window = .ok (value, after) ∧ after.IsSound words ∧
        after.cursor = next

/-- A value that the reader gives in some sound window. -/
def Gives (words : Nat) (reader : QuoteReader α) (value : α) : Prop :=
  ∃ window : Window, window.IsSound words ∧ ∃ next, reader.run window.cursor = .ok (value, next)

namespace Mirrors

variable {words : Nat} {α β : Type} {checked other : WindowReader α}
  {reader otherReader : QuoteReader α} {checkedNext : α → WindowReader β}
  {next : α → QuoteReader β}

theorem pure (value : α) :
    Mirrors words (Pure.pure value : WindowReader α) (Pure.pure value : QuoteReader α) := by
  intro window sound
  constructor
  · intro fault run
    cases run
  · intro result last run
    cases run
    exact ⟨window, rfl, sound, rfl⟩

theorem throw (fault : QuoteFault) :
    Mirrors words (MonadExcept.throw (Halt.fault fault) : WindowReader α)
      (MonadExcept.throw fault : QuoteReader α) := by
  intro window sound
  constructor
  · intro other run
    cases run
    rfl
  · intro result last run
    cases run

theorem lift (step : Except QuoteFault α) :
    Mirrors words (Window.lift step) (liftM step : QuoteReader α) := by
  cases step with
  | error fault => exact throw fault
  | ok value => exact pure value

theorem ite (condition : Prop) [Decidable condition] (mirrors : Mirrors words checked reader)
    (others : Mirrors words other otherReader) :
    Mirrors words (if condition then checked else other)
      (if condition then reader else otherReader) := by
  by_cases holds : condition
  · simpa only [if_pos holds] using mirrors
  · simpa only [if_neg holds] using others

theorem bind (mirrors : Mirrors words checked reader)
    (nexts : ∀ value, Gives words reader value →
      Mirrors words (checkedNext value) (next value)) :
    Mirrors words (checked >>= checkedNext) (reader >>= next) := by
  intro window sound
  rcases mirrors window sound with ⟨fails, succeeds⟩
  rw [StateT.run_bind, StateT.run_bind]
  cases run : reader.run window.cursor with
  | error fault =>
      rw [fails fault run]
      constructor
      · intro other same
        cases same
        rfl
      · intro value last impossible
        cases impossible
  | ok result =>
      rcases result with ⟨value, middle⟩
      rcases succeeds value middle run with ⟨after, checkedRun, stillSound, rfl⟩
      rw [checkedRun]
      exact nexts value ⟨window, sound, _, run⟩ after stillSound

/-- Nothing else is read by positions. -/
theorem of_ok {window after : Window} {value : α} (mirrors : Mirrors words checked reader)
    (sound : window.IsSound words) (succeeds : checked.run window = .ok (value, after)) :
    after.IsSound words ∧ reader.run window.cursor = .ok (value, after.cursor) := by
  rcases mirrors window sound with ⟨fails, gives⟩
  cases run : reader.run window.cursor with
  | error fault =>
      rw [fails fault run] at succeeds
      cases succeeds
  | ok result =>
      rcases gives result.1 result.2 run with ⟨_, checkedRun, stillSound, same⟩
      rw [checkedRun] at succeeds
      cases succeeds
      rw [same]
      exact ⟨stillSound, rfl⟩

/-! ## Every part is mirrored -/

theorem run_take_of_le {window : Window} (sound : window.IsSound words) {length : Nat}
    (fits : window.position + length ≤ window.buffer.length) (part : String) :
    (Window.take words length part).run window =
      .ok ((window.buffer.drop window.position).take length,
        ⟨window.buffer, window.position + length⟩) := by
  have narrow := sound.narrow
  have small : window.position + length < words := by
    have filled : 0 < capacity 2 := by decide
    omega
  simp only [Window.take, Window.add, Window.slice, Window.moveTo, List.drop_take, bind_pure_comp,
    map_bind, map_pure, pure_bind, StateT.run_bind, StateT.run_get, StateT.run_pure, StateT.run_map,
    StateT.run_set, small, fits, ↓reduceIte, Nat.le_add_right, and_self, Nat.add_sub_cancel_left]
  rfl

theorem run_take_of_lt {window : Window} (sound : window.IsSound words) {length : Nat}
    (short : length < capacity 2) (tight : window.buffer.length < window.position + length)
    (part : String) : (Window.take words length part).run window =
      .error (.fault (.truncated part length window.position
        (window.buffer.length - window.position))) := by
  have inside := sound.inside
  have narrow := sound.narrow
  have small : window.position + length < words := by omega
  simp only [Window.take, Window.add, Window.remaining, Window.subtract, bind_pure_comp, bind_assoc,
    pure_bind, StateT.run_bind, StateT.run_get, StateT.run_pure, StateT.run_throw, small,
    Nat.not_le.mpr tight, inside, ↓reduceIte]
  rfl

theorem take {length : Nat} (short : length < capacity 2) (part : String) :
    Mirrors words (Window.take words length part) (Cursor.take length part) := by
  intro window sound
  have inside := sound.inside
  have width : (window.cursor.rest.take length).length =
      min length (window.buffer.length - window.position) := by
    rw [List.length_take, cursor, List.length_drop]
  have run : (Cursor.take length part).run window.cursor =
      if (window.cursor.rest.take length).length = length then
        .ok (window.cursor.rest.take length,
          ⟨window.cursor.rest.drop length, window.position + length⟩)
      else .error (.truncated part length window.position window.cursor.rest.length) := rfl
  by_cases fits : window.position + length ≤ window.buffer.length
  · rw [run, if_pos (by omega), run_take_of_le sound fits]
    constructor
    · intro fault impossible
      cases impossible
    · intro bytes next same
      cases same
      exact ⟨_, rfl, ⟨fits, sound.narrow⟩, by simp [cursor]⟩
  · rw [run, if_neg (by omega), run_take_of_lt sound short (by omega)]
    constructor
    · intro fault same
      cases same
      simp [cursor]
    · intro bytes next impossible
      cases impossible

theorem pair (part : String) :
    Mirrors words (Window.pair words part) (Cursor.number 2 part) := by
  refine (take (by decide) part).bind fun bytes given => ?_
  rcases given with ⟨window, _, next, run⟩
  rcases (Reads.take 2 part _ _ _).mp run with ⟨_, ⟨rfl, width⟩, _⟩
  match bytes with
  | [first, second] => exact pure _

theorem byte (part : String) :
    Mirrors words (Window.byte words part) (Cursor.number 1 part) := by
  refine (take (by decide) part).bind fun bytes given => ?_
  rcases given with ⟨window, _, next, run⟩
  rcases (Reads.take 1 part _ _ _).mp run with ⟨_, ⟨rfl, width⟩, _⟩
  match bytes with
  | [only] => exact pure _

theorem number {width : Nat} (short : width < capacity 2) (part : String) :
    Mirrors words (Window.number words width part) (Cursor.number width part) := by
  refine (take short part).bind fun bytes given => ?_
  rcases given with ⟨window, _, next, run⟩
  rcases (Reads.take width part _ _ _).mp run with ⟨_, ⟨rfl, counted⟩, _⟩
  have filled : Window.array width bytes = Pure.pure bytes := if_pos counted
  rw [filled, pure_bind]
  exact pure _

theorem lt_of_gives {width number : Nat} {part : String}
    (given : Gives words (Cursor.number width part) number) : number < capacity width := by
  rcases given with ⟨window, _, next, run⟩
  rcases (Reads.number width part _ _ _).mp run with ⟨_, ⟨_, fits⟩, _⟩
  exact fits

theorem sized (part : String) : Mirrors words (Window.sized words part) (Cursor.sized part) :=
  (pair part).bind fun _ given => take (lt_of_gives given) part

theorem times (mirrors : Mirrors words checked reader) (count : Nat) :
    Mirrors words (Window.times checked count) (Cursor.times reader count) := by
  induction count with
  | zero => exact pure []
  | succ count induction =>
      exact mirrors.bind fun first _ => induction.bind fun others _ => pure (first :: others)

theorem selection : Mirrors words (Window.selection words) PcrSelection.read := by
  refine (pair "selection hash").bind fun algorithm _ => ?_
  cases PcrSelection.bankOfId? algorithm with
  | none => exact throw _
  | some bank =>
      refine (byte "sizeofSelect").bind fun size given => ?_
      have short : size < capacity 2 := Nat.lt_trans (lt_of_gives given) (by decide)
      exact (take short "pcrSelect").bind fun bitmap _ => (lift _).bind fun pcrs _ => pure _

theorem signatureBytes (scheme : UInt16) :
    Mirrors words (Window.signatureBytes words scheme) (QuoteSignature.readBytes scheme) :=
  ite _ (sized "signature") <|
    ite _
      ((sized "signatureR").bind fun _ _ => (sized "signatureS").bind fun _ _ => pure _)
      (throw _)

theorem signature : Mirrors words (Window.signature words) QuoteSignature.read :=
  (pair "sigAlg").bind fun scheme _ =>
    ite (UInt16.ofNat scheme = QuoteSignature.noScheme) (pure _) <|
      (pair "signature hash").bind fun _ _ => (signatureBytes _).bind fun _ _ => pure _

theorem preface : Mirrors words (Window.preface words) TpmQuote.readPreface :=
  (number (by decide) "magic").bind fun magic _ =>
    ite (magic ≠ TpmQuote.generated) (throw _) <|
      (pair "type").bind fun type _ =>
        ite (type ≠ TpmQuote.quoteType) (throw _) <|
          (sized "qualifiedSigner").bind fun _ _ =>
            (sized "extraData").bind fun _ _ =>
              (take (by decide) "clockInfo").bind fun _ _ =>
                (number (by decide) "firmwareVersion").bind fun _ _ =>
                  (number (by decide) "pcrSelect count").bind fun _ _ => pure _

theorem attested : Mirrors words (Window.attested words) TpmQuote.readAttested := by
  rw [TpmQuote.readAttested_eq]
  exact preface.bind fun front _ =>
    (selection.times front.2.2.2).bind fun _ _ => (sized "pcrDigest").bind fun _ _ => pure _

theorem value (pcr : PcrId) : Mirrors words (Window.value words pcr) (TpmQuote.readValue pcr) := by
  have short : pcr.bank.digestLength < capacity 2 := by
    cases pcr.bank <;> decide
  refine (take short "PCR value").bind fun digest _ => ?_
  cases PcrValue.ofDigest pcr digest with
  | ok value => exact pure value
  | error violation => exact throw _

theorem values (pcrs : List PcrId) :
    Mirrors words (Window.values words pcrs) (TpmQuote.readValues pcrs) := by
  induction pcrs with
  | nil => exact pure []
  | cons pcr rest induction =>
      exact (value pcr).bind fun first _ => induction.bind fun others _ => pure (first :: others)

theorem remaining : Mirrors words Window.remaining TpmQuote.readLeft := by
  intro window sound
  have run : Window.remaining.run window = .ok (window.cursor.rest.length, window) := by
    simp only [Window.remaining, Window.subtract, pure_bind, StateT.run_bind, StateT.run_get,
      StateT.run_pure, sound.inside, ↓reduceIte, cursor, List.length_drop]
    rfl
  constructor
  · intro fault impossible
    cases impossible
  · intro count next same
    cases same
    exact ⟨window, run, sound, rfl⟩

theorem finish : Mirrors words Window.finish TpmQuote.readEnd := by
  rw [TpmQuote.readEnd_eq]
  exact remaining.bind fun bytes _ =>
    ite (bytes ≠ 0) (remaining.bind fun count _ => throw _) (pure ())

/-- A window on bytes that were read is as sound as the one that they were read in. -/
theorem isSound_ofBytes {bytes : Bytes} {part : String}
    (given : Gives words (Cursor.sized part) bytes) : (ofBytes bytes).IsSound words := by
  rcases given with ⟨window, sound, next, run⟩
  rcases (Reads.sized part _ _ _).mp run with ⟨_, ⟨rfl, _⟩, whole, _⟩
  refine ⟨Nat.zero_le _, Nat.le_trans (Nat.add_le_add_right ?_ _) sound.narrow⟩
  have lengths := congrArg List.length whole
  simp only [cursor, List.length_drop, List.length_append, QuoteSignature.sized] at lengths
  dsimp only [ofBytes]
  omega

/-- Something is read in another window. -/
theorem inner {window : Window} (mirrors : Mirrors words checked reader)
    (sound : window.IsSound words) (nexts : ∀ value, Mirrors words (checkedNext value) (next value)) :
    Mirrors words (liftM (checked.run window) >>= fun result => checkedNext result.1)
      (liftM (reader.run window.cursor) >>= fun result => next result.1) := by
  rcases mirrors window sound with ⟨fails, succeeds⟩
  cases run : reader.run window.cursor with
  | error fault =>
      rw [fails fault run]
      exact throw fault
  | ok result =>
      rcases succeeds result.1 result.2 run with ⟨after, checkedRun, _⟩
      rw [checkedRun]
      exact nexts result.1

theorem behind (result : TpmQuote.Attested) :
    Mirrors words (Window.behind words result) (TpmQuote.readBehind result) :=
  signature.bind fun _ _ => (values _).bind fun _ _ => finish.bind fun _ _ => pure _

theorem quote : Mirrors words (Window.quote words) TpmQuote.read := by
  rw [TpmQuote.read_eq_behind]
  refine (sized "TPM2B_ATTEST").bind fun bytes given => ?_
  exact attested.inner (isSound_ofBytes given) behind

end Mirrors

/-- What is read by positions in a buffer that leaves room in a machine word. -/
theorem parse_eq {words : Nat} {blob : Bytes} (narrow : blob.length + capacity 2 ≤ words) :
    Window.parse words blob = (TpmQuote.parse blob).mapError Halt.fault := by
  have sound : (ofBytes blob).IsSound words := ⟨Nat.zero_le _, narrow⟩
  rcases Mirrors.quote (ofBytes blob) sound with ⟨fails, succeeds⟩
  change ((Window.quote words).run (ofBytes blob)).map Prod.fst =
    (((TpmQuote.read).run (ofBytes blob).cursor).map Prod.fst).mapError Halt.fault
  cases run : TpmQuote.read.run (ofBytes blob).cursor with
  | error fault =>
      rw [fails fault run]
      rfl
  | ok result =>
      rcases succeeds result.1 result.2 run with ⟨after, checkedRun, _⟩
      rw [checkedRun]
      rfl

end Window

end HostAttestation
