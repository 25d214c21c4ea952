import HostAttestation.Proofs.Url.Host
import HostAttestation.Url.Parser

/-! # Authorities and their texts

The text of an authority is read as the authority: its credentials are escaped, so that the last
at sign and the first colon before it are the ones that were written, and its host has a colon
only within brackets. -/

namespace HostAttestation

namespace Text

theorem cut?_eq_none {separator : Char} {text : List Char} (absent : separator ∉ text) :
    cut? separator text = none := by
  cases cut : cut? separator text with
  | none => rfl
  | some sides =>
      rcases append_cons_of_cut? cut with ⟨_, whole⟩
      rw [whole] at absent
      exact absurd (List.mem_append_right _ List.mem_cons_self) absent

section

variable {within : Char → Bool} {front after : List Char} (inside : ∀ c ∈ front, within c)
  (ends : ∀ c, after.head? = some c → within c = false)

include inside ends

/-- A part of a text that ends where its characters do. -/
theorem takeWhile_append_eq_left : (front ++ after).takeWhile within = front := by
  rw [List.takeWhile_append_of_pos inside]
  cases after with
  | nil => exact List.append_nil front
  | cons c rest =>
      rw [List.takeWhile_cons_of_neg (by rw [ends c rfl]; decide), List.append_nil]

theorem dropWhile_append_eq_right : (front ++ after).dropWhile within = after := by
  rw [List.dropWhile_append_of_pos inside]
  cases after with
  | nil => rfl
  | cons c rest => exact List.dropWhile_cons_of_neg (by rw [ends c rfl]; decide)

end

theorem dropWhile_eq_self {within : Char → Bool} {text : List Char}
    (ends : ∀ c, text.head? = some c → within c = false) : text.dropWhile within = text := by
  have dropped : ([] ++ text).dropWhile within = text :=
    dropWhile_append_eq_right (fun c member => by cases member) ends
  exact dropped

end Text

namespace Host

theorem text_eq_nil_iff {special : Bool} {host : Host} (read : IsRead special host) :
    host.text.toList = [] ↔ host = .name "" := by
  have named (name : List Char) :
      (Host.name (String.ofList name)).text.toList = [] ↔
        Host.name (String.ofList name) = .name "" := by
    rw [text, String.toList_eq_nil_iff, Host.name.injEq]
  cases read with
  | domain => exact named _
  | plain => exact named _
  | @address4 value _ =>
      have dotted : '.' ∈ (address4 value).text.toList := by
        rw [text, toList_text4]
        exact List.mem_append_right _ List.mem_cons_self
      refine ⟨fun empty => ?_, fun equal => by cases equal⟩
      rw [empty] at dotted
      cases dotted
  | @address6 _ pieces _ _ =>
      have bracketed := head?_text_address6 pieces
      refine ⟨fun empty => ?_, fun equal => by cases equal⟩
      rw [empty] at bracketed
      cases bracketed

theorem ne_name_empty {host : Host} (read : IsRead true host) : host ≠ .name "" := by
  cases read with
  | domain filled =>
      intro empty
      rw [Host.name.injEq, ← String.ofList_nil, String.ofList_inj] at empty
      exact filled empty
  | address4 => rintro ⟨⟩
  | address6 => rintro ⟨⟩

theorem eq_nil_of_ofName {text : List Char} (read : ofName text = some (.name "")) :
    text = [] := by
  rw [ofName] at read
  split at read
  next =>
    rcases exists_of_ofBracketed read with ⟨_, impossible, _⟩
    cases impossible
  next =>
    split at read
    next => cases read
    next =>
      rw [Option.some.injEq, Host.name.injEq, Percent.encode, ← String.ofList_nil,
        String.ofList_inj] at read
      exact (Percent.encodeChars_eq_nil_iff [] text).mp read

end Host

namespace Url

open Percent (IsClean)

/-! ## The end of a host -/

/-- Where the text of a host may end within an authority. -/
def StartsPort (rest : List Char) : Prop :=
  rest = [] ∨ rest.head? = some ':'

theorem spanHost_append_of_not_mem {host rest : List Char} (colonless : ':' ∉ host)
    (unbracketed : '[' ∉ host) (ends : StartsPort rest) :
    spanHost false (host ++ rest) = (host, rest) := by
  induction host with
  | nil =>
      cases rest with
      | nil => rfl
      | cons c others =>
          have colon : c = ':' := by simpa [StartsPort] using ends
          rw [List.nil_append, spanHost, colon]
          rfl
  | cons c others induction =>
      rw [List.mem_cons, not_or] at colonless unbracketed
      have within : (decide (c = ':') && !false) = false := by
        simpa using Ne.symm colonless.1
      have outside : (decide (c = '[') || (false && decide (c ≠ ']'))) = false := by
        simpa using Ne.symm unbracketed.1
      rw [List.cons_append, spanHost, within, outside, induction colonless.2 unbracketed.2]
      rfl

theorem spanHost_bracketed {inner rest : List Char} (whole : ']' ∉ inner)
    (ends : StartsPort rest) :
    spanHost true (inner ++ ']' :: rest) = (inner ++ [']'], rest) := by
  induction inner with
  | nil =>
      have behind : spanHost false ([] ++ rest) = ([], rest) :=
        spanHost_append_of_not_mem List.not_mem_nil List.not_mem_nil ends
      rw [List.nil_append] at behind
      rw [List.nil_append, spanHost]
      simp [behind]
  | cons c others induction =>
      rw [List.mem_cons, not_or] at whole
      have inside : (decide (c = '[') || (true && decide (c ≠ ']'))) = true := by
        simp [Ne.symm whole.1]
      rw [List.cons_append, spanHost, inside, induction whole.2]
      simp

theorem spanHost_text {special : Bool} {host : Host} (read : host.IsRead special)
    {rest : List Char} (ends : StartsPort rest) :
    spanHost false (host.text.toList ++ rest) = (host.text.toList, rest) := by
  cases read with
  | domain _ written =>
      rw [Host.text, String.toList_ofList]
      exact spanHost_append_of_not_mem (Host.not_mem_of_isWrittenChar written (by decide))
        (Host.not_mem_of_isWrittenChar written (by decide)) ends
  | plain clean =>
      rw [Host.text, String.toList_ofList]
      exact spanHost_append_of_not_mem (fun colon => (clean ':' colon).2 (by decide))
        (fun bracket => (clean '[' bracket).2 (by decide)) ends
  | @address4 value _ =>
      have written : ∀ c ∈ (Host.text4 value).toList, Domain.isWrittenChar c := fun c =>
        Host.isWrittenChar_of_mem_text4
      exact spanHost_append_of_not_mem (Host.not_mem_of_isWrittenChar written (by decide))
        (Host.not_mem_of_isWrittenChar written (by decide)) ends
  | @address6 _ pieces _ _ =>
      have chars : (Host.address6 pieces).text.toList =
          '[' :: ((Host.text6 pieces).toList ++ [']']) := by simp [Host.text]
      have whole : ']' ∉ (Host.text6 pieces).toList := fun bracket =>
        absurd (Host.mem_pieceChars_of_mem_text6 bracket) (by decide)
      rw [chars, List.cons_append, List.append_assoc, List.singleton_append, spanHost,
        show (decide ('[' = '[') || (false && decide ('[' ≠ ']'))) = true from rfl,
        spanHost_bracketed whole ends]
      rfl

/-! ## Host and port -/

def portText : Option Nat → List Char
  | none => []
  | some port => ':' :: Nat.toDigits 10 port

theorem isClean_portText (port : Option Nat) : IsClean Host.boundaries (portText port) := by
  cases port with
  | none => exact fun c member => absurd member List.not_mem_nil
  | some number =>
      refine List.forall_mem_cons.mpr ⟨by decide, fun c member => ?_⟩
      have digit : ∀ c ∈ Nat.toDigits 10 number,
          !Percent.isControl c && !Host.boundaries.contains c :=
        Host.all_toDigits (by decide) (by decide) number
      simpa using digit c member

theorem startsPort_portText (port : Option Nat) : StartsPort (portText port) := by
  cases port with
  | none => exact .inl rfl
  | some port => exact .inr rfl

/-- A port that is written is one, and not the one that goes without saying. -/
def IsPort (scheme : String) (port : Option Nat) : Prop :=
  ∀ number, port = some number → number < 65536 ∧ defaultPort? scheme ≠ some number

theorem port?_portText {scheme : String} {port : Option Nat} (isPort : IsPort scheme port) :
    port? scheme (portText port) = some (port, []) := by
  cases port with
  | none => rfl
  | some number => exact port?_toDigits (isPort number rfl).1 (isPort number rfl).2

theorem isPort_of_port? {scheme : String} {text rest : List Char} {port : Option Nat}
    (read : port? scheme text = some (port, rest)) : IsPort scheme port := by
  rintro number rfl
  exact port?_eq_some read

/-- A host by the rules of its scheme. -/
def hostOf? (scheme : String) (text : List Char) : Option Host :=
  if isSpecial scheme then Host.ofDomain text else Host.ofName text

theorem isRead_of_hostOf? {scheme : String} {text : List Char} {host : Host}
    (read : hostOf? scheme text = some host) : host.IsRead (isSpecial scheme) := by
  rw [hostOf?] at read
  split at read
  next special =>
    rw [special]
    exact Host.isRead_of_ofDomain read
  next plain =>
    rw [Bool.not_eq_true] at plain
    rw [plain]
    exact Host.isRead_of_ofName read

theorem hostOf?_text {scheme : String} {host : Host} (read : host.IsRead (isSpecial scheme))
    (settled : isSpecial scheme → host.IsSettled) :
    hostOf? scheme host.text.toList = some host := by
  rw [hostOf?]
  split
  next special =>
    rw [special] at read
    exact Host.ofDomain_text read (settled special)
  next plain =>
    rw [Bool.not_eq_true] at plain
    rw [plain] at read
    exact Host.ofName_text read

theorem hostAndPort?_eq {text hostText after : List Char} (scheme : String)
    (span : spanHost false text = (hostText, after)) :
    hostAndPort? scheme text =
      if hostText = [] ∧ (isSpecial scheme ∨ after ≠ []) then none
      else
        (hostOf? scheme hostText).bind fun host =>
          (port? scheme after).bind fun located => some (host, located) := by
  rw [hostAndPort?, span, hostOf?]
  cases isSpecial scheme <;> rfl

theorem hostAndPort?_eq_some_iff {scheme : String} {text hostText after : List Char}
    (span : spanHost false text = (hostText, after)) {host : Host} {port : Option Nat}
    {rest : List Char} :
    hostAndPort? scheme text = some (host, port, rest) ↔
      ¬(hostText = [] ∧ (isSpecial scheme ∨ after ≠ [])) ∧
        hostOf? scheme hostText = some host ∧ port? scheme after = some (port, rest) := by
  rw [hostAndPort?_eq scheme span, Option.ite_none_left_eq_some]
  refine and_congr_right fun _ => ?_
  constructor
  · intro read
    rcases Option.bind_eq_some_iff.mp read with ⟨host, ofText, more⟩
    rcases Option.bind_eq_some_iff.mp more with ⟨located, ofAfter, equal⟩
    cases equal
    exact ⟨ofText, ofAfter⟩
  · rintro ⟨ofText, ofAfter⟩
    rw [ofText, Option.bind_some, ofAfter, Option.bind_some]

/-- Only an address of a scheme that is not well known has an empty host, and then no port. -/
theorem eq_none_of_hostAndPort? {scheme : String} {text rest : List Char} {port : Option Nat}
    (read : hostAndPort? scheme text = some (.name "", port, rest)) : port = none := by
  rcases span : spanHost false text with ⟨hostText, after⟩
  rcases (hostAndPort?_eq_some_iff span).mp read with ⟨named, ofText, ofAfter⟩
  have empty : hostText = [] := by
    rw [hostOf?] at ofText
    split at ofText
    next => exact absurd rfl (Host.ne_name_empty (Host.isRead_of_ofDomain ofText))
    next => exact Host.eq_nil_of_ofName ofText
  have nothing : after = [] := by
    by_contra more
    exact named ⟨empty, .inr more⟩
  rw [nothing] at ofAfter
  cases ofAfter
  rfl

/-! ## Authorities that were read -/

structure Authority.IsRead (scheme : String) (authority : Authority) : Prop where
  username : IsClean Percent.userSet authority.username.toList
  password : IsClean Percent.userSet authority.password.toList
  host : authority.host.IsRead (isSpecial scheme)
  port : IsPort scheme authority.port
  /-- Credentials and a port need a host. -/
  alone : authority.host = .name "" →
    authority.username = "" ∧ authority.password = "" ∧ authority.port = none

theorem isRead_of_hostAndPort? {scheme : String} {text rest : List Char} {host : Host}
    {port : Option Nat} (read : hostAndPort? scheme text = some (host, port, rest)) :
    host.IsRead (isSpecial scheme) ∧ IsPort scheme port := by
  rcases span : spanHost false text with ⟨hostText, after⟩
  rcases (hostAndPort?_eq_some_iff span).mp read with ⟨_, ofText, ofAfter⟩
  exact ⟨isRead_of_hostOf? ofText, isPort_of_port? ofAfter⟩

theorem isClean_credentials (text : List Char) :
    IsClean Percent.userSet (credentials text).1.toList ∧
      IsClean Percent.userSet (credentials text).2.toList := by
  have escaped (text : List Char) :
      IsClean Percent.userSet (Percent.encode Percent.userSet text).toList := by
    rw [Percent.encode, String.toList_ofList]
    have apart : Percent.userSet.all fun c => !Percent.marks.contains c := by decide
    refine Percent.isClean_encodeChars text fun c listed => ⟨listed, ?_⟩
    simpa using List.all_eq_true.mp apart c listed
  rw [credentials]
  split
  next => exact ⟨escaped text, fun c member => absurd member List.not_mem_nil⟩
  next => exact ⟨escaped _, escaped _⟩

theorem isRead_of_authority? {scheme : String} {text rest : List Char} {authority : Authority}
    (read : authority? scheme text = some (authority, rest)) : authority.IsRead scheme := by
  rw [authority?] at read
  dsimp only at read
  split at read
  next =>
    rcases Option.bind_eq_some_iff.mp read with ⟨⟨host, port, more⟩, located, equal⟩
    cases equal
    rcases isRead_of_hostAndPort? located with ⟨hostRead, isPort⟩
    have nobody : IsClean Percent.userSet "".toList := fun c member => absurd member List.not_mem_nil
    refine ⟨nobody, nobody, hostRead, isPort, ?_⟩
    rintro rfl
    exact ⟨rfl, rfl, eq_none_of_hostAndPort? located⟩
  next user hostText _ =>
    rcases Option.bind_eq_some_iff.mp read with ⟨⟨host, port, more⟩, located, decided⟩
    dsimp only at decided
    split at decided
    next => cases decided
    next allowed =>
      cases decided
      rcases isRead_of_hostAndPort? located with ⟨hostRead, isPort⟩
      rcases isClean_credentials user with ⟨username, password⟩
      refine ⟨username, password, hostRead, isPort, ?_⟩
      rintro rfl
      have unnamed : ¬((credentials user).1 ≠ "" || (credentials user).2 ≠ "") := fun named =>
        allowed ⟨rfl, .inl named⟩
      simp only [ne_eq, decide_not, Bool.or_eq_true, Bool.not_eq_true', decide_eq_false_iff_not,
        not_or, not_not] at unnamed
      exact ⟨unnamed.1, unnamed.2, eq_none_of_hostAndPort? located⟩

/-! ## Reading an authority again -/

def userText (authority : Authority) : List Char :=
  authority.username.toList ++
    if authority.password = "" then [] else ':' :: authority.password.toList

def Authority.hasUser (authority : Authority) : Bool :=
  authority.username ≠ "" || authority.password ≠ ""

theorem toList_text (authority : Authority) :
    authority.text.toList =
      (if authority.hasUser then userText authority ++ ['@'] else []) ++
        (authority.host.text.toList ++ portText authority.port) := by
  have port : (match authority.port with
      | none => ""
      | some port => s!":{port}").toList = portText authority.port := by
    cases authority.port with
    | none => rfl
    | some number =>
        have digits : (toString number).toList = Nat.toDigits 10 number := by
          rw [Nat.toString_eq_ofList_toDigits, String.toList_ofList]
        change (":" ++ toString number).toList = _
        rw [String.toList_append, digits]
        rfl
  have user : (if authority.username = "" ∧ authority.password = "" then ""
      else
        authority.username ++
          (if authority.password = "" then "" else ":" ++ authority.password) ++ "@").toList =
      if authority.hasUser then userText authority ++ ['@'] else [] := by
    rw [Authority.hasUser, userText]
    by_cases name : authority.username = ""
    · by_cases password : authority.password = ""
      · simp [name, password]
      · simp [name, password]
    · by_cases password : authority.password = ""
      · simp [name, password]
      · simp [name, password]
  rw [Authority.text, String.toList_append, String.toList_append, user, List.append_assoc]
  congr 2

/-- What ends an authority, and the space, which stands in none. -/
def outside : List Char :=
  [' ', '/', '\\', '?', '#']

theorem mem_outside_of_endsAuthority {special : Bool} {c : Char}
    (ends : endsAuthority special c) : c ∈ outside := by
  simp only [endsAuthority, isSlash, Bool.or_eq_true, Bool.and_eq_true, decide_eq_true_eq] at ends
  rcases ends with ((rfl | ⟨_, rfl⟩) | rfl) | rfl <;> decide

theorem cutUser_append (user : List Char) {hostText : List Char} (absent : '@' ∉ hostText) :
    cutUser (user ++ '@' :: hostText) = some (user, hostText) := by
  have reversed : (user ++ '@' :: hostText).reverse = hostText.reverse ++ '@' :: user.reverse := by
    simp
  rw [cutUser, reversed, Text.cut?_append_cons (by simpa using absent)]
  simp

theorem cutUser_of_not_mem {text : List Char} (absent : '@' ∉ text) : cutUser text = none := by
  rw [cutUser, Text.cut?_eq_none (by simpa using absent)]
  rfl

section

variable {scheme : String} {authority : Authority} (read : authority.IsRead scheme)

include read

theorem credentials_userText :
    credentials (userText authority) = (authority.username, authority.password) := by
  have kept {text : String} (clean : IsClean Percent.userSet text.toList) :
      Percent.encode Percent.userSet text.toList = text := by
    rw [Percent.encode, Percent.encodeChars_eq_self clean, String.ofList_toList]
  have colonless : ':' ∉ authority.username.toList := fun colon =>
    (read.username ':' colon).2 (by decide)
  rw [credentials, userText]
  split
  next uncut =>
    split at uncut
    next missing =>
      rw [if_pos missing, List.append_nil, kept read.username, missing]
    next =>
      rw [Text.cut?_append_cons colonless] at uncut
      cases uncut
  next name password cut =>
    split at cut
    next missing =>
      rw [List.append_nil, Text.cut?_eq_none colonless] at cut
      cases cut
    next =>
      rw [Text.cut?_append_cons colonless] at cut
      cases cut
      rw [kept read.username, kept read.password]

theorem hostAndPort?_text :
    hostAndPort? scheme (authority.host.text.toList ++ portText authority.port) =
      (hostOf? scheme authority.host.text.toList).map fun host => (host, authority.port, []) := by
  have span := spanHost_text read.host (startsPort_portText authority.port)
  rw [hostAndPort?_eq scheme span, if_neg, port?_portText read.port]
  · cases hostOf? scheme authority.host.text.toList <;> rfl
  · rintro ⟨empty, only⟩
    have missing := (Host.text_eq_nil_iff read.host).mp empty
    rcases only with special | more
    · have named := read.host
      rw [special] at named
      exact Host.ne_name_empty named missing
    · rw [(read.alone missing).2.2] at more
      exact more rfl

theorem isClean_userText : IsClean outside (userText authority) := by
  rw [userText]
  apply Percent.isClean_append (read.username.mono (by decide))
  split
  next => exact fun c member => absurd member List.not_mem_nil
  next =>
    exact List.forall_mem_cons.mpr ⟨by decide, read.password.mono (by decide)⟩

/-- What follows an authority cannot be taken for a part of it. -/
theorem isClean_text : IsClean outside authority.text.toList := by
  rw [toList_text]
  apply Percent.isClean_append
  · split
    next => exact Percent.isClean_append (isClean_userText read) (Percent.isClean_of_all (by decide))
    next => exact fun c member => absurd member List.not_mem_nil
  · exact Percent.isClean_append ((Host.isClean_text read.host).mono (by decide))
      ((isClean_portText authority.port).mono (by decide))

section

variable {after : List Char} (ends : ∀ c, after.head? = some c → endsAuthority (isSpecial scheme) c)

include ends

/-- What is read in an authority that was read is its host. -/
theorem authority?_text_eq : authority? scheme (authority.text.toList ++ after) =
    (hostOf? scheme authority.host.text.toList).bind fun host =>
      if host = .name "" ∧ authority.hasUser then none
      else some ({ authority with host := host }, after) := by
  have within : ∀ c ∈ authority.text.toList, (!endsAuthority (isSpecial scheme) c) = true := by
    intro c member
    rw [Bool.not_eq_true', Bool.eq_false_iff]
    exact fun ending => (isClean_text read c member).2 (mem_outside_of_endsAuthority ending)
  have stops : ∀ c, after.head? = some c → (!endsAuthority (isSpecial scheme) c) = false :=
    fun c first => by rw [ends c first]; rfl
  have located := hostAndPort?_text read
  have hostless : '@' ∉ authority.host.text.toList ++ portText authority.port := by
    have clean := Percent.isClean_append (Host.isClean_text read.host)
      (isClean_portText authority.port)
    exact fun sign => (clean '@' sign).2 (by decide)
  rw [authority?, Text.takeWhile_append_eq_left within stops,
    Text.dropWhile_append_eq_right within stops, toList_text]
  dsimp only
  cases user : authority.hasUser with
  | false =>
      rw [if_neg Bool.false_ne_true, List.nil_append, cutUser_of_not_mem hostless]
      dsimp only
      rw [located]
      have nobody : authority.username = "" ∧ authority.password = "" := by
        simpa [Authority.hasUser] using user
      rcases authority with ⟨username, password, host, port⟩
      rcases nobody with ⟨rfl, rfl⟩
      cases hostOf? scheme host.text.toList with
      | none => rfl
      | some host => simp
  | true =>
      rw [if_pos rfl, List.append_assoc, List.singleton_append, cutUser_append _ hostless]
      dsimp only
      rw [located, credentials_userText read]
      cases hostOf? scheme authority.host.text.toList with
      | none => rfl
      | some host =>
          change (if host = .name "" ∧ (authority.hasUser ∨ _) then none else _) = _
          simp [user]

theorem authority?_text (settled : isSpecial scheme → authority.host.IsSettled) :
    authority? scheme (authority.text.toList ++ after) = some (authority, after) := by
  rw [authority?_text_eq read ends, hostOf?_text read.host settled, Option.bind_some]
  apply if_neg
  rintro ⟨missing, user⟩
  rcases read.alone missing with ⟨username, password, _⟩
  simp [Authority.hasUser, username, password] at user

end

end

end Url

end HostAttestation
