import HostAttestation.Proofs.Url.RoundTrip

/-! # Addresses in ASCII

A domain in ASCII without escapes is written as it is, in small letters, and what was written is
written as itself. So an address that is given in this way is read from its text again, and so is
one whose host is a number or whose scheme has no domains. -/

namespace HostAttestation

namespace Url

/-- Neither beyond ASCII nor the beginning of an escape. -/
def IsUnescaped (text : List Char) : Prop :=
  ∀ c ∈ text, Punycode.isAscii c ∧ c ≠ '%'

theorem IsUnescaped.subset {text part : List Char} (unescaped : IsUnescaped text)
    (part_of : ∀ c ∈ part, c ∈ text) : IsUnescaped part :=
  fun c member => unescaped c (part_of c member)

theorem isSettled_of_ofDomain {text : List Char} {host : Host} (unescaped : IsUnescaped text)
    (read : Host.ofDomain text = some host) : host.IsSettled :=
  Host.isSettled_of_isAscii (fun c member => (unescaped c member).1)
    (fun sign => (unescaped '%' sign).2 rfl) read

theorem spanHost_append (inside : Bool) (text : List Char) :
    (spanHost inside text).1 ++ (spanHost inside text).2 = text := by
  fun_induction spanHost inside text with
  | case1 => rfl
  | case2 => rfl
  | case3 inside c rest _ host after span induction =>
      rw [span] at induction
      exact congrArg (c :: ·) induction

theorem isSettled_of_hostAndPort? {scheme : String} {text rest : List Char} {host : Host}
    {port : Option Nat} (unescaped : IsUnescaped text) (special : isSpecial scheme)
    (read : hostAndPort? scheme text = some (host, port, rest)) : host.IsSettled := by
  rcases span : spanHost false text with ⟨hostText, after⟩
  rcases (hostAndPort?_eq_some_iff span).mp read with ⟨_, ofText, _⟩
  have whole := spanHost_append false text
  rw [span] at whole
  rw [hostOf?, if_pos special] at ofText
  refine isSettled_of_ofDomain (unescaped.subset fun c member => ?_) ofText
  rw [← whole]
  exact List.mem_append_left after member

theorem isSettled_of_authority? {scheme : String} {text rest : List Char} {authority : Authority}
    (unescaped : IsUnescaped text) (special : isSpecial scheme)
    (read : authority? scheme text = some (authority, rest)) : authority.host.IsSettled := by
  have body : IsUnescaped (text.takeWhile (!endsAuthority (isSpecial scheme) ·)) :=
    unescaped.subset fun c member => (List.takeWhile_sublist _).subset member
  rw [authority?] at read
  dsimp only at read
  split at read
  next =>
    rcases Option.bind_eq_some_iff.mp read with ⟨⟨host, port, more⟩, located, equal⟩
    cases equal
    exact isSettled_of_hostAndPort? body special located
  next user hostText cut =>
    rcases Option.bind_eq_some_iff.mp read with ⟨⟨host, port, more⟩, located, decided⟩
    dsimp only at decided
    split at decided
    next => cases decided
    next =>
      cases decided
      rw [cutUser] at cut
      rcases Option.map_eq_some_iff.mp cut with ⟨⟨reversed, before⟩, signed, equal⟩
      cases equal
      rcases Text.append_cons_of_cut? signed with ⟨_, whole⟩
      refine isSettled_of_hostAndPort? (body.subset fun c member => ?_) special located
      rw [← List.mem_reverse, whole]
      exact List.mem_append_left _ (List.mem_reverse.mp member)

theorem isSettled_of_withAuthority {scheme : String} {text : List Char} {url : Url}
    (unescaped : IsUnescaped text) (read : withAuthority scheme text = some url) :
    url.IsSettled := by
  rcases Option.bind_eq_some_iff.mp read with ⟨⟨authority, rest⟩, located, equal⟩
  cases equal
  rintro special _ ⟨⟩
  exact isSettled_of_authority? unescaped special located

theorem mem_of_cutSlash? {text rest : List Char} (cut : cutSlash? text = some rest) {c : Char}
    (member : c ∈ rest) : c ∈ text := by
  have suffix := List.dropWhile_suffix isIgnored (l := text)
  rw [cutSlash?] at cut
  split at cut
  next slash behind chars =>
    split at cut
    next =>
      cases cut
      rw [chars] at suffix
      exact suffix.subset (List.mem_cons_of_mem slash member)
    next => cases cut
  next => cases cut

theorem isSettled_of_fileHost? {text : List Char} {host : Host} (unescaped : IsUnescaped text)
    (read : fileHost? text = some host) : host.IsSettled := by
  have nowhere : (Host.name "").IsSettled := fun filled => absurd rfl filled
  rw [fileHost?] at read
  split at read
  next => cases read; exact nowhere
  next =>
    split at read
    next named ofDomain =>
      cases read
      split
      next => exact nowhere
      next => exact isSettled_of_ofDomain unescaped ofDomain
    next => cases read

theorem mem_of_mem_withoutMargins {text : String} {c : Char} (member : c ∈ withoutMargins text) :
    c ∈ text.toList := by
  rw [withoutMargins, List.mem_reverse] at member
  have inside := (List.dropWhile_suffix isMargin).subset member
  exact (List.dropWhile_suffix isMargin).subset (List.mem_reverse.mp inside)

theorem mem_of_scheme? {text rest : List Char} {scheme : String}
    (parted : scheme? text = some (scheme, rest)) {c : Char} (member : c ∈ rest) : c ∈ text := by
  rw [scheme?] at parted
  split at parted
  next => cases parted
  next before behind cut =>
    dsimp only at parted
    split at parted
    next =>
      cases parted
      rw [(Text.append_cons_of_cut? cut).2]
      exact List.mem_append_right _ (List.mem_cons_of_mem _ member)
    next => cases parted

theorem isSettled_fileAt {scheme : String} {host : Host} (settled : host.IsSettled)
    (text : List Char) : (fileAt scheme host text).IsSettled := by
  rintro _ _ ⟨⟩
  exact settled

theorem isSettled_of_fileUrl? {scheme : String} {text : List Char} {url : Url}
    (unescaped : IsUnescaped text) (read : fileUrl? scheme text = some url) : url.IsSettled := by
  have nowhere : (Host.name "").IsSettled := fun filled => absurd rfl filled
  rw [fileUrl?] at read
  split at read
  next rest slashes =>
    rcases Option.bind_eq_some_iff.mp slashes with ⟨behind, first, second⟩
    have body : IsUnescaped rest := unescaped.subset fun c member =>
      mem_of_cutSlash? first (mem_of_cutSlash? second member)
    rw [remoteFile?] at read
    split at read
    next => cases read; exact isSettled_fileAt nowhere _
    next =>
      rcases Option.map_eq_some_iff.mp read with ⟨host, named, rfl⟩
      refine isSettled_fileAt (isSettled_of_fileHost? (body.subset fun c member => ?_) named) _
      exact (List.takeWhile_sublist _).subset (List.mem_filter.mp member).1
  next => cases read; exact isSettled_fileAt nowhere _

/-- The domain of an address in ASCII without escapes is settled. -/
theorem isSettled_of_isUnescaped {text : String} {url : Url} (unescaped : IsUnescaped text.toList)
    (read : parse? text = some url) : url.IsSettled := by
  rw [parse?] at read
  split at read
  next => cases read
  next scheme rest parted =>
    have body : IsUnescaped rest := unescaped.subset fun c member =>
      mem_of_mem_withoutMargins (mem_of_scheme? parted member)
    have clean : IsUnescaped (withoutIgnored rest) :=
      body.subset fun c member => (List.mem_filter.mp member).1
    split at read
    next => exact isSettled_of_fileUrl? body read
    next =>
      dsimp only at read
      split at read
      next =>
        exact isSettled_of_withAuthority
          (clean.subset fun c => (List.dropWhile_suffix _).subset (a := c)) read
      next plain =>
        split at read
        next rest chars =>
          rw [chars] at clean
          exact isSettled_of_withAuthority (clean.subset fun c member =>
            List.mem_cons_of_mem _ (List.mem_cons_of_mem _ member)) read
        next =>
          cases read
          rintro special _ ⟨⟩

/-- How an address can be given so that its domain, if it has one, is sure to be settled. -/
inductive IsPlainlyGiven (text : String) (url : Url) : Prop
  | unescaped (unescaped : IsUnescaped text.toList)
  | numeric (authority : Authority) (located : url.authority = some authority)
      (numeric : ∀ name, authority.host ≠ .name name)
  | withoutDomains (plain : isSpecial url.scheme = false)

theorem isSettled_of_isPlainlyGiven {text : String} {url : Url} (given : IsPlainlyGiven text url)
    (read : parse? text = some url) : url.IsSettled := by
  cases given with
  | unescaped unescaped => exact isSettled_of_isUnescaped unescaped read
  | numeric authority located numeric =>
      intro _ other otherLocated
      rw [located] at otherLocated
      cases otherLocated
      cases host : authority.host with
      | name name => exact absurd host (numeric name)
      | address4 value => exact trivial
      | address6 pieces => exact trivial
  | withoutDomains plain => exact isSettled_of_not_isSpecial plain

end Url

end HostAttestation
