import HostAttestation.Proofs.Net.Turns
import HostAttestation.Proofs.Vcenter.Inquiry
import Mathlib.Data.List.Dedup

/-! # The session protocol over whole runs

A client that makes one call after the other keeps its session from one to the next. Whatever the
vCenter answers, every call keeps to the protocol, and the run gets along with as many sessions as
fetches had theirs rejected, and one more. -/

namespace HostAttestation

namespace Vcenter

open Connector (Error Operation)

namespace Client

/-- The addresses that were fetched from. -/
def addresses (exchanges : List Http.Exchange) : List Url :=
  ((exchanges.filter isFetch).map fun exchange => exchange.request.url).dedup

/-- How many addresses had the first fetch from them rejected. -/
def rejections (exchanges : List Http.Exchange) : Nat :=
  (addresses exchanges).countP fun url => Http.isRejected (isFetchOf url) exchanges

/-- The first fetch from the address was rejected just now. -/
def Lapsed (url : Url) (exchanges : List Http.Exchange) : Prop :=
  ∃ preceding first, exchanges = preceding ++ [first] ∧ isFetchOf url first ∧
    first.isUnauthorized ∧ preceding.filter (isFetchOf url) = []

end Client

/-- One call of a run: the session at hand before, what was exchanged, the result, and the session
at hand afterwards. -/
structure Visit where
  inquiry : Inquiry
  before : Option String
  exchanges : List Http.Exchange
  result : Except Error Unit
  after : Option String

namespace Visit

open Client (isFetch isFetchOf)

/-- The sessions that were opened. -/
def sessions (client : Client) (visit : Visit) : List String :=
  visit.exchanges.filterMap client.opened?

def rejections (visit : Visit) : Nat :=
  Client.rejections visit.exchanges

/-- The protocol of one call, given what was exchanged in the calls before it. -/
structure Follows (client : Client) (log : List Http.Exchange) (visit : Visit) : Prop where
  /-- Every exchange is a login or a fetch. -/
  purposes : ∀ exchange ∈ visit.exchanges, client.isLogin exchange ≠ isFetch exchange
  atMostTwice : ∀ url, (visit.exchanges.filter (isFetchOf url)).length ≤ 2
  /-- A fetch is made again exactly if it was rejected at first and a session was opened right
  after that. -/
  again : ∀ url, (visit.exchanges.filter (isFetchOf url)).length = 2 ↔
    Http.isRejected (isFetchOf url) visit.exchanges ∧
      (Http.renewal? client.issuance (isFetchOf url) visit.exchanges).isSome
  /-- A login is sent only when there is no session: at the beginning, or right after the first
  attempt of a fetch was rejected, which costs the session its place. -/
  sessionless : Throughout (fun earlier exchange _ => client.isLogin exchange →
    (earlier = [] ∧ visit.before = none) ∨ ∃ url, Client.Lapsed url earlier) visit.exchanges
  /-- Every fetch is made in the newest session. -/
  identifies : Throughout (fun earlier exchange _ => isFetch exchange →
    ∃ id, client.issuance.latest? (log ++ earlier) = some id ∧
      exchange.request.session = some id) visit.exchanges
  /-- A failed login ends the call and leaves no session at hand. -/
  refused : Throughout (fun _ exchange later => client.isLogin exchange →
    client.opened? exchange = none →
      later = [] ∧ visit.after = none ∧ ∃ error, visit.result = .error error) visit.exchanges
  /-- What is not a lookup is fetched by the identifier that an answer to the lookup lists first
  under the name. -/
  directed : Throughout (fun earlier exchange _ => isFetch exchange →
    visit.inquiry.lookup client = .ok exchange.request.url ∨
      ∃ lookupUrl, visit.inquiry.lookup client = .ok lookupUrl ∧
        ∃ lookup ∈ earlier, isFetchOf lookupUrl lookup ∧
          ∃ body id, lookup.content? = some body ∧ visit.inquiry.listed? body = some id ∧
            visit.inquiry.target client id = .ok exchange.request.url) visit.exchanges

end Visit

namespace Client

variable {client : Client} {operation : Operation} {url : Url} {exchange : Http.Exchange}
  {α : Type} {read : Decoding α} {inner : Except Error α} {before after : Option String}
  {exchanges : List Http.Exchange}

/-! ## One fetch -/

theorem isFetchOf_of_isFetch (course : (client.errand operation read url).Course before exchanges
    inner after) (member : exchange ∈ exchanges) (fetches : isFetch exchange) :
    isFetchOf url exchange := by
  have apart := course.destinations exchange member
  change client.isLogin exchange ≠ isFetchOf url exchange at apart
  rw [not_isLogin_of_isFetch fetches] at apart
  exact Bool.of_not_eq_false (Ne.symm apart)

theorem url_of_isFetch (course : (client.errand operation read url).Course before exchanges inner
    after) (member : exchange ∈ exchanges) (fetches : isFetch exchange) :
    exchange.request.url = url :=
  (of_decide_eq_true (isFetchOf_of_isFetch course member fetches)).2

theorem purposes_of_course (course : (client.errand operation read url).Course before exchanges
    inner after) (member : exchange ∈ exchanges) :
    client.isLogin exchange ≠ isFetch exchange := by
  have apart := course.destinations exchange member
  change client.isLogin exchange ≠ isFetchOf url exchange at apart
  cases fetches : isFetch exchange with
  | true => simp [not_isLogin_of_isFetch fetches]
  | false => simpa [isFetchOf, fetches] using apart

/-- A fetch does not ask for anything else. -/
theorem absent_of_ne {other : Url} (different : other ≠ url)
    (course : (client.errand operation read url).Course before exchanges inner after) :
    ∀ exchange ∈ exchanges, isFetchOf other exchange = false := by
  intro exchange member
  rw [← Bool.not_eq_true]
  intro fetches
  have ours := url_of_isFetch course member (isFetch_of_isFetchOf fetches)
  exact different ((of_decide_eq_true fetches).2.symm.trans ours)

theorem filter_eq_nil_of_absent {other : Url}
    (absent : ∀ exchange ∈ exchanges, isFetchOf other exchange = false) :
    exchanges.filter (isFetchOf other) = [] :=
  List.filter_eq_nil_iff.mpr fun exchange member => by simp [absent exchange member]

theorem length_le_of_course (course : (client.errand operation read url).Course before exchanges
    inner after) (other : Url) : (exchanges.filter (isFetchOf other)).length ≤ 2 := by
  by_cases same : other = url
  · subst same
    exact course.length_requests_le
  · simp [filter_eq_nil_of_absent (absent_of_ne same course)]

theorem again_of_course (course : (client.errand operation read url).Course before exchanges
    inner after) (other : Url) :
    (exchanges.filter (isFetchOf other)).length = 2 ↔
      Http.isRejected (isFetchOf other) exchanges ∧
        (Http.renewal? client.issuance (isFetchOf other) exchanges).isSome := by
  by_cases same : other = url
  · subst same
    exact course.second_iff_renewal rfl
  · have absent := absent_of_ne same course
    simp [filter_eq_nil_of_absent absent, Http.isRejected_of_absent absent]

theorem sessionless_of_course (course : (client.errand operation read url).Course before exchanges
    inner after) :
    Throughout (fun earlier exchange _ => client.isLogin exchange →
      (earlier = [] ∧ before = none) ∨ Lapsed url earlier) exchanges :=
  course.asks

theorem identifies_of_course {log : List Http.Exchange} (fresh : client.issuance.Fresh before log)
    (course : (client.errand operation read url).Course before exchanges inner after) :
    Throughout (fun earlier exchange _ => isFetch exchange →
      ∃ id, client.issuance.latest? (log ++ earlier) = some id ∧
        exchange.request.session = some id) exchanges := by
  intro earlier exchange later split fetches
  have ours := isFetchOf_of_isFetch course (by simp [split]) fetches
  have identifies := course.identifies fresh earlier exchange later split ours
  rcases Option.isSome_iff_exists.mp (identifies.known rfl) with ⟨id, known⟩
  have presents : exchange.request.session = _ := identifies.presents
  rw [known] at presents
  exact ⟨id, known, presents⟩

theorem lapsed_append_of_absent {looked earlier : List Http.Exchange}
    (absent : ∀ exchange ∈ looked, isFetchOf url exchange = false) (lapsed : Lapsed url earlier) :
    Lapsed url (looked ++ earlier) := by
  rcases lapsed with ⟨preceding, first, rfl, fetches, rejected, unfetched⟩
  refine ⟨looked ++ preceding, first, by simp, fetches, rejected, ?_⟩
  rw [List.filter_append, filter_eq_nil_of_absent absent, unfetched, List.append_nil]

theorem eq_of_mem_fetched {other : Url}
    (course : (client.errand operation read url).Course before exchanges inner after)
    (listed : other ∈ (exchanges.filter isFetch).map fun exchange => exchange.request.url) :
    other = url := by
  rcases List.mem_map.mp listed with ⟨exchange, member, rfl⟩
  rcases List.mem_filter.mp member with ⟨member, fetches⟩
  exact url_of_isFetch course member fetches

theorem rejections_of_course (course : (client.errand operation read url).Course before exchanges
    inner after) :
    rejections exchanges = (Http.isRejected (isFetchOf url) exchanges).toNat := by
  rw [rejections, addresses,
    List.eq_replicate_iff.mpr ⟨rfl, fun _ => eq_of_mem_fetched course⟩, List.length_map]
  cases fetched : exchanges.filter isFetch with
  | nil =>
      have absent : ∀ exchange ∈ exchanges, isFetchOf url exchange = false := by
        intro exchange member
        have unfetched := List.filter_eq_nil_iff.mp fetched exchange member
        simp [isFetchOf, unfetched]
      rw [Http.isRejected_of_absent absent]
      rfl
  | cons first rest =>
      rw [List.length_cons, List.replicate_dedup (Nat.succ_ne_zero _), List.countP_singleton]
      cases Http.isRejected (isFetchOf url) exchanges <;> rfl

/-- A session that is opened takes the place of one that a rejection has cost, or stays. -/
theorem balance_of_course (course : (client.errand operation read url).Course before exchanges
    inner after) :
    (exchanges.filterMap client.opened?).length + before.toList.length =
      rejections exchanges + after.toList.length := by
  rw [rejections_of_course course]
  exact course.balance rfl

/-! ## A lookup and a fetch -/

section

variable {lookupOperation : Operation} {β : Type} {readListed : Decoding β} {value : β}
  {lookupUrl : Url} {looked : List Http.Exchange} {middle : Option String}
  (different : lookupUrl ≠ url)
  (lookup : (client.errand lookupOperation readListed lookupUrl).Course before looked (.ok value)
    middle)
  (fetch : (client.errand operation read url).Course middle exchanges inner after)

include different lookup fetch

theorem length_le_of_courses (other : Url) :
    ((looked ++ exchanges).filter (isFetchOf other)).length ≤ 2 := by
  rw [List.filter_append]
  by_cases same : other = lookupUrl
  · subst same
    rw [filter_eq_nil_of_absent (absent_of_ne different fetch), List.append_nil]
    exact length_le_of_course lookup other
  · rw [filter_eq_nil_of_absent (absent_of_ne same lookup), List.nil_append]
    exact length_le_of_course fetch other

/-- The lookup leaves a session at hand, so the fetch does not begin with a login that could be
taken for a renewal of the lookup. -/
theorem again_of_courses (other : Url) :
    ((looked ++ exchanges).filter (isFetchOf other)).length = 2 ↔
      Http.isRejected (isFetchOf other) (looked ++ exchanges) ∧
        (Http.renewal? client.issuance (isFetchOf other) (looked ++ exchanges)).isSome := by
  rw [List.filter_append]
  by_cases same : other = lookupUrl
  · subst same
    have absent := absent_of_ne different fetch
    have nothing := fetch.head_given?_eq_none ((lookup.succeeds rfl).2 rfl)
    rw [filter_eq_nil_of_absent absent, List.append_nil, again_of_course lookup,
      Http.isRejected_append_of_absent_right absent]
    apply and_congr_right
    intro rejected
    rw [Http.renewal?_append_of_isRejected rejected nothing]
  · have absent := absent_of_ne same lookup
    rw [filter_eq_nil_of_absent absent, List.nil_append, again_of_course fetch,
      Http.isRejected_append_of_absent_left absent, Http.renewal?_append_of_absent_left absent]

theorem rejections_of_courses :
    rejections (looked ++ exchanges) = rejections looked + rejections exchanges := by
  have disjoint : ((looked.filter isFetch).map fun exchange => exchange.request.url).Disjoint
      ((exchanges.filter isFetch).map fun exchange => exchange.request.url) := by
    intro other first second
    exact different ((eq_of_mem_fetched lookup first).symm.trans (eq_of_mem_fetched fetch second))
  rw [rejections, addresses, List.filter_append, List.map_append, disjoint.dedup_append,
    List.countP_append, rejections, rejections]
  congr 1
  · apply List.countP_congr
    intro other listed
    rw [eq_of_mem_fetched lookup (List.mem_dedup.mp listed),
      Http.isRejected_append_of_absent_right (absent_of_ne different fetch)]
  · apply List.countP_congr
    intro other listed
    rw [eq_of_mem_fetched fetch (List.mem_dedup.mp listed),
      Http.isRejected_append_of_absent_left (absent_of_ne (Ne.symm different) lookup)]

end

/-! ## One call -/

variable {inquiry : Inquiry} {result : Except Error Unit}

namespace Journey

theorem purposes (journey : client.Journey inquiry before exchanges result after) :
    ∀ exchange ∈ exchanges, client.isLogin exchange ≠ isFetch exchange := by
  intro exchange member
  cases journey with
  | nowhere error => cases member
  | astray error located lookup => exact purposes_of_course lookup member
  | arrived located lookup listed targeted fetch fails =>
      rcases List.mem_append.mp member with first | second
      · exact purposes_of_course lookup first
      · exact purposes_of_course fetch second

theorem length_le (journey : client.Journey inquiry before exchanges result after) (url : Url) :
    (exchanges.filter (isFetchOf url)).length ≤ 2 := by
  cases journey with
  | nowhere error => simp
  | astray error located lookup => exact length_le_of_course lookup url
  | arrived located lookup listed targeted fetch fails =>
      exact length_le_of_courses (lookup_ne_target located targeted) lookup fetch url

theorem again (journey : client.Journey inquiry before exchanges result after) (url : Url) :
    (exchanges.filter (isFetchOf url)).length = 2 ↔
      Http.isRejected (isFetchOf url) exchanges ∧
        (Http.renewal? client.issuance (isFetchOf url) exchanges).isSome := by
  cases journey with
  | nowhere error => simp [Http.isRejected]
  | astray error located lookup => exact again_of_course lookup url
  | arrived located lookup listed targeted fetch fails =>
      exact again_of_courses (lookup_ne_target located targeted) lookup fetch url

theorem sessionless (journey : client.Journey inquiry before exchanges result after) :
    Throughout (fun earlier exchange _ => client.isLogin exchange →
      (earlier = [] ∧ before = none) ∨ ∃ url, Lapsed url earlier) exchanges := by
  cases journey with
  | nowhere error => exact throughout_nil
  | astray error located lookup =>
      exact (sessionless_of_course lookup).imp fun _ _ _ needs logs =>
        (needs logs).imp_right (⟨_, ·⟩)
  | arrived located lookup listed targeted fetch fails =>
      rw [throughout_append_iff]
      constructor
      · exact (sessionless_of_course lookup).imp fun _ _ _ needs logs =>
          (needs logs).imp_right (⟨_, ·⟩)
      · refine (sessionless_of_course fetch).imp fun earlier _ _ needs logs => .inr ?_
        rcases needs logs with ⟨_, tokenless⟩ | lapsed
        · have held := (lookup.succeeds rfl).2 rfl
          rw [tokenless] at held
          cases held
        · exact ⟨_, lapsed_append_of_absent
            (absent_of_ne (Ne.symm (lookup_ne_target located targeted)) lookup) lapsed⟩

theorem identifies {log : List Http.Exchange} (fresh : client.issuance.Fresh before log)
    (journey : client.Journey inquiry before exchanges result after) :
    Throughout (fun earlier exchange _ => isFetch exchange →
      ∃ id, client.issuance.latest? (log ++ earlier) = some id ∧
        exchange.request.session = some id) exchanges := by
  cases journey with
  | nowhere error => exact throughout_nil
  | astray error located lookup => exact identifies_of_course fresh lookup
  | arrived located lookup listed targeted fetch fails =>
      rw [throughout_append_iff]
      refine ⟨identifies_of_course fresh lookup, ?_⟩
      simp only [← List.append_assoc]
      exact identifies_of_course (lookup.fresh fresh) fetch

theorem fresh {log : List Http.Exchange} (fresh : client.issuance.Fresh before log)
    (journey : client.Journey inquiry before exchanges result after) :
    client.issuance.Fresh after (log ++ exchanges) := by
  cases journey with
  | nowhere error =>
      rw [List.append_nil]
      exact fresh
  | astray error located lookup => exact lookup.fresh fresh
  | arrived located lookup listed targeted fetch fails =>
      rw [← List.append_assoc]
      exact fetch.fresh (lookup.fresh fresh)

theorem refused (journey : client.Journey inquiry before exchanges result after) :
    Throughout (fun _ exchange later => client.isLogin exchange → client.opened? exchange = none →
      later = [] ∧ after = none ∧ ∃ error, result = .error error) exchanges := by
  cases journey with
  | nowhere error => exact throughout_nil
  | astray error located lookup =>
      refine lookup.refuses.imp fun _ _ _ refuses logs refused => ?_
      rcases refuses logs refused with ⟨ends, lost, _⟩
      exact ⟨ends, lost, error, rfl⟩
  | arrived located lookup listed targeted fetch fails =>
      rw [throughout_append_iff]
      constructor
      · refine lookup.refuses.imp fun _ _ _ refuses logs refused => ?_
        rcases refuses logs refused with ⟨_, _, error, impossible⟩
        cases impossible
      · refine fetch.refuses.imp fun _ _ _ refuses logs refused => ?_
        rcases refuses logs refused with ⟨ends, lost, error, failed⟩
        exact ⟨ends, lost, error, fails error failed⟩

theorem directed (journey : client.Journey inquiry before exchanges result after) :
    Throughout (fun earlier exchange _ => isFetch exchange →
      inquiry.lookup client = .ok exchange.request.url ∨
        ∃ lookupUrl, inquiry.lookup client = .ok lookupUrl ∧
          ∃ lookup ∈ earlier, isFetchOf lookupUrl lookup ∧
            ∃ body id, lookup.content? = some body ∧ inquiry.listed? body = some id ∧
              inquiry.target client id = .ok exchange.request.url) exchanges := by
  cases journey with
  | nowhere error => exact throughout_nil
  | astray error located lookup =>
      refine throughout_of_forall_mem fun exchange member _ _ fetches => .inl ?_
      rw [located, url_of_isFetch lookup member fetches]
  | arrived located lookup listed targeted fetch fails =>
      rw [throughout_append_iff]
      constructor
      · refine throughout_of_forall_mem fun exchange member _ _ fetches => .inl ?_
        rw [located, url_of_isFetch lookup member fetches]
      · refine throughout_of_forall_mem fun exchange member _ _ fetches => .inr ?_
        rcases listed with ⟨last, answered, fetchesLookup, body, content, lists⟩
        refine ⟨_, located, last, List.mem_append_left _ answered, fetchesLookup, body, _, content,
          lists, ?_⟩
        rw [targeted, url_of_isFetch fetch member fetches]

theorem balance (journey : client.Journey inquiry before exchanges result after) :
    (exchanges.filterMap client.opened?).length + before.toList.length =
      rejections exchanges + after.toList.length := by
  cases journey with
  | nowhere error => rfl
  | astray error located lookup => exact balance_of_course lookup
  | arrived located lookup listed targeted fetch fails =>
      have first := balance_of_course lookup
      have second := balance_of_course fetch
      rw [rejections_of_courses (lookup_ne_target located targeted) lookup fetch,
        List.filterMap_append, List.length_append]
      omega

end Journey

/-! ## Whole runs -/

variable {answer : List Http.Exchange → Http.Request → Http.Outcome}
  {session : Session (List Http.Exchange)}

/-- Makes a call and tells what came of it. -/
def visit (client : Client) (answer : List Http.Exchange → Http.Request → Http.Outcome)
    (session : Session (List Http.Exchange)) (inquiry : Inquiry) :
    Visit × Session (List Http.Exchange) :=
  let (result, next) := runFrom (inquiry.perform (client.api (Http.answering answer))) session
  (⟨inquiry, session.id, next.network.drop session.network.length, result, next.id⟩, next)

/-- A client that has not been used yet. -/
def Session.unused : Session (List Http.Exchange) :=
  ⟨none, []⟩

/-- Makes calls one after the other, with a client that has not been used before. -/
def visits (client : Client) (answer : List Http.Exchange → Http.Request → Http.Outcome)
    (inquiries : List Inquiry) : List Visit :=
  inTurn (client.visit answer) .unused inquiries

theorem journey_of_visit (client : Client)
    (answer : List Http.Exchange → Http.Request → Http.Outcome)
    (session : Session (List Http.Exchange)) (inquiry : Inquiry) :
    (client.visit answer session inquiry).2.network =
        session.network ++ (client.visit answer session inquiry).1.exchanges ∧
      client.Journey inquiry session.id (client.visit answer session inquiry).1.exchanges
        (client.visit answer session inquiry).1.result
        (client.visit answer session inquiry).2.id := by
  rcases performed : runFrom (inquiry.perform (client.api (Http.answering answer))) session with
    ⟨result, next⟩
  have visited : client.visit answer session inquiry =
      (⟨inquiry, session.id, next.network.drop session.network.length, result, next.id⟩,
        next) := by
    rw [visit, performed]
  rcases journey_of_runs performed with ⟨exchanges, logged, journey⟩
  rw [visited]
  dsimp only
  rw [logged, List.drop_left]
  exact ⟨rfl, journey⟩

theorem follows_visit (fresh : client.issuance.Fresh session.id session.network)
    (inquiry : Inquiry) :
    (client.visit answer session inquiry).1.Follows client session.network := by
  have journey := (journey_of_visit client answer session inquiry).2
  constructor
  · exact journey.purposes
  · exact journey.length_le
  · exact journey.again
  · exact journey.sessionless
  · exact journey.identifies fresh
  · exact journey.refused
  · exact journey.directed

theorem fresh_visit (fresh : client.issuance.Fresh session.id session.network)
    (inquiry : Inquiry) :
    client.issuance.Fresh (client.visit answer session inquiry).2.id
      (client.visit answer session inquiry).2.network := by
  rcases journey_of_visit client answer session inquiry with ⟨logged, journey⟩
  rw [logged]
  exact journey.fresh fresh

theorem length_sessions_le (client : Client)
    (answer : List Http.Exchange → Http.Request → Http.Outcome) (inquiries : List Inquiry) :
    ((client.visits answer inquiries).flatMap (Visit.sessions client)).length ≤
      ((client.visits answer inquiries).map Visit.rejections).sum + 1 := by
  have bounded : ∀ session : Session (List Http.Exchange), session.id.toList.length ≤ 1 := by
    intro session
    cases session.id <;> simp
  have gained : ((client.visits answer inquiries).map fun visit =>
      (visit.sessions client).length).sum + 0 ≤
        ((client.visits answer inquiries).map Visit.rejections).sum + 1 :=
    sum_gains_le (fun session inquiry => (journey_of_visit client answer session inquiry).2.balance)
      bounded inquiries
  rw [List.length_flatMap]
  exact gained

theorem rejections_eq_zero {exchanges : List Http.Exchange}
    (accepted : ∀ exchange ∈ exchanges, isFetch exchange → exchange.isUnauthorized = false) :
    rejections exchanges = 0 := by
  apply List.countP_eq_zero.mpr
  intro url _ rejected
  rcases (Option.any_eq_true _ _).mp rejected with ⟨first, found, unauthorized⟩
  have fetches := isFetch_of_isFetchOf (List.find?_some found)
  rw [accepted first (List.mem_of_find?_eq_some found) fetches] at unauthorized
  cases unauthorized

/-- The invariant is that a session at hand is the newest one of all that was exchanged so far. -/
theorem follows_visits_from (fresh : client.issuance.Fresh session.id session.network)
    (inquiries : List Inquiry) :
    Throughout (fun earlier visit _ =>
      visit.Follows client (session.network ++ earlier.flatMap Visit.exchanges))
      (inTurn (client.visit answer) session inquiries) := by
  have keeps : ∀ (session : Session (List Http.Exchange)) inquiry,
      client.issuance.Fresh session.id session.network →
        client.issuance.Fresh (client.visit answer session inquiry).2.id
          (client.visit answer session inquiry).2.network :=
    fun _ inquiry fresh => fresh_visit fresh inquiry
  exact throughout_inTurn
    (fun session inquiry => (journey_of_visit client answer session inquiry).1) keeps
    (fun _ inquiry fresh => follows_visit fresh inquiry) fresh inquiries

/-- Whatever the calls and the answers are. -/
theorem follows_visits (client : Client)
    (answer : List Http.Exchange → Http.Request → Http.Outcome) (inquiries : List Inquiry) :
    Throughout (fun earlier visit _ =>
      visit.before = earlier.getLast?.bind Visit.after ∧
        visit.Follows client (earlier.flatMap Visit.exchanges))
      (client.visits answer inquiries) ∧
    ((client.visits answer inquiries).flatMap (Visit.sessions client)).length ≤
      ((client.visits answer inquiries).map Visit.rejections).sum + 1 ∧
    ((∀ visit ∈ client.visits answer inquiries, ∀ exchange ∈ visit.exchanges,
        isFetch exchange → exchange.isUnauthorized = false) →
      ((client.visits answer inquiries).flatMap (Visit.sessions client)).length ≤ 1) := by
  have fresh : client.issuance.Fresh Session.unused.id Session.unused.network :=
    Http.Issuance.fresh_none _
  have opened := length_sessions_le client answer inquiries
  refine ⟨?_, opened, fun accepted => ?_⟩
  · have starts : ∀ session inquiry,
        (client.visit answer session inquiry).1.before = session.id := fun _ _ => rfl
    have ends : ∀ session inquiry, (client.visit answer session inquiry).1.after =
        (client.visit answer session inquiry).2.id := fun _ _ => rfl
    intro earlier visit later split
    constructor
    · rw [begins_inTurn starts ends inquiries earlier visit later split]
      cases earlier.getLast? with
      | none => rfl
      | some previous => rfl
    · exact follows_visits_from fresh inquiries earlier visit later split
  · have unrejected : ((client.visits answer inquiries).map Visit.rejections).sum = 0 := by
      apply List.sum_eq_zero_iff_forall_eq_nat.mpr
      intro count listed
      rcases List.mem_map.mp listed with ⟨visit, member, rfl⟩
      exact rejections_eq_zero (accepted visit member)
    rw [unrejected] at opened
    exact opened

/-! ## A run in which a session expires -/

def administered : Client :=
  ⟨⟨"https", some ⟨"", "", .name "vcenter", none⟩, false, .segments [], none, none⟩, "user",
    "secret"⟩

/-- Everybody who has a session is answered, with a list of one host or with an empty record. -/
def welcome (log : List Http.Exchange) : Http.Outcome :=
  .ok ⟨200, .ok (Utf8.encode
    (["\"a\"", "[\x7b\"host\":\"host-1\",\"name\":\"esx\"\x7d]"][log.length]?.getD "\x7b\x7d"))⟩

/-- The first session is rejected, in a reply without an end, and the second one lasts. -/
def expiry (log : List Http.Exchange) : Http.Outcome :=
  match log with
  | [_] => .ok ⟨401, .error .failed⟩
  | [_, _] => .ok ⟨200, .ok (Utf8.encode "\"b\"")⟩
  | _ => welcome (log.drop 2)

theorem follows_visits_expiring :
    (administered.visits (fun log _ => expiry log) [.hostInfo "esx"]).map (fun visit =>
        (visit.exchanges.length, visit.sessions administered, visit.rejections, visit.after)) =
      [(5, ["a", "b"], 1, some "b")] ∧
    Throughout (fun earlier visit _ =>
      visit.before = earlier.getLast?.bind Visit.after ∧
        visit.Follows administered (earlier.flatMap Visit.exchanges))
      (administered.visits (fun log _ => expiry log) [.hostInfo "esx"]) ∧
    ((administered.visits (fun log _ => welcome log) [.hostInfo "esx"]).flatMap
      (Visit.sessions administered)).length ≤ 1 :=
  ⟨by decide +kernel, (follows_visits administered _ _).1,
    (follows_visits administered _ _).2.2 (by decide +kernel)⟩

end Client

end Vcenter

end HostAttestation
