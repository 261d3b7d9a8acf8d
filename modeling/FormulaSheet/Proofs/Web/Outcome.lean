import FormulaSheet.Proofs.Web.Redirects

/-!
# What a fetch gives

`Http.Documented` collects what is documented of the web library: the order of its classes of exceptions,
what is raised where, that a client follows twenty redirections, and that an answer is a success if its
status is. Nothing else about the library is used. `smallHttp` is a library of this kind.

* `Http.handle_of_timeout` and `Http.handle_of_other` say which message an exception becomes.
* `Http.Documented.fetch_of_succeeds` and `Http.Documented.fetch_of_failsWith` say what a fetch gives for each
  outcome, and `Http.Documented.succeeds_or_failsWith` that there are no more outcomes.
* `fetch_classifies` puts them together: the requests, the page, and the message of every failure.
-/

namespace FormulaSheet
namespace Web

/-- The status of an answer that has the page. -/
def Answer.IsSuccess (answer : Answer) : Prop :=
  200 ≤ answer.status ∧ answer.status < 300

section Library

variable {ε : Type}

/-- An exception that is no timeout, but belongs to a class that a fetch handles. -/
structure Http.IsOther (http : Http ε) (exception : ε) : Prop where
  inTime : http.isTimeout exception = false
  handled : (http.isHttpError exception || http.isInvalidUrl exception) = true

/-- What is documented of a web library. -/
structure Http.Documented (http : Http ε) (routing : Routing ε) : Prop where
  /-- Timeouts are among the errors of requests. -/
  timeout_isHttpError : ∀ {exception}, http.isTimeout exception = true →
    http.isHttpError exception = true
  /-- A text that is no address is no error of a request. -/
  invalidUrl_not_httpError : ∀ {exception}, http.isInvalidUrl exception = true →
    http.isHttpError exception = false
  /-- A text that cannot be read as an address raises the exception of such texts, and no request is
  sent. -/
  unread : ∀ {url exception}, routing.parse url = .error exception →
    http.isInvalidUrl exception = true ∧ ∀ client, http.get client url = (.error exception, [])
  /-- A location that cannot be read is an error of the answer, or of a text that is no address. -/
  lost : ∀ {url location exception}, routing.join url location = .error exception →
    http.IsOther exception
  /-- A client that follows redirections follows twenty of them. -/
  follows : ∀ {client : Client ε} {transport url first}, client.followsRedirects = true →
    client.transport = some transport → routing.parse url = .ok first →
    Follows routing transport 20 first (http.get client url).1 (http.get client url).2
  /-- One more redirection is an error of the request, with a text of its own. -/
  tooMany : ∀ url, http.IsOther (routing.tooMany url) ∧
    http.text (routing.tooMany url) = "Exceeded maximum allowed redirects."
  /-- Nothing is raised for a response that is a success. -/
  success : ∀ response : Response, response.IsSuccess → http.raiseForStatus response = .ok ()
  /-- For any other response an error of the request is raised, whose text names the address of the
  response. -/
  failure : ∀ response : Response, ¬ response.IsSuccess → ∃ exception,
    http.raiseForStatus response = .error exception ∧ http.isHttpError exception = true ∧
      http.isTimeout exception = false ∧ response.url.toList <:+: (http.text exception).toList

/-- The transport raises errors of requests only. -/
def Http.Carries (http : Http ε) (transport : Transport ε) : Prop :=
  ∀ url exception, transport url = .error exception → http.isHttpError exception = true

end Library

/-! ### A library of this kind -/

/-- What a small library raises. -/
inductive Trouble where
  | timeout (text : String)
  | network (text : String)
  | redirects
  | status (url : String)
  deriving DecidableEq

def Trouble.text : Trouble → String
  | timeout text | network text => text
  | redirects => "Exceeded maximum allowed redirects."
  | status url => "No success from " ++ url

/-- Addresses and locations are taken as they are. -/
def plainRouting : Routing Trouble where
  parse := .ok
  join _ location := .ok location
  tooMany _ := .redirects

/-- Asks for an address, with some redirections left. -/
def follow (transport : Transport Trouble) :
    Nat → String → Except Trouble Response × List String
  | left, url =>
    match transport url with
    | .error trouble => (.error trouble, [url])
    | .ok answer =>
      if answer.status ∈ [301, 302, 303, 307, 308] then
        match answer.location, left with
        | none, _ => (.ok ⟨answer, url⟩, [url])
        | some _, 0 => (.error .redirects, [url])
        | some next, left + 1 =>
          ((follow transport left next).1, url :: (follow transport left next).2)
      else (.ok ⟨answer, url⟩, [url])

/-- A library that raises errors of requests only, over the transport it is given. -/
def smallHttp : Http Trouble where
  isTimeout | .timeout _ => true | _ => false
  isHttpError _ := true
  isInvalidUrl _ := false
  text := Trouble.text
  get client url :=
    match client.transport with
    | none => (.error (.network "No network"), [])
    | some transport => follow transport (if client.followsRedirects then 20 else 0) url
  raiseForStatus response :=
    if 200 ≤ response.status ∧ response.status < 300 then .ok () else .error (.status response.url)

/-- The small client keeps to the rules. -/
theorem follow_follows (transport : Transport Trouble) (left : Nat) (url : String) :
    Follows plainRouting transport left url (follow transport left url).1
      (follow transport left url).2 := by
  fun_induction follow transport left url with
  | case1 left url trouble failed => exact .halted (.raised failed)
  | case2 left url answer answered status nowhere =>
      refine .halted (.final answered fun location redirects => ?_)
      cases nowhere.symm.trans redirects.location
  | case3 url answer answered status next found =>
      exact .cut (.redirected answered ⟨status, found⟩ rfl)
  | case4 url answer answered status next left found ih =>
      exact .hop (.redirected answered ⟨status, found⟩ rfl) ih
  | case5 left url answer answered other =>
      exact .halted (.final answered fun location redirects => other redirects.status)

theorem smallHttp_documented : smallHttp.Documented plainRouting where
  timeout_isHttpError _ := rfl
  invalidUrl_not_httpError := nofun
  unread := nofun
  lost := nofun
  follows {client transport url first} following scripted read := by
    cases read
    simp only [smallHttp, scripted, following, if_true]
    exact follow_follows transport 20 url
  tooMany _ := ⟨⟨rfl, rfl⟩, rfl⟩
  success _ success := if_pos success
  failure response failed := by
    refine ⟨.status response.url, if_neg failed, rfl, rfl, "No success from ".toList, [], ?_⟩
    simp [smallHttp, Trouble.text]

/-- A page that has moved to where it is late, a page that leads to itself, and pages that are there. -/
def movedPages : Transport Trouble := fun url =>
  if url = "https://example.test/old" then .ok ⟨302, "", some "https://example.test/new"⟩
  else if url = "https://example.test/new" then .error (.timeout "slow")
  else if url = "https://example.test/loop" then .ok ⟨301, "", some "https://example.test/loop"⟩
  else .ok ⟨200, "page", none⟩

theorem movedPages_hops_old :
    Hops plainRouting movedPages "https://example.test/old" "https://example.test/new" :=
  .redirected rfl ⟨by decide, rfl⟩ rfl

theorem movedPages_leads_loop (n : Nat) :
    Leads plainRouting movedPages n "https://example.test/loop" "https://example.test/loop" := by
  induction n with
  | zero => exact .here _
  | succ n ih => exact .hop (.redirected rfl ⟨by decide, rfl⟩ rfl) ih

/-! ### The outcomes of a fetch -/

section Outcomes

variable {ε : Type}

/-- A text is read as an address from which a number of redirections leads to another one. -/
def Reaches (routing : Routing ε) (transport : Transport ε) (n : Nat) (url last : String) : Prop :=
  ∃ first, routing.parse url = .ok first ∧ Leads routing transport n first last

/-- One of the first twenty-one requests is answered with the page. -/
def Succeeds (routing : Routing ε) (transport : Transport ε) (url body : String) : Prop :=
  ∃ n ≤ 20, ∃ last answer, Reaches routing transport n url last ∧ transport last = .ok answer ∧
    answer.IsSuccess ∧ answer.body = body

/-- The ways in which a fetch fails, with their messages. -/
inductive FailsWith (http : Http ε) (routing : Routing ε) (transport : Transport ε) (url : String) :
    String → Prop
  /-- The text is no address. -/
  | malformed {exception : ε} (unread : routing.parse url = .error exception) :
      FailsWith http routing transport url (http.text exception)
  /-- A request is not answered in time. The message names the address that was asked for at first. -/
  | timedOut {n : Nat} {last : String} {exception : ε} (few : n ≤ 20)
      (reached : Reaches routing transport n url last) (failed : transport last = .error exception)
      (late : http.isTimeout exception = true) :
      FailsWith http routing transport url s!"Request to {url} timed out"
  /-- A request is not answered for another reason, which is the message. -/
  | broken {n : Nat} {last : String} {exception : ε} (few : n ≤ 20)
      (reached : Reaches routing transport n url last) (failed : transport last = .error exception)
      (inTime : http.isTimeout exception = false) :
      FailsWith http routing transport url (http.text exception)
  /-- The location of a redirection cannot be read. -/
  | lost {n : Nat} {last location : String} {answer : Answer} {exception : ε} (few : n ≤ 20)
      (reached : Reaches routing transport n url last) (answered : transport last = .ok answer)
      (redirects : answer.RedirectsTo location)
      (unread : routing.join last location = .error exception) :
      FailsWith http routing transport url (http.text exception)
  /-- There is one more redirection than are followed. -/
  | manyRedirects {last : String} (reached : Reaches routing transport 21 url last) :
      FailsWith http routing transport url "Exceeded maximum allowed redirects."
  /-- The last answer is neither a redirection nor a success. The message names its address. -/
  | status {n : Nat} {last : String} {answer : Answer} {exception : ε} (few : n ≤ 20)
      (reached : Reaches routing transport n url last) (answered : transport last = .ok answer)
      (final : ∀ location, ¬ answer.RedirectsTo location) (failed : ¬ answer.IsSuccess)
      (raised : http.raiseForStatus ⟨answer, last⟩ = .error exception)
      (named : last.toList <:+: (http.text exception).toList) :
      FailsWith http routing transport url (http.text exception)

end Outcomes

/-! ### What becomes of an exception -/

section Handle

variable {ε : Type} {http : Http ε} {exception : ε}

/-- A timeout becomes a message that names the address which was asked for. -/
theorem Http.handle_of_timeout (url : String) (late : http.isTimeout exception = true) :
    http.handle url exception = .fetchError s!"Request to {url} timed out" := by
  simp [handle, late]

/-- Any other exception of the two classes becomes its own text. -/
theorem Http.handle_of_other (url : String) (other : http.IsOther exception) :
    http.handle url exception = .fetchError (http.text exception) := by
  rw [handle, if_neg (by simp [other.inTime]), if_pos other.handled]

variable {routing : Routing ε}

theorem Http.Documented.isOther_of_invalidUrl (documented : http.Documented routing)
    (invalid : http.isInvalidUrl exception = true) : http.IsOther exception where
  inTime := Bool.eq_false_iff.2 fun late =>
    Bool.false_ne_true <|
      (documented.invalidUrl_not_httpError invalid).symm.trans (documented.timeout_isHttpError late)
  handled := by simp [invalid]

theorem Http.isOther_of_httpError (inTime : http.isTimeout exception = false)
    (httpError : http.isHttpError exception = true) : http.IsOther exception :=
  ⟨inTime, by simp [httpError]⟩

/-- A redirection has no status of a success. -/
theorem Answer.IsSuccess.not_redirectsTo {answer : Answer} (success : answer.IsSuccess)
    (location : String) : ¬ answer.RedirectsTo location := by
  intro redirects
  have few := success.2
  have status := redirects.status
  simp only [List.mem_cons, List.not_mem_nil, or_false] at status
  omega

/-- The page of a response that is a success is its body. -/
theorem Http.Documented.page_of_success (documented : http.Documented routing) {response : Response}
    (success : response.IsSuccess) : http.page response = .ok response.body := by
  rw [page, documented.success response success]
  rfl

/-- A response that is no success raises what its status raises. -/
theorem Http.page_of_raised {response : Response}
    (raised : http.raiseForStatus response = .error exception) :
    http.page response = .error exception := by
  rw [page, raised]
  rfl

end Handle

/-! ### What a fetch makes of its client -/

section Fetch

variable {ε : Type} {http : Http ε} {routing : Routing ε} {transport : Transport ε}
  {fetcher : Fetcher ε} {url last : String} {n : Nat}

/-- An exception of the client is handled. -/
theorem fetch_of_error {exception : ε}
    (failed : (http.get fetcher.client url).1 = .error exception) :
    (fetcher.fetch http url).1 = .error (http.handle url exception) := by
  change (((http.get fetcher.client url).1 >>= http.page).mapError (http.handle url)) = _
  rw [failed]
  rfl

/-- A response of the client is asked for its page, and an exception of that is handled. -/
theorem fetch_of_ok {response : Response}
    (responded : (http.get fetcher.client url).1 = .ok response) :
    (fetcher.fetch http url).1 = (http.page response).mapError (http.handle url) := by
  change (((http.get fetcher.client url).1 >>= http.page).mapError (http.handle url)) = _
  rw [responded]
  rfl

/-- For a text that is no address nothing is asked. -/
theorem Http.Documented.fetch_of_unread (documented : http.Documented routing) {exception : ε}
    (unread : routing.parse url = .error exception) : (fetcher.fetch http url).2 = [] :=
  congrArg Prod.snd ((documented.unread unread).2 fetcher.client)

/-- A client that reads an address walks on the way from it. -/
theorem Http.Documented.fetcher_follows (documented : http.Documented routing)
    (scripted : fetcher.transport = some transport) {first : String}
    (read : routing.parse url = .ok first) :
    Follows routing transport 20 first (http.get fetcher.client url).1
      (http.get fetcher.client url).2 :=
  documented.follows rfl scripted read

/-- A client gives what comes of the address where the way ends in time. -/
theorem Http.Documented.get_of_halts (documented : http.Documented routing)
    (scripted : fetcher.transport = some transport) (few : n ≤ 20)
    (reached : Reaches routing transport n url last) {outcome : Except ε Response}
    (halts : Halts routing transport last outcome) :
    (http.get fetcher.client url).1 = outcome := by
  obtain ⟨first, read, led⟩ := reached
  exact (documented.fetcher_follows scripted read).eq_of_halts few led halts

/-- A page that is reached in time is the page of the fetch. -/
theorem Http.Documented.fetch_of_succeeds (documented : http.Documented routing)
    (scripted : fetcher.transport = some transport) {body : String}
    (succeeds : Succeeds routing transport url body) :
    (fetcher.fetch http url).1 = .ok body := by
  obtain ⟨n, few, last, answer, reached, answered, success, rfl⟩ := succeeds
  have responded := documented.get_of_halts scripted few reached
    (.final answered success.not_redirectsTo)
  rw [fetch_of_ok responded, documented.page_of_success success]
  rfl

/-- A failure is raised with its message. -/
theorem Http.Documented.fetch_of_failsWith (documented : http.Documented routing)
    (carries : http.Carries transport) (scripted : fetcher.transport = some transport)
    {message : String} (fails : FailsWith http routing transport url message) :
    (fetcher.fetch http url).1 = .error (.fetchError message) := by
  cases fails with
  | malformed unread =>
      obtain ⟨invalid, got⟩ := documented.unread unread
      rw [fetch_of_error (congrArg Prod.fst (got fetcher.client)),
        http.handle_of_other url (documented.isOther_of_invalidUrl invalid)]
  | timedOut few reached failed late =>
      rw [fetch_of_error (documented.get_of_halts scripted few reached (.raised failed)),
        http.handle_of_timeout url late]
  | broken few reached failed inTime =>
      rw [fetch_of_error (documented.get_of_halts scripted few reached (.raised failed)),
        http.handle_of_other url (http.isOther_of_httpError inTime (carries _ _ failed))]
  | lost few reached answered redirects unread =>
      rw [fetch_of_error
          (documented.get_of_halts scripted few reached (.lost answered redirects unread)),
        http.handle_of_other url (documented.lost unread)]
  | manyRedirects reached =>
      obtain ⟨first, read, led⟩ := reached
      obtain ⟨other, text⟩ := documented.tooMany _
      rw [fetch_of_error ((documented.fetcher_follows scripted read).eq_of_cut led),
        http.handle_of_other url other, text]
  | @status n last answer exception few reached answered final failed raised =>
      obtain ⟨_, raised', httpError, inTime, _⟩ := documented.failure ⟨answer, last⟩ failed
      cases raised.symm.trans raised'
      rw [fetch_of_ok (documented.get_of_halts scripted few reached (.final answered final)),
        http.page_of_raised raised]
      exact congrArg Except.error (http.handle_of_other url (http.isOther_of_httpError inTime httpError))

/-- A request behind which the way ends gives the page, or it fails the fetch in one of the ways. -/
theorem Http.Documented.succeeds_or_failsWith_of_halts (documented : http.Documented routing)
    (few : n ≤ 20) (reached : Reaches routing transport n url last) {outcome : Except ε Response}
    (halts : Halts routing transport last outcome) :
    (∃ body, Succeeds routing transport url body) ∨
      ∃ message, FailsWith http routing transport url message := by
  cases halts with
  | @raised exception failed =>
      cases late : http.isTimeout exception with
      | true => exact Or.inr ⟨_, .timedOut few reached failed late⟩
      | false => exact Or.inr ⟨_, .broken few reached failed late⟩
  | @final answer answered final =>
      by_cases success : answer.IsSuccess
      · exact Or.inl ⟨_, n, few, last, answer, reached, answered, success, rfl⟩
      · obtain ⟨_, raised, _, _, named⟩ := documented.failure ⟨answer, last⟩ success
        exact Or.inr ⟨_, .status few reached answered final success raised named⟩
  | lost answered redirects unread =>
      exact Or.inr ⟨_, .lost few reached answered redirects unread⟩

/-- Every fetch gives a page or fails in one of the ways. -/
theorem Http.Documented.succeeds_or_failsWith (documented : http.Documented routing)
    (scripted : fetcher.transport = some transport) (url : String) :
    (∃ body, Succeeds routing transport url body) ∨
      ∃ message, FailsWith http routing transport url message := by
  cases read : routing.parse url with
  | error exception => exact Or.inr ⟨_, .malformed read⟩
  | ok first =>
      rcases (documented.fetcher_follows scripted read).outcome_cases with
        ⟨n, few, last, led, halts⟩ | ⟨last, led, _⟩
      · exact documented.succeeds_or_failsWith_of_halts few ⟨first, read, led⟩ halts
      · exact Or.inr ⟨_, .manyRedirects ⟨first, read, led⟩⟩

/-- The requests of a fetch are for the first addresses on the way from the one that is asked for. -/
theorem Http.Documented.getElem?_fetch (documented : http.Documented routing)
    (scripted : fetcher.transport = some transport) (url : String) (n : Nat) (last : String) :
    (fetcher.fetch http url).2[n]? = some last ↔ n ≤ 20 ∧ Reaches routing transport n url last := by
  cases read : routing.parse url with
  | error exception =>
      simp [documented.fetch_of_unread read, Reaches, read]
  | ok first =>
      refine (documented.fetcher_follows scripted read).getElem?_iff.trans (and_congr_right fun _ => ?_)
      simp [Reaches, read]

theorem Http.Documented.length_fetch_le (documented : http.Documented routing)
    (scripted : fetcher.transport = some transport) (url : String) :
    (fetcher.fetch http url).2.length ≤ 21 := by
  cases read : routing.parse url with
  | error exception =>
      simp [documented.fetch_of_unread read]
  | ok first => exact (documented.fetcher_follows scripted read).length_le

end Fetch

/-- Every fetch over a transport comes to an end. The requests are the first addresses on the way from the
one that is asked for, up to twenty-one; the page is the one that one of these requests is answered with;
and without one, the failure of the fetch is raised and nothing else, with a message that says in which of
the other ways it has ended. -/
theorem fetch_classifies {ε : Type} {http : Http ε} {routing : Routing ε} {transport : Transport ε}
    (documented : http.Documented routing) (carries : http.Carries transport) (fetcher : Fetcher ε)
    (scripted : fetcher.transport = some transport) (url : String) :
    ((fetcher.fetch http url).2.length ≤ 21 ∧
        ∀ n last, (fetcher.fetch http url).2[n]? = some last ↔
          n ≤ 20 ∧ Reaches routing transport n url last) ∧
      (∀ body, (fetcher.fetch http url).1 = .ok body ↔ Succeeds routing transport url body) ∧
      (∀ raised, (fetcher.fetch http url).1 = .error raised ↔
        ∃ message, raised = .fetchError message ∧ FailsWith http routing transport url message) ∧
      ((∃ body, Succeeds routing transport url body) ∨
        ∃ message, FailsWith http routing transport url message) := by
  have given : ∀ {body}, Succeeds routing transport url body → (fetcher.fetch http url).1 = .ok body :=
    documented.fetch_of_succeeds scripted
  have fails : ∀ {message}, FailsWith http routing transport url message →
      (fetcher.fetch http url).1 = .error (.fetchError message) :=
    documented.fetch_of_failsWith carries scripted
  have total := documented.succeeds_or_failsWith scripted url
  refine ⟨⟨documented.length_fetch_le scripted url, documented.getElem?_fetch scripted url⟩,
    fun body => ⟨fun result => ?_, given⟩, fun raised => ⟨fun result => ?_, ?_⟩, total⟩
  · rcases total with ⟨body', succeeds⟩ | ⟨message, failed⟩
    · cases (given succeeds).symm.trans result
      exact succeeds
    · cases (fails failed).symm.trans result
  · rcases total with ⟨body, succeeds⟩ | ⟨message, failed⟩
    · cases (given succeeds).symm.trans result
    · cases (fails failed).symm.trans result
      exact ⟨message, rfl, failed⟩
  · rintro ⟨message, rfl, failed⟩
    exact fails failed

/-- A page that is late behind a redirection is missed under the address that was asked for, and one that
leads to itself is asked for twenty-one times. -/
theorem fetch_classifies_moved :
    smallHttp.Documented plainRouting ∧ smallHttp.Carries movedPages ∧
      (⟨10, some movedPages⟩ : Fetcher Trouble).transport = some movedPages ∧
      (Fetcher.fetch smallHttp ⟨10, some movedPages⟩ "https://example.test/old").1 =
        .error (.fetchError "Request to https://example.test/old timed out") ∧
      (Fetcher.fetch smallHttp ⟨10, some movedPages⟩ "https://example.test/old").2[1]? =
        some "https://example.test/new" ∧
      (Fetcher.fetch smallHttp ⟨10, some movedPages⟩ "https://example.test/loop").1 =
        .error (.fetchError "Exceeded maximum allowed redirects.") ∧
      (Fetcher.fetch smallHttp ⟨10, some movedPages⟩ "https://example.test/loop").2[20]? =
        some "https://example.test/loop" := by
  have carries : smallHttp.Carries movedPages := fun _ _ _ => rfl
  have moved : Reaches plainRouting movedPages 1 "https://example.test/old" "https://example.test/new" :=
    ⟨_, rfl, .hop movedPages_hops_old (.here _)⟩
  have around (n : Nat) :
      Reaches plainRouting movedPages n "https://example.test/loop" "https://example.test/loop" :=
    ⟨_, rfl, movedPages_leads_loop n⟩
  obtain ⟨⟨_, asked⟩, _, failed, _⟩ := fetch_classifies smallHttp_documented carries
    ⟨10, some movedPages⟩ rfl "https://example.test/old"
  obtain ⟨⟨_, asked'⟩, _, failed', _⟩ := fetch_classifies smallHttp_documented carries
    ⟨10, some movedPages⟩ rfl "https://example.test/loop"
  exact ⟨smallHttp_documented, carries, rfl,
    (failed _).2 ⟨_, rfl, .timedOut (by decide) moved rfl rfl⟩, (asked 1 _).2 ⟨by decide, moved⟩,
    (failed' _).2 ⟨_, rfl, .manyRedirects (around 21)⟩, (asked' 20 _).2 ⟨by decide, around 20⟩⟩

end Web
end FormulaSheet
