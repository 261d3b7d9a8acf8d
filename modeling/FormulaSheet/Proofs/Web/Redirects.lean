import FormulaSheet.Web.Fetch

/-!
# The way that redirections lead

A redirection leads from one address to the next, so the requests of a client are the first addresses on a
way through a graph that the transport gives, with loops or without.

* `Hops` and `Halts` say what comes of one request: the way goes on to another address, or it ends there with
  a response or an exception, and not both.
* `Leads` is the way itself, and `Follows` are the rules by which a client walks on it, with a limited
  number of redirections.
* `Follows.getElem?_iff` says that the requests are the first addresses on the way, and all of them.
* `Follows.outcome_cases` says in which two ways the walk ends; `Follows.eq_of_halts` and
  `Follows.eq_of_cut` say that the way alone decides in which.
-/

namespace FormulaSheet
namespace Web

/-- How a web library reads addresses and locations, and what it raises behind the last redirection. -/
structure Routing (ε : Type) where
  /-- The address that a text is read as. -/
  parse : String → Except ε String
  /-- The address that a location names in an answer from an address. -/
  join : String → String → Except ε String
  /-- What is raised in place of one request too many, for an address. -/
  tooMany : String → ε

/-- An answer names a location to go on to. -/
structure Answer.RedirectsTo (answer : Answer) (location : String) : Prop where
  status : answer.status ∈ [301, 302, 303, 307, 308]
  location : answer.location = some location

section Way

variable {ε : Type}

/-- A request for one address is answered with a redirection to another one. -/
inductive Hops (routing : Routing ε) (transport : Transport ε) (url next : String) : Prop
  | redirected {answer : Answer} {location : String} (answered : transport url = .ok answer)
      (redirects : answer.RedirectsTo location) (joined : routing.join url location = .ok next) :
      Hops routing transport url next

/-- A request for an address leads nowhere else, and this comes of it. -/
inductive Halts (routing : Routing ε) (transport : Transport ε) (url : String) :
    Except ε Response → Prop
  /-- The request is not answered. -/
  | raised {exception : ε} (failed : transport url = .error exception) :
      Halts routing transport url (.error exception)
  /-- The answer is no redirection. -/
  | final {answer : Answer} (answered : transport url = .ok answer)
      (final : ∀ location, ¬ answer.RedirectsTo location) :
      Halts routing transport url (.ok ⟨answer, url⟩)
  /-- The location of a redirection cannot be read. -/
  | lost {answer : Answer} {location : String} {exception : ε}
      (answered : transport url = .ok answer) (redirects : answer.RedirectsTo location)
      (unread : routing.join url location = .error exception) :
      Halts routing transport url (.error exception)

/-- A number of redirections leads from one address to another. -/
inductive Leads (routing : Routing ε) (transport : Transport ε) : Nat → String → String → Prop
  | here (url : String) : Leads routing transport 0 url url
  | hop {n : Nat} {url next last : String} (hops : Hops routing transport url next)
      (further : Leads routing transport n next last) : Leads routing transport (n + 1) url last

/-- A client that may follow some more redirections asks for an address: this comes of it, and these
addresses are asked. -/
inductive Follows (routing : Routing ε) (transport : Transport ε) :
    Nat → String → Except ε Response → List String → Prop
  | halted {left : Nat} {url : String} {outcome : Except ε Response}
      (halts : Halts routing transport url outcome) : Follows routing transport left url outcome [url]
  | cut {url next : String} (hops : Hops routing transport url next) :
      Follows routing transport 0 url (.error (routing.tooMany next)) [url]
  | hop {left : Nat} {url next : String} {outcome : Except ε Response} {asked : List String}
      (hops : Hops routing transport url next)
      (further : Follows routing transport left next outcome asked) :
      Follows routing transport (left + 1) url outcome (url :: asked)

end Way

/-! ### One request -/

section Request

variable {ε : Type} {routing : Routing ε} {transport : Transport ε} {url next : String}

theorem Answer.RedirectsTo.unique {answer : Answer} {a b : String} (ha : answer.RedirectsTo a)
    (hb : answer.RedirectsTo b) : a = b :=
  Option.some.inj (ha.location.symm.trans hb.location)

/-- A request leads to one address at most. -/
theorem Hops.unique {a b : String} (ha : Hops routing transport url a)
    (hb : Hops routing transport url b) : a = b := by
  obtain ⟨answered, redirects, joined⟩ := ha
  obtain ⟨answered', redirects', joined'⟩ := hb
  cases answered.symm.trans answered'
  cases redirects.unique redirects'
  exact Except.ok.inj (joined.symm.trans joined')

/-- A request that leads nowhere else leads to no address. -/
theorem Halts.not_hops {outcome : Except ε Response} (halts : Halts routing transport url outcome) :
    ¬ Hops routing transport url next := by
  rintro ⟨answered, redirects, joined⟩
  cases halts with
  | raised failed => cases failed.symm.trans answered
  | final answered' final =>
      cases answered'.symm.trans answered
      exact final _ redirects
  | lost answered' redirects' unread =>
      cases answered'.symm.trans answered
      cases redirects'.unique redirects
      cases unread.symm.trans joined

/-- Only one thing comes of a request that leads nowhere else. -/
theorem Halts.unique {a b : Except ε Response} (ha : Halts routing transport url a)
    (hb : Halts routing transport url b) : a = b := by
  cases ha with
  | raised failed =>
      cases hb with
      | raised failed' => rw [Except.error.inj (failed.symm.trans failed')]
      | final answered | lost answered => cases failed.symm.trans answered
  | final answered final =>
      cases hb with
      | raised failed => cases failed.symm.trans answered
      | final answered' => rw [Except.ok.inj (answered.symm.trans answered')]
      | lost answered' redirects =>
          cases answered.symm.trans answered'
          exact absurd redirects (final _)
  | lost answered redirects unread =>
      cases hb with
      | raised failed => cases failed.symm.trans answered
      | final answered' final =>
          cases answered.symm.trans answered'
          exact absurd redirects (final _)
      | lost answered' redirects' unread' =>
          cases answered.symm.trans answered'
          cases redirects.unique redirects'
          rw [Except.error.inj (unread.symm.trans unread')]

end Request

/-! ### The walk -/

section Walk

variable {ε : Type} {routing : Routing ε} {transport : Transport ε} {n left : Nat}
  {url next last : String} {outcome : Except ε Response} {asked : List String}

/-- Where a request leads nowhere else, the way ends. -/
theorem Halts.eq_here (halts : Halts routing transport url outcome)
    (led : Leads routing transport n url last) : n = 0 ∧ last = url := by
  cases led with
  | here => exact ⟨rfl, rfl⟩
  | hop hops further => exact absurd hops halts.not_hops

/-- Behind the first redirection the way goes on from where it led. -/
theorem Hops.leads_iff (hops : Hops routing transport url next) :
    Leads routing transport (n + 1) url last ↔ Leads routing transport n next last := by
  constructor
  · rintro (_ | ⟨hops', further⟩)
    cases hops.unique hops'
    exact further
  · exact .hop hops

theorem leads_zero : Leads routing transport 0 url last ↔ last = url := by
  constructor
  · rintro ⟨⟩
    rfl
  · rintro rfl
    exact .here last

theorem getElem?_single : [url][n]? = some last ↔ n = 0 ∧ last = url := by
  cases n with
  | zero => simp [eq_comm]
  | succ n => simp

/-- A client sends one request more than it follows redirections, at most. -/
theorem Follows.length_le (h : Follows routing transport left url outcome asked) :
    asked.length ≤ left + 1 := by
  induction h with
  | halted | cut => simp
  | hop hops further ih => exact Nat.succ_le_succ ih

/-- The requests are for the first addresses on the way, in their order. -/
theorem Follows.getElem?_iff (h : Follows routing transport left url outcome asked) :
    asked[n]? = some last ↔ n ≤ left ∧ Leads routing transport n url last := by
  induction h generalizing n with
  | halted halts =>
      rw [getElem?_single]
      constructor
      · rintro ⟨rfl, rfl⟩
        exact ⟨Nat.zero_le _, .here _⟩
      · rintro ⟨_, led⟩
        exact halts.eq_here led
  | cut hops =>
      rw [getElem?_single, Nat.le_zero]
      refine and_congr_right ?_
      rintro rfl
      exact leads_zero.symm
  | hop hops further ih =>
      cases n with
      | zero => simp [leads_zero, eq_comm]
      | succ n => rw [List.getElem?_cons_succ, ih, hops.leads_iff, Nat.succ_le_succ_iff]

/-- A walk ends where the way does, or it is cut off behind the last redirection that it may follow. -/
theorem Follows.outcome_cases (h : Follows routing transport left url outcome asked) :
    (∃ n ≤ left, ∃ last, Leads routing transport n url last ∧ Halts routing transport last outcome) ∨
      ∃ last, Leads routing transport (left + 1) url last ∧ outcome = .error (routing.tooMany last) := by
  induction h with
  | halted halts => exact Or.inl ⟨0, Nat.zero_le _, _, .here _, halts⟩
  | cut hops => exact Or.inr ⟨_, .hop hops (.here _), rfl⟩
  | hop hops further ih =>
      rcases ih with ⟨n, few, last, led, halts⟩ | ⟨last, led, cut⟩
      · exact Or.inl ⟨n + 1, Nat.succ_le_succ few, last, .hop hops led, halts⟩
      · exact Or.inr ⟨last, .hop hops led, cut⟩

/-- A way that ends in time decides what the walk gives. -/
theorem Follows.eq_of_halts {ended : Except ε Response}
    (h : Follows routing transport left url outcome asked) (few : n ≤ left)
    (led : Leads routing transport n url last) (halts : Halts routing transport last ended) :
    outcome = ended := by
  induction h generalizing n with
  | halted halts' =>
      obtain ⟨rfl, rfl⟩ := halts'.eq_here led
      exact halts'.unique halts
  | cut hops =>
      obtain rfl := Nat.le_zero.1 few
      cases leads_zero.1 led
      exact absurd hops halts.not_hops
  | hop hops further ih =>
      cases n with
      | zero =>
          cases leads_zero.1 led
          exact absurd hops halts.not_hops
      | succ n => exact ih (Nat.le_of_succ_le_succ few) (hops.leads_iff.1 led)

/-- A way that goes on behind the last redirection is cut off. -/
theorem Follows.eq_of_cut (h : Follows routing transport left url outcome asked)
    (led : Leads routing transport (left + 1) url last) : outcome = .error (routing.tooMany last) := by
  induction h with
  | halted halts => cases (halts.eq_here led).1
  | cut hops => rw [leads_zero.1 (hops.leads_iff.1 led)]
  | hop hops further ih => exact ih (hops.leads_iff.1 led)

end Walk

end Web
end FormulaSheet
