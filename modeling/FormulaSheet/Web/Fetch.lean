import FormulaSheet.Number.Display

/-!
# Fetching a page

Requests are sent by the clients of a web library, which is not part of this one. `Http` names what is
used of it: a client that is asked for an address gives a response or raises an exception, an exception has
a text and belongs to classes, and a response can be asked whether it is a success.

`Fetcher.fetch` sets up a client, asks it for the page, and turns the exceptions of two classes into the
failure of the fetch, with a message. The texts of exceptions and pages are texts of whole characters.
-/

namespace FormulaSheet
namespace Web

/-- An answer to a request. -/
structure Answer where
  status : Nat
  body : String
  /-- Where the answer sends the reader on to, as it is written there. -/
  location : Option String := none
  deriving DecidableEq, Repr

/-- An answer with the address that it came from. -/
structure Response extends Answer where
  url : String
  deriving DecidableEq, Repr

/-- What comes of a request to each address: an answer, or an exception. -/
abbrev Transport (ε : Type) := String → Except ε Answer

/-- The settings of a client. -/
structure Client (ε : Type) where
  /-- The seconds that it waits for an answer. -/
  timeout : Float
  /-- Whether it goes on to the address that a redirection names. -/
  followsRedirects : Bool := false
  /-- What carries its requests; the network if there is nothing else. -/
  transport : Option (Transport ε) := none

/-- What is used of a web library whose exceptions are of the type `ε`. -/
structure Http (ε : Type) where
  /-- The class of requests that were not answered in time. -/
  isTimeout : ε → Bool
  /-- The class of all that goes wrong with a request or with its answer. -/
  isHttpError : ε → Bool
  /-- The class of texts that are no addresses. -/
  isInvalidUrl : ε → Bool
  text : ε → String
  /-- What a client gives that is asked for an address, and the addresses of the requests it has sent. -/
  get : Client ε → String → Except ε Response × List String
  /-- Raises an exception for a response that is no success. -/
  raiseForStatus : Response → Except ε Unit

/-- What leaves a fetch without a page. -/
inductive Raised (ε : Type) where
  /-- The failure of the fetch. -/
  | fetchError (message : String)
  /-- An exception of the library that was not handled. -/
  | escaped (exception : ε)
  deriving DecidableEq, Repr

/-- What becomes of an exception while `url` is fetched: the first class that it belongs to decides. -/
def Http.handle {ε : Type} (http : Http ε) (url : String) (exception : ε) : Raised ε :=
  if http.isTimeout exception then .fetchError s!"Request to {url} timed out"
  else if http.isHttpError exception || http.isInvalidUrl exception then
    .fetchError (http.text exception)
  else .escaped exception

/-- The page of a response. -/
def Http.page {ε : Type} (http : Http ε) (response : Response) : Except ε String := do
  http.raiseForStatus response
  return response.body

/-- What fetches pages. -/
structure Fetcher (ε : Type) where
  /-- The seconds that it waits for an answer. -/
  timeout : Float := 10
  transport : Option (Transport ε) := none

namespace Fetcher

variable {ε : Type}

/-- A fetcher as messages show it. -/
def describe (fetcher : Fetcher ε) : String :=
  s!"<HttpxFetcher timeout={Number.literal fetcher.timeout}>"

/-- The client that is set up for each page. -/
def client (fetcher : Fetcher ε) : Client ε where
  timeout := fetcher.timeout
  followsRedirects := true
  transport := fetcher.transport

/-- Fetches a page: the page or what is raised, and the addresses of the requests that were sent. -/
def fetch (http : Http ε) (fetcher : Fetcher ε) (url : String) :
    Except (Raised ε) String × List String :=
  let (outcome, asked) := http.get fetcher.client url
  ((outcome >>= http.page).mapError (http.handle url), asked)

end Fetcher

end Web
end FormulaSheet
