import FormulaSheet.Function.Text

/-!
# Functions that ask the world

A sheet can be asked for a page of the network and for random numbers. What answers is given from
outside and may change with every question, so a function acts on a state of that world.

`GET` hands an address on only if it starts, in any mixture of cases, with one of `webSchemes`, and has
no blanks at its ends.
-/

namespace FormulaSheet

/-- A call of a function in a world with states `σ`. -/
abbrev Call (σ : Type) := ExceptT CallFault (StateM σ)

/-- What a function returns: a value, or an integer that still has to fit into a number. -/
inductive Returned where
  | value (v : Value)
  | integer (n : Int)
  deriving DecidableEq

/-- A function of any number of arguments. -/
abbrev SheetFunction (σ : Type) := List Value → Call σ Returned

/-- What functions may ask of a world with states `σ`. -/
structure World (σ : Type) where
  /-- Fetches the page at an address, or tells why there is none. -/
  fetch : String → StateM σ (Except String String)
  /-- Draws a number. -/
  random : StateM σ Float
  /-- Draws an integer between two bounds, of which the first is not above the second. -/
  between : Int → Int → StateM σ Int

/-- A world that answers always the same: no page, and the least draw. -/
def World.still : World Unit where
  fetch _ := pure (.error "no route")
  random := pure 0
  between low _ := pure low

namespace Function

variable {σ : Type}

/-- A function that asks nothing of the world. -/
def computed (f : List Value → Except CallFault Value) : SheetFunction σ := fun args =>
  ExceptT.mk (pure ((f args).map Returned.value))

/-- A part of a call that asks nothing of the world. -/
def compute {α : Type} (result : Except CallFault α) : Call σ α :=
  ExceptT.mk (pure result)

/-- The beginnings of addresses that are fetched from. -/
def webSchemes : List (List Char) :=
  ["http://".toList, "https://".toList]

/-- An address that may be fetched. -/
def isWebAddress (url : List Char) : Bool :=
  webSchemes.any (·.isPrefixOf (Text.lower url))

/-- The address that an argument stands for. -/
def webAddress (arg : Value) : Except CallFault String :=
  let url := Text.strip arg.toText.toList
  if url = [] then .error .noUrl
  else if isWebAddress url then .ok (String.ofList url)
  else .error (.unsupportedUrl (String.ofList url))

/-- `GET`: the page at an address. -/
def get (world : World σ) : SheetFunction σ
  | [arg] => do
    let url ← compute (webAddress arg)
    match ← (world.fetch url : StateM σ _) with
    | .ok body => return .value (.text body)
    | .error message => throw (.fetchFailed url message)
  | _ => throw (.argumentCount "GET" 1)

/-- `RAND`: a random number. -/
def random (world : World σ) : SheetFunction σ
  | [] => do
    let x ← (world.random : StateM σ Float)
    return .value (.number x)
  | _ => throw (.argumentCount "RAND" 0)

/-- `RANDBETWEEN`: a random integer between two bounds. -/
def randomBetween (world : World σ) : SheetFunction σ
  | [first, last] => do
    let low ← compute (calculate (Number.ceiling first.toNumber))
    let high ← compute (calculate (Number.floor last.toNumber))
    if high < low then throw .emptyInterval
    let n ← (world.between low high : StateM σ Int)
    return .value (.number (Number.ofInteger n))
  | _ => throw (.argumentCount "RANDBETWEEN" 2)

end Function

end FormulaSheet
