import FormulaSheet.Function.Aggregate
import FormulaSheet.Text.Case
import FormulaSheet.Text.Search

/-!
# Text functions

Functions of texts, in which characters are counted. `MID` and `FIND` count positions from zero,
`REPLACE` from one. Counts below zero are taken as zero by `LEFT`, `RIGHT` and `MID`.
-/

namespace FormulaSheet
namespace Function

open Text (indexOf? findFrom? replaceAll slice strip isBlank)

/-- A function of one text. -/
def ofText (name : String) (f : List Char → List Char) : List Value → Except CallFault Value
  | [arg] => .ok (.text (String.ofList (f arg.toText.toList)))
  | _ => .error (.argumentCount name 1)

/-- A number without its fraction, as an argument of a text function. -/
def wholeArgument (arg : Value) : Except CallFault Int :=
  calculate (Number.truncate arg.toNumber)

/-- A number of characters; nothing is taken for a number below zero. -/
def countArgument (arg : Value) : Except CallFault Nat :=
  (wholeArgument arg).map Int.toNat

/-- `CONCAT` -/
def concat (args : List Value) : Except CallFault Value :=
  .ok (.text (String.join (args.map Value.toText)))

/-- `LEN` -/
def length : List Value → Except CallFault Value
  | [arg] => .ok (countValue arg.toText.length)
  | _ => .error (.argumentCount "LEN" 1)

/-- `UPPER` -/
def upper : List Value → Except CallFault Value :=
  ofText "UPPER" Text.upper

/-- `LOWER` -/
def lower : List Value → Except CallFault Value :=
  ofText "LOWER" Text.lower

/-- `TRIM`: without the blanks at both ends. -/
def trim : List Value → Except CallFault Value :=
  ofText "TRIM" strip

/-- `CODE`: the code point of the first character. -/
def code : List Value → Except CallFault Value
  | [arg] =>
    match arg.toText.toList with
    | [] => .error .noCharacter
    | c :: _ => .ok (countValue c.toNat)
  | _ => .error (.argumentCount "CODE" 1)

/-- `LEFT`: the first characters. -/
def left : List Value → Except CallFault Value
  | [arg, number] => do
    let n ← countArgument number
    return .text (String.ofList (arg.toText.toList.take n))
  | _ => .error (.argumentCount "LEFT" 2)

/-- The characters from a position on; a position below zero counts from the end of the text. -/
def suffixFrom (start : Int) (cs : List Char) : List Char :=
  cs.drop (if start < 0 then start + cs.length else start).toNat

/-- The characters from `n` in front of the end, where that position may again be below zero. -/
def ending (n : Nat) (cs : List Char) : List Char :=
  if n = 0 then [] else suffixFrom (cs.length - n) cs

/-- `RIGHT`: the last characters. -/
def right : List Value → Except CallFault Value
  | [arg, number] => do
    let n ← countArgument number
    return .text (String.ofList (ending n arg.toText.toList))
  | _ => .error (.argumentCount "RIGHT" 2)

/-- `MID`: some characters from a position on. -/
def middle : List Value → Except CallFault Value
  | [arg, start, number] => do
    let i ← countArgument start
    let n ← countArgument number
    return .text (String.ofList (slice i n arg.toText.toList))
  | _ => .error (.argumentCount "MID" 3)

/-- The position of `needle` in `hay` at or after a position inside `hay` or at its end. -/
def position (needle hay : String) (start : Int) : Except CallFault Value :=
  let cs := hay.toList
  if start < 0 ∨ cs.length < start then .error .startOutside
  else
    match findFrom? needle.toList cs start.toNat with
    | some i => .ok (countValue i)
    | none => .error (.notFound needle)

/-- `FIND`: the position of a text in another one, searched from the start or from a position on. -/
def find : List Value → Except CallFault Value
  | [needle, hay] => position needle.toText hay.toText 0
  | [needle, hay, start] => do
    let i ← wholeArgument start
    position needle.toText hay.toText i
  | _ => .error (.argumentChoice "FIND" 2 3)

/-- `SUBSTITUTE`: every occurrence of a text by another one. -/
def substitute : List Value → Except CallFault Value
  | [arg, old, new] =>
    .ok (.text (String.ofList
      (replaceAll old.toText.toList new.toText.toList arg.toText.toList)))
  | _ => .error (.argumentCount "SUBSTITUTE" 3)

/-- `REPLACE`: some characters from a position on, counted from one, by a text. -/
def replace : List Value → Except CallFault Value
  | [arg, start, number, new] => do
    let i ← wholeArgument start
    let n ← wholeArgument number
    if i - 1 < 0 then throw .replaceStart
    if n < 0 then throw .replaceCount
    let cs := arg.toText.toList
    let first := (i - 1).toNat
    return .text (String.ofList
      (cs.take first ++ new.toText.toList ++ cs.drop (first + n.toNat)))
  | _ => .error (.argumentCount "REPLACE" 4)

/-- The sizes of texts are below this number. -/
def sizeBound : Nat := Nat.pow 2 63

/-- `REPT`: a text several times. -/
def repeated : List Value → Except CallFault Value
  | [arg, number] => do
    let n ← wholeArgument number
    if n < 0 then throw .negativeRepetition
    let cs := arg.toText.toList
    if textLimit < cs.length * n.toNat then throw .longRepetition
    if sizeBound ≤ n.toNat then throw (.number .sizeOutOfRange)
    if cs = [] then return .text ""
    return .text (String.ofList (List.replicate n.toNat cs).flatten)
  | _ => .error (.argumentCount "REPT" 2)

/-- `EXACT`: the same text, in the same case. -/
def exact : List Value → Except CallFault Value
  | [first, second] => .ok (Value.ofBool (first.toText == second.toText))
  | _ => .error (.argumentCount "EXACT" 2)

/-- A character that words stand between. -/
def isWordBoundary (c : Char) : Bool :=
  isBlank c || c == '-' || c == '_'

/-- The first letter of each word in upper case and the others in lower case, letter by letter. -/
def properFrom (atBoundary : Bool) : List Char → List Char
  | [] => []
  | c :: rest =>
    if isWordBoundary c then c :: properFrom true rest
    else (if atBoundary then Text.upperChar c else Text.lowerChar c) ++ properFrom false rest

/-- `PROPER` -/
def proper : List Value → Except CallFault Value :=
  ofText "PROPER" (properFrom true)

/-- A control character. -/
def isControl (c : Char) : Bool :=
  c.toNat < 0x20 || (0x7f ≤ c.toNat && c.toNat ≤ 0x9f)

/-- `CLEAN`: without the control characters. -/
def clean : List Value → Except CallFault Value :=
  ofText "CLEAN" fun cs => cs.filter (!isControl ·)

/-- The character with a code point. -/
def character? (x : Float) : Option Char :=
  match Number.integer? x with
  | some n => if 0 ≤ n ∧ n.toNat.isValidChar then some (Char.ofNat n.toNat) else none
  | none => none

/-- `CHAR`: the character with a code point. -/
def character : List Value → Except CallFault Value
  | [arg] =>
    match character? arg.toNumber with
    | some c => .ok (.text (String.ofList [c]))
    | none => .error (.codePoint arg.toNumber)
  | _ => .error (.argumentCount "CHAR" 1)

/-- `TEXT`: a value as a text; a format may be given and is not applied. -/
def text : List Value → Except CallFault Value
  | [arg] | [arg, _] => .ok (.text arg.toText)
  | _ => .error (.argumentChoice "TEXT" 1 2)

/-- `VALUE`: the number that a text is written as, with blanks around it or without. -/
def value : List Value → Except CallFault Value
  | [.number x] => .ok (.number x)
  | [.text s] =>
    match Value.numberOfText? (String.ofList (strip s.toList)) with
    | some x => .ok (.number x)
    | none => .error (.notANumber s)
  | _ => .error (.argumentCount "VALUE" 1)

end Function
end FormulaSheet
