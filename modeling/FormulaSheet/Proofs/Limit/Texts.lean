import FormulaSheet.Function.Builtin
import FormulaSheet.Proofs.Function.Computation
import FormulaSheet.Proofs.Function.Replacement
import FormulaSheet.Proofs.Number.Length
import FormulaSheet.Proofs.Text.Length

/-!
# Which functions keep to the limit of texts

A text that is passed to a function may be as long as `textLimit`. `REPT` is the only function that looks at
the length of its result, but most of the others keep to the limit, too: they give a number, one of their
arguments, or a part of one, and the text of a number is short. Seven functions put texts together, put
longer ones in, or draw one character for each argument, and make a text that is too long out of texts that
are not.

* `KeepsShort` says of a function that it keeps to the limit, and `GivesShort` of one result that it does.
* `not_keepsShort` is how a function is shown to break the limit, by one call.
* `Builtin.isCapped_iff` lists the functions that break it, with `GET` left out, which gives what the network
  gives.
-/

namespace FormulaSheet

variable {σ α : Type}

/-- A number, or a text within the limit. -/
def Value.IsShort : Value → Prop
  | number _ => True
  | text s => s.length ≤ textLimit

@[simp] theorem Value.isShort_number (x : Float) : (number x).IsShort := trivial

@[simp] theorem Value.isShort_text {s : String} : (text s).IsShort ↔ s.length ≤ textLimit := Iff.rfl

theorem Value.IsShort.length_toText_le {v : Value} (h : v.IsShort) : v.toText.length ≤ textLimit := by
  cases v with
  | number x =>
      have few := Number.length_plain_lt x
      unfold textLimit
      rw [toText]
      omega
  | text s => exact h

/-! ### Results within the limit -/

/-- There is no value, or one within the limit. -/
def GivesShort (result : Except CallFault Value) : Prop :=
  ∀ v, result = .ok v → v.IsShort

namespace GivesShort

@[simp] theorem error (fault : CallFault) : GivesShort (.error fault) := by
  rintro v ⟨⟩

theorem ok {v : Value} (h : v.IsShort) : GivesShort (.ok v) := by
  rintro _ ⟨⟩
  exact h

@[simp] theorem number (x : Float) : GivesShort (.ok (.number x)) :=
  .ok trivial

@[simp] theorem map_number (result : Except CallFault Float) : GivesShort (result.map Value.number) := by
  cases result with
  | error fault => exact .error fault
  | ok x => exact .number x

/-- What counts is the last step of a computation, and what it knows of the earlier ones. -/
theorem bind {result : Except CallFault α} {f : α → Except CallFault Value}
    (last : ∀ a, GivesShort (f a)) : GivesShort (result >>= f) := by
  cases result with
  | error fault => exact .error fault
  | ok a => exact last a

theorem ofList {cs : List Char} (h : cs.length ≤ textLimit) :
    GivesShort (.ok (.text (String.ofList cs))) :=
  .ok (by simpa using h)

/-- A part of a short argument. -/
theorem part {arg : Value} (short : arg.IsShort) {cs : List Char}
    (h : cs.Sublist arg.toText.toList) : GivesShort (.ok (.text (String.ofList cs))) :=
  .ofList (h.length_le.trans (String.length_toList ▸ short.length_toText_le))

end GivesShort

/-- From short arguments the function gives short results only. -/
def KeepsShort (f : List Value → Except CallFault Value) : Prop :=
  ∀ args, (∀ arg ∈ args, arg.IsShort) → GivesShort (f args)

/-- A call with short arguments and a long result breaks the limit. -/
theorem not_keepsShort {f : List Value → Except CallFault Value} (args : List Value) {s : String}
    (short : ∀ arg ∈ args, arg.IsShort) (given : f args = .ok (.text s)) (long : textLimit < s.length) :
    ¬ KeepsShort f :=
  fun keeps => Nat.not_le.2 long (keeps args short (.text s) given)

namespace Function

/-! ### Functions that give numbers -/

theorem average_short (args : List Value) : GivesShort (average args) := by
  fun_cases average args <;> simp

theorem minimum_short (args : List Value) : GivesShort (minimum args) := by
  fun_cases minimum args <;> simp

theorem maximum_short (args : List Value) : GivesShort (maximum args) := by
  fun_cases maximum args <;> simp

theorem negate_short (args : List Value) : GivesShort (negate args) := by
  fun_cases negate args <;> simp [Value.ofBool]

theorem kind_short (args : List Value) : GivesShort (kind args) := by
  fun_cases kind args <;> simp

theorem test_short (name : String) (holds : Value → Bool) (args : List Value) :
    GivesShort (test name holds args) := by
  fun_cases test name holds args <;> simp [Value.ofBool]

theorem unary_short (name : String) (f : Float → Except CallFault Float) (args : List Value) :
    GivesShort (unary name f args) := by
  fun_cases unary name f args <;> simp

theorem logarithm_short (args : List Value) : GivesShort (logarithm args) := by
  fun_cases logarithm args <;> simp

theorem round_short (args : List Value) : GivesShort (round args) := by
  fun_cases round args
  · simp
  · exact .bind fun n => .bind fun rounded => .number rounded
  · simp

theorem modulo_short (args : List Value) : GivesShort (modulo args) := by
  fun_cases modulo args <;> simp

theorem power_short (args : List Value) : GivesShort (power args) := by
  fun_cases power args <;> simp

theorem length_short (args : List Value) : GivesShort (length args) := by
  fun_cases length args <;> simp [countValue]

theorem code_short (args : List Value) : GivesShort (code args) := by
  fun_cases code args <;> simp [countValue]

theorem position_short (needle hay : String) (start : Int) : GivesShort (position needle hay start) := by
  fun_cases position needle hay start <;> simp [countValue]

theorem find_short (args : List Value) : GivesShort (find args) := by
  fun_cases find args
  · exact position_short _ _ _
  · exact .bind fun i => position_short _ _ i
  · simp

theorem exact_short (args : List Value) : GivesShort (exact args) := by
  fun_cases exact args <;> simp [Value.ofBool]

theorem value_short (args : List Value) : GivesShort (value args) := by
  fun_cases value args <;> simp

/-! ### Functions that give an argument, or a part of one -/

theorem choose_keepsShort : KeepsShort choose := by
  intro args short
  fun_cases choose args
  · next condition whenTrue whenFalse =>
    refine .ok ?_
    split
    · exact short whenTrue (by simp)
    · exact short whenFalse (by simp)
  · exact .error _

theorem text_keepsShort : KeepsShort text := by
  intro args short
  fun_cases text args
  · next arg => exact .ok (short arg (by simp)).length_toText_le
  · next arg _ => exact .ok (short arg (by simp)).length_toText_le
  · exact .error _

theorem ofText_keepsShort (name : String) {f : List Char → List Char}
    (h : ∀ cs, (f cs).Sublist cs) : KeepsShort (ofText name f) := by
  intro args short
  fun_cases ofText name f args
  · next arg => exact .part (short arg (by simp)) (h _)
  · exact .error _

theorem left_keepsShort : KeepsShort left := by
  intro args short
  fun_cases left args
  · next arg number => exact .bind fun n => .part (short arg (by simp)) (List.take_sublist n _)
  · exact .error _

theorem ending_sublist (n : Nat) (cs : List Char) : (ending n cs).Sublist cs := by
  unfold ending
  split
  · exact List.nil_sublist cs
  · exact List.drop_sublist _ cs

theorem right_keepsShort : KeepsShort right := by
  intro args short
  fun_cases right args
  · next arg number => exact .bind fun n => .part (short arg (by simp)) (ending_sublist n _)
  · exact .error _

theorem middle_keepsShort : KeepsShort middle := by
  intro args short
  fun_cases middle args
  · next arg start number =>
    exact .bind fun i => .bind fun n => .part (short arg (by simp)) (Text.slice_sublist i n _)
  · exact .error _

theorem character_short (args : List Value) : GivesShort (character args) := by
  fun_cases character args
  · next c _ =>
    have single : [c].length ≤ textLimit := Nat.succ_le_succ (Nat.zero_le _)
    exact .ofList single
  · exact .error _
  · exact .error _

/-- `REPT` compares the length of its result before it makes it. -/
theorem repeated_short (args : List Value) : GivesShort (repeated args) := by
  fun_cases repeated args
  · refine .bind fun n => ?_
    dsimp only
    split
    · exact .error _
    · split
      · exact .error _
      · next fits =>
        split
        · exact .error _
        · split
          · exact .ofList (Nat.zero_le _)
          · refine .ofList ?_
            rw [List.length_flatten, List.map_replicate, List.sum_replicate_nat, Nat.mul_comm]
            exact Nat.not_lt.1 fits
  · exact .error _

/-! ### Functions that make a long text -/

/-- One character, as often as the limit allows. -/
def full (c : Char) : String :=
  String.ofList (List.replicate textLimit c)

@[simp] theorem length_full (c : Char) : (full c).length = textLimit := by
  simp [full]

theorem textLimit_lt_double : textLimit < textLimit * 2 := by
  decide

/-- Nothing looks at the length of what is put together. -/
theorem concat_not_keepsShort : ¬ KeepsShort concat := by
  have short : "b".length ≤ textLimit := by decide
  have filled : 0 < "b".length := by decide
  exact not_keepsShort [.text (full 'a'), .text "b"] (by simp [short]) rfl (by simp [filled])

/-- The sharp s becomes two letters in upper case. -/
theorem upper_not_keepsShort : ¬ KeepsShort upper := by
  have two : (Text.upperChar 'ß').length = 2 := by decide +kernel
  refine not_keepsShort [.text (full 'ß')] (by simp) rfl ?_
  simpa [full, Text.length_upper, two] using textLimit_lt_double

/-- The capital i with a dot becomes a letter and its dot in lower case. -/
theorem lower_not_keepsShort : ¬ KeepsShort lower := by
  have two : (Text.lowerChar (Char.ofNat 0x130)).length = 2 := by decide +kernel
  refine not_keepsShort [.text (full (Char.ofNat 0x130))] (by simp) rfl ?_
  simpa [full, Text.length_lower, two] using textLimit_lt_double

/-- The first letter of a word becomes two, and none of the others is lost. -/
theorem proper_not_keepsShort : ¬ KeepsShort proper := by
  have two : (Text.upperChar 'ß').length = 2 := by decide +kernel
  obtain ⟨n, size⟩ : ∃ n, textLimit = n + 1 := ⟨32766, rfl⟩
  have longer := length_le_properFrom_cons (by decide +kernel : isWordBoundary 'ß' = false)
    (List.replicate n 'ß')
  rw [two, List.length_replicate, ← List.replicate_succ, ← size] at longer
  refine not_keepsShort [.text (full 'ß')] (by simp) rfl ?_
  rw [Value.toText_text, full, String.toList_ofList, String.length_ofList]
  omega

/-- Each occurrence is replaced by a longer text. -/
theorem substitute_not_keepsShort : ¬ KeepsShort substitute := by
  have short : "a".length ≤ textLimit ∧ "bb".length ≤ textLimit := by decide
  refine not_keepsShort [.text (full 'a'), .text "a", .text "bb"] (by simp [short]) rfl ?_
  simpa [Text.replaceAll, Text.replaceOccurrences_singleton, full] using textLimit_lt_double

/-- Nothing is replaced, and a text is put in. -/
theorem replace_not_keepsShort : ¬ KeepsShort replace := by
  have short : "b".length ≤ textLimit := by decide
  have filled : 0 < "b".length := by decide
  have first : (Value.number 1).IsNatural (0 + 1) := by
    unfold Value.IsNatural
    decide +kernel
  have nothing : (Value.number 0).IsNatural 0 := by
    unfold Value.IsNatural
    decide +kernel
  refine not_keepsShort [.text (full 'a'), .number 1, .number 0, .text "b"] (by simp [short])
    (replace_of_isNatural first nothing) ?_
  simp [Text.spliced, filled]

theorem foldl_replicate {f : α → α → α} {a : α} (h : f a a = a) (n : Nat) :
    (List.replicate n a).foldl f a = a := by
  induction n with
  | zero => rfl
  | succ n ih => rw [List.replicate_succ, List.foldl_cons, h, ih]

/-- Equal numbers are drawn as bars of half the height, one for each. -/
theorem sparkline_replicate {x : Float} (h : (x == x) = true) (n : Nat) :
    sparkline (List.replicate (n + 1) (.number x)) =
      .ok (.text (String.ofList (List.replicate (n + 1) (bars.getD 4 ' ')))) := by
  have numbers : (List.replicate n (Value.number x)).map Value.toNumber = List.replicate n x := by
    rw [List.map_replicate, Value.toNumber_number]
  have low : least x (List.replicate n x) = x := by
    rw [least]
    exact foldl_replicate (by simp) n
  have high : greatest x (List.replicate n x) = x := by
    rw [greatest]
    exact foldl_replicate (by simp) n
  rw [List.replicate_succ, sparkline, numbers]
  simp only [Value.toNumber_number, low, high, h, if_true]
  rw [← List.replicate_succ, List.map_replicate]
  rfl

/-- There is a bar for each argument, however many there are. -/
theorem sparkline_not_keepsShort : ¬ KeepsShort sparkline :=
  not_keepsShort (List.replicate (textLimit + 1) (.number 0)) (by simp)
    (sparkline_replicate (by decide +kernel) textLimit) (by simp)

end Function

/-! ### Calls in a world -/

/-- From short arguments a call in a state of the world gives no long text. -/
def SheetFunction.IsCapped (f : SheetFunction σ) (before : σ) : Prop :=
  ∀ args, (∀ arg ∈ args, arg.IsShort) →
    ∀ v after, (f args).run.run before = (.ok (.value v), after) → v.IsShort

namespace Function

theorem computed_isCapped_iff (f : List Value → Except CallFault Value) (before : σ) :
    (computed f : SheetFunction σ).IsCapped before ↔ KeepsShort f := by
  constructor
  · intro capped args short v given
    refine capped args short v before ?_
    rw [computed, given]
    rfl
  · intro keeps args short v after run
    refine keeps args short v ?_
    rw [computed] at run
    cases result : f args with
    | error fault =>
        rw [result] at run
        cases run
    | ok w =>
        rw [result] at run
        cases run
        rfl

theorem random_isCapped (world : World σ) (before : σ) : (random world).IsCapped before := by
  intro args _ v after run
  unfold random at run
  split at run
  · obtain ⟨x, between, _, last⟩ := run_bind_eq_ok run
    cases last
    exact Value.isShort_number x
  · cases run

theorem randomBetween_isCapped (world : World σ) (before : σ) :
    (randomBetween world).IsCapped before := by
  intro args _ v after run
  unfold randomBetween at run
  split at run
  · obtain ⟨low, _, _, run⟩ := run_bind_eq_ok run
    obtain ⟨high, _, _, run⟩ := run_bind_eq_ok run
    dsimp only at run
    split at run
    · cases run
    · obtain ⟨drawn, _, _, last⟩ := run_bind_eq_ok run
      cases last
      exact Value.isShort_number _
  · cases run

end Function

namespace Builtin

variable (world : World σ) (before : σ) {b : Builtin}

/-- The functions that make long texts out of short ones. -/
def uncapped : List Builtin :=
  [.concat, .upper, .lower, .substitute, .replace, .proper, .sparkline]

theorem not_isCapped (mem : b ∈ uncapped) : ¬ (b.run world).IsCapped before := by
  simp only [uncapped, List.mem_cons, List.not_mem_nil, or_false] at mem
  rcases mem with rfl | rfl | rfl | rfl | rfl | rfl | rfl
  · exact mt (Function.computed_isCapped_iff _ before).1 Function.concat_not_keepsShort
  · exact mt (Function.computed_isCapped_iff _ before).1 Function.upper_not_keepsShort
  · exact mt (Function.computed_isCapped_iff _ before).1 Function.lower_not_keepsShort
  · exact mt (Function.computed_isCapped_iff _ before).1 Function.substitute_not_keepsShort
  · exact mt (Function.computed_isCapped_iff _ before).1 Function.replace_not_keepsShort
  · exact mt (Function.computed_isCapped_iff _ before).1 Function.proper_not_keepsShort
  · exact mt (Function.computed_isCapped_iff _ before).1 Function.sparkline_not_keepsShort

theorem isCapped (offline : b ≠ .get) (other : b ∉ uncapped) : (b.run world).IsCapped before := by
  have keeps {f : List Value → Except CallFault Value} (h : KeepsShort f) :
      (Function.computed f : SheetFunction σ).IsCapped before :=
    (Function.computed_isCapped_iff f before).2 h
  have gives {f : List Value → Except CallFault Value} (h : ∀ args, GivesShort (f args)) :
      (Function.computed f : SheetFunction σ).IsCapped before :=
    keeps fun args _ => h args
  cases b with
  | get => exact absurd rfl offline
  | concat | upper | lower | substitute | replace | proper | sparkline => exact absurd (by decide) other
  | random => exact Function.random_isCapped world before
  | randomBetween => exact Function.randomBetween_isCapped world before
  | sum | count | countFilled | all | any => exact gives fun args => .number _
  | isBlank | isNumber | isText => exact gives (Function.test_short _ _)
  | absolute | ceiling | floor | integer | exponential | sign | squareRoot | naturalLogarithm =>
      exact gives (Function.unary_short _ _)
  | average => exact gives Function.average_short
  | minimum => exact gives Function.minimum_short
  | maximum => exact gives Function.maximum_short
  | negate => exact gives Function.negate_short
  | kind => exact gives Function.kind_short
  | logarithm => exact gives Function.logarithm_short
  | round => exact gives Function.round_short
  | modulo => exact gives Function.modulo_short
  | power => exact gives Function.power_short
  | length => exact gives Function.length_short
  | code => exact gives Function.code_short
  | find => exact gives Function.find_short
  | exact => exact gives Function.exact_short
  | value | numberValue => exact gives Function.value_short
  | character => exact gives Function.character_short
  | repeated => exact gives Function.repeated_short
  | choose => exact keeps Function.choose_keepsShort
  | text => exact keeps Function.text_keepsShort
  | trim => exact keeps (Function.ofText_keepsShort _ Text.strip_sublist)
  | clean => exact keeps (Function.ofText_keepsShort _ fun cs => List.filter_sublist)
  | left => exact keeps Function.left_keepsShort
  | right => exact keeps Function.right_keepsShort
  | middle => exact keeps Function.middle_keepsShort

/-- The functions that break the limit of texts are those that put texts together, change their case, put a
text into another one, or draw a bar for each argument. All others but `GET` keep to it. -/
theorem isCapped_iff (offline : b ≠ .get) : (b.run world).IsCapped before ↔ b ∉ uncapped :=
  ⟨fun capped mem => not_isCapped world before mem capped, isCapped world before offline⟩

/-- `REPT` keeps to the limit, and `SUBSTITUTE` does not. -/
theorem isCapped_repeated :
    Builtin.repeated ≠ .get ∧ (Builtin.repeated.run World.still).IsCapped () ∧
      Builtin.substitute ≠ .get ∧ ¬ (Builtin.substitute.run World.still).IsCapped () :=
  ⟨by decide, (isCapped_iff World.still () (by decide)).2 (by decide), by decide,
    mt (isCapped_iff World.still () (by decide)).1 (by decide)⟩

/-- A text that is as long as allowed and one more character are put together to a longer text. -/
theorem not_isShort_concat :
    (∀ arg ∈ [Value.text (Function.full 'a'), Value.text "b"], arg.IsShort) ∧
      ∃ v, (Builtin.concat.run World.still [.text (Function.full 'a'), .text "b"]).run.run () =
        (.ok (.value v), ()) ∧ ¬ v.IsShort := by
  have short : "b".length ≤ textLimit := by decide
  exact ⟨by simp [short], _, rfl, by simp⟩

end Builtin
end FormulaSheet
