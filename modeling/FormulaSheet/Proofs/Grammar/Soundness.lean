import FormulaSheet.Formula.Parser
import FormulaSheet.Proofs.Grammar.Derivation
import FormulaSheet.Proofs.Result

/-!
# What is read derives from the grammar

Every reader takes the tokens of a phrase from the front of its input (`Reads`). Each part of the
reader has a lemma that says so under the condition that the readers for nested parts do, with one
level of nesting less. The induction on the levels of nesting is `reader_sound`, and
`derives_of_parse` is the statement about whole formulas.
-/

namespace FormulaSheet

/-- Lexemes start with a phrase with the tree `e`, and go on with `rest`. -/
def Reads (n : Nat) (phrase : Phrase) (input : List Lexeme) (e : Expr) (rest : List Lexeme) : Prop :=
  ∃ used, input = used ++ rest ∧ Derives n phrase (used.map Lexeme.token) e

/-- Whatever a reader reads is a phrase of a kind. -/
def SoundReader (n : Nat) (phrase : Phrase) (read : Reader Expr) : Prop :=
  ∀ {input : List Lexeme} {reply : Reply Expr input}, read input = .ok reply →
    Reads n phrase input reply.result reply.rest

/-- The phrase that a part is read as. -/
def Part.phrase : Part → Phrase
  | expression => .expression
  | power => .levels []
  | operand => .signed

theorem split_trans {input middle rest front used : List Lexeme} (h : input = front ++ middle)
    (h' : middle = used ++ rest) : input = front ++ used ++ rest := by
  rw [h, h', List.append_assoc]

section Reading

variable {ending : Ending} {n : Nat}

/-! ### Operators that associate to the left -/

theorem operatorAt?_eq_some {level : Level} {token : Token} {op : BinaryOp}
    (h : operatorAt? level token = some op) :
    ∃ s, token = .symbol s ∧ level.operator? s = some op := by
  cases token with
  | symbol s => exact ⟨s, rfl, h⟩
  | number x => cases h
  | text s => cases h
  | cell ref => cases h
  | name ident => cases h

/-- A chain continues the phrase in front of it. -/
theorem chain_sound {level : Level} {ls : List Level} {operand : Reader Expr}
    (sound : SoundReader n (.levels ls) operand) {left : Expr} {input : List Lexeme}
    {reply : { reply : Expr × List Lexeme // reply.2.length ≤ input.length }}
    (h : chain ending level operand left input = .ok reply) {front : List Token}
    (first : Derives n (.levels (level :: ls)) front left) :
    ∃ used, input = used ++ reply.1.2 ∧
      Derives n (.levels (level :: ls)) (front ++ used.map Lexeme.token) reply.1.1 := by
  fun_induction chain ending level operand left input generalizing front with
  | case1 left =>
      cases h
      exact ⟨[], rfl, by simpa using first⟩
  | case2 left lexeme rest noOperator =>
      cases h
      exact ⟨[], rfl, by simpa using first⟩
  | case3 left lexeme rest op operator ih =>
      obtain ⟨_, _, h⟩ := bind_eq_ok.1 h
      obtain ⟨right, hright, h⟩ := bind_eq_ok.1 h
      obtain ⟨⟨⟨e, final⟩, bound⟩, hmore, h⟩ := bind_eq_ok.1 h
      cases h
      obtain ⟨s, symbol, found⟩ := operatorAt?_eq_some operator
      obtain ⟨operands, split, second⟩ := sound hright
      obtain ⟨used, split', whole⟩ := ih right hmore (Derives.chained first found second)
      refine ⟨lexeme :: operands ++ used, congrArg (lexeme :: ·) (split_trans split split'), ?_⟩
      simpa [symbol] using whole

theorem leftAssociative_sound {level : Level} {ls : List Level} {operand : Reader Expr}
    (sound : SoundReader n (.levels ls) operand) :
    SoundReader n (.levels (level :: ls)) (leftAssociative ending level operand) := by
  intro input reply h
  obtain ⟨first, hfirst, h⟩ := bind_eq_ok.1 h
  obtain ⟨⟨⟨e, final⟩, bound⟩, hmore, h⟩ := bind_eq_ok.1 h
  cases h
  obtain ⟨front, split, derived⟩ := sound hfirst
  obtain ⟨used, split', whole⟩ := chain_sound sound hmore (Derives.tighter derived)
  refine ⟨front ++ used, split_trans split split', ?_⟩
  rw [List.map_append]
  exact whole

theorem levels_sound {operand : Reader Expr} (sound : SoundReader n (.levels []) operand)
    (ls : List Level) :
    SoundReader n (.levels ls) (ls.foldr (leftAssociative ending) operand) := by
  induction ls with
  | nil => exact sound
  | cons level rest ih => exact leftAssociative_sound ih

/-! ### Calls and parentheses -/

theorem closing_sound {input : List Lexeme}
    {reply : { rest : List Lexeme // rest.length < input.length }}
    (h : closing ending input = .ok reply) :
    ∃ position, input = ⟨.symbol .closeParen, position⟩ :: reply.1 := by
  unfold closing at h
  split at h
  · obtain ⟨_, _, h⟩ := bind_eq_ok.1 h
    cases h
    exact ⟨_, rfl⟩
  · cases h

/-- More arguments are phrases with a comma in front of each. -/
theorem moreArguments_sound {argument : Reader Expr}
    (sound : SoundReader n .expression argument) {input : List Lexeme}
    {reply : { reply : List Expr × List Lexeme // reply.2.length ≤ input.length }}
    (h : moreArguments ending argument input = .ok reply) :
    ∃ (used : List Lexeme) (args : List (List Token × Expr)),
      input = used ++ reply.1.2 ∧ reply.1.1 = args.map Prod.snd ∧
        (∀ arg ∈ args, Derives n .expression arg.1 arg.2) ∧
        used.map Lexeme.token = args.flatMap fun arg => .symbol .comma :: arg.1 := by
  fun_induction moreArguments ending argument input with
  | case1 position rest ih =>
      obtain ⟨_, _, h⟩ := bind_eq_ok.1 h
      obtain ⟨next, hnext, h⟩ := bind_eq_ok.1 h
      obtain ⟨⟨⟨es, final⟩, bound⟩, hmore, h⟩ := bind_eq_ok.1 h
      cases h
      obtain ⟨first, split, derived⟩ := sound hnext
      obtain ⟨used, args, split', results, all, tokens⟩ := ih next hmore
      refine ⟨⟨.symbol .comma, position⟩ :: first ++ used,
        (first.map Lexeme.token, next.result) :: args,
        congrArg (_ :: ·) (split_trans split split'), ?_, ?_, ?_⟩
      · rw [List.map_cons, ← results]
      · intro arg mem
        rcases List.mem_cons.1 mem with rfl | later
        · exact derived
        · exact all arg later
      · simp [tokens]
  | case2 other noMore =>
      cases h
      exact ⟨[], [], rfl, rfl, by simp, rfl⟩

theorem arguments_sound {argument : Reader Expr} (sound : SoundReader n .expression argument)
    {input : List Lexeme} {reply : Reply (List Expr) input}
    (h : arguments ending argument input = .ok reply) :
    ∃ (used : List Lexeme) (args : List (List Token × Expr)),
      input = used ++ reply.rest ∧ reply.result = args.map Prod.snd ∧
        (∀ arg ∈ args, Derives n .expression arg.1 arg.2) ∧
        used.map Lexeme.token = separated args ++ [.symbol .closeParen] := by
  unfold arguments at h
  split at h
  · obtain ⟨_, _, h⟩ := bind_eq_ok.1 h
    cases h
    exact ⟨[⟨.symbol .closeParen, _⟩], [], rfl, rfl, by simp, rfl⟩
  · obtain ⟨first, hfirst, h⟩ := bind_eq_ok.1 h
    obtain ⟨⟨⟨es, middle⟩, bound⟩, hmore, h⟩ := bind_eq_ok.1 h
    obtain ⟨⟨final, shorter⟩, hclosing, h⟩ := bind_eq_ok.1 h
    cases h
    obtain ⟨front, split, derived⟩ := sound hfirst
    obtain ⟨used, args, split', results, all, tokens⟩ := moreArguments_sound sound hmore
    obtain ⟨position, closed⟩ := closing_sound hclosing
    refine ⟨front ++ used ++ [⟨.symbol .closeParen, position⟩],
      (front.map Lexeme.token, first.result) :: args, ?_, ?_, ?_, ?_⟩
    · exact split_trans (split_trans split split') closed
    · rw [List.map_cons, ← results]
    · intro arg mem
      rcases List.mem_cons.1 mem with rfl | later
      · exact derived
      · exact all arg later
    · rw [separated_cons, List.map_append, List.map_append, tokens]
      rfl

/-! ### One level of nesting -/

/-- The readers for nested parts read phrases with one level of nesting less. -/
def SoundBelow (n : Nat) (below : Option (Part → Reader Expr)) : Prop :=
  ∀ readers, below = some readers →
    ∃ m, n = m + 1 ∧ ∀ part : Part, SoundReader m part.phrase (readers part)

variable {limit : Int} {below : Option (Part → Reader Expr)}

theorem SoundBelow.of_nested (sound : SoundBelow n below) {readers : Part → Reader Expr}
    (h : nested limit below = .ok readers) :
    ∃ m, n = m + 1 ∧ ∀ part : Part, SoundReader m part.phrase (readers part) := by
  unfold nested at h
  split at h
  · cases h
  · cases h
    exact sound readers rfl

theorem reads_single {lexeme : Lexeme} {token : Token} (same : lexeme.token = token) {e : Expr}
    (h : Derives n .primary [token] e) (rest : List Lexeme) :
    Reads n .primary (lexeme :: rest) e rest := by
  refine ⟨[lexeme], rfl, ?_⟩
  rw [List.map_cons, same]
  exact h

theorem rangeOrCell_sound {start : String} {lexeme : Lexeme} (token : lexeme.token = .cell start)
    {rest : List Lexeme} {reply : Reply Expr (lexeme :: rest)}
    (h : rangeOrCell ending start rest = .ok reply) :
    Reads n .primary (lexeme :: rest) reply.result reply.rest := by
  unfold rangeOrCell at h
  split at h
  · next place finish place' rest =>
    obtain ⟨_, _, h⟩ := bind_eq_ok.1 h
    cases h
    refine ⟨[lexeme, ⟨.symbol .colon, place⟩, ⟨.cell finish, place'⟩], rfl, ?_⟩
    rw [List.map_cons, token]
    exact Derives.range start finish
  · obtain ⟨_, _, h⟩ := bind_eq_ok.1 h
    cases h
  · cases h
    exact reads_single token (Derives.cell start) _

theorem callOf_sound (sound : SoundBelow n below) {ident : String} {lexeme : Lexeme}
    (token : lexeme.token = .name ident) {rest : List Lexeme} {reply : Reply Expr (lexeme :: rest)}
    (h : callOf ending limit below ident rest = .ok reply) :
    Reads n .primary (lexeme :: rest) reply.result reply.rest := by
  unfold callOf at h
  split at h
  · next place rest =>
    obtain ⟨_, _, h⟩ := bind_eq_ok.1 h
    obtain ⟨readers, hreaders, h⟩ := bind_eq_ok.1 h
    obtain ⟨args, hargs, h⟩ := bind_eq_ok.1 h
    cases h
    obtain ⟨m, rfl, nested⟩ := sound.of_nested hreaders
    obtain ⟨used, parts, split, results, all, tokens⟩ :=
      arguments_sound (nested .expression) hargs
    refine ⟨lexeme :: ⟨.symbol .openParen, place⟩ :: used, ?_, ?_⟩
    · exact congrArg (fun more => lexeme :: _ :: more) split
    · rw [List.map_cons, List.map_cons, tokens, token, results]
      exact Derives.call ident parts all
  · cases h

theorem enclosed_sound (sound : SoundBelow n below) {lexeme : Lexeme}
    (token : lexeme.token = .symbol .openParen) {rest : List Lexeme}
    {reply : Reply Expr (lexeme :: rest)} (h : enclosed ending limit below rest = .ok reply) :
    Reads n .primary (lexeme :: rest) reply.result reply.rest := by
  obtain ⟨readers, hreaders, h⟩ := bind_eq_ok.1 h
  obtain ⟨inner, hinner, h⟩ := bind_eq_ok.1 h
  obtain ⟨⟨final, shorter⟩, hclosing, h⟩ := bind_eq_ok.1 h
  cases h
  obtain ⟨m, rfl, nested⟩ := sound.of_nested hreaders
  obtain ⟨used, split, derived⟩ := nested .expression hinner
  obtain ⟨position, closed⟩ := closing_sound hclosing
  refine ⟨lexeme :: (used ++ [⟨.symbol .closeParen, position⟩]), ?_, ?_⟩
  · exact congrArg (lexeme :: ·) (split_trans split closed)
  · rw [List.map_cons, List.map_append, token]
    exact Derives.parens derived

theorem primary_sound (sound : SoundBelow n below) :
    SoundReader n .primary (primary ending limit below) := by
  intro input reply h
  unfold primary at h
  split at h
  · cases h
  · next lexeme rest =>
    split at h
    · next x token =>
      obtain ⟨_, _, h⟩ := bind_eq_ok.1 h
      cases h
      exact reads_single token (Derives.number x) rest
    · next s token =>
      obtain ⟨_, _, h⟩ := bind_eq_ok.1 h
      cases h
      exact reads_single token (Derives.text s) rest
    · next ref token =>
      obtain ⟨_, _, h⟩ := bind_eq_ok.1 h
      exact rangeOrCell_sound token h
    · next ident token =>
      obtain ⟨_, _, h⟩ := bind_eq_ok.1 h
      exact callOf_sound sound token h
    · next token =>
      obtain ⟨_, _, h⟩ := bind_eq_ok.1 h
      exact enclosed_sound sound token h
    · cases h

theorem signed_of_primary (sound : SoundBelow n below) {input : List Lexeme}
    {reply : Reply Expr input} (h : primary ending limit below input = .ok reply) :
    Reads n .signed input reply.result reply.rest := by
  obtain ⟨used, split, derived⟩ := primary_sound sound h
  exact ⟨used, split, Derives.operand derived⟩

theorem signed_sound (sound : SoundBelow n below) :
    SoundReader n .signed (signed ending limit below) := by
  intro input reply h
  unfold signed at h
  split at h
  · next s place rest =>
    split at h
    · next sign symbol =>
      obtain ⟨_, _, h⟩ := bind_eq_ok.1 h
      obtain ⟨readers, hreaders, h⟩ := bind_eq_ok.1 h
      obtain ⟨operand, hoperand, h⟩ := bind_eq_ok.1 h
      cases h
      obtain ⟨m, rfl, nested⟩ := sound.of_nested hreaders
      obtain ⟨used, split, derived⟩ := nested .operand hoperand
      exact ⟨⟨.symbol s, place⟩ :: used, congrArg (_ :: ·) split, Derives.sign symbol derived⟩
    · exact signed_of_primary sound h
  · exact signed_of_primary sound h

theorem raised_sound (sound : SoundBelow n below) :
    SoundReader n (.levels []) (raised ending limit below) := by
  intro input reply h
  obtain ⟨base, hbase, h⟩ := bind_eq_ok.1 h
  obtain ⟨front, split, first⟩ := signed_sound sound hbase
  split at h
  · next place rest behind =>
    obtain ⟨_, _, h⟩ := bind_eq_ok.1 h
    obtain ⟨readers, hreaders, h⟩ := bind_eq_ok.1 h
    obtain ⟨exponent, hexponent, h⟩ := bind_eq_ok.1 h
    cases h
    obtain ⟨m, rfl, nested⟩ := sound.of_nested hreaders
    obtain ⟨used, split', second⟩ := nested .power hexponent
    refine ⟨front ++ ⟨.symbol .power, place⟩ :: used, ?_, ?_⟩
    · exact split_trans split (behind.trans (congrArg (_ :: ·) split'))
    · rw [List.map_append]
      exact Derives.power first second
  · cases h
    exact ⟨front, split, Derives.base first⟩

theorem partReader_sound (sound : SoundBelow n below) (part : Part) :
    SoundReader n part.phrase (partReader ending limit below part) := by
  cases part with
  | expression => exact levels_sound (raised_sound sound) Level.all
  | power => exact raised_sound sound
  | operand => exact signed_sound sound

/-- A reader for `n` levels of nesting reads phrases with at most `n` of them. -/
theorem reader_sound (n : Nat) (part : Part) :
    SoundReader n part.phrase (reader ending limit n part) := by
  induction n generalizing part with
  | zero =>
      refine partReader_sound ?_ part
      rintro readers ⟨⟩
  | succ n ih =>
      refine partReader_sound ?_ part
      rintro readers ⟨⟩
      exact ⟨n, rfl, ih⟩

end Reading

/-- A formula that is read derives from its lexemes, within the limit of nesting. -/
theorem derives_of_parse {limit : Int} {text : String} {e : Expr} (h : parse limit text = .ok e) :
    Derives limit.toNat .expression ((lexemes text).1.map Lexeme.token) e := by
  unfold parse parseLexemes at h
  obtain ⟨_, _, h⟩ := bind_eq_ok.1 h
  obtain ⟨reply, hreply, h⟩ := bind_eq_ok.1 h
  obtain ⟨used, split, derived⟩ := reader_sound limit.toNat .expression hreply
  split at h
  · next all =>
    cases h
    rw [all, List.append_nil] at split
    subst split
    exact derived
  · cases h

end FormulaSheet
