import FormulaSheet.Formula.Scan
import FormulaSheet.Proofs.Text.Character
import Mathlib.Data.List.Basic
import Mathlib.Data.List.TakeWhile

/-!
# The runs of a text

A text is a front without letters and digits, and behind it maximal runs of them, each with the gap
that follows it. `SplitsInto` says this without the algorithm. It determines the runs
(`runs_append_of_splitsInto`), and every text is split in this way (`splitsInto_runs`).

The rest of the module says what the scan sees behind a place in the middle of a text. The runs in
front of that place are not changed by what follows it, except that the gap of the last one grows
(`runs_append`); and if that gap is no range gap, the pairs behind the place are formed as if the text
began there (`mem_rangePairs_append`).
-/

namespace FormulaSheet

/-- A run of letters and digits with a gap behind it. -/
structure Run.Proper (run : Run) : Prop where
  nonempty : run.word ≠ []
  word : ∀ c ∈ run.word, c.isAlphanum = true
  gap : ∀ c ∈ run.gap, c.isAlphanum = false

/-- A text consists of runs. Between two of them there is a gap. -/
inductive SplitsInto : List Char → List Run → Prop
  | nil : SplitsInto [] []
  | cons {run : Run} {cs : List Char} {rest : List Run} (proper : run.Proper)
      (apart : rest ≠ [] → run.gap ≠ []) (behind : SplitsInto cs rest) :
      SplitsInto (run.word ++ run.gap ++ cs) (run :: rest)

theorem runs_of_front {cs : List Char} (h : ∀ c ∈ cs, c.isAlphanum = false) : runs cs = [] := by
  have ended : cs.dropWhile (!Char.isAlphanum ·) = [] := by
    rw [List.dropWhile_eq_nil_iff]
    intro c mem
    rw [h c mem]
    rfl
  rw [runs]
  split
  · rfl
  · next c rest found =>
    rw [ended] at found
    cases found

theorem runs_of_dropWhile {cs rest : List Char} {c : Char}
    (h : cs.dropWhile (!Char.isAlphanum ·) = c :: rest) :
    runs cs =
      ⟨c :: rest.takeWhile Char.isAlphanum,
        (rest.dropWhile Char.isAlphanum).takeWhile (!Char.isAlphanum ·)⟩ ::
        runs (rest.dropWhile Char.isAlphanum) := by
  rw [runs]
  split
  · next ended =>
    rw [h] at ended
    cases ended
  · next d others found =>
    rw [h] at found
    cases found
    rfl

/-- A text that consists of runs starts with a letter or a digit. -/
theorem SplitsInto.head {cs : List Char} {rs : List Run} (h : SplitsInto cs rs) {c : Char}
    (mem : c ∈ cs.head?) : c.isAlphanum = true := by
  cases h with
  | nil => cases mem
  | @cons run cs rest proper apart behind =>
      obtain ⟨d, others, word⟩ := List.exists_cons_of_ne_nil proper.nonempty
      rw [word] at mem
      cases mem
      exact proper.word c (word ▸ List.mem_cons_self)

theorem SplitsInto.exists_head {cs : List Char} {rs : List Run} (h : SplitsInto cs rs)
    (ne : rs ≠ []) : ∃ c, c ∈ cs.head? := by
  cases h with
  | nil => exact absurd rfl ne
  | @cons run cs rest proper apart behind =>
      obtain ⟨c, others, word⟩ := List.exists_cons_of_ne_nil proper.nonempty
      exact ⟨c, by rw [word]; rfl⟩

theorem SplitsInto.ne_nil {cs : List Char} {rs : List Run} (h : SplitsInto cs rs)
    (ne : rs ≠ []) : cs ≠ [] := by
  obtain ⟨c, head⟩ := h.exists_head ne
  rintro rfl
  cases head

/-- The runs of a text are the only way to split it. -/
theorem runs_append_of_splitsInto {cs : List Char} {rs : List Run} (h : SplitsInto cs rs)
    {front : List Char} (blank : ∀ c ∈ front, c.isAlphanum = false) : runs (front ++ cs) = rs := by
  -- The gap of each run is the front of the runs behind it.
  induction h generalizing front with
  | nil =>
      rw [List.append_nil]
      exact runs_of_front blank
  | @cons run cs rest proper apart behind ih =>
      obtain ⟨c, word, eq⟩ := List.exists_cons_of_ne_nil proper.nonempty
      have alphanum : ∀ d ∈ word, d.isAlphanum = true := fun d mem =>
        proper.word d (eq ▸ List.mem_cons_of_mem c mem)
      have closed : ∀ d ∈ (run.gap ++ cs).head?, d.isAlphanum = false := by
        intro d mem
        cases gap : run.gap with
        | nil =>
            rw [gap] at mem
            cases rest with
            | nil => cases behind; cases mem
            | cons r others => exact absurd gap (apart (List.cons_ne_nil r others))
        | cons g others =>
            rw [gap] at mem
            cases mem
            exact proper.gap d (gap ▸ List.mem_cons_self)
      have opened : ∀ d ∈ cs.head?, (!d.isAlphanum) = false := fun d mem => by
        rw [behind.head mem]
        rfl
      have skipped : (front ++ (run.word ++ run.gap ++ cs)).dropWhile (!Char.isAlphanum ·) =
          c :: (word ++ (run.gap ++ cs)) := by
        rw [eq, List.append_assoc, List.cons_append]
        refine Text.dropWhile_append_of_head (fun d mem => by rw [blank d mem]; rfl) ?_
        rintro _ ⟨⟩
        rw [proper.word c (eq ▸ List.mem_cons_self)]
        rfl
      have gaps : (run.gap ++ cs).takeWhile (!Char.isAlphanum ·) = run.gap :=
        Text.takeWhile_append_of_head (fun d mem => by rw [proper.gap d mem]; rfl) opened
      rw [runs_of_dropWhile skipped, Text.takeWhile_append_of_head alphanum closed,
        Text.dropWhile_append_of_head alphanum closed, gaps, ih proper.gap, ← eq]

/-- A word at the front of a text is a run if it cannot be continued. -/
theorem SplitsInto.cons_word {word gap tail : List Char} {rs : List Run} (ne : word ≠ [])
    (all : ∀ c ∈ word, c.isAlphanum = true) (blank : ∀ c ∈ gap, c.isAlphanum = false)
    (stop : ∀ c ∈ (gap ++ tail).head?, c.isAlphanum = false) (behind : SplitsInto tail rs) :
    SplitsInto (word ++ (gap ++ tail)) (⟨word, gap⟩ :: rs) := by
  have proper : Run.Proper ⟨word, gap⟩ := ⟨ne, all, blank⟩
  have apart : rs ≠ [] → gap ≠ [] := by
    rintro more rfl
    obtain ⟨c, mem⟩ := behind.exists_head more
    have closed := stop c mem
    rw [behind.head mem] at closed
    cases closed
  rw [← List.append_assoc]
  exact SplitsInto.cons proper apart behind

/-- Every text is split into its runs, behind a front without letters and digits. -/
theorem splitsInto_runs (cs : List Char) :
    ∃ front tail, cs = front ++ tail ∧ (∀ c ∈ front, c.isAlphanum = false) ∧
      SplitsInto tail (runs cs) := by
  fun_induction runs cs with
  | case1 cs ended =>
      refine ⟨cs, [], (List.append_nil cs).symm, ?_, SplitsInto.nil⟩
      intro c mem
      have here := List.dropWhile_eq_nil_iff.1 ended c mem
      simpa using here
  | case2 cs c rest found behind ih =>
      obtain ⟨gap, tail, split, blank, inner⟩ := ih
      have first : c.isAlphanum = true := by
        have front : c ∈ (cs.dropWhile (!Char.isAlphanum ·)).head? := by
          rw [found]
          rfl
        simpa using Text.head_dropWhile front
      have gaps : behind.takeWhile (!Char.isAlphanum ·) = gap := by
        rw [split]
        refine Text.takeWhile_append_of_head (fun d mem => by rw [blank d mem]; rfl) ?_
        intro d mem
        rw [inner.head mem]
        rfl
      have word : ∀ d ∈ c :: rest.takeWhile Char.isAlphanum, d.isAlphanum = true := by
        intro d mem
        rcases List.mem_cons.1 mem with rfl | later
        · exact first
        · exact List.mem_takeWhile_imp later
      have stop : ∀ d ∈ (gap ++ tail).head?, d.isAlphanum = false := by
        rw [← split]
        exact fun d mem => Text.head_dropWhile mem
      refine ⟨cs.takeWhile (!Char.isAlphanum ·), c :: rest, ?_, ?_, ?_⟩
      · rw [← found, List.takeWhile_append_dropWhile]
      · intro d mem
        simpa using List.mem_takeWhile_imp mem
      · have whole : c :: rest = (c :: rest.takeWhile Char.isAlphanum) ++ (gap ++ tail) := by
          rw [← split, List.cons_append, List.takeWhile_append_dropWhile]
        rw [whole, gaps]
        exact SplitsInto.cons_word (List.cons_ne_nil _ _) word blank stop inner

/-- A word that cannot be continued is the first run of the text that it is in front of. -/
theorem exists_splitsInto_word {word behind : List Char} (ne : word ≠ [])
    (all : ∀ c ∈ word, c.isAlphanum = true) (stop : ∀ c ∈ behind.head?, c.isAlphanum = false) :
    ∃ gap rs, SplitsInto (word ++ behind) (⟨word, gap⟩ :: rs) := by
  obtain ⟨gap, tail, rfl, blank, inner⟩ := splitsInto_runs behind
  exact ⟨gap, _, SplitsInto.cons_word ne all blank stop inner⟩

/-- What follows a text that ends with no letter or digit changes nothing in its runs, except that
the gap of the last one grows. -/
theorem SplitsInto.append {cs : List Char} {rs : List Run} (h : SplitsInto cs rs) (ne : rs ≠ [])
    (last : ∀ c ∈ cs.getLast?, c.isAlphanum = false) {blanks : List Char}
    (blank : ∀ c ∈ blanks, c.isAlphanum = false) {ds : List Char} {more : List Run}
    (behind : SplitsInto ds more) :
    ∃ front run, SplitsInto (cs ++ blanks ++ ds) (front ++ run :: more) ∧
      ∀ c ∈ cs.getLast?, c ∈ run.gap := by
  induction h with
  | nil => exact absurd rfl ne
  | @cons run cs rest proper apart inner ih =>
      by_cases single : rest = []
      · subst single
        cases inner
        rw [List.append_nil] at last ⊢
        have gap : run.gap ≠ [] := by
          intro empty
          rw [empty, List.append_nil, List.getLast?_eq_some_getLast proper.nonempty] at last
          have closed := last _ rfl
          rw [proper.word _ (List.getLast_mem proper.nonempty)] at closed
          cases closed
        have grown : Run.Proper ⟨run.word, run.gap ++ blanks⟩ :=
          { nonempty := proper.nonempty
            word := proper.word
            gap := by
              intro c mem
              rcases List.mem_append.1 mem with old | new
              · exact proper.gap c old
              · exact blank c new }
        refine ⟨[], ⟨run.word, run.gap ++ blanks⟩, ?_, ?_⟩
        · have text : run.word ++ run.gap ++ blanks ++ ds =
              run.word ++ (run.gap ++ blanks) ++ ds := by
            simp only [List.append_assoc]
          rw [text]
          exact SplitsInto.cons grown (fun _ => by simp [gap]) behind
        · intro c mem
          rw [List.getLast?_append_of_ne_nil _ gap] at mem
          exact List.mem_append_left blanks (List.mem_of_mem_getLast? mem)
      · rw [List.getLast?_append_of_ne_nil _ (inner.ne_nil single)] at last ⊢
        obtain ⟨front, last, split, gap⟩ := ih single last
        refine ⟨run :: front, last, ?_, gap⟩
        have text : run.word ++ run.gap ++ cs ++ blanks ++ ds =
            run.word ++ run.gap ++ (cs ++ blanks ++ ds) := by
          simp only [List.append_assoc]
        rw [text]
        exact SplitsInto.cons proper (fun _ => apart single) split

/-- The runs behind a place are found wherever the text begins, if no run crosses that place. The
last character in front of it is in the gap of the run that is next in front. -/
theorem runs_append {cs blanks ds : List Char} {more : List Run}
    (last : ∀ c ∈ cs.getLast?, c.isAlphanum = false) (blank : ∀ c ∈ blanks, c.isAlphanum = false)
    (behind : SplitsInto ds more) :
    ∃ front, runs (cs ++ blanks ++ ds) = front ++ more ∧ (cs = [] → front = []) ∧
      ∀ run ∈ front.getLast?, ∀ c ∈ cs.getLast?, c ∈ run.gap := by
  obtain ⟨start, tail, rfl, outside, inner⟩ := splitsInto_runs cs
  by_cases noRuns : runs (start ++ tail) = []
  · rw [noRuns] at inner
    cases inner
    rw [List.append_nil]
    refine ⟨[], runs_append_of_splitsInto behind ?_, fun _ => rfl, by simp⟩
    intro c mem
    rcases List.mem_append.1 mem with old | new
    · exact outside c old
    · exact blank c new
  · have ne : tail ≠ [] := inner.ne_nil noRuns
    rw [List.getLast?_append_of_ne_nil _ ne] at last ⊢
    obtain ⟨front, run, split, gap⟩ := inner.append noRuns last blank behind
    refine ⟨front ++ [run], ?_, ?_, ?_⟩
    · rw [List.append_assoc, List.append_assoc, ← List.append_assoc tail,
        runs_append_of_splitsInto split outside, List.append_assoc, List.singleton_append]
    · intro empty
      exact absurd (List.append_eq_nil_iff.1 empty).2 ne
    · intro other mem
      rw [List.getLast?_concat] at mem
      cases mem
      exact gap

theorem SplitsInto.isInfix {cs : List Char} {rs : List Run} (h : SplitsInto cs rs) {run : Run}
    (mem : run ∈ rs) : run.word <:+: cs := by
  induction h with
  | nil => cases mem
  | @cons first cs rest proper apart behind ih =>
      rcases List.mem_cons.1 mem with rfl | later
      · exact ⟨[], run.gap ++ cs, by simp⟩
      · exact (ih later).trans (List.suffix_append _ cs).isInfix

/-- A run is a part of the text. -/
theorem infix_of_mem_runs {cs : List Char} {run : Run} (h : run ∈ runs cs) : run.word <:+: cs := by
  obtain ⟨front, tail, rfl, _, split⟩ := splitsInto_runs cs
  exact (split.isInfix h).trans (List.suffix_append front tail).isInfix

/-! ### Pairs of runs -/

/-- A pair is made of two runs. -/
theorem exists_of_mem_rangePairs {rs : List Run} {pair : List Char × List Char}
    (h : pair ∈ rangePairs rs) :
    (∃ run ∈ rs, run.word = pair.1) ∧ ∃ run ∈ rs, run.word = pair.2 := by
  fun_induction rangePairs rs with
  | case1 first second rest gap ih =>
      rcases List.mem_cons.1 h with rfl | later
      · exact ⟨⟨first, by simp, rfl⟩, ⟨second, by simp, rfl⟩⟩
      · obtain ⟨⟨a, memA, wordA⟩, ⟨b, memB, wordB⟩⟩ := ih later
        exact ⟨⟨a, by simp [memA], wordA⟩, ⟨b, by simp [memB], wordB⟩⟩
  | case2 first second rest gap ih =>
      obtain ⟨⟨a, memA, wordA⟩, ⟨b, memB, wordB⟩⟩ := ih h
      exact ⟨⟨a, List.mem_cons_of_mem first memA, wordA⟩,
        ⟨b, List.mem_cons_of_mem first memB, wordB⟩⟩
  | case3 short noPair => cases h

theorem isRangeGap_of_blanks {before behind : List Char}
    (front : ∀ b ∈ before, Text.isBlank b = true) (back : ∀ b ∈ behind, Text.isBlank b = true) :
    isRangeGap (before ++ ':' :: behind) = true := by
  rw [isRangeGap, Text.strip_around front back (by decide)]
  rfl

theorem isRangeGap_of_mem {gap : List Char} {c : Char} (mem : c ∈ gap)
    (solid : Text.isBlank c = false) (ne : c ≠ ':') : isRangeGap gap = false := by
  rw [isRangeGap, beq_eq_false_iff_ne]
  intro colon
  have inside := Text.mem_strip mem solid
  rw [colon, List.mem_singleton] at inside
  exact ne inside

/-- Behind a run that has no range gap the pairs are formed as if the text began there. -/
theorem mem_rangePairs_append {front more : List Run}
    (apart : ∀ run ∈ front.getLast?, isRangeGap run.gap = false)
    {pair : List Char × List Char} (h : pair ∈ rangePairs more) :
    pair ∈ rangePairs (front ++ more) := by
  fun_induction rangePairs front with
  | case1 first second rest gap ih =>
      have later : pair ∈ rangePairs (rest ++ more) := by
        refine ih fun run mem => apart run ?_
        rw [List.getLast?_cons, List.getLast?_cons, Option.mem_def.1 mem]
        rfl
      rw [List.cons_append, List.cons_append, rangePairs, if_pos gap]
      exact List.mem_cons_of_mem _ later
  | case2 first second rest gap ih =>
      have later : pair ∈ rangePairs (second :: rest ++ more) := by
        refine ih fun run mem => apart run ?_
        rw [List.getLast?_cons, Option.mem_def.1 mem]
        rfl
      rw [List.cons_append, List.cons_append, rangePairs, if_neg gap]
      exact later
  | case3 short noPair =>
      cases short with
      | nil => exact h
      | cons run others =>
          cases others with
          | cons second rest => exact (noPair run second rest rfl).elim
          | nil =>
              cases more with
              | nil => cases h
              | cons next rest =>
                  have gap := apart run rfl
                  rw [List.cons_append, List.nil_append, rangePairs, gap, if_neg (by decide)]
                  exact h

end FormulaSheet
