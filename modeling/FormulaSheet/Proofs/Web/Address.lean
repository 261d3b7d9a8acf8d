import FormulaSheet.Function.World
import FormulaSheet.Proofs.Text.Length

/-!
# Addresses that are fetched

`GET` strips its argument and looks at the lower case of what is left. The mapping to lower case is the full
one, under which a few characters outside of ASCII become letters from `a` to `z`; none of them becomes a
letter of a scheme. So an address that passes begins with a scheme in ASCII letters of either case
(`IsWebUrl`).

* `ascii_of_head_lowerChar` says where the characters of a scheme come from, and `map_toLower_of_lower`
  goes from one character to a beginning of the text.
* `isWebUrl_of_webAddress` is the statement about the argument of `GET`.
-/

namespace FormulaSheet
namespace Text

variable {cs ds : List Char} {c d : Char}

/-! ### The ends of a stripped text -/

theorem mem_head?_of_front (h : cs <+: ds) (mem : c ∈ cs.head?) : c ∈ ds.head? := by
  obtain ⟨rest, rfl⟩ := h
  rw [List.head?_append, Option.mem_def.1 mem]
  rfl

theorem stripBack_front (cs : List Char) : stripBack cs <+: cs := by
  rw [← List.reverse_suffix, stripBack, List.reverse_reverse]
  exact List.dropWhile_suffix isBlank

theorem isBlank_of_mem_head?_strip (mem : c ∈ (strip cs).head?) : isBlank c = false :=
  head_dropWhile (mem_head?_of_front (stripBack_front (stripFront cs)) mem)

theorem isBlank_of_mem_getLast?_strip (mem : c ∈ (strip cs).getLast?) : isBlank c = false := by
  rw [strip, stripBack, List.getLast?_reverse] at mem
  exact head_dropWhile mem

/-! ### What becomes a character of a scheme -/

/-- A stretch of ASCII with the characters of all schemes, and without the two letters that have come from
outside of ASCII. -/
def IsSchemeCode (n : Nat) : Prop :=
  (47 ≤ n ∧ n ≤ 116) ∧ n ≠ 105 ∧ n ≠ 107

instance (n : Nat) : Decidable (IsSchemeCode n) :=
  inferInstanceAs (Decidable (_ ∧ _))

theorem isSchemeCode_of_mem {scheme : List Char} (mem : scheme ∈ Function.webSchemes) :
    ∀ d ∈ scheme, IsSchemeCode d.toNat := by
  have all : ∀ scheme ∈ Function.webSchemes, scheme.all (IsSchemeCode ·.toNat) = true := by
    decide +kernel
  simpa using all scheme mem

/-- No character outside of ASCII is moved to a character of a scheme. -/
theorem ascii_of_shiftBy (h : IsSchemeCode (shiftBy lowerRuns c).toNat) : c.toNat < 128 := by
  -- What is moved into this stretch comes from ASCII, but for the sign of a unit that becomes a `k`.
  have all : ∀ run ∈ lowerRuns, 128 ≤ run.last → run.first + run.shift ≤ 116 →
      run.first = run.last ∧ run.first + run.shift = 107 := by
    decide +kernel
  unfold shiftBy at h
  split at h
  · next run found =>
    have covers : run.covers c.toNat = true := by simpa using List.find?_some found
    simp only [CaseRun.covers, Bool.and_eq_true, decide_eq_true_eq] at covers
    rw [toNat_ofNat_of_ne_zero (Nat.ne_zero_of_lt h.1.1)] at h
    obtain ⟨⟨low, high⟩, _, other⟩ := h
    by_contra large
    have kelvin := all run (List.mem_of_find?_eq_some found) (by omega) (by omega)
    omega
  · exact Nat.lt_of_le_of_lt h.1.2 (by decide)

/-- A character whose lower case begins with a character of a scheme is one of ASCII. -/
theorem ascii_of_head_lowerChar (head : d ∈ (lowerChar c).head?) (h : IsSchemeCode d.toNat) :
    c.toNat < 128 := by
  have all : ∀ entry ∈ lowerExpansions, ∀ n ∈ entry.2.head?, ¬ IsSchemeCode (Char.ofNat n).toNat := by
    decide +kernel
  unfold lowerChar at head
  cases expanded : expansion? lowerExpansions c with
  | none =>
      rw [expanded] at head
      cases head
      exact ascii_of_shiftBy h
  | some image =>
      rw [expanded] at head
      obtain ⟨codes, entry, rfl⟩ := mem_of_expansion? expanded
      rw [Option.getD_some, List.head?_map] at head
      obtain ⟨n, first, rfl⟩ := Option.map_eq_some_iff.1 head
      exact absurd h (all _ entry n first)

theorem lowerChar_of_head (head : d ∈ (lowerChar c).head?) (h : IsSchemeCode d.toNat) :
    lowerChar c = [d] ∧ c.toLower = d := by
  have lowered := lowerChar_ascii (ascii_of_head_lowerChar head h)
  rw [lowered] at head ⊢
  cases head
  exact ⟨rfl, rfl⟩

/-- A scheme at the beginning of the lower case stands at the beginning of the text, in letters of either
case. -/
theorem prefix_map_toLower {scheme before : List Char} (codes : ∀ d ∈ scheme, IsSchemeCode d.toNat)
    (h : scheme <+: lowerAfter before cs) : scheme <+: cs.map Char.toLower := by
  induction scheme generalizing cs before with
  | nil => exact List.nil_prefix
  | cons d scheme ih =>
      cases cs with
      | nil => exact absurd (List.prefix_nil.1 h) (List.cons_ne_nil d scheme)
      | cons c rest =>
          have own := codes d List.mem_cons_self
          rw [lowerAfter] at h
          split at h
          · -- The final form of a sigma is no character of a scheme.
            rw [(List.cons_prefix_cons.1 h).1] at own
            exact absurd own (by decide +kernel)
          · have head : d ∈ (lowerChar c).head? := by
              obtain ⟨e, image, lowered⟩ := List.exists_cons_of_ne_nil (lowerChar_ne_nil c)
              rw [lowered, List.cons_append] at h
              rw [lowered, (List.cons_prefix_cons.1 h).1]
              rfl
            obtain ⟨lowered, same⟩ := lowerChar_of_head head own
            rw [lowered, List.singleton_append] at h
            rw [List.map_cons, same]
            exact List.cons_prefix_cons.2 ⟨rfl, ih (fun e mem => codes e (List.mem_cons_of_mem d mem))
              (List.cons_prefix_cons.1 h).2⟩

end Text

/-- An address that begins with the scheme of a web address, in letters of either case, and has no blanks at
its ends. -/
structure IsWebUrl (url : String) : Prop where
  scheme : "http://".toList <+: url.toList.map Char.toLower ∨
    "https://".toList <+: url.toList.map Char.toLower
  front : ∀ c ∈ url.toList.head?, Text.isBlank c = false
  back : ∀ c ∈ url.toList.getLast?, Text.isBlank c = false

namespace Function

theorem scheme_of_isWebAddress {url : List Char} (h : isWebAddress url = true) :
    "http://".toList <+: url.map Char.toLower ∨ "https://".toList <+: url.map Char.toLower := by
  obtain ⟨scheme, mem, passes⟩ := List.any_eq_true.1 h
  have begins : scheme <+: url.map Char.toLower :=
    Text.prefix_map_toLower (Text.isSchemeCode_of_mem mem) (List.isPrefixOf_iff_prefix.1 passes)
  rcases List.mem_cons.1 mem with same | mem
  · exact Or.inl (same ▸ begins)
  · exact Or.inr (List.mem_singleton.1 mem ▸ begins)

/-- The address that `GET` takes from its argument. -/
theorem isWebUrl_of_webAddress {arg : Value} {url : String} (h : webAddress arg = .ok url) :
    IsWebUrl url := by
  unfold webAddress at h
  dsimp only at h
  generalize arg.toText.toList = cs at h
  have same : (String.ofList (Text.strip cs)).toList = Text.strip cs := String.toList_ofList
  split at h
  · cases h
  · split at h
    · next passes =>
      cases h
      refine ⟨?_, ?_, ?_⟩ <;> rw [same]
      · exact scheme_of_isWebAddress passes
      · exact fun c => Text.isBlank_of_mem_head?_strip
      · exact fun c => Text.isBlank_of_mem_getLast?_strip
    · cases h

end Function

end FormulaSheet
