import FormulaSheet.Proofs.Sheet.Locality
import FormulaSheet.Proofs.Sheet.Session

/-!
# The order of entries

Texts are entered into different cells of an empty sheet, in an order in which no formula stands in front of
an entry whose cell it refers to. Then nothing that is entered later can be reached from a formula, so what
is made of it is decided by the entries before, and does not depend on the order among the others. The
entry that comes last in one order can be moved to the end of any other order of the same entries:

* no other entry refers to its cell, so the entries behind it are made as if it were not there, and
* it refers to no cell of the entries behind it, so it is made as if they were there already.

`Engine.run_agreeOn` is the argument behind the first point and `Engine.run_moved` states both. From there
`Engine.run_eq_of_perm` goes by induction on one of the two orders, from its end, and
`Session.entering_eq_of_perm` is the statement about sessions that enter the same texts in two orders.
-/

namespace FormulaSheet

variable {σ : Type}

/-- A text that is entered into a cell. -/
structure Entry where
  cell : Coord
  text : String
  deriving DecidableEq, Repr

namespace Entry

/-- The text is a formula that refers to a cell, with ranges cut down to the bounds. -/
def Needs (entry : Entry) (bounds : Bounds) (c : Coord) : Prop :=
  (formulaBody? entry.text).isSome = true ∧ Mentions entry.text (some bounds) c

instance (text : String) (bounds : Option Bounds) (c : Coord) : Decidable (Mentions text bounds c) :=
  match scanned : scanReferences text bounds with
  | .error _ => isFalse fun ⟨cells, same, _⟩ => by
    rw [scanned] at same
    cases same
  | .ok cells => decidable_of_iff (c ∈ cells)
    ⟨fun mem => ⟨cells, scanned, mem⟩, fun ⟨others, same, mem⟩ => by
      rw [scanned] at same
      cases same
      exact mem⟩

instance (entry : Entry) (bounds : Bounds) (c : Coord) : Decidable (entry.Needs bounds c) :=
  inferInstanceAs (Decidable (_ ∧ _))

/-- No formula stands in front of an entry into a cell that it refers to. -/
def DependenciesFirst (bounds : Bounds) (entries : List Entry) : Prop :=
  entries.Pairwise fun earlier later => ¬ earlier.Needs bounds later.cell

instance (bounds : Bounds) (entries : List Entry) : Decidable (DependenciesFirst bounds entries) :=
  inferInstanceAs (Decidable (List.Pairwise _ entries))

/-- The request to enter the text. -/
def request (engine : Engine σ) (entry : Entry) : Request σ :=
  .enter engine entry.cell entry.text

/-- An entry between others in an order of this kind, which could also stand behind all of them. -/
structure FitsBetween (entry : Entry) (bounds : Bounds) (before later : List Entry) : Prop where
  /-- No other entry is into its cell. -/
  away : ∀ e ∈ before ++ later, e.cell ≠ entry.cell
  /-- No other entry needs its cell. -/
  unneeded : ∀ e ∈ before ++ later, ¬ e.Needs bounds entry.cell
  /-- It needs no cell of the entries behind it. -/
  needless : ∀ e ∈ later, ¬ entry.Needs bounds e.cell
  /-- Nor do the entries in front of it. -/
  ahead : ∀ a ∈ before, ∀ e ∈ later, ¬ a.Needs bounds e.cell

/-- The entry that comes last in one order has a place in every other order, and could stand behind all
others there. -/
theorem exists_fitsBetween {bounds : Bounds} {entry : Entry} {rest second : List Entry}
    (perm : (rest ++ [entry]).Perm second) (distinct : ((rest ++ [entry]).map Entry.cell).Nodup)
    (orderly : DependenciesFirst bounds (rest ++ [entry])) (orderly' : DependenciesFirst bounds second) :
    ∃ before later, second = before ++ entry :: later ∧ rest.Perm (before ++ later) ∧
      entry.FitsBetween bounds before later := by
  obtain ⟨before, later, rfl⟩ := List.append_of_mem (perm.subset List.mem_concat_self)
  have others : rest.Perm (before ++ later) :=
    ((List.perm_append_singleton entry rest).symm.trans (perm.trans List.perm_middle)).cons_inv
  rw [List.map_append, List.map_singleton] at distinct
  obtain ⟨_, _, apart⟩ := List.nodup_append.1 distinct
  obtain ⟨_, _, unneeded⟩ := List.pairwise_append.1 orderly
  obtain ⟨_, orderlyLater, ahead⟩ := List.pairwise_append.1 orderly'
  refine ⟨before, later, rfl, others, ?_, ?_, (List.pairwise_cons.1 orderlyLater).1, ?_⟩
  · exact fun e mem =>
      apart e.cell (List.mem_map_of_mem (others.symm.subset mem)) entry.cell List.mem_cons_self
  · exact fun e mem => unneeded e (others.symm.subset mem) entry List.mem_cons_self
  · exact fun a mem e behind => ahead a mem e (List.mem_cons_of_mem entry behind)

end Entry

/-! ### What entries make -/

namespace Engine

variable (engine : Engine σ) (world : σ)

/-- The cell that an entry makes on a sheet, or why it makes none. -/
def made (sheet : Sheet) (entry : Entry) : Except Failure Cell :=
  if entry.cell.IsInside sheet.rows sheet.cols then
    ((engine.cellFor sheet entry.cell entry.text).run.run world).1
  else .error (sheet.outside entry.cell)

/-- The sheet behind an entry. -/
def next (sheet : Sheet) (entry : Entry) : Sheet :=
  match engine.made world sheet entry with
  | .error _ => sheet
  | .ok cell =>
    if h : entry.cell.IsInside sheet.rows sheet.cols then sheet.put entry.cell cell h else sheet

/-- The sheet behind some entries. -/
def nextAll (sheet : Sheet) (entries : List Entry) : Sheet :=
  entries.foldl (engine.next world) sheet

/-- What is made of some entries. -/
def madeAll : Sheet → List Entry → List (Entry × Except Failure Cell)
  | _, [] => []
  | sheet, entry :: rest =>
    (entry, engine.made world sheet entry) :: madeAll (engine.next world sheet entry) rest

variable {engine} {world} {sheet other : Sheet} {region : Coord → Prop} {entry : Entry}

theorem madeAll_append (entries later : List Entry) :
    engine.madeAll world sheet (entries ++ later) =
      engine.madeAll world sheet entries ++
        engine.madeAll world (engine.nextAll world sheet entries) later := by
  induction entries generalizing sheet with
  | nil => rfl
  | cons entry rest ih =>
      rw [List.cons_append, madeAll, ih, madeAll, List.cons_append]
      rfl

/-- What an entry stores. -/
theorem cells_next (engine : Engine σ) (world : σ) (sheet : Sheet) (entry : Entry) (c : Coord) :
    (engine.next world sheet entry).cells[c]? =
      match engine.made world sheet entry with
      | .error _ => sheet.cells[c]?
      | .ok cell => if c = entry.cell then some cell else sheet.cells[c]? := by
  unfold next
  cases outcome : engine.made world sheet entry with
  | error failure => rfl
  | ok cell =>
      by_cases inside : entry.cell.IsInside sheet.rows sheet.cols
      · dsimp only
        rw [dif_pos inside, Sheet.getElem?_put]
      · rw [made, if_neg inside] at outcome
        cases outcome

theorem bounds_next : (engine.next world sheet entry).rows = sheet.rows ∧
    (engine.next world sheet entry).cols = sheet.cols := by
  unfold next
  split
  · exact ⟨rfl, rfl⟩
  · split
    · exact ⟨rfl, rfl⟩
    · exact ⟨rfl, rfl⟩

/-- An entry changes its own cell only. -/
theorem next_agreeOn : (engine.next world sheet entry).AgreeOn sheet (· ≠ entry.cell) where
  rows := bounds_next.1
  cols := bounds_next.2
  cells c ne := by
    rw [cells_next]
    split
    · rfl
    · rw [if_neg ne]

/-- Entries change their own cells only. -/
theorem nextAll_agreeOn (entries : List Entry) :
    (engine.nextAll world sheet entries).AgreeOn sheet fun c => ∀ entry ∈ entries, c ≠ entry.cell := by
  induction entries generalizing sheet with
  | nil => exact Sheet.AgreeOn.refl sheet _
  | cons entry rest ih =>
      have later : (engine.nextAll world (engine.next world sheet entry) rest).AgreeOn
          (engine.next world sheet entry) fun c => ∀ e ∈ entry :: rest, c ≠ e.cell :=
        ih.mono fun c away e mem => away e (List.mem_cons_of_mem entry mem)
      have first : (engine.next world sheet entry).AgreeOn sheet
          fun c => ∀ e ∈ entry :: rest, c ≠ e.cell :=
        next_agreeOn.mono fun c away => away entry List.mem_cons_self
      exact later.trans first

/-- What an entry makes is decided by a closed region that holds the cells that it needs. -/
theorem made_eq_of_agreeOn (agree : sheet.AgreeOn other region) (closed : sheet.IsClosed region)
    (needs : ∀ c, entry.Needs sheet.bounds c → region c) :
    engine.made world sheet entry = engine.made world other entry := by
  have cell : engine.cellFor sheet entry.cell entry.text = engine.cellFor other entry.cell entry.text :=
    engine.cellFor_eq_of_agreeOn agree closed entry.cell fun formula d mentions =>
      needs d ⟨formula, mentions⟩
  unfold made Sheet.outside
  rw [cell, agree.rows, agree.cols]

theorem next_agreeOn_next (agree : sheet.AgreeOn other region)
    (same : engine.made world sheet entry = engine.made world other entry) :
    (engine.next world sheet entry).AgreeOn (engine.next world other entry) region where
  rows := by rw [bounds_next.1, bounds_next.1, agree.rows]
  cols := by rw [bounds_next.2, bounds_next.2, agree.cols]
  cells c inside := by rw [cells_next, cells_next, same, agree.cells c inside]

/-- The formula of the cell for a text is the text. -/
theorem formula_of_made {cell : Cell} (h : engine.made world sheet entry = .ok cell) {formula : String}
    (stored : cell.formula = some formula) :
    formula = entry.text ∧ (formulaBody? entry.text).isSome = true := by
  unfold made at h
  split at h
  · have run : (engine.cellFor sheet entry.cell entry.text).run.run world = (.ok cell, _) :=
      Prod.ext h rfl
    rcases cellFor_cases run with ⟨_, rfl⟩ | ⟨mark, _, value, _, rfl⟩
    · cases stored
    · cases stored
      exact ⟨rfl, mark⟩
  · cases h

/-- Behind an entry, the formulas are those from before, and the one that was entered. -/
theorem dependsOn_next {c d : Coord} (h : (engine.next world sheet entry).DependsOn c d) :
    sheet.DependsOn c d ∨ entry.Needs sheet.bounds d := by
  obtain ⟨formula, stored, mentions⟩ := h
  have sameBounds : (engine.next world sheet entry).bounds = sheet.bounds := next_agreeOn.bounds_eq
  rw [sameBounds] at mentions
  have kept : (engine.next world sheet entry).cells[c]? = sheet.cells[c]? →
      sheet.DependsOn c d := by
    intro same
    rw [Sheet.get, same, ← Sheet.get] at stored
    exact ⟨formula, stored, mentions⟩
  have cells := cells_next engine world sheet entry c
  cases outcome : engine.made world sheet entry with
  | error failure =>
      rw [outcome] at cells
      exact Or.inl (kept cells)
  | ok cell =>
      rw [outcome] at cells
      dsimp only at cells
      by_cases own : c = entry.cell
      · rw [if_pos own] at cells
        rw [Sheet.get, cells] at stored
        obtain ⟨rfl, mark⟩ := formula_of_made outcome stored
        exact Or.inr ⟨mark, mentions⟩
      · rw [if_neg own] at cells
        exact Or.inl (kept cells)

theorem isClosed_next (closed : sheet.IsClosed region)
    (needs : ∀ c, entry.Needs sheet.bounds c → region c) :
    (engine.next world sheet entry).IsClosed region := by
  intro c d inside depends
  rcases dependsOn_next depends with before | needed
  · exact closed c d inside before
  · exact needs d needed

/-- Entries that need cells of a closed region only make the same on two sheets that agree on it, and the
sheets behind them agree on it again. -/
theorem run_agreeOn {entries : List Entry} (agree : sheet.AgreeOn other region)
    (closed : sheet.IsClosed region)
    (needs : ∀ entry ∈ entries, ∀ c, entry.Needs sheet.bounds c → region c) :
    engine.madeAll world sheet entries = engine.madeAll world other entries ∧
      (engine.nextAll world sheet entries).AgreeOn (engine.nextAll world other entries) region := by
  induction entries generalizing sheet other with
  | nil => exact ⟨rfl, agree⟩
  | cons entry rest ih =>
      have first := needs entry List.mem_cons_self
      have same : engine.made world sheet entry = engine.made world other entry :=
        made_eq_of_agreeOn agree closed first
      have later := ih (next_agreeOn_next agree same) (isClosed_next closed first)
        fun e mem c needed => needs e (List.mem_cons_of_mem entry mem) c (next_agreeOn.bounds_eq ▸ needed)
      refine ⟨?_, later.2⟩
      rw [madeAll, madeAll, same, later.1]

/-- Behind entries that need cells of a closed region only, the region is still closed. -/
theorem isClosed_nextAll {entries : List Entry} (closed : sheet.IsClosed region)
    (needs : ∀ entry ∈ entries, ∀ c, entry.Needs sheet.bounds c → region c) :
    (engine.nextAll world sheet entries).IsClosed region := by
  induction entries generalizing sheet with
  | nil => exact closed
  | cons entry rest ih =>
      have first := needs entry List.mem_cons_self
      exact ih (isClosed_next closed first)
        fun e mem c needed => needs e (List.mem_cons_of_mem entry mem) c (next_agreeOn.bounds_eq ▸ needed)

/-- An entry can be moved behind entries that do not need its cell and whose cells it does not need. -/
theorem run_moved {later : List Entry} (away : ∀ e ∈ later, e.cell ≠ entry.cell)
    (unneeded : ∀ e ∈ later, ¬ e.Needs sheet.bounds entry.cell)
    (needless : ∀ e ∈ later, ¬ entry.Needs sheet.bounds e.cell)
    (free : sheet.IsClosed (· ≠ entry.cell)) (blank : sheet.IsClosed fun c => ∀ e ∈ later, c ≠ e.cell) :
    engine.madeAll world (engine.next world sheet entry) later = engine.madeAll world sheet later ∧
      engine.made world sheet entry = engine.made world (engine.nextAll world sheet later) entry ∧
      (engine.nextAll world (engine.next world sheet entry) later).AgreeOn
        (engine.next world (engine.nextAll world sheet later) entry) fun _ => True := by
  -- The entries behind are made on the sheet without the entry, too, as they stay off its cell.
  have without : engine.madeAll world sheet later =
        engine.madeAll world (engine.next world sheet entry) later ∧
      (engine.nextAll world sheet later).AgreeOn
        (engine.nextAll world (engine.next world sheet entry) later) (· ≠ entry.cell) :=
    run_agreeOn next_agreeOn.symm free fun e mem c needed same => unneeded e mem (same ▸ needed)
  -- The entry is made on the sheet behind the others, too, as it stays off their cells.
  have behind : sheet.AgreeOn (engine.nextAll world sheet later) fun c => ∀ e ∈ later, c ≠ e.cell :=
    (nextAll_agreeOn later).symm
  have made : engine.made world sheet entry = engine.made world (engine.nextAll world sheet later) entry :=
    made_eq_of_agreeOn behind blank fun c needed e mem same => needless e mem (same ▸ needed)
  refine ⟨without.1.symm, made, ?_⟩
  have others : (engine.nextAll world (engine.next world sheet entry) later).AgreeOn
      (engine.next world (engine.nextAll world sheet later) entry) (· ≠ entry.cell) :=
    without.2.symm.trans next_agreeOn.symm
  have own : (engine.nextAll world (engine.next world sheet entry) later).AgreeOn
      (engine.next world (engine.nextAll world sheet later) entry) fun c => ∀ e ∈ later, c ≠ e.cell :=
    (nextAll_agreeOn later).trans (next_agreeOn_next behind made)
  refine ⟨others.rows, others.cols, fun c _ => ?_⟩
  by_cases same : c = entry.cell
  · exact own.cells c fun e mem met => away e mem (met.symm.trans same)
  · exact others.cells c same

theorem nextAll_append (entries later : List Entry) :
    engine.nextAll world sheet (entries ++ later) =
      engine.nextAll world (engine.nextAll world sheet entries) later :=
  List.foldl_append

/-- On a sheet without formulas, an entry can be moved from its place to the end. -/
theorem run_moved_to_end (engine : Engine σ) (world : σ) (blank : ∀ region, sheet.IsClosed region)
    {before later : List Entry} (place : entry.FitsBetween sheet.bounds before later) :
    (engine.madeAll world sheet (before ++ entry :: later)).Perm
        (engine.madeAll world sheet (before ++ later ++ [entry])) ∧
      (engine.nextAll world sheet (before ++ entry :: later)).AgreeOn
        (engine.nextAll world sheet (before ++ later ++ [entry])) fun _ => True := by
  have bounds : (engine.nextAll world sheet before).bounds = sheet.bounds :=
    (nextAll_agreeOn before).bounds_eq
  have free : (engine.nextAll world sheet before).IsClosed (· ≠ entry.cell) :=
    isClosed_nextAll (blank _) fun e mem c needed same =>
      place.unneeded e (List.mem_append_left later mem) (same ▸ needed)
  have ahead : (engine.nextAll world sheet before).IsClosed fun c => ∀ e ∈ later, c ≠ e.cell :=
    isClosed_nextAll (blank _) fun a mem c needed e behind same =>
      place.ahead a mem e behind (same ▸ needed)
  obtain ⟨sameLater, sameOwn, sameSheet⟩ := run_moved
    (fun e mem => place.away e (List.mem_append_right before mem))
    (fun e mem => bounds ▸ place.unneeded e (List.mem_append_right before mem))
    (fun e mem => bounds ▸ place.needless e mem) free ahead
  constructor
  · rw [madeAll_append, madeAll_append, madeAll_append, madeAll, madeAll, madeAll, nextAll_append,
      sameLater, sameOwn]
    exact List.perm_middle.trans (List.perm_append_singleton _ _).symm
  · rw [nextAll_append, nextAll_append, nextAll_append]
    exact sameSheet

/-- On sheets that agree everywhere, an entry makes the same. -/
theorem made_eq_of_agree (agree : sheet.AgreeOn other fun _ => True) :
    engine.made world sheet entry = engine.made world other entry :=
  made_eq_of_agreeOn agree (fun _ _ _ _ => trivial) fun _ _ => trivial

/-- On a sheet without formulas, what is made of some entries does not depend on their order, if in both
orders no formula stands in front of an entry into a cell that it refers to. -/
theorem run_eq_of_perm (engine : Engine σ) (world : σ) (blank : ∀ region, sheet.IsClosed region)
    {first second : List Entry} (perm : first.Perm second) (distinct : (first.map Entry.cell).Nodup)
    (orderly : Entry.DependenciesFirst sheet.bounds first)
    (orderly' : Entry.DependenciesFirst sheet.bounds second) :
    (engine.madeAll world sheet first).Perm (engine.madeAll world sheet second) ∧
      (engine.nextAll world sheet first).AgreeOn (engine.nextAll world sheet second) fun _ => True := by
  -- The induction is on the first order from its end; its last entry is found in the second one.
  induction first using List.reverseRecOn generalizing second with
  | nil =>
      rw [List.nil_perm.1 perm]
      exact ⟨List.Perm.nil, Sheet.AgreeOn.refl _ _⟩
  | append_singleton rest entry ih =>
      obtain ⟨before, later, rfl, others, place⟩ :=
        Entry.exists_fitsBetween perm distinct orderly orderly'
      have distinctRest : (rest.map Entry.cell).Nodup :=
        distinct.sublist ((List.sublist_append_left rest [entry]).map Entry.cell)
      obtain ⟨permRest, agreeRest⟩ := ih others distinctRest
        (orderly.sublist (List.sublist_append_left rest [entry]))
        (orderly'.sublist ((List.sublist_cons_self entry later).append_left before))
      obtain ⟨permMoved, agreeMoved⟩ := engine.run_moved_to_end world blank place
      have last : engine.made world (engine.nextAll world sheet rest) entry =
          engine.made world (engine.nextAll world sheet (before ++ later)) entry :=
        made_eq_of_agree agreeRest
      constructor
      · refine List.Perm.trans ?_ permMoved.symm
        rw [madeAll_append, madeAll_append _ [entry], madeAll, madeAll, madeAll, madeAll, last]
        exact permRest.append_right _
      · refine Sheet.AgreeOn.trans ?_ agreeMoved.symm
        rw [nextAll_append, nextAll_append _ [entry]]
        exact next_agreeOn_next agreeRest last

end Engine

/-! ### Sessions that enter texts -/

theorem Sheet.isClosed_empty {rows cols : Int} {start : Sheet} (h : empty rows cols = .ok start)
    (region : Coord → Prop) : start.IsClosed region := by
  rintro c d _ ⟨formula, stored, _⟩
  rw [Sheet.get, (stores_empty h).1 c] at stored
  cases stored

namespace Entry

variable {engine : Engine σ} {entry : Entry}

/-- Entering with a quiet outcome leaves the world as it is. -/
theorem event_request {sheet : Sheet} (quiet : IsQuiet (engine.cellFor sheet entry.cell entry.text))
    (world : σ) :
    (entry.request engine).event (sheet, world) =
      ⟨(sheet, world), entry.request engine, (engine.made world sheet entry).map Response.cell,
        (engine.next world sheet entry, world)⟩ := by
  refine Request.event_of_run ?_
  rw [request, Request.perform, run_map, Session.run_enter, Engine.enter]
  obtain ⟨result, same⟩ := quiet
  by_cases inside : entry.cell.IsInside sheet.rows sheet.cols
  · have made : engine.made world sheet entry = result := by
      rw [Engine.made, if_pos inside, same]
    rw [dif_pos inside, Engine.next, made]
    cases result with
    | error failure =>
        rw [run_bind_of_error (same world)]
    | ok cell =>
        rw [run_bind_of_ok (same world)]
        dsimp only
        rw [dif_pos inside]
        rfl
  · rw [dif_neg inside, Engine.next, Engine.made, if_neg inside]
    rfl

end Entry

namespace Session

/-- The requests with their answers. -/
def answers (state : Sheet × σ) (requests : List (Request σ)) :
    List (Request σ × Except Failure Response) :=
  (events state requests).map fun event => (event.request, event.outcome)

variable {engine : Engine σ}

/-- A session that enters texts with quiet outcomes makes the cells that the entries make. -/
theorem run_entries {entries : List Entry}
    (quiet : ∀ entry ∈ entries, ∀ sheet, IsQuiet (engine.cellFor sheet entry.cell entry.text))
    (sheet : Sheet) (world : σ) :
    answers (sheet, world) (entries.map (Entry.request engine)) =
        (engine.madeAll world sheet entries).map
          (fun made => (made.1.request engine, made.2.map Response.cell)) ∧
      final (sheet, world) (entries.map (Entry.request engine)) =
        (engine.nextAll world sheet entries, world) := by
  induction entries generalizing sheet with
  | nil => exact ⟨rfl, rfl⟩
  | cons entry rest ih =>
      have event := Entry.event_request (quiet entry List.mem_cons_self sheet) world
      obtain ⟨later, behind⟩ := ih (fun e mem => quiet e (List.mem_cons_of_mem entry mem))
        (engine.next world sheet entry)
      unfold answers at later ⊢
      unfold final at behind ⊢
      constructor
      · rw [List.map_cons, events, List.map_cons, event, later, Engine.madeAll, List.map_cons]
      · rw [List.map_cons, List.foldl_cons, event, behind]
        rfl

/-- Texts are entered into different cells of an empty sheet, in two orders in both of which no formula
stands in front of an entry into a cell that it refers to. They ask nothing of the world. Then every entry
has the same answer in both orders, and the sheets behind them are the same. -/
theorem entering_eq_of_perm {rows cols : Int} {start : Sheet} (h : Sheet.empty rows cols = .ok start)
    (custom : engine.registry.IsComputed) {first second : List Entry} (perm : first.Perm second)
    (distinct : (first.map Entry.cell).Nodup)
    (asks : ∀ entry ∈ first, (formulaBody? entry.text).isSome = true → engine.AsksNothing entry.text)
    (orderly : Entry.DependenciesFirst ⟨rows, cols⟩ first)
    (orderly' : Entry.DependenciesFirst ⟨rows, cols⟩ second) (world : σ) :
    (answers (start, world) (first.map (Entry.request engine))).Perm
        (answers (start, world) (second.map (Entry.request engine))) ∧
      (final (start, world) (first.map (Entry.request engine))).1.bounds =
          (final (start, world) (second.map (Entry.request engine))).1.bounds ∧
        (final (start, world) (first.map (Entry.request engine))).1.toList =
          (final (start, world) (second.map (Entry.request engine))).1.toList := by
  have bounds : start.bounds = ⟨rows, cols⟩ := by
    rw [Sheet.bounds, (Sheet.stores_empty h).2.1, (Sheet.stores_empty h).2.2]
  rw [← bounds] at orderly orderly'
  have quiet : ∀ entry ∈ first, ∀ sheet, IsQuiet (engine.cellFor sheet entry.cell entry.text) :=
    fun entry mem sheet => Engine.cellFor_isQuiet custom (asks entry mem) sheet entry.cell
  obtain ⟨answered, last⟩ := run_entries quiet start world
  obtain ⟨answered', last'⟩ :=
    run_entries (fun entry mem => quiet entry (perm.symm.subset mem)) start world
  obtain ⟨made, agree⟩ :=
    engine.run_eq_of_perm world (Sheet.isClosed_empty h) perm distinct orderly orderly'
  rw [answered, answered', last, last']
  refine ⟨made.map _, agree.bounds_eq, ?_⟩
  exact (Std.TreeMap.Equiv.of_forall_constGet?_eq fun c => agree.cells c trivial).toList_eq

/-- Two formulas behind the texts that they refer to, and one that is refused wherever it stands. -/
theorem entering_eq_of_perm_refused : ∃ start, Sheet.empty 2 2 = .ok start ∧
    let first : List Entry := [⟨⟨0, 0⟩, "2"⟩, ⟨⟨0, 1⟩, "=A1 * 3"⟩, ⟨⟨1, 0⟩, "=A2 + 1"⟩,
      ⟨⟨1, 1⟩, "=SUM(A1:B1)"⟩]
    let second : List Entry := [⟨⟨1, 0⟩, "=A2 + 1"⟩, ⟨⟨0, 0⟩, "2"⟩, ⟨⟨0, 1⟩, "=A1 * 3"⟩,
      ⟨⟨1, 1⟩, "=SUM(A1:B1)"⟩]
    first.Perm second ∧ (first.map Entry.cell).Nodup ∧
      (∀ entry ∈ first, Engine.plain.AsksNothing entry.text) ∧
      Entry.DependenciesFirst ⟨2, 2⟩ first ∧ Entry.DependenciesFirst ⟨2, 2⟩ second ∧
      (answers (start, ()) (first.map (Entry.request Engine.plain))).Perm
        (answers (start, ()) (second.map (Entry.request Engine.plain))) ∧
      (final (start, ()) (first.map (Entry.request Engine.plain))).1.toList =
        (final (start, ()) (second.map (Entry.request Engine.plain))).1.toList := by
  have blank : Sheet.empty 2 2 = .ok _ := rfl
  refine ⟨_, blank, ?_⟩
  intro first second
  have custom : Engine.plain.registry.IsComputed := fun entry mem => absurd mem List.not_mem_nil
  have perm : first.Perm second := by decide +kernel
  have distinct : (first.map Entry.cell).Nodup := by decide +kernel
  have asks : ∀ entry ∈ first, Engine.plain.AsksNothing entry.text := by decide +kernel
  have orderly : Entry.DependenciesFirst ⟨2, 2⟩ first := by decide +kernel
  have orderly' : Entry.DependenciesFirst ⟨2, 2⟩ second := by decide +kernel
  obtain ⟨answered, _, same⟩ := entering_eq_of_perm blank custom perm distinct
    (fun entry mem _ => asks entry mem) orderly orderly' ()
  exact ⟨perm, distinct, asks, orderly, orderly', answered, same⟩

end Session

end FormulaSheet
