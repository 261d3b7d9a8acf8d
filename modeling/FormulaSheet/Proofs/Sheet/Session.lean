import FormulaSheet.Proofs.Sheet.Reentry

/-!
# Sessions

A session is a run of requests to one sheet in one world, each with an engine of its own. Its steps work
in place: what a step has done to the sheet or has asked of the world stays done when the step fails
later. That a failed step leaves the sheet as it was is therefore a property of the order of the steps,
of which writing is the last one.

* `run_enter` says that entering in place does what `Engine.enter` says.
* `Request.effect` says what one request does to the sheet: it writes the cell that `Event.written?` tells
  from the sheet before the request, or nothing.
* `isMapOf_final` is the statement about every session: behind it, the sheet is the map that the written
  cells make up.
-/

namespace FormulaSheet

variable {σ : Type}

/-- A step of a session, which works on the sheet and the world in place. -/
abbrev Session (σ : Type) := ExceptT Failure (StateM (Sheet × σ))

namespace Session

/-- Does something that reads the sheet and may ask the world. -/
def consult {α : Type} (act : Sheet → Action σ α) : Session σ α := do
  let (sheet, world) ← get
  let (outcome, after) := (act sheet).run.run world
  set (sheet, after)
  ofExcept outcome

/-- Writes a cell. -/
def write (c : Coord) (cell : Cell) : Session σ Unit := do
  let (sheet, world) ← get
  let next ← ofExcept (sheet.set c cell)
  set (next, world)

/-- Writes what is entered into a cell. -/
def enter (engine : Engine σ) (c : Coord) (text : String) : Session σ Cell := do
  let (sheet, _) ← get
  if ¬ c.IsInside sheet.rows sheet.cols then throw (sheet.outside c)
  match formulaBody? text with
  | none =>
    write c { value := text }
    return { value := text }
  | some _ =>
    consult fun sheet => ofExcept (engine.check sheet text c)
    let value ← consult fun sheet => engine.display sheet text
    write c { value, formula := some text }
    return { value, formula := some text }

variable (sheet : Sheet) (world : σ)

theorem run_get : (get : Session σ (Sheet × σ)).run.run (sheet, world) =
    (.ok (sheet, world), (sheet, world)) := rfl

/-- Reading keeps the sheet. -/
theorem run_consult {α : Type} (act : Sheet → Action σ α) :
    (consult act).run.run (sheet, world) =
      (((act sheet).run.run world).1, (sheet, ((act sheet).run.run world).2)) := by
  unfold consult
  rw [run_bind_of_ok (run_get sheet world)]
  dsimp only
  rcases (act sheet).run.run world with ⟨outcome, after⟩
  cases outcome with
  | ok a => rfl
  | error failure => rfl

/-- Reading without the world keeps the world as well. -/
theorem run_consult_ofExcept {α : Type} (result : Sheet → Except Failure α) :
    (consult fun sheet => (ofExcept (result sheet) : Action σ α)).run.run (sheet, world) =
      (result sheet, (sheet, world)) := by
  rw [run_consult]
  cases result sheet with
  | ok a => rfl
  | error failure => rfl

theorem run_write {c : Coord} (cell : Cell) (inside : c.IsInside sheet.rows sheet.cols) :
    (write c cell).run.run (sheet, world) = (.ok (), (sheet.put c cell inside, world)) := by
  unfold write
  rw [run_bind_of_ok (run_get sheet world)]
  dsimp only
  rw [Sheet.set, dif_pos inside]
  rfl

theorem run_write_outside {c : Coord} (cell : Cell) (outside : ¬ c.IsInside sheet.rows sheet.cols) :
    (write c cell).run.run (sheet, world) = (.error (sheet.outside c), (sheet, world)) := by
  unfold write
  rw [run_bind_of_ok (run_get sheet world)]
  dsimp only
  rw [Sheet.set, dif_neg outside]
  rfl

/-- Entering in place has the outcome of entering, and keeps the sheet if that fails. -/
theorem run_enter (engine : Engine σ) (c : Coord) (text : String) :
    (enter engine c text).run.run (sheet, world) =
      match (engine.enter sheet c text).run.run world with
      | (.ok (cell, next), after) => (.ok cell, (next, after))
      | (.error failure, after) => (.error failure, (sheet, after)) := by
  unfold enter Engine.enter
  rw [run_bind_of_ok (run_get sheet world)]
  dsimp only
  by_cases inside : c.IsInside sheet.rows sheet.cols
  · rw [dif_pos inside, if_neg (not_not_intro inside)]
    cases mark : formulaBody? text with
    | none =>
        dsimp only
        rw [run_bind_of_ok (run_write sheet _ _ inside), Engine.cellFor_of_text mark]
        rfl
    | some body =>
        dsimp only
        have checked := run_consult_ofExcept sheet world fun sheet => engine.check sheet text c
        have displayed := run_consult sheet world fun sheet => engine.display sheet text
        cases verdict : engine.check sheet text c with
        | error failure =>
            rw [verdict] at checked
            rw [run_bind_of_error checked, Engine.cellFor_of_refused mark verdict]
            rfl
        | ok =>
            rw [verdict] at checked
            rw [run_bind_of_ok checked, Engine.cellFor_of_accepted mark verdict]
            cases shown : (engine.display sheet text).run.run world with
            | mk result after =>
                rw [shown] at displayed
                cases result with
                | error failure =>
                    rw [run_bind_of_error displayed, run_bind_of_error (run_bind_of_error shown)]
                | ok value =>
                    rw [run_bind_of_ok displayed, run_bind_of_ok (run_write sheet _ _ inside), bind_assoc,
                      run_bind_of_ok shown]
                    rfl
  · rw [dif_neg inside, if_pos inside]
    rfl

end Session

/-! ### Requests -/

/-- What can be asked of a sheet. -/
inductive Request (σ : Type) where
  /-- Enters a text into a cell. -/
  | enter (engine : Engine σ) (c : Coord) (text : String)
  /-- Enters a text into the cell that a reference names. -/
  | assign (engine : Engine σ) (ref text : String)
  /-- Writes a cell as it is. -/
  | write (c : Coord) (cell : Cell)
  /-- Reads a cell. -/
  | read (c : Coord)
  /-- Evaluates a formula. -/
  | evaluate (engine : Engine σ) (formula : String)
  /-- Gives the text that a cell would show. -/
  | display (engine : Engine σ) (text : String)
  /-- Tells whether a formula would depend on the cell that it is entered into. -/
  | wouldCycle (engine : Engine σ) (formula : String) (c : Coord)
  /-- Fails if a formula would depend on the cell that it is entered into. -/
  | check (engine : Engine σ) (formula : String) (c : Coord)

/-- What a request is answered with. -/
inductive Response where
  | cell (cell : Cell)
  | value (v : Value)
  | text (s : String)
  | verdict (cyclic : Bool)
  | done
  deriving DecidableEq

namespace Request

/-- Does what a request asks for. -/
def perform : Request σ → Session σ Response
  | enter engine c text => Response.cell <$> Session.enter engine c text
  | assign engine ref text => do
    let c ← ofExcept (Sheet.locate ref)
    Response.cell <$> Session.enter engine c text
  | write c cell => (fun _ => Response.done) <$> Session.write c cell
  | read c => Session.consult fun sheet => pure (.cell (sheet.get c))
  | evaluate engine formula =>
    Response.value <$> Session.consult fun sheet => engine.evaluate sheet formula
  | display engine text => Response.text <$> Session.consult fun sheet => engine.display sheet text
  | wouldCycle engine formula c =>
    Response.verdict <$> Session.consult fun sheet => ofExcept (engine.wouldCycle sheet formula c)
  | check engine formula c =>
    (fun _ => Response.done) <$> Session.consult fun sheet => ofExcept (engine.check sheet formula c)

/-- A request that does not write. -/
def isRead : Request σ → Bool
  | enter .. | assign .. | write .. => false
  | _ => true

end Request

/-- A request that has been dealt with: the sheet and the world before, the answer, and both behind. -/
structure Event (σ : Type) where
  before : Sheet × σ
  request : Request σ
  outcome : Except Failure Response
  after : Sheet × σ

/-- Deals with a request. -/
def Request.event (request : Request σ) (state : Sheet × σ) : Event σ :=
  let result := request.perform.run.run state
  ⟨state, request, result.1, result.2⟩

namespace Session

/-- Deals with requests one after the other. -/
def events : Sheet × σ → List (Request σ) → List (Event σ)
  | _, [] => []
  | state, request :: rest =>
    let event := request.event state
    event :: events event.after rest

/-- The sheet and the world behind some requests. -/
def final (state : Sheet × σ) (requests : List (Request σ)) : Sheet × σ :=
  requests.foldl (fun state request => (request.event state).after) state

end Session

/-- The cell that a text makes: the text itself, or a formula with what the sheet shows for it. -/
def Engine.made? (engine : Engine σ) (state : Sheet × σ) (text : String) : Option Cell :=
  match formulaBody? text with
  | none => some { value := text }
  | some _ =>
    match ((engine.display state.1 text).run.run state.2).1 with
    | .ok value => some { value, formula := some text }
    | .error _ => none

/-- The cell that a request has written, and where. A request that has failed has written nothing. -/
def Event.written? (event : Event σ) : Option (Coord × Cell) :=
  match event.outcome, event.request with
  | .error _, _ => none
  | .ok _, .enter engine c text => (engine.made? event.before text).map fun cell => (c, cell)
  | .ok _, .assign engine ref text =>
    match Sheet.locate ref with
    | .ok c => (engine.made? event.before text).map fun cell => (c, cell)
    | .error _ => none
  | .ok _, .write c cell => some (c, cell)
  | .ok _, _ => none

/-- The sheet behind an event is the one before it, with the cell that it has written. -/
def Event.IsWrite (event : Event σ) : Prop :=
  match event.written? with
  | none => event.after.1 = event.before.1
  | some (c, cell) => ∃ inside, event.after.1 = event.before.1.put c cell inside

theorem Engine.made?_of_cellFor {engine : Engine σ} {sheet : Sheet} {c : Coord} {text : String}
    {world after : σ} {cell : Cell}
    (h : (engine.cellFor sheet c text).run.run world = (.ok cell, after)) :
    engine.made? (sheet, world) text = some cell := by
  unfold made?
  rcases cellFor_cases h with ⟨mark, rfl⟩ | ⟨isSome, _, value, shown, rfl⟩
  · rw [mark]
  · obtain ⟨body, mark⟩ := Option.isSome_iff_exists.1 isSome
    rw [mark, shown]

/-- Entering in place fails and keeps the sheet, or writes the cell that the text makes. -/
theorem Session.enter_eq (engine : Engine σ) (c : Coord) (text : String) (sheet : Sheet) (world : σ) :
    (∃ failure after, (enter engine c text).run.run (sheet, world) = (.error failure, (sheet, after))) ∨
      ∃ cell inside after,
        (enter engine c text).run.run (sheet, world) = (.ok cell, (sheet.put c cell inside, after)) ∧
          engine.made? (sheet, world) text = some cell := by
  rw [run_enter]
  cases run : (engine.enter sheet c text).run.run world with
  | mk outcome after =>
      cases outcome with
      | error failure => exact Or.inl ⟨failure, after, rfl⟩
      | ok written =>
          obtain ⟨inside, same, made⟩ := Engine.exists_cellFor run
          exact Or.inr ⟨written.1, inside, after, by rw [← same], Engine.made?_of_cellFor made⟩

theorem run_map {ε τ α β : Type} (f : α → β) (act : ExceptT ε (StateM τ) α) (state : τ) :
    (f <$> act).run.run state = ((act.run.run state).1.map f, (act.run.run state).2) := by
  rw [ExceptT.run_map, StateT.run_map]
  rfl

namespace Event

variable {event : Event σ}

theorem written?_of_error {failure : Failure} (h : event.outcome = .error failure) :
    event.written? = none := by
  unfold written?
  rw [h]

theorem written?_of_isRead (h : event.request.isRead = true) : event.written? = none := by
  rcases event with ⟨before, request, outcome, after⟩
  cases outcome with
  | error failure => rfl
  | ok answer =>
      cases request with
      | enter | assign | write => cases h
      | read | evaluate | display | wouldCycle | check => rfl

end Event

namespace Request

variable {sheet : Sheet} {world : σ}

/-- What does not write keeps the sheet. -/
theorem kept_of_isRead {request : Request σ} (h : request.isRead = true) :
    (request.event (sheet, world)).after.1 = sheet := by
  unfold event perform
  cases request with
  | enter | assign | write => cases h
  | read c => rw [Session.run_consult]
  | evaluate | display | wouldCycle | check => rw [run_map, Session.run_consult]

theorem event_of_run {request : Request σ} {state after : Sheet × σ}
    {outcome : Except Failure Response} (h : request.perform.run.run state = (outcome, after)) :
    request.event state = ⟨state, request, outcome, after⟩ := by
  rw [event, h]

theorem run_perform_enter (engine : Engine σ) (c : Coord) (text : String) :
    (∃ failure after, (enter engine c text).perform.run.run (sheet, world) =
        (.error failure, (sheet, after))) ∨
      ∃ cell inside after, (enter engine c text).perform.run.run (sheet, world) =
          (.ok (.cell cell), (sheet.put c cell inside, after)) ∧
        engine.made? (sheet, world) text = some cell := by
  unfold perform
  rw [run_map]
  rcases Session.enter_eq engine c text sheet world with
    ⟨failure, after, run⟩ | ⟨cell, inside, after, run, made⟩
  · rw [run]
    exact Or.inl ⟨failure, after, rfl⟩
  · rw [run]
    exact Or.inr ⟨cell, inside, after, rfl, made⟩

/-- Assigning is entering into the cell that the reference names. -/
theorem perform_assign {engine : Engine σ} {ref text : String} {c : Coord}
    (h : Sheet.locate ref = .ok c) :
    (assign engine ref text).perform = (enter engine c text).perform := by
  unfold perform
  dsimp only
  rw [h]
  rfl

/-- A request writes the cell that is told from the sheet before it, or nothing. -/
theorem isWrite_event (request : Request σ) (state : Sheet × σ) : (request.event state).IsWrite := by
  rcases state with ⟨sheet, world⟩
  cases request with
  | enter engine c text =>
      rcases run_perform_enter engine c text with
        ⟨failure, after, run⟩ | ⟨cell, inside, after, run, made⟩
      · rw [event_of_run run]
        rfl
      · rw [event_of_run run]
        unfold Event.IsWrite Event.written?
        dsimp only
        rw [made]
        exact ⟨inside, rfl⟩
  | assign engine ref text =>
      cases located : Sheet.locate ref with
      | error failure =>
          have run : (assign engine ref text).perform.run.run (sheet, world) =
              (.error failure, (sheet, world)) := by
            rw [perform, located]
            rfl
          rw [event_of_run run]
          rfl
      | ok c =>
          rcases run_perform_enter engine c text with
            ⟨failure, after, run⟩ | ⟨cell, inside, after, run, made⟩
          · rw [← perform_assign located] at run
            rw [event_of_run run]
            rfl
          · rw [← perform_assign located] at run
            rw [event_of_run run]
            unfold Event.IsWrite Event.written?
            dsimp only
            rw [located, made]
            exact ⟨inside, rfl⟩
  | write c cell =>
      by_cases inside : c.IsInside sheet.rows sheet.cols
      · have run : (write c cell).perform.run.run (sheet, world) =
            (.ok .done, (sheet.put c cell inside, world)) := by
          rw [perform, run_map, Session.run_write sheet world cell inside]
          rfl
        rw [event_of_run run]
        exact ⟨inside, rfl⟩
      · have run : (write c cell).perform.run.run (sheet, world) =
            (.error (sheet.outside c), (sheet, world)) := by
          rw [perform, run_map, Session.run_write_outside sheet world cell inside]
          rfl
        rw [event_of_run run]
        rfl
  | read | evaluate | display | wouldCycle | check =>
      unfold Event.IsWrite
      rw [Event.written?_of_isRead rfl]
      exact kept_of_isRead rfl

end Request

/-! ### Sessions as maps -/

/-- The sheet has some rows and columns, and holds what some writes have left in it: the last one that
was written at each place. Its cells are listed once, row by row. -/
structure Sheet.IsMapOf (sheet : Sheet) (rows cols : Int) (writes : List (Coord × Cell)) : Prop where
  /-- The cell at a place is the last one written there, and empty if there is none. -/
  get : ∀ c, sheet.get c = (writes.reverse.lookup c).getD {}
  /-- The cells that are listed are those that were written. -/
  listed : ∀ c cell, (c, cell) ∈ sheet.toList ↔ writes.reverse.lookup c = some cell
  /-- They are listed row by row, from left to right, none of them twice. -/
  increasing : sheet.toList.Pairwise fun first later =>
    first.1.row < later.1.row ∨ first.1.row = later.1.row ∧ first.1.col < later.1.col
  /-- They are inside the sheet. -/
  inside : ∀ entry ∈ sheet.toList,
    (0 ≤ entry.1.row ∧ entry.1.row < rows) ∧ 0 ≤ entry.1.col ∧ entry.1.col < cols

theorem Coord.cmp_eq_lt_iff {a b : Coord} :
    cmp a b = .lt ↔ a.row < b.row ∨ a.row = b.row ∧ a.col < b.col := by
  rw [cmp, Ordering.then_eq_lt, Int.compare_eq_lt, Int.compare_eq_lt, Int.compare_eq_eq]

namespace Sheet

variable {sheet : Sheet} {writes : List (Coord × Cell)}

/-- The written cells of a sheet are the last ones written at their places. -/
def Stores (sheet : Sheet) (writes : List (Coord × Cell)) : Prop :=
  ∀ c, sheet.cells[c]? = writes.reverse.lookup c

theorem getElem?_put {c : Coord} (cell : Cell) (inside : c.IsInside sheet.rows sheet.cols) (d : Coord) :
    (sheet.put c cell inside).cells[d]? = if d = c then some cell else sheet.cells[d]? := by
  have stored : (sheet.put c cell inside).cells[d]? =
      if Coord.cmp c d = .eq then some cell else sheet.cells[d]? :=
    Std.TreeMap.getElem?_insert
  by_cases same : d = c
  · rw [stored, if_pos (Coord.cmp_eq_iff.2 same.symm), if_pos same]
  · rw [stored, if_neg fun eq => same (Coord.cmp_eq_iff.1 eq).symm, if_neg same]

theorem Stores.put (stores : sheet.Stores writes) {c : Coord} (cell : Cell)
    (inside : c.IsInside sheet.rows sheet.cols) :
    (sheet.put c cell inside).Stores (writes ++ [(c, cell)]) := by
  intro d
  rw [getElem?_put, List.reverse_append, List.reverse_singleton, List.singleton_append,
    List.lookup_cons]
  by_cases same : d = c
  · rw [if_pos same, beq_iff_eq.2 same]
  · rw [if_neg same, beq_eq_false_iff_ne.2 same, stores]

theorem stores_empty {rows cols : Int} (h : empty rows cols = .ok sheet) :
    sheet.Stores [] ∧ sheet.rows = rows ∧ sheet.cols = cols := by
  unfold empty at h
  split at h
  · cases h
    exact ⟨fun c => Std.TreeMap.getElem?_emptyc, rfl, rfl⟩
  · cases h

/-- A sheet is the map of what is stored in it. -/
theorem Stores.isMapOf (stores : sheet.Stores writes) :
    sheet.IsMapOf sheet.rows sheet.cols writes where
  get c := by rw [Sheet.get, stores]
  listed c cell := by
    rw [toList, Std.TreeMap.mem_toList_iff_getElem?_eq_some, stores]
  increasing :=
    Std.TreeMap.ordered_keys_toList.imp fun before => Coord.cmp_eq_lt_iff.1 before
  inside := by
    rintro ⟨c, cell⟩ mem
    have stored : sheet.cells[c]? = some cell := Std.TreeMap.mem_toList_iff_getElem?_eq_some.1 mem
    exact sheet.inside c (Std.TreeMap.mem_iff_isSome_getElem?.2 (by rw [stored]; rfl))

end Sheet

namespace Session

/-- What a session writes is stored behind it, on top of what was stored before. -/
theorem stores_final {state : Sheet × σ} {earlier : List (Coord × Cell)} (stores : state.1.Stores earlier)
    (requests : List (Request σ)) :
    (final state requests).1.Stores
        (earlier ++ (events state requests).filterMap Event.written?) ∧
      (final state requests).1.rows = state.1.rows ∧ (final state requests).1.cols = state.1.cols := by
  induction requests generalizing state earlier with
  | nil =>
      rw [events, List.filterMap_nil, List.append_nil]
      exact ⟨stores, rfl, rfl⟩
  | cons request rest ih =>
      have step := request.isWrite_event state
      rw [final, List.foldl_cons, ← final, events]
      unfold Event.IsWrite at step
      cases written : (request.event state).written? with
      | none =>
          rw [written] at step
          rw [List.filterMap_cons_none written]
          have kept : (request.event state).after.1 = state.1 := step
          rw [← kept]
          exact ih (kept ▸ stores)
      | some entry =>
          rw [written] at step
          obtain ⟨inside, put⟩ := step
          rw [List.filterMap_cons_some written, List.append_cons]
          have next : (request.event state).after.1 = state.1.put entry.1 entry.2 inside := put
          have behind := @ih (request.event state).after _ (next ▸ stores.put entry.2 inside)
          rw [next] at behind
          exact behind

theorem event_of_mem {state : Sheet × σ} {requests : List (Request σ)} {event : Event σ}
    (mem : event ∈ events state requests) : ∃ request between, event = Request.event request between := by
  induction requests generalizing state with
  | nil => cases mem
  | cons request rest ih =>
      rcases List.mem_cons.1 mem with rfl | behind
      · exact ⟨request, state, rfl⟩
      · exact ih behind

/-- Behind a session on a sheet that was empty at first, the sheet is the map of what was written. An event
that has failed, or that only reads, has changed no cell. -/
theorem isMapOf_final {rows cols : Int} {start : Sheet} (h : Sheet.empty rows cols = .ok start)
    (world : σ) (requests : List (Request σ)) :
    (final (start, world) requests).1.IsMapOf rows cols
        ((events (start, world) requests).filterMap Event.written?) ∧
      ∀ event ∈ events (start, world) requests,
        (∃ failure, event.outcome = .error failure) ∨ event.request.isRead = true →
          event.after.1 = event.before.1 := by
  obtain ⟨blank, sameRows, sameCols⟩ := Sheet.stores_empty h
  obtain ⟨stores, keptRows, keptCols⟩ := @stores_final _ (start, world) [] blank requests
  refine ⟨?_, fun event mem quiet => ?_⟩
  · have isMap := stores.isMapOf
    rw [List.nil_append, keptRows, keptCols, sameRows, sameCols] at isMap
    exact isMap
  · obtain ⟨request, between, rfl⟩ := event_of_mem mem
    have step := request.isWrite_event between
    have nothing : (request.event between).written? = none := by
      rcases quiet with ⟨failure, failed⟩ | read
      · exact Event.written?_of_error failed
      · exact Event.written?_of_isRead read
    rw [Event.IsWrite, nothing] at step
    exact step

/-- A text, a formula that reads it, a formula that would close a cycle, a reading, and a cell outside. -/
theorem isMapOf_final_mixed : ∃ start, Sheet.empty 2 2 = .ok start ∧
    let requests : List (Request Unit) :=
      [.assign Engine.plain "B2" "7", .enter Engine.plain ⟨0, 1⟩ "=B2 * 3",
        .enter Engine.plain ⟨1, 1⟩ "=A1 + B1", .evaluate Engine.plain "=1 / 0",
        .write ⟨2, 0⟩ { value := "lost" }, .write ⟨1, 1⟩ { value := "9" }]
    (events (start, ()) requests).filterMap Event.written? =
        [(⟨1, 1⟩, { value := "7" }), (⟨0, 1⟩, { value := "21", formula := some "=B2 * 3" }),
          (⟨1, 1⟩, { value := "9" })] ∧
      (final (start, ()) requests).1.IsMapOf 2 2
        ((events (start, ()) requests).filterMap Event.written?) := by
  have blank : Sheet.empty 2 2 = .ok _ := rfl
  refine ⟨_, blank, ?_, (isMapOf_final blank () _).1⟩
  decide +kernel

end Session

end FormulaSheet
