import FormulaSheet.Function.Builtin

/-!
# Registries of functions

A registry knows the functions that are built in and those registered with it. Names are compared in
upper case. Of two functions registered under one name the later one counts, also when the name is that
of a function that is built in.
-/

namespace FormulaSheet

/-- The functions that a formula may call, and the world that they ask. -/
structure Registry (σ : Type) where
  /-- What the functions that are built in ask. -/
  world : World σ
  /-- The registered functions under their names in upper case, the latest one first. -/
  registered : List (String × SheetFunction σ) := []

namespace Registry

variable {σ : Type}

/-- The form of a name in which it is compared. -/
def key (name : String) : String :=
  String.ofList (Text.upper name.toList)

/-- Registers a function under a name. -/
def register (registry : Registry σ) (name : String) (f : SheetFunction σ) : Registry σ :=
  { registry with registered := (key name, f) :: registry.registered }

/-- The function with a name. -/
def lookup (registry : Registry σ) (name : String) : Option (SheetFunction σ) :=
  registry.registered.lookup (key name) <|>
    (Builtin.ofName? (key name)).map (Builtin.run registry.world)

/-- There is a function with a name. -/
def has (registry : Registry σ) (name : String) : Bool :=
  registry.registered.any (·.1 == key name) || (Builtin.ofName? (key name)).isSome

/-- The names of all functions in upper case, in the order of their code points. -/
def names (registry : Registry σ) : List String :=
  let all := Builtin.list.map Builtin.name ++ registry.registered.map Prod.fst
  all.eraseDups.mergeSort fun a b => decide (a ≤ b)

/-- A function is found under the name that it was registered with last. -/
theorem lookup_register (registry : Registry σ) {name other : String} (f : SheetFunction σ)
    (h : key other = key name) : (registry.register name f).lookup other = some f := by
  simp [lookup, register, h]

/-- Registering a function changes no other name. -/
theorem lookup_register_of_ne (registry : Registry σ) {name other : String} (f : SheetFunction σ)
    (h : key other ≠ key name) :
    (registry.register name f).lookup other = registry.lookup other := by
  simp [lookup, register, List.lookup_cons, beq_eq_false_iff_ne.2 h]

end Registry

end FormulaSheet
