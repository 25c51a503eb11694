import TypedSql.Error

/-!
# Parameter arenas

The arena of a filter lists its parameters by position, counted from one. Uses of one name share a
position; a parameter without a name has a position of its own.

## Main definitions

* `Arena` — the parameters of a filter.
* `Arena.place` — the position of a parameter, which is new or shared.
* `Arena.bind` — one cell per position, from the captured values and the arguments.

## Main results

* `Arena.place_anonymous` — a parameter without a name takes the next position.
-/

set_option autoImplicit false

namespace TypedSql

/-- The parameters of a filter in the order of their positions. -/
structure Arena where
  slots : List Parameter := []
  deriving DecidableEq, Repr

namespace Arena

/-- The number of positions. -/
def size (a : Arena) : Nat := a.slots.length

/-- Whether there are no parameters. -/
def isEmpty (a : Arena) : Bool := a.slots.isEmpty

/-- The parameter at a position; no parameter is at position zero. -/
def get? (a : Arena) : Nat → Option Parameter
  | 0 => none
  | n + 1 => a.slots[n]?

/-- The number of values that are given when the filter runs. -/
def runtimeCount (a : Arena) : Nat := a.slots.countP (·.isRuntime)

/-- Adds a parameter at the next position. -/
def push (a : Arena) (p : Parameter) : Arena := ⟨a.slots ++ [p]⟩

/-- The index and the parameter of a name. -/
def findName? (a : Arena) (name : String) : Option (Nat × Parameter) := do
  let i ← a.slots.findIdx? (·.name == some name)
  return (i, ← a.slots[i]?)

/-- The position of a parameter. A name that is in use keeps its position and the value captured
first; its kind must be the same, and it must be captured both times or neither time. -/
def place (a : Arena) (site : Site) (p : Parameter) : Except Error (Nat × Arena) :=
  match p.name with
  | none => .ok (a.size + 1, a.push p)
  | some name =>
    match a.findName? name with
    | none => .ok (a.size + 1, a.push p)
    | some (i, slot) =>
      if slot.kind ≠ p.kind then
        .error (.mismatch site (.parameter name) (.kind slot.kind) p.kind)
      else if slot.isRuntime != p.isRuntime then
        .error (.refused site (.mixedParameter name))
      else .ok (i + 1, a)

/-- A parameter without a name takes the next position. -/
theorem place_anonymous (a : Arena) (site : Site) {p : Parameter} (h : p.name = none) :
    a.place site p = .ok (a.size + 1, a.push p) := by
  simp [place, h]

/-! ## Binding -/

/-- The cells of the positions from `position` on. Each parameter without a captured value takes
the next argument; `missing` is the error if there is none. -/
def bindFrom (missing : Error) (position : Nat) :
    List Parameter → List Cell → Except Error (List Cell)
  | [], _ => .ok []
  | p :: ps, args =>
    match p.value, args with
    | some v, _ => (bindFrom missing (position + 1) ps args).map (v :: ·)
    | none, [] => .error missing
    | none, c :: rest =>
      if p.kind.accepts c then (bindFrom missing (position + 1) ps rest).map (c :: ·)
      else .error (.argumentType position p.kind c.type)

/-- One cell per position: the captured values, and the arguments in order for the others. -/
def bind (a : Arena) (args : List Cell) : Except Error (List Cell) :=
  let wrongCount := Error.argumentCount a.runtimeCount args.length
  if args.length = a.runtimeCount then bindFrom wrongCount 1 a.slots args
  else .error wrongCount

end Arena

end TypedSql
