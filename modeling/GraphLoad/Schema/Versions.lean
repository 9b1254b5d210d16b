import GraphLoad.Schema.Resolve

/-! Successive versions of a model: they are only ever added, and read by number from either end. -/

namespace GraphLoad

/-- The versions of a model. -/
structure Versions where
  /-- The models, oldest first. -/
  models : List Model := []
deriving DecidableEq, Repr

namespace Versions

/-- Adds a version. -/
def push (v : Versions) (m : Model) : Versions :=
  ⟨v.models ++ [m]⟩

/-- The number of versions, which is also the number of the newest one. -/
def size (v : Versions) : Nat :=
  v.models.length

/-- Adds a version and tells its number. -/
def add (v : Versions) (m : Model) : Nat × Versions :=
  let after := v.push m
  (after.size, after)

/-- The place of a version: numbers count from one at the oldest, and from `-1` at the newest. -/
def index? (v : Versions) : Int → Option Nat
  | .ofNat 0 => none
  | .ofNat (n + 1) => some n
  | .negSucc n => if n < v.size then some (v.size - (n + 1)) else none

/-- The version with a number. -/
def get (v : Versions) (number : Int) : Except ModelError Model :=
  match (v.index? number).bind fun i => v.models[i]? with
  | some m => .ok m
  | none => .error (.noSuchVersion number v.size)

/-- The newest version. -/
def current (v : Versions) : Except ModelError Model :=
  match v.models.getLast? with
  | some m => .ok m
  | none => .error .emptyHistory

end Versions

end GraphLoad
