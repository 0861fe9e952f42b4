/-!
# Callables

What a user may ask to profile: a routine in one of many guises, or a thing made of callables. The
routines behind a callable are those reachable in it, in the order in which they are declared, each
once.
-/

namespace LineClock

/-- A callable over routines `ρ`. -/
inductive Callable (ρ : Type) where
  | routine (routine : ρ)
  /-- A routine together with the object it is called on. -/
  | bound (routine : ρ) (receiver : String)
  | accessors (getter setter deleter : Option ρ)
  /-- A callable with some of its arguments fixed. -/
  | applied (inner : Callable ρ)
  | wrapper (inner : Callable ρ)
  | group (name : String) (members : List (String × Callable ρ))
  /-- A callable without code. -/
  | builtin (name : String)
  deriving Inhabited

namespace Callable

variable {ρ : Type}

mutual
/-- The routines reachable in a callable, in order of declaration. -/
def reached : Callable ρ → List ρ
  | routine r => [r]
  | bound r _ => [r]
  | accessors g s d => [g, s, d].filterMap id
  | applied inner => inner.reached
  | wrapper inner => inner.reached
  | group _ members => reachedIn members
  | builtin _ => []

/-- The routines reachable in the members of a group. -/
def reachedIn : List (String × Callable ρ) → List ρ
  | [] => []
  | (_, member) :: rest => member.reached ++ reachedIn rest
end

variable {ρ' : Type}

mutual
/-- The callable with every routine replaced. -/
def map (f : ρ → ρ') : Callable ρ → Callable ρ'
  | routine r => routine (f r)
  | bound r receiver => bound (f r) receiver
  | accessors g s d => accessors (g.map f) (s.map f) (d.map f)
  | applied inner => applied (inner.map f)
  | wrapper inner => wrapper (inner.map f)
  | group name members => group name (mapIn f members)
  | builtin name => builtin name

/-- The members of a group with every routine replaced. -/
def mapIn (f : ρ → ρ') : List (String × Callable ρ) → List (String × Callable ρ')
  | [] => []
  | (name, member) :: rest => (name, member.map f) :: mapIn f rest
end

/-- Append a routine unless it is there. -/
def push [DecidableEq ρ] (found : List ρ) (r : ρ) : List ρ :=
  if found.contains r then found else found ++ [r]

/-- The routines behind a callable, each once. -/
def routines [DecidableEq ρ] (c : Callable ρ) : List ρ := c.reached.foldl push []

/-- The name of a callable, from the names of routines. -/
def name (nameOf : ρ → String) : Callable ρ → String
  | routine r => nameOf r
  | bound r receiver => receiver ++ "." ++ nameOf r
  | accessors g s d => (([g, s, d].filterMap id).head?.map nameOf).getD "<property>"
  | applied inner => "partial(" ++ inner.name nameOf ++ ")"
  | wrapper inner => inner.name nameOf
  | group name _ => name
  | builtin name => name

end Callable

end LineClock
