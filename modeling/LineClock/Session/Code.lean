import LineClock.Session.State

/-!
# Steps on code

Defining routines, changing their code, and looking at it.
-/

namespace LineClock.Session

/-- Give a routine a name; a routine that had the name is no longer held by it. -/
def nameRoutine (name : String) (id : RoutineId) : Play Unit :=
  modify fun s => { s with routines := s.routines.set name id }

/-- Remember the name of a native block. -/
def noteNative (block : Block) : Play Unit :=
  if block.native then
    modify fun s => { s with natives := s.natives.set block.identity block.name }
  else
    pure ()

/-- The block of a routine. -/
def blockOf (id : RoutineId) : Play Block := return (← get).engine.codeOf id

/-- The draft with one more entry of a definition. -/
def addEntry (draft : Draft) (entry : Entry) : TryPlay Draft := do
  let draft := match entry.line with
    | some line => draft.onLine line
    | none => draft
  match entry.piece with
  | .op op => return draft.op op
  | .call name => return draft.call (← find State.routines name)

/-- Define a routine. The answer is the index that one more instruction would have. -/
def define (o : Outline) (body : List Entry) : TryPlay Answer := do
  let draft : Draft :=
    { name := o.title, file := o.file, firstLine := o.firstLine, generator := o.generator,
      native := o.native }
  let draft ← body.foldlM addEntry draft
  let id ← (onEngine (Engine.define draft) : Play RoutineId)
  noteNative (← blockOf id)
  nameRoutine o.name id
  return .count draft.here.toNat

/-- Make a new routine of the block of another. -/
def share (routine name : String) : TryPlay Answer := do
  let block ← blockOf (← find State.routines routine)
  nameRoutine name (← (onEngine (Engine.newRoutine block) : Play RoutineId))
  return .done

/-- Put the block of one routine into another. The answer is the name of the block before. -/
def replaceCode (routine source : String) : TryPlay Answer := do
  let id ← find State.routines routine
  let block ← blockOf (← find State.routines source)
  let before ← blockOf id
  (onEngine (modify fun e => e.replaceCode id block) : Play Unit)
  return .text (some before.name)

/-- A block as an answer. -/
def codeAnswer (block : Block) : Play Answer := do
  let s ← get
  return .code block (s.label block.identity) (block.callees.map s.routineName)

/-- Replace the block of a routine by a padded copy. -/
def pad (routine : String) (units : Nat) : TryPlay Answer := do
  let id ← find State.routines routine
  let copy ← (onEngine Engine.newBlock : Play BlockId)
  let block := (← blockOf id).withPadding units copy
  (onEngine (modify fun e => e.replaceCode id block) : Play Unit)
  noteNative block
  codeAnswer block

/-- Show the block of a routine. -/
def showCode (routine : String) : TryPlay Answer := do
  codeAnswer (← blockOf (← find State.routines routine))

/-- The line of an instruction. -/
def lineAt (routine : String) (offset : Nat) : TryPlay Answer := do
  return .line ((← blockOf (← find State.routines routine)).lineAt? offset)

/-- What a routine is. -/
def about (routine : String) : TryPlay Answer := do
  let id ← find State.routines routine
  let s ← get
  let r := s.engine.routine id
  return .about (s.engine.codeOf id).name r.scope.isSome (r.wrapped.bind s.routineName)

/-- Compare two routines. -/
def compareRoutines (routine other : String) : TryPlay Answer := do
  let a ← find State.routines routine
  let b ← find State.routines other
  let block ← blockOf a
  let block' ← blockOf b
  return .compared (block.id = block'.id) (block.identity = block'.identity) (a = b)

/-- A callable with its names looked up. -/
def resolve (c : Callable String) : TryPlay (Callable RoutineId) := do
  c.reached.forM fun name => discard <| find State.routines name
  let s ← get
  return c.map fun name => s.routines.getD name 0

/-- The routines behind a callable. -/
def classify (c : Callable String) : TryPlay Answer := do
  let c ← resolve c
  let s ← get
  return .classified (c.name fun id => (s.engine.codeOf id).name)
    (c.routines.map fun id => (s.routineName id, (s.engine.codeOf id).native))

end LineClock.Session
