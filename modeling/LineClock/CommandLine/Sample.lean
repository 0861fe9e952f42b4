import LineClock.Engine.Host
import LineClock.Engine.Watch

/-!
# The sample program

A small program with a loop, two routines of equal code and a generator, together with its source
text, for demonstrations.
-/

namespace LineClock

namespace Sample

/-- The name of the source file. -/
def file : String := "demo.py"

/-- The source text. -/
def source : String :=
  "\n".intercalate
    ["def double(n):",
      "    x = n * 2",
      "    return x",
      "",
      "def busy_loop():",
      "    for i in range(3):",
      "        work(i)",
      "    return i",
      "",
      "def first():",
      "    pass",
      "",
      "def second():",
      "    pass",
      "",
      "def countdown():",
      "    yield 2",
      "    yield 1",
      ""]

/-- Two lines of work. -/
def double : Draft :=
  { name := "double", file, firstLine := 1 : Draft }
    |>.onLine 2 |>.op (.work 2)
    |>.onLine 3 |>.op (.work 1) |>.op .ret

/-- The head of a loop of three rounds. -/
def loopHead : Draft :=
  { name := "busy_loop", file, firstLine := 5 : Draft }
    |>.onLine 6 |>.op (.loopStart 3)

/-- A loop of three rounds. -/
def busyLoop : Draft :=
  loopHead
    |>.onLine 7 |>.op (.work 5)
    |>.onLine 6 |>.op (.loopEnd loopHead.here)
    |>.onLine 8 |>.op .ret

/-- A routine that only returns. -/
def first : Draft :=
  { name := "first", file, firstLine := 10 : Draft } |>.onLine 11 |>.op .ret

/-- A routine with the same instructions, and so with the same block identity until one of the two
is padded. -/
def second : Draft :=
  { name := "second", file, firstLine := 13 : Draft } |>.onLine 14 |>.op .ret

/-- A generator that yields twice. -/
def countdown : Draft :=
  { name := "countdown", file, firstLine := 16, generator := true : Draft }
    |>.onLine 17 |>.op (.work 1) |>.op .yield
    |>.onLine 18 |>.op (.work 1) |>.op .yield |>.op .ret

/-- How many units one resumption of a frame may execute. -/
def budget : Nat := 1000

/-- Call a routine a number of times. -/
def repeatCalls (host : Host Engine) (routine : RoutineId) : Nat → Machine.Exec Engine Unit
  | 0 => pure ()
  | n + 1 => do
    Machine.call host budget routine
    repeatCalls host routine n

/-- Call the first routine `calls` times and each of the others once; the generator runs to its
end. -/
def run (calls : Nat) (routines : List RoutineId) : Machine.Exec Engine Unit := do
  let host := Scripts.quiet.host
  match routines with
  | [] => pure ()
  | first :: rest =>
    repeatCalls host first calls
    rest.forM (Machine.call host budget)

/-- The routines of the program. -/
def define : StateM Engine (List RoutineId) :=
  [double, busyLoop, first, second, countdown].mapM Engine.define

/-- The sources of the program. -/
def sources : Sources := .ofTexts [(file, source)]

end Sample

end LineClock
