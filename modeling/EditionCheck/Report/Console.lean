import EditionCheck.Check.Run
import EditionCheck.Report.Style

/-!
  Messages on the console while a check runs.

  A console that is quiet shows errors only. A reporter also tells in its verbose form when a run
  starts, which dependency comes next and when the run ends; quiet silences it. No bar is ever
  drawn, but a reporter knows whether it would have one.
-/

namespace EditionCheck

namespace Diagnostic

/-- The style of a message. -/
def Level.style : Level → Style
  | conforming => .green
  | nonConforming => .red
  | warning => .yellow
  | error => .boldRed

/-- The line of a message, without its end. -/
def rendered (d : Diagnostic) (colors : Bool) : String :=
  if colors then Style.bold.paint d.level.marker ++ " " ++ d.level.style.paint d.message
  else d.display

end Diagnostic

/-- A console that shows messages. -/
structure Console where
  colors : Bool
  quiet : Bool
  deriving DecidableEq, Repr

/-- What a console prints for a message. -/
def Console.print (c : Console) (d : Diagnostic) : String :=
  if c.quiet && d.level ≠ .error then "" else d.rendered c.colors ++ "\n"

/-- A teller of how a run proceeds. -/
structure Reporter where
  quiet : Bool
  verbose : Bool
  bar : Bool
  colors : Bool
  deriving DecidableEq, Repr

namespace Reporter

/-- The reporter would draw a bar. -/
def hasBar (r : Reporter) : Bool := !r.quiet && r.bar

/-- The console for the messages of a run. -/
def console (r : Reporter) : Console := ⟨r.colors, r.quiet⟩

/-- What is printed for a line. -/
def line (r : Reporter) (s : String) : String := if r.quiet then "" else s ++ "\n"

/-- What is printed for a line of the verbose form. -/
def verboseLine (r : Reporter) (s : String) : String := if r.verbose then r.line s else ""

/-- What is printed when a run starts. -/
def start (r : Reporter) (what : String) : String := r.verboseLine ("Starting: " ++ what)

/-- What is printed when a run has come this far; after the last dependency that is nothing. -/
def update (r : Reporter) (p : Progress) : String :=
  if p.current < p.total then
    r.verboseLine ("[" ++ toString (p.current + 1) ++ "/" ++ toString p.total ++ "] " ++ p.message)
  else ""

/-- What is printed when a run has ended. -/
def finish (r : Reporter) (what : String) : String := r.verboseLine ("Finished: " ++ what)

/-- What is printed for an event of a run. -/
def event (r : Reporter) : Check.Event → String
  | .said d => r.console.print d
  | .reached p => r.update p

end Reporter
end EditionCheck
