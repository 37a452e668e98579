/-
Log records and the console that shows them.

A record has a level, a target and a message.  The console lets records through up to the level
it is set to and writes each on a line of its own.  A console whose sink fails loses the text;
that is never an error.
-/

namespace Interception.Log

/-- How severe a record is. -/
inductive Level where
  | error
  | warn
  | info
  | debug
  | trace
deriving DecidableEq, Inhabited

/-- The rank of a level: the smaller, the more severe. -/
def Level.rank : Level → Nat
  | error => 1
  | warn => 2
  | info => 3
  | debug => 4
  | trace => 5

def Level.label : Level → String
  | error => "ERROR"
  | warn => "WARN"
  | info => "INFO"
  | debug => "DEBUG"
  | trace => "TRACE"

/-- Which records a console lets through: none, or all down to a level. -/
inductive Filter where
  | off
  | upTo (level : Level)
deriving DecidableEq, Inhabited

def Filter.label : Filter → String
  | off => "OFF"
  | upTo level => level.label

/-- Whether records of a level are let through. -/
def Filter.admits : Filter → Level → Bool
  | off, _ => false
  | upTo limit, level => level.rank ≤ limit.rank

structure Record where
  level : Level
  target : String
  message : String
deriving DecidableEq

/-- The line of a record, its end included. -/
def Record.line (r : Record) : String :=
  s!"[{r.level.label} {r.target}] {r.message}\n"

/-- Where a console writes to. -/
inductive Sink where
  /-- A sink that has taken this text. -/
  | written (text : String)
  /-- A sink on which every write fails. -/
  | broken
deriving DecidableEq

/-- The text that a sink has taken; none if it takes none. -/
def Sink.text? : Sink → Option String
  | written text => some text
  | broken => none

/-- Appends to a sink; a broken sink stays as it is. -/
def Sink.append : Sink → String → Sink
  | written text, more => written (text ++ more)
  | broken, _ => broken

/-- A console: a filter in front of a sink. -/
structure Console where
  filter : Filter
  sink : Sink

namespace Console

/-- Shows a record, if the filter lets it through. -/
def log (c : Console) (r : Record) : Console :=
  if c.filter.admits r.level then { c with sink := c.sink.append r.line } else c

def logAll (c : Console) (records : List Record) : Console :=
  records.foldl log c

end Console

/-- The lines that a working console shows for some records.  A message with line breaks takes
several lines. -/
def lines (filter : Filter) (records : List Record) : List String :=
  let console := Console.logAll ⟨filter, .written ""⟩ records
  let text := console.sink.text?.getD ""
  (text.splitOn "\n").dropLast

end Interception.Log
