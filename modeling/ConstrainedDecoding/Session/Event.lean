import ConstrainedDecoding.Grammar.Constraint

/-!
What an action lets others see of itself: the calls it makes to a collaborator and the entries it
writes to the log.
-/

namespace ConstrainedDecoding

/-- A call to a grammar session or to a token engine. Parsers of a token engine are numbered in the
order in which they were opened. -/
inductive Call
  -- a session and where it comes from
  | start
  | init (grammar tokenizer : String)
  | allowed (token : Int)
  | mask
  | advance (token : Int) (moved : Bool)
  | complete
  | reset (grammar : String)
  -- a token engine
  | loadTokenizer (document : String) (size : Int) (endToken : Option Int)
  | compile (constraint : Constraint)
  | openParser (number : Nat) (grammar : String) (logLevel : Int)
  | validate (number : Nat) (token : Int)
  | consume (number : Nat) (token : Int) (moved : Bool)
  | accepting (number : Nat)
  | restart (number : Nat)
  | allocate (size : Int)
  | fill (number : Nat)

/-- How much a log entry matters. -/
inductive LogLevel
  | debug
  | info
  deriving DecidableEq, Repr

/-- The part of the library that writes a log entry. -/
inductive LogSource
  | matcher
  | engineSession
  | processor
  deriving DecidableEq, Repr

/-- An entry of the log. -/
structure LogEntry where
  level : LogLevel
  source : LogSource
  message : String
  deriving DecidableEq, Repr

/-- Something an action lets others see. -/
inductive Event
  | call (call : Call)
  | log (entry : LogEntry)

namespace Event

/-- The call, if the event is one. -/
def call? : Event → Option Call
  | call made => some made
  | log _ => none

/-- The log entry, if the event is one. -/
def log? : Event → Option LogEntry
  | call _ => none
  | log entry => some entry

end Event

end ConstrainedDecoding
