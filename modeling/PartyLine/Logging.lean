/-!
# Logging

A logger decides by the target and the level of a record whether it accepts it.
Its *filter* is a list of directives, each a level for the targets that start
with a name; the directive with the longest such name decides.

Directives stay in the order in which their targets were first given, and a later one for the same
targets takes the place of the earlier. One without a name is for all targets, and gives way to
every name that fits. What cannot be read of a text of directives is left out, and a filter without
any lets errors pass.

* `Logging.Filter.parse`: the directives of a text such as `warn,app=debug`;
* `Logging.Filter.accepts`: whether a record passes;
* `Logging.setup`: the filter of a level, with three modules held at `INFO`.
-/

namespace PartyLine

namespace Logging

/-- How much is logged, from nothing to everything; also the level of a record,
    which is not `off`. -/
inductive Level where
  | off
  | error
  | warn
  | info
  | debug
  | trace
  deriving DecidableEq, Inhabited

namespace Level

/-- The place of a level in their order. -/
def rank : Level → Nat
  | off => 0
  | error => 1
  | warn => 2
  | info => 3
  | debug => 4
  | trace => 5

/-- All levels in order. -/
def all : List Level := [off, error, warn, info, debug, trace]

/-- The name of a level. -/
def name : Level → String
  | off => "OFF"
  | error => "ERROR"
  | warn => "WARN"
  | info => "INFO"
  | debug => "DEBUG"
  | trace => "TRACE"

/-- The level of that name in any case. -/
def ofName? (s : String) : Option Level :=
  all.find? fun l => l.name.toList == s.toList.map Char.toUpper

/-- The greater of two levels. -/
def max (a b : Level) : Level := if a.rank ≤ b.rank then b else a

end Level

/-- A level for the targets that start with a name, or for all. -/
structure Directive where
  target : Option String
  level : Level
  deriving DecidableEq

namespace Directive

/-- The length of the name in bytes. -/
def size (d : Directive) : Nat := d.target.elim 0 String.utf8ByteSize

/-- Whether the directive is about a target. -/
def covers (d : Directive) (target : String) : Bool :=
  d.target.elim true fun name => name.toList.isPrefixOf target.toList

/-- The white space around the parts of a directive. -/
def isSpace (c : Char) : Bool :=
  c.isWhitespace || ['\x0b', '\x0c', '\x85', '\xa0', '\u1680', '\u2028', '\u2029', '\u202f',
    '\u205f', '\u3000'].contains c || (0x2000 ≤ c.toNat && c.toNat ≤ 0x200a)

/-- A text without the white space at its ends. -/
def trim (s : List Char) : List Char :=
  ((s.dropWhile isSpace).reverse.dropWhile isSpace).reverse

/-- The pieces of a text between the marks `sep`. -/
def pieces (sep : Char) (s : List Char) : List (List Char) :=
  s.foldr (fun c parts => if c = sep then [] :: parts else
    match parts with
    | p :: ps => (c :: p) :: ps
    | [] => [[c]]) [[]]

/-- The directive of its text: a level, a name, or a name and a level. -/
def parse? (s : List Char) : Option Directive :=
  match pieces '=' s with
  | [one] =>
      match Level.ofName? (String.ofList one) with
      | some level => some ⟨none, level⟩
      | none => some ⟨some (String.ofList one), .trace⟩
  | [name, level] =>
      let level := trim level
      if level.isEmpty then some ⟨some (String.ofList name), .trace⟩
      else (Level.ofName? (String.ofList level)).map fun l => ⟨some (String.ofList name), l⟩
  | _ => none

end Directive

/-- The directives of a logger, in the order in which they were first given. -/
structure Filter where
  directives : List Directive := []
  deriving DecidableEq, Inhabited

namespace Filter

/-- Adds a directive in the place of the one for the same targets. -/
def insert (f : Filter) (d : Directive) : Filter :=
  if f.directives.any (·.target == d.target) then
    { f with directives := f.directives.map fun old => if old.target == d.target then d else old }
  else
    { f with directives := f.directives ++ [d] }

/-- The directives of a text, separated by commas; those that cannot be read
    are left out. What follows a slash filters messages and not records; a
    second slash makes the whole text void. -/
def parse (text : String) : Filter :=
  match Directive.pieces '/' text.toList with
  | [spec] | [spec, _] =>
      (((Directive.pieces ',' spec).map Directive.trim).filter (!·.isEmpty)).foldl
        (fun f s => (Directive.parse? s).elim f f.insert) {}
  | _ => {}

/-- The directives that a logger goes by: errors of all targets if none is given. -/
def effective (f : Filter) : List Directive :=
  if f.directives.isEmpty then [⟨none, .error⟩] else f.directives

/-- The later directive of those with the longest name. -/
def longest : List Directive → Option Directive
  | [] => none
  | d :: ds =>
      match longest ds with
      | none => some d
      | some e => if e.size < d.size then some d else some e

/-- The directive that decides about a target. -/
def deciding (f : Filter) (target : String) : Option Directive :=
  longest (f.effective.filter (·.covers target))

/-- Whether a record of that target and level passes. -/
def accepts (f : Filter) (target : String) (level : Level) : Bool :=
  (f.deciding target).elim false fun d => decide (level.rank ≤ d.level.rank)

/-- The greatest level at which any record can pass. -/
def maxLevel (f : Filter) : Level := f.effective.foldl (fun l d => l.max d.level) .off

end Filter

/-- The modules whose level is fixed. -/
def fixedModules : List String := ["tungstenite", "tokio_tungstenite", "rustls"]

/-- The filter that a level asks for, unless a text of directives overrides it. -/
def requested (level : String) (override : Option String) : Filter :=
  .parse (override.getD ((Level.ofName? level).getD .info).name)

/-- The filter installed for a level: the requested one with the fixed modules
    at `INFO`. -/
def setup (level : String) (override : Option String) : Filter :=
  fixedModules.foldl (fun f m => f.insert ⟨some m, .info⟩) (requested level override)

/-- The process's logger: none, or the first one installed. -/
abbrev Logger := Option Filter

/-- Why no logger was installed. -/
inductive SetupError where
  | alreadyInstalled
  deriving DecidableEq

/-- The wording of the cause. -/
def SetupError.detail : SetupError → String
  | alreadyInstalled =>
      "attempted to set a logger after the logging system was already initialized"

/-- Installs a logger unless there is one. -/
def install (logger : Logger) (level : String) (override : Option String) :
    Except SetupError Unit × Logger :=
  match logger with
  | some f => (.error .alreadyInstalled, some f)
  | none => (.ok (), some (setup level override))

/-- Whether the process logs a record. -/
def Logger.accepts (logger : Logger) (target : String) (level : Level) : Bool :=
  logger.elim false (·.accepts target level)

/-- The greatest level that the process logs. -/
def Logger.maxLevel (logger : Logger) : Level := logger.elim .off (·.maxLevel)

end Logging

end PartyLine
