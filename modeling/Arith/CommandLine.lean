import Arith.Expr.Outline
import Arith.Parse

/-!
# The command line

The program takes one expression and prints its dump, its outline or its postfix order;
options may stand before and after it. Arguments are read from left to right, and what
cannot be an argument, or asks for the version, decides at once. Whether the arguments
go together is looked at when all have been read.

Two things that the option parser makes up by itself are left out. There is no page of help,
so `-h` and `--help`, which print it and succeed, are refused here like any option that is not
known. And a refusal is told in words of its own: only the status and the empty output that go
with it are those of the program.

## Main definitions

* `Arith.CommandLine.Request`: what a well-formed command line asks for.
* `Arith.CommandLine.Command` and `Arith.CommandLine.interpret`: the meaning of a list of
  arguments.
* `Arith.CommandLine.Outcome` and `Arith.CommandLine.run`: what the program prints, and
  its exit status.

## Main results

* `Arith.CommandLine.failureReport_parse` and `Arith.CommandLine.failureReport_convert`: what
  is printed for a failure.
* `Arith.CommandLine.report_of_ok` and `Arith.CommandLine.report_of_error`: a success prints
  its value behind an untouched log, and a failure adds its report to the log and prints
  nothing else.
* `Arith.CommandLine.Given.toInt_verbosity`: how often the log was raised and lowered counts
  up to a multiple of 256 only.
-/

namespace Arith

namespace CommandLine

/-- The form in which an expression is printed. -/
inductive View
  | dump
  | outline
  | postorder
  deriving DecidableEq, Repr

/-- What a well-formed command line asks for: an expression, the form in which it is
printed, how strictly it is read, and the least important level that is logged. -/
structure Request where
  expression : String
  view : View := .dump
  config : Config := .strict
  limit : Option Level := some .error
  deriving DecidableEq, Repr

/-- Why arguments are refused. -/
inductive UsageError
  | unknownOption (argument : String)
  | surplusArgument (argument : String)
  | missingExpression
  | repeatedOption (option : String)
  | conflict (option option' : String)
  deriving DecidableEq, Repr

/-- The refusal as a sentence, in words chosen here. -/
def UsageError.message : UsageError → String
  | unknownOption argument => "unknown option " ++ quote argument
  | surplusArgument argument => "unexpected argument " ++ quote argument
  | missingExpression => "the expression is missing"
  | repeatedOption option => option ++ " is given more than once"
  | conflict option option' => option ++ " cannot be used with " ++ option'

/-- The meaning of a list of arguments. -/
inductive Command
  | run (request : Request)
  | version
  | refuse (e : UsageError)
  deriving DecidableEq, Repr

/-! ### Reading arguments -/

/-- The arguments read so far: the expression, and how often each option was given. -/
structure Given where
  expression : Option String := none
  tree : Nat := 0
  postorder : Nat := 0
  lenient : Nat := 0
  verbose : Nat := 0
  quiet : Nat := 0
  deriving DecidableEq, Repr

namespace Given

/-- How far the log is opened: each `-v` raises it by one and each `-q` lowers it by one. It
is kept in a signed byte, so behind 127 it goes on from -128. -/
def verbosity (g : Given) : Int8 :=
  Int8.ofNat g.verbose - Int8.ofNat g.quiet

/-- Verbosity is the difference of the two counts, up to a multiple of 256. -/
theorem toInt_verbosity (g : Given) :
    g.verbosity.toInt = Int.bmod ((g.verbose : Int) - g.quiet) 256 := by
  simp [verbosity, Int8.toInt_sub]

/-- The least important level that is logged. It is errors where nothing raises or lowers
it, every step up brings in one level more, and below that nothing is logged. -/
def limit (g : Given) : Option Level :=
  if g.verbosity.toInt < 0 then none
  else
    match g.verbosity.toInt.toNat with
    | 0 => some .error
    | 1 => some .warn
    | 2 => some .info
    | 3 => some .debug
    | _ => some .trace

/-- The log is off exactly where verbosity is negative. -/
theorem limit_eq_none_iff {g : Given} : g.limit = none ↔ g.verbosity.toInt < 0 := by
  unfold limit
  split
  · simp [*]
  · split <;> simp [*]

/-- The form asked for. -/
def view (g : Given) : View :=
  if g.postorder ≠ 0 then .postorder else if g.tree ≠ 0 then .outline else .dump

/-- The request that the arguments make, if they go together. -/
def command (g : Given) : Command :=
  if 1 < g.tree then .refuse (.repeatedOption "--tree")
  else if 1 < g.postorder then .refuse (.repeatedOption "--postfix")
  else if 1 < g.lenient then .refuse (.repeatedOption "--lenient")
  else if 0 < g.tree ∧ 0 < g.postorder then .refuse (.conflict "--tree" "--postfix")
  else if 0 < g.verbose ∧ 0 < g.quiet then .refuse (.conflict "--verbose" "--quiet")
  else
    match g.expression with
    | none => .refuse .missingExpression
    | some expression =>
      .run {
        expression
        view := g.view
        config := if g.lenient = 0 then .strict else .lenient
        limit := g.limit }

end Given

/-- Reads the single-letter options of one argument. -/
def readLetters (argument : String) (g : Given) : List Char → Except Command Given
  | [] => .ok g
  | 'v' :: letters => readLetters argument { g with verbose := g.verbose + 1 } letters
  | 'q' :: letters => readLetters argument { g with quiet := g.quiet + 1 } letters
  | 'V' :: _ => .error .version
  | _ :: _ => .error (.refuse (.unknownOption argument))

/-- Reads one argument that begins with a hyphen. The options that ask for help are not among
those that are known. -/
def readOption (argument : String) (g : Given) : Except Command Given :=
  match argument with
  | "--tree" => .ok { g with tree := g.tree + 1 }
  | "--postfix" => .ok { g with postorder := g.postorder + 1 }
  | "--lenient" => .ok { g with lenient := g.lenient + 1 }
  | "--verbose" => .ok { g with verbose := g.verbose + 1 }
  | "--quiet" => .ok { g with quiet := g.quiet + 1 }
  | "--version" => .error .version
  | _ =>
    match argument.toList with
    -- A long option is spelled out and takes no value.
    | '-' :: '-' :: _ => .error (.refuse (.unknownOption argument))
    | _ :: letters => readLetters argument g letters
    | [] => .ok g

/-- Reads one argument as the expression. -/
def readExpression (argument : String) (g : Given) : Except Command Given :=
  match g.expression with
  | none => .ok { g with expression := some argument }
  | some _ => .error (.refuse (.surplusArgument argument))

/-- Whether the argument is read as an option: it begins with a hyphen and is not a lone
one. -/
def isOption (argument : String) : Bool :=
  match argument.toList with
  | '-' :: _ :: _ => true
  | _ => false

/-- Reads the arguments behind `--`, none of which is an option. -/
def readPlain (g : Given) : List String → Except Command Given
  | [] => .ok g
  | argument :: arguments => do readPlain (← readExpression argument g) arguments

/-- Reads the arguments from left to right. -/
def readFrom (g : Given) : List String → Except Command Given
  | [] => .ok g
  | argument :: arguments =>
    -- From here on even an argument that looks like an option is none.
    if argument = "--" then readPlain g arguments
    else do
      let g ← if isOption argument then readOption argument g else readExpression argument g
      readFrom g arguments

/-- The meaning of a list of arguments. -/
def interpret (arguments : List String) : Command :=
  match readFrom {} arguments with
  | .error command => command
  | .ok g => g.command

/-! ### Running -/

/-- What the program prints on its two channels, and its exit status. -/
structure Outcome where
  status : Nat
  stdout : String
  stderr : String
  deriving DecidableEq, Repr

/-- The event as a line of the log, with the level's name padded to five characters. -/
def logLine (event : Event) : String :=
  let name := event.level.name
  let padding := String.ofList (List.replicate (5 - name.length) ' ')
  "[" ++ name ++ padding ++ " " ++ event.target ++ "] " ++ event.message ++ "\n"

/-- The lines of the log for the events up to a level. -/
def logText (limit : Option Level) (events : List Event) : String :=
  match limit with
  | none => ""
  | some limit =>
    (events.filter fun event => event.level.within limit).foldl
      (fun text event => text ++ logLine event) ""

/-- The report of a failure with its cause. -/
def failureReport (f : Failure) : String :=
  "Error: " ++ f.message ++ "\n\nCaused by:\n    " ++ f.cause.message ++ "\n"

/-- What is printed when a text could not be read. -/
theorem failureReport_parse (text : String) (cause : ParseError) :
    failureReport ⟨.parse, text, cause⟩ =
      "Error: could not parse expression " ++ quote text ++ "\n\nCaused by:\n    " ++
        cause.message ++ "\n" := by
  apply String.toList_inj.mp
  simp [failureReport, Failure.message]

/-- What is printed when a text could not be put into postfix order. -/
theorem failureReport_convert (text : String) (cause : ParseError) :
    failureReport ⟨.convert, text, cause⟩ =
      "Error: could not convert " ++ quote text ++ " to postfix\n\nCaused by:\n    " ++
        cause.message ++ "\n" := by
  apply String.toList_inj.mp
  simp [failureReport, Failure.message]

/-- The outcome of a logged computation for an expression: its value is printed, or its
failure is reported behind the log. -/
def report {α : Type} (request : Request) (purpose : Purpose) (computed : Logged α)
    (print : α → String) : Outcome :=
  let log := logText request.limit computed.log
  match computed.result with
  | .ok a => { status := 0, stdout := print a, stderr := log }
  | .error cause =>
    { status := 1, stdout := "",
      stderr := log ++ failureReport { purpose, expression := request.expression, cause } }

theorem report_of_ok {α : Type} {request : Request} {purpose : Purpose} {computed : Logged α}
    {print : α → String} {a : α} (h : computed.result = .ok a) :
    report request purpose computed print =
      { status := 0, stdout := print a, stderr := logText request.limit computed.log } := by
  simp [report, h]

theorem report_of_error {α : Type} {request : Request} {purpose : Purpose} {computed : Logged α}
    {print : α → String} {cause : ParseError} (h : computed.result = .error cause) :
    report request purpose computed print =
      { status := 1, stdout := "",
        stderr := logText request.limit computed.log ++
          failureReport { purpose, expression := request.expression, cause } } := by
  simp [report, h]

/-- The logged parse of a request, announced in the log. -/
def announcedParse (request : Request) : Logged Expr := do
  Logged.emit [.started request.expression request.config]
  Logged.parse request.config request.expression

@[simp] theorem result_announcedParse (request : Request) :
    (announcedParse request).result = parse request.config request.expression := by
  simp [announcedParse, Except.bind]

/-- What the program prints for a request. -/
def Request.outcome (request : Request) : Outcome :=
  match request.view with
  | .postorder =>
    report request .convert (Logged.postfixOf request.expression) fun tokens =>
      Token.text tokens ++ "\n"
  | .outline => report request .parse (announcedParse request) Expr.outline
  | .dump => report request .parse (announcedParse request) fun tree => tree.render ++ "\n"

/-- What the program prints for a list of arguments, and its exit status. -/
def run (arguments : List String) : Outcome :=
  match interpret arguments with
  | .run request => request.outcome
  | .version => { status := 0, stdout := "expression-parser-cli 0.1.0\n", stderr := "" }
  | .refuse e => { status := 2, stdout := "", stderr := "error: " ++ e.message ++ "\n" }

end CommandLine

end Arith
