import Arith.Proofs.LenientReading
import Arith.Proofs.OutputFormats
import Arith.Proofs.QuotedText

/-!
# The modes of the command line agree

One expression can be asked for in three forms and read in two ways, and each of the six
questions is answered on its own. For the postfix order the tokens are converted and nothing
else is done, so how strictly they are read is of no matter; for the dump and for the outline
the tokens are converted, and then an expression is built. A text whose tokens cannot be
converted is therefore refused by all six for one cause, and a text that is read with nothing
left over is answered by all six out of one expression.

When the log stays empty, an answer is nothing but what is printed or a failure reported. The
comparison is made between these, and it holds of any arguments that ask for the six, whatever
their order and wherever the expression stands among them. A failure is told in one sentence on
what could not be done and one on the cause, and the second is what agrees from form to form.

## Main definitions

* `Arith.CommandLine.Silent`: a limit for the log that lets no event through.
* `Arith.CommandLine.Asks`: arguments that ask for a form of an expression without a log.
* `Arith.CommandLine.invocation`: arguments for a form, a configuration and an expression.
* `Arith.CommandLine.View.answer`: what is printed in a form, or why nothing can be.
* `Arith.CommandLine.View.complaint`: what could not be done with a text, in a sentence.
* `Arith.CommandLine.ModesAgree`: how the outcomes for one text are related.

## Main results

* `Arith.CommandLine.silent_iff`: the limits that let nothing through.
* `Arith.CommandLine.asks_invocation`: every expression can be asked for in every form.
* `Arith.CommandLine.run_of_asks`: the outcome for such arguments.
* `Arith.CommandLine.modes_agree`: the outcomes for a text agree with each other.
-/

namespace Arith

open Token (opens closes)

/-- A text has no postfix order exactly when some beginning of its tokens closes more groups
than it opens. -/
theorem exists_postfixOf_eq_error_iff {text : String} :
    (∃ cause, postfixOf text = .error cause) ↔
      ∃ start, start <+: tokenize text ∧ opens start < closes start := by
  simp [postfixOf, Postfix.toPostfix_eq_error_iff_overcloses, Token.Overcloses]

/-- What is read with nothing left over is read alike under every configuration. -/
theorem parse_of_parse_strict {text : String} {t : Expr} (read : parse .strict text = .ok t)
    (config : Config) : parse config text = .ok t := by
  match config with
  | ⟨.reject⟩ => exact read
  | ⟨.keepTopmost⟩ =>
    have ordered := postfixOf_of_parse_strict read
    rw [parse, ofInfix_of_ok _ ordered] at read ⊢
    exact (Expr.extends_ofPostfix t.toPostfix).accepted t read

theorem map_eq_ok_iff {α β : Type} {result : Except ParseError α} {f : α → β} {b : β} :
    result.map f = .ok b ↔ ∃ a, result = .ok a ∧ f a = b := by
  cases result <;> simp [Except.map]

namespace CommandLine

variable {text : String} {view : View} {config : Config} {limit : Option Level}
  {arguments : List String}

/-! ### Logging off -/

/-- The limit lets no event into the log. -/
def Silent (limit : Option Level) : Prop :=
  ∀ level ∈ limit, ∀ event : Event, event.level.within level = false

/-- The log stays empty when it is off, and when it takes nothing but errors and warnings. -/
theorem silent_iff : Silent limit ↔ ∀ level ∈ limit, level = .error ∨ level = .warn := by
  constructor
  · intro silent level given
    -- The event that matters most is the start of a parse.
    have started := silent level given (.started "" .strict)
    cases level with
    | error => exact .inl rfl
    | warn => exact .inr rfl
    | info | debug | trace => cases started
  · intro unimportant level given event
    rcases unimportant level given with rfl | rfl
    · cases event <;> rfl
    · cases event <;> rfl

theorem logText_of_silent (silent : Silent limit) (events : List Event) :
    logText limit events = "" := by
  cases limit with
  | none => rfl
  | some level =>
    have nothing : events.filter (fun event => event.level.within level) = [] :=
      List.filter_eq_nil_iff.mpr fun event _ => by simp [silent level rfl event]
    rw [logText, nothing]
    rfl

/-! ### Arguments that ask for a form of an expression -/

/-- The arguments ask for the expression in the given form and read as given, and for no
log. -/
def Asks (arguments : List String) (text : String) (view : View) (config : Config) : Prop :=
  ∃ limit, interpret arguments = .run ⟨text, view, config, limit⟩ ∧ Silent limit

/-- The option that asks for the form. -/
def View.options : View → List String
  | dump => []
  | outline => ["--tree"]
  | postorder => ["--postfix"]

/-- The option that asks for the configuration. -/
def configOptions (config : Config) : List String :=
  if config = .strict then [] else ["--lenient"]

/-- The arguments that give the expression. What begins with a hyphen stands behind `--`, where
nothing is an option. -/
def positional (text : String) : List String :=
  if text.toList.head? = some '-' then ["--", text] else [text]

/-- The options for a form and a configuration, with the log left alone or turned off. -/
def options (view : View) (config : Config) (quiet : Bool) : List String :=
  view.options ++ configOptions config ++ if quiet then ["-q"] else []

/-- The arguments for a form, a configuration and an expression. -/
def invocation (view : View) (config : Config) (quiet : Bool) (text : String) : List String :=
  options view config quiet ++ positional text

/-- An argument in front of the separator is read as an option or as the expression. -/
theorem readFrom_cons {argument : String} (plain : argument ≠ "--") (g : Given)
    (arguments : List String) :
    readFrom g (argument :: arguments) =
      (if isOption argument then readOption argument g else readExpression argument g).bind
        (readFrom · arguments) := by
  rw [readFrom, if_neg plain]
  split <;> rfl

/-- Arguments in front of the separator are read before what follows them. -/
theorem readFrom_append {g g' : Given} {first : List String} (unseparated : "--" ∉ first)
    (read : readFrom g first = .ok g') (rest : List String) :
    readFrom g (first ++ rest) = readFrom g' rest := by
  induction first generalizing g with
  | nil =>
    cases read
    rfl
  | cons argument first ih =>
    rw [List.mem_cons, not_or] at unseparated
    have plain : argument ≠ "--" := Ne.symm unseparated.1
    rw [readFrom_cons plain] at read
    rw [List.cons_append, readFrom_cons plain]
    cases next : if isOption argument then readOption argument g else readExpression argument g with
    | error command =>
      rw [next] at read
      cases read
    | ok g'' =>
      rw [next] at read
      exact ih unseparated.2 read

/-- An expression that is given for the first time is taken. -/
theorem readFrom_positional {g : Given} (first : g.expression = none) (text : String) :
    readFrom g (positional text) = .ok { g with expression := some text } := by
  have taken : readExpression text g = .ok { g with expression := some text } := by
    rw [readExpression, first]
  unfold positional
  split
  · rw [readFrom, if_pos rfl, readPlain, taken]
    rfl
  · rename_i plain
    -- Without a hyphen in front it is neither the separator nor an option.
    have separate : text ≠ "--" := by
      rintro rfl
      exact plain rfl
    have none : isOption text = false := by
      unfold isOption
      split
      · rename_i hyphen
        rw [hyphen] at plain
        exact absurd rfl plain
      · rfl
    rw [readFrom_cons separate, none, if_neg Bool.false_ne_true, taken]
    rfl

theorem separator_not_mem_options (view : View) (config : Config) (quiet : Bool) :
    "--" ∉ options view config quiet := by
  match config with
  | ⟨leftovers⟩ => cases view <;> cases leftovers <;> cases quiet <;> decide

/-- The options alone are read, and they go together. -/
theorem exists_readFrom_options (view : View) (config : Config) (quiet : Bool) :
    ∃ g, readFrom {} (options view config quiet) = .ok g ∧ g.expression = none ∧
      g.limit = (if quiet then none else some .error) ∧
      ∀ text, { g with expression := some text }.command =
        .run ⟨text, view, config, g.limit⟩ := by
  match config with
  | ⟨leftovers⟩ =>
    cases view <;> cases leftovers <;> cases quiet <;>
      refine ⟨_, rfl, rfl, by decide, fun text => ?_⟩ <;>
      simp [Given.command, Given.view, Given.limit, Given.verbosity, Config.strict,
        Config.lenient]

/-- Every expression can be asked for in every form and under every configuration. -/
theorem asks_invocation (text : String) (view : View) (config : Config) (quiet : Bool) :
    Asks (invocation view config quiet text) text view config := by
  obtain ⟨g, read, first, limited, makes⟩ := exists_readFrom_options view config quiet
  have unseparated := separator_not_mem_options view config quiet
  refine ⟨g.limit, ?_, ?_⟩
  · rw [interpret, invocation, readFrom_append unseparated read, readFrom_positional first]
    exact makes text
  · rw [limited]
    apply silent_iff.mpr
    cases quiet <;> simp

/-! ### The outcome for such arguments -/

/-- What is to be done for a form. -/
def View.purpose : View → Purpose
  | dump | outline => .parse
  | postorder => .convert

/-- What is printed for a text in the given form and read as given, or why nothing can be. -/
def View.answer (view : View) (config : Config) (text : String) : Except ParseError String :=
  match view with
  | dump | outline => (parse config text).map view.print
  | postorder => (postfixOf text).map fun order => Token.text order ++ "\n"

/-- The outcome of a run that prints a text and has nothing to report. -/
def Outcome.printed (text : String) : Outcome :=
  { status := 0, stdout := text, stderr := "" }

/-- The outcome of a run that reports a failure and prints nothing. -/
def Outcome.failed (f : Failure) : Outcome :=
  { status := 1, stdout := "", stderr := failureReport f }

/-- What could not be done with a text that is not printed in the form. -/
def View.complaint (view : View) (text : String) : String :=
  match view with
  | dump | outline => "could not parse expression " ++ quote text
  | postorder => "could not convert " ++ quote text ++ " to postfix"

/-- A failure is reported with what could not be done and with its cause. -/
theorem Outcome.stderr_failed (view : View) (text : String) (cause : ParseError) :
    (failed ⟨view.purpose, text, cause⟩).stderr =
      "Error: " ++ view.complaint text ++ "\n\nCaused by:\n    " ++ cause.message ++ "\n" := by
  cases view <;> rfl

/-- The outcome that an answer leads to. -/
def View.outcome (view : View) (text : String) : Except ParseError String → Outcome
  | .ok shown => .printed shown
  | .error cause => .failed ⟨view.purpose, text, cause⟩

/-- A report behind an empty log is the outcome that the value printed leads to. -/
theorem report_eq_outcome {α : Type} {request : Request} (silent : Silent request.limit)
    (view : View) (computed : Logged α) (print : α → String) :
    report request view.purpose computed print =
      view.outcome request.expression (computed.result.map print) := by
  cases outcome : computed.result with
  | ok a =>
    rw [report_of_ok outcome, logText_of_silent silent]
    rfl
  | error cause =>
    rw [report_of_error outcome, logText_of_silent silent, String.empty_append]
    rfl

/-- The outcome for arguments that ask for an expression is the one that the answer leads to. -/
theorem run_of_asks (asks : Asks arguments text view config) :
    run arguments = view.outcome text (view.answer config text) := by
  obtain ⟨limit, meaning, silent⟩ := asks
  rw [run, meaning]
  cases view with
  | dump =>
    refine (report_eq_outcome silent .dump _ _).trans ?_
    rw [result_announcedParse]
    rfl
  | outline =>
    refine (report_eq_outcome silent .outline _ _).trans ?_
    rw [result_announcedParse]
    rfl
  | postorder =>
    refine (report_eq_outcome silent .postorder _ _).trans ?_
    rw [Logged.result_postfixOf]
    rfl

/-! ### Answers that agree -/

theorem View.print_ne_empty (view : View) (e : Expr) : view.print e ≠ "" := by
  cases view with
  | dump => simp [print]
  | outline =>
    rw [print, ne_eq, ← String.toList_inj, Expr.toList_outline]
    simp
  | postorder => simp [print]

/-- What is printed is never empty. -/
theorem View.ne_empty_of_answer {shown : String} (answered : view.answer config text = .ok shown) :
    shown ≠ "" := by
  cases view with
  | dump | outline =>
    obtain ⟨t, -, rfl⟩ := map_eq_ok_iff.mp answered
    exact View.print_ne_empty _ t
  | postorder =>
    obtain ⟨order, -, rfl⟩ := map_eq_ok_iff.mp answered
    simp

/-- A text without a postfix order is refused in every form for the same cause. -/
theorem View.answer_of_postfixOf_error {cause : ParseError}
    (refused : postfixOf text = .error cause) (view : View) (config : Config) :
    view.answer config text = .error cause := by
  have unread : parse config text = .error cause := ofInfix_of_error refused
  cases view with
  | dump | outline => rw [answer, unread, Except.map]
  | postorder => rw [answer, refused, Except.map]

/-- What is read with nothing left over is printed in every form. -/
theorem View.answer_of_parse_strict {t : Expr} (read : parse .strict text = .ok t) (view : View)
    (config : Config) : view.answer config text = .ok (view.print t) := by
  cases view with
  | dump | outline => rw [answer, parse_of_parse_strict read config, Except.map]
  | postorder =>
    rw [answer, postfixOf_of_parse_strict read, Except.map]
    rfl

theorem View.status_outcome_eq_zero_iff {answer : Except ParseError String} :
    (view.outcome text answer).status = 0 ↔ ∃ shown, answer = .ok shown := by
  cases answer <;> simp [View.outcome, Outcome.printed, Outcome.failed]

theorem View.status_outcome_eq_one_iff {answer : Except ParseError String} :
    (view.outcome text answer).status = 1 ↔ ∃ cause, answer = .error cause := by
  cases answer <;> simp [View.outcome, Outcome.printed, Outcome.failed]

/-- How the outcomes for one text in the different forms and under the two configurations are
related. -/
structure ModesAgree (text : String) (outcome : View → Config → Outcome) : Prop where
  status : ∀ view config, (outcome view config).status = 0 ∨ (outcome view config).status = 1
  stdout_empty_iff : ∀ view config,
    (outcome view config).stdout = "" ↔ (outcome view config).status = 1
  stderr_empty_iff : ∀ view config,
    (outcome view config).stderr = "" ↔ (outcome view config).status = 0
  reported : ∀ view config, (outcome view config).status = 1 → ∃ cause : ParseError,
    view.answer config text = .error cause ∧ (outcome view config).stderr =
      "Error: " ++ view.complaint text ++ "\n\nCaused by:\n    " ++ cause.message ++ "\n"
  postorder_fails_iff : ∀ config, (outcome .postorder config).status = 1 ↔
    ∃ start, start <+: tokenize text ∧ opens start < closes start
  postorder_lenient : outcome .postorder .lenient = outcome .postorder .strict
  same_cause : ∀ config, (outcome .postorder config).status = 1 →
    (∃ cause, ∀ view config', outcome view config' = .failed ⟨view.purpose, text, cause⟩) ∧
    ∀ view config', (outcome view config').stderr = "Error: " ++ view.complaint text ++
      "\n\nCaused by:\n    unbalanced parenthesis: ')' has no matching '('\n"
  outline_like_dump : ∀ config, (outcome .outline config).status = (outcome .dump config).status ∧
    (outcome .outline config).stderr = (outcome .dump config).stderr
  same_expression : (outcome .dump .strict).status = 0 →
    ∃ t : Expr, (∀ t', (outcome .dump .strict).stdout = t'.render ++ "\n" ↔ t' = t) ∧
      ∀ view config, outcome view config = .printed (view.print t)
  dump_ok : ∀ shown, Arith.dump text = .ok shown →
    outcome .dump .strict = .printed (shown ++ "\n")
  dump_error : ∀ f, Arith.dump text = .error f → outcome .dump .strict = .failed f ∧
    (outcome .dump .strict).stderr = "Error: could not parse expression " ++ quote text ++
      "\n\nCaused by:\n    " ++ f.cause.message ++ "\n"

/-- The outcomes that the answers for a text lead to agree. -/
theorem modesAgree_answers (text : String) :
    ModesAgree text fun view config => view.outcome text (view.answer config text) where
  status view config := by
    cases view.answer config text with
    | ok shown => exact .inl rfl
    | error cause => exact .inr rfl
  stdout_empty_iff view config := by
    cases answered : view.answer config text with
    | ok shown => exact iff_of_false (View.ne_empty_of_answer answered) Nat.zero_ne_one
    | error cause => exact iff_of_true rfl rfl
  stderr_empty_iff view config := by
    cases view.answer config text with
    | ok shown => exact iff_of_true rfl rfl
    | error cause =>
      refine iff_of_false ?_ Nat.one_ne_zero
      rw [View.outcome, Outcome.stderr_failed]
      simp
  reported view config failed := by
    obtain ⟨cause, refused⟩ := View.status_outcome_eq_one_iff.mp failed
    refine ⟨cause, refused, ?_⟩
    rw [refused]
    exact Outcome.stderr_failed view text cause
  postorder_fails_iff config := by
    rw [View.status_outcome_eq_one_iff, ← exists_postfixOf_eq_error_iff, View.answer]
    cases postfixOf text <;> simp [Except.map]
  postorder_lenient := rfl
  same_cause config failed := by
    obtain ⟨cause, refused⟩ := View.status_outcome_eq_one_iff.mp failed
    cases ordered : postfixOf text with
    | ok order =>
      rw [View.answer, ordered] at refused
      cases refused
    | error cause =>
      obtain ⟨-, rfl⟩ := Postfix.toPostfix_eq_error_iff.mp ordered
      have everywhere := View.answer_of_postfixOf_error ordered
      refine ⟨⟨.unbalancedParenthesis, fun view config' => ?_⟩, fun view config' => ?_⟩
      · rw [everywhere]
        rfl
      · rw [everywhere]
        refine (Outcome.stderr_failed view text .unbalancedParenthesis).trans ?_
        rw [ParseError.message_unbalancedParenthesis, String.append_assoc, String.append_assoc]
        rfl
  outline_like_dump config := by
    unfold View.answer
    cases parse config text <;> exact ⟨rfl, rfl⟩
  same_expression succeeded := by
    obtain ⟨shown, answered⟩ := View.status_outcome_eq_zero_iff.mp succeeded
    obtain ⟨t, read, -⟩ := map_eq_ok_iff.mp answered
    have printed := View.answer_of_parse_strict read
    refine ⟨t, fun t' => ?_, fun view config => ?_⟩
    · rw [printed]
      change t.render ++ "\n" = t'.render ++ "\n" ↔ t' = t
      rw [String.append_left_inj]
      exact ⟨fun same => Expr.eq_of_render_eq same.symm, fun same => by rw [same]⟩
    · rw [printed]
      rfl
  dump_ok shown dumped := by
    unfold Arith.dump at dumped
    split at dumped
    · cases dumped
    · rename_i t read
      cases dumped
      rw [View.answer_of_parse_strict read]
      rfl
  dump_error f dumped := by
    unfold Arith.dump at dumped
    split at dumped
    · rename_i cause refused
      cases dumped
      rw [View.answer, refused]
      exact ⟨rfl, Outcome.stderr_failed .dump text cause⟩
    · cases dumped

/-- The modes of the program agree. Every expression can be asked for in every form and under
both configurations, behind `--` where it begins with a hyphen. Whatever the arguments are that
ask for one expression in all these ways, a run without a log either prints something and
succeeds, or fails and prints nothing. The postfix order is refused exactly when the tokens close
a group that was not opened, however strictly they are read, and then every run fails for that
cause. The outline fails as the dump does. When the strict dump succeeds, it is the dump of a
single expression, which every run prints in its form. And the strict dump is what `dump` gives
for the text, or fails as `dump` does. -/
theorem modes_agree :
    (∀ text view config quiet, Asks (invocation view config quiet text) text view config) ∧
    ∀ (text : String) (arguments : View → Config → List String),
      (∀ view config, Asks (arguments view config) text view config) →
      ModesAgree text fun view config => run (arguments view config) := by
  refine ⟨asks_invocation, fun text arguments asks => ?_⟩
  have answered : (fun view config => run (arguments view config)) =
      fun view config => view.outcome text (view.answer config text) :=
    funext fun view => funext fun config => run_of_asks (asks view config)
  rw [answered]
  exact modesAgree_answers text

/-- `-a)` closes a group that was not opened, so it fails in every form for one cause, which is
told; it has to stand behind `--`. `(a+1)*b` is printed in every form out of one expression. -/
theorem modes_agree_hyphen :
    invocation .dump .strict true "-a)" = ["-q", "--", "-a)"] ∧
    (∃ cause, ∀ view config,
      run (invocation view config true "-a)") = .failed ⟨view.purpose, "-a)", cause⟩) ∧
    (∀ view config, view ≠ .postorder → (run (invocation view config true "-a)")).stderr =
      "Error: could not parse expression \"-a)\"\n\nCaused by:\n    " ++
        "unbalanced parenthesis: ')' has no matching '('\n") ∧
    (∀ config, (run (invocation .postorder config true "-a)")).stderr =
      "Error: could not convert \"-a)\" to postfix\n\nCaused by:\n    " ++
        "unbalanced parenthesis: ')' has no matching '('\n") ∧
    ∃ t : Expr, ∀ view config,
      run (invocation view config false "(a+1)*b") = .printed (view.print t) := by
  have refused := modes_agree.2 "-a)" (invocation · · true "-a)") fun view config =>
    asks_invocation "-a)" view config true
  have read := modes_agree.2 "(a+1)*b" (invocation · · false "(a+1)*b") fun view config =>
    asks_invocation "(a+1)*b" view config false
  have tokens : tokenize "-a)" = [.operator .subtract, .operand (.var 'a'), .rparen] := by decide
  have broken : ∃ start, start <+: tokenize "-a)" ∧ opens start < closes start :=
    ⟨_, List.prefix_rfl, by rw [tokens]; decide⟩
  have product : parse .strict "(a+1)*b" = .ok
      (.binary .multiply (.binary .add (.leaf (.var 'a')) (.leaf (.lit '1')))
        (.leaf (.var 'b'))) := by decide
  obtain ⟨shown, dumped⟩ : ∃ shown, Arith.dump "(a+1)*b" = .ok shown := by
    rw [Arith.dump, product]
    exact ⟨_, rfl⟩
  obtain ⟨cause, told⟩ :=
    refused.same_cause .strict ((refused.postorder_fails_iff .strict).mpr broken)
  have quoted : quote "-a)" = "\"-a)\"" :=
    quote_of_ascii (by simp) (by simp) (by simp)
  refine ⟨rfl, cause, fun view config form => ?_, fun config => ?_, ?_⟩
  · refine (told view config).trans ?_
    cases view with
    | dump | outline =>
      change "Error: " ++ ("could not parse expression " ++ quote "-a)") ++ _ = _
      simp [quoted]
    | postorder => exact absurd rfl form
  · refine (told .postorder config).trans ?_
    change "Error: " ++ ("could not convert " ++ quote "-a)" ++ " to postfix") ++ _ = _
    simp [quoted]
  have succeeded := congrArg Outcome.status (read.dump_ok _ dumped)
  obtain ⟨t, -, printed⟩ := read.same_expression succeeded
  exact ⟨t, printed⟩

end CommandLine

end Arith
