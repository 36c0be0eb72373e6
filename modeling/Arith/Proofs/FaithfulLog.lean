import Arith.Proofs.MessageCode
import Arith.Proofs.OutcomeCounts

/-!
# The log tells the outcome

The log of a parse is put together from what each stage shows: the reading of the tokens every
character that is none, the conversion its flushes and the groups it discards, and then each of
the results its own event. A stage that fails ends the log. So the events stand in the order of
the stages, and which of the last three there are says how the parse came out: the order is
there unless a closing parenthesis was one too many, the expression is there if there is one, and
expressions are dropped where the strict reading would have refused them for being left over.

An event is seen as a record only, with a level, a target and a text. No two events read alike, so
all of this can be said of the records: a text that shows a postfix order, a number of dropped
expressions or an expression stands in the log exactly if that order, number or expression is the
right one.

## Main definitions

* `Arith.Logged.dropCount`: how many expressions the lenient reading drops.
* `Arith.Logged.Shows`: the log has a record with a given level, target and text.
* `Arith.Logged.Legible`: what the records of a parse read.
* `Arith.Logged.Faithful`: what the log of a parse says about it.

## Main results

* `Arith.Postfix.discard_not_mem_run`: nothing is discarded before the end of the tokens.
* `Arith.Logged.log_parse`: the log of a parse.
* `Arith.Logged.mem_log_parse_iff`: the events in it.
* `Arith.Logged.shows_iff`: records stand for their events.
* `Arith.Logged.legible_parse`: the records of a parse tell what happened.
* `Arith.Logged.faithful_parse`: the log of a parse is faithful.
-/

namespace Arith

namespace Postfix

variable {stack rest : List Pending} {moves : List Move} {t : Token}

theorem ne_discard_of_mem_step {move : Move} (h : step t stack = some (moves, rest))
    (mem : move ∈ moves) : move ≠ .discard := by
  rintro rfl
  cases t with
  | operand a =>
    cases h
    simp at mem
  | operator o =>
    cases h
    obtain ⟨flushed, -, moved, -⟩ := flush_eq o stack
    simp [moved] at mem
  | lparen =>
    cases h
    simp at mem
  | rparen =>
    obtain ⟨os, -, rfl⟩ := close_eq_some_iff.mp h
    simp at mem

/-- Nothing is discarded before the end of the tokens, even if the run breaks off. -/
theorem discard_not_mem_run (stack : List Pending) (tokens : List Token) :
    .discard ∉ (run stack tokens).1 := by
  intro mem
  refine forall_mem_run (P := (· ≠ .discard)) ?_ stack tokens _ mem rfl
  intro t stack moves rest stepped move among
  exact ne_discard_of_mem_step stepped among

/-- A group is discarded only where the tokens have a postfix order. -/
theorem exists_toPostfix_of_discard_mem {tokens : List Token}
    (h : .discard ∈ (convert tokens).1) : ∃ order, toPostfix tokens = .ok order := by
  cases ran : run [] tokens with
  | mk moves final =>
    cases final with
    | none =>
      have kept := discard_not_mem_run [] tokens
      rw [convert, ran] at h
      rw [ran] at kept
      exact absurd h kept
    | some stack => exact ⟨_, toPostfix_of_run ran⟩

end Postfix

/-- Of the moves only flushes and discards are shown. -/
theorem Event.ofMove?_eq_some_iff {move : Postfix.Move} {event : Event} :
    ofMove? move = some event ↔ (move = .discard ∧ event = discarded) ∨
      ∃ incoming stacked, move = .flush incoming stacked ∧ event = flushed incoming stacked := by
  cases move <;> simp [ofMove?, eq_comm]

/-- What the conversion shows are traces of its own. -/
theorem Event.level_target_of_ofMove? {move : Postfix.Move} {event : Event}
    (shows : ofMove? move = some event) : event.level = .trace ∧
      event.target = "expression_parser::interpreter::parser::infix_converter" := by
  rcases ofMove?_eq_some_iff.mp shows with ⟨-, rfl⟩ | ⟨incoming, stacked, -, rfl⟩
  · exact ⟨rfl, rfl⟩
  · exact ⟨rfl, rfl⟩

/-- What the conversion shows reads as a flush or as a group discarded. -/
theorem Event.message_of_ofMove? {move : Postfix.Move} {event : Event}
    (shows : ofMove? move = some event) :
    event.message = "discarding unmatched '('" ∨ ∃ incoming stacked : Operator,
      event.message = incoming.symbol.toString ++ " flushes " ++ stacked.symbol.toString := by
  rcases ofMove?_eq_some_iff.mp shows with ⟨-, rfl⟩ | ⟨incoming, stacked, -, rfl⟩
  · exact .inl rfl
  · exact .inr ⟨incoming, stacked, rfl⟩

namespace Logged

open Postfix (convert)

/-- How many expressions the lenient reading drops: all but the last of those that the strict one
finds left over. -/
def dropCount (leftovers : Leftovers) (strict : Except ParseError Expr) : Option Nat :=
  match leftovers, strict with
  | .keepTopmost, .error (.incompleteExpression 1 (count + 1)) => some count
  | _, _ => none

variable {config : Config} {text : String} {event : Event} {leftovers : Leftovers}

theorem toOption_eq_some_iff {α : Type} {result : Except ParseError α} {a : α} :
    result.toOption = some a ↔ result = .ok a := by
  cases result <;> simp [Except.toOption]

theorem dropCount_eq_some_iff {strict : Except ParseError Expr} {count : Nat} :
    dropCount leftovers strict = some count ↔
      leftovers = .keepTopmost ∧ strict = .error (.incompleteExpression 1 (count + 1)) := by
  unfold dropCount
  split
  · simp
  · rename_i other
    refine iff_of_false (by simp) ?_
    rintro ⟨lenient, refused⟩
    exact other count lenient refused

theorem dropCount_eq_none {strict : Except ParseError Expr}
    (other : ∀ found, strict ≠ .error (.incompleteExpression 1 found)) :
    dropCount leftovers strict = none := by
  refine Option.eq_none_iff_forall_ne_some.mpr fun count some_left => ?_
  exact other _ (dropCount_eq_some_iff.mp some_left).2

/-! ### What each stage shows -/

theorem log_tokenize (text : String) : (tokenize text).log = (skips text).map .skipped :=
  List.append_nil _

/-- The conversion shows its flushes and discards, and its result if there is one. -/
theorem log_toPostfix (tokens : List Token) :
    (toPostfix tokens).log = (convert tokens).1.filterMap Event.ofMove? ++
      ((Arith.toPostfix tokens).toOption.map .ordered).toList := by
  unfold toPostfix Arith.toPostfix
  rcases convert tokens with ⟨moves, _ | _⟩
  · rfl
  · rfl

/-- What is dropped is what the strict reading finds left over. -/
theorem log_ofPostfix (leftovers : Leftovers) (order : List Token) :
    (ofPostfix leftovers order).log =
      ((dropCount leftovers (Expr.ofPostfix .reject order)).map .dropped).toList := by
  unfold ofPostfix Expr.ofPostfix
  split
  · rw [dropCount_eq_none (by simp [ParseError.emptyInput])]
    rfl
  · cases read : Expr.reduce [] order with
    | error cause =>
      have other : ∀ found, cause ≠ .incompleteExpression 1 found := by
        rcases Expr.cause_of_reduce_error read with ⟨few, -, rfl⟩ | rfl
        · simp
        · simp [ParseError.parenthesisInPostfix]
      rw [dropCount_eq_none (by simpa using other)]
      rfl
    | ok stack =>
      rcases stack with _ | ⟨root, _ | ⟨next, rest⟩⟩
      · cases leftovers <;> rfl
      · cases leftovers <;> rfl
      · cases leftovers <;> rfl

theorem log_ofInfix (config : Config) (tokens : List Token) :
    (ofInfix config tokens).log = (convert tokens).1.filterMap Event.ofMove? ++
      ((Arith.toPostfix tokens).toOption.map .ordered).toList ++
      ((dropCount config.leftovers (Arith.ofInfix .strict tokens)).map .dropped).toList := by
  unfold ofInfix
  cases ordered : Arith.toPostfix tokens with
  | error cause =>
    obtain ⟨-, rfl⟩ := Postfix.toPostfix_eq_error_iff.mp ordered
    rw [log_bind_of_error ((result_toPostfix tokens).trans ordered), log_toPostfix, ordered,
      ofInfix_of_error ordered, dropCount_eq_none (by simp)]
    exact (List.append_nil _).symm
  | ok order =>
    rw [log_bind_of_ok ((result_toPostfix tokens).trans ordered), log_toPostfix, log_ofPostfix,
      ordered, ofInfix_of_ok .strict ordered]
    rfl

/-- Operands are told to be dropped where the lenient reading takes what the strict one finds them
left over in. -/
theorem dropped_mem_log_ofInfix_iff {tokens : List Token} {count : Nat} :
    .dropped count ∈ (ofInfix config tokens).log ↔ config.leftovers = .keepTopmost ∧
      Arith.ofInfix .strict tokens = .error (.incompleteExpression 1 (count + 1)) := by
  simp [log_ofInfix, Event.ofMove?_eq_some_iff, dropCount_eq_some_iff]

/-- The log of a parse: the characters that are no token, the account of the conversion, and the
results of the stages. -/
theorem log_parse (config : Config) (text : String) :
    (parse config text).log =
      (skips text).map .skipped ++ (convert (Arith.tokenize text)).1.filterMap Event.ofMove? ++
        (((Arith.postfixOf text).toOption.map .ordered).toList ++
          ((dropCount config.leftovers (Arith.parse .strict text)).map .dropped).toList ++
          ((Arith.parse config text).toOption.map (.parsed text)).toList) := by
  have built : (parse config text).log = (skips text).map .skipped ++
      ((ofInfix config (Arith.tokenize text)).log ++
        ((Arith.parse config text).toOption.map (.parsed text)).toList) := by
    unfold parse Arith.parse
    rw [log_bind_of_ok (result_tokenize text), log_tokenize]
    cases read : Arith.ofInfix config (Arith.tokenize text) with
    | error cause =>
      rw [log_bind_of_error ((result_ofInfix config _).trans read)]
      exact congrArg _ (List.append_nil _).symm
    | ok tree =>
      rw [log_bind_of_ok ((result_ofInfix config _).trans read)]
      rfl
  rw [built, log_ofInfix]
  simp only [List.append_assoc]
  rfl

/-- The events of a parse are those of its stages. -/
theorem mem_log_parse_iff :
    event ∈ (parse config text).log ↔
      (∃ skip ∈ skips text, .skipped skip = event) ∨
      (∃ move ∈ (convert (Arith.tokenize text)).1, Event.ofMove? move = some event) ∨
      (∃ order, Arith.postfixOf text = .ok order ∧ .ordered order = event) ∨
      (∃ count, (config.leftovers = .keepTopmost ∧
        Arith.parse .strict text = .error (.incompleteExpression 1 (count + 1))) ∧
        .dropped count = event) ∨
      ∃ tree, Arith.parse config text = .ok tree ∧ .parsed text tree = event := by
  rw [log_parse]
  simp only [List.mem_append, List.mem_map, List.mem_filterMap, Option.mem_toList,
    Option.map_eq_some_iff, toOption_eq_some_iff, dropCount_eq_some_iff, or_assoc]

/-! ### What the log says -/

theorem ordered_mem_log_parse_iff {order : List Token} :
    .ordered order ∈ (parse config text).log ↔ Arith.postfixOf text = .ok order := by
  simp [mem_log_parse_iff, Event.ofMove?_eq_some_iff]

theorem dropped_mem_log_parse_iff {count : Nat} :
    .dropped count ∈ (parse config text).log ↔ config = .lenient ∧
      Arith.parse .strict text = .error (.incompleteExpression 1 (count + 1)) := by
  have same : config.leftovers = .keepTopmost ↔ config = .lenient := by
    cases config
    simp [Config.lenient]
  simp [mem_log_parse_iff, Event.ofMove?_eq_some_iff, same]

theorem parsed_mem_log_parse_iff {text' : String} {tree : Expr} :
    .parsed text' tree ∈ (parse config text).log ↔
      text = text' ∧ Arith.parse config text = .ok tree := by
  simp [mem_log_parse_iff, Event.ofMove?_eq_some_iff, and_comm]

theorem discard_mem_of_discarded_mem_log (h : .discarded ∈ (parse config text).log) :
    .discard ∈ (convert (Arith.tokenize text)).1 := by
  simpa [mem_log_parse_iff, Event.ofMove?_eq_some_iff] using h

/-- Groups are discarded only where the order is told. -/
theorem exists_ordered_of_discarded_mem_log (h : .discarded ∈ (parse config text).log) :
    ∃ order, .ordered order ∈ (parse config text).log := by
  obtain ⟨order, ordered⟩ :=
    Postfix.exists_toPostfix_of_discard_mem (discard_mem_of_discarded_mem_log h)
  exact ⟨order, ordered_mem_log_parse_iff.mpr ordered⟩

theorem skipped_mem_log_parse_iff {skip : Skip} :
    .skipped skip ∈ (parse config text).log ↔ skip ∈ skips text := by
  simp [mem_log_parse_iff, Event.ofMove?_eq_some_iff]

/-- Whatever is dropped, there is something to drop. -/
theorem pos_of_dropped_mem_log {count : Nat} (h : .dropped count ∈ (parse config text).log) :
    1 ≤ count := by
  obtain ⟨-, refused⟩ := dropped_mem_log_parse_iff.mp h
  cases ordered : Arith.postfixOf text with
  | error cause =>
    obtain ⟨-, rfl⟩ := Postfix.toPostfix_eq_error_iff.mp ordered
    cases (ofInfix_of_error ordered).symm.trans refused
  | ok order =>
    have read := (ofInfix_of_ok .strict ordered).symm.trans refused
    obtain ⟨e, below, -, leftover, same⟩ := Expr.ofPostfix_reject_leftover_iff.mp read
    have some_left := List.length_pos_iff.mpr leftover
    omega

/-- A text has a postfix order unless its parentheses are what the parse fails at. -/
theorem exists_postfixOf_iff (config : Config) (text : String) :
    (∃ order, Arith.postfixOf text = .ok order) ↔
      Arith.parse config text ≠ .error .unbalancedParenthesis := by
  rw [Arith.parse, ne_eq, ofInfix_eq_unbalancedParenthesis_iff, Arith.postfixOf]
  cases ordered : Arith.toPostfix (Arith.tokenize text) with
  | error cause =>
    -- There is no other cause for which tokens have no postfix order.
    obtain ⟨-, rfl⟩ := Postfix.toPostfix_eq_error_iff.mp ordered
    simp
  | ok order => simp

/-! ### What the records read -/

/-- The log has a record of this level and target with this text. -/
def Shows {α : Type} (run : Logged α) (level : Level) (target text : String) : Prop :=
  ∃ event ∈ run.log, event.level = level ∧ event.target = target ∧ event.message = text

/-- The record of an event is in the log exactly if the event is. -/
theorem shows_iff {α : Type} (run : Logged α) (event : Event) :
    run.Shows event.level event.target event.message ↔ event ∈ run.log := by
  constructor
  · -- An event with the same text is the same event.
    rintro ⟨shown, mem, -, -, same⟩
    rwa [← Event.message_injective same]
  · exact fun mem => ⟨event, mem, rfl, rfl, rfl⟩

/-- What the records of a parse read. Every character that is no token is told with its position,
the conversion tells of flushes and of groups discarded and of nothing else, and the results are
told in full: the postfix order if there is one, how many expressions the lenient reading drops if
the strict one finds them left over, and the expression if there is one. -/
structure Legible (config : Config) (text : String) (run : Logged Expr) : Prop where
  skipped_iff : ∀ c position,
    run.Shows .trace "expression_parser::interpreter::lexer"
      ("skipping " ++ quoteChar c ++ " at position " ++ toString position) ↔
      ⟨position, c⟩ ∈ skips text
  converting : ∀ event ∈ run.log,
    event.target = "expression_parser::interpreter::parser::infix_converter" →
      event.message = "discarding unmatched '('" ∨ ∃ incoming stacked : Operator,
        event.message = incoming.symbol.toString ++ " flushes " ++ stacked.symbol.toString
  ordered_iff : ∀ order,
    run.Shows .debug "expression_parser::interpreter::parser"
      ("postfix: " ++ Token.inspectAll order) ↔ Arith.postfixOf text = .ok order
  exists_ordered_iff : (∃ order, run.Shows .debug "expression_parser::interpreter::parser"
      ("postfix: " ++ Token.inspectAll order)) ↔ run.result ≠ .error .unbalancedParenthesis
  dropped_iff : ∀ count,
    run.Shows .debug "expression_parser::interpreter::syntax::expression_tree"
      ("dropping " ++ toString count ++ " leftover operand(s)") ↔ config = .lenient ∧
        (parse .strict text).result = .error (.incompleteExpression 1 (count + 1))
  dropped_pos : ∀ count,
    run.Shows .debug "expression_parser::interpreter::syntax::expression_tree"
      ("dropping " ++ toString count ++ " leftover operand(s)") → 1 ≤ count
  parsed_iff : ∀ text' tree,
    run.Shows .debug "expression_parser::interpreter"
      ("parsed " ++ quote text' ++ " into " ++ tree.inspect) ↔
        text = text' ∧ run.result = .ok tree
  discarded : run.Shows .trace "expression_parser::interpreter::parser::infix_converter"
      "discarding unmatched '('" →
    ∃ order, run.Shows .debug "expression_parser::interpreter::parser"
      ("postfix: " ++ Token.inspectAll order)
  results : (run.log.filter fun event => event.level = .debug).map Event.message =
    ((Arith.postfixOf text).toOption.map fun order =>
      "postfix: " ++ Token.inspectAll order).toList ++
    ((dropCount config.leftovers (parse .strict text).result).map fun count =>
      "dropping " ++ toString count ++ " leftover operand(s)").toList ++
    (run.result.toOption.map fun tree =>
      "parsed " ++ quote text ++ " into " ++ tree.inspect).toList

/-- The results are told for debugging. -/
theorem level_of_mem_results {order : Option (List Token)} {count : Option Nat}
    {tree : Option Expr} (mem : event ∈ (order.map .ordered).toList ++
      (count.map .dropped).toList ++ (tree.map (.parsed text)).toList) : event.level = .debug := by
  simp only [List.mem_append, Option.mem_toList, Option.map_eq_some_iff] at mem
  rcases mem with (⟨order, -, rfl⟩ | ⟨count, -, rfl⟩) | ⟨tree, -, rfl⟩
  · rfl
  · rfl
  · rfl

/-- Only the results are told for debugging. -/
theorem filter_debug_log_parse (config : Config) (text : String) :
    (parse config text).log.filter (fun event => event.level = .debug) =
      ((Arith.postfixOf text).toOption.map .ordered).toList ++
        ((dropCount config.leftovers (Arith.parse .strict text)).map .dropped).toList ++
        ((Arith.parse config text).toOption.map (.parsed text)).toList := by
  have reading : ((skips text).map Event.skipped).filter
      (fun event => event.level = .debug) = [] := by
    rw [List.filter_eq_nil_iff]
    intro event mem
    obtain ⟨skip, -, rfl⟩ := List.mem_map.mp mem
    simp [Event.level]
  have converting : ((convert (Arith.tokenize text)).1.filterMap Event.ofMove?).filter
      (fun event => event.level = .debug) = [] := by
    rw [List.filter_eq_nil_iff]
    intro event mem
    obtain ⟨move, -, shows⟩ := List.mem_filterMap.mp mem
    simp [(Event.level_target_of_ofMove? shows).1]
  rw [log_parse, List.filter_append, List.filter_append, reading, converting, List.nil_append,
    List.nil_append]
  exact List.filter_eq_self.mpr fun event mem => decide_eq_true (level_of_mem_results mem)

/-- Whatever the text and the configuration, the records of the parse tell what happened. -/
theorem legible_parse (config : Config) (text : String) :
    Legible config text (parse config text) where
  skipped_iff c position :=
    (shows_iff _ (.skipped ⟨position, c⟩)).trans skipped_mem_log_parse_iff
  converting event mem target := by
    -- No other stage has the target of the conversion.
    rcases mem_log_parse_iff.mp mem with ⟨skip, -, rfl⟩ | ⟨move, -, shows⟩ | ⟨order, -, rfl⟩ |
      ⟨count, -, rfl⟩ | ⟨tree, -, rfl⟩
    · simp [Event.target] at target
    · exact Event.message_of_ofMove? shows
    · simp [Event.target] at target
    · simp [Event.target] at target
    · simp [Event.target] at target
  ordered_iff order := (shows_iff _ (.ordered order)).trans ordered_mem_log_parse_iff
  exists_ordered_iff := by
    rw [result_parse, ← exists_postfixOf_iff config text]
    exact exists_congr fun order => (shows_iff _ (.ordered order)).trans ordered_mem_log_parse_iff
  dropped_iff count := by
    rw [result_parse]
    exact (shows_iff _ (.dropped count)).trans dropped_mem_log_parse_iff
  dropped_pos count shown := pos_of_dropped_mem_log ((shows_iff _ (.dropped count)).mp shown)
  parsed_iff text' tree := by
    rw [result_parse]
    exact (shows_iff _ (.parsed text' tree)).trans parsed_mem_log_parse_iff
  discarded shown := by
    have mem := (shows_iff _ .discarded).mp shown
    obtain ⟨order, ordered⟩ := exists_ordered_of_discarded_mem_log mem
    exact ⟨order, (shows_iff _ (.ordered order)).mpr ordered⟩
  results := by
    rw [filter_debug_log_parse, result_parse, result_parse]
    simp only [List.map_append, ← Option.toList_map, Option.map_map]
    rfl

/-! ### The account of a parse -/

/-- The log of a parse is a faithful account of it: the stages are told in their order, each of
their results once at most. The postfix order is told unless a closing parenthesis was one too
many. Expressions are dropped where the lenient reading takes what the strict one refuses for
operands left over, all but the last of them. The expression is told if there is one. And the
records of the log read as what they are. -/
structure Faithful (config : Config) (text : String) (run : Logged Expr) : Prop where
  stages : ∃ reading converting results : List Event,
    run.log = reading ++ converting ++ results ∧
    (∀ event ∈ reading, event.level = .trace ∧
      event.target = "expression_parser::interpreter::lexer") ∧
    (∀ event ∈ converting, event.level = .trace ∧
      event.target = "expression_parser::interpreter::parser::infix_converter") ∧
    (∀ event ∈ results, event.level = .debug) ∧
    ∃ (order : Option (List Token)) (count : Option Nat) (tree : Option Expr),
      results = (order.map .ordered).toList ++ (count.map .dropped).toList ++
        (tree.map (.parsed text)).toList
  ordered_iff : ∀ order, .ordered order ∈ run.log ↔ Arith.postfixOf text = .ok order
  exists_ordered_iff : (∃ order, .ordered order ∈ run.log) ↔
    run.result ≠ .error .unbalancedParenthesis
  dropped_iff : ∀ count, .dropped count ∈ run.log ↔ config = .lenient ∧
    (parse .strict text).result = .error (.incompleteExpression 1 (count + 1))
  dropped_pos : ∀ count, .dropped count ∈ run.log → 1 ≤ count
  parsed_iff : ∀ text' tree, .parsed text' tree ∈ run.log ↔
    text = text' ∧ run.result = .ok tree
  discarded : .discarded ∈ run.log → ∃ order, .ordered order ∈ run.log
  legible : Legible config text run

/-- Whatever the text and the configuration, the log of the parse is faithful. -/
theorem faithful_parse (config : Config) (text : String) :
    Faithful config text (parse config text) where
  stages := by
    refine ⟨_, _, _, log_parse config text, ?_, ?_, ?_, _, _, _, rfl⟩
    · intro event mem
      obtain ⟨skip, -, rfl⟩ := List.mem_map.mp mem
      exact ⟨rfl, rfl⟩
    · intro event mem
      obtain ⟨move, -, shows⟩ := List.mem_filterMap.mp mem
      exact Event.level_target_of_ofMove? shows
    · exact fun event mem => level_of_mem_results mem
  ordered_iff order := ordered_mem_log_parse_iff
  exists_ordered_iff := by
    simp only [ordered_mem_log_parse_iff, result_parse]
    exact exists_postfixOf_iff config text
  dropped_iff count := by
    rw [result_parse]
    exact dropped_mem_log_parse_iff
  dropped_pos count mem := pos_of_dropped_mem_log mem
  parsed_iff text' tree := by
    rw [result_parse]
    exact parsed_mem_log_parse_iff
  discarded mem := exists_ordered_of_discarded_mem_log mem
  legible := legible_parse config text

/-- A lenient reading drops the first digit, and discards the group that is left open. -/
example : (parse .lenient "1 (2").log =
    [.skipped ⟨1, ' '⟩, .discarded, .ordered [.operand (.lit '1'), .operand (.lit '2')], .dropped 1,
      .parsed "1 (2" (.leaf (.lit '2'))] := by decide

end Logged

end Arith
