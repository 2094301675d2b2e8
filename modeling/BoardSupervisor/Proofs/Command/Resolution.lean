import BoardSupervisor.Proofs.Command.Effect
import BoardSupervisor.Proofs.Text.LetterCase
import BoardSupervisor.Proofs.Text.Transparency

/-!
# What the first token decides

The first token of a line decides whether the session ends and whether the board is reached at all.
A token that is one of the session's ends, in either case of letters, ends it without a word; one
that is no name of the table is quoted to the operator as it was typed; a line without tokens does
nothing. In none of these cases is the board looked at: the outcome is the same for every machine
and whatever is around it.
-/

namespace BoardSupervisor

open Text

/-- An action that stays away from the board. It has the given value and writes the given bytes,
keeps the machine and asks nothing of it, and what it leaves behind is the same whatever the machine
and what is around it. -/
def Act.StaysAway {α : Type} (action : Act α) (value : α) (bytes : List UInt8) : Prop :=
  ∃ events, Event.written events = bytes ∧ Event.operations events = [] ∧
    ∀ around m, action around m = ⟨value, m, events⟩

namespace Verb

/-- The names that end the session. -/
def endings : List String := ["quit", "exit", "q"]

/-- The entries of the table that end the session are those with one of its endings for a name. -/
theorem verb_eq_leave_iff {entry : Named} (listed : entry ∈ table) :
    entry.verb = .leave ↔ entry.name ∈ endings := by
  have checked : ∀ entry ∈ table, entry.verb = .leave ↔ entry.name ∈ endings := by decide
  exact checked entry listed

/-- A verb is found in the table under the name that it is the same as but for letter case, since no
two names of the table are the same in that sense. -/
theorem lookup?_eq_some_iff {verb : String} {entry : Named} :
    lookup? verb = some entry ↔ entry ∈ table ∧ SameUpToCase verb entry.name :=
  find?_alike_eq_some_iff (by decide)

/-- A verb is not found exactly when it is no name of the table in any case of letters. -/
theorem lookup?_eq_none_iff {verb : String} :
    lookup? verb = none ↔ ∀ entry ∈ table, ¬ SameUpToCase verb entry.name := by
  unfold lookup?
  rw [List.find?_eq_none]
  refine forall₂_congr fun entry _ => not_congr ?_
  rw [← alike_iff_sameUpToCase, alike_iff, alike_iff, eq_comm]

/-- A verb is found to end the session exactly when it is one of the endings in some case of
letters. -/
theorem lookup?_leave_iff {verb : String} :
    (∃ entry, lookup? verb = some entry ∧ entry.verb = .leave) ↔
      ∃ name ∈ endings, SameUpToCase verb name := by
  constructor
  · rintro ⟨entry, found, leaves⟩
    obtain ⟨listed, same⟩ := lookup?_eq_some_iff.mp found
    exact ⟨entry.name, (verb_eq_leave_iff listed).mp leaves, same⟩
  · rintro ⟨name, ending, same⟩
    have named : ∀ name ∈ endings, ∃ entry ∈ table, entry.name = name := by decide
    obtain ⟨entry, listed, rfl⟩ := named name ending
    exact ⟨entry, lookup?_eq_some_iff.mpr ⟨listed, same⟩, (verb_eq_leave_iff listed).mpr ending⟩

end Verb

namespace Command

/-- The command of a line without tokens. -/
theorem ofLine_of_isGap {line : String} (blank : IsGap line.toList) : ofLine line = .blank := by
  unfold ofLine
  rw [tokens_eq_nil_iff.mpr blank]
  rfl

/-- The command of a line is what its first token comes to. -/
theorem ofLine_of_firstToken {line verb : String} (first : FirstToken line verb) :
    ∃ arguments, ofLine line =
      match Verb.lookup? verb with
      | none => .unknown verb
      | some entry => ofVerb entry arguments := by
  obtain ⟨arguments, tokens_eq⟩ := List.head?_eq_some_iff.mp (firstToken_iff.mp first)
  unfold ofLine
  rw [tokens_eq]
  exact ⟨arguments, rfl⟩

/-- The command of a line whose first token is a name of the table. -/
theorem ofLine_of_named {line verb : String} {arguments : List String} {entry : Verb.Named}
    (typed : tokens line = verb :: arguments) (listed : entry ∈ Verb.table)
    (named : SameUpToCase verb entry.name) : ofLine line = ofVerb entry arguments := by
  rw [ofLine, typed, ofTokens, Verb.lookup?_eq_some_iff.mpr ⟨listed, named⟩]

/-- The command of a line whose first token is no name of the table. -/
theorem ofLine_of_unknown {line verb : String} (first : FirstToken line verb)
    (unknown : ∀ entry ∈ Verb.table, ¬ SameUpToCase verb entry.name) :
    ofLine line = .unknown verb := by
  obtain ⟨arguments, line_eq⟩ := ofLine_of_firstToken first
  rw [line_eq, Verb.lookup?_eq_none_iff.mpr unknown]

/-- A verb of the table ends the session exactly when the table says so. -/
theorem goesOn_ofVerb {entry : Verb.Named} {arguments : List String} :
    (ofVerb entry arguments).goesOn = false ↔ entry.verb = .leave := by
  unfold ofVerb
  cases verb : entry.verb <;> simp [goesOn]

/-- A line ends the session exactly when its first token is one of the endings in some case of
letters. -/
theorem goesOn_eq_false_iff {line : String} :
    (ofLine line).goesOn = false ↔
      ∃ verb, FirstToken line verb ∧ ∃ name ∈ Verb.endings, SameUpToCase verb name := by
  constructor
  · intro ends
    cases head : (tokens line).head? with
    | none =>
      have blank := tokens_eq_nil_iff.mp (List.head?_eq_none_iff.mp head)
      rw [ofLine_of_isGap blank] at ends
      cases ends
    | some verb =>
      have first := firstToken_iff.mpr head
      obtain ⟨arguments, line_eq⟩ := ofLine_of_firstToken first
      rw [line_eq] at ends
      cases found : Verb.lookup? verb with
      | none =>
        rw [found] at ends
        cases ends
      | some entry =>
        rw [found] at ends
        exact ⟨verb, first, Verb.lookup?_leave_iff.mp ⟨entry, found, goesOn_ofVerb.mp ends⟩⟩
  · rintro ⟨verb, first, ending⟩
    obtain ⟨entry, found, leaves⟩ := Verb.lookup?_leave_iff.mpr ending
    obtain ⟨arguments, line_eq⟩ := ofLine_of_firstToken first
    rw [line_eq, found]
    exact goesOn_ofVerb.mpr leaves

end Command

namespace Interpreter

variable (interpreter : Interpreter)

/-- The bytes in which a verb is quoted. -/
theorem encode_quoted (verb : String) :
    Latin1.encode ("error: unknown command \"" ++ verb ++ "\"\r\n") =
      Latin1.encode "error: unknown command \"" ++ (Latin1.encode verb ++
        Latin1.encode "\"\r\n") := by
  rw [Latin1.encode_append, Latin1.encode_append, List.append_assoc]

/-- An unknown verb is answered by quoting it. -/
theorem answerCommand_unknown (around : Bench) (m : Machine) (verb : String) :
    interpreter.answerCommand around m (.unknown verb) =
      Latin1.encode "error: unknown command \"" ++ (Latin1.encode verb ++
        Latin1.encode "\"\r\n") := by
  rw [answerCommand, encode_quoted]

/-- A line without tokens does nothing at all. -/
theorem run_blank_staysAway : (interpreter.run .blank).StaysAway true [] :=
  ⟨[], rfl, rfl, fun _ _ => rfl⟩

/-- A line that ends the session does so without a word. -/
theorem run_leave_staysAway (name : String) : (interpreter.run (.leave name)).StaysAway false [] :=
  ⟨[.logged ⟨.debug, name ++ ": end of session"⟩], rfl, rfl, fun _ _ => rfl⟩

/-- A line with an unknown verb is answered and nothing else. -/
theorem run_unknown_staysAway (verb : String) :
    (interpreter.run (.unknown verb)).StaysAway true
      (Latin1.encode "error: unknown command \"" ++ (Latin1.encode verb ++
        Latin1.encode "\"\r\n")) := by
  refine ⟨[.wrote (Latin1.encode ("error: unknown command \"" ++ verb ++ "\"\r\n"))], ?_, rfl,
    fun _ _ => rfl⟩
  rw [Event.written_wrote, Event.written_nil, List.append_nil, encode_quoted]

/-- What is understood of arguments is carried out as it was meant. -/
theorem orComplain_map {α β : Type} (request : Except ArgumentFault α) (f : α → β)
    (action : β → Act Unit) :
    Act.orComplain (request.map f) action =
      Act.orComplain request fun asked => action (f asked) := by
  cases request <;> rfl

section Dispatched

variable {line verb : String} {arguments : List String}
  (typed : tokens line = verb :: arguments)

include typed

/-- A line with one of the two names of the clock command carries that command out with its
arguments, once the line is logged. -/
theorem execute_clockCommand {name : String} (either : name ∈ ["clk", "clock"])
    (named : SameUpToCase verb name) :
    interpreter.execute line = do
      Act.log .debug (name ++ " " ++ Quoted.quoteList arguments)
      Act.clockCommand interpreter.limits arguments
      return true := by
  have listed : ∀ name ∈ ["clk", "clock"], (⟨name, .clock⟩ : Verb.Named) ∈ Verb.table := by decide
  rw [execute, Command.ofLine_of_named typed (listed name either) named]
  dsimp only [Command.ofVerb, run]
  rw [orComplain_map]
  rfl

/-- A line with the name of the trace command carries that command out with its arguments, once the
line is logged. -/
theorem execute_traceCommand (named : SameUpToCase verb "trace") :
    interpreter.execute line = do
      Act.log .debug ("trace " ++ Quoted.quoteList arguments)
      Act.traceCommand arguments
      return true := by
  have listed : (⟨"trace", .trace⟩ : Verb.Named) ∈ Verb.table := by decide
  rw [execute, Command.ofLine_of_named typed listed named]
  dsimp only [Command.ofVerb, run]
  rw [orComplain_map]
  rfl

end Dispatched

/-- What the first token of a line decides, for every line and interpreter. The session ends exactly
when that token is `quit`, `exit` or `q` in some case of letters, whatever follows it, and then
nothing is written and the board is left alone. If the token is the same as no name of the table but
for letter case, the session goes on, the board is left alone, and one line is written, in which the
whole token is quoted as it was typed, a question mark for each character that is no byte. A line
without tokens goes on and does nothing. -/
theorem execute_resolves (line : String) :
    (∀ around m, (interpreter.execute line around m).value = false ↔
      ∃ verb, FirstToken line verb ∧ ∃ name ∈ ["quit", "exit", "q"], SameUpToCase verb name) ∧
    (∀ verb, FirstToken line verb → (∃ name ∈ ["quit", "exit", "q"], SameUpToCase verb name) →
      (interpreter.execute line).StaysAway false []) ∧
    (∀ verb, FirstToken line verb → (∀ entry ∈ Verb.table, ¬ SameUpToCase verb entry.name) →
      ∃ quoted, List.Forall₂ Latin1.Stands verb.toList quoted ∧
        (0x0d ∉ quoted ∧ 0x0a ∉ quoted) ∧
        (interpreter.execute line).StaysAway true
          (Latin1.encode "error: unknown command \"" ++ (quoted ++
            Latin1.encode "\"\r\n"))) ∧
    (IsGap line.toList → (interpreter.execute line).StaysAway true []) := by
  refine ⟨fun around m => ?_, ?_, ?_, ?_⟩
  · rw [execute, run_value]
    exact Command.goesOn_eq_false_iff
  · intro verb first ending
    obtain ⟨entry, found, leaves⟩ := Verb.lookup?_leave_iff.mpr ending
    obtain ⟨arguments, line_eq⟩ := Command.ofLine_of_firstToken first
    have command_eq : Command.ofLine line = .leave entry.name := by
      rw [line_eq, found]
      dsimp only [Command.ofVerb]
      rw [leaves]
    rw [execute, command_eq]
    exact interpreter.run_leave_staysAway entry.name
  · intro verb first unknown
    have command_eq := Command.ofLine_of_unknown first unknown
    obtain ⟨gap, rest, -, -, solid, -⟩ := first
    refine ⟨Latin1.encode verb, Latin1.forall₂_stands_encode verb,
      Latin1.not_mem_encode_of_isWord solid, ?_⟩
    rw [execute, command_eq]
    exact interpreter.run_unknown_staysAway verb
  · intro blank
    rw [execute, Command.ofLine_of_isGap blank]
    exact interpreter.run_blank_staysAway

/-- An ending in mixed case with more behind it; a verb that is a name of the table but for a Kelvin
sign in the place of its last letter; and a line of blanks. -/
theorem execute_resolves_lookalike :
    let ending := "\t QuIt\x0bnow"
    let lookalike := "cloc\u212a 2m"
    ((FirstToken ending "QuIt" ∧ SameUpToCase "QuIt" "quit") ∧
      (FirstToken lookalike "cloc\u212a" ∧
        ∀ entry ∈ Verb.table, ¬ SameUpToCase "cloc\u212a" entry.name) ∧
      IsGap " \t\r\n".toList) ∧
    (execute {} ending).StaysAway false [] ∧
      (∃ quoted, List.Forall₂ Latin1.Stands "cloc\u212a".toList quoted ∧
        (0x0d ∉ quoted ∧ 0x0a ∉ quoted) ∧
        (execute {} lookalike).StaysAway true
          (Latin1.encode "error: unknown command \"" ++ (quoted ++ Latin1.encode "\"\r\n"))) ∧
      (execute {} " \t\r\n").StaysAway true [] := by
  intro ending lookalike
  have first : FirstToken ending "QuIt" := firstToken_iff.mpr (by decide)
  have same : SameUpToCase "QuIt" "quit" := by decide
  have other : FirstToken lookalike "cloc\u212a" := firstToken_iff.mpr (by decide)
  have unknown : ∀ entry ∈ Verb.table, ¬ SameUpToCase "cloc\u212a" entry.name := by decide
  have blank : IsGap " \t\r\n".toList := by decide
  exact ⟨⟨⟨first, same⟩, ⟨other, unknown⟩, blank⟩,
    (execute_resolves {} ending).2.1 "QuIt" first ⟨"quit", by decide, same⟩,
    (execute_resolves {} lookalike).2.2.1 "cloc\u212a" other unknown,
    (execute_resolves {} " \t\r\n").2.2.2 blank⟩

end Interpreter

end BoardSupervisor
