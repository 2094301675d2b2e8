import BoardSupervisor.Proofs.Command.Unlogged

/-!
# The first tokens of a line

Each verb looks at a few arguments and no further: at none, at two where it takes one at most, so
that it can tell that there are too many, or at the three that a file command takes. Lines whose
first four tokens are the same are therefore carried out in the same way. More tokens than that are
kept of a line, so nothing but the log can tell that the others are dropped.
-/

namespace BoardSupervisor

open Text

/-- How many arguments a verb looks at. -/
def Verb.argumentsRead : Verb → Nat
  | .leave | .registers | .reset => 0
  | .clock | .trace | .loadRom => 2
  | .loadFile => 3

/-- No verb looks at more than three arguments. -/
theorem Verb.argumentsRead_le (verb : Verb) : verb.argumentsRead ≤ 3 := by
  cases verb <;> decide

/-- The clock command looks at two arguments. -/
theorem ClockRequest.ofArguments_take :
    ∀ arguments, ofArguments (arguments.take 2) = ofArguments arguments
  | [] | [_] | _ :: _ :: _ => rfl

/-- The trace command looks at two arguments. -/
theorem traceLevelOfArguments_take :
    ∀ arguments, traceLevelOfArguments (arguments.take 2) = traceLevelOfArguments arguments
  | [] | [_] | _ :: _ :: _ => rfl

/-- The ROM command looks at two arguments. -/
theorem romOfArguments_take :
    ∀ arguments, romOfArguments (arguments.take 2) = romOfArguments arguments
  | [] | [_] | _ :: _ :: _ => rfl

/-- The file command looks at three arguments. -/
theorem Request.ofFileArguments_take :
    ∀ arguments, ofFileArguments (arguments.take 3) = ofFileArguments arguments
  | [] | [_] | [_, _] | _ :: _ :: _ :: _ => rfl

namespace Command

/-- A verb comes to the same without the arguments beyond those that it looks at. -/
theorem ofVerb_take (entry : Verb.Named) (arguments : List String) :
    (ofVerb entry (arguments.take entry.verb.argumentsRead)).withoutArguments =
      (ofVerb entry arguments).withoutArguments := by
  unfold ofVerb
  cases verb : entry.verb with
  | leave => rfl
  | registers => rfl
  | reset => rfl
  | clock =>
    dsimp only [Verb.argumentsRead]
    rw [ClockRequest.ofArguments_take]
    rfl
  | trace =>
    dsimp only [Verb.argumentsRead]
    rw [traceLevelOfArguments_take]
    rfl
  | loadRom =>
    dsimp only [Verb.argumentsRead]
    rw [romOfArguments_take]
    rfl
  | loadFile =>
    dsimp only [Verb.argumentsRead]
    rw [Request.ofFileArguments_take]
    rfl

/-- Tokens come to the same without those beyond some count that is four at least, since what a verb
looks at is among these. -/
theorem ofTokens_take {count : Nat} (enough : 4 ≤ count) (tokens : List String) :
    (ofTokens (tokens.take count)).withoutArguments = (ofTokens tokens).withoutArguments := by
  cases tokens with
  | nil => rw [List.take_nil]
  | cons verb arguments =>
    obtain ⟨kept, rfl⟩ : ∃ kept, count = kept + 1 := ⟨count - 1, by omega⟩
    rw [List.take_succ_cons]
    unfold ofTokens
    dsimp only
    cases Verb.lookup? verb with
    | none => rfl
    | some entry =>
      have read := entry.verb.argumentsRead_le
      have shorter : (arguments.take kept).take entry.verb.argumentsRead =
          arguments.take entry.verb.argumentsRead := by
        rw [List.take_take, Nat.min_eq_left (by omega)]
      calc (ofVerb entry (arguments.take kept)).withoutArguments
          = (ofVerb entry ((arguments.take kept).take
              entry.verb.argumentsRead)).withoutArguments := (ofVerb_take entry _).symm
        _ = (ofVerb entry (arguments.take entry.verb.argumentsRead)).withoutArguments := by
            rw [shorter]
        _ = (ofVerb entry arguments).withoutArguments := ofVerb_take entry arguments

end Command

/-- The tokens of a command line, none of them dropped. -/
def Text.allTokens (line : String) : List String := (words line.toList).map String.ofList

/-- The tokens that are kept of a line are its first ones. -/
theorem Text.tokens_eq_take (line : String) : tokens line = (allTokens line).take maxTokens := by
  unfold tokens allTokens
  rw [List.map_take]

namespace Interpreter

variable (interpreter : Interpreter) (around : Bench) (m : Machine)

/-- Carry out a command line with all of its tokens, and say whether the session goes on. -/
def executeWhole (line : String) : Act Bool := interpreter.run (Command.ofTokens (allTokens line))

/-- A line comes to what its first four tokens come to. -/
theorem ofLine_withoutArguments (line : String) :
    (Command.ofLine line).withoutArguments =
      (Command.ofTokens ((allTokens line).take 4)).withoutArguments := by
  unfold Command.ofLine
  rw [tokens_eq_take, Command.ofTokens_take (by decide), Command.ofTokens_take (Nat.le_refl 4)]

/-- Only the first four tokens of a line matter. Lines that begin with the same four are carried out
in the same way: on every machine and whatever is around it, the session goes on after both or after
neither, both write the same bytes and ask the same of the board, and both leave the same machine.
So is a line of which no token is dropped. -/
theorem execute_leadingTokens :
    (∀ first second, (allTokens first).take 4 = (allTokens second).take 4 →
      let one := interpreter.execute first around m
      let other := interpreter.execute second around m
      one.value = other.value ∧ Event.written one.events = Event.written other.events ∧
        Event.operations one.events = Event.operations other.events ∧
        one.machine = other.machine) ∧
    ∀ line,
      let bounded := interpreter.execute line around m
      let whole := interpreter.executeWhole line around m
      bounded.value = whole.value ∧ Event.written bounded.events = Event.written whole.events ∧
        Event.operations bounded.events = Event.operations whole.events ∧
        bounded.machine = whole.machine := by
  constructor
  · intro first second same
    refine interpreter.run_congr around m ?_
    rw [ofLine_withoutArguments, ofLine_withoutArguments, same]
  · intro line
    refine interpreter.run_congr around m ?_
    rw [ofLine_withoutArguments, Command.ofTokens_take (Nat.le_refl 4)]

/-- A file is loaded from a line with more tokens than are kept, and from a line with other blanks
and another token behind the first four. -/
theorem execute_leadingTokens_dropped :
    let first := "loadfile A.BIN 100  0x120 \t4 5 6 7 8 9 10"
    let second := " loadfile\x0bA.BIN 100 0x120 clk"
    let around : Bench := ⟨Disk.ofAnswers [("./A.BIN", .ok #[0x3e, 0x2a])], "."⟩
    let one := execute {} first around .powerOn
    let other := execute {} second around .powerOn
    ((allTokens first).take 4 = (allTokens second).take 4 ∧
      maxTokens < (allTokens first).length ∧ one.machine.registers.pc = 0x120) ∧
    one.value = other.value ∧ Event.written one.events = Event.written other.events ∧
      Event.operations one.events = Event.operations other.events ∧
      one.machine = other.machine := by
  intro first second around one other
  have same : (allTokens first).take 4 = (allTokens second).take 4 := by decide
  exact ⟨⟨same, by decide, by decide⟩,
    (execute_leadingTokens {} around .powerOn).1 first second same⟩

end Interpreter

end BoardSupervisor
