import BoardSupervisor.Proofs.Command.Frame
import BoardSupervisor.Proofs.Command.Unlogged
import BoardSupervisor.Proofs.Number.LetterCase
import Mathlib.Data.List.Forall2

/-!
# Lines in either case

Two lines that differ in letter case alone have tokens that differ in letter case alone, and every
reader of arguments takes such tokens for the same. What is left of a difference is only in the
record of the line that the log keeps. Two readers do tell letter cases apart: an unknown verb is
quoted to the operator as it was typed, and a file is looked up under the name that was typed.
-/

namespace BoardSupervisor

open Text

/-- Lists of tokens that differ in letter case alone, token by token. -/
abbrev Text.AllAlike : List String → List String → Prop :=
  List.Forall₂ fun first second => folded first = folded second

/-- The tokens of lines that differ in letter case alone. -/
theorem Text.tokens_allAlike {first second : String} (same : folded first = folded second) :
    AllAlike (tokens first) (tokens second) := by
  have mapped : List.Forall₂ Eq ((tokens first).map folded) ((tokens second).map folded) := by
    rw [List.forall₂_eq_eq_eq]
    exact tokens_folded same
  exact List.forall₂_map_left_iff.1 (List.forall₂_map_right_iff.1 mapped)

/-- A verb is looked up in either case. -/
theorem Verb.lookup?_congr {first second : String} (same : folded first = folded second) :
    lookup? first = lookup? second := by
  unfold lookup? alike
  rw [same]

/-- A ROM is named in either case. -/
theorem Rom.ofName?_congr {first second : String} (same : folded first = folded second) :
    ofName? first = ofName? second := by
  unfold ofName? alike
  rw [same]

section Arguments

variable {first second : List String} (same : AllAlike first second)

include same

/-- The clock is asked for the same in either case. -/
theorem ClockRequest.ofArguments_congr : ofArguments first = ofArguments second := by
  cases same with
  | nil => rfl
  | cons argument rest =>
    cases rest with
    | nil =>
      unfold ofArguments alike
      dsimp only
      rw [argument, Frequency.ofToken_congr argument]
    | cons => rfl

/-- The same trace level is asked for in either case. -/
theorem traceLevelOfArguments_congr :
    traceLevelOfArguments first = traceLevelOfArguments second := by
  cases same with
  | nil => rfl
  | cons level rest =>
    cases rest with
    | nil =>
      unfold traceLevelOfArguments
      dsimp only
      rw [Number.leadingLevel_congr level]
    | cons => rfl

/-- The same ROM is asked for in either case. -/
theorem romOfArguments_congr : romOfArguments first = romOfArguments second := by
  cases same with
  | nil => rfl
  | cons name rest =>
    cases rest with
    | nil =>
      unfold romOfArguments
      dsimp only
      rw [Rom.ofName?_congr name]
    | cons => rfl

/-- The same file is asked for in either case of its addresses, if its name is typed alike. -/
theorem Request.ofFileArguments_congr (named : first[0]? = second[0]?) :
    ofFileArguments first = ofFileArguments second := by
  cases same with
  | nil => rfl
  | cons name rest =>
    cases rest with
    | nil => rfl
    | cons address rest =>
      cases rest with
      | nil => rfl
      | cons start rest =>
        unfold ofFileArguments
        dsimp only
        rw [Option.some.inj named, Number.leadingAddress_congr address,
          Number.leadingAddress_congr start]

end Arguments

/-- A verb with arguments that differ in letter case alone comes to the same, if the name of a file
is typed alike. -/
theorem Command.ofVerb_congr (entry : Verb.Named) {first second : List String}
    (same : AllAlike first second) (named : entry.verb = .loadFile → first[0]? = second[0]?) :
    (ofVerb entry first).withoutArguments = (ofVerb entry second).withoutArguments := by
  unfold ofVerb
  cases verb : entry.verb with
  | leave => rfl
  | registers => rfl
  | reset => rfl
  | clock => dsimp only; rw [ClockRequest.ofArguments_congr same]; rfl
  | loadRom => dsimp only; rw [romOfArguments_congr same]; rfl
  | loadFile => dsimp only; rw [Request.ofFileArguments_congr same (named verb)]; rfl
  | trace => dsimp only; rw [traceLevelOfArguments_congr same]; rfl

/-- Tokens whose verb is known come to the same in either case, if the name of a file is typed
alike. -/
theorem Command.ofTokens_congr {first second : List String} (same : AllAlike first second)
    (known : (first.head?.bind Verb.lookup?).map (·.verb) ≠ none)
    (named : (first.head?.bind Verb.lookup?).map (·.verb) = some .loadFile →
      first[1]? = second[1]?) :
    (ofTokens first).withoutArguments = (ofTokens second).withoutArguments := by
  cases same with
  | nil => rfl
  | @cons verb other arguments others verbs rest =>
    dsimp only [List.head?_cons, Option.bind_some] at known named
    unfold ofTokens
    dsimp only
    rw [← Verb.lookup?_congr verbs]
    cases found : Verb.lookup? verb with
    | none =>
      rw [found] at known
      exact absurd rfl known
    | some entry =>
      rw [found] at named
      exact ofVerb_congr entry rest fun loads => named (congrArg some loads)

namespace Interpreter

variable (interpreter : Interpreter) (around : Bench) (m : Machine)

/-- Lines that differ in letter case alone, whose verb is known and which, if they load a file, name
it alike, are carried out in the same way: on every machine and whatever is around it, the session
goes on after both or after neither, both write the same bytes, and both leave the same machine. -/
theorem execute_alike {first second : String} (same : alike first second = true)
    (known : Verb.ofLine? first ≠ none)
    (named : Verb.ofLine? first = some .loadFile → (tokens first)[1]? = (tokens second)[1]?) :
    let one := interpreter.execute first around m
    let other := interpreter.execute second around m
    one.value = other.value ∧ Event.written one.events = Event.written other.events ∧
      one.machine = other.machine := by
  intro one other
  have commands :
      (Command.ofLine first).withoutArguments = (Command.ofLine second).withoutArguments :=
    Command.ofTokens_congr (tokens_allAlike (alike_iff.1 same)) known named
  obtain ⟨value, written, -, machine⟩ := interpreter.run_congr around m commands
  exact ⟨value, written, machine⟩

/-- A file is loaded from a line whose verb and addresses are typed in the other case, on a bench
where its name is known in one case alone. -/
theorem execute_alike_loadFile :
    let first := "LOADFILE Prog.bin 0X1fF BeEf"
    let second := "loadfile Prog.bin 0x1FF bEEF"
    let around : Bench := ⟨Disk.ofAnswers [("roms/Prog.bin", .ok #[0x3e, 0x2a])], "roms"⟩
    let one := execute {} first around .powerOn
    let other := execute {} second around .powerOn
    (alike first second = true ∧ Verb.ofLine? first ≠ none ∧
      (Verb.ofLine? first = some .loadFile → (tokens first)[1]? = (tokens second)[1]?)) ∧
    other.machine.registers.pc = 0xbeef ∧
    one.value = other.value ∧ Event.written one.events = Event.written other.events ∧
      one.machine = other.machine := by
  intro first second around one other
  have same : alike first second = true := by decide
  have known : Verb.ofLine? first ≠ none := by decide
  have named : Verb.ofLine? first = some .loadFile → (tokens first)[1]? = (tokens second)[1]? := by
    decide
  exact ⟨⟨same, known, named⟩, by decide, execute_alike {} around .powerOn same known named⟩

end Interpreter

end BoardSupervisor
