import BoardSupervisor.Proofs.Command.Resolution
import BoardSupervisor.Proofs.Number.Addresses

/-!
# Where a file goes

The file command reads two addresses from the front of their tokens and, once the file is loaded,
shows them with four digits each. Whatever the tokens were, an address that is shown is read back as
the one that was read, so that the operator can tell from the answer where the program stands and
where it starts.
-/

namespace BoardSupervisor.Interpreter

open Number Text

/-- A line with the file command and its three arguments asks for a file at the addresses in front
of two of them. -/
theorem ofLine_loadFile {line verb name address start : String} {more : List String}
    (typed : tokens line = verb :: name :: address :: start :: more)
    (named : SameUpToCase verb "loadfile") :
    Command.ofLine line = .ask "loadfile" (name :: address :: start :: more)
      (.ok (.loadFile name (leadingAddress address) (leadingAddress start))) := by
  have listed : (⟨"loadfile", .loadFile⟩ : Verb.Named) ∈ Verb.table := by decide
  rw [Command.ofLine_of_named typed listed named]
  rfl

section Loading

variable {around : Bench} {name : String} {address : UInt16} {image : Array UInt8}
  (readable : around.file name = .ok image) (fits : Memory.fits address image.size = true)

include readable fits

/-- A file that can be read and fits is loaded. -/
theorem after_loadFile (interpreter : Interpreter) (m : Machine) (start : UInt16) :
    interpreter.after around m (.loadFile name address start) = m.load image address start := by
  have program : around.program? name address = some image := by
    rw [Bench.program?, readable]
    exact if_pos fits
  dsimp only [after]
  rw [program]

/-- The operator is told where a file was loaded, in four digits each. -/
theorem answer_loadFile (interpreter : Interpreter) (m : Machine) (start : UInt16) :
    interpreter.answer around m (.loadFile name address start) =
      Latin1.encode ("loadfile: " ++ decimal image.size ++ " bytes at " ++ hexWord address ++
        ", entry at " ++ hexWord start ++ "\r\n") := by
  dsimp only [answer]
  rw [Bench.fileAnswer, readable]
  exact congrArg Latin1.encode (if_pos fits)

end Loading

/-- An address is what is left modulo 65536 of the number in the longest run of digits behind an
optional mark. Every address is therefore read back from its digits, with the mark or without it, in
either case and with any number of zeros in front, if neither a digit nor the letter of a mark
follows; and the addresses that are shown once a file is loaded are those that it was loaded
with. -/
theorem leading_address_modulo :
    (∀ token (address : UInt16), leadingAddress token = address ↔
      ∃ body run, Unmarked token.toList body ∧ LongestWord (AreDigits 16) body run ∧
        address.toNat = ofDigits 16 (digitValues 16 run) % 65536) ∧
    (∀ (n : UInt16) mark zeros run rest, mark = [] ∨ IsHexMark mark →
      fold run = Nat.toDigits 16 n.toNat → EndsAddress rest →
      leadingAddress (String.ofList (mark ++ (List.replicate zeros '0' ++ run ++ rest))) = n) ∧
    ∀ (interpreter : Interpreter) (around : Bench) (m : Machine) (line verb name address start)
      more image, tokens line = verb :: name :: address :: start :: more →
      SameUpToCase verb "loadfile" → around.file name = .ok image →
      Memory.fits (leadingAddress address) image.size = true →
      ∃ shown shownStart,
        Event.written (interpreter.execute line around m).events =
          Latin1.encode ("loadfile: " ++ decimal image.size ++ " bytes at " ++ shown ++
            ", entry at " ++ shownStart ++ "\r\n") ∧
        leadingAddress shown = leadingAddress address ∧
        leadingAddress shownStart = leadingAddress start ∧
        (interpreter.execute line around m).machine =
          m.load image (leadingAddress shown) (leadingAddress shownStart) := by
  refine ⟨?modulo, ?written, ?shown⟩
  case modulo =>
    intro token address
    have value {body run : List Char} (unmarked : Unmarked token.toList body)
        (longest : LongestWord (AreDigits 16) body run) :
        leadingAddress token = UInt16.ofNat (ofDigits 16 (digitValues 16 run)) := by
      rw [← unmarked_iff.mp unmarked] at longest
      exact leadingAddress_of_longest longest
    constructor
    · rintro rfl
      obtain ⟨run, longest⟩ := exists_longest_digits 16 (dropHexMark token.toList)
      have unmarked := unmarked_iff.mpr (Eq.refl (dropHexMark token.toList))
      refine ⟨_, run, unmarked, longest, ?_⟩
      rw [value unmarked longest, UInt16.toNat_ofNat']
    · rintro ⟨body, run, unmarked, longest, left⟩
      rw [value unmarked longest, ← UInt16.toNat_inj, UInt16.toNat_ofNat', left]
  case written =>
    intro n mark zeros run rest marked written ends
    exact leadingAddress_digits marked zeros written ends
  case shown =>
    intro interpreter around m line verb name address start more image typed named readable fits
    have nothing : EndsAddress "".toList := by rintro c after ⟨⟩
    have readBack (w : UInt16) : leadingAddress (hexWord w) = w := by
      rw [← String.append_empty (s := hexWord w), leadingAddress_hexWord w nothing]
    refine ⟨hexWord (leadingAddress address), hexWord (leadingAddress start), ?_, readBack _,
      readBack _, ?_⟩
    · rw [execute, written_run, ofLine_loadFile typed named]
      exact interpreter.answer_loadFile readable fits m (leadingAddress start)
    · rw [execute, run_machine, ofLine_loadFile typed named, readBack, readBack]
      exact interpreter.after_loadFile readable fits m (leadingAddress start)

/-- A mark and zeros in front, letters in both cases and a word behind do not hide an address, and a
file command with such an address is answered with it in four digits. -/
theorem leading_address_modulo_mixed :
    let image : Array UInt8 := #[0x3e, 0x42]
    let around : Bench := ⟨fun _ => .ok image, "files"⟩
    let left :=
      (({} : Interpreter).execute "LoadFile prog.bin 0x100F0 fffe" around .powerOn).machine
    leadingAddress (String.ofList
        (['0', 'X'] ++ (List.replicate 2 '0' ++ ['B', 'e', 'E', 'f'] ++ ['z']))) = 0xbeef ∧
      ∃ shown shownStart,
        leadingAddress shown = leadingAddress "0x100F0" ∧
        leadingAddress shownStart = leadingAddress "fffe" ∧
        left = Machine.powerOn.load image (leadingAddress shown) (leadingAddress shownStart) := by
  intro image around left
  have ends : EndsAddress ['z'] := by
    rintro c after same
    obtain ⟨rfl, -⟩ := List.cons.inj same
    decide
  have typed : tokens "LoadFile prog.bin 0x100F0 fffe" =
      "LoadFile" :: "prog.bin" :: "0x100F0" :: "fffe" :: [] := by decide
  obtain ⟨shown, shownStart, -, address, start, loaded⟩ :=
    leading_address_modulo.2.2 {} around .powerOn "LoadFile prog.bin 0x100F0 fffe" "LoadFile"
      "prog.bin" "0x100F0" "fffe" [] image typed (by decide) rfl (by decide)
  exact ⟨leading_address_modulo.2.1 0xbeef ['0', 'X'] 2 ['B', 'e', 'E', 'f'] ['z']
    (.inr (.inr rfl)) (by decide) ends, shown, shownStart, address, start, loaded⟩

end BoardSupervisor.Interpreter
