import BoardSupervisor.Program

/-!
# The command line

The program's outer layer: it reads the bytes of the input as they come, fetches the files that are
about to be wanted, hands both to the library, and sends what comes of it to the operator and the
log.
-/

namespace BoardSupervisor.Main

/-- The system's number for a failure, which may be given as its negative. -/
def systemNumber (code : UInt32) : Nat :=
  if code < 0x80000000 then code.toNat else (0 - code).toNat

/-- The cause of a failed read. -/
def causeOf (error : IO.Error) : ReadFault :=
  match error with
  | .noFileOrDirectory .. => .notFound
  | .inappropriateType _ code _ =>
    if systemNumber code = 20 then .notDirectory else .isDirectory
  | .invalidArgument _ code details =>
    if systemNumber code = 36 then .nameTooLong else .other details
  | .permissionDenied .. => .other "Permission denied (os error 13)"
  | error => .other (toString error)

/-- The answer of the real disk to one path. -/
def fetch (path : String) : IO (Except ReadFault (Array UInt8)) := do
  match Path.fault? path with
  | some fault => return .error fault
  | none =>
    try return .ok (← IO.FS.readBinFile path).data
    catch error => return .error (causeOf error)

/-- A disk that knows the answers to the given paths. -/
def diskFor (paths : List String) : IO Disk := do
  return .ofAnswers (← paths.mapM fun path => return (path, ← fetch path))

/-- Send a record to the log. -/
def tell (filter : Log.Filter) (entry : Log.Record) : IO Unit :=
  if filter.keeps entry then IO.eprintln entry.line else return ()

/-- Send events on: bytes to the operator, records to the log. -/
def send (filter : Log.Filter) (events : List Event) : IO Unit := do
  let output ← IO.getStdout
  for event in events do
    match event with
    | .wrote bytes => output.write ⟨bytes.toArray⟩
    | .logged entry => tell filter entry
    | .asked _ => pure ()
  output.flush

/-- The time since a moment on the clock, and the moment now. -/
def elapsedSince (last : Nat) : IO (Duration × Nat) := do
  let now ← IO.monoNanosNow
  return (.of 0 (now - last), now)

/-- Do something at the board after the time that has passed since a moment on the clock. The file
that will be read, if one will, is fetched first. -/
def perform {α : Type} (options : Options) (fileName : Option String) (action : Act α)
    (machine : Machine) (last : Nat) : IO (α × Machine × Nat) := do
  let (elapsed, now) ← elapsedSince last
  let paths := fileName.toList.map (Path.join options.fileDirectory)
  let bench := Program.bench options (← diskFor paths)
  let whole : Act α := do
    let _ ← Act.advance elapsed
    action
  let outcome := whole bench machine
  send options.logFilter outcome.events
  return (outcome.value, outcome.machine, now)

/-- Hand the input to the console byte by byte until the input ends. -/
partial def serve (options : Options) (console : Console) (machine : Machine) (last : Nat) :
    IO UInt32 := do
  let input ← (← IO.getStdin).read 1
  match input.data.toList with
  | [] => return 0
  | key :: _ =>
    let (console, machine, now) ←
      perform options (console.fileName? key) (console.receive key) machine last
    serve options console machine now

/-- The bytes of the next line, its line feed included; none at the end of the input. -/
partial def readLine (before : Array UInt8) : IO (Array UInt8) := do
  let input ← (← IO.getStdin).read 1
  match input.data.toList with
  | [] => return before
  | byte :: _ => if byte == 0x0a then return before.push byte else readLine (before.push byte)

/-- Carry out lines until one ends the session or the input ends. -/
partial def serveLines (options : Options) (interpreter : Interpreter) (machine : Machine)
    (last : Nat) : IO UInt32 := do
  match Program.lines (← readLine #[]).toList with
  | [] => return 0
  | line :: _ =>
    match Program.command line with
    | .error fault =>
      IO.eprintln ("Error: " ++ fault.message)
      return fault.exitCode
    | .ok text =>
      let (goesOn, machine, now) ← perform options (Command.ofLine text).fileName?
        (interpreter.execute text) machine last
      if goesOn then serveLines options interpreter machine now else return 0

/-- Run the program with options that were accepted. -/
def runWith (options : Options) : IO UInt32 := do
  let disk ← diskFor (options.basicRom.toList ++ options.monitorRom.toList)
  let (roms, entries) := RomImages.read disk options.basicRom options.monitorRom
  entries.forM (tell options.logFilter)
  let console := Console.new options.settings roms
  let now ← IO.monoNanosNow
  if options.lineMode then serveLines options console.menu.interpreter .powerOn now
  else serve options console .powerOn now

/-- End the program with what a refusal calls for. -/
def refuse (refusal : Refusal) : IO UInt32 := do
  let ending := refusal.ending
  (← IO.getStdout).write ⟨ending.written.toArray⟩
  if ending.exitCode != 0 then
    IO.eprintln ("error: the arguments are not understood; try " ++ Help.programName ++ " --help")
  return ending.exitCode

end BoardSupervisor.Main

/-- The program. -/
def main (arguments : List String) : IO UInt32 :=
  match BoardSupervisor.Options.ofArguments arguments with
  | .ok options => BoardSupervisor.Main.runWith options
  | .error refusal => BoardSupervisor.Main.refuse refusal
