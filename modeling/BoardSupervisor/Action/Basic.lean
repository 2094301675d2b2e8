import BoardSupervisor.Action.Event
import BoardSupervisor.Files
import BoardSupervisor.Machine.Basic
import BoardSupervisor.Text.Basic

/-!
# Actions

An action is something done at the board. Given the bench that the board stands on and the state of
the machine, it ends in an outcome: a value, the machine's new state, and the events on the way.
Actions are put together one after the other, the events of the first before those of the second.
-/

namespace BoardSupervisor

/-- What the board has around it. -/
structure Bench where
  /-- The disk that files are read from. -/
  disk : Disk
  /-- The directory that file names are looked up in. -/
  directory : String

/-- How an action ends. -/
structure Outcome (α : Type) where
  /-- Its value. -/
  value : α
  /-- The machine afterwards. -/
  machine : Machine
  /-- What happened on the way, in order. -/
  events : List Event

/-- Something done at the board. -/
def Act (α : Type) : Type := Bench → Machine → Outcome α

namespace Act

variable {α β γ : Type}

/-- The action that does nothing and has the given value. -/
def pure (value : α) : Act α := fun _ machine => ⟨value, machine, []⟩

/-- One action, and then another that depends on its value. -/
def bind (first : Act α) (next : α → Act β) : Act β := fun bench machine =>
  match first bench machine with
  | ⟨value, machine, before⟩ =>
    match next value bench machine with
    | ⟨value, machine, after⟩ => ⟨value, machine, before ++ after⟩

/-- One action, with its value turned into another. -/
def map (f : α → β) (action : Act α) : Act β := fun bench machine =>
  match action bench machine with
  | ⟨value, machine, events⟩ => ⟨f value, machine, events⟩

instance : Monad Act where
  pure := pure
  bind := bind
  map := map

/-- Doing nothing keeps the machine and leaves no mark. -/
@[simp] theorem pure_apply (value : α) (bench : Bench) (machine : Machine) :
    (Pure.pure value : Act α) bench machine = ⟨value, machine, []⟩ := rfl

/-- Two actions in a row: the second starts from the machine that the first leaves. -/
@[simp] theorem bind_apply (first : Act α) (next : α → Act β) (bench : Bench)
    (machine : Machine) :
    (first >>= next) bench machine =
      ⟨(next (first bench machine).value bench (first bench machine).machine).value,
        (next (first bench machine).value bench (first bench machine).machine).machine,
        (first bench machine).events ++
          (next (first bench machine).value bench (first bench machine).machine).events⟩ := rfl

/-- Turning the value of an action into another keeps the machine and the marks. -/
@[simp] theorem map_apply (f : α → β) (action : Act α) (bench : Bench) (machine : Machine) :
    (f <$> action) bench machine =
      ⟨f (action bench machine).value, (action bench machine).machine,
        (action bench machine).events⟩ := rfl

instance : LawfulMonad Act := LawfulMonad.mk' Act
  (fun _ => rfl)
  (fun _ _ => rfl)
  (fun first next last => by
    funext bench machine
    simp [List.append_assoc])
  (fun _ _ => rfl)
  (fun _ _ => rfl)
  (fun _ _ => rfl)
  (fun f action => by
    funext bench machine
    simp)
  (fun _ _ => rfl)

/-- The action whose value is what the board has around it. -/
def bench : Act Bench := fun bench machine => ⟨bench, machine, []⟩

/-- The action whose value is the state of the machine. -/
def machine : Act Machine := fun _ machine => ⟨machine, machine, []⟩

/-- The action that changes the machine and has no other value. -/
def modify (change : Machine → Machine) : Act Unit := fun _ machine => ⟨(), change machine, []⟩

/-- The action that changes the machine and has a value found on the way. -/
def transition (step : Machine → α × Machine) : Act α := fun _ machine =>
  let (value, after) := step machine
  ⟨value, after, []⟩

/-- The action that leaves one mark. -/
def emit (event : Event) : Act Unit := fun _ machine => ⟨(), machine, [event]⟩

/-- The action that writes bytes to the operator. -/
def write (bytes : List UInt8) : Act Unit := emit (.wrote bytes)

/-- The action that sends a message to the operator. -/
def tell (message : Text.Message) : Act Unit := write message.bytes

/-- The action that writes a text to the operator, which is put together first. -/
def report (text : String) : Act Unit := tell (.composed text)

/-- The action that logs a record. -/
def log (level : Log.Level) (message : String) : Act Unit := emit (.logged ⟨level, message⟩)

/-- The action that notes an operation asked of the board. -/
def ask (operation : Operation) : Act Unit := emit (.asked operation)

/-- Seeing the machine changes nothing. -/
@[simp] theorem machine_apply (bench : Bench) (machine : Machine) :
    Act.machine bench machine = ⟨machine, machine, []⟩ := rfl

/-- A step of the machine leaves no mark. -/
@[simp] theorem transition_apply (step : Machine → α × Machine) (bench : Bench)
    (machine : Machine) :
    Act.transition step bench machine = ⟨(step machine).1, (step machine).2, []⟩ := rfl

/-- Writing bytes leaves them as its only mark. -/
@[simp] theorem write_apply (bytes : List UInt8) (bench : Bench) (machine : Machine) :
    Act.write bytes bench machine = ⟨(), machine, [.wrote bytes]⟩ := rfl

/-- Sending a message leaves the bytes of what it says as its only mark. -/
@[simp] theorem tell_apply (message : Text.Message) (bench : Bench) (machine : Machine) :
    Act.tell message bench machine =
      ⟨(), machine, [.wrote (Text.Latin1.encode message.text)]⟩ := by
  unfold Act.tell
  rw [write_apply, message.bytes_eq]

/-- Writing a text leaves its bytes as its only mark. -/
@[simp] theorem report_apply (text : String) (bench : Bench) (machine : Machine) :
    Act.report text bench machine = ⟨(), machine, [.wrote (Text.Latin1.encode text)]⟩ := rfl

/-- Logging leaves a record as its only mark. -/
@[simp] theorem log_apply (level : Log.Level) (message : String) (bench : Bench)
    (machine : Machine) :
    Act.log level message bench machine = ⟨(), machine, [.logged ⟨level, message⟩]⟩ := rfl

/-- Noting an operation leaves it as its only mark. -/
@[simp] theorem ask_apply (operation : Operation) (bench : Bench) (machine : Machine) :
    Act.ask operation bench machine = ⟨(), machine, [.asked operation]⟩ := rfl

/-- A choice between two actions is made before either starts. -/
@[simp] theorem ite_apply (condition : Prop) [Decidable condition] (first second : Act α)
    (bench : Bench) (machine : Machine) :
    (if condition then first else second) bench machine =
      if condition then first bench machine else second bench machine := by
  split <;> rfl

end Act

end BoardSupervisor
