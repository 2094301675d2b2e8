import BoardSupervisor.Proofs.Console.Visit

/-!
# The console as a router

A console with its menu closed does to typed bytes what their stretches do, one after the other. The
line of an earlier visit stays in the editor until the menu is opened again, and nothing depends on
it. The second part follows the serial port through runs in which bytes are taken, commands carried
out and time passes at any moment between the bytes.
-/

namespace BoardSupervisor

/-- What stretches of typed bytes do, one after the other, and for each byte whether the menu is
open after it. -/
def Stretch.performAll (menu : Menu) (stretches : List Stretch) : Act (List Bool) := do
  stretches.forM (perform menu)
  return stretches.flatMap menuFlags

/-- The first stretch is performed before the others. -/
theorem Stretch.performAll_cons (menu : Menu) (stretch : Stretch) (rest : List Stretch) :
    performAll menu (stretch :: rest) =
      stretch.perform menu >>= fun _ =>
        (fun flags => stretch.menuFlags ++ flags) <$> performAll menu rest := by
  have first : (stretch :: rest).forM (perform menu) =
      stretch.perform menu >>= fun _ => rest.forM (perform menu) := rfl
  unfold performAll
  rw [first, map_bind, List.flatMap_cons]
  simp only [bind_assoc, map_pure]

namespace Console

variable (console : Console) {key : UInt8}

/-- Handle bytes one after the other, and say for each whether the menu is open after it. -/
def flags (keys : List UInt8) : Act (List Bool) := Prod.fst <$> console.receiveAll keys

/-- Bytes are handled one by one. -/
theorem flags_cons (key : UInt8) (keys : List UInt8) :
    console.flags (key :: keys) =
      console.receive key >>= fun next =>
        (fun rest => next.menuOpen :: rest) <$> next.flags keys := by
  unfold flags
  rw [receiveAll, map_bind]
  simp only [Functor.map_map]

/-- A byte that leaves the menu open is shown and edits the line. -/
theorem receive_of_leavesOpen (isOpen : console.menuOpen = true)
    (stays : Key.leavesOpen console.menu.editor.escapeKey key = true) :
    console.receive key = do
      Act.write (console.menu.editor.press key).written
      return { console with menu := console.menu.edited key, menuOpen := true } := by
  unfold receive receiveInMenu Menu.press Menu.edited
  rw [isOpen, if_pos rfl]
  dsimp only
  rw [console.menu.editor.press_of_leavesOpen stays]
  dsimp only [Menu.follow]
  simp only [bind_assoc, pure_bind, Bool.not_true, Bool.false_eq_true, if_false]

/-- A byte that does not leave the menu open closes it. -/
theorem receive_of_not_leavesOpen (isOpen : console.menuOpen = true)
    (closes : Key.leavesOpen console.menu.editor.escapeKey key = false) :
    console.receive key = do
      console.menu.closeWith key
      return { console with menuOpen := false } := by
  unfold receive receiveInMenu Menu.press Menu.closeWith
  rw [isOpen, if_pos rfl]
  dsimp only
  cases ends : Key.endsLine key with
  | true =>
    rw [console.menu.editor.press_of_endsLine ends]
    dsimp only [Menu.follow]
    simp only [bind_assoc, pure_bind, Bool.not_false, if_true]
  | false =>
    rw [console.menu.editor.press_of_givesUp (Key.givesUp_of_not_leavesOpen closes ends)]
    dsimp only [Menu.follow]
    simp only [bind_assoc, pure_bind, Bool.not_false, if_true, Bool.false_eq_true, if_false]

/-- The escape key opens the menu with an empty line. -/
theorem receive_of_opens (isClosed : console.menuOpen = false)
    (opens : (key == console.escapeKey) = true) :
    console.receive key = do
      Act.log .debug "entered supervisor"
      Act.report Menu.prompt
      return { console with menu := console.menu.clear, menuOpen := true } := by
  unfold receive openMenu Menu.enter
  rw [isClosed, if_neg Bool.false_ne_true, opens, if_pos rfl]
  rfl

/-- Outside the menu every other byte goes to the serial port. -/
theorem receive_of_passes (isClosed : console.menuOpen = false)
    (passes : (key == console.escapeKey) = false) :
    console.receive key = do
      Act.sendSerial key
      return console := by
  unfold receive
  rw [isClosed, if_neg Bool.false_ne_true, passes, if_neg Bool.false_ne_true]

/-- A line left in the editor by an earlier visit changes nothing. -/
theorem flags_congr (first second : Console) (firstClosed : first.menuOpen = false)
    (secondClosed : second.menuOpen = false) (menu_eq : first.menu.clear = second.menu.clear)
    (key_eq : first.escapeKey = second.escapeKey) (keys : List UInt8) :
    first.flags keys = second.flags keys := by
  induction keys with
  | nil => rfl
  | cons key keys ih =>
    rw [flags_cons, flags_cons]
    cases opens : key == first.escapeKey with
    | true =>
      have opensToo : (key == second.escapeKey) = true := by
        rw [← key_eq]
        exact opens
      rw [first.receive_of_opens firstClosed opens, second.receive_of_opens secondClosed opensToo,
        menu_eq, key_eq]
    | false =>
      have passesToo : (key == second.escapeKey) = false := by
        rw [← key_eq]
        exact opens
      rw [first.receive_of_passes firstClosed opens,
        second.receive_of_passes secondClosed passesToo]
      simp only [bind_assoc, pure_bind, firstClosed, secondClosed, ih]

/-- What becomes of bytes while the menu is open: those that leave it open are typed, the next one
closes it, and the others find it closed. -/
theorem flags_of_menuOpen (menu : Menu) (escapeKey : UInt8) (keys : List UInt8) :
    (Console.mk menu escapeKey true).flags keys =
      let stays := Key.leavesOpen menu.editor.escapeKey
      let typed := keys.takeWhile stays
      let last? := (keys.dropWhile stays).head?
      menu.editor.echo typed >>= fun _ =>
        (menu.typedIn typed).closeWith? last? >>= fun _ =>
          (fun flags => typed.map (fun _ => true) ++ last?.toList.map (fun _ => false) ++ flags) <$>
            (Console.mk (menu.typedIn typed) escapeKey false).flags
              (keys.dropWhile stays).tail := by
  induction keys generalizing menu with
  | nil => rfl
  | cons key keys ih =>
    rw [flags_cons]
    dsimp only
    cases stays : Key.leavesOpen menu.editor.escapeKey key with
    | true =>
      have same : (menu.edited key).editor.escapeKey = menu.editor.escapeKey :=
        menu.editor.press_escapeKey key
      rw [receive_of_leavesOpen ⟨menu, escapeKey, true⟩ rfl stays, List.takeWhile_cons_of_pos stays,
        List.dropWhile_cons_of_pos stays]
      simp only [bind_assoc, pure_bind]
      rw [ih (menu.edited key)]
      simp only [same, map_bind, Functor.map_map, Editor.echo, bind_assoc]
      rfl
    | false =>
      have stops : ¬ Key.leavesOpen menu.editor.escapeKey key = true := Bool.eq_false_iff.mp stays
      rw [receive_of_not_leavesOpen ⟨menu, escapeKey, true⟩ rfl stays,
        List.takeWhile_cons_of_neg stops, List.dropWhile_cons_of_neg stops]
      simp only [bind_assoc, pure_bind, Editor.echo]
      rfl

/-- A new console does to typed bytes what their stretches do. -/
theorem flags_new (settings : Menu.Settings) (roms : RomImages) (keys : List UInt8) :
    (Console.new settings roms).flags keys =
      Stretch.performAll (.new settings roms) (Stretch.ofBytes settings.escapeKey keys) := by
  induction keys using Stretch.ofBytes.induct settings.escapeKey with
  | case1 =>
    rw [Stretch.ofBytes_nil]
    rfl
  | case2 key keys opens remaining ih =>
    have later (typed rest : List UInt8) :
        (Console.mk ((Menu.new settings roms).typedIn typed) settings.escapeKey false).flags rest =
          (Console.new settings roms).flags rest :=
      flags_congr ⟨(Menu.new settings roms).typedIn typed, settings.escapeKey, false⟩
        (.new settings roms) rfl rfl (Menu.typedIn_clear _ typed) rfl rest
    have cleared : (Console.new settings roms).menu.clear = Menu.new settings roms := rfl
    have escape : (Console.new settings roms).escapeKey = settings.escapeKey := rfl
    have escapeToo : (Menu.new settings roms).editor.escapeKey = settings.escapeKey := rfl
    rw [flags_cons, receive_of_opens (.new settings roms) rfl opens, Stretch.ofBytes_visit opens,
      Stretch.performAll_cons, ← ih, cleared, escape]
    simp only [bind_assoc, pure_bind]
    rw [flags_of_menuOpen]
    dsimp only
    rw [escapeToo, later, Stretch.perform, Stretch.menuFlags]
    simp only [bind_assoc, map_bind, Functor.map_map]
    rfl
  | case3 key keys other ih =>
    have passes : (key == settings.escapeKey) = false := Bool.eq_false_iff.mpr other
    rw [flags_cons, receive_of_passes (.new settings roms) rfl passes,
      Stretch.ofBytes_passed passes, Stretch.performAll_cons, ← ih]
    simp only [bind_assoc, pure_bind]
    rfl

/-- A console whose menu is opened and given up with one escape key. -/
structure KeyedBy (escapeKey : UInt8) : Prop where
  /-- The key opens the menu. -/
  opens : console.escapeKey = escapeKey
  /-- The key gives a line up. -/
  givesUp : console.menu.editor.escapeKey = escapeKey

/-- Bytes keep the escape key. -/
theorem KeyedBy.afterKey {console : Console} {escapeKey : UInt8} (keyed : console.KeyedBy escapeKey)
    (key : UInt8) : (console.afterKey key).KeyedBy escapeKey := by
  unfold Console.afterKey
  split
  · exact ⟨keyed.opens, (console.menu.editor.press_escapeKey key).trans keyed.givesUp⟩
  · split
    · exact ⟨keyed.opens, keyed.givesUp⟩
    · exact keyed

/-- What a byte sends and what later bytes send, one after the other. -/
theorem KeyedBy.sentFrom_cons {console : Console} {escapeKey : UInt8}
    (keyed : console.KeyedBy escapeKey) (key : UInt8) (keys : List UInt8) :
    (console.keyDeed key).sent ++ Stretch.sentFrom escapeKey (console.afterKey key).menuOpen keys =
      Stretch.sentFrom escapeKey console.menuOpen (key :: keys) := by
  unfold keyDeed Console.afterKey
  cases isOpen : console.menuOpen with
  | true =>
    rw [if_pos rfl, if_pos rfl, Menu.deed_sent, List.nil_append, Stretch.sentFrom,
      Editor.press_editing, keyed.givesUp]
  | false =>
    rw [if_neg Bool.false_ne_true, if_neg Bool.false_ne_true, Stretch.sentFrom, ← keyed.opens]
    cases key == console.escapeKey with
    | true => rfl
    | false =>
      rw [if_neg Bool.false_ne_true, if_neg Bool.false_ne_true, if_neg Bool.false_ne_true, isOpen]
      rfl

end Console

/-- The byte that is typed in a moment, if one is. -/
def Moment.key? (moment : Moment) : Option UInt8 :=
  match moment.stimulus with
  | .key byte => some byte
  | _ => none

/-- The bytes sent in a run are the typed bytes that find the menu closed and do not open it. -/
theorem Scene.sent_eq {escapeKey : UInt8} (scene : Scene)
    (keyed : scene.console.KeyedBy escapeKey) (moments : List Moment) :
    scene.sent moments =
      Stretch.sentFrom escapeKey scene.console.menuOpen (moments.filterMap Moment.key?) := by
  induction moments generalizing scene with
  | nil =>
    cases scene.console.menuOpen <;> rfl
  | cons moment rest ih =>
    have first : scene.sent (moment :: rest) =
        (scene.deed moment).sent ++ (scene.next moment).sent rest := by
      unfold sent
      rw [deeds, List.flatMap_cons]
    have console_eq := scene.next_console moment
    have still (same : (scene.next moment).console = scene.console)
        (idle : (scene.deed moment).sent = []) (untyped : moment.key? = none) :
        scene.sent (moment :: rest) = Stretch.sentFrom escapeKey scene.console.menuOpen
          ((moment :: rest).filterMap Moment.key?) := by
      rw [first, idle, List.nil_append, ih _ (same ▸ keyed), same,
        List.filterMap_cons_none untyped]
    obtain ⟨around, stimulus⟩ := moment
    cases stimulus with
    | line text => exact still console_eq (Command.deed_sent _) rfl
    | key byte =>
      have same : (scene.next ⟨around, .key byte⟩).console = scene.console.afterKey byte :=
        console_eq
      rw [first, ih _ (same ▸ keyed.afterKey byte), same]
      exact keyed.sentFrom_cons byte _
    | elapse time => exact still console_eq rfl rfl
    | take count => exact still console_eq rfl rfl

/-- A console is a router. What is typed falls into stretches, and each byte of it belongs to one. A
new console does what the stretches do, to any machine; each stretch leaves the machine and writes
the bytes that it is summed up by, and only bytes outside the menu reach the serial port. Whatever
else happens in a run, the bytes taken from the serial port and those left in its queue are the
bytes that were there and the bytes typed outside the menu, in order. Consoles with their menus
closed that differ in the line left in the editor do the same. -/
theorem Console.routes (settings : Menu.Settings) (roms : RomImages) :
    (∀ keys, (Stretch.ofBytes settings.escapeKey keys).flatMap (Stretch.bytes settings.escapeKey) =
      keys) ∧
    (∀ keys, Prod.fst <$> (Console.new settings roms).receiveAll keys =
      Stretch.performAll (.new settings roms) (Stretch.ofBytes settings.escapeKey keys)) ∧
    (∀ (stretch : Stretch) around m,
      (stretch.perform (.new settings roms) around m).machine =
          stretch.after (.new settings roms) around m ∧
        Event.written (stretch.perform (.new settings roms) around m).events =
          stretch.answer (.new settings roms) around m ∧
        (stretch.after (.new settings roms) around m).queued = m.queued ++ stretch.sent) ∧
    (∀ m moments,
      (Scene.mk (.new settings roms) m).taken moments ++
          ((Scene.mk (.new settings roms) m).run moments).machine.queued =
        m.queued ++
          (Stretch.ofBytes settings.escapeKey (moments.filterMap Moment.key?)).flatMap
            Stretch.sent) ∧
    (∀ first second : Console, first.menuOpen = false → second.menuOpen = false →
      first.menu.clear = second.menu.clear → first.escapeKey = second.escapeKey →
      ∀ keys, Prod.fst <$> first.receiveAll keys = Prod.fst <$> second.receiveAll keys) := by
  refine ⟨?_, ?_, ?_, ?_, ?_⟩
  · intro keys
    exact Stretch.flatMap_bytes_ofBytes settings.escapeKey keys
  · intro keys
    exact flags_new settings roms keys
  · intro stretch around m
    exact ⟨stretch.perform_machine _ around m, stretch.written_perform _ around m,
      stretch.after_queued _ around m⟩
  · intro m moments
    have keyed : (Console.new settings roms).KeyedBy settings.escapeKey := ⟨rfl, rfl⟩
    have sent := (Scene.mk (.new settings roms) m).sent_eq keyed moments
    rw [Scene.run_queued, sent]
    exact congrArg (m.queued ++ ·) (Stretch.sentFrom_closed settings.escapeKey _)
  · intro first second firstClosed secondClosed menu_eq key_eq keys
    exact flags_congr first second firstClosed secondClosed menu_eq key_eq keys

/-- A line that an earlier visit left in the editor changes nothing in a later one. -/
theorem Console.routes_leftover :
    let fresh := Console.new {} {}
    let left := { fresh with menu := fresh.menu.typedIn (Text.Latin1.encode "trace 1") }
    left.menu.editor.text = "trace 1" ∧
      Prod.fst <$> left.receiveAll [0x1d, 0x71, 0x0d] =
        Prod.fst <$> fresh.receiveAll [0x1d, 0x71, 0x0d] := by
  intro fresh left
  have line : left.menu.editor.text = "trace 1" := by decide +kernel
  have cleared : left.menu.clear = fresh.menu.clear := Menu.typedIn_clear fresh.menu _
  have alike := (Console.routes {} {}).2.2.2.2 left fresh rfl rfl cleared rfl
  exact ⟨line, alike [0x1d, 0x71, 0x0d]⟩

end BoardSupervisor
