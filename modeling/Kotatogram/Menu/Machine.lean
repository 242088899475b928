/-
# Menu.Machine — the menu as a state machine

Every entry point of `Ui::Menu` that changes its state is one `Op`; `step` runs it. A
`QAction` property change is `changeActions edit`: the actions take their new properties
(`edit i a` for the entry `a` at `i`, the identity for entries the change does not touch)
and `QAction::changed` runs `actionChanged`. A change to an action no longer in the menu
is the identity edit. `Reachable allowed` is every state a run of allowed operations
reaches from a fresh menu without a fault; `run` executes a list of operations. `demoLayout`
and `pressRun` are the runs the witnesses start from.
-/
import Kotatogram.Menu.Input

namespace Kotatogram.Ui

set_option autoImplicit false

/-- The operations a menu receives. -/
inductive Op where
  | addAction (action : Action) (cursor : QPoint)
  | addSeparator (cursor : QPoint)
  | clearActions
  | changeActions (edit : Nat → Action → Action)
  | setShowSource (source : TriggeredSource)
  | setForceWidth (forceWidth : Int)
  | setChildShown (shown : Bool)
  | handleKeyPress (key : Key) (rightToLeft : Bool)
  | handleMouseMove (p : QPoint)
  | handleMousePress (p : QPoint)
  | handleMouseRelease (p : QPoint)
  | enterEvent (cursor : QPoint)
  | leaveEvent
  | clearSelection
  | clearMouseSelection

/-- The operations that only build and measure the entry list. -/
def Op.IsLayout : Op → Prop
  | .addAction .. | .addSeparator _ | .clearActions | .changeActions _ => True
  | _ => False

/-- The layout operations and `setForceWidth`. -/
def Op.IsSizing : Op → Prop
  | .setForceWidth _ => True
  | op => op.IsLayout

namespace Menu

variable (st : MenuStyle)

/-- One operation. -/
def step (m : Menu) : Op → Except Fault Menu
  | .addAction action cursor => m.addAction st action cursor
  | .addSeparator cursor => m.addSeparator st cursor
  | .clearActions => m.clearActions st
  | .changeActions edit => actionChanged st { m with actions := m.actions.mapIdx edit }
  | .setShowSource source => m.setShowSource st source
  | .setForceWidth forceWidth => pure (m.setForceWidth forceWidth)
  | .setChildShown shown => pure (m.setChildShown shown)
  | .handleKeyPress key rightToLeft => m.handleKeyPress st key rightToLeft
  | .handleMouseMove p => m.handleMouseMove st p
  | .handleMousePress p => m.handleMousePress st p
  | .handleMouseRelease p => m.handleMouseRelease st p
  | .enterEvent cursor => m.enterEventHook st cursor
  | .leaveEvent => m.leaveEventHook st
  | .clearSelection => m.clearSelection st
  | .clearMouseSelection => m.clearMouseSelection st

/-- Operations in order, stopping at the first fault. -/
def run (m : Menu) : List Op → Except Fault Menu
  | [] => pure m
  | op :: ops => m.step st op >>= fun m => run m ops

end Menu

/-- The states a fresh menu reaches by operations satisfying `allowed`. -/
inductive Reachable (st : MenuStyle) (allowed : Op → Prop) : Menu → Prop where
  | create : Reachable st allowed (Menu.create st)
  | step {m m' : Menu} (op : Op) :
      Reachable st allowed m → allowed op → m.step st op = .ok m' → Reachable st allowed m'

/-- A concrete style for witnesses: 8px skips, widths between 100 and 300, 7px per code
unit, 30px toggles. -/
def demoStyle : MenuStyle :=
  { skip := 8, widthMin := 100, widthMax := 300, itemPadding := ⟨10, 5, 10, 5⟩,
    itemStyle := { font := { height := 20, width := fun s => 7 * s.length },
                   maxWidth := fun t => 7 * t.text.length },
    separatorPadding := ⟨0, 4, 0, 4⟩, separatorWidth := 1, arrowWidth := 6, arrowHeight := 10,
    itemToggle := ⟨30, 16⟩, itemToggleOver := ⟨30, 16⟩, itemToggleShift := 0 }

/-- An enabled, plain entry with an ASCII label. -/
def demoAction (label : String) : Action :=
  { text := label.toList.map fun c => c.toNat.toUInt16, isSeparator := false,
    isEnabled := true, isCheckable := false, isChecked := false, hasMenu := false }

/-- Three appends of the demo style: two items around a separator. -/
def demoLayout : List Op :=
  [.addAction (demoAction "Open") ⟨0, 0⟩, .addSeparator ⟨0, 0⟩, .addAction (demoAction "Quit") ⟨0, 0⟩]

theorem demoLayout_isLayout : ∀ op ∈ demoLayout, op.IsLayout := by
  intro op mem
  simp only [demoLayout, List.mem_cons, List.mem_singleton, List.not_mem_nil, or_false] at mem
  rcases mem with rfl | rfl | rfl <;> trivial

/-- The demo layout with its first item pressed by the mouse, 12 pixels into its band. -/
def pressRun : List Op := demoLayout ++ [.handleMousePress ⟨10, 20⟩]

/-- A run of some operations is a run of any larger set of operations. -/
theorem Reachable.mono {st : MenuStyle} {allowed allowed' : Op → Prop}
    (larger : ∀ op, allowed op → allowed' op) {m : Menu} (reach : Reachable st allowed m) :
    Reachable st allowed' m := by
  induction reach with
  | create => exact .create
  | step op _ ok stepped ih => exact .step op ih (larger op ok) stepped

theorem Reachable.run {st : MenuStyle} {allowed : Op → Prop} :
    ∀ {m m' : Menu} (ops : List Op), Reachable st allowed m → (∀ op ∈ ops, allowed op) →
      m.run st ops = .ok m' → Reachable st allowed m'
  | m, m', [], reach, _, ran => by cases ran; exact reach
  | m, m', op :: ops, reach, ok, ran => by
      cases stepped : m.step st op with
      | error e => simp [Menu.run, stepped, bind, Except.bind] at ran
      | ok m₁ =>
          rw [Menu.run, bind_of_ok stepped] at ran
          exact Reachable.run ops (.step op reach (ok op (List.mem_cons_self _ _)) stepped)
            (fun o mem => ok o (List.mem_cons_of_mem _ mem)) ran

end Kotatogram.Ui
