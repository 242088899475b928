/-
# Settings.Writer — the delayed write of the custom file

`Write()` asks for the custom file to be written: `write(false)` starts the single-shot
`_jsonWriteTimer` unless it runs already, so the requests made while it runs are served by one
write. When the timer fires, `writeTimeout()` writes the current settings. `Finish()` calls
`write(true)`, which stops a running timer and writes at once. `writeCurrentSettings()` writes
nothing when the file does not open for writing.

The ghost flag `requested` marks a `Write()` that no write has served yet.

* `Writer.step_inv`: if the file opens, each operation keeps the timer running exactly while a
  request waits;
* `requests_served`: in runs where the file opens, a write only ever serves a waiting request,
  and `Finish()` serves the one that waits, with the settings as they are then.
-/
import Kotatogram.Settings.Manager

namespace Kotatogram.KotatoSettings

set_option autoImplicit false

/-- The state `Manager::write` works on: whether `_jsonWriteTimer` runs, the font settings of
`cMainFont()` and the others, the custom file, and the ghost flag of a waiting request. -/
structure Writer where
  timerActive : Bool
  settings : FontSettings
  customFile : SettingsFile
  requested : Bool

/-- The entry points that reach `Manager::write`, the timer, and changes of the settings. -/
inductive WriterOp where
  /-- `Write()`. -/
  | write
  /-- `Finish()`; `opens` is whether the custom file opens for writing. -/
  | finish (opens : Bool)
  /-- `_jsonWriteTimer` fires. -/
  | timeout (opens : Bool)
  /-- `cSetMainFont()` and the other setters. -/
  | setSettings (settings : FontSettings)

namespace Writer

/-- `Manager::writeCurrentSettings()`: when the file opens, it stops a running timer
(`writing()`) and writes the current settings, which serves a waiting request. -/
def writeCurrentSettings (w : Writer) (opens : Bool) : Writer :=
  if opens then
    { w with timerActive := false, customFile := KotatoSettings.writeCurrentSettings w.settings,
             requested := false }
  else w

/-- `Manager::writeTimeout()`. -/
def writeTimeout (w : Writer) (opens : Bool) : Writer := w.writeCurrentSettings opens

/-- `Manager::write(force)`; a call without `force` is a request. -/
def write (w : Writer) (force opens : Bool) : Writer :=
  let w := { w with requested := w.requested || !force }
  if force && w.timerActive then ({ w with timerActive := false }).writeTimeout opens
  else if !force && !w.timerActive then { w with timerActive := true }
  else w

/-- The single-shot timer firing: it stops, and `writeTimeout()` runs. -/
def timeout (w : Writer) (opens : Bool) : Writer :=
  if w.timerActive then ({ w with timerActive := false }).writeTimeout opens else w

/-- One operation. -/
def step (w : Writer) : WriterOp → Writer
  | .write => w.write false true
  | .finish opens => w.write true opens
  | .timeout opens => w.timeout opens
  | .setSettings settings => { w with settings }

end Writer

/-- The operations whose write, if any, opens the file. -/
def WriterOp.Opens : WriterOp → Prop
  | .finish opens | .timeout opens => opens = true
  | _ => True

/-- The writer states a manager reaches from an idle start (timer stopped, no request) by
operations satisfying `allowed`. -/
inductive WriterReachable (allowed : WriterOp → Prop) : Writer → Prop where
  | start (settings : FontSettings) (customFile : SettingsFile) :
      WriterReachable allowed ⟨false, settings, customFile, false⟩
  | step {w : Writer} (op : WriterOp) :
      WriterReachable allowed w → allowed op → WriterReachable allowed (w.step op)

namespace Writer

variable {w : Writer}

/-! ## One operation -/

/-- A write that opens the file stops the timer, serves the request, and stores the settings. -/
@[simp] theorem writeCurrentSettings_true (w : Writer) :
    w.writeCurrentSettings true =
      { w with timerActive := false, customFile := KotatoSettings.writeCurrentSettings w.settings,
               requested := false } := rfl

@[simp] theorem writeCurrentSettings_false (w : Writer) : w.writeCurrentSettings false = w := rfl

/-- **One step.** If the file opens, an operation keeps the timer running exactly while a
request waits. -/
theorem step_inv (inv : w.timerActive = w.requested) (op : WriterOp) (opens : op.Opens) :
    (w.step op).timerActive = (w.step op).requested := by
  cases op with
  | write => cases active : w.timerActive <;> simp [step, write, active, ← inv]
  | finish o =>
      cases (show o = true from opens)
      cases active : w.timerActive <;> simp [step, write, writeTimeout, active, ← inv]
  | timeout o =>
      cases (show o = true from opens)
      cases active : w.timerActive <;> simp [step, timeout, writeTimeout, active, ← inv]
  | setSettings settings => exact inv

/-- With no request waiting, and so the timer stopped, no operation writes the file. -/
theorem step_customFile_of_idle (idle : w.requested = false) (inv : w.timerActive = w.requested)
    (op : WriterOp) : (w.step op).customFile = w.customFile := by
  rw [idle] at inv
  cases op with
  | write => simp [step, write, inv]
  | finish o => simp [step, write, inv]
  | timeout o => simp [step, timeout, inv]
  | setSettings settings => rfl

/-- `Finish()` with the file opening serves a waiting request with the current settings. -/
theorem finish_serves (inv : w.timerActive = w.requested) :
    (w.step (.finish true)).requested = false ∧
      (w.requested = true →
        (w.step (.finish true)).customFile = KotatoSettings.writeCurrentSettings w.settings) := by
  cases requested : w.requested <;> simp [step, write, writeTimeout, inv, requested]

end Writer

theorem WriterReachable.inv {w : Writer} (reach : WriterReachable WriterOp.Opens w) :
    w.timerActive = w.requested := by
  induction reach with
  | start => rfl
  | step op _ opens inv => exact Writer.step_inv inv op opens

/-- **Requests are served.** In every run where the custom file opens, the timer runs exactly
while a `Write()` waits; no operation writes the file while none waits; and `Finish()` leaves
none waiting, having written the settings as they are then if one did. -/
theorem requests_served {w : Writer} (reach : WriterReachable WriterOp.Opens w) :
    w.timerActive = w.requested ∧
      (w.requested = false → ∀ op, (w.step op).customFile = w.customFile) ∧
      (w.step (.finish true)).requested = false ∧
      (w.requested = true →
        (w.step (.finish true)).customFile = writeCurrentSettings w.settings) :=
  ⟨reach.inv, fun idle => Writer.step_customFile_of_idle idle reach.inv,
    (Writer.finish_serves reach.inv).1, (Writer.finish_serves reach.inv).2⟩

/-- After `Write()` from an idle start, the timer runs and `Finish()` writes. -/
theorem requests_served_write :
    ((⟨false, ⟨[], [], false, []⟩, .missing, false⟩ : Writer).step .write).requested = true ∧
      (((⟨false, ⟨[], [], false, []⟩, .missing, false⟩ : Writer).step .write).step
        (.finish true)).requested = false :=
  ⟨rfl, (requests_served (.step .write (.start ⟨[], [], false, []⟩ .missing) trivial)).2.2.1⟩

end Kotatogram.KotatoSettings
