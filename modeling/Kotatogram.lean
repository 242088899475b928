import Kotatogram.Menu.Text
import Kotatogram.Menu.Accelerator
import Kotatogram.Menu.Basic
import Kotatogram.Menu.Selection
import Kotatogram.Menu.Layout
import Kotatogram.Menu.Paint
import Kotatogram.Menu.Input
import Kotatogram.Menu.Machine
import Kotatogram.Menu.Scan
import Kotatogram.Menu.IndexSafety
import Kotatogram.Menu.Trigger
import Kotatogram.Menu.Width
import Kotatogram.Menu.Cache
import Kotatogram.Menu.Clip
import Kotatogram.Menu.HitTest
import Kotatogram.Menu.Navigation
import Kotatogram.Menu.Faults
import Kotatogram.Menu.Hover
import Kotatogram.Menu.Toggle
import Kotatogram.Settings.Json
import Kotatogram.Settings.Manager
import Kotatogram.Settings.Writer
import Kotatogram.Platform.SystemMenu
import Kotatogram.Platform.WindowHelper
import Kotatogram.Platform.Margins
import Kotatogram.Platform.Popup
import Kotatogram.Platform.NativeFilter
