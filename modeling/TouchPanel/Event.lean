import TouchPanel.Geometry
import TouchPanel.Text.Quoted

/-!
# Events

What the panel reports while it works, in the order in which it happens. Most events are log
lines with a level; a `Probe` in a widget tree reports the input that reached it instead.
-/

namespace TouchPanel

/-- The weight of a log line. -/
inductive Level where
  | trace
  | debug
  | info
  | warn
  deriving DecidableEq, Repr

/-- The name of a level. -/
def Level.name : Level → String
  | .trace => "TRACE"
  | .debug => "DEBUG"
  | .info => "INFO"
  | .warn => "WARN"

/-- The input that reached a probe. -/
structure ProbeReport where
  id : Int
  /-- The global position of the probe's owner. -/
  origin : Point
  /-- The milliseconds since the step before. -/
  elapsed : UInt32
  /-- Where the pointer is held down, if it is. -/
  pointer : Option Point
  deriving DecidableEq, Repr

/-- Something that happened. -/
inductive Event where
  /-- A display was asked for more columns than its rows have room for. -/
  | widthClamped (width stride fits : Word)
  /-- A window painted its ground and border. -/
  | windowRedrawn (area : Rect)
  /-- A window is about to step a child. -/
  | childStepped (slot : Nat)
  | buttonPressed (caption : String)
  | pressCancelled (caption : String)
  | buttonClicked (caption : String)
  /-- A press in progress was dropped. -/
  | inputReset (caption : String)
  /-- A dialog recorded the outcome with this label. -/
  | dialogResolved (outcome : String)
  /-- A dialog with this many children took over the panel. -/
  | execStarted (children : Nat)
  | probeStepped (report : ProbeReport)
  deriving DecidableEq, Repr

/-- A rectangle as a log line shows it. -/
def Rect.describe (r : Rect) : String :=
  s!"Rect \x7b x: {r.x}, y: {r.y}, width: {r.width}, height: {r.height} \x7d"

/-- The log line of an event, if it is one. -/
def Event.line? : Event → Option (Level × String)
  | .widthClamped width stride fits =>
      some (.warn,
        s!"framebuffer width {width} exceeds stride of {stride} bytes, clamped to {fits}")
  | .windowRedrawn area => some (.debug, "window redraw at " ++ area.describe)
  | .childStepped slot => some (.trace, s!"step child {slot}")
  | .buttonPressed caption => some (.trace, "button " ++ Text.quoted caption ++ " pressed")
  | .pressCancelled caption =>
      some (.trace, "button " ++ Text.quoted caption ++ " press cancelled")
  | .buttonClicked caption => some (.trace, "button " ++ Text.quoted caption ++ " clicked")
  | .inputReset caption =>
      some (.trace, "button " ++ Text.quoted caption ++ " input reset while pressed")
  | .dialogResolved outcome => some (.debug, "dialog resolved to " ++ outcome)
  | .execStarted children => some (.info, s!"modal exec started with {children} children")
  | .probeStepped _ => none

/-- The report in an event, if a probe made it. -/
def Event.report? : Event → Option ProbeReport
  | .probeStepped report => some report
  | _ => none

end TouchPanel
