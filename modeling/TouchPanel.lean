import TouchPanel.Dialog.Accept
import TouchPanel.Display.Screen
import TouchPanel.Font.Psf
import TouchPanel.Style.Json
import TouchPanel.Tree
import TouchPanel.Proofs.Dialog.Exec
import TouchPanel.Proofs.Dialog.Straddle
import TouchPanel.Proofs.Tree.Redraw
import TouchPanel.Proofs.Display.Incremental
import TouchPanel.Proofs.Step.Still
import TouchPanel.Proofs.Dialog.History
import TouchPanel.Proofs.Display.PixelMap
import TouchPanel.Proofs.Tree.Unfailing
import TouchPanel.Proofs.Dialog.Operation
import TouchPanel.Proofs.Dialog.Outcome
import TouchPanel.Proofs.Step.Respects
import TouchPanel.Proofs.Display.AllOrNothing
import TouchPanel.Proofs.Display.Presented
import TouchPanel.Proofs.Dialog.Run
import TouchPanel.Proofs.Dialog.Answerable
import TouchPanel.Proofs.Display.Confined
import TouchPanel.Proofs.Dialog.Layout
import TouchPanel.Proofs.Display.TextPixels
import TouchPanel.Proofs.Input.Hidden
import TouchPanel.Proofs.Assembly.Window
import TouchPanel.Proofs.Assembly.Dialog
import TouchPanel.Proofs.Display.Border
import TouchPanel.Proofs.Dialog.Rebinding
import TouchPanel.Proofs.Input.Machine
import TouchPanel.Proofs.Display.Order
import TouchPanel.Proofs.Tree.Shift
import TouchPanel.Proofs.Font.Loading
import TouchPanel.Proofs.Color
import TouchPanel.Proofs.Display.Anywhere
import TouchPanel.Proofs.Geometry.Clipping
import TouchPanel.Proofs.Font.WellFormed
import TouchPanel.Proofs.Style
import TouchPanel.Proofs.Display.Rearranged
import TouchPanel.Proofs.Geometry.Inset
