import Lumber.Wire
import Lumber.Reader
import Lumber.Frames
import Lumber.Stored
import Lumber.Inflate
import Lumber.Lemmas.Steps
import Lumber.Lemmas.Sound
import Lumber.Lemmas.Complete
import Lumber.Lemmas.Grammar
import Lumber.Theorems.RoundTrip
import Lumber.Theorems.Window
import Lumber.Theorems.Compressed
import Lumber.Theorems.Termination
import Lumber.Theorems.Quine
import Lumber.Theorems.Truncation
import Lumber.Theorems.ReadLoop
import Lumber.Handler
import Lumber.Lemmas.HandlerStep
import Lumber.Lemmas.HandlerInv
import Lumber.Theorems.Ack
import Lumber.Theorems.Shutdown
import Lumber.Theorems.Delivery
import Lumber.Theorems.Progress
import Lumber.Theorems.FlowControl
import Lumber.Theorems.Outcomes
import Lumber.InternalServer
import Lumber.Theorems.InternalServer
import Lumber.Theorems.ServerShutdown
import Lumber.Options
import Lumber.Theorems.Options
