import ChromiumContent.InputEventRouter.Router
import ChromiumContent.InputEventRouter.TouchSequence
import ChromiumContent.InputEventRouter.Delivery
import ChromiumContent.Base.CommandLine
import ChromiumContent.Compositor.Settings
import ChromiumContent.Compositor.GpuMemoryPolicy
import ChromiumContent.Compositor.OutputSurface
import ChromiumContent.Compositor.AsyncRequests
import ChromiumContent.SanityChecker.Checker
import ChromiumContent.SanityChecker.Trace
import ChromiumContent.SanityChecker.FrameLifecycle
import ChromiumContent.SanityChecker.Navigation
import ChromiumContent.SanityChecker.MediaPlayers
import ChromiumContent.SanityChecker.Reachable
import ChromiumContent.SanityChecker.CurrentHosts
import ChromiumContent.SanityChecker.Interleaving
import ChromiumContent.CacheStorage.Context
