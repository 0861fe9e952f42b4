import LineClock.Main
import LineClock.Session.Play
import LineClock.Proofs.Course.Attribution
import LineClock.Proofs.Course.Backends
import LineClock.Proofs.Course.Registering
import LineClock.Proofs.Course.Preparing
import LineClock.Proofs.Course.Hiding
import LineClock.Proofs.Course.Sharing
import LineClock.Proofs.Engine.SlotWraps
import LineClock.Proofs.Engine.Hooked
import LineClock.Proofs.Engine.Muting
import LineClock.Proofs.Profiler.Intervals
import LineClock.Proofs.Engine.Listing
import LineClock.Proofs.Course.Identities
import LineClock.Proofs.Course.Lifecycle
import LineClock.Proofs.Engine.Hearing
import LineClock.Proofs.Course.Interposing
import LineClock.Proofs.Course.Refusals
import LineClock.Proofs.Course.Charging
import LineClock.Proofs.Course.Aftermath
import LineClock.Proofs.Course.Subscribing
import LineClock.Proofs.Course.Disabling
import LineClock.Proofs.Course.Muffling
import LineClock.Proofs.Course.Carrying
import LineClock.Proofs.Course.Copying
import LineClock.Proofs.Course.Following
import LineClock.Proofs.Course.Independence
import LineClock.Proofs.Course.Scopes
import LineClock.Proofs.Course.Filing
import LineClock.Proofs.Snapshot.Storing
import LineClock.Proofs.Profiler.Searching
import LineClock.Proofs.Registry.Renumbering
import LineClock.Proofs.Course.Failing
import LineClock.Proofs.Course.Cooperating
import LineClock.Proofs.Course.Draining
import LineClock.Proofs.Course.Looping
import LineClock.Proofs.Course.Nesting
import LineClock.Proofs.Course.Layering
import LineClock.Proofs.Engine.Publishing
import LineClock.Proofs.Source.Definitions
import LineClock.Proofs.Report.Tables
import LineClock.Proofs.Code.Repadding
import LineClock.Proofs.Code.References
import LineClock.Proofs.Settings.Overlays
import LineClock.Proofs.Course.Covering
import LineClock.Proofs.Identity
