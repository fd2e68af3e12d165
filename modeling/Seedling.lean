import Seedling.Barrier.Hooks
import Seedling.Apps.Independence
import Seedling.Reconcile.Forwarding
import Seedling.Operations.Dispatch
import Seedling.Operations.Phases
import Seedling.Reconcile.Install
import Seedling.Interface.Keys
import Seedling.Interface.Canopy
import Seedling.Volumes.WritePaths
import Seedling.Volumes.Sight
import Seedling.Volumes.Seeding
import Seedling.Barrier.ActionLogStore
import Seedling.Barrier.Restarts
import Seedling.Barrier.Matching
import Seedling.Barrier.Minting
import Seedling.Apps.Reconstruction
import Seedling.Container.Drift
import Seedling.Operations.Cancellation
import Seedling.Operations.Fires
import Seedling.Reconcile.ObserveFailures
import Seedling.Reconcile.Sweep
import Seedling.Reconcile.Awaited
import Seedling.Reconcile.Rotation
import Seedling.Reconcile.AnonymousVolumes
import Seedling.Reconcile.DynamicCleanup
import Seedling.Proxy.Listeners
import Seedling.Reconcile.CrashLoops
import Seedling.Instances.Histories
import Seedling.Reconcile.Backends
import Seedling.Reconcile.RetryGate
import Seedling.Runtime.Faults
import Seedling.Tls.Ladder
import Seedling.Definition.Concatenation
import Seedling.Tls.Policies
import Seedling.Reconcile.Upstreams
