import GpuCluster.Cluster.Kubeconfig
import GpuCluster.Cluster.Listing
import GpuCluster.CommandLine.Run
import GpuCluster.Daemon.Run
import GpuCluster.Main
import GpuCluster.Metrics.Response
import GpuCluster.Simulation.LocalExecutors
import GpuCluster.Simulation.Loops
import GpuCluster.Simulation.Scenario
import GpuCluster.Usage.Account
import GpuCluster.Proofs.Action
import GpuCluster.Proofs.Job.Archive
import GpuCluster.Proofs.Job.Departure
import GpuCluster.Proofs.Job.Queue
import GpuCluster.Proofs.Daemon.Admission
import GpuCluster.Proofs.Daemon.Conservation
import GpuCluster.Proofs.Daemon.Lifecycle
import GpuCluster.Proofs.Daemon.Stranded
import GpuCluster.Proofs.Daemon.Terminal
import GpuCluster.Proofs.Dispatcher.Order
import GpuCluster.Proofs.Executor.Environment
import GpuCluster.Proofs.Executor.Hostfiles
import GpuCluster.Proofs.Reconcile.Reports
import GpuCluster.Proofs.Preemption.Coverage
import GpuCluster.Proofs.Preemption.Interference
import GpuCluster.Proofs.Preemption.Requester
import GpuCluster.Proofs.Preemption.Room
import GpuCluster.Proofs.Preemption.Strategies
import GpuCluster.Proofs.Usage.Credit
import GpuCluster.Proofs.Usage.Integral
import GpuCluster.Proofs.Usage.Staggered
import GpuCluster.Proofs.Quota.Requests
import GpuCluster.Proofs.Telemetry.Gpus
import GpuCluster.Proofs.Telemetry.Identity
import GpuCluster.Proofs.Telemetry.Outage
import GpuCluster.Proofs.Telemetry.Retention
import GpuCluster.Proofs.Cluster.Requests
import GpuCluster.Proofs.Telemetry.Overflow
import GpuCluster.Proofs.Telemetry.CleanUp
import GpuCluster.Proofs.Preemption.Footprint
import GpuCluster.Proofs.Usage.Paging
import GpuCluster.Proofs.Executor.Workers
import GpuCluster.Proofs.Executor.Capture
import GpuCluster.Proofs.Metrics.Response
import GpuCluster.Proofs.Text.Json
import GpuCluster.Proofs.Job.Roster
import GpuCluster.Proofs.Telemetry.Agenda
import GpuCluster.Proofs.Telemetry.OnSchedule
import GpuCluster.Proofs.Usage.Figures
