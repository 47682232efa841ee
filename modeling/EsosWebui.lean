import EsosWebui.Scst.Injection
import EsosWebui.Scst.Masking
import EsosWebui.Scst.DeviceGroups
import EsosWebui.Scst.UnknownBlocks
import EsosWebui.Raid.SymmetricModes
import EsosWebui.Raid.ReadOnly
import EsosWebui.Raid.PeerClaims
import EsosWebui.Raid.ArrayMembers
import EsosWebui.Ssh.ManagerRuns
import EsosWebui.Lvm.ExitCodes
import EsosWebui.Alua.PlanSafety
import EsosWebui.Raid.MdOutcomes
import EsosWebui.Scst.Interleavings
import EsosWebui.Scst.Removals
import EsosWebui.Scst.PreflightAgreement
import EsosWebui.Esos.GuardAgreement
import EsosWebui.Fs.ClusterChecks
import EsosWebui.Raid.SymmetryVerdict
import EsosWebui.Fs.FreeBackends
import EsosWebui.Raid.VerifiedCleanup
import EsosWebui.Users.Revocation
import EsosWebui.Users.Administrators
import EsosWebui.Cluster.Requests
import EsosWebui.Esos.ReleaseCache
import EsosWebui.Raid.SingleNodeChanges
import EsosWebui.Lvm.PvCreation
import EsosWebui.Lvm.PlannedPaths
import EsosWebui.Lvm.LostProbes
import EsosWebui.Cache.StorageChecks
import EsosWebui.Esos.StackedDevices
import EsosWebui.Scst.ClusterMutations
import EsosWebui.Deployment.JobStatus
import EsosWebui.Deployment.InstallChecks
import EsosWebui.Ldap.FilterShape
import EsosWebui.SystemConfig.NetworkReformat
import EsosWebui.Esos.HardwareVolumes
import EsosWebui.Raid.VolumeCreation
import EsosWebui.Raid.MdadmConf
import EsosWebui.Raid.CreateRequests
import EsosWebui.Raid.OrderFallback
import EsosWebui.Raid.BootImages
import EsosWebui.Fs.FstabUpdates
import EsosWebui.Fs.VdiskFiles
import EsosWebui.SystemConfig.ConsoleKeymap
import EsosWebui.Users.AccessRules
import EsosWebui.Users.NameLoops
import EsosWebui.Users.HeaderAuth
import EsosWebui.Lvm.ScstBinding
import EsosWebui.Fs.MountsSeen
import EsosWebui.Cluster.StorageConsistency
import EsosWebui.Ssh.SshPool
import EsosWebui.Monitoring.MetricsStore
import EsosWebui.Esos.LatestTag
import EsosWebui.SystemConfig.UserCreation
import EsosWebui.SystemConfig.TimeServers
import EsosWebui.Deployment.PackageTransfer
import EsosWebui.Raid.Operations
import EsosWebui.Raid.WipedTypes
import EsosWebui.Cache.SingleFlight
import EsosWebui.Ssh.CommandOutput
import EsosWebui.Ssh.RemoteQuoting
import EsosWebui.Monitoring.SessionGrace
import EsosWebui.Monitoring.PerfAgentConfig
import EsosWebui.Users.AuthProviders
