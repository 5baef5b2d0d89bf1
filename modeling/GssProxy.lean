import GssProxy.Proto.Canonical
import GssProxy.Seal.RoundTrip
import GssProxy.Interposer.ExplicitCred
import GssProxy.Workers.Signals
import GssProxy.Client.Retry
import GssProxy.Compat.Delivery
import GssProxy.Session.Initiate
import GssProxy.Session.Messages
import GssProxy.Interposer.LocalOnly
import GssProxy.Daemon.ReadEvents
import GssProxy.Compat.Services
import GssProxy.Daemon.Listen
import GssProxy.Server.Listen
import GssProxy.Compat.ExportForms
import GssProxy.Interposer.HandedOut
import GssProxy.Interposer.MinorStatus
import GssProxy.Compat.Flags
import GssProxy.Compat.Mechs
import GssProxy.Compat.Delegation
import GssProxy.Server.Reuse
import GssProxy.Compat.CredEnvironment
import GssProxy.Client.AcquireCred
import GssProxy.Interposer.MechQueries
import GssProxy.Interposer.ContextFrame
import GssProxy.Interposer.NameConversion
import GssProxy.Daemon.SafeIo
import GssProxy.Interposer.NameCopy
import GssProxy.Interposer.Localname
import GssProxy.Workers.Order
import GssProxy.Daemon.SyncCreds
import GssProxy.Daemon.IndicateMechs
import GssProxy.Interposer.SpecialSets
import GssProxy.Daemon.UnixCreds
import GssProxy.Interposer.StoredCreds
import GssProxy.Interposer.SpecialThreads
import GssProxy.Workers.ThreadLists
import GssProxy.Workers.Shutdown
import GssProxy.Compat.Transparency
