import CloudMonitor.Access
import CloudMonitor.Api
import CloudMonitor.Atomicity
import CloudMonitor.Auth.Ledger
import CloudMonitor.Auth.Login
import CloudMonitor.Auth.Logout
import CloudMonitor.Auth.Outage
import CloudMonitor.Auth.Password
import CloudMonitor.Auth.RateLimit
import CloudMonitor.Auth.RedisLogin
import CloudMonitor.Auth.Refusals
import CloudMonitor.Auth.RetryAfter
import CloudMonitor.Auth.Revocation
import CloudMonitor.Auth.Tokens
import CloudMonitor.Auth.Workers
import CloudMonitor.Backend
import CloudMonitor.Concurrent.AccountLimit
import CloudMonitor.Concurrent.AddressLimit
import CloudMonitor.Concurrent.Alone
import CloudMonitor.Concurrent.Deletion
import CloudMonitor.Concurrent.Diagnosis
import CloudMonitor.Concurrent.Guarantees
import CloudMonitor.Concurrent.Login
import CloudMonitor.Concurrent.Ownership
import CloudMonitor.Concurrent.Requests
import CloudMonitor.Concurrent.Resolution
import CloudMonitor.Concurrent.Scan
import CloudMonitor.Concurrent.Serial
import CloudMonitor.Concurrent.Status
import CloudMonitor.Concurrent.Tenants
import CloudMonitor.Config
import CloudMonitor.Costs
import CloudMonitor.Dates
import CloudMonitor.Deps
import CloudMonitor.Detections
import CloudMonitor.Effects
import CloudMonitor.Estate
import CloudMonitor.Features
import CloudMonitor.FirstUse
import CloudMonitor.History
import CloudMonitor.Integers
import CloudMonitor.Integrity
import CloudMonitor.Lib.Calendar
import CloudMonitor.Lib.Expiring
import CloudMonitor.Lib.Fallible
import CloudMonitor.Lib.Faults
import CloudMonitor.Lib.Format
import CloudMonitor.Lib.Literals
import CloudMonitor.Lib.Locked
import CloudMonitor.Lib.Months
import CloudMonitor.Lib.Once
import CloudMonitor.Lib.OrderBy
import CloudMonitor.Lib.Paging
import CloudMonitor.Lib.RelyGuarantee
import CloudMonitor.Lib.Rounding
import CloudMonitor.Lib.Schedule
import CloudMonitor.Lib.Share
import CloudMonitor.Lib.SharedRow
import CloudMonitor.Lib.Sharing
import CloudMonitor.Lib.Table
import CloudMonitor.Lib.Tally
import CloudMonitor.Lib.Tracked
import CloudMonitor.Lib.Transcript
import CloudMonitor.Lib.TtlMap
import CloudMonitor.Listings
import CloudMonitor.LongStopped
import CloudMonitor.Models
import CloudMonitor.Noninterference
import CloudMonitor.Pagination
import CloudMonitor.Paging
import CloudMonitor.PlainScan
import CloudMonitor.Registry
import CloudMonitor.Report
import CloudMonitor.Runs
import CloudMonitor.Seed
import CloudMonitor.Services.Alerts
import CloudMonitor.Services.Clients
import CloudMonitor.Services.Diagnosis
import CloudMonitor.Services.DiagnosisCache
import CloudMonitor.Services.Instances
import CloudMonitor.Services.Monitor
import CloudMonitor.Services.MonitorLaws
import CloudMonitor.Session
import CloudMonitor.SlaArithmetic
import CloudMonitor.Startup
import CloudMonitor.StatusUpdate
import CloudMonitor.Store.Counter
import CloudMonitor.Store.Keys
import CloudMonitor.Store.Memory
import CloudMonitor.Store.MemoryMap
import CloudMonitor.Store.Purge
import CloudMonitor.Store.Redis
import CloudMonitor.Store.RedisMap
import CloudMonitor.Store.Threads
import CloudMonitor.Tenancy
import CloudMonitor.Timeline
import CloudMonitor.Uptime
