import CloudMonitor.Config
import CloudMonitor.Lib.Table

/-!
# The four tables

Rows carry the columns some endpoint reads. An instant is a naive UTC
`datetime`: microseconds since 1970-01-01, the resolution `datetime` has.
-/

namespace CloudMonitor

def secondMicros : ℤ := 1000000

def dayMicros : ℤ := 86400000000

/-- `timedelta(hours=n)`. -/
def hours (n : ℤ) : ℤ := n * 3600 * secondMicros

/-- `timedelta.total_seconds()`. -/
def totalSeconds (d : ℤ) : ℚ := d / secondMicros

inductive Role
  | admin
  | clientManager
  deriving DecidableEq, Repr

inductive InstanceStatus
  | running
  | stopped
  | error
  deriving DecidableEq, Repr

inductive AlertType
  | cpuHigh
  | errorDetected
  | longStopped
  deriving DecidableEq, Repr

def Role.value : Role → String
  | .admin => "ADMIN"
  | .clientManager => "CLIENT_MANAGER"

def InstanceStatus.value : InstanceStatus → String
  | .running => "RUNNING"
  | .stopped => "STOPPED"
  | .error => "ERROR"

structure Member where
  id : ℤ
  email : String
  password : String
  name : String
  role : Role
  deriving DecidableEq, Repr

structure Client where
  id : ℤ
  clientName : String
  contractPlan : ContractPlan
  managerId : ℤ
  createdAt : ℤ
  deriving DecidableEq, Repr

structure Instance where
  id : ℤ
  instanceName : String
  region : String
  instanceType : InstanceType
  status : InstanceStatus
  cpuUsage : ℚ
  monthlyCost : ℚ
  clientId : ℤ
  launchedAt : ℤ
  updatedAt : ℤ
  deriving DecidableEq, Repr

structure Alert where
  id : ℤ
  instanceId : ℤ
  alertType : AlertType
  message : String
  isResolved : Bool
  detectedAt : ℤ
  resolvedAt : Option ℤ
  deriving DecidableEq, Repr

instance : Row Member := ⟨Member.id⟩
instance : Row Client := ⟨Client.id⟩
instance : Row Instance := ⟨Instance.id⟩
instance : Row Alert := ⟨Alert.id⟩

@[simp] theorem Member.row_id (m : Member) : Row.id m = m.id := rfl
@[simp] theorem Client.row_id (c : Client) : Row.id c = c.id := rfl
@[simp] theorem Instance.row_id (i : Instance) : Row.id i = i.id := rfl
@[simp] theorem Alert.row_id (a : Alert) : Row.id a = a.id := rfl

structure Database where
  members : Table Member
  clients : Table Client
  instances : Table Instance
  alerts : Table Alert
  deriving DecidableEq

def Database.empty : Database := ⟨∅, ∅, ∅, ∅⟩

end CloudMonitor
