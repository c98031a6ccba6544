import Mathlib.Data.List.AList
import MysqlOperator.Format

set_option autoImplicit false

/-!
# The `MysqlCluster` resource

The fields of the cluster resource, of the Kubernetes values it embeds, and of the
operator's options that defaulting, topology resolution and `Sync` read or write. Go maps
are association lists with distinct keys (`AList`); a nil map and an empty one read
alike in Go and are one value here. A `resource.Quantity` is kept by its decimal form,
so `200m` and `1` stay different quantities with the same `Value()`.
-/

namespace MysqlOperator.Api

/-- `MB`, `GB`: `1 << (10 * iota)` for `iota` = 2, 3. -/
def MB : Int := 2 ^ 20
def GB : Int := 2 ^ 30

/-- `resource.Quantity`, as `mantissa * 10 ^ exponent`. -/
structure Quantity where
  mantissa : Int
  exponent : Int
  deriving DecidableEq, Repr, Inhabited

/-- `Quantity.Value()`: the amount rounded to an integer away from zero, returned as an
`int64`. Only the low 64 bits of the rounded amount are kept, so amounts of `2 ^ 63` or
more wrap around. -/
def Quantity.value (q : Quantity) : Int :=
  let rounded :=
    if 0 ≤ q.exponent then q.mantissa * 10 ^ q.exponent.toNat
    else
      let d : Int := 10 ^ (-q.exponent).toNat
      if 0 ≤ q.mantissa then (q.mantissa + d - 1) / d else -((-q.mantissa + d - 1) / d)
  rounded.bmod (2 ^ 64)

/-- `map[ResourceName]resource.Quantity`. -/
abbrev ResourceList := AList fun _ : String => Quantity

def ResourceCPU : String := "cpu"
def ResourceMemory : String := "memory"
def ResourceStorage : String := "storage"

/-- `ResourceList.Memory()`. On a missing key it returns a pointer to a zero quantity,
never `nil`. -/
def ResourceList.memory (rl : ResourceList) : Quantity :=
  (rl.lookup ResourceMemory).getD ⟨0, 0⟩

structure ResourceRequirements where
  limits : ResourceList
  requests : ResourceList
  deriving DecidableEq, Inhabited

structure LabelSelector where
  matchLabels : AList fun _ : String => String
  deriving DecidableEq, Inhabited

structure PodAffinityTerm where
  labelSelector : Option LabelSelector
  topologyKey : String
  deriving DecidableEq, Inhabited

structure WeightedPodAffinityTerm where
  weight : Int
  podAffinityTerm : PodAffinityTerm
  deriving DecidableEq, Inhabited

structure PodAntiAffinity where
  preferredDuringSchedulingIgnoredDuringExecution : List WeightedPodAffinityTerm
  deriving DecidableEq, Inhabited

structure Affinity where
  podAntiAffinity : Option PodAntiAffinity
  deriving DecidableEq, Inhabited

structure PodSpec where
  imagePullPolicy : String
  resources : ResourceRequirements
  affinity : Affinity
  deriving DecidableEq, Inhabited

structure VolumeSpec where
  accessModes : List String
  resources : ResourceRequirements
  deriving DecidableEq, Inhabited

/-- `MysqlConf`, a `map[string]string` of `my.cnf` settings. -/
abbrev MysqlConf := AList fun _ : String => String

structure ClusterSpec where
  secretName : String
  mysqlVersion : String
  mysqlConf : MysqlConf
  podSpec : PodSpec
  volumeSpec : VolumeSpec
  deriving DecidableEq, Inhabited

structure ClusterStatus where
  readyNodes : Int
  deriving DecidableEq, Inhabited

structure MysqlCluster where
  name : String
  «namespace» : String
  spec : ClusterSpec
  status : ClusterStatus
  deriving DecidableEq, Inhabited

/-- `options.Options`; the package keeps one, set at start-up, in its variable `opt`. -/
structure Options where
  mysqlImageTag : String
  imagePullPolicy : String
  orchestratorUri : String
  deriving Inhabited

/-- `ClusterSpec.GetOrcUri()` reads the package's options, not the spec. -/
def ClusterSpec.getOrcUri (opt : Options) (_c : ClusterSpec) : String := opt.orchestratorUri

structure InstanceKey where
  hostname : String

/-- `sql.NullInt64`: `int64` is meaningful only when `valid`. -/
structure NullInt64 where
  int64 : Int
  valid : Bool

structure Instance where
  key : InstanceKey
  secondsBehindMaster : NullInt64

/-- The orchestrator client of `orc.NewFromUri(uri)`, by its answers: for `Discover` the
error it returns, if any; for the queries an error text or the value, for the cluster
identifier asked about. -/
structure OrcClient where
  discover : String → Nat → Option String
  master : String → Except String Instance
  clusterOSCReplicas : String → Except String (List Instance)

end MysqlOperator.Api
