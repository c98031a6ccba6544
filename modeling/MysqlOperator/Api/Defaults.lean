import MysqlOperator.Api.Types

set_option autoImplicit false

/-!
# Defaulting a cluster spec

`MysqlCluster.UpdateDefaults` fills in what the user left unset: the MySQL version and the
pull policy from the options, default pod requests, a soft anti-affinity that spreads the
members over hosts, the two InnoDB sizes derived from the requested memory, and the
volume's access mode and storage request. Each step replaces a value only when it is
unset, so a second run finds nothing to do. The pod and volume steps test the requests
but replace the whole `Resources` record.
-/

namespace MysqlOperator.Api

variable {α : Type}

/-- `if <x is unset> { x = d }`, the shape of every defaulting step. -/
def withDefault (unset : α → Prop) [DecidablePred unset] (d x : α) : α :=
  if unset x then d else x

section WithDefault

variable {u : α → Prop} [DecidablePred u] {d x : α}

@[simp] theorem withDefault_of_not (h : ¬u x) : withDefault u d x = x := if_neg h

theorem withDefault_of_unset (h : u x) : withDefault u d x = d := if_pos h

@[simp] theorem withDefault_idem : withDefault u d (withDefault u d x) = withDefault u d x := by
  unfold withDefault; split_ifs <;> rfl

theorem withDefault_withDefault_of_set {e : α} (hd : ¬u d) :
    withDefault u e (withDefault u d x) = withDefault u d x := by
  by_cases hx : u x
  · rw [withDefault_of_unset hx, withDefault_of_not hd]
  · simp [hx]

end WithDefault

/-- `resource.MustParse(resourceRequestCPU)`, that is `200m`. -/
def resourceRequestCPU : Quantity := ⟨200, -3⟩

/-- `resource.MustParse(resourceRequestMemory)`, that is `1Gi`. -/
def resourceRequestMemory : Quantity := ⟨2 ^ 30, 0⟩

/-- `resource.MustParse(resourceStorage)`, that is `1Gi`. -/
def resourceStorage : Quantity := ⟨2 ^ 30, 0⟩

def ReadWriteOnce : String := "ReadWriteOnce"

/-- `MysqlCluster.GetLabels()`. -/
def MysqlCluster.getLabels (c : MysqlCluster) : AList fun _ : String => String :=
  ((∅ : AList fun _ : String => String).insert "mysql_cluster" c.name).insert "app"
    "mysql-operator"

/-- The requirements `PodSpec.UpdateDefaults` writes: requests only, no limits. -/
def defaultPodResources : ResourceRequirements :=
  ⟨∅, ((∅ : ResourceList).insert ResourceCPU resourceRequestCPU).insert ResourceMemory
    resourceRequestMemory⟩

/-- The requirements `VolumeSpec.UpdateDefaults` writes: requests only, no limits. -/
def defaultVolumeResources : ResourceRequirements :=
  ⟨∅, (∅ : ResourceList).insert ResourceStorage resourceStorage⟩

/-- One preferred term of weight 100 on the host name, over the cluster's labels. -/
def defaultAntiAffinity (cluster : MysqlCluster) : PodAntiAffinity :=
  ⟨[⟨100, ⟨some ⟨cluster.getLabels⟩, "kubernetes.io/hostname"⟩⟩]⟩

/-- What `PodSpec.UpdateDefaults` writes in place. -/
def PodSpec.withDefaults (opt : Options) (cluster : MysqlCluster) (ps : PodSpec) : PodSpec :=
  { ps with
    imagePullPolicy := withDefault (· = "") opt.imagePullPolicy ps.imagePullPolicy
    resources := withDefault (·.requests.entries = []) defaultPodResources ps.resources
    affinity := { ps.affinity with
      podAntiAffinity := withDefault (· = none) (some (defaultAntiAffinity cluster))
        ps.affinity.podAntiAffinity } }

/-- `PodSpec.UpdateDefaults`: the defaults, and a `nil` error. -/
def PodSpec.updateDefaults (opt : Options) (cluster : MysqlCluster) (ps : PodSpec) :
    Except String PodSpec :=
  .ok (ps.withDefaults opt cluster)

/-- What `VolumeSpec.UpdateDefaults` writes in place. -/
def VolumeSpec.withDefaults (vs : VolumeSpec) : VolumeSpec :=
  { vs with
    accessModes := withDefault (· = []) [ReadWriteOnce] vs.accessModes
    resources := withDefault (·.requests.entries = []) defaultVolumeResources vs.resources }

/-- `VolumeSpec.UpdateDefaults`: the defaults, and a `nil` error. -/
def VolumeSpec.updateDefaults (vs : VolumeSpec) : Except String VolumeSpec :=
  .ok vs.withDefaults

@[simp] theorem PodSpec.withDefaults_withDefaults (opt : Options) (cluster cluster' : MysqlCluster)
    (ps : PodSpec) :
    (ps.withDefaults opt cluster).withDefaults opt cluster' = ps.withDefaults opt cluster := by
  have h := withDefault_withDefault_of_set (u := (· = none))
    (e := some (defaultAntiAffinity cluster')) (x := ps.affinity.podAntiAffinity)
    (Option.some_ne_none (defaultAntiAffinity cluster))
  simp only [PodSpec.withDefaults, withDefault_idem, h]

@[simp] theorem VolumeSpec.withDefaults_withDefaults (vs : VolumeSpec) :
    vs.withDefaults.withDefaults = vs.withDefaults := by
  simp only [VolumeSpec.withDefaults, withDefault_idem]

/-- The `innodb-buffer-pool-size` tier: 128 MiB below 1 GiB of memory, half of it up to
4 GiB, three quarters above. The products are taken in `float64` and truncated, as
`int64(float64(mem.Value()) * 0.5)` does. -/
def innodbBufferPoolSize (mem : Int) : Int :=
  if mem < GB then 128 * MB
  else if mem ≤ 4 * GB then ((Float.ofInt mem * 0.5).toUInt64.toNat : Int)
  else ((Float.ofInt mem * 0.75).toUInt64.toNat : Int)

/-- The `innodb-log-file-size` tier, with the source's constants. -/
def innodbLogFileSize (mem : Int) : Int :=
  if mem < GB then 48 * MB
  else if mem ≤ 4 * GB then 128 * MB
  else if mem ≤ 8 * GB then 512 * GB
  else if mem ≤ 16 * GB then 1 * GB
  else 2 * GB

/-- `if _, ok := c.MysqlConf[key]; !ok { c.MysqlConf[key] = value }`. -/
def setIfAbsent (key value : String) (conf : MysqlConf) : MysqlConf :=
  if key ∈ conf then conf else conf.insert key value

/-- Both InnoDB sizes, each written only where absent, for the requested memory `mem`.
`Memory()` is never `nil`, so both are always written when absent. -/
def innodbDefaults (mem : Int) (conf : MysqlConf) : MysqlConf :=
  conf
    |> setIfAbsent "innodb-buffer-pool-size" (formatInt (innodbBufferPoolSize mem))
    |> setIfAbsent "innodb-log-file-size" (formatInt (innodbLogFileSize mem))

/-- What `ClusterSpec.UpdateDefaults` writes in place. The sizes read the requests as
the pod step left them. -/
def ClusterSpec.withDefaults (opt : Options) (cluster : MysqlCluster) (c : ClusterSpec) :
    ClusterSpec :=
  let podSpec := c.podSpec.withDefaults opt cluster
  { c with
    mysqlVersion := withDefault (· = "") opt.mysqlImageTag c.mysqlVersion
    podSpec := podSpec
    mysqlConf := innodbDefaults podSpec.resources.requests.memory.value c.mysqlConf
    volumeSpec := c.volumeSpec.withDefaults }

/-- `ClusterSpec.UpdateDefaults`. The `make` of an empty `MysqlConf` only makes a nil map
writable and is not modelled. -/
def ClusterSpec.updateDefaults (opt : Options) (cluster : MysqlCluster) (c : ClusterSpec) :
    Except String ClusterSpec := do
  let c := { c with mysqlVersion := withDefault (· = "") opt.mysqlImageTag c.mysqlVersion }
  let c := { c with podSpec := ← c.podSpec.updateDefaults opt cluster }
  let c := { c with
    mysqlConf := innodbDefaults c.podSpec.resources.requests.memory.value c.mysqlConf }
  return { c with volumeSpec := ← c.volumeSpec.updateDefaults }

/-- `MysqlCluster.UpdateDefaults`: the spec's defaults, the cluster itself supplying the
labels. -/
def MysqlCluster.updateDefaults (opt : Options) (c : MysqlCluster) :
    Except String MysqlCluster := do
  return { c with spec := ← c.spec.updateDefaults opt c }

theorem ClusterSpec.updateDefaults_eq (opt : Options) (cluster : MysqlCluster) (c : ClusterSpec) :
    c.updateDefaults opt cluster = .ok (c.withDefaults opt cluster) := rfl

theorem MysqlCluster.updateDefaults_eq (opt : Options) (c : MysqlCluster) :
    c.updateDefaults opt = .ok { c with spec := c.spec.withDefaults opt c } := rfl

section SetIfAbsent

variable {key value k : String} {conf : MysqlConf}

theorem setIfAbsent_of_mem (h : key ∈ conf) : setIfAbsent key value conf = conf := if_pos h

theorem mem_setIfAbsent : k ∈ setIfAbsent key value conf ↔ k = key ∨ k ∈ conf := by
  unfold setIfAbsent
  split_ifs with h
  · exact ⟨.inr, by rintro (rfl | hk) <;> assumption⟩
  · exact AList.mem_insert _

theorem lookup_setIfAbsent_of_mem (h : k ∈ conf) :
    (setIfAbsent key value conf).lookup k = conf.lookup k := by
  unfold setIfAbsent
  split_ifs with hkey
  · rfl
  · exact AList.lookup_insert_ne fun e => hkey (e ▸ h)

theorem lookup_setIfAbsent_self (h : key ∉ conf) :
    (setIfAbsent key value conf).lookup key = some value := by
  rw [setIfAbsent, if_neg h, AList.lookup_insert]

end SetIfAbsent

section InnodbDefaults

variable {m m' : Int} {k : String} {conf : MysqlConf}

theorem mem_innodbDefaults : k ∈ innodbDefaults m conf ↔
    k = "innodb-log-file-size" ∨ k = "innodb-buffer-pool-size" ∨ k ∈ conf := by
  simp only [innodbDefaults, mem_setIfAbsent]

theorem lookup_innodbDefaults_of_mem (h : k ∈ conf) :
    (innodbDefaults m conf).lookup k = conf.lookup k := by
  rw [innodbDefaults, lookup_setIfAbsent_of_mem (mem_setIfAbsent.2 (.inr h)),
    lookup_setIfAbsent_of_mem h]

@[simp] theorem innodbDefaults_innodbDefaults :
    innodbDefaults m' (innodbDefaults m conf) = innodbDefaults m conf := by
  have hlog : "innodb-log-file-size" ∈ innodbDefaults m conf := mem_innodbDefaults.2 (.inl rfl)
  have hbuf : "innodb-buffer-pool-size" ∈ innodbDefaults m conf :=
    mem_innodbDefaults.2 (.inr (.inl rfl))
  show setIfAbsent _ _ (setIfAbsent _ _ (innodbDefaults m conf)) = _
  rw [setIfAbsent_of_mem hbuf, setIfAbsent_of_mem hlog]

theorem lookup_innodbDefaults_logFileSize (h : "innodb-log-file-size" ∉ conf) :
    (innodbDefaults m conf).lookup "innodb-log-file-size" =
      some (formatInt (innodbLogFileSize m)) := by
  refine lookup_setIfAbsent_self fun hmem => ?_
  rcases mem_setIfAbsent.1 hmem with he | hc
  · exact absurd he (by decide)
  · exact h hc

end InnodbDefaults

@[simp] theorem ClusterSpec.withDefaults_withDefaults (opt : Options)
    (cluster cluster' : MysqlCluster) (c : ClusterSpec) :
    (c.withDefaults opt cluster).withDefaults opt cluster' = c.withDefaults opt cluster := by
  simp only [ClusterSpec.withDefaults, withDefault_idem, PodSpec.withDefaults_withDefaults,
    VolumeSpec.withDefaults_withDefaults, innodbDefaults_innodbDefaults]

/-- A second pass of `UpdateDefaults` returns the cluster the first pass returned. -/
theorem MysqlCluster.updateDefaults_idem (opt : Options) (c : MysqlCluster) :
    ∃ c1, c.updateDefaults opt = .ok c1 ∧ c1.updateDefaults opt = .ok c1 :=
  ⟨_, MysqlCluster.updateDefaults_eq opt c, by
    rw [MysqlCluster.updateDefaults_eq, ClusterSpec.withDefaults_withDefaults]⟩

/-- Both InnoDB sizes are there after a pass, whatever the requests: `Memory()` of requests
without memory is a zero quantity, never `nil`. -/
theorem ClusterSpec.updateDefaults_innodb_keys (opt : Options) (cluster : MysqlCluster)
    (c : ClusterSpec) :
    ∃ c1, c.updateDefaults opt cluster = .ok c1 ∧
      "innodb-buffer-pool-size" ∈ c1.mysqlConf ∧ "innodb-log-file-size" ∈ c1.mysqlConf :=
  ⟨_, ClusterSpec.updateDefaults_eq _ _ _, mem_innodbDefaults.2 (.inr (.inl rfl)),
    mem_innodbDefaults.2 (.inl rfl)⟩

/-- `s'` keeps every field that is set in `s`, and has no `my.cnf` key beyond those of
`s` but the two InnoDB sizes. Limits are kept only together with their requests. -/
structure KeepsSetFields (s s' : ClusterSpec) : Prop where
  mysqlVersion : s.mysqlVersion ≠ "" → s'.mysqlVersion = s.mysqlVersion
  imagePullPolicy : s.podSpec.imagePullPolicy ≠ "" →
    s'.podSpec.imagePullPolicy = s.podSpec.imagePullPolicy
  podResources : s.podSpec.resources.requests.entries ≠ [] →
    s'.podSpec.resources = s.podSpec.resources
  podAntiAffinity : s.podSpec.affinity.podAntiAffinity ≠ none →
    s'.podSpec.affinity.podAntiAffinity = s.podSpec.affinity.podAntiAffinity
  accessModes : s.volumeSpec.accessModes ≠ [] →
    s'.volumeSpec.accessModes = s.volumeSpec.accessModes
  volumeResources : s.volumeSpec.resources.requests.entries ≠ [] →
    s'.volumeSpec.resources = s.volumeSpec.resources
  mysqlConf : ∀ k v, s.mysqlConf.lookup k = some v → s'.mysqlConf.lookup k = some v
  newKeys : ∀ k ∈ s'.mysqlConf,
    k ∈ s.mysqlConf ∨ k = "innodb-buffer-pool-size" ∨ k = "innodb-log-file-size"

theorem ClusterSpec.keepsSetFields_withDefaults (opt : Options) (cluster : MysqlCluster)
    (s : ClusterSpec) : KeepsSetFields s (s.withDefaults opt cluster) where
  mysqlVersion := withDefault_of_not (u := (· = ""))
  imagePullPolicy := withDefault_of_not (u := (· = ""))
  podResources :=
    withDefault_of_not (u := fun r : ResourceRequirements => r.requests.entries = [])
  podAntiAffinity := withDefault_of_not (u := (· = none))
  accessModes := withDefault_of_not (u := fun l : List String => l = [])
  volumeResources :=
    withDefault_of_not (u := fun r : ResourceRequirements => r.requests.entries = [])
  mysqlConf k v h := by
    rw [← h]
    exact lookup_innodbDefaults_of_mem (AList.lookup_isSome.1 (by simp [h]))
  newKeys k hk := by
    rcases mem_innodbDefaults.1 hk with h | h | h <;> simp [h]

/-- `UpdateDefaults` returns `nil` and keeps every field that is set. -/
theorem MysqlCluster.updateDefaults_keepsSetFields (opt : Options) (c : MysqlCluster) :
    ∃ c1, c.updateDefaults opt = .ok c1 ∧ KeepsSetFields c.spec c1.spec :=
  ⟨_, MysqlCluster.updateDefaults_eq opt c, c.spec.keepsSetFields_withDefaults opt c⟩

/-- Limits given without requests do not survive: the pod and volume steps write a
requirements record that has none. -/
theorem MysqlCluster.updateDefaults_drops_limits (opt : Options) (c : MysqlCluster)
    (podLimits volumeLimits : ResourceList) :
    ∃ c1, MysqlCluster.updateDefaults opt
        { c with spec.podSpec.resources := ⟨podLimits, ∅⟩,
                 spec.volumeSpec.resources := ⟨volumeLimits, ∅⟩ } = .ok c1 ∧
      c1.spec.podSpec.resources.limits = ∅ ∧ c1.spec.volumeSpec.resources.limits = ∅ :=
  ⟨_, MysqlCluster.updateDefaults_eq _ _, rfl, rfl⟩

/-- At 6 GiB of requested memory the log-file size written is 512 GiB, more than the
1 GiB written at 10 GiB. -/
theorem ClusterSpec.updateDefaults_logFileSize_six_gib (opt : Options) (cluster : MysqlCluster)
    (c : ClusterSpec) :
    ∃ c1, ClusterSpec.updateDefaults opt cluster
        { c with
          mysqlConf := ∅
          podSpec.resources :=
            ⟨∅, (∅ : ResourceList).insert ResourceMemory ⟨6 * 2 ^ 30, 0⟩⟩ } =
        .ok c1 ∧
      c1.mysqlConf.lookup "innodb-log-file-size" = some "549755813888" ∧
      innodbLogFileSize (10 * GB) < innodbLogFileSize (6 * GB) := by
  refine ⟨_, ClusterSpec.updateDefaults_eq _ _ _, ?_, by decide⟩
  rw [ClusterSpec.withDefaults, lookup_innodbDefaults_logFileSize (by simp)]
  simp only [PodSpec.withDefaults]
  decide

end MysqlOperator.Api
