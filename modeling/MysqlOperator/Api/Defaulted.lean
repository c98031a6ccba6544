import MysqlOperator.Api.Defaults

set_option autoImplicit false

/-!
# Defaulted specs, and the images they name

A spec is defaulted when every field `UpdateDefaults` fills in is set. With options that
give an image tag and a pull policy, one pass always yields a defaulted spec, and a pass
leaves a cluster unchanged exactly when its spec is defaulted already: the defaulted specs
are the fixed points of `UpdateDefaults`. The image getters read the package's options;
`GetMysqlImage` tags the image with the spec's version, which defaulting fills in.
-/

namespace MysqlOperator.Api

/-- Every field `ClusterSpec.UpdateDefaults` fills in is set. -/
@[mk_iff]
structure ClusterSpec.Defaulted (s : ClusterSpec) : Prop where
  mysqlVersion : s.mysqlVersion ≠ ""
  imagePullPolicy : s.podSpec.imagePullPolicy ≠ ""
  podRequests : s.podSpec.resources.requests.entries ≠ []
  podAntiAffinity : s.podSpec.affinity.podAntiAffinity ≠ none
  bufferPoolSize : "innodb-buffer-pool-size" ∈ s.mysqlConf
  logFileSize : "innodb-log-file-size" ∈ s.mysqlConf
  accessModes : s.volumeSpec.accessModes ≠ []
  volumeRequests : s.volumeSpec.resources.requests.entries ≠ []

instance : DecidablePred ClusterSpec.Defaulted :=
  fun s => decidable_of_iff _ (ClusterSpec.defaulted_iff s).symm

section WithDefault

variable {α : Type} {u : α → Prop} [DecidablePred u] {d x : α}

theorem not_unset_withDefault (hd : ¬u d) : ¬u (withDefault u d x) := by
  unfold withDefault; split_ifs <;> assumption

end WithDefault

theorem innodbDefaults_of_mem {m : Int} {conf : MysqlConf}
    (hbuf : "innodb-buffer-pool-size" ∈ conf) (hlog : "innodb-log-file-size" ∈ conf) :
    innodbDefaults m conf = conf := by
  show setIfAbsent _ _ (setIfAbsent _ _ conf) = conf
  rw [setIfAbsent_of_mem hbuf, setIfAbsent_of_mem hlog]

namespace ClusterSpec

variable (opt : Options) (cluster : MysqlCluster) {s : ClusterSpec}

theorem defaulted_withDefaults (htag : opt.mysqlImageTag ≠ "")
    (hpolicy : opt.imagePullPolicy ≠ "") : (s.withDefaults opt cluster).Defaulted where
  mysqlVersion := not_unset_withDefault (u := (· = "")) htag
  imagePullPolicy := not_unset_withDefault (u := (· = "")) hpolicy
  podRequests :=
    not_unset_withDefault (u := fun r : ResourceRequirements => r.requests.entries = [])
      (by decide)
  podAntiAffinity := not_unset_withDefault (u := (· = none)) (x := s.podSpec.affinity.podAntiAffinity)
    (Option.some_ne_none (defaultAntiAffinity cluster))
  bufferPoolSize := mem_innodbDefaults.2 (.inr (.inl rfl))
  logFileSize := mem_innodbDefaults.2 (.inl rfl)
  accessModes := not_unset_withDefault (u := fun l : List String => l = []) (List.cons_ne_nil _ _)
  volumeRequests :=
    not_unset_withDefault (u := fun r : ResourceRequirements => r.requests.entries = [])
      (by decide)

theorem withDefaults_of_defaulted (h : s.Defaulted) : s.withDefaults opt cluster = s := by
  simp [withDefaults, PodSpec.withDefaults, VolumeSpec.withDefaults, withDefault,
    h.mysqlVersion, h.imagePullPolicy, h.podRequests, h.podAntiAffinity, h.accessModes,
    h.volumeRequests, innodbDefaults_of_mem h.bufferPoolSize h.logFileSize]

end ClusterSpec

/-- With options that give an image tag and a pull policy, `UpdateDefaults` returns a
defaulted cluster, whatever the cluster it is given. -/
theorem MysqlCluster.updateDefaults_defaulted (opt : Options) (c : MysqlCluster)
    (htag : opt.mysqlImageTag ≠ "") (hpolicy : opt.imagePullPolicy ≠ "") :
    ∃ c1, c.updateDefaults opt = .ok c1 ∧ c1.spec.Defaulted :=
  ⟨_, MysqlCluster.updateDefaults_eq opt c, ClusterSpec.defaulted_withDefaults opt c htag hpolicy⟩

/-- Options that give an image tag and a pull policy. -/
def taggedOptions : Options := ⟨"5.7", "IfNotPresent", ""⟩

theorem MysqlCluster.updateDefaults_defaulted_tagged :
    taggedOptions.mysqlImageTag ≠ "" ∧ taggedOptions.imagePullPolicy ≠ "" ∧
      ∃ c1, (default : MysqlCluster).updateDefaults taggedOptions = .ok c1 ∧
        c1.spec.Defaulted :=
  ⟨by decide, by decide, MysqlCluster.updateDefaults_defaulted _ _ (by decide) (by decide)⟩

/-- With options that give an image tag and a pull policy, `UpdateDefaults` leaves a
cluster unchanged exactly when its spec is defaulted already. -/
theorem MysqlCluster.updateDefaults_eq_ok_self_iff (opt : Options) (c : MysqlCluster)
    (htag : opt.mysqlImageTag ≠ "") (hpolicy : opt.imagePullPolicy ≠ "") :
    c.updateDefaults opt = .ok c ↔ c.spec.Defaulted := by
  rw [MysqlCluster.updateDefaults_eq, Except.ok.injEq]
  constructor
  · intro h
    have hd := ClusterSpec.defaulted_withDefaults opt c (s := c.spec) htag hpolicy
    rwa [show c.spec.withDefaults opt c = c.spec from congrArg MysqlCluster.spec h] at hd
  · intro h
    rw [ClusterSpec.withDefaults_of_defaulted opt c h]

theorem MysqlCluster.updateDefaults_eq_ok_self_iff_tagged :
    taggedOptions.mysqlImageTag ≠ "" ∧ taggedOptions.imagePullPolicy ≠ "" ∧
      ((default : MysqlCluster).updateDefaults taggedOptions = .ok default ↔
        (default : MysqlCluster).spec.Defaulted) :=
  ⟨by decide, by decide, MysqlCluster.updateDefaults_eq_ok_self_iff _ _ (by decide) (by decide)⟩

/-- The image fields of `options.Options`, read by the getters below only. -/
structure ImageOptions where
  mysqlImage : String
  helperImage : String
  metricsExporterImage : String

/-- `ClusterSpec.GetHelperImage()`. -/
def ClusterSpec.getHelperImage (img : ImageOptions) (_c : ClusterSpec) : String := img.helperImage

/-- `ClusterSpec.GetMetricsExporterImage()`. -/
def ClusterSpec.getMetricsExporterImage (img : ImageOptions) (_c : ClusterSpec) : String :=
  img.metricsExporterImage

/-- `ClusterSpec.GetMysqlImage()`: the options' image, tagged with the spec's version. -/
def ClusterSpec.getMysqlImage (img : ImageOptions) (c : ClusterSpec) : String :=
  img.mysqlImage ++ ":" ++ c.mysqlVersion

end MysqlOperator.Api
