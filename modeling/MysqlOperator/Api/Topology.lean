import MysqlOperator.Api.Types

set_option autoImplicit false

/-!
# Resource names, member hosts, and the topology resolver

Every resource of a cluster is named `<cluster>-mysql`, and member `p` is reached at
`<cluster>-mysql-<p>.<cluster>-mysql`. The master is member 0 unless the orchestrator
names another; a healthy slave is the last ready member unless the orchestrator lists a
replica lagging at most five seconds, the last such replica of its answer winning.
-/

namespace MysqlOperator.Api

/-- The `ResourceName` aliases. -/
def HeadlessSVC : String := "headless"
def StatefulSet : String := "mysql"
def ConfigMap : String := "config-files"
def BackupCronJob : String := "backup-cron"

/-- `GetNameForResource(name, clusterName)`: the same name whatever the resource. -/
def getNameForResource (_name clusterName : String) : String := clusterName ++ "-mysql"

/-- `MysqlCluster.GetNameForResource`; both arms of its switch make the same call. -/
def MysqlCluster.getNameForResource (c : MysqlCluster) (name : String) : String :=
  MysqlOperator.Api.getNameForResource name c.name

@[simp] theorem MysqlCluster.getNameForResource_eq (c : MysqlCluster) (name : String) :
    c.getNameForResource name = c.name ++ "-mysql" := rfl

/-- `MysqlCluster.GetPodHostName(p)`. -/
def MysqlCluster.getPodHostName (c : MysqlCluster) (p : Int) : String :=
  let pod := c.getNameForResource StatefulSet ++ "-" ++ formatInt p
  pod ++ "." ++ c.getNameForResource HeadlessSVC

example :
    (⟨"db", "prod", default, ⟨3⟩⟩ : MysqlCluster).getPodHostName 2 = "db-mysql-2.db-mysql" :=
  rfl

/-- The test of the `GetHealtySlaveHost` loop: a lag that is known and at most 5 s. -/
def Instance.healthy (r : Instance) : Bool :=
  r.secondsBehindMaster.valid && decide (r.secondsBehindMaster.int64 ≤ 5)

/-- `MysqlCluster.GetHealtySlaveHost`, with `client` the orchestrator behind the options'
URI. -/
def MysqlCluster.getHealtySlaveHost (opt : Options) (client : OrcClient) (c : MysqlCluster) :
    String :=
  if c.status.readyNodes < 1 then c.getPodHostName 0
  else
    let host := c.getPodHostName (c.status.readyNodes - 1)
    if c.spec.getOrcUri opt ≠ "" then
      match client.clusterOSCReplicas c.name with
      | .error _ => host
      | .ok replicas =>
        replicas.foldl (fun host r => if r.healthy then r.key.hostname else host) host
    else host

/-- `MysqlCluster.GetMasterHost`. -/
def MysqlCluster.getMasterHost (opt : Options) (client : OrcClient) (c : MysqlCluster) :
    String :=
  let masterHost := c.getPodHostName 0
  if c.spec.getOrcUri opt ≠ "" then
    let orcClusterName := c.name ++ "." ++ c.«namespace»
    match client.master orcClusterName with
    | .ok inst => inst.key.hostname
    | .error _ => masterHost
  else masterHost

theorem foldl_overwrite_eq {α β : Type} (p : α → Bool) (f : α → β) (l : List α) (b : β) :
    l.foldl (fun acc x => if p x then f x else acc) b = ((l.filter p).getLast?.map f).getD b := by
  induction l generalizing b with
  | nil => rfl
  | cons x l ih =>
    rw [List.foldl_cons, ih, List.filter_cons]
    cases hx : p x
    · rfl
    · cases h : (l.filter p).getLast? <;> simp [List.getLast?_cons, h]

/-- `GetHealtySlaveHost` with its loop read as "the last healthy replica". -/
theorem MysqlCluster.getHealtySlaveHost_eq (opt : Options) (client : OrcClient)
    (c : MysqlCluster) :
    c.getHealtySlaveHost opt client =
      if c.status.readyNodes < 1 then c.getPodHostName 0
      else
        let host := c.getPodHostName (c.status.readyNodes - 1)
        if c.spec.getOrcUri opt = "" then host
        else
          match client.clusterOSCReplicas c.name with
          | .error _ => host
          | .ok replicas =>
            (((replicas.filter Instance.healthy).getLast?).map (·.key.hostname)).getD host := by
  unfold MysqlCluster.getHealtySlaveHost
  split_ifs <;> first | rfl | contradiction | (split <;> simp only [foldl_overwrite_eq])

/-- An orchestrator that echoes the cluster identifier it is asked about: as the master's
host, and as the host of a single replica that is in sync. -/
def echoClient : OrcClient where
  discover _ _ := none
  master id := .ok ⟨⟨id⟩, ⟨0, true⟩⟩
  clusterOSCReplicas id := .ok [⟨⟨id⟩, ⟨0, true⟩⟩]

/-- The slave host is a ready member's host, or that of a replica the orchestrator
reported with a known lag of at most 5 s: never a lagging or unknown one. -/
theorem MysqlCluster.getHealtySlaveHost_cases (opt : Options) (client : OrcClient)
    (c : MysqlCluster) :
    c.getHealtySlaveHost opt client = c.getPodHostName (max (c.status.readyNodes - 1) 0) ∨
      ∃ replicas r, client.clusterOSCReplicas c.name = .ok replicas ∧ r ∈ replicas ∧
        r.healthy ∧ c.getHealtySlaveHost opt client = r.key.hostname := by
  have hfallback (h : 1 ≤ c.status.readyNodes) :
      c.getPodHostName (c.status.readyNodes - 1) =
        c.getPodHostName (max (c.status.readyNodes - 1) 0) := by
    rw [max_eq_left (by omega)]
  rw [getHealtySlaveHost_eq]
  split_ifs with hn hu
  · exact .inl (by rw [max_eq_right (by omega)])
  · exact .inl (hfallback (by omega))
  · split
    · exact .inl (hfallback (by omega))
    · rename_i replicas hq
      cases hl : (replicas.filter Instance.healthy).getLast? with
      | none => exact .inl (by simpa using hfallback (by omega))
      | some r =>
        have hm := List.mem_filter.1 (List.mem_of_getLast?_eq_some hl)
        exact .inr ⟨replicas, r, hq, hm.1, hm.2, by simp⟩

/-- The two resolvers identify the cluster differently to the orchestrator:
`GetMasterHost` asks about `<name>.<namespace>`, `GetHealtySlaveHost` about `<name>`. -/
theorem MysqlCluster.orc_identifiers_differ (opt : Options) (c : MysqlCluster)
    (huri : opt.orchestratorUri ≠ "") (hready : 1 ≤ c.status.readyNodes) :
    c.getMasterHost opt echoClient = c.name ++ "." ++ c.«namespace» ∧
      c.getHealtySlaveHost opt echoClient = c.name ∧
      c.name ++ "." ++ c.«namespace» ≠ c.name := by
  refine ⟨by simp [getMasterHost, ClusterSpec.getOrcUri, huri, echoClient], ?_, fun h => ?_⟩
  · rw [getHealtySlaveHost_eq]
    simp [ClusterSpec.getOrcUri, huri, echoClient, Instance.healthy, not_lt.2 hready]
  · have hlen := congrArg String.length h
    have hdot : ".".length = 1 := rfl
    simp only [String.length_append, hdot] at hlen
    omega

theorem MysqlCluster.orc_identifiers_differ_at :
    (⟨"", "", "http://orchestrator"⟩ : Options).orchestratorUri ≠ "" ∧
      1 ≤ (⟨"db", "prod", default, ⟨1⟩⟩ : MysqlCluster).status.readyNodes ∧
      (⟨"db", "prod", default, ⟨1⟩⟩ : MysqlCluster).getMasterHost
          ⟨"", "", "http://orchestrator"⟩ echoClient = "db" ++ "." ++ "prod" ∧
      (⟨"db", "prod", default, ⟨1⟩⟩ : MysqlCluster).getHealtySlaveHost
          ⟨"", "", "http://orchestrator"⟩ echoClient = "db" ∧
      "db" ++ "." ++ "prod" ≠ "db" :=
  ⟨by decide, by decide, MysqlCluster.orc_identifiers_differ _ _ (by decide) (by decide)⟩

end MysqlOperator.Api
