import MysqlOperator.Cluster.Sync

set_option autoImplicit false

/-!
# Hosts registered with the orchestrator, across clusters

One orchestrator serves every cluster of the operator. The host `Sync` registers for a
member spells out the cluster's name, the member's ordinal and the namespace, and its
first `.` comes right after the ordinal. When cluster names hold no `.`, as the name of
the headless service they prefix may not, the host gives all three back: the Syncs of two
clusters that differ in name or namespace never hand the same host to `Discover`.
-/

namespace MysqlOperator.Cluster

open Api

theorem append_cons_cancel_of_not_mem {α : Type} {c : α} {x y r s : List α} (hx : c ∉ x)
    (hy : c ∉ y) (h : x ++ c :: r = y ++ c :: s) : x = y ∧ r = s := by
  induction x generalizing y with
  | nil =>
    cases y with
    | nil => exact ⟨rfl, (List.cons.inj h).2⟩
    | cons b y => exact absurd (List.mem_cons.2 (.inl (List.cons.inj h).1)) hy
  | cons a x ih =>
    cases y with
    | nil => exact absurd (List.mem_cons.2 (.inl (List.cons.inj h).1.symm)) hx
    | cons b y =>
      obtain ⟨rfl, htail⟩ := List.cons.inj h
      obtain ⟨rfl, rfl⟩ := ih (fun hm => hx (.tail _ hm)) (fun hm => hy (.tail _ hm)) htail
      exact ⟨rfl, rfl⟩

namespace CFactory

theorem getHostForReplica_data (f : CFactory) (no : Int) :
    (f.getHostForReplica no).data =
      (f.cluster.name.data ++ "-mysql".data ++ "-".data ++ (formatInt no).data) ++
        '.' :: ((f.cluster.name.data ++ "-mysql".data) ++ '.' :: f.cluster.«namespace».data) := by
  simp only [getHostForReplica, MysqlCluster.getNameForResource_eq, String.data_append,
    List.append_assoc]
  rfl

theorem eq_of_getHostForReplica_eq {f g : CFactory} {i j : ℕ}
    (hf : '.' ∉ f.cluster.name.toList) (hg : '.' ∉ g.cluster.name.toList)
    (h : f.getHostForReplica i = g.getHostForReplica j) :
    f.cluster.name = g.cluster.name ∧ f.cluster.«namespace» = g.cluster.«namespace» ∧ i = j := by
  have hd := congrArg String.data h
  rw [getHostForReplica_data, getHostForReplica_data] at hd
  have hservice {n : String} (hn : '.' ∉ n.toList) : '.' ∉ n.data ++ "-mysql".data :=
    List.not_mem_append hn (by decide)
  have hpod {n : String} (k : ℕ) (hn : '.' ∉ n.toList) :
      '.' ∉ n.data ++ "-mysql".data ++ "-".data ++ (formatInt k).data :=
    List.not_mem_append (List.not_mem_append (hservice hn) (by decide)) (dot_not_mem_toDigits k)
  obtain ⟨hpods, hrest⟩ := append_cons_cancel_of_not_mem (hpod i hf) (hpod j hg) hd
  obtain ⟨hservices, hns⟩ := append_cons_cancel_of_not_mem (hservice hf) (hservice hg) hrest
  have hname : f.cluster.name = g.cluster.name := String.ext (List.append_cancel_right hservices)
  rw [hname] at hpods
  exact ⟨hname, String.ext hns,
    formatInt_natCast_injective (String.ext (List.append_cancel_left hpods))⟩

/-- Two members register the same host exactly when they are the same member of clusters
with the same name and namespace, when cluster names hold no `.`. -/
theorem getHostForReplica_eq_iff (f g : CFactory) (i j : ℕ)
    (hf : '.' ∉ f.cluster.name.toList) (hg : '.' ∉ g.cluster.name.toList) :
    f.getHostForReplica i = g.getHostForReplica j ↔
      f.cluster.name = g.cluster.name ∧ f.cluster.«namespace» = g.cluster.«namespace» ∧
        i = j := by
  refine ⟨eq_of_getHostForReplica_eq hf hg, ?_⟩
  rintro ⟨hname, hns, rfl⟩
  simp only [getHostForReplica, MysqlCluster.getNameForResource_eq, hname, hns]

/-- The factory of `upToDate`, for its cluster moved to namespace `staging`. -/
def upToDateStaging : CFactory := { upToDate with cluster.«namespace» := "staging" }

theorem getHostForReplica_eq_iff_staging :
    '.' ∉ upToDate.cluster.name.toList ∧ '.' ∉ upToDateStaging.cluster.name.toList ∧
      (upToDate.getHostForReplica 0 = upToDateStaging.getHostForReplica 0 ↔
        upToDate.cluster.name = upToDateStaging.cluster.name ∧
          upToDate.cluster.«namespace» = upToDateStaging.cluster.«namespace» ∧ 0 = 0) :=
  ⟨by decide, by decide, getHostForReplica_eq_iff _ _ _ _ (by decide) (by decide)⟩

/-- The Syncs of two clusters that differ in name or namespace never hand the same host
to `Discover`, whatever their components report and whatever the orchestrator answers. -/
theorem sync_discover_disjoint (f g : CFactory) (env env' : SyncEnv) (ctx ctx' : Context)
    (hf : '.' ∉ f.cluster.name.toList) (hg : '.' ∉ g.cluster.name.toList)
    (hne : f.cluster.name ≠ g.cluster.name ∨ f.cluster.«namespace» ≠ g.cluster.«namespace») :
    (((f.sync env ctx).1.filterMap Effect.discoverArgs).map Prod.fst).Disjoint
      (((g.sync env' ctx').1.filterMap Effect.discoverArgs).map Prod.fst) := by
  intro host hfhost hghost
  obtain ⟨a, ha, rfl⟩ := List.mem_map.1 hfhost
  obtain ⟨b, hb, hba⟩ := List.mem_map.1 hghost
  obtain ⟨i, rfl⟩ := f.mem_sync_discoverArgs ha
  obtain ⟨j, rfl⟩ := g.mem_sync_discoverArgs hb
  obtain ⟨hname, hns, -⟩ := eq_of_getHostForReplica_eq hf hg hba.symm
  exact hne.elim (· hname) (· hns)

theorem sync_discover_disjoint_staging :
    '.' ∉ upToDate.cluster.name.toList ∧ '.' ∉ upToDateStaging.cluster.name.toList ∧
      (upToDate.cluster.name ≠ upToDateStaging.cluster.name ∨
        upToDate.cluster.«namespace» ≠ upToDateStaging.cluster.«namespace») ∧
      (((upToDate.sync failingOrc .background).1.filterMap Effect.discoverArgs).map
          Prod.fst).Disjoint
        (((upToDateStaging.sync failingOrc .background).1.filterMap Effect.discoverArgs).map
          Prod.fst) :=
  ⟨by decide, by decide, .inr (by decide),
    sync_discover_disjoint _ _ _ _ _ _ (by decide) (by decide) (.inr (by decide))⟩

end CFactory

end MysqlOperator.Cluster
