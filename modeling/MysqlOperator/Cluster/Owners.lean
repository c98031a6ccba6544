import MysqlOperator.Api.Defaulted
import MysqlOperator.Cluster.Sync

set_option autoImplicit false

/-!
# Owner references

The objects the sync functions write are owned by their cluster: `getOwnerReferences`
puts the cluster's own reference, which names it as controller, first, and appends the
references it is given, in order. An object may have one controller reference only, so
the list is well formed exactly when none of the given references is a controller.
-/

namespace MysqlOperator.Api

/-- The scheme constants `AsOwnerReference` reads, declared outside the modelled files:
`SchemeGroupVersion.String()`, `MysqlClusterKind` and `MysqlBackupKind`. -/
structure Scheme where
  groupVersion : String
  mysqlClusterKind : String
  mysqlBackupKind : String

/-- `metav1.OwnerReference`, by the fields `AsOwnerReference` sets. `controller` is the
`*bool`, `none` for `nil`. -/
structure OwnerReference where
  apiVersion : String
  kind : String
  name : String
  uid : String
  controller : Option Bool
  deriving DecidableEq, Repr

/-- Whether the reference names its object's controller. -/
def OwnerReference.isController (r : OwnerReference) : Bool := r.controller == some true

/-- `MysqlCluster.AsOwnerReference()`, for a cluster whose `ObjectMeta.UID` is `uid`. -/
def MysqlCluster.asOwnerReference (sch : Scheme) (uid : String) (c : MysqlCluster) :
    OwnerReference :=
  ⟨sch.groupVersion, sch.mysqlClusterKind, c.name, uid, some true⟩

/-- The fields of a `MysqlBackup` its methods read. -/
structure MysqlBackup where
  name : String
  uid : String

/-- `MysqlBackup.AsOwnerReference()`. -/
def MysqlBackup.asOwnerReference (sch : Scheme) (b : MysqlBackup) : OwnerReference :=
  ⟨sch.groupVersion, sch.mysqlBackupKind, b.name, b.uid, some true⟩

/-- `MysqlBackup.GetHelperImage()`. -/
def MysqlBackup.getHelperImage (img : ImageOptions) (_b : MysqlBackup) : String :=
  img.helperImage

end MysqlOperator.Api

namespace MysqlOperator.Cluster

open Api

namespace CFactory

variable (f : CFactory) (sch : Scheme) (uid : String)

/-- `cFactory.getOwnerReferences(ors...)`, with `uid` the cluster's `ObjectMeta.UID`:
the cluster's reference, then each reference of each given list, appended one by one. -/
def getOwnerReferences (ors : List (List OwnerReference)) : List OwnerReference :=
  ors.foldl (fun rs refs => refs.foldl (fun rs o => rs ++ [o]) rs)
    [f.cluster.asOwnerReference sch uid]

theorem foldl_append_singleton {α : Type} (l acc : List α) :
    l.foldl (fun rs o => rs ++ [o]) acc = acc ++ l := by
  induction l generalizing acc with
  | nil => simp
  | cons o l ih => simp [ih]

theorem getOwnerReferences_eq (ors : List (List OwnerReference)) :
    f.getOwnerReferences sch uid ors = f.cluster.asOwnerReference sch uid :: ors.flatten := by
  rw [getOwnerReferences, ← List.foldl_flatten, foldl_append_singleton, List.singleton_append]

/-- `getOwnerReferences` returns the cluster's reference followed by the given references
in order. Its controller references are the cluster's own, then the controllers among
the given references, so it has exactly one controller reference exactly when none of
the given references is a controller. -/
theorem getOwnerReferences_controllers (ors : List (List OwnerReference)) :
    f.getOwnerReferences sch uid ors = f.cluster.asOwnerReference sch uid :: ors.flatten ∧
      (f.getOwnerReferences sch uid ors).filter OwnerReference.isController =
        f.cluster.asOwnerReference sch uid :: ors.flatten.filter OwnerReference.isController ∧
      (((f.getOwnerReferences sch uid ors).filter OwnerReference.isController).length = 1 ↔
        ∀ refs ∈ ors, ∀ o ∈ refs, o.isController = false) := by
  have hfilter : (f.getOwnerReferences sch uid ors).filter OwnerReference.isController =
      f.cluster.asOwnerReference sch uid :: ors.flatten.filter OwnerReference.isController := by
    rw [getOwnerReferences_eq, List.filter_cons_of_pos rfl]
  refine ⟨getOwnerReferences_eq f sch uid ors, hfilter, ?_⟩
  rw [hfilter, List.length_cons, add_left_eq_self, List.length_eq_zero, List.filter_eq_nil_iff]
  simp only [List.mem_flatten, Bool.not_eq_true]
  exact ⟨fun h refs hr o ho => h o ⟨refs, hr, ho⟩, fun h o ⟨refs, hr, ho⟩ => h refs hr o ho⟩

end CFactory

end MysqlOperator.Cluster
