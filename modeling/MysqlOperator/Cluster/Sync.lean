import MysqlOperator.Api.Topology

set_option autoImplicit false

/-!
# `Sync`: reconciling a cluster's resources

`Sync` calls the sync function of five components in a fixed order and stops at the first
error, which it records as one `Warning` event and returns, prefixed with the component's
name. A component reporting `created` or `updated` records one `Normal` event. When every
component succeeds and an orchestrator is configured, each ready member is registered
with it; a failed registration is only logged. The context is never consulted.

A call of `Sync` is seen from outside as the list of its effects: the sync functions it
calls, the warnings it logs, the events it records and the `Discover` calls it makes.
What a sync function returns is part of the factory, what `Discover` answers part of the
orchestrator client; the objects they write, and the verbose info log, are outside the
model.
-/

namespace MysqlOperator.Cluster

open Api

def statusCreated : String := "created"
def statusUpdated : String := "updated"

/-- `api.EventNormal` and `api.EventWarning`. -/
inductive EventType
  | normal
  | warning
  deriving DecidableEq, Repr

/-- What `Sync` does that is seen from outside. -/
inductive Effect
  | syncCall («alias» : String)
  | event (type : EventType) (reason message : String)
  | discover (host : String) (port : Nat)
  | warning (message : String)
  deriving DecidableEq, Repr

/-- The host and port of a `Discover` call. -/
def Effect.discoverArgs : Effect → Option (String × Nat)
  | .discover host port => some (host, port)
  | _ => none

/-- The alias of the component whose sync function is called. -/
def Effect.syncCallAlias : Effect → Option String
  | .syncCall a => some a
  | _ => none

/-- The type, reason and message of an event. -/
def Effect.eventArgs : Effect → Option (EventType × String × String)
  | .event type reason message => some (type, reason, message)
  | _ => none

/-- The reason and message of a `Warning` event. -/
def Effect.warningEvent : Effect → Option (String × String)
  | .event .warning reason message => some (reason, message)
  | _ => none

/-- The reason and message of a `Normal` event. -/
def Effect.normalEvent : Effect → Option (String × String)
  | .event .normal reason message => some (reason, message)
  | _ => none

/-- `component`. Its `syncFn` is given by what the function returns when `Sync` calls it:
an error text, or the state reached. -/
structure Component where
  «alias» : String
  name : String
  syncFn : Except String String
  reasonFailed : String
  reasonUpdated : String

/-- Whether the component's sync function returns an error. -/
def Component.failed (comp : Component) : Bool :=
  match comp.syncFn with
  | .error _ => true
  | .ok _ => false

/-- Whether the component's sync function reports `created` or `updated`, the states of
the `switch` that records a `Normal` event. -/
def Component.updated (comp : Component) : Bool :=
  match comp.syncFn with
  | .ok state => decide (state = statusCreated ∨ state = statusUpdated)
  | .error _ => false

/-- The `api.EventReason…` constants, declared outside the modelled files. -/
structure EventReasons where
  dbSecretFailed : String
  dbSecretUpdated : String
  configMapFailed : String
  configMapUpdated : String
  serviceFailed : String
  serviceUpdated : String
  sfsFailed : String
  sfsUpdated : String
  cronJobFailed : String
  cronJobUpdated : String
  deriving Inhabited

/-- `cFactory`, with what its five sync methods return during this call of `Sync`. -/
structure CFactory where
  cluster : MysqlCluster
  syncClusterSecret : Except String String
  syncConfigMysqlMap : Except String String
  syncHeadlessService : Except String String
  syncStatefulSet : Except String String
  syncBackupCronJob : Except String String

/-- A `context.Context` as `ctx.Err()` would show it: the first check point at which it is
cancelled (0 on entry, `k` before the `k`-th component, the number of components before
registration), or `none`. -/
structure Context where
  cancelledAt : Option Nat

def Context.background : Context := ⟨none⟩

/-- What `Sync` reads besides its factory: the package's options, the orchestrator client
built from their URI, the event reasons and `MysqlPort`. -/
structure SyncEnv where
  opt : Options
  client : OrcClient
  reasons : EventReasons
  mysqlPort : Nat

/-- One pass of the registration loop: `Discover(host, MysqlPort)`, and a warning when it
fails. -/
def registerHost (env : SyncEnv) (host : String) : List Effect :=
  .discover host env.mysqlPort ::
    match env.client.discover host env.mysqlPort with
    | some err => [.warning ("Failed to register " ++ host ++ " with orchestrator: " ++ err)]
    | none => []

namespace CFactory

variable (f : CFactory)

/-- `cFactory.getComponents`. -/
def getComponents (r : EventReasons) : List Component :=
  [⟨"cluster-secret", f.cluster.spec.secretName, f.syncClusterSecret,
      r.dbSecretFailed, r.dbSecretUpdated⟩,
    ⟨"config-map", f.cluster.getNameForResource ConfigMap, f.syncConfigMysqlMap,
      r.configMapFailed, r.configMapUpdated⟩,
    ⟨"headless-service", f.cluster.getNameForResource HeadlessSVC, f.syncHeadlessService,
      r.serviceFailed, r.serviceUpdated⟩,
    ⟨"statefulset", f.cluster.getNameForResource StatefulSet, f.syncStatefulSet,
      r.sfsFailed, r.sfsUpdated⟩,
    ⟨"backup-cron-job", f.cluster.getNameForResource BackupCronJob, f.syncBackupCronJob,
      r.cronJobFailed, r.cronJobUpdated⟩]

/-- `cFactory.getHostForReplica(no)`. -/
def getHostForReplica (no : Int) : String :=
  f.cluster.getNameForResource StatefulSet ++ "-" ++ formatInt no ++ "." ++
    f.cluster.getNameForResource HeadlessSVC ++ "." ++ f.cluster.«namespace»

/-- `for i := 0; i < int(f.cluster.Status.ReadyNodes); i++`, from `i` on. -/
def discoverFrom (env : SyncEnv) (i : Int) : List Effect :=
  if i < f.cluster.status.readyNodes then
    registerHost env (f.getHostForReplica i) ++ discoverFrom env (i + 1)
  else []
termination_by (f.cluster.status.readyNodes - i).toNat
decreasing_by omega

/-- The registration block of `Sync`. -/
def registerNodes (env : SyncEnv) : List Effect :=
  if f.cluster.spec.getOrcUri env.opt ≠ "" then f.discoverFrom env 0 else []

end CFactory

/-- `fmt.Errorf("%s sync failed: %s", comp.name, err)`. -/
def syncFailed (comp : Component) (err : String) : String := comp.name ++ " sync failed: " ++ err

/-- What a component that succeeded with `state` shows: its call, then one `Normal` event
with its `reasonUpdated` when the state is `created` or `updated`. -/
def okEffects (comp : Component) (state : String) : List Effect :=
  .syncCall comp.«alias» ::
    if state = statusCreated ∨ state = statusUpdated then [.event .normal comp.reasonUpdated ""]
    else []

/-- `glog.Warningf("[%s]: failed syncing %s: ", comp.alias, comp.name, err.Error())`. The
format has two verbs for three arguments, so `fmt` appends the error as an extra one. -/
def failedSyncingLog (comp : Component) (err : String) : String :=
  "[" ++ comp.«alias» ++ "]: failed syncing " ++ comp.name ++ ": %!(EXTRA string=" ++ err ++ ")"

/-- What a component that failed with `err` shows: its call, the warning in the log, then
one `Warning` event with its `reasonFailed` and the wrapped error. -/
def failEffects (comp : Component) (err : String) : List Effect :=
  [.syncCall comp.«alias», .warning (failedSyncingLog comp err),
    .event .warning comp.reasonFailed (syncFailed comp err)]

/-- The `for _, comp := range …` loop of `Sync`, up to its first error. -/
def syncComponents : List Component → List Effect × Except String Unit
  | [] => ([], .ok ())
  | comp :: comps =>
    match comp.syncFn with
    | .error err => (failEffects comp err, .error (syncFailed comp err))
    | .ok state =>
      let rest := syncComponents comps
      (okEffects comp state ++ rest.1, rest.2)

namespace CFactory

variable (f : CFactory)

/-- The body of `Sync` over a given list of components. -/
def syncWith (env : SyncEnv) (comps : List Component) : List Effect × Except String Unit :=
  let run := syncComponents comps
  match run.2 with
  | .error err => (run.1, .error err)
  | .ok () => (run.1 ++ f.registerNodes env, .ok ())

/-- `cFactory.Sync(ctx)`. -/
def sync (env : SyncEnv) (_ctx : Context) : List Effect × Except String Unit :=
  f.syncWith env (f.getComponents env.reasons)

end CFactory

@[simp] theorem syncComponents_nil : syncComponents [] = ([], .ok ()) := rfl

theorem syncComponents_cons_error {comp : Component} {err : String} (comps : List Component)
    (h : comp.syncFn = .error err) :
    syncComponents (comp :: comps) = (failEffects comp err, .error (syncFailed comp err)) := by
  simp [syncComponents, h]

theorem syncComponents_cons_ok {comp : Component} {state : String} (comps : List Component)
    (h : comp.syncFn = .ok state) :
    syncComponents (comp :: comps) =
      (okEffects comp state ++ (syncComponents comps).1, (syncComponents comps).2) := by
  simp [syncComponents, h]

theorem syncComponents_append_ok (pre : List (Component × String))
    (hpre : ∀ p ∈ pre, p.1.syncFn = .ok p.2) (rest : List Component) :
    syncComponents (pre.map Prod.fst ++ rest) =
      (pre.flatMap (fun p => okEffects p.1 p.2) ++ (syncComponents rest).1,
        (syncComponents rest).2) := by
  induction pre with
  | nil => rfl
  | cons p pre ih =>
    rw [List.map_cons, List.cons_append, syncComponents_cons_ok _ (hpre p (.head _)),
      ih fun q hq => hpre q (.tail _ hq)]
    simp

theorem syncComponents_of_ok :
    ∀ comps : List Component, (∀ comp ∈ comps, ∃ state, comp.syncFn = .ok state) →
      (syncComponents comps).2 = .ok () ∧
        (syncComponents comps).1.filterMap Effect.discoverArgs = []
  | [], _ => ⟨rfl, rfl⟩
  | comp :: comps, h => by
    obtain ⟨state, hs⟩ := h comp (.head _)
    obtain ⟨ih₁, ih₂⟩ := syncComponents_of_ok comps fun c hc => h c (.tail _ hc)
    rw [syncComponents_cons_ok _ hs]
    refine ⟨ih₁, ?_⟩
    rw [List.filterMap_append, ih₂, okEffects]
    split_ifs <;> rfl

@[simp] theorem registerHost_discoverArgs (env : SyncEnv) (host : String) :
    (registerHost env host).filterMap Effect.discoverArgs = [(host, env.mysqlPort)] := by
  unfold registerHost; split <;> rfl

theorem syncComponents_calls (comps : List Component) :
    (syncComponents comps).1.filterMap Effect.syncCallAlias =
      (comps.take (comps.findIdx Component.failed + 1)).map (·.«alias») := by
  induction comps with
  | nil => rfl
  | cons comp comps ih =>
    cases h : comp.syncFn with
    | error err =>
      simp [syncComponents_cons_error _ h, failEffects, Effect.syncCallAlias, List.findIdx_cons,
        Component.failed, h]
    | ok state =>
      rw [syncComponents_cons_ok _ h, List.filterMap_append, ih, List.findIdx_cons]
      simp only [okEffects, Component.failed, h]
      split_ifs <;> rfl

@[simp] theorem okEffects_discoverArgs (comp : Component) (state : String) :
    (okEffects comp state).filterMap Effect.discoverArgs = [] := by
  unfold okEffects; split_ifs <;> rfl

@[simp] theorem okEffects_syncCallAlias (comp : Component) (state : String) :
    (okEffects comp state).filterMap Effect.syncCallAlias = [comp.«alias»] := by
  unfold okEffects; split_ifs <;> rfl

@[simp] theorem okEffects_eventArgs (comp : Component) (state : String) :
    (okEffects comp state).filterMap Effect.eventArgs =
      if state = statusCreated ∨ state = statusUpdated then [(.normal, comp.reasonUpdated, "")]
      else [] := by
  unfold okEffects; split_ifs <;> rfl

@[simp] theorem okEffects_warningEvent (comp : Component) (state : String) :
    (okEffects comp state).filterMap Effect.warningEvent = [] := by
  unfold okEffects; split_ifs <;> rfl

theorem syncComponents_discoverArgs (comps : List Component) :
    (syncComponents comps).1.filterMap Effect.discoverArgs = [] := by
  induction comps with
  | nil => rfl
  | cons comp comps ih =>
    cases h : comp.syncFn with
    | error err => rw [syncComponents_cons_error _ h]; rfl
    | ok state => rw [syncComponents_cons_ok _ h, List.filterMap_append, ih]; simp

theorem syncComponents_warningEvents (comps : List Component) :
    match (syncComponents comps).2 with
    | .ok () => (syncComponents comps).1.filterMap Effect.warningEvent = []
    | .error e => ∃ k, comps.find? Component.failed = some k ∧
        (syncComponents comps).1.filterMap Effect.warningEvent = [(k.reasonFailed, e)] := by
  induction comps with
  | nil => rfl
  | cons comp comps ih =>
    cases h : comp.syncFn with
    | error err =>
      rw [syncComponents_cons_error _ h, List.find?_cons_of_pos _ (by simp [Component.failed, h])]
      exact ⟨comp, rfl, rfl⟩
    | ok state =>
      rw [syncComponents_cons_ok _ h, List.find?_cons_of_neg _ (by simp [Component.failed, h])]
      simpa only [List.filterMap_append, okEffects_warningEvent, List.nil_append] using ih

theorem syncComponents_normalEvents (comps : List Component) :
    (syncComponents comps).1.filterMap Effect.normalEvent =
      ((comps.takeWhile fun k => !k.failed).filter Component.updated).map
        fun k => (k.reasonUpdated, "") := by
  induction comps with
  | nil => rfl
  | cons comp comps ih =>
    cases h : comp.syncFn with
    | error err =>
      rw [syncComponents_cons_error _ h, List.takeWhile_cons_of_neg (by simp [Component.failed, h])]
      rfl
    | ok state =>
      rw [syncComponents_cons_ok _ h, List.filterMap_append, ih,
        List.takeWhile_cons_of_pos (by simp [Component.failed, h]), List.filter_cons]
      by_cases hs : state = statusCreated ∨ state = statusUpdated <;>
        simp [okEffects, Component.updated, Effect.normalEvent, h, hs]

@[simp] theorem registerHost_syncCallAlias (env : SyncEnv) (host : String) :
    (registerHost env host).filterMap Effect.syncCallAlias = [] := by
  unfold registerHost; split <;> rfl

namespace CFactory

variable (f : CFactory)

theorem discoverFrom_eq (env : SyncEnv) (i : Int) :
    f.discoverFrom env i =
      (List.range (f.cluster.status.readyNodes - i).toNat).flatMap
        fun k => registerHost env (f.getHostForReplica (i + k)) := by
  generalize hm : (f.cluster.status.readyNodes - i).toNat = m
  induction m generalizing i with
  | zero => rw [discoverFrom, if_neg (by omega)]; rfl
  | succ m ih =>
    rw [discoverFrom, if_pos (by omega), ih (i + 1) (by omega), List.range_succ_eq_map,
      List.flatMap_cons, List.flatMap_map]
    simp only [Nat.cast_zero, add_zero, Nat.cast_succ, add_comm, add_left_comm]

theorem registerNodes_eq (env : SyncEnv) :
    f.registerNodes env =
      if f.cluster.spec.getOrcUri env.opt ≠ "" then
        (List.range f.cluster.status.readyNodes.toNat).flatMap
          fun i : ℕ => registerHost env (f.getHostForReplica i)
      else [] := by
  simp only [registerNodes, discoverFrom_eq, sub_zero, zero_add]

theorem registerNodes_discoverArgs (env : SyncEnv) :
    (f.registerNodes env).filterMap Effect.discoverArgs =
      if f.cluster.spec.getOrcUri env.opt ≠ "" then
        (List.range f.cluster.status.readyNodes.toNat).map
          fun i : ℕ => (f.getHostForReplica i, env.mysqlPort)
      else [] := by
  rw [registerNodes_eq]
  split_ifs
  · simp [List.filterMap_flatMap, List.map_eq_flatMap]
  · rfl

theorem registerNodes_filterMap_eq_nil {β : Type} (env : SyncEnv) (view : Effect → Option β)
    (hd : ∀ host port, view (.discover host port) = none) (hw : ∀ m, view (.warning m) = none) :
    (f.registerNodes env).filterMap view = [] := by
  rw [registerNodes_eq]
  split_ifs
  · refine List.filterMap_eq_nil_iff.2 fun e he => ?_
    obtain ⟨i, -, he⟩ := List.mem_flatMap.1 he
    unfold registerHost at he
    split at he <;> simp at he <;> rcases he with rfl | rfl <;> simp [hd, hw]
  · rfl

theorem getHostForReplica_injective : Function.Injective fun i : ℕ => f.getHostForReplica i := by
  intro a b h
  refine formatInt_natCast_injective (append_middle_cancel
    (p := f.cluster.getNameForResource StatefulSet ++ "-")
    (s := "." ++ f.cluster.getNameForResource HeadlessSVC ++ "." ++ f.cluster.«namespace») ?_)
  simpa only [getHostForReplica, String.append_assoc] using h

/-- The registered host is the resolver's host name qualified by the namespace. -/
theorem getHostForReplica_eq (no : Int) :
    f.getHostForReplica no = f.cluster.getPodHostName no ++ "." ++ f.cluster.«namespace» := by
  simp only [getHostForReplica, MysqlCluster.getPodHostName, String.append_assoc]

example :
    CFactory.getHostForReplica
      ⟨⟨"db", "prod", default, ⟨2⟩⟩, .ok "", .ok "", .ok "", .ok "", .ok ""⟩ 1 =
        "db-mysql-1.db-mysql.prod" :=
  rfl

theorem syncWith_of_error {env : SyncEnv} {comps : List Component} {e : String}
    (h : (syncComponents comps).2 = .error e) :
    f.syncWith env comps = ((syncComponents comps).1, .error e) := by
  simp only [syncWith, h]

theorem syncWith_of_ok {env : SyncEnv} {comps : List Component}
    (h : (syncComponents comps).2 = .ok ()) :
    f.syncWith env comps = ((syncComponents comps).1 ++ f.registerNodes env, .ok ()) := by
  simp only [syncWith, h]

theorem syncWith_failFast (env : SyncEnv) (pre : List (Component × String))
    (hpre : ∀ p ∈ pre, p.1.syncFn = .ok p.2) :
    (∀ (k : Component) (err : String) (post : List Component), k.syncFn = .error err →
      f.syncWith env (pre.map Prod.fst ++ k :: post) =
        (pre.flatMap (fun p => okEffects p.1 p.2) ++ failEffects k err,
          .error (syncFailed k err))) ∧
    f.syncWith env (pre.map Prod.fst) =
      (pre.flatMap (fun p => okEffects p.1 p.2) ++ f.registerNodes env, .ok ()) := by
  have hrun := syncComponents_append_ok pre hpre
  refine ⟨fun k err post hk => ?_, ?_⟩
  · have h := hrun (k :: post)
    rw [syncComponents_cons_error post hk] at h
    rw [f.syncWith_of_error (by rw [h]), h]
  · rw [← List.append_nil (pre.map Prod.fst), f.syncWith_of_ok (by rw [hrun]; rfl), hrun]
    simp

/-- A factory whose five components are up to date, for a cluster `db` in `prod` with
two ready members. -/
def upToDate : CFactory :=
  ⟨⟨"db", "prod", default, ⟨2⟩⟩, .ok "up-to-date", .ok "up-to-date", .ok "up-to-date",
    .ok "up-to-date", .ok "up-to-date"⟩

/-- Options that name an orchestrator, whose `Discover` fails for every host. -/
def failingOrc : SyncEnv :=
  ⟨⟨"5.7", "IfNotPresent", "http://orchestrator"⟩,
    ⟨fun _ _ => some "connection refused", fun _ => .error "", fun _ => .error ""⟩,
    default, 3306⟩

/-- `Sync` runs its five components in the fixed order cluster-secret, config-map,
headless-service, statefulset, backup-cron-job, and is fail-fast. Split the components at
the first failing one `k` as `pre ++ k :: post`, each of `pre` with the state it reported:
then the sync functions called are those of `pre`, then `k`'s; the events are one `Normal`
event for each of `pre` that reported `created` or `updated`, in order, then one `Warning`
event with `k`'s `reasonFailed` and the returned error; `Discover` is not called; and
`Sync` returns `<name of k> sync failed: <err>`. When no component fails, the calls and
`Normal` events are those of all five, with no `Warning` event, and `Sync` returns `nil`. -/
theorem sync_failFast (env : SyncEnv) (ctx : Context) (pre : List (Component × String))
    (hpre : ∀ p ∈ pre, p.1.syncFn = .ok p.2) :
    (f.getComponents env.reasons).map (fun k => (k.«alias», k.syncFn)) =
        [("cluster-secret", f.syncClusterSecret), ("config-map", f.syncConfigMysqlMap),
          ("headless-service", f.syncHeadlessService), ("statefulset", f.syncStatefulSet),
          ("backup-cron-job", f.syncBackupCronJob)] ∧
      (∀ (k : Component) (err : String) (post : List Component),
        f.getComponents env.reasons = pre.map Prod.fst ++ k :: post → k.syncFn = .error err →
          (f.sync env ctx).1.filterMap Effect.syncCallAlias =
              pre.map (·.1.«alias») ++ [k.«alias»] ∧
            (f.sync env ctx).1.filterMap Effect.eventArgs =
              pre.flatMap (fun p => if p.2 = "created" ∨ p.2 = "updated" then
                  [(EventType.normal, p.1.reasonUpdated, "")] else []) ++
                [(EventType.warning, k.reasonFailed, k.name ++ " sync failed: " ++ err)] ∧
            (f.sync env ctx).1.filterMap Effect.discoverArgs = [] ∧
            (f.sync env ctx).2 = .error (k.name ++ " sync failed: " ++ err)) ∧
      (f.getComponents env.reasons = pre.map Prod.fst →
        (f.sync env ctx).1.filterMap Effect.syncCallAlias = pre.map (·.1.«alias») ∧
          (f.sync env ctx).1.filterMap Effect.eventArgs =
            pre.flatMap (fun p => if p.2 = "created" ∨ p.2 = "updated" then
              [(EventType.normal, p.1.reasonUpdated, "")] else []) ∧
          (f.sync env ctx).2 = .ok ()) := by
  obtain ⟨hfail, hok⟩ := f.syncWith_failFast env pre hpre
  refine ⟨rfl, fun k err post hsplit hk => ?_, fun hall => ?_⟩
  · rw [sync, hsplit, hfail k err post hk]
    simp [List.filterMap_flatMap, List.map_eq_flatMap, failEffects, syncFailed,
      Effect.syncCallAlias, Effect.eventArgs, Effect.discoverArgs, statusCreated, statusUpdated]
  · rw [sync, hall, hok, List.filterMap_append, List.filterMap_append,
      f.registerNodes_filterMap_eq_nil env Effect.syncCallAlias (fun _ _ => rfl) (fun _ => rfl),
      f.registerNodes_filterMap_eq_nil env Effect.eventArgs (fun _ _ => rfl) (fun _ => rfl)]
    simp [List.filterMap_flatMap, List.map_eq_flatMap, statusCreated, statusUpdated]

/-- A factory for `db` in `prod` whose statefulset sync fails, after the secret was found
up to date, the config map updated and the headless service created. -/
def failingStatefulSet : CFactory :=
  ⟨⟨"db", "prod", default, ⟨2⟩⟩, .ok "up-to-date", .ok "updated", .ok "created",
    .error "quota exceeded", .ok "up-to-date"⟩

/-- The components of `failingStatefulSet` before the failing one, with their states. -/
def failingStatefulSetPre : List (Component × String) :=
  [(⟨"cluster-secret", "", .ok "up-to-date", "", ""⟩, "up-to-date"),
    (⟨"config-map", "db-mysql", .ok "updated", "", ""⟩, "updated"),
    (⟨"headless-service", "db-mysql", .ok "created", "", ""⟩, "created")]

theorem sync_failFast_statefulSet :
    (∀ p ∈ failingStatefulSetPre, p.1.syncFn = .ok p.2) ∧
      failingStatefulSet.getComponents failingOrc.reasons =
        failingStatefulSetPre.map Prod.fst ++
          ⟨"statefulset", "db-mysql", .error "quota exceeded", "", ""⟩ ::
            [⟨"backup-cron-job", "db-mysql", .ok "up-to-date", "", ""⟩] ∧
      (failingStatefulSet.getComponents failingOrc.reasons).map (fun k => (k.«alias», k.syncFn)) =
        [("cluster-secret", failingStatefulSet.syncClusterSecret),
          ("config-map", failingStatefulSet.syncConfigMysqlMap),
          ("headless-service", failingStatefulSet.syncHeadlessService),
          ("statefulset", failingStatefulSet.syncStatefulSet),
          ("backup-cron-job", failingStatefulSet.syncBackupCronJob)] ∧
      (∀ (k : Component) (err : String) (post : List Component),
        failingStatefulSet.getComponents failingOrc.reasons =
            failingStatefulSetPre.map Prod.fst ++ k :: post → k.syncFn = .error err →
          (failingStatefulSet.sync failingOrc .background).1.filterMap Effect.syncCallAlias =
              failingStatefulSetPre.map (·.1.«alias») ++ [k.«alias»] ∧
            (failingStatefulSet.sync failingOrc .background).1.filterMap Effect.eventArgs =
              failingStatefulSetPre.flatMap (fun p => if p.2 = "created" ∨ p.2 = "updated" then
                  [(EventType.normal, p.1.reasonUpdated, "")] else []) ++
                [(EventType.warning, k.reasonFailed, k.name ++ " sync failed: " ++ err)] ∧
            (failingStatefulSet.sync failingOrc .background).1.filterMap Effect.discoverArgs = [] ∧
            (failingStatefulSet.sync failingOrc .background).2 =
              .error (k.name ++ " sync failed: " ++ err)) ∧
      (failingStatefulSet.getComponents failingOrc.reasons =
          failingStatefulSetPre.map Prod.fst →
        (failingStatefulSet.sync failingOrc .background).1.filterMap Effect.syncCallAlias =
            failingStatefulSetPre.map (·.1.«alias») ∧
          (failingStatefulSet.sync failingOrc .background).1.filterMap Effect.eventArgs =
            failingStatefulSetPre.flatMap (fun p => if p.2 = "created" ∨ p.2 = "updated" then
              [(EventType.normal, p.1.reasonUpdated, "")] else []) ∧
          (failingStatefulSet.sync failingOrc .background).2 = .ok ()) := by
  have hpre : ∀ p ∈ failingStatefulSetPre, p.1.syncFn = .ok p.2 := by
    simp [failingStatefulSetPre]
  exact ⟨hpre, rfl, sync_failFast failingStatefulSet failingOrc .background _ hpre⟩

/-- With every component successful, `Sync` returns `nil` and, when an orchestrator is
configured, calls `Discover` once for each ready member `i`, on its host and `MysqlPort`,
whatever the calls answer; the hosts are pairwise distinct. -/
theorem sync_registers_ready (env : SyncEnv) (ctx : Context)
    (hok : ∀ comp ∈ f.getComponents env.reasons, ∃ state, comp.syncFn = .ok state) :
    (f.sync env ctx).2 = .ok () ∧
      (f.sync env ctx).1.filterMap Effect.discoverArgs =
        (if f.cluster.spec.getOrcUri env.opt ≠ "" then
          (List.range f.cluster.status.readyNodes.toNat).map
            fun i : ℕ => (f.getHostForReplica i, env.mysqlPort)
        else []) ∧
      ((List.range f.cluster.status.readyNodes.toNat).map
        fun i : ℕ => f.getHostForReplica i).Nodup := by
  obtain ⟨hres, hcalls⟩ := syncComponents_of_ok _ hok
  refine ⟨by rw [sync, f.syncWith_of_ok hres], ?_,
    (List.nodup_range _).map f.getHostForReplica_injective⟩
  rw [sync, f.syncWith_of_ok hres, List.filterMap_append, hcalls, registerNodes_eq]
  split_ifs
  · simp [List.filterMap_flatMap, List.map_eq_flatMap]
  · rfl

theorem sync_registers_ready_upToDate :
    (∀ comp ∈ upToDate.getComponents failingOrc.reasons, ∃ state, comp.syncFn = .ok state) ∧
      (upToDate.sync failingOrc .background).2 = .ok () ∧
      (upToDate.sync failingOrc .background).1.filterMap Effect.discoverArgs =
        (if upToDate.cluster.spec.getOrcUri failingOrc.opt ≠ "" then
          (List.range upToDate.cluster.status.readyNodes.toNat).map
            fun i : ℕ => (upToDate.getHostForReplica i, failingOrc.mysqlPort)
        else []) ∧
      ((List.range upToDate.cluster.status.readyNodes.toNat).map
        fun i : ℕ => upToDate.getHostForReplica i).Nodup := by
  have h : ∀ comp ∈ upToDate.getComponents failingOrc.reasons,
      ∃ state, comp.syncFn = .ok state := by
    simp [getComponents, upToDate]
  exact ⟨h, sync_registers_ready upToDate failingOrc .background h⟩

/-- `Sync` calls the sync functions of its five components in their fixed order, up to
and including the first that fails, and no other. -/
theorem sync_calls (env : SyncEnv) (ctx : Context) :
    (f.sync env ctx).1.filterMap Effect.syncCallAlias =
      ((f.getComponents env.reasons).take
        ((f.getComponents env.reasons).findIdx Component.failed + 1)).map (·.«alias») := by
  rw [← syncComponents_calls, sync]
  rcases h : (syncComponents (f.getComponents env.reasons)).2 with e | ⟨⟩
  · rw [f.syncWith_of_error h]
  · rw [f.syncWith_of_ok h, List.filterMap_append, registerNodes_eq]
    split_ifs <;> simp [List.filterMap_flatMap]

theorem syncWith_snd (env : SyncEnv) (comps : List Component) :
    (f.syncWith env comps).2 = (syncComponents comps).2 := by
  rcases h : (syncComponents comps).2 with e | ⟨⟩
  · rw [f.syncWith_of_error h]
  · rw [f.syncWith_of_ok h]

/-- A failed `Sync` is recorded on the cluster as exactly one `Warning` event: `Sync`
fails only when some component fails, and the event's reason is that of the first
failing component and its message the error `Sync` returns. A `Sync` that returns `nil`
records no `Warning` event. -/
theorem sync_warningEvents (env : SyncEnv) (ctx : Context) :
    match (f.sync env ctx).2 with
    | .ok () => (f.sync env ctx).1.filterMap Effect.warningEvent = []
    | .error e => ∃ k, (f.getComponents env.reasons).find? Component.failed = some k ∧
        (f.sync env ctx).1.filterMap Effect.warningEvent = [(k.reasonFailed, e)] := by
  have hw := syncComponents_warningEvents (f.getComponents env.reasons)
  rw [sync, syncWith_snd]
  rcases h : (syncComponents (f.getComponents env.reasons)).2 with e | ⟨⟩ <;> rw [h] at hw
  · rw [f.syncWith_of_error h]; exact hw
  · rw [f.syncWith_of_ok h, List.filterMap_append, hw,
      f.registerNodes_filterMap_eq_nil env _ (fun _ _ => rfl) (fun _ => rfl)]
    rfl

/-- `Sync` records one `Normal` event, with an empty message, for each component it runs
that reports `created` or `updated`, in the order of the components and up to the first
failure; the registration records none. -/
theorem sync_normalEvents (env : SyncEnv) (ctx : Context) :
    (f.sync env ctx).1.filterMap Effect.normalEvent =
      (((f.getComponents env.reasons).takeWhile fun k => !k.failed).filter
        Component.updated).map fun k => (k.reasonUpdated, "") := by
  rw [sync, ← syncComponents_normalEvents]
  rcases h : (syncComponents (f.getComponents env.reasons)).2 with e | ⟨⟩
  · rw [f.syncWith_of_error h]
  · rw [f.syncWith_of_ok h, List.filterMap_append,
      f.registerNodes_filterMap_eq_nil env _ (fun _ _ => rfl) (fun _ => rfl), List.append_nil]

theorem mem_sync_discoverArgs {env : SyncEnv} {ctx : Context} {a : String × Nat}
    (ha : a ∈ (f.sync env ctx).1.filterMap Effect.discoverArgs) :
    ∃ i : ℕ, a = (f.getHostForReplica i, env.mysqlPort) := by
  rw [sync] at ha
  rcases h : (syncComponents (f.getComponents env.reasons)).2 with e | ⟨⟩
  · simp [f.syncWith_of_error h, syncComponents_discoverArgs] at ha
  · rw [f.syncWith_of_ok h, List.filterMap_append, syncComponents_discoverArgs,
      registerNodes_discoverArgs] at ha
    split_ifs at ha
    · obtain ⟨i, -, rfl⟩ := List.mem_map.1 ha
      exact ⟨i, rfl⟩
    · simp at ha

/-- `Sync` registers members with the orchestrator only when it returns `nil`: a failed
`Sync` makes no `Discover` call, and one that returns `nil` calls `Discover` once for
each ready member, in order, when an orchestrator is configured. -/
theorem sync_discoverArgs (env : SyncEnv) (ctx : Context) :
    (f.sync env ctx).1.filterMap Effect.discoverArgs =
      match (f.sync env ctx).2 with
      | .error _ => []
      | .ok () =>
        if f.cluster.spec.getOrcUri env.opt ≠ "" then
          (List.range f.cluster.status.readyNodes.toNat).map
            fun i : ℕ => (f.getHostForReplica i, env.mysqlPort)
        else [] := by
  rw [sync, syncWith_snd]
  rcases h : (syncComponents (f.getComponents env.reasons)).2 with e | ⟨⟩
  · rw [f.syncWith_of_error h, syncComponents_discoverArgs]
  · rw [f.syncWith_of_ok h, List.filterMap_append, syncComponents_discoverArgs,
      registerNodes_discoverArgs, List.nil_append]

/-- `Sync` never reads its context: every context gives the run of a live one, which
starts by calling the cluster secret's sync whatever the cancellation. -/
theorem sync_ignores_context (env : SyncEnv) (ctx : Context) :
    f.sync env ctx = f.sync env .background ∧
      (f.sync env ctx).1.head? = some (.syncCall "cluster-secret") := by
  refine ⟨rfl, ?_⟩
  simp only [sync, syncWith, getComponents, syncComponents]
  cases f.syncClusterSecret <;> split <;> rfl

/-- A context cancelled on entry stops nothing: the first component's sync still runs,
and `Sync` returns `nil`. -/
theorem sync_runs_when_cancelled :
    (upToDate.sync failingOrc ⟨some 0⟩).1.head? = some (.syncCall "cluster-secret") ∧
      (upToDate.sync failingOrc ⟨some 0⟩).2 = .ok () :=
  ⟨rfl, rfl⟩

/-- The registered host of a member is never the host name the resolver uses for it. -/
theorem getHostForReplica_ne_getPodHostName (no : Int) :
    f.getHostForReplica no ≠ f.cluster.getPodHostName no := by
  intro h
  have hlen := congrArg String.length (h ▸ f.getHostForReplica_eq no)
  have hdot : ".".length = 1 := rfl
  simp only [String.length_append, hdot] at hlen
  omega

end CFactory

end MysqlOperator.Cluster
