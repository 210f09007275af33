import SqlOperator.Cluster.Source
import SqlOperator.Reconcile.Certificate
import SqlOperator.Reconcile.Instance
import SqlOperator.Reconcile.User
import SqlOperator.Store.Cluster

/-!
# Reconciling sources

A reconcile takes the key of a source and brings its target in line with it.
What it comes to is logged and turned into an action.
-/

namespace SqlOperator

/-- What all reconciles of a running operator share. -/
structure MountSettings where
  mountPath : String := defaultMountPath
  layout : FileLayout := .current
  deriving DecidableEq, Inhabited

/-- The files under the mount path. -/
def MountSettings.paths (m : MountSettings) : FilePaths := .ofMount m.mountPath m.layout

/-- What a reconcile takes from its surroundings: the time, and random bytes for
a new password. -/
structure Draw where
  now : Timestamp
  seed : PasswordSeed

namespace Source

/-- Bring the target of a source in line with it. -/
def task (s : Source) (mount : MountSettings) (draw : Draw) (key : ObjectKey) :
    Task Operation :=
  match s with
  | .certificate => Certificate.reconcile mount.layout draw.now key
  | .sqlInstance => Instance.reconcile draw.now key
  | .user => User.reconcile mount.paths draw.now draw.seed key

/-- The event that reports what a reconcile came to. -/
def report (s : Source) : Except Failure Operation → Event
  | .ok operation => .reconciled operation s.target.name
  | .error failure =>
    match failure.kind with
    | .ignorable => .nothingToReconcile failure.cause
    | .temporary => .requeueing failure
    | .permanent => .reconcileFailed failure

/-- Reconcile the source under a key. -/
def reconcile (s : Source) (mount : MountSettings) (draw : Draw) (key : ObjectKey) :
    Program (Except Failure Action) := do
  let result ← (s.task mount draw key).run
  .log (s.report result) (.done (Action.ofResult result))

end Source

/-- How often sources were put off for a temporary failure, by kind of source. -/
structure Requeues where
  certificate : Nat := 0
  sqlInstance : Nat := 0
  user : Nat := 0
  deriving DecidableEq, Inhabited

namespace Requeues

/-- The count for one kind of sources. -/
def get (q : Requeues) : Source → Nat
  | .certificate => q.certificate
  | .sqlInstance => q.sqlInstance
  | .user => q.user

/-- The counts after a kind of sources was put off `n` more times. -/
def add (q : Requeues) (s : Source) (n : Nat) : Requeues :=
  match s with
  | .certificate => { q with certificate := q.certificate + n }
  | .sqlInstance => { q with sqlInstance := q.sqlInstance + n }
  | .user => { q with user := q.user + n }

@[simp] theorem get_add_self (q : Requeues) (s : Source) (n : Nat) :
    (q.add s n).get s = q.get s + n := by
  cases s <;> rfl

theorem get_add_of_ne (q : Requeues) {s other : Source} (n : Nat) (h : other ≠ s) :
    (q.add s n).get other = q.get other := by
  cases s <;> cases other <;> simp_all [get, add]

/-- How often a log tells of a source that was put off. -/
def countIn (log : List Event) : Nat :=
  log.countP fun
    | .requeueing _ => true
    | _ => false

end Requeues

/-- The operator at work on a cluster in memory. -/
structure Session where
  cluster : Cluster := {}
  requeues : Requeues := {}

namespace Session

instance : Inhabited Session := ⟨{}⟩

/-- The session with another cluster state. -/
def withCluster (s : Session) (cluster : Cluster) : Session := { s with cluster }

/-- Run a program on the cluster. -/
def run {α : Type} (s : Session) (now : Timestamp) (p : Program α) : Run Cluster α :=
  p.run (Cluster.answer now) s.cluster

/-- Reconcile a source, and count it if it is put off. -/
def reconcile (s : Session) (mount : MountSettings) (draw : Draw) (source : Source)
    (key : ObjectKey) : Run Session (Except Failure Action) :=
  let run := s.run draw.now (source.reconcile mount draw key)
  { run with
    state := {
      cluster := run.state
      requeues := s.requeues.add source (Requeues.countIn run.log) } }

end Session

end SqlOperator
