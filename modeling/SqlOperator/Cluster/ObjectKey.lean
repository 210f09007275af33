import SqlOperator.Cluster.Metadata

/-!
# Namespaced names

An object of a kind is found by its namespace and name. Keys are ordered by
namespace, then name, and written with a slash between the two.
-/

namespace SqlOperator

/-- The namespace and name of an object. -/
structure ObjectKey where
  «namespace» : String
  name : String
  deriving DecidableEq, Inhabited

namespace ObjectKey

instance : Ord ObjectKey := ⟨compareLex (compareOn (·.namespace)) (compareOn (·.name))⟩

instance : Std.TransOrd ObjectKey :=
  inferInstanceAs
    (Std.TransCmp (compareLex (compareOn ObjectKey.namespace) (compareOn ObjectKey.name)))

theorem compare_eq_eq {a b : ObjectKey} :
    compare a b = .eq ↔
      compare a.namespace b.namespace = .eq ∧ compare a.name b.name = .eq :=
  Ordering.then_eq_eq

instance : Std.LawfulEqOrd ObjectKey where
  eq_of_compare {a b} h := by
    have hn := Std.LawfulEqCmp.eq_of_compare (compare_eq_eq.1 h).1
    have hm := Std.LawfulEqCmp.eq_of_compare (compare_eq_eq.1 h).2
    cases a
    cases b
    simp_all

/-- The key of an object with this metadata; a missing part is empty. -/
def ofMetadata (m : Metadata) : ObjectKey := ⟨m.namespace.getD "", m.anyName⟩

/-- The namespace and the name with a slash between them. -/
def render (key : ObjectKey) : String := key.namespace ++ "/" ++ key.name

instance : ToString ObjectKey := ⟨render⟩

end ObjectKey

end SqlOperator
