import SqlOperator.Proofs.Store.Histories
import SqlOperator.Proofs.Upsert.Unqueued

/-!
# Versions and keys

A version belongs to one object under one key, at every point of every history of a store. So
a replacement that names a version which was read overwrites what was read, and nothing has
been put under its key since. And an upsert whose mutation gives the object another key but
leaves its version alone overwrites nothing: the store looks for the version under the new key,
where it is not.
-/

namespace SqlOperator

namespace MemoryStore

variable {kind : Kind} {s : MemoryStore kind}

/-- A replacement whose version is not stored under its key is refused. -/
theorem replace_of_other_version (now : Timestamp) {o : kind.Object}
    (h : ∀ p, s.objects.get? (kind.key o) = some p →
      (kind.metadata p).resourceVersion ≠ (kind.metadata o).resourceVersion) :
    s.replace now o =
      (.error (if s.objects.contains (kind.key o) then .conflict (kind.key o)
        else .notFound (kind.key o)), s) := by
  rw [replace_eq, SortedMap.contains]
  cases hs : s.objects.get? (kind.key o) with
  | none => rfl
  | some p => exact if_pos (h p hs)

/-- What is under another key is as before after a `get`. -/
theorem get?_get_of_ne (s : MemoryStore kind) (now : Timestamp) {key other : ObjectKey}
    (h : other ≠ key) : (s.get now key).2.objects.get? other = s.objects.get? other :=
  (get?_get ..).trans (if_neg fun hr => h hr.2)

end MemoryStore

/-- A replacement that the store refuses leaves the cluster as it is. -/
theorem Cluster.answer_replace_refused {c : Cluster} {now : Timestamp} {kind : Kind}
    {o : kind.Object} {e : StoreError} (hunqueued : c.failures = [])
    (h : (c.store kind).replace now o = (.error e, c.store kind)) :
    Cluster.answer now (.replace kind o) c = (.error e, c) := by
  rw [answer_of_none (nextFailure?_of_unqueued hunqueued _), perform_replace, h, setStore_store]

namespace Upsert.Ends

variable {now clock : Timestamp} {kind : Kind} {key : ObjectKey} {mutate : Mutation kind}
  {h : List Exchange} {result : Except Failure Operation} {c d : Cluster}

/-- An upsert whose mutation gives the target another key, and leaves it its version, is
refused by the store, which is left as the `get` has left it. -/
theorem of_renamed {found desired : kind.Object} (he : Upsert.Ends now key mutate h result)
    (hr : c.Replays clock h d) (hunqueued : c.failures = []) (hc : (c.store kind).Consistent)
    (hfound : c.stored? kind key = some found) (hm : mutate found .existing = .ok desired)
    (hkey : kind.key desired ≠ key)
    (hversion : (kind.metadata desired).resourceVersion = (kind.metadata found).resourceVersion) :
    result = .error (.ofStore (if (c.store kind).objects.contains (kind.key desired) then
        .conflict (kind.key desired) else .notFound (kind.key desired))) ∧
      d = c.setStore kind ((c.store kind).get clock key).2 := by
  have hget := Cluster.answer_get_of_unqueued hunqueued clock kind key
  rw [hfound] at hget
  have hleft := (Cluster.answer_get_ok hget).2
  have hread {other : Option kind.Object}
      (ha : (Cluster.answer clock (.get kind key) c).1 = .ok other) : some found = other :=
    Except.ok.inj (hget.symm.trans ha)
  have hne : desired ≠ found := by
    rintro rfl
    exact hkey (hc.filed hfound)
  -- Nothing has happened under the new key, so the version that was read is not there.
  have hrefused := MemoryStore.replace_of_other_version (s := ((c.store kind).get clock key).2)
    clock (o := kind.touch desired now) (by
      intro p hp hp'
      rw [Kind.key_touch, MemoryStore.get?_get_of_ne _ clock hkey] at hp
      rw [Kind.metadata_touch] at hp'
      exact hc.resourceVersion_ne hfound hp hkey (hp'.trans hversion))
  rw [Kind.key_touch, SortedMap.contains, MemoryStore.get?_get_of_ne _ clock hkey,
    ← SortedMap.contains] at hrefused
  have hreplace := Cluster.answer_replace_refused ((Cluster.answer_ok hget).2.trans hunqueued)
    (by rw [hleft, Cluster.store_setStore_self]; exact hrefused)
  cases he with
  | unread e => cases hget.symm.trans hr.1
  | notShaped hd => cases hread hr.1
  | notCreated e hd => cases hread hr.1
  | created stored hd => cases hread hr.1
  | notReshaped hd =>
    obtain rfl := Option.some.inj (hread hr.1)
    cases hm.symm.trans hd
  | unchanged hd =>
    obtain rfl := Option.some.inj (hread hr.1)
    exact absurd (Except.ok.inj (hm.symm.trans hd)) hne
  | notUpdated e hd hd' =>
    obtain ⟨ha, hanswer, rfl⟩ := hr
    obtain rfl := Option.some.inj (hread ha)
    obtain rfl := Except.ok.inj (hm.symm.trans hd)
    rw [hreplace] at hanswer ⊢
    rw [← Except.error.inj hanswer]
    exact ⟨rfl, hleft⟩
  | updated stored hd hd' =>
    obtain ⟨ha, hanswer, -⟩ := hr
    obtain rfl := Option.some.inj (hread ha)
    obtain rfl := Except.ok.inj (hm.symm.trans hd)
    rw [hreplace] at hanswer
    cases hanswer

end Upsert.Ends

namespace MemoryStore

variable {kind : Kind}

/-- Versions identify contents. After any acts on an empty store every object is under its own
key, with a version that was given out and that no object under another key has, and the store
has counted the creations and replacements that it accepted.

So a replacement that names the version of an object that was read, and is accepted, overwrites
the object that was read, and from that reading on nothing was put down and no race took place
under its key. And an upsert that gives a target another key but leaves it its version fails,
since the version is not there or there is nothing, and changes no object. -/
theorem versions_identify_contents (acts : List (Act kind)) :
    let s := after acts
    (∀ key o, s.objects.get? key = some o → kind.key o = key ∧
      ∃ v ≤ s.versions, (kind.metadata o).resourceVersion = some (toString v)) ∧
    (∀ key other o p, s.objects.get? key = some o → s.objects.get? other = some p →
      other ≠ key → (kind.metadata p).resourceVersion ≠ (kind.metadata o).resourceVersion) ∧
    s.writes = acceptedFrom {} acts ∧
    (∀ now key read later clock o stored, (s.get now key).1 = some read →
      (kind.metadata o).resourceVersion = (kind.metadata read).resourceVersion →
      let t := after (acts ++ .get now key :: later)
      (t.replace clock o).1 = .ok stored →
        kind.key o = key ∧ t.objects.get? key = some read ∧
        ∀ earlier act rest, .get now key :: later = earlier ++ act :: rest →
          ¬act.Disturbs (after (acts ++ earlier)) key) ∧
    ∀ (c : Cluster) now clock key found mutate desired, c.store kind = s → c.failures = [] →
      s.objects.get? key = some found → mutate found .existing = .ok desired →
      kind.key desired ≠ key →
      (kind.metadata desired).resourceVersion = (kind.metadata found).resourceVersion →
      let r := (SqlOperator.upsert now kind key mutate).run.run (Cluster.answer clock) c
      r.value = .error (.ofStore (if s.objects.contains (kind.key desired) then
          .conflict (kind.key desired) else .notFound (kind.key desired))) ∧
        r.state = c.setStore kind (s.get clock key).2 ∧
        (s.raceArmed = false → r.state = c) := by
  intro s
  have hs : s.Consistent := consistent_after acts
  refine ⟨?_, ?_, ?_, ?_, ?_⟩
  · intro key o ho
    obtain ⟨v, hle, hv⟩ := hs.versioned ho
    exact ⟨hs.filed ho, v, hle, hv⟩
  · intro key other o p ho hp hne
    exact hs.resourceVersion_ne ho hp hne
  · exact (writes_afterFrom {} acts).trans (Nat.zero_add _)
  · intro now key read later clock o stored hread hversion t haccepted
    rw [get_fst] at hread
    have ht : t = s.afterFrom (.get now key :: later) := after_append ..
    rcases t.replace_cases clock o with ⟨before, hbefore, hsame, -⟩ | ⟨e, hrefused⟩
    · rw [ht] at hbefore ⊢
      obtain ⟨hkey, rfl, hundisturbed⟩ :=
        hs.undisturbed hread _ hbefore (hsame.trans hversion)
      refine ⟨hkey, hkey ▸ hbefore, ?_⟩
      intro earlier act rest heq
      rw [after_append]
      exact hundisturbed earlier act rest heq
    · rw [hrefused] at haccepted
      cases haccepted
  · intro c now clock key found mutate desired hc hunqueued hfound hm hkey hversion r
    have hends := (upsert_always now kind key mutate).ends_run (Cluster.answer clock) c
    have hreplays := Cluster.replays_run clock (SqlOperator.upsert now kind key mutate).run c
    obtain ⟨hvalue, hstate⟩ := hends.of_renamed hreplays hunqueued (hc ▸ hs)
      ((congrArg (·.objects.get? key) hc).trans hfound) hm hkey hversion
    rw [hc] at hvalue hstate
    refine ⟨hvalue, hstate, ?_⟩
    intro hunarmed
    calc r.state = c.setStore kind (s.get clock key).2 := hstate
      _ = c.setStore kind (c.store kind) := by rw [get_of_not_raceArmed hunarmed, hc]
      _ = c := Cluster.setStore_store c kind

end MemoryStore

namespace Sample

/-- A secret of this name and type. -/
def typed (name type : String) : Secret where
  metadata := { name := some name, «namespace» := some "ns" }
  type := some type

def firstKey : ObjectKey := ⟨"ns", "first"⟩

/-- Two secrets, one of which a race has renewed after it was read. -/
def settling : List (MemoryStore.Act .secret) :=
  [.insert default (typed "first" "old"), .insert default (typed "second" "old"), .armRace,
    .get default ⟨"ns", "second"⟩]

/-- What is done between reading the first secret and replacing it: creating the second one
again, which is refused. -/
def meanwhile : List (MemoryStore.Act .secret) :=
  [.create default (typed "second" "new"), .get default ⟨"ns", "second"⟩]

/-- Give a secret the name of the second one. -/
def rename : Mutation .secret := fun secret _ =>
  .ok { secret with metadata := { secret.metadata with name := some "second" } }

end Sample

namespace MemoryStore

open Sample

/-- The first secret is replaced by what was made of it, and cannot be written over the
second one. -/
theorem versions_identify_contents_of_two :
    let s := after settling
    ∃ read : Secret, (s.get default firstKey).1 = some read ∧
      (∃ stored, ((after (settling ++ .get default firstKey :: meanwhile)).replace default
          ({ read with type := some "new" } : Secret)).1 = .ok stored) ∧
      (after (settling ++ .get default firstKey :: meanwhile)).objects.get? firstKey =
        some read ∧
      ∀ c : Cluster, c.store .secret = s → c.failures = [] →
        let r := (SqlOperator.upsert default .secret firstKey rename).run.run
          (Cluster.answer default) c
        r.value = .error (.ofStore (.conflict ⟨"ns", "second"⟩)) ∧ r.state = c := by
  intro s
  obtain ⟨-, -, -, hreplace, hupsert⟩ := versions_identify_contents settling
  have hread : (s.get default firstKey).1.any (fun read : Secret =>
      read.metadata.namespace = some "ns" &&
        ((after (settling ++ .get default firstKey :: meanwhile)).replace default
          ({ read with type := some "new" } : Secret)).1.isOk) = true := by
    decide +kernel
  obtain ⟨read, hread, hboth⟩ := (Option.any_eq_true ..).mp hread
  obtain ⟨hns, hok⟩ := Bool.and_eq_true_iff.mp hboth
  cases hstored : ((after (settling ++ .get default firstKey :: meanwhile)).replace default
      ({ read with type := some "new" } : Secret)).1 with
  | error e =>
    rw [hstored] at hok
    cases hok
  | ok stored =>
    obtain ⟨-, hthere, -⟩ := hreplace default firstKey read meanwhile default
      ({ read with type := some "new" } : Secret) stored hread rfl hstored
    refine ⟨read, hread, ⟨stored, hstored⟩, hthere, ?_⟩
    intro c hc hunqueued r
    have hkey : Kind.secret.key
        ({ read with metadata := { read.metadata with name := some "second" } } : Secret) =
        ⟨"ns", "second"⟩ := by
      simp [Kind.key, Kind.metadata, ObjectKey.ofMetadata, Metadata.anyName, of_decide_eq_true hns]
    obtain ⟨hvalue, -, hstate⟩ := hupsert c default default firstKey read rename _ hc hunqueued
      (by rwa [get_fst] at hread) rfl (by rw [hkey]; decide) rfl
    have hoccupied : (after settling).objects.contains ⟨"ns", "second"⟩ = true := by
      decide +kernel
    rw [hkey, if_pos hoccupied] at hvalue
    exact ⟨hvalue, hstate (by decide +kernel)⟩

end MemoryStore

end SqlOperator
