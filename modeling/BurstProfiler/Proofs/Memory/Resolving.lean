import BurstProfiler.Memory.FrameReader
import Std.Data.HashMap.Lemmas

/-! What a lookup gives. The module of an address is told by the snapshot in force and by the
remembered build ids; these are kept from one lookup to the next, and by a new snapshot too. The
reader of frames takes a new snapshot at most once. -/

set_option autoImplicit false

namespace BurstProfiler.Memory

namespace Resolver

def Recalls (r s : Resolver) : Prop :=
  ∀ path id : String, r.buildIds[path]? = some id → s.buildIds[path]? = some id

theorem Recalls.refl (r : Resolver) : r.Recalls r := fun _ _ known => known

theorem Recalls.trans {r s t : Resolver} (h : r.Recalls s) (k : s.Recalls t) : r.Recalls t :=
  fun path id known => k path id (h path id known)

variable (around : Surroundings) (r : Resolver) (path : String) (address : UInt64)

theorem buildId_known {id : String} (known : r.buildIds[path]? = some id) :
    r.buildId around path = (id, r) := by
  simp only [buildId, known]

theorem buildId_new (new : r.buildIds[path]? = none) :
    r.buildId around path = ((around.buildId path).getD "",
      { r with buildIds := r.buildIds.insert path ((around.buildId path).getD "") }) := by
  simp only [buildId, new]

theorem maps_buildId : (r.buildId around path).2.maps = r.maps := by
  unfold buildId
  split <;> rfl

theorem getElem?_buildId :
    (r.buildId around path).2.buildIds[path]? = some (r.buildId around path).1 := by
  cases known : r.buildIds[path]? with
  | some id => rw [buildId_known around r path known, known]
  | none =>
    rw [buildId_new around r path known]
    exact Std.HashMap.getElem?_insert_self

theorem recalls_buildId : r.Recalls (r.buildId around path).2 := by
  cases known : r.buildIds[path]? with
  | some id => rw [buildId_known around r path known]; exact .refl r
  | none =>
    rw [buildId_new around r path known]
    intro other id remembered
    have differs : ¬ path = other := by
      rintro rfl
      rw [known] at remembered
      cases remembered
    simpa only [Std.HashMap.getElem?_insert, beq_iff_eq, if_neg differs] using remembered

theorem lookup_none (absent : locate? r.maps address = none) :
    r.lookup around address = (none, r) := by
  simp only [lookup, absent]

theorem lookup_some {base : UInt64} (found : locate? r.maps address = some (path, base)) :
    r.lookup around address =
      (some ⟨base, (r.buildId around path).1, .ofString path⟩, (r.buildId around path).2) := by
  simp only [lookup, found]

theorem readings_buildId : (r.buildId around path).2.readings = r.readings := by
  unfold buildId
  split <;> rfl

theorem readings_lookup : (r.lookup around address).2.readings = r.readings := by
  unfold lookup
  split
  · rfl
  · exact readings_buildId around r _

theorem maps_lookup : (r.lookup around address).2.maps = r.maps := by
  unfold lookup
  split
  · rfl
  · exact maps_buildId around r _

theorem recalls_lookup : r.Recalls (r.lookup around address).2 := by
  unfold lookup
  split
  · exact .refl r
  · exact recalls_buildId around r _

-- A lookup that hits leaves the resolver with the place and the build id of what it gave.
theorem lookup_hit {m : Module} (hit : (r.lookup around address).1 = some m) :
    ∃ path, locate? r.maps address = some (path, m.base) ∧ m.path = .ofString path ∧
      (r.lookup around address).2.buildIds[path]? = some m.buildId := by
  cases found : locate? r.maps address with
  | none =>
    rw [lookup_none around r address found] at hit
    cases hit
  | some place =>
    obtain ⟨path, base⟩ := place
    rw [lookup_some around r path address found] at hit ⊢
    cases hit
    exact ⟨path, rfl, rfl, getElem?_buildId around r path⟩

theorem lookup_miss (miss : (r.lookup around address).1 = none) :
    locate? r.maps address = none := by
  cases found : locate? r.maps address with
  | none => rfl
  | some place =>
    rw [lookup_some around r place.1 address found] at miss
    cases miss

theorem lookup_lookup :
    ((r.lookup around address).2.lookup around address).1 = (r.lookup around address).1 := by
  cases found : locate? r.maps address with
  | none =>
    have missed := lookup_none around r address found
    rw [missed]
    exact congrArg Prod.fst missed
  | some place =>
    obtain ⟨path, base⟩ := place
    rw [lookup_some around r path address found]
    dsimp only
    have again : locate? (r.buildId around path).2.maps address = some (path, base) := by
      rw [maps_buildId]
      exact found
    rw [lookup_some around _ path address again,
      buildId_known around _ path (getElem?_buildId around r path)]

end Resolver

namespace FrameReader

open Resolver

/-- What asking for the module of an address does to a reader, which gives `found` and goes on as
`behind`. -/
structure Asked (around : Surroundings) (r : FrameReader) (address : UInt64)
    (found : Option Module) (behind : FrameReader) : Prop where
  looked : (behind.resolver.lookup around address).1 = found
  recalls : r.resolver.Recalls behind.resolver
  remembers : ∀ m, found = some m → ∃ path, locate? behind.resolver.maps address =
    some (path, m.base) ∧ m.path = .ofString path ∧
    behind.resolver.buildIds[path]? = some m.buildId
  /-- The snapshot is the old one, or this is the one time that a new one is taken. -/
  snapshot : (behind.resolver.maps = r.resolver.maps ∧
      (behind.refreshed = r.refreshed ∨ behind.refreshed = true)) ∨
    (r.refreshed = false ∧ behind.refreshed = true ∧ around.maps = some behind.resolver.maps)

variable (around : Surroundings) (r : FrameReader) (address : UInt64)

theorem asked_of_lookup {s : Resolver} {refreshed : Bool}
    (recalls : r.resolver.Recalls s)
    (snapshot : (s.maps = r.resolver.maps ∧ (refreshed = r.refreshed ∨ refreshed = true)) ∨
      (r.refreshed = false ∧ refreshed = true ∧ around.maps = some s.maps)) :
    Asked around r address (s.lookup around address).1
      ⟨(s.lookup around address).2, refreshed⟩ where
  looked := lookup_lookup around s address
  recalls := recalls.trans (recalls_lookup around s address)
  remembers m hit := by
    obtain ⟨path, place, name, id⟩ := lookup_hit around s address hit
    exact ⟨path, (maps_lookup around s address).symm ▸ place, name, id⟩
  snapshot := by
    rw [maps_lookup around s address]
    exact snapshot

theorem asked_moduleOf :
    Asked around r address (r.moduleOf around address).1 (r.moduleOf around address).2 := by
  have first := @asked_of_lookup around r address r.resolver r.refreshed (.refl r.resolver)
    (.inl ⟨rfl, .inl rfl⟩)
  cases hit : (r.resolver.lookup around address).1 with
  | some m =>
    have given : r.resolver.lookup around address =
        (some m, (r.resolver.lookup around address).2) := Prod.ext hit rfl
    rw [hit] at first
    have answer : r.moduleOf around address =
        (some m, ⟨(r.resolver.lookup around address).2, r.refreshed⟩) := by
      rw [moduleOf, given]
    rw [answer]
    exact first
  | none =>
    have missed := lookup_none around r.resolver address (lookup_miss around r.resolver address hit)
    rw [missed] at first
    cases known : r.refreshed with
    | true =>
      have answer : r.moduleOf around address = (none, ⟨r.resolver, r.refreshed⟩) := by
        rw [moduleOf, missed]
        exact if_pos known
      rw [answer]
      exact first
    | false =>
      have answer : r.moduleOf around address = ((r.resolver.resolve around address).1,
          ⟨(r.resolver.resolve around address).2, true⟩) := by
        rw [moduleOf, missed]
        exact if_neg (Bool.eq_false_iff.1 known)
      rw [answer, resolve, missed]
      dsimp only
      cases reread : around.maps with
      | none =>
        simp only [Resolver.reread, reread]
        let unread : Resolver := { r.resolver with readings := r.resolver.readings ++ [none] }
        have again : unread.lookup around address = (none, unread) :=
          lookup_none around unread address (lookup_miss around r.resolver address hit)
        have second := @asked_of_lookup around r address unread true
          (fun _ _ known => known) (.inl ⟨rfl, .inr rfl⟩)
        rw [again] at second
        exact second
      | some maps =>
        simp only [Resolver.reread, reread]
        exact asked_of_lookup around r address (fun _ _ known => known)
          (.inr ⟨known, rfl, reread⟩)

end FrameReader

end BurstProfiler.Memory
