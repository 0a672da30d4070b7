import BurstProfiler.Profile

/-! Where finished profiles go: into a store that somebody drains, each as soon as it is
finished, or into a batch that a callback receives when the run ends. -/

set_option autoImplicit false

namespace BurstProfiler

/-- Profiles that wait to be collected, oldest first. -/
structure PendingStore where
  profiles : List Profile
  deriving DecidableEq, Repr

namespace PendingStore

def empty : PendingStore := ⟨[]⟩

instance : Inhabited PendingStore := ⟨empty⟩

def append (store : PendingStore) (p : Profile) : PendingStore := ⟨store.profiles ++ [p]⟩

def drain (store : PendingStore) : List Profile × PendingStore := (store.profiles, empty)

def length (store : PendingStore) : Nat := store.profiles.length

def isEmpty (store : PendingStore) : Bool := store.profiles.isEmpty

def inspect (store : PendingStore) : String :=
  Text.inspectRecord "PendingProfiles" [
    ("profiles", Text.inspectRecord "Mutex" [
      ("data", Text.inspectList (store.profiles.map Profile.inspect))])]

end PendingStore

inductive Sink where
  | custom (batch : List Profile)
  | pending
  deriving DecidableEq, Repr

namespace Sink

def publish (sink : Sink) (store : PendingStore) (p : Profile) : Sink × PendingStore :=
  match sink with
  | .custom batch => (.custom (batch ++ [p]), store)
  | .pending => (.pending, store.append p)

def batch? : Sink → Option (List Profile)
  | .custom batch => some batch
  | .pending => none

def inspect (sink : Sink) (store : PendingStore) : String :=
  match sink with
  | .custom batch => Text.inspectRecord "Custom" [("batched", toString batch.length)]
  | .pending => Text.inspectTuple "Pending" [store.inspect]

end Sink

end BurstProfiler
