import BurstProfiler.Recording.Tables

/-! The tables that a file has, and the statements that set up those of a new recording: all tables
of an earlier one are dropped, and then all are created. -/

set_option autoImplicit false

namespace BurstProfiler.Recording

inductive TableName where
  | metadata
  | profiles
  | modules
  | links
  | samples
  | frames
  deriving DecidableEq, Repr

def TableName.text : TableName → String
  | .metadata => "meta"
  | .profiles => "profiles"
  | .modules => "modules"
  | .links => "profile_modules"
  | .samples => "samples"
  | .frames => "frames"

structure Catalog where
  metadata : Option (List (String × String))
  profiles : Option (List ProfileRow)
  modules : Option (List ModuleRow)
  links : Option (List LinkRow)
  samples : Option (List SampleRow)
  frames : Option (List FrameRow)
  deriving DecidableEq, Repr

inductive Definition where
  | dropIfExists (table : TableName)
  | create (table : TableName)
  deriving DecidableEq, Repr

/-- A table without rows, unless there is one of this name. -/
def newTable {α : Type} (name : TableName) : Option (List α) → Except EngineFault (List α)
  | none => .ok []
  | some _ => .error (.tableExists name.text)

def rowsOf {α : Type} (name : TableName) : Option (List α) → Except EngineFault (List α)
  | none => .error (.missingTable name.text)
  | some rows => .ok rows

namespace Catalog

def empty : Catalog := ⟨none, none, none, none, none, none⟩

def ofTables (t : Tables) : Catalog :=
  ⟨some t.metadata, some t.profiles, some t.modules, some t.links, some t.samples, some t.frames⟩

def drop (c : Catalog) : TableName → Catalog
  | .metadata => { c with metadata := none }
  | .profiles => { c with profiles := none }
  | .modules => { c with modules := none }
  | .links => { c with links := none }
  | .samples => { c with samples := none }
  | .frames => { c with frames := none }

def create (c : Catalog) (name : TableName) : Except EngineFault Catalog :=
  match name with
  | .metadata => (newTable name c.metadata).map (fun rows => { c with metadata := some rows })
  | .profiles => (newTable name c.profiles).map (fun rows => { c with profiles := some rows })
  | .modules => (newTable name c.modules).map (fun rows => { c with modules := some rows })
  | .links => (newTable name c.links).map (fun rows => { c with links := some rows })
  | .samples => (newTable name c.samples).map (fun rows => { c with samples := some rows })
  | .frames => (newTable name c.frames).map (fun rows => { c with frames := some rows })

def define (c : Catalog) : Definition → Except EngineFault Catalog
  | .dropIfExists table => .ok (c.drop table)
  | .create table => c.create table

def defineAll (c : Catalog) : List Definition → Except EngineFault Catalog
  | [] => .ok c
  | d :: rest => do
    let c ← c.define d
    c.defineAll rest

def tables (c : Catalog) : Except EngineFault Tables := do
  let metadata ← rowsOf .metadata c.metadata
  let profiles ← rowsOf .profiles c.profiles
  let modules ← rowsOf .modules c.modules
  let links ← rowsOf .links c.links
  let samples ← rowsOf .samples c.samples
  let frames ← rowsOf .frames c.frames
  pure ⟨metadata, profiles, modules, links, samples, frames⟩

end Catalog

def setup : List Definition :=
  [.dropIfExists .frames, .dropIfExists .samples, .dropIfExists .links, .dropIfExists .profiles,
    .dropIfExists .modules, .dropIfExists .metadata, .create .metadata, .create .profiles,
    .create .modules, .create .links, .create .samples, .create .frames]

-- Whatever tables there are, with whatever rows, there are six empty ones afterwards.
theorem Catalog.defineAll_setup (c : Catalog) : c.defineAll setup = .ok (.ofTables .empty) := rfl

end BurstProfiler.Recording
