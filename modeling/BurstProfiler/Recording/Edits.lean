import BurstProfiler.Recording.Tables

/-! Changes that somebody else makes to the rows of a recording. A change answers how many rows
it met; a column that may not be null refuses the change if it met a row. -/

set_option autoImplicit false

namespace BurstProfiler.Recording

inductive Edit where
  | profile (id : Option Int) (durationMicros periodMicros preservesOrder : Option Int)
  | frame (sample depth : Option Int) (address moduleIndex : Option Int)
  | position (sample : Option Int) (position : Option Int)
  | deleteFrame (sample depth : Option Int)
  | deleteLink (profile ordinal : Option Int)
  deriving DecidableEq, Repr

/-- A null equals nothing. -/
def isValue (wanted : Option Int) (value : Int) : Bool := wanted == some value

def updateRows {α : Type} (met : α → Bool) (change : α → α) (rows : List α) : Nat × List α :=
  ((rows.filter met).length, rows.map (fun row => if met row then change row else row))

def deleteRows {α : Type} (met : α → Bool) (rows : List α) : Nat × List α :=
  ((rows.filter met).length, rows.filter (fun row => !met row))

def Tables.edit (t : Tables) : Edit → Except EngineFault (Nat × Tables)
  | .profile id durationMicros periodMicros preservesOrder =>
    let met := fun (row : ProfileRow) => isValue id row.id
    if !t.profiles.any met then .ok (0, t)
    else
      match durationMicros, periodMicros, preservesOrder with
      | none, _, _ => .error (.nullColumn "profiles" "duration_us")
      | _, none, _ => .error (.nullColumn "profiles" "sampling_period_us")
      | _, _, none => .error (.nullColumn "profiles" "preserve_sample_ordering")
      | some d, some p, some o =>
        let (n, rows) := updateRows met
          (fun row => ⟨row.id, d, p, o⟩) t.profiles
        .ok (n, { t with profiles := rows })
  | .frame sample depth address moduleIndex =>
    let met := fun (row : FrameRow) => isValue sample row.sample && isValue depth row.depth
    if !t.frames.any met then .ok (0, t)
    else
      match address with
      | none => .error (.nullColumn "frames" "instruction_pointer")
      | some address =>
        let (n, rows) := updateRows met
          (fun row => { row with address := address, moduleIndex := moduleIndex }) t.frames
        .ok (n, { t with frames := rows })
  | .position sample position =>
    let met := fun (row : SampleRow) => isValue sample row.id
    if !t.samples.any met then .ok (0, t)
    else
      match position with
      | none => .error (.nullColumn "samples" "seq")
      | some position =>
        let (n, rows) := updateRows met (fun row => { row with position := position }) t.samples
        .ok (n, { t with samples := rows })
  | .deleteFrame sample depth =>
    let (n, rows) := deleteRows
      (fun (row : FrameRow) => isValue sample row.sample && isValue depth row.depth) t.frames
    .ok (n, { t with frames := rows })
  | .deleteLink profile ordinal =>
    let (n, rows) := deleteRows
      (fun (row : LinkRow) => isValue profile row.profile && isValue ordinal row.ordinal) t.links
    .ok (n, { t with links := rows })

end BurstProfiler.Recording
