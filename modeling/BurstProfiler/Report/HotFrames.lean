import BurstProfiler.Duration.Spans
import BurstProfiler.Recording.HotFrames
import BurstProfiler.Recording.Loading
import BurstProfiler.Report.Csv
import BurstProfiler.Report.Table

/-! The report on the hottest frames, as a table under a heading or as comma-separated values. -/

set_option autoImplicit false

namespace BurstProfiler.Report

open BurstProfiler.Number BurstProfiler.Recording

def hexText (n : Nat) : List Char := ['0', 'x'] ++ hex n

structure Entry where
  frame : HotFrame
  share : Binary64
  deriving DecidableEq, Repr

def Entry.ofFrame (total : Nat) (frame : HotFrame) : Entry :=
  ⟨frame, percent frame.samples total⟩

def Entry.shareText (e : Entry) : List Char := e.share.fixedText 1

def fileName (path : List Char) : List Char :=
  (path.reverse.takeWhile (· != '/')).reverse

def moduleName : Option String → List Char
  | some path => fileName path.toList
  | none => "[unknown]".toList

/-- A line of comma-separated values; of these only the path may need quotes. -/
def csvLine (e : Entry) : List Char :=
  e.shareText ++ [','] ++ Nat.toDigits 10 e.frame.samples ++ [','] ++
    Csv.quoted (e.frame.module.getD "").toList ++ [','] ++ hexText e.frame.offset.toNat ++ ['\n']

def csvHeader : List Char := "self_pct,samples,module,offset\n".toList

def hotFramesCsv (entries : List Entry) : List Char := csvHeader ++ entries.flatMap csvLine

def hotFramesTable (entries : List Entry) : Table where
  style := .ruled
  header := ["SELF%", "SAMPLES", "MODULE", "OFFSET"].map Cell.ofString
  rows := entries.map (fun e => [
    ⟨e.shareText ++ ['%'], .right⟩,
    ⟨Nat.toDigits 10 e.frame.samples, .right⟩,
    ⟨moduleName e.frame.module, .left⟩,
    ⟨hexText e.frame.offset.toNat, .left⟩])

def truncatedToMillis (d : Duration) : Duration := .ofMillis (UInt64.ofNat d.millis)

def heading (file workload : String) (totals : Totals) : String :=
  "# " ++ file ++ "\n# Workload: " ++ workload ++ " | Profiles: " ++ toString totals.profiles ++
    " | Samples: " ++ toString totals.samples ++ " | Sampled for " ++
    (truncatedToMillis totals.duration).text ++ "\n\n"

def hotFramesText (entries : List Entry) : String :=
  if entries.isEmpty then "No samples recorded.\n"
  else String.ofList (hotFramesTable entries).text ++ "\n"

structure Selection where
  limit : Nat
  threshold : Binary64
  csv : Bool
  deriving DecidableEq, Repr

def hotFramesReport (file : String) (t : Tables) (s : Selection) : Except DatabaseFault String := do
  let frames ← t.hotFramesFrom s.limit s.threshold
  let entries := frames.map (Entry.ofFrame t.samples.length)
  if s.csv then pure (String.ofList (hotFramesCsv entries))
  else
    match t.totals with
    | .error fault => throw (.engine fault)
    | .ok totals =>
      pure (heading file ((t.metadata? "workload").getD "unknown") totals ++
        hotFramesText entries)

end BurstProfiler.Report
