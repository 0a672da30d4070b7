import BurstProfiler.Duration.Decimal
import BurstProfiler.Duration.Spans
import BurstProfiler.Text.Inspect

/-! The plan of a run: how many bursts, how many samples in each, and the intervals between
them. -/

set_option autoImplicit false

namespace BurstProfiler

structure Params where
  initialDelay : Duration
  bursts : UInt32
  burstInterval : Duration
  samplesPerBurst : UInt32
  samplingInterval : Duration
  preservesOrder : Bool
  deriving DecidableEq, Repr

namespace Params

/-- One burst of three hundred samples, ten a second. -/
def standard : Params where
  initialDelay := .zero
  bursts := 1
  burstInterval := .ofMillis 10000
  samplesPerBurst := 300
  samplingInterval := .ofMillis 100
  preservesOrder := false

instance : Inhabited Params := ⟨standard⟩

def burstSpan? (p : Params) : Option Duration :=
  p.samplingInterval.scale? (p.samplesPerBurst.toNat - 1)

/-- From the start of the run to its last sample; none if that is no duration. -/
def nominal? (p : Params) : Option Duration :=
  if p.bursts = 0 then some p.initialDelay
  else do
    let between ← p.burstInterval.scale? (p.bursts.toNat - 1)
    let span ← p.burstSpan?
    (← p.initialDelay.add? between).add? span

def describe (p : Params) : String :=
  toString p.bursts.toNat ++ " burst(s) x " ++ toString p.samplesPerBurst.toNat ++
    " sample(s) every " ++ p.samplingInterval.text ++ ", bursts every " ++
    p.burstInterval.text ++ ", initial delay " ++ p.initialDelay.text

def inspect (p : Params) : String :=
  Text.inspectRecord "SamplingParams" [
    ("initial_delay", p.initialDelay.inspect),
    ("bursts", toString p.bursts.toNat),
    ("burst_interval", p.burstInterval.inspect),
    ("samples_per_burst", toString p.samplesPerBurst.toNat),
    ("sampling_interval", p.samplingInterval.inspect),
    ("preserve_sample_ordering", Text.inspectBool p.preservesOrder)]

end Params

end BurstProfiler
