import Telemetry.Recording.Series

/-! Instruments with the values that were measured, and what a cumulative reader collects. An instrument
that was set up badly records nothing, and some shapes leave single values out. Instruments of one
meter that agree in all but the letter case of their names feed one stream, which is set up as the
first of them was. A stream without points and a meter without metrics are not collected. -/
namespace Telemetry

/-- An exponential histogram has bounds that are checked like any others, but it chooses its own. -/
inductive InstrumentShape where
  | counter
  | upDownCounter
  | gauge
  | histogram (bounds : List Float)
  | exponentialHistogram (bounds : List Float)

inductive InstrumentKind where
  | counter
  | upDownCounter
  | gauge
  | histogram
  deriving DecidableEq

inductive Measurements where
  | signed (series : List (Series Int64))
  | unsigned (series : List (Series UInt64))
  | double (series : List (Series Float))

structure Instrument where
  name : String
  description : String
  unit : String
  shape : InstrumentShape
  measurements : Measurements

structure Meter where
  scope : Scope
  instruments : List Instrument

namespace InstrumentShape

def kind : InstrumentShape → InstrumentKind
  | .counter => .counter
  | .upDownCounter => .upDownCounter
  | .gauge => .gauge
  | .histogram _ => .histogram
  | .exponentialHistogram _ => .histogram

def bounds : InstrumentShape → List Float
  | .histogram bounds => bounds
  | .exponentialHistogram bounds => bounds
  | _ => []

/-- Whether a value is recorded at all. The infinities and NaN have no place on an exponential scale. -/
def records {α : Type} [CollectedNumber α] (shape : InstrumentShape) (value : α) : Bool :=
  match shape with
  | .exponentialHistogram _ => (CollectedNumber.toDouble value).isFinite
  | _ => true

def collect? {α : Type} [Add α] [OfNat α 0] [CollectedNumber α] (start time : Instant)
    (measured : List (Series α)) (shape : InstrumentShape) : Option (Aggregation α) :=
  let recorded := measured.map fun series => Series.mk series.attributes (series.values.filter shape.records)
  match Series.stream recorded with
  | [] => none
  | stream => some <| match shape with
    | .counter => .sum start time (stream.map (·.sumPoint))
    | .upDownCounter => .sum start time (stream.map (·.sumPoint))
    | .gauge => .gauge (some start) time (stream.filterMap (·.gaugePoint?))
    | .histogram bounds => .histogram start time (stream.map (·.histogramPoint bounds))
    | .exponentialHistogram _ => .exponentialHistogram start time (stream.map (·.exponentialPoint))

end InstrumentShape

namespace Measurements

def append? : Measurements → Measurements → Option Measurements
  | .signed a, .signed b => some (.signed (a ++ b))
  | .unsigned a, .unsigned b => some (.unsigned (a ++ b))
  | .double a, .double b => some (.double (a ++ b))
  | _, _ => none

def collect? (start time : Instant) (shape : InstrumentShape) : Measurements → Option CollectedData
  | .signed series => (shape.collect? start time series).map .signed
  | .unsigned series => (shape.collect? start time series).map .unsigned
  | .double series => (shape.collect? start time series).map .double

end Measurements

namespace Instrument

def validName (name : String) : Bool :=
  match name.toList with
  | [] => false
  | first :: rest =>
    first.isAlpha && rest.length < 255 &&
      rest.all fun c => c.isAlphanum || c = '_' || c = '.' || c = '-' || c = '/'

def validUnit (unit : String) : Bool :=
  unit.toList.length ≤ 63 && unit.toList.all (·.toNat < 128)

def validBounds (bounds : List Float) : Bool :=
  bounds.all Float.isFinite && (bounds.zip (bounds.drop 1)).all fun (low, high) => low < high

def valid (instrument : Instrument) : Bool :=
  validName instrument.name && validUnit instrument.unit && validBounds instrument.shape.bounds

def join? (a b : Instrument) : Option Instrument :=
  if a.name.toLower = b.name.toLower ∧ a.description = b.description ∧ a.unit = b.unit ∧
      a.shape.kind = b.shape.kind then
    (a.measurements.append? b.measurements).map fun both => { a with measurements := both }
  else none

def collect? (start time : Instant) (instrument : Instrument) : Option CollectedMetric :=
  (instrument.measurements.collect? start time instrument.shape).map fun data =>
    ⟨instrument.name, instrument.description, instrument.unit, data⟩

end Instrument

namespace Meter

def join? (a b : Meter) : Option Meter :=
  if a.scope == b.scope then some ⟨a.scope, a.instruments ++ b.instruments⟩ else none

def streams (meter : Meter) : List Instrument :=
  joined Instrument.join? (meter.instruments.filter (·.valid))

def collect? (start time : Instant) (meter : Meter) : Option CollectedScope :=
  match meter.streams.filterMap (·.collect? start time) with
  | [] => none
  | metrics => some ⟨meter.scope, metrics⟩

end Meter

/-- One collection of all meters. Without meters there is nothing to collect, not even a resource. -/
def Collection.ofMeters (start time : Instant) (resource : RecordedResource) (meters : List Meter) :
    Collection :=
  if meters.isEmpty then .empty
  else ⟨resource, (joined Meter.join? meters).filterMap (·.collect? start time)⟩

end Telemetry
