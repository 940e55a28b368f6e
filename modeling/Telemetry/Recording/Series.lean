import Telemetry.Recording.Collection
import Telemetry.Recording.Joining

/-! Series of measured values, and the points that are collected of them. All values under one attribute
set make one series, in whatever order the attributes are given. A set with NaN in it is unlike any
other and unlike itself, so each value under it makes a series of its own. A stream keeps only so many
sets apart, and the values under all further sets come together in one series. -/
namespace Telemetry

structure Series (α : Type) where
  attributes : StandardAttributes
  values : List α

def defaultBounds : List Float :=
  [0, 5, 10, 25, 50, 75, 100, 250, 500, 750, 1000, 2500, 5000, 7500, 10000]

def bucketOf (bounds : List Float) (x : Float) : Nat :=
  (bounds.findIdx? fun bound => !(bound < x)).getD bounds.length

def bucketCounts (bounds : List Float) (values : List Float) : List UInt64 :=
  if bounds.isEmpty then []
  else (List.range (bounds.length + 1)).map fun position =>
    UInt64.ofNat (values.countP fun x => bucketOf bounds x = position)

namespace Series

variable {α : Type}

/-- The number of attribute sets that a stream keeps apart, the empty set not counted. -/
def setLimit : Nat :=
  2000

def overflowAttributes : StandardAttributes :=
  [("otel.metric.overflow", .bool true)]

def sameSet (a b : Series α) : Bool :=
  a.attributes.identical b.attributes

def join? (a b : Series α) : Option (Series α) :=
  if a.sameSet b then some ⟨a.attributes, a.values ++ b.values⟩ else none

/-- The parts of a series that are met one by one: all of it, or single values under a set unlike itself. -/
def parts (series : Series α) : List (Series α) :=
  if series.sameSet series then [series]
  else series.values.map fun value => ⟨series.attributes, [value]⟩

def addTo (stream : List (Series α)) (new : Series α) : List (Series α) :=
  let known := new.attributes.isEmpty || stream.any (·.sameSet new)
  if known || stream.countP (!·.attributes.isEmpty) < setLimit then joinInto join? new stream
  else joinInto join? ⟨overflowAttributes, new.values⟩ stream

def stream (measured : List (Series α)) : List (Series α) :=
  let sorted := measured.map fun series => Series.mk series.attributes.byKey series.values
  ((sorted.filter (!·.values.isEmpty)).flatMap parts).foldl addTo []

def total [Add α] [OfNat α 0] (series : Series α) : α :=
  series.values.foldl (· + ·) 0

def sumPoint [Add α] [OfNat α 0] (series : Series α) : CollectedPoint α :=
  ⟨series.attributes, series.total⟩

def gaugePoint? (series : Series α) : Option (CollectedPoint α) :=
  series.values.getLast?.map fun value => ⟨series.attributes, value⟩

def histogramPoint [Add α] [OfNat α 0] [CollectedNumber α] (bounds : List Float) (series : Series α) :
    CollectedHistogramPoint α :=
  ⟨series.attributes, UInt64.ofNat series.values.length, series.total,
    bucketCounts bounds (series.values.map CollectedNumber.toDouble), bounds⟩

def exponentialPoint [Add α] [OfNat α 0] (series : Series α) : CollectedExponentialPoint α :=
  ⟨series.attributes, UInt64.ofNat series.values.length, series.total⟩

end Series

end Telemetry
