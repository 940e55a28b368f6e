import Telemetry.Exporter

/-! Building an exporter from what was set and, for limits that were not set, from the environment. -/
namespace Telemetry

structure ExporterBuilder (signal : Signal) where
  resource : Option Resource
  limits : Option AttributeLimits

namespace ExporterBuilder

variable {signal : Signal} {σ : Type}

def environmentLimits (signal : Signal) (environment : Environment) : AttributeLimits :=
  match signal with
  | .logs => (SignalLimits.ofEnvironment environment).logRecord
  | .traces => (SignalLimits.ofEnvironment environment).span
  | .metrics => .unlimited

def build (builder : ExporterBuilder signal) (environment : Environment) (sink : Sink σ) (state : σ) :
    Exporter signal σ × List Diagnostic :=
  let resource := builder.resource.getD .empty
  match builder.limits, signal with
  | some limits, _ => (⟨sink, .ready state, resource, limits⟩, [])
  | none, .metrics => (⟨sink, .ready state, resource, .unlimited⟩, [])
  | none, signal =>
    (⟨sink, .ready state, resource, environmentLimits signal environment⟩,
      SignalLimits.warnings environment)

private def limitText : Option Nat → String
  | none => "None"
  | some limit => "Some(" ++ Decimal.natural limit ++ ")"

private def record (name : String) (fields : List (String × String)) : String :=
  name ++ " \x7b " ++ String.intercalate ", " (fields.map fun (field, text) => field ++ ": " ++ text) ++ " \x7d"

private def limitsText : Option AttributeLimits → String
  | none => "None"
  | some limits =>
    "Some(" ++ record "AttributeLimits" [("value_length_limit", limitText limits.valueLength),
      ("count_limit", limitText limits.count)] ++ ")"

def debugText? (builder : ExporterBuilder signal) : Option String :=
  if builder.resource.isSome then none
  else
    let resource := ("resource", record "Resource" [("attributes", "[]")])
    let limits := match signal with
      | .metrics => []
      | .logs => [("limits", limitsText builder.limits)]
      | .traces => [("limits", limitsText builder.limits)]
    some (record (signal.exporterName ++ "Builder") (resource :: limits))

end ExporterBuilder

end Telemetry
