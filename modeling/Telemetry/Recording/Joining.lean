/-! Lists in which items that belong together are joined. A later item goes into the first one that takes
it, so joined items keep the place of the one that was met first. -/
namespace Telemetry

def joinInto {α : Type} (join? : α → α → Option α) (new : α) : List α → List α
  | [] => [new]
  | first :: rest =>
    match join? first new with
    | some both => both :: rest
    | none => first :: joinInto join? new rest

def joined {α : Type} (join? : α → α → Option α) (items : List α) : List α :=
  items.foldl (fun met new => joinInto join? new met) []

end Telemetry
