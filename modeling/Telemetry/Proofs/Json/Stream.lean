import Telemetry.Proofs.Json.RoundTrip
import Telemetry.Proofs.Text.Utf8

/-! Trees printed one after another. No line feed is printed for a tree, so texts that each end in one come
apart at the line feeds. The text of an object ends where its brace is closed, so texts of objects come
apart even when nothing stands between them. -/
namespace Telemetry.Json

def IsObject : Json → Prop
  | .object _ => True
  | _ => False

namespace Reader

theorem value?_render_append {tree : Json} (printable : tree.Printable) (object : tree.IsObject) {fuel : Nat}
    (after : List Char) (enough : 2 * ((render tree).toList ++ after).length ≤ fuel) :
    value? fuel ((render tree).toList ++ after) = some (tree, after) := by
  have filled : tree.Every Filled := printable.mono fun _ both => both.1
  have text : joined (tree.pieces [.text (String.ofList after)]) = (render tree).toList ++ after := by
    rw [joined_pieces filled, joined_text, String.toList_ofList, joined_nil, List.append_nil]
  have last : joined [.text (String.ofList after)] = after := by
    rw [joined_text, String.toList_ofList, joined_nil, List.append_nil]
  cases tree with
  | object members =>
    have each : ∀ member ∈ members, ReadsBack member.2 := fun member among =>
      readsBack (forall_parts_object.mp (every_iff.mp printable).2 member among)
    rw [← text] at enough ⊢
    rw [value?_object_pieces printable each _ enough, last]
  | _ => exact object.elim

end Reader

end Telemetry.Json
