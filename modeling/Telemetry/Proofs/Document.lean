import Telemetry.Proofs.Json.Gap
import Telemetry.Proofs.Json.RoundTrip
import Telemetry.Text.Utf8

/-! Documents without gaps. Their text is that of their body, with a line feed after it for some signals,
and the text tells the body. -/
namespace Telemetry.Document

open Json

def terminator (document : Document) : String :=
  if document.terminated then "\n" else ""

/-- A document fails at its first gap. -/
theorem failure?_eq (document : Document) :
    document.failure? = document.body.gaps.head?.map .unsupportedValue := by
  have after : firstGap? (if document.terminated then [.text "\n"] else []) = none := by split <;> rfl
  rw [failure?, pieces, firstGap?_eq, after, Option.or_none]

theorem failure?_eq_none (document : Document) : document.failure? = none ↔ document.body.Every Filled := by
  rw [failure?_eq, Option.map_eq_none_iff, List.head?_eq_none_iff, gaps_eq_nil]

theorem toList_text (document : Document) : document.text.toList = Json.joined document.pieces := by
  rw [text, String.toList_join]
  rfl

/-- A document with gaps has its text up to the first of them in common with what fills them. -/
theorem text_filled {document whole : Document} {patch : String → Json} {reason : String}
    (first : document.body.gaps.head? = some reason) (body : document.body.fill patch = whole.body)
    (kind : document.terminated = whole.terminated) (filled : (patch reason).Every Filled) :
    ∃ after, whole.text = document.text ++ ((patch reason).render ++ after) := by
  have gap : firstGap? document.pieces = some reason := by
    rw [pieces, firstGap?_eq, first]
    rfl
  have patched : patched patch document.pieces = whole.pieces := by
    rw [pieces, patched_pieces, body, kind, pieces]
    cases whole.terminated <;> rfl
  obtain ⟨after, characters⟩ := joined_patched gap filled
  refine ⟨String.ofList after, String.toList_inj.mp ?_⟩
  rw [String.toList_append, String.toList_append, toList_text, toList_text, ← patched, characters,
    String.toList_ofList]

theorem text_eq {document : Document} (encodable : document.failure? = none) :
    document.text = render document.body ++ document.terminator := by
  have filled := (failure?_eq_none document).mp encodable
  apply String.toList_inj.mp
  rw [toList_text, pieces, joined_pieces filled, String.toList_append, terminator]
  cases document.terminated <;> rfl

theorem printable {document : Document} (encodable : document.failure? = none)
    (regular : document.body.Every Regular) : document.body.Printable :=
  ((failure?_eq_none document).mp encodable).and regular

/-- Documents of one kind are told apart by their bytes as well as by their bodies. -/
theorem bytes_eq_iff {document other : Document} (encodable : document.failure? = none)
    (also : other.failure? = none) (regular : document.body.Every Regular)
    (likewise : other.body.Every Regular) (kind : document.terminated = other.terminated) :
    Text.utf8 document.text = Text.utf8 other.text ↔ document.body = other.body := by
  constructor
  · intro same
    have texts := Text.utf8_injective same
    rw [text_eq encodable, text_eq also, terminator, terminator, kind] at texts
    exact render_injective (printable encodable regular) (printable also likewise)
      (String.append_left_inj _ |>.mp texts)
  · intro same
    rw [text_eq encodable, text_eq also, terminator, terminator, kind, same]

end Telemetry.Document
