import SqlGateway.Core
import SqlGateway.Library.EventSource
import SqlGateway.Library.JsonLaws

namespace SqlGateway.Http.ObservabilityHttpController

/-- `json.dumps` with its defaults, framed as one event. -/
def formatServerSentEvent (payload : Json.Value) : List Char :=
  "data: ".toList ++ (payload.text ⟨true, false⟩ ++ "\n\n".toList)

theorem formatServerSentEvent_eq (payload : Json.Value) :
    formatServerSentEvent payload = (EventSource.Block.message (payload.text ⟨true, false⟩)).text :=
  (EventSource.text_message _).symm

theorem unbroken_of_printable {text : List Char} (h : Json.Printable text) :
    EventSource.Unbroken text := by
  intro c hc
  have hprintable := h c hc
  constructor
  · rintro rfl
    exact absurd hprintable (by decide)
  · rintro rfl
    exact absurd hprintable (by decide)

theorem messages_formatServerSentEvent (payload : Json.Value) :
    EventSource.messages (formatServerSentEvent payload) = [payload.text ⟨true, false⟩] := by
  have hunbroken : ∀ block ∈ [EventSource.Block.message (payload.text ⟨true, false⟩)],
      EventSource.Unbroken block.content := by
    intro block hblock
    rw [List.mem_singleton.mp hblock]
    exact unbroken_of_printable (Json.printable_text _ payload)
  have hmessages := EventSource.messages_blocks hunbroken
  rw [List.flatMap_singleton, ← formatServerSentEvent_eq] at hmessages
  exact hmessages

end SqlGateway.Http.ObservabilityHttpController
