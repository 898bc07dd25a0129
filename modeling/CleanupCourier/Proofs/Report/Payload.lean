import CleanupCourier.Proofs.Json.Codec
import CleanupCourier.Report.Basic

/-!
The text of a report that goes to every destination. It holds no control characters, and it tells
the report from every other one: decoding it gives the report back.
-/
namespace CleanupCourier

theorem Action.undoes : Action.decode.Undoes Action.encode := by
  intro origin a
  cases a <;> cases origin <;> rfl

namespace ResourceRef

theorem undoes : decode.Undoes encode := by
  intro origin r
  obtain ⟨namespaceName, name, kind, apiVersion⟩ := r
  by_cases h : namespaceName = ""
  all_goals
    simp [decode, record, encode, h, Decode.Record.decode, Decode.Record.ofMembers,
      Decode.Record.readMember, Decode.field, Decode.string, bind, Except.bind, pure, Except.pure]

theorem writable (r : ResourceRef) : r.encode.Writable := by
  by_cases h : r.namespaceName = "" <;>
    simp [encode, h, Json.Writable, Json.WritableMembers]

end ResourceRef

namespace ResourceInfo

theorem undoes : decode.Undoes encode := by
  intro origin i
  have resource := ResourceRef.undoes origin i.resource
  simp [decode, record, encode, resource, Decode.Record.decode, Decode.Record.ofMembers,
    Decode.Record.readMember, Decode.field, Decode.string, bind, Except.bind, pure, Except.pure]

theorem writable (i : ResourceInfo) : i.encode.Writable :=
  ⟨i.resource.writable, trivial, trivial⟩

end ResourceInfo

namespace ReportSpec

theorem undoes : decode.Undoes encode := by
  intro origin r
  have action := Action.undoes origin r.action
  have resources := Decode.undoes_list ResourceInfo.undoes origin r.resources
  simp [decode, record, encode, action, resources, Decode.Record.decode, Decode.Record.ofMembers,
    Decode.Record.readMember, Decode.field, bind, Except.bind, pure, Except.pure]

theorem writable (r : ReportSpec) : r.encode.Writable :=
  ⟨trivial, Json.writable_ofList fun i _ => i.writable, trivial⟩

/-- No control stands in the text of a report, so it is a single line. -/
theorem payload_visible (r : ReportSpec) : ∀ c ∈ r.payload.toList, 32 ≤ c.toNat := by
  simpa [payload, Json.render] using Json.chars_visible r.encode r.writable

/-- The text of a report is decoded to that very report, and no two reports share a text. -/
theorem decode_payload (r : ReportSpec) :
    Decode.text decode r.payload = .ok r ∧ ∀ other, other.payload = r.payload ↔ other = r := by
  have read (r : ReportSpec) : Decode.text decode r.payload = .ok r :=
    Decode.text_render undoes writable r
  refine ⟨read r, fun other => ⟨fun same => ?_, congrArg payload⟩⟩
  have := read other
  rw [same, read r] at this
  exact (Except.ok.inj this).symm

end ReportSpec

end CleanupCourier
