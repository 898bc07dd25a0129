import CleanupCourier.Cluster.Api
import CleanupCourier.Proofs.Cluster.Metadata
import CleanupCourier.Proofs.Report.Payload
import CleanupCourier.Proofs.Text.Base64

/-!
Reports and Secrets that an API server can hold come back from it as they are. Their metadata have
to be such; the content of a Report and the data of a Secret are free, since octets come back from
base 64 whatever they are. What a server says when it refuses is understood as it was meant.
-/
namespace CleanupCourier

open Decode

namespace Report

theorem recovers {report : Report} (h : report.metadata.OnWire) :
    decode.Recovers encode report := by
  intro origin
  have metadata := Metadata.recovers h origin
  have spec := ReportSpec.undoes origin report.spec
  simp [decode, objectRecord, encode, encodeObject, metadata, spec, Record.decode,
    Record.ofMembers, Record.readMember, passOver, skip, Json.skipFault?, field, Except.map, bind,
    Except.bind, pure, Except.pure]

theorem writable {report : Report} (h : report.metadata.OnWire) : report.encode.Writable :=
  ⟨trivial, trivial, Metadata.writable h, report.spec.writable, trivial⟩

end Report

namespace Secret

theorem recovers_octets (bytes : Bytes) : octets.Recovers octetsJson bytes := by
  intro origin
  simp [octets, octetsJson, Decode.string, Base64.decode?_encode, bind, Except.bind]

theorem recovers {secret : Secret} (h : secret.metadata.OnWire) :
    decode.Recovers encode secret := by
  intro origin
  have version : (exactly "v1").Recovers (fun _ => .string "v1") () := fun _ => rfl
  have kind : (exactly "Secret").Recovers (fun _ => .string "Secret") () := fun _ => rfl
  have data : ∀ m ∈ secret.data,
      Decoder.Recovers (fun origin j => (members octets origin j).map KeyMap.ofList)
        (Json.ofMap octetsJson) m ∧ Json.ofMap octetsJson m ≠ .null :=
    fun m _ => ⟨recovers_map fun e _ => recovers_octets e.2, Json.noConfusion⟩
  have metadata : Decoder.Recovers
      (fun origin j => (optional Metadata.record.decode origin j).map (·.getD {}))
      Metadata.encode secret.metadata := by
    intro origin
    have ne : secret.metadata.encode ≠ .null := Json.noConfusion
    simp only [optional_of_ne_null ne, Metadata.recovers h origin, Except.map, Option.getD_some]
  simp only [Secret.decode, LooseRecord.decode, encode, List.append_assoc]
  rw [← List.append_nil (Json.member? "type" _ _)]
  refine Eq.trans (foldlM_member rfl version origin _) ?_
  refine Eq.trans (foldlM_member rfl kind origin _) ?_
  refine Eq.trans (foldlM_member? rfl data rfl origin _) ?_
  refine Eq.trans (foldlM_member? rfl (back_bool _) rfl origin _) ?_
  refine Eq.trans (foldlM_member rfl metadata origin _) ?_
  refine Eq.trans (foldlM_member? rfl (back_textMap _) rfl origin _) ?_
  refine Eq.trans (foldlM_member? rfl (back_text _) rfl origin _) ?_
  rfl

theorem writable {secret : Secret} (h : secret.metadata.OnWire) : secret.encode.Writable := by
  have octets : ∀ bytes, (octetsJson bytes).Writable := fun _ => trivial
  have data : Json.WritableMembers (Json.member? "data" (Json.ofMap octetsJson) secret.data) :=
    Json.writable_member? fun m _ => Json.writable_map octets m
  simp only [encode, Json.Writable, Json.WritableMembers, Json.writableMembers_append, data,
    writable_flag?, writable_text?, writable_textMap?, Metadata.writable h, and_self]

end Secret

namespace Api

/-- What a server says about a request that it refuses, as JSON. -/
def statusJson (code : Nat) (reason message : String) : Json :=
  .object [("kind", .string "Status"), ("apiVersion", .string "v1"), ("status", .string "Failure"),
    ("message", .string message), ("reason", .string reason), ("code", .nat code)]

theorem writable_statusJson (code : Nat) (reason message : String) :
    (statusJson code reason message).Writable :=
  ⟨trivial, trivial, trivial, trivial, trivial, Json.writable_nat code, trivial⟩

theorem recovers_bounded {bound n : Nat} (name : String) (h : n ≤ bound)
    (word : bound < wordSize 64) : (bounded bound name).Recovers .nat n := by
  intro origin
  have lexeme := NumberValue.ofLexeme?_nat (Nat.lt_of_le_of_lt h word)
  simp only [bounded, Json.nat, lexeme]
  exact if_pos h

/-- The code that counts is the one that the server states, whatever the answer's own status. -/
theorem refusal_of_read {answer : ApiAnswer} {code : Nat} {reason message : String}
    (small : code ≤ 65535)
    (read : Json.read answer.body.toList = ⟨statusJson code reason message, false⟩) :
    refusal answer = .refused code reason message := by
  have number : bounded 65535 "u16" .stream (.nat code) = .ok code :=
    recovers_bounded "u16" small (by decide) .stream
  have decoded : statusRecord.decode .stream (statusJson code reason message) =
      .ok (.refused code reason message) := by
    simp [statusRecord, statusJson, number, Record.decode, Record.ofMembers, Record.readMember,
      passOver, skip, Json.skipFault?, field, Decode.string, Except.map, bind, Except.bind, pure,
      Except.pure]
  simp [refusal, text, document, read, decoded, bind, Except.bind, pure, Except.pure]

end Api

end CleanupCourier
