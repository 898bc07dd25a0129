import CleanupCourier.Json.Decode
import CleanupCourier.Json.Encode
import CleanupCourier.Proofs.Json.RoundTrip

/-!
Decoders that undo an encoding. This holds of a decoder whether the text streams by or the value was
held as a whole before, and it carries over from values to the text that they are written as. Where
a type has values that cannot be told on the wire, a decoder gives back some of its values only.
-/
namespace CleanupCourier

variable {α : Type}

/-- A decoder gives back a value from its encoding. -/
def Decoder.Recovers (decode : Decoder α) (encode : α → Json) (a : α) : Prop :=
  ∀ origin, decode origin (encode a) = .ok a

/-- A decoder gives back whatever was encoded. -/
def Decoder.Undoes (decode : Decoder α) (encode : α → Json) : Prop :=
  ∀ origin a, decode origin (encode a) = .ok a

/-- What is read from a text is written as a text that is read as the same value, and that stays as
it is when it is read and written once more. -/
def Decoder.Settles (decode : Decoder α) (encode : α → Json) : Prop :=
  ∀ t a, Decode.text decode t = .ok a →
    Decode.text decode (encode a).render = .ok a ∧
      (Decode.text decode (encode a).render).map (fun b => (encode b).render) =
        .ok (encode a).render

namespace Decode

variable {decode : Decoder α} {encode : α → Json}

/-- A list comes back as what its items come back as. -/
theorem list_ofList {f : α → α} {origin : Origin} {l : List α}
    (h : ∀ a ∈ l, decode origin (encode a) = .ok (f a)) :
    list decode origin (Json.ofList encode l) = .ok (l.map f) := by
  simp only [list, Json.ofList]
  induction l with
  | nil => rfl
  | cons a l ih =>
    rw [List.map_cons, List.mapM_cons, h a List.mem_cons_self,
      ih fun b mem => h b (List.mem_cons_of_mem _ mem)]
    rfl

theorem recovers_list {l : List α} (h : ∀ a ∈ l, decode.Recovers encode a) :
    (list decode).Recovers (Json.ofList encode) l := by
  intro origin
  rw [list_ofList (f := id) fun a mem => h a mem origin, List.map_id]

theorem undoes_list (h : decode.Undoes encode) : (list decode).Undoes (Json.ofList encode) :=
  fun origin _ => recovers_list (fun a _ origin => h origin a) origin

theorem document_eq_ok_iff {a : α} {d : Json.Document} :
    document decode d = .ok a ↔ ∃ j, d = ⟨j, false⟩ ∧ decode .stream j = .ok a := by
  unfold document
  obtain ⟨j, more⟩ := d
  cases decoded : decode .stream j with
  | error error => simp [decoded, bind, Except.bind]
  | ok b => cases more <;> simp [decoded, bind, Except.bind, pure, Except.pure]

theorem text_eq_ok_iff {a : α} {written : String} :
    text decode written = .ok a ↔
      ∃ j, Json.read written.toList = ⟨j, false⟩ ∧ decode .stream j = .ok a :=
  document_eq_ok_iff

/-- A value is decoded from every text that is read as its encoding. -/
theorem text_of_read {a : α} (h : decode.Recovers encode a) {written : String}
    (read : Json.read written.toList = ⟨encode a, false⟩) : text decode written = .ok a := by
  simp [text, document, read, h .stream, bind, Except.bind, pure, Except.pure]

theorem text_render_of_writable {j : Json} (w : j.Writable) (a : α) :
    text decode j.render = .ok a ↔ decode .stream j = .ok a := by
  rw [text_eq_ok_iff, Json.read_render w]
  constructor
  · rintro ⟨_, ⟨⟩, decoded⟩
    exact decoded
  · exact fun decoded => ⟨j, rfl, decoded⟩

/-- A decoder settles if it gives back the values that it yields. -/
theorem settles (back : ∀ j a, decode .stream j = .ok a → decode .stream (encode a) = .ok a)
    (w : ∀ a, (encode a).Writable) : decode.Settles encode := by
  intro t a read
  obtain ⟨j, -, decoded⟩ := text_eq_ok_iff.mp read
  have again : text decode (encode a).render = .ok a :=
    (text_render_of_writable (w a) a).mpr (back j a decoded)
  exact ⟨again, by rw [again]; rfl⟩

/-- What was encoded is decoded from its text, if every encoded value can be written out. -/
theorem text_render (h : decode.Undoes encode) (w : ∀ a, (encode a).Writable) (a : α) :
    text decode (encode a).render = .ok a :=
  text_of_read (fun origin => h origin a) (Json.read_render (w a))

end Decode

namespace Json

theorem writable_ofList {encode : α → Json} {l : List α} (w : ∀ a ∈ l, (encode a).Writable) :
    (ofList encode l).Writable := by
  change WritableItems (l.map encode)
  induction l with
  | nil => trivial
  | cons a l ih => exact ⟨w a List.mem_cons_self, ih fun b mem => w b (List.mem_cons_of_mem _ mem)⟩

end Json

end CleanupCourier
