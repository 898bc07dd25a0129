import CleanupCourier.Cluster.Metadata
import CleanupCourier.Text.Base64

/-!
Secrets of the cluster: octets by key, written in base 64.
-/
namespace CleanupCourier

/-- The data of a Secret. -/
abbrev SecretData := KeyMap Bytes

structure Secret where
  metadata : Metadata := {}
  data : Option SecretData := none
  immutable : Option Bool := none
  stringData : Option (KeyMap String) := none
  type : Option String := none
deriving Repr

namespace Secret

def anyName (s : Secret) : String :=
  s.metadata.anyName

def namespaceName (s : Secret) : String :=
  s.metadata.namespaceName.getD ""

def octetsJson (bytes : Bytes) : Json :=
  .string (String.ofList (Base64.encode bytes))

def encode (s : Secret) : Json :=
  .object ([("apiVersion", .string "v1"), ("kind", .string "Secret")]
    ++ Json.member? "data" (Json.ofMap octetsJson) s.data
    ++ Json.member? "immutable" .bool s.immutable
    ++ [("metadata", s.metadata.encode)]
    ++ Json.member? "stringData" (Json.ofMap .string) s.stringData
    ++ Json.member? "type" .string s.type)

/-- Octets in base 64; null stands for none at all. -/
def octets : Decoder Bytes
  | _, .null => .ok []
  | origin, j => do
    let text ← Decode.string origin j
    match Base64.decode? text.toList with
    | some bytes => .ok bytes
    | none => Decode.fail (.custom "not in base 64")

/-- A text that has to be the given one. -/
def exactly (expected : String) : Decoder Unit
  | origin, j => do
    let text ← Decode.string origin j
    if text = expected then .ok () else Decode.fail (.invalidValue (.string text) expected)

open Decode in
def record : LooseRecord Secret where
  name := "Secret"
  draft := {}
  fields := [
    slot "apiVersion" (fun _ s => s) (exactly "v1"),
    slot "data" (fun a s => { s with data := a })
      (optional fun origin j => (members octets origin j).map KeyMap.ofList),
    slot "immutable" (fun a s => { s with immutable := a }) (optional bool),
    slot "kind" (fun _ s => s) (exactly "Secret"),
    slot "metadata" (fun a s => { s with metadata := a })
      (fun origin j => (optional Metadata.record.decode origin j).map (·.getD {})),
    slot "stringData" (fun a s => { s with stringData := a }) (optional textMap),
    slot "type" (fun a s => { s with type := a }) (optional string)]

def decode : Decoder Secret :=
  record.decode

end Secret

end CleanupCourier
