import CleanupCourier.Definition.Resource
import CleanupCourier.Yaml.Printer

/-!
Both definitions as one stream of YAML documents, ready to be applied to a cluster.
-/
namespace CleanupCourier

namespace ResourceDefinition

/-- The lines of the stream: one document after the other, with a separator between them. -/
def streamLines : List String :=
  Yaml.document cleaner.encode ++ ["---"] ++ Yaml.document report.encode

end ResourceDefinition

end CleanupCourier
