import CleanupCourier.Definition.Stream

/-!
The program that prints the definitions of both kinds of objects.
-/
def main : IO Unit :=
  for line in CleanupCourier.ResourceDefinition.streamLines do
    IO.println line
