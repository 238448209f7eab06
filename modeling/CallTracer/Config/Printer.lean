import CallTracer.Config
import CallTracer.Json.Printer
/-! The printed form of a configuration. -/
namespace CallTracer.Config

/-- All fields in their order, as one JSON object. -/
def print (c : Config) : Text :=
  Json.printObject (Field.all.map fun f => (f.key, c.get f))

end CallTracer.Config
