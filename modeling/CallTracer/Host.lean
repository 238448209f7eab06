import CallTracer.FileTree
import CallTracer.Report
/-! What a run asks of its surroundings, and surroundings that are kept in memory. -/
namespace CallTracer

/-- Whole files are read and written, and text is put on standard output. A write that fails leaves
the file as it was. -/
structure Host (m : Type → Type) where
  read : Text → m (Except FileFault Text)
  write : Text → Text → m (Except FileFault Unit)
  print : Text → m (Except FileFault Unit)

/-- Reports of computations that use a host. -/
def Run (m : Type → Type) (α : Type) : Type := m (Report α)

namespace Run

variable {m : Type → Type} [Monad m] {α β : Type}

instance : Monad (Run m) where
  pure a := (pure (pure a : Report _) : m (Report _))
  bind x f := show m (Report _) from do
    let r ← show m (Report _) from x
    match r.outcome with
    | .error e => return ⟨r.records, .error e⟩
    | .ok a =>
      let q ← show m (Report _) from f a
      return ⟨r.records ++ q.records, q.outcome⟩

/-- A computation that does not need the host. -/
def ofReport (r : Report α) : Run m α := (pure r : m (Report α))

/-- A request to the host, with the failure that a fault amounts to. -/
def ask (x : m (Except FileFault α)) (failure : FileFault → Failure) : Run m α :=
  show m (Report α) from do
    match ← x with
    | .ok a => return pure a
    | .error f => return Report.fail (failure f)

def note (level : Log.Level) (origin : Log.Origin) (text : Text) : Run m Unit :=
  ofReport (Report.note level origin text)

end Run

/-- Surroundings in memory. -/
structure World where
  tree : FileTree
  /-- What has been put on standard output. -/
  printed : Text
  /-- Whether standard output has no space for a single byte. -/
  outputFull : Bool

namespace World

def initial : World := ⟨.initial, [], false⟩

def write (w : World) (path text : Text) : Except FileFault Unit × World :=
  match w.tree.write path text with
  | .ok tree => (.ok (), { w with tree })
  | .error f => (.error f, w)

def print (w : World) (text : Text) : Except FileFault Unit × World :=
  if w.outputFull then (if text.isEmpty then .ok () else .error .noSpace, w)
  else (.ok (), { w with printed := w.printed ++ text })

/-- The host whose surroundings are a world. -/
def host : Host (StateM World) where
  read path := do return (← get).tree.read path
  write path text := modifyGet (·.write path text)
  print text := modifyGet (·.print text)

end World
end CallTracer
