import BlobTree.Writer.Session

/-!
# BlobTree.Writer.Request

The calls on a session as data, so that a run is a list of them.

* `Writer.perform`: makes a call, whatever it ends with; `Writer.run` a list of them.
-/

namespace BlobTree
namespace Writer

inductive Request where
  | write (data : Bytes)
  | commit
  | cancel
  | close
  deriving DecidableEq, Inhabited

variable {σ : Type} (b : Backend σ)

/-- A call that takes no bytes in. -/
def Result.none (r : Result σ Unit) : Result σ Nat :=
  (r.1.map fun _ => 0, r.2)

/-- Makes a call; the result is how many bytes it accepted. -/
def perform (q : Request) (w : Writer) (world : World σ) : Result σ Nat :=
  match q with
  | .write data => write b w data world
  | .commit => Result.none (commit b w world)
  | .cancel => Result.none (cancel b w world)
  | .close => Result.none (close b w world)

def run : List Request → Writer → World σ → List (Except Failure Nat) × Writer × World σ
  | [], w, world => ([], w, world)
  | q :: rest, w, world =>
    let (r, w, world) := perform b q w world
    let (rs, w, world) := run rest w world
    (r :: rs, w, world)

end Writer
end BlobTree
