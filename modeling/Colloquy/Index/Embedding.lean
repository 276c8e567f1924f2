/-!
# Embeddings

An embedding is a vector of numbers of single precision.  Two texts are alike when
their embeddings point in much the same direction.
-/

namespace Colloquy

abbrev Embedding := List Float32

namespace Embedding

def isFinite (v : Embedding) : Bool :=
  v.all Float32.isFinite

def dot (a b : Embedding) : Float :=
  (List.zipWith (fun x y => x.toFloat * y.toFloat) a b).foldl (· + ·) 0

def norm (a : Embedding) : Float :=
  Float.sqrt (dot a a)

/-- One less the cosine of the angle; a vector of length zero is at right angles to
every other. -/
def distance (a b : Embedding) : Float :=
  let size := norm a * norm b
  if size == 0 then 1 else 1 - dot a b / size

end Embedding
end Colloquy
