/-!
# Names of requests

The gateway names each request of the pipeline by 128 bits, of which six say that
the others are random. The text has 32 hexadecimal digits in five groups.
-/

namespace StageRelay.RequestId

/-- The bytes with the marks of a random name in the seventh and ninth of them. -/
def marked (bytes : List UInt8) : List UInt8 :=
  bytes.zipIdx.map fun (b, i) =>
    if i = 6 then b &&& 0x0F ||| 0x40 else if i = 8 then b &&& 0x3F ||| 0x80 else b

def digits (b : UInt8) : List Char :=
  [Nat.digitChar (b.toNat / 16), Nat.digitChar (b.toNat % 16)]

/-- The positions of the bytes that a dash stands before. -/
def groupStarts : List Nat := [4, 6, 8, 10]

/-- The name that 16 random bytes give. -/
def text (bytes : List UInt8) : String :=
  String.ofList <| (marked bytes).zipIdx.flatMap fun (b, i) =>
    if groupStarts.contains i then '-' :: digits b else digits b

end StageRelay.RequestId
