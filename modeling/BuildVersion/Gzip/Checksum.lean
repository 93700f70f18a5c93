namespace BuildVersion.Gzip

/-- The polynomial, without its term of degree 32. -/
def polynomial : UInt32 := 0xEDB88320

def divideBits : Nat → UInt32 → UInt32
  | 0, remainder => remainder
  | n + 1, remainder =>
    divideBits n ((remainder >>> 1) ^^^ (if remainder &&& 1 = 1 then polynomial else 0))

def pushByte (remainder : UInt32) (b : UInt8) : UInt32 :=
  divideBits 8 (remainder ^^^ b.toUInt32)

/-- The check sum of bytes; the remainder starts and ends inverted. -/
def checksum (bytes : List UInt8) : UInt32 :=
  bytes.foldl pushByte 0xFFFFFFFF ^^^ 0xFFFFFFFF

end BuildVersion.Gzip
