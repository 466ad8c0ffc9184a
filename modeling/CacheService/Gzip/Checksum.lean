/-!
# Checksums

The cyclic redundancy check of 32 bits that ends a gzip member: the remainder of the data, read as
a polynomial with its lowest power first.
-/

namespace CacheService
namespace Gzip

/-- The divisor, without its highest power. -/
def divisor : UInt32 :=
  0xEDB88320

/-- Divides by one power more. -/
def divideBit (r : UInt32) : UInt32 :=
  if r &&& 1 = 1 then (r >>> 1) ^^^ divisor else r >>> 1

def divideByte (r : UInt32) (b : UInt8) : UInt32 :=
  divideBit (divideBit (divideBit (divideBit
    (divideBit (divideBit (divideBit (divideBit (r ^^^ b.toUInt32))))))))

def checksum (bytes : List UInt8) : UInt32 :=
  bytes.foldl divideByte 0xFFFFFFFF ^^^ 0xFFFFFFFF

end Gzip
end CacheService
