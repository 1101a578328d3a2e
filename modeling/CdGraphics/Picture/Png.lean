import CdGraphics.Frame

/-!
# PNG pictures

A frame as a PNG file of eight bits a channel with opacity. Rows are not filtered, and the data is
stored without compression.
-/

namespace CdGraphics.Png

/-- The four bytes of a number, the highest first. -/
def word (n : UInt32) : List UInt8 :=
  [(n >>> 24).toUInt8, (n >>> 16).toUInt8, (n >>> 8).toUInt8, n.toUInt8]

/-- The two bytes of a number, the lowest first. -/
def lowHigh (n : UInt16) : List UInt8 := [n.toUInt8, (n >>> 8).toUInt8]

/-- The remainder of a byte, bit by bit. -/
def crcBits : (count : Nat) → UInt32 → UInt32
  | 0, crc => crc
  | count + 1, crc =>
    crcBits count (if crc &&& 1 = 1 then (crc >>> 1) ^^^ 0xedb88320 else crc >>> 1)

/-- The cyclic redundancy check of a chunk. -/
def crc (bytes : List UInt8) : UInt32 :=
  bytes.foldl (fun crc b => crcBits 8 (crc ^^^ b.toUInt32)) 0xffffffff ^^^ 0xffffffff

/-- The checksum of the data. -/
def adler (bytes : List UInt8) : UInt32 :=
  let (a, b) := bytes.foldl (fun (a, b) byte =>
    let a := (a + byte.toUInt32) % 65521
    (a, (b + a) % 65521)) ((1, 0) : UInt32 × UInt32)
  b <<< 16 ||| a

/-- A chunk: its length, its name, its bytes and its check. -/
def chunk (name : String) (bytes : List UInt8) : List UInt8 :=
  let named := name.toUTF8.toList ++ bytes
  word bytes.length.toUInt32 ++ named ++ word (crc named)

/-- Data in at most `count` stored blocks, the last of them marked. -/
def blocks : (count : Nat) → List UInt8 → List UInt8
  | 0, _ => []
  | count + 1, bytes =>
    let block := bytes.take 65535
    let rest := bytes.drop 65535
    let size := block.length.toUInt16
    (if rest.isEmpty then 1 else 0) :: lowHigh size ++ lowHigh (size ^^^ 0xffff) ++ block
      ++ if rest.isEmpty then [] else blocks count rest

/-- Data in its envelope. -/
def envelope (bytes : List UInt8) : List UInt8 :=
  [0x78, 0x01] ++ blocks (bytes.length / 65535 + 1) bytes ++ word (adler bytes)

/-- The rows of a frame, each behind a byte that says it is not filtered. -/
def rows (width : Nat) : (count : Nat) → List UInt8 → List UInt8
  | 0, _ => []
  | count + 1, bytes => 0 :: bytes.take (4 * width) ++ rows width count (bytes.drop (4 * width))

/-- A frame as a file. -/
def encode (f : Frame) : List UInt8 :=
  let header := word f.width.toUInt32 ++ word f.height.toUInt32 ++ [8, 6, 0, 0, 0]
  [0x89, 0x50, 0x4e, 0x47, 0x0d, 0x0a, 0x1a, 0x0a] ++ chunk "IHDR" header
    ++ chunk "IDAT" (envelope (rows f.width f.height f.data.toList)) ++ chunk "IEND" []

end CdGraphics.Png
