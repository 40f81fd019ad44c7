import BuildTrial.Text.Bytes
import BuildTrial.Text.Class
import BuildTrial.Text.Utf8

/-!
# Bytes between boundary lines

A block is a begin boundary, lines of base64, and an end boundary; both boundaries name what the
block holds. Headers may stand in front of the base64, with an empty line between. What is outside
of blocks is passed over, and so is a block that is not closed.
-/

namespace BuildTrial.Text

structure PemBlock where
  label : String
  bytes : List UInt8
deriving Repr

inductive PemFault where
  | noBeginLabel
  | noEndLabel
  | differentLabels (first last : String)
  | notText (fault : Utf8Fault)
  | notBase64
  | badHeader (line : String)
deriving DecidableEq, Repr

def PemFault.message : PemFault → String
  | .noBeginLabel => "missing BEGIN tag"
  | .noEndLabel => "missing END tag"
  | .differentLabels first last => s!"mismatching BEGIN (\"{first}\") and END (\"{last}\") tags"
  | .notText fault => s!"invalid utf-8 value: {fault.message}"
  | .notBase64 => "invalid data"
  | .badHeader line => s!"invalid header: {line}"

namespace Pem

/-- Look for a marker of which `left` is still missing; also the bytes in front of it. After a byte
that does not fit, the marker has to begin anew. -/
def splitFrom? (marker : List UInt8) :
    (left read : List UInt8) → List UInt8 → Option (List UInt8 × List UInt8)
  | [], read, rest => some ((read.drop marker.length).reverse, rest)
  | _ :: _, _, [] => none
  | m :: left, read, b :: rest =>
    if b = m then splitFrom? marker left (b :: read) rest
    else splitFrom? marker marker (b :: read) rest

/-- The bytes before and after a marker. -/
def split? (marker : String) (bytes : List UInt8) : Option (List UInt8 × List UInt8) :=
  splitFrom? (utf8Bytes marker) (utf8Bytes marker) [] bytes

def skipBlanks (bytes : List UInt8) : List UInt8 :=
  bytes.dropWhile fun b => [0x20, 0x09, 0x0A, 0x0D].contains b

/-- The parts of a block, not yet read. -/
structure Parts where
  first : List UInt8
  headers : List UInt8
  content : List UInt8
  last : List UInt8

/-- The headers and the content of what is between the boundaries. -/
def splitHeaders (body : List UInt8) : List UInt8 × List UInt8 :=
  ((split? "\n\n" body).or (split? "\r\n\r\n" body)).getD ([], body)

/-- The first block, and the bytes after it. -/
def next? (bytes : List UInt8) : Option (Parts × List UInt8) := do
  let (_, rest) ← split? "-----BEGIN " bytes
  let (first, rest) ← split? "-----" rest
  let (body, rest) ← split? "-----END " (skipBlanks rest)
  let (last, rest) ← split? "-----" rest
  let (headers, content) := splitHeaders body
  return ({ first, headers, content, last }, skipBlanks rest)

/-- All blocks, at most so many. -/
def collect : (most : Nat) → List UInt8 → List Parts
  | 0, _ => []
  | most + 1, bytes =>
    match next? bytes with
    | some (parts, rest) => parts :: collect most rest
    | none => []

/-- The lines of a text; a break at its end does not begin a line. -/
def lines (s : String) : List String :=
  let parts := s.splitOn "\n"
  if parts.getLast? = some "" then parts.dropLast else parts

/-- A line without the carriage return at its end. -/
def dropReturn (line : String) : String :=
  if line.toList.getLast? = some '\r' then String.ofList line.toList.dropLast else line

def asText (bytes : List UInt8) : Except PemFault String := (ofUtf8 bytes).mapError .notText

/-- The base64 of a content without the white space that ends its lines. -/
def digits (content : String) : List Char :=
  (lines content).flatMap fun line => (line.toList.reverse.dropWhile isBlank).reverse

def checkHeader (line : String) : Except PemFault Unit :=
  if line.toList.contains ':' then .ok () else .error (.badHeader line)

/-- The block with the given parts. -/
def Parts.read (parts : Parts) : Except PemFault PemBlock := do
  let label ← asText parts.first
  if label.isEmpty then throw .noBeginLabel
  let last ← asText parts.last
  if last.isEmpty then throw .noEndLabel
  if label ≠ last then throw (.differentLabels label last)
  let content ← asText parts.content
  match Base64.decode? (digits content) with
  | none => throw .notBase64
  | some bytes =>
    ((lines (← asText parts.headers)).map dropReturn).forM checkHeader
    return { label, bytes }

/-- All blocks in bytes. -/
def blocks (bytes : List UInt8) : Except PemFault (List PemBlock) :=
  (collect bytes.length bytes).mapM Parts.read

/-- What certificates are labelled. -/
def certificateLabel : String := "CERTIFICATE"

/-- The certificates among the blocks in bytes. -/
def certificates (bytes : List UInt8) : Except PemFault (List (List UInt8)) := do
  let blocks ← blocks bytes
  return (blocks.filter (·.label = certificateLabel)).map (·.bytes)

end Pem

end BuildTrial.Text
