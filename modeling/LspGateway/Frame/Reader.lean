import LspGateway.Frame.Fault
import LspGateway.Text.Blank
import LspGateway.Text.Unsigned

/-!
# Reading frames

A frame is a block of header lines, a blank line and a payload of the announced
length. The block is read byte by byte within a budget, so that no input can
make the reader collect more than the budget before it decides. Blank lines
before a block are skipped at the block's expense.

Reading is a function of the bytes at hand. While the stream is open it may
report that more are needed; on a stream that has ended it always decides.
-/

namespace LspGateway.Frame

/-- How many bytes the header block of one frame may take. -/
def headerBudget : Nat := 8192

/-- The longest payload admitted where nothing else is configured. -/
def defaultLimit : Nat := 67108864

/-- How much of a header that is too long a fault shows. -/
def shownCharacters : Nat := 64

/-- Reads a length, up to the greatest number of 64 bits. -/
def parseLength? (text : String) : Option Nat :=
  (Text.readUnsigned Text.maxWord text).toOption

/-- The parts of a line around its first colon. -/
def splitColon? : List Char → Option (List Char × List Char)
  | [] => none
  | ':' :: rest => some ([], rest)
  | c :: rest => (splitColon? rest).map fun (name, value) => (c :: name, value)

/-- The length that a header line announces, if it is the header for that. -/
def headerLength (line : String) : Except Fault (Option Nat) :=
  match splitColon? line.toList with
  | none => .error (.badHeader line)
  | some (name, value) =>
    if Text.lowerAscii (Text.trim (String.ofList name)) != "content-length" then .ok none
    else match parseLength? (Text.trim (String.ofList value)) with
      | some length => .ok (some length)
      | none => .error (.badHeader line)

/-- The state between two bytes of a header block. -/
structure HeaderScan where
  /-- The bytes of the line so far, the last one first. -/
  line : Bytes
  /-- How many bytes the block may still take. -/
  room : Nat
  /-- Whether a header line has been read. -/
  seen : Bool
  /-- The length announced last. -/
  length : Option Nat

/-- The state before the first byte of a block. -/
def HeaderScan.start : HeaderScan := ⟨[], headerBudget, false, none⟩

/-- What a finished line leads to. -/
inductive LineEffect where
  /-- More lines follow. -/
  | more (scan : HeaderScan)
  /-- The block ends here. -/
  | done
  /-- The line is at fault. -/
  | fault (fault : Fault)

/-- Takes up a line of a block, terminated or not. -/
def HeaderScan.takeLine (scan : HeaderScan) (terminated : Bool) : LineEffect :=
  match Utf8.decode scan.line.reverse with
  | .error fault => .fault (.notText fault)
  | .ok line =>
    if !terminated && scan.room == 0 then
      .fault (.badHeader (String.ofList (line.toList.take shownCharacters)))
    else
      let trimmed := Text.trim line
      if trimmed.isEmpty then
        if scan.seen then .done else .more { scan with line := [] }
      else match headerLength trimmed with
        | .error fault => .fault fault
        | .ok announced =>
          .more { scan with line := [], seen := true, length := announced.or scan.length }

/-- The result of reading a header block. -/
inductive Header where
  /-- A block that announces a payload, and the bytes after it. -/
  | length (length : Nat) (rest : Bytes)
  /-- The stream ended before any header line. -/
  | nothing
  /-- The block is at fault; the bytes after what was read. -/
  | fault (fault : Fault) (rest : Bytes)
  /-- More bytes are needed. -/
  | starved

/-- The end of a block: it has to have announced a length. -/
def HeaderScan.finish (scan : HeaderScan) (rest : Bytes) : Header :=
  match scan.length with
  | some length => .length length rest
  | none => .fault .missingLength rest

/-- The result when the stream ends inside a block: a line cut short is taken up
as it is, and what follows it is the end. -/
def HeaderScan.atEnd (scan : HeaderScan) : Header :=
  if scan.line.isEmpty then
    if scan.seen then .fault .endInHeader [] else .nothing
  else match scan.takeLine false with
    | .fault fault => .fault fault []
    | .done => scan.finish []
    | .more scan => if scan.seen then .fault .endInHeader [] else .nothing

/-- Reads a header block byte by byte. A line ends with its line feed or with
the budget. -/
def HeaderScan.run (ended : Bool) : HeaderScan → Bytes → Header
  | scan, [] => if ended then scan.atEnd else .starved
  | scan, byte :: rest =>
    let scan := { scan with line := byte :: scan.line, room := scan.room - 1 }
    let terminated := byte == 0x0A
    if terminated || scan.room == 0 then
      match scan.takeLine terminated with
      | .fault fault => .fault fault rest
      | .done => scan.finish rest
      | .more scan =>
        if scan.room == 0 then .fault (.badHeader "") rest else run ended scan rest
    else run ended scan rest

/-- The result of reading a frame. -/
inductive Reading where
  /-- A payload, and the bytes after it. -/
  | frame (payload rest : Bytes)
  /-- The stream ended between frames. -/
  | finished
  /-- The frame is at fault; the bytes after what was read. -/
  | fault (fault : Fault) (rest : Bytes)
  /-- More bytes are needed. -/
  | starved

/-- Reads the payload that a header announces. A payload within the limit always finds room:
lengths for which no buffer can be had are left out. -/
def readPayload (ended : Bool) (limit length : Nat) (rest : Bytes) : Reading :=
  if limit < length then .fault (.tooLarge length limit) rest
  else
    let payload := rest.take length
    if payload.length == length then .frame payload (rest.drop length)
    else if ended then .fault .endInPayload []
    else .starved

/-- Reads one frame of the bytes at hand. -/
def read (limit : Nat) (ended : Bool) (bytes : Bytes) : Reading :=
  match HeaderScan.start.run ended bytes with
  | .length length rest => readPayload ended limit length rest
  | .nothing => .finished
  | .fault fault rest => .fault fault rest
  | .starved => .starved

/-- Reads frames of bytes after which nothing comes, at most as many as the first
argument says; yields the payloads and what comes after them. -/
def readFrames : Nat → Nat → Bytes → List Bytes × Reading
  | 0, _, _ => ([], .starved)
  | fuel + 1, limit, bytes =>
    match read limit true bytes with
    | .frame payload rest =>
      let (payloads, last) := readFrames fuel limit rest
      (payload :: payloads, last)
    | reading => ([], reading)

/-- Reads all frames of bytes after which nothing comes. A frame takes at least
one byte. -/
def readAll (limit : Nat) (bytes : Bytes) : List Bytes × Reading :=
  readFrames (bytes.length + 1) limit bytes

end LspGateway.Frame
