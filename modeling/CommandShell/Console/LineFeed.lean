import CommandShell.Console

/-!
# Line feeds

`deliveries` says what all reads of a stream of bytes deliver.  `Feed` is the machine that
delivers it, a reader that runs ahead of its console by two deliveries.
-/

namespace CommandShell

inductive Delivery where
  | line (text : String)
  | invalid
  | ended
  deriving DecidableEq, Repr

namespace Delivery

def invalidMessage : String := "stream did not contain valid UTF-8"

def input? : Delivery → Option Input
  | line text => some (.line text)
  | invalid => some (.failure invalidMessage)
  | ended => none

end Delivery

namespace LineFeed

def newline : UInt8 := 10

def carriageReturn : UInt8 := 13

/-- The first piece of a stream, through its newline, and what follows. -/
def firstPiece : List UInt8 → List UInt8 × List UInt8
  | [] => ([], [])
  | byte :: rest =>
    if byte = newline then ([byte], rest)
    else ((byte :: (firstPiece rest).1), (firstPiece rest).2)

def withoutLineEnd (piece : List UInt8) : List UInt8 :=
  (piece.reverse.dropWhile fun byte => byte = newline || byte = carriageReturn).reverse

def decode? (bytes : List UInt8) : Option String :=
  String.fromUTF8? ⟨bytes.toArray⟩

def deliver (piece : List UInt8) : Delivery :=
  match piece with
  | [] => .ended
  | _ => match decode? (withoutLineEnd piece) with
    | some text => .line text
    | none => .invalid

theorem length_firstPiece_snd_lt (byte : UInt8) (rest : List UInt8) :
    (firstPiece (byte :: rest)).2.length < (byte :: rest).length := by
  induction rest generalizing byte with
  | nil => by_cases h : byte = newline <;> simp [firstPiece, h]
  | cons next rest ih =>
    by_cases h : byte = newline
    · simp [firstPiece, h]
    · have := ih next
      simp only [firstPiece, if_neg h, List.length_cons] at this ⊢
      omega

def pieces : List UInt8 → List (List UInt8)
  | [] => []
  | byte :: rest =>
    (firstPiece (byte :: rest)).1 :: pieces (firstPiece (byte :: rest)).2
termination_by bytes => bytes.length
decreasing_by exact length_firstPiece_snd_lt byte rest

def deliveriesOf : List (List UInt8) → List Delivery
  | [] => []
  | piece :: rest =>
    match deliver piece with
    | .line text => .line text :: deliveriesOf rest
    | .invalid => [.invalid]
    | .ended => []

/-- What the reads of a stream deliver, before input has ended for ever. -/
def deliveries (bytes : List UInt8) : List Delivery :=
  deliveriesOf (pieces bytes)

def inputs (bytes : List UInt8) : List Input :=
  (deliveries bytes).filterMap Delivery.input?

end LineFeed

inductive Feed.Reader where
  | reading
  /-- It waits until the slot has room for what it read. -/
  | holding (delivery : Delivery)
  /-- It has handed over its last delivery. -/
  | finished
  /-- It is gone, so nothing comes into the slot any more. -/
  | stopped
  deriving DecidableEq, Repr

/-- A reader of bytes, the slot through which it hands out lines, and the console at
the other end. -/
structure Feed where
  unread : List UInt8
  reader : Feed.Reader := .reading
  slot : Option Delivery := none
  awaited : Bool := false
  deriving DecidableEq, Repr

namespace Feed

def read (feed : Feed) : Feed :=
  match feed.reader with
  | .reading =>
    let piece := LineFeed.firstPiece feed.unread
    { feed with unread := piece.2, reader := .holding (LineFeed.deliver piece.1) }
  | _ => feed

/-- The reader hands over what it holds if the slot has room.  Anything but a line
is the last that it hands over. -/
def handOver (feed : Feed) : Feed :=
  match feed.reader, feed.slot with
  | .holding delivery, none =>
    { feed with
      reader := match delivery with
        | .line _ => .reading
        | _ => .finished
      slot := some delivery }
  | _, _ => feed

def stop (feed : Feed) : Feed :=
  match feed.reader with
  | .finished => { feed with reader := .stopped }
  | _ => feed

def ask (feed : Feed) : Feed :=
  { feed with awaited := true }

def abandon (feed : Feed) : Feed :=
  { feed with awaited := false }

/-- The console, if it waits, takes what is in the slot; from the empty slot of a
reader that is gone it takes the end of input.  Without either it keeps waiting. -/
def receive (feed : Feed) : Option Delivery × Feed :=
  if feed.awaited then
    match feed.slot, feed.reader with
    | some delivery, _ => (some delivery, { feed with slot := none, awaited := false })
    | none, .stopped => (some .ended, { feed with awaited := false })
    | none, _ => (none, feed)
  else (none, feed)

inductive Move where
  | read
  | handOver
  | stop
  | ask
  | abandon
  | receive
  deriving DecidableEq, Repr

/-- What a move hands out to the console, and the feed that it leaves.  A move that
is not possible changes nothing. -/
def move (feed : Feed) : Move → Option Delivery × Feed
  | .read => (none, feed.read)
  | .handOver => (none, feed.handOver)
  | .stop => (none, feed.stop)
  | .ask => (none, feed.ask)
  | .abandon => (none, feed.abandon)
  | .receive => feed.receive

def run (feed : Feed) : List Move → List Delivery × Feed
  | [] => ([], feed)
  | first :: rest =>
    let (delivery, next) := feed.move first
    let (deliveries, last) := next.run rest
    (delivery.toList ++ deliveries, last)

def readLine (feed : Feed) : Delivery × Feed :=
  let (delivery, feed) := feed.ask.read.handOver.stop.receive
  (delivery.getD .ended, feed)

end Feed
end CommandShell
