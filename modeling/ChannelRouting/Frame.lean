import ChannelRouting.Sorted.Map
import ChannelRouting.Text.Utf8

/-!
# Protocol frames

A frame has a command, named headers and a body. A client asks for a receipt by
the header `receipt`; the answer echoes its value under `receipt-id`.
-/

namespace ChannelRouting

/-- The commands of the protocol. -/
inductive Command where
  | connect
  | connected
  | send
  | subscribe
  | unsubscribe
  | ack
  | nack
  | begin
  | commit
  | abort
  | disconnect
  | message
  | receipt
  | error
deriving DecidableEq, Inhabited

namespace Command

def all : List Command :=
  [connect, connected, send, subscribe, unsubscribe, ack, nack, begin, commit, abort,
   disconnect, message, receipt, error]

def name : Command → String
  | connect => "CONNECT"
  | connected => "CONNECTED"
  | send => "SEND"
  | subscribe => "SUBSCRIBE"
  | unsubscribe => "UNSUBSCRIBE"
  | ack => "ACK"
  | nack => "NACK"
  | begin => "BEGIN"
  | commit => "COMMIT"
  | abort => "ABORT"
  | disconnect => "DISCONNECT"
  | message => "MESSAGE"
  | receipt => "RECEIPT"
  | error => "ERROR"

def ofName? (s : String) : Option Command := all.find? (fun c => c.name = s)

end Command

/-- The header by which a client asks for a receipt. -/
def receiptHeader : String := "receipt"

/-- The header that echoes the identifier of a receipt. -/
def receiptIdHeader : String := "receipt-id"

/-- The header that describes an error. -/
def messageHeader : String := "message"

/-- A frame of the protocol. -/
structure Frame where
  command : Command
  headers : SortedMap String String := .empty
  body : List UInt8 := []
deriving DecidableEq, Inhabited

namespace Frame

def withHeader (f : Frame) (name value : String) : Frame :=
  { f with headers := f.headers.insert name value }

def withBody (f : Frame) (body : List UInt8) : Frame := { f with body := body }

def header? (f : Frame) (name : String) : Option String := f.headers.get? name

/-- The receipt that the client asked for. -/
def receiptRequest? (f : Frame) : Option String := f.header? receiptHeader

theorem receiptRequest?_eq (f : Frame) : f.receiptRequest? = f.headers.get? "receipt" := rfl

/-- The receipt that the frame answers to. -/
def receiptId? (f : Frame) : Option String := f.header? receiptIdHeader

def receipt (id : String) : Frame :=
  ({ command := .receipt } : Frame).withHeader receiptIdHeader id

/-- The frame that reports an error; details become its body. -/
def error (message : String) (details : Option String) : Frame :=
  let f := ({ command := .error } : Frame).withHeader messageHeader message
  match details with
  | some text => f.withBody (Utf8.encode text)
  | none => f

@[simp] theorem header?_withHeader {f : Frame} {name value : String} :
    (f.withHeader name value).header? name = some value := by
  simp [withHeader, header?]

theorem header?_withHeader_of_ne {f : Frame} {name value other : String} (h : other ≠ name) :
    (f.withHeader name value).header? other = f.header? other := by
  simp [withHeader, header?, SortedMap.get?_insert_of_ne h]

@[simp] theorem receiptId?_receipt (id : String) : (receipt id).receiptId? = some id := by
  simp [receipt, receiptId?]

end Frame

/-- A fault that a client caused. -/
structure ClientFault where
  message : String
  details : Option String := none
  frame : Option Frame := none
deriving DecidableEq

namespace ClientFault

/-- The fault with the frame that caused it. -/
def withFrame (fault : ClientFault) (frame : Frame) : ClientFault :=
  { fault with frame := some frame }

/-- The error frame for the client. It echoes the receipt that the causing frame
asked for. -/
def errorFrame (fault : ClientFault) : Frame :=
  let f := Frame.error fault.message fault.details
  match fault.frame.bind Frame.receiptRequest? with
  | some id => f.withHeader receiptIdHeader id
  | none => f

end ClientFault

end ChannelRouting
