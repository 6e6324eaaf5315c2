import DbsMonitor.Notify

/-!
# The mail of a notification

`encodeMessage` writes the header fields and then the body, line by line as a `bufio.Scanner` reads
them. The buffer of the scanner has a limit: at a line that does not fit into it with its end the
scanner stops, and its error is not asked for.
-/

namespace DbsMonitor.Mail

def lf : UInt8 := 10

def cr : UInt8 := 13

def crlf : List UInt8 := [cr, lf]

def maxScanTokenSize : ℕ := 64 * 1024

def consFirst (byte : UInt8) : List (List UInt8) → List (List UInt8)
  | [] => [[byte]]
  | piece :: pieces => (byte :: piece) :: pieces

def pieces : List UInt8 → List (List UInt8)
  | [] => []
  | byte :: text => if byte = lf then [] :: pieces text else consFirst byte (pieces text)

def dropCR (piece : List UInt8) : List UInt8 :=
  if piece.getLast? = some cr then piece.dropLast else piece

/-- The tokens of `ScanLines`. A piece with its line feed, or the end of the text, has to fit the
buffer. -/
def scanLines (text : List UInt8) : List (List UInt8) :=
  ((pieces text).takeWhile fun piece => piece.length < maxScanTokenSize).map dropCR

structure Packages where
  address : String → List UInt8
  encodeSubject : String → List UInt8

def header (packages : Packages) (sender : String) (message : Message) : List UInt8 :=
  utf8 "From: " ++ packages.address sender ++ crlf
    ++ utf8 "To: " ++ packages.address message.recipient ++ crlf
    ++ utf8 "Subject: " ++ packages.encodeSubject message.subject ++ crlf
    ++ utf8 "MIME-Version: 1.0" ++ crlf
    ++ utf8 "Content-Type: text/plain; charset=UTF-8" ++ crlf ++ crlf

def encodeBody (text : List UInt8) : List UInt8 := (scanLines text).flatMap (· ++ crlf)

def encodeMessage (packages : Packages) (sender : String) (message : Message) : List UInt8 :=
  header packages sender message ++ encodeBody (utf8 message.body)

end DbsMonitor.Mail
