import RingServer.Net.RecvLine
import RingServer.Protocols.SeedLinkProtocol

set_option autoImplicit false

namespace RingServer.Http

open Library Net

-- What is under a path of the web root; outside of it nothing is served.
inductive WebFile where
  | outside
  | missing
  | unreadable
  | file (contentType : Text) (data : List UInt8)

-- StartsWith and IndexOf of a string in the culture of the process, the file of a path,
-- where none is an exception, and the page around the streams of the ring.
structure Surroundings where
  startsWith : Text → Text → Bool
  indexOf : Text → Text → Option Nat
  webRoot : Option Text
  lookUp : Text → Text → Option WebFile
  infoPage : RingParams → List RingStream → List UInt8
  httpHeaders : List Text
  newLine : Text

structure Response where
  status : Text
  contentType : Text
  headers : List Text
  body : List UInt8
deriving DecidableEq

def crlf : Text := ['\r', '\n']

def Response.headerText (response : Response) : Text :=
  "HTTP/1.1 ".toList ++ (response.status ++ (crlf ++ ("Content-Type: ".toList ++ (response.contentType ++ (crlf ++
    ("Content-Length: ".toList ++ (decimal response.body.length ++ (crlf ++ (response.headers.flatMap (· ++ crlf) ++
      ("Connection: close".toList ++ (crlf ++ crlf)))))))))))

def Response.sends (response : Response) : List (List UInt8) :=
  encodeASCII response.headerText :: if response.body.isEmpty then [] else [response.body]

def sendHttpError (code : Nat) (message : Text) : Response where
  status := decimal code ++ ' ' :: message
  contentType := "text/html".toList
  headers := []
  body := encodeASCII ("<html><body><h1>".toList ++ (decimal code ++ ' ' :: (message ++ "</h1></body></html>".toList)))

-- What a request leaves when the sends succeed: the ring, the responses, and the packets
-- that were handed to Write.
structure Outcome where
  ring : RingParams
  sent : List Response
  written : List RingPacket

section

variable (web : Surroundings)

def sendHttpResponse (body : List UInt8) (contentType : Text) : Response := ⟨"200 OK".toList, contentType, web.httpHeaders, body⟩

def serveRingInfo (ring : RingParams) (reader : RingReader) : Option Response :=
  (RingBuffer.getStreamsStack ring (some reader)).map fun streams =>
    sendHttpResponse web (web.infoPage ring streams.reverse) "text/html".toList

def serveStreamList (ring : RingParams) (reader : RingReader) : Option Response :=
  (RingBuffer.getStreamsStack ring (some reader)).map fun streams =>
    sendHttpResponse web (encodeASCII (streams.reverse.flatMap fun stream => stream.streamId ++ web.newLine)) "text/plain".toList

def serveStaticFile (path : Text) : Option Response :=
  (web.lookUp (web.webRoot.getD ['.']) (path.dropWhile (· = '/'))).map fun found =>
    match found with
    | .outside => sendHttpError 403 "Forbidden".toList
    | .missing => sendHttpError 404 "Not Found".toList
    | .unreadable => sendHttpError 500 "Internal Server Error".toList
    | .file contentType data => sendHttpResponse web data contentType

def handleGet (ring : RingParams) (reader : RingReader) (path : Text) : Option Response :=
  if path = "/".toList ∨ path = "/index.html".toList then
    if (web.webRoot.getD []).isEmpty then serveRingInfo web ring reader else serveStaticFile web path
  else if web.startsWith path "/info".toList then serveRingInfo web ring reader
  else if web.startsWith path "/streams".toList then serveStreamList web ring reader
  else serveStaticFile web path

def bodyOf (request : Text) : Option Text :=
  ((web.indexOf request ['\n', '\n']).or (web.indexOf request ['\r', '\n', '\r', '\n'])).map fun start =>
    let bodyStart := start + 1 + (request.drop (start + 1)).idxOf '\n'
    trim (request.drop bodyStart)

-- The clock is read for the two ends of the data and in Write.
def handlePost (clock : Nat → NsTime) (ring : RingParams) (path request : Text) : Option Outcome :=
  if path = "/data".toList ∨ path = "/dl".toList then
    match bodyOf web request with
    | none => some ⟨ring, [], []⟩
    | some body =>
        let accepted := sendHttpResponse web (encodeASCII "OK".toList) "text/plain".toList
        if body.isEmpty then some ⟨ring, [accepted], []⟩
        else
          let packet := { DataLink.newPacket with
            streamId := "HTTP".toList
            pktId := Constants.ringIdNone
            dataStart := clock 0
            dataEnd := clock 1
            dataSize := UInt32.ofNat body.length }
          (RingBuffer.write (clock 2) ring packet (encodeASCII body) (UInt32.ofNat body.length)).map fun written =>
            ⟨written.2.1, [accepted], [packet]⟩
  else some ⟨ring, [sendHttpError 404 "Not Found".toList], []⟩

def requestLines (request : Text) : List Text := pieces (fun c => c = '\n') request

def requestLine (request : Text) : List Text := splitWords (trim ((requestLines request).headD []))

def Outcome.only (ring : RingParams) (response : Response) : Outcome := ⟨ring, [response], []⟩

-- HandleRequest on the bytes in the receive buffer; none is an exception.
def handleRequest (clock : Nat → NsTime) (ring : RingParams) (reader : RingReader) (recvBuffer : List UInt8) : Option Outcome :=
  let request := decodeASCII recvBuffer
  if (requestLines request).isEmpty then some ⟨ring, [], []⟩
  else match requestLine request with
    | method :: path :: _ =>
        if toUpperInvariant method = "GET".toList then (handleGet web ring reader path).map (.only ring)
        else if toUpperInvariant method = "POST".toList then handlePost web clock ring path request
        else some (.only ring (sendHttpError 405 "Method Not Allowed".toList))
    | _ => some (.only ring (sendHttpError 400 "Bad Request".toList))

def Submits (parts : List Text) : Prop :=
  ∃ method path behind, parts = method :: path :: behind ∧ toUpperInvariant method = "POST".toList ∧
    (path = "/data".toList ∨ path = "/dl".toList)

def chosen (ring : RingParams) (reader : RingReader) (parts : List Text) : Option Response :=
  match parts with
  | method :: path :: _ =>
      if toUpperInvariant method = "GET".toList then handleGet web ring reader path
      else if toUpperInvariant method = "POST".toList then
        if path = "/data".toList ∨ path = "/dl".toList then
          some (sendHttpResponse web (encodeASCII "OK".toList) "text/plain".toList)
        else some (sendHttpError 404 "Not Found".toList)
      else some (sendHttpError 405 "Method Not Allowed".toList)
  | _ => some (sendHttpError 400 "Bad Request".toList)

structure Serving where
  count : Nat
  ring : RingParams
  reader : RingReader
  sent : List Response
  written : List RingPacket

-- A line is handled with whatever the other clients have made of the ring before it. An
-- exception closes the session.
def answer (clock : Nat → Nat → NsTime) (between : Nat → RingParams → RingParams) (serving : Serving) (_ : Nat)
    (recvBuffer : List UInt8) : Serving × Bool :=
  let ring := between serving.count serving.ring
  match handleRequest web (clock serving.count) ring serving.reader recvBuffer with
  | none => ({ serving with count := serving.count + 1, ring := ring }, true)
  | some outcome =>
      ({ serving with
          count := serving.count + 1
          ring := outcome.ring
          sent := serving.sent ++ outcome.sent
          written := serving.written ++ outcome.written }, false)

end

end RingServer.Http
