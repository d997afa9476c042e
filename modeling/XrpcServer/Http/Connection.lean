import XrpcServer.Stream.ReadUntil
import XrpcServer.Text.Bytes
import Mathlib.Logic.Relation

/-!
# One HTTP connection

The members of `xrpc_connection` that decide what is answered, its member functions and the
completion handlers of its asynchronous operations. A read completes once the buffer contains
its delimiter and otherwise receives the next segment; a write completes at any later time.
Completions run one after another, in any order the operations permit.

`parse_method` has no return statement on its own path, so the value `do_read` tests is
arbitrary: it is a parameter of `doRead`.
-/

namespace XrpcServer.Http

open XrpcServer.Text XrpcServer.Stream

/-- The three `async_read_until` operations. -/
inductive Reading where
  | method
  | head
  | body
deriving DecidableEq

/-- The delimiter each of them waits for. -/
def Reading.delimiter : Reading → Bytes
  | .method => str " "
  | .head => str "\r\n\r\n"
  | .body => str "\x7d"

/-- The responses a connection can start. -/
inductive Response where
  | options
  | forbidden
  | answer (rsp : Bytes)
deriving DecidableEq

/-- What is written to `m_response` for each of them. -/
def Response.text : Response → Bytes
  | .options => str "HTTP/1.1 200 OK\r\n" ++ str "Access-Control-Allow-Origin:*\r\n" ++
      str "Access-Control-Request-Method:POST\r\n" ++
      str "Access-Control-Allow-Headers:Origin,X-Requested-With,Content-Type,Accept\r\n" ++
      str "Access-Control-Request-Headers:Content-type\r\n"
  | .forbidden => str "HTTP/1.0 403 Forbidden\r\n"
  | .answer rsp =>
    if rsp = [] then str "HTTP/1.1 201 Error\r\n"
    else str "HTTP/1.1 200 OK\r\n" ++ str "Access-Control-Allow-Origin: *\r\n" ++
      str "Content-Type: " ++ str "application/json" ++ str "\r\n" ++
      str "Content-Length: " ++ decimalText rsp.length ++ str "\r\n" ++ str "\r\n" ++ rsp ++ str "\r\n"

/-- The state of a connection. -/
structure Connection where
  /-- `m_request`: received and not consumed. -/
  request : Bytes
  /-- Segments not received yet. -/
  socket : List Bytes
  /-- The outstanding read. -/
  reading : Option Reading
  /-- Everything put into `m_response` so far. -/
  response : Bytes
  /-- Outstanding writes. -/
  writing : ℕ
  /-- Responses started so far. -/
  started : List Response
  /-- Strings the handler was constructed from so far. -/
  handled : List Bytes

/-- A connection that was just accepted. -/
def Connection.accepted (segments : List Bytes) : Connection where
  request := []
  socket := segments
  reading := none
  response := []
  writing := 0
  started := []
  handled := []

/-- Fill `m_response` and call `async_write`. -/
def asyncWrite (response : Response) (c : Connection) : Connection :=
  { c with
    response := c.response ++ response.text
    started := c.started ++ [response]
    writing := c.writing + 1 }

/-- Call `async_read_until`. -/
def asyncReadUntil (stage : Reading) (c : Connection) : Connection := { c with reading := some stage }

/-- `xrpc_connection::on_options`. -/
def onOptions : Connection → Connection := asyncWrite .options

/-- `xrpc_connection::on_error`. -/
def onError : Connection → Connection := asyncWrite .forbidden

/-- `xrpc_connection::do_write`. -/
def doWrite (rsp : Bytes) : Connection → Connection := asyncWrite (.answer rsp)

/-- `xrpc_connection::do_read_http_body`. -/
def doReadHttpBody : Connection → Connection := asyncReadUntil .body

/-- `xrpc_connection::on_post`. -/
def onPost : Connection → Connection := asyncReadUntil .head

/-- `xrpc_connection::parse_method`, without the value it does not return. -/
def parseMethod : Connection → Connection := asyncReadUntil .method

/-- `xrpc_connection::do_read`, given the value found in place of the missing one. -/
def doRead (parsed : Bool) (c : Connection) : Connection :=
  let c := parseMethod c
  if parsed = false then c else onError c

/-- The completion of the read in `parse_method`; what it returns is discarded. -/
def methodRead (bytesTransferred : ℕ) (c : Connection) : Connection :=
  let method := c.request.take (bytesTransferred - 1)
  if method ≠ [] then
    if method = str "OPTIONS" then onOptions c
    else if method = str "POST" then onPost c
    else c
  else c

/-- The completion of the read in `on_post`: only the head is consumed. -/
def headRead (bytesTransferred : ℕ) (c : Connection) : Connection :=
  doReadHttpBody { c with request := c.request.drop bytesTransferred }

/-- The completion of the read in `do_read_http_body`: the handler is given everything buffered.
It answers nothing when an exception leaves it. -/
def bodyRead (answer : Bytes → Option Bytes) (c : Connection) : Connection :=
  let c := { c with handled := c.handled ++ [c.request] }
  match answer c.request with
  | some rsp => doWrite rsp c
  | none => c

/-- The completion handler of each read. -/
def readCompleted (answer : Bytes → Option Bytes) (bytesTransferred : ℕ) :
    Reading → Connection → Connection
  | .method => methodRead bytesTransferred
  | .head => headRead bytesTransferred
  | .body => bodyRead answer

/-- One event on a connection. -/
inductive Step (answer : Bytes → Option Bytes) : Connection → Connection → Prop
  /-- A read that is not satisfied receives the next segment. -/
  | receive {c : Connection} {stage : Reading} {segment : Bytes} {rest : List Bytes}
    (hreading : c.reading = some stage) (hwaits : firstEnd stage.delimiter c.request = none)
    (hsocket : c.socket = segment :: rest) :
    Step answer c { c with request := c.request ++ segment, socket := rest }
  /-- A satisfied read completes. -/
  | readDone {c : Connection} {stage : Reading} {n : ℕ} (hreading : c.reading = some stage)
    (hfound : firstEnd stage.delimiter c.request = some n) :
    Step answer c (readCompleted answer n stage { c with reading := none })
  /-- A read that cannot be satisfied any more completes with an error, which is only logged. -/
  | readFailed {c : Connection} {stage : Reading} (hreading : c.reading = some stage)
    (hwaits : firstEnd stage.delimiter c.request = none) (hsocket : c.socket = []) :
    Step answer c { c with reading := none }
  /-- A write completes; its handler does nothing. -/
  | writeDone {c : Connection} (hwriting : 0 < c.writing) :
    Step answer c { c with writing := c.writing - 1 }

/-- States reached on a connection over which these segments arrive. -/
def Reached (answer : Bytes → Option Bytes) (parsed : Bool) (segments : List Bytes)
    (c : Connection) : Prop :=
  Relation.ReflTransGen (Step answer) (doRead parsed (.accepted segments)) c

/-- No event is left. -/
def Finished (answer : Bytes → Option Bytes) (c : Connection) : Prop := ∀ c', ¬Step answer c c'

end XrpcServer.Http
